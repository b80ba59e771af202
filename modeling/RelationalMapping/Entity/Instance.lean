import RelationalMapping.Entity.Basic
import RelationalMapping.Value.Encoding

namespace RelationalMapping

mutual

inductive Instance where
  | record (instanceType : String) (fields : List (String × Content))
  | variant (instanceType : String) (name : String)
  deriving Repr

inductive Content where
  | value (v : Value)
  | joined (found : Option Instance)
  deriving Repr

end

def HeldType.initial : HeldType → Content
  | .column t => .value t.initial
  | .joined _ => .joined none

def Instance.instanceType : Instance → String
  | .record type _ => type
  | .variant type _ => type

def setField (name : String) (content : Content) : List (String × Content) → List (String × Content)
  | [] => [(name, content)]
  | (n, c) :: rest => if n = name then (n, content) :: rest else (n, c) :: setField name content rest

namespace Instance

def field? (i : Instance) (name : String) : Option Content :=
  match i with
  | .record _ fields => fields.lookup name
  | .variant .. => none

def property? (i : Instance) (name : String) : Option Value :=
  match i.field? name with
  | some (.value v) => some v
  | _ => none

end Instance

def Blueprint.storedValue? (b : Blueprint) (i : Instance) (name : String) : Option Value :=
  if (b.property? name).any (·.transient) then none else i.property? name

inductive Argument where
  | value (v : Value)
  | object (type : HeldType) (content : Content)
  deriving Repr

namespace Argument

def decode (t : FieldType) : Argument → Except Error Value
  | .value v => t.hold v
  | .object .. => .error (.mismatch t.fullName .joinedObject)

def takeObject (t : HeldType) : Argument → Except Error Content
  | .object type content =>
    if type = t then .ok content else .error (.mismatch t.fullName .otherJoinedObject)
  | .value .null => .ok t.initial
  | .value v => .error (mismatch t.fullName v)

def content (transient : Bool) (t : HeldType) (a : Argument) : Except Error Content :=
  match transient, t with
  | false, .column t => (a.decode t).map .value
  | _, t => a.takeObject t

end Argument

structure Arguments where
  entity : String
  entries : List (String × Argument)
  deriving Repr

namespace Arguments

def empty (entity : String) : Arguments := ⟨entity, []⟩

def insert (args : Arguments) (name : String) (a : Argument) : Arguments :=
  { args with entries := (args.entries.filter (·.1 != name)) ++ [(name, a)] }

def contains (args : Arguments) (name : String) : Bool := args.entries.any (·.1 == name)

def size (args : Arguments) : Nat := args.entries.length

def isEmpty (args : Arguments) : Bool := args.entries.isEmpty

def remove (args : Arguments) (name : String) : Option Argument × Arguments :=
  (args.entries.lookup name, { args with entries := args.entries.filter (·.1 != name) })

def take (args : Arguments) (name : String) (t : FieldType) : Except Error Value × Arguments :=
  let (found, rest) := args.remove name
  (match found with
    | some a => a.decode t
    | none => .error (.mapping args.entity (.missingParameter name)), rest)

def takeOrInitial (args : Arguments) (name : String) (t : FieldType) : Except Error Value × Arguments :=
  let (found, rest) := args.remove name
  (match found with
    | some a => a.decode t
    | none => .ok t.initial, rest)

def takeJoined (args : Arguments) (name : String) (t : HeldType) : Except Error Content × Arguments :=
  let (found, rest) := args.remove name
  (match found with
    | some a => a.takeObject t
    | none => .ok t.initial, rest)

def takeParameter (args : Arguments) (p : Parameter) : Except Error Content × Arguments :=
  match p.transient, p.holds with
  | false, .column t =>
    let (value, rest) := if p.optional then args.takeOrInitial p.name t else args.take p.name t
    (value.map .value, rest)
  | _, t => args.takeJoined p.name t

end Arguments

end RelationalMapping
