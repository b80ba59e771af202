import RelationalMapping.Entity.Instance

namespace RelationalMapping

namespace Blueprint

def takeParameters : List Parameter → List (String × Content) → Arguments →
    Except Error (List (String × Content) × Arguments)
  | [], fields, args => .ok (fields, args)
  | p :: rest, fields, args => do
    let (taken, args) := args.takeParameter p
    takeParameters rest (setField p.name (← taken) fields) args

def initialFields (properties : List Property) (fields : List (String × Content)) :
    List (String × Content) :=
  properties.foldl
    (fun fields p =>
      if (fields.lookup p.name).isSome then fields else fields ++ [(p.name, p.holds.initial)])
    fields

def construct (b : Blueprint) (args : Arguments) : Except Error (Instance × Arguments) :=
  match b.shape with
  | .enumeration _ => .error (.declaration (.notInstantiable b.simpleName))
  | .record => do
    let (fields, rest) ← takeParameters b.parameters [] args
    .ok (.record b.instanceType (initialFields b.properties fields), rest)

def enumeration? (b : Blueprint) : Option Enumeration :=
  match b.shape with
  | .record => none
  | .enumeration variants => some ⟨b.simpleName, b.instanceType, variants⟩

def ofColumn (b : Blueprint) (v : Value) : Except Error Instance :=
  match b.enumeration? with
  | none => .error (.declaration (.notEnumeration b.simpleName))
  | some e => (e.decode v).map fun variant => .variant b.instanceType (e.variants.get variant)

def assign (b : Blueprint) (i : Instance) (name : String) (a : Argument) : Except Error Instance :=
  match i with
  | .variant .. => .error (.mapping b.simpleName (.noMutableProperty name))
  | .record type fields =>
    match b.properties.find? (fun p => p.mutable && p.name == name) with
    | none => .error (.mapping b.simpleName (.noMutableProperty name))
    | some p => (a.content p.transient p.holds).map fun c => .record type (setField name c fields)

end Blueprint

namespace Entity

def instantiate (e : Entity) (args : Arguments) : Except Error (Instance × Arguments) :=
  (e.builder.getD e.toBlueprint).construct args

def assign (e : Entity) (i : Instance) (name : String) (a : Argument) : Except Error Instance :=
  if i.instanceType = e.instanceType then e.toBlueprint.assign i name a
  else .error (.mapping e.simpleName .unexpectedTarget)

def wrap (e : Entity) (i : Instance) : Except Error Argument :=
  if i.instanceType = e.instanceType then .ok (.object (.joined e.instanceType) (.joined (some i)))
  else .error (.mapping e.simpleName .unexpectedJoined)

def absent (e : Entity) : Argument := .object (.joined e.instanceType) (.joined none)

def build (e : Entity) (value? : String → Option Value) : Except Error Instance := do
  let args := e.parameters.foldl
    (fun args p => match value? p.name with
      | some v => args.insert p.name (.value v)
      | none => args)
    (Arguments.empty e.simpleName)
  let (i, _) ← e.construct args
  (e.properties.filter (·.mutable)).foldlM
    (fun i p => match value? p.name with
      | some v => e.assign i p.name (.value v)
      | none => .ok i)
    i

end Entity

end RelationalMapping
