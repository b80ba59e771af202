import RelationalMapping.Sql.Fragment
import RelationalMapping.Text.Start
import RelationalMapping.Text.Words

namespace RelationalMapping

def slotText (table : String) (row : Nat) (property : String) : String :=
  "#" ++ table ++ toString row ++ "." ++ property

structure Slot where
  row : List Char
  property : List Char
  deriving DecidableEq, Repr

def Slot.read? (table text : List Char) : Option Slot := do
  let text ← Text.afterStart? ('#' :: table) text
  let row := text.takeWhile Text.isDecimalDigit
  let text ← Text.afterStart? ['.'] (text.dropWhile Text.isDecimalDigit)
  let property := text.takeWhile Text.isWordCharacter
  if row.isEmpty || property.isEmpty then none else some ⟨row, property⟩

def Slot.length (table : List Char) (s : Slot) : Nat :=
  1 + table.length + s.row.length + 1 + s.property.length

inductive SlotToken where
  | char (c : Char)
  | slot (s : Slot)
  deriving DecidableEq, Repr

def slotTokens (table : List Char) : Nat → List Char → List SlotToken
  | _, [] => []
  | n + 1, _ :: rest => slotTokens table n rest
  | 0, c :: rest =>
    match Slot.read? table (c :: rest) with
    | some s => .slot s :: slotTokens table (s.length table - 1) rest
    | none => .char c :: slotTokens table 0 rest

def Slot.value (e : Entity) (rows : List Instance) (s : Slot) : Except Error Value :=
  match (Text.asciiNumber? s.row).bind (rows[·]?) with
  | none => .error (.declaration (.noRow (String.ofList s.row)))
  | some row => match e.storedValue? row (String.ofList s.property) with
    | none => .error (.declaration (.noProperty e.simpleName (String.ofList s.property)))
    | some v => .ok v

structure InsertStatement where
  sql : String
  table : String
  mark : String
  rows : List Instance
  values : List Value
  deriving Repr

def SlotToken.bind (e : Entity) (mark : String) (rows : List Instance) : SlotToken → Except Error Fragment
  | .char c => .ok ⟨c.toString, []⟩
  | .slot s => (s.value e rows).map fun v => ⟨mark, [v]⟩

namespace InsertStatement

def bind (s : InsertStatement) (e : Entity) : Except Error Fragment := do
  let tokens := slotTokens s.table.toList 0 s.sql.toList
  let parts ← tokens.mapM (·.bind e s.mark s.rows)
  .ok ((Fragment.join "" parts).push ⟨"", s.values⟩)

end InsertStatement

end RelationalMapping
