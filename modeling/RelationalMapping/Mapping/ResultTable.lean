import RelationalMapping.Value.Basic

namespace RelationalMapping

structure ColumnLabel where
  position : Nat
  label : String
  deriving DecidableEq, Repr

abbrev Row := List Value

def Row.cell? (row : Row) : Nat → Option Value
  | 0 => none
  | index + 1 => row[index]?

structure ResultTable where
  labels : List String
  rows : List Row
  deriving Repr

def labelled (position : Nat) : List String → List ColumnLabel
  | [] => []
  | label :: rest => ⟨position, label⟩ :: labelled (position + 1) rest

def ResultTable.columns (t : ResultTable) : List ColumnLabel := labelled 1 t.labels

end RelationalMapping
