import RelationalMapping.Query.Basic
import RelationalMapping.Sql.Names

namespace RelationalMapping

inductive Piece where
  | text (s : String)
  | verbatim (s : String)
  | identifier (name : String)
  | literal (s : String)
  | bound (v : Value)
  | tableName (e : Entity)
  | columnName (c : Column)
  | marker (edge : Edge) (into : IntoField)
  | failure (e : Error)
  deriving Repr

def separated {α : Type} (separator : α) : List (List α) → List α
  | [] => []
  | [items] => items
  | items :: rest => items ++ separator :: separated separator rest

def listed (items : List (List Piece)) : List Piece := separated (.text ", ") items

def Table.qualifier (t : Table) : List Piece :=
  match t.alias? with
  | some name => [.identifier name]
  | none => [.tableName t.entity]

def Table.pieces (t : Table) : List Piece :=
  match t.alias? with
  | some name => [.tableName t.entity, .text " ", .identifier name]
  | none => [.tableName t.entity]

def columnNames (columns : List Column) : List Piece :=
  listed (columns.map fun c => [.columnName c])

end RelationalMapping
