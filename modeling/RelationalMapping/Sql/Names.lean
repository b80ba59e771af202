import RelationalMapping.Query.Basic
import RelationalMapping.Text.Underscore

namespace RelationalMapping

def Entity.ownTableName (e : Entity) : Except Error String :=
  match e.tableName with
  | some name => .ok name
  | none =>
    if e.simpleName.isEmpty then .error (.declaration .unnamed) else .ok (Text.underscore e.simpleName)

def Column.ownName (c : Column) : String :=
  match (c.table.entity.parameter? c.property).bind (·.column) with
  | some name => name
  | none => match (c.table.entity.property? c.property).bind (·.column) with
    | some name => name
    | none => Text.underscore c.property

def Column.key (c : Column) : String := c.table.entity.typeName ++ "|" ++ c.property

inductive Edge where
  | start
  | stop
  deriving DecidableEq, Repr

def Edge.label : Edge → String
  | .start => "start"
  | .stop => "end"

structure Names where
  tables : List (String × String) := []
  columns : List (String × String) := []
  markers : List (String × String) := []
  deriving Repr

namespace Names

def table (names : Names) (e : Entity) : Except Error String × Names :=
  if e.typeName.isEmpty then (.error (.declaration .unnamed), names)
  else match names.tables.lookup e.typeName with
    | some name => (.ok name, names)
    | none => match e.ownTableName with
      | .ok name => (.ok name, { names with tables := (e.typeName, name) :: names.tables })
      | .error fault => (.error fault, names)

def column (names : Names) (c : Column) : String × Names :=
  match names.columns.lookup c.key with
  | some name => (name, names)
  | none => (c.ownName, { names with columns := (c.key, c.ownName) :: names.columns })

def marker (names : Names) (edge : Edge) (into : IntoField) : String × Names :=
  let key := edge.label ++ "|" ++ into.column.key
  match names.markers.lookup key with
  | some label => (label, names)
  | none =>
    let (name, names) := names.column into.column
    let label := edge.label ++ ":" ++ name
    (label, { names with markers := (key, label) :: names.markers })

end Names

end RelationalMapping
