import RelationalMapping.Sql.Slot

namespace RelationalMapping

def Expr.chunks (e : Expr) : Naming (List Chunk) := resolve e.pieces

def Query.chunks (q : Query) : Naming (List Chunk) := resolve q.pieces

def conditionPieces (condition : Option Expr) : List Piece := clause " WHERE " (optionalPieces condition)

def returningPieces (columns : Option (List (List Piece))) : List Piece :=
  clause " RETURNING " (columns.map listed)

def Delete.pieces (d : Delete) : List Piece :=
  .text "DELETE FROM " :: d.table.pieces ++ conditionPieces d.condition

def Delete.chunks (d : Delete) : Naming (List Chunk) := resolve d.pieces

def unnamedAlias : String := "autogenerated_alias"

def UpdateSource.pieces : UpdateSource → List Piece
  | .none => []
  | .tables ts => .text " FROM " :: listed (ts.map fun t => [.tableName t.entity])
  | .aliased ts => .text " FROM " :: listed (ts.map (·.pieces))
  | .query q name => .text " FROM " :: enclosed q.pieces ++ [.text " ", .identifier name]
  | .unnamed q => .text " FROM " :: enclosed q.pieces ++ [.text " ", .identifier unnamedAlias]

def IntoField.returningPieces (into : IntoField) : List (List Piece) :=
  [[.marker .start into], [.tableName into.target, .text ".*"], [.marker .stop into]]

def Update.returningColumns (u : Update) : Option (List (List Piece)) :=
  u.returning.map fun projections =>
    projectionPieces projections ++ u.into.flatMap (·.returningPieces)

def Assignment.chunks (a : Assignment) : Naming (List Chunk) := do
  let value ← a.expr.chunks
  let column ← resolve [.columnName a.column]
  return column ++ .text " = " :: value

def Update.chunks (u : Update) : Naming (List Chunk) := do
  if u.assignments.isEmpty then throw (.statement .updateWithoutFields)
  let assignments ← u.assignments.mapM (·.chunks)
  let table ← resolve u.table.pieces
  let rest ← resolve
    (u.source.pieces ++ conditionPieces u.condition ++ returningPieces u.returningColumns)
  return .text "UPDATE " :: table ++ .text " SET " :: separated (.text ", ") assignments ++ rest

def slotRow (table : String) (fields : List InsertField) (row : Nat) : String :=
  "(" ++ ", ".intercalate (fields.map fun f => slotText table row f.property) ++ ")"

def InsertSource.pieces (table : String) (fields : List InsertField) : InsertSource → List Piece
  | .rows [] => [.failure (.statement .insertWithoutRows)]
  | .rows items =>
    [.text (" VALUES " ++ ", ".intercalate ((List.range items.length).map (slotRow table fields)))]
  | .select q => .text " " :: enclosed q.pieces

def InsertSource.items : InsertSource → List Instance
  | .rows items => items
  | .select _ => []

def ConflictAction.pieces : ConflictAction → List Piece
  | .nothing => [.text "DO NOTHING"]
  | .update [] => [.failure (.statement .conflictWithoutColumns)]
  | .update columns =>
    .text "DO UPDATE SET " ::
      listed (columns.map fun c => [.columnName c, .text " = EXCLUDED.", .columnName c])

def Conflict.pieces (c : Conflict) : List Piece :=
  Piece.text " ON CONFLICT " ::
    (if c.targets.isEmpty then [] else enclosed (columnNames c.targets) ++ [Piece.text " "])
    ++ c.action.pieces

def Insert.tailPieces (i : Insert) : List Piece :=
  (match i.conflict with
    | some c => c.pieces
    | none => [])
    ++ returningPieces (i.returning.map projectionPieces)

def Insert.chunks (i : Insert) (table : String) : Naming (List Chunk) := do
  let columns ← resolve (columnNames (i.fields.map (·.column)))
  let source ← resolve (i.source.pieces table i.fields)
  let target ← resolve i.table.pieces
  let tail ← resolve i.tailPieces
  return .text "INSERT INTO " :: target ++ .text " (" :: columns ++ .text ")" :: source ++ tail

def Expr.write (e : Expr) : Naming Fragment := return .ofChunks (← e.chunks)

def Query.write (q : Query) : Naming Fragment := return .ofChunks (← q.chunks)

def Update.write (u : Update) : Naming Fragment := return .ofChunks (← u.chunks)

def Delete.write (d : Delete) : Naming Fragment := return .ofChunks (← d.chunks)

def Insert.write (i : Insert) : Naming InsertStatement := do
  let table ← Naming.table i.table.entity
  let fragment := Fragment.ofChunks (← i.chunks table)
  return { sql := fragment.sql, table, mark := parameterMark, rows := i.source.items
           values := fragment.values }

end RelationalMapping
