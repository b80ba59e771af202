import RelationalMapping.Query.Select

namespace RelationalMapping

namespace Table

def update (t : Table) : Update :=
  { table := t, assignments := [], source := .none, condition := none, into := [], returning := none }

def delete (t : Table) (condition : Option Expr) : Delete := ⟨t, condition⟩

def insertField (t : Table) (property : String) : InsertField := ⟨t.column property, property⟩

def insertFields (t : Table) : List InsertField :=
  (t.entity.properties.filter (!·.transient)).map fun p => t.insertField p.name

def insert (t : Table) (fields : List InsertField) (source : InsertSource) : Insert :=
  { table := t, fields, source, conflict := none, returning := none }

end Table

def addReturning (returning : Option (List Projection)) (projections : List Projection) :
    Option (List Projection) :=
  some (returning.getD [] ++ projections)

namespace Update

def set (u : Update) (column : Column) (e : Expr) : Update :=
  { u with assignments := u.assignments ++ [⟨column, e⟩] }

def setIfSome (u : Update) (column : Column) : Option Expr → Update
  | some e => u.set column e
  | none => u

def readFrom (u : Update) (source : UpdateSource) : Update := { u with source }

def filter (u : Update) (condition : Option Expr) : Update := { u with condition }

def alsoReturning (u : Update) (projections : List Projection) : Update :=
  { u with returning := addReturning u.returning projections }

def returningAll (u : Update) : Update := u.alsoReturning [(Expr.all none).project]

def returningInto (u : Update) (column : Column) (target : Entity) : Update :=
  { u with into := u.into ++ [{ target, column }], returning := addReturning u.returning [] }

end Update

namespace Insert

def onConflict (i : Insert) (targets : List Column) (action : ConflictAction) : Insert :=
  { i with conflict := some ⟨targets, action⟩ }

def alsoReturning (i : Insert) (projections : List Projection) : Insert :=
  { i with returning := addReturning i.returning projections }

end Insert

end RelationalMapping
