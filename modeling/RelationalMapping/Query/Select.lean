import RelationalMapping.Query.Expression

namespace RelationalMapping

namespace Expr

def project (e : Expr) : Projection := ⟨e, none⟩

def projectAs (e : Expr) (name : String) : Projection := ⟨e, some name⟩

def asc (e : Expr) : OrderTerm := .expr e false none

def desc (e : Expr) : OrderTerm := .expr e true none

end Expr

def OrderTerm.nulls (place : NullsOrder) : OrderTerm → OrderTerm
  | .expr e descending _ => .expr e descending (some place)
  | .case branches => .case branches

namespace Aggregate

def of (function : String) (e : Expr) (arguments : List Value := []) : Aggregate :=
  ⟨function, e, arguments, none, false⟩

def countAll : Aggregate := .of "count" (.all none)

def countDistinct (c : Column) : Aggregate := .of "count" (.distinct c)

def clusterWithin (e : Expr) (radius : Binary64) : Aggregate :=
  .of "st_clusterwithin" e [.float radius]

def named (a : Aggregate) (name : String) : Aggregate := { a with alias? := some name }

def unnest (a : Aggregate) : Aggregate := { a with unnested := true }

end Aggregate

def Query.empty : Query :=
  { projections := [], aggregates := [], sources := [], condition := none, order := none, limit := none
    offset := none, grouped := false, distinct := false, random := false, distinctOn := none }

namespace Table

def select (t : Table) (projections : List Projection) : Query :=
  { Query.empty with projections, sources := [.table t] }

def query (t : Table) : Query := t.select []

def selectAggregates (t : Table) (aggregates : List Aggregate) : Query := { t.query with aggregates }

def projectAll (t : Table) : Projection := (Expr.all (some t)).project

def selectAll (t : Table) : Query := t.select [t.projectAll]

def selectOne (t : Table) : Query := t.select [(Expr.value (.int 1)).project]

def selectAllOf (t : Table) (wanted : Entity) : Query :=
  t.select ((t.entity.properties.filter fun p =>
      wanted.properties.any fun w => w.name == p.name && !w.transient).map
    fun p => (Expr.column (t.column p.name)).project)

def selectCount (t : Table) : Query := t.selectAggregates [.countAll]

def selectCountDistinct (t : Table) (property : String) (alias? : Option String) : Query :=
  t.selectAggregates [{ Aggregate.countDistinct (t.column property) with alias? }]

end Table

namespace Query

def filter (q : Query) (condition : Option Expr) : Query := { q with condition }

def unique (q : Query) : Query := { q with distinct := true }

def shuffled (q : Query) : Query := { q with random := true }

def groupBy (q : Query) (projections : List Projection) : Query := { q with projections, grouped := true }

def uniqueOn (q : Query) (keys : List Projection) : Query := { q with distinctOn := some keys }

def orderBy (q : Query) (terms : List OrderTerm) : Query := { q with order := some terms }

def atMost (q : Query) (limit : UInt64) : Query := { q with limit := some limit }

def skipping (q : Query) (offset : UInt64) : Query := { q with offset := some offset }

def page (q : Query) (number : UInt64) : Except Error Query :=
  match q.limit with
  | none => .error (.statement .pageWithoutLimit)
  | some limit =>
    if number.toNat * limit.toNat < UInt64.size then .ok (q.skipping (number * limit))
    else .error (.statement .pageOverflow)

def addSource (q : Query) (item : FromItem) : Query := { q with sources := q.sources ++ [item] }

def addJoin (q : Query) (kind : JoinKind) (j : Join) : Query := q.addSource (.join { j with kind })

def toJoin (q : Query) : Join :=
  { query := q, kind := .inner, into := none, condition := none, shared := none, alias? := none }

end Query

namespace Join

def on (j : Join) (condition : Expr) : Join := { j with condition := some condition }

def sharing (j : Join) (columns : List Column) : Join := { j with shared := some columns }

def under (j : Join) (name : String) : Join := { j with alias? := some name }

def intoField (j : Join) (column : Column) (target : Entity) : Join :=
  { j with into := some { target, column } }

end Join

namespace Query

def on (q : Query) (condition : Expr) : Join := q.toJoin.on condition

def onAlias (q : Query) (condition : Expr) (name : String) : Join := (q.on condition).under name

def sharing (q : Query) (columns : List Column) : Join := q.toJoin.sharing columns

def intoField (q : Query) (column : Column) (target : Entity) : Join := q.toJoin.intoField column target

end Query

end RelationalMapping
