import RelationalMapping.Entity.Instance

namespace RelationalMapping

structure Table where
  entity : Entity
  alias? : Option String := none
  deriving Repr

structure Column where
  table : Table
  property : String
  deriving Repr

structure IntoField where
  target : Entity
  column : Column
  deriving Repr

inductive ArithmeticOp where
  | plus
  | minus
  | times
  | div
  | mod
  | pow
  deriving DecidableEq, Repr

inductive DateOp where
  | plusInterval
  | minusInterval
  deriving DecidableEq, Repr

inductive ComparisonOp where
  | eq
  | ne
  | gt
  | gte
  | lt
  | lte
  deriving DecidableEq, Repr

inductive ArrayOp where
  | contains
  | containedBy
  | overlaps
  deriving DecidableEq, Repr

inductive JsonOp where
  | get
  | getAsText
  deriving DecidableEq, Repr

inductive PatternOp where
  | like
  | ilike
  | similar
  deriving DecidableEq, Repr

inductive TruthTest where
  | null
  | true
  | false
  deriving DecidableEq, Repr

inductive BinaryOp where
  | arithmetic (op : ArithmeticOp)
  | date (op : DateOp)
  | scaleInterval
  | comparison (op : ComparisonOp)
  | array (op : ArrayOp)
  | pattern (op : PatternOp) (negated : Bool)
  | json (op : JsonOp)
  | concatJson
  deriving DecidableEq, Repr

inductive Connective where
  | and
  | or
  deriving DecidableEq, Repr

inductive Adapter where
  | notNull
  | nullable
  deriving DecidableEq, Repr

inductive JoinKind where
  | inner
  | left
  | right
  | full
  deriving DecidableEq, Repr

inductive NullsOrder where
  | first
  | last
  deriving DecidableEq, Repr

mutual

inductive Expr where
  | all (table : Option Table)
  | column (c : Column)
  | distinct (c : Column)
  | value (v : Value)
  | array (elementType : String) (items : List Value)
  | binary (op : BinaryOp) (left right : Expr)
  | connective (op : Connective) (items : List Expr)
  | not (e : Expr)
  | empty (e : Expr) (negated : Bool)
  | is (e : Expr) (test : TruthTest) (negated : Bool)
  | member (e : Expr) (candidates : List Expr) (negated : Bool)
  | call (function : String) (args : List Expr)
  | typedLiteral (typeName text : String)
  | cast (e : Expr) (typeName : String)
  | exists (query : Query) (alias? : Option String) (negated : Bool)
  | atTimeZone (time zone : Expr)
  | jsonObject (entries : List JsonEntry)
  | case (branches : List Branch) (fallback : Option Expr)
  | aliasName (name : String)
  | tableName (table : Table)
  | adapted (adapter : Adapter) (e : Expr)

structure JsonEntry where
  key : String
  value : Expr

structure Branch where
  condition : Expr
  result : Expr

structure Projection where
  expr : Expr
  alias? : Option String

structure Aggregate where
  function : String
  expr : Expr
  arguments : List Value
  alias? : Option String
  unnested : Bool

inductive OrderTerm where
  | expr (e : Expr) (descending : Bool) (nulls : Option NullsOrder)
  | case (branches : List Branch)

structure Join where
  query : Query
  kind : JoinKind
  into : Option IntoField
  condition : Option Expr
  shared : Option (List Column)
  alias? : Option String

inductive FromItem where
  | table (t : Table)
  | join (j : Join)
  | query (q : Query) (alias? : Option String)

structure Query where
  projections : List Projection
  aggregates : List Aggregate
  sources : List FromItem
  condition : Option Expr
  order : Option (List OrderTerm)
  limit : Option UInt64
  offset : Option UInt64
  grouped : Bool
  distinct : Bool
  random : Bool
  distinctOn : Option (List Projection)

end

def Query.intoJoins (q : Query) : List (Join × IntoField) :=
  q.sources.filterMap fun
    | .join j => j.into.map (j, ·)
    | _ => none

structure Assignment where
  column : Column
  expr : Expr

inductive UpdateSource where
  | none
  | tables (ts : List Table)
  | aliased (ts : List Table)
  | query (q : Query) (name : String)
  | unnamed (q : Query)

structure Update where
  table : Table
  assignments : List Assignment
  source : UpdateSource
  condition : Option Expr
  into : List IntoField
  returning : Option (List Projection)

structure Delete where
  table : Table
  condition : Option Expr

structure InsertField where
  column : Column
  property : String

inductive InsertSource where
  | rows (items : List Instance)
  | select (q : Query)

inductive ConflictAction where
  | nothing
  | update (columns : List Column)

structure Conflict where
  targets : List Column
  action : ConflictAction

structure Insert where
  table : Table
  fields : List InsertField
  source : InsertSource
  conflict : Option Conflict
  returning : Option (List Projection)

end RelationalMapping
