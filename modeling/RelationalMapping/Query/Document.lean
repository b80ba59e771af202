import RelationalMapping.Json.Access
import RelationalMapping.Query.Basic
import RelationalMapping.Value.Document

namespace RelationalMapping

def ArithmeticOp.name : ArithmeticOp → String
  | .plus => "Plus"
  | .minus => "Minus"
  | .times => "Times"
  | .div => "Div"
  | .mod => "Mod"
  | .pow => "Pow"

def DateOp.name : DateOp → String
  | .plusInterval => "PlusInterval"
  | .minusInterval => "MinusInterval"

def ComparisonOp.name : ComparisonOp → String
  | .eq => "Eq"
  | .ne => "Ne"
  | .gt => "Gt"
  | .gte => "Gte"
  | .lt => "Lt"
  | .lte => "Lte"

def ArrayOp.name : ArrayOp → String
  | .contains => "Contains"
  | .containedBy => "ContainedBy"
  | .overlaps => "Overlaps"

def JsonOp.name : JsonOp → String
  | .get => "Get"
  | .getAsText => "GetAsText"

def PatternOp.name : PatternOp → String
  | .like => "Like"
  | .ilike => "ILike"
  | .similar => "Similar"

def TruthTest.name : TruthTest → String
  | .null => "Null"
  | .true => "True"
  | .false => "False"

def JoinKind.name : JoinKind → String
  | .inner => "Inner"
  | .left => "Left"
  | .right => "Right"
  | .full => "Full"

def NullsOrder.name : NullsOrder → String
  | .first => "First"
  | .last => "Last"

namespace BinaryOp

def family : BinaryOp → String
  | .arithmetic _ => "Arithmetic"
  | .date _ => "DateArithmetic"
  | .scaleInterval => "ScaleInterval"
  | .comparison _ => "Comparison"
  | .array _ => "ArrayComparison"
  | .pattern .. => "Pattern"
  | .json _ => "JsonAccess"
  | .concatJson => "ConcatJsonb"

def name? : BinaryOp → Option String
  | .arithmetic op => some op.name
  | .date op => some op.name
  | .comparison op => some op.name
  | .array op => some op.name
  | .pattern op _ => some op.name
  | .json op => some op.name
  | .scaleInterval | .concatJson => none

def negates? : BinaryOp → Option Bool
  | .pattern _ negated => some negated
  | _ => none

def operandNames : BinaryOp → String × String
  | .scaleInterval => ("interval", "scale")
  | .pattern .. => ("expr", "pattern")
  | _ => ("left", "right")

def every : List BinaryOp :=
  ([.plus, .minus, .times, .div, .mod, .pow] : List ArithmeticOp).map BinaryOp.arithmetic
    ++ ([.plusInterval, .minusInterval] : List DateOp).map BinaryOp.date
    ++ ([.eq, .ne, .gt, .gte, .lt, .lte] : List ComparisonOp).map BinaryOp.comparison
    ++ ([.contains, .containedBy, .overlaps] : List ArrayOp).map BinaryOp.array
    ++ ([.like, .ilike, .similar] : List PatternOp).flatMap fun op => [BinaryOp.pattern op false, BinaryOp.pattern op true]
    ++ ([.get, .getAsText] : List JsonOp).map BinaryOp.json
    ++ [BinaryOp.scaleInterval, BinaryOp.concatJson]

def find? (family : String) (name : Option String) (negated : Bool) : Option BinaryOp :=
  every.find? fun op =>
    op.family == family && op.name? == name && op.negates?.getD negated == negated

end BinaryOp

def Connective.name : Connective → String
  | .and => "And"
  | .or => "Or"

def Adapter.name : Adapter → String
  | .notNull => "NotNull"
  | .nullable => "Nullable"

def documentOr {α : Type} (document : α → Json) : Option α → Json
  | some a => document a
  | none => .null

def numberDocument (n : UInt64) : Json := .integer n.toNat

def Table.document (t : Table) : Json :=
  .ofEntries [("entity", .string t.entity.simpleName), ("alias", .ofOption t.alias?)]

def Column.document (c : Column) : Json :=
  .ofEntries [("table", c.table.document), ("property", .string c.property)]

def IntoField.document (i : IntoField) : Json :=
  .ofEntries [("target", .string i.target.simpleName), ("column", i.column.document)]

def nodeDocument (name : String) (parts : List (String × Json)) : Json :=
  .ofEntries (("n", .string name) :: parts)

def BinaryOp.document (op : BinaryOp) (left right : Json) : Json :=
  nodeDocument op.family
    ((op.name?.map fun name => ("op", Json.string name)).toList
      ++ [(op.operandNames.1, left), (op.operandNames.2, right)]
      ++ (op.negates?.map fun negated => ("negated", Json.bool negated)).toList)

mutual

def Expr.document : Expr → Json
  | .all t => nodeDocument "All" [("table", documentOr Table.document t)]
  | .column c => nodeDocument "Column" [("col", c.document)]
  | .distinct c => nodeDocument "Distinct" [("col", c.document)]
  | .value v => nodeDocument "Value" [("value", v.document)]
  | .array elementType items =>
    nodeDocument "Array" [("type", .string elementType), ("items", .array (Value.documents items))]
  | .binary op left right => op.document left.document right.document
  | .connective op items => nodeDocument op.name [("items", .array (exprDocuments items))]
  | .not e => nodeDocument "Not" [("expr", e.document)]
  | .empty e negated => nodeDocument "Empty" [("expr", e.document), ("negated", .bool negated)]
  | .is e test negated =>
    nodeDocument "Is" [("expr", e.document), ("value", .string test.name), ("negated", .bool negated)]
  | .member e candidates negated =>
    nodeDocument "In" [("expr", e.document), ("candidates", .array (exprDocuments candidates)),
      ("negated", .bool negated)]
  | .call function args =>
    nodeDocument "Function" [("name", .string function), ("args", .array (exprDocuments args))]
  | .typedLiteral typeName text =>
    nodeDocument "Constructor" [("type_name", .string typeName), ("value", .string text)]
  | .cast e typeName => nodeDocument "Cast" [("expr", e.document), ("type_name", .string typeName)]
  | .exists query alias? negated =>
    nodeDocument "Exists" [("query", query.document), ("alias", .ofOption alias?),
      ("negated", .bool negated)]
  | .atTimeZone time zone =>
    nodeDocument "AtTimeZone" [("time", time.document), ("zone", zone.document)]
  | .jsonObject entries => nodeDocument "BuildJsonb" [("pairs", .array (entryDocuments entries))]
  | .case branches fallback =>
    nodeDocument "Case" [("branches", .array (branchDocuments branches)),
      ("fallback", optionDocument fallback)]
  | .aliasName name => nodeDocument "AliasLiteral" [("alias", .string name)]
  | .tableName t => nodeDocument "TableLiteral" [("table", t.document)]
  | .adapted adapter e => nodeDocument adapter.name [("expr", e.document)]

def exprDocuments : List Expr → List Json
  | [] => []
  | e :: rest => e.document :: exprDocuments rest

def optionDocument : Option Expr → Json
  | some e => e.document
  | none => .null

def entryDocuments : List JsonEntry → List Json
  | [] => []
  | ⟨key, e⟩ :: rest => .array [.string key, e.document] :: entryDocuments rest

def branchDocuments : List Branch → List Json
  | [] => []
  | ⟨condition, result⟩ :: rest =>
    .array [condition.document, result.document] :: branchDocuments rest

def projectionDocuments : List Projection → List Json
  | [] => []
  | ⟨e, alias?⟩ :: rest =>
    .ofEntries [("expr", e.document), ("alias", .ofOption alias?)] :: projectionDocuments rest

def keysDocument : Option (List Projection) → Json
  | some keys => .array (projectionDocuments keys)
  | none => .null

def aggregateDocuments : List Aggregate → List Json
  | [] => []
  | ⟨function, e, arguments, alias?, unnested⟩ :: rest =>
    .ofEntries [("name", .string function), ("expr", e.document),
      ("args", .array (Value.documents arguments)), ("alias", .ofOption alias?),
      ("unnested", .bool unnested)] :: aggregateDocuments rest

def OrderTerm.document : OrderTerm → Json
  | .expr e descending nulls =>
    .ofEntries [("expr", e.document), ("descending", .bool descending),
      ("nulls", documentOr (fun n => .string n.name) nulls)]
  | .case branches => .ofEntries [("case", .array (branchDocuments branches))]

def termDocuments : List OrderTerm → List Json
  | [] => []
  | t :: rest => t.document :: termDocuments rest

def orderDocument : Option (List OrderTerm) → Json
  | some terms => .array (termDocuments terms)
  | none => .null

def Join.document : Join → Json
  | ⟨query, kind, into, condition, shared, alias?⟩ =>
    .ofEntries [("query", query.document), ("kind", .string kind.name),
      ("into", documentOr IntoField.document into), ("on", optionDocument condition),
      ("using", documentOr (fun columns => .array (columns.map Column.document)) shared),
      ("alias", .ofOption alias?)]

def FromItem.document : FromItem → Json
  | .table t => .ofEntries [("table", t.document)]
  | .join j => .ofEntries [("join", j.document)]
  | .query q alias? =>
    .ofEntries [("sub_query", q.document), ("alias", .ofOption alias?)]

def sourceDocuments : List FromItem → List Json
  | [] => []
  | item :: rest => item.document :: sourceDocuments rest

def Query.document : Query → Json
  | ⟨projections, aggregates, sources, condition, order, limit, offset, grouped, distinct, random,
      distinctOn⟩ =>
    .ofEntries [("projections", .array (projectionDocuments projections)),
      ("aggregates", .array (aggregateDocuments aggregates)),
      ("from", .array (sourceDocuments sources)), ("where", optionDocument condition),
      ("order", orderDocument order), ("limit", documentOr numberDocument limit),
      ("offset", documentOr numberDocument offset), ("grouped", .bool grouped),
      ("distinct", .bool distinct), ("random", .bool random), ("distinct_on", keysDocument distinctOn)]

end

end RelationalMapping
