import RelationalMapping.Sql.Piece
import RelationalMapping.Sql.TimeZone

namespace RelationalMapping

def ArithmeticOp.text : ArithmeticOp → String
  | .plus => "+"
  | .minus => "-"
  | .times => "*"
  | .div => "/"
  | .mod => "%"
  | .pow => "^"

def DateOp.text : DateOp → String
  | .plusInterval => "+"
  | .minusInterval => "-"

def ComparisonOp.text : ComparisonOp → String
  | .eq => "="
  | .ne => "!="
  | .gt => ">"
  | .gte => ">="
  | .lt => "<"
  | .lte => "<="

def ArrayOp.text : ArrayOp → String
  | .contains => "@>"
  | .containedBy => "<@"
  | .overlaps => "&&"

def JsonOp.text : JsonOp → String
  | .get => "->"
  | .getAsText => "->>"

def PatternOp.text : PatternOp → Bool → String
  | .like, false => "LIKE"
  | .like, true => "NOT LIKE"
  | .ilike, false => "ILIKE"
  | .ilike, true => "NOT ILIKE"
  | .similar, false => "~"
  | .similar, true => "!~"

def TruthTest.text : TruthTest → String
  | .null => "NULL"
  | .true => "TRUE"
  | .false => "FALSE"

def BinaryOp.text : BinaryOp → String
  | .arithmetic op => op.text
  | .date op => op.text
  | .scaleInterval => "*"
  | .comparison op => op.text
  | .array op => op.text
  | .pattern op negated => op.text negated
  | .json op => op.text
  | .concatJson => "||"

def BinaryOp.encloses : BinaryOp → Bool
  | .json _ | .concatJson => false
  | _ => true

def Connective.text : Connective → String
  | .and => "AND"
  | .or => "OR"

def Connective.unit : Connective → String
  | .and => "TRUE"
  | .or => "FALSE"

def JoinKind.text : JoinKind → String
  | .inner => "JOIN"
  | .left => "LEFT JOIN"
  | .right => "RIGHT JOIN"
  | .full => "FULL JOIN"

def NullsOrder.text : NullsOrder → String
  | .first => "FIRST"
  | .last => "LAST"

def enclosed (pieces : List Piece) : List Piece := .text "(" :: pieces ++ [.text ")"]

def operation (op : BinaryOp) (left right : List Piece) : List Piece :=
  let pieces := left ++ .text (" " ++ op.text ++ " ") :: right
  if op.encloses then enclosed pieces else pieces

def Value.piece : Value → Piece
  | .null => .text "NULL"
  | v => .bound v

def membership (e : List Piece) (candidates : List (List Piece)) (negated : Bool) : List Piece :=
  match candidates with
  | [] =>
    .text "(((" :: e ++ [.text (if negated then ") = NULL) IS NULL)" else ") = NULL) IS NOT NULL)")]
  | _ =>
    .text "(" :: e ++ .text (if negated then " NOT IN (" else " IN (") :: listed candidates
      ++ [.text "))"]

def aliasPieces : Option String → List Piece
  | some name => [.text " AS ", .verbatim name]
  | none => []

def queryAlias : Option String → List Piece
  | some name => [.text " ", .verbatim name]
  | none => []

def Expr.unadapted : Expr → Expr
  | .adapted _ e => e.unadapted
  | e => e

def zoneCheck (zone : Expr) : List Piece :=
  match zone.unadapted with
  | .value (.text name) => if isTimeZone name then [] else [.failure (.unknownZone name)]
  | _ => []

def soleTable? : List FromItem → Option Table
  | [.table t] => some t
  | _ => none

def markerPieces (edge : Edge) : Option IntoField → List (List Piece)
  | some into => [[.marker edge into]]
  | none => []

def countPieces (keyword : String) : Option UInt64 → List Piece
  | some n => [.text (keyword ++ toString n.toNat)]
  | none => []

def clause (keyword : String) : Option (List Piece) → List Piece
  | some pieces => .text keyword :: pieces
  | none => []

def distinctPieces (distinct : Bool) (keys : Option (List (List Piece))) : List Piece :=
  match distinct, keys with
  | true, _ => [.text "DISTINCT "]
  | false, some keys => .text "DISTINCT ON (" :: listed keys ++ [.text ") "]
  | false, none => []

def orderingPieces (random : Bool) (terms : Option (List (List Piece))) : List Piece :=
  match random, terms with
  | true, _ => [.text " ORDER BY RANDOM()"]
  | false, some terms => .text " ORDER BY " :: listed terms
  | false, none => []

def nullsPieces : Option NullsOrder → List Piece
  | some order => [.text (" NULLS " ++ order.text)]
  | none => []

def solePieces (sources : List FromItem) : List Piece :=
  match soleTable? sources with
  | some t => t.pieces
  | none => [.failure (.statement .joinWithoutTable)]

def joinMatch (condition : Option (List Piece)) (shared : Option (List Column)) : List Piece :=
  match condition, shared with
  | some e, _ => .text " ON " :: e
  | none, some columns => .text " USING " :: columnNames columns
  | none, none => [.failure (.statement .joinWithoutCondition)]

mutual

def Expr.pieces : Expr → List Piece
  | .all (some t) => t.qualifier ++ [.text ".*"]
  | .all none => [.text "*"]
  | .column c => c.table.qualifier ++ [.text ".", .columnName c]
  | .distinct c => [.text "DISTINCT ", .columnName c]
  | .value v => [v.piece]
  | .array elementType items => [.bound (.array elementType items)]
  | .binary op left right => operation op left.pieces right.pieces
  | .connective op [] => [.text op.unit]
  | .connective op (e :: rest) =>
    enclosed (separated (.text (" " ++ op.text ++ " ")) (e.pieces :: exprPieces rest))
  | .not e => .text "(NOT " :: e.pieces ++ [.text ")"]
  | .empty e negated =>
    .text "(" :: e.pieces
      ++ [.text (if negated then " != " else " = "), .literal "{}", .text ")"]
  | .is e test negated =>
    .text "(" :: e.pieces ++ [.text ((if negated then " IS NOT " else " IS ") ++ test.text ++ ")")]
  | .member e candidates negated => membership e.pieces (exprPieces candidates) negated
  | .call function args =>
    .verbatim function :: enclosed (listed (exprPieces args))
  | .typedLiteral typeName text => [.verbatim typeName, .text " ", .literal text]
  | .cast e typeName => .text "(" :: e.pieces ++ [.text ")::", .verbatim typeName]
  | .exists query alias? negated =>
    .text (if negated then "NOT EXISTS " else "EXISTS ") :: enclosed query.pieces ++ queryAlias alias?
  | .atTimeZone time zone =>
    zoneCheck zone ++ .text "(" :: time.pieces ++ .text " AT TIME ZONE " :: zone.pieces ++ [.text ")"]
  | .jsonObject entries =>
    .text "jsonb_build_object" :: enclosed (listed (entryPieces entries))
  | .case [] _ => [.failure (.statement .emptyCase)]
  | .case (b :: rest) fallback =>
    .text "CASE " :: separated (.text " ") (b.pieces :: branchPieces rest)
      ++ clause " ELSE " (optionalPieces fallback) ++ [.text " END"]
  | .aliasName name => [.identifier name]
  | .tableName t => [.tableName t.entity]
  | .adapted _ e => e.pieces

def exprPieces : List Expr → List (List Piece)
  | [] => []
  | e :: rest => e.pieces :: exprPieces rest

def entryPieces : List JsonEntry → List (List Piece)
  | [] => []
  | ⟨key, value⟩ :: rest => (.literal key :: .text ", " :: value.pieces) :: entryPieces rest

def Branch.pieces : Branch → List Piece
  | ⟨condition, result⟩ => .text "WHEN " :: condition.pieces ++ .text " THEN " :: result.pieces

def branchPieces : List Branch → List (List Piece)
  | [] => []
  | b :: rest => b.pieces :: branchPieces rest

def Projection.pieces : Projection → List Piece
  | ⟨e, alias?⟩ => e.pieces ++ aliasPieces alias?

def projectionPieces : List Projection → List (List Piece)
  | [] => []
  | p :: rest => p.pieces :: projectionPieces rest

def Projection.groupPieces : Projection → List Piece
  | ⟨_, some name⟩ => [.verbatim name]
  | ⟨e, none⟩ => e.pieces

def groupPieces : List Projection → List (List Piece)
  | [] => []
  | p :: rest => p.groupPieces :: groupPieces rest

def Aggregate.pieces : Aggregate → List Piece
  | ⟨function, e, arguments, alias?, unnested⟩ =>
    let call := .verbatim function
      :: enclosed (listed (e.pieces :: arguments.map fun v => [v.piece]))
    (if unnested then .text "unnest" :: enclosed call else call) ++ aliasPieces alias?

def aggregatePieces : List Aggregate → List (List Piece)
  | [] => []
  | a :: rest => a.pieces :: aggregatePieces rest

def OrderTerm.pieces : OrderTerm → List Piece
  | .expr e descending nulls =>
    e.pieces ++ .text (if descending then " DESC" else " ASC") :: nullsPieces nulls
  | .case [] => [.failure (.statement .emptyOrderCase)]
  | .case (b :: rest) =>
    .text "CASE " :: separated (.text " ") (b.pieces :: branchPieces rest) ++ [.text " END"]

def orderPieces : List OrderTerm → List (List Piece)
  | [] => []
  | o :: rest => o.pieces :: orderPieces rest

def FromItem.columnPieces : FromItem → List (List Piece)
  | .join ⟨⟨projections, _, _, _, _, _, _, _, _, _, _⟩, _, into, _, _, _⟩ =>
    markerPieces .start into ++ projectionPieces projections ++ markerPieces .stop into
  | _ => []

def joinedColumns : List FromItem → List (List Piece)
  | [] => []
  | item :: rest => item.columnPieces ++ joinedColumns rest

def Join.pieces : Join → List Piece
  | ⟨query, kind, _, condition, shared, some name⟩ =>
    .text (kind.text ++ " ") :: enclosed query.pieces ++ .text " " :: .identifier name
      :: joinMatch (optionalPieces condition) shared
  | ⟨query, kind, _, condition, shared, none⟩ =>
    .text (kind.text ++ " ") :: solePieces query.sources ++ joinMatch (optionalPieces condition) shared

def FromItem.pieces : FromItem → List Piece
  | .table t => t.pieces
  | .join j => j.pieces
  | .query q alias? => enclosed q.pieces ++ queryAlias alias?

def sourcePieces : List FromItem → List (List Piece)
  | [] => []
  | item :: rest => item.pieces :: sourcePieces rest

def optionalPieces : Option Expr → Option (List Piece)
  | some e => some e.pieces
  | none => none

def optionalKeys : Option (List Projection) → Option (List (List Piece))
  | some keys => some (projectionPieces keys)
  | none => none

def optionalOrder : Option (List OrderTerm) → Option (List (List Piece))
  | some terms => some (orderPieces terms)
  | none => none

def Query.pieces : Query → List Piece
  | ⟨projections, aggregates, sources, condition, order, limit, offset, grouped, distinct, random,
      distinctOn⟩ =>
    .text "SELECT " :: distinctPieces distinct (optionalKeys distinctOn)
      ++ listed
        (aggregatePieces aggregates ++ projectionPieces projections ++ joinedColumns sources)
      ++ .text " FROM " :: separated (.text " ") (sourcePieces sources)
      ++ clause " WHERE " (optionalPieces condition)
      ++ clause " GROUP BY " (if grouped then some (listed (groupPieces projections)) else none)
      ++ orderingPieces random (optionalOrder order)
      ++ countPieces " LIMIT " limit
      ++ countPieces " OFFSET " offset

end

end RelationalMapping
