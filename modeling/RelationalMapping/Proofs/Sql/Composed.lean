import RelationalMapping.Proofs.Sql.Written

namespace RelationalMapping

namespace Fragment

def literal (s : String) : Fragment := ⟨s, []⟩

def bound (v : Value) : Fragment := ⟨parameterMark, [v]⟩

def wrap (before : String) (f : Fragment) (after : String) : Fragment := ⟨before ++ f.sql ++ after, f.values⟩

def push? (f : Fragment) : Option Fragment → Fragment
  | some g => f.push g
  | none => f

def chain (operator : String) (operands : List Fragment) : Fragment :=
  wrap "(" (join (" " ++ operator ++ " ") operands) ")"

def binary (op : BinaryOp) (left right : Fragment) : Fragment :=
  match op with
  | .json _ | .concatJson => (wrap "" left (" " ++ op.text ++ " ")).push right
  | .pattern _ _ => (wrap "(" left (" " ++ op.text ++ " ")).push (wrap "" right ")")
  | _ => chain op.text [left, right]

def membership (e : Fragment) (candidates : List Fragment) (negated : Bool) : Fragment :=
  match candidates with
  | [] => wrap "(((" e (") = NULL) " ++ (if negated then "IS" else "IS NOT") ++ " NULL)")
  | _ =>
    let candidates := join ", " candidates
    ⟨"(" ++ e.sql ++ " " ++ (if negated then "NOT IN" else "IN") ++ " (" ++ candidates.sql ++ "))",
      e.values ++ candidates.values⟩

def applied (function : String) (args : List Fragment) : Fragment := wrap (function ++ "(") (join ", " args) ")"

def named (f : Fragment) : Option String → Fragment
  | some name => wrap "" f (" AS " ++ name)
  | none => f

def subquery (f : Fragment) : Option String → Fragment
  | some name => wrap "(" f (") " ++ name)
  | none => wrap "(" f ")"

end Fragment

def Table.quoted (t : Table) : Naming String := return Text.quoteIdentifier (← Naming.table t.entity)

def Table.adjective (t : Table) : Naming String :=
  match t.alias? with
  | some name => return Text.quoteIdentifier name
  | none => t.quoted

def Table.noun (t : Table) : Naming String :=
  match t.alias? with
  | some name => return (← t.quoted) ++ " " ++ Text.quoteIdentifier name
  | none => t.quoted

def Column.quoted (c : Column) : Naming String := return Text.quoteIdentifier (← Naming.column c)

def quotedColumns (columns : List Column) : Naming String := return ", ".intercalate (← columns.mapM (·.quoted))

def IntoField.sentinel (edge : Edge) (into : IntoField) : Naming Fragment :=
  return .literal ("NULL AS " ++ Text.quoteIdentifier (← Naming.marker edge into))

def Value.fragment : Value → Fragment
  | .null => .literal "NULL"
  | v => .bound v

def Expr.checkZone (zone : Expr) : Naming Unit :=
  match zone.unadapted with
  | .value (.text name) => if isTimeZone name then return else throw (.unknownZone name)
  | _ => return

def nullsText : Option NullsOrder → String
  | some order => " NULLS " ++ order.text
  | none => ""

def composeGrouping (grouped : Bool) (keys : Naming (List Fragment)) : Naming (Option Fragment) :=
  if grouped then return some (.wrap " GROUP BY " (.join ", " (← keys)) "") else return none

mutual

def Expr.compose : Expr → Naming Fragment
  | .all (some t) => return .literal ((← t.adjective) ++ ".*")
  | .all none => return .literal "*"
  | .column c => do
    let table ← c.table.adjective
    return .literal (table ++ "." ++ (← c.quoted))
  | .distinct c => return .literal ("DISTINCT " ++ (← c.quoted))
  | .value v => return v.fragment
  | .array elementType items => return .bound (.array elementType items)
  | .binary op left right => do
    let left ← left.compose
    return .binary op left (← right.compose)
  | .connective op [] => return .literal op.unit
  | .connective op (e :: rest) => do
    let e ← e.compose
    return .chain op.text (e :: (← composeExprs rest))
  | .not e => return .wrap "(NOT " (← e.compose) ")"
  | .empty e negated => return .wrap "(" (← e.compose) (" " ++ (if negated then "!=" else "=") ++ " '{}')")
  | .is e test negated =>
    return .wrap "(" (← e.compose) (" " ++ (if negated then "IS NOT" else "IS") ++ " " ++ test.text ++ ")")
  | .member e candidates negated => do
    let e ← e.compose
    return .membership e (← composeExprs candidates) negated
  | .call function args => return .applied function (← composeExprs args)
  | .typedLiteral typeName text => return .literal (typeName ++ " " ++ Text.quoteLiteral text)
  | .cast e typeName => return .wrap "(" (← e.compose) (")::" ++ typeName)
  | .exists query alias? negated => do
    let query := Fragment.subquery (← query.compose) alias?
    return .wrap (if negated then "NOT EXISTS " else "EXISTS ") query ""
  | .atTimeZone time zone => do
    zone.checkZone
    let time ← time.compose
    return (Fragment.wrap "(" time " AT TIME ZONE ").push (.wrap "" (← zone.compose) ")")
  | .jsonObject entries => return .applied "jsonb_build_object" (← composeEntries entries)
  | .case [] _ => throw (.statement .emptyCase)
  | .case (b :: rest) fallback => do
    let b ← b.compose
    let branches := Fragment.wrap "CASE " (.join " " (b :: (← composeBranches rest))) ""
    return .wrap "" (branches.push? (← composeClause " ELSE " fallback)) " END"
  | .aliasName name => return .literal (Text.quoteIdentifier name)
  | .tableName t => return .literal (← t.quoted)
  | .adapted _ e => e.compose

def composeExprs : List Expr → Naming (List Fragment)
  | [] => return []
  | e :: rest => do
    let e ← e.compose
    return e :: (← composeExprs rest)

def composeEntries : List JsonEntry → Naming (List Fragment)
  | [] => return []
  | ⟨key, value⟩ :: rest => do
    let value ← value.compose
    return .wrap (Text.quoteLiteral key ++ ", ") value "" :: (← composeEntries rest)

def Branch.compose : Branch → Naming Fragment
  | ⟨condition, result⟩ => do
    let condition ← condition.compose
    return (Fragment.wrap "WHEN " condition " THEN ").push (← result.compose)

def composeBranches : List Branch → Naming (List Fragment)
  | [] => return []
  | b :: rest => do
    let b ← b.compose
    return b :: (← composeBranches rest)

def Projection.compose : Projection → Naming Fragment
  | ⟨e, alias?⟩ => return (← e.compose).named alias?

def composeProjections : List Projection → Naming (List Fragment)
  | [] => return []
  | p :: rest => do
    let p ← p.compose
    return p :: (← composeProjections rest)

def Projection.composeKey : Projection → Naming Fragment
  | ⟨_, some name⟩ => return .literal name
  | ⟨e, none⟩ => e.compose

def composeKeys : List Projection → Naming (List Fragment)
  | [] => return []
  | p :: rest => do
    let p ← p.composeKey
    return p :: (← composeKeys rest)

def Aggregate.compose : Aggregate → Naming Fragment
  | ⟨function, e, arguments, alias?, unnested⟩ => do
    let e ← e.compose
    let call := Fragment.applied function (e :: arguments.map (·.fragment))
    return (if unnested then Fragment.applied "unnest" [call] else call).named alias?

def composeAggregates : List Aggregate → Naming (List Fragment)
  | [] => return []
  | a :: rest => do
    let a ← a.compose
    return a :: (← composeAggregates rest)

def OrderTerm.compose : OrderTerm → Naming Fragment
  | .expr e descending nulls =>
    return .wrap "" (← e.compose) ((if descending then " DESC" else " ASC") ++ nullsText nulls)
  | .case [] => throw (.statement .emptyOrderCase)
  | .case (b :: rest) => do
    let b ← b.compose
    return .wrap "CASE " (.join " " (b :: (← composeBranches rest))) " END"

def composeOrder : List OrderTerm → Naming (List Fragment)
  | [] => return []
  | o :: rest => do
    let o ← o.compose
    return o :: (← composeOrder rest)

def FromItem.composeColumns : FromItem → Naming (List Fragment)
  | .join ⟨⟨projections, _, _, _, _, _, _, _, _, _, _⟩, _, some into, _, _, _⟩ => do
    let start ← into.sentinel .start
    let columns ← composeProjections projections
    return start :: columns ++ [← into.sentinel .stop]
  | .join ⟨⟨projections, _, _, _, _, _, _, _, _, _, _⟩, _, none, _, _, _⟩ => composeProjections projections
  | _ => return []

def composeJoined : List FromItem → Naming (List Fragment)
  | [] => return []
  | item :: rest => do
    let columns ← item.composeColumns
    return columns ++ (← composeJoined rest)

def Join.compose : Join → Naming Fragment
  | ⟨query, kind, _, condition, shared, some name⟩ => do
    let query := Fragment.wrap "(" (← query.compose) (") " ++ Text.quoteIdentifier name)
    return (Fragment.wrap (kind.text ++ " ") query "").push (← composeMatch condition shared)
  | ⟨query, kind, _, condition, shared, none⟩ => do
    let table ← match soleTable? query.sources with
      | some t => t.noun
      | none => throw (.statement .joinWithoutTable)
    return (Fragment.literal (kind.text ++ " " ++ table)).push (← composeMatch condition shared)

def composeMatch : Option Expr → Option (List Column) → Naming Fragment
  | some e, _ => return .wrap " ON " (← e.compose) ""
  | none, some columns => return .literal (" USING " ++ (← quotedColumns columns))
  | none, none => throw (.statement .joinWithoutCondition)

def FromItem.compose : FromItem → Naming Fragment
  | .table t => return .literal (← t.noun)
  | .join j => j.compose
  | .query q alias? => return (← q.compose).subquery alias?

def composeSources : List FromItem → Naming (List Fragment)
  | [] => return []
  | item :: rest => do
    let item ← item.compose
    return item :: (← composeSources rest)

def composeClause (keyword : String) : Option Expr → Naming (Option Fragment)
  | some e => return some (.wrap keyword (← e.compose) "")
  | none => return none

def composeDistinct : Bool → Option (List Projection) → Naming (Option Fragment)
  | true, _ => return some (.literal "DISTINCT ")
  | false, some keys => return some (.wrap "DISTINCT ON (" (.join ", " (← composeProjections keys)) ") ")
  | false, none => return none

def composeOrdering : Bool → Option (List OrderTerm) → Naming (Option Fragment)
  | true, _ => return some (.literal " ORDER BY RANDOM()")
  | false, some terms => return some (.wrap " ORDER BY " (.join ", " (← composeOrder terms)) "")
  | false, none => return none

def Query.compose : Query → Naming Fragment
  | ⟨projections, aggregates, sources, condition, order, limit, offset, grouped, distinct, random, distinctOn⟩ => do
    let distinct ← composeDistinct distinct distinctOn
    let aggregates ← composeAggregates aggregates
    let columns ← composeProjections projections
    let joined ← composeJoined sources
    let items ← composeSources sources
    let condition ← composeClause " WHERE " condition
    let keys ← composeGrouping grouped (composeKeys projections)
    let ordering ← composeOrdering random order
    let head := (Fragment.push? (.literal "SELECT ") distinct).push (.join ", " (aggregates ++ columns ++ joined))
    let head := (head.push (.wrap " FROM " (.join " " items) "")).push? condition
    let head := ((head.push? keys).push? ordering).push? (limit.map fun n => .literal (" LIMIT " ++ toString n.toNat))
    return head.push? (offset.map fun n => .literal (" OFFSET " ++ toString n.toNat))

end

-- stated once, because finding them through the transformers of the monad takes long
instance : LawfulMonad Naming := inferInstance

instance : LawfulApplicative Naming := inferInstance

instance : LawfulFunctor Naming := inferInstance

attribute [local simp] Fragment.push Fragment.wrap Fragment.literal Fragment.join String.append_assoc

section Parts

variable {pieces : List Piece}

theorem written_append (pieces others : List Piece) :
    written (pieces ++ others) = do
      let f ← written pieces
      return f.push (← written others) :=
  writtenBy_append pieces others

theorem written_cons (p : Piece) (pieces : List Piece) :
    written (p :: pieces) = do
      let chunk ← p.resolve
      return (Fragment.ofChunks [chunk]).push (← written pieces) := by
  rw [← List.singleton_append, written_append, written, writtenBy]
  simp

theorem written_nil : written [] = pure (.literal "") := rfl

theorem written_shown {p : Piece} {s : String} (h : p.resolve = pure (.text s)) (pieces : List Piece) :
    written (p :: pieces) = return .wrap s (← written pieces) "" := by
  simp [written_cons, h, Fragment.ofChunks, Chunk.values]

theorem written_text (s : String) (pieces : List Piece) :
    written (.text s :: pieces) = return .wrap s (← written pieces) "" := written_shown rfl pieces

theorem written_verbatim (s : String) (pieces : List Piece) :
    written (.verbatim s :: pieces) = return .wrap s (← written pieces) "" := written_shown rfl pieces

theorem written_identifier (name : String) (pieces : List Piece) :
    written (.identifier name :: pieces) = return .wrap (Text.quoteIdentifier name) (← written pieces) "" :=
  written_shown rfl pieces

theorem written_literal (s : String) (pieces : List Piece) :
    written (.literal s :: pieces) = return .wrap (Text.quoteLiteral s) (← written pieces) "" :=
  written_shown rfl pieces

theorem written_around (before after : String) (pieces : List Piece) :
    written (Piece.text before :: pieces ++ [Piece.text after]) = return .wrap before (← written pieces) after := by
  rw [List.cons_append, written_text, written_append, written_text, written_nil]
  simp

theorem written_enclosed (pieces : List Piece) : written (enclosed pieces) = return .wrap "(" (← written pieces) ")" :=
  written_around "(" ")" pieces

theorem written_separated (separator : String) (lists : List (List Piece)) :
    written (separated (.text separator) lists) = return .join separator (← lists.mapM written) :=
  writtenBy_separated resolve_text separator lists

theorem written_listed (lists : List (List Piece)) :
    written (listed lists) = return .join ", " (← lists.mapM written) :=
  written_separated ", " lists

theorem written_applied (function : String) (lists : List (List Piece)) :
    written (.text function :: enclosed (listed lists)) = return .applied function (← lists.mapM written) := by
  simp [written_text, written_enclosed, written_listed, Fragment.applied]

end Parts

theorem written_columnName (c : Column) : written [.columnName c] = return .literal (← c.quoted) := by
  simp [written_cons, written_nil, Piece.resolve, Fragment.ofChunks, Chunk.values, Column.quoted]

theorem written_tableName (t : Table) : written [.tableName t.entity] = return .literal (← t.quoted) := by
  simp [written_cons, written_nil, Piece.resolve, Fragment.ofChunks, Chunk.values, Table.quoted]

theorem Table.written_qualifier (t : Table) : written t.qualifier = return .literal (← t.adjective) := by
  unfold qualifier adjective
  cases t.alias? with
  | none => exact written_tableName t
  | some name => simp [written_identifier, written_nil]

theorem Table.written_pieces (t : Table) : written t.pieces = return .literal (← t.noun) := by
  unfold pieces noun
  cases t.alias? with
  | none => exact written_tableName t
  | some name =>
    change written ([Piece.tableName t.entity] ++ [Piece.text " ", Piece.identifier name]) = _
    rw [written_append, written_tableName, written_text, written_identifier, written_nil]
    simp

theorem written_marker (edge : Edge) (into : IntoField) : written [.marker edge into] = into.sentinel edge := by
  simp [written_cons, written_nil, Piece.resolve, Fragment.ofChunks, Chunk.values, IntoField.sentinel]

theorem written_failure (fault : Error) : written [.failure fault] = throw fault := rfl

theorem written_bound (v : Value) : written [.bound v] = pure (.bound v) := by
  simp [written_cons, written_nil, Piece.resolve, Fragment.ofChunks, Chunk.values, Chunk.sql, Fragment.bound]

theorem Value.written_piece (v : Value) : written [v.piece] = pure v.fragment := by
  cases v with
  | null => exact written_text "NULL" []
  | _ => exact written_bound _

theorem written_operation (op : BinaryOp) (left right : List Piece) :
    written (operation op left right) = do
      let f ← written left
      return .binary op f (← written right) := by
  unfold operation Fragment.binary Fragment.chain
  cases op <;>
    simp [BinaryOp.encloses, BinaryOp.text, written_enclosed, written_append, written_text,
      String.intercalate_cons_cons]

theorem written_membership (e : List Piece) (candidates : List (List Piece)) (negated : Bool) :
    written (membership e candidates negated) = do
      let f ← written e
      return .membership f (← candidates.mapM written) negated := by
  unfold membership Fragment.membership
  cases candidates with
  | nil => cases negated <;> exact written_around "(((" _ e
  | cons first rest =>
    cases negated <;> simp [written_append, written_text, written_listed, written_nil]

theorem written_alias (pieces : List Piece) (alias? : Option String) :
    written (pieces ++ aliasPieces alias?) = return (← written pieces).named alias? := by
  cases alias? with
  | none => simp [aliasPieces, Fragment.named]
  | some name => simp [aliasPieces, Fragment.named, written_append, written_text, written_verbatim, written_nil]

theorem closing_append (s : String) : ")" ++ (" " ++ s) = ") " ++ s := by
  rw [← String.append_assoc]
  rfl

theorem written_queryAlias (pieces : List Piece) (alias? : Option String) :
    written (enclosed pieces ++ queryAlias alias?) = return (← written pieces).subquery alias? := by
  cases alias? with
  | none => simp [queryAlias, Fragment.subquery, written_enclosed]
  | some name =>
    simp [queryAlias, Fragment.subquery, written_append, written_text, written_enclosed, written_verbatim, written_nil,
      closing_append]

theorem written_zoneCheck (zone : Expr) (pieces : List Piece) :
    written (zoneCheck zone ++ pieces) = (zone.checkZone >>= fun _ => written pieces) := by
  rw [written_append, zoneCheck, Expr.checkZone]
  generalize zone.unadapted = e
  cases e with
  | value v =>
    cases v with
    | text name =>
      by_cases hknown : isTimeZone name = true
      · simp [hknown, written_nil]
      · simp only [hknown, if_false, Bool.false_eq_true]
        rfl
    | _ => simp [written_nil]
  | _ => simp [written_nil]

theorem Fragment.push?_push (f : Fragment) (other : Option Fragment) :
    f.push ((Fragment.literal "").push? other) = f.push? other := by
  cases other <;> simp [push?]

theorem Fragment.wrap_push? (s : String) (other : Option Fragment) :
    wrap s ((literal "").push? other) "" = (literal s).push? other := by
  cases other <;> simp [push?]

theorem Fragment.push_push? (f g : Fragment) (other : Option Fragment) :
    f.push (g.push? other) = (f.push g).push? other := by
  cases other <;> simp [push?]

theorem written_push? {optional : List Piece} {x : Naming (Option Fragment)}
    (h : written optional = return (Fragment.literal "").push? (← x)) (pieces : List Piece) :
    written (pieces ++ optional) = do
      let f ← written pieces
      return f.push? (← x) := by
  rw [written_append, h]
  simp only [bind_assoc, pure_bind, Fragment.push?_push]

theorem written_count (keyword : String) (n : Option UInt64) (pieces : List Piece) :
    written (pieces ++ countPieces keyword n)
      = return (← written pieces).push? (n.map fun n => .literal (keyword ++ toString n.toNat)) := by
  cases n with
  | none => simp [countPieces, Fragment.push?]
  | some n => simp [countPieces, Fragment.push?, written_append, written_text, written_nil]

theorem written_texts {α : Type} {pieces : α → List Piece} {text : α → Naming String}
    (h : ∀ x, written (pieces x) = return .literal (← text x)) (items : List α) :
    written (listed (items.map pieces)) = return .literal (", ".intercalate (← items.mapM text)) := by
  have hjoined : ∀ texts : List String,
      Fragment.join ", " (texts.map .literal) = .literal (", ".intercalate texts) := by
    simp [Function.comp_def]
  have hitems : (items.map pieces).mapM written = return (← items.mapM text).map .literal := by
    induction items with
    | nil => rfl
    | cons x rest ih =>
      rw [List.map_cons, List.mapM_cons, List.mapM_cons, h, ih]
      simp
  rw [written_listed, hitems]
  simp only [bind_assoc, pure_bind, hjoined]

theorem written_columnNames (columns : List Column) :
    written (columnNames columns) = return .literal (← quotedColumns columns) := by
  rw [columnNames, written_texts written_columnName, quotedColumns]
  simp only [bind_assoc, pure_bind]

theorem written_grouping (grouped : Bool) (keys : List (List Piece)) :
    written (clause " GROUP BY " (if grouped then some (listed keys) else none))
      = return (Fragment.literal "").push? (← composeGrouping grouped (keys.mapM written)) := by
  cases grouped with
  | false => simp [composeGrouping, clause, written_nil, Fragment.push?]
  | true => simp [composeGrouping, clause, written_text, written_listed, Fragment.push?]

-- by induction on the tree, a case for every constructor: what its pieces write is put together from its parts
mutual

theorem Expr.written_pieces : (e : Expr) → written e.pieces = e.compose
  | .all (some t) => by
    simp [Expr.pieces, Expr.compose, written_append, t.written_qualifier, written_text, written_nil]
  | .all none => by simp [Expr.pieces, Expr.compose, written_text, written_nil]
  | .column c => by
    simp [Expr.pieces, Expr.compose, written_append, c.table.written_qualifier, written_text, written_columnName]
  | .distinct c => by simp [Expr.pieces, Expr.compose, written_text, written_columnName]
  | .value v => by rw [Expr.pieces, Expr.compose, v.written_piece]
  | .array elementType items => by rw [Expr.pieces, Expr.compose, written_bound]
  | .binary op left right => by
    rw [Expr.pieces, Expr.compose, written_operation, left.written_pieces, right.written_pieces]
  | .connective op [] => by simp [Expr.pieces, Expr.compose, written_text, written_nil]
  | .connective op (e :: rest) => by
    simp [Expr.pieces, Expr.compose, written_enclosed, written_separated, e.written_pieces, written_exprs rest,
      Fragment.chain]
  | .not e => by rw [Expr.pieces, Expr.compose, written_around, e.written_pieces]
  | .empty e negated => by
    have hquoted : Text.quoteLiteral "{}" = "'{}'" := rfl
    rw [Expr.pieces, Expr.compose]
    cases negated <;>
      simp [written_append, written_text, written_literal, written_nil, e.written_pieces, hquoted]
  | .is e test negated => by
    rw [Expr.pieces, Expr.compose, written_around, e.written_pieces]
    cases negated <;> rfl
  | .member e candidates negated => by
    rw [Expr.pieces, Expr.compose, written_membership, e.written_pieces, written_exprs candidates]
  | .call function args => by
    rw [Expr.pieces, Expr.compose, written_shown rfl, written_enclosed, written_listed, written_exprs args]
    simp [Fragment.applied]
  | .typedLiteral typeName text => by
    simp [Expr.pieces, Expr.compose, written_verbatim, written_text, written_literal, written_nil]
  | .cast e typeName => by
    simp [Expr.pieces, Expr.compose, written_append, written_text, written_verbatim, written_nil, e.written_pieces]
  | .exists query alias? negated => by
    rw [Expr.pieces, Expr.compose, List.cons_append, written_text, written_queryAlias, query.written_pieces]
    simp
  | .atTimeZone time zone => by
    rw [Expr.pieces, Expr.compose, List.append_assoc, List.append_assoc, written_zoneCheck]
    simp [written_append, written_text, written_nil, time.written_pieces, zone.written_pieces]
  | .jsonObject entries => by
    rw [Expr.pieces, Expr.compose, written_applied, written_entries entries]
  | .case [] fallback => by rw [Expr.pieces, Expr.compose, written_failure]
  | .case (b :: rest) fallback => by
    rw [Expr.pieces, Expr.compose, written_append, written_push? (written_clause " ELSE " fallback), written_text,
      written_separated, List.mapM_cons, b.written_pieces, written_branches rest, written_text, written_nil]
    simp
  | .aliasName name => by
    rw [Expr.pieces, Expr.compose, written_identifier, written_nil]
    simp
  | .tableName t => by rw [Expr.pieces, Expr.compose, written_tableName]
  | .adapted adapter e => by rw [Expr.pieces, Expr.compose, e.written_pieces]

theorem written_exprs : (items : List Expr) → (exprPieces items).mapM written = composeExprs items
  | [] => by rw [exprPieces, composeExprs, List.mapM_nil]
  | e :: rest => by rw [exprPieces, composeExprs, List.mapM_cons, e.written_pieces, written_exprs rest]

theorem written_entries : (entries : List JsonEntry) → (entryPieces entries).mapM written = composeEntries entries
  | [] => by rw [entryPieces, composeEntries, List.mapM_nil]
  | ⟨key, value⟩ :: rest => by
    rw [entryPieces, composeEntries, List.mapM_cons, written_entries rest]
    simp [written_literal, written_text, value.written_pieces]

theorem Branch.written_pieces : (b : Branch) → written b.pieces = b.compose
  | ⟨condition, result⟩ => by
    rw [Branch.pieces, Branch.compose]
    simp [written_append, written_text, condition.written_pieces, result.written_pieces]

theorem written_branches : (branches : List Branch) → (branchPieces branches).mapM written = composeBranches branches
  | [] => by rw [branchPieces, composeBranches, List.mapM_nil]
  | b :: rest => by rw [branchPieces, composeBranches, List.mapM_cons, b.written_pieces, written_branches rest]

theorem Projection.written_pieces : (p : Projection) → written p.pieces = p.compose
  | ⟨e, alias?⟩ => by rw [Projection.pieces, Projection.compose, written_alias, e.written_pieces]

theorem written_projections :
    (projections : List Projection) → (projectionPieces projections).mapM written = composeProjections projections
  | [] => by rw [projectionPieces, composeProjections, List.mapM_nil]
  | p :: rest => by
    rw [projectionPieces, composeProjections, List.mapM_cons, p.written_pieces, written_projections rest]

theorem Projection.written_groupPieces : (p : Projection) → written p.groupPieces = p.composeKey
  | ⟨_, some name⟩ => by simp [Projection.groupPieces, Projection.composeKey, written_verbatim, written_nil]
  | ⟨e, none⟩ => by rw [Projection.groupPieces, Projection.composeKey, e.written_pieces]

theorem written_groups :
    (projections : List Projection) → (groupPieces projections).mapM written = composeKeys projections
  | [] => by rw [groupPieces, composeKeys, List.mapM_nil]
  | p :: rest => by rw [groupPieces, composeKeys, List.mapM_cons, p.written_groupPieces, written_groups rest]

theorem Aggregate.written_pieces : (a : Aggregate) → written a.pieces = a.compose
  | ⟨function, e, arguments, alias?, unnested⟩ => by
    have harguments : (arguments.map fun v => [v.piece]).mapM written = pure (arguments.map (·.fragment)) := by
      simp [List.mapM_map, Function.comp_def, Value.written_piece]
    have hcall : written (.verbatim function :: enclosed (listed (e.pieces :: arguments.map fun v => [v.piece])))
        = return .applied function ((← e.compose) :: arguments.map (·.fragment)) := by
      rw [written_verbatim, written_enclosed, written_listed, List.mapM_cons, e.written_pieces, harguments]
      simp [Fragment.applied]
    rw [Aggregate.pieces, Aggregate.compose, written_alias]
    cases unnested with
    | false => simp [hcall]
    | true =>
      have hunnested := written_applied "unnest"
        [.verbatim function :: enclosed (listed (e.pieces :: arguments.map fun v => [v.piece]))]
      simp only [listed, separated] at hunnested hcall
      simp [listed, hunnested, hcall]

theorem written_aggregates :
    (aggregates : List Aggregate) → (aggregatePieces aggregates).mapM written = composeAggregates aggregates
  | [] => by rw [aggregatePieces, composeAggregates, List.mapM_nil]
  | a :: rest => by
    rw [aggregatePieces, composeAggregates, List.mapM_cons, a.written_pieces, written_aggregates rest]

theorem OrderTerm.written_pieces : (o : OrderTerm) → written o.pieces = o.compose
  | .expr e descending nulls => by
    rw [OrderTerm.pieces, OrderTerm.compose]
    cases nulls <;> simp [nullsPieces, nullsText, written_append, written_text, written_nil, e.written_pieces]
  | .case [] => by rw [OrderTerm.pieces, OrderTerm.compose, written_failure]
  | .case (b :: rest) => by
    rw [OrderTerm.pieces, OrderTerm.compose, written_around, written_separated, List.mapM_cons, b.written_pieces,
      written_branches rest]
    simp

theorem written_order : (terms : List OrderTerm) → (orderPieces terms).mapM written = composeOrder terms
  | [] => by rw [orderPieces, composeOrder, List.mapM_nil]
  | o :: rest => by rw [orderPieces, composeOrder, List.mapM_cons, o.written_pieces, written_order rest]

theorem FromItem.written_columnPieces : (item : FromItem) → item.columnPieces.mapM written = item.composeColumns
  | .join ⟨⟨projections, _, _, _, _, _, _, _, _, _, _⟩, _, some into, _, _, _⟩ => by
    simp [FromItem.columnPieces, FromItem.composeColumns, markerPieces, written_marker, written_projections projections]
  | .join ⟨⟨projections, _, _, _, _, _, _, _, _, _, _⟩, _, none, _, _, _⟩ => by
    simp [FromItem.columnPieces, FromItem.composeColumns, markerPieces, written_projections projections]
  | .table _ | .query _ _ => by simp [FromItem.columnPieces, FromItem.composeColumns]

theorem written_joined : (sources : List FromItem) → (joinedColumns sources).mapM written = composeJoined sources
  | [] => by rw [joinedColumns, composeJoined, List.mapM_nil]
  | item :: rest => by
    rw [joinedColumns, composeJoined, List.mapM_append, item.written_columnPieces, written_joined rest]

theorem Join.written_pieces : (j : Join) → written j.pieces = j.compose
  | ⟨query, kind, _, condition, shared, some name⟩ => by
    rw [Join.pieces, Join.compose, List.cons_append, written_text, written_append, written_enclosed,
      query.written_pieces, written_text, written_identifier, written_match condition shared]
    simp [closing_append]
  | ⟨query, kind, _, condition, shared, none⟩ => by
    rw [Join.pieces, Join.compose, List.cons_append, written_text, written_append, written_match condition shared]
    unfold solePieces
    cases soleTable? query.sources with
    | none => rfl
    | some t => simp [t.written_pieces]

theorem written_match : (condition : Option Expr) → (shared : Option (List Column)) →
    written (joinMatch (optionalPieces condition) shared) = composeMatch condition shared
  | some e, shared => by rw [optionalPieces, composeMatch, joinMatch, written_text, e.written_pieces]
  | none, some columns => by
    rw [optionalPieces, composeMatch, joinMatch, written_text, written_columnNames]
    simp
  | none, none => by rw [optionalPieces, composeMatch, joinMatch, written_failure]

theorem FromItem.written_pieces : (item : FromItem) → written item.pieces = item.compose
  | .table t => by rw [FromItem.pieces, FromItem.compose, t.written_pieces]
  | .join j => by rw [FromItem.pieces, FromItem.compose, j.written_pieces]
  | .query q alias? => by rw [FromItem.pieces, FromItem.compose, written_queryAlias, q.written_pieces]

theorem written_sources : (sources : List FromItem) → (sourcePieces sources).mapM written = composeSources sources
  | [] => by rw [sourcePieces, composeSources, List.mapM_nil]
  | item :: rest => by rw [sourcePieces, composeSources, List.mapM_cons, item.written_pieces, written_sources rest]

theorem written_clause (keyword : String) : (condition : Option Expr) →
    written (clause keyword (optionalPieces condition))
      = return (Fragment.literal "").push? (← composeClause keyword condition)
  | some e => by
    rw [optionalPieces, clause, composeClause]
    simp [written_text, e.written_pieces, Fragment.push?]
  | none => by simp [optionalPieces, clause, composeClause, written_nil, Fragment.push?]

theorem written_distinct : (distinct : Bool) → (keys : Option (List Projection)) →
    written (distinctPieces distinct (optionalKeys keys))
      = return (Fragment.literal "").push? (← composeDistinct distinct keys)
  | true, keys => by
    rw [composeDistinct]
    simp [distinctPieces, written_text, written_nil, Fragment.push?]
  | false, some keys => by
    rw [optionalKeys, distinctPieces, composeDistinct, written_around, written_listed, written_projections keys]
    simp [Fragment.push?]
  | false, none => by
    rw [optionalKeys, distinctPieces, composeDistinct, written_nil]
    simp [Fragment.push?]

theorem written_ordering : (random : Bool) → (terms : Option (List OrderTerm)) →
    written (orderingPieces random (optionalOrder terms))
      = return (Fragment.literal "").push? (← composeOrdering random terms)
  | true, terms => by
    rw [composeOrdering]
    simp [orderingPieces, written_text, written_nil, Fragment.push?]
  | false, some terms => by
    rw [optionalOrder, orderingPieces, composeOrdering, written_text, written_listed, written_order terms]
    simp [Fragment.push?]
  | false, none => by
    rw [optionalOrder, orderingPieces, composeOrdering, written_nil]
    simp [Fragment.push?]

theorem Query.written_pieces : (q : Query) → written q.pieces = q.compose
  | ⟨projections, aggregates, sources, condition, order, limit, offset, grouped, distinct, random, distinctOn⟩ => by
    rw [Query.pieces, Query.compose, written_count, written_count, written_push? (written_ordering random order),
      written_push? (written_grouping grouped (groupPieces projections)), written_groups projections,
      written_push? (written_clause " WHERE " condition), written_append, written_append, written_text,
      written_distinct distinct distinctOn, written_listed, List.mapM_append, List.mapM_append,
      written_aggregates aggregates, written_projections projections, written_joined sources, written_text,
      written_separated, written_sources sources]
    simp only [bind_assoc, pure_bind, Fragment.wrap_push?]

end

theorem Expr.write_eq_compose (e : Expr) : e.write = e.compose := e.written_pieces

theorem Query.write_eq_compose (q : Query) : q.write = q.compose := q.written_pieces

def Delete.compose (d : Delete) : Naming Fragment := do
  let table ← d.table.noun
  return (Fragment.literal ("DELETE FROM " ++ table)).push? (← composeClause " WHERE " d.condition)

theorem Delete.write_eq_compose (d : Delete) : d.write = d.compose := by
  change written d.pieces = d.compose
  rw [Delete.pieces, Delete.compose, conditionPieces, written_push? (written_clause " WHERE " d.condition), written_text,
    d.table.written_pieces]
  simp

def Assignment.compose (a : Assignment) : Naming Fragment := do
  let value ← a.expr.compose
  return .wrap ((← a.column.quoted) ++ " = ") value ""

def UpdateSource.compose : UpdateSource → Naming (Option Fragment)
  | .none => return Option.none
  | .tables ts => return some (.literal (", ".intercalate (← ts.mapM (·.quoted))))
  | .aliased ts => return some (.literal (", ".intercalate (← ts.mapM (·.noun))))
  | .query q name => return some ((← q.compose).subquery (some (Text.quoteIdentifier name)))
  | .unnamed q => return some ((← q.compose).subquery (some (Text.quoteIdentifier unnamedAlias)))

def IntoField.compose (into : IntoField) : Naming (List Fragment) := do
  let start ← into.sentinel .start
  let columns ← (Expr.all (some ⟨into.target, none⟩)).compose
  return [start, columns, ← into.sentinel .stop]

def composeReturning (into : List IntoField) : Option (List Projection) → Naming (Option Fragment)
  | some projections => do
    let columns ← composeProjections projections
    let joined ← into.mapM (·.compose)
    return some (.wrap " RETURNING " (.join ", " (columns ++ joined.flatten)) "")
  | none => return none

def Update.compose (u : Update) : Naming Fragment := do
  if u.assignments.isEmpty then throw (.statement .updateWithoutFields)
  let assignments ← u.assignments.mapM (·.compose)
  let table ← u.table.noun
  let source ← u.source.compose
  let condition ← composeClause " WHERE " u.condition
  let returning ← composeReturning u.into u.returning
  let head := (Fragment.literal ("UPDATE " ++ table ++ " SET ")).push (.join ", " assignments)
  return ((head.push? (source.map (Fragment.wrap " FROM " · ""))).push? condition).push? returning

def InsertSource.compose (table : String) (fields : List InsertField) : InsertSource → Naming Fragment
  | .rows [] => throw (.statement .insertWithoutRows)
  | .rows items =>
    return .literal (" VALUES " ++ ", ".intercalate ((List.range items.length).map (slotRow table fields)))
  | .select q => return .wrap " (" (← q.compose) ")"

def composeTargets (targets : List Column) : Naming String :=
  if targets.isEmpty then return "" else return "(" ++ (← quotedColumns targets) ++ ") "

def Column.taken (c : Column) : Naming String := do
  let name ← c.quoted
  return name ++ " = EXCLUDED." ++ name

def ConflictAction.compose : ConflictAction → Naming String
  | .nothing => return "DO NOTHING"
  | .update [] => throw (.statement .conflictWithoutColumns)
  | .update columns => return "DO UPDATE SET " ++ ", ".intercalate (← columns.mapM (·.taken))

def composeConflict : Option Conflict → Naming (Option Fragment)
  | some c => do
    let targets ← composeTargets c.targets
    return some (.literal (" ON CONFLICT " ++ targets ++ (← c.action.compose)))
  | none => return none

def Insert.compose (i : Insert) : Naming InsertStatement := do
  let table ← Naming.table i.table.entity
  let columns ← quotedColumns (i.fields.map (·.column))
  let source ← i.source.compose table i.fields
  let target ← i.table.noun
  let conflict ← composeConflict i.conflict
  let returning ← composeReturning [] i.returning
  let head := Fragment.wrap ("INSERT INTO " ++ target ++ " (" ++ columns ++ ")") source ""
  let bound := (head.push? conflict).push? returning
  return { sql := bound.sql, table, mark := parameterMark, rows := i.source.items, values := bound.values }

theorem written_of_chunks (pieces : List Piece) : written pieces = return .ofChunks (← resolve pieces) := rfl

theorem UpdateSource.written_pieces (s : UpdateSource) :
    written s.pieces = return (Fragment.literal "").push? ((← s.compose).map (Fragment.wrap " FROM " · "")) := by
  have hnamed : ∀ (q : Query) (name : String),
      written (Piece.text " FROM " :: enclosed q.pieces ++ [Piece.text " ", Piece.identifier name]) = do
        let f := (← q.compose).subquery (some (Text.quoteIdentifier name))
        return (Fragment.literal "").push? (some (.wrap " FROM " f "")) := by
    intro q name
    rw [written_append, written_text, written_enclosed, q.written_pieces, written_text, written_identifier, written_nil]
    simp [Fragment.push?, Fragment.subquery, closing_append]
  cases s with
  | none => rfl
  | tables ts =>
    rw [pieces, compose, written_text, written_texts written_tableName]
    simp [Fragment.push?]
  | aliased ts =>
    rw [pieces, compose, written_text, written_texts Table.written_pieces]
    simp [Fragment.push?]
  | query q name =>
    rw [pieces, compose, hnamed]
    simp
  | unnamed q =>
    rw [pieces, compose, hnamed]
    simp

theorem IntoField.written_returningPieces (into : IntoField) : into.returningPieces.mapM written = into.compose := by
  have hcolumns : written [.tableName into.target, .text ".*"] = (Expr.all (some ⟨into.target, none⟩)).compose := by
    rw [← Expr.written_pieces, Expr.pieces]
    rfl
  rw [returningPieces, compose, List.mapM_cons, List.mapM_cons, List.mapM_cons, List.mapM_nil, written_marker, hcolumns,
    written_marker]
  simp

theorem written_returning (projections : Option (List Projection)) (into : List IntoField) :
    written (returningPieces (projections.map fun projections =>
        projectionPieces projections ++ into.flatMap (·.returningPieces)))
      = return (Fragment.literal "").push? (← composeReturning into projections) := by
  have hinto : (into.flatMap (·.returningPieces)).mapM written = return (← into.mapM (·.compose)).flatten := by
    induction into with
    | nil => rfl
    | cons x rest ih =>
      rw [List.flatMap_cons, List.mapM_append, x.written_returningPieces, ih, List.mapM_cons]
      simp
  cases projections with
  | none => rfl
  | some projections =>
    rw [Option.map_some, returningPieces, Option.map_some, clause, written_text, written_listed, List.mapM_append,
      written_projections, hinto, composeReturning]
    simp [Fragment.push?]

theorem Assignment.compose_eq (a : Assignment) : a.compose = return .ofChunks (← a.chunks) := by
  have hchunks : (return .ofChunks (← a.chunks) : Naming Fragment) = do
      let value ← written a.expr.pieces
      return (← written [.columnName a.column]).push (.wrap " = " value "") := by
    simp only [Assignment.chunks, Expr.chunks, written_of_chunks, bind_assoc, pure_bind, Fragment.ofChunks_append]
    simp [Fragment.ofChunks, Chunk.values]
  rw [hchunks, a.expr.written_pieces, written_columnName, compose]
  simp

theorem Fragment.ofChunks_text_cons (s : String) (chunks : List Chunk) :
    ofChunks (.text s :: chunks) = wrap s (ofChunks chunks) "" := by
  simp [ofChunks, Chunk.values]

theorem ofChunks_separated (separator : String) (lists : List (List Chunk)) :
    Fragment.ofChunks (separated (.text separator) lists) = .join separator (lists.map .ofChunks) := by
  induction lists using separated.induct with
  | case1 => rfl
  | case2 chunks => simp [separated]
  | case3 chunks rest hrest ih =>
    obtain ⟨next, others, rfl⟩ := List.exists_cons_of_ne_nil hrest
    rw [separated.eq_3 _ _ _ hrest, Fragment.ofChunks_append, ← List.singleton_append, Fragment.ofChunks_append, ih,
      List.map_cons, List.map_cons, List.map_cons, Fragment.join_cons_cons]
    rfl

theorem Update.write_eq_compose (u : Update) : u.write = u.compose := by
  rw [Update.write, Update.chunks, Update.compose]
  split
  · rfl
  · -- each assignment is put together by itself, but the pieces after the table are one list
    have hassignments : u.assignments.mapM (·.compose) = return (← u.assignments.mapM (·.chunks)).map .ofChunks := by
      induction u.assignments with
      | nil => rfl
      | cons a rest ih =>
        rw [List.mapM_cons, List.mapM_cons, a.compose_eq, ih]
        simp
    have hrest : written (u.source.pieces ++ conditionPieces u.condition ++ returningPieces u.returningColumns) = do
        let source := (← u.source.compose).map (Fragment.wrap " FROM " · "")
        let condition ← composeClause " WHERE " u.condition
        return (((Fragment.literal "").push? source).push? condition).push? (← composeReturning u.into u.returning) := by
      rw [Update.returningColumns, written_push? (written_returning u.returning u.into), conditionPieces,
        written_push? (written_clause " WHERE " u.condition), u.source.written_pieces]
      simp only [bind_assoc, pure_bind]
    calc
      _ = do
        let assignments ← u.assignments.mapM (·.compose)
        let table ← written u.table.pieces
        let rest ← written (u.source.pieces ++ conditionPieces u.condition ++ returningPieces u.returningColumns)
        return ((Fragment.wrap "UPDATE " table " SET ").push (.join ", " assignments)).push rest := by
        simp only [hassignments, written_of_chunks, bind_assoc, pure_bind]
        refine bind_congr fun assignments => bind_congr fun table => bind_congr fun rest => ?_
        simp only [List.cons_append, List.append_assoc, Fragment.ofChunks_text_cons, Fragment.ofChunks_append,
          ofChunks_separated]
        simp
      _ = _ := by
        rw [hrest, u.table.written_pieces]
        simp only [bind_assoc, pure_bind, Fragment.push_push?]
        simp

theorem Names.column_again (names : Names) (c : Column) : (names.column c).2.column c = names.column c := by
  cases hknown : names.columns.lookup c.key <;> simp [column, hknown]

theorem Column.written_taken (c : Column) :
    written [.columnName c, .text " = EXCLUDED.", .columnName c] = return .literal (← c.taken) := by
  have hparts : written ([Piece.columnName c] ++ [Piece.text " = EXCLUDED.", Piece.columnName c]) = do
      let name ← c.quoted
      return .literal (name ++ " = EXCLUDED." ++ (← c.quoted)) := by
    rw [written_append, written_columnName, written_text, written_columnName]
    simp
  refine hparts.trans (funext fun names => ?_)
  simp only [Column.taken, Column.quoted, Naming.bind_apply, Naming.column_apply, Naming.pure_apply, Names.column_again]

theorem ConflictAction.written_pieces (action : ConflictAction) :
    written action.pieces = return .literal (← action.compose) := by
  cases action with
  | nothing => rfl
  | update columns =>
    cases columns with
    | nil => rfl
    | cons c rest =>
      rw [pieces, compose, written_text, written_texts Column.written_taken]
      · simp
      · simp
      · simp

theorem Conflict.written_pieces (c : Conflict) :
    written c.pieces = do
      let targets ← composeTargets c.targets
      return .literal (" ON CONFLICT " ++ targets ++ (← c.action.compose)) := by
  have htargets : written (if c.targets.isEmpty then [] else enclosed (columnNames c.targets) ++ [Piece.text " "])
      = return .literal (← composeTargets c.targets) := by
    unfold composeTargets
    split
    · rfl
    · rw [written_append, written_enclosed, written_columnNames, written_text, written_nil]
      simp
  rw [pieces, List.cons_append, written_text, written_append, htargets, c.action.written_pieces]
  simp

theorem Insert.written_tailPieces (i : Insert) :
    written i.tailPieces = do
      let conflict ← composeConflict i.conflict
      return ((Fragment.literal "").push? conflict).push? (← composeReturning [] i.returning) := by
  have hreturning := written_returning i.returning []
  simp only [List.flatMap_nil, List.append_nil] at hreturning
  rw [tailPieces, written_push? hreturning]
  cases i.conflict with
  | none => simp [composeConflict, written_nil, Fragment.push?]
  | some c => simp [composeConflict, c.written_pieces, Fragment.push?]

theorem InsertSource.written_pieces (table : String) (fields : List InsertField) (s : InsertSource) :
    written (s.pieces table fields) = s.compose table fields := by
  cases s with
  | rows items =>
    cases items with
    | nil => rfl
    | cons first rest => simp [pieces, compose, written_text, written_nil]
  | select q =>
    have hopened (s : String) : " " ++ ("(" ++ s) = " (" ++ s := by rw [← String.append_assoc]; rfl
    rw [pieces, compose, written_text, written_enclosed, q.written_pieces]
    simp [hopened]

theorem Insert.write_eq_compose (i : Insert) : i.write = i.compose := by
  calc
    i.write = do
      let table ← Naming.table i.table.entity
      let columns ← written (columnNames (i.fields.map (·.column)))
      let source ← written (i.source.pieces table i.fields)
      let target ← written i.table.pieces
      let tail ← written i.tailPieces
      let bound := (Fragment.wrap "INSERT INTO " target " (").push (columns.push ((Fragment.wrap ")" source "").push tail))
      return { sql := bound.sql, table, mark := parameterMark, rows := i.source.items, values := bound.values } := by
      simp only [Insert.write, Insert.chunks, written_of_chunks, bind_assoc, pure_bind]
      refine bind_congr fun table => bind_congr fun columns => bind_congr fun source => bind_congr fun target =>
        bind_congr fun tail => ?_
      simp only [List.cons_append, List.append_assoc, Fragment.ofChunks_text_cons, Fragment.ofChunks_append]
      simp
    _ = i.compose := by
      simp only [Insert.compose, i.written_tailPieces, i.source.written_pieces, written_columnNames,
        i.table.written_pieces, bind_assoc, pure_bind, Fragment.push_push?]
      simp

end RelationalMapping
