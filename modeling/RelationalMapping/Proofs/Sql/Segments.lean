import RelationalMapping.Proofs.Sql.Quoting

namespace RelationalMapping

inductive Mention where
  | table
  | join
  | subQuery
  | projection
  | aggregate
  | groupKey
  | qualifier
  | columns
  | literal
  deriving DecidableEq, Repr

namespace Mention

def isQuoted : Mention → Bool
  | .table | .join | .qualifier | .columns | .literal => true
  | .subQuery | .projection | .aggregate | .groupKey => false

def piece (m : Mention) (name : String) : Piece := if m.isQuoted then .identifier name else .verbatim name

end Mention

inductive Segment where
  | piece (p : Piece)
  | part (t : Tree)
  | mention (m : Mention) (name : String)

def Segment.pieces : Segment → List Piece
  | .piece p => [p]
  | .part t => t.pieces
  | .mention m name => [m.piece name]

def flat (segments : List Segment) : List Piece := segments.flatMap (·.pieces)

def own (pieces : List Piece) : List Segment := pieces.map .piece

def aliasSegments (lead : String) (m : Mention) : Option String → List Segment
  | some name => [.piece (.text lead), .mention m name]
  | none => []

def clauseSegments (keyword : String) : Option (List Segment) → List Segment
  | some segments => .piece (.text keyword) :: segments
  | none => []

def separatedSegments (separator : String) (lists : List (List Segment)) : List Segment :=
  separated (.piece (.text separator)) lists

def Table.qualifierSegments (m : Mention) (t : Table) : List Segment :=
  match t.alias? with
  | some name => [.mention m name]
  | none => own [.tableName t.entity]

def Table.segments (t : Table) : List Segment := .piece (.tableName t.entity) :: aliasSegments " " .table t.alias?

def exprSegments (es : List Expr) : List (List Segment) := es.map fun e => [.part (.expr e)]

def Branch.segments (b : Branch) : List Segment :=
  own [.text "WHEN "] ++ .part (.expr b.condition) :: own [.text " THEN "] ++ [.part (.expr b.result)]

def Expr.segments : Expr → List Segment
  | .all (some t) => t.qualifierSegments .columns ++ own [.text ".*"]
  | .column c => c.table.qualifierSegments .qualifier ++ own [.text ".", .columnName c]
  | .binary op left right =>
    let inside := .part (.expr left) :: own [.text (" " ++ op.text ++ " ")] ++ [.part (.expr right)]
    if op.encloses then own [.text "("] ++ inside ++ own [.text ")"] else inside
  | .connective op (e :: rest) =>
    own [.text "("] ++ separatedSegments (" " ++ op.text ++ " ") (exprSegments (e :: rest)) ++ own [.text ")"]
  | .not e => own [.text "(NOT "] ++ .part (.expr e) :: own [.text ")"]
  | .empty e negated =>
    own [.text "("] ++ .part (.expr e)
      :: own [.text (if negated then " != " else " = "), .literal "{}", .text ")"]
  | .is e test negated =>
    own [.text "("] ++ .part (.expr e)
      :: own [.text ((if negated then " IS NOT " else " IS ") ++ test.text ++ ")")]
  | .member e [] negated =>
    own [.text "((("] ++ .part (.expr e)
      :: own [.text (if negated then ") = NULL) IS NULL)" else ") = NULL) IS NOT NULL)")]
  | .member e (c :: rest) negated =>
    own [.text "("] ++ .part (.expr e) :: own [.text (if negated then " NOT IN (" else " IN (")]
      ++ separatedSegments ", " (exprSegments (c :: rest)) ++ own [.text "))"]
  | .call function args =>
    own [.verbatim function, .text "("] ++ separatedSegments ", " (exprSegments args) ++ own [.text ")"]
  | .cast e typeName => own [.text "("] ++ .part (.expr e) :: own [.text ")::", .verbatim typeName]
  | .exists query alias? negated =>
    own [.text (if negated then "NOT EXISTS " else "EXISTS "), .text "("] ++ .part (.query query)
      :: own [.text ")"] ++ aliasSegments " " .subQuery alias?
  | .atTimeZone time zone =>
    own (zoneCheck zone ++ [.text "("]) ++ .part (.expr time) :: own [.text " AT TIME ZONE "]
      ++ .part (.expr zone) :: own [.text ")"]
  | .jsonObject entries =>
    own [.text "jsonb_build_object", .text "("]
      ++ separatedSegments ", " (entries.map fun x => own [.literal x.key, .text ", "] ++ [Segment.part (.expr x.value)])
      ++ own [.text ")"]
  | .case (b :: rest) fallback =>
    own [.text "CASE "] ++ separatedSegments " " ((b :: rest).map (·.segments))
      ++ clauseSegments " ELSE " (fallback.map fun e => [.part (.expr e)]) ++ own [.text " END"]
  | .aliasName name => [.mention .literal name]
  | .adapted _ e => [.part (.expr e)]
  | e => own e.pieces

def Projection.segments (p : Projection) : List Segment :=
  .part (.expr p.expr) :: aliasSegments " AS " .projection p.alias?

def Projection.groupSegments (p : Projection) : List Segment :=
  match p.alias? with
  | some name => [.mention .groupKey name]
  | none => [.part (.expr p.expr)]

def Aggregate.segments (a : Aggregate) : List Segment :=
  let call := own [.verbatim a.function, .text "("]
    ++ separatedSegments ", " ([.part (.expr a.expr)] :: a.arguments.map fun v => own [v.piece]) ++ own [.text ")"]
  (if a.unnested then own [.text "unnest", .text "("] ++ call ++ own [.text ")"] else call)
    ++ aliasSegments " AS " .aggregate a.alias?

def OrderTerm.segments : OrderTerm → List Segment
  | .expr e descending nulls =>
    .part (.expr e) :: own (.text (if descending then " DESC" else " ASC") :: nullsPieces nulls)
  | .case (b :: rest) =>
    own [.text "CASE "] ++ separatedSegments " " ((b :: rest).map (·.segments)) ++ own [.text " END"]
  | .case [] => own [.failure (.statement .emptyOrderCase)]

def matchSegments (condition : Option Expr) (shared : Option (List Column)) : List Segment :=
  match condition with
  | some e => .piece (.text " ON ") :: [.part (.expr e)]
  | none => own (joinMatch none shared)

def Join.segments (j : Join) : List Segment :=
  match j.alias? with
  | some name =>
    own [.text (j.kind.text ++ " "), .text "("] ++ .part (.query j.query) :: own [.text ")", .text " "]
      ++ .mention .join name :: matchSegments j.condition j.shared
  | none =>
    own [.text (j.kind.text ++ " ")]
      ++ (match soleTable? j.query.sources with
        | some t => t.segments
        | none => own [.failure (.statement .joinWithoutTable)])
      ++ matchSegments j.condition j.shared

def FromItem.columnSegments : FromItem → List (List Segment)
  | .join j =>
    (markerPieces .start j.into).map own ++ j.query.projections.map (·.segments)
      ++ (markerPieces .stop j.into).map own
  | _ => []

def FromItem.segments : FromItem → List Segment
  | .table t => t.segments
  | .join j => j.segments
  | .query q alias? => own [.text "("] ++ .part (.query q) :: own [.text ")"] ++ aliasSegments " " .subQuery alias?

def distinctSegments (distinct : Bool) (keys : Option (List Projection)) : List Segment :=
  match distinct, keys with
  | false, some keys =>
    own [.text "DISTINCT ON ("] ++ separatedSegments ", " (keys.map (·.segments)) ++ own [.text ") "]
  | true, _ => own [.text "DISTINCT "]
  | false, none => []

def orderingSegments (random : Bool) (terms : Option (List OrderTerm)) : List Segment :=
  match random, terms with
  | false, some terms => .piece (.text " ORDER BY ") :: separatedSegments ", " (terms.map (·.segments))
  | true, _ => own [.text " ORDER BY RANDOM()"]
  | false, none => []

def Query.segments (q : Query) : List Segment :=
  own [.text "SELECT "] ++ distinctSegments q.distinct q.distinctOn
    ++ separatedSegments ", " (q.aggregates.map (·.segments) ++ q.projections.map (·.segments)
      ++ q.sources.flatMap (·.columnSegments))
    ++ .piece (.text " FROM ") :: separatedSegments " " (q.sources.map (·.segments))
    ++ clauseSegments " WHERE " (q.condition.map fun e => [.part (.expr e)])
    ++ clauseSegments " GROUP BY "
      (if q.grouped then some (separatedSegments ", " (q.projections.map (·.groupSegments))) else none)
    ++ orderingSegments q.random q.order
    ++ own (countPieces " LIMIT " q.limit) ++ own (countPieces " OFFSET " q.offset)

def Tree.segments : Tree → List Segment
  | .expr e => e.segments
  | .query q => q.segments

@[simp] theorem flat_nil : flat [] = [] := rfl

@[simp] theorem flat_piece (p : Piece) (rest : List Segment) : flat (.piece p :: rest) = p :: flat rest := rfl

theorem flat_part (t : Tree) (rest : List Segment) : flat (.part t :: rest) = t.pieces ++ flat rest := rfl

@[simp] theorem flat_expr (e : Expr) (rest : List Segment) : flat (.part (.expr e) :: rest) = e.pieces ++ flat rest := rfl

@[simp] theorem flat_query (q : Query) (rest : List Segment) :
    flat (.part (.query q) :: rest) = q.pieces ++ flat rest := rfl

@[simp] theorem flat_mention (m : Mention) (name : String) (rest : List Segment) :
    flat (.mention m name :: rest) = m.piece name :: flat rest := rfl

@[simp] theorem flat_append (segments others : List Segment) : flat (segments ++ others) = flat segments ++ flat others :=
  List.flatMap_append

@[simp] theorem flat_own (pieces : List Piece) : flat (own pieces) = pieces := by
  induction pieces with
  | nil => rfl
  | cons p rest ih => exact congrArg (p :: ·) ih

@[simp] theorem flat_separated (separator : String) (lists : List (List Segment)) :
    flat (separatedSegments separator lists) = separated (.text separator) (lists.map flat) := by
  unfold separatedSegments
  induction lists using separated.induct with
  | case1 => rfl
  | case2 items => rfl
  | case3 items rest hrest ih =>
    cases rest with
    | nil => exact absurd rfl hrest
    | cons other rest =>
      rw [separated, flat_append, flat_piece, ih]
      · rfl
      · exact hrest

theorem exprPieces_eq (es : List Expr) : exprPieces es = es.map (·.pieces) := by
  induction es with
  | nil => rfl
  | cons e rest ih => rw [exprPieces, ih, List.map_cons]

theorem entryPieces_eq (entries : List JsonEntry) :
    entryPieces entries = entries.map fun x => .literal x.key :: .text ", " :: x.value.pieces := by
  induction entries with
  | nil => rfl
  | cons x rest ih =>
    obtain ⟨key, value⟩ := x
    rw [entryPieces, ih, List.map_cons]

theorem branchPieces_eq (bs : List Branch) : branchPieces bs = bs.map (·.pieces) := by
  induction bs with
  | nil => rfl
  | cons b rest ih => rw [branchPieces, ih, List.map_cons]

theorem projectionPieces_eq (ps : List Projection) : projectionPieces ps = ps.map (·.pieces) := by
  induction ps with
  | nil => rfl
  | cons p rest ih => rw [projectionPieces, ih, List.map_cons]

theorem groupPieces_eq (ps : List Projection) : groupPieces ps = ps.map (·.groupPieces) := by
  induction ps with
  | nil => rfl
  | cons p rest ih => rw [groupPieces, ih, List.map_cons]

theorem aggregatePieces_eq (as : List Aggregate) : aggregatePieces as = as.map (·.pieces) := by
  induction as with
  | nil => rfl
  | cons a rest ih => rw [aggregatePieces, ih, List.map_cons]

theorem orderPieces_eq (os : List OrderTerm) : orderPieces os = os.map (·.pieces) := by
  induction os with
  | nil => rfl
  | cons o rest ih => rw [orderPieces, ih, List.map_cons]

theorem sourcePieces_eq (sources : List FromItem) : sourcePieces sources = sources.map (·.pieces) := by
  induction sources with
  | nil => rfl
  | cons item rest ih => rw [sourcePieces, ih, List.map_cons]

theorem joinedColumns_eq (sources : List FromItem) : joinedColumns sources = sources.flatMap (·.columnPieces) := by
  induction sources with
  | nil => rfl
  | cons item rest ih => rw [joinedColumns, ih, List.flatMap_cons]

theorem flat_alias (name : Option String) {m : Mention} (hm : m.isQuoted = false) (lead : String) :
    flat (aliasSegments lead m name) = match name with
      | some name => [.text lead, .verbatim name]
      | none => [] := by
  cases name <;> simp [aliasSegments, Mention.piece, hm]

theorem flat_clause (keyword : String) (segments : Option (List Segment)) :
    flat (clauseSegments keyword segments) = clause keyword (segments.map flat) := by
  cases segments <;> simp [clauseSegments, clause]

theorem Table.flat_qualifier {m : Mention} (hm : m.isQuoted = true) (t : Table) :
    flat (t.qualifierSegments m) = t.qualifier := by
  unfold qualifierSegments qualifier
  cases t.alias? <;> simp [Mention.piece, hm]

theorem Table.flat_segments (t : Table) : flat t.segments = t.pieces := by
  unfold segments pieces aliasSegments
  cases t.alias? <;> simp [Mention.piece, Mention.isQuoted]

theorem flat_exprs (es : List Expr) : (exprSegments es).map flat = exprPieces es := by
  simp [exprSegments, exprPieces_eq]

theorem Branch.flat_segments (b : Branch) : flat b.segments = b.pieces := by
  obtain ⟨condition, result⟩ := b
  simp [segments, pieces]

theorem flat_branches (bs : List Branch) : (bs.map (·.segments)).map flat = branchPieces bs := by
  simp [branchPieces_eq, Branch.flat_segments]

theorem Expr.flat_segments (e : Expr) : flat e.segments = e.pieces := by
  cases e with
  | all table =>
    cases table with
    | none => simp [segments]
    | some t =>
      have hcolumns : Mention.columns.isQuoted = true := rfl
      simp [segments, pieces, Table.flat_qualifier hcolumns]
  | column c =>
    have hqualifier : Mention.qualifier.isQuoted = true := rfl
    simp [segments, pieces, Table.flat_qualifier hqualifier]
  | binary op left right =>
    simp only [segments, pieces, operation]
    split <;> simp [enclosed]
  | connective op items => cases items <;> simp [segments, pieces, enclosed, flat_exprs, exprPieces]
  | member e candidates negated =>
    cases candidates <;> simp [segments, pieces, membership, listed, flat_exprs, exprPieces]
  | call function args => simp [segments, pieces, enclosed, listed, flat_exprs]
  | «exists» query alias? negated =>
    have hquery : Mention.subQuery.isQuoted = false := rfl
    cases alias? <;> simp [segments, pieces, enclosed, flat_alias _ hquery, queryAlias]
  | atTimeZone time zone => simp [segments, pieces]
  | jsonObject entries =>
    have hentry : ∀ x : JsonEntry, flat (own [.literal x.key, .text ", "] ++ [Segment.part (.expr x.value)])
        = .literal x.key :: .text ", " :: x.value.pieces := by simp
    simp [segments, pieces, enclosed, listed, entryPieces_eq, Function.comp_def, hentry]
  | case branches fallback =>
    cases branches with
    | nil => simp [segments]
    | cons b rest =>
      have hfallback : (fallback.map fun e => [Segment.part (.expr e)]).map flat = optionalPieces fallback := by
        cases fallback <;> simp [optionalPieces]
      have hbranches : ((b :: rest).map (·.segments)).map flat = b.pieces :: branchPieces rest :=
        flat_branches (b :: rest)
      simp only [segments, pieces, flat_append, flat_own, flat_separated, flat_clause, hfallback, hbranches,
        List.cons_append, List.nil_append]
  | aliasName name => simp [segments, pieces, Mention.piece, Mention.isQuoted]
  | _ => simp [segments, pieces]

theorem Projection.flat_segments (p : Projection) : flat p.segments = p.pieces := by
  obtain ⟨e, alias?⟩ := p
  have hprojection : Mention.projection.isQuoted = false := rfl
  cases alias? <;> simp [segments, pieces, flat_alias _ hprojection, aliasPieces]

theorem Projection.flat_groupSegments (p : Projection) : flat p.groupSegments = p.groupPieces := by
  obtain ⟨e, alias?⟩ := p
  cases alias? <;> simp [groupSegments, groupPieces, Mention.piece, Mention.isQuoted]

theorem Aggregate.flat_segments (a : Aggregate) : flat a.segments = a.pieces := by
  obtain ⟨function, e, arguments, alias?, unnested⟩ := a
  have haggregate : Mention.aggregate.isQuoted = false := rfl
  have halias : flat (aliasSegments " AS " .aggregate alias?) = aliasPieces alias? := by
    cases alias? <;> simp [flat_alias _ haggregate, aliasPieces]
  cases unnested <;> simp [segments, pieces, halias, enclosed, listed, Function.comp_def]

theorem OrderTerm.flat_segments (o : OrderTerm) : flat o.segments = o.pieces := by
  cases o with
  | expr e descending nulls => simp [segments, pieces]
  | case branches =>
    cases branches with
    | nil => simp [segments, pieces]
    | cons b rest =>
      have hbranches : ((b :: rest).map (·.segments)).map flat = b.pieces :: branchPieces rest :=
        flat_branches (b :: rest)
      simp only [segments, pieces, flat_append, flat_own, flat_separated, hbranches, List.cons_append,
        List.nil_append]

theorem flat_match (condition : Option Expr) (shared : Option (List Column)) :
    flat (matchSegments condition shared) = joinMatch (optionalPieces condition) shared := by
  cases condition <;> simp [matchSegments, optionalPieces, joinMatch]

theorem Join.flat_segments (j : Join) : flat j.segments = j.pieces := by
  obtain ⟨query, kind, into, condition, shared, alias?⟩ := j
  cases alias? with
  | some name => simp [segments, pieces, enclosed, flat_match, Mention.piece, Mention.isQuoted]
  | none =>
    have hsole : flat (match soleTable? query.sources with
        | some t => t.segments
        | none => own [.failure (.statement .joinWithoutTable)]) = solePieces query.sources := by
      unfold solePieces
      cases soleTable? query.sources <;> simp [Table.flat_segments]
    simp [segments, pieces, flat_match, hsole]

theorem FromItem.flat_columnSegments (i : FromItem) : i.columnSegments.map flat = i.columnPieces := by
  cases i with
  | join j =>
    obtain ⟨⟨projections, _, _, _, _, _, _, _, _, _, _⟩, kind, into, condition, shared, alias?⟩ := j
    simp [columnSegments, columnPieces, projectionPieces_eq, Projection.flat_segments, Function.comp_def]
  | _ => simp [columnSegments, columnPieces]

theorem FromItem.flat_segments (i : FromItem) : flat i.segments = i.pieces := by
  cases i with
  | table t => simp [segments, pieces, Table.flat_segments]
  | join j => simp [segments, pieces, Join.flat_segments]
  | query q alias? =>
    have hquery : Mention.subQuery.isQuoted = false := rfl
    cases alias? <;> simp [segments, pieces, enclosed, flat_alias _ hquery, queryAlias]

theorem flat_distinct (distinct : Bool) (keys : Option (List Projection)) :
    flat (distinctSegments distinct keys) = distinctPieces distinct (optionalKeys keys) := by
  cases distinct <;> cases keys <;>
    simp [distinctSegments, distinctPieces, optionalKeys, listed, projectionPieces_eq, Projection.flat_segments,
      Function.comp_def]

theorem flat_ordering (random : Bool) (terms : Option (List OrderTerm)) :
    flat (orderingSegments random terms) = orderingPieces random (optionalOrder terms) := by
  cases random <;> cases terms <;>
    simp [orderingSegments, orderingPieces, optionalOrder, listed, orderPieces_eq, OrderTerm.flat_segments,
      Function.comp_def]

theorem Query.flat_segments (q : Query) : flat q.segments = q.pieces := by
  obtain ⟨projections, aggregates, sources, condition, order, limit, offset, grouped, distinct, random, distinctOn⟩ := q
  have hselected : (aggregates.map (·.segments) ++ projections.map (·.segments)
      ++ sources.flatMap (·.columnSegments)).map flat
        = aggregatePieces aggregates ++ projectionPieces projections ++ joinedColumns sources := by
    simp [aggregatePieces_eq, projectionPieces_eq, joinedColumns_eq, Aggregate.flat_segments, Projection.flat_segments,
      FromItem.flat_columnSegments, List.map_flatMap, Function.comp_def]
  have hsources : (sources.map (·.segments)).map flat = sourcePieces sources := by
    simp [sourcePieces_eq, FromItem.flat_segments]
  have hcondition : (condition.map fun e => [Segment.part (.expr e)]).map flat = optionalPieces condition := by
    cases condition <;> simp [optionalPieces]
  have hgrouping : (if grouped then some (separatedSegments ", " (projections.map (·.groupSegments))) else none).map flat
      = if grouped then some (listed (groupPieces projections)) else none := by
    cases grouped <;> simp [listed, groupPieces_eq, Projection.flat_groupSegments, Function.comp_def]
  simp only [segments, pieces, flat_append, flat_own, flat_piece, flat_separated, flat_clause, flat_distinct,
    flat_ordering, hselected, hsources, hcondition, hgrouping, listed, List.cons_append, List.nil_append]

theorem Tree.flat_segments (t : Tree) : flat t.segments = t.pieces := by
  cases t with
  | expr e => exact e.flat_segments
  | query q => exact q.flat_segments

def Text.isCloser (c : Char) : Bool := c == ' ' || c == ',' || c == ')' || c == '.'

def Piece.Closes : Piece → Prop
  | .text s => s.toList.head?.any Text.isCloser = true
  | .failure _ => True
  | _ => False

instance : (p : Piece) → Decidable p.Closes
  | .text s => inferInstanceAs (Decidable (s.toList.head?.any Text.isCloser = true))
  | .failure _ => .isTrue trivial
  | .verbatim _ | .identifier _ | .literal _ | .bound _ | .tableName _ | .columnName _ | .marker _ _ => .isFalse id

def Closes (pieces : List Piece) : Prop := ∀ p ∈ pieces.head?, p.Closes

def Ends : List Segment → Prop
  | [] => True
  | .piece p :: _ => p.Closes
  | _ => False

def Spaced : List Segment → Prop
  | [] => True
  | .piece _ :: rest => Spaced rest
  | .part _ :: rest | .mention _ _ :: rest => Ends rest ∧ Spaced rest

theorem closes_flat {segments : List Segment} (h : Ends segments) : Closes (flat segments) := by
  cases segments with
  | nil => simp [Closes]
  | cons segment rest =>
    cases segment with
    | piece p =>
      intro other hother
      cases hother
      exact h
    | _ => exact h.elim

theorem ends_append {segments others : List Segment} (h : Ends segments) (hothers : Ends others) :
    Ends (segments ++ others) := by
  cases segments with
  | nil => exact hothers
  | cons segment rest => cases segment <;> exact h

theorem spaced_append {segments others : List Segment} (h : Spaced segments) (hends : Ends others)
    (hothers : Spaced others) : Spaced (segments ++ others) := by
  induction segments with
  | nil => exact hothers
  | cons segment rest ih =>
    cases segment with
    | piece p => exact ih h
    | _ => exact ⟨ends_append h.1 hends, ih h.2⟩

theorem spaced_own_append (pieces : List Piece) {rest : List Segment} (h : Spaced rest) :
    Spaced (own pieces ++ rest) := by
  induction pieces with
  | nil => exact h
  | cons p pieces ih => exact ih

theorem spaced_own (pieces : List Piece) : Spaced (own pieces) := by
  rw [← List.append_nil (own pieces)]
  exact spaced_own_append pieces trivial

theorem spaced_part (t : Tree) {rest : List Segment} (hends : Ends rest) (h : Spaced rest) : Spaced (.part t :: rest) :=
  ⟨hends, h⟩

theorem spaced_separated {separator : String} (hs : (Piece.text separator).Closes) {lists : List (List Segment)}
    (h : ∀ segments ∈ lists, Spaced segments) : Spaced (separatedSegments separator lists) := by
  unfold separatedSegments
  induction lists using separated.induct with
  | case1 => trivial
  | case2 items => exact h items List.mem_cons_self
  | case3 items rest hrest ih =>
    rw [List.forall_mem_cons] at h
    rw [separated]
    · exact spaced_append h.1 hs (ih h.2)
    · exact hrest

theorem spaced_alias (lead : String) (m : Mention) (name : Option String) : Spaced (aliasSegments lead m name) := by
  cases name with
  | none => trivial
  | some name => exact ⟨trivial, trivial⟩

theorem ends_alias {lead : String} (hlead : (Piece.text lead).Closes) (m : Mention) (name : Option String) :
    Ends (aliasSegments lead m name) := by
  cases name with
  | none => trivial
  | some name => exact hlead

theorem spaced_clause (keyword : String) {segments : Option (List Segment)} (h : ∀ s ∈ segments, Spaced s) :
    Spaced (clauseSegments keyword segments) := by
  cases segments with
  | none => trivial
  | some s => exact h s rfl

theorem ends_clause {keyword : String} (hkeyword : (Piece.text keyword).Closes) (segments : Option (List Segment)) :
    Ends (clauseSegments keyword segments) := by
  cases segments with
  | none => trivial
  | some s => exact hkeyword

theorem spaced_exprs (es : List Expr) : ∀ segments ∈ exprSegments es, Spaced segments := by
  intro segments h
  obtain ⟨e, -, rfl⟩ := List.mem_map.mp h
  exact ⟨trivial, trivial⟩

theorem Table.spaced_qualifier (m : Mention) (t : Table) : Spaced (t.qualifierSegments m) := by
  unfold qualifierSegments
  split
  · exact ⟨trivial, trivial⟩
  · exact spaced_own _

theorem Table.spaced_segments (t : Table) : Spaced t.segments := spaced_alias _ _ _

theorem closes_append {s t : String} (h : (Piece.text s).Closes) : (Piece.text (s ++ t)).Closes := by
  rw [Piece.Closes] at h ⊢
  rw [String.toList_append]
  cases hchars : s.toList with
  | nil => simp [hchars] at h
  | cons c rest => simpa [hchars] using h

theorem Branch.spaced_segments (b : Branch) : Spaced b.segments := by
  have hthen : (Piece.text " THEN ").Closes := by decide
  exact ⟨hthen, trivial, trivial⟩

theorem spaced_branches (bs : List Branch) : ∀ segments ∈ bs.map (·.segments), Spaced segments := by
  intro segments h
  obtain ⟨b, -, rfl⟩ := List.mem_map.mp h
  exact b.spaced_segments

theorem Expr.spaced_segments (e : Expr) : Spaced e.segments := by
  have hclose : (Piece.text ")").Closes := by decide
  have hdot : (Piece.text ".").Closes := by decide
  have hspace : (Piece.text " ").Closes := by decide
  have hcomma : (Piece.text ", ").Closes := by decide
  cases e with
  | all table =>
    cases table with
    | none => exact spaced_own _
    | some t =>
      have hcolumns : (Piece.text ".*").Closes := by decide
      exact spaced_append (t.spaced_qualifier _) hcolumns (spaced_own _)
  | column c => exact spaced_append (c.table.spaced_qualifier _) hdot (spaced_own _)
  | binary op left right =>
    have hop : (Piece.text (" " ++ op.text ++ " ")).Closes := closes_append (closes_append hspace)
    rw [segments]
    split
    · exact ⟨hop, hclose, trivial⟩
    · exact ⟨hop, trivial, trivial⟩
  | connective op items =>
    cases items with
    | nil => exact spaced_own _
    | cons e rest =>
      have hop : (Piece.text (" " ++ op.text ++ " ")).Closes := closes_append (closes_append hspace)
      have hitems := spaced_separated hop (spaced_exprs (e :: rest))
      exact spaced_append (spaced_own_append _ hitems) hclose (spaced_own _)
  | not e => exact ⟨hclose, trivial⟩
  | empty e negated =>
    have hsign : (Piece.text (if negated then " != " else " = ")).Closes := by cases negated <;> decide
    exact ⟨hsign, trivial⟩
  | is e test negated =>
    have htest : (Piece.text ((if negated then " IS NOT " else " IS ") ++ test.text ++ ")")).Closes :=
      closes_append (closes_append (by cases negated <;> decide))
    exact ⟨htest, trivial⟩
  | member e candidates negated =>
    cases candidates with
    | nil =>
      have htest : (Piece.text (if negated then ") = NULL) IS NULL)" else ") = NULL) IS NOT NULL)")).Closes := by
        cases negated <;> decide
      exact ⟨htest, trivial⟩
    | cons c rest =>
      have hin : (Piece.text (if negated then " NOT IN (" else " IN (")).Closes := by cases negated <;> decide
      have hend : (Piece.text "))").Closes := by decide
      have hcandidates : Spaced (.piece (.text (if negated then " NOT IN (" else " IN ("))
          :: separatedSegments ", " (exprSegments (c :: rest))) := spaced_separated hcomma (spaced_exprs (c :: rest))
      exact spaced_append (spaced_part (.expr e) hin hcandidates) hend (spaced_own _)
  | call function args =>
    have hargs := spaced_separated hcomma (spaced_exprs args)
    exact spaced_append (spaced_own_append _ hargs) hclose (spaced_own _)
  | cast e typeName =>
    have hcast : (Piece.text ")::").Closes := by decide
    exact ⟨hcast, trivial⟩
  | «exists» query alias? negated =>
    exact spaced_append (spaced_part (.query query) hclose (spaced_own [.text ")"])) (ends_alias hspace _ _)
      (spaced_alias _ _ _)
  | atTimeZone time zone =>
    have hzone : (Piece.text " AT TIME ZONE ").Closes := by decide
    rw [segments, List.append_assoc]
    exact spaced_own_append _ ⟨hzone, hclose, trivial⟩
  | jsonObject entries =>
    have hentries : Spaced (separatedSegments ", "
        (entries.map fun x => own [.literal x.key, .text ", "] ++ [Segment.part (.expr x.value)])) := by
      refine spaced_separated hcomma fun segments h => ?_
      obtain ⟨x, -, rfl⟩ := List.mem_map.mp h
      exact ⟨trivial, trivial⟩
    exact spaced_append (spaced_own_append _ hentries) hclose (spaced_own _)
  | case branches fallback =>
    cases branches with
    | nil => exact spaced_own _
    | cons b rest =>
      have helse : (Piece.text " ELSE ").Closes := by decide
      have hend : (Piece.text " END").Closes := by decide
      have hbranches := spaced_separated hspace (spaced_branches (b :: rest))
      have hfallback : Spaced (clauseSegments " ELSE " (fallback.map fun e => [.part (.expr e)])) :=
        spaced_clause _ fun s hs => by
          obtain ⟨e, -, rfl⟩ := Option.map_eq_some_iff.mp hs
          exact ⟨trivial, trivial⟩
      exact spaced_append (spaced_append (spaced_own_append _ hbranches) (ends_clause helse _) hfallback) hend
        (spaced_own _)
  | aliasName name => exact ⟨trivial, trivial⟩
  | adapted adapter e => exact ⟨trivial, trivial⟩
  | _ => exact spaced_own _

theorem Projection.spaced_segments (p : Projection) : Spaced p.segments :=
  spaced_part _ (ends_alias (by decide) _ _) (spaced_alias _ _ _)

theorem spaced_projections (ps : List Projection) : ∀ segments ∈ ps.map (·.segments), Spaced segments :=
  List.forall_mem_map.mpr fun p _ => p.spaced_segments

theorem Projection.spaced_groupSegments (p : Projection) : Spaced p.groupSegments := by
  unfold groupSegments
  split <;> exact ⟨trivial, trivial⟩

theorem Aggregate.spaced_segments (a : Aggregate) : Spaced a.segments := by
  have hclose : (Piece.text ")").Closes := by decide
  have hargs : Spaced (separatedSegments ", " ([.part (.expr a.expr)] :: a.arguments.map fun v => own [v.piece])) := by
    refine spaced_separated (by decide) (List.forall_mem_cons.mpr ⟨⟨trivial, trivial⟩, ?_⟩)
    exact List.forall_mem_map.mpr fun v _ => spaced_own _
  have hcall : Spaced (own [.verbatim a.function, .text "("]
      ++ separatedSegments ", " ([.part (.expr a.expr)] :: a.arguments.map fun v => own [v.piece]) ++ own [.text ")"]) :=
    spaced_append (spaced_own_append _ hargs) hclose (spaced_own _)
  refine spaced_append ?_ (ends_alias (by decide) _ _) (spaced_alias _ _ _)
  cases a.unnested with
  | false => exact hcall
  | true => exact spaced_append (spaced_own_append _ hcall) hclose (spaced_own _)

theorem OrderTerm.spaced_segments (o : OrderTerm) : Spaced o.segments := by
  cases o with
  | expr e descending nulls =>
    have hdirection : (Piece.text (if descending then " DESC" else " ASC")).Closes := by cases descending <;> decide
    exact spaced_part _ hdirection (spaced_own _)
  | case branches =>
    cases branches with
    | nil => exact spaced_own _
    | cons b rest =>
      have hspace : (Piece.text " ").Closes := by decide
      have hend : (Piece.text " END").Closes := by decide
      have hbranches := spaced_separated hspace (spaced_branches (b :: rest))
      exact spaced_append (spaced_own_append _ hbranches) hend (spaced_own _)

theorem ends_match (condition : Option Expr) (shared : Option (List Column)) :
    Ends (matchSegments condition shared) := by
  cases condition with
  | some e => exact (by decide : (Piece.text " ON ").Closes)
  | none =>
    cases shared with
    | none => exact (trivial : (Piece.failure _).Closes)
    | some columns => exact (by decide : (Piece.text " USING ").Closes)

theorem spaced_match (condition : Option Expr) (shared : Option (List Column)) :
    Spaced (matchSegments condition shared) := by
  cases condition with
  | some e => exact ⟨trivial, trivial⟩
  | none => exact spaced_own _

theorem Join.spaced_segments (j : Join) : Spaced j.segments := by
  have hclose : (Piece.text ")").Closes := by decide
  have hmatch := spaced_match j.condition j.shared
  rw [segments]
  split
  · rw [List.append_assoc]
    exact spaced_own_append _ ⟨hclose, ends_match _ _, hmatch⟩
  · refine spaced_append (spaced_own_append _ ?_) (ends_match _ _) hmatch
    split
    · exact Table.spaced_segments _
    · exact spaced_own _

theorem FromItem.spaced_columnSegments (i : FromItem) : ∀ segments ∈ i.columnSegments, Spaced segments := by
  cases i with
  | join j =>
    have hmarkers : ∀ boundary, ∀ segments ∈ (markerPieces boundary j.into).map own, Spaced segments := fun _ =>
      List.forall_mem_map.mpr fun pieces _ => spaced_own pieces
    exact List.forall_mem_append.mpr ⟨List.forall_mem_append.mpr ⟨hmarkers _, spaced_projections _⟩, hmarkers _⟩
  | _ => simp [columnSegments]

theorem FromItem.spaced_segments (i : FromItem) : Spaced i.segments := by
  have hclose : (Piece.text ")").Closes := by decide
  cases i with
  | table t => exact t.spaced_segments
  | join j => exact j.spaced_segments
  | query q alias? =>
    exact spaced_append (spaced_part (.query q) hclose (spaced_own [.text ")"])) (ends_alias (by decide) _ _)
      (spaced_alias _ _ _)

theorem spaced_distinct_append (distinct : Bool) (keys : Option (List Projection)) {rest : List Segment}
    (h : Spaced rest) : Spaced (distinctSegments distinct keys ++ rest) := by
  have hclose : (Piece.text ") ").Closes := by decide
  have hcomma : (Piece.text ", ").Closes := by decide
  cases distinct with
  | true => exact spaced_own_append _ h
  | false =>
    cases keys with
    | none => exact h
    | some keys =>
      have hkeys := spaced_separated hcomma (spaced_projections keys)
      rw [distinctSegments, List.append_assoc]
      exact spaced_append (spaced_own_append _ hkeys) hclose (spaced_own_append _ h)

theorem ends_ordering (random : Bool) (terms : Option (List OrderTerm)) : Ends (orderingSegments random terms) := by
  cases random with
  | true => exact (by decide : (Piece.text " ORDER BY RANDOM()").Closes)
  | false =>
    cases terms with
    | none => trivial
    | some terms => exact (by decide : (Piece.text " ORDER BY ").Closes)

theorem spaced_ordering (random : Bool) (terms : Option (List OrderTerm)) : Spaced (orderingSegments random terms) := by
  have hcomma : (Piece.text ", ").Closes := by decide
  cases random with
  | true => exact spaced_own _
  | false =>
    cases terms with
    | none => trivial
    | some terms => exact spaced_separated hcomma (List.forall_mem_map.mpr fun o _ => o.spaced_segments)

theorem ends_count {keyword : String} (hkeyword : (Piece.text keyword).Closes) (count : Option UInt64) :
    Ends (own (countPieces keyword count)) := by
  cases count with
  | none => trivial
  | some n => exact closes_append hkeyword

theorem Query.spaced_segments (q : Query) : Spaced q.segments := by
  have hcomma : (Piece.text ", ").Closes := by decide
  have hspace : (Piece.text " ").Closes := by decide
  have hfrom : (Piece.text " FROM ").Closes := by decide
  have hselected : ∀ segments ∈ q.aggregates.map (·.segments) ++ q.projections.map (·.segments)
      ++ q.sources.flatMap (·.columnSegments), Spaced segments := by
    refine List.forall_mem_append.mpr ⟨List.forall_mem_append.mpr ⟨?_, spaced_projections _⟩, ?_⟩
    · exact List.forall_mem_map.mpr fun a _ => a.spaced_segments
    · intro segments h
      obtain ⟨i, -, hi⟩ := List.mem_flatMap.mp h
      exact i.spaced_columnSegments segments hi
  have hsources : Spaced (separatedSegments " " (q.sources.map (·.segments))) :=
    spaced_separated hspace (List.forall_mem_map.mpr fun i _ => i.spaced_segments)
  have hcondition : Spaced (clauseSegments " WHERE " (q.condition.map fun e => [.part (.expr e)])) :=
    spaced_clause _ fun s hs => by
      obtain ⟨e, -, rfl⟩ := Option.map_eq_some_iff.mp hs
      exact ⟨trivial, trivial⟩
  have hgroups : Spaced (separatedSegments ", " (q.projections.map (·.groupSegments))) :=
    spaced_separated hcomma (List.forall_mem_map.mpr fun p _ => p.spaced_groupSegments)
  have hgrouping : Spaced (clauseSegments " GROUP BY "
      (if q.grouped then some (separatedSegments ", " (q.projections.map (·.groupSegments))) else none)) :=
    spaced_clause _ fun s hs => by
      split at hs
      · cases hs
        exact hgroups
      · cases hs
  -- each clause opens with a blank, so it closes what stands before it
  refine spaced_append ?_ (ends_count (by decide) _) (spaced_own _)
  refine spaced_append ?_ (ends_count (by decide) _) (spaced_own _)
  refine spaced_append ?_ (ends_ordering _ _) (spaced_ordering _ _)
  refine spaced_append ?_ (ends_clause (by decide) _) hgrouping
  refine spaced_append ?_ (ends_clause (by decide) _) hcondition
  refine spaced_append ?_ hfrom hsources
  rw [List.append_assoc]
  exact spaced_own_append _ (spaced_distinct_append _ _ (spaced_separated hcomma hselected))

theorem Tree.spaced_segments (t : Tree) : Spaced t.segments := by
  cases t with
  | expr e => exact e.spaced_segments
  | query q => exact q.spaced_segments

end RelationalMapping
