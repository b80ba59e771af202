import RelationalMapping.Proofs.Sql.Wording
import RelationalMapping.Proofs.Text.Scanning

namespace RelationalMapping

def Leads (s : String) (before after : Nat) : Prop :=
  s ≠ "" ∧ isWording s = true ∧ Text.depthAfter s.toList before = some after

instance (s : String) (before after : Nat) : Decidable (Leads s before after) :=
  inferInstanceAs (Decidable (_ ∧ _ ∧ _))

theorem Leads.add {s : String} {before after : Nat} (h : Leads s before after) (more : Nat) :
    Leads s (before + more) (after + more) :=
  ⟨h.1, h.2.1, Text.depthAfter_add h.2.2 more⟩

def Piece.IsOwn : Piece → Prop
  | .text _ | .failure _ => False
  | _ => True

def Opens : List Piece → Prop
  | [] | .text _ :: _ | .failure _ :: _ => True
  | _ => False

inductive Phrase : Nat → List Piece → Nat → Prop
  | nil (depth : Nat) : Phrase depth [] depth
  | text {s : String} {before between after : Nat} {rest : List Piece} (hs : Leads s before between)
      (hrest : Phrase between rest after) : Phrase before (.text s :: rest) after
  | own {p : Piece} {before after : Nat} {rest : List Piece} (hp : p.IsOwn) (hopens : Opens rest)
      (hrest : Phrase before rest after) : Phrase before (p :: rest) after
  | failure {before after : Nat} {rest : List Piece} (fault : Error) (hrest : Phrase before rest after) :
    Phrase before (.failure fault :: rest) after

theorem opens_append {pieces others : List Piece} (h : Opens pieces) (hothers : Opens others) :
    Opens (pieces ++ others) := by
  cases pieces with
  | nil => exact hothers
  | cons p rest => cases p <;> exact h

theorem phrase_append {pieces others : List Piece} {before between after : Nat} (h : Phrase before pieces between)
    (hopens : Opens others) (hothers : Phrase between others after) :
    Phrase before (pieces ++ others) after := by
  induction h with
  | nil => exact hothers
  | text hs _ ih => exact .text hs (ih hothers)
  | own hp hrest _ ih => exact .own hp (opens_append hrest hopens) (ih hothers)
  | failure fault _ ih => exact .failure fault (ih hothers)

def Whole (pieces : List Piece) : Prop := ∀ depth, Phrase depth pieces depth

theorem whole_nil : Whole [] := .nil

theorem whole_failure (fault : Error) : Whole [.failure fault] := fun depth => .failure fault (.nil depth)

theorem whole_own (p : Piece) (hp : p.IsOwn) {rest : List Piece} (hopens : Opens rest) (hrest : Whole rest) :
    Whole (p :: rest) :=
  fun depth => .own hp hopens (hrest depth)

theorem whole_single {p : Piece} (hp : p.IsOwn) : Whole [p] := whole_own p hp trivial whole_nil

theorem whole_append {pieces others : List Piece} (h : Whole pieces) (hopens : Opens others) (hothers : Whole others) :
    Whole (pieces ++ others) :=
  fun depth => phrase_append (h depth) hopens (hothers depth)

theorem whole_text {s : String} (hs : Leads s 0 0) {rest : List Piece} (hrest : Whole rest) :
    Whole (.text s :: rest) := by
  intro depth
  have hdepth := hs.add depth
  rw [Nat.zero_add] at hdepth
  exact .text hdepth (hrest depth)

theorem whole_around {start stop : String} {n : Nat} (hstart : Leads start 0 n) (hstop : Leads stop n 0)
    {pieces rest : List Piece} (h : Whole pieces) (hrest : Whole rest) :
    Whole (.text start :: (pieces ++ .text stop :: rest)) := by
  intro depth
  have hopen := hstart.add depth
  have hclose := hstop.add depth
  rw [Nat.zero_add] at hopen hclose
  exact .text hopen (phrase_append (h _) trivial (.text hclose (hrest depth)))

theorem whole_separated (separator : String) (hs : Leads separator 0 0) {lists : List (List Piece)}
    (h : ∀ pieces ∈ lists, Whole pieces) : Whole (separated (.text separator) lists) := by
  induction lists using separated.induct with
  | case1 => exact whole_nil
  | case2 items => exact h items List.mem_cons_self
  | case3 items rest hrest ih =>
    rw [List.forall_mem_cons] at h
    rw [separated]
    · exact whole_append h.1 trivial (whole_text hs (ih h.2))
    · exact hrest

theorem whole_listed {lists : List (List Piece)} (h : ∀ pieces ∈ lists, Whole pieces) : Whole (listed lists) :=
  whole_separated ", " (by decide) h

theorem whole_enclosed {pieces : List Piece} (h : Whole pieces) : Whole (enclosed pieces) :=
  whole_around (n := 1) (by decide) (by decide) h whole_nil

theorem Phrase.worded {pieces : List Piece} {before after : Nat} (h : Phrase before pieces after) : Worded pieces := by
  induction h with
  | nil => exact worded_nil
  | text hs _ ih => exact worded_cons.mpr ⟨hs.2.1, ih⟩
  | @own p _ _ _ hp _ _ ih =>
    refine worded_cons.mpr ⟨?_, ih⟩
    cases p <;> first | exact hp.elim | trivial
  | failure fault _ ih => exact worded_cons.mpr ⟨trivial, ih⟩

theorem Whole.worded {pieces : List Piece} (h : Whole pieces) : Worded pieces := (h 0).worded

theorem whole_qualifier (t : Table) : Whole t.qualifier := by
  unfold Table.qualifier
  split <;> exact whole_single trivial

theorem whole_table (t : Table) : Whole t.pieces := by
  unfold Table.pieces
  split
  · exact whole_own (.tableName _) trivial trivial (whole_text (by decide) (whole_single trivial))
  · exact whole_single trivial

theorem whole_columnNames (columns : List Column) : Whole (columnNames columns) := by
  refine whole_listed fun pieces hpieces => ?_
  obtain ⟨c, -, rfl⟩ := List.mem_map.mp hpieces
  exact whole_single trivial

theorem leads_binaryOp (op : BinaryOp) : Leads (" " ++ op.text ++ " ") 0 0 := by
  cases op with
  | arithmetic op => cases op <;> decide
  | date op => cases op <;> decide
  | scaleInterval => decide
  | comparison op => cases op <;> decide
  | array op => cases op <;> decide
  | pattern op negated => cases op <;> cases negated <;> decide
  | json op => cases op <;> decide
  | concatJson => decide

theorem whole_operation (op : BinaryOp) {left right : List Piece} (hl : Whole left) (hr : Whole right) :
    Whole (operation op left right) := by
  have hpieces : Whole (left ++ .text (" " ++ op.text ++ " ") :: right) :=
    whole_append hl trivial (whole_text (leads_binaryOp op) hr)
  unfold operation
  split
  · exact whole_enclosed hpieces
  · exact hpieces

theorem whole_value (v : Value) : Whole [v.piece] := by
  cases v with
  | null => exact whole_text (by decide) whole_nil
  | _ => exact whole_single trivial

theorem whole_values (arguments : List Value) : ∀ pieces ∈ arguments.map fun v => [v.piece], Whole pieces := by
  intro pieces hpieces
  obtain ⟨v, -, rfl⟩ := List.mem_map.mp hpieces
  exact whole_value v

theorem whole_membership {e : List Piece} (he : Whole e) {candidates : List (List Piece)}
    (hc : ∀ pieces ∈ candidates, Whole pieces) (negated : Bool) : Whole (membership e candidates negated) := by
  unfold membership
  split
  · cases negated with
    | false => exact whole_around (n := 3) (by decide) (by decide) he whole_nil
    | true => exact whole_around (n := 3) (by decide) (by decide) he whole_nil
  · -- the last two parentheses close in one text, so this is not one enclosed phrase in another
    intro depth
    have hin : Leads (if negated then " NOT IN (" else " IN (") 1 2 := by cases negated <;> decide
    have hopen : Leads "(" (0 + depth) (1 + depth) := Leads.add (by decide) depth
    have hclose : Leads "))" (2 + depth) (0 + depth) := Leads.add (by decide) depth
    rw [Nat.zero_add] at hopen hclose
    rw [List.append_assoc]
    refine .text hopen (phrase_append (he _) trivial (.text (hin.add depth) ?_))
    exact phrase_append (whole_listed hc _) trivial (.text hclose (.nil depth))

theorem whole_alias (name : Option String) : Whole (aliasPieces name) := by
  cases name with
  | none => exact whole_nil
  | some name => exact whole_text (by decide) (whole_single trivial)

theorem whole_queryAlias (name : Option String) : Whole (queryAlias name) := by
  cases name with
  | none => exact whole_nil
  | some name => exact whole_text (by decide) (whole_single trivial)

theorem whole_zoneCheck (zone : Expr) : Whole (zoneCheck zone) := by
  unfold zoneCheck
  split
  · split
    · exact whole_nil
    · exact whole_failure _
  · exact whole_nil

theorem whole_markers (edge : Edge) (into : Option IntoField) : ∀ pieces ∈ markerPieces edge into, Whole pieces := by
  cases into with
  | none => exact fun pieces h => absurd h List.not_mem_nil
  | some into => exact List.forall_mem_singleton.mpr (whole_single trivial)

theorem leads_toString {keyword : String} (h : Leads keyword 0 0) (n : Nat) : Leads (keyword ++ toString n) 0 0 := by
  have hdigits : ∀ c ∈ (toString n).toList, c.isDigit = true := by
    rw [Nat.toString_eq_ofList_toDigits, String.toList_ofList]
    exact fun c hc => Nat.isDigit_of_mem_toDigits (by decide) (by decide) hc
  have hdepth : Text.depthAfter (toString n).toList 0 = some 0 := by
    refine Text.depthAfter_of_not_mem (fun hmem => ?_) (fun hmem => ?_) 0
    · exact absurd (hdigits _ hmem) (by decide)
    · exact absurd (hdigits _ hmem) (by decide)
  refine ⟨fun hempty => h.1 (String.append_eq_empty_iff.mp hempty).1, ?_, ?_⟩
  · exact isWording_append h.2.1 (isWording_toString n)
  · rw [String.toList_append, Text.depthAfter_append, h.2.2]
    exact hdepth

theorem whole_count (keyword : String) (h : Leads keyword 0 0) (n : Option UInt64) :
    Whole (countPieces keyword n) := by
  cases n with
  | none => exact whole_nil
  | some n => exact whole_text (leads_toString h n.toNat) whole_nil

theorem whole_clause (keyword : String) (hk : Leads keyword 0 0) {pieces : Option (List Piece)}
    (h : ∀ ps ∈ pieces, Whole ps) : Whole (clause keyword pieces) := by
  cases pieces with
  | none => exact whole_nil
  | some ps => exact whole_text hk (h ps rfl)

theorem whole_distinct (distinct : Bool) {keys : Option (List (List Piece))}
    (h : ∀ lists ∈ keys, ∀ pieces ∈ lists, Whole pieces) {rest : List Piece} (hrest : Whole rest) :
    Whole (distinctPieces distinct keys ++ rest) := by
  unfold distinctPieces
  split
  · exact whole_text (by decide) hrest
  · rw [List.append_assoc]
    exact whole_around (n := 1) (by decide) (by decide) (whole_listed (h _ rfl)) hrest
  · exact hrest

theorem whole_ordering (random : Bool) {terms : Option (List (List Piece))}
    (h : ∀ lists ∈ terms, ∀ pieces ∈ lists, Whole pieces) : Whole (orderingPieces random terms) := by
  unfold orderingPieces
  split
  · exact whole_text (by decide) whole_nil
  · exact whole_text (by decide) (whole_listed (h _ rfl))
  · exact whole_nil

theorem whole_grouping (grouped : Bool) {lists : List (List Piece)} (h : ∀ pieces ∈ lists, Whole pieces) :
    Whole (clause " GROUP BY " (if grouped then some (listed lists) else none)) := by
  refine whole_clause _ (by decide) fun pieces hpieces => ?_
  cases grouped with
  | true =>
    cases hpieces
    exact whole_listed h
  | false => cases hpieces

theorem whole_nulls (nulls : Option NullsOrder) : Whole (nullsPieces nulls) := by
  cases nulls with
  | none => exact whole_nil
  | some order => cases order <;> exact whole_text (by decide) whole_nil

theorem whole_sole (sources : List FromItem) : Whole (solePieces sources) := by
  unfold solePieces
  split
  · exact whole_table _
  · exact whole_failure _

theorem whole_joinMatch {condition : Option (List Piece)} (h : ∀ pieces ∈ condition, Whole pieces)
    (shared : Option (List Column)) : Whole (joinMatch condition shared) := by
  unfold joinMatch
  split
  · exact whole_text (by decide) (h _ rfl)
  · exact whole_text (by decide) (whole_columnNames _)
  · exact whole_failure _

theorem opens_alias (name : Option String) : Opens (aliasPieces name) := by cases name <;> trivial

theorem opens_queryAlias (name : Option String) : Opens (queryAlias name) := by cases name <;> trivial

theorem opens_clause (keyword : String) (pieces : Option (List Piece)) : Opens (clause keyword pieces) := by
  cases pieces <;> trivial

theorem opens_count (keyword : String) (n : Option UInt64) : Opens (countPieces keyword n) := by
  cases n <;> trivial

theorem opens_ordering (random : Bool) (terms : Option (List (List Piece))) :
    Opens (orderingPieces random terms) := by
  unfold orderingPieces
  split <;> trivial

theorem opens_joinMatch (condition : Option (List Piece)) (shared : Option (List Column)) :
    Opens (joinMatch condition shared) := by
  unfold joinMatch
  split <;> trivial

mutual

theorem Expr.pieces_whole : (e : Expr) → Whole e.pieces
  | .all (some t) => by
    rw [Expr.pieces]
    exact whole_append (whole_qualifier t) trivial (whole_text (by decide) whole_nil)
  | .all none => by
    rw [Expr.pieces]
    exact whole_text (by decide) whole_nil
  | .column c => by
    rw [Expr.pieces]
    exact whole_append (whole_qualifier c.table) trivial (whole_text (by decide) (whole_single trivial))
  | .distinct c => by
    rw [Expr.pieces]
    exact whole_text (by decide) (whole_single trivial)
  | .value v => by
    rw [Expr.pieces]
    exact whole_value v
  | .array elementType items => by
    rw [Expr.pieces]
    exact whole_single trivial
  | .binary op left right => by
    rw [Expr.pieces]
    exact whole_operation op left.pieces_whole right.pieces_whole
  | .connective op [] => by
    rw [Expr.pieces]
    exact whole_text (by cases op <;> decide) whole_nil
  | .connective op (e :: rest) => by
    have hop : Leads (" " ++ op.text ++ " ") 0 0 := by cases op <;> decide
    rw [Expr.pieces]
    refine whole_enclosed (whole_separated _ hop ?_)
    exact List.forall_mem_cons.mpr ⟨e.pieces_whole, exprPieces_whole rest⟩
  | .not e => by
    rw [Expr.pieces]
    exact whole_around (n := 1) (by decide) (by decide) e.pieces_whole whole_nil
  | .empty e negated => by
    have hequals : Leads (if negated then " != " else " = ") 0 0 := by cases negated <;> decide
    have hinside : Whole (e.pieces ++ [Piece.text (if negated then " != " else " = "), Piece.literal "{}"]) :=
      whole_append e.pieces_whole trivial (whole_text hequals (whole_single trivial))
    rw [Expr.pieces]
    simpa only [enclosed, List.cons_append, List.append_assoc, List.nil_append] using whole_enclosed hinside
  | .is e test negated => by
    have htest : Leads ((if negated then " IS NOT " else " IS ") ++ test.text ++ ")") 1 0 := by
      cases test <;> cases negated <;> decide
    rw [Expr.pieces]
    exact whole_around (by decide) htest e.pieces_whole whole_nil
  | .member e candidates negated => by
    rw [Expr.pieces]
    exact whole_membership e.pieces_whole (exprPieces_whole candidates) negated
  | .call function args => by
    rw [Expr.pieces]
    exact whole_own (.verbatim _) trivial trivial (whole_enclosed (whole_listed (exprPieces_whole args)))
  | .typedLiteral typeName text => by
    rw [Expr.pieces]
    exact whole_own (.verbatim _) trivial trivial (whole_text (by decide) (whole_single trivial))
  | .cast e typeName => by
    rw [Expr.pieces]
    exact whole_around (n := 1) (by decide) (by decide) e.pieces_whole (whole_single trivial)
  | .exists query alias? negated => by
    have hexists : Leads (if negated then "NOT EXISTS " else "EXISTS ") 0 0 := by cases negated <;> decide
    rw [Expr.pieces]
    exact whole_append (whole_text hexists (whole_enclosed query.pieces_whole)) (opens_queryAlias alias?)
      (whole_queryAlias alias?)
  | .atTimeZone time zone => by
    have hinside : Whole (time.pieces ++ .text " AT TIME ZONE " :: zone.pieces) :=
      whole_append time.pieces_whole trivial (whole_text (by decide) zone.pieces_whole)
    have h : Whole (zoneCheck zone ++ enclosed (time.pieces ++ .text " AT TIME ZONE " :: zone.pieces)) :=
      whole_append (whole_zoneCheck zone) trivial (whole_enclosed hinside)
    rw [Expr.pieces]
    simpa only [enclosed, List.cons_append, List.append_assoc] using h
  | .jsonObject entries => by
    rw [Expr.pieces]
    exact whole_text (by decide) (whole_enclosed (whole_listed (entryPieces_whole entries)))
  | .case [] _ => by
    rw [Expr.pieces]
    exact whole_failure _
  | .case (b :: rest) fallback => by
    have hbranches := whole_separated " " (by decide)
      (List.forall_mem_cons.mpr ⟨b.pieces_whole, branchPieces_whole rest⟩)
    have hfallback := whole_clause " ELSE " (by decide) (optionalPieces_whole fallback)
    rw [Expr.pieces]
    refine whole_append (whole_append (whole_text (by decide) hbranches) (opens_clause _ _) hfallback) trivial ?_
    exact whole_text (by decide) whole_nil
  | .aliasName name => by
    rw [Expr.pieces]
    exact whole_single trivial
  | .tableName t => by
    rw [Expr.pieces]
    exact whole_single trivial
  | .adapted _ e => by
    rw [Expr.pieces]
    exact e.pieces_whole

theorem exprPieces_whole : (es : List Expr) → ∀ pieces ∈ exprPieces es, Whole pieces
  | [] => by simp [exprPieces]
  | e :: rest => by
    rw [exprPieces]
    exact List.forall_mem_cons.mpr ⟨e.pieces_whole, exprPieces_whole rest⟩

theorem entryPieces_whole : (es : List JsonEntry) → ∀ pieces ∈ entryPieces es, Whole pieces
  | [] => by simp [entryPieces]
  | ⟨key, value⟩ :: rest => by
    rw [entryPieces]
    refine List.forall_mem_cons.mpr ⟨?_, entryPieces_whole rest⟩
    exact whole_own (.literal _) trivial trivial (whole_text (by decide) value.pieces_whole)

theorem Branch.pieces_whole : (b : Branch) → Whole b.pieces
  | ⟨condition, result⟩ => by
    rw [Branch.pieces]
    exact whole_append (whole_text (by decide) condition.pieces_whole) trivial
      (whole_text (by decide) result.pieces_whole)

theorem branchPieces_whole : (bs : List Branch) → ∀ pieces ∈ branchPieces bs, Whole pieces
  | [] => by simp [branchPieces]
  | b :: rest => by
    rw [branchPieces]
    exact List.forall_mem_cons.mpr ⟨b.pieces_whole, branchPieces_whole rest⟩

theorem Projection.pieces_whole : (p : Projection) → Whole p.pieces
  | ⟨e, alias?⟩ => by
    rw [Projection.pieces]
    exact whole_append e.pieces_whole (opens_alias alias?) (whole_alias alias?)

theorem projectionPieces_whole : (ps : List Projection) → ∀ pieces ∈ projectionPieces ps, Whole pieces
  | [] => by simp [projectionPieces]
  | p :: rest => by
    rw [projectionPieces]
    exact List.forall_mem_cons.mpr ⟨p.pieces_whole, projectionPieces_whole rest⟩

theorem Projection.groupPieces_whole : (p : Projection) → Whole p.groupPieces
  | ⟨_, some name⟩ => by
    rw [Projection.groupPieces]
    exact whole_single trivial
  | ⟨e, none⟩ => by
    rw [Projection.groupPieces]
    exact e.pieces_whole

theorem groupPieces_whole : (ps : List Projection) → ∀ pieces ∈ groupPieces ps, Whole pieces
  | [] => by simp [groupPieces]
  | p :: rest => by
    rw [groupPieces]
    exact List.forall_mem_cons.mpr ⟨p.groupPieces_whole, groupPieces_whole rest⟩

theorem Aggregate.pieces_whole : (a : Aggregate) → Whole a.pieces
  | ⟨function, e, arguments, alias?, unnested⟩ => by
    have hargs : ∀ pieces ∈ e.pieces :: arguments.map (fun v => [v.piece]), Whole pieces :=
      List.forall_mem_cons.mpr ⟨e.pieces_whole, whole_values arguments⟩
    have hcall : Whole (.verbatim function
        :: enclosed (listed (e.pieces :: arguments.map fun v => [v.piece]))) :=
      whole_own (.verbatim function) trivial trivial (whole_enclosed (whole_listed hargs))
    rw [Aggregate.pieces]
    refine whole_append ?_ (opens_alias alias?) (whole_alias alias?)
    split
    · exact whole_text (by decide) (whole_enclosed hcall)
    · exact hcall

theorem aggregatePieces_whole : (as : List Aggregate) → ∀ pieces ∈ aggregatePieces as, Whole pieces
  | [] => by simp [aggregatePieces]
  | a :: rest => by
    rw [aggregatePieces]
    exact List.forall_mem_cons.mpr ⟨a.pieces_whole, aggregatePieces_whole rest⟩

theorem OrderTerm.pieces_whole : (o : OrderTerm) → Whole o.pieces
  | .expr e descending nulls => by
    have hdirection : Leads (if descending then " DESC" else " ASC") 0 0 := by cases descending <;> decide
    rw [OrderTerm.pieces]
    exact whole_append e.pieces_whole trivial (whole_text hdirection (whole_nulls nulls))
  | .case [] => by
    rw [OrderTerm.pieces]
    exact whole_failure _
  | .case (b :: rest) => by
    have hbranches := whole_separated " " (by decide)
      (List.forall_mem_cons.mpr ⟨b.pieces_whole, branchPieces_whole rest⟩)
    rw [OrderTerm.pieces]
    exact whole_append (whole_text (by decide) hbranches) trivial (whole_text (by decide) whole_nil)

theorem orderPieces_whole : (os : List OrderTerm) → ∀ pieces ∈ orderPieces os, Whole pieces
  | [] => by simp [orderPieces]
  | o :: rest => by
    rw [orderPieces]
    exact List.forall_mem_cons.mpr ⟨o.pieces_whole, orderPieces_whole rest⟩

theorem FromItem.columnPieces_whole : (i : FromItem) → ∀ pieces ∈ i.columnPieces, Whole pieces
  | .join ⟨⟨projections, _, _, _, _, _, _, _, _, _, _⟩, _, into, _, _, _⟩ => by
    rw [FromItem.columnPieces, List.forall_mem_append, List.forall_mem_append]
    exact ⟨⟨whole_markers .start into, projectionPieces_whole projections⟩, whole_markers .stop into⟩
  | .table _ => by simp [FromItem.columnPieces]
  | .query _ _ => by simp [FromItem.columnPieces]

theorem joinedColumns_whole : (is : List FromItem) → ∀ pieces ∈ joinedColumns is, Whole pieces
  | [] => by simp [joinedColumns]
  | i :: rest => by
    rw [joinedColumns, List.forall_mem_append]
    exact ⟨i.columnPieces_whole, joinedColumns_whole rest⟩

theorem Join.pieces_whole : (j : Join) → Whole j.pieces
  | ⟨query, kind, _, condition, shared, some name⟩ => by
    have hkind : Leads (kind.text ++ " ") 0 0 := by cases kind <;> decide
    have hmatch := whole_joinMatch (optionalPieces_whole condition) shared
    have hname := whole_own (.identifier name) trivial (opens_joinMatch _ _) hmatch
    rw [Join.pieces]
    exact whole_append (whole_text hkind (whole_enclosed query.pieces_whole)) trivial
      (whole_text (by decide) hname)
  | ⟨query, kind, _, condition, shared, none⟩ => by
    have hkind : Leads (kind.text ++ " ") 0 0 := by cases kind <;> decide
    have hmatch := whole_joinMatch (optionalPieces_whole condition) shared
    rw [Join.pieces]
    exact whole_append (whole_text hkind (whole_sole _)) (opens_joinMatch _ _) hmatch

theorem FromItem.pieces_whole : (i : FromItem) → Whole i.pieces
  | .table t => by
    rw [FromItem.pieces]
    exact whole_table t
  | .join j => by
    rw [FromItem.pieces]
    exact j.pieces_whole
  | .query q alias? => by
    rw [FromItem.pieces]
    exact whole_append (whole_enclosed q.pieces_whole) (opens_queryAlias alias?) (whole_queryAlias alias?)

theorem sourcePieces_whole : (is : List FromItem) → ∀ pieces ∈ sourcePieces is, Whole pieces
  | [] => by simp [sourcePieces]
  | i :: rest => by
    rw [sourcePieces]
    exact List.forall_mem_cons.mpr ⟨i.pieces_whole, sourcePieces_whole rest⟩

theorem optionalPieces_whole : (e : Option Expr) → ∀ pieces ∈ optionalPieces e, Whole pieces
  | none => by simp [optionalPieces]
  | some e => by simpa [optionalPieces] using e.pieces_whole

theorem optionalKeys_whole : (ps : Option (List Projection)) →
    ∀ lists ∈ optionalKeys ps, ∀ pieces ∈ lists, Whole pieces
  | none => by simp [optionalKeys]
  | some ps => by simpa [optionalKeys] using projectionPieces_whole ps

theorem optionalOrder_whole : (os : Option (List OrderTerm)) →
    ∀ lists ∈ optionalOrder os, ∀ pieces ∈ lists, Whole pieces
  | none => by simp [optionalOrder]
  | some os => by simpa [optionalOrder] using orderPieces_whole os

theorem Query.pieces_whole : (q : Query) → Whole q.pieces
  | ⟨projections, aggregates, sources, condition, order, limit, offset, grouped, distinct, random,
      distinctOn⟩ => by
    have hcolumns : ∀ pieces ∈ aggregatePieces aggregates ++ projectionPieces projections
        ++ joinedColumns sources, Whole pieces := by
      rw [List.forall_mem_append, List.forall_mem_append]
      exact ⟨⟨aggregatePieces_whole aggregates, projectionPieces_whole projections⟩,
        joinedColumns_whole sources⟩
    have hselected := whole_text (s := "SELECT ") (by decide)
      (whole_distinct distinct (optionalKeys_whole distinctOn) (whole_listed hcolumns))
    have hsources := whole_text (s := " FROM ") (by decide)
      (whole_separated " " (by decide) (sourcePieces_whole sources))
    have hcondition := whole_clause " WHERE " (by decide) (optionalPieces_whole condition)
    have hgrouping := whole_grouping grouped (groupPieces_whole projections)
    have hordering := whole_ordering random (optionalOrder_whole order)
    have hlimit := whole_count " LIMIT " (by decide) limit
    have hoffset := whole_count " OFFSET " (by decide) offset
    rw [Query.pieces]
    refine whole_append (whole_append (whole_append ?_ (opens_ordering _ _) hordering) (opens_count _ _) hlimit)
      (opens_count _ _) hoffset
    refine whole_append (whole_append ?_ (opens_clause _ _) hcondition) (opens_clause _ _) hgrouping
    exact whole_append hselected trivial hsources

end

theorem whole_condition (condition : Option Expr) : Whole (conditionPieces condition) :=
  whole_clause " WHERE " (by decide) (optionalPieces_whole condition)

theorem whole_returning {columns : Option (List (List Piece))}
    (h : ∀ lists ∈ columns, ∀ pieces ∈ lists, Whole pieces) : Whole (returningPieces columns) := by
  refine whole_clause " RETURNING " (by decide) fun pieces hpieces => ?_
  obtain ⟨lists, hlists, rfl⟩ := Option.map_eq_some_iff.mp hpieces
  exact whole_listed (h lists hlists)

theorem Delete.pieces_whole (d : Delete) : Whole d.pieces := by
  rw [Delete.pieces]
  exact whole_append (whole_text (by decide) (whole_table d.table)) (opens_clause _ _) (whole_condition d.condition)

theorem UpdateSource.pieces_whole (source : UpdateSource) : Whole source.pieces := by
  cases source with
  | none => exact whole_nil
  | tables ts =>
    refine whole_text (by decide) (whole_listed fun pieces hpieces => ?_)
    obtain ⟨t, -, rfl⟩ := List.mem_map.mp hpieces
    exact whole_single trivial
  | aliased ts =>
    refine whole_text (by decide) (whole_listed fun pieces hpieces => ?_)
    obtain ⟨t, -, rfl⟩ := List.mem_map.mp hpieces
    exact whole_table t
  | query q name =>
    exact whole_append (whole_text (by decide) (whole_enclosed q.pieces_whole)) trivial
      (whole_text (by decide) (whole_single trivial))
  | unnamed q =>
    exact whole_append (whole_text (by decide) (whole_enclosed q.pieces_whole)) trivial
      (whole_text (by decide) (whole_single trivial))

theorem Update.returningColumns_whole (u : Update) :
    ∀ lists ∈ u.returningColumns, ∀ pieces ∈ lists, Whole pieces := by
  intro lists hlists pieces hpieces
  obtain ⟨projections, -, rfl⟩ := Option.map_eq_some_iff.mp hlists
  rcases List.mem_append.mp hpieces with hpieces | hpieces
  · exact projectionPieces_whole projections pieces hpieces
  · obtain ⟨into, -, hpieces⟩ := List.mem_flatMap.mp hpieces
    simp only [IntoField.returningPieces, List.mem_cons, List.not_mem_nil, or_false] at hpieces
    rcases hpieces with rfl | rfl | rfl
    · exact whole_single trivial
    · exact whole_own (.tableName _) trivial trivial (whole_text (by decide) whole_nil)
    · exact whole_single trivial

theorem ConflictAction.pieces_whole (action : ConflictAction) : Whole action.pieces := by
  cases action with
  | nothing => exact whole_text (by decide) whole_nil
  | update columns =>
    cases columns with
    | nil => exact whole_failure _
    | cons c rest =>
      refine whole_text (by decide) (whole_listed fun pieces hpieces => ?_)
      obtain ⟨c, -, rfl⟩ := List.mem_map.mp hpieces
      exact whole_own (.columnName _) trivial trivial (whole_text (by decide) (whole_single trivial))

theorem Conflict.pieces_whole (c : Conflict) : Whole c.pieces := by
  have hopens : Opens c.action.pieces := by
    cases c.action with
    | nothing => trivial
    | update columns => cases columns <;> trivial
  have htargets : Whole (if c.targets.isEmpty then []
      else enclosed (columnNames c.targets) ++ [Piece.text " "]) := by
    split
    · exact whole_nil
    · exact whole_append (whole_enclosed (whole_columnNames c.targets)) trivial (whole_text (by decide) whole_nil)
  rw [Conflict.pieces]
  exact whole_append (whole_text (by decide) htargets) hopens c.action.pieces_whole

theorem Insert.tailPieces_whole (i : Insert) : Whole i.tailPieces := by
  have hreturning : Whole (returningPieces (i.returning.map projectionPieces)) := by
    refine whole_returning fun lists hlists => ?_
    obtain ⟨projections, -, rfl⟩ := Option.map_eq_some_iff.mp hlists
    exact projectionPieces_whole projections
  rw [Insert.tailPieces]
  refine whole_append ?_ (opens_clause _ _) hreturning
  split
  · exact Conflict.pieces_whole _
  · exact whole_nil

end RelationalMapping
