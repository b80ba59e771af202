import RelationalMapping.Proofs.Sql.Listed
import RelationalMapping.Query.Change

namespace RelationalMapping

section Depth

variable {t part : Tree} {segments : List Segment}

theorem length_part_lt {p : Piece} (hp : .piece p ∈ segments) (h : .part part ∈ segments) :
    part.pieces.length < (flat segments).length := by
  have hlength : ∀ {others : List Segment}, .piece p ∈ others → 0 < (flat others).length := fun hmem =>
    List.length_pos_of_mem (List.mem_flatMap.mpr ⟨.piece p, hmem, List.mem_singleton_self p⟩)
  obtain ⟨before, after, rfl⟩ := List.append_of_mem h
  rw [flat_append, flat_part, List.length_append, List.length_append]
  rcases List.mem_append.mp hp with hp | hp
  · have hbefore := hlength hp
    omega
  · have hafter := hlength ((List.mem_cons.mp hp).resolve_left nofun)
    omega

theorem Expr.exists_piece {e : Expr} (h : .part part ∈ e.segments) :
    (∃ adapter inner, e = .adapted adapter inner) ∨ ∃ p, .piece p ∈ e.segments := by
  cases e with
  | adapted adapter inner => exact .inl ⟨adapter, inner, rfl⟩
  | binary op left right =>
    refine .inr ⟨.text (" " ++ op.text ++ " "), ?_⟩
    rw [segments]
    split <;> simp [own]
  | connective op items => cases items <;> exact .inr ⟨_, .head _⟩
  | member e candidates negated => cases candidates <;> exact .inr ⟨_, .head _⟩
  | case branches fallback => cases branches <;> exact .inr ⟨_, .head _⟩
  | atTimeZone time zone => exact .inr ⟨.text "(", by simp [segments, own]⟩
  | column c => exact .inr ⟨.text ".", by simp [segments, own]⟩
  | not | empty | is | call | cast | «exists» | jsonObject => exact .inr ⟨_, .head _⟩
  | all table =>
    cases table with
    | none => exact .inr ⟨_, .head _⟩
    | some t => exact .inr ⟨.text ".*", by simp [segments, own]⟩
  | aliasName name => simp [segments] at h
  | _ => simp [segments, own] at h

-- an adapter writes nothing but what is inside it, so the number of pieces alone does not decrease
theorem Tree.part_smaller (h : .part part ∈ t.segments) :
    part.pieces.length < t.pieces.length ∨ part.pieces.length = t.pieces.length ∧ sizeOf part < sizeOf t := by
  rw [← t.flat_segments]
  cases t with
  | query q =>
    have hselect : .piece (.text "SELECT ") ∈ q.segments := by simp [Query.segments, own]
    exact .inl (length_part_lt hselect h)
  | expr e =>
    rcases e.exists_piece h with ⟨adapter, inner, rfl⟩ | ⟨p, hp⟩
    · cases List.mem_singleton.mp h
      refine .inr ⟨by simp [Tree.segments, Expr.segments, Tree.pieces], ?_⟩
      rw [Tree.expr.sizeOf_spec, Tree.expr.sizeOf_spec, Expr.adapted.sizeOf_spec]
      omega
    · exact .inl (length_part_lt hp h)

theorem Tree.induction {P : Tree → Prop} (step : ∀ t, (∀ part, .part part ∈ t.segments → P part) → P t) (t : Tree) :
    P t :=
  step t fun part _ => Tree.induction step part
termination_by (t.pieces.length, sizeOf t)
decreasing_by
  rename_i h
  rcases Tree.part_smaller h with hlt | ⟨heq, hlt⟩
  · exact .left _ _ hlt
  · rw [heq]
    exact .right _ hlt

inductive Tree.Writes : Tree → Query → Prop
  | here (q : Query) : Tree.Writes (.query q) q
  | inside {t part : Tree} {q : Query} (h : .part part ∈ t.segments) (hpart : Tree.Writes part q) : Tree.Writes t q

theorem sound_of_part (hsound : Sound (flat segments)) (h : .part part ∈ segments) : Sound part.pieces :=
  fun fault hfault => hsound fault (List.mem_flatMap.mpr ⟨.part part, h, hfault⟩)

theorem Tree.supplied_iff (hsound : Sound t.pieces) (hreads : ∀ q, t.Writes q → q.sources ≠ []) :
    Supplied t.segments ↔ ∀ q, t = .query q → q.Filled := by
  cases t with
  | expr e => exact iff_of_true (supplied_of_silent e.silent_segments) nofun
  | query q =>
    have hown : Supplied q.segments ↔ q.Filled :=
      (q.supplied_iff hsound).trans (and_iff_right (hreads q (.here q)))
    refine hown.trans ⟨?_, fun h => h q rfl⟩
    rintro h _ ⟨⟩
    exact h

def partsOf (segments : List Segment) : List Tree :=
  segments.filterMap fun
    | .part t => some t
    | .piece _ | .mention _ _ => none

theorem mem_partsOf : t ∈ partsOf segments ↔ .part t ∈ segments := by
  rw [partsOf, List.mem_filterMap]
  constructor
  · rintro ⟨_ | _ | _, hmem, heq⟩ <;> cases heq
    exact hmem
  · exact fun h => ⟨.part t, h, rfl⟩

theorem Tree.writes_expr {e : Expr} {q : Query} : (Tree.expr e).Writes q ↔ ∃ part ∈ partsOf e.segments, part.Writes q := by
  constructor
  · rintro (_ | ⟨h, hpart⟩)
    exact ⟨_, mem_partsOf.mpr h, hpart⟩
  · rintro ⟨part, h, hpart⟩
    exact .inside (mem_partsOf.mp h) hpart

theorem Tree.writes_query {q other : Query} :
    (Tree.query q).Writes other ↔ other = q ∨ ∃ part ∈ partsOf q.segments, part.Writes other := by
  constructor
  · rintro (_ | ⟨h, hpart⟩)
    · exact .inl rfl
    · exact .inr ⟨_, mem_partsOf.mpr h, hpart⟩
  · rintro (rfl | ⟨part, h, hpart⟩)
    · exact .here other
    · exact .inside (mem_partsOf.mp h) hpart

theorem Tree.forall_writes {P : Query → Prop} :
    (∀ q, t.Writes q → P q)
      ↔ (∀ q, t = .query q → P q) ∧ ∀ part, .part part ∈ t.segments → ∀ q, part.Writes q → P q := by
  constructor
  · intro h
    refine ⟨?_, fun part hpart q hq => h q (.inside hpart hq)⟩
    rintro q rfl
    exact h q (.here q)
  · rintro ⟨hown, hparts⟩ q hq
    cases hq with
    | here => exact hown q rfl
    | inside h hpart => exact hparts _ h q hpart

theorem Tree.listed_iff : (t : Tree) → Sound t.pieces → (∀ q, t.Writes q → q.sources ≠ []) →
    (Listed t.pieces ↔ ∀ q, t.Writes q → q.Filled) := by
  refine Tree.induction fun t ih hsound hreads => ?_
  have hparts : (∀ part, .part part ∈ t.segments → Listed part.pieces)
      ↔ ∀ part, .part part ∈ t.segments → ∀ q, part.Writes q → q.Filled := by
    refine forall₂_congr fun part h => ih part h ?_ fun q hq => hreads q (.inside h hq)
    rw [← t.flat_segments] at hsound
    exact sound_of_part hsound h
  rw [← t.flat_segments, listed_flat t.spaced_segments, t.supplied_iff hsound hreads, hparts, Tree.forall_writes]

end Depth

def returningSegments (projections : Option (List Projection)) (into : List IntoField) : List Segment :=
  clauseSegments " RETURNING " (projections.map fun ps =>
    separatedSegments ", " (ps.map (·.segments) ++ (into.flatMap (·.returningPieces)).map own))

def whereSegments (condition : Option Expr) : List Segment :=
  clauseSegments " WHERE " (condition.map fun e => [.part (.expr e)])

def UpdateSource.segments : UpdateSource → List Segment
  | .query q name => own [.text " FROM ", .text "("] ++ .part (.query q) :: own [.text ")", .text " ", .identifier name]
  | .unnamed q =>
    own [.text " FROM ", .text "("] ++ .part (.query q) :: own [.text ")", .text " ", .identifier unnamedAlias]
  | .tables ts => .piece (.text " FROM ") :: separatedSegments ", " (ts.map fun t => own [.tableName t.entity])
  | .aliased ts => .piece (.text " FROM ") :: separatedSegments ", " (ts.map fun t => own t.pieces)
  | .none => []

def Update.segments (u : Update) : List Segment :=
  own (.text "UPDATE " :: u.table.pieces)
    ++ Segment.piece (.text " SET ") :: separatedSegments ", " (u.assignments.map fun a =>
      own [Piece.columnName a.column, Piece.text " = "] ++ [Segment.part (.expr a.expr)])
    ++ (u.source.segments ++ whereSegments u.condition ++ returningSegments u.returning u.into)

def InsertSource.segments (table : String) (fields : List InsertField) : InsertSource → List Segment
  | .select q => own [.text " ", .text "("] ++ .part (.query q) :: own [.text ")"]
  | .rows items => own ((InsertSource.rows items).layout table fields)

def Insert.segments (i : Insert) (table : String) : List Segment :=
  own (.text "INSERT INTO " :: i.table.pieces)
    ++ .piece (.text " (") :: separatedSegments ", " (i.fields.map fun f => own [.columnName f.column])
    ++ own [.text ")"] ++ i.source.segments table i.fields ++ own (i.conflict.elim [] (·.pieces))
    ++ returningSegments i.returning []

namespace Writable

def segments (names : Names) : Writable → List Segment
  | .expr e => [.part (.expr e)]
  | .query q => [.part (.query q)]
  | .update u => u.segments
  | .delete d => own (.text "DELETE FROM " :: d.table.pieces) ++ whereSegments d.condition
  | .insert i => i.segments (names.tableName i.table.entity)

end Writable

theorem flat_where (condition : Option Expr) : flat (whereSegments condition) = conditionPieces condition := by
  rw [whereSegments, flat_clause, conditionPieces]
  cases condition <;> simp [optionalPieces]

theorem flat_returning (projections : Option (List Projection)) (into : List IntoField) :
    flat (returningSegments projections into)
      = returningPieces (projections.map fun ps => projectionPieces ps ++ into.flatMap (·.returningPieces)) := by
  rw [returningSegments, flat_clause, returningPieces]
  cases projections with
  | none => rfl
  | some ps =>
    have hown : (flat ∘ own : List Piece → List Piece) = id := funext fun pieces => flat_own pieces
    simp [listed, projectionPieces_eq, Projection.flat_segments, hown, Function.comp_def]

theorem UpdateSource.flat_segments (source : UpdateSource) : flat source.segments = source.pieces := by
  cases source <;> simp [segments, pieces, listed, enclosed, Function.comp_def]

theorem Update.flat_segments (u : Update) : flat u.segments = u.layout := by
  simp [segments, layout, listed, flat_where, flat_returning, UpdateSource.flat_segments, returningColumns,
    Assignment.layout, Function.comp_def]

theorem Insert.flat_segments (i : Insert) (table : String) : flat (i.segments table) = i.layout table := by
  have hsource : flat (i.source.segments table i.fields) = i.source.layout table i.fields := by
    cases i.source <;> simp [InsertSource.segments, InsertSource.layout, enclosed]
  have htail : i.conflict.elim [] (·.pieces) ++ returningPieces (i.returning.map projectionPieces) = i.tailPieces := by
    unfold tailPieces
    cases i.conflict <;> rfl
  have hreturning : flat (returningSegments i.returning []) = returningPieces (i.returning.map projectionPieces) := by
    simp [flat_returning]
  simp [segments, layout, hsource, ← htail, hreturning, columnNames, listed, Function.comp_def]

theorem Writable.flat_segments (w : Writable) (names : Names) : flat (w.segments names) = w.layout names := by
  cases w with
  | update u => exact u.flat_segments
  | insert i => exact i.flat_segments _
  | delete d => simp [segments, layout, Delete.pieces, flat_where]
  | _ => simp [segments, layout]

theorem ends_where (condition : Option Expr) : Ends (whereSegments condition) := ends_clause (by decide) _

theorem spaced_where (condition : Option Expr) : Spaced (whereSegments condition) :=
  spaced_clause _ fun s hs => by
    obtain ⟨e, -, rfl⟩ := Option.map_eq_some_iff.mp hs
    exact ⟨trivial, trivial⟩

theorem ends_returning (projections : Option (List Projection)) (into : List IntoField) :
    Ends (returningSegments projections into) := ends_clause (by decide) _

theorem spaced_returning (projections : Option (List Projection)) (into : List IntoField) :
    Spaced (returningSegments projections into) := by
  refine spaced_clause _ fun s hs => ?_
  obtain ⟨ps, -, rfl⟩ := Option.map_eq_some_iff.mp hs
  refine spaced_separated (by decide) (List.forall_mem_append.mpr ⟨spaced_projections ps, ?_⟩)
  exact List.forall_mem_map.mpr fun pieces _ => spaced_own pieces

theorem UpdateSource.ends_segments (source : UpdateSource) : Ends source.segments := by
  cases source with
  | none => trivial
  | _ => exact (by decide : (Piece.text " FROM ").Closes)

theorem UpdateSource.spaced_segments (source : UpdateSource) : Spaced source.segments := by
  have hclose : (Piece.text ")").Closes := by decide
  have hcomma : (Piece.text ", ").Closes := by decide
  cases source with
  | none => trivial
  | tables ts => exact spaced_separated hcomma (List.forall_mem_map.mpr fun t _ => spaced_own _)
  | aliased ts => exact spaced_separated hcomma (List.forall_mem_map.mpr fun t _ => spaced_own _)
  | query q name => exact spaced_part (.query q) hclose (spaced_own [.text ")", .text " ", .identifier name])
  | unnamed q => exact spaced_part (.query q) hclose (spaced_own [.text ")", .text " ", .identifier unnamedAlias])

theorem Update.spaced_segments (u : Update) : Spaced u.segments := by
  have hset : (Piece.text " SET ").Closes := by decide
  have hassignments : Spaced (separatedSegments ", " (u.assignments.map fun a =>
      own [Piece.columnName a.column, Piece.text " = "] ++ [Segment.part (.expr a.expr)])) :=
    spaced_separated (by decide) (List.forall_mem_map.mpr fun a _ => ⟨trivial, trivial⟩)
  refine spaced_append (spaced_append (spaced_own _) hset hassignments) ?_ ?_
  · exact ends_append (ends_append u.source.ends_segments (ends_where _)) (ends_returning _ _)
  · exact spaced_append (spaced_append u.source.spaced_segments (ends_where _) (spaced_where _)) (ends_returning _ _)
      (spaced_returning _ _)

theorem Insert.ends_conflict (i : Insert) : Ends (own (i.conflict.elim [] (·.pieces))) := by
  cases i.conflict with
  | none => trivial
  | some c => exact (by decide : (Piece.text " ON CONFLICT ").Closes)

theorem InsertSource.spaced_segments (table : String) (fields : List InsertField) (source : InsertSource) :
    Ends (source.segments table fields) ∧ Spaced (source.segments table fields) := by
  cases source with
  | rows items => exact ⟨(by decide : (Piece.text " VALUES (").Closes), spaced_own _⟩
  | select q => exact ⟨(by decide : (Piece.text " ").Closes), (by decide : (Piece.text ")").Closes), trivial⟩

theorem Insert.spaced_segments (i : Insert) (table : String) : Spaced (i.segments table) := by
  have hopen : (Piece.text " (").Closes := by decide
  have hclose : (Piece.text ")").Closes := by decide
  have hcolumns : Spaced (separatedSegments ", " (i.fields.map fun f => own [.columnName f.column])) :=
    spaced_separated (by decide) (List.forall_mem_map.mpr fun f _ => spaced_own _)
  obtain ⟨hends, hsource⟩ := i.source.spaced_segments table i.fields
  refine spaced_append ?_ (ends_returning _ _) (spaced_returning _ _)
  refine spaced_append ?_ i.ends_conflict (spaced_own _)
  refine spaced_append ?_ hends hsource
  exact spaced_append (spaced_append (spaced_own _) hopen hcolumns) hclose (spaced_own [.text ")"])

theorem Writable.spaced_segments (w : Writable) (names : Names) : Spaced (w.segments names) := by
  cases w with
  | expr | query => exact ⟨trivial, trivial⟩
  | update u => exact u.spaced_segments
  | delete d => exact spaced_own_append _ (spaced_where _)
  | insert i => exact i.spaced_segments _

structure Update.Filled (u : Update) : Prop where
  tables : ∀ ts, u.source = .tables ts ∨ u.source = .aliased ts → ts ≠ []
  returned : ∀ ps ∈ u.returning, ps ≠ [] ∨ u.into ≠ []

structure Insert.Filled (i : Insert) : Prop where
  fields : i.fields ≠ []
  returned : ∀ ps ∈ i.returning, ps ≠ []

theorem silent_where (condition : Option Expr) : Silent (whereSegments condition) := silent_optional _ (by decide) _

theorem Table.silent_pieces (t : Table) : ∀ p ∈ t.pieces, ¬ p.Announces := by
  unfold pieces
  split <;> simp [Piece.Announces, announcements]

theorem supplied_returning {projections : Option (List Projection)} {into : List IntoField}
    (h : Sound (flat (returningSegments projections into))) :
    Supplied (returningSegments projections into) ↔ ∀ ps ∈ projections, ps ≠ [] ∨ into ≠ [] := by
  cases projections with
  | none => exact iff_of_true trivial nofun
  | some ps =>
    have hinto : ∀ list ∈ (into.flatMap (·.returningPieces)).map own, StartsItem (flat list) ∧ Silent list := by
      refine List.forall_mem_map.mpr fun pieces hpieces => ?_
      obtain ⟨i, -, hi⟩ := List.mem_flatMap.mp hpieces
      simp only [IntoField.returningPieces, List.mem_cons, List.not_mem_nil, or_false] at hi
      rcases hi with rfl | rfl | rfl <;> simp [startsItem_cons, Piece.Closes, Piece.Announces, announcements]
    have hstart := startsItem_lists (sound_cons.mp h).2 (List.forall_mem_append.mpr
      ⟨List.forall_mem_map.mpr fun p _ => p.startsItem, fun list hlist _ => (hinto list hlist).1⟩)
    have hsilent := List.forall_mem_append.mpr
      ⟨silent_projections ps, fun list hlist => (hinto list hlist).2⟩
    refine (supplied_listed (by decide) hstart hsilent).trans ?_
    cases ps <;> cases into <;> simp [IntoField.returningPieces]

theorem supplied_enclosed_query (q : Query) (name : String) :
    Supplied (own [.text " FROM ", .text "("] ++ .part (.query q) :: own [.text ")", .text " ", .identifier name]) := by
  have hsilent : Silent (own [.text "("] ++ .part (.query q) :: own [.text ")", .text " ", .identifier name]) := by
    simp [Piece.Announces, announcements]
  exact ⟨fun _ => startsItem_cons.mpr (by decide), supplied_of_silent hsilent⟩

theorem UpdateSource.supplied_iff (source : UpdateSource) :
    Supplied source.segments ↔ ∀ ts, source = .tables ts ∨ source = .aliased ts → ts ≠ [] := by
  cases source with
  | none => exact iff_of_true trivial (by simp)
  | query q name => exact iff_of_true (supplied_enclosed_query q name) (by simp)
  | unnamed q => exact iff_of_true (supplied_enclosed_query q unnamedAlias) (by simp)
  | tables ts =>
    rw [segments, supplied_pieces (by decide) fun _ => ⟨id, id⟩]
    simp
  | aliased ts =>
    have hstart : ∀ list ∈ ts.map fun t => own t.pieces, StartsItem (flat list) := by
      refine List.forall_mem_map.mpr fun t _ => ?_
      rw [flat_own, Table.pieces]
      split <;> exact startsItem_cons.mpr id
    have hsilent : ∀ list ∈ ts.map fun t => own t.pieces, Silent list :=
      List.forall_mem_map.mpr fun t _ => silent_own.mpr t.silent_pieces
    rw [segments, supplied_listed (by decide) hstart hsilent]
    simp

theorem Update.supplied_iff {u : Update} (hassigned : u.assignments ≠ []) (h : Sound u.layout) :
    Supplied u.segments ↔ u.Filled := by
  have htable : Silent (own (Piece.text "UPDATE " :: u.table.pieces)) := by
    rw [silent_own, List.forall_mem_cons]
    exact ⟨by decide, u.table.silent_pieces⟩
  have hset : Supplied (Segment.piece (.text " SET ") :: separatedSegments ", " (u.assignments.map fun a =>
      own [Piece.columnName a.column, Piece.text " = "] ++ [Segment.part (.expr a.expr)])) := by
    refine (supplied_listed (by decide) ?_ ?_).mpr (by simpa using hassigned)
    · exact List.forall_mem_map.mpr fun a _ => startsItem_cons.mpr id
    · exact List.forall_mem_map.mpr fun a _ => by simp [Piece.Announces, announcements]
  rw [← u.flat_segments, segments] at h
  simp only [flat_append, sound_append] at h
  rw [segments, supplied_append (ends_append (ends_append u.source.ends_segments (ends_where _)) (ends_returning _ _)),
    supplied_silent_append htable, supplied_append (ends_returning _ _), supplied_append (ends_where _),
    supplied_returning h.2.2, u.source.supplied_iff]
  simp only [hset, supplied_of_silent (silent_where _), and_true, true_and]
  refine ⟨?_, fun h => ⟨h.tables, h.returned⟩⟩
  rintro ⟨htables, hreturned⟩
  exact ⟨htables, hreturned⟩

theorem listed_separated {separator : String} (hcloses : (Piece.text separator).Closes) {lists : List (List Piece)}
    (h : ∀ list ∈ lists, StartsItem list ∧ Listed list) : Listed (separated (.text separator) lists) := by
  induction lists using separated.induct with
  | case1 => exact listed_nil
  | case2 list => exact (h list List.mem_cons_self).2
  | case3 list rest hrest ih =>
    rw [List.forall_mem_cons] at h
    have hafter : Closes (.text separator :: separated (.text separator) rest) := fun p hp => by
      cases hp
      exact hcloses
    rw [separated, listed_append hafter, listed_cons]
    · exact ⟨h.1.2, fun _ => (startsItem_separated _ fun list hlist => (h.2 list hlist).1).mpr hrest, ih h.2⟩
    · exact hrest

theorem listed_slots {table : String} {fields : List InsertField} (hfields : fields ≠ []) (row : Nat) :
    StartsItem (listed (slotPieces table fields row)) ∧ Listed (listed (slotPieces table fields row)) := by
  have hslot : ∀ f : InsertField, (slotText table row f.property).toList.head? = some '#' := fun f => by
    simp [slotText]
  have hstart : ∀ list ∈ slotPieces table fields row, StartsItem list ∧ Listed list := by
    refine List.forall_mem_map.mpr fun f _ => ⟨startsItem_cons.mpr fun hcloses => ?_, listed_silent ?_⟩
    · rw [Piece.Closes, hslot f] at hcloses
      exact absurd hcloses (by decide)
    · have hhash : ∀ s ∈ announcements, s.toList.head? ≠ some '#' := by decide
      rw [List.forall_mem_singleton]
      exact fun hmem => hhash _ hmem (hslot f)
  have hslots : slotPieces table fields row ≠ [] := by simpa [slotPieces] using hfields
  have hstarts := startsItem_separated ", " fun list hlist => (hstart list hlist).1
  exact ⟨hstarts.mpr hslots, listed_separated (by decide) hstart⟩

theorem InsertSource.supplied_segments {table : String} {fields : List InsertField} {source : InsertSource}
    (hfields : fields ≠ []) (hrows : source ≠ .rows []) : Supplied (source.segments table fields) := by
  cases source with
  | select q => exact supplied_of_silent (by simp [segments, announcements])
  | rows items =>
    have hcount : (List.range items.length).map (fun row => listed (slotPieces table fields row)) ≠ [] := by
      simp only [ne_eq, List.map_eq_nil_iff, List.range_eq_nil, List.length_eq_zero_iff]
      exact fun hnone => hrows (by rw [hnone])
    have hslots : ∀ list ∈ (List.range items.length).map (fun row => listed (slotPieces table fields row)),
        StartsItem list ∧ Listed list := List.forall_mem_map.mpr fun row _ => listed_slots hfields row
    have hclose : Closes [.text ")"] := by simp [Closes, Piece.Closes, Text.isCloser]
    have hlayout : Listed ((InsertSource.rows items).layout table fields) := by
      rw [layout, listed_append hclose, listed_cons]
      have hstarts := startsItem_separated "), (" fun list hlist => (hslots list hlist).1
      exact ⟨⟨fun _ => hstarts.mpr hcount, listed_separated (by decide) hslots⟩, listed_silent (by decide)⟩
    rw [← flat_own ((InsertSource.rows items).layout table fields)] at hlayout
    exact ((listed_flat (spaced_own _)).mp hlayout).1

theorem silent_listed {lists : List (List Piece)} (h : ∀ list ∈ lists, ∀ p ∈ list, ¬ p.Announces) :
    ∀ p ∈ listed lists, ¬ p.Announces := by
  intro p hp
  rcases mem_of_mem_separated hp with rfl | ⟨list, hlist, hp⟩
  · decide
  · exact h list hlist p hp

theorem silent_columnNames (columns : List Column) : ∀ p ∈ columnNames columns, ¬ p.Announces :=
  silent_listed (List.forall_mem_map.mpr fun c _ => by simp [Piece.Announces])

theorem ConflictAction.silent_pieces (action : ConflictAction) : ∀ p ∈ action.pieces, ¬ p.Announces := by
  rcases action with _ | _ | ⟨column, rest⟩
  · decide
  · simp [pieces, Piece.Announces]
  · refine List.forall_mem_cons.mpr ⟨by decide, silent_listed (List.forall_mem_map.mpr fun c _ => ?_)⟩
    simp [Piece.Announces, announcements]

theorem Conflict.silent_pieces (c : Conflict) : ∀ p ∈ c.pieces, ¬ p.Announces := by
  have htargets : ∀ p ∈ (if c.targets.isEmpty then [] else enclosed (columnNames c.targets) ++ [Piece.text " "]),
      ¬ p.Announces := by
    split
    · simp
    · rw [enclosed, List.append_assoc, List.cons_append, List.forall_mem_cons, List.forall_mem_append]
      exact ⟨by decide, silent_columnNames c.targets, by decide⟩
  rw [pieces, List.cons_append, List.forall_mem_cons, List.forall_mem_append]
  exact ⟨by decide, htargets, c.action.silent_pieces⟩

theorem Insert.supplied_iff {i : Insert} {table : String} (hrows : i.source ≠ .rows []) (h : Sound (i.layout table)) :
    Supplied (i.segments table) ↔ i.Filled := by
  have htable : Silent (own (.text "INSERT INTO " :: i.table.pieces)) := by
    rw [silent_own, List.forall_mem_cons]
    exact ⟨by decide, i.table.silent_pieces⟩
  have hconflict : Silent (own (i.conflict.elim [] (·.pieces))) := by
    rw [silent_own]
    cases i.conflict with
    | none => simp
    | some c => exact c.silent_pieces
  have hcolumns : Supplied (.piece (.text " (") :: separatedSegments ", " (i.fields.map fun f => own [.columnName f.column]))
      ↔ i.fields ≠ [] := supplied_pieces (by decide) (fun _ => ⟨id, id⟩) i.fields
  have hclose : Ends (own [.text ")"]) := (by decide : (Piece.text ")").Closes)
  have hsource := i.source.spaced_segments table i.fields
  rw [← i.flat_segments, segments, flat_append, sound_append] at h
  rw [segments, supplied_append (ends_returning _ _), supplied_append i.ends_conflict, supplied_append hsource.1,
    supplied_append hclose, supplied_silent_append htable, hcolumns, supplied_returning h.2]
  have hend : Supplied (own [.text ")"]) := supplied_of_silent (by simp [announcements])
  constructor
  · rintro ⟨⟨⟨⟨hfields, -⟩, -⟩, -⟩, hreturned⟩
    exact ⟨hfields, fun ps hps => (hreturned ps hps).resolve_right fun h => h rfl⟩
  · rintro ⟨hfields, hreturned⟩
    exact ⟨⟨⟨⟨hfields, hend⟩, InsertSource.supplied_segments hfields hrows⟩, supplied_of_silent hconflict⟩,
      fun ps hps => .inl (hreturned ps hps)⟩

inductive Query.Built : Query → Prop
  | select (t : Table) (projections : List Projection) : Query.Built (t.select projections)
  | selectAggregates (t : Table) (aggregates : List Aggregate) : Query.Built (t.selectAggregates aggregates)
  | filter {q : Query} (h : Query.Built q) (condition : Option Expr) : Query.Built (q.filter condition)
  | unique {q : Query} (h : Query.Built q) : Query.Built q.unique
  | shuffled {q : Query} (h : Query.Built q) : Query.Built q.shuffled
  | groupBy {q : Query} (h : Query.Built q) (projections : List Projection) : Query.Built (q.groupBy projections)
  | uniqueOn {q : Query} (h : Query.Built q) (keys : List Projection) : Query.Built (q.uniqueOn keys)
  | orderBy {q : Query} (h : Query.Built q) (terms : List OrderTerm) : Query.Built (q.orderBy terms)
  | atMost {q : Query} (h : Query.Built q) (limit : UInt64) : Query.Built (q.atMost limit)
  | skipping {q : Query} (h : Query.Built q) (offset : UInt64) : Query.Built (q.skipping offset)
  | addSource {q : Query} (h : Query.Built q) (item : FromItem) : Query.Built (q.addSource item)
  | addJoin {q : Query} (h : Query.Built q) (kind : JoinKind) (j : Join) : Query.Built (q.addJoin kind j)

theorem Query.Built.sources_ne_nil {q : Query} (h : q.Built) : q.sources ≠ [] := by
  induction h with
  | select | selectAggregates => exact List.cons_ne_nil _ _
  | addSource | addJoin => exact List.append_ne_nil_of_right_ne_nil _ (List.cons_ne_nil _ _)
  | filter _ _ ih | unique _ ih | shuffled _ ih | groupBy _ _ ih | uniqueOn _ _ ih | orderBy _ _ ih | atMost _ _ ih
  | skipping _ _ ih => exact ih

namespace Writable

def Writes (w : Writable) (q : Query) : Prop := ∃ names t, .part t ∈ w.segments names ∧ t.Writes q

def Filled : Writable → Prop
  | .update u => u.Filled
  | .insert i => i.Filled
  | .expr _ | .query _ | .delete _ => True

theorem part_segments {w : Writable} {t : Tree} {names : Names} (other : Names) (h : .part t ∈ w.segments names) :
    .part t ∈ w.segments other := by
  cases w with
  | insert i =>
    simp only [segments, Insert.segments, List.mem_append] at h ⊢
    cases hsource : i.source with
    | select q => simpa [InsertSource.segments, hsource] using h
    | rows items => simpa [InsertSource.segments, hsource, own] using h
  | _ => exact h

theorem supplied_iff {w : Writable} {names names' : Names} {f : Fragment} (h : w.write names = (.ok f, names')) :
    Supplied (w.segments names') ↔ w.Filled := by
  obtain ⟨-, hsound⟩ := spells h
  obtain ⟨chunks, hchunks, -⟩ := chunks_of_write h
  cases w with
  | expr | query => exact iff_of_true trivial trivial
  | update u => exact Update.supplied_iff (Update.spells hchunks).1 hsound
  | delete d =>
    have htable : Silent (own (.text "DELETE FROM " :: d.table.pieces)) := by
      rw [silent_own, List.forall_mem_cons]
      exact ⟨by decide, d.table.silent_pieces⟩
    exact iff_of_true (supplied_of_silent (silent_append.mpr ⟨htable, silent_where d.condition⟩)) trivial
  | insert i =>
    obtain ⟨table, between, htable, hchunks⟩ := Naming.bind_eq_ok.mp hchunks
    exact Insert.supplied_iff (Insert.spells hchunks).2.1 hsound

theorem listed_iff_filled {w : Writable} {names names' : Names} {f : Fragment} (hbuilt : ∀ q, w.Writes q → q.Built)
    (h : w.write names = (.ok f, names')) :
    f.sql = shownText names' (w.layout names')
      ∧ (Listed (w.layout names') ↔ w.Filled ∧ ∀ q, w.Writes q → q.Filled) := by
  obtain ⟨hsql, hsound⟩ := spells h
  refine ⟨hsql, ?_⟩
  rw [← w.flat_segments] at hsound ⊢
  have hparts : ∀ t, .part t ∈ w.segments names' → (Listed t.pieces ↔ ∀ q, t.Writes q → q.Filled) := fun t ht =>
    t.listed_iff (sound_of_part hsound ht) fun q hq => (hbuilt q ⟨names', t, ht, hq⟩).sources_ne_nil
  rw [listed_flat (w.spaced_segments names'), supplied_iff h, forall₂_congr hparts]
  refine and_congr_right fun _ => ⟨?_, fun hall t ht q hq => hall q ⟨names', t, ht, hq⟩⟩
  rintro hall q ⟨other, t, ht, hq⟩
  exact hall t (part_segments names' ht) q hq

theorem listed_iff_filled_trucks :
    let inner := trailer.table.selectOne
    let q := (truck.table.selectAll.filter (some (.exists inner none false))).uniqueOn [truck.table.projectAll]
    ∃ f names', q.write {} = (.ok f, names')
      ∧ f.sql = "SELECT DISTINCT ON (\"truck\".*) \"truck\".* FROM \"truck\""
        ++ " WHERE EXISTS (SELECT ? FROM \"trailer\")"
      ∧ Listed q.pieces := by
  intro inner q
  have hall : partsOf (Expr.all (some truck.table)).segments = [] := rfl
  have hone : partsOf (Expr.value (.int 1)).segments = [] := rfl
  have hexists : partsOf (Expr.exists inner none false).segments = [.query inner] := rfl
  have hinner : partsOf inner.segments = [.expr (.value (.int 1))] := rfl
  have hparts : partsOf q.segments
      = [.expr (.all truck.table), .expr (.all truck.table), .expr (.exists inner none false)] := rfl
  have hwrites : ∀ other, (Writable.query q).Writes other → other = q ∨ other = inner := by
    rintro other ⟨names, t, ht, hother⟩
    cases List.mem_singleton.mp ht
    simpa [Tree.writes_query, Tree.writes_expr, hall, hone, hexists, hinner, hparts] using hother
  have hbuilt : ∀ other, (Writable.query q).Writes other → other.Built := by
    intro other hother
    rcases hwrites other hother with rfl | rfl
    · exact ((Query.Built.select _ _).filter _).uniqueOn _
    · exact .select _ _
  have hfilled : ∀ other, (Writable.query q).Writes other → other.Filled := by
    intro other hother
    rcases hwrites other hother with rfl | rfl
    · constructor <;> simp [q, Query.uniqueOn, Query.filter, Table.selectAll, Table.select, Query.empty]
    · constructor <;> simp [inner, Table.selectOne, Table.select, Query.empty]
  have hwrite : q.write {} = (.ok _, _) := rfl
  obtain ⟨-, hlisted⟩ := listed_iff_filled hbuilt hwrite
  exact ⟨_, _, hwrite, by decide +kernel, hlisted.mpr ⟨trivial, hfilled⟩⟩

theorem empty_list_announced :
    let q := truck.table.selectAll.orderBy []
    let u := (truck.table.update.set (truck.table.column "id") (.value (.int 1))).readFrom (.tables [])
    let i := lorry.table.insert lorry.table.insertFields (.rows [.record lorry.typeName []])
    (∃ f names', q.write {} = (.ok f, names') ∧ f.sql = "SELECT \"truck\".* FROM \"truck\" ORDER BY "
        ∧ q.Built ∧ ¬ Listed q.pieces)
      ∧ (∃ f names', (Writable.update u).write {} = (.ok f, names') ∧ f.sql = "UPDATE \"truck\" SET \"id\" = ? FROM "
        ∧ ¬ Listed u.layout)
      ∧ ∃ f names', (Writable.insert i).write {} = (.ok f, names') ∧ f.sql = "INSERT INTO \"truck\" () VALUES ()"
        ∧ ¬ Listed (i.layout "truck") := by
  intro q u i
  refine ⟨⟨_, _, rfl, by decide +kernel, .orderBy (.select _ _) _, by decide +kernel⟩, ?_, ?_⟩
  · exact ⟨_, _, rfl, by decide +kernel, by decide +kernel⟩
  · exact ⟨_, _, rfl, by decide +kernel, by decide +kernel⟩

end Writable

end RelationalMapping
