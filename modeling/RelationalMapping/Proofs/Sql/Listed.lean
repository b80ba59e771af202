import RelationalMapping.Proofs.Sql.Segments
import RelationalMapping.Proofs.Sql.Statements

namespace RelationalMapping

def announcements : List String :=
  ["DISTINCT ON (", " FROM ", " USING ", " GROUP BY ", " ORDER BY ", " RETURNING ", " SET ", " (", " VALUES (", "), ("]

def Piece.Announces : Piece → Prop
  | .text s => s ∈ announcements
  | _ => False

@[simp] theorem Piece.announces_text (s : String) : (Piece.text s).Announces ↔ s ∈ announcements := Iff.rfl

instance : (p : Piece) → Decidable p.Announces
  | .text s => inferInstanceAs (Decidable (s ∈ announcements))
  | .failure _ | .verbatim _ | .identifier _ | .literal _ | .bound _ | .tableName _ | .columnName _ | .marker _ _ =>
    .isFalse id

def StartsItem (pieces : List Piece) : Prop := ∃ p ∈ pieces.head?, ¬ p.Closes

instance : (pieces : List Piece) → Decidable (StartsItem pieces)
  | [] => .isFalse (by simp [StartsItem])
  | p :: _ => decidable_of_iff (¬ p.Closes) (by simp [StartsItem])

def Listed (pieces : List Piece) : Prop := ∀ p after, p :: after <:+ pieces → p.Announces → StartsItem after

section Pieces

variable {p : Piece} {pieces others : List Piece}

theorem startsItem_cons : StartsItem (p :: pieces) ↔ ¬ p.Closes := by simp [StartsItem]

theorem not_startsItem_of_closes (h : Closes pieces) : ¬ StartsItem pieces := fun ⟨p, hp, hitem⟩ => hitem (h p hp)

theorem startsItem_append (h : StartsItem pieces) (others : List Piece) : StartsItem (pieces ++ others) := by
  cases pieces with
  | nil => simp [StartsItem] at h
  | cons p rest => exact startsItem_cons.mpr (startsItem_cons.mp h)

theorem startsItem_append_iff (hothers : Closes others) : StartsItem (pieces ++ others) ↔ StartsItem pieces := by
  refine ⟨fun h => ?_, fun h => startsItem_append h others⟩
  cases pieces with
  | nil => exact absurd h (not_startsItem_of_closes hothers)
  | cons p rest => exact startsItem_cons.mpr (startsItem_cons.mp h)

theorem startsItem_separated (separator : String) {lists : List (List Piece)} (h : ∀ list ∈ lists, StartsItem list) :
    StartsItem (separated (.text separator) lists) ↔ lists ≠ [] := by
  induction lists using separated.induct with
  | case1 => simp [separated, StartsItem]
  | case2 list => simpa [separated] using h
  | case3 list rest hrest ih =>
    rw [separated]
    · exact iff_of_true (startsItem_append (h list List.mem_cons_self) _) (List.cons_ne_nil _ _)
    · exact hrest

theorem listed_nil : Listed [] := by simp [Listed]

theorem listed_cons : Listed (p :: pieces) ↔ (p.Announces → StartsItem pieces) ∧ Listed pieces := by
  simp only [Listed, List.suffix_cons_iff, List.cons.injEq]
  constructor
  · intro h
    exact ⟨h p pieces (.inl ⟨rfl, rfl⟩), fun other after hafter => h other after (.inr hafter)⟩
  · rintro ⟨hp, h⟩ other after (⟨rfl, rfl⟩ | hafter)
    · exact hp
    · exact h other after hafter

instance instDecidableListed : (pieces : List Piece) → Decidable (Listed pieces)
  | [] => .isTrue listed_nil
  | _ :: rest =>
    have := instDecidableListed rest
    decidable_of_iff _ listed_cons.symm

theorem listed_append (hothers : Closes others) : Listed (pieces ++ others) ↔ Listed pieces ∧ Listed others := by
  induction pieces with
  | nil => simp [listed_nil]
  | cons p rest ih => rw [List.cons_append, listed_cons, listed_cons, startsItem_append_iff hothers, ih, and_assoc]

theorem listed_silent (h : ∀ p ∈ pieces, ¬ p.Announces) : Listed pieces := fun p _ hafter hp =>
  absurd hp (h p (hafter.subset List.mem_cons_self))

end Pieces

def Supplied : List Segment → Prop
  | [] => True
  | .piece p :: rest => (p.Announces → StartsItem (flat rest)) ∧ Supplied rest
  | .part _ :: rest | .mention _ _ :: rest => Supplied rest

def Silent (segments : List Segment) : Prop := ∀ p, .piece p ∈ segments → ¬ p.Announces

section Segments

variable {segments others : List Segment}

theorem Mention.not_announces (m : Mention) (name : String) : ¬ (m.piece name).Announces := by
  unfold Mention.piece
  split <;> exact id

theorem listed_flat (h : Spaced segments) :
    Listed (flat segments) ↔ Supplied segments ∧ ∀ t, .part t ∈ segments → Listed t.pieces := by
  induction segments with
  | nil => simp [Supplied, listed_nil]
  | cons segment rest ih =>
    cases segment with
    | piece p =>
      rw [flat_piece, listed_cons, Supplied, ih h]
      simp [and_assoc]
    | mention m name =>
      rw [flat_mention, listed_cons, Supplied, ih h.2]
      simp [m.not_announces name]
    | part t =>
      rw [flat_part, listed_append (closes_flat h.1), Supplied, ih h.2]
      simp [and_left_comm]

theorem supplied_append (hothers : Ends others) :
    Supplied (segments ++ others) ↔ Supplied segments ∧ Supplied others := by
  induction segments with
  | nil => simp [Supplied]
  | cons segment rest ih =>
    cases segment with
    | piece p =>
      rw [List.cons_append, Supplied, Supplied, ih, flat_append, startsItem_append_iff (closes_flat hothers), and_assoc]
    | _ => exact ih

theorem supplied_silent_append (h : Silent segments) : Supplied (segments ++ others) ↔ Supplied others := by
  induction segments with
  | nil => rfl
  | cons segment rest ih =>
    have hrest : Silent rest := fun p hp => h p (List.mem_cons_of_mem _ hp)
    cases segment with
    | piece p =>
      have hp : ¬ p.Announces := h p List.mem_cons_self
      rw [List.cons_append, Supplied, ih hrest]
      simp [hp]
    | _ => exact ih hrest

theorem supplied_of_silent (h : Silent segments) : Supplied segments := by
  rw [← List.append_nil segments]
  exact (supplied_silent_append h).mpr trivial

@[simp] theorem silent_nil : Silent [] := by simp [Silent]

@[simp] theorem silent_piece {p : Piece} : Silent (.piece p :: segments) ↔ ¬ p.Announces ∧ Silent segments := by
  simp [Silent]

@[simp] theorem silent_part {t : Tree} : Silent (.part t :: segments) ↔ Silent segments := by simp [Silent]

@[simp] theorem silent_mention {m : Mention} {name : String} :
    Silent (.mention m name :: segments) ↔ Silent segments := by simp [Silent]

@[simp] theorem silent_append : Silent (segments ++ others) ↔ Silent segments ∧ Silent others := by
  simp [Silent, or_imp, forall_and]

@[simp] theorem silent_own {pieces : List Piece} : Silent (own pieces) ↔ ∀ p ∈ pieces, ¬ p.Announces := by
  simp [Silent, own]

theorem silent_separated {separator : String} (hseparator : separator ∉ announcements) {lists : List (List Segment)}
    (h : ∀ list ∈ lists, Silent list) : Silent (separatedSegments separator lists) := by
  intro p hp
  rcases mem_of_mem_separated hp with hp | ⟨list, hlist, hp⟩
  · cases hp
    exact hseparator
  · exact h list hlist p hp

theorem supplied_separated {separator : String} (hcloses : (Piece.text separator).Closes)
    (hseparator : separator ∉ announcements) {lists : List (List Segment)} :
    Supplied (separatedSegments separator lists) ↔ ∀ list ∈ lists, Supplied list := by
  unfold separatedSegments
  induction lists using separated.induct with
  | case1 => simp [separated, Supplied]
  | case2 list => simp [separated]
  | case3 list rest hrest ih =>
    have hsilent : ¬ (Piece.text separator).Announces := hseparator
    have hends : Ends (.piece (.text separator) :: separated (.piece (.text separator)) rest) := hcloses
    rw [separated, supplied_append hends, Supplied, ih, List.forall_mem_cons]
    · simp [hsilent]
    · exact hrest

theorem supplied_announced {keyword separator : String} (hkeyword : keyword ∈ announcements)
    (hcloses : (Piece.text separator).Closes) (hseparator : separator ∉ announcements) {lists : List (List Segment)}
    (h : ∀ list ∈ lists, StartsItem (flat list)) :
    Supplied (.piece (.text keyword) :: separatedSegments separator lists)
      ↔ lists ≠ [] ∧ ∀ list ∈ lists, Supplied list := by
  have hannounces : (Piece.text keyword).Announces := hkeyword
  rw [Supplied, flat_separated, startsItem_separated separator (List.forall_mem_map.mpr h),
    supplied_separated hcloses hseparator]
  simp [hannounces]

end Segments

theorem Table.startsItem_qualifier (t : Table) (pieces : List Piece) : StartsItem (t.qualifier ++ pieces) := by
  unfold qualifier
  cases t.alias? <;> exact startsItem_cons.mpr id

theorem startsItem_enclosed (pieces : List Piece) : StartsItem (enclosed pieces) := startsItem_cons.mpr (by decide)

theorem zoneCheck_eq_nil {zone : Expr} (h : Sound (zoneCheck zone)) : zoneCheck zone = [] := by
  revert h
  unfold zoneCheck
  split
  · split <;> simp [Sound]
  · exact fun _ => rfl

-- an operation that does not enclose itself begins as its left operand does
theorem Expr.startsItem : (e : Expr) → Sound e.pieces → StartsItem e.pieces
  | .adapted _ e, h => by
    rw [Expr.pieces] at h ⊢
    exact e.startsItem h
  | .binary op left right, h => by
    rw [Expr.pieces, operation] at h ⊢
    cases hop : op.encloses with
    | true => exact startsItem_enclosed _
    | false =>
      rw [hop] at h
      exact startsItem_append (left.startsItem (sound_append.mp h).1) _
  | .all (some t), _ => by
    rw [Expr.pieces]
    exact t.startsItem_qualifier _
  | .column c, _ => by
    rw [Expr.pieces]
    exact c.table.startsItem_qualifier _
  | .value v, _ => by
    rw [Expr.pieces, startsItem_cons]
    cases v with
    | null => decide
    | _ => exact id
  | .connective op [], _ => by
    rw [Expr.pieces]
    cases op <;> exact startsItem_cons.mpr (by decide)
  | .connective op (e :: rest), _ => by
    rw [Expr.pieces]
    exact startsItem_enclosed _
  | .member e [] negated, _ | .member e (c :: rest) negated, _ => by
    rw [Expr.pieces]
    exact startsItem_cons.mpr (by decide)
  | .exists query alias? negated, _ => by
    rw [Expr.pieces]
    cases negated <;> exact startsItem_cons.mpr (by decide)
  | .atTimeZone time zone, h => by
    rw [Expr.pieces] at h ⊢
    simp only [sound_append, List.append_assoc, List.cons_append] at h
    rw [zoneCheck_eq_nil h.1]
    exact startsItem_cons.mpr (by decide)
  | .case [] fallback, h => by
    rw [Expr.pieces] at h
    exact absurd h (by simp [Sound])
  | .case (b :: rest) fallback, _ | .all none, _ | .distinct _, _ | .array _ _, _ | .not _, _ | .empty _ _, _
  | .is _ _ _, _ | .call _ _, _ | .typedLiteral _ _, _ | .cast _ _, _ | .jsonObject _, _ | .aliasName _, _
  | .tableName _, _ => by
    rw [Expr.pieces]
    exact startsItem_cons.mpr (by first | exact id | decide)

theorem Projection.startsItem (p : Projection) (h : Sound (flat p.segments)) : StartsItem (flat p.segments) := by
  rw [segments, flat_expr] at h ⊢
  exact startsItem_append (p.expr.startsItem (sound_append.mp h).1) _

theorem Projection.startsItem_group (p : Projection) (h : Sound (flat p.groupSegments)) :
    StartsItem (flat p.groupSegments) := by
  obtain ⟨e, alias?⟩ := p
  cases alias? with
  | some name => exact startsItem_cons.mpr id
  | none => exact startsItem_append (e.startsItem (sound_append.mp h).1) _

theorem OrderTerm.startsItem (o : OrderTerm) (h : Sound (flat o.segments)) : StartsItem (flat o.segments) := by
  cases o with
  | expr e descending nulls => exact startsItem_append (e.startsItem (sound_append.mp h).1) _
  | case branches =>
    cases branches with
    | nil => exact absurd h (by simp [segments, Sound])
    | cons b rest => exact startsItem_cons.mpr (by decide : ¬ (Piece.text "CASE ").Closes)

theorem FromItem.startsItem (i : FromItem) : StartsItem (flat i.segments) := by
  cases i with
  | table t => exact startsItem_cons.mpr id
  | query q alias? => exact startsItem_cons.mpr (by decide : ¬ (Piece.text "(").Closes)
  | join j =>
    have hkind : ¬ (Piece.text (j.kind.text ++ " ")).Closes := by cases j.kind <;> decide
    rw [FromItem.segments, Join.segments]
    split <;> exact startsItem_cons.mpr hkind

theorem startsItem_lists {separator : String} {lists : List (List Segment)}
    (h : Sound (flat (separatedSegments separator lists)))
    (hitem : ∀ list ∈ lists, Sound (flat list) → StartsItem (flat list)) : ∀ list ∈ lists, StartsItem (flat list) := by
  intro list hlist
  refine hitem list hlist fun fault hfault => h fault ?_
  rw [flat_separated]
  exact mem_separated (List.mem_map_of_mem hlist) hfault

theorem silent_alias {lead : String} (hlead : lead ∉ announcements) (m : Mention) (name : Option String) :
    Silent (aliasSegments lead m name) := by
  cases name <;> simp [aliasSegments, hlead]

theorem silent_clause {keyword : String} (hkeyword : keyword ∉ announcements) {segments : Option (List Segment)}
    (h : ∀ s ∈ segments, Silent s) : Silent (clauseSegments keyword segments) := by
  cases segments with
  | none => exact silent_nil
  | some s => exact silent_piece.mpr ⟨hkeyword, h s rfl⟩

theorem silent_exprs (es : List Expr) : ∀ list ∈ exprSegments es, Silent list := by
  simp [exprSegments]

theorem silent_optional (keyword : String) (hkeyword : keyword ∉ announcements) (e : Option Expr) :
    Silent (clauseSegments keyword (e.map fun e => [.part (.expr e)])) := by
  refine silent_clause hkeyword fun s hs => ?_
  obtain ⟨e, -, rfl⟩ := Option.map_eq_some_iff.mp hs
  simp

theorem Table.silent_qualifier (m : Mention) (t : Table) : Silent (t.qualifierSegments m) := by
  unfold qualifierSegments
  split <;> simp [Piece.Announces]

theorem silent_branches (bs : List Branch) : ∀ list ∈ bs.map (·.segments), Silent list := by
  refine List.forall_mem_map.mpr fun b _ => ?_
  simp [Branch.segments, announcements]

theorem BinaryOp.text_not_announces : (op : BinaryOp) → " " ++ op.text ++ " " ∉ announcements
  | .arithmetic op => by cases op <;> decide
  | .date op => by cases op <;> decide
  | .comparison op => by cases op <;> decide
  | .array op => by cases op <;> decide
  | .pattern op negated => by cases op <;> cases negated <;> decide
  | .json op => by cases op <;> decide
  | .scaleInterval | .concatJson => by decide

theorem zoneCheck_silent (zone : Expr) : ∀ p ∈ zoneCheck zone, ¬ p.Announces := by
  unfold zoneCheck
  split
  · split <;> simp [Piece.Announces]
  · simp

theorem Expr.silent_segments (e : Expr) : Silent e.segments := by
  have hcomma : ", " ∉ announcements := by decide
  cases e with
  | all table =>
    cases table with
    | none => simp [segments, pieces, announcements]
    | some t => simp [segments, t.silent_qualifier, announcements]
  | column c => simp [segments, c.table.silent_qualifier, announcements, Piece.Announces]
  | value v => cases v <;> simp [segments, pieces, Value.piece, Piece.Announces, announcements]
  | binary op left right =>
    have hop := op.text_not_announces
    have hopen : "(" ∉ announcements := by decide
    have hclose : ")" ∉ announcements := by decide
    rw [segments]
    split <;> simp [hop, hopen, hclose]
  | connective op items =>
    cases items with
    | nil => cases op <;> simp [segments, pieces, Connective.unit, announcements]
    | cons e rest =>
      have hop : " " ++ op.text ++ " " ∉ announcements := by cases op <;> decide
      have hitems := silent_separated hop (silent_exprs (e :: rest))
      simp [segments, hitems, announcements]
  | empty e negated => cases negated <;> simp [segments, announcements, Piece.Announces]
  | is e test negated => cases negated <;> cases test <;> simp [segments, announcements, TruthTest.text]
  | member e candidates negated =>
    cases candidates with
    | nil => cases negated <;> simp [segments, announcements]
    | cons c rest =>
      have hcandidates := silent_separated hcomma (silent_exprs (c :: rest))
      cases negated <;> simp [segments, hcandidates, announcements]
  | call function args =>
    have hargs := silent_separated hcomma (silent_exprs args)
    simp [segments, hargs, announcements, Piece.Announces]
  | «exists» query alias? negated =>
    have halias := silent_alias (by decide : " " ∉ announcements) .subQuery alias?
    cases negated <;> simp [segments, halias, announcements]
  | atTimeZone time zone =>
    have hzone : Silent (own (zoneCheck zone ++ [.text "("])) := by
      rw [silent_own, List.forall_mem_append]
      exact ⟨zoneCheck_silent zone, by decide⟩
    rw [segments, List.append_assoc, silent_append]
    exact ⟨hzone, by simp [announcements]⟩
  | jsonObject entries =>
    have hentries : Silent (separatedSegments ", "
        (entries.map fun x => own [.literal x.key, .text ", "] ++ [Segment.part (.expr x.value)])) :=
      silent_separated hcomma (List.forall_mem_map.mpr fun x _ => by simp [announcements, Piece.Announces])
    simp [segments, hentries, announcements]
  | case branches fallback =>
    cases branches with
    | nil => simp [segments, pieces, Piece.Announces]
    | cons b rest =>
      have hbranches := silent_separated (by decide : " " ∉ announcements) (silent_branches (b :: rest))
      have hfallback := silent_optional " ELSE " (by decide) fallback
      simp only [segments, silent_append, hbranches, hfallback, and_true]
      simp [announcements]
  | _ => simp [segments, pieces, announcements, Piece.Announces]

theorem Projection.silent_segments (p : Projection) : Silent p.segments :=
  silent_part.mpr (silent_alias (by decide) _ _)

theorem silent_projections (ps : List Projection) : ∀ list ∈ ps.map (·.segments), Silent list :=
  List.forall_mem_map.mpr fun p _ => p.silent_segments

theorem Projection.silent_groupSegments (p : Projection) : Silent p.groupSegments := by
  unfold groupSegments
  split <;> simp

theorem Aggregate.silent_segments (a : Aggregate) : Silent a.segments := by
  have hargs : Silent (separatedSegments ", " ([.part (.expr a.expr)] :: a.arguments.map fun v => own [v.piece])) := by
    refine silent_separated (by decide) (List.forall_mem_cons.mpr ⟨by simp, List.forall_mem_map.mpr fun v _ => ?_⟩)
    cases v <;> simp [Value.piece, Piece.Announces, announcements]
  have halias := silent_alias (by decide : " AS " ∉ announcements) .aggregate a.alias?
  cases hunnested : a.unnested <;>
    simp [segments, hunnested, hargs, halias, announcements, Piece.Announces]

theorem OrderTerm.silent_segments (o : OrderTerm) : Silent o.segments := by
  cases o with
  | expr e descending nulls =>
    have hnulls : ∀ p ∈ nullsPieces nulls, ¬ p.Announces := by
      rcases nulls with _ | _ | _ <;> decide
    cases descending <;> simpa [segments, announcements] using hnulls
  | case branches =>
    cases branches with
    | nil => simp [segments, Piece.Announces]
    | cons b rest =>
      have hbranches := silent_separated (by decide : " " ∉ announcements) (silent_branches (b :: rest))
      simp only [segments, silent_append, hbranches, and_true]
      simp [announcements]

theorem silent_markers (edge : Edge) (into : Option IntoField) : ∀ list ∈ (markerPieces edge into).map own, Silent list := by
  cases into <;> simp [markerPieces, Piece.Announces]

theorem FromItem.silent_columnSegments (i : FromItem) : ∀ list ∈ i.columnSegments, Silent list := by
  cases i with
  | join j =>
    exact List.forall_mem_append.mpr
      ⟨List.forall_mem_append.mpr ⟨silent_markers _ _, silent_projections _⟩, silent_markers _ _⟩
  | _ => simp [columnSegments]

theorem silent_count {keyword : String} (h : ∀ s ∈ announcements, ¬ keyword.toList <+: s.toList)
    (count : Option UInt64) : Silent (own (countPieces keyword count)) := by
  cases count with
  | none => simp [countPieces]
  | some n =>
    have hkeyword : keyword ++ toString n.toNat ∉ announcements := fun hmem => h _ hmem (by simp)
    simpa [countPieces] using hkeyword

namespace Query

/-- Of the lists that are set where they are written, none is empty. -/
structure Filled (q : Query) : Prop where
  keys : q.distinct = false → ∀ keys ∈ q.distinctOn, keys ≠ []
  shared : ∀ j, .join j ∈ q.sources → j.condition = none → ∀ columns ∈ j.shared, columns ≠ []
  groups : q.grouped = true → q.projections ≠ []
  terms : q.random = false → ∀ terms ∈ q.order, terms ≠ []

end Query

theorem supplied_listed {keyword : String} (hkeyword : keyword ∈ announcements) {lists : List (List Segment)}
    (hstart : ∀ list ∈ lists, StartsItem (flat list)) (hsilent : ∀ list ∈ lists, Silent list) :
    Supplied (.piece (.text keyword) :: separatedSegments ", " lists) ↔ lists ≠ [] := by
  rw [supplied_announced hkeyword (by decide) (by decide) hstart]
  exact and_iff_left fun list hlist => supplied_of_silent (hsilent list hlist)

theorem supplied_pieces {α : Type} {keyword : String} (hkeyword : keyword ∈ announcements) {f : α → Piece}
    (hf : ∀ a, ¬ (f a).Closes ∧ ¬ (f a).Announces) (items : List α) :
    Supplied (.piece (.text keyword) :: separatedSegments ", " (items.map fun a => own [f a])) ↔ items ≠ [] := by
  have hstart : ∀ list ∈ items.map fun a => own [f a], StartsItem (flat list) :=
    List.forall_mem_map.mpr fun a _ => startsItem_cons.mpr (hf a).1
  have hsilent : ∀ list ∈ items.map fun a => own [f a], Silent list :=
    List.forall_mem_map.mpr fun a _ => by simpa using (hf a).2
  rw [supplied_listed hkeyword hstart hsilent, ne_eq, List.map_eq_nil_iff]

theorem own_columnNames (columns : List Column) :
    own (columnNames columns) = separatedSegments ", " (columns.map fun c => own [.columnName c]) := by
  unfold columnNames listed separatedSegments
  induction columns with
  | nil => rfl
  | cons c rest ih =>
    cases rest with
    | nil => rfl
    | cons other rest =>
      simp only [List.map_cons, separated, own] at ih ⊢
      simp [ih]

theorem supplied_match (condition : Option Expr) (shared : Option (List Column)) :
    Supplied (matchSegments condition shared) ↔ (condition = none → ∀ columns ∈ shared, columns ≠ []) := by
  cases condition with
  | some e => simpa using supplied_of_silent (by simp [matchSegments, announcements])
  | none =>
    cases shared with
    | none => simpa using supplied_of_silent (by simp [matchSegments, joinMatch, Piece.Announces])
    | some columns =>
      have hsegments : matchSegments none (some columns)
          = .piece (.text " USING ") :: separatedSegments ", " (columns.map fun c => own [.columnName c]) := by
        rw [← own_columnNames]
        rfl
      rw [hsegments, supplied_pieces (by decide) fun _ => ⟨id, id⟩]
      simp

theorem FromItem.supplied_iff (i : FromItem) :
    Supplied i.segments ↔ ∀ j, i = .join j → j.condition = none → ∀ columns ∈ j.shared, columns ≠ [] := by
  cases i with
  | table t =>
    have hsilent : Silent t.segments := silent_piece.mpr ⟨id, silent_alias (by decide) _ _⟩
    exact iff_of_true (supplied_of_silent hsilent) nofun
  | query q alias? =>
    have halias := silent_alias (by decide : " " ∉ announcements) .subQuery alias?
    exact iff_of_true (supplied_of_silent (by simp [segments, halias, announcements])) nofun
  | join j =>
    have hkind : j.kind.text ++ " " ∉ announcements := by cases j.kind <;> decide
    have hopen : "(" ∉ announcements := by decide
    have hclose : ")" ∉ announcements ∧ " " ∉ announcements := by decide
    have hmatch := supplied_match j.condition j.shared
    simp only [FromItem.join.injEq, forall_eq']
    rw [segments, Join.segments, ← hmatch]
    split
    · rename_i name
      have hquery : Silent (own [.text (j.kind.text ++ " "), .text "("] ++ .part (.query j.query)
          :: own [.text ")", .text " "]) := by
        simp [hkind, hopen, hclose]
      exact supplied_silent_append hquery
    · cases soleTable? j.query.sources with
      | some t =>
        have htable : Silent (own [.text (j.kind.text ++ " ")] ++ t.segments) :=
          silent_append.mpr ⟨by simp [hkind], silent_piece.mpr ⟨id, silent_alias (by decide) _ _⟩⟩
        exact supplied_silent_append htable
      | none =>
        have hfault : Silent (own [.text (j.kind.text ++ " "), .failure (.statement .joinWithoutTable)]) := by
          simp [hkind, Piece.Announces]
        exact supplied_silent_append hfault

theorem supplied_distinct_append {columns : List Segment} (hcolumns : Silent columns) (distinct : Bool)
    (keys : Option (List Projection)) (h : Sound (flat (distinctSegments distinct keys))) :
    Supplied (distinctSegments distinct keys ++ columns) ↔ (distinct = false → ∀ ps ∈ keys, ps ≠ []) := by
  cases distinct with
  | true => simpa using supplied_of_silent (by simp [distinctSegments, hcolumns, announcements])
  | false =>
    cases keys with
    | none => simpa [distinctSegments] using supplied_of_silent hcolumns
    | some keys =>
      have hends : Ends (own [.text ") "] ++ columns) := (by decide : (Piece.text ") ").Closes)
      have hsilent : Silent (own [.text ") "] ++ columns) := by simp [hcolumns, announcements]
      rw [distinctSegments, flat_append, flat_append, sound_append, sound_append] at h
      have hstart := startsItem_lists h.1.2 (List.forall_mem_map.mpr fun p _ => p.startsItem)
      have hkeys := supplied_listed (by decide : "DISTINCT ON (" ∈ announcements) hstart
        (silent_projections keys)
      rw [distinctSegments, List.append_assoc, supplied_append hends]
      simp only [supplied_of_silent hsilent, and_true]
      refine hkeys.trans ?_
      simp

theorem supplied_ordering (random : Bool) (terms : Option (List OrderTerm))
    (h : Sound (flat (orderingSegments random terms))) :
    Supplied (orderingSegments random terms) ↔ (random = false → ∀ os ∈ terms, os ≠ []) := by
  cases random with
  | true => simpa using supplied_of_silent (by simp [orderingSegments, announcements])
  | false =>
    cases terms with
    | none => simp [orderingSegments, Supplied]
    | some terms =>
      have hstart := startsItem_lists (sound_cons.mp h).2 (List.forall_mem_map.mpr fun o _ => o.startsItem)
      rw [orderingSegments, supplied_listed (by decide) hstart
        (List.forall_mem_map.mpr fun o _ => o.silent_segments)]
      simp

theorem supplied_grouping (grouped : Bool) (projections : List Projection)
    (h : Sound (flat (clauseSegments " GROUP BY "
      (if grouped then some (separatedSegments ", " (projections.map (·.groupSegments))) else none)))) :
    Supplied (clauseSegments " GROUP BY "
      (if grouped then some (separatedSegments ", " (projections.map (·.groupSegments))) else none))
      ↔ (grouped = true → projections ≠ []) := by
  cases grouped with
  | false => simp [clauseSegments, Supplied]
  | true =>
    have hstart := startsItem_lists (sound_cons.mp h).2 (List.forall_mem_map.mpr fun p _ => p.startsItem_group)
    rw [if_pos rfl, clauseSegments, supplied_listed (by decide) hstart
      (List.forall_mem_map.mpr fun p _ => p.silent_groupSegments)]
    simp

theorem Query.silent_columns (q : Query) :
    Silent (separatedSegments ", " (q.aggregates.map (·.segments) ++ q.projections.map (·.segments)
      ++ q.sources.flatMap (·.columnSegments))) := by
  refine silent_separated (by decide) (List.forall_mem_append.mpr ⟨List.forall_mem_append.mpr ⟨?_, ?_⟩, ?_⟩)
  · exact List.forall_mem_map.mpr fun a _ => a.silent_segments
  · exact silent_projections _
  · intro list hlist
    obtain ⟨i, -, hi⟩ := List.mem_flatMap.mp hlist
    exact i.silent_columnSegments list hi

theorem supplied_sources (sources : List FromItem) :
    Supplied (.piece (.text " FROM ") :: separatedSegments " " (sources.map (·.segments)))
      ↔ sources ≠ [] ∧ ∀ j, .join j ∈ sources → j.condition = none → ∀ columns ∈ j.shared, columns ≠ [] := by
  rw [supplied_announced (by decide) (by decide) (by decide) (List.forall_mem_map.mpr fun i _ => i.startsItem),
    List.forall_mem_map, ne_eq, List.map_eq_nil_iff]
  refine and_congr_right fun _ => ⟨fun h j hj => (FromItem.supplied_iff _).mp (h _ hj) j rfl, fun h i hi => ?_⟩
  refine i.supplied_iff.mpr ?_
  rintro j rfl
  exact h j hi

theorem Query.supplied_iff (q : Query) (h : Sound q.pieces) : Supplied q.segments ↔ q.sources ≠ [] ∧ q.Filled := by
  have hfrom : Ends (.piece (.text " FROM ") :: separatedSegments " " (q.sources.map (·.segments))) :=
    (by decide : (Piece.text " FROM ").Closes)
  have hwhere := silent_optional " WHERE " (by decide) q.condition
  have hlimit : Silent (own (countPieces " LIMIT " q.limit)) := silent_count (by decide) _
  have hoffset : Silent (own (countPieces " OFFSET " q.offset)) := silent_count (by decide) _
  rw [← q.flat_segments, segments] at h
  simp only [flat_append, sound_append, flat_piece, sound_cons] at h
  obtain ⟨⟨⟨⟨⟨⟨⟨⟨-, hdistinct⟩, -⟩, -⟩, -⟩, hgroups⟩, horder⟩, -⟩, -⟩ := h
  rw [segments, supplied_append (ends_count (by decide) _), supplied_append (ends_count (by decide) _),
    supplied_append (ends_ordering _ _), supplied_append (ends_clause (by decide) _),
    supplied_append (ends_clause (by decide) _), supplied_append hfrom, List.append_assoc,
    supplied_silent_append (by simp [announcements]), supplied_distinct_append q.silent_columns _ _ hdistinct,
    supplied_sources, supplied_grouping _ _ hgroups, supplied_ordering _ _ horder]
  constructor
  · rintro ⟨⟨⟨⟨⟨⟨hkeys, hitems, hshared⟩, -⟩, hgrouped⟩, hterms⟩, -⟩, -⟩
    exact ⟨hitems, hkeys, hshared, hgrouped, hterms⟩
  · rintro ⟨hitems, hkeys, hshared, hgrouped, hterms⟩
    exact ⟨⟨⟨⟨⟨⟨hkeys, hitems, hshared⟩, supplied_of_silent hwhere⟩, hgrouped⟩, hterms⟩, supplied_of_silent hlimit⟩,
      supplied_of_silent hoffset⟩

end RelationalMapping
