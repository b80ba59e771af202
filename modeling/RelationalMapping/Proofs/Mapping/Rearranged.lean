import RelationalMapping.Proofs.Mapping.Arrangement
import RelationalMapping.Proofs.Mapping.NestedRows

namespace RelationalMapping

/-- The columns are single ones and blocks in some order, of which no block is broken up. -/
def Interleaves {α : Type} (own : List α) (blocks : List (List α)) (columns : List α) : Prop :=
  ∃ segments : List (List α), columns = segments.flatten ∧ segments.Perm (own.map ([·]) ++ blocks)

section Interleaves

variable {α : Type} {own columns block : List α} {blocks : List (List α)}

theorem Interleaves.perm (h : Interleaves own blocks columns) : columns.Perm (own ++ blocks.flatten) := by
  obtain ⟨segments, rfl, hsegments⟩ := h
  have hflat := hsegments.flatten
  rwa [List.flatten_append, ← List.flatMap_def, List.flatMap_singleton'] at hflat

theorem Interleaves.exists_of_cons (h : Interleaves own (block :: blocks) columns) :
    ∃ before after, columns = before ++ (block ++ after) ∧ Interleaves own blocks (before ++ after) := by
  obtain ⟨segments, rfl, hsegments⟩ := h
  have hblock : block ∈ segments := hsegments.mem_iff.mpr (by simp)
  obtain ⟨before, after, rfl⟩ := List.append_of_mem hblock
  refine ⟨before.flatten, after.flatten, by simp, before ++ after, by simp, ?_⟩
  exact (List.perm_middle.symm.trans (hsegments.trans List.perm_middle)).cons_inv

end Interleaves

mutual

def Query.sentinels : Query → List String
  | ⟨_, _, sources, _, _, _, _, _, _, _, _⟩ => sourcesSentinels sources

def sourcesSentinels : List FromItem → List String
  | [] => []
  | item :: rest => item.sentinels ++ sourcesSentinels rest

def FromItem.sentinels : FromItem → List String
  | .join ⟨query, _, some into, _, _, _⟩ => into.ownLabel .start :: into.ownLabel .stop :: query.sentinels
  | _ => []

end

mutual

def Query.Rearranged (context : MappingContext) (among : Entity → Prop) (reserved : List String) (e : Entity) :
    Query → List ResultColumn → List ResultColumn → Prop
  | ⟨_, _, sources, _, _, _, _, _, _, _, _⟩, columns, columns' =>
    ∃ own own' blocks blocks', among e ∧ e.Widens context ResultColumn.IsNull own own'
      ∧ (∀ x ∈ own', x.label ∉ reserved)
      ∧ Interleaves own blocks columns ∧ Interleaves own' blocks' columns'
      ∧ sourcesRearranged context among reserved sources blocks blocks'

def sourcesRearranged (context : MappingContext) (among : Entity → Prop) (reserved : List String) :
    List FromItem → List (List ResultColumn) → List (List ResultColumn) → Prop
  | [], blocks, blocks' => blocks = [] ∧ blocks' = []
  | item :: rest, blocks, blocks' =>
    ∃ first others first' others', blocks = first ++ others ∧ blocks' = first' ++ others'
      ∧ item.Rearranged context among reserved first first'
      ∧ sourcesRearranged context among reserved rest others others'

/-- The block of a join, between the columns of its markers. -/
def FromItem.Rearranged (context : MappingContext) (among : Entity → Prop) (reserved : List String) :
    FromItem → List (List ResultColumn) → List (List ResultColumn) → Prop
  | .join ⟨query, _, some into, _, _, _⟩, blocks, blocks' =>
    among into.column.table.entity ∧ ∃ start stop inside inside',
      start.label = into.ownLabel .start ∧ stop.label = into.ownLabel .stop
        ∧ blocks = [start :: (inside ++ [stop])] ∧ blocks' = [start :: (inside' ++ [stop])]
        ∧ query.Rearranged context among reserved into.target inside inside'
  | _, blocks, blocks' => blocks = [] ∧ blocks' = []

end

variable {context : MappingContext} {among : Entity → Prop} {reserved : List String} {e : Entity}
variable {own own' columns columns' inside : List ResultColumn} {blocks blocks' : List (List ResultColumn)}

mutual

theorem Query.label_of_rearranged : (q : Query) → ∀ {e : Entity} {columns columns' : List ResultColumn},
    q.Rearranged context among reserved e columns columns' →
    ∀ x, x ∈ columns ∨ x ∈ columns' → x.label ∈ q.sentinels ∨ x.label ∉ reserved
  | ⟨_, _, sources, _, _, _, _, _, _, _, _⟩, e, columns, columns', h, x, hx => by
    rw [Query.Rearranged] at h
    obtain ⟨own, own', blocks, blocks', -, hwidens, hown, hcolumns, hcolumns', hsources⟩ := h
    have hblocks := label_of_sourcesRearranged sources hsources x
    rw [Query.sentinels]
    rw [hcolumns.perm.mem_iff, hcolumns'.perm.mem_iff, List.mem_append, List.mem_append] at hx
    rcases hx with (hx | hx) | (hx | hx)
    · exact .inr (hown x (hwidens.subset hx))
    · exact hblocks (.inl hx)
    · exact .inr (hown x hx)
    · exact hblocks (.inr hx)

theorem label_of_sourcesRearranged : (sources : List FromItem) → ∀ {blocks blocks' : List (List ResultColumn)},
    sourcesRearranged context among reserved sources blocks blocks' →
    ∀ x, x ∈ blocks.flatten ∨ x ∈ blocks'.flatten → x.label ∈ sourcesSentinels sources ∨ x.label ∉ reserved
  | [], blocks, blocks', h, x, hx => by
    obtain ⟨rfl, rfl⟩ := h
    simp at hx
  | item :: rest, blocks, blocks', h, x, hx => by
    obtain ⟨first, others, first', others', rfl, rfl, hitem, hrest⟩ := h
    have hfirst := item.label_of_rearranged hitem x
    have hothers := label_of_sourcesRearranged rest hrest x
    rw [sourcesSentinels, List.mem_append]
    rw [List.flatten_append, List.flatten_append, List.mem_append, List.mem_append] at hx
    tauto

theorem FromItem.label_of_rearranged : (item : FromItem) → ∀ {blocks blocks' : List (List ResultColumn)},
    item.Rearranged context among reserved blocks blocks' →
    ∀ x, x ∈ blocks.flatten ∨ x ∈ blocks'.flatten → x.label ∈ item.sentinels ∨ x.label ∉ reserved
  | .join ⟨query, _, some into, _, _, _⟩, blocks, blocks', h, x, hx => by
    obtain ⟨-, start, stop, inside, inside', hstart, hstop, rfl, rfl, hquery⟩ := h
    have hinside := query.label_of_rearranged hquery x
    simp only [FromItem.sentinels, List.mem_cons]
    simp only [List.flatten_cons, List.flatten_nil, List.append_nil, List.mem_cons, List.mem_append,
      List.not_mem_nil, or_false] at hx
    rcases hx with (rfl | hx | rfl) | (rfl | hx | rfl)
    all_goals tauto
  | .join ⟨_, _, none, _, _, _⟩, blocks, blocks', h, x, hx => by
    obtain ⟨rfl, rfl⟩ := h
    simp at hx
  | .table _, blocks, blocks', h, x, hx => by
    obtain ⟨rfl, rfl⟩ := h
    simp at hx
  | .query _ _, blocks, blocks', h, x, hx => by
    obtain ⟨rfl, rfl⟩ := h
    simp at hx

end

def Blank (columns : List ResultColumn) (r : Nat) : Prop := ∀ x ∈ columns, (x.cell r).isNull = true

theorem blank_append (columns others : List ResultColumn) (r : Nat) :
    Blank (columns ++ others) r ↔ Blank columns r ∧ Blank others r := List.forall_mem_append

theorem Interleaves.blank_iff (h : Interleaves own blocks columns) (r : Nat) :
    Blank columns r ↔ Blank own r ∧ Blank blocks.flatten r := by
  rw [← blank_append, Blank, Blank]
  exact forall_congr' fun x => by rw [h.perm.mem_iff]

theorem Entity.Widens.blank_iff (h : e.Widens context ResultColumn.IsNull own own') (r : Nat) :
    Blank own r ↔ Blank own' r := by
  obtain ⟨surplus, hperm, hsurplus⟩ := h.surplus
  have hblank : Blank surplus r := fun x hx => by rw [(hsurplus x hx).1 r]; rfl
  have happend : Blank own' r ↔ Blank (own ++ surplus) r := forall_congr' fun x => by rw [hperm.mem_iff]
  rw [happend, blank_append, and_iff_left hblank]

mutual

theorem Query.blank_of_rearranged : (q : Query) → ∀ {e : Entity} {columns columns' : List ResultColumn},
    q.Rearranged context among reserved e columns columns' → ∀ r, Blank columns r ↔ Blank columns' r
  | ⟨_, _, sources, _, _, _, _, _, _, _, _⟩, e, columns, columns', h, r => by
    rw [Query.Rearranged] at h
    obtain ⟨own, own', blocks, blocks', -, hwidens, -, hcolumns, hcolumns', hsources⟩ := h
    rw [hcolumns.blank_iff, hcolumns'.blank_iff, hwidens.blank_iff, blank_of_sourcesRearranged sources hsources]

theorem blank_of_sourcesRearranged : (sources : List FromItem) → ∀ {blocks blocks' : List (List ResultColumn)},
    sourcesRearranged context among reserved sources blocks blocks' →
    ∀ r, Blank blocks.flatten r ↔ Blank blocks'.flatten r
  | [], blocks, blocks', h, r => by
    obtain ⟨rfl, rfl⟩ := h
    exact Iff.rfl
  | item :: rest, blocks, blocks', h, r => by
    obtain ⟨first, others, first', others', rfl, rfl, hitem, hrest⟩ := h
    rw [List.flatten_append, List.flatten_append, blank_append, blank_append, item.blank_of_rearranged hitem,
      blank_of_sourcesRearranged rest hrest]

theorem FromItem.blank_of_rearranged : (item : FromItem) → ∀ {blocks blocks' : List (List ResultColumn)},
    item.Rearranged context among reserved blocks blocks' →
    ∀ r, Blank blocks.flatten r ↔ Blank blocks'.flatten r
  | .join ⟨query, _, some into, _, _, _⟩, blocks, blocks', h, r => by
    obtain ⟨-, start, stop, inside, inside', -, -, rfl, rfl, hquery⟩ := h
    have hblock : ∀ columns, Blank [start :: (columns ++ [stop])].flatten r
        ↔ Blank [start] r ∧ Blank columns r ∧ Blank [stop] r := by
      intro columns
      rw [List.flatten_singleton, ← List.singleton_append, blank_append, blank_append]
    rw [hblock, hblock, query.blank_of_rearranged hquery]
  | .join ⟨_, _, none, _, _, _⟩, blocks, blocks', h, r => by
    obtain ⟨rfl, rfl⟩ := h
    exact Iff.rfl
  | .table _, blocks, blocks', h, r => by
    obtain ⟨rfl, rfl⟩ := h
    exact Iff.rfl
  | .query _ _, blocks, blocks', h, r => by
    obtain ⟨rfl, rfl⟩ := h
    exact Iff.rfl

end

def Stands (rows : Nat → Row) (own : List ResultColumn) (blocks : List (List ResultColumn))
    (heads : List ColumnLabel) : Prop :=
  ∃ columns, List.Forall₂ (ColumnLabel.Heads rows) heads columns ∧ Interleaves own blocks columns

theorem exists_of_forall₂_append {α β : Type} {related : α → β → Prop} {xs : List α} {ys zs : List β}
    (h : List.Forall₂ related xs (ys ++ zs)) :
    ∃ us vs, xs = us ++ vs ∧ List.Forall₂ related us ys ∧ List.Forall₂ related vs zs :=
  ⟨xs.take ys.length, xs.drop ys.length, (List.take_append_drop ys.length xs).symm,
    List.forall₂_take_append xs ys zs h, List.forall₂_drop_append xs ys zs h⟩

section Taking

variable {rows rows' : Nat → Row} {heads : List ColumnLabel}

theorem isVacant_iff_blank (h : List.Forall₂ (ColumnLabel.Heads rows) heads columns) (r : Nat) :
    (rows r).isVacant (heads.map (·.position)) = true ↔ Blank columns r := by
  induction h with
  | nil => simp [Row.isVacant, Blank]
  | @cons c x heads columns hcx _ ih =>
    have hcell : (((rows r).cell? c.position).getD .null).isNull = (x.cell r).isNull := by rw [hcx.2 r]; rfl
    rw [List.map_cons, Row.isVacant, List.all_cons, hcell, Bool.and_eq_true, Blank, List.forall_mem_cons]
    exact and_congr_right fun _ => ih

theorem label_ne_of_heads (h : List.Forall₂ (ColumnLabel.Heads rows) heads columns) {label : String}
    (hlabel : ∀ x ∈ columns, x.label ≠ label) : ∀ c ∈ heads, c.label ≠ label := by
  induction h with
  | nil => exact fun c hc => absurd hc List.not_mem_nil
  | @cons c x _ _ hcx _ ih =>
    rw [List.forall_mem_cons] at hlabel ⊢
    exact ⟨hcx.1 ▸ hlabel.1, ih hlabel.2⟩

theorem Stands.yields_takeJoin (hamong : Unconfused among) {into : IntoField}
    (hinto : among into.column.table.entity) {start stop : ResultColumn}
    (hstart : start.label = into.ownLabel .start) (hstop : stop.label = into.ownLabel .stop)
    (h : Stands rows own ((start :: (inside ++ [stop])) :: blocks) heads)
    (hothers : ∀ x ∈ own ++ blocks.flatten, ∀ edge, x.label ≠ into.ownLabel edge)
    (hinside : ∀ x ∈ inside, x.label ≠ into.ownLabel .stop) :
    ∃ taken rest, Naming.Yields (Names.Faithful among) (takeJoin e into heads) (taken, rest)
      ∧ List.Forall₂ (ColumnLabel.Heads rows) taken inside ∧ Stands rows own blocks rest := by
  obtain ⟨columns, hheads, hcolumns⟩ := h
  obtain ⟨before, after, rfl, hrest⟩ := hcolumns.exists_of_cons
  obtain ⟨outer, _, rfl, houter, hblock⟩ := exists_of_forall₂_append hheads
  rw [List.cons_append, List.append_assoc, List.singleton_append] at hblock
  obtain ⟨first, _, hfirst, hbehind, rfl⟩ := List.forall₂_cons_right_iff.mp hblock
  obtain ⟨taken, _, rfl, htaken, hend⟩ := exists_of_forall₂_append hbehind
  obtain ⟨last, rest, hlast, hafter, rfl⟩ := List.forall₂_cons_right_iff.mp hend
  have hclear : ∀ c ∈ outer, ∀ edge, c.label ≠ into.ownLabel edge := by
    intro c hc edge
    refine label_ne_of_heads houter (fun x hx => hothers x ?_ edge) c hc
    exact hrest.perm.mem_iff.mp (List.mem_append_left _ hx)
  have hyields : Naming.Yields (Names.Faithful among)
      (takeJoin e into (outer ++ ⟨first.position, into.ownLabel .start⟩
        :: (taken ++ ⟨last.position, into.ownLabel .stop⟩ :: rest))) (taken, outer ++ rest) :=
    RelationalMapping.yields_takeJoin hamong hinto hclear (label_ne_of_heads htaken hinside)
  rw [← hstart, ← hfirst.1, ← hstop, ← hlast.1] at hyields
  exact ⟨taken, outer ++ rest, hyields, htaken, before ++ after, List.rel_append houter hafter, hrest⟩

end Taking

def Query.PlansAlike (context : MappingContext) (among : Entity → Prop) (e : Entity) (q : Query)
    (columns columns' : List ResultColumn) : Prop :=
  ∀ rows rows' heads heads', List.Forall₂ (ColumnLabel.Heads rows) heads columns →
    List.Forall₂ (ColumnLabel.Heads rows') heads' columns' →
    ∃ plan plan', Naming.Yields (Names.Faithful among) (planQuery context e q heads) plan
      ∧ Naming.Yields (Names.Faithful among) (planQuery context e q heads') plan'
      ∧ plan.entity = e ∧ plan'.entity = e ∧ ∀ r, plan.run (rows r) = plan'.run (rows' r)

def JoinsAlike (among : Entity → Prop) (rows rows' : Nat → Row) (own own' : List ResultColumn)
    (blocks blocks' : List (List ResultColumn)) (step step' : Naming (List JoinPlan × List ColumnLabel)) : Prop :=
  ∃ joins joins' rest rest', Naming.Yields (Names.Faithful among) step (joins, rest)
    ∧ Naming.Yields (Names.Faithful among) step' (joins', rest')
    ∧ (∀ r, List.Forall₂ (JoinPlan.Alike (rows r) (rows' r)) joins joins')
    ∧ Stands rows own blocks rest ∧ Stands rows' own' blocks' rest'

def FromItem.PlansAlike (context : MappingContext) (among : Entity → Prop) (e : Entity) (item : FromItem)
    (blocks blocks' : List (List ResultColumn)) : Prop :=
  ∀ rows rows' own own' others others' heads heads', Stands rows own (blocks ++ others) heads →
    Stands rows' own' (blocks' ++ others') heads' →
    (∀ x ∈ own ++ others.flatten, x.label ∉ item.sentinels) →
    (∀ x ∈ own' ++ others'.flatten, x.label ∉ item.sentinels) →
    JoinsAlike among rows rows' own own' others others' (planSource context e item heads)
      (planSource context e item heads')

def sourcesPlanAlike (context : MappingContext) (among : Entity → Prop) (e : Entity) (sources : List FromItem)
    (blocks blocks' : List (List ResultColumn)) : Prop :=
  ∀ rows rows' own own' heads heads', Stands rows own blocks heads → Stands rows' own' blocks' heads' →
    (∀ x ∈ own, x.label ∉ sourcesSentinels sources) → (∀ x ∈ own', x.label ∉ sourcesSentinels sources) →
    JoinsAlike among rows rows' own own' [] [] (planSources context e sources heads)
      (planSources context e sources heads')

theorem Provider.provide_join_congr {row other : Row} {plan plan' : Plan} {positions positions' : List Nat}
    (hentity : plan.entity = plan'.entity) (hvacant : row.isVacant positions = other.isVacant positions')
    (hrun : plan.run row = plan'.run other) :
    (Provider.join plan positions).provide row = (Provider.join plan' positions').provide other := by
  rw [provide, provide, hentity, hvacant, hrun]

theorem FromItem.plansAlike_join (hamong : Unconfused among) {query : Query} {into : IntoField}
    (hinto : among into.column.table.entity) {start stop : ResultColumn} {inside inside' : List ResultColumn}
    (hstart : start.label = into.ownLabel .start) (hstop : stop.label = into.ownLabel .stop)
    (hinside : ∀ x, x ∈ inside ∨ x ∈ inside' → x.label ≠ into.ownLabel .stop)
    (hblank : ∀ r, Blank inside r ↔ Blank inside' r)
    (hquery : query.PlansAlike context among into.target inside inside') (kind : JoinKind) (condition : Option Expr)
    (shared : Option (List Column)) (alias? : Option String) :
    FromItem.PlansAlike context among e (.join ⟨query, kind, some into, condition, shared, alias?⟩)
      [start :: (inside ++ [stop])] [start :: (inside' ++ [stop])] := by
  intro rows rows' own own' others others' heads heads' hheads hheads' hclear hclear'
  have hown : ∀ {columns : List ResultColumn}, (∀ x ∈ columns, x.label ∉ FromItem.sentinels
      (.join ⟨query, kind, some into, condition, shared, alias?⟩)) →
      ∀ x ∈ columns, ∀ edge, x.label ≠ into.ownLabel edge := by
    intro columns hcolumns x hx edge heq
    refine hcolumns x hx ?_
    rw [FromItem.sentinels, heq]
    cases edge <;> simp
  obtain ⟨taken, rest, htake, htaken, hrest⟩ := hheads.yields_takeJoin (e := e) hamong hinto hstart hstop
    (hown hclear) fun x hx => hinside x (.inl hx)
  obtain ⟨taken', rest', htake', htaken', hrest'⟩ := hheads'.yields_takeJoin (e := e) hamong hinto hstart hstop
    (hown hclear') fun x hx => hinside x (.inr hx)
  obtain ⟨plan, plan', hplan, hplan', hentity, hentity', hrun⟩ := hquery rows rows' taken taken' htaken htaken'
  refine ⟨[⟨into.column.property, plan, taken.map (·.position)⟩],
    [⟨into.column.property, plan', taken'.map (·.position)⟩], rest, rest', ?_, ?_, fun r => ?_, hrest, hrest'⟩
  · rw [planSource]
    exact Naming.yields_bind htake (Naming.yields_bind hplan (Naming.yields_pure _))
  · rw [planSource]
    exact Naming.yields_bind htake' (Naming.yields_bind hplan' (Naming.yields_pure _))
  · have hvacant : (rows r).isVacant (taken.map (·.position)) = (rows' r).isVacant (taken'.map (·.position)) := by
      rw [Bool.eq_iff_iff, isVacant_iff_blank htaken, isVacant_iff_blank htaken', hblank]
    exact .cons ⟨rfl, Provider.provide_join_congr (hentity.trans hentity'.symm) hvacant (hrun r)⟩ .nil

theorem FromItem.plansAlike_plain {item : FromItem}
    (hplan : ∀ columns, planSource context e item columns = pure ([], columns)) :
    FromItem.PlansAlike context among e item [] [] := by
  intro rows rows' own own' others others' heads heads' hheads hheads' _ _
  rw [hplan, hplan]
  exact ⟨[], [], heads, heads', Naming.yields_pure _, Naming.yields_pure _, fun _ => .nil, hheads, hheads'⟩

theorem sourcesPlanAlike_nil : sourcesPlanAlike context among e [] [] [] := by
  intro rows rows' own own' heads heads' hheads hheads' _ _
  exact ⟨[], [], heads, heads', Naming.yields_pure _, Naming.yields_pure _, fun _ => .nil, hheads, hheads'⟩

theorem sourcesPlanAlike_cons {item : FromItem} {rest : List FromItem}
    {first first' others others' : List (List ResultColumn)}
    (hitem : item.PlansAlike context among e first first') (hrest : sourcesPlanAlike context among e rest others others')
    (hothers : ∀ x, x ∈ others.flatten ∨ x ∈ others'.flatten → x.label ∉ item.sentinels) :
    sourcesPlanAlike context among e (item :: rest) (first ++ others) (first' ++ others') := by
  intro rows rows' own own' heads heads' hheads hheads' hown hown'
  simp only [sourcesSentinels, List.mem_append, not_or] at hown hown'
  have hclear : ∀ x ∈ own ++ others.flatten, x.label ∉ item.sentinels :=
    List.forall_mem_append.mpr ⟨fun x hx => (hown x hx).1, fun x hx => hothers x (.inl hx)⟩
  have hclear' : ∀ x ∈ own' ++ others'.flatten, x.label ∉ item.sentinels :=
    List.forall_mem_append.mpr ⟨fun x hx => (hown' x hx).1, fun x hx => hothers x (.inr hx)⟩
  obtain ⟨joins, joins', between, between', hplan, hplan', halike, hstands, hstands'⟩ :=
    hitem rows rows' own own' others others' heads heads' hheads hheads' hclear hclear'
  obtain ⟨more, more', left, left', hplans, hplans', halikes, hleft, hleft'⟩ :=
    hrest rows rows' own own' between between' hstands hstands' (fun x hx => (hown x hx).2) fun x hx => (hown' x hx).2
  refine ⟨joins ++ more, joins' ++ more', left, left', ?_, ?_, fun r => List.rel_append (halike r) (halikes r), hleft,
    hleft'⟩
  · rw [planSources]
    exact Naming.yields_bind hplan (Naming.yields_bind hplans (Naming.yields_pure _))
  · rw [planSources]
    exact Naming.yields_bind hplan' (Naming.yields_bind hplans' (Naming.yields_pure _))

theorem Query.plansAlike_of_sources (hderived : e.IsDerived) (hwidens : e.Widens context ResultColumn.IsNull own own') :
    {q : Query} → (∀ x ∈ own', x.label ∉ q.sentinels) → Interleaves own blocks columns →
      Interleaves own' blocks' columns' → sourcesPlanAlike context among e q.sources blocks blocks' →
      q.PlansAlike context among e columns columns'
  | ⟨_, _, sources, _, _, _, _, _, _, _, _⟩, hown, hcolumns, hcolumns', hsources => by
    intro rows rows' heads heads' hheads hheads'
    rw [Query.sentinels] at hown
    obtain ⟨joins, joins', rest, rest', hplan, hplan', halike, ⟨left, hleft, hleftown⟩, ⟨left', hleft', hleftown'⟩⟩ :=
      hsources rows rows' own own' heads heads' ⟨columns, hheads, hcolumns⟩ ⟨columns', hheads', hcolumns'⟩
        (fun x hx => hown x (hwidens.subset hx)) hown
    have hperm : left.Perm own := by simpa using hleftown.perm
    have hperm' : left'.Perm own' := by simpa using hleftown'.perm
    refine ⟨assemble context e rest joins, assemble context e rest' joins', ?_, ?_, rfl, rfl, fun r => ?_⟩
    · rw [planQuery]
      exact Naming.yields_bind hplan (Naming.yields_pure _)
    · rw [planQuery]
      exact Naming.yields_bind hplan' (Naming.yields_pure _)
    · have hfound := (hwidens.perm hperm hperm').foundAlike hderived hleft hleft' r
      exact (alike_assemble hfound (halike r)).run_eq

-- by induction on the tree, as the columns are planned: what is cut out for a join are two layouts of its query

mutual

theorem Query.plansAlike (hamong : Unconfused among) (hderived : ∀ e, among e → e.IsDerived) : (q : Query) →
    ∀ {e : Entity} {columns columns' : List ResultColumn}, q.sentinels.Nodup → q.sentinels ⊆ reserved →
      q.Rearranged context among reserved e columns columns' → q.PlansAlike context among e columns columns'
  | ⟨_, _, sources, _, _, _, _, _, _, _, _⟩, e, columns, columns', hdistinct, hreserved, h => by
    rw [Query.Rearranged] at h
    obtain ⟨own, own', blocks, blocks', he, hwidens, hown, hcolumns, hcolumns', hsources⟩ := h
    refine Query.plansAlike_of_sources (hderived e he) hwidens (fun x hx hmarker => ?_) hcolumns hcolumns' ?_
    · exact hown x hx (hreserved hmarker)
    · exact sources_planAlike hamong hderived sources hdistinct hreserved hsources

theorem sources_planAlike (hamong : Unconfused among) (hderived : ∀ e, among e → e.IsDerived) :
    (sources : List FromItem) → ∀ {e : Entity} {blocks blocks' : List (List ResultColumn)},
      (sourcesSentinels sources).Nodup → sourcesSentinels sources ⊆ reserved →
      sourcesRearranged context among reserved sources blocks blocks' →
      sourcesPlanAlike context among e sources blocks blocks'
  | [], e, blocks, blocks', _, _, h => by
    obtain ⟨rfl, rfl⟩ := h
    exact sourcesPlanAlike_nil
  | item :: rest, e, blocks, blocks', hdistinct, hreserved, h => by
    obtain ⟨first, others, first', others', rfl, rfl, hitem, hrest⟩ := h
    rw [sourcesSentinels] at hdistinct hreserved
    rw [List.nodup_append'] at hdistinct
    obtain ⟨hfirst, hothers, hdisjoint⟩ := hdistinct
    rw [List.append_subset] at hreserved
    refine sourcesPlanAlike_cons (item.plansAlike hamong hderived hfirst hreserved.1 hitem)
      (sources_planAlike hamong hderived rest hothers hreserved.2 hrest) fun x hx hmarker => ?_
    rcases label_of_sourcesRearranged rest hrest x hx with hlabel | hlabel
    · exact hdisjoint hmarker hlabel
    · exact hlabel (hreserved.1 hmarker)

theorem FromItem.plansAlike (hamong : Unconfused among) (hderived : ∀ e, among e → e.IsDerived) :
    (item : FromItem) → ∀ {e : Entity} {blocks blocks' : List (List ResultColumn)},
      item.sentinels.Nodup → item.sentinels ⊆ reserved → item.Rearranged context among reserved blocks blocks' →
      item.PlansAlike context among e blocks blocks'
  | .join ⟨query, kind, some into, condition, shared, alias?⟩, e, blocks, blocks', hdistinct, hreserved, h => by
    obtain ⟨hinto, start, stop, inside, inside', hstart, hstop, rfl, rfl, hquery⟩ := h
    rw [FromItem.sentinels] at hdistinct hreserved
    obtain ⟨-, hdistinct⟩ := List.nodup_cons.mp hdistinct
    obtain ⟨hnew, hdistinct⟩ := List.nodup_cons.mp hdistinct
    obtain ⟨-, hreserved⟩ := List.cons_subset.mp hreserved
    obtain ⟨hmarker, hreserved⟩ := List.cons_subset.mp hreserved
    have hinside : ∀ x, x ∈ inside ∨ x ∈ inside' → x.label ≠ into.ownLabel .stop := by
      intro x hx heq
      rcases query.label_of_rearranged hquery x hx with hlabel | hlabel
      · exact hnew (heq ▸ hlabel)
      · exact hlabel (heq ▸ hmarker)
    exact FromItem.plansAlike_join hamong hinto hstart hstop hinside (query.blank_of_rearranged hquery)
      (query.plansAlike hamong hderived hdistinct hreserved hquery) kind condition shared alias?
  | .join ⟨_, _, none, _, _, _⟩, _, blocks, blocks', _, _, h => by
    obtain ⟨rfl, rfl⟩ := h
    exact FromItem.plansAlike_plain fun _ => by simp [planSource]
  | .table _, _, blocks, blocks', _, _, h => by
    obtain ⟨rfl, rfl⟩ := h
    exact FromItem.plansAlike_plain fun _ => by simp [planSource]
  | .query _ _, _, blocks, blocks', _, _, h => by
    obtain ⟨rfl, rfl⟩ := h
    exact FromItem.plansAlike_plain fun _ => by simp [planSource]

end

theorem Query.mapResult_rearranged (hamong : Unconfused among) (hderived : ∀ e, among e → e.IsDerived) {q : Query}
    (hjoins : q.intoJoins ≠ []) (hdistinct : q.sentinels.Nodup)
    (h : q.Rearranged context among q.sentinels e columns columns') {memory memory' : Memory}
    (hnames : memory.names.Faithful among) (hnames' : memory'.names.Faithful among) (count : Nat) :
    (mapResult context e (.query q) (.ofColumns count columns') memory').1
      = (mapResult context e (.query q) (.ofColumns count columns) memory).1 := by
  obtain ⟨plan, plan', hplan, hplan', -, -, hrun⟩ := q.plansAlike hamong hderived hdistinct (List.Subset.refl _) h
    (rowOf columns) (rowOf columns') _ _ (heads_labelled columns) (heads_labelled columns')
  obtain ⟨_, hplanned, -⟩ := hplan memory.names hnames
  obtain ⟨_, hplanned', -⟩ := hplan' memory'.names hnames'
  rw [mapResult_planned (resolveMapper_joined hjoins memory) rfl hplanned,
    mapResult_planned (resolveMapper_joined hjoins memory') rfl hplanned', ResultTable.ofColumns,
    ResultTable.ofColumns, List.mapM_map, List.mapM_map]
  have hrows : mapRow e (.record plan') ∘ rowOf columns' = mapRow e (.record plan) ∘ rowOf columns := by
    funext r
    simp only [Function.comp_apply, mapRow, RowMapper.map, hrun r]
  rw [hrows]

theorem Entity.map_rearranged (context : MappingContext) (hamong : Unconfused among)
    (hderived : ∀ e, among e → e.IsDerived) (he : among e) (count : Nat) (memory memory' : Memory) :
    (∀ origin own own', Origin.Plain origin → e.Widens context (fun _ => True) own own' →
        memory.Knows context e → memory'.Knows context e →
        (mapResult context e origin (.ofColumns count own') memory').1.toOption
          = (mapResult context e origin (.ofColumns count own) memory).1.toOption)
      ∧ ∀ q columns columns', Query.intoJoins q ≠ [] → q.sentinels.Nodup →
        q.Rearranged context among q.sentinels e columns columns' →
        memory.names.Faithful among → memory'.names.Faithful among →
        (mapResult context e (.query q) (.ofColumns count columns') memory').1
          = (mapResult context e (.query q) (.ofColumns count columns) memory).1 := by
  constructor
  · intro origin own own' horigin hwidens hmemory hmemory'
    exact hwidens.toOption_mapResult (hderived e he) horigin hmemory hmemory' count
  · intro q columns columns' hjoins hdistinct h hnames hnames'
    exact Query.mapResult_rearranged hamong hderived hjoins hdistinct h hnames hnames' count

def columnOf (label : String) (cells : List Value) : ResultColumn := ⟨label, fun r => cells.getD r .null⟩

def blockOf (name : String) (inside : List ResultColumn) : List ResultColumn :=
  columnOf ("start:" ++ name) [] :: (inside ++ [columnOf ("end:" ++ name) []])

theorem isNull_columnOf (label : String) : (columnOf label []).IsNull := fun _ => rfl

theorem widens_reversed {kind : ResultColumn → Prop} {surplus : List ResultColumn}
    (hroutes : OneToOne context e.fields (labelled 1 (own.map (·.label)))) (hkind : ∀ x ∈ surplus, kind x)
    (hsurplus : ∀ x ∈ surplus, ∀ f ∈ stored e.fields, context.accepts x.label f.slotName = false)
    (hdistinct : ((own ++ surplus).reverse.map fun x => Text.lowercase x.label).Nodup) :
    e.Widens context kind own (own ++ surplus).reverse :=
  ⟨hroutes, ⟨surplus, List.reverse_perm _, fun x hx => ⟨hkind x hx, hsurplus x hx⟩⟩, hdistinct⟩

theorem interleaves_front (x : ResultColumn) (block : List ResultColumn) :
    Interleaves [x] [block] (x :: block) := ⟨[[x], block], by simp, .refl _⟩

theorem interleaves_around (x y : ResultColumn) (block : List ResultColumn) :
    Interleaves [x, y] [block] (x :: (block ++ [y])) := ⟨[[x], block, [y]], by simp, (List.Perm.swap _ _ _).cons _⟩

theorem rearranged_block {query : Query} {into : IntoField} (hinto : among into.column.table.entity) {name : String}
    (hstart : "start:" ++ name = into.ownLabel .start) (hstop : "end:" ++ name = into.ownLabel .stop)
    {inside inside' : List ResultColumn} (h : query.Rearranged context among reserved into.target inside inside')
    (t : Table) (kind : JoinKind) (condition : Option Expr) (shared : Option (List Column)) (alias? : Option String) :
    sourcesRearranged context among reserved [.table t, .join ⟨query, kind, some into, condition, shared, alias?⟩]
      [blockOf name inside] [blockOf name inside'] := by
  refine ⟨[], [blockOf name inside], [], [blockOf name inside'], rfl, rfl, ⟨rfl, rfl⟩, ?_⟩
  refine ⟨[blockOf name inside], [], [blockOf name inside'], [], rfl, rfl, ?_, rfl, rfl⟩
  exact ⟨hinto, _, _, inside, inside', hstart, hstop, rfl, rfl, h⟩

def rideIds : ResultColumn := columnOf "id" [.int 1, .int 2]

def vehicleIds : ResultColumn := columnOf "id" [.int 7]

def zoneCodes : ResultColumn := columnOf "code" [.text "north"]

theorem rideQuery_rearranged : rideQuery.Rearranged .standard (· ∈ rideEntities) rideQuery.sentinels ride
    (rideIds :: blockOf "vehicle" (vehicleIds :: blockOf "zone" [zoneCodes]))
    (columnOf "note" [] ::
      (blockOf "vehicle" (columnOf "color" [] :: (blockOf "zone" [zoneCodes] ++ [vehicleIds])) ++ [rideIds])) := by
  have hmem : ride ∈ rideEntities ∧ vehicle ∈ rideEntities ∧ zone ∈ rideEntities := by decide +kernel
  obtain ⟨hride, hvehicle, hzone⟩ := hmem
  have hrides : ride.Widens .standard ResultColumn.IsNull [rideIds] ([rideIds] ++ [columnOf "note" []]).reverse :=
    widens_reversed ⟨by decide +kernel, by decide +kernel, by decide +kernel⟩
      (List.forall_mem_singleton.mpr (isNull_columnOf _)) (by decide +kernel) (by decide +kernel)
  have hvehicles : vehicle.Widens .standard ResultColumn.IsNull [vehicleIds]
      ([vehicleIds] ++ [columnOf "color" []]).reverse :=
    widens_reversed ⟨by decide +kernel, by decide +kernel, by decide +kernel⟩
      (List.forall_mem_singleton.mpr (isNull_columnOf _)) (by decide +kernel) (by decide +kernel)
  have hzones : zone.Widens .standard ResultColumn.IsNull [zoneCodes] ([zoneCodes] ++ []).reverse :=
    widens_reversed ⟨by decide +kernel, by decide +kernel, by decide +kernel⟩ nofun nofun (by decide +kernel)
  have hzoneRows : zone.table.selectAll.Rearranged .standard (· ∈ rideEntities) rideQuery.sentinels zone
      [zoneCodes] [zoneCodes] := by
    refine ⟨_, _, [], [], hzone, hzones, by decide +kernel, ⟨_, rfl, .refl _⟩, ⟨_, rfl, .refl _⟩, ?_⟩
    exact ⟨[], [], [], [], rfl, rfl, ⟨rfl, rfl⟩, rfl, rfl⟩
  have hvehicleRows : vehicleQuery.Rearranged .standard (· ∈ rideEntities) rideQuery.sentinels vehicle
      (vehicleIds :: blockOf "zone" [zoneCodes]) (columnOf "color" [] :: (blockOf "zone" [zoneCodes] ++ [vehicleIds])) := by
    refine ⟨_, _, _, _, hvehicle, hvehicles, by decide +kernel, interleaves_front _ _, interleaves_around _ _ _, ?_⟩
    exact rearranged_block hvehicle (by decide +kernel) (by decide +kernel) hzoneRows _ _ _ _ _
  refine ⟨_, _, _, _, hride, hrides, by decide +kernel, interleaves_front _ _, interleaves_around _ _ _, ?_⟩
  exact rearranged_block hride (by decide +kernel) (by decide +kernel) hvehicleRows _ _ _ _ _

theorem Entity.map_rearranged_rides :
    (mapResult .standard ride .unknown ⟨["depth", "note", "ID"], [[.int 4, .text "late", .int 1]]⟩ {}).1.toOption
        = some [rideOf 1 none]
      ∧ (mapResult .standard ride (.query rideQuery)
          ⟨["note", "start:vehicle", "color", "start:zone", "code", "end:zone", "id", "end:vehicle", "id"],
            [[.null, .null, .null, .null, .text "north", .null, .int 7, .null, .int 1],
              [.null, .null, .null, .null, .null, .null, .null, .null, .int 2]]⟩ {}).1
        = .ok [rideOf 1 (some (vehicleOf 7 (some (zoneOf "north")))), rideOf 2 none] := by
  have hderived : ∀ e ∈ rideEntities, e.IsDerived := fun e he => (rideEntities_schema.records e he).isDerived
  have hride : ride ∈ rideEntities := by decide +kernel
  have hwidens : ride.Widens .standard (fun _ => True) [columnOf "ID" [.int 1], columnOf "note" [.text "late"]]
      ([columnOf "ID" [.int 1], columnOf "note" [.text "late"]] ++ [columnOf "depth" [.int 4]]).reverse :=
    widens_reversed ⟨by decide +kernel, by decide +kernel, by decide +kernel⟩ (fun _ _ => trivial)
      (by decide +kernel) (by decide +kernel)
  have hknows : Memory.Knows .standard ride {} := Memory.knows_empty _ _
  have hjoins : rideQuery.intoJoins ≠ [] := List.cons_ne_nil _ _
  have hsentinels : rideQuery.sentinels.Nodup := by decide +kernel
  have hnames : Names.Faithful (· ∈ rideEntities) {} := Names.faithful_empty _
  have hplain := (Entity.map_rearranged .standard rideEntities_schema.unconfused hderived hride 1 {} {}).1
    .unknown _ _ trivial hwidens hknows hknows
  have hjoined := (Entity.map_rearranged .standard rideEntities_schema.unconfused hderived hride 2 {} {}).2
    rideQuery _ _ hjoins hsentinels rideQuery_rearranged hnames hnames
  exact ⟨hplain.trans rfl, hjoined.trans rfl⟩

end RelationalMapping
