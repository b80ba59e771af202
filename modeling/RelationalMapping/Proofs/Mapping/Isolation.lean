import Mathlib.Data.List.Pairwise
import RelationalMapping.Proofs.Mapping.Reads
import RelationalMapping.Proofs.Mapping.NestedRows

namespace RelationalMapping

structure Cut where
  first : ColumnLabel
  inside : List ColumnLabel
  last : ColumnLabel

def Cut.columns (c : Cut) : List ColumnLabel := c.first :: (c.inside ++ [c.last])

def Cut.positions (c : Cut) : List Nat := c.inside.map (·.position)

mutual

structure Part where
  into : IntoField
  cut : Cut
  division : Division

structure Division where
  own : List ColumnLabel
  parts : List Part

end

def cutAround (start stop : String) (columns : List ColumnLabel) : Option (Cut × List ColumnLabel) := do
  let first ← columns.find? (·.label == start)
  let last ← columns.find? (·.label == stop)
  let (inside, rest) ← cutOut start stop columns
  return (⟨first, inside, last⟩, rest)

def takeCut (e : Entity) (into : IntoField) (columns : List ColumnLabel) :
    Naming (Cut × List ColumnLabel) := do
  let start ← Naming.marker .start into
  let stop ← Naming.marker .stop into
  match cutAround start stop columns with
  | some cut => return cut
  | none => throw (.mapping e.simpleName (.joinColumnsNotFound start stop))

mutual

def Query.divide (e : Entity) : Query → List ColumnLabel → Naming Division
  | ⟨_, _, sources, _, _, _, _, _, _, _, _⟩, columns => do
    let (parts, own) ← divideSources e sources columns
    return ⟨own, parts⟩

def divideSources (e : Entity) : List FromItem → List ColumnLabel → Naming (List Part × List ColumnLabel)
  | [], columns => return ([], columns)
  | item :: rest, columns => do
    let (first, columns) ← divideSource e item columns
    let (others, columns) ← divideSources e rest columns
    return (first ++ others, columns)

def divideSource (e : Entity) : FromItem → List ColumnLabel → Naming (List Part × List ColumnLabel)
  | .join ⟨query, _, some into, _, _, _⟩, columns => do
    let (cut, rest) ← takeCut e into columns
    let division ← query.divide into.target cut.inside
    return ([⟨into, cut, division⟩], rest)
  | _, columns => return ([], columns)

end

mutual

def Division.plan (context : MappingContext) (e : Entity) : Division → Plan
  | ⟨own, parts⟩ => assemble context e own (joinPlans context parts)

def joinPlans (context : MappingContext) : List Part → List JoinPlan
  | [] => []
  | ⟨into, cut, division⟩ :: rest =>
    ⟨into.column.property, division.plan context into.target, cut.positions⟩ :: joinPlans context rest

end

def Part.plan (context : MappingContext) (p : Part) : Plan := p.division.plan context p.into.target

theorem mem_joinPlans {context : MappingContext} {parts : List Part} {j : JoinPlan}
    (hj : j ∈ joinPlans context parts) :
    ∃ p ∈ parts, j.plan = p.plan context ∧ j.positions = p.cut.positions := by
  induction parts with
  | nil => cases hj
  | cons p rest ih =>
    obtain ⟨into, cut, division⟩ := p
    rw [joinPlans] at hj
    rcases List.mem_cons.mp hj with rfl | hj
    · exact ⟨_, List.mem_cons_self, rfl, rfl⟩
    · obtain ⟨p, hp, hplan⟩ := ih hj
      exact ⟨p, List.mem_cons_of_mem _ hp, hplan⟩

theorem joinPlans_append (context : MappingContext) (parts others : List Part) :
    joinPlans context (parts ++ others) = joinPlans context parts ++ joinPlans context others := by
  induction parts with
  | nil => rfl
  | cons p rest ih =>
    obtain ⟨into, cut, division⟩ := p
    rw [List.cons_append, joinPlans, joinPlans, ih, List.cons_append]

theorem exists_of_cutOut {start stop : String} {columns inside rest : List ColumnLabel}
    (h : cutOut start stop columns = some (inside, rest)) :
    ∃ first last, columns.find? (·.label == start) = some first
      ∧ columns.find? (·.label == stop) = some last
      ∧ ∃ before after, columns = before ++ first :: (inside ++ last :: after)
        ∧ rest = before ++ after := by
  unfold cutOut at h
  split at h
  · rename_i i j hi hj
    split at h
    · rename_i hlt
      obtain ⟨hi', hfirst, hbefore⟩ := List.findIdx?_eq_some_iff_getElem.mp hi
      obtain ⟨hj', hlast, hearlier⟩ := List.findIdx?_eq_some_iff_getElem.mp hj
      simp only [Option.some.injEq, Prod.mk.injEq] at h
      obtain ⟨rfl, rfl⟩ := h
      refine ⟨columns[i], columns[j], ?_, ?_, columns.take i, columns.drop (j + 1), ?_, rfl⟩
      · exact List.find?_eq_some_iff_getElem.mpr ⟨hfirst, i, hi', rfl, by simpa using hbefore⟩
      · exact List.find?_eq_some_iff_getElem.mpr ⟨hlast, j, hj', rfl, by simpa using hearlier⟩
      · have hinside : columns.drop (i + 1)
            = (columns.take j).drop (i + 1) ++ columns[j] :: columns.drop (j + 1) := by
          rw [← List.drop_eq_getElem_cons hj', ← List.drop_append_of_le_length (by simp; omega),
            List.take_append_drop]
        rw [← hinside, ← List.drop_eq_getElem_cons hi', List.take_append_drop]
    · cases h
  · cases h

theorem cutOut_eq_cutAround (start stop : String) (columns : List ColumnLabel) :
    cutOut start stop columns = (cutAround start stop columns).map fun cut => (cut.1.inside, cut.2) := by
  cases h : cutOut start stop columns with
  | none =>
    cases hfirst : columns.find? (·.label == start) <;> cases hlast : columns.find? (·.label == stop) <;>
      simp [cutAround, h, hfirst, hlast]
  | some cut =>
    obtain ⟨first, last, hfirst, hlast, -⟩ := exists_of_cutOut h
    simp [cutAround, h, hfirst, hlast]

theorem exists_of_cutAround {start stop : String} {columns rest : List ColumnLabel} {cut : Cut}
    (h : cutAround start stop columns = some (cut, rest)) :
    ∃ before after, columns = before ++ (cut.columns ++ after) ∧ rest = before ++ after := by
  unfold cutAround at h
  simp only [Option.bind_eq_bind, Option.bind_eq_some_iff, Option.pure_def, Option.some.injEq] at h
  obtain ⟨first, hfirst, last, hlast, ⟨inside, remaining⟩, hcut, heq⟩ := h
  cases heq
  obtain ⟨first', last', hfirst', hlast', before, after, hcolumns, hrest⟩ := exists_of_cutOut hcut
  rw [hfirst] at hfirst'
  rw [hlast] at hlast'
  cases hfirst'
  cases hlast'
  exact ⟨before, after, by simp [hcolumns, Cut.columns], hrest⟩

theorem takeJoin_eq (e : Entity) (into : IntoField) (columns : List ColumnLabel) :
    takeJoin e into columns = (fun cut => (cut.1.inside, cut.2)) <$> takeCut e into columns := by
  simp only [takeJoin, takeCut, map_bind]
  refine bind_congr fun start => bind_congr fun stop => ?_
  rw [cutOut_eq_cutAround]
  cases cutAround start stop columns with
  | none => rfl
  | some cut => simp

-- by induction on the query: planning takes the same cuts, and plans what it has taken

mutual

theorem planQuery_eq (context : MappingContext) : (q : Query) → ∀ (e : Entity) (columns : List ColumnLabel),
    planQuery context e q columns = (·.plan context e) <$> q.divide e columns
  | ⟨_, _, sources, _, _, _, _, _, _, _, _⟩, e, columns => by
    rw [planQuery, Query.divide, planSources_eq context sources]
    simp [Division.plan]

theorem planSources_eq (context : MappingContext) : (sources : List FromItem) →
    ∀ (e : Entity) (columns : List ColumnLabel),
    planSources context e sources columns
      = (fun divided => (joinPlans context divided.1, divided.2)) <$> divideSources e sources columns
  | [], e, columns => by simp [planSources, divideSources, joinPlans]
  | item :: rest, e, columns => by
    rw [planSources, divideSources, planSource_eq context item]
    simp only [bind_map_left, map_bind, map_pure, planSources_eq context rest, joinPlans_append]

theorem planSource_eq (context : MappingContext) : (item : FromItem) →
    ∀ (e : Entity) (columns : List ColumnLabel),
    planSource context e item columns
      = (fun divided => (joinPlans context divided.1, divided.2)) <$> divideSource e item columns
  | .join ⟨query, _, some into, _, _, _⟩, e, columns => by
    rw [planSource, divideSource, takeJoin_eq]
    simp only [bind_map_left, map_bind, map_pure, planQuery_eq context query, joinPlans]
    rfl
  | .join ⟨_, _, none, _, _, _⟩, e, columns => by simp [planSource, divideSource, joinPlans]
  | .table _, e, columns => by simp [planSource, divideSource, joinPlans]
  | .query _ _, e, columns => by simp [planSource, divideSource, joinPlans]

end

def partColumns (parts : List Part) : List ColumnLabel := parts.flatMap (·.cut.columns)

/-- The division has all these columns, each in one place. -/
inductive Division.Covers : Division → List ColumnLabel → Prop
  | mk {own columns : List ColumnLabel} {parts : List Part}
      (hcolumns : columns.Perm (own ++ partColumns parts))
      (hparts : ∀ p ∈ parts, p.division.Covers p.cut.inside) : Division.Covers ⟨own, parts⟩ columns

def Naming.Maps {α : Type} (post : α → Prop) (x : Naming α) : Prop :=
  ∀ names, (∃ entity reason, (x names).1 = .error (.mapping entity reason))
    ∨ ∃ a, (x names).1 = .ok a ∧ post a

namespace Naming

variable {α β : Type} {post : α → Prop} {next : β → Prop}

theorem maps_pure {a : α} (h : post a) : Maps post (pure a) := fun _ => .inr ⟨a, rfl, h⟩

theorem maps_throw (entity : String) (reason : Reason) :
    Maps post (throw (.mapping entity reason)) := fun _ => .inl ⟨entity, reason, rfl⟩

theorem maps_bind {x : Naming α} {f : α → Naming β} (hx : Maps post x)
    (hf : ∀ a, post a → Maps next (f a)) : Maps next (x >>= f) := by
  intro names
  rw [bind_apply]
  rcases hx names with ⟨entity, reason, herror⟩ | ⟨a, ha, hpost⟩
  · rcases hresult : x names with ⟨result, between⟩
    rw [hresult] at herror
    cases herror
    exact .inl ⟨entity, reason, rfl⟩
  · rcases hresult : x names with ⟨result, between⟩
    rw [hresult] at ha
    cases ha
    exact hf a hpost between

theorem maps_marker (edge : Edge) (into : IntoField) : Maps (fun _ => True) (marker edge into) :=
  fun _ => .inr ⟨_, rfl, trivial⟩

end Naming

theorem maps_takeCut (e : Entity) (into : IntoField) (columns : List ColumnLabel) :
    Naming.Maps (fun cut => columns.Perm (cut.1.columns ++ cut.2)) (takeCut e into columns) := by
  refine Naming.maps_bind (Naming.maps_marker .start into) fun start _ => ?_
  refine Naming.maps_bind (Naming.maps_marker .stop into) fun stop _ => ?_
  split
  · rename_i cut hcut
    obtain ⟨before, after, hcolumns, hrest⟩ := exists_of_cutAround hcut
    refine Naming.maps_pure ?_
    rw [hcolumns, hrest]
    exact List.perm_append_comm_assoc _ _ _
  · exact Naming.maps_throw _ _

def FromItem.into? : FromItem → Option IntoField
  | .join j => j.into
  | _ => none

theorem Query.map_intoJoins (q : Query) : q.intoJoins.map (·.2) = q.sources.filterMap (·.into?) := by
  rw [Query.intoJoins, List.map_filterMap]
  refine List.filterMap_congr fun item _ => ?_
  cases item with
  | join j => cases hinto : j.into <;> simp [FromItem.into?, hinto]
  | table t => rfl
  | query r name => rfl

structure Divided (sources : List FromItem) (columns : List ColumnLabel)
    (divided : List Part × List ColumnLabel) : Prop where
  columns : columns.Perm (divided.2 ++ partColumns divided.1)
  covers : ∀ p ∈ divided.1, p.division.Covers p.cut.inside
  into : divided.1.map (·.into) = sources.filterMap (·.into?)

theorem Divided.untouched {sources : List FromItem} {columns : List ColumnLabel}
    (h : sources.filterMap (·.into?) = []) : Divided sources columns ([], columns) :=
  ⟨by simp [partColumns], by simp, by simp [h]⟩

theorem Divided.cons {item : FromItem} {rest : List FromItem} {columns remaining own : List ColumnLabel}
    {first others : List Part} (hfirst : Divided [item] columns (first, remaining))
    (hothers : Divided rest remaining (others, own)) :
    Divided (item :: rest) columns (first ++ others, own) where
  columns := by
    refine hfirst.columns.trans ((hothers.columns.append_right _).trans ?_)
    rw [partColumns, partColumns, partColumns, List.flatMap_append, List.append_assoc]
    exact List.perm_append_comm.append_left own
  covers := fun p hp => (List.mem_append.mp hp).elim (hfirst.covers p) (hothers.covers p)
  into := by
    rw [List.map_append, hfirst.into, hothers.into, ← List.filterMap_append, List.singleton_append]

mutual

theorem Query.maps_divide : (q : Query) → ∀ (e : Entity) (columns : List ColumnLabel),
    Naming.Maps (fun d => d.Covers columns ∧ d.parts.map (·.into) = q.intoJoins.map (·.2))
      (q.divide e columns)
  | ⟨_, _, sources, _, _, _, _, _, _, _, _⟩, e, columns => by
    rw [Query.divide]
    refine Naming.maps_bind (maps_divideSources sources e columns) fun divided h => ?_
    refine Naming.maps_pure ⟨.mk h.columns h.covers, ?_⟩
    rw [Query.map_intoJoins]
    exact h.into

theorem maps_divideSources : (sources : List FromItem) → ∀ (e : Entity) (columns : List ColumnLabel),
    Naming.Maps (Divided sources columns) (divideSources e sources columns)
  | [], e, columns => by
    rw [divideSources]
    exact Naming.maps_pure (.untouched rfl)
  | item :: rest, e, columns => by
    rw [divideSources]
    refine Naming.maps_bind (maps_divideSource item e columns) fun first hfirst => ?_
    refine Naming.maps_bind (maps_divideSources rest e first.2) fun others hothers => ?_
    exact Naming.maps_pure (hfirst.cons hothers)

theorem maps_divideSource : (item : FromItem) → ∀ (e : Entity) (columns : List ColumnLabel),
    Naming.Maps (Divided [item] columns) (divideSource e item columns)
  | .join ⟨query, _, some into, _, _, _⟩, e, columns => by
    rw [divideSource]
    refine Naming.maps_bind (maps_takeCut e into columns) fun cut hcut => ?_
    refine Naming.maps_bind (query.maps_divide into.target cut.1.inside) fun d hd => ?_
    refine Naming.maps_pure ⟨?_, ?_, rfl⟩
    · exact hcut.trans (List.perm_append_comm.trans (by simp [partColumns]))
    · intro p hp
      cases List.mem_singleton.mp hp
      exact hd.1
  | .join ⟨_, _, none, _, _, _⟩, e, columns => by
    simp only [divideSource]
    exact Naming.maps_pure (.untouched rfl)
  | .table _, e, columns => by
    simp only [divideSource]
    exact Naming.maps_pure (.untouched rfl)
  | .query _ _, e, columns => by
    simp only [divideSource]
    exact Naming.maps_pure (.untouched rfl)

end

inductive Division.Consumes : Division → Nat → Prop
  | first {d : Division} {p : Part} (hp : p ∈ d.parts) : d.Consumes p.cut.first.position
  | last {d : Division} {p : Part} (hp : p ∈ d.parts) : d.Consumes p.cut.last.position
  | inside {d : Division} {p : Part} {position : Nat} (hp : p ∈ d.parts)
      (h : p.division.Consumes position) : d.Consumes position

/-- The columns that fill the entity's own fields lie outside the slices of its joins, no two slices share a
position, and the plan of a join reads inside its slice, where its own joins are isolated. -/
inductive Division.Isolated (context : MappingContext) : Entity → Division → Prop
  | mk {e : Entity} {d : Division}
      (hown : ∀ x ∈ (d.plan context e).fillings, ∀ position codec, x.provider = .column position codec →
        ∀ p ∈ d.parts, position ∉ p.cut.positions)
      (hslices : d.parts.Pairwise fun p other => p.cut.positions.Disjoint other.cut.positions)
      (hinside : ∀ p ∈ d.parts, ∀ use position, (p.plan context).Reads use position →
        position ∈ p.cut.positions)
      (hparts : ∀ p ∈ d.parts, p.division.Isolated context p.into.target) : Division.Isolated context e d

section Isolated

variable {context : MappingContext} {e : Entity} {d : Division}

theorem Division.fillings_drawnFrom {x : Filling} (hx : x ∈ (d.plan context e).fillings) :
    x.provider.DrawnFrom d.own (joinPlans context d.parts) := by
  obtain ⟨own, parts⟩ := d
  rw [Division.plan] at hx
  exact assemble_drawnFrom context e own _ hx

theorem Division.own_of_column {x : Filling} (hx : x ∈ (d.plan context e).fillings) {position : Nat}
    {codec : Codec} (hprovider : x.provider = .column position codec) :
    ∃ c ∈ d.own, c.position = position := by
  have hdrawn := fillings_drawnFrom hx
  rw [hprovider] at hdrawn
  cases hdrawn with
  | column hc => exact ⟨_, hc, rfl⟩

theorem Division.part_of_join {x : Filling} (hx : x ∈ (d.plan context e).fillings) {inner : Plan}
    {positions : List Nat} (hprovider : x.provider = .join inner positions) :
    ∃ p ∈ d.parts, inner = p.plan context ∧ positions = p.cut.positions := by
  have hdrawn := fillings_drawnFrom hx
  rw [hprovider] at hdrawn
  cases hdrawn with
  | join hj => exact mem_joinPlans hj

def positionsOf (columns : List ColumnLabel) : List Nat := columns.map (·.position)

theorem Cut.positions_subset (c : Cut) : c.positions ⊆ positionsOf c.columns := by
  intro position hposition
  simp only [positionsOf, Cut.columns, List.map_cons, List.map_append]
  exact List.mem_cons_of_mem _ (List.mem_append_left _ hposition)

theorem Division.Covers.positions_subset {columns : List ColumnLabel} (h : d.Covers columns) {p : Part}
    (hp : p ∈ d.parts) : positionsOf p.cut.columns ⊆ positionsOf columns := by
  cases h with
  | mk hcolumns hparts =>
    refine List.map_subset _ fun c hc => hcolumns.mem_iff.mpr ?_
    exact List.mem_append_right _ (List.mem_flatMap.mpr ⟨p, hp, hc⟩)

theorem Division.Covers.mem_of_reads {columns : List ColumnLabel} (h : d.Covers columns) {use : Use}
    {position : Nat} (hread : (d.plan context e).Reads use position) : position ∈ positionsOf columns := by
  induction h generalizing e with
  | @mk own columns parts hcolumns hparts ih =>
    have hcovers : Division.Covers ⟨own, parts⟩ columns := .mk hcolumns hparts
    cases hread with
    | column hx hprovider =>
      obtain ⟨c, hc, rfl⟩ := own_of_column hx hprovider
      exact List.mem_map_of_mem (hcolumns.mem_iff.mpr (List.mem_append_left _ hc))
    | vacancy hx hprovider hposition =>
      obtain ⟨p, hp, -, rfl⟩ := part_of_join hx hprovider
      exact hcovers.positions_subset hp (p.cut.positions_subset hposition)
    | joined hx hprovider hinner =>
      obtain ⟨p, hp, rfl, -⟩ := part_of_join hx hprovider
      exact hcovers.positions_subset hp (p.cut.positions_subset (ih p hp hinner))

theorem Division.Covers.mem_of_consumes {columns : List ColumnLabel} (h : d.Covers columns)
    {position : Nat} (hconsumed : d.Consumes position) : position ∈ positionsOf columns := by
  induction h with
  | @mk own columns parts hcolumns hparts ih =>
    have hcovers : Division.Covers ⟨own, parts⟩ columns := .mk hcolumns hparts
    cases hconsumed with
    | first hp => exact hcovers.positions_subset hp (by simp [positionsOf, Cut.columns])
    | last hp => exact hcovers.positions_subset hp (by simp [positionsOf, Cut.columns])
    | @inside _ p _ hp hinside =>
      exact hcovers.positions_subset hp (p.cut.positions_subset (ih p hp hinside))

structure Division.Apart (d : Division) : Prop where
  own : ∀ c ∈ d.own, ∀ p ∈ d.parts, c.position ∉ positionsOf p.cut.columns
  parts : d.parts.Pairwise fun p other => (positionsOf p.cut.columns).Disjoint (positionsOf other.cut.columns)
  cuts : ∀ p ∈ d.parts, (positionsOf p.cut.columns).Nodup

theorem Division.Covers.apart {columns : List ColumnLabel} (h : d.Covers columns)
    (hdistinct : (positionsOf columns).Nodup) : d.Apart := by
  cases h with
  | @mk own _ parts hcolumns hparts =>
    have hpositions : positionsOf (own ++ partColumns parts)
        = positionsOf own ++ parts.flatMap fun p => positionsOf p.cut.columns := by
      rw [positionsOf, List.map_append, partColumns, List.map_flatMap]
      rfl
    rw [positionsOf, (hcolumns.map _).nodup_iff, ← positionsOf, hpositions, List.nodup_append'] at hdistinct
    obtain ⟨-, hparts, hdisjoint⟩ := hdistinct
    rw [List.nodup_flatMap] at hparts
    refine ⟨fun c hc p hp hposition => ?_, hparts.2, hparts.1⟩
    exact hdisjoint (List.mem_map_of_mem hc) (List.mem_flatMap.mpr ⟨p, hp, hposition⟩)

theorem Division.Apart.eq_of_mem (h : d.Apart) {p other : Part} (hp : p ∈ d.parts) (hother : other ∈ d.parts)
    {position : Nat} (hposition : position ∈ positionsOf p.cut.columns)
    (hshared : position ∈ positionsOf other.cut.columns) : p = other := by
  have hsymm : Std.Symm fun p other : Part =>
      (positionsOf p.cut.columns).Disjoint (positionsOf other.cut.columns) := ⟨fun _ _ h _ ha hb => h hb ha⟩
  by_contra hne
  exact h.parts.forall hp hother hne hposition hshared

theorem Cut.nodup_positions {c : Cut} (h : (positionsOf c.columns).Nodup) :
    c.positions.Nodup ∧ c.first.position ∉ c.positions ∧ c.last.position ∉ c.positions := by
  simp only [positionsOf, Cut.columns, List.map_cons, List.map_append, List.map_nil, List.nodup_cons,
    List.mem_append, not_or] at h
  obtain ⟨⟨hfirst, -⟩, hrest⟩ := h
  rw [List.nodup_append'] at hrest
  exact ⟨hrest.1, hfirst, fun hlast => hrest.2.2 hlast (List.mem_singleton.mpr rfl)⟩

theorem Division.Covers.isolated {columns : List ColumnLabel} (h : d.Covers columns)
    (hdistinct : (positionsOf columns).Nodup) : d.Isolated context e := by
  induction h generalizing e with
  | @mk own columns parts hcolumns hparts ih =>
    have hapart := (Division.Covers.mk hcolumns hparts).apart hdistinct
    constructor
    · intro x hx position codec hprovider p hp hposition
      obtain ⟨c, hc, rfl⟩ := own_of_column hx hprovider
      exact hapart.own c hc p hp (p.cut.positions_subset hposition)
    · refine hapart.parts.imp fun hdisjoint => ?_
      exact List.disjoint_of_subset_left (Cut.positions_subset _)
        (List.disjoint_of_subset_right (Cut.positions_subset _) hdisjoint)
    · exact fun p hp use position hread => (hparts p hp).mem_of_reads hread
    · exact fun p hp => ih p hp (Cut.nodup_positions (hapart.cuts p hp)).1

theorem Division.Isolated.run_congr (h : d.Isolated context e) {p : Part} (hp : p ∈ d.parts) {row other : Row}
    (hagree : ∀ position ∈ p.cut.positions, row.cell? position = other.cell? position) :
    (p.plan context).run row = (p.plan context).run other := by
  cases h with
  | mk _ _ hinside _ =>
    exact Plan.run_congr _ fun use position hread => hagree position (hinside p hp use position hread)

theorem Division.Covers.not_consumes {columns : List ColumnLabel} (h : d.Covers columns)
    (hdistinct : (positionsOf columns).Nodup) {position : Nat}
    (hread : (d.plan context e).Reads .column position) : ¬ d.Consumes position := by
  induction h generalizing e with
  | @mk own columns parts hcolumns hparts ih =>
    intro hconsumed
    have hapart := (Division.Covers.mk hcolumns hparts).apart hdistinct
    -- whatever was consumed was so in one of the parts
    have hpart : ∃ p ∈ parts, position ∈ positionsOf p.cut.columns
        ∧ (position = p.cut.first.position ∨ position = p.cut.last.position
          ∨ p.division.Consumes position) := by
      cases hconsumed with
      | @first _ p hp => exact ⟨p, hp, by simp [positionsOf, Cut.columns], .inl rfl⟩
      | @last _ p hp => exact ⟨p, hp, by simp [positionsOf, Cut.columns], .inr (.inl rfl)⟩
      | @inside _ p _ hp hinside =>
        have hposition := p.cut.positions_subset ((hparts p hp).mem_of_consumes hinside)
        exact ⟨p, hp, hposition, .inr (.inr hinside)⟩
    obtain ⟨p, hp, hposition, hmarker⟩ := hpart
    cases hread with
    | column hx hprovider =>
      obtain ⟨c, hc, rfl⟩ := own_of_column hx hprovider
      exact hapart.own c hc p hp hposition
    | joined hx hprovider hinner =>
      obtain ⟨other, hother, rfl, -⟩ := part_of_join hx hprovider
      have hread : position ∈ other.cut.positions := (hparts other hother).mem_of_reads hinner
      obtain rfl := hapart.eq_of_mem hp hother hposition (other.cut.positions_subset hread)
      obtain ⟨hnodup, hfirst, hlast⟩ := Cut.nodup_positions (hapart.cuts p hp)
      rcases hmarker with rfl | rfl | hinside
      · exact hfirst hread
      · exact hlast hread
      · exact ih p hp hnodup hinner hinside

end Isolated

theorem planQuery_isolated (context : MappingContext) (e : Entity) (q : Query) {columns : List ColumnLabel}
    (hdistinct : (columns.map (·.position)).Nodup) (names : Names) :
    (∃ entity reason, (planQuery context e q columns names).1 = .error (.mapping entity reason))
      ∨ ∃ d, (q.divide e columns names).1 = .ok d
          ∧ (planQuery context e q columns names).1 = .ok (d.plan context e)
          ∧ d.parts.map (·.into) = q.intoJoins.map (·.2)
          ∧ d.Isolated context e
          ∧ ∀ position, (d.plan context e).Reads .column position → ¬ d.Consumes position := by
  have hplan : (planQuery context e q columns names).1
      = (q.divide e columns names).1.map (·.plan context e) := by
    rw [planQuery_eq, ← bind_pure_comp, Naming.bind_apply]
    rcases q.divide e columns names with ⟨fault | d, after⟩ <;> rfl
  rcases q.maps_divide e columns names with ⟨entity, reason, herror⟩ | ⟨d, hd, hcovers, hinto⟩
  · rw [hplan, herror]
    exact .inl ⟨entity, reason, rfl⟩
  · refine .inr ⟨d, hd, by rw [hplan, hd]; rfl, hinto, hcovers.isolated hdistinct, ?_⟩
    exact fun position hread => hcovers.not_consumes hdistinct hread

theorem planQuery_isolated_repeated :
    let columns := labelled 1
      ["id", "start:zone", "code", "id", "end:zone", "start:zone", "end:zone", "zone"]
    let d : Division :=
      { own := [⟨1, "id"⟩, ⟨6, "start:zone"⟩, ⟨7, "end:zone"⟩, ⟨8, "zone"⟩]
        parts :=
          [{ into := { target := zone, column := vehicle.table.column "zone" }
             cut := { first := ⟨2, "start:zone"⟩, inside := [⟨3, "code"⟩, ⟨4, "id"⟩], last := ⟨5, "end:zone"⟩ }
             division := { own := [⟨3, "code"⟩, ⟨4, "id"⟩], parts := [] } }] }
    (vehicleQuery.divide vehicle columns {}).1 = .ok d ∧ d.Isolated .standard vehicle
      ∧ ∀ position, (d.plan .standard vehicle).Reads .column position → ¬ d.Consumes position := by
  intro columns d
  have hdivide : (vehicleQuery.divide vehicle columns {}).1 = .ok d := rfl
  have hdistinct : (columns.map (·.position)).Nodup := by decide
  rcases planQuery_isolated .standard vehicle vehicleQuery hdistinct {} with
    ⟨entity, reason, herror⟩ | ⟨d', hd', -, -, hisolated, hread⟩
  · have hplan : (planQuery .standard vehicle vehicleQuery columns {}).1 = .ok (d.plan .standard vehicle) := rfl
    rw [hplan] at herror
    cases herror
  · rw [hdivide] at hd'
    cases hd'
    exact ⟨hdivide, hisolated, hread⟩

end RelationalMapping
