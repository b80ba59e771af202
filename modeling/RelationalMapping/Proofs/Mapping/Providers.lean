import RelationalMapping.Proofs.Mapping.Kept
import RelationalMapping.Proofs.Mapping.Routing

namespace RelationalMapping

/-- Every label names at most one of the stored fields, every stored field is named by at most one label, and no
two labels are the same in lower case. -/
structure OneToOne (context : MappingContext) (fields : List Field) (columns : List ColumnLabel) : Prop where
  targets : ∀ c ∈ columns, ∀ f ∈ stored fields, ∀ g ∈ stored fields,
    context.accepts c.label f.slotName = true → context.accepts c.label g.slotName = true → f = g
  labels : ∀ f ∈ stored fields, ∀ c ∈ columns, ∀ d ∈ columns,
    context.accepts c.label f.slotName = true → context.accepts d.label f.slotName = true → c.label = d.label
  distinct : (columns.map fun c => Text.lowercase c.label).Nodup

def columnProvider? (context : MappingContext) (columns : List ColumnLabel) (g : Field) : Option Provider :=
  if g.transient then none
  else (columns.find? fun c => context.accepts c.label g.slotName).map fun c =>
    .column c.position (context.codec g.label)

variable {context : MappingContext} {fields : List Field} {columns : List ColumnLabel} {joins : List JoinPlan}
variable {g : Field} {typeName simpleName : String} {tableName : Option String}

theorem OneToOne.columnProvider?_eq (h : OneToOne context fields columns) (hg : g ∈ stored fields)
    {c : ColumnLabel} (hc : c ∈ columns) (haccepts : context.accepts c.label g.slotName = true) :
    columnProvider? context columns g = some (.column c.position (context.codec g.label)) := by
  have hfound : columns.find? (fun c => context.accepts c.label g.slotName) = some c := by
    refine find?_unique hc haccepts fun d hd hother => ?_
    exact List.inj_on_of_nodup_map h.distinct hd hc (congrArg Text.lowercase (h.labels g hg d hd c hc hother haccepts))
  rw [columnProvider?, (mem_stored.mp hg).2, if_neg (by decide), hfound]
  rfl

theorem exists_of_columnProvider? {p : Provider} (hg : g ∈ fields) (h : columnProvider? context columns g = some p) :
    g ∈ stored fields ∧ ∃ c ∈ columns, context.accepts c.label g.slotName = true := by
  unfold columnProvider? at h
  split at h
  · cases h
  · rename_i htransient
    obtain ⟨c, hc, -⟩ := Option.map_eq_some_iff.mp h
    exact ⟨mem_stored.mpr ⟨hg, by simpa using htransient⟩, c, List.mem_of_find?_eq_some hc,
      (List.find?_eq_some_iff_append.mp hc).1⟩

def Fillings.fillColumn (context : MappingContext) (e : Entity) (f : Fillings) (c : ColumnLabel) : Fillings :=
  match route? context e c.label with
  | some target => f.addColumn context target c.position
  | none => f

def routedFillings (context : MappingContext) (e : Entity) (columns : List ColumnLabel) : Fillings :=
  columns.foldl (Fillings.fillColumn context e) {}

theorem planPlain_firstLabels (context : MappingContext) (e : Entity) (columns : List ColumnLabel) :
    planPlain context e columns = (routedFillings context e (firstLabels [] columns)).toPlan e := by
  rw [planPlain, planRouted, List.foldl_map]
  rfl

theorem planPlain_eq (h : (columns.map fun c => Text.lowercase c.label).Nodup) (e : Entity) :
    planPlain context e columns = (routedFillings context e columns).toPlan e := by
  rw [planPlain_firstLabels, firstLabels_distinct h (by simp)]

theorem fits_routedFillings (context : MappingContext) (fields : List Field) (columns : List ColumnLabel) :
    (routedFillings context (Entity.ofFields typeName simpleName tableName fields) columns).Fits fields := by
  refine List.foldlRecOn _ _ Fillings.fits_empty fun f hf c _ => ?_
  rw [Fillings.fillColumn]
  split
  · rename_i target htarget
    obtain ⟨g, hg, rfl, -⟩ := exists_of_route? htarget
    rw [Fillings.addColumn_ref]
    exact hf.add (mem_stored.mp hg).1 _
  · exact hf

theorem OneToOne.provider?_routedFillings (h : OneToOne context fields columns)
    (hfields : (fields.map (·.name)).Nodup) (hg : g ∈ fields) :
    (routedFillings context (Entity.ofFields typeName simpleName tableName fields) columns).provider? g
      = columnProvider? context columns g := by
  have hadd : ∀ c ∈ columns, ∀ f ∈ stored fields, context.accepts c.label f.slotName = true →
      ∀ fillings : Fillings, (fillings.add f.ref (.column c.position (context.codec f.label))).provider? g
        = if g = f then columnProvider? context columns g else fillings.provider? g := by
    intro c hc f hf haccepts fillings
    rw [Fillings.provider?_add fillings hfields (mem_stored.mp hf).1 hg]
    split
    · rename_i heq
      rw [heq, h.columnProvider?_eq hf hc haccepts]
    · rfl
  refine Fillings.provider?_foldl (P := (· = columnProvider? context columns g)) (fun c hc => ?_) ?_
  · rcases hroute : route? context (Entity.ofFields typeName simpleName tableName fields) c.label with _ | target
    · refine .inl fun fillings => ?_
      rw [Fillings.fillColumn, hroute]
    · obtain ⟨f, hf, rfl, haccepts⟩ := exists_of_route? hroute
      simp only [Fillings.fillColumn, hroute, Fillings.addColumn_ref, hadd c hc f hf haccepts]
      by_cases heq : g = f
      · exact .inr fun _ => if_pos heq
      · exact .inl fun _ => if_neg heq
  · rcases hprovider : columnProvider? context columns g with _ | p
    · exact .inl (Fillings.provider?_empty g)
    · obtain ⟨hstored, c, hc, haccepts⟩ := exists_of_columnProvider? hg hprovider
      refine .inr ⟨c, hc, fun fillings => ?_⟩
      have hroute : route? context (Entity.ofFields typeName simpleName tableName fields) c.label = some g.ref :=
        route?_eq_some hstored haccepts fun f hf hother => h.targets c hc f hf g hstored hother haccepts
      rw [Fillings.fillColumn, hroute]
      simp only [Fillings.addColumn_ref, hadd c hc g hstored haccepts, hprovider, if_true]

theorem fits_foundFillings (context : MappingContext) (fields : List Field) (columns : List ColumnLabel) :
    (foundFillings context (Entity.ofFields typeName simpleName tableName fields) columns).Fits fields := by
  refine List.foldlRecOn _ _ Fillings.fits_empty fun f hf target htarget => ?_
  obtain ⟨g, hg, rfl⟩ := exists_of_mem_columnFields htarget
  rw [Fillings.fillSlot]
  split
  · rw [Fillings.addColumn_ref]
    exact hf.add (mem_stored.mp hg).1 _
  · exact hf

theorem provider?_foundFillings (hfields : (fields.map (·.name)).Nodup) (hg : g ∈ fields)
    (halone : g ∈ stored fields → ∀ f ∈ stored fields, g.slotName = f.slotName →
      (∃ c ∈ columns, context.accepts c.label g.slotName = true) → f = g) :
    (foundFillings context (Entity.ofFields typeName simpleName tableName fields) columns).provider? g
      = columnProvider? context columns g := by
  have hfill : ∀ f ∈ stored fields, ∀ fillings : Fillings,
      (fillings.fillSlot context columns f.ref).provider? g
        = if g = f then (columnProvider? context columns g).or (fillings.provider? g) else fillings.provider? g := by
    intro f hf fillings
    have hprovider : columnProvider? context columns f
        = (columns.find? fun c => context.accepts c.label f.slotName).map fun c =>
          .column c.position (context.codec f.label) := by
      rw [columnProvider?, (mem_stored.mp hf).2, if_neg (by decide)]
    rw [Fillings.fillSlot, slotName_ref]
    split
    · rename_i c hfound
      rw [Fillings.addColumn_ref, Fillings.provider?_add fillings hfields (mem_stored.mp hf).1 hg]
      split
      · rename_i heq
        rw [heq, hprovider, hfound]
        rfl
      · rfl
    · rename_i hfound
      split
      · rename_i heq
        rw [heq, hprovider, hfound]
        rfl
      · rfl
  refine Fillings.provider?_foldl (P := (· = columnProvider? context columns g)) (fun target htarget => ?_) ?_
  · obtain ⟨f, hf, rfl⟩ := exists_of_mem_columnFields htarget
    simp only [hfill f hf]
    by_cases heq : g = f
    · rcases columnProvider? context columns g with _ | p
      · exact .inl fun _ => by rw [if_pos heq, Option.none_or]
      · exact .inr fun _ => by rw [if_pos heq, Option.some_or]
    · exact .inl fun _ => if_neg heq
  · rcases hprovider : columnProvider? context columns g with _ | p
    · exact .inl (Fillings.provider?_empty g)
    · obtain ⟨hstored, hfound⟩ := exists_of_columnProvider? hg hprovider
      refine .inr ⟨g.ref, ref_mem_columnFields hstored fun f hf hslot => ?_, fun _ => ?_⟩
      · exact halone hstored f hf hslot hfound
      · rw [hfill g hstored, if_pos rfl, hprovider, Option.some_or]

structure JoinsInto (context : MappingContext) (fields : List Field) (joins : List JoinPlan) : Prop where
  matchers : context.matchers ≠ []
  names : (fields.map fun f => folded f.name).Nodup
  places : ∀ j ∈ joins, ∃ f ∈ fields, f.name = j.field

theorem JoinsInto.nodup_names (h : JoinsInto context fields joins) : (fields.map (·.name)).Nodup := by
  have hnames := h.names
  rw [List.Nodup, List.pairwise_map] at hnames ⊢
  exact hnames.imp fun hdiffer heq => hdiffer (congrArg folded heq)

theorem JoinsInto.addJoin_eq (h : JoinsInto context fields joins) (typeName simpleName : String)
    (tableName : Option String) {j : JoinPlan} (hj : j ∈ joins) :
    ∃ f ∈ fields, f.name = j.field ∧ ∀ fillings : Fillings,
      addJoin context (Entity.ofFields typeName simpleName tableName fields) fillings j
        = fillings.add f.ref (.join j.plan j.positions) := by
  obtain ⟨f, hf, hname⟩ := h.places j hj
  refine ⟨f, hf, hname, fun fillings => ?_⟩
  rw [addJoin, ← hname, joinTarget?_name h.matchers h.names hf]

theorem JoinsInto.fits (h : JoinsInto context fields joins) :
    (joinedFillings context (Entity.ofFields typeName simpleName tableName fields) columns joins).Fits fields := by
  refine List.foldlRecOn _ _ (fits_foundFillings context fields columns) fun f hf j hj => ?_
  obtain ⟨g, hg, -, hadd⟩ := h.addJoin_eq typeName simpleName tableName hj
  rw [hadd]
  exact hf.add hg _

theorem JoinsInto.provider?_addJoin (h : JoinsInto context fields joins) (hg : g ∈ fields) {j : JoinPlan}
    (hj : j ∈ joins) (fillings : Fillings) :
    (addJoin context (Entity.ofFields typeName simpleName tableName fields) fillings j).provider? g
      = if j.field = g.name then some (.join j.plan j.positions) else fillings.provider? g := by
  obtain ⟨f, hf, hfield, hadd⟩ := h.addJoin_eq typeName simpleName tableName hj
  have hiff : g = f ↔ j.field = g.name := by
    rw [← hfield]
    exact ⟨fun heq => heq ▸ rfl, fun heq => eq_of_name_eq h.nodup_names hg hf heq.symm⟩
  rw [hadd, Fillings.provider?_add fillings h.nodup_names hf hg]
  simp only [hiff]

theorem JoinsInto.provider?_joined (h : JoinsInto context fields joins) (hg : g ∈ fields)
    (hname : g.name ∈ joins.map (·.field)) :
    ∃ j ∈ joins, j.field = g.name
      ∧ (joinedFillings context (Entity.ofFields typeName simpleName tableName fields) columns joins).provider? g
        = some (.join j.plan j.positions) := by
  have hsome : ∀ j ∈ joins, j.field = g.name → ∀ fillings : Fillings, ∃ other ∈ joins, other.field = g.name
      ∧ (addJoin context (Entity.ofFields typeName simpleName tableName fields) fillings j).provider? g
        = some (.join other.plan other.positions) :=
    fun j hj hfield fillings => ⟨j, hj, hfield, by rw [h.provider?_addJoin hg hj, if_pos hfield]⟩
  obtain ⟨j, hj, hfield⟩ := List.mem_map.mp hname
  refine Fillings.provider?_foldl
    (P := fun p => ∃ other ∈ joins, other.field = g.name ∧ p = some (.join other.plan other.positions))
    (fun other hother => ?_) (.inr ⟨j, hj, hsome j hj hfield⟩)
  by_cases hsame : other.field = g.name
  · exact .inr (hsome other hother hsame)
  · exact .inl fun fillings => by rw [h.provider?_addJoin hg hother, if_neg hsame]

theorem JoinsInto.provider?_other (h : JoinsInto context fields joins) (hg : g ∈ fields)
    (hname : g.name ∉ joins.map (·.field)) :
    (joinedFillings context (Entity.ofFields typeName simpleName tableName fields) columns joins).provider? g
      = (foundFillings context (Entity.ofFields typeName simpleName tableName fields) columns).provider? g := by
  refine Fillings.provider?_foldl (P := (· = Fillings.provider? _ g)) (fun j hj => .inl fun fillings => ?_) (.inl rfl)
  rw [h.provider?_addJoin hg hj, if_neg fun hfield => hname (List.mem_map.mpr ⟨j, hj, hfield⟩)]

end RelationalMapping
