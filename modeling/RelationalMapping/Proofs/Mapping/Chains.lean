import RelationalMapping.Proofs.Mapping.NestedRows

namespace RelationalMapping

def Entity.markerName (e : Entity) (field : String) : String := (e.table.column field).ownName

def Edge.labelOf (edge : Edge) (name : String) : String := edge.label ++ ":" ++ name

def chainNames (field : String) : Entity → List Entity → List String
  | _, [] => []
  | e, d :: rest => e.markerName field :: chainNames field d rest

/-- Reads an entity and joins the first of the others into a field of this name, the second into the field of the
first, and so on; every join but the innermost has an alias. -/
def Query.Chains (field : String) : Entity → List Entity → Query → Prop
  | e, [], q => ∃ t : Table, t.entity = e ∧ q.sources = [.table t]
  | e, d :: rest, q => ∃ (t : Table) (j : Join) (c : Column),
      t.entity = e ∧ q.sources = [.table t, .join j] ∧ j.into = some ⟨d, c⟩
        ∧ c.table.entity = e ∧ c.property = field ∧ (∃ f, IntoField.GoesInto ⟨d, c⟩ e f)
        ∧ (rest ≠ [] → j.alias?.isSome = true) ∧ j.query.Chains field d rest

variable {field : String} {types : TypeNames} {among : Entity → Prop}

structure Query.Link (field : String) (e d : Entity) (rest : List Entity) (q : Query) (into : IntoField)
    (inner : Query) : Prop where
  column : into.column.table.entity = e
  joined : q.intoJoins ≠ []
  label : ∀ edge, into.ownLabel edge = edge.labelOf (e.markerName field)
  layout : q.layout e
    = e.columnLabels.map .column ++ Selected.marker .start into :: (inner.layout d ++ [Selected.marker .stop into])
  plan : ∀ context columns, planQuery context e q columns = do
    let (inside, rest) ← takeJoin e into columns
    let plan ← planQuery context d inner inside
    return assemble context e rest [⟨into.column.property, plan, inside.map (·.position)⟩]
  joins : ∀ {among : Entity → Prop} {above : List String}, among e → (∀ edge, into.ownLabel edge ∉ above) →
    inner.Joins among (into.ownLabel .start :: into.ownLabel .stop :: above) d → q.Joins among above e
  chains : inner.Chains field d rest

theorem Query.Chains.link {e d : Entity} {rest : List Entity} {q : Query}
    (h : q.Chains field e (d :: rest)) : ∃ into inner, q.Link field e d rest into inner := by
  obtain ⟨projections, aggregates, sources, condition, order, limit, offset, grouped, distinct, random,
    distinctOn⟩ := q
  obtain ⟨t, ⟨inner, kind, into, on, shared, alias?⟩, c, rfl, rfl, rfl, hcolumn, rfl, hgoes, -, hinner⟩ := h
  have hname : c.ownName = t.entity.markerName c.property :=
    Column.ownName_congr (by rw [hcolumn]; rfl) rfl
  refine ⟨⟨d, c⟩, inner, hcolumn, by simp [Query.intoJoins], fun edge => ?_, ?_, fun context columns => ?_, ?_,
    hinner⟩
  · rw [IntoField.ownLabel, Edge.labelOf, hname]
  · simp [Query.layout, sourcesLayout, FromItem.layout]
  · simp [planQuery, planSources, planSource]
  · intro among above he habove hjoins
    simp only [Query.Joins, sourcesJoin, FromItem.Joins]
    exact ⟨he, trivial, ⟨hcolumn ▸ he, hgoes, habove .start, habove .stop, hjoins⟩, trivial⟩

theorem Query.Chains.layout_nil {e : Entity} {q : Query} (h : q.Chains field e []) :
    q.layout e = e.columnLabels.map .column := by
  obtain ⟨projections, aggregates, sources, condition, order, limit, offset, grouped, distinct, random,
    distinctOn⟩ := q
  obtain ⟨t, rfl, rfl⟩ := h
  simp [Query.layout, sourcesLayout, FromItem.layout]

theorem Query.Chains.joins_nil {e : Entity} {q : Query} (h : q.Chains field e []) (he : among e)
    (above : List String) : q.Joins among above e := by
  obtain ⟨projections, aggregates, sources, condition, order, limit, offset, grouped, distinct, random,
    distinctOn⟩ := q
  obtain ⟨t, rfl, rfl⟩ := h
  simp only [Query.Joins, sourcesJoin, FromItem.Joins]
  exact ⟨he, trivial, trivial⟩

theorem Edge.labelOf_inj {edge other : Edge} {name name' : String}
    (h : edge.labelOf name = other.labelOf name') : edge = other ∧ name = name' := by
  have hchars := congrArg String.toList h
  cases edge <;> cases other
  · exact ⟨rfl, String.append_right_inj _ |>.mp h⟩
  · simp [labelOf, label] at hchars
  · simp [labelOf, label] at hchars
  · exact ⟨rfl, String.append_right_inj _ |>.mp h⟩

theorem Query.Chains.joins {e : Entity} {targets : List Entity} {q : Query} (h : q.Chains field e targets)
    (hamong : ∀ d ∈ e :: targets, among d) (hnames : (chainNames field e targets).Nodup) {above : List String}
    (habove : ∀ edge : Edge, ∀ name ∈ chainNames field e targets, edge.labelOf name ∉ above) :
    q.Joins among above e := by
  induction targets generalizing e q above with
  | nil => exact h.joins_nil (hamong e List.mem_cons_self) above
  | cons d rest ih =>
    obtain ⟨into, inner, hlink⟩ := h.link
    rw [chainNames, List.nodup_cons] at hnames
    have hlabel : ∀ edge, into.ownLabel edge ∉ above := by
      intro edge
      rw [hlink.label edge]
      exact habove edge _ List.mem_cons_self
    refine hlink.joins (hamong e List.mem_cons_self) hlabel ?_
    refine ih hlink.chains (fun other hother => hamong other (List.mem_cons_of_mem _ hother)) hnames.2 ?_
    -- below, the markers of this join must not come again
    intro edge name hname hmem
    have hdiffers : ∀ other, edge.labelOf name ≠ into.ownLabel other := by
      intro other heq
      rw [hlink.label other] at heq
      exact hnames.1 ((Edge.labelOf_inj heq).2 ▸ hname)
    rcases List.mem_cons.mp hmem with heq | hmem
    · exact hdiffers .start heq
    · rcases List.mem_cons.mp hmem with heq | hmem
      · exact hdiffers .stop heq
      · exact habove edge name (List.mem_cons_of_mem _ hname) hmem

def labelsOf (columns : List ColumnLabel) : List String := columns.map (·.label)

theorem cutOut_of_missing {start stop : String} {columns : List ColumnLabel}
    (h : start ∉ labelsOf columns ∨ stop ∉ labelsOf columns) : cutOut start stop columns = none := by
  have hnone : ∀ label ∉ labelsOf columns, columns.findIdx? (·.label == label) = none := by
    intro label hlabel
    rw [List.findIdx?_eq_none_iff]
    intro c hc
    refine beq_eq_false_iff_ne.mpr fun heq => hlabel ?_
    exact heq ▸ List.mem_map_of_mem hc
  unfold cutOut
  rcases h with h | h
  · rw [hnone start h]
  · rw [hnone stop h]
    cases columns.findIdx? (·.label == start) <;> rfl

theorem cutOut_of_labels {start stop : String} {columns : List ColumnLabel} {own inside rest : List String}
    (h : labelsOf columns = own ++ start :: (inside ++ stop :: rest)) (hdiffer : start ≠ stop)
    (hstart : start ∉ own) (hstop : stop ∉ own) (hinside : stop ∉ inside) :
    ∃ cut, cutOut start stop columns = some cut ∧ labelsOf cut.1 = inside := by
  obtain ⟨before, after, rfl, rfl, hafter⟩ := List.map_eq_append_iff.mp h
  obtain ⟨first, tail, rfl, hfirst, htail⟩ := List.map_eq_cons_iff.mp hafter
  obtain ⟨between, others, rfl, rfl, hothers⟩ := List.map_eq_append_iff.mp htail
  obtain ⟨last, remaining, rfl, hlast, -⟩ := List.map_eq_cons_iff.mp hothers
  refine ⟨(between, before ++ remaining), cutOut_between hfirst hlast hdiffer ?_ ?_, rfl⟩
  · exact fun c hc heq => hstart (heq ▸ List.mem_map_of_mem hc)
  · intro c hc heq
    rcases List.mem_append.mp hc with hc | hc
    · exact hstop (heq ▸ List.mem_map_of_mem hc)
    · exact hinside (heq ▸ List.mem_map_of_mem hc)

def Entity.joinFault (e : Entity) (field : String) : Error :=
  .mapping e.simpleName
    (.joinColumnsNotFound (Edge.start.labelOf (e.markerName field)) (Edge.stop.labelOf (e.markerName field)))

section Linked

variable {e d : Entity} {rest : List Entity} {q inner : Query} {into : IntoField} {columns : List ColumnLabel}

theorem Query.Link.ends_missing (h : q.Link field e d rest into inner) (hamong : Unconfused among)
    (he : among e) (hcut : cutOut (into.ownLabel .start) (into.ownLabel .stop) columns = none)
    (context : MappingContext) :
    Naming.Ends (Names.Faithful among) (planQuery context e q columns) (some (e.joinFault field)) := by
  have hinto : among into.column.table.entity := h.column ▸ he
  rw [h.plan]
  refine Naming.ends_left ?_ _
  refine Naming.ends_of_yields (Naming.yields_marker hamong .start hinto) ?_
  refine Naming.ends_of_yields (Naming.yields_marker hamong .stop hinto) ?_
  rw [hcut, Entity.joinFault, ← h.label, ← h.label]
  exact Naming.ends_throw _

theorem Query.Link.ends_inside (h : q.Link field e d rest into inner) (hamong : Unconfused among)
    (he : among e) {cut : List ColumnLabel × List ColumnLabel}
    (hcut : cutOut (into.ownLabel .start) (into.ownLabel .stop) columns = some cut)
    {context : MappingContext} {fault : Error}
    (hinside : Naming.Ends (Names.Faithful among) (planQuery context d inner cut.1) (some fault)) :
    Naming.Ends (Names.Faithful among) (planQuery context e q columns) (some fault) := by
  have hinto : among into.column.table.entity := h.column ▸ he
  have htake : Naming.Yields (Names.Faithful among) (takeJoin e into columns) cut := by
    refine Naming.yields_bind (Naming.yields_marker hamong .start hinto) ?_
    refine Naming.yields_bind (Naming.yields_marker hamong .stop hinto) ?_
    rw [hcut]
    exact Naming.yields_pure _
  rw [h.plan]
  exact Naming.ends_of_yields htake (Naming.ends_left hinside _)

def selectedLabels (layout : List Selected) : List String := layout.map (·.label)

theorem Query.Link.labels (h : q.Link field e d rest into inner) :
    selectedLabels (q.layout e)
      = e.columnLabels ++ into.ownLabel .start :: (selectedLabels (inner.layout d) ++ [into.ownLabel .stop]) := by
  have hown : selectedLabels (e.columnLabels.map .column) = e.columnLabels := by
    rw [selectedLabels, List.map_map]
    exact List.map_id _
  rw [h.layout, selectedLabels, List.map_append, ← selectedLabels, hown]
  simp [selectedLabels, Selected.label]

theorem Query.Link.own_unmarked (h : q.Link field e d rest into inner) (hunmixed : Unmixed (q.layout e))
    (edge : Edge) : into.ownLabel edge ∉ e.columnLabels := by
  intro hmem
  refine hunmixed (.column (into.ownLabel edge)) ?_ (.marker edge into) ?_ rfl rfl rfl
  · rw [h.layout]
    exact List.mem_append_left _ (List.mem_map_of_mem hmem)
  · rw [h.layout]
    cases edge <;> simp

theorem Query.Link.unmixed_inside (h : q.Link field e d rest into inner) (hunmixed : Unmixed (q.layout e)) :
    Unmixed (inner.layout d) := by
  refine hunmixed.subset ?_
  rw [h.layout]
  exact List.subset_append_of_subset_right _ (List.subset_cons_of_subset _ (List.subset_append_left _ _))

theorem Query.Link.exists_inside (h : q.Link field e d rest into inner) (hunmixed : Unmixed (q.layout e))
    (hstop : into.ownLabel .stop ∈ selectedLabels (inner.layout d)) : rest ≠ [] := by
  rintro rfl
  obtain ⟨s, hs, hlabel⟩ := List.mem_map.mp hstop
  have hcolumn : s.isMarker = false := by
    rw [h.chains.layout_nil] at hs
    obtain ⟨name, -, rfl⟩ := List.mem_map.mp hs
    rfl
  refine hunmixed s ?_ (.marker .stop into) ?_ hcolumn rfl hlabel
  · rw [h.layout]
    simp [hs]
  · rw [h.layout]
    simp

theorem Query.Link.ends_cut (h : q.Link field e d rest into inner) (hamong : Unconfused among)
    (he : among e) (hunmixed : Unmixed (q.layout e)) {context : MappingContext} {inside after : List String}
    (hcolumns : labelsOf columns
      = e.columnLabels ++ into.ownLabel .start :: (inside ++ into.ownLabel .stop :: after))
    (hfirst : into.ownLabel .stop ∉ inside)
    (hinside : ∀ cut, labelsOf cut = inside → ∃ missing ∈ d :: rest,
      Naming.Ends (Names.Faithful among) (planQuery context d inner cut) (some (missing.joinFault field))) :
    ∃ missing ∈ e :: d :: rest,
      Naming.Ends (Names.Faithful among) (planQuery context e q columns) (some (missing.joinFault field)) := by
  obtain ⟨cut, hcut, hlabels⟩ := cutOut_of_labels hcolumns into.start_ne_stop (h.own_unmarked hunmixed .start)
    (h.own_unmarked hunmixed .stop) hfirst
  obtain ⟨missing, hmissing, hends⟩ := hinside cut.1 hlabels
  exact ⟨missing, List.mem_cons_of_mem _ hmissing, h.ends_inside hamong he hcut hends⟩

end Linked

theorem exists_first {α : Type} {a : α} {own tail prefixed : List α} (hown : a ∉ own)
    (h : prefixed <+: own ++ a :: tail) :
    a ∉ prefixed ∨ ∃ after, prefixed = own ++ a :: after ∧ after <+: tail := by
  obtain ⟨others, hsplit⟩ := h
  rcases List.append_eq_append_iff.mp hsplit with ⟨more, rfl, -⟩ | ⟨more, rfl, hmore⟩
  · exact .inl fun ha => hown (List.mem_append_left _ ha)
  · cases more with
    | nil => exact .inl (by simpa using hown)
    | cons b after =>
      rw [List.cons_append] at hmore
      injection hmore with hb hafter
      exact .inr ⟨after, by rw [hb], others, hafter.symm⟩

theorem prefix_dropLast {α : Type} {a : α} {before after items : List α}
    (h : before ++ a :: after <+: items) : before <+: items.dropLast := by
  obtain ⟨others, rfl⟩ := h
  rw [List.append_assoc, List.dropLast_append_of_ne_nil (by simp)]
  exact List.prefix_append _ _

theorem Query.Chains.ends_prefix (hamong : Unconfused among) (context : MappingContext) {e : Entity}
    {targets : List Entity} {q : Query} (h : q.Chains field e targets) (htargets : targets ≠ [])
    (hentities : ∀ d ∈ e :: targets, among d) (hunmixed : Unmixed (q.layout e)) {columns : List ColumnLabel}
    (hcolumns : labelsOf columns <+: (selectedLabels (q.layout e)).dropLast) :
    ∃ missing ∈ e :: targets,
      Naming.Ends (Names.Faithful among) (planQuery context e q columns) (some (missing.joinFault field)) := by
  induction targets generalizing e q columns with
  | nil => exact absurd rfl htargets
  | cons d rest ih =>
    obtain ⟨into, inner, hlink⟩ := h.link
    have he := hentities e List.mem_cons_self
    have hmissing : cutOut (into.ownLabel .start) (into.ownLabel .stop) columns = none →
        ∃ missing ∈ e :: d :: rest, Naming.Ends (Names.Faithful among) (planQuery context e q columns)
          (some (missing.joinFault field)) :=
      fun hcut => ⟨e, List.mem_cons_self, hlink.ends_missing hamong he hcut context⟩
    have hlayout : (selectedLabels (q.layout e)).dropLast
        = e.columnLabels ++ into.ownLabel .start :: selectedLabels (inner.layout d) := by
      rw [hlink.labels, ← List.cons_append, ← List.append_assoc, List.dropLast_concat]
    rw [hlayout] at hcolumns
    rcases exists_first (hlink.own_unmarked hunmixed .start) hcolumns with hstart | ⟨after, hlabels, hafter⟩
    · exact hmissing (cutOut_of_missing (.inl hstart))
    · by_cases hstop : into.ownLabel .stop ∈ after
      · obtain ⟨inside, others, rfl, hfirst⟩ := List.eq_append_cons_of_mem hstop
        have hrest := hlink.exists_inside hunmixed (hafter.subset hstop)
        refine hlink.ends_cut hamong he hunmixed hlabels hfirst fun cut hcut => ?_
        exact ih hlink.chains hrest (fun other hother => hentities other (List.mem_cons_of_mem _ hother))
          (hlink.unmixed_inside hunmixed) (hcut ▸ prefix_dropLast hafter)
      · refine hmissing (cutOut_of_missing (.inr ?_))
        rw [hlabels, List.mem_append, List.mem_cons, not_or, not_or]
        exact ⟨hlink.own_unmarked hunmixed .stop, into.start_ne_stop.symm, hstop⟩

theorem Query.Chains.stop_mem {e : Entity} {targets : List Entity} {q : Query} (h : q.Chains field e targets)
    {name : String} (hname : name ∈ chainNames field e targets) :
    Edge.stop.labelOf name ∈ selectedLabels (q.layout e) := by
  induction targets generalizing e q with
  | nil => cases hname
  | cons d rest ih =>
    obtain ⟨into, inner, hlink⟩ := h.link
    rw [hlink.labels]
    rcases List.mem_cons.mp hname with rfl | hname
    · simp [hlink.label]
    · simp [ih hlink.chains hname]

theorem Query.Chains.ends_repeated (hamong : Unconfused among) (context : MappingContext) {e : Entity}
    {targets : List Entity} {q : Query} (h : q.Chains field e targets)
    (hnames : ¬ (chainNames field e targets).Nodup)
    (hentities : ∀ d ∈ e :: targets, among d) (hunmixed : Unmixed (q.layout e)) {columns : List ColumnLabel}
    (hcolumns : labelsOf columns = selectedLabels (q.layout e)) :
    ∃ missing ∈ e :: targets,
      Naming.Ends (Names.Faithful among) (planQuery context e q columns) (some (missing.joinFault field)) := by
  induction targets generalizing e q columns with
  | nil => exact absurd .nil hnames
  | cons d rest ih =>
    obtain ⟨into, inner, hlink⟩ := h.link
    have he := hentities e List.mem_cons_self
    have hothers : ∀ other ∈ d :: rest, among other := fun other hother =>
      hentities other (List.mem_cons_of_mem _ hother)
    rw [hlink.labels] at hcolumns
    by_cases hstop : into.ownLabel .stop ∈ selectedLabels (inner.layout d)
    · -- the outer join takes the end of an inner one, and leaves the next join without its own
      have hrest := hlink.exists_inside hunmixed hstop
      obtain ⟨inside, after, hinner, hfirst⟩ := List.eq_append_cons_of_mem hstop
      rw [hinner, List.append_assoc, List.cons_append] at hcolumns
      refine hlink.ends_cut hamong he hunmixed hcolumns hfirst fun cut hcut => ?_
      refine hlink.chains.ends_prefix hamong context hrest hothers (hlink.unmixed_inside hunmixed) ?_
      rw [hcut, hinner]
      exact prefix_dropLast (List.prefix_refl _)
    · have hinner : ¬ (chainNames field d rest).Nodup := by
        intro hnodup
        refine hnames (List.nodup_cons.mpr ⟨fun hname => hstop ?_, hnodup⟩)
        rw [hlink.label]
        exact hlink.chains.stop_mem hname
      refine hlink.ends_cut hamong he hunmixed hcolumns hstop fun cut hcut => ?_
      exact ih hlink.chains hinner hothers (hlink.unmixed_inside hunmixed) hcut

theorem Query.Chains.intoJoins_ne_nil {e : Entity} {targets : List Entity} {q : Query}
    (h : q.Chains field e targets) (htargets : targets ≠ []) : q.intoJoins ≠ [] := by
  cases targets with
  | nil => exact absurd rfl htargets
  | cons d rest =>
    obtain ⟨into, inner, hlink⟩ := h.link
    exact hlink.joined

theorem Query.Chains.map_chain (hschema : Schema types among) {e : Entity} {targets : List Entity} {q : Query}
    (h : q.Chains field e targets) (htargets : targets ≠ []) (hentities : ∀ d ∈ e :: targets, among d)
    (hunmixed : Unmixed (q.layout e)) {memory : Memory} (hnames : memory.names.Faithful among) :
    ((chainNames field e targets).Nodup → ∀ rows, (∀ i ∈ rows, q.Instantiates e i) →
        (mapResult .standard e (.query q) ⟨(q.layout e).map (·.label), rows.map (q.cells e)⟩ memory).1
          = .ok rows)
      ∧ (¬ (chainNames field e targets).Nodup → ∀ context rows, ∃ missing ∈ e :: targets,
        (mapResult context e (.query q) ⟨(q.layout e).map (·.label), rows⟩ memory).1
          = .error (missing.joinFault field)) := by
  have hjoins := h.intoJoins_ne_nil htargets
  constructor
  · intro hdistinct rows hrows
    have hq : q.Joins among [] e := h.joins hentities hdistinct fun _ _ _ => List.not_mem_nil
    obtain ⟨plan, hplan, -, hrun⟩ := q.plans hschema hq hunmixed 1
    obtain ⟨names', hnamed, -⟩ := hplan memory.names hnames
    rw [mapResult_joined hjoins _ hnamed]
    refine mapM_ok fun i hi => ?_
    have hrow := hrun i [] [] rfl (hrows i hi)
    rw [List.nil_append, List.append_nil] at hrow
    have he := hschema.records e (hentities e List.mem_cons_self)
    rw [mapRow, RowMapper.map, hrow]
    exact if_pos (Query.instanceType_of_instantiates he (hrows i hi))
  · intro hrepeated context rows
    have hcolumns : labelsOf (columnsOf 1 (q.layout e)) = selectedLabels (q.layout e) :=
      map_label_labelled 1 _
    obtain ⟨missing, hmissing, hends⟩ :=
      h.ends_repeated hschema.unconfused context hrepeated hentities hunmixed hcolumns
    exact ⟨missing, hmissing, mapResult_refused hjoins _ (hends memory.names hnames)⟩

def person : Entity := Entity.ofFields "app::Person" "Person" none
  [{ name := "id", label := "i64", holds := .column (.required (.element .int64)) }]

def team : Entity := Entity.ofFields "app::Team" "Team" none
  [{ name := "id", label := "i64", holds := .column (.required (.element .int64)) },
    { name := "owner", label := "Option<Person>", holds := .joined "app::Person", transient := true }]

def deed : Entity := Entity.ofFields "app::Deed" "Deed" none
  [{ name := "id", label := "i64", holds := .column (.required (.element .int64)) },
    { name := "owner", label := "Option<Team>", holds := .joined "app::Team", transient := true }]

def ownerEntities : List Entity := [deed, team, person]

theorem ownerEntities_schema : Schema rideTypes (· ∈ ownerEntities) := by
  apply schema_of_list <;> decide +kernel

def teamQuery : Query :=
  (team.aliased "t").selectAll.addJoin .left
    ((person.table.selectAll.intoField ((team.aliased "t").column "owner") person).on (.value (.bool true)))

def deedQuery : Query :=
  deed.table.selectAll.addJoin .left
    (((teamQuery.intoField (deed.table.column "owner") team).on (.value (.bool true))).under "t")

theorem teamQuery_chains : teamQuery.Chains "owner" team [person] := by
  refine ⟨_, _, _, rfl, rfl, rfl, rfl, rfl, ⟨_, List.mem_cons_of_mem _ List.mem_cons_self, rfl, rfl, rfl⟩,
    fun h => absurd rfl h, _, ?_, rfl⟩
  rfl

theorem deedQuery_chains : deedQuery.Chains "owner" deed [team, person] :=
  ⟨_, _, _, rfl, rfl, rfl, rfl, rfl, ⟨_, List.mem_cons_of_mem _ List.mem_cons_self, rfl, rfl, rfl⟩,
    fun _ => rfl, teamQuery_chains⟩

def personOf (id : Int64) : Instance := person.record fun _ => .value (.int id)

def ownedOf (e : Entity) (id : Int64) (found : Option Instance) : Instance :=
  e.record fun f => if f.name = "id" then .value (.int id) else .joined found

theorem personOf_instantiates (id : Int64) : person.table.selectAll.Instantiates person (personOf id) := by
  refine ⟨⟨_, rfl, ?_, ?_⟩, trivial, trivial⟩
  · refine List.forall_mem_cons.mpr ⟨⟨.required (.element .int64), id, rfl, rfl⟩, ?_⟩
    exact fun f hf => absurd hf List.not_mem_nil
  · refine List.forall_mem_cons.mpr ⟨fun h => (nomatch h), ?_⟩
    exact fun f hf => absurd hf List.not_mem_nil

theorem teamOf_instantiates (id : Int64) {found : Option Instance} (h : ∀ i ∈ found, ∃ other, i = personOf other) :
    teamQuery.Instantiates team (ownedOf team id found) := by
  refine ⟨hasInstance_linked rfl rfl rfl rfl rfl ?_ id found, trivial, ?_, trivial⟩
  · exact List.mem_cons_self
  · cases found with
    | none => exact .inl rfl
    | some i =>
      obtain ⟨other, rfl⟩ := h i rfl
      exact .inr ⟨personOf other, rfl, personOf_instantiates other, .int other, List.mem_cons_self, nofun⟩

theorem Query.Chains.map_chain_owners :
    (mapResult .standard team (.query teamQuery)
        ⟨["id", "start:owner", "id", "end:owner"],
          [[.int 2, .null, .int 3, .null], [.int 5, .null, .null, .null]]⟩ {}).1
        = .ok [ownedOf team 2 (some (personOf 3)), ownedOf team 5 none]
      ∧ ∀ rows, ∃ missing ∈ [deed, team, person],
        (mapResult .standard deed (.query deedQuery)
          ⟨["id", "start:owner", "id", "start:owner", "id", "end:owner", "end:owner"], rows⟩ {}).1
          = .error (missing.joinFault "owner") := by
  have hmem : ∀ d ∈ [deed, team, person], d ∈ ownerEntities := fun _ hd => hd
  have hnames : ({} : Memory).names.Faithful (· ∈ ownerEntities) := Names.faithful_empty _
  constructor
  · have hunmixed : Unmixed (teamQuery.layout team) := by
      unfold Unmixed
      decide +kernel
    have hrows : ∀ i ∈ [ownedOf team 2 (some (personOf 3)), ownedOf team 5 none],
        teamQuery.Instantiates team i := by
      refine List.forall_mem_cons.mpr ⟨teamOf_instantiates 2 fun i hi => ⟨3, (Option.some.inj hi).symm⟩, ?_⟩
      refine List.forall_mem_cons.mpr ⟨teamOf_instantiates 5 nofun, ?_⟩
      exact fun i hi => absurd hi List.not_mem_nil
    have hlabels : (teamQuery.layout team).map (·.label) = ["id", "start:owner", "id", "end:owner"] := by
      decide +kernel
    have hmapped := (teamQuery_chains.map_chain ownerEntities_schema (List.cons_ne_nil _ _)
      (fun d hd => hmem d (List.mem_cons_of_mem _ hd)) hunmixed hnames).1
      (by decide +kernel) _ hrows
    rw [hlabels] at hmapped
    exact hmapped
  · have hunmixed : Unmixed (deedQuery.layout deed) := by
      unfold Unmixed
      decide +kernel
    have hlabels : (deedQuery.layout deed).map (·.label)
        = ["id", "start:owner", "id", "start:owner", "id", "end:owner", "end:owner"] := by
      decide +kernel
    have hrefused := (deedQuery_chains.map_chain ownerEntities_schema (List.cons_ne_nil _ _) hmem hunmixed
      hnames).2 (by decide +kernel) .standard
    rw [hlabels] at hrefused
    exact hrefused

theorem Query.Chains.map_chain_lost :
    let found := ownedOf deed 1 (some (ownedOf team 2 (some (personOf 3))))
    let row : Row := [.int 1, .null, .int 2, .null, .int 3, .null, .null]
    deedQuery.Chains "owner" deed [team, person]
      ∧ (deedQuery.layout deed).map (·.label)
        = ["id", "start:owner", "id", "start:owner", "id", "end:owner", "end:owner"]
      ∧ deedQuery.cells deed found = row
      ∧ (mapResult .standard deed (.query deedQuery)
          ⟨(deedQuery.layout deed).map (·.label), [row]⟩ {}).1
        = .error (.mapping "Team" (.joinColumnsNotFound "start:owner" "end:owner")) := by
  intro found row
  exact ⟨deedQuery_chains, rfl, rfl, rfl⟩

end RelationalMapping
