import RelationalMapping.Proofs.Mapping.Layout
import RelationalMapping.Query.Select

namespace RelationalMapping

/-- Record entities that their type names tell apart, and whose fields their names tell apart. -/
structure Schema (types : TypeNames) (among : Entity → Prop) : Prop where
  records : ∀ e, among e → e.IsRecord types
  names : ∀ e, among e → (e.fields.map fun f => folded f.name).Nodup
  distinct : ∀ e d, among e → among d → e.typeName = d.typeName → e = d
  separator : ∀ e, among e → '|' ∉ e.typeName.toList

theorem Schema.unconfused {types : TypeNames} {among : Entity → Prop} (h : Schema types among) :
    Unconfused among := unconfused_of_distinct h.distinct h.separator

theorem schema_of_list {types : TypeNames} {entities : List Entity}
    (hmade : ∀ e ∈ entities, e = Entity.ofFields e.typeName e.simpleName e.tableName e.fields)
    (hnames : ∀ e ∈ entities, (e.fields.map (·.name)).Nodup)
    (hholds : ∀ e ∈ entities, ∀ f ∈ e.fields, types.held? f.label f.transient = some f.holds)
    (hascii : ∀ e ∈ entities, ∀ f ∈ e.fields, Text.IsAscii f.slotName)
    (hslots : ∀ e ∈ entities, (e.fields.map fun f => folded f.slotName).Nodup)
    (hfolded : ∀ e ∈ entities, (e.fields.map fun f => folded f.name).Nodup)
    (hdistinct : ∀ e ∈ entities, ∀ d ∈ entities, e.typeName = d.typeName → e = d)
    (hseparator : ∀ e ∈ entities, '|' ∉ e.typeName.toList) : Schema types (· ∈ entities) where
  records := fun e he => ⟨hmade e he, ⟨hnames e he, hholds e he⟩, ⟨hascii e he, hslots e he⟩⟩
  names := hfolded
  distinct := fun e d he hd => hdistinct e he d hd
  separator := hseparator

def JoinPlan.Serves (row : Row) (e : Entity) (i : Instance) (j : JoinPlan) : Prop :=
  ∃ f ∈ e.fields, f.name = j.field
    ∧ ∃ c, i.field? f.name = some c ∧ (Provider.join j.plan j.positions).Serves row f c

variable {types : TypeNames} {among : Entity → Prop} {above : List String} {e : Entity}

theorem isVacant_labelled {labels : List String} {cells : Row} (hlength : cells.length = labels.length)
    (before after : Row) :
    (before ++ (cells ++ after) : Row).isVacant ((labelled (before.length + 1) labels).map (·.position))
      = cells.all (·.isNull) := by
  induction cells generalizing labels before with
  | nil =>
    cases labels with
    | nil => rfl
    | cons label rest => cases hlength
  | cons v cells ih =>
    cases labels with
    | nil => cases hlength
    | cons label rest =>
      have hrest := ih (by simpa using hlength) (before ++ [v])
      rw [List.append_assoc, List.singleton_append, List.length_append, List.length_singleton] at hrest
      have hcell : (before ++ (v :: (cells ++ after)) : Row).cell? (before.length + 1) = some v :=
        cell?_append before _ v
      rw [List.cons_append, labelled, List.map_cons, Row.isVacant, List.all_cons, hcell, List.all_cons,
        ← hrest]
      rfl

theorem yields_takeJoin (hamong : Unconfused among) {into : IntoField}
    (hinto : among into.column.table.entity) {own inside rest : List ColumnLabel} {position last : Nat}
    (hown : ∀ c ∈ own, ∀ edge, c.label ≠ into.ownLabel edge)
    (hinside : ∀ c ∈ inside, c.label ≠ into.ownLabel .stop) :
    Naming.Yields (Names.Faithful among)
      (takeJoin e into
        (own ++ ⟨position, into.ownLabel .start⟩ :: (inside ++ ⟨last, into.ownLabel .stop⟩ :: rest)))
      (inside, own ++ rest) := by
  refine Naming.yields_bind (Naming.yields_marker hamong .start hinto) ?_
  refine Naming.yields_bind (Naming.yields_marker hamong .stop hinto) ?_
  have hcut : cutOut (into.ownLabel .start) (into.ownLabel .stop)
      (own ++ ⟨position, into.ownLabel .start⟩ :: (inside ++ ⟨last, into.ownLabel .stop⟩ :: rest))
        = some (inside, own ++ rest) := by
    refine cutOut_between rfl rfl into.start_ne_stop (fun c hc => hown c hc .start) fun c hc => ?_
    rcases List.mem_append.mp hc with hc | hc
    · exact hown c hc .stop
    · exact hinside c hc
  rw [hcut]
  exact Naming.yields_pure _

def Clear (own : List ColumnLabel) (layout : List Selected) : Prop :=
  ∀ c ∈ own, ∀ edge into, .marker edge into ∈ layout → c.label ≠ into.ownLabel edge

def columnsOf (position : Nat) (layout : List Selected) : List ColumnLabel :=
  labelled position (layout.map (·.label))

theorem columnsOf_append (position : Nat) (layout other : List Selected) :
    columnsOf position (layout ++ other)
      = columnsOf position layout ++ columnsOf (position + layout.length) other := by
  rw [columnsOf, List.map_append, labelled_append, List.length_map]
  rfl

theorem columnsOf_join (position : Nat) (query : Query) (into : IntoField) (tail : List ColumnLabel) :
    columnsOf position (Selected.marker .start into :: (query.layout into.target ++ [Selected.marker .stop into])) ++ tail
      = ⟨position, into.ownLabel .start⟩ :: (columnsOf (position + 1) (query.layout into.target)
        ++ ⟨position + 1 + (query.layout into.target).length, into.ownLabel .stop⟩ :: tail) := by
  rw [columnsOf, List.map_cons, labelled, List.map_append, labelled_append, List.length_map]
  simp [columnsOf, labelled, Selected.label]

theorem exists_selected {position : Nat} {layout : List Selected} {c : ColumnLabel}
    (h : c ∈ columnsOf position layout) : ∃ s ∈ layout, c.label = s.label := by
  obtain ⟨s, hs, heq⟩ := List.mem_map.mp (exists_label_iff.mp ⟨c, h, rfl⟩)
  exact ⟨s, hs, heq.symm⟩

def Query.Plans (among : Entity → Prop) (e : Entity) (q : Query) : Prop :=
  ∀ position, ∃ plan,
    Naming.Yields (Names.Faithful among) (planQuery .standard e q (columnsOf position (q.layout e))) plan
      ∧ plan.entity = e
      ∧ ∀ i before after, before.length + 1 = position → q.Instantiates e i →
        plan.run (before ++ (q.cells e i ++ after)) = .ok i

def FromItem.Plans (among : Entity → Prop) (e : Entity) (item : FromItem) : Prop :=
  ∀ position own tail, Clear own item.layout → ∃ joins,
    Naming.Yields (Names.Faithful among)
        (planSource .standard e item (own ++ (columnsOf position item.layout ++ tail))) (joins, own ++ tail)
      ∧ joins.map (·.field) = item.filled
      ∧ ∀ i before after, before.length + 1 = position → item.Instantiates i →
        ∀ j ∈ joins, j.Serves (before ++ (item.cells i ++ after)) e i

def sourcesPlan (among : Entity → Prop) (e : Entity) (sources : List FromItem) : Prop :=
  ∀ position own, Clear own (sourcesLayout sources) → ∃ joins,
    Naming.Yields (Names.Faithful among)
        (planSources .standard e sources (own ++ columnsOf position (sourcesLayout sources))) (joins, own)
      ∧ joins.map (·.field) = filledFields sources
      ∧ ∀ i before after, before.length + 1 = position → sourcesInstantiate sources i →
        ∀ j ∈ joins, j.Serves (before ++ (sourcesCells sources i ++ after)) e i

theorem Query.instanceType_of_instantiates (he : e.IsRecord types) : {q : Query} → {i : Instance} →
    q.Instantiates e i → i.instanceType = e.instanceType
  | ⟨_, _, _, _, _, _, _, _, _, _, _⟩, i, hi => by
    rw [Query.Instantiates] at hi
    obtain ⟨⟨content, rfl, -⟩, -⟩ := hi
    exact he.instanceType_record

theorem FromItem.plans_join (hschema : Schema types among) {query : Query} {into : IntoField} {f : Field}
    (hcolumn : among into.column.table.entity) (hgoes : into.GoesInto e f) (hinto : among into.target)
    (hstop : ∀ s ∈ query.layout into.target, s.label ≠ into.ownLabel .stop)
    (hquery : query.Plans among into.target) (kind : JoinKind) (condition : Option Expr)
    (shared : Option (List Column)) (alias? : Option String) :
    FromItem.Plans among e (.join ⟨query, kind, some into, condition, shared, alias?⟩) := by
  intro position own tail hclear
  obtain ⟨hf, hname, htransient, hholds⟩ := hgoes
  obtain ⟨plan, hplan, htarget, hrun⟩ := hquery (position + 1)
  rw [FromItem.layout] at hclear ⊢
  have hown : ∀ c ∈ own, ∀ edge, c.label ≠ into.ownLabel edge := by
    intro c hc edge
    refine hclear c hc edge into ?_
    cases edge <;> simp
  have hinside : ∀ c ∈ columnsOf (position + 1) (query.layout into.target),
      c.label ≠ into.ownLabel .stop := by
    intro c hc
    obtain ⟨s, hs, hlabel⟩ := exists_selected hc
    rw [hlabel]
    exact hstop s hs
  refine ⟨[⟨into.column.property, plan,
    (columnsOf (position + 1) (query.layout into.target)).map (·.position)⟩], ?_, rfl, ?_⟩
  · rw [planSource, columnsOf_join]
    refine Naming.yields_bind (yields_takeJoin hschema.unconfused hcolumn hown hinside) ?_
    exact Naming.yields_bind hplan (Naming.yields_pure _)
  · intro i before after hbefore hi j hj
    cases List.mem_singleton.mp hj
    refine ⟨f, hf, hname, ?_⟩
    rw [FromItem.Instantiates, ← hname] at hi
    -- the row parts at the markers, so that the plan of the join sees its own cells between others
    have hsplit : ∀ inside : Row, before ++ (Value.null :: (inside ++ [Value.null]) ++ after)
        = (before ++ [Value.null]) ++ (inside ++ Value.null :: after) := by simp
    have hposition : (before ++ [Value.null]).length + 1 = position + 1 := by simp [hbefore]
    have hvacant : ∀ inside : Row, inside.length = (query.layout into.target).length →
        Row.isVacant ((before ++ [Value.null]) ++ (inside ++ Value.null :: after))
          ((columnsOf (position + 1) (query.layout into.target)).map (·.position)) = inside.all (·.isNull) := by
      intro inside hlength
      rw [← hposition]
      exact isVacant_labelled (by rw [hlength, List.length_map]) _ _
    rw [FromItem.cells, ← hname]
    rcases hi with habsent | ⟨child, hpresent, hchild, v, hv, hsome⟩
    · refine ⟨.joined none, habsent, ?_⟩
      simp only [habsent, hsplit]
      refine Provider.join_serves_absent htransient (htarget ▸ hholds) ?_
      rw [hvacant _ (by simp)]
      simp [Value.isNull]
    · refine ⟨.joined (some child), hpresent, ?_⟩
      simp only [hpresent, hsplit]
      have htype : child.instanceType = plan.entity.instanceType :=
        htarget ▸ Query.instanceType_of_instantiates (hschema.records _ hinto) hchild
      refine Provider.join_serves_present htransient (htarget ▸ hholds) ?_
        (hrun child _ _ hposition hchild) htype
      rw [hvacant _ (query.length_cells into.target child), List.all_eq_false]
      refine ⟨v, hv, ?_⟩
      cases v with
      | null => exact absurd rfl hsome
      | _ => exact Bool.false_ne_true

theorem sourcesPlan_nil : sourcesPlan among e [] := by
  intro position own _
  refine ⟨[], ?_, rfl, fun _ _ _ _ _ j hj => absurd hj List.not_mem_nil⟩
  rw [planSources, sourcesLayout, columnsOf, List.map_nil, labelled, List.append_nil]
  exact Naming.yields_pure _

theorem FromItem.plans_plain {item : FromItem} (hlayout : item.layout = []) (hfilled : item.filled = [])
    (hplan : ∀ columns, planSource .standard e item columns = pure ([], columns)) :
    FromItem.Plans among e item := by
  intro position own tail _
  refine ⟨[], ?_, hfilled.symm, fun _ _ _ _ _ j hj => absurd hj List.not_mem_nil⟩
  rw [hplan, hlayout]
  exact Naming.yields_pure _

theorem sourcesPlan_cons {item : FromItem} {rest : List FromItem} (hitem : item.Plans among e)
    (hrest : sourcesPlan among e rest) : sourcesPlan among e (item :: rest) := by
  intro position own hclear
  rw [sourcesLayout] at hclear ⊢
  have hfirst : Clear own item.layout := fun c hc edge into hmarker =>
    hclear c hc edge into (List.mem_append_left _ hmarker)
  have hothers : Clear own (sourcesLayout rest) := fun c hc edge into hmarker =>
    hclear c hc edge into (List.mem_append_right _ hmarker)
  obtain ⟨first, hplan, hfield, hserves⟩ := hitem position own
    (columnsOf (position + item.layout.length) (sourcesLayout rest)) hfirst
  obtain ⟨others, hplans, hfields, hserve⟩ := hrest (position + item.layout.length) own hothers
  refine ⟨first ++ others, ?_, ?_, ?_⟩
  · rw [planSources, columnsOf_append]
    exact Naming.yields_bind hplan (Naming.yields_bind hplans (Naming.yields_pure _))
  · rw [List.map_append, hfield, hfields]
    rfl
  · intro i before after hbefore hi j hj
    rw [sourcesInstantiate] at hi
    rw [sourcesCells, List.append_assoc]
    rcases List.mem_append.mp hj with hj | hj
    · exact hserves i before _ hbefore hi.1 j hj
    · have hposition : (before ++ item.cells i).length + 1 = position + item.layout.length := by
        rw [List.length_append, item.length_cells i]
        omega
      rw [← List.append_assoc]
      exact hserve i _ after hposition hi.2 j hj

theorem Query.plans_of_sources (hschema : Schema types among) (he : among e) : {q : Query} →
    Unmixed (q.layout e) → sourcesPlan among e q.sources → q.Plans among e
  | ⟨_, _, sources, _, _, _, _, _, _, _, _⟩, hunmixed, hsources => by
    intro position
    have hrecord := hschema.records e he
    rw [Query.layout] at hunmixed ⊢
    -- the entity's own columns stand first, and are all that is left once the joins have been taken
    have hown : columnsOf position (e.columnLabels.map .column) = labelled position e.columnLabels := by
      rw [columnsOf, List.map_map]
      exact congrArg (labelled position) (List.map_id _)
    have hclear : Clear (labelled position e.columnLabels) (sourcesLayout sources) := by
      intro c hc edge into hmarker
      rw [← hown] at hc
      obtain ⟨s, hs, hlabel⟩ := exists_selected hc
      obtain ⟨name, hname, rfl⟩ := List.mem_map.mp hs
      rw [hlabel]
      exact hunmixed _ (List.mem_append_left _ hs) _ (List.mem_append_right _ hmarker) rfl rfl
    obtain ⟨joins, hplan, hfields, hserves⟩ := hsources (position + e.columnLabels.length) _ hclear
    refine ⟨assemble .standard e (labelled position e.columnLabels) joins, ?_, rfl, ?_⟩
    · rw [planQuery, columnsOf_append, hown, List.length_map]
      exact Naming.yields_bind hplan (Naming.yields_pure _)
    · intro i before after hbefore hi
      rw [Query.Instantiates] at hi
      obtain ⟨⟨content, rfl, hholds⟩, hfound⟩ := hi
      rw [Query.cells, List.append_assoc]
      have hshows := hrecord.shows hholds before (sourcesCells sources (e.record content) ++ after)
      have hposition : (before ++ e.columnCells (e.record content)).length + 1
          = position + e.columnLabels.length := by
        simp only [List.length_append, Entity.columnCells, Entity.columnLabels, List.length_map]
        omega
      have hjoins : ∀ j ∈ joins, ∃ f ∈ e.fields, f.name = j.field ∧ (Provider.join j.plan j.positions).Serves
          (before ++ (e.columnCells (e.record content) ++ (sourcesCells sources (e.record content) ++ after)))
          f (content f) := by
        intro j hj
        obtain ⟨f, hf, hname, c, hc, hserve⟩ := hserves _ _ after hposition hfound j hj
        rw [hrecord.field?_record hf] at hc
        cases hc
        rw [List.append_assoc] at hserve
        exact ⟨f, hf, hname, hserve⟩
      have hrun := hrecord.readable.run_assemble e.typeName e.simpleName e.tableName (hschema.names e he)
        hholds hshows hjoins fun f _ hfilled => hfields ▸ hfilled
      rw [hbefore, ← hrecord.made] at hrun
      exact hrun

-- by induction on the tree: what is left of the columns is handed from one source to the next, and what is cut
-- out for a join is the layout of its query

mutual

theorem Query.plans (hschema : Schema types among) : (q : Query) → ∀ {above : List String} {e : Entity},
    q.Joins among above e → Unmixed (q.layout e) → q.Plans among e
  | ⟨_, _, sources, _, _, _, _, _, _, _, _⟩, above, e, hjoins, hunmixed => by
    rw [Query.Joins] at hjoins
    have hsources : Unmixed (sourcesLayout sources) := by
      rw [Query.layout] at hunmixed
      exact hunmixed.subset (List.subset_append_right _ _)
    exact Query.plans_of_sources hschema hjoins.1 hunmixed
      (sources_plan hschema sources hjoins.2 hsources)

theorem sources_plan (hschema : Schema types among) : (sources : List FromItem) →
    ∀ {above : List String} {e : Entity}, sourcesJoin among above e sources →
      Unmixed (sourcesLayout sources) → sourcesPlan among e sources
  | [], _, _, _, _ => sourcesPlan_nil
  | item :: rest, above, e, hjoins, hunmixed => by
    rw [sourcesJoin] at hjoins
    rw [sourcesLayout] at hunmixed
    exact sourcesPlan_cons
      (item.plans hschema hjoins.1 (hunmixed.subset (List.subset_append_left _ _)))
      (sources_plan hschema rest hjoins.2 (hunmixed.subset (List.subset_append_right _ _)))

theorem FromItem.plans (hschema : Schema types among) : (item : FromItem) →
    ∀ {above : List String} {e : Entity}, item.Joins among above e → Unmixed item.layout →
      item.Plans among e
  | .join ⟨query, kind, some into, condition, shared, alias?⟩, above, e, hjoins, hunmixed => by
    rw [FromItem.Joins] at hjoins
    obtain ⟨hcolumn, ⟨f, hgoes⟩, -, -, hquery⟩ := hjoins
    rw [FromItem.layout] at hunmixed
    have hinside : Unmixed (query.layout into.target) :=
      hunmixed.subset (List.subset_cons_of_subset _ (List.subset_append_left _ _))
    have hstop : ∀ s ∈ query.layout into.target, s.label ≠ into.ownLabel .stop := by
      intro s hs
      cases s with
      | column name =>
        have hcolumn := List.mem_cons_of_mem (.marker .start into)
          (List.mem_append_left [.marker .stop into] hs)
        exact hunmixed _ hcolumn (.marker .stop into) (by simp) rfl rfl
      | marker edge other =>
        intro heq
        exact query.marker_not_above hquery hs (by simp [← heq, Selected.label])
    exact FromItem.plans_join hschema hcolumn hgoes (Query.among_of_joins hquery) hstop
      (query.plans hschema hquery hinside) kind condition shared alias?
  | .join ⟨_, _, none, _, _, _⟩, _, _, _, _ =>
    FromItem.plans_plain (by simp [FromItem.layout]) rfl fun _ => by simp [planSource]
  | .table _, _, _, _, _ =>
    FromItem.plans_plain (by simp [FromItem.layout]) rfl fun _ => by simp [planSource]
  | .query _ _, _, _, _, _ =>
    FromItem.plans_plain (by simp [FromItem.layout]) rfl fun _ => by simp [planSource]

end

theorem mapResult_planned {context : MappingContext} {origin : Origin} {t : ResultTable} {memory : Memory}
    {mapper : Mapper} {step : Naming Plan} {plan : Plan} {names' : Names}
    (hmapper : resolveMapper e origin memory = (.ok mapper, memory))
    (hstep : specialize context mapper t.columns = do return .record (← Mapping.naming step))
    (hplan : step memory.names = (.ok plan, names')) :
    mapResult context e origin t memory
      = (t.rows.mapM (mapRow e (.record plan)), { memory with names := names' }) := by
  rw [mapResult_naming hmapper hstep, Mapping.naming, mapPlanned, Naming.bind_apply, hplan]
  rfl

theorem mapResult_joined {q : Query} (hjoins : q.intoJoins ≠ []) (t : ResultTable) {memory : Memory}
    {names' : Names} {plan : Plan}
    (hplan : planQuery .standard e q t.columns memory.names = (.ok plan, names')) :
    mapResult .standard e (.query q) t memory
      = (t.rows.mapM (mapRow e (.record plan)), { memory with names := names' }) :=
  mapResult_planned (resolveMapper_joined hjoins memory) rfl hplan

theorem mapResult_refused {context : MappingContext} {q : Query} (hjoins : q.intoJoins ≠ []) (t : ResultTable)
    {memory : Memory} {fault : Error}
    (hplan : (planQuery context e q t.columns memory.names).1 = .error fault) :
    (mapResult context e (.query q) t memory).1 = .error fault := by
  rw [mapResult_naming (resolveMapper_joined hjoins memory) rfl, Mapping.naming, mapPlanned, Naming.bind_apply]
  rcases hresult : planQuery context e q t.columns memory.names with ⟨result, names'⟩
  rw [hresult] at hplan
  cases hplan
  rfl

theorem Schema.map_nested (hschema : Schema types among) {q : Query} (hq : q.Joins among [] e)
    (hunmixed : Unmixed (q.layout e)) (hjoins : q.intoJoins ≠ []) {rows : List Instance}
    (hrows : ∀ i ∈ rows, q.Instantiates e i) {memory : Memory} (hnames : memory.names.Faithful among) :
    (mapResult .standard e (.query q) ⟨(q.layout e).map (·.label), rows.map (q.cells e)⟩ memory).1
      = .ok rows := by
  obtain ⟨plan, hplan, hentity, hrun⟩ := q.plans hschema hq hunmixed 1
  obtain ⟨names', hnamed, -⟩ := hplan memory.names hnames
  rw [mapResult_joined hjoins _ hnamed]
  refine mapM_ok fun i hi => ?_
  have hrow := hrun i [] [] rfl (hrows i hi)
  rw [List.nil_append, List.append_nil] at hrow
  rw [mapRow, RowMapper.map, hrow]
  exact if_pos (Query.instanceType_of_instantiates (hschema.records e (Query.among_of_joins hq)) (hrows i hi))

def zone : Entity := Entity.ofFields "app::Zone" "Zone" none
  [{ name := "code", label := "String", holds := .column (.required (.element .text)) }]

def vehicle : Entity := Entity.ofFields "app::Vehicle" "Vehicle" none
  [{ name := "id", label := "i64", holds := .column (.required (.element .int64)) },
    { name := "zone", label := "Option<Zone>", holds := .joined "app::Zone", transient := true }]

def ride : Entity := Entity.ofFields "app::Ride" "Ride" none
  [{ name := "id", label := "i64", holds := .column (.required (.element .int64)) },
    { name := "vehicle", label := "Option<Vehicle>", holds := .joined "app::Vehicle", mutable := true
      transient := true }]

def rideTypes : TypeNames := ⟨[], ("app::" ++ ·)⟩

def rideEntities : List Entity := [ride, vehicle, zone]

theorem rideEntities_schema : Schema rideTypes (· ∈ rideEntities) := by
  apply schema_of_list <;> decide +kernel

def vehicleQuery : Query :=
  vehicle.table.selectAll.addJoin .left (zone.table.selectAll.intoField (vehicle.table.column "zone") zone)

def rideQuery : Query :=
  ride.table.selectAll.addJoin .left (vehicleQuery.intoField (ride.table.column "vehicle") vehicle)

theorem rideQuery_joins : rideQuery.Joins (· ∈ rideEntities) [] ride := by
  have hmem : ride ∈ rideEntities ∧ vehicle ∈ rideEntities ∧ zone ∈ rideEntities := by decide +kernel
  obtain ⟨hride, hvehicle, hzone⟩ := hmem
  have hinner : vehicleQuery.Joins (· ∈ rideEntities) ["start:vehicle", "end:vehicle"] vehicle :=
    ⟨hvehicle, trivial, ⟨hvehicle, ⟨_, List.mem_cons_of_mem _ List.mem_cons_self, rfl, rfl, rfl⟩,
      by decide +kernel, by decide +kernel, hzone, trivial, trivial⟩, trivial⟩
  exact ⟨hride, trivial, ⟨hride, ⟨_, List.mem_cons_of_mem _ List.mem_cons_self, rfl, rfl, rfl⟩,
    by decide +kernel, by decide +kernel, hinner⟩, trivial⟩

def zoneOf (code : String) : Instance := zone.record fun _ => .value (.text code)

def vehicleOf (id : Int64) (found : Option Instance) : Instance :=
  vehicle.record fun f => if f.name = "id" then .value (.int id) else .joined found

def rideOf (id : Int64) (found : Option Instance) : Instance :=
  ride.record fun f => if f.name = "id" then .value (.int id) else .joined found

theorem hasInstance_linked {e : Entity} {id link : Field} (hfields : e.fields = [id, link])
    (hname : id.name = "id") (hholds : id.holds = .column (.required (.element .int64)))
    (hid : id.transient = false) (hlink : link.transient = true) {filled : String → Prop}
    (hfilled : filled link.name) (number : Int64) (found : Option Instance) :
    e.HasInstance filled
      (e.record fun f => if f.name = "id" then .value (.int number) else .joined found) := by
  have hstored : stored e.fields = [id] := by simp [hfields, stored, hid, hlink]
  refine ⟨_, rfl, ?_, ?_⟩
  · rw [hstored]
    refine List.forall_mem_cons.mpr ⟨⟨.required (.element .int64), number, hholds, ?_⟩, ?_⟩
    · rw [if_pos hname]
      rfl
    · exact fun f hf => absurd hf List.not_mem_nil
  · rw [hfields]
    refine List.forall_mem_cons.mpr ⟨fun h => ?_, List.forall_mem_cons.mpr ⟨fun _ h => absurd hfilled h, ?_⟩⟩
    · rw [hid] at h
      cases h
    · exact fun f hf => absurd hf List.not_mem_nil

theorem zoneOf_instantiates (code : String) : zone.table.selectAll.Instantiates zone (zoneOf code) := by
  refine ⟨⟨_, rfl, ?_, ?_⟩, trivial, trivial⟩
  · refine List.forall_mem_cons.mpr ⟨⟨.required (.element .text), code, rfl, rfl⟩, ?_⟩
    exact fun f hf => absurd hf List.not_mem_nil
  · refine List.forall_mem_cons.mpr ⟨fun h => (nomatch h), ?_⟩
    exact fun f hf => absurd hf List.not_mem_nil

theorem vehicleOf_instantiates (id : Int64) {found : Option Instance}
    (h : ∀ i ∈ found, ∃ code, i = zoneOf code) : vehicleQuery.Instantiates vehicle (vehicleOf id found) := by
  refine ⟨hasInstance_linked rfl rfl rfl rfl rfl ?_ id found, trivial, ?_, trivial⟩
  · exact List.mem_cons_self
  · cases found with
    | none => exact .inl rfl
    | some i =>
      obtain ⟨code, rfl⟩ := h i rfl
      exact .inr ⟨zoneOf code, rfl, zoneOf_instantiates code, .text code, List.mem_cons_self, nofun⟩

theorem rideOf_instantiates (id : Int64) {found : Option Instance}
    (h : ∀ i ∈ found, ∃ inner other, i = vehicleOf inner other ∧ vehicleQuery.Instantiates vehicle i) :
    rideQuery.Instantiates ride (rideOf id found) := by
  refine ⟨hasInstance_linked rfl rfl rfl rfl rfl ?_ id found, trivial, ?_, trivial⟩
  · exact List.mem_cons_self
  · cases found with
    | none => exact .inl rfl
    | some i =>
      obtain ⟨inner, other, rfl, hvehicle⟩ := h i rfl
      exact .inr ⟨vehicleOf inner other, rfl, hvehicle, .int inner, List.mem_cons_self, nofun⟩

theorem Schema.map_nested_rides :
    (mapResult .standard ride (.query rideQuery)
      ⟨["id", "start:vehicle", "id", "start:zone", "code", "end:zone", "end:vehicle"],
        [[.int 1, .null, .int 7, .null, .text "north", .null, .null],
          [.int 2, .null, .int 8, .null, .null, .null, .null],
          [.int 3, .null, .null, .null, .null, .null, .null]]⟩ {}).1
      = .ok [rideOf 1 (some (vehicleOf 7 (some (zoneOf "north")))), rideOf 2 (some (vehicleOf 8 none)),
          rideOf 3 none] := by
  have hfull : vehicleQuery.Instantiates vehicle (vehicleOf 7 (some (zoneOf "north"))) :=
    vehicleOf_instantiates 7 fun i hi => ⟨"north", (Option.some.inj hi).symm⟩
  have hempty : vehicleQuery.Instantiates vehicle (vehicleOf 8 none) := vehicleOf_instantiates 8 nofun
  have hrides : ∀ i ∈ [rideOf 1 (some (vehicleOf 7 (some (zoneOf "north")))),
      rideOf 2 (some (vehicleOf 8 none)), rideOf 3 none], rideQuery.Instantiates ride i := by
    refine List.forall_mem_cons.mpr ⟨?_, List.forall_mem_cons.mpr ⟨?_, List.forall_mem_cons.mpr ⟨?_, ?_⟩⟩⟩
    · exact rideOf_instantiates 1 fun i hi => Option.some.inj hi ▸ ⟨7, _, rfl, hfull⟩
    · exact rideOf_instantiates 2 fun i hi => Option.some.inj hi ▸ ⟨8, _, rfl, hempty⟩
    · exact rideOf_instantiates 3 nofun
    · exact fun i hi => absurd hi List.not_mem_nil
  have hjoins : rideQuery.intoJoins ≠ [] := List.cons_ne_nil _ _
  have hunmixed : Unmixed (rideQuery.layout ride) := by
    unfold Unmixed
    decide +kernel
  exact rideEntities_schema.map_nested rideQuery_joins hunmixed hjoins hrides (Names.faithful_empty _)

end RelationalMapping
