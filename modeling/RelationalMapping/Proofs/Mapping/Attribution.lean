import Mathlib.Logic.Relation
import RelationalMapping.Proofs.Mapping.Faults
import RelationalMapping.Proofs.Mapping.Kept
import RelationalMapping.Proofs.Mapping.NestedRows

namespace RelationalMapping

section Results

variable {ε δ α β : Type}

theorem bind_eq_error_iff {x : Except ε α} {f : α → Except ε β} {fault : ε} :
    (x >>= f) = .error fault ↔ x = .error fault ∨ ∃ a, x = .ok a ∧ f a = .error fault := by
  cases x <;> simp [bind, Except.bind]

theorem mapError_eq_error_iff {x : Except ε α} {f : ε → δ} {fault : δ} :
    x.mapError f = .error fault ↔ ∃ cause, x = .error cause ∧ f cause = fault := by
  cases x <;> simp [Except.mapError]

theorem mapM_eq_error_iff {f : α → Except ε β} {items : List α} {fault : ε} :
    items.mapM f = .error fault ↔ ∃ before item after built, items = before ++ item :: after
      ∧ List.Forall₂ (fun a b => f a = .ok b) before built ∧ f item = .error fault := by
  induction items with
  | nil => simp [pure, Except.pure]
  | cons a rest ih =>
    rw [List.mapM_cons, bind_eq_error_iff]
    constructor
    · rintro (hfirst | ⟨b, hb, hrest⟩)
      · exact ⟨[], a, rest, [], rfl, .nil, hfirst⟩
      · rcases bind_eq_error_iff.mp hrest with hrest | ⟨bs, -, hpure⟩
        · obtain ⟨before, item, after, built, rfl, hbuilt, hitem⟩ := ih.mp hrest
          exact ⟨a :: before, item, after, b :: built, rfl, .cons hb hbuilt, hitem⟩
        · cases hpure
    · rintro ⟨before, item, after, built, hitems, hbuilt, hitem⟩
      cases hbuilt with
      | nil =>
        cases hitems
        exact .inl hitem
      | cons hfirst hothers =>
        cases hitems
        have hrest := ih.mpr ⟨_, item, after, _, rfl, hothers, hitem⟩
        exact .inr ⟨_, hfirst, bind_eq_error_iff.mpr (.inl hrest)⟩

theorem foldlM_eq_error_iff {f : β → α → Except ε β} {items : List α} {start : β} {fault : ε} :
    items.foldlM f start = .error fault ↔ ∃ before item after reached, items = before ++ item :: after
      ∧ List.foldlM f start before = .ok reached ∧ f reached item = .error fault := by
  induction items generalizing start with
  | nil => simp [pure, Except.pure]
  | cons a rest ih =>
    rw [List.foldlM_cons, bind_eq_error_iff]
    constructor
    · rintro (hfirst | ⟨b, hb, hrest⟩)
      · exact ⟨[], a, rest, start, rfl, rfl, hfirst⟩
      · obtain ⟨before, item, after, reached, rfl, hbefore, hitem⟩ := ih.mp hrest
        refine ⟨a :: before, item, after, reached, rfl, ?_, hitem⟩
        rw [List.foldlM_cons, hb]
        exact hbefore
    · rintro ⟨before, item, after, reached, hitems, hbefore, hitem⟩
      cases before with
      | nil =>
        cases hitems
        cases hbefore
        exact .inl hitem
      | cons c before =>
        cases hitems
        rw [List.foldlM_cons] at hbefore
        obtain ⟨b, hb, hbefore⟩ := bind_eq_ok_iff.mp hbefore
        exact .inr ⟨b, hb, ih.mpr ⟨before, item, after, reached, rfl, hbefore, hitem⟩⟩

end Results

def Error.Attributed (fault : Error) : Prop := fault.kind = "Mapping" ∨ fault.kind = "Configuration"

theorem Error.attributed_within (entity : String) (cause : Error) : (cause.within entity).Attributed := by
  cases cause with
  | declaration d => exact .inr rfl
  | _ => exact .inl rfl

theorem Error.Attributed.within_eq {fault : Error} (h : fault.Attributed) (entity : String) :
    fault.within entity = fault := by
  cases fault with
  | declaration d => rfl
  | mapping named reason => rfl
  | _ => simp [Attributed, kind] at h

variable {row : Row}

def provideStep (row : Row) (entity : String) (args : Arguments) (x : Filling) : Except Error Arguments := do
  let a ← (x.provider.provide row).mapError (.within entity)
  return args.insert x.field a

def assignStep (row : Row) (entity : Entity) (i : Instance) (x : Filling) : Except Error Instance := do
  let a ← (x.provider.provide row).mapError (.within entity.simpleName)
  (entity.assign i x.field a).mapError (.within entity.simpleName)

theorem provideAll_eq_foldlM (entity : String) (fillings : List Filling) (args : Arguments) :
    provideAll row entity fillings args = fillings.foldlM (provideStep row entity) args := by
  induction fillings generalizing args with
  | nil =>
    rw [provideAll]
    rfl
  | cons x rest ih =>
    obtain ⟨field, provider⟩ := x
    rw [provideAll, List.foldlM_cons, provideStep, bind_assoc]
    exact bind_congr fun a => ih _

theorem assignAll_eq_foldlM (entity : Entity) (fillings : List Filling) (i : Instance) :
    assignAll row entity fillings i = fillings.foldlM (assignStep row entity) i := by
  induction fillings generalizing i with
  | nil =>
    rw [assignAll]
    rfl
  | cons x rest ih =>
    obtain ⟨field, provider⟩ := x
    rw [assignAll, List.foldlM_cons, assignStep, bind_assoc]
    exact bind_congr fun a => bind_congr fun assigned => ih _

theorem provideStep_eq_error_iff {entity : String} {args : Arguments} {x : Filling} {fault : Error} :
    provideStep row entity args x = .error fault
      ↔ ∃ cause, x.provider.provide row = .error cause ∧ cause.within entity = fault := by
  rw [provideStep, bind_eq_error_iff, mapError_eq_error_iff]
  exact or_iff_left (by rintro ⟨a, -, hpure⟩; cases hpure)

theorem assignStep_eq_error_iff {entity : Entity} {i : Instance} {x : Filling} {fault : Error} :
    assignStep row entity i x = .error fault
      ↔ ∃ cause, (x.provider.provide row = .error cause
          ∨ ∃ a, x.provider.provide row = .ok a ∧ entity.assign i x.field a = .error cause)
        ∧ cause.within entity.simpleName = fault := by
  rw [assignStep, bind_eq_error_iff]
  simp only [mapError_eq_error_iff, mapError_eq_ok_iff]
  constructor
  · rintro (⟨cause, hcause, rfl⟩ | ⟨a, ha, cause, hcause, rfl⟩)
    · exact ⟨cause, .inl hcause, rfl⟩
    · exact ⟨cause, .inr ⟨a, ha, hcause⟩, rfl⟩
  · rintro ⟨cause, hcause | ⟨a, ha, hcause⟩, rfl⟩
    · exact .inl ⟨cause, hcause, rfl⟩
    · exact .inr ⟨a, ha, cause, hcause, rfl⟩

namespace Plan

def Provides (row : Row) (plan : Plan) (args : Arguments) : Prop :=
  provideAll row plan.entity.simpleName plan.parameters (.empty plan.entity.simpleName) = .ok args

def Assigns (row : Row) (plan : Plan) (x : Filling) (i : Instance) : Prop :=
  ∃ args built rest before after, plan.Provides row args ∧ plan.entity.instantiate args = .ok (built, rest)
    ∧ plan.properties = before ++ x :: after ∧ assignAll row plan.entity before built = .ok i

def Fills (row : Row) (plan : Plan) (x : Filling) : Prop :=
  (∃ args before after, plan.parameters = before ++ x :: after
      ∧ provideAll row plan.entity.simpleName before (.empty plan.entity.simpleName) = .ok args)
    ∨ ∃ i, plan.Assigns row x i

def Joins (row : Row) (plan inner : Plan) : Prop :=
  ∃ x positions, plan.Fills row x ∧ x.provider = .join inner positions ∧ row.isVacant positions = false

/-- A run of the plan gets to build what the other plan is for: the instance itself, or one of a join at any depth. -/
def Builds (row : Row) : Plan → Plan → Prop := Relation.ReflTransGen (Joins row)

/-- What the run of the plan does itself fails: it cannot read a column, hold a joined instance, build its own or
assign a property. -/
inductive Raises (row : Row) (plan : Plan) : Error → Prop
  | column {x : Filling} {position : Nat} {codec : Codec} {cause : Error} (hx : plan.Fills row x)
      (hprovider : x.provider = .column position codec) (hdecode : codec.decode (row.cell? position) = .error cause) :
      plan.Raises row cause
  | hold {x : Filling} {inner : Plan} {positions : List Nat} {i : Instance} {cause : Error} (hx : plan.Fills row x)
      (hprovider : x.provider = .join inner positions) (hpresent : row.isVacant positions = false)
      (hrun : inner.run row = .ok i) (hwrap : inner.entity.wrap i = .error cause) : plan.Raises row cause
  | construct {args : Arguments} {cause : Error} (hargs : plan.Provides row args)
      (hbuild : plan.entity.instantiate args = .error cause) : plan.Raises row cause
  | assign {x : Filling} {i : Instance} {a : Argument} {cause : Error} (hx : plan.Assigns row x i)
      (ha : x.provider.provide row = .ok a) (hassign : plan.entity.assign i x.field a = .error cause) :
      plan.Raises row cause

variable {plan inner : Plan} {fault : Error}

theorem run_eq (row : Row) (plan : Plan) :
    plan.run row = (do
      let args ← provideAll row plan.entity.simpleName plan.parameters (.empty plan.entity.simpleName)
      let made ← (plan.entity.instantiate args).mapError (.within plan.entity.simpleName)
      assignAll row plan.entity plan.properties made.1) := by
  obtain ⟨entity, parameters, properties⟩ := plan
  rw [run]

theorem run_of_provides {args : Arguments} (hargs : plan.Provides row args) :
    plan.run row = (do
      let made ← (plan.entity.instantiate args).mapError (.within plan.entity.simpleName)
      assignAll row plan.entity plan.properties made.1) := by
  rw [run_eq, show provideAll row _ _ _ = .ok args from hargs]
  rfl

theorem run_of_assigns {x : Filling} {i : Instance} {fault : Error} (hx : plan.Assigns row x i)
    (hstep : assignStep row plan.entity i x = .error fault) : plan.run row = .error fault := by
  obtain ⟨args, built, rest, before, after, hargs, hbuilt, hplace, hi⟩ := hx
  rw [assignAll_eq_foldlM] at hi
  rw [run_of_provides hargs, hbuilt]
  change assignAll row plan.entity plan.properties built = .error fault
  rw [assignAll_eq_foldlM]
  exact foldlM_eq_error_iff.mpr ⟨before, x, after, i, hplace, hi, hstep⟩

theorem run_of_fills {x : Filling} {cause : Error} (hx : plan.Fills row x)
    (hcause : x.provider.provide row = .error cause) :
    plan.run row = .error (cause.within plan.entity.simpleName) := by
  rcases hx with ⟨args, before, after, hplace, hbefore⟩ | ⟨i, hassigns⟩
  · have hparameters : provideAll row plan.entity.simpleName plan.parameters (.empty plan.entity.simpleName)
        = .error (cause.within plan.entity.simpleName) := by
      rw [provideAll_eq_foldlM] at hbefore ⊢
      exact foldlM_eq_error_iff.mpr
        ⟨before, x, after, args, hplace, hbefore, provideStep_eq_error_iff.mpr ⟨cause, hcause, rfl⟩⟩
    rw [run_eq, hparameters]
    rfl
  · exact run_of_assigns hassigns (assignStep_eq_error_iff.mpr ⟨cause, .inl hcause, rfl⟩)

theorem run_of_raises {cause : Error} (h : plan.Raises row cause) :
    plan.run row = .error (cause.within plan.entity.simpleName) := by
  cases h with
  | column hx hprovider hdecode =>
    refine run_of_fills hx ?_
    rw [hprovider, Provider.provide, hdecode]
    rfl
  | hold hx hprovider hpresent hrun hwrap =>
    refine run_of_fills hx ?_
    rw [hprovider, Provider.provide, hpresent, if_neg (by decide), hrun]
    exact hwrap
  | construct hargs hbuild =>
    rw [run_of_provides hargs, hbuild]
    rfl
  | assign hx ha hassign =>
    exact run_of_assigns hx (assignStep_eq_error_iff.mpr ⟨cause, .inr ⟨_, ha, hassign⟩, rfl⟩)

theorem exists_of_run_eq_error (h : plan.run row = .error fault) :
    (∃ cause, plan.Raises row cause ∧ fault = cause.within plan.entity.simpleName)
      ∨ ∃ inner cause, plan.Joins row inner ∧ inner.run row = .error cause
        ∧ fault = cause.within plan.entity.simpleName := by
  have hfilled : ∀ x cause, plan.Fills row x → x.provider.provide row = .error cause →
      fault = cause.within plan.entity.simpleName →
      (∃ cause, plan.Raises row cause ∧ fault = cause.within plan.entity.simpleName)
        ∨ ∃ inner cause, plan.Joins row inner ∧ inner.run row = .error cause
          ∧ fault = cause.within plan.entity.simpleName := by
    intro x cause hx hcause hfault
    cases hprovider : x.provider with
    | null =>
      rw [hprovider, Provider.provide] at hcause
      cases hcause
    | column position codec =>
      rw [hprovider, Provider.provide] at hcause
      cases hdecode : codec.decode (row.cell? position) with
      | ok v =>
        rw [hdecode] at hcause
        cases hcause
      | error raised =>
        rw [hdecode] at hcause
        cases hcause
        exact .inl ⟨cause, .column hx hprovider hdecode, hfault⟩
    | join inner positions =>
      cases hvacant : row.isVacant positions with
      | true =>
        rw [hprovider, Provider.provide, hvacant, if_pos rfl] at hcause
        cases hcause
      | false =>
        rw [hprovider, Provider.provide, hvacant, if_neg (by decide)] at hcause
        rcases bind_eq_error_iff.mp hcause with hrun | ⟨i, hrun, hwrap⟩
        · exact .inr ⟨inner, cause, ⟨x, positions, hx, hprovider, hvacant⟩, hrun, hfault⟩
        · exact .inl ⟨cause, .hold hx hprovider hvacant hrun hwrap, hfault⟩
  rw [run_eq] at h
  rcases bind_eq_error_iff.mp h with hparameters | ⟨args, hargs, h⟩
  · rw [provideAll_eq_foldlM] at hparameters
    obtain ⟨before, x, after, reached, hplace, hbefore, hx⟩ := foldlM_eq_error_iff.mp hparameters
    obtain ⟨cause, hcause, rfl⟩ := provideStep_eq_error_iff.mp hx
    rw [← provideAll_eq_foldlM] at hbefore
    exact hfilled x cause (.inl ⟨reached, before, after, hplace, hbefore⟩) hcause rfl
  rcases bind_eq_error_iff.mp h with hbuild | ⟨⟨built, rest⟩, hbuilt, hproperties⟩
  · obtain ⟨cause, hcause, rfl⟩ := mapError_eq_error_iff.mp hbuild
    exact .inl ⟨cause, .construct hargs hcause, rfl⟩
  · rw [assignAll_eq_foldlM] at hproperties
    obtain ⟨before, x, after, reached, hplace, hbefore, hx⟩ := foldlM_eq_error_iff.mp hproperties
    rw [← assignAll_eq_foldlM] at hbefore
    have hassigns : plan.Assigns row x reached :=
      ⟨args, built, rest, before, after, hargs, mapError_eq_ok_iff.mp hbuilt, hplace, hbefore⟩
    obtain ⟨cause, hcause | ⟨a, ha, hcause⟩, rfl⟩ := assignStep_eq_error_iff.mp hx
    · exact hfilled x cause (.inr ⟨reached, hassigns⟩) hcause rfl
    · exact .inl ⟨cause, .assign hassigns ha hcause, rfl⟩

theorem attributed_run (h : plan.run row = .error fault) : fault.Attributed := by
  obtain ⟨cause, -, rfl⟩ | ⟨inner, cause, -, -, rfl⟩ := exists_of_run_eq_error h
  all_goals exact Error.attributed_within _ _

theorem Builds.run_eq_error (h : plan.Builds row inner) (hrun : inner.run row = .error fault) :
    plan.run row = .error fault := by
  induction h using Relation.ReflTransGen.head_induction_on with
  | refl => exact hrun
  | head hjoins _ ih =>
    obtain ⟨x, positions, hx, hprovider, hpresent⟩ := hjoins
    rw [← (attributed_run ih).within_eq]
    refine run_of_fills hx ?_
    rw [hprovider, Provider.provide, hpresent, if_neg (by decide), ih]
    rfl

theorem sizeOf_lt_of_joins (h : plan.Joins row inner) : sizeOf inner < sizeOf plan := by
  obtain ⟨x, positions, hx, hprovider, -⟩ := h
  have hmem : x ∈ plan.parameters ∨ x ∈ plan.properties := by
    rcases hx with ⟨args, before, after, hplace, -⟩ | ⟨i, args, built, rest, before, after, -, -, hplace, -⟩
    · exact .inl (by simp [hplace])
    · exact .inr (by simp [hplace])
  obtain ⟨entity, parameters, properties⟩ := plan
  obtain ⟨field, provider⟩ := x
  cases hprovider
  rcases hmem with hmem | hmem
  all_goals
    have hsize := List.sizeOf_lt_of_mem hmem
    simp only [Plan.mk.sizeOf_spec, Filling.mk.sizeOf_spec, Provider.join.sizeOf_spec] at hsize ⊢
    omega

theorem exists_builds (plan : Plan) {fault : Error} (h : plan.run row = .error fault) :
    ∃ inner cause, plan.Builds row inner ∧ inner.Raises row cause ∧ fault = cause.within inner.entity.simpleName := by
  rcases exists_of_run_eq_error h with ⟨cause, hraises, hfault⟩ | ⟨next, cause, hjoins, hrun, hfault⟩
  · exact ⟨plan, cause, .refl, hraises, hfault⟩
  · have hsize : sizeOf next < sizeOf plan := sizeOf_lt_of_joins hjoins
    obtain ⟨inner, raised, hbuilds, hraises, hcause⟩ := exists_builds next hrun
    exact ⟨inner, raised, .head hjoins hbuilds, hraises, by rw [hfault, (attributed_run hrun).within_eq, hcause]⟩
termination_by sizeOf plan

end Plan

def Naming.FailsWith {α : Type} (post : Error → Prop) (x : Naming α) : Prop :=
  ∀ names, RelationalMapping.FailsWith post (x names).1

section Planning

variable {α β : Type} {post : Error → Prop}

theorem Naming.failsWith_pure (a : α) : Naming.FailsWith post (pure a : Naming α) := fun _ => failsWith_ok a

theorem Naming.FailsWith.bind {x : Naming α} {f : α → Naming β} (hx : x.FailsWith post) (hf : ∀ a, (f a).FailsWith post) :
    (x >>= f).FailsWith post := by
  intro names fault h
  rw [Naming.bind_apply] at h
  rcases hresult : x names with ⟨other | a, between⟩
  · rw [hresult] at h
    cases h
    exact hx names fault (by rw [hresult])
  · rw [hresult] at h
    exact hf a between fault h

theorem takeJoin_failsWith (e : Entity) (into : IntoField) (columns : List ColumnLabel) :
    (takeJoin e into columns).FailsWith Error.Attributed := by
  have hmarker : ∀ edge, (Naming.marker edge into).FailsWith Error.Attributed := fun edge names => failsWith_ok _
  refine (hmarker .start).bind fun start => (hmarker .stop).bind fun stop => ?_
  split
  · exact Naming.failsWith_pure _
  · exact fun names => failsWith_error (.inl rfl)

-- by induction on the query: the plan of a join is the plan of its query

mutual

theorem planQuery_failsWith (context : MappingContext) (e : Entity) : (q : Query) → (columns : List ColumnLabel) →
    (planQuery context e q columns).FailsWith Error.Attributed
  | ⟨_, _, sources, _, _, _, _, _, _, _, _⟩, columns => by
    rw [planQuery]
    exact (planSources_failsWith context e sources columns).bind fun _ => Naming.failsWith_pure _

theorem planSources_failsWith (context : MappingContext) (e : Entity) : (sources : List FromItem) →
    (columns : List ColumnLabel) → (planSources context e sources columns).FailsWith Error.Attributed
  | [], columns => by
    rw [planSources]
    exact Naming.failsWith_pure _
  | item :: rest, columns => by
    rw [planSources]
    refine (planSource_failsWith context e item columns).bind fun first => ?_
    exact (planSources_failsWith context e rest first.2).bind fun _ => Naming.failsWith_pure _

theorem planSource_failsWith (context : MappingContext) (e : Entity) : (item : FromItem) →
    (columns : List ColumnLabel) → (planSource context e item columns).FailsWith Error.Attributed
  | .join ⟨query, _, some into, _, _, _⟩, columns => by
    rw [planSource]
    refine (takeJoin_failsWith e into columns).bind fun cut => ?_
    exact (planQuery_failsWith context into.target query cut.1).bind fun _ => Naming.failsWith_pure _
  | .join ⟨_, _, none, _, _, _⟩, columns => by
    rw [planSource]
    · exact Naming.failsWith_pure _
    · simp
  | .table _, columns => by
    rw [planSource]
    · exact Naming.failsWith_pure _
    · simp
  | .query _ _, columns => by
    rw [planSource]
    · exact Naming.failsWith_pure _
    · simp

end

theorem planReturned_failsWith (context : MappingContext) (e : Entity) (into : List IntoField)
    (columns : List ColumnLabel) : (planReturned context e into columns).FailsWith Error.Attributed := by
  induction into generalizing columns with
  | nil => exact Naming.failsWith_pure _
  | cons first others ih =>
    refine (takeJoin_failsWith e first columns).bind fun cut => ?_
    exact (ih cut.2).bind fun _ => Naming.failsWith_pure _

theorem planUpdate_failsWith (context : MappingContext) (e : Entity) (into : List IntoField)
    (columns : List ColumnLabel) : (planUpdate context e into columns).FailsWith Error.Attributed :=
  (planReturned_failsWith context e into columns).bind fun _ => Naming.failsWith_pure _

end Planning

def planResult (context : MappingContext) (e : Entity) (origin : Origin) (columns : List ColumnLabel) :
    Mapping RowMapper := do
  let mapper ← resolveMapper e origin
  specialize context mapper columns

section Mapped

variable {context : MappingContext} {e : Entity} {origin : Origin} {memory memory' : Memory}

theorem mapResult_eq (t : ResultTable) :
    mapResult context e origin t = (do
      let rows ← planResult context e origin t.columns
      ExceptT.mk (pure (t.rows.mapM (mapRow e rows)))) := by
  rw [mapResult, planResult, bind_assoc]

theorem mapResult_of_planResult {t : ResultTable} {rows : RowMapper}
    (h : planResult context e origin t.columns memory = (.ok rows, memory')) :
    mapResult context e origin t memory = (t.rows.mapM (mapRow e rows), memory') := by
  rw [mapResult_eq, Mapping.bind_of_ok h]
  rfl

theorem Mapping.naming_failsWith {α : Type} {step : Naming α} (h : step.FailsWith Error.Attributed) (memory : Memory) :
    FailsWith Error.Attributed (Mapping.naming step memory).1 := h memory.names

theorem specialize_failsWith (context : MappingContext) (mapper : Mapper) (columns : List ColumnLabel)
    (memory : Memory) : FailsWith Error.Attributed (specialize context mapper columns memory).1 := by
  have hrecord : ∀ step : Naming Plan, step.FailsWith Error.Attributed →
      FailsWith Error.Attributed ((do return RowMapper.record (← Mapping.naming step) : Mapping RowMapper) memory).1 := by
    intro step hstep
    rcases hresult : Mapping.naming step memory with ⟨fault | plan, after⟩
    · rw [Mapping.bind_of_error hresult]
      exact failsWith_error (Mapping.naming_failsWith hstep memory fault (by rw [hresult]))
    · rw [Mapping.bind_of_ok hresult]
      exact failsWith_ok _
  cases mapper with
  | joinedQuery e q => exact hrecord _ (planQuery_failsWith context e q columns)
  | joinedUpdate e into => exact hrecord _ (planUpdate_failsWith context e into columns)
  | kept typeName e =>
    cases hshape : e.shape with
    | enumeration variants =>
      simp only [specialize, hshape]
      exact failsWith_ok _
    | record =>
      simp only [specialize, hshape]
      exact failsWith_ok _

theorem exists_resolveMapper (e : Entity) (origin : Origin) (memory : Memory) :
    ∃ mapper memory', resolveMapper e origin memory = (.ok mapper, memory') := by
  unfold resolveMapper
  cases origin with
  | unknown => exact ⟨_, _, rfl⟩
  | query q =>
    dsimp only
    split <;> exact ⟨_, _, rfl⟩
  | update u =>
    dsimp only
    split
    · exact ⟨_, _, rfl⟩
    · split <;> exact ⟨_, _, rfl⟩

theorem planResult_failsWith (context : MappingContext) (e : Entity) (origin : Origin) (columns : List ColumnLabel)
    (memory : Memory) : FailsWith Error.Attributed (planResult context e origin columns memory).1 := by
  obtain ⟨mapper, between, hmapper⟩ := exists_resolveMapper e origin memory
  rw [planResult, Mapping.bind_of_ok hmapper]
  exact specialize_failsWith context mapper columns between

end Mapped

theorem mapRow_record_eq_error_iff {e : Entity} {plan : Plan} {fault : Error} :
    mapRow e (.record plan) row = .error fault ↔ plan.run row = .error fault
      ∨ ∃ i, plan.run row = .ok i ∧ i.instanceType ≠ e.instanceType ∧ fault = .mapping e.simpleName .unexpectedRow := by
  rw [mapRow, bind_eq_error_iff, RowMapper.map]
  refine or_congr_right (exists_congr fun i => and_congr_right fun _ => ?_)
  split
  · rename_i htype
    simp [htype]
  · rename_i htype
    simp [htype, eq_comm]

theorem mapRow_failsWith (e : Entity) (rows : RowMapper) (row : Row) :
    FailsWith Error.Attributed (mapRow e rows row) := by
  cases rows with
  | record plan =>
    intro fault h
    rcases mapRow_record_eq_error_iff.mp h with hrun | ⟨i, -, -, rfl⟩
    · exact Plan.attributed_run hrun
    · exact .inl rfl
  | enumeration shown codec =>
    refine FailsWith.bind (fun fault h => ?_) fun i _ => ?_
    · obtain ⟨cause, -, rfl⟩ := mapError_eq_error_iff.mp h
      exact Error.attributed_within _ _
    · split
      · exact failsWith_ok _
      · exact failsWith_error (.inl rfl)

structure Plan.Reports (e : Entity) (plan : Plan) (row : Row) : Prop where
  unchanged : ∀ inner fault, plan.Builds row inner → inner.run row = .error fault →
    mapRow e (.record plan) row = .error fault
  once : ∀ inner expected found, plan.Builds row inner → inner.Raises row (.mismatch expected found) →
    mapRow e (.record plan) row = .error (.mapping inner.entity.simpleName (.caused (.mismatch expected found)))
  named : ∀ fault, mapRow e (.record plan) row = .error fault → fault = .mapping e.simpleName .unexpectedRow
    ∨ ∃ inner cause, plan.Builds row inner ∧ inner.Raises row cause ∧ fault = cause.within inner.entity.simpleName

theorem Plan.reports (e : Entity) (plan : Plan) (row : Row) : plan.Reports e row where
  unchanged _ _ hbuilds hrun := mapRow_record_eq_error_iff.mpr (.inl (hbuilds.run_eq_error hrun))
  once _ _ _ hbuilds hraises := mapRow_record_eq_error_iff.mpr (.inl (hbuilds.run_eq_error (run_of_raises hraises)))
  named _ h := by
    rcases mapRow_record_eq_error_iff.mp h with hrun | ⟨i, -, -, rfl⟩
    · exact .inr (plan.exists_builds hrun)
    · exact .inl rfl

theorem mapResult_attributed (context : MappingContext) (e : Entity) (origin : Origin) (t : ResultTable)
    (memory : Memory) :
    (∃ fault memory', planResult context e origin t.columns memory = (.error fault, memory')
        ∧ mapResult context e origin t memory = (.error fault, memory') ∧ fault.Attributed)
      ∨ ∃ rows memory', planResult context e origin t.columns memory = (.ok rows, memory')
        ∧ ((∃ is, mapResult context e origin t memory = (.ok is, memory')
            ∧ List.Forall₂ (fun row i => mapRow e rows row = .ok i) t.rows is)
          ∨ ∃ before row after built fault, t.rows = before ++ row :: after
            ∧ List.Forall₂ (fun row i => mapRow e rows row = .ok i) before built ∧ mapRow e rows row = .error fault
            ∧ mapResult context e origin t memory = (.error fault, memory') ∧ fault.Attributed)
        ∧ ∀ plan, rows = .record plan → ∀ row, plan.Reports e row := by
  rcases hplan : planResult context e origin t.columns memory with ⟨fault | rows, memory'⟩
  · refine .inl ⟨fault, memory', rfl, ?_, ?_⟩
    · rw [mapResult_eq, Mapping.bind_of_error hplan]
    · exact planResult_failsWith context e origin t.columns memory fault (by rw [hplan])
  · refine .inr ⟨rows, memory', rfl, ?_, fun plan _ row => plan.reports e row⟩
    rw [mapResult_of_planResult hplan]
    cases hmapped : t.rows.mapM (mapRow e rows) with
    | ok is => exact .inl ⟨is, rfl, mapM_eq_ok_iff.mp hmapped⟩
    | error fault =>
      obtain ⟨before, row, after, built, hrows, hbuilt, hrow⟩ := mapM_eq_error_iff.mp hmapped
      exact .inr ⟨before, row, after, built, fault, hrows, hbuilt, hrow, rfl, mapRow_failsWith e rows row fault hrow⟩

example :
    (mapResult .standard ride (.query rideQuery)
      ⟨["id", "start:vehicle", "id", "start:zone", "code", "end:zone", "end:vehicle"],
        [[.int 1, .null, .int 7, .null, .int 3, .null, .null]]⟩ {}).1
      = .error (.mapping "Zone" (.caused (.mismatch "alloc::string::String" (.kind "int")))) := rfl

end RelationalMapping
