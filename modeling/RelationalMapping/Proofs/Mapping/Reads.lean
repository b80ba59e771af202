import RelationalMapping.Proofs.Mapping.Outcome

namespace RelationalMapping

def Plan.fillings (plan : Plan) : List Filling := plan.parameters ++ plan.properties

inductive Use where
  | column
  | vacancy

inductive Plan.Reads : Plan → Use → Nat → Prop
  | column {plan : Plan} {x : Filling} {position : Nat} {codec : Codec} (hx : x ∈ plan.fillings)
      (hprovider : x.provider = .column position codec) : plan.Reads .column position
  | vacancy {plan inner : Plan} {x : Filling} {positions : List Nat} {position : Nat}
      (hx : x ∈ plan.fillings) (hprovider : x.provider = .join inner positions)
      (hposition : position ∈ positions) : plan.Reads .vacancy position
  | joined {plan inner : Plan} {x : Filling} {positions : List Nat} {use : Use} {position : Nat}
      (hx : x ∈ plan.fillings) (hprovider : x.provider = .join inner positions)
      (hinner : inner.Reads use position) : plan.Reads use position

section Agreeing

variable {row other : Row}

theorem Row.isVacant_congr {positions : List Nat}
    (h : ∀ position ∈ positions, row.cell? position = other.cell? position) :
    row.isVacant positions = other.isVacant positions := by
  rw [Bool.eq_iff_iff, isVacant, isVacant, List.all_eq_true, List.all_eq_true]
  exact forall₂_congr fun position hposition => by rw [h position hposition]

def Filling.Alike (row other : Row) (x y : Filling) : Prop :=
  x.field = y.field ∧ x.provider.provide row = y.provider.provide other

theorem provideAll_alike (entity : String) {xs ys : List Filling}
    (h : List.Forall₂ (Filling.Alike row other) xs ys) (args : Arguments) :
    provideAll row entity xs args = provideAll other entity ys args := by
  induction h generalizing args with
  | nil => rw [provideAll, provideAll]
  | @cons x y xs ys hxy _ ih =>
    obtain ⟨hfield, hprovide⟩ := hxy
    obtain ⟨field, provider⟩ := x
    obtain ⟨field', provider'⟩ := y
    cases hfield
    rw [provideAll, provideAll, show provider.provide row = provider'.provide other from hprovide]
    exact bind_congr fun a => ih _

theorem assignAll_alike (entity : Entity) {xs ys : List Filling}
    (h : List.Forall₂ (Filling.Alike row other) xs ys) (i : Instance) :
    assignAll row entity xs i = assignAll other entity ys i := by
  induction h generalizing i with
  | nil => rw [assignAll, assignAll]
  | @cons x y xs ys hxy _ ih =>
    obtain ⟨hfield, hprovide⟩ := hxy
    obtain ⟨field, provider⟩ := x
    obtain ⟨field', provider'⟩ := y
    cases hfield
    rw [assignAll, assignAll, show provider.provide row = provider'.provide other from hprovide]
    exact bind_congr fun a => bind_congr fun assigned => ih _

structure Plan.Alike (row other : Row) (p q : Plan) : Prop where
  entity : p.entity = q.entity
  parameters : List.Forall₂ (Filling.Alike row other) p.parameters q.parameters
  properties : List.Forall₂ (Filling.Alike row other) p.properties q.properties

theorem Plan.Alike.run_eq {p q : Plan} (h : p.Alike row other q) : p.run row = q.run other := by
  obtain ⟨entity, parameters, properties⟩ := p
  obtain ⟨entity', parameters', properties'⟩ := q
  obtain ⟨hentity, hparameters, hproperties⟩ := h
  cases hentity
  rw [Plan.run, Plan.run, provideAll_alike entity.simpleName hparameters]
  refine bind_congr fun args => bind_congr fun built => ?_
  obtain ⟨made, _⟩ := built
  exact assignAll_alike entity hproperties made

def Plan.Agrees (row other : Row) (plan : Plan) : Prop :=
  ∀ use position, plan.Reads use position → row.cell? position = other.cell? position

def Provider.Agrees (row other : Row) : Provider → Prop
  | .null => True
  | .column position _ => row.cell? position = other.cell? position
  | .join plan positions =>
    plan.Agrees row other ∧ ∀ position ∈ positions, row.cell? position = other.cell? position

theorem Plan.Agrees.provider {plan : Plan} (h : plan.Agrees row other) {x : Filling}
    (hx : x ∈ plan.fillings) : x.provider.Agrees row other := by
  cases hprovider : x.provider with
  | null => trivial
  | column position codec => exact h .column position (.column hx hprovider)
  | join inner positions =>
    constructor
    · exact fun use position hread => h use position (.joined hx hprovider hread)
    · exact fun position hposition => h .vacancy position (.vacancy hx hprovider hposition)

-- by induction on the plan: what the plan of a join reads, the outer plan reads

mutual

theorem Provider.provide_congr : (p : Provider) → p.Agrees row other → p.provide row = p.provide other
  | .null, _ => rfl
  | .column position codec, h => by
    rw [Provider.Agrees] at h
    rw [Provider.provide, Provider.provide, h]
  | .join plan positions, h => by
    obtain ⟨hplan, hpositions⟩ := h
    rw [Provider.provide, Provider.provide, Row.isVacant_congr hpositions, plan.run_congr hplan]

theorem provide_congr_of_mem : (fillings : List Filling) →
    (∀ x ∈ fillings, x.provider.Agrees row other) →
    ∀ x ∈ fillings, x.provider.provide row = x.provider.provide other
  | [], _, x, hx => absurd hx List.not_mem_nil
  | ⟨field, provider⟩ :: rest, h, x, hx => by
    rcases List.mem_cons.mp hx with rfl | hx
    · exact provider.provide_congr (h _ List.mem_cons_self)
    · exact provide_congr_of_mem rest (fun y hy => h y (List.mem_cons_of_mem _ hy)) x hx

theorem Plan.run_congr : (plan : Plan) → plan.Agrees row other → plan.run row = plan.run other
  | ⟨entity, parameters, properties⟩, h => by
    have hparameters := provide_congr_of_mem parameters fun x hx =>
      h.provider (List.mem_append_left _ hx)
    have hproperties := provide_congr_of_mem properties fun x hx =>
      h.provider (List.mem_append_right _ hx)
    have halike : Plan.Alike row other ⟨entity, parameters, properties⟩ ⟨entity, parameters, properties⟩ :=
      ⟨rfl, List.forall₂_same.mpr fun x hx => ⟨rfl, hparameters x hx⟩,
        List.forall₂_same.mpr fun x hx => ⟨rfl, hproperties x hx⟩⟩
    exact halike.run_eq

end

end Agreeing

inductive Provider.DrawnFrom (columns : List ColumnLabel) (joins : List JoinPlan) : Provider → Prop
  | null : Provider.DrawnFrom columns joins .null
  | column {c : ColumnLabel} (hc : c ∈ columns) (codec : Codec) :
      Provider.DrawnFrom columns joins (.column c.position codec)
  | join {j : JoinPlan} (hj : j ∈ joins) : Provider.DrawnFrom columns joins (.join j.plan j.positions)

section Assembled

variable {columns : List ColumnLabel} {joins : List JoinPlan}

structure Fillings.DrawnFrom (columns : List ColumnLabel) (joins : List JoinPlan) (f : Fillings) : Prop where
  parameters : ∀ x ∈ f.parameters, x.provider.DrawnFrom columns joins
  properties : ∀ x ∈ f.properties, x.provider.DrawnFrom columns joins

theorem Fillings.DrawnFrom.add {f : Fillings} (h : f.DrawnFrom columns joins) (target : FieldRef)
    {provider : Provider} (hp : provider.DrawnFrom columns joins) :
    (f.add target provider).DrawnFrom columns joins := by
  cases target with
  | parameter p =>
    refine ⟨fun x hx => ?_, h.properties⟩
    rcases mem_of_mem_fill hx with rfl | hx
    · exact hp
    · exact h.parameters x hx
  | property p =>
    refine ⟨h.parameters, fun x hx => ?_⟩
    rcases mem_of_mem_fill hx with rfl | hx
    · exact hp
    · exact h.properties x hx

theorem foundFillings_drawnFrom (context : MappingContext) (e : Entity) (columns : List ColumnLabel)
    (joins : List JoinPlan) : (foundFillings context e columns).DrawnFrom columns joins := by
  refine List.foldlRecOn _ _ ⟨by simp, by simp⟩ fun f hf target _ => ?_
  unfold Fillings.fillSlot
  split
  · rename_i c hc
    exact hf.add target (.column (List.mem_of_find?_eq_some hc) _)
  · exact hf

theorem joinedFillings_drawnFrom (context : MappingContext) (e : Entity) (columns : List ColumnLabel)
    (joins : List JoinPlan) : (joinedFillings context e columns joins).DrawnFrom columns joins := by
  refine List.foldlRecOn _ _ (foundFillings_drawnFrom context e columns joins) fun f hf j hj => ?_
  unfold addJoin
  split
  · rename_i target _
    exact hf.add target (.join hj)
  · exact hf

theorem assemble_drawnFrom (context : MappingContext) (e : Entity) (columns : List ColumnLabel)
    (joins : List JoinPlan) {x : Filling} (hx : x ∈ (assemble context e columns joins).fillings) :
    x.provider.DrawnFrom columns joins := by
  have hjoined := joinedFillings_drawnFrom context e columns joins
  rcases List.mem_append.mp hx with hx | hx
  · rcases mem_withNulls hx with hx | ⟨p, -, -, rfl⟩
    · exact hjoined.parameters x hx
    · exact .null
  · exact hjoined.properties x hx

end Assembled

end RelationalMapping
