import RelationalMapping.Proofs.Mapping.Returned
import RelationalMapping.Proofs.Sql.Lookups

namespace RelationalMapping

variable {context : MappingContext} {among : Entity → Prop}

section Turns

variable {ι α : Type}

def inTurn : List (Mapping α) → Memory → List (Except Error α)
  | [], _ => []
  | x :: rest, memory => (x memory).1 :: inTurn rest (x memory).2

theorem inTurn_congr (related : Memory → Memory → Prop) {items : List ι} {f g : ι → Mapping α}
    (hstep : ∀ item ∈ items, ∀ memory other, related memory other →
      (f item memory).1 = (g item other).1 ∧ related (f item memory).2 (g item other).2)
    {memory other : Memory} (h : related memory other) :
    inTurn (items.map f) memory = inTurn (items.map g) other := by
  induction items generalizing memory other with
  | nil => rfl
  | cons item rest ih =>
    rw [List.forall_mem_cons] at hstep
    obtain ⟨hresult, hafter⟩ := hstep.1 memory other h
    rw [List.map_cons, List.map_cons, inTurn, inTurn, hresult, ih hstep.2 hafter]

theorem inTurn_settled {kept : Memory → Prop} {items : List ι} {f : ι → Mapping α}
    (hstep : ∀ item ∈ items, Settled kept (f item)) {memory start : Memory} (hmemory : kept memory)
    (hstart : kept start) : inTurn (items.map f) memory = items.map fun item => (f item start).1 := by
  induction items generalizing memory with
  | nil => rfl
  | cons item rest ih =>
    rw [List.forall_mem_cons] at hstep
    obtain ⟨result, hresult⟩ := hstep.1
    obtain ⟨hanswer, hafter⟩ := hresult memory hmemory
    rw [List.map_cons, List.map_cons, inTurn, hanswer, (hresult start hstart).1, ih hstep.2 hafter]

end Turns

def Memory.Recalls (context : MappingContext) (among : Entity → Prop) (memory : Memory) : Prop :=
  ∀ name k, memory.kept.lookup name = some k →
    among k.entity ∧ k.entity.typeName = name ∧ k.Follows context

theorem Memory.recalls_nothing (names : Names) : Memory.Recalls context among { names } := by
  intro name k hk
  cases hk

theorem Memory.Recalls.knows (hdistinct : ∀ e d, among e → among d → e.typeName = d.typeName → e = d)
    {memory : Memory} (h : memory.Recalls context among) {e : Entity} (he : among e) :
    memory.Knows context e := by
  intro k hk
  obtain ⟨hentity, hname, hfollows⟩ := h e.typeName k hk
  exact ⟨hdistinct _ _ hentity he hname, hfollows⟩

theorem Memory.Recalls.learns {memory memory' : Memory} (h : memory.Recalls context among) {e : Entity}
    (he : among e) (hlearns : Learns context e memory.kept memory'.kept) : memory'.Recalls context among := by
  intro name k hk
  rcases hlearns name k hk with hk | ⟨rfl, rfl, hfollows⟩
  · exact h name k hk
  · exact ⟨he, rfl, hfollows⟩

def Origin.intoFields : Origin → List IntoField
  | .unknown => []
  | .query q => q.intoFields
  | .update u => u.into

-- of all that is remembered the plan for a result with joins asks for the names of the markers only
theorem Origin.exists_plan {origin : Origin} (h : ¬ origin.Plain) (e : Entity) (t : ResultTable) :
    ∃ step : Naming Plan,
      (∀ memory, mapResult context e origin t memory = Mapping.naming (mapPlanned e step t.rows) memory)
      ∧ ∀ among, Unconfused among → (∀ into ∈ origin.intoFields, into.Within among) →
          Settled (Names.Faithful among) step := by
  cases origin with
  | unknown => exact absurd trivial h
  | query q =>
    refine ⟨planQuery context e q t.columns, fun memory => ?_, fun among hamong hinto => ?_⟩
    · exact mapResult_naming (resolveMapper_joined h memory) rfl
    · exact q.settled_plan hamong hinto e t.columns
  | update u =>
    rw [Origin.Plain, not_or] at h
    refine ⟨planUpdate context e u.into t.columns, fun memory => ?_, fun among hamong hinto => ?_⟩
    · exact mapResult_naming (resolveMapper_returned h.1 h.2 memory) rfl
    · exact settled_planUpdate hamong e hinto t.columns

structure Call where
  entity : Entity
  origin : Origin
  result : ResultTable

def Call.run (context : MappingContext) (c : Call) : Mapping (List Instance) :=
  mapResult context c.entity c.origin c.result

/-- A step on mappers that have just been made: of what is remembered it finds the names only. -/
def Mapping.anew {α : Type} (x : Mapping α) : Mapping α := fun memory => x { names := memory.names }

theorem Call.run_anew (hdistinct : ∀ e d, among e → among d → e.typeName = d.typeName → e = d) {c : Call}
    (hc : among c.entity) {memory other : Memory} (hnames : memory.names = other.names)
    (h : memory.Recalls context among) :
    (c.run context memory).1 = ((c.run context).anew other).1
      ∧ (c.run context memory).2.names = ((c.run context).anew other).2.names
      ∧ (c.run context memory).2.Recalls context among := by
  obtain ⟨e, origin, t⟩ := c
  rw [Mapping.anew, ← hnames]
  simp only [Call.run]
  by_cases horigin : origin.Plain
  · obtain ⟨kept, hresult, hlearns⟩ := mapResult_plainRows (h.knows hdistinct hc) horigin t
    obtain ⟨fresh, hfresh, -⟩ :=
      mapResult_plainRows ((Memory.recalls_nothing memory.names).knows hdistinct hc) horigin t
    rw [hresult, hfresh]
    exact ⟨rfl, rfl, h.learns hc hlearns⟩
  · obtain ⟨step, hstep, -⟩ := origin.exists_plan horigin e t
    rw [hstep, hstep]
    exact ⟨rfl, rfl, h⟩

theorem mapped_anew (context : MappingContext) {calls : List Call}
    (hdistinct : ∀ c ∈ calls, ∀ d ∈ calls, c.entity.typeName = d.entity.typeName → c.entity = d.entity)
    (names : Names) :
    inTurn (calls.map (·.run context)) { names } = inTurn (calls.map fun c => (c.run context).anew) { names } := by
  have hentities : ∀ e d, (∃ c ∈ calls, c.entity = e) → (∃ c ∈ calls, c.entity = d) →
      e.typeName = d.typeName → e = d := by
    rintro _ _ ⟨c, hc, rfl⟩ ⟨d, hd, rfl⟩ hname
    exact hdistinct c hc d hd hname
  have hstart : Memory.Recalls context (fun e => ∃ c ∈ calls, c.entity = e) { names } :=
    Memory.recalls_nothing names
  -- both runs go over the same names, and only the first of them keeps mappers
  refine inTurn_congr (fun memory other =>
    memory.names = other.names ∧ memory.Recalls context fun e => ∃ c ∈ calls, c.entity = e) ?_ ⟨rfl, hstart⟩
  rintro c hc memory other ⟨hnames, hrecalls⟩
  exact Call.run_anew hentities ⟨c, hc, rfl⟩ hnames hrecalls

-- plain, failing at its second row, without markers for its joins, of another entity, joined, with other labels
def rideCalls : List Call :=
  [⟨ride, .unknown, ⟨["ID"], [[.int 1]]⟩⟩,
    ⟨ride, .unknown, ⟨["id"], [[.int 2], [.text "three"]]⟩⟩,
    ⟨ride, .query rideQuery, ⟨["id"], []⟩⟩,
    ⟨vehicle, .unknown, ⟨["id"], [[.int 7]]⟩⟩,
    ⟨ride, .query rideQuery, ⟨["id", "start:vehicle", "id", "start:zone", "code", "end:zone", "end:vehicle"],
      [[.int 4, .null, .int 7, .null, .text "north", .null, .null]]⟩⟩,
    ⟨ride, .update (rideUpdate .none), ⟨["Id", "ID"], [[.int 5, .int 6]]⟩⟩]

theorem mapped_anew_rides :
    inTurn (rideCalls.map (·.run .standard)) {}
      = [.ok [rideOf 1 none],
        .error (.mapping "Ride" (.caused (.mismatch "i64" (.kind "text")))),
        .error (.mapping "Ride" (.joinColumnsNotFound "start:vehicle" "end:vehicle")),
        .ok [vehicleOf 7 none],
        .ok [rideOf 4 (some (vehicleOf 7 (some (zoneOf "north"))))],
        .ok [rideOf 5 none]] := by
  have hdistinct : ∀ c ∈ rideCalls, ∀ d ∈ rideCalls,
      c.entity.typeName = d.entity.typeName → c.entity = d.entity := by
    decide +kernel
  exact (mapped_anew .standard hdistinct {}).trans rfl

inductive Request where
  | find (l : Lookup)
  | write (w : Writable)
  | map (c : Call)

inductive Answer where
  | name (s : String)
  | statement (f : Fragment)
  | instances (is : List Instance)

namespace Request

def perform (context : MappingContext) : Request → Mapping Answer
  | .find l => Mapping.naming do return .name (← l.find)
  | .write w => Mapping.naming do return .statement (← w.write)
  | .map c => do return .instances (← c.run context)

def Within (among : Entity → Prop) : Request → Prop
  | .find l => among l.entity
  | .write w => ∀ p ∈ w.parts, p.Within among
  | .map c => among c.entity ∧ ∀ into ∈ c.origin.intoFields, into.Within among

instance (among : Entity → Prop) [DecidablePred among] : (r : Request) → Decidable (r.Within among)
  | .find l => inferInstanceAs (Decidable (among l.entity))
  | .write w => inferInstanceAs (Decidable (∀ p ∈ w.parts, p.Within among))
  | .map c => inferInstanceAs (Decidable (among c.entity ∧ ∀ into ∈ c.origin.intoFields, into.Within among))

end Request

structure Memory.Remembers (context : MappingContext) (among : Entity → Prop) (memory : Memory) : Prop where
  names : memory.names.Faithful among
  kept : memory.Recalls context among

theorem Mapping.settled_naming {α : Type} {step : Naming α} (h : Settled (Names.Faithful among) step) :
    Settled (Memory.Remembers context among) (Mapping.naming step) := by
  obtain ⟨result, h⟩ := h
  refine ⟨result, fun memory hmemory => ?_⟩
  obtain ⟨hresult, hnames⟩ := h memory.names hmemory.names
  exact ⟨hresult, hnames, hmemory.kept⟩

theorem Call.settled_run (hamong : Unconfused among)
    (hdistinct : ∀ e d, among e → among d → e.typeName = d.typeName → e = d) {c : Call} (hc : among c.entity)
    (hinto : ∀ into ∈ c.origin.intoFields, into.Within among) :
    Settled (Memory.Remembers context among) (c.run context) := by
  obtain ⟨e, origin, t⟩ := c
  by_cases horigin : origin.Plain
  · refine ⟨t.rows.mapM (mapRow e (e.plainRows context t.columns)), fun memory hmemory => ?_⟩
    obtain ⟨kept, hresult, hlearns⟩ := mapResult_plainRows (hmemory.kept.knows hdistinct hc) horigin t
    rw [Call.run, hresult]
    exact ⟨rfl, hmemory.names, hmemory.kept.learns hc hlearns⟩
  · obtain ⟨step, hstep, hsettled⟩ := origin.exists_plan horigin e t
    rw [Call.run, funext hstep]
    refine Mapping.settled_naming (settled_bind (hsettled among hamong hinto) fun plan => ?_)
    exact settled_result _

theorem Request.settled_perform (hamong : Unconfused among)
    (hdistinct : ∀ e d, among e → among d → e.typeName = d.typeName → e = d) {r : Request}
    (hr : r.Within among) : Settled (Memory.Remembers context among) (r.perform context) := by
  cases r with
  | find l => exact Mapping.settled_naming (settled_bind (l.settled_find hamong hr) fun _ => settled_pure _)
  | write w => exact Mapping.settled_naming (settled_bind (w.settled_write hamong hr) fun _ => settled_pure _)
  | map c => exact settled_bind (c.settled_run hamong hdistinct hr.1 hr.2) fun _ => settled_pure _

theorem answered_alone (context : MappingContext)
    (hdistinct : ∀ e d, among e → among d → e.typeName = d.typeName → e = d)
    (hseparator : ∀ e, among e → '|' ∉ e.typeName.toList) {requests : List Request}
    (hwithin : ∀ r ∈ requests, r.Within among) :
    inTurn (requests.map (·.perform context)) {} = requests.map fun r => (r.perform context {}).1 := by
  have hstart : Memory.Remembers context among {} := ⟨Names.faithful_empty among, Memory.recalls_nothing {}⟩
  have hamong : Unconfused among := unconfused_of_distinct hdistinct hseparator
  exact inTurn_settled (fun r hr => r.settled_perform hamong hdistinct (hwithin r hr)) hstart hstart

def nameless : Entity := Entity.ofFields "app::Nameless" "" none []

def rideRequests : List Request :=
  [.find (.table nameless),
    .find (.marker .start ⟨vehicle, ride.table.column "vehicle"⟩),
    .find (.column (ride.table.column "id|vehicle")),
    .write (.update (rideUpdate (.tables [vehicle.table]))),
    .write (.query rideQuery),
    .map ⟨ride, .query rideQuery, ⟨["id"], []⟩⟩,
    .map ⟨ride, .unknown, ⟨["ID"], [[.int 1]]⟩⟩,
    .find (.marker .start ⟨vehicle, ride.table.column "vehicle"⟩),
    .find (.table nameless)]

theorem answered_alone_rides :
    inTurn (rideRequests.map (·.perform .standard)) {}
      = [.error (.declaration .unnamed),
        .ok (.name "start:vehicle"),
        .ok (.name "id|vehicle"),
        .ok (.statement ⟨"UPDATE \"ride\" SET \"id\" = ? FROM \"vehicle\" RETURNING \"ride\".*, "
          ++ "NULL AS \"start:vehicle\", \"vehicle\".*, NULL AS \"end:vehicle\"", [.int 4]⟩),
        .error (.statement .joinWithoutTable),
        .error (.mapping "Ride" (.joinColumnsNotFound "start:vehicle" "end:vehicle")),
        .ok (.instances [rideOf 1 none]),
        .ok (.name "start:vehicle"),
        .error (.declaration .unnamed)] := by
  have hdistinct : ∀ e ∈ nameless :: rideEntities, ∀ d ∈ nameless :: rideEntities,
      e.typeName = d.typeName → e = d := by decide +kernel
  have hseparator : ∀ e ∈ nameless :: rideEntities, '|' ∉ e.typeName.toList := by decide +kernel
  have hwithin : ∀ r ∈ rideRequests, r.Within (· ∈ nameless :: rideEntities) := by decide +kernel
  rw [answered_alone .standard (fun e d he hd => hdistinct e he d hd) hseparator hwithin]
  rfl

end RelationalMapping
