import RelationalMapping.Mapping.Mappers
import RelationalMapping.Proofs.Sql.Naming

namespace RelationalMapping

def Kept.Follows (context : MappingContext) (k : Kept) : Prop :=
  ∀ label target, k.routes.lookup label = some target → target = route? context k.entity label

def Memory.Knows (context : MappingContext) (e : Entity) (memory : Memory) : Prop :=
  ∀ k, memory.kept.lookup e.typeName = some k → k.entity = e ∧ k.Follows context

theorem Memory.knows_empty (context : MappingContext) (e : Entity) : Memory.Knows context e {} := by
  intro k hk
  cases hk

variable {context : MappingContext} {e : Entity}

theorem Kept.follows_fresh (context : MappingContext) (e : Entity) : Kept.Follows context { entity := e } := by
  intro label target h
  cases h

theorem Kept.route_follows {k : Kept} (h : k.Follows context) (label : String) :
    ∃ k', k.route context label = (route? context k.entity label, k') ∧ k'.entity = k.entity
      ∧ k'.Follows context := by
  rcases hlookup : k.routes.lookup label with _ | target
  · refine ⟨{ k with routes := (label, route? context k.entity label) :: k.routes }, ?_, rfl, ?_⟩
    · simp only [route, hlookup]
    · intro other target hother
      rw [List.lookup_cons] at hother
      split at hother
      · rename_i heq
        rw [← Option.some.inj hother, beq_iff_eq.mp heq]
      · exact h other target hother
  · refine ⟨k, ?_, rfl, h⟩
    simp only [route, hlookup]
    rw [h label target hlookup]

theorem Kept.routeAll_follows {k : Kept} (h : k.Follows context) (columns : List ColumnLabel) :
    ∃ k', k.routeAll context columns = (columns.map fun c => (c, route? context k.entity c.label), k')
      ∧ k'.entity = k.entity ∧ k'.Follows context := by
  induction columns generalizing k with
  | nil => exact ⟨k, rfl, rfl, h⟩
  | cons c rest ih =>
    obtain ⟨between, hroute, hentity, hfollows⟩ := k.route_follows h c.label
    obtain ⟨k', hrest, hentity', hfollows'⟩ := ih hfollows
    refine ⟨k', ?_, hentity'.trans hentity, hfollows'⟩
    simp only [routeAll, hroute, hrest, hentity, List.map_cons]

def planPlain (context : MappingContext) (e : Entity) (columns : List ColumnLabel) : Plan :=
  planRouted context e ((firstLabels [] columns).map fun c => (c, route? context e c.label))

theorem Kept.plan_follows {k : Kept} (h : k.Follows context) (columns : List ColumnLabel) :
    ∃ k', k.plan context columns = (planPlain context k.entity columns, k') ∧ k'.entity = k.entity
      ∧ k'.Follows context := by
  obtain ⟨k', hroutes, hentity, hfollows⟩ := k.routeAll_follows h (firstLabels [] columns)
  exact ⟨k', by simp only [plan, hroutes, planPlain, hentity], hentity, hfollows⟩

theorem firstLabels_distinct {columns : List ColumnLabel} {seen : List String}
    (h : (columns.map fun c => Text.lowercase c.label).Nodup)
    (hseen : ∀ c ∈ columns, Text.lowercase c.label ∉ seen) : firstLabels seen columns = columns := by
  induction columns generalizing seen with
  | nil => rfl
  | cons c rest ih =>
    rw [List.map_cons, List.nodup_cons] at h
    simp only [List.mem_cons, forall_eq_or_imp] at hseen
    have hfresh : ∀ d ∈ rest, Text.lowercase d.label ∉ Text.lowercase c.label :: seen := by
      intro d hd hmem
      rcases List.mem_cons.mp hmem with heq | hmem
      · exact h.1 (List.mem_map.mpr ⟨d, hd, heq⟩)
      · exact hseen.2 d hd hmem
    have hunseen : seen.contains (Text.lowercase c.label) = false := by simpa using hseen.1
    rw [firstLabels]
    simp only [hunseen, Bool.false_eq_true, if_false, ih h.2 hfresh]

def Learns (context : MappingContext) (e : Entity) (before after : List (String × Kept)) : Prop :=
  ∀ name k, after.lookup name = some k →
    before.lookup name = some k ∨ (name = e.typeName ∧ k.entity = e ∧ k.Follows context)

theorem Learns.trans {first second third : List (String × Kept)} (h : Learns context e first second)
    (h' : Learns context e second third) : Learns context e first third := by
  intro name k hk
  rcases h' name k hk with hk | hk
  · exact h name k hk
  · exact .inr hk

theorem Learns.knows {memory memory' : Memory} (h : Learns context e memory.kept memory'.kept)
    (hmemory : memory.Knows context e) : memory'.Knows context e := by
  intro k hk
  rcases h e.typeName k hk with hk | ⟨-, hk⟩
  · exact hmemory k hk
  · exact hk

theorem learns_keep (e : Entity) (kept : List (String × Kept)) : Learns context e kept (keep e kept).2 := by
  intro name k hk
  unfold keep at hk
  split at hk
  · exact .inl hk
  · rw [List.lookup_append, Option.or_eq_some_iff] at hk
    rcases hk with hk | ⟨-, hk⟩
    · exact .inl hk
    · obtain ⟨before, after, hsplit, -⟩ := List.lookup_eq_some_iff.mp hk
      obtain ⟨rfl, rfl⟩ : name = e.typeName ∧ k = { entity := e } := by
        simpa using (show (name, k) ∈ [(e.typeName, { entity := e })] by simp [hsplit])
      exact .inr ⟨rfl, rfl, Kept.follows_fresh _ _⟩

theorem lookup_replaceKept (kept : List (String × Kept)) (typeName name : String) (k : Kept) :
    (replaceKept typeName k kept).lookup name
      = (kept.lookup name).map fun old => if name = typeName then k else old := by
  induction kept with
  | nil => rfl
  | cons entry rest ih =>
    obtain ⟨other, old⟩ := entry
    have hcons : replaceKept typeName k ((other, old) :: rest)
        = (other, if other = typeName then k else old) :: replaceKept typeName k rest := by
      rw [replaceKept, List.map_cons]
      dsimp only
      split <;> rfl
    rw [hcons, List.lookup_cons, List.lookup_cons]
    cases hname : name == other with
    | true => simp [beq_iff_eq.mp hname]
    | false => exact ih

theorem learns_replaceKept {k : Kept} (hentity : k.entity = e) (hfollows : k.Follows context)
    (kept : List (String × Kept)) : Learns context e kept (replaceKept e.typeName k kept) := by
  intro name found hfound
  rw [lookup_replaceKept] at hfound
  obtain ⟨old, hold, rfl⟩ := Option.map_eq_some_iff.mp hfound
  split
  · exact .inr ⟨‹_›, hentity, hfollows⟩
  · exact .inl hold

theorem Mapping.bind_of_ok {α β : Type} {x : Mapping α} {f : α → Mapping β} {memory memory' : Memory}
    {a : α} (h : x memory = (.ok a, memory')) : (x >>= f) memory = f a memory' := by
  simp only [bind, ExceptT.bind, ExceptT.mk, StateT.bind, ExceptT.bindCont, h]

theorem Mapping.bind_of_error {α β : Type} {x : Mapping α} {memory memory' : Memory} {fault : Error}
    (h : x memory = (.error fault, memory')) (f : α → Mapping β) :
    (x >>= f) memory = (.error fault, memory') := by
  simp only [bind, ExceptT.bind, ExceptT.mk, StateT.bind, ExceptT.bindCont, h]
  rfl

/-- A result of a statement that joins nothing into fields. -/
def Origin.Plain : Origin → Prop
  | .unknown => True
  | .query q => q.intoJoins = []
  | .update u => u.source = .none ∨ u.into = []

theorem keep_knows {memory : Memory} (h : memory.Knows context e) :
    ∃ k kept, keep e memory.kept = (k, kept) ∧ kept.lookup e.typeName = some k ∧ k.entity = e
      ∧ k.Follows context ∧ Learns context e memory.kept kept := by
  have hlearns : Learns context e memory.kept (keep e memory.kept).2 := learns_keep e memory.kept
  rcases hlookup : memory.kept.lookup e.typeName with _ | k <;> simp only [keep, hlookup] at hlearns
  · refine ⟨{ entity := e }, memory.kept ++ [(e.typeName, { entity := e })], ?_, ?_, rfl, Kept.follows_fresh _ _,
      hlearns⟩
    · simp only [keep, hlookup]
    · simp [List.lookup_append, hlookup]
  · obtain ⟨hentity, hfollows⟩ := h k hlookup
    exact ⟨k, memory.kept, by simp only [keep, hlookup], hlookup, hentity, hfollows, hlearns⟩

theorem resolveMapper_plain {memory : Memory} (h : memory.Knows context e) {origin : Origin}
    (horigin : origin.Plain) :
    ∃ k kept, resolveMapper e origin memory = (.ok (.kept e.typeName e), { memory with kept })
      ∧ kept.lookup e.typeName = some k ∧ k.entity = e ∧ k.Follows context
      ∧ Learns context e memory.kept kept := by
  obtain ⟨k, kept, hkeep, hlookup, hentity, hfollows, hlearns⟩ := keep_knows h
  refine ⟨k, kept, ?_, hlookup, hentity, hfollows, hlearns⟩
  have hplain : ((.ok (.kept e.typeName (keep e memory.kept).1.entity), { memory with
      kept := (keep e memory.kept).2 }) : Except Error Mapper × Memory)
        = (.ok (.kept e.typeName e), { memory with kept }) := by
    simp only [hkeep, hentity]
  cases origin with
  | unknown => exact hplain
  | query q =>
    have hjoins : q.intoJoins = [] := horigin
    rw [← hplain, resolveMapper, hjoins]
    rfl
  | update u =>
    rw [← hplain]
    rcases horigin with hsource | hinto
    · simp only [resolveMapper, hsource]
    · rw [resolveMapper, hinto]
      cases u.source <;> rfl

theorem specialize_kept (hshape : e.shape = .record) {typeName : String} {columns : List ColumnLabel}
    {memory : Memory} {k k' : Kept} {plan : Plan}
    (hk : (memory.kept.lookup typeName).getD { entity := e } = k) (hplan : k.plan context columns = (plan, k')) :
    specialize context (.kept typeName e) columns memory
      = (.ok (.record plan), { memory with kept := replaceKept typeName k' memory.kept }) := by
  simp only [specialize, hshape, hk, hplan]

def Entity.plainRows (context : MappingContext) (e : Entity) (columns : List ColumnLabel) : RowMapper :=
  match e.shape with
  | .enumeration _ => .enumeration e (context.codec e.simpleName)
  | .record => .record (planPlain context e columns)

theorem mapResult_plainRows {memory : Memory} (h : memory.Knows context e) {origin : Origin}
    (horigin : origin.Plain) (t : ResultTable) :
    ∃ kept, mapResult context e origin t memory
        = (t.rows.mapM (mapRow e (e.plainRows context t.columns)), { memory with kept })
      ∧ Learns context e memory.kept kept := by
  obtain ⟨k, kept, hresolve, hlookup, hentity, hfollows, hlearns⟩ := resolveMapper_plain h horigin
  cases hshape : e.shape with
  | enumeration names =>
    refine ⟨kept, ?_, hlearns⟩
    have hspecialize : specialize context (.kept e.typeName e) t.columns { memory with kept }
        = (.ok (e.plainRows context t.columns), { memory with kept }) := by
      simp only [specialize, Entity.plainRows, hshape]
      rfl
    rw [mapResult, Mapping.bind_of_ok hresolve, Mapping.bind_of_ok hspecialize]
    rfl
  | record =>
    obtain ⟨k', hplan, hentity', hfollows'⟩ := k.plan_follows hfollows t.columns
    rw [hentity] at hplan
    have hspecialize : specialize context (.kept e.typeName e) t.columns { memory with kept }
        = (.ok (e.plainRows context t.columns), { memory with kept := replaceKept e.typeName k' kept }) := by
      rw [Entity.plainRows, hshape]
      exact specialize_kept hshape (by rw [hlookup]; rfl) hplan
    refine ⟨replaceKept e.typeName k' kept, ?_, hlearns.trans ?_⟩
    · rw [mapResult, Mapping.bind_of_ok hresolve, Mapping.bind_of_ok hspecialize]
      rfl
    · exact learns_replaceKept (hentity'.trans hentity) hfollows' kept

theorem mapResult_plain (hshape : e.shape = .record) {memory : Memory} (h : memory.Knows context e)
    {origin : Origin} (horigin : origin.Plain) (t : ResultTable) :
    ∃ memory', mapResult context e origin t memory
        = (t.rows.mapM (mapRow e (.record (planPlain context e t.columns))), memory')
      ∧ memory'.Knows context e := by
  obtain ⟨kept, hresult, hlearns⟩ := mapResult_plainRows h horigin t
  rw [Entity.plainRows, hshape] at hresult
  exact ⟨{ memory with kept }, hresult, hlearns.knows h⟩

def mapPlanned (e : Entity) (step : Naming Plan) (rows : List Row) : Naming (List Instance) := do
  let plan ← step
  ExceptT.mk (pure (rows.mapM (mapRow e (.record plan))))

theorem mapResult_naming {origin : Origin} {t : ResultTable} {memory : Memory} {mapper : Mapper}
    {step : Naming Plan} (hmapper : resolveMapper e origin memory = (.ok mapper, memory))
    (hstep : specialize context mapper t.columns = do return .record (← Mapping.naming step)) :
    mapResult context e origin t memory = Mapping.naming (mapPlanned e step t.rows) memory := by
  rw [mapResult, Mapping.bind_of_ok hmapper, hstep, Mapping.naming, mapPlanned, Naming.bind_apply]
  rcases hresult : step memory.names with ⟨fault | plan, names'⟩
  · have hnaming : Mapping.naming step memory = (.error fault, { memory with names := names' }) := by
      rw [Mapping.naming, hresult]
    rw [Mapping.bind_of_error (Mapping.bind_of_error hnaming _)]
  · have hnaming : Mapping.naming step memory = (.ok plan, { memory with names := names' }) := by
      rw [Mapping.naming, hresult]
    have hrecord : (do return RowMapper.record (← Mapping.naming step) : Mapping RowMapper) memory
        = (.ok (.record plan), { memory with names := names' }) := by
      rw [Mapping.bind_of_ok hnaming]
      rfl
    rw [Mapping.bind_of_ok hrecord]
    rfl

theorem resolveMapper_joined {q : Query} (hjoins : q.intoJoins ≠ []) (memory : Memory) :
    resolveMapper e (.query q) memory = (.ok (.joinedQuery e q), memory) := by
  have hsome : q.intoJoins.isEmpty = false := by simpa using hjoins
  rw [resolveMapper]
  simp only [hsome, Bool.false_eq_true, if_false]

end RelationalMapping
