import RelationalMapping.Proofs.Mapping.Providers

namespace RelationalMapping

def Provider.position? : Provider → Option Nat
  | .column position _ => some position
  | _ => none

def FieldRef.isOne : FieldRef → FieldRef → Bool
  | .parameter p, .parameter q => p.name == q.name
  | .property p, .property q => p.name == q.name
  | _, _ => false

def Entity.routes (context : MappingContext) (e : Entity) (target : FieldRef) (c : ColumnLabel) : Bool :=
  (route? context e c.label).any (·.isOne target)

def Fillings.column? (f : Fillings) : FieldRef → Option Nat
  | .parameter p => (providerOf f.parameters p.name).bind (·.position?)
  | .property p => (providerOf f.properties p.name).bind (·.position?)

def Plan.column? (plan : Plan) (target : FieldRef) : Option Nat :=
  Fillings.column? ⟨plan.parameters, plan.properties⟩ target

variable {context : MappingContext} {e : Entity} {target : FieldRef}

theorem column?_toPlan (f : Fillings) (e : Entity) (target : FieldRef) :
    (f.toPlan e).column? target = f.column? target := by
  rw [Fillings.toPlan_eq]
  cases target with
  | property p => rfl
  | parameter p =>
    change (providerOf (withNulls _ f.parameters) p.name).bind (·.position?)
      = (providerOf f.parameters p.name).bind (·.position?)
    rw [providerOf_withNulls]
    cases providerOf f.parameters p.name with
    | some provider => rfl
    | none => split <;> rfl

theorem column?_addColumn (f : Fillings) (found target : FieldRef) (position : Nat) :
    (f.addColumn context found position).column? target
      = if found.isOne target then some position else f.column? target := by
  cases found <;> cases target <;>
    simp only [Fillings.addColumn, Fillings.add, Fillings.column?, FieldRef.isOne, providerOf_fill, beq_iff_eq,
      Bool.false_eq_true, if_false]
  all_goals
    split
    · rfl
    · rfl

theorem column?_fillColumn (f : Fillings) (c : ColumnLabel) :
    (f.fillColumn context e c).column? target
      = if e.routes context target c then some c.position else f.column? target := by
  unfold Fillings.fillColumn Entity.routes
  cases route? context e c.label with
  | none => rfl
  | some found => exact column?_addColumn f found target c.position

theorem column?_foldl_fillColumn (columns : List ColumnLabel) (f : Fillings) :
    (columns.foldl (Fillings.fillColumn context e) f).column? target
      = ((columns.filter (e.routes context target)).getLast?.map (·.position)).or (f.column? target) := by
  induction columns generalizing f with
  | nil => rfl
  | cons c rest ih =>
    rw [List.foldl_cons, ih, column?_fillColumn, List.filter_cons]
    split
    · rw [List.getLast?_cons]
      cases (rest.filter (e.routes context target)).getLast? <;> rfl
    · rfl

theorem column?_planPlain (columns : List ColumnLabel) :
    (planPlain context e columns).column? target
      = ((firstLabels [] columns).filter (e.routes context target)).getLast?.map (·.position) := by
  rw [planPlain_firstLabels, column?_toPlan, routedFillings, column?_foldl_fillColumn]
  cases target <;> exact Option.or_none

theorem firstLabels_sublist (seen : List String) (columns : List ColumnLabel) :
    (firstLabels seen columns).Sublist columns := by
  induction columns generalizing seen with
  | nil => exact List.Sublist.refl _
  | cons c rest ih =>
    rw [firstLabels]
    split
    · exact (ih seen).cons c
    · exact (ih _).cons_cons c

theorem getLast?_eq_head?_iff {α : Type} {kept all : List α} (hkept : kept.Sublist all) (hall : all.Nodup) :
    kept.getLast? = all.head? ↔ kept = all.head?.toList := by
  constructor
  · intro h
    cases all with
    | nil => rw [List.sublist_nil.mp hkept]; rfl
    | cons first rest =>
      obtain ⟨before, rfl⟩ := List.getLast?_eq_some_iff.mp h
      have hfirst : first ∉ rest := (List.nodup_cons.mp hall).1
      cases before with
      | nil => rfl
      | cons x others =>
        -- what stands behind another one cannot be the first of all
        rw [List.cons_append] at hkept
        have hmem : first ∈ rest := hkept.tail.subset (by simp)
        exact absurd hmem hfirst
  · intro h
    rw [h]
    cases all.head? <;> rfl

theorem map_position_inj {columns : List ColumnLabel} (hpositions : (columns.map (·.position)).Nodup)
    {found other : Option ColumnLabel} (hfound : ∀ c ∈ found, c ∈ columns) (hother : ∀ c ∈ other, c ∈ columns) :
    found.map (·.position) = other.map (·.position) ↔ found = other := by
  cases found with
  | none => cases other <;> simp
  | some c =>
    cases other with
    | none => simp
    | some d =>
      rw [Option.map_some, Option.map_some, Option.some.injEq, Option.some.injEq]
      exact ⟨List.inj_on_of_nodup_map hpositions (hfound c rfl) (hother d rfl), congrArg _⟩

/-- A field of a record without joins is read from the last column that is routed to it, of those that stand first in
lower case; that is the earliest column of all that are routed there exactly if no other of them stands first. -/
theorem Entity.specialize_reads_last (hshape : e.shape = .record) {memory : Memory} (hmemory : memory.Knows context e)
    {columns : List ColumnLabel} (hpositions : (columns.map (·.position)).Nodup) :
    ∃ plan memory', specialize context (.kept e.typeName e) columns memory = (.ok (.record plan), memory')
      ∧ ∀ target : FieldRef,
        plan.column? target
            = ((firstLabels [] columns).filter (e.routes context target)).getLast?.map (·.position)
          ∧ (plan.column? target = (columns.find? (e.routes context target)).map (·.position)
            ↔ (firstLabels [] columns).filter (e.routes context target)
              = (columns.find? (e.routes context target)).toList) := by
  generalize hk : (memory.kept.lookup e.typeName).getD { entity := e } = k
  have hknown : k.entity = e ∧ k.Follows context := by
    rw [← hk]
    rcases hlookup : memory.kept.lookup e.typeName with _ | known
    · exact ⟨rfl, Kept.follows_fresh _ _⟩
    · exact hmemory known hlookup
  obtain ⟨k', hplan, -, -⟩ := k.plan_follows hknown.2 columns
  rw [hknown.1] at hplan
  refine ⟨_, _, specialize_kept hshape hk hplan, fun target => ⟨column?_planPlain columns, ?_⟩⟩
  have hkept : ((firstLabels [] columns).filter (e.routes context target)).Sublist
      (columns.filter (e.routes context target)) := (firstLabels_sublist [] columns).filter _
  have hall : (columns.filter (e.routes context target)).Nodup := (List.Nodup.of_map _ hpositions).filter _
  rw [column?_planPlain, ← List.head?_filter, ← getLast?_eq_head?_iff hkept hall]
  refine map_position_inj hpositions (fun c hc => ?_) fun c hc => ?_
  · exact (List.mem_filter.mp (hkept.subset (List.mem_of_getLast? hc))).1
  · exact (List.mem_filter.mp (List.mem_of_head? hc)).1

def mooringId : Field := { name := "id", label := "i64", holds := .column (.required (.element .int64)) }

def mooringName : Field :=
  { name := "name", label := "String", holds := .column (.required (.element .text)), mutable := true }

def mooring : Entity := Entity.ofFields "app::Mooring" "Mooring" none [mooringId, mooringName]

theorem Entity.specialize_reads_last_moorings :
    ∃ plan memory', specialize .standard (.kept "app::Mooring" mooring)
        (labelled 1 ["depth", "ID", "name", "id", "NAME"]) {} = (.ok (.record plan), memory')
      ∧ plan.column? mooringId.ref = some 2 ∧ plan.column? mooringName.ref = some 3 := by
  have hpositions : ((labelled 1 ["depth", "ID", "name", "id", "NAME"]).map (·.position)).Nodup := by decide
  have hmemory : Memory.Knows .standard mooring {} := Memory.knows_empty _ _
  obtain ⟨plan, memory', hplan, hread⟩ := Entity.specialize_reads_last rfl hmemory hpositions
  refine ⟨plan, memory', hplan, ?_, ?_⟩
  · exact ((hread mooringId.ref).2.mpr (by decide +kernel)).trans (by decide +kernel)
  · exact ((hread mooringName.ref).2.mpr (by decide +kernel)).trans (by decide +kernel)

theorem Entity.specialize_later_spelling :
    ∃ plan memory', specialize .standard (.kept "app::Mooring" mooring) (labelled 1 ["id", "name", "i_d"]) {}
        = (.ok (.record plan), memory')
      ∧ ((labelled 1 ["id", "name", "i_d"]).find? (mooring.routes .standard mooringId.ref)).map (·.position) = some 1
      ∧ plan.column? mooringId.ref = some 3
      ∧ plan.run [.int 1, .text "North", .int 2]
        = .ok (.record "app::Mooring" [("id", .value (.int 2)), ("name", .value (.text "North"))]) :=
  ⟨_, _, rfl, by decide +kernel, by decide +kernel, rfl⟩

end RelationalMapping
