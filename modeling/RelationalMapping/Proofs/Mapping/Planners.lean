import RelationalMapping.Proofs.Mapping.Faults
import RelationalMapping.Proofs.Mapping.Providers

namespace RelationalMapping

def SameOutcome : Except Error Instance → Except Error Instance → Prop
  | .ok i, .ok j => i = j
  | .error fault, .error other => fault.OfMapping ∧ other.OfMapping
  | _, _ => False

variable {fields : List Field} {columns : List ColumnLabel} {row : Row}
variable {typeName simpleName : String} {tableName : Option String}

theorem Fillings.sameOutcome {f f' : Fillings} (hfields : (fields.map (·.name)).Nodup) (hf : f.Fits fields)
    (hf' : f'.Fits fields) (hproviders : ∀ g ∈ fields, f.provider? g = f'.provider? g)
    (hdata : ∀ g ∈ fields, ∀ p, f.provider? g = some p → FailsWith Error.OfData (p.provide row)) :
    SameOutcome ((f.toPlan (Entity.ofFields typeName simpleName tableName fields)).run row)
      ((f'.toPlan (Entity.ofFields typeName simpleName tableName fields)).run row) := by
  have hdata' : ∀ g ∈ fields, ∀ p, f'.provider? g = some p → FailsWith Error.OfData (p.provide row) :=
    fun g hg p hp => hdata g hg p (hproviders g hg ▸ hp)
  have hfails : ∀ {f : Fillings}, f.Fits fields →
      (∀ g ∈ fields, ∀ p, f.provider? g = some p → FailsWith Error.OfData (p.provide row)) →
      FailsWith Error.OfMapping ((f.toPlan (Entity.ofFields typeName simpleName tableName fields)).run row) := by
    intro f hf hdata
    refine f.run_toPlan_failsWith hfields hf fun x hx => ?_
    obtain ⟨g, hg, hprovider⟩ := hf.exists_of_mem hx
    exact hdata g hg _ hprovider
  have hiff : ∀ i, (f.toPlan (Entity.ofFields typeName simpleName tableName fields)).run row = .ok i
      ↔ (f'.toPlan (Entity.ofFields typeName simpleName tableName fields)).run row = .ok i := by
    intro i
    rw [run_toPlan_eq_ok_iff hfields hf, run_toPlan_eq_ok_iff hfields hf']
    refine exists_congr fun content => and_congr_right fun _ => forall₂_congr fun g hg => ?_
    rw [hproviders g hg]
  have hleft := hfails hf hdata
  have hright := hfails hf' hdata'
  rcases hx : (f.toPlan (Entity.ofFields typeName simpleName tableName fields)).run row with fault | i
  · rcases hy : (f'.toPlan (Entity.ofFields typeName simpleName tableName fields)).run row with other | j
    · exact ⟨hleft fault hx, hright other hy⟩
    · rw [(hiff j).mpr hy] at hx
      cases hx
  · rw [(hiff i).mp hx]
    rfl

theorem OneToOne.specialize_agrees {matchers : List Matcher} (h : OneToOne { matchers } fields columns)
    (hfields : (fields.map (·.name)).Nodup) {memory : Memory}
    (hmemory : memory.Knows { matchers } (Entity.ofFields typeName simpleName tableName fields)) :
    ∃ plan memory', specialize { matchers }
        (.kept typeName (Entity.ofFields typeName simpleName tableName fields)) columns memory
          = (.ok (.record plan), memory')
      ∧ ∀ row, SameOutcome (plan.run row)
        ((planRows { matchers } (Entity.ofFields typeName simpleName tableName fields) columns).run row) := by
  generalize hk : (memory.kept.lookup typeName).getD
    { entity := Entity.ofFields typeName simpleName tableName fields } = k
  have hknown : k.entity = Entity.ofFields typeName simpleName tableName fields ∧ k.Follows { matchers } := by
    rw [← hk]
    rcases hlookup : memory.kept.lookup typeName with _ | known
    · exact ⟨rfl, Kept.follows_fresh _ _⟩
    · exact hmemory known hlookup
  obtain ⟨k', hplan, -, -⟩ := k.plan_follows hknown.2 columns
  rw [hknown.1, planPlain_eq h.distinct] at hplan
  refine ⟨_, _, specialize_kept rfl hk hplan, fun row => ?_⟩
  refine Fillings.sameOutcome hfields (fits_routedFillings _ _ _) (fits_foundFillings _ _ _)
    (fun g hg => ?_) fun g hg p hp => ?_
  · rw [h.provider?_routedFillings hfields hg]
    refine (provider?_foundFillings hfields hg fun hstored f hf hslot => ?_).symm
    rintro ⟨c, hc, haccepts⟩
    exact h.targets c hc f hf g hstored (hslot ▸ haccepts) haccepts
  · rw [h.provider?_routedFillings hfields hg] at hp
    obtain ⟨hstored, c, hc, haccepts⟩ := exists_of_columnProvider? hg hp
    rw [h.columnProvider?_eq hstored hc haccepts] at hp
    cases hp
    exact (codecs_read g.label _).map

def parcelFields : List Field :=
  [{ name := "code", label := "String", holds := .column (.required (.element .text)) },
    { name := "weight", label := "i32", holds := .column (.required (.element .int32)), column := "weight_grams"
      mutable := true },
    { name := "note", label := "Option<String>", holds := .column (.nullable (.element .text)) },
    { name := "depot", label := "Option<Depot>", holds := .joined "app::Depot", transient := true }]

theorem OneToOne.specialize_agrees_parcels :
    ∃ plan memory', specialize { matchers := [.exact, .snakeCase] }
        (.kept "app::Parcel" (Entity.ofFields "app::Parcel" "Parcel" none parcelFields))
        (labelled 1 ["WeightGrams", "depot", "NOTE", "code"]) {} = (.ok (.record plan), memory')
      ∧ ∀ row, SameOutcome (plan.run row)
        ((planRows { matchers := [.exact, .snakeCase] } (Entity.ofFields "app::Parcel" "Parcel" none parcelFields)
          (labelled 1 ["WeightGrams", "depot", "NOTE", "code"])).run row) := by
  have hroutes : OneToOne { matchers := [.exact, .snakeCase] } parcelFields
      (labelled 1 ["WeightGrams", "depot", "NOTE", "code"]) :=
    ⟨by decide +kernel, by decide +kernel, by decide +kernel⟩
  exact hroutes.specialize_agrees (by decide +kernel) (Memory.knows_empty _ _)

end RelationalMapping
