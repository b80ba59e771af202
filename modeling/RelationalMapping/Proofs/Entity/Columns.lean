import RelationalMapping.Mapping.Planner
import RelationalMapping.Proofs.Entity.Construction

namespace RelationalMapping

namespace FieldRef

def override? : FieldRef → Option String
  | .parameter p => p.column
  | .property p => p.column

theorem slotName_eq (f : FieldRef) : f.slotName = f.override?.getD f.name := by
  cases f <;> rfl

end FieldRef

namespace Entity

def Declares (e : Entity) : FieldRef → Prop
  | .parameter p => p ∈ e.parameters
  | .property p => p ∈ e.properties

/-- Fields of one name, such as a parameter and its property, are set to one column name, or both to none. -/
def NamesColumnsOnce (e : Entity) : Prop :=
  ∀ f g, e.Declares f → e.Declares g → f.name = g.name → f.override? = g.override?

variable {e : Entity} {f : FieldRef}

theorem override?_of_parameter? {p : Parameter} (he : e.NamesColumnsOnce) (hf : e.Declares f)
    (hp : e.parameter? f.name = some p) : p.column = f.override? := by
  have hname : p.name = f.name := by simpa using List.find?_some hp
  exact he (.parameter p) f (List.mem_of_find?_eq_some hp) hf hname

theorem override?_of_property? {p : Property} (he : e.NamesColumnsOnce) (hf : e.Declares f)
    (hp : e.property? f.name = some p) : p.column = f.override? := by
  have hname : p.name = f.name := by simpa using List.find?_some hp
  exact he (.property p) f (List.mem_of_find?_eq_some hp) hf hname

theorem property?_ne_none (hf : e.Declares f) (hparameter : e.parameter? f.name = none) :
    e.property? f.name ≠ none := by
  intro hproperty
  cases f with
  | parameter p => exact List.find?_eq_none.mp hparameter p hf (beq_self_eq_true p.name)
  | property p => exact List.find?_eq_none.mp hproperty p hf (beq_self_eq_true p.name)

theorem ownName_of_declares (he : e.NamesColumnsOnce) (hf : e.Declares f) (alias? : Option String) :
    (Column.mk ⟨e, alias?⟩ f.name).ownName = f.override?.getD (Text.underscore f.name) := by
  have hset : ∀ p, e.parameter? f.name = some p → p.column = f.override? :=
    fun _ => override?_of_parameter? he hf
  have hset' : ∀ p, e.property? f.name = some p → p.column = f.override? :=
    fun _ => override?_of_property? he hf
  unfold Column.ownName
  rcases hparameter : e.parameter? f.name with _ | p
  · rcases hproperty : e.property? f.name with _ | q
    · exact absurd hproperty (property?_ne_none hf hparameter)
    · simp only [Option.bind_none, Option.bind_some, hset' q hproperty]
      cases f.override? <;> rfl
  · rw [Option.bind_some, hset p hparameter]
    rcases hproperty : e.property? f.name with _ | q
    · cases f.override? <;> rfl
    · rw [Option.bind_some, hset' q hproperty]
      cases f.override? <;> rfl

theorem exists_field_of_declares {typeName simpleName : String} {tableName : Option String} {fields : List Field}
    (hf : (Entity.ofFields typeName simpleName tableName fields).Declares f) :
    ∃ g ∈ fields, g.name = f.name ∧ g.column = f.override? := by
  cases f with
  | parameter p =>
    obtain ⟨g, hg, rfl⟩ := List.mem_map.mp hf
    exact ⟨g, (List.mem_filter.mp hg).1, rfl, rfl⟩
  | property p =>
    obtain ⟨g, hg, rfl⟩ := List.mem_map.mp hf
    exact ⟨g, hg, rfl, rfl⟩

theorem namesColumnsOnce_ofFields (typeName simpleName : String) (tableName : Option String) {fields : List Field}
    (hfields : (fields.map (·.name)).Nodup) :
    (Entity.ofFields typeName simpleName tableName fields).NamesColumnsOnce := by
  intro f g hf hg hname
  obtain ⟨a, ha, haname, hacolumn⟩ := exists_field_of_declares hf
  obtain ⟨b, hb, hbname, hbcolumn⟩ := exists_field_of_declares hg
  have hab : a = b := eq_of_name_eq hfields ha hb (haname.trans (hname.trans hbname.symm))
  rw [← hacolumn, ← hbcolumn, hab]

end Entity

end RelationalMapping
