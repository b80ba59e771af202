import RelationalMapping.Mapping.Mappers
import RelationalMapping.Query.Expression
import RelationalMapping.Proofs.Entity.Columns
import RelationalMapping.Proofs.Mapping.Matching
import RelationalMapping.Proofs.Mapping.Outcome
import RelationalMapping.Proofs.Value.RoundTrip

namespace RelationalMapping

structure Derived (types : TypeNames) (fields : List Field) : Prop where
  names : (fields.map (·.name)).Nodup
  holds : ∀ f ∈ fields, types.held? f.label f.transient = some f.holds

def Field.slotName (f : Field) : String := f.column.getD f.name

def Field.columnName (f : Field) : String := f.column.getD (Text.underscore f.name)

structure Unambiguous (fields : List Field) : Prop where
  ascii : ∀ f ∈ fields, Text.IsAscii f.slotName
  distinct : (fields.map fun f => folded f.slotName).Nodup

def stored (fields : List Field) : List Field := fields.filter (!·.transient)

variable {types : TypeNames} {fields : List Field} {f g : Field}
variable {typeName simpleName : String} {tableName : Option String}

theorem mem_stored : f ∈ stored fields ↔ f ∈ fields ∧ f.transient = false := by
  simp [stored]

theorem Unambiguous.eq_of_folded_eq (h : Unambiguous fields) (hf : f ∈ fields) (hg : g ∈ fields)
    (hfolded : folded f.slotName = folded g.slotName) : f = g :=
  List.inj_on_of_nodup_map h.distinct hf hg hfolded

theorem ownName_column (typeName simpleName : String) (tableName : Option String)
    (hfields : (fields.map (·.name)).Nodup) (hf : f ∈ fields) :
    ((Entity.ofFields typeName simpleName tableName fields).table.column f.name).ownName
      = f.columnName := by
  have honce := Entity.namesColumnsOnce_ofFields typeName simpleName tableName hfields
  have hdeclared : (Entity.ofFields typeName simpleName tableName fields).Declares (.property f.property) :=
    List.mem_map_of_mem hf
  exact Entity.ownName_of_declares honce hdeclared none

theorem folded_columnName (h : Text.IsAscii f.slotName) : folded f.columnName = folded f.slotName := by
  unfold Field.columnName Field.slotName at *
  cases hcolumn : f.column with
  | some name => rfl
  | none =>
    rw [hcolumn] at h
    exact folded_underscore h

theorem isAscii_columnName (h : Text.IsAscii f.slotName) : Text.IsAscii f.columnName := by
  unfold Field.columnName Field.slotName at *
  cases hcolumn : f.column with
  | some name =>
    rw [hcolumn] at h
    exact h
  | none =>
    rw [hcolumn] at h
    exact isAscii_underscore h

theorem accepts_columnName_iff (h : Unambiguous fields) (hf : f ∈ fields) (hg : g ∈ fields) :
    MappingContext.standard.accepts f.columnName g.slotName = true ↔ g = f := by
  rw [standard_accepts_iff, folded_columnName (h.ascii f hf)]
  constructor
  · exact fun hfolded => h.eq_of_folded_eq hg hf hfolded.symm
  · rintro rfl
    rfl

theorem nodup_lowercase_columnNames (h : Unambiguous fields) :
    ((stored fields).map fun f => Text.lowercase f.columnName).Nodup := by
  have hstored : ((stored fields).map fun f => folded f.slotName).Nodup :=
    h.distinct.sublist (List.filter_sublist.map _)
  rw [List.Nodup, List.pairwise_map] at hstored ⊢
  refine hstored.imp_of_mem fun {f g} hf hg hdiffer heq => hdiffer ?_
  have hf := h.ascii f (mem_stored.mp hf).1
  have hg := h.ascii g (mem_stored.mp hg).1
  rw [← folded_columnName hf, ← folded_columnName hg]
  exact folded_eq_of_lowercase_eq (isAscii_columnName hf) (isAscii_columnName hg) heq

theorem mem_columnParameters {p : Parameter} :
    p ∈ (Entity.ofFields typeName simpleName tableName fields).columnParameters
      ↔ ∃ f ∈ stored fields, f.mutable = false ∧ f.parameter = p := by
  simp only [Entity.columnParameters, Entity.ofFields, List.mem_filter, List.mem_map, mem_stored]
  constructor
  · rintro ⟨⟨f, ⟨hf, hmutable⟩, rfl⟩, htransient⟩
    exact ⟨f, ⟨hf, by simpa [Field.parameter] using htransient⟩, by simpa using hmutable, rfl⟩
  · rintro ⟨f, ⟨hf, htransient⟩, hmutable, rfl⟩
    exact ⟨⟨f, ⟨hf, by simpa using hmutable⟩, rfl⟩, by simpa [Field.parameter] using htransient⟩

theorem mem_columnProperties {p : Property} :
    p ∈ (Entity.ofFields typeName simpleName tableName fields).columnProperties
      ↔ ∃ f ∈ stored fields, f.mutable = true ∧ f.property = p := by
  simp only [Entity.columnProperties, Entity.ofFields, List.mem_filter, List.mem_map, mem_stored]
  constructor
  · rintro ⟨⟨f, hf, rfl⟩, h⟩
    obtain ⟨hmutable, htransient⟩ : f.mutable = true ∧ f.transient = false := by
      simpa [Field.property] using h
    exact ⟨f, ⟨hf, htransient⟩, hmutable, rfl⟩
  · rintro ⟨f, ⟨hf, htransient⟩, hmutable, rfl⟩
    exact ⟨⟨f, hf, rfl⟩, by simp [Field.property, hmutable, htransient]⟩

theorem find?_ref {ps : List Parameter} {qs : List Property} {p : Parameter → Bool} {q : Property → Bool}
    (hparameter : f.mutable = false → f.parameter ∈ ps ∧ p f.parameter = true)
    (hproperty : f.mutable = true → f.property ∈ qs ∧ q f.property = true)
    (hps : ∀ x ∈ ps, p x = true → f.mutable = false ∧ x = f.parameter)
    (hqs : ∀ x ∈ qs, q x = true → x = f.property) :
    (match ps.find? p with
      | some x => some (FieldRef.parameter x)
      | none => (qs.find? q).map .property) = some f.ref := by
  cases hmutable : f.mutable with
  | false =>
    obtain ⟨hmem, hp⟩ := hparameter hmutable
    rw [find?_unique hmem hp fun x hx hpx => (hps x hx hpx).2, Field.ref, hmutable]
    rfl
  | true =>
    obtain ⟨hmem, hq⟩ := hproperty hmutable
    have hnone : ps.find? p = none := by
      rw [List.find?_eq_none]
      intro x hx hpx
      have hother := (hps x hx hpx).1
      rw [hmutable] at hother
      cases hother
    rw [hnone, find?_unique hmem hq hqs, Field.ref, hmutable]
    rfl

theorem route?_eq_some {context : MappingContext} {label : String} (hf : f ∈ stored fields)
    (haccepts : context.accepts label f.slotName = true)
    (halone : ∀ g ∈ stored fields, context.accepts label g.slotName = true → g = f) :
    route? context (Entity.ofFields typeName simpleName tableName fields) label = some f.ref := by
  refine find?_ref (fun hmutable => ⟨mem_columnParameters.mpr ⟨f, hf, hmutable, rfl⟩, haccepts⟩)
    (fun hmutable => ⟨mem_columnProperties.mpr ⟨f, hf, hmutable, rfl⟩, haccepts⟩) ?_ ?_
  · intro p hp hother
    obtain ⟨g, hg, hmutable, rfl⟩ := mem_columnParameters.mp hp
    cases halone g hg hother
    exact ⟨hmutable, rfl⟩
  · intro p hp hother
    obtain ⟨g, hg, -, rfl⟩ := mem_columnProperties.mp hp
    rw [halone g hg hother]

theorem exists_of_route? {context : MappingContext} {label : String} {target : FieldRef}
    (h : route? context (Entity.ofFields typeName simpleName tableName fields) label = some target) :
    ∃ g ∈ stored fields, target = g.ref ∧ context.accepts label g.slotName = true := by
  unfold route? at h
  split at h
  · rename_i p hp
    cases h
    obtain ⟨g, hg, hmutable, rfl⟩ := mem_columnParameters.mp (List.mem_of_find?_eq_some hp)
    exact ⟨g, hg, by rw [Field.ref, hmutable]; rfl, (List.find?_eq_some_iff_append.mp hp).1⟩
  · obtain ⟨p, hp, rfl⟩ := Option.map_eq_some_iff.mp h
    obtain ⟨g, hg, hmutable, rfl⟩ := mem_columnProperties.mp (List.mem_of_find?_eq_some hp)
    exact ⟨g, hg, by rw [Field.ref, hmutable]; rfl, (List.find?_eq_some_iff_append.mp hp).1⟩

theorem joinTarget?_name {context : MappingContext} (hmatchers : context.matchers ≠ [])
    (hnames : (fields.map fun f => folded f.name).Nodup) (hf : f ∈ fields) :
    joinTarget? context (Entity.ofFields typeName simpleName tableName fields) f.name = some f.ref := by
  have hself : context.accepts f.name f.name = true := accepts_self hmatchers f.name
  have hunique : ∀ g ∈ fields, context.accepts f.name g.name = true → g = f :=
    fun g hg haccepts => List.inj_on_of_nodup_map hnames hg hf (folded_eq_of_accepts haccepts).symm
  refine find?_ref (fun hmutable => ⟨?_, hself⟩) (fun hmutable => ⟨List.mem_map_of_mem hf, ?_⟩) ?_ ?_
  · exact List.mem_map_of_mem (List.mem_filter.mpr ⟨hf, by simp [hmutable]⟩)
  · exact Bool.and_eq_true_iff.mpr ⟨hmutable, hself⟩
  · intro p hp haccepts
    obtain ⟨g, hg, rfl⟩ := List.mem_map.mp hp
    obtain ⟨hg, hmutable⟩ := List.mem_filter.mp hg
    cases hunique g hg haccepts
    exact ⟨by simpa using hmutable, rfl⟩
  · intro p hp haccepts
    obtain ⟨g, hg, rfl⟩ := List.mem_map.mp hp
    rw [hunique g hg (Bool.and_eq_true_iff.mp haccepts).2]

theorem slotName_ref (f : Field) : f.ref.slotName = f.slotName := by
  unfold Field.ref
  cases f.mutable <;> rfl

theorem Fillings.addColumn_ref (f : Fillings) (context : MappingContext) (g : Field) (position : Nat) :
    f.addColumn context g.ref position = f.add g.ref (.column position (context.codec g.label)) := by
  unfold Field.ref Fillings.addColumn
  cases g.mutable <;> rfl

theorem mem_of_mem_enterParameter {refs : List FieldRef} {p : Parameter} {x : FieldRef}
    (h : x ∈ enterParameter refs p) : x = .parameter p ∨ x ∈ refs := by
  induction refs with
  | nil => exact .inl (List.mem_singleton.mp h)
  | cons y rest ih =>
    rw [enterParameter] at h
    split at h
    · exact (List.mem_cons.mp h).imp_right (List.mem_cons_of_mem _)
    · rcases List.mem_cons.mp h with rfl | h
      · exact .inr List.mem_cons_self
      · exact (ih h).imp_right (List.mem_cons_of_mem _)

theorem mem_enterParameter_self (refs : List FieldRef) (p : Parameter) :
    .parameter p ∈ enterParameter refs p := by
  induction refs with
  | nil => exact List.mem_singleton.mpr rfl
  | cons y rest ih =>
    rw [enterParameter]
    split
    · exact List.mem_cons_self
    · exact List.mem_cons_of_mem _ ih

theorem mem_enterParameter_other {refs : List FieldRef} {p : Parameter} {x : FieldRef} (h : x ∈ refs)
    (hslot : x.slotName ≠ p.slotName) : x ∈ enterParameter refs p := by
  induction refs with
  | nil => cases h
  | cons y rest ih =>
    rw [enterParameter]
    split
    · rename_i hy
      rcases List.mem_cons.mp h with rfl | h
      · exact absurd hy hslot
      · exact List.mem_cons_of_mem _ h
    · rcases List.mem_cons.mp h with rfl | h
      · exact List.mem_cons_self
      · exact List.mem_cons_of_mem _ (ih h)

theorem mem_of_mem_enterParameters {parameters : List Parameter} {refs : List FieldRef} {x : FieldRef}
    (h : x ∈ parameters.foldl enterParameter refs) : x ∈ parameters.map .parameter ∨ x ∈ refs := by
  induction parameters generalizing refs with
  | nil => exact .inr h
  | cons p rest ih =>
    rcases ih h with h | h
    · exact .inl (List.mem_cons_of_mem _ h)
    · rcases mem_of_mem_enterParameter h with rfl | h
      · exact .inl List.mem_cons_self
      · exact .inr h

theorem mem_enterParameters_other {parameters : List Parameter} {refs : List FieldRef} {x : FieldRef}
    (h : x ∈ refs) (hslot : ∀ p ∈ parameters, x = .parameter p ∨ x.slotName ≠ p.slotName) :
    x ∈ parameters.foldl enterParameter refs := by
  induction parameters generalizing refs with
  | nil => exact h
  | cons p rest ih =>
    refine ih ?_ fun q hq => hslot q (List.mem_cons_of_mem _ hq)
    rcases hslot p List.mem_cons_self with rfl | hother
    · exact mem_enterParameter_self refs p
    · exact mem_enterParameter_other h hother

theorem mem_enterParameters {parameters : List Parameter} {refs : List FieldRef} {p : Parameter}
    (h : p ∈ parameters) (hslot : ∀ q ∈ parameters, p = q ∨ p.slotName ≠ q.slotName) :
    .parameter p ∈ parameters.foldl enterParameter refs := by
  induction parameters generalizing refs with
  | nil => cases h
  | cons q rest ih =>
    have hrest := fun r hr => hslot r (List.mem_cons_of_mem q hr)
    rcases List.mem_cons.mp h with rfl | h
    · rw [List.foldl_cons]
      exact mem_enterParameters_other (mem_enterParameter_self refs p)
        fun r hr => (hrest r hr).imp_left (congrArg FieldRef.parameter)
    · exact ih h hrest

theorem Unambiguous.eq_of_slotName_eq (h : Unambiguous fields) (hf : f ∈ fields) (hg : g ∈ fields)
    (hslot : f.slotName = g.slotName) : f = g :=
  h.eq_of_folded_eq hf hg (congrArg folded hslot)

theorem exists_of_mem_columnFields {x : FieldRef}
    (hx : x ∈ (Entity.ofFields typeName simpleName tableName fields).columnFields) :
    ∃ f ∈ stored fields, x = f.ref := by
  rcases mem_of_mem_enterParameters hx with hx | hx
  · obtain ⟨p, hp, rfl⟩ := List.mem_map.mp hx
    obtain ⟨f, hf, hmutable, rfl⟩ := mem_columnParameters.mp hp
    exact ⟨f, hf, by rw [Field.ref, hmutable]; rfl⟩
  · obtain ⟨p, hp, rfl⟩ := List.mem_map.mp hx
    obtain ⟨f, hf, hmutable, rfl⟩ := mem_columnProperties.mp hp
    exact ⟨f, hf, by rw [Field.ref, hmutable]; rfl⟩

theorem ref_mem_columnFields (hf : f ∈ stored fields)
    (halone : ∀ g ∈ stored fields, f.slotName = g.slotName → g = f) :
    f.ref ∈ (Entity.ofFields typeName simpleName tableName fields).columnFields := by
  unfold Field.ref
  cases hmutable : f.mutable with
  | false =>
    refine mem_enterParameters (mem_columnParameters.mpr ⟨f, hf, hmutable, rfl⟩) fun p hp => ?_
    obtain ⟨g, hg, -, rfl⟩ := mem_columnParameters.mp hp
    by_cases heq : f.slotName = g.slotName
    · rw [halone g hg heq]
      exact .inl rfl
    · exact .inr heq
  | true =>
    have hmem : FieldRef.property f.property ∈
        (Entity.ofFields typeName simpleName tableName fields).columnProperties.map .property :=
      List.mem_map_of_mem (mem_columnProperties.mpr ⟨f, hf, hmutable, rfl⟩)
    refine mem_enterParameters_other hmem fun p hp => .inr fun heq => ?_
    obtain ⟨g, hg, hparameter, rfl⟩ := mem_columnParameters.mp hp
    rw [halone g hg heq, hmutable] at hparameter
    cases hparameter

end RelationalMapping
