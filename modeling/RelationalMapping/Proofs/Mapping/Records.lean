import RelationalMapping.Proofs.Mapping.Kept
import RelationalMapping.Proofs.Mapping.Reading

namespace RelationalMapping

namespace Entity

def fields (e : Entity) : List Field :=
  e.properties.map fun p =>
    { name := p.name, label := p.label, holds := p.holds, column := p.column, mutable := p.mutable
      transient := p.transient, optional := (e.parameter? p.name).any (·.optional) }

/-- A record derived from its fields, each of which is declared once. -/
structure IsDerived (e : Entity) : Prop where
  made : e = Entity.ofFields e.typeName e.simpleName e.tableName e.fields
  names : (e.fields.map (·.name)).Nodup

structure IsRecord (types : TypeNames) (e : Entity) : Prop where
  made : e = Entity.ofFields e.typeName e.simpleName e.tableName e.fields
  readable : Readable types e.fields

def record (e : Entity) (content : Field → Content) : Instance := recordOf e.typeName e.fields content

def HasInstance (e : Entity) (joined : String → Prop) (i : Instance) : Prop :=
  ∃ content, i = e.record content ∧ Holds e.fields content joined

end Entity

variable {types : TypeNames} {e : Entity} {content : Field → Content} {row : Row}

def Field.told (f : Field) : Field := { f with optional := !f.mutable && f.optional }

theorem fields_ofFields (typeName simpleName : String) (tableName : Option String) {fields : List Field}
    (hfields : (fields.map (·.name)).Nodup) :
    (Entity.ofFields typeName simpleName tableName fields).fields = fields.map Field.told := by
  have hparameter : ∀ f ∈ fields, ((Entity.ofFields typeName simpleName tableName fields).parameter? f.name).any
      (·.optional) = (!f.mutable && f.optional) := by
    intro f hf
    have hmem : ∀ p ∈ (constructed fields).map (·.parameter), (p.name == f.name) = true →
        f.mutable = false ∧ p = f.parameter := by
      intro p hp hname
      obtain ⟨g, hg, rfl⟩ := List.mem_map.mp hp
      obtain ⟨hg, hmutable⟩ := List.mem_filter.mp hg
      rw [eq_of_name_eq hfields hg hf (beq_iff_eq.mp hname)] at hmutable ⊢
      exact ⟨by simpa using hmutable, rfl⟩
    have hfind : (Entity.ofFields typeName simpleName tableName fields).parameter? f.name
        = ((constructed fields).map (·.parameter)).find? (·.name == f.name) := rfl
    rw [hfind]
    rcases hfound : ((constructed fields).map (·.parameter)).find? (·.name == f.name) with _ | p
    · have hmutable : f.mutable = true := by
        by_contra hnot
        have hparameter : f.parameter ∈ (constructed fields).map (·.parameter) :=
          List.mem_map_of_mem (List.mem_filter.mpr ⟨hf, by simpa using hnot⟩)
        exact List.find?_eq_none.mp hfound _ hparameter (beq_self_eq_true f.name)
      rw [hfound, hmutable]
      rfl
    · obtain ⟨hmutable, rfl⟩ := hmem p (List.mem_of_find?_eq_some hfound)
        (List.find?_eq_some_iff_append.mp hfound).1
      rw [hfound, hmutable]
      rfl
  unfold Entity.fields
  change (fields.map (·.property)).map _ = _
  rw [List.map_map]
  refine List.map_congr_left fun f hf => ?_
  have hoptional := hparameter f hf
  simp only [Function.comp_apply, Field.property, Field.told]
  rw [hoptional]

theorem ofFields_told (typeName simpleName : String) (tableName : Option String) (fields : List Field) :
    Entity.ofFields typeName simpleName tableName (fields.map Field.told)
      = Entity.ofFields typeName simpleName tableName fields := by
  have hparameters : ((fields.map Field.told).filter (!·.mutable)).map (·.parameter)
      = (fields.filter (!·.mutable)).map (·.parameter) := by
    rw [List.filter_map, List.map_map]
    refine List.map_congr_left fun f hf => ?_
    have hmutable : f.mutable = false := by simpa [Field.told] using (List.mem_filter.mp hf).2
    simp [Field.parameter, Field.told, hmutable]
  have hproperties : (fields.map Field.told).map (·.property) = fields.map (·.property) := by
    rw [List.map_map]
    rfl
  simp only [Entity.ofFields, hparameters, hproperties]

theorem Entity.IsRecord.isDerived (h : e.IsRecord types) : e.IsDerived := ⟨h.made, h.readable.derived.names⟩

theorem isDerived_ofFields (typeName simpleName : String) (tableName : Option String) {fields : List Field}
    (hfields : (fields.map (·.name)).Nodup) : (Entity.ofFields typeName simpleName tableName fields).IsDerived := by
  have htold := fields_ofFields typeName simpleName tableName hfields
  refine ⟨?_, ?_⟩
  · rw [htold]
    exact (ofFields_told typeName simpleName tableName fields).symm
  · rw [htold, List.map_map]
    exact hfields

theorem isRecord_ofFields {typeName simpleName : String} {tableName : Option String} {fields : List Field}
    (h : Readable types fields) : (Entity.ofFields typeName simpleName tableName fields).IsRecord types := by
  obtain ⟨hmade, hnames⟩ := isDerived_ofFields typeName simpleName tableName h.derived.names
  refine ⟨hmade, ⟨⟨hnames, ?_⟩, ?_⟩⟩ <;> rw [fields_ofFields typeName simpleName tableName h.derived.names]
  · exact List.forall_mem_map.mpr h.derived.holds
  · refine ⟨?_, ?_⟩
    · exact List.forall_mem_map.mpr h.unambiguous.ascii
    · rw [List.map_map]
      exact h.unambiguous.distinct

def Entity.columnLabels (e : Entity) : List String :=
  (stored e.fields).map fun f => (e.table.column f.name).ownName

def Entity.columnCells (e : Entity) (i : Instance) : Row :=
  (stored e.fields).map fun f => (e.storedValue? i f.name).getD .null

theorem lookup_contents {fields : List Field} (hfields : (fields.map (·.name)).Nodup) {f : Field}
    (hf : f ∈ fields) : (contents content fields).lookup f.name = some (content f) := by
  induction fields with
  | nil => cases hf
  | cons g rest ih =>
    obtain ⟨hg, hrest⟩ := List.nodup_cons.mp hfields
    rw [contents, List.map_cons, List.lookup_cons]
    rcases List.mem_cons.mp hf with rfl | hf
    · rw [beq_self_eq_true]
    · have hother : (f.name == g.name) = false := by
        simpa using fun heq => hg (List.mem_map.mpr ⟨f, hf, heq⟩)
      rw [hother]
      exact ih hrest hf

theorem Entity.storedValue?_record (hnames : (e.fields.map (·.name)).Nodup) {f : Field} (hf : f ∈ stored e.fields)
    {v : Value} (hcontent : content f = .value v) : e.storedValue? (e.record content) f.name = some v := by
  obtain ⟨hf, hstored⟩ := mem_stored.mp hf
  have hproperty : ∀ p, e.property? f.name = some p → p.transient = false := by
    intro p hp
    have hname : p.name = f.name := by simpa using List.find?_some hp
    obtain ⟨g, hg, hgname, htransient⟩ : ∃ g ∈ e.fields, g.name = p.name ∧ g.transient = p.transient :=
      ⟨_, List.mem_map_of_mem (List.mem_of_find?_eq_some hp), rfl, rfl⟩
    rw [← htransient, eq_of_name_eq hnames hg hf (hgname.trans hname), hstored]
  have hread : (e.property? f.name).any (·.transient) = false := by
    cases hp : e.property? f.name with
    | none => rfl
    | some p => exact hproperty p hp
  have hfield : (e.record content).field? f.name = some (content f) :=
    lookup_contents (nodup_members hnames) (mem_members.mpr hf)
  rw [Blueprint.storedValue?, hread, Instance.property?, hfield, hcontent]
  rfl

theorem mapM_ok {α β : Type} {f : α → Except Error β} {g : β → α} {items : List β}
    (h : ∀ x ∈ items, f (g x) = .ok x) : (items.map g).mapM f = .ok items := by
  rw [mapM_eq_ok_iff, List.forall₂_map_left_iff, List.forall₂_same]
  exact h

namespace Entity.IsRecord

variable {f : Field} {joined : String → Prop}

theorem shape (h : e.IsRecord types) : e.shape = .record := by
  rw [h.made]
  rfl

theorem instanceType_record (h : e.IsRecord types) : (e.record content).instanceType = e.instanceType := by
  rw [h.made]
  rfl

theorem field?_record (h : e.IsRecord types) (hf : f ∈ e.fields) :
    (e.record content).field? f.name = some (content f) :=
  lookup_contents (nodup_members h.readable.derived.names) (mem_members.mpr hf)

theorem ownName_column (h : e.IsRecord types) (hf : f ∈ e.fields) :
    (e.table.column f.name).ownName = f.columnName := by
  have hname := RelationalMapping.ownName_column e.typeName e.simpleName e.tableName
    h.readable.derived.names hf
  rwa [← h.made] at hname

theorem columnLabels_eq (h : e.IsRecord types) :
    e.columnLabels = (stored e.fields).map (·.columnName) :=
  List.map_congr_left fun _ hf => h.ownName_column (mem_stored.mp hf).1

theorem storedValue?_record (h : e.IsRecord types) (hholds : Holds e.fields content joined)
    (hf : f ∈ stored e.fields) : e.storedValue? (e.record content) f.name = some (content f).cell := by
  obtain ⟨t, x, -, hcontent⟩ := hholds.stores f hf
  rw [Entity.storedValue?_record h.readable.derived.names hf hcontent, hcontent]
  rfl

theorem columnCells_record (h : e.IsRecord types) (hholds : Holds e.fields content joined) :
    e.columnCells (e.record content) = (stored e.fields).map fun f => (content f).cell :=
  List.map_congr_left fun _ hf => by rw [h.storedValue?_record hholds hf, Option.getD_some]

theorem shows (h : e.IsRecord types) (hholds : Holds e.fields content joined) (before after : Row) :
    Shows (before ++ (e.columnCells (e.record content) ++ after)) e.fields content
      (labelled (before.length + 1) e.columnLabels) := by
  rw [h.columnCells_record hholds, h.columnLabels_eq]
  exact shows_labelled e.fields content before after

end Entity.IsRecord

end RelationalMapping
