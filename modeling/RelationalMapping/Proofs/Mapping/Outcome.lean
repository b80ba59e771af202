import RelationalMapping.Mapping.Planner
import RelationalMapping.Proofs.Entity.Construction

namespace RelationalMapping

def Provider.Serves (row : Row) (f : Field) (c : Content) (p : Provider) : Prop :=
  ∃ a, p.provide row = .ok a ∧ a.content f.transient f.holds = .ok c

theorem Provider.Serves.unique {p : Provider} {g : Field} {c d : Content} (hc : p.Serves row g c)
    (hd : p.Serves row g d) : c = d := by
  obtain ⟨a, ha, hcontent⟩ := hc
  obtain ⟨b, hb, hother⟩ := hd
  rw [ha] at hb
  cases hb
  rw [hcontent] at hother
  exact Except.ok.inj hother

def Fillings.placeOf (f : Fillings) (g : Field) : List Filling :=
  if g.mutable then f.properties else f.parameters

def Field.ref (f : Field) : FieldRef :=
  if f.mutable then .property f.property else .parameter f.parameter

variable {row : Row} {fields : List Field} {content : Field → Content}
variable {typeName simpleName : String} {tableName : Option String}

theorem mem_of_mem_fill {field : String} {provider : Provider} {fillings : List Filling} {x : Filling}
    (h : x ∈ fill field provider fillings) : x = ⟨field, provider⟩ ∨ x ∈ fillings := by
  induction fillings with
  | nil => exact .inl (List.mem_singleton.mp h)
  | cons y rest ih =>
    rw [fill] at h
    split at h
    · rcases List.mem_cons.mp h with rfl | h
      · exact .inl rfl
      · exact .inr (List.mem_cons_of_mem _ h)
    · rcases List.mem_cons.mp h with rfl | h
      · exact .inr List.mem_cons_self
      · exact (ih h).imp_right (List.mem_cons_of_mem _)

theorem mem_keys_fill {field name : String} {provider : Provider} {fillings : List Filling} :
    name ∈ (fill field provider fillings).map (·.field)
      ↔ name = field ∨ name ∈ fillings.map (·.field) := by
  induction fillings with
  | nil => simp [fill]
  | cons y rest ih =>
    rw [fill]
    split
    · rename_i hy
      simp [hy]
    · simp only [List.map_cons, List.mem_cons, ih]
      exact or_left_comm

theorem nodup_keys_fill {field : String} {provider : Provider} {fillings : List Filling}
    (h : (fillings.map (·.field)).Nodup) : ((fill field provider fillings).map (·.field)).Nodup := by
  induction fillings with
  | nil => simp [fill]
  | cons y rest ih =>
    obtain ⟨hy, hrest⟩ := List.nodup_cons.mp h
    rw [fill]
    split
    · rename_i hfield
      exact List.nodup_cons.mpr ⟨hfield ▸ hy, hrest⟩
    · rename_i hfield
      refine List.nodup_cons.mpr ⟨fun hmem => ?_, ih hrest⟩
      exact (mem_keys_fill.mp hmem).elim hfield hy

def providerOf (fillings : List Filling) (name : String) : Option Provider :=
  (fillings.find? (·.field == name)).map (·.provider)

theorem providerOf_cons (x : Filling) (rest : List Filling) (name : String) :
    providerOf (x :: rest) name = if x.field = name then some x.provider else providerOf rest name := by
  rw [providerOf, List.find?_cons]
  by_cases h : x.field = name
  · simp [h]
  · simp [beq_eq_false_iff_ne.mpr h, h, providerOf]

theorem providerOf_eq_none_iff {fillings : List Filling} {name : String} :
    providerOf fillings name = none ↔ name ∉ fillings.map (·.field) := by
  simp [providerOf]

theorem providerOf_of_mem {fillings : List Filling} (hkeys : (fillings.map (·.field)).Nodup) {x : Filling}
    (hx : x ∈ fillings) : providerOf fillings x.field = some x.provider := by
  have hfound : fillings.find? (·.field == x.field) = some x :=
    find?_unique hx (beq_self_eq_true _) fun y hy hfield =>
      List.inj_on_of_nodup_map hkeys hy hx (beq_iff_eq.mp hfield)
  rw [providerOf, hfound]
  rfl

theorem providerOf_append (fillings others : List Filling) (name : String) :
    providerOf (fillings ++ others) name = (providerOf fillings name).or (providerOf others name) := by
  rw [providerOf, List.find?_append, Option.map_or]
  rfl

theorem providerOf_fill (field name : String) (provider : Provider) (fillings : List Filling) :
    providerOf (fill field provider fillings) name
      = if field = name then some provider else providerOf fillings name := by
  induction fillings with
  | nil => rw [fill, providerOf_cons]
  | cons y rest ih =>
    rw [fill]
    split
    · rename_i hfield
      rw [providerOf_cons, providerOf_cons, hfield]
      split <;> rfl
    · rename_i hfield
      rw [providerOf_cons, providerOf_cons, ih]
      split
      · rename_i hname
        rw [if_neg (hname ▸ Ne.symm hfield)]
      · rfl

structure Placed (fields : List Field) (mutable : Bool) (fillings : List Filling) : Prop where
  once : (fillings.map (·.field)).Nodup
  places : ∀ x ∈ fillings, ∃ g ∈ fields, g.mutable = mutable ∧ g.name = x.field

structure Fillings.Fits (fields : List Field) (f : Fillings) : Prop where
  parameters : Placed fields false f.parameters
  properties : Placed fields true f.properties

def Fillings.provider? (f : Fillings) (g : Field) : Option Provider := providerOf (f.placeOf g) g.name

theorem placed_nil (mutable : Bool) : Placed fields mutable [] := ⟨List.nodup_nil, by simp⟩

theorem Placed.fill {mutable : Bool} {fillings : List Filling} (h : Placed fields mutable fillings)
    {g : Field} (hg : g ∈ fields) (hmutable : g.mutable = mutable) (provider : Provider) :
    Placed fields mutable (fill g.name provider fillings) := by
  refine ⟨nodup_keys_fill h.once, fun x hx => ?_⟩
  rcases mem_of_mem_fill hx with rfl | hx
  · exact ⟨g, hg, hmutable, rfl⟩
  · exact h.places x hx

theorem Placed.providerOf_eq_none {mutable : Bool} {fillings : List Filling}
    (h : Placed fields mutable fillings) (hfields : (fields.map (·.name)).Nodup) {g : Field} (hg : g ∈ fields)
    (hmutable : g.mutable ≠ mutable) : providerOf fillings g.name = none := by
  rw [providerOf_eq_none_iff]
  intro hmem
  obtain ⟨x, hx, hname⟩ := List.mem_map.mp hmem
  obtain ⟨other, hother, hplace, hfield⟩ := h.places x hx
  rw [eq_of_name_eq hfields hother hg (hfield.trans hname)] at hplace
  exact hmutable hplace

namespace Fillings

variable {g other : Field}

theorem fits_empty : Fillings.Fits fields {} := ⟨placed_nil false, placed_nil true⟩

theorem Fits.add {f : Fillings} (h : f.Fits fields) (hg : g ∈ fields) (provider : Provider) :
    (f.add g.ref provider).Fits fields := by
  unfold Field.ref
  cases hmutable : g.mutable with
  | false => exact ⟨h.parameters.fill hg hmutable provider, h.properties⟩
  | true => exact ⟨h.parameters, h.properties.fill hg hmutable provider⟩

theorem provider?_add (f : Fillings) (hfields : (fields.map (·.name)).Nodup) (hg : g ∈ fields)
    (hother : other ∈ fields) (provider : Provider) :
    (f.add g.ref provider).provider? other = if other = g then some provider else f.provider? other := by
  have hplace : (f.add g.ref provider).placeOf other
      = if other.mutable = g.mutable then fill g.name provider (f.placeOf other) else f.placeOf other := by
    unfold placeOf Field.ref
    cases g.mutable <;> cases other.mutable <;> rfl
  have hname : g.name = other.name ↔ other = g := by
    constructor
    · exact fun hname => eq_of_name_eq hfields hother hg hname.symm
    · rintro rfl
      rfl
  rw [provider?, hplace]
  split
  · rw [providerOf_fill]
    simp only [hname]
    rfl
  · rename_i hmutable
    rw [if_neg fun heq => hmutable (congrArg Field.mutable heq)]
    rfl

theorem provider?_empty (g : Field) : provider? {} g = none := by
  unfold provider? placeOf
  cases g.mutable <;> rfl

theorem provider?_foldl {α : Type} {step : Fillings → α → Fillings} {items : List α} {P : Option Provider → Prop}
    (hsteps : ∀ x ∈ items, (∀ f : Fillings, (step f x).provider? g = f.provider? g)
      ∨ ∀ f : Fillings, P ((step f x).provider? g))
    {f : Fillings} (h : P (f.provider? g) ∨ ∃ x ∈ items, ∀ f : Fillings, P ((step f x).provider? g)) :
    P ((items.foldl step f).provider? g) := by
  induction items generalizing f with
  | nil => simpa using h
  | cons x rest ih =>
    refine ih (fun y hy => hsteps y (List.mem_cons_of_mem _ hy)) ?_
    rcases h with h | ⟨y, hy, hfill⟩
    · refine .inl ?_
      rcases hsteps x List.mem_cons_self with hkeep | hfill
      · rw [hkeep]
        exact h
      · exact hfill f
    · rcases List.mem_cons.mp hy with rfl | hy
      · exact .inl (hfill f)
      · exact .inr ⟨y, hy, hfill⟩

end Fillings

def withNulls (required : List Parameter) (fillings : List Filling) : List Filling :=
  required.foldl
    (fun parameters p =>
      if parameters.any (·.field == p.name) then parameters else parameters ++ [⟨p.name, .null⟩])
    fillings

theorem mem_withNulls {required : List Parameter} {fillings : List Filling} {x : Filling}
    (h : x ∈ withNulls required fillings) :
    x ∈ fillings ∨ ∃ p ∈ required, p.name ∉ fillings.map (·.field) ∧ x = ⟨p.name, .null⟩ := by
  induction required generalizing fillings with
  | nil => exact .inl h
  | cons p rest ih =>
    rw [withNulls, List.foldl_cons] at h
    split at h
    · rcases ih h with h | ⟨q, hq, hname, rfl⟩
      · exact .inl h
      · exact .inr ⟨q, List.mem_cons_of_mem _ hq, hname, rfl⟩
    · rename_i habsent
      have hname : p.name ∉ fillings.map (·.field) := by
        intro hmem
        obtain ⟨y, hy, hfield⟩ := List.mem_map.mp hmem
        exact habsent (List.any_eq_true.mpr ⟨y, hy, beq_iff_eq.mpr hfield⟩)
      rcases ih h with h | ⟨q, hq, hother, rfl⟩
      · rcases List.mem_append.mp h with h | h
        · exact .inl h
        · exact .inr ⟨p, List.mem_cons_self, hname, List.mem_singleton.mp h⟩
      · refine .inr ⟨q, List.mem_cons_of_mem _ hq, ?_, rfl⟩
        exact fun hq => hother (by simpa using .inl (by simpa using hq))

theorem any_field_iff {fillings : List Filling} {name : String} :
    fillings.any (·.field == name) = true ↔ name ∈ fillings.map (·.field) := by
  simp

theorem Placed.withNulls {required : List Parameter} {fillings : List Filling}
    (h : Placed fields false fillings)
    (hrequired : ∀ p ∈ required, ∃ g ∈ fields, g.mutable = false ∧ g.name = p.name) :
    Placed fields false (withNulls required fillings) := by
  induction required generalizing fillings with
  | nil => exact h
  | cons p rest ih =>
    simp only [List.mem_cons, forall_eq_or_imp] at hrequired
    rw [RelationalMapping.withNulls, List.foldl_cons]
    refine ih ?_ hrequired.2
    split
    · exact h
    · rename_i habsent
      rw [any_field_iff] at habsent
      refine ⟨?_, fun x hx => ?_⟩
      · rw [List.map_append]
        exact h.once.append (List.nodup_singleton _) (List.disjoint_singleton.mpr habsent)
      · rcases List.mem_append.mp hx with hx | hx
        · exact h.places x hx
        · cases List.mem_singleton.mp hx
          exact hrequired.1

theorem providerOf_withNulls (required : List Parameter) (fillings : List Filling) (name : String) :
    providerOf (withNulls required fillings) name
      = (providerOf fillings name).or (if name ∈ required.map (·.name) then some .null else none) := by
  induction required generalizing fillings with
  | nil => simp [withNulls]
  | cons p rest ih =>
    rw [withNulls, List.foldl_cons]
    refine (ih _).trans ?_
    simp only [any_field_iff, List.map_cons, List.mem_cons]
    by_cases hfilled : p.name ∈ fillings.map (·.field)
    · rw [if_pos hfilled]
      by_cases hname : name = p.name
      · subst hname
        rcases hprovider : providerOf fillings p.name with _ | provider
        · exact absurd hfilled (providerOf_eq_none_iff.mp hprovider)
        · simp
      · simp [hname]
    · rw [if_neg hfilled, providerOf_append, providerOf_cons]
      by_cases hname : name = p.name
      · subst hname
        rw [providerOf_eq_none_iff.mpr hfilled]
        simp
      · simp [hname, Ne.symm hname, providerOf]

def readAsNull (fields : List Field) : List Parameter :=
  ((constructed fields).map (·.parameter)).filter fun p => !p.optional && p.nullable

theorem exists_readAsNull {p : Parameter} (hp : p ∈ readAsNull fields) :
    ∃ g ∈ fields, g.mutable = false ∧ g.name = p.name := by
  obtain ⟨g, hg, rfl⟩ := List.mem_map.mp (List.mem_filter.mp hp).1
  obtain ⟨hg, hmutable⟩ := List.mem_filter.mp hg
  exact ⟨g, hg, by simpa using hmutable, rfl⟩

theorem mem_names_readAsNull (hfields : (fields.map (·.name)).Nodup) {g : Field} (hg : g ∈ fields)
    (hmutable : g.mutable = false) :
    g.name ∈ (readAsNull fields).map (·.name) ↔ g.optional = false ∧ g.holds.isOptional = true := by
  have hiff : ∀ f : Field, (!f.parameter.optional && f.parameter.nullable) = true
      ↔ f.optional = false ∧ f.holds.isOptional = true := by
    intro f
    simp [Field.parameter]
  constructor
  · intro hmem
    obtain ⟨p, hp, hname⟩ := List.mem_map.mp hmem
    obtain ⟨hp, hnullable⟩ := List.mem_filter.mp hp
    obtain ⟨f, hf, rfl⟩ := List.mem_map.mp hp
    rw [eq_of_name_eq hfields (List.mem_filter.mp hf).1 hg hname] at hnullable
    exact (hiff g).mp hnullable
  · intro h
    have hparameter : g.parameter ∈ (constructed fields).map (·.parameter) :=
      List.mem_map_of_mem (List.mem_filter.mpr ⟨hg, by simp [hmutable]⟩)
    exact List.mem_map.mpr ⟨g.parameter, List.mem_filter.mpr ⟨hparameter, (hiff g).mpr h⟩, rfl⟩

theorem content_null {g : Field} (h : g.holds.isOptional = true) :
    (Argument.value .null).content g.transient g.holds = .ok g.holds.initial := by
  unfold Argument.content
  split
  · rename_i t _ hholds
    rw [hholds] at h ⊢
    obtain ⟨base, optional⟩ := t
    cases (h : optional = true)
    rfl
  · rfl

theorem lookup_provideAll {entity : String} {fillings : List Filling} {args provided : Arguments}
    (hkeys : (fillings.map (·.field)).Nodup) (h : provideAll row entity fillings args = .ok provided)
    (name : String) :
    match providerOf fillings name with
    | some p => ∃ a, p.provide row = .ok a ∧ provided.entries.lookup name = some a
    | none => provided.entries.lookup name = args.entries.lookup name := by
  induction fillings generalizing args with
  | nil =>
    rw [provideAll] at h
    cases h
    rfl
  | cons x rest ih =>
    obtain ⟨hx, hrest⟩ := List.nodup_cons.mp hkeys
    obtain ⟨field, provider⟩ := x
    rw [provideAll] at h
    cases hprovide : provider.provide row with
    | error fault => rw [hprovide] at h; cases h
    | ok a =>
      rw [hprovide] at h
      have hothers := ih hrest h
      rw [providerOf_cons]
      by_cases hname : field = name
      · subst hname
        rw [providerOf_eq_none_iff.mpr hx, Arguments.lookup_insert_self] at hothers
        rw [if_pos rfl]
        exact ⟨a, hprovide, hothers⟩
      · rw [if_neg hname]
        rwa [Arguments.lookup_insert_other (Ne.symm hname)] at hothers

theorem exists_provideAll {entity : String} {fillings : List Filling} (args : Arguments)
    (h : ∀ x ∈ fillings, ∃ a, x.provider.provide row = .ok a) :
    ∃ provided, provideAll row entity fillings args = .ok provided := by
  induction fillings generalizing args with
  | nil => exact ⟨args, by rw [provideAll]⟩
  | cons x rest ih =>
    obtain ⟨field, provider⟩ := x
    obtain ⟨a, ha⟩ := h _ List.mem_cons_self
    obtain ⟨provided, hprovided⟩ := ih (args.insert field a) fun y hy => h y (List.mem_cons_of_mem _ hy)
    refine ⟨provided, ?_⟩
    simp only at ha
    rw [provideAll, ha]
    exact hprovided

def Field.Receives (row : Row) (g : Field) (current : Content) (provider? : Option Provider)
    (c : Content) : Prop :=
  match provider? with
  | some p => p.Serves row g c
  | none => c = current

theorem assign_provided_eq_ok_iff {f : Field} {provider : Provider} {current : Field → Content} {i : Instance}
    (hfields : (fields.map (·.name)).Nodup) (hf : f ∈ fields) (hmutable : f.mutable = true) :
    ((provider.provide row).mapError (Error.within simpleName) >>= fun a =>
      ((Entity.ofFields typeName simpleName tableName fields).assign (recordOf typeName fields current)
        f.name a).mapError (Error.within simpleName)) = .ok i
      ↔ ∃ c, provider.Serves row f c
        ∧ i = recordOf typeName fields fun g => if g.name = f.name then c else current g := by
  cases hprovide : provider.provide row with
  | error fault =>
    constructor
    · intro h
      cases h
    · rintro ⟨c, ⟨a, ha, -⟩, -⟩
      rw [hprovide] at ha
      cases ha
  | ok a =>
    change (Entity.assign _ _ f.name a).mapError _ = _ ↔ _
    rw [assign_eq a hfields hf hmutable]
    cases hc : a.content f.transient f.holds with
    | error fault =>
      constructor
      · intro h
        cases h
      · rintro ⟨c, ⟨b, hb, haccepts⟩, -⟩
        rw [hprovide] at hb
        cases hb
        rw [hc] at haccepts
        cases haccepts
    | ok c =>
      have hserves : provider.Serves row f c := ⟨a, hprovide, hc⟩
      constructor
      · intro h
        cases h
        exact ⟨c, hserves, rfl⟩
      · rintro ⟨d, hd, rfl⟩
        rw [hserves.unique hd]
        rfl

theorem assignAll_eq_ok_iff {fillings : List Filling} {current : Field → Content} {i : Instance}
    (hfields : (fields.map (·.name)).Nodup) (hkeys : (fillings.map (·.field)).Nodup)
    (hplaces : ∀ x ∈ fillings, ∃ f ∈ fields, f.mutable = true ∧ f.name = x.field) :
    assignAll row (Entity.ofFields typeName simpleName tableName fields) fillings
        (recordOf typeName fields current) = .ok i
      ↔ ∃ content, i = recordOf typeName fields content
        ∧ ∀ g ∈ fields, g.Receives row (current g) (providerOf fillings g.name) (content g) := by
  induction fillings generalizing current with
  | nil =>
    rw [assignAll]
    constructor
    · intro h
      cases h
      exact ⟨current, rfl, fun _ _ => rfl⟩
    · rintro ⟨content, rfl, h⟩
      refine congrArg (fun entries => Except.ok (Instance.record typeName entries)) ?_
      exact contents_congr fun g hg => (h g (mem_members.mp hg)).symm
  | cons x rest ih =>
    obtain ⟨hx, hrest⟩ := List.nodup_cons.mp hkeys
    obtain ⟨f, hf, hmutable, hname⟩ := hplaces x List.mem_cons_self
    obtain ⟨field, provider⟩ := x
    cases hname
    have hself : providerOf (⟨f.name, provider⟩ :: rest) f.name = some provider := by
      rw [providerOf_cons, if_pos rfl]
    have hsplit : assignAll row (Entity.ofFields typeName simpleName tableName fields)
        (⟨f.name, provider⟩ :: rest) (recordOf typeName fields current)
        = ((provider.provide row).mapError (Error.within simpleName) >>= fun a =>
          ((Entity.ofFields typeName simpleName tableName fields).assign (recordOf typeName fields current)
            f.name a).mapError (Error.within simpleName))
          >>= assignAll row (Entity.ofFields typeName simpleName tableName fields) rest := by
      rw [assignAll]
      exact (bind_assoc _ _ _).symm
    rw [hsplit, bind_eq_ok_iff]
    simp only [assign_provided_eq_ok_iff hfields hf hmutable]
    constructor
    · rintro ⟨_, ⟨c, hc, rfl⟩, h⟩
      obtain ⟨content, rfl, hcontent⟩ := (ih hrest fun y hy => hplaces y (List.mem_cons_of_mem _ hy)).mp h
      refine ⟨content, rfl, fun g hg => ?_⟩
      have hg' := hcontent g hg
      by_cases hname : g.name = f.name
      · cases eq_of_name_eq hfields hg hf hname
        rw [providerOf_eq_none_iff.mpr hx, if_pos rfl] at hg'
        rw [hself]
        exact (hg' : content f = c) ▸ hc
      · rw [if_neg hname] at hg'
        rwa [providerOf_cons, if_neg (Ne.symm hname)]
    · rintro ⟨content, rfl, hcontent⟩
      have hc := hcontent f hf
      rw [hself] at hc
      refine ⟨_, ⟨content f, hc, rfl⟩, (ih hrest fun y hy => hplaces y (List.mem_cons_of_mem _ hy)).mpr
        ⟨content, rfl, fun g hg => ?_⟩⟩
      have hg' := hcontent g hg
      by_cases hname : g.name = f.name
      · cases eq_of_name_eq hfields hg hf hname
        rw [providerOf_eq_none_iff.mpr hx, if_pos rfl]
        rfl
      · rw [providerOf_cons, if_neg (Ne.symm hname)] at hg'
        rwa [if_neg hname]

def Field.Spared (g : Field) : Prop :=
  g.mutable = true ∨ g.transient = true ∨ g.optional = true ∨ g.holds.isOptional = true

def Field.Gets (row : Row) (g : Field) (provider? : Option Provider) (c : Content) : Prop :=
  match provider? with
  | some p => p.Serves row g c
  | none => g.Spared ∧ c = g.holds.initial

theorem Fillings.supply_eq_ok_iff {f : Fillings} (hfields : (fields.map (·.name)).Nodup) (hf : f.Fits fields)
    {provided : Arguments}
    (hprovided : provideAll row simpleName (RelationalMapping.withNulls (readAsNull fields) f.parameters)
      (.empty simpleName) = .ok provided)
    {g : Field} (hg : g ∈ fields) (hmutable : g.mutable = false) {c : Content} :
    provided.supply g = .ok c ↔ g.Gets row (f.provider? g) c := by
  have hlookup := lookup_provideAll (hf.parameters.withNulls fun p => exists_readAsNull).once hprovided g.name
  have hplace : f.provider? g = providerOf f.parameters g.name := by simp [provider?, placeOf, hmutable]
  rw [providerOf_withNulls, ← hplace] at hlookup
  unfold Arguments.supply
  rcases hprovider : f.provider? g with _ | p
  · rw [hprovider, Option.none_or] at hlookup
    by_cases hnull : g.name ∈ (readAsNull fields).map (·.name)
    · have hoptional := ((mem_names_readAsNull hfields hg hmutable).mp hnull).2
      rw [if_pos hnull] at hlookup
      obtain ⟨a, ha, hfound⟩ := hlookup
      cases ha
      simp only [hfound, content_null hoptional]
      constructor
      · intro h
        cases h
        exact ⟨.inr (.inr (.inr hoptional)), rfl⟩
      · rintro ⟨-, rfl⟩
        rfl
    · rw [if_neg hnull] at hlookup
      rw [mem_names_readAsNull hfields hg hmutable] at hnull
      have hmissing : provided.entries.lookup g.name = none := hlookup
      simp only [hmissing]
      constructor
      · intro h
        split at h
        · cases h
        · rename_i hspared
          cases h
          refine ⟨?_, rfl⟩
          unfold Field.Spared
          cases htransient : g.transient <;> cases hoptional : g.optional <;> cases hholds : g.holds <;>
            simp_all [HeldType.isOptional]
      · rintro ⟨hspared, rfl⟩
        unfold Field.Spared at hspared
        cases htransient : g.transient <;> cases hoptional : g.optional <;> cases hholds : g.holds <;>
          simp_all [HeldType.isOptional]
  · rw [hprovider, Option.some_or] at hlookup
    obtain ⟨a, ha, hfound⟩ := hlookup
    rw [hfound]
    constructor
    · exact fun haccepts => ⟨a, ha, haccepts⟩
    · rintro ⟨b, hb, haccepts⟩
      rw [ha] at hb
      cases hb
      exact haccepts

theorem Fillings.toPlan_eq (f : Fillings) (e : Entity) :
    f.toPlan e = ⟨e, withNulls (e.parameters.filter fun p => !p.optional && p.nullable) f.parameters,
      f.properties⟩ := rfl

theorem Fillings.run_toPlan_eq (f : Fillings) :
    (f.toPlan (Entity.ofFields typeName simpleName tableName fields)).run row
      = provideAll row simpleName (RelationalMapping.withNulls (readAsNull fields) f.parameters)
          (.empty simpleName)
        >>= fun args => (((Entity.ofFields typeName simpleName tableName fields).instantiate args).map
          Prod.fst).mapError (Error.within simpleName)
        >>= assignAll row (Entity.ofFields typeName simpleName tableName fields) f.properties := by
  rw [toPlan_eq, Plan.run]
  refine bind_congr fun args => ?_
  change (_ >>= fun made : Instance × Arguments => _) = _
  rcases (Entity.ofFields typeName simpleName tableName fields).instantiate args with fault | made <;> rfl

theorem Fillings.receives_started_iff {f : Fillings} {made : Field → Content}
    (hfields : (fields.map (·.name)).Nodup) (hf : f.Fits fields) {g : Field} (hg : g ∈ fields) {c : Content} :
    g.Receives row (started made g) (providerOf f.properties g.name) c
      ↔ if g.mutable then g.Gets row (f.provider? g) c else c = made g := by
  cases hmutable : g.mutable with
  | true =>
    have hplace : f.provider? g = providerOf f.properties g.name := by simp [provider?, placeOf, hmutable]
    rw [if_pos rfl, hplace]
    cases providerOf f.properties g.name with
    | some p => exact Iff.rfl
    | none => simp [Field.Receives, Field.Gets, Field.Spared, started, hmutable]
  | false =>
    rw [hf.properties.providerOf_eq_none hfields hg (by simp [hmutable])]
    simp [Field.Receives, started, hmutable]

theorem Fillings.Fits.exists_of_mem {f : Fillings} (hf : f.Fits fields) {x : Filling}
    (hx : x ∈ f.parameters ++ f.properties) : ∃ g ∈ fields, f.provider? g = some x.provider := by
  rcases List.mem_append.mp hx with hx | hx
  · obtain ⟨g, hg, hmutable, hname⟩ := hf.parameters.places x hx
    refine ⟨g, hg, ?_⟩
    rw [provider?, hname]
    simpa [placeOf, hmutable] using providerOf_of_mem hf.parameters.once hx
  · obtain ⟨g, hg, hmutable, hname⟩ := hf.properties.places x hx
    refine ⟨g, hg, ?_⟩
    rw [provider?, hname]
    simpa [placeOf, hmutable] using providerOf_of_mem hf.properties.once hx

theorem Fillings.provides_of_gets {f : Fillings} (hf : f.Fits fields)
    (hgets : ∀ g ∈ fields, g.Gets row (f.provider? g) (content g)) :
    ∀ x ∈ RelationalMapping.withNulls (readAsNull fields) f.parameters, ∃ a, x.provider.provide row = .ok a := by
  intro x hx
  rcases mem_withNulls hx with hx | ⟨p, -, -, rfl⟩
  · obtain ⟨g, hg, hplace⟩ := hf.exists_of_mem (List.mem_append_left _ hx)
    have hserves := hgets g hg
    rw [hplace] at hserves
    obtain ⟨a, ha, -⟩ := hserves
    exact ⟨a, ha⟩
  · exact ⟨.value .null, rfl⟩

theorem Fillings.run_toPlan_eq_ok_iff {f : Fillings} (hfields : (fields.map (·.name)).Nodup)
    (hf : f.Fits fields) {i : Instance} :
    (f.toPlan (Entity.ofFields typeName simpleName tableName fields)).run row = .ok i
      ↔ ∃ content, i = recordOf typeName fields content
        ∧ ∀ g ∈ fields, g.Gets row (f.provider? g) (content g) := by
  rw [run_toPlan_eq, bind_eq_ok_iff]
  simp only [bind_eq_ok_iff, mapError_eq_ok_iff, instantiate_eq_ok_iff hfields]
  constructor
  · rintro ⟨provided, hprovided, _, ⟨made, rfl, hsupply⟩, hassign⟩
    obtain ⟨content, rfl, hcontent⟩ := (assignAll_eq_ok_iff hfields hf.properties.once
      hf.properties.places).mp hassign
    refine ⟨content, rfl, fun g hg => ?_⟩
    have hreceives := (receives_started_iff hfields hf hg).mp (hcontent g hg)
    cases hmutable : g.mutable with
    | true => rwa [hmutable, if_pos rfl] at hreceives
    | false =>
      rw [hmutable, if_neg (by decide)] at hreceives
      rw [hreceives, ← supply_eq_ok_iff hfields hf hprovided hg hmutable]
      exact hsupply g (List.mem_filter.mpr ⟨hg, by simp [hmutable]⟩)
  · rintro ⟨content, rfl, hgets⟩
    obtain ⟨provided, hprovided⟩ := exists_provideAll (.empty simpleName) (provides_of_gets hf hgets)
    refine ⟨provided, hprovided, _, ⟨content, rfl, fun g hg => ?_⟩, ?_⟩
    · obtain ⟨hg, hmutable⟩ := List.mem_filter.mp hg
      exact (supply_eq_ok_iff hfields hf hprovided hg (by simpa using hmutable)).mpr (hgets g hg)
    · refine (assignAll_eq_ok_iff hfields hf.properties.once hf.properties.places).mpr
        ⟨content, rfl, fun g hg => (receives_started_iff hfields hf hg).mpr ?_⟩
      split
      · exact hgets g hg
      · rfl

def Fillings.fillSlot (context : MappingContext) (columns : List ColumnLabel) (f : Fillings) (target : FieldRef) :
    Fillings :=
  match columns.find? fun c => context.accepts c.label target.slotName with
  | some c => f.addColumn context target c.position
  | none => f

def foundFillings (context : MappingContext) (e : Entity) (columns : List ColumnLabel) : Fillings :=
  e.columnFields.foldl (Fillings.fillSlot context columns) {}

def joinedFillings (context : MappingContext) (e : Entity) (columns : List ColumnLabel) (joins : List JoinPlan) :
    Fillings :=
  joins.foldl (addJoin context e) (foundFillings context e columns)

theorem assemble_eq (context : MappingContext) (e : Entity) (columns : List ColumnLabel) (joins : List JoinPlan) :
    assemble context e columns joins = (joinedFillings context e columns joins).toPlan e := rfl

theorem planRows_eq (context : MappingContext) (e : Entity) (columns : List ColumnLabel) :
    planRows context e columns = (foundFillings context e columns).toPlan e := rfl

end RelationalMapping
