import Mathlib.Data.List.Nodup
import RelationalMapping.Entity.Construction

namespace RelationalMapping

theorem mapM_eq_ok_iff {α β ε : Type} {f : α → Except ε β} {items : List α} {made : List β} :
    items.mapM f = .ok made ↔ List.Forall₂ (fun x y => f x = .ok y) items made := by
  induction items generalizing made with
  | nil => simp [pure, Except.pure, eq_comm]
  | cons x rest ih =>
    rw [List.mapM_cons]
    cases hx : f x with
    | error fault => cases made <;> simp [bind, Except.bind, hx]
    | ok y =>
      cases hrest : rest.mapM f with
      | error fault => cases made <;> simp [bind, Except.bind, hx, ← ih, hrest]
      | ok others => cases made <;> simp [bind, Except.bind, pure, Except.pure, hx, ← ih, hrest]

theorem exists_of_mem_mapM {α β ε : Type} {f : α → Except ε β} {items : List α} {made : List β} {y : β}
    (h : items.mapM f = .ok made) (hy : y ∈ made) : ∃ x ∈ items, f x = .ok y := by
  have hmade := mapM_eq_ok_iff.mp h
  clear h
  induction hmade with
  | nil => cases hy
  | cons hfirst _ ih =>
    rcases List.mem_cons.mp hy with rfl | hy
    · exact ⟨_, List.mem_cons_self, hfirst⟩
    · obtain ⟨x, hx, hfound⟩ := ih hy
      exact ⟨x, List.mem_cons_of_mem _ hx, hfound⟩

theorem bind_eq_ok_iff {α β ε : Type} {x : Except ε α} {f : α → Except ε β} {b : β} :
    (x >>= f) = .ok b ↔ ∃ a, x = .ok a ∧ f a = .ok b := by
  cases x <;> simp [bind, Except.bind]

theorem mapError_eq_ok_iff {α ε δ : Type} {x : Except ε α} {f : ε → δ} {a : α} :
    x.mapError f = .ok a ↔ x = .ok a := by
  cases x <;> simp [Except.mapError]

section Lookup

variable {α : Type} {entries : List (String × α)} {name other : String}

theorem lookup_filter_ne (h : other ≠ name) :
    (entries.filter (·.1 != name)).lookup other = entries.lookup other := by
  induction entries with
  | nil => rfl
  | cons entry rest ih =>
    obtain ⟨key, value⟩ := entry
    rw [List.filter_cons]
    by_cases hkey : key = name
    · have hother : (other == name) = false := by simpa using h
      simp [hkey, List.lookup_cons, ih, hother]
    · simp only [bne_iff_ne.mpr hkey, ↓reduceIte, List.lookup_cons, ih]

theorem lookup_filter_self : (entries.filter (·.1 != name)).lookup name = none := by
  rw [List.lookup_eq_none_iff]
  intro entry hentry
  have hkey : entry.1 ≠ name := bne_iff_ne.mp (List.mem_filter.mp hentry).2
  exact bne_iff_ne.mpr hkey.symm

theorem lookup_append_single (h : entries.lookup name = none) (value : α) :
    (entries ++ [(name, value)]).lookup name = some value := by
  simp [List.lookup_append, h]

theorem lookup_append_other (h : other ≠ name) (value : α) :
    (entries ++ [(name, value)]).lookup other = entries.lookup other := by
  have hother : (other == name) = false := by simpa using h
  simp [List.lookup_append, List.lookup_cons, hother]

end Lookup

namespace Arguments

variable {args : Arguments} {name other : String} {a : Argument}

theorem lookup_insert_self : (args.insert name a).entries.lookup name = some a :=
  lookup_append_single lookup_filter_self a

theorem lookup_insert_other (h : other ≠ name) :
    (args.insert name a).entries.lookup other = args.entries.lookup other := by
  rw [insert, lookup_append_other h, lookup_filter_ne h]

end Arguments

theorem find?_unique {α : Type} {p : α → Bool} {items : List α} {item : α} (hitem : item ∈ items)
    (hp : p item = true) (h : ∀ other ∈ items, p other = true → other = item) :
    items.find? p = some item := by
  rcases hfound : items.find? p with _ | found
  · exact absurd hp (List.find?_eq_none.mp hfound item hitem)
  · rw [h found (List.mem_of_find?_eq_some hfound) (List.find?_some hfound)]

def constructed (fields : List Field) : List Field := fields.filter (!·.mutable)

def assigned (fields : List Field) : List Field := fields.filter (·.mutable)

def contents (content : Field → Content) (fields : List Field) : List (String × Content) :=
  fields.map fun f => (f.name, content f)

def recordOf (typeName : String) (fields : List Field) (content : Field → Content) : Instance :=
  .record typeName (contents content (constructed fields ++ assigned fields))

variable {content : Field → Content} {fields : List Field}

theorem eq_of_name_eq {f g : Field} (hfields : (fields.map (·.name)).Nodup) (hf : f ∈ fields)
    (hg : g ∈ fields) (h : f.name = g.name) : f = g :=
  List.inj_on_of_nodup_map hfields hf hg h

theorem setField_of_absent {name : String} {entries : List (String × Content)} (c : Content)
    (h : name ∉ entries.map (·.1)) : setField name c entries = entries ++ [(name, c)] := by
  induction entries with
  | nil => rfl
  | cons entry rest ih =>
    simp only [List.map_cons, List.mem_cons, not_or] at h
    rw [setField, if_neg (Ne.symm h.1), ih h.2]
    rfl

theorem setField_contents {name : String} (c : Content) (hfields : (fields.map (·.name)).Nodup)
    (h : name ∈ fields.map (·.name)) :
    setField name c (contents content fields)
      = contents (fun f => if f.name = name then c else content f) fields := by
  induction fields with
  | nil => simp at h
  | cons f rest ih =>
    obtain ⟨hf, hrest⟩ := List.nodup_cons.mp hfields
    by_cases hname : f.name = name
    · subst hname
      have hothers : ∀ g ∈ rest, g.name ≠ f.name := fun g hg heq =>
        hf (List.mem_map.mpr ⟨g, hg, heq⟩)
      rw [contents, List.map_cons, setField, if_pos rfl, contents, List.map_cons, if_pos rfl]
      congr 1
      exact List.map_congr_left fun g hg => by simp [hothers g hg]
    · have hmem : name ∈ rest.map (·.name) := (List.mem_cons.mp h).resolve_left (Ne.symm hname)
      have htail := ih hrest hmem
      rw [contents] at htail
      rw [contents, List.map_cons, setField, if_neg hname, htail]
      simp [contents, hname]

def Arguments.supply (args : Arguments) (f : Field) : Except Error Content :=
  match args.entries.lookup f.name with
  | some a => a.content f.transient f.holds
  | none => match f.transient || f.optional, f.holds with
    | false, .column _ => .error (.mapping args.entity (.missingParameter f.name))
    | _, t => .ok t.initial

variable {args : Arguments} {f : Field}

theorem Arguments.takeParameter_eq (args : Arguments) (f : Field) :
    args.takeParameter f.parameter = (args.supply f, (args.remove f.name).2) := by
  unfold takeParameter supply Field.parameter
  cases htransient : f.transient <;> cases hholds : f.holds <;> cases hoptional : f.optional <;>
    rcases hlookup : args.entries.lookup f.name with _ | a <;>
    simp [take, takeOrInitial, takeJoined, remove, hlookup, Argument.content, Except.map,
      HeldType.initial]

theorem Arguments.supply_remove {name : String} (h : f.name ≠ name) :
    (args.remove name).2.supply f = args.supply f := by
  unfold supply remove
  rw [lookup_filter_ne h]

theorem takeParameters_eq {taken : List (String × Content)} {supplied : Field → Except Error Content}
    (hfields : (fields.map (·.name)).Nodup) (htaken : ∀ f ∈ fields, f.name ∉ taken.map (·.1))
    (h : ∀ f ∈ fields, args.supply f = supplied f) :
    (Blueprint.takeParameters (fields.map (·.parameter)) taken args).map Prod.fst
      = (fields.mapM supplied).map fun made => taken ++ (fields.map (·.name)).zip made := by
  induction fields generalizing args taken with
  | nil => simp [Blueprint.takeParameters, Except.map, pure, Except.pure]
  | cons f rest ih =>
    obtain ⟨hf, hrest⟩ := List.nodup_cons.mp hfields
    have hothers : ∀ g ∈ rest, g.name ≠ f.name := fun g hg heq => hf (List.mem_map.mpr ⟨g, hg, heq⟩)
    have hfresh : ∀ c : Content, ∀ g ∈ rest, g.name ∉ (taken ++ [(f.name, c)]).map (·.1) := by
      intro c g hg
      rw [List.map_append, List.mem_append, not_or]
      exact ⟨htaken g (List.mem_cons_of_mem _ hg), by simpa using hothers g hg⟩
    have hremoved : ∀ g ∈ rest, (args.remove f.name).2.supply g = supplied g := fun g hg =>
      (Arguments.supply_remove (hothers g hg)).trans (h g (List.mem_cons_of_mem _ hg))
    rw [List.map_cons, Blueprint.takeParameters, Arguments.takeParameter_eq, List.mapM_cons,
      h f List.mem_cons_self]
    cases supplied f with
    | error fault => rfl
    | ok c =>
      change (Blueprint.takeParameters (rest.map (·.parameter)) (setField f.name c taken) _).map _ = _
      rw [setField_of_absent c (htaken f List.mem_cons_self), ih hrest (hfresh c) hremoved]
      cases rest.mapM supplied with
      | error fault => rfl
      | ok made => simp [Except.map, bind, Except.bind, pure, Except.pure]

theorem mapM_supplied {supplied : Field → Except Error Content} {made : List Content} :
    fields.mapM supplied = .ok made
      ↔ ∃ content, made = fields.map content ∧ ∀ f ∈ fields, supplied f = .ok (content f) := by
  rw [mapM_eq_ok_iff]
  constructor
  · intro h
    have hmade : made = fields.map fun f => (supplied f).toOption.getD (.joined none) := by
      induction h with
      | nil => rfl
      | cons hf _ ih => rw [ih, List.map_cons, hf]; rfl
    refine ⟨_, hmade, ?_⟩
    rw [hmade, List.forall₂_map_right_iff, List.forall₂_same] at h
    exact h
  · rintro ⟨content, rfl, h⟩
    rw [List.forall₂_map_right_iff, List.forall₂_same]
    exact h

theorem keys_contents : (contents content fields).map (·.1) = fields.map (·.name) := by
  simp [contents]

theorem lookup_eq_none_of_not_mem {α : Type} {entries : List (String × α)} {name : String}
    (h : name ∉ entries.map (·.1)) : entries.lookup name = none := by
  rw [List.lookup_eq_none_iff]
  intro entry hentry
  exact bne_iff_ne.mpr fun heq => h (heq ▸ List.mem_map_of_mem hentry)

theorem initialFields_eq {taken : List (String × Content)} (hfields : (fields.map (·.name)).Nodup)
    (htaken : ∀ f ∈ fields, f.name ∈ taken.map (·.1) ↔ f.mutable = false) :
    Blueprint.initialFields (fields.map (·.property)) taken
      = taken ++ (assigned fields).map fun f => (f.name, f.holds.initial) := by
  induction fields generalizing taken with
  | nil => simp [Blueprint.initialFields, assigned]
  | cons f rest ih =>
    obtain ⟨hf, hrest⟩ := List.nodup_cons.mp hfields
    have hothers : ∀ g ∈ rest, g.name ≠ f.name := fun g hg heq => hf (List.mem_map.mpr ⟨g, hg, heq⟩)
    have hhead := htaken f List.mem_cons_self
    have htail := fun g hg => htaken g (List.mem_cons_of_mem f hg)
    rw [List.map_cons, Blueprint.initialFields, List.foldl_cons]
    cases hmutable : f.mutable with
    | false =>
      have hfound : (taken.lookup f.property.name).isSome = true := by
        rw [Option.isSome_iff_ne_none, ne_eq, List.lookup_eq_none_iff]
        intro hall
        obtain ⟨entry, hentry, hname⟩ := List.mem_map.mp (hhead.mpr hmutable)
        exact bne_iff_ne.mp (hall entry hentry) hname.symm
      rw [if_pos hfound]
      have hassigned : assigned (f :: rest) = assigned rest := by simp [assigned, hmutable]
      rw [hassigned]
      exact ih hrest htail
    | true =>
      have hmissing : f.name ∉ taken.map (·.1) := by simp [hhead, hmutable]
      have hnone : (taken.lookup f.property.name).isSome = false := by
        rw [show f.property.name = f.name from rfl, lookup_eq_none_of_not_mem hmissing]
        rfl
      have hassigned : assigned (f :: rest) = f :: assigned rest := by simp [assigned, hmutable]
      rw [hnone, if_neg (by decide), hassigned]
      have hfresh : ∀ g ∈ rest, g.name ∈ (taken ++ [(f.name, f.holds.initial)]).map (·.1)
          ↔ g.mutable = false := by
        intro g hg
        rw [List.map_append, List.mem_append, htail g hg]
        simp [hothers g hg]
      have hnext := ih hrest hfresh
      rw [Blueprint.initialFields] at hnext
      change List.foldl _ (taken ++ [(f.name, f.holds.initial)]) _ = _
      rw [hnext]
      simp

variable {typeName simpleName : String} {tableName : Option String}

def started (content : Field → Content) (f : Field) : Content :=
  if f.mutable then f.holds.initial else content f

theorem contents_congr {other : Field → Content} (h : ∀ f ∈ fields, content f = other f) :
    contents content fields = contents other fields :=
  List.map_congr_left fun f hf => by rw [h f hf]

theorem nodup_constructed (hfields : (fields.map (·.name)).Nodup) :
    ((constructed fields).map (·.name)).Nodup :=
  hfields.sublist (List.filter_sublist.map _)

theorem mem_members {f : Field} : f ∈ constructed fields ++ assigned fields ↔ f ∈ fields := by
  cases h : f.mutable <;> simp [constructed, assigned, h]

theorem nodup_members (hfields : (fields.map (·.name)).Nodup) :
    ((constructed fields ++ assigned fields).map (·.name)).Nodup := by
  have hperm : (constructed fields ++ assigned fields).Perm fields := by
    have := List.filter_append_perm (fun f : Field => !f.mutable) fields
    simpa [constructed, assigned] using this
  exact ((hperm.map (·.name)).nodup_iff).mpr hfields

theorem record_started (hfields : (fields.map (·.name)).Nodup) (content : Field → Content) :
    Instance.record typeName (Blueprint.initialFields (fields.map (·.property))
      (contents content (constructed fields))) = recordOf typeName fields (started content) := by
  have htaken : ∀ f ∈ fields, f.name ∈ (contents content (constructed fields)).map (·.1)
      ↔ f.mutable = false := by
    intro f hf
    rw [keys_contents, List.mem_map]
    constructor
    · rintro ⟨g, hg, hname⟩
      have hmem := List.mem_filter.mp hg
      rw [← eq_of_name_eq hfields hmem.1 hf hname]
      simpa using hmem.2
    · exact fun hmutable => ⟨f, by simp [constructed, hf, hmutable], rfl⟩
  have hconstructed : contents content (constructed fields)
      = contents (started content) (constructed fields) := by
    refine contents_congr fun f hf => ?_
    have hmutable : f.mutable = false := by simpa using (List.mem_filter.mp hf).2
    simp [started, hmutable]
  have hassigned : (assigned fields).map (fun f => (f.name, f.holds.initial))
      = contents (started content) (assigned fields) := by
    refine List.map_congr_left fun f hf => ?_
    have hmutable : f.mutable = true := (List.mem_filter.mp hf).2
    simp [started, hmutable]
  rw [initialFields_eq hfields htaken, hconstructed, hassigned, recordOf, contents, contents, contents,
    List.map_append]

theorem instantiate_eq (typeName simpleName : String) (tableName : Option String)
    (hfields : (fields.map (·.name)).Nodup) (args : Arguments) :
    ((Entity.ofFields typeName simpleName tableName fields).instantiate args).map Prod.fst
      = ((constructed fields).mapM args.supply).map fun made =>
        .record typeName (Blueprint.initialFields (fields.map (·.property))
          (((constructed fields).map (·.name)).zip made)) := by
  have hmake : ((Entity.ofFields typeName simpleName tableName fields).instantiate args).map Prod.fst
      = ((Blueprint.takeParameters ((constructed fields).map (·.parameter)) [] args).map Prod.fst).map
        fun entries => .record typeName (Blueprint.initialFields (fields.map (·.property)) entries) := by
    change Except.map Prod.fst (Except.bind
      (Blueprint.takeParameters ((constructed fields).map (·.parameter)) [] args) _) = _
    cases Blueprint.takeParameters ((constructed fields).map (·.parameter)) [] args <;> rfl
  rw [hmake, takeParameters_eq (nodup_constructed hfields) (by simp) fun _ _ => rfl]
  cases (constructed fields).mapM args.supply <;> rfl

theorem instantiate_eq_ok_iff (hfields : (fields.map (·.name)).Nodup) {i : Instance} :
    ((Entity.ofFields typeName simpleName tableName fields).instantiate args).map Prod.fst = .ok i
      ↔ ∃ content, i = recordOf typeName fields (started content)
        ∧ ∀ f ∈ constructed fields, args.supply f = .ok (content f) := by
  have hzip : ∀ content : Field → Content, ((constructed fields).map (·.name)).zip
      ((constructed fields).map content) = contents content (constructed fields) := fun content =>
    List.zip_map'
  rw [instantiate_eq _ _ _ hfields]
  constructor
  · intro h
    cases hmade : (constructed fields).mapM args.supply with
    | error fault => rw [hmade] at h; cases h
    | ok made =>
      rw [hmade] at h
      obtain ⟨content, rfl, hsupply⟩ := mapM_supplied.mp hmade
      rw [Except.map, hzip, record_started hfields] at h
      cases h
      exact ⟨content, rfl, hsupply⟩
  · rintro ⟨content, rfl, hsupply⟩
    rw [mapM_supplied.mpr ⟨content, rfl, hsupply⟩, Except.map, hzip, record_started hfields]

theorem find?_property {f : Field} (hfields : (fields.map (·.name)).Nodup) (hf : f ∈ fields)
    (hmutable : f.mutable = true) :
    (fields.map (·.property)).find? (fun p => p.mutable && p.name == f.name) = some f.property := by
  refine find?_unique (List.mem_map_of_mem hf) (by simp [Field.property, hmutable]) ?_
  intro p hp hmatch
  obtain ⟨g, hg, rfl⟩ := List.mem_map.mp hp
  simp only [Field.property, Bool.and_eq_true, beq_iff_eq] at hmatch
  rw [eq_of_name_eq hfields hg hf hmatch.2]

theorem assign_eq {f : Field} (a : Argument) (hfields : (fields.map (·.name)).Nodup)
    (hf : f ∈ fields) (hmutable : f.mutable = true) :
    (Entity.ofFields typeName simpleName tableName fields).assign (recordOf typeName fields content) f.name a
      = (a.content f.transient f.holds).map fun c =>
        recordOf typeName fields fun g => if g.name = f.name then c else content g := by
  have hmem : f.name ∈ (constructed fields ++ assigned fields).map (·.name) :=
    List.mem_map.mpr ⟨f, mem_members.mpr hf, rfl⟩
  have hassign : (Entity.ofFields typeName simpleName tableName fields).assign
      (recordOf typeName fields content) f.name a
      = (Entity.ofFields typeName simpleName tableName fields).toBlueprint.assign
        (recordOf typeName fields content) f.name a := if_pos rfl
  rw [hassign, recordOf, Blueprint.assign]
  simp only [Entity.ofFields, find?_property hfields hf hmutable]
  change (a.content f.transient f.holds).map _ = _
  congr 1
  funext c
  rw [setField_contents c (nodup_members hfields) hmem, recordOf]

end RelationalMapping
