import RelationalMapping.Mapping.Context
import RelationalMapping.Proofs.Mapping.Outcome

namespace RelationalMapping

def FailsWith {α : Type} (post : Error → Prop) (x : Except Error α) : Prop := ∀ fault, x = .error fault → post fault

def Error.OfData (fault : Error) : Prop := ∀ d, fault ≠ .declaration d

def Error.OfMapping (fault : Error) : Prop := fault.kind = "Mapping"

def Error.OfDecoding (fault : Error) : Prop :=
  (∃ expected found, fault = .mismatch expected found) ∨ ∃ entity name, fault = .mapping entity (.unknownVariant name)

theorem Error.OfDecoding.ofData {fault : Error} (h : fault.OfDecoding) : fault.OfData := by
  rcases h with ⟨expected, found, rfl⟩ | ⟨entity, name, rfl⟩
  · exact nofun
  · exact nofun

theorem Error.OfData.within {fault : Error} (h : fault.OfData) (entity : String) : (fault.within entity).OfMapping := by
  cases fault with
  | declaration d => exact absurd rfl (h d)
  | _ => rfl

section Failing

variable {α β : Type} {post : Error → Prop} {x : Except Error α}

theorem failsWith_ok (a : α) : FailsWith post (.ok a) := nofun

theorem failsWith_error {fault : Error} (h : post fault) : FailsWith post (.error fault : Except Error α) := by
  rintro _ ⟨⟩
  exact h

theorem FailsWith.bind {f : α → Except Error β} (hx : FailsWith post x)
    (hf : ∀ a, x = .ok a → FailsWith post (f a)) : FailsWith post (x >>= f) := by
  cases x with
  | error fault => exact failsWith_error (hx fault rfl)
  | ok a => exact hf a rfl

theorem FailsWith.map {f : α → β} (hx : FailsWith post x) : FailsWith post (x.map f) := by
  cases x with
  | error fault => exact failsWith_error (hx fault rfl)
  | ok a => exact failsWith_ok (f a)

theorem failsWith_mapM {f : β → Except Error α} {items : List β} (h : ∀ b ∈ items, FailsWith post (f b)) :
    FailsWith post (items.mapM f) := by
  induction items with
  | nil => exact failsWith_ok []
  | cons b rest ih =>
    rw [List.mapM_cons]
    refine (h b List.mem_cons_self).bind fun a _ => ?_
    exact (ih fun c hc => h c (List.mem_cons_of_mem _ hc)).bind fun as _ => failsWith_ok _

theorem FailsWith.mono {other : Error → Prop} (hx : FailsWith post x) (h : ∀ fault, post fault → other fault) :
    FailsWith other x := fun fault hfault => h fault (hx fault hfault)

theorem FailsWith.mapError {other : Error → Prop} {f : Error → Error} (hx : FailsWith post x)
    (h : ∀ fault, post fault → other (f fault)) : FailsWith other (x.mapError f) := by
  cases x with
  | ok a => exact failsWith_ok a
  | error fault => exact failsWith_error (h fault (hx fault rfl))

end Failing

theorem ElementType.decode_failsWith (t : ElementType) (v : Value) : FailsWith Error.OfDecoding (t.decode v) := by
  unfold decode
  split
  · exact failsWith_ok _
  · exact failsWith_error (.inl ⟨_, _, rfl⟩)

theorem decodeJson_failsWith (expected : String) (v : Value) :
    FailsWith Error.OfDecoding (decodeJson expected v) := by
  unfold decodeJson
  split
  · exact failsWith_ok _
  · split
    · exact failsWith_ok _
    · exact failsWith_error (.inl ⟨_, _, rfl⟩)
  · exact failsWith_error (.inl ⟨_, _, rfl⟩)

theorem decodeText_failsWith (expected : String) (v : Value) :
    FailsWith Error.OfDecoding (decodeText expected v) := by
  unfold decodeText
  split
  · exact failsWith_ok _
  · exact failsWith_error (.inl ⟨_, _, rfl⟩)

theorem Enumeration.decode_failsWith (e : Enumeration) (v : Value) : FailsWith Error.OfDecoding (e.decode v) := by
  unfold decode
  split
  · split
    · exact failsWith_ok _
    · exact failsWith_error (.inr ⟨_, _, rfl⟩)
  · exact failsWith_error (.inl ⟨_, _, rfl⟩)

theorem BaseType.decode_failsWith (t : BaseType) (v : Value) : FailsWith Error.OfDecoding (t.decode v) := by
  cases t with
  | element t => exact t.decode_failsWith v
  | bytes =>
    cases v with
    | blob raw => exact failsWith_ok raw
    | _ => exact failsWith_error (.inl ⟨_, _, rfl⟩)
  | json => exact decodeJson_failsWith _ v
  | jsonb => exact decodeJson_failsWith _ v
  | geometry => exact decodeText_failsWith _ v
  | interval => exact decodeText_failsWith _ v
  | any => exact failsWith_ok v
  | enumeration e => exact e.decode_failsWith v
  | list t =>
    cases v with
    | array elementType items => exact failsWith_mapM fun item _ => t.decode_failsWith item
    | _ => exact failsWith_error (.inl ⟨_, _, rfl⟩)

theorem FieldType.decode_failsWith (t : FieldType) (v : Value) : FailsWith Error.OfDecoding (t.decode v) := by
  unfold decode
  split
  · exact BaseType.decode_failsWith _ _
  · exact failsWith_ok _
  · exact (BaseType.decode_failsWith _ _).map

theorem Argument.content_failsWith (a : Argument) (transient : Bool) (t : HeldType) :
    FailsWith Error.OfDecoding (a.content transient t) := by
  unfold content
  split
  · refine FailsWith.map ?_
    unfold decode
    split
    · exact (FieldType.decode_failsWith _ _).map
    · exact failsWith_error (.inl ⟨_, _, rfl⟩)
  · unfold takeObject
    split
    · split
      · exact failsWith_ok _
      · exact failsWith_error (.inl ⟨_, _, rfl⟩)
    · exact failsWith_ok _
    · exact failsWith_error (.inl ⟨_, _, rfl⟩)

theorem Arguments.supply_failsWith (args : Arguments) (f : Field) : FailsWith Error.OfData (args.supply f) := by
  unfold supply
  split
  · exact (Argument.content_failsWith _ _ _).mono fun _ => Error.OfDecoding.ofData
  · split
    · exact failsWith_error nofun
    · exact failsWith_ok _

def Codec.Reads (codec : Codec) : Prop := ∀ cell, FailsWith Error.OfData (codec.decode cell)

theorem Codec.presentCell_failsWith (cell : Option Value) : FailsWith Error.OfDecoding (presentCell cell) := by
  cases cell with
  | some v => exact failsWith_ok v
  | none => exact failsWith_error (.inl ⟨_, _, rfl⟩)

theorem Codec.jsonOfText_failsWith (v : Value) : FailsWith Error.OfDecoding (jsonOfText v) := by
  unfold jsonOfText
  split
  · split
    · exact failsWith_ok _
    · exact failsWith_error (.inl ⟨_, _, rfl⟩)
  · exact failsWith_ok _

theorem Codecs.standard_failsWith (label : String) (cell : Option Value) :
    FailsWith Error.OfDecoding ((standard.forLabel label).decode cell) := by
  rw [forLabel]
  cases hlookup : standard.entries.lookup label with
  | none => exact Codec.presentCell_failsWith cell
  | some codec =>
    obtain ⟨before, after, hentries, -⟩ := List.lookup_eq_some_iff.mp hlookup
    have hmem : (label, codec) ∈ standard.entries := by rw [hentries]; simp
    obtain ⟨name, -, heq⟩ := List.mem_map.mp hmem
    cases heq
    exact (Codec.presentCell_failsWith cell).bind fun v _ => Codec.jsonOfText_failsWith v

theorem codecs_read (label : String) : (Codecs.standard.forLabel label).Reads := fun cell =>
  (Codecs.standard_failsWith label cell).mono fun _ => Error.OfDecoding.ofData

section Running

variable {row : Row} {fields : List Field}
variable {typeName simpleName : String} {tableName : Option String}

-- what a level raises, decoding included, and what it reports under its name

variable {raised reported : Error → Prop}

theorem provideAll_failsWith {entity : String} (hwithin : ∀ fault, raised fault → reported (fault.within entity))
    {fillings : List Filling} (args : Arguments)
    (h : ∀ x ∈ fillings, FailsWith raised (x.provider.provide row)) :
    FailsWith reported (provideAll row entity fillings args) := by
  induction fillings generalizing args with
  | nil =>
    rw [provideAll]
    exact failsWith_ok args
  | cons x rest ih =>
    obtain ⟨field, provider⟩ := x
    rw [provideAll]
    refine ((h _ List.mem_cons_self).mapError hwithin).bind fun a _ => ?_
    exact ih _ fun y hy => h y (List.mem_cons_of_mem _ hy)

theorem assignAll_failsWith (hdecoding : ∀ fault : Error, fault.OfDecoding → raised fault)
    (hwithin : ∀ fault, raised fault → reported (fault.within simpleName)) {fillings : List Filling}
    (current : Field → Content) (hfields : (fields.map (·.name)).Nodup) (hplaced : Placed fields true fillings)
    (h : ∀ x ∈ fillings, FailsWith raised (x.provider.provide row)) :
    FailsWith reported (assignAll row (Entity.ofFields typeName simpleName tableName fields) fillings
      (recordOf typeName fields current)) := by
  induction fillings generalizing current with
  | nil =>
    rw [assignAll]
    exact failsWith_ok _
  | cons x rest ih =>
    obtain ⟨f, hf, hmutable, hname⟩ := hplaced.places x List.mem_cons_self
    obtain ⟨field, provider⟩ := x
    cases hname
    have hrest : Placed fields true rest :=
      ⟨(List.nodup_cons.mp hplaced.once).2, fun y hy => hplaced.places y (List.mem_cons_of_mem _ hy)⟩
    rw [assignAll]
    refine ((h _ List.mem_cons_self).mapError hwithin).bind fun a _ => ?_
    change FailsWith _ ((Entity.assign _ _ f.name a).mapError _ >>= fun i => assignAll row _ rest i)
    rw [assign_eq a hfields hf hmutable]
    cases hc : a.content f.transient f.holds with
    | error fault =>
      have hraised : raised fault := hdecoding fault (Argument.content_failsWith a _ _ fault hc)
      refine ((failsWith_error hraised).mapError hwithin).bind fun b hb => ?_
      cases hb
    | ok c => exact ih _ hrest fun y hy => h y (List.mem_cons_of_mem _ hy)

theorem Fillings.run_toPlan_reports {f : Fillings} (hdecoding : ∀ fault : Error, fault.OfDecoding → raised fault)
    (hwithin : ∀ fault, raised fault → reported (fault.within simpleName)) (hfields : (fields.map (·.name)).Nodup)
    (hf : f.Fits fields) (h : ∀ x ∈ f.parameters ++ f.properties, FailsWith raised (x.provider.provide row))
    (hsupply : ∀ args, provideAll row simpleName (RelationalMapping.withNulls (readAsNull fields) f.parameters)
        (.empty simpleName) = .ok args → ∀ g ∈ constructed fields, FailsWith raised (args.supply g)) :
    FailsWith reported ((f.toPlan (Entity.ofFields typeName simpleName tableName fields)).run row) := by
  rw [run_toPlan_eq]
  refine (provideAll_failsWith hwithin _ fun x hx => ?_).bind fun args hargs => ?_
  · rcases mem_withNulls hx with hx | ⟨p, -, -, rfl⟩
    · exact h x (List.mem_append_left _ hx)
    · exact failsWith_ok _
  · have hmade : FailsWith raised
        (((Entity.ofFields typeName simpleName tableName fields).instantiate args).map Prod.fst) := by
      rw [instantiate_eq _ _ _ hfields]
      exact (failsWith_mapM (hsupply args hargs)).map
    refine (hmade.mapError hwithin).bind fun i hi => ?_
    obtain ⟨content, rfl, -⟩ := (instantiate_eq_ok_iff hfields).mp (mapError_eq_ok_iff.mp hi)
    exact assignAll_failsWith hdecoding hwithin _ hfields hf.properties
      fun x hx => h x (List.mem_append_right _ hx)

theorem Fillings.run_toPlan_failsWith {f : Fillings} (hfields : (fields.map (·.name)).Nodup) (hf : f.Fits fields)
    (h : ∀ x ∈ f.parameters ++ f.properties, FailsWith Error.OfData (x.provider.provide row)) :
    FailsWith Error.OfMapping
      ((f.toPlan (Entity.ofFields typeName simpleName tableName fields)).run row) :=
  run_toPlan_reports (fun _ hfault => hfault.ofData) (fun _ hfault => hfault.within simpleName) hfields hf h
    fun args _ g _ => args.supply_failsWith g

end Running

end RelationalMapping
