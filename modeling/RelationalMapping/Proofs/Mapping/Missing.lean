import RelationalMapping.Proofs.Mapping.Attribution
import RelationalMapping.Proofs.Mapping.Occurrence
import RelationalMapping.Proofs.Mapping.Planners
import RelationalMapping.Proofs.Mapping.Records

namespace RelationalMapping

/-- A parameter that has to be given: it is read from a column, may not be `NULL` and may not be left out. -/
def Parameter.required (p : Parameter) : Bool := !p.nullable && !p.optional && !p.transient

def Entity.named? (context : MappingContext) (e : Entity) (label : String) : Option Parameter :=
  e.columnParameters.find? fun p => context.accepts label p.slotName

def Error.IsMissing (fault : Error) : Prop := ∃ entity name, fault = .mapping entity (.missingParameter name)

theorem Error.OfDecoding.not_isMissing {fault : Error} (h : fault.OfDecoding) : ¬ fault.IsMissing := by
  rintro ⟨entity, name, rfl⟩
  rcases h with ⟨expected, found, h⟩ | ⟨other, variant, h⟩
  · cases h
  · cases h

theorem Error.not_isMissing_within {fault : Error} (h : ¬ fault.IsMissing) (entity : String) :
    ¬ (fault.within entity).IsMissing := by
  cases fault with
  | mapping named reason => exact h
  | _ =>
    rintro ⟨named, name, heq⟩
    cases heq

variable {context : MappingContext} {fields : List Field} {columns : List ColumnLabel} {row : Row} {f g : Field}
variable {typeName simpleName : String} {tableName : Option String}

theorem route?_eq_parameter_iff {e : Entity} {label : String} {p : Parameter} :
    route? context e label = some (.parameter p) ↔ e.named? context label = some p := by
  unfold route? Entity.named?
  split
  · rename_i q hq
    simp [hq]
  · rename_i hnone
    simp [hnone]

theorem ref_eq_iff (hfields : (fields.map (·.name)).Nodup) (hf : f ∈ fields) (hg : g ∈ fields) :
    f.ref = g.ref ↔ f = g := by
  constructor
  · intro h
    have hname : f.ref.name = g.ref.name := congrArg FieldRef.name h
    have hrefname : ∀ x : Field, x.ref.name = x.name := fun x => by unfold Field.ref; cases x.mutable <;> rfl
    rw [hrefname, hrefname] at hname
    exact eq_of_name_eq hfields hf hg hname
  · exact congrArg Field.ref

theorem named?_standard_eq {e : Entity} {s t : String} (hs : Text.IsAscii s) (ht : Text.IsAscii t)
    (h : Text.lowercase s = Text.lowercase t) : e.named? .standard s = e.named? .standard t := by
  have hmatch : MappingContext.standard.accepts s t = true :=
    standard_accepts_iff.mpr (folded_eq_of_lowercase_eq hs ht h)
  simp only [Entity.named?, MappingContext.accepts_congr hmatch]

theorem exists_firstLabels (seen : List String) {c : ColumnLabel} (hc : c ∈ columns)
    (hseen : Text.lowercase c.label ∉ seen) :
    ∃ d ∈ firstLabels seen columns, Text.lowercase d.label = Text.lowercase c.label := by
  induction columns generalizing seen with
  | nil => cases hc
  | cons first rest ih =>
    rw [firstLabels]
    by_cases hfirst : Text.lowercase c.label = Text.lowercase first.label
    · have hunseen : seen.contains (Text.lowercase first.label) = false := by simpa [← hfirst] using hseen
      refine ⟨first, ?_, hfirst.symm⟩
      simp only [hunseen, Bool.false_eq_true, if_false]
      exact List.mem_cons_self
    · have hrest : c ∈ rest := (List.mem_cons.mp hc).resolve_left fun h => hfirst (by rw [h])
      split
      · exact ih seen hrest hseen
      · obtain ⟨d, hd, hlower⟩ := ih (Text.lowercase first.label :: seen) hrest (by simp [hfirst, hseen])
        exact ⟨d, List.mem_cons_of_mem _ hd, hlower⟩

theorem exists_named_firstLabels_iff {e : Entity} {labels : List String} (hlabels : ∀ label ∈ labels, Text.IsAscii label)
    {p : Parameter} :
    (∃ c ∈ firstLabels [] (labelled 1 labels), e.named? .standard c.label = some p)
      ↔ ∃ label ∈ labels, e.named? .standard label = some p := by
  have hmem : ∀ c ∈ labelled 1 labels, c.label ∈ labels := fun c hc => exists_label_iff.mp ⟨c, hc, rfl⟩
  constructor
  · rintro ⟨c, hc, hnamed⟩
    exact ⟨c.label, hmem c ((firstLabels_sublist [] _).subset hc), hnamed⟩
  · rintro ⟨label, hlabel, hnamed⟩
    have hcolumn : ∃ c ∈ labelled 1 labels, c.label = label := exists_label_iff.mpr hlabel
    obtain ⟨c, hc, rfl⟩ := hcolumn
    obtain ⟨d, hd, hlower⟩ := exists_firstLabels [] hc (by simp)
    have hdlabel : d.label ∈ labels := hmem d ((firstLabels_sublist [] _).subset hd)
    refine ⟨d, hd, ?_⟩
    rw [named?_standard_eq (hlabels _ hdlabel) (hlabels _ hlabel) hlower]
    exact hnamed

namespace Fillings

theorem provider?_fillColumn (hfields : (fields.map (·.name)).Nodup) (hg : g ∈ fields) (c : ColumnLabel)
    (fillings : Fillings) :
    (fillings.fillColumn context (Entity.ofFields typeName simpleName tableName fields) c).provider? g
      = if route? context (Entity.ofFields typeName simpleName tableName fields) c.label = some g.ref
        then some (.column c.position (context.codec g.label)) else fillings.provider? g := by
  rw [fillColumn]
  cases hroute : route? context (Entity.ofFields typeName simpleName tableName fields) c.label with
  | none => rfl
  | some target =>
    obtain ⟨other, hother, rfl, -⟩ := exists_of_route? hroute
    have hmem : other ∈ fields := (mem_stored.mp hother).1
    dsimp only
    rw [addColumn_ref, provider?_add fillings hfields hmem hg]
    simp only [Option.some.injEq, ref_eq_iff hfields hmem hg]
    by_cases heq : g = other
    · rw [if_pos heq, if_pos heq.symm, heq]
    · rw [if_neg heq, if_neg (Ne.symm heq)]

theorem provider?_routed_eq_none_iff (hfields : (fields.map (·.name)).Nodup) (hg : g ∈ fields) :
    (routedFillings context (Entity.ofFields typeName simpleName tableName fields) columns).provider? g = none
      ↔ ∀ c ∈ columns,
        route? context (Entity.ofFields typeName simpleName tableName fields) c.label ≠ some g.ref := by
  constructor
  · intro hnone c hc hroute
    refine provider?_foldl (P := (· ≠ none)) (fun d _ => ?_) (.inr ⟨c, hc, fun f => ?_⟩) hnone
    · by_cases hd : route? context (Entity.ofFields typeName simpleName tableName fields) d.label = some g.ref
      · exact .inr fun f => by simp [provider?_fillColumn hfields hg, hd]
      · exact .inl fun f => by rw [provider?_fillColumn hfields hg, if_neg hd]
    · simp [provider?_fillColumn hfields hg, hroute]
  · intro hroutes
    refine provider?_foldl (P := (· = none)) (fun c hc => .inl fun f => ?_) (.inl (provider?_empty g))
    rw [provider?_fillColumn hfields hg, if_neg (hroutes c hc)]

theorem provider?_routed_reads (hfields : (fields.map (·.name)).Nodup) (hg : g ∈ fields) {p : Provider}
    (h : (routedFillings .standard (Entity.ofFields typeName simpleName tableName fields) columns).provider? g
      = some p) : FailsWith Error.OfDecoding (p.provide row) := by
  refine provider?_foldl (P := fun found => ∀ p, found = some p → FailsWith Error.OfDecoding (p.provide row))
    (fun c _ => ?_) (.inl fun p hp => ?_) p h
  · by_cases hc : route? .standard (Entity.ofFields typeName simpleName tableName fields) c.label = some g.ref
    · refine .inr fun f p hp => ?_
      rw [provider?_fillColumn hfields hg, if_pos hc] at hp
      cases hp
      exact (Codecs.standard_failsWith _ _).map
    · exact .inl fun f => by rw [provider?_fillColumn hfields hg, if_neg hc]
  · rw [provider?_empty] at hp
    cases hp

theorem mem_routed_reads (hfields : (fields.map (·.name)).Nodup) {x : Filling}
    (hx : x ∈ (routedFillings .standard (Entity.ofFields typeName simpleName tableName fields) columns).parameters
      ++ (routedFillings .standard (Entity.ofFields typeName simpleName tableName fields) columns).properties) :
    FailsWith Error.OfDecoding (x.provider.provide row) := by
  obtain ⟨g, hg, hprovider⟩ := (fits_routedFillings _ _ _).exists_of_mem hx
  exact provider?_routed_reads hfields hg hprovider

theorem supply_of_provider {fillings : Fillings} {provided : Arguments} (hf : fillings.Fits fields)
    (hprovided : provideAll row simpleName (RelationalMapping.withNulls (readAsNull fields) fillings.parameters)
      (.empty simpleName) = .ok provided) (hmutable : g.mutable = false) {p : Provider}
    (hprovider : fillings.provider? g = some p) : FailsWith Error.OfDecoding (provided.supply g) := by
  have hlookup := lookup_provideAll (hf.parameters.withNulls fun p => exists_readAsNull).once hprovided g.name
  have hplace : providerOf fillings.parameters g.name = some p := by
    simpa [provider?, placeOf, hmutable] using hprovider
  rw [providerOf_withNulls, hplace] at hlookup
  obtain ⟨a, -, hfound⟩ := hlookup
  rw [Arguments.supply, hfound]
  exact Argument.content_failsWith _ _ _

theorem run_not_isMissing {fillings : Fillings} (hfields : (fields.map (·.name)).Nodup) (hf : fillings.Fits fields)
    (hreads : ∀ x ∈ fillings.parameters ++ fillings.properties, FailsWith Error.OfDecoding (x.provider.provide row))
    (hspared : ∀ g ∈ fields, fillings.provider? g = none → g.Spared) :
    FailsWith (¬ ·.IsMissing)
      ((fillings.toPlan (Entity.ofFields typeName simpleName tableName fields)).run row) := by
  have hdecoding : ∀ fault : Error, fault.OfDecoding → ¬ fault.IsMissing := fun _ h => h.not_isMissing
  refine run_toPlan_reports hdecoding (fun _ h => Error.not_isMissing_within h simpleName) hfields hf
    (fun x hx => (hreads x hx).mono hdecoding) fun args hargs g hg => ?_
  obtain ⟨hmem, hmutable⟩ := List.mem_filter.mp hg
  have hconstructed : g.mutable = false := by simpa using hmutable
  cases hprovider : fillings.provider? g with
  | some p =>
    exact (supply_of_provider hf hargs hconstructed hprovider).mono hdecoding
  | none =>
    have hgets : g.Gets row (fillings.provider? g) g.holds.initial := by
      rw [hprovider]
      exact ⟨hspared g hmem hprovider, rfl⟩
    rw [(supply_eq_ok_iff hfields hf hargs hmem hconstructed).mpr hgets]
    exact failsWith_ok _

theorem run_of_unfilled {fillings : Fillings} (hfields : (fields.map (·.name)).Nodup) (hf : fillings.Fits fields)
    (hreads : ∀ x ∈ fillings.parameters ++ fillings.properties, FailsWith Error.OfDecoding (x.provider.provide row))
    (hg : g ∈ fields) (hunfilled : fillings.provider? g = none) (hneeded : ¬ g.Spared) :
    ∃ fault, (fillings.toPlan (Entity.ofFields typeName simpleName tableName fields)).run row = .error fault
      ∧ fault.OfMapping := by
  have hfails : FailsWith Error.OfMapping
      ((fillings.toPlan (Entity.ofFields typeName simpleName tableName fields)).run row) :=
    run_toPlan_failsWith hfields hf fun x hx => (hreads x hx).mono fun _ h => h.ofData
  cases hrun : (fillings.toPlan (Entity.ofFields typeName simpleName tableName fields)).run row with
  | error fault => exact ⟨fault, rfl, hfails fault hrun⟩
  | ok i =>
    obtain ⟨content, -, hgets⟩ := (run_toPlan_eq_ok_iff hfields hf).mp hrun
    have hg' := hgets g hg
    rw [hunfilled] at hg'
    exact absurd hg'.1 hneeded

end Fillings

theorem required_iff : g.parameter.required = true ∧ g.mutable = false ↔ ¬ g.Spared := by
  unfold Parameter.required Field.Spared
  cases hmutable : g.mutable <;> cases htransient : g.transient <;> cases hoptional : g.optional <;>
    cases hholds : g.holds.isOptional <;> simp [Field.parameter, htransient, hoptional, hholds]

theorem provider?_first_eq_none_iff (hfields : (fields.map (·.name)).Nodup) (hg : g ∈ fields)
    (hmutable : g.mutable = false) {labels : List String} (hlabels : ∀ label ∈ labels, Text.IsAscii label) :
    (routedFillings .standard (Entity.ofFields typeName simpleName tableName fields)
        (firstLabels [] (labelled 1 labels))).provider? g = none
      ↔ ∀ label ∈ labels,
        (Entity.ofFields typeName simpleName tableName fields).named? .standard label ≠ some g.parameter := by
  have href : g.ref = .parameter g.parameter := by rw [Field.ref, hmutable]; rfl
  have hnamed := exists_named_firstLabels_iff (e := Entity.ofFields typeName simpleName tableName fields) hlabels
    (p := g.parameter)
  rw [Fillings.provider?_routed_eq_none_iff hfields hg, href]
  simp only [ne_eq, route?_eq_parameter_iff]
  rw [← not_iff_not]
  push Not
  exact hnamed

namespace Entity.IsDerived

variable {e : Entity} {labels : List String}

theorem shape (he : e.IsDerived) : e.shape = .record := by
  rw [he.made]
  rfl

theorem parameters_eq (he : e.IsDerived) : e.parameters = (constructed e.fields).map (·.parameter) := by
  conv_lhs => rw [he.made]
  rfl

theorem mem_parameters_iff (he : e.IsDerived) {p : Parameter} :
    p ∈ e.parameters ↔ ∃ g ∈ e.fields, g.mutable = false ∧ g.parameter = p := by
  rw [he.parameters_eq, List.mem_map]
  simp [constructed, and_assoc]

theorem unfilled_iff (he : e.IsDerived) (hlabels : ∀ label ∈ labels, Text.IsAscii label) (hg : g ∈ e.fields)
    (hmutable : g.mutable = false) :
    (routedFillings .standard (ofFields e.typeName e.simpleName e.tableName e.fields)
        (firstLabels [] (labelled 1 labels))).provider? g = none
      ↔ ∀ label ∈ labels, e.named? .standard label ≠ some g.parameter := by
  rw [provider?_first_eq_none_iff he.names hg hmutable hlabels, ← he.made]

theorem planPlain_eq (he : e.IsDerived) (columns : List ColumnLabel) :
    planPlain .standard e columns
      = (routedFillings .standard (ofFields e.typeName e.simpleName e.tableName e.fields)
        (firstLabels [] columns)).toPlan (ofFields e.typeName e.simpleName e.tableName e.fields) := by
  rw [planPlain_firstLabels, ← he.made]

theorem run_not_isMissing (he : e.IsDerived) (hlabels : ∀ label ∈ labels, Text.IsAscii label)
    (hnamed : ∀ p ∈ e.parameters, p.required = true → ∃ label ∈ labels, e.named? .standard label = some p) :
    FailsWith (¬ ·.IsMissing) ((planPlain .standard e (labelled 1 labels)).run row) := by
  rw [he.planPlain_eq]
  refine Fillings.run_not_isMissing he.names (fits_routedFillings _ _ _)
    (fun x hx => Fillings.mem_routed_reads he.names hx) fun g hg hunfilled => ?_
  by_contra hneeded
  obtain ⟨hrequired, hmutable⟩ := required_iff.mpr hneeded
  obtain ⟨label, hlabel, hfound⟩ := hnamed _ (he.mem_parameters_iff.mpr ⟨g, hg, hmutable, rfl⟩) hrequired
  exact (he.unfilled_iff hlabels hg hmutable).mp hunfilled label hlabel hfound

theorem run_of_unnamed (he : e.IsDerived) (hlabels : ∀ label ∈ labels, Text.IsAscii label) {p : Parameter}
    (hp : p ∈ e.parameters) (hrequired : p.required = true)
    (hunnamed : ∀ label ∈ labels, e.named? .standard label ≠ some p) (row : Row) :
    ∃ fault, (planPlain .standard e (labelled 1 labels)).run row = .error fault ∧ fault.kind = "Mapping" := by
  obtain ⟨g, hg, hmutable, rfl⟩ := he.mem_parameters_iff.mp hp
  rw [he.planPlain_eq]
  exact Fillings.run_of_unfilled he.names (fits_routedFillings _ _ _)
    (fun x hx => Fillings.mem_routed_reads he.names hx) hg ((he.unfilled_iff hlabels hg hmutable).mpr hunnamed)
    (required_iff.mp ⟨hrequired, hmutable⟩)

theorem mapResult_missing (he : e.IsDerived) {memory : Memory} (hmemory : memory.Knows .standard e)
    {origin : Origin} (horigin : origin.Plain) (t : ResultTable) (hlabels : ∀ label ∈ t.labels, Text.IsAscii label) :
    ((∀ p ∈ e.parameters, p.required = true → ∃ label ∈ t.labels, e.named? .standard label = some p) →
        ∀ fault memory', mapResult .standard e origin t memory = (.error fault, memory') → ¬ fault.IsMissing)
      ∧ ((∃ p ∈ e.parameters, p.required = true ∧ ∀ label ∈ t.labels, e.named? .standard label ≠ some p) →
        t.rows ≠ [] → ∃ fault memory', mapResult .standard e origin t memory = (.error fault, memory')
          ∧ fault.kind = "Mapping") := by
  obtain ⟨after, hmapped, -⟩ := mapResult_plain he.shape hmemory horigin t
  rw [hmapped]
  constructor
  · intro hnamed fault memory' h
    obtain ⟨-, row, -, -, -, -, hrow⟩ := mapM_eq_error_iff.mp (congrArg Prod.fst h)
    rcases mapRow_record_eq_error_iff.mp hrow with hrun | ⟨i, -, -, rfl⟩
    · exact he.run_not_isMissing hlabels hnamed fault hrun
    · rintro ⟨entity, name, heq⟩
      cases heq
  · rintro ⟨p, hp, hrequired, hunnamed⟩ hrows
    obtain ⟨row, rest, hsplit⟩ := List.exists_cons_of_ne_nil hrows
    obtain ⟨fault, hrun, hkind⟩ := he.run_of_unnamed hlabels hp hrequired hunnamed row
    refine ⟨fault, after, ?_, hkind⟩
    have hrow : mapRow e (.record (planPlain .standard e t.columns)) row = .error fault :=
      mapRow_record_eq_error_iff.mpr (.inl hrun)
    rw [mapM_eq_error_iff.mpr ⟨[], row, rest, [], hsplit, .nil, hrow⟩]

theorem mapResult_missing_parcels :
    let parcel := Entity.ofFields "app::Parcel" "Parcel" none parcelFields
    let coded : ResultTable := ⟨["NOTE", "Code", "code"], [[.null, .text "A", .text "B"], [.null, .int 1, .null]]⟩
    let uncoded : ResultTable := ⟨["note", "weight_grams"], [[.null, .int 3]]⟩
    (∀ fault memory', mapResult .standard parcel .unknown coded {} = (.error fault, memory') → ¬ fault.IsMissing)
      ∧ ∃ fault memory', mapResult .standard parcel .unknown uncoded {} = (.error fault, memory')
        ∧ fault.kind = "Mapping" := by
  intro parcel coded uncoded
  have hderived : parcel.IsDerived := isDerived_ofFields _ _ _ (by decide +kernel)
  have hmemory : Memory.Knows .standard parcel {} := Memory.knows_empty _ _
  have horigin : Origin.unknown.Plain := trivial
  have hcoded : ∀ label ∈ coded.labels, Text.IsAscii label := by decide +kernel
  have huncoded : ∀ label ∈ uncoded.labels, Text.IsAscii label := by decide +kernel
  refine ⟨(hderived.mapResult_missing hmemory horigin coded hcoded).1 ?_,
    (hderived.mapResult_missing hmemory horigin uncoded huncoded).2 ?_ (List.cons_ne_nil _ _)⟩
  · decide +kernel
  · decide +kernel

end Entity.IsDerived

end RelationalMapping
