import RelationalMapping.Proofs.Mapping.Providers

namespace RelationalMapping

def Content.cell : Content → Value
  | .value v => v
  | .joined _ => .null

def Field.Stores (f : Field) (c : Content) : Prop :=
  ∃ (t : FieldType) (x : t.Carrier), f.holds = .column t ∧ c = .value (t.encode x)

structure Shows (row : Row) (fields : List Field) (content : Field → Content)
    (columns : List ColumnLabel) : Prop where
  named : ∀ c ∈ columns, ∃ f ∈ stored fields,
    c.label = f.columnName ∧ row.cell? c.position = some (content f).cell
  covers : ∀ f ∈ stored fields, ∃ c ∈ columns,
    c.label = f.columnName ∧ row.cell? c.position = some (content f).cell

variable {types : TypeNames} {fields : List Field} {content : Field → Content} {row : Row}
variable {typeName simpleName : String} {tableName : Option String}

theorem cell?_append (before after : Row) (v : Value) :
    (before ++ v :: after : Row).cell? (before.length + 1) = some v := by
  simp [Row.cell?]

theorem mem_labelled {α : Type} {items : List α} {name : α → String} {cell : α → Value}
    {before after : Row} {c : ColumnLabel}
    (h : c ∈ labelled (before.length + 1) (items.map name)) :
    ∃ x ∈ items, c.label = name x
      ∧ (before ++ (items.map cell ++ after) : Row).cell? c.position = some (cell x) := by
  induction items generalizing before with
  | nil => cases h
  | cons x rest ih =>
    rcases List.mem_cons.mp h with rfl | h
    · exact ⟨x, List.mem_cons_self, rfl, cell?_append before _ (cell x)⟩
    · have hlength : before.length + 1 + 1 = (before ++ [cell x]).length + 1 := by simp
      rw [hlength] at h
      obtain ⟨y, hy, hlabel, hcell⟩ := ih h
      refine ⟨y, List.mem_cons_of_mem _ hy, hlabel, ?_⟩
      simpa using hcell

theorem exists_labelled {α : Type} {items : List α} {name : α → String} {cell : α → Value}
    {before after : Row} {x : α} (h : x ∈ items) :
    ∃ c ∈ labelled (before.length + 1) (items.map name), c.label = name x
      ∧ (before ++ (items.map cell ++ after) : Row).cell? c.position = some (cell x) := by
  induction items generalizing before with
  | nil => cases h
  | cons y rest ih =>
    rcases List.mem_cons.mp h with rfl | h
    · exact ⟨_, List.mem_cons_self, rfl, cell?_append before _ (cell x)⟩
    · have hlength : (before ++ [cell y]).length + 1 = before.length + 1 + 1 := by simp
      obtain ⟨c, hc, hlabel, hcell⟩ : ∃ c ∈ labelled ((before ++ [cell y]).length + 1) (rest.map name),
          c.label = name x
            ∧ (before ++ [cell y] ++ (rest.map cell ++ after) : Row).cell? c.position = some (cell x) :=
        ih h
      rw [hlength] at hc
      refine ⟨c, List.mem_cons_of_mem _ hc, hlabel, ?_⟩
      simpa using hcell

theorem map_label_labelled (position : Nat) (labels : List String) :
    (labelled position labels).map (·.label) = labels := by
  induction labels generalizing position with
  | nil => rfl
  | cons label rest ih => rw [labelled, List.map_cons, ih]

theorem exists_label_iff {position : Nat} {labels : List String} {label : String} :
    (∃ c ∈ labelled position labels, c.label = label) ↔ label ∈ labels := by
  rw [← List.mem_map, map_label_labelled]

theorem shows_labelled (fields : List Field) (content : Field → Content) (before after : Row) :
    Shows (before ++ ((stored fields).map (fun f => (content f).cell) ++ after)) fields content
      (labelled (before.length + 1) ((stored fields).map (·.columnName))) :=
  ⟨fun _ hc => mem_labelled hc, fun _ hf => exists_labelled hf⟩

theorem Provider.column_serves {f : Field} {c : Content} {position : Nat}
    (hholds : types.held? f.label f.transient = some f.holds) (htransient : f.transient = false)
    (hstores : f.Stores c) (hcell : row.cell? position = some c.cell) :
    (Provider.column position (MappingContext.standard.codec f.label)).Serves row f c := by
  obtain ⟨t, x, htype, rfl⟩ := hstores
  rw [htype, htransient] at hholds
  refine ⟨.value (t.encode x), ?_, ?_⟩
  · rw [provide, hcell, Content.cell, codec_decode hholds]
    rfl
  · rw [htype, htransient]
    change (t.hold (t.encode x)).map Content.value = _
    rw [t.hold_encode]
    rfl

theorem Provider.join_serves_absent {f : Field} {plan : Plan} {positions : List Nat}
    (htransient : f.transient = true) (hholds : f.holds = .joined plan.entity.instanceType)
    (hvacant : row.isVacant positions = true) :
    (Provider.join plan positions).Serves row f (.joined none) := by
  refine ⟨plan.entity.absent, ?_, ?_⟩
  · rw [provide, if_pos hvacant]
  · rw [hholds, htransient]
    exact if_pos rfl

theorem Provider.join_serves_present {f : Field} {plan : Plan} {positions : List Nat} {i : Instance}
    (htransient : f.transient = true) (hholds : f.holds = .joined plan.entity.instanceType)
    (hvacant : row.isVacant positions = false) (hrun : plan.run row = .ok i)
    (htype : i.instanceType = plan.entity.instanceType) :
    (Provider.join plan positions).Serves row f (.joined (some i)) := by
  refine ⟨.object (.joined plan.entity.instanceType) (.joined (some i)), ?_, ?_⟩
  · rw [provide, if_neg (by simp [hvacant]), hrun]
    exact if_pos htype
  · rw [hholds, htransient]
    exact if_pos rfl

structure Readable (types : TypeNames) (fields : List Field) : Prop where
  derived : Derived types fields
  unambiguous : Unambiguous fields

structure Holds (fields : List Field) (content : Field → Content) (joined : String → Prop) : Prop where
  stores : ∀ f ∈ stored fields, f.Stores (content f)
  initial : ∀ f ∈ fields, f.transient = true → ¬ joined f.name → content f = f.holds.initial

theorem Readable.column_serves {joined : String → Prop} (h : Readable types fields)
    (hholds : Holds fields content joined) {f : Field} (hf : f ∈ stored fields) {position : Nat}
    (hcell : row.cell? position = some (content f).cell) :
    (Provider.column position (MappingContext.standard.codec f.label)).Serves row f (content f) :=
  Provider.column_serves (h.derived.holds f (mem_stored.mp hf).1) (mem_stored.mp hf).2
    (hholds.stores f hf) hcell

theorem Readable.gets_columnProvider? {joined : String → Prop} (h : Readable types fields)
    (hholds : Holds fields content joined) {columns : List ColumnLabel}
    (hshows : Shows row fields content columns) {f : Field} (hf : f ∈ fields)
    (hjoined : f.transient = true → ¬ joined f.name) :
    f.Gets row (columnProvider? .standard columns f) (content f) := by
  cases htransient : f.transient with
  | true =>
    rw [columnProvider?, if_pos htransient]
    exact ⟨.inr (.inl htransient), hholds.initial f hf htransient (hjoined htransient)⟩
  | false =>
    have hstored := mem_stored.mpr ⟨hf, htransient⟩
    rw [columnProvider?, htransient, if_neg (by decide)]
    rcases hfound : columns.find? (fun c => MappingContext.standard.accepts c.label f.slotName) with _ | c
    · obtain ⟨c, hc, hlabel, -⟩ := hshows.covers f hstored
      refine absurd ?_ (List.find?_eq_none.mp hfound c hc)
      rw [hlabel, accepts_columnName_iff h.unambiguous hf hf]
    · obtain ⟨g, hg, hlabel, hcell⟩ := hshows.named c (List.mem_of_find?_eq_some hfound)
      have haccepts := (List.find?_eq_some_iff_append.mp hfound).1
      rw [hlabel, accepts_columnName_iff h.unambiguous (mem_stored.mp hg).1 hf] at haccepts
      rw [hfound]
      exact h.column_serves hholds hstored (haccepts ▸ hcell)

theorem Readable.oneToOne (h : Readable types fields) {columns : List ColumnLabel}
    (hshows : Shows row fields content columns) (hdistinct : (columns.map fun c => Text.lowercase c.label).Nodup) :
    OneToOne .standard fields columns where
  targets := by
    intro c hc f hf g hg hfirst hsecond
    obtain ⟨other, hother, hlabel, -⟩ := hshows.named c hc
    rw [hlabel, accepts_columnName_iff h.unambiguous (mem_stored.mp hother).1 (mem_stored.mp hf).1] at hfirst
    rw [hlabel, accepts_columnName_iff h.unambiguous (mem_stored.mp hother).1 (mem_stored.mp hg).1] at hsecond
    exact hfirst.trans hsecond.symm
  labels := by
    have hname : ∀ c ∈ columns, ∀ f ∈ stored fields, MappingContext.standard.accepts c.label f.slotName = true →
        c.label = f.columnName := by
      intro c hc f hf haccepts
      obtain ⟨other, hother, hlabel, -⟩ := hshows.named c hc
      rw [hlabel, accepts_columnName_iff h.unambiguous (mem_stored.mp hother).1 (mem_stored.mp hf).1] at haccepts
      rw [hlabel, haccepts]
    intro f hf c hc d hd hfirst hsecond
    rw [hname c hc f hf hfirst, hname d hd f hf hsecond]
  distinct := hdistinct

theorem Readable.run_planPlain (h : Readable types fields) (typeName simpleName : String)
    (tableName : Option String) (hholds : Holds fields content fun _ => False) {columns : List ColumnLabel}
    (hshows : Shows row fields content columns) (hdistinct : (columns.map fun c => Text.lowercase c.label).Nodup) :
    (planPlain .standard (Entity.ofFields typeName simpleName tableName fields) columns).run row
      = .ok (recordOf typeName fields content) := by
  rw [planPlain_eq hdistinct, Fillings.run_toPlan_eq_ok_iff h.derived.names (fits_routedFillings _ _ _)]
  refine ⟨content, rfl, fun f hf => ?_⟩
  rw [(h.oneToOne hshows hdistinct).provider?_routedFillings h.derived.names hf]
  exact h.gets_columnProvider? hholds hshows hf fun _ => id

theorem Readable.provider?_foundFillings {context : MappingContext} (h : Readable types fields) {f : Field}
    (hf : f ∈ fields) (columns : List ColumnLabel) :
    (foundFillings context (Entity.ofFields typeName simpleName tableName fields) columns).provider? f
      = columnProvider? context columns f :=
  RelationalMapping.provider?_foundFillings h.derived.names hf fun hstored _ hg hslot _ =>
    (h.unambiguous.eq_of_slotName_eq (mem_stored.mp hstored).1 (mem_stored.mp hg).1 hslot).symm

theorem Readable.run_assemble {joined : String → Prop} (h : Readable types fields)
    (typeName simpleName : String) (tableName : Option String)
    (hnames : (fields.map fun f => folded f.name).Nodup) (hholds : Holds fields content joined)
    {columns : List ColumnLabel} (hshows : Shows row fields content columns) {joins : List JoinPlan}
    (hjoins : ∀ j ∈ joins, ∃ f ∈ fields, f.name = j.field
      ∧ (Provider.join j.plan j.positions).Serves row f (content f))
    (hjoined : ∀ f ∈ fields, joined f.name → f.name ∈ joins.map (·.field)) :
    (assemble .standard (Entity.ofFields typeName simpleName tableName fields) columns joins).run row
      = .ok (recordOf typeName fields content) := by
  have hinto : JoinsInto .standard fields joins := by
    refine ⟨List.cons_ne_nil _ _, hnames, fun j hj => ?_⟩
    obtain ⟨f, hf, hname, -⟩ := hjoins j hj
    exact ⟨f, hf, hname⟩
  rw [assemble_eq, Fillings.run_toPlan_eq_ok_iff h.derived.names hinto.fits]
  refine ⟨content, rfl, fun f hf => ?_⟩
  by_cases hname : f.name ∈ joins.map (·.field)
  · obtain ⟨j, hj, hfield, hprovider⟩ := hinto.provider?_joined hf hname
    obtain ⟨g, hg, hsame, hserves⟩ := hjoins j hj
    rw [hprovider, ← eq_of_name_eq h.derived.names hg hf (hsame.trans hfield)]
    exact hserves
  · rw [hinto.provider?_other hf hname, h.provider?_foundFillings hf]
    exact h.gets_columnProvider? hholds hshows hf fun _ hjoin => hname (hjoined f hf hjoin)

end RelationalMapping
