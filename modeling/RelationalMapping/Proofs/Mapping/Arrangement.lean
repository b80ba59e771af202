import RelationalMapping.Proofs.Mapping.Records
import RelationalMapping.Proofs.Mapping.Shifted

namespace RelationalMapping

structure ResultColumn where
  label : String
  cell : Nat → Value

def ResultColumn.IsNull (x : ResultColumn) : Prop := ∀ r, x.cell r = .null

def rowOf (columns : List ResultColumn) (r : Nat) : Row := columns.map (·.cell r)

def ResultTable.ofColumns (count : Nat) (columns : List ResultColumn) : ResultTable :=
  ⟨columns.map (·.label), (List.range count).map (rowOf columns)⟩

variable {context : MappingContext} {e : Entity} {row other : Row} {own own' : List ResultColumn}

def ColumnLabel.Heads (rows : Nat → Row) (c : ColumnLabel) (x : ResultColumn) : Prop :=
  c.label = x.label ∧ ∀ r, (rows r).cell? c.position = some (x.cell r)

theorem heads_labelled_append (before columns : List ResultColumn) :
    List.Forall₂ (ColumnLabel.Heads (rowOf (before ++ columns)))
      (labelled (before.length + 1) (columns.map (·.label))) columns := by
  induction columns generalizing before with
  | nil => exact .nil
  | cons x rest ih =>
    refine .cons ⟨rfl, fun r => ?_⟩ ?_
    · rw [rowOf, List.map_append, ← List.length_map (·.cell r)]
      exact cell?_append _ _ _
    · have hrest := ih (before ++ [x])
      rwa [List.append_assoc, List.length_append] at hrest

theorem heads_labelled (columns : List ResultColumn) :
    List.Forall₂ (ColumnLabel.Heads (rowOf columns)) (labelled 1 (columns.map (·.label))) columns :=
  heads_labelled_append [] columns

theorem find?_heads (p : String → Bool) {rows : Nat → Row} {columns : List ColumnLabel} {xs : List ResultColumn}
    (h : List.Forall₂ (ColumnLabel.Heads rows) columns xs) :
    Option.Rel (ColumnLabel.Heads rows) (columns.find? (p ·.label)) (xs.find? (p ·.label)) :=
  rel_find? (fun c x hcx => by rw [hcx.1]) h

theorem alike_of_heads {rows rows' : Nat → Row} {c? d? : Option ColumnLabel} {x? : Option ResultColumn}
    (hc : Option.Rel (ColumnLabel.Heads rows) c? x?) (hd : Option.Rel (ColumnLabel.Heads rows') d? x?) (r : Nat) :
    Option.Rel (ColumnLabel.Alike (rows r) (rows' r)) c? d? := by
  rcases cases_of_rel hc with ⟨rfl, rfl⟩ | ⟨c, x, rfl, rfl, hcx⟩
  · cases hd
    exact .none
  · cases hd with
    | some hdx => exact .some ⟨hcx.1.trans hdx.1.symm, (hcx.2 r).trans (hdx.2 r).symm⟩

/-- Another order of an entity's own columns, with columns of this kind put among them. Before, labels and stored
fields name each other one to one; what is put among them names no field, and its labels are new in lower case. -/
structure Entity.Widens (context : MappingContext) (e : Entity) (kind : ResultColumn → Prop)
    (own own' : List ResultColumn) : Prop where
  routes : OneToOne context e.fields (labelled 1 (own.map (·.label)))
  surplus : ∃ surplus, own'.Perm (own ++ surplus)
    ∧ ∀ x ∈ surplus, kind x ∧ ∀ f ∈ stored e.fields, context.accepts x.label f.slotName = false
  distinct : (own'.map fun x => Text.lowercase x.label).Nodup

theorem exists_labelled_iff {columns : List ResultColumn} {label : String} :
    (∃ c ∈ labelled 1 (columns.map (·.label)), c.label = label) ↔ ∃ x ∈ columns, x.label = label := by
  rw [exists_label_iff, List.mem_map]

theorem map_lowercase_labelled (columns : List ResultColumn) :
    (labelled 1 (columns.map (·.label))).map (fun c => Text.lowercase c.label)
      = columns.map fun x => Text.lowercase x.label := by
  have hlabels := congrArg (List.map Text.lowercase) (map_label_labelled 1 (columns.map (·.label)))
  rwa [List.map_map, List.map_map] at hlabels

section Widened

variable {kind : ResultColumn → Prop}

theorem Entity.Widens.subset (h : e.Widens context kind own own') : own ⊆ own' := by
  obtain ⟨surplus, hperm, -⟩ := h.surplus
  exact fun x hx => hperm.mem_iff.mpr (List.mem_append_left _ hx)

theorem Entity.Widens.mem_of_accepts (h : e.Widens context kind own own') {x : ResultColumn} (hx : x ∈ own')
    {f : Field} (hf : f ∈ stored e.fields) (haccepts : context.accepts x.label f.slotName = true) : x ∈ own := by
  obtain ⟨surplus, hperm, hsurplus⟩ := h.surplus
  rcases List.mem_append.mp (hperm.mem_iff.mp hx) with hx | hx
  · exact hx
  · rw [(hsurplus x hx).2 f hf] at haccepts
    cases haccepts

theorem Entity.Widens.eq_of_accepts (h : e.Widens context kind own own') {f : Field} (hf : f ∈ stored e.fields)
    {x y : ResultColumn} (hx : x ∈ own') (hy : y ∈ own') (hfirst : context.accepts x.label f.slotName = true)
    (hsecond : context.accepts y.label f.slotName = true) : x = y := by
  obtain ⟨c, hc, hlabel⟩ := exists_labelled_iff.mpr ⟨x, h.mem_of_accepts hx hf hfirst, rfl⟩
  obtain ⟨d, hd, hother⟩ := exists_labelled_iff.mpr ⟨y, h.mem_of_accepts hy hf hsecond, rfl⟩
  have hsame := h.routes.labels f hf c hc d hd (hlabel ▸ hfirst) (hother ▸ hsecond)
  rw [hlabel, hother] at hsame
  exact List.inj_on_of_nodup_map h.distinct hx hy (congrArg Text.lowercase hsame)

theorem Entity.Widens.find?_eq (h : e.Widens context kind own own') {f : Field} (hf : f ∈ stored e.fields) :
    own'.find? (fun x => context.accepts x.label f.slotName)
      = own.find? fun x => context.accepts x.label f.slotName := by
  rcases hfound : own.find? (fun x => context.accepts x.label f.slotName) with _ | x
  · rw [hfound, List.find?_eq_none]
    exact fun y hy haccepts => List.find?_eq_none.mp hfound y (h.mem_of_accepts hy hf haccepts) haccepts
  · have hx := h.subset (List.mem_of_find?_eq_some hfound)
    have haccepts := (List.find?_eq_some_iff_append.mp hfound).1
    rw [hfound]
    exact find?_unique hx haccepts fun y hy hother => h.eq_of_accepts hf hy hx hother haccepts

theorem Entity.Widens.oneToOne (h : e.Widens context kind own own') :
    OneToOne context e.fields (labelled 1 (own'.map (·.label))) where
  targets := by
    intro c hc f hf g hg hfirst hsecond
    obtain ⟨x, hx, hlabel⟩ := exists_labelled_iff.mp ⟨c, hc, rfl⟩
    rw [← hlabel] at hfirst hsecond
    obtain ⟨d, hd, hsame⟩ := exists_labelled_iff.mpr ⟨x, h.mem_of_accepts hx hf hfirst, rfl⟩
    exact h.routes.targets d hd f hf g hg (hsame ▸ hfirst) (hsame ▸ hsecond)
  labels := by
    intro f hf c hc d hd hfirst hsecond
    obtain ⟨x, hx, hlabel⟩ := exists_labelled_iff.mp ⟨c, hc, rfl⟩
    obtain ⟨y, hy, hother⟩ := exists_labelled_iff.mp ⟨d, hd, rfl⟩
    rw [← hlabel] at hfirst
    rw [← hother] at hsecond
    rw [← hlabel, ← hother, h.eq_of_accepts hf hx hy hfirst hsecond]
  distinct := by
    rw [map_lowercase_labelled]
    exact h.distinct

theorem Entity.Widens.perm (h : e.Widens context kind own own') {others others' : List ResultColumn}
    (hothers : others.Perm own) (hothers' : others'.Perm own') : e.Widens context kind others others' := by
  obtain ⟨surplus, hsurplus, hkind⟩ := h.surplus
  have hdistinct : (others.map fun x => Text.lowercase x.label).Nodup := by
    have hown := h.routes.distinct
    rw [map_lowercase_labelled] at hown
    exact (hothers.map _).nodup_iff.mpr hown
  have hreordered : e.Widens context kind own others :=
    ⟨h.routes, ⟨[], by rwa [List.append_nil], nofun⟩, hdistinct⟩
  refine ⟨hreordered.oneToOne, ⟨surplus, ?_, hkind⟩, (hothers'.map _).nodup_iff.mpr h.distinct⟩
  exact hothers'.trans (hsurplus.trans (hothers.symm.append_right surplus))

variable {rows rows' : Nat → Row} {columns columns' : List ColumnLabel}

theorem Entity.Widens.found_alike (h : e.Widens context kind own own')
    (hcolumns : List.Forall₂ (ColumnLabel.Heads rows) columns own)
    (hcolumns' : List.Forall₂ (ColumnLabel.Heads rows') columns' own') {f : Field} (hf : f ∈ stored e.fields)
    (r : Nat) :
    Option.Rel (ColumnLabel.Alike (rows r) (rows' r))
      (columns.find? fun c => context.accepts c.label f.slotName)
      (columns'.find? fun c => context.accepts c.label f.slotName) := by
  have hfound := find?_heads (context.accepts · f.slotName) hcolumns
  have hfound' := find?_heads (context.accepts · f.slotName) hcolumns'
  rw [h.find?_eq hf] at hfound'
  exact alike_of_heads hfound hfound' r

theorem Entity.Widens.foundAlike (hderived : e.IsDerived) (h : e.Widens context kind own own')
    (hcolumns : List.Forall₂ (ColumnLabel.Heads rows) columns own)
    (hcolumns' : List.Forall₂ (ColumnLabel.Heads rows') columns' own') (r : Nat) :
    e.FoundAlike context (rows r) (rows' r) columns columns' := by
  intro target htarget
  rw [hderived.made] at htarget
  obtain ⟨f, hf, rfl⟩ := exists_of_mem_columnFields htarget
  rw [slotName_ref]
  exact h.found_alike hcolumns hcolumns' hf r

end Widened

theorem Field.gets_alike {f : Field} (hf : f ∈ e.fields) {columns others : List ColumnLabel}
    (h : f ∈ stored e.fields → Option.Rel (ColumnLabel.Alike row other)
      (columns.find? fun c => context.accepts c.label f.slotName)
      (others.find? fun c => context.accepts c.label f.slotName)) (content : Content) :
    f.Gets row (columnProvider? context columns f) content
      ↔ f.Gets other (columnProvider? context others f) content := by
  unfold columnProvider?
  cases htransient : f.transient with
  | true => exact Iff.rfl
  | false =>
    have hfound := h (mem_stored.mpr ⟨hf, htransient⟩)
    rcases cases_of_rel hfound with ⟨hc, hd⟩ | ⟨c, d, hc, hd, hcd⟩ <;> rw [hc, hd]
    · exact Iff.rfl
    · change Provider.Serves _ _ _ _ ↔ Provider.Serves _ _ _ _
      rw [Provider.Serves, Provider.Serves, Provider.provide, Provider.provide, hcd.2]

theorem toOption_eq_of_ok_iff {α ε : Type} {x y : Except ε α} (h : ∀ a, x = .ok a ↔ y = .ok a) :
    x.toOption = y.toOption := by
  cases x with
  | ok a => rw [(h a).mp rfl]
  | error fault =>
    cases y with
    | ok b => cases (h b).mpr rfl
    | error other => rfl

theorem toOption_bind_congr {α β ε : Type} {x y : Except ε α} (h : x.toOption = y.toOption) (f : α → Except ε β) :
    (x >>= f).toOption = (y >>= f).toOption := by
  cases x <;> cases y <;> cases h <;> rfl

theorem toOption_mapM {α β ε : Type} (f : α → Except ε β) (items : List α) :
    (items.mapM f).toOption = items.mapM fun a => (f a).toOption := by
  induction items with
  | nil => rfl
  | cons a rest ih =>
    rw [List.mapM_cons, List.mapM_cons, ← ih]
    cases f a with
    | error fault => rfl
    | ok b => cases rest.mapM f <;> rfl

theorem Entity.Widens.toOption_run {kind : ResultColumn → Prop} (hderived : e.IsDerived)
    (h : e.Widens context kind own own') (r : Nat) :
    ((planPlain context e (labelled 1 (own'.map (·.label)))).run (rowOf own' r)).toOption
      = ((planPlain context e (labelled 1 (own.map (·.label)))).run (rowOf own r)).toOption := by
  have hgets : ∀ f ∈ e.fields, ∀ content,
      f.Gets (rowOf own' r) (columnProvider? context (labelled 1 (own'.map (·.label))) f) content
        ↔ f.Gets (rowOf own r) (columnProvider? context (labelled 1 (own.map (·.label))) f) content :=
    fun f hf content => (Field.gets_alike hf (fun hstored =>
      h.found_alike (heads_labelled own) (heads_labelled own') hstored r) content).symm
  refine toOption_eq_of_ok_iff fun i => ?_
  rw [planPlain_eq h.oneToOne.distinct, planPlain_eq h.routes.distinct, hderived.made,
    Fillings.run_toPlan_eq_ok_iff hderived.names (fits_routedFillings _ _ _),
    Fillings.run_toPlan_eq_ok_iff hderived.names (fits_routedFillings _ _ _)]
  refine exists_congr fun content => and_congr_right fun _ => forall₂_congr fun f hf => ?_
  rw [h.oneToOne.provider?_routedFillings hderived.names hf, h.routes.provider?_routedFillings hderived.names hf]
  exact hgets f hf _

theorem Entity.Widens.toOption_mapResult {kind : ResultColumn → Prop} (hderived : e.IsDerived)
    (h : e.Widens context kind own own') {origin : Origin} (horigin : origin.Plain) {memory memory' : Memory}
    (hmemory : memory.Knows context e) (hmemory' : memory'.Knows context e) (count : Nat) :
    (mapResult context e origin (.ofColumns count own') memory').1.toOption
      = (mapResult context e origin (.ofColumns count own) memory).1.toOption := by
  have hshape : e.shape = .record := by rw [hderived.made]; rfl
  obtain ⟨_, hresult, -⟩ := mapResult_plain hshape hmemory horigin (.ofColumns count own)
  obtain ⟨_, hresult', -⟩ := mapResult_plain hshape hmemory' horigin (.ofColumns count own')
  have hrows : ∀ r, (mapRow e (.record (planPlain context e (labelled 1 (own'.map (·.label))))) (rowOf own' r)).toOption
      = (mapRow e (.record (planPlain context e (labelled 1 (own.map (·.label))))) (rowOf own r)).toOption :=
    fun r => toOption_bind_congr (h.toOption_run hderived r) _
  rw [hresult, hresult', toOption_mapM, toOption_mapM, ResultTable.ofColumns, ResultTable.ofColumns, List.mapM_map,
    List.mapM_map]
  exact congrArg (fun f => List.mapM f (List.range count)) (funext hrows)

end RelationalMapping
