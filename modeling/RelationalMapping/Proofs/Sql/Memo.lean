import RelationalMapping.Proofs.Sql.Naming

namespace RelationalMapping

def IntoField.ownLabel (edge : Edge) (into : IntoField) : String :=
  edge.label ++ ":" ++ into.column.ownName

/-- What is remembered under one key is asked for under that key only. -/
structure Unconfused (among : Entity → Prop) : Prop where
  columns : ∀ c d : Column, among c.table.entity → among d.table.entity → c.key = d.key →
    c.ownName = d.ownName
  tables : ∀ e d, among e → among d → e.typeName = d.typeName → e.ownTableName = d.ownTableName

structure Names.Faithful (among : Entity → Prop) (names : Names) : Prop where
  tables : ∀ e, among e → ∀ name, names.tables.lookup e.typeName = some name →
    e.ownTableName = .ok name
  columns : ∀ c : Column, among c.table.entity → ∀ name, names.columns.lookup c.key = some name →
    name = c.ownName
  markers : ∀ (edge : Edge) (into : IntoField), among into.column.table.entity → ∀ label,
    names.markers.lookup (edge.label ++ "|" ++ into.column.key) = some label →
      label = into.ownLabel edge

theorem Names.faithful_empty (among : Entity → Prop) : Names.Faithful among {} :=
  ⟨by simp, by simp, by simp⟩

theorem Column.ownName_congr {c d : Column} (he : c.table.entity = d.table.entity)
    (hp : c.property = d.property) : c.ownName = d.ownName := by
  unfold Column.ownName
  rw [he, hp]

theorem unconfused_single (e : Entity) : Unconfused (· = e) := by
  refine ⟨?_, ?_⟩
  · rintro c d hc hd hkey
    refine Column.ownName_congr (hc.trans hd.symm) ?_
    rw [Column.key, Column.key, hc, hd] at hkey
    exact String.append_right_inj _ |>.mp hkey
  · rintro e d rfl rfl _
    rfl

theorem eq_of_append_cons_eq {α : Type} {a : α} {xs ys us vs : List α} (hx : a ∉ xs) (hu : a ∉ us)
    (h : xs ++ a :: ys = us ++ a :: vs) : xs = us ∧ ys = vs := by
  induction xs generalizing us with
  | nil =>
    cases us with
    | nil => simpa using h
    | cons u us =>
      injection h with hau
      exact absurd (hau ▸ List.mem_cons_self) hu
  | cons x xs ih =>
    cases us with
    | nil =>
      injection h with hxa
      exact absurd (hxa ▸ List.mem_cons_self) hx
    | cons u us =>
      injection h with hxu hrest
      obtain ⟨rfl, rfl⟩ := ih (fun h => hx (List.mem_cons_of_mem _ h))
        (fun h => hu (List.mem_cons_of_mem _ h)) hrest
      exact ⟨by rw [hxu], rfl⟩

theorem unconfused_of_distinct {among : Entity → Prop}
    (hdistinct : ∀ e d, among e → among d → e.typeName = d.typeName → e = d)
    (hseparator : ∀ e, among e → '|' ∉ e.typeName.toList) : Unconfused among := by
  refine ⟨fun c d hc hd hkey => ?_, fun e d he hd h => by rw [hdistinct e d he hd h]⟩
  have hchars : c.table.entity.typeName.toList ++ '|' :: c.property.toList
      = d.table.entity.typeName.toList ++ '|' :: d.property.toList := by
    simpa [Column.key] using congrArg String.toList hkey
  obtain ⟨htype, hproperty⟩ := eq_of_append_cons_eq (hseparator _ hc) (hseparator _ hd) hchars
  exact Column.ownName_congr (hdistinct _ _ hc hd (String.toList_inj.mp htype))
    (String.toList_inj.mp hproperty)

theorem markerKey_inj {edge other : Edge} {key key' : String}
    (h : edge.label ++ "|" ++ key = other.label ++ "|" ++ key') : edge = other ∧ key = key' := by
  have hchars := congrArg String.toList h
  cases edge <;> cases other
  · exact ⟨rfl, String.append_right_inj _ |>.mp h⟩
  · simp [Edge.label] at hchars
  · simp [Edge.label] at hchars
  · exact ⟨rfl, String.append_right_inj _ |>.mp h⟩

variable {among : Entity → Prop} {names : Names}

theorem lookup_cons_some {entries : List (String × String)} {key other name found : String}
    (h : ((key, name) :: entries).lookup other = some found) :
    (other = key ∧ found = name) ∨ entries.lookup other = some found := by
  rw [List.lookup_cons] at h
  split at h
  · rename_i hkey
    cases h
    exact .inl ⟨beq_iff_eq.mp hkey, rfl⟩
  · exact .inr h

theorem Names.column_faithful (hamong : Unconfused among) (hnames : names.Faithful among) {c : Column}
    (hc : among c.table.entity) :
    (names.column c).1 = c.ownName ∧ (names.column c).2.Faithful among := by
  unfold Names.column
  split
  · rename_i name hname
    exact ⟨hnames.columns c hc name hname, hnames⟩
  · refine ⟨rfl, { hnames with columns := fun d hd name hname => ?_ }⟩
    rcases lookup_cons_some hname with ⟨hkey, rfl⟩ | hname
    · exact hamong.columns c d hc hd hkey.symm
    · exact hnames.columns d hd name hname

theorem Names.marker_faithful (hamong : Unconfused among) (hnames : names.Faithful among) (edge : Edge)
    {into : IntoField} (hinto : among into.column.table.entity) :
    (names.marker edge into).1 = into.ownLabel edge ∧ (names.marker edge into).2.Faithful among := by
  unfold Names.marker
  dsimp only
  split
  · rename_i label hlabel
    exact ⟨hnames.markers edge into hinto label hlabel, hnames⟩
  · obtain ⟨hname, hafter⟩ := column_faithful hamong hnames hinto
    rw [hname]
    refine ⟨rfl, { hafter with markers := fun other into' hinto' label hlabel => ?_ }⟩
    rcases lookup_cons_some hlabel with ⟨hkey, rfl⟩ | hlabel
    · obtain ⟨rfl, hcolumn⟩ := markerKey_inj hkey
      rw [IntoField.ownLabel, hamong.columns _ _ hinto' hinto hcolumn]
    · exact hafter.markers other into' hinto' label hlabel

theorem Names.table_faithful (hamong : Unconfused among) (hnames : names.Faithful among) {e : Entity}
    (he : among e) (htype : e.typeName.isEmpty = false) {name : String} (hname : e.ownTableName = .ok name) :
    (names.table e).1 = .ok name ∧ (names.table e).2.Faithful among := by
  unfold Names.table
  rw [htype, if_neg (by decide)]
  split
  · rename_i known hknown
    rw [hnames.tables e he known hknown] at hname
    exact ⟨hname, hnames⟩
  · rw [hname]
    refine ⟨rfl, { hnames with tables := fun d hd other hother => ?_ }⟩
    rcases lookup_cons_some hother with ⟨hkey, rfl⟩ | hother
    · rw [hamong.tables d e hd he hkey, hname]
    · exact hnames.tables d hd other hother

namespace Naming

variable {α β : Type} {kept : Names → Prop}

def Yields (kept : Names → Prop) (x : Naming α) (a : α) : Prop :=
  ∀ names, kept names → ∃ names', x names = (.ok a, names') ∧ kept names'

theorem yields_pure (a : α) : Yields kept (pure a) a := fun names h => ⟨names, rfl, h⟩

theorem yields_bind {x : Naming α} {f : α → Naming β} {a : α} {b : β} (hx : Yields kept x a)
    (hf : Yields kept (f a) b) : Yields kept (x >>= f) b := by
  intro names hnames
  obtain ⟨between, ha, hbetween⟩ := hx names hnames
  obtain ⟨names', hb, hnames'⟩ := hf between hbetween
  exact ⟨names', bind_eq_ok.mpr ⟨a, between, ha, hb⟩, hnames'⟩

theorem ends_of_yields {x : Naming α} {f : α → Naming β} {a : α} {fault? : Option Error}
    (hx : Yields kept x a) (hf : Ends kept (f a) fault?) : Ends kept (x >>= f) fault? := by
  intro names hnames
  obtain ⟨between, ha, hbetween⟩ := hx names hnames
  rw [bind_apply, ha]
  exact hf between hbetween

theorem yields_mapM {γ : Type} {f : γ → Naming α} {g : γ → α} {items : List γ}
    (h : ∀ item ∈ items, Yields kept (f item) (g item)) :
    Yields kept (items.mapM f) (items.map g) := by
  induction items with
  | nil => exact yields_pure []
  | cons item rest ih =>
    rw [List.mapM_cons]
    refine yields_bind (h item List.mem_cons_self) ?_
    refine yields_bind (ih fun other hother => h other (List.mem_cons_of_mem _ hother)) ?_
    exact yields_pure _

theorem yields_column (hamong : Unconfused among) {c : Column} (hc : among c.table.entity) :
    Yields (Names.Faithful among) (Naming.column c) c.ownName := by
  intro names hnames
  obtain ⟨hname, hafter⟩ := Names.column_faithful hamong hnames hc
  exact ⟨(names.column c).2, by rw [column_apply, hname], hafter⟩

theorem yields_marker (hamong : Unconfused among) (edge : Edge) {into : IntoField}
    (hinto : among into.column.table.entity) :
    Yields (Names.Faithful among) (Naming.marker edge into) (into.ownLabel edge) := by
  intro names hnames
  obtain ⟨hlabel, hafter⟩ := Names.marker_faithful hamong hnames edge hinto
  exact ⟨(names.marker edge into).2, by rw [marker_apply, hlabel], hafter⟩

theorem yields_table (hamong : Unconfused among) {e : Entity} (he : among e)
    (htype : e.typeName.isEmpty = false) {name : String} (hname : e.ownTableName = .ok name) :
    Yields (Names.Faithful among) (Naming.table e) name := by
  intro names hnames
  obtain ⟨htable, hafter⟩ := Names.table_faithful hamong hnames he htype hname
  exact ⟨(names.table e).2, Prod.ext htable rfl, hafter⟩

end Naming

end RelationalMapping
