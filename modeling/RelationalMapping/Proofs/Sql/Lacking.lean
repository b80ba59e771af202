import RelationalMapping.Proofs.Sql.Naming
import RelationalMapping.Proofs.Sql.Phrases
import RelationalMapping.Proofs.Text.Sign

namespace RelationalMapping

structure Foreign (d : Char) : Prop where
  sign : Text.IsSign d
  wording : isWordingCharacter d = false
  literal : d ≠ Text.literalQuote
  identifier : d ≠ Text.identifierQuote

theorem foreign_parameterMark : Foreign '?' :=
  ⟨by decide, by decide, by decide, by decide⟩

theorem foreign_slotStart : Foreign '#' :=
  ⟨by decide, by decide, by decide, by decide⟩

def Absent (d : Char) (s : String) : Prop := d ∉ s.toList

instance (d : Char) (s : String) : Decidable (Absent d s) := inferInstanceAs (Decidable (¬ _))

variable {d : Char}

theorem absent_append {s t : String} : Absent d (s ++ t) ↔ Absent d s ∧ Absent d t := by
  simp [Absent, not_or]

theorem absent_of_wording (hd : isWordingCharacter d = false) {s : String} (hs : isWording s = true) :
    Absent d s := by
  intro h
  have := List.all_eq_true.mp hs d h
  rw [hd] at this
  cases this

theorem absent_underscore (hd : Text.IsSign d) {s : String} (hs : Absent d s) :
    Absent d (Text.underscore s) := fun h => hs (Text.mem_of_mem_underscore hd h)

theorem absent_quoteIdentifier (hd : Foreign d) {s : String} (hs : Absent d s) :
    Absent d (Text.quoteIdentifier s) := fun h => hs (Text.mem_of_mem_quoteIdentifier hd.identifier h)

theorem absent_quoteLiteral (hd : Foreign d) {s : String} (hs : Absent d s) :
    Absent d (Text.quoteLiteral s) := fun h => hs (Text.mem_of_mem_quoteLiteral hd.literal h)

theorem absent_intercalate {separator : String} (hs : Absent d separator) {texts : List String}
    (h : ∀ s ∈ texts, Absent d s) : Absent d (separator.intercalate texts) := by
  induction texts with
  | nil => simp [Absent]
  | cons s rest ih =>
    simp only [List.mem_cons, forall_eq_or_imp] at h
    by_cases hrest : rest = []
    · simpa [hrest] using h.1
    · rw [String.intercalate_cons_of_ne_nil hrest]
      exact absent_append.mpr ⟨absent_append.mpr ⟨h.1, hs⟩, ih h.2⟩

def Entity.givenName (e : Entity) : String := e.tableName.getD e.simpleName

def Column.givenName (c : Column) : String :=
  match (c.table.entity.parameter? c.property).bind (·.column) with
  | some name => name
  | none => ((c.table.entity.property? c.property).bind (·.column)).getD c.property

structure Names.Lacks (d : Char) (names : Names) : Prop where
  tables : ∀ entry ∈ names.tables, Absent d entry.2
  columns : ∀ entry ∈ names.columns, Absent d entry.2
  markers : ∀ entry ∈ names.markers, Absent d entry.2

theorem Names.lacks_empty : Names.Lacks d {} := ⟨by simp, by simp, by simp⟩

theorem absent_of_lookup {entries : List (String × String)} {key name : String}
    (h : ∀ entry ∈ entries, Absent d entry.2) (hname : entries.lookup key = some name) :
    Absent d name := by
  obtain ⟨before, after, rfl, -⟩ := List.lookup_eq_some_iff.mp hname
  exact h (key, name) (by simp)

theorem Column.absent_ownName (hd : Text.IsSign d) {c : Column} (h : Absent d c.givenName) :
    Absent d c.ownName := by
  unfold Column.ownName
  unfold Column.givenName at h
  split
  · rename_i name hname
    rw [hname] at h
    exact h
  · rename_i hname
    rw [hname] at h
    split
    · rename_i name hproperty
      rw [hproperty] at h
      exact h
    · rename_i hproperty
      rw [hproperty] at h
      exact absent_underscore hd h

theorem Entity.absent_ownTableName (hd : Text.IsSign d) {e : Entity} {name : String}
    (h : Absent d e.givenName) (hname : e.ownTableName = .ok name) : Absent d name := by
  unfold Entity.ownTableName at hname
  unfold Entity.givenName at h
  split at hname
  · rename_i own hown
    rw [hown] at h
    cases hname
    exact h
  · rename_i hnone
    rw [hnone] at h
    split at hname
    · cases hname
    · cases hname
      exact absent_underscore hd h

namespace Names

variable {names : Names}

theorem lacks_column (hd : Text.IsSign d) (hnames : names.Lacks d) {c : Column}
    (hc : Absent d c.givenName) :
    Absent d (names.column c).1 ∧ (names.column c).2.Lacks d := by
  unfold Names.column
  split
  · rename_i name hname
    exact ⟨absent_of_lookup hnames.columns hname, hnames⟩
  · have hown := c.absent_ownName hd hc
    exact ⟨hown, { hnames with columns := List.forall_mem_cons.mpr ⟨hown, hnames.columns⟩ }⟩

theorem absent_edge (hd : isWordingCharacter d = false) (edge : Edge) :
    Absent d (edge.label ++ ":") :=
  absent_of_wording hd (by cases edge <;> rfl)

theorem lacks_marker (hd : Text.IsSign d) (hwording : isWordingCharacter d = false)
    (hnames : names.Lacks d) (edge : Edge) {into : IntoField} (hc : Absent d into.column.givenName) :
    Absent d (names.marker edge into).1 ∧ (names.marker edge into).2.Lacks d := by
  unfold Names.marker
  dsimp only
  split
  · rename_i label hlabel
    exact ⟨absent_of_lookup hnames.markers hlabel, hnames⟩
  · obtain ⟨hname, hafter⟩ := lacks_column hd hnames hc
    have hlabel := absent_append.mpr ⟨absent_edge hwording edge, hname⟩
    exact ⟨hlabel, { hafter with markers := List.forall_mem_cons.mpr ⟨hlabel, hafter.markers⟩ }⟩

theorem lacks_table (hd : Text.IsSign d) (hnames : names.Lacks d) {e : Entity} {names' : Names}
    {name : String} (he : Absent d e.givenName)
    (h : names.table e = (.ok name, names')) :
    Absent d name ∧ names'.Lacks d := by
  unfold Names.table at h
  split at h
  · cases h
  · split at h
    · rename_i known hknown
      cases h
      exact ⟨absent_of_lookup hnames.tables hknown, hnames⟩
    · split at h
      · rename_i own hown
        cases h
        have hlacks := e.absent_ownTableName hd he hown
        exact ⟨hlacks, { hnames with tables := List.forall_mem_cons.mpr ⟨hlacks, hnames.tables⟩ }⟩
      · cases h

end Names

def Piece.strings : Piece → List String
  | .verbatim s | .identifier s | .literal s => [s]
  | .tableName e => [e.givenName]
  | .columnName c => [c.givenName]
  | .marker _ into => [into.column.givenName]
  | .text _ | .bound _ | .failure _ => []

@[simp] theorem Piece.strings_text (s : String) : (Piece.text s).strings = [] := rfl

def Piece.Lacks (d : Char) : Piece → Prop
  | .text s => Absent d s
  | p => ∀ s ∈ p.strings, Absent d s

def Chunk.Lacks (d : Char) : Chunk → Prop
  | .text s => Absent d s
  | .bound _ => True

theorem Piece.lacks_of_worded (hd : Foreign d) {p : Piece} (hp : p.IsWorded)
    (h : ∀ s ∈ p.strings, Absent d s) : p.Lacks d := by
  cases p with
  | text s => exact absent_of_wording hd.wording hp
  | _ => exact h

theorem Piece.keeps_resolve (hd : Foreign d) {p : Piece} (hp : p.Lacks d) :
    Naming.Keeps (Names.Lacks d) (Chunk.Lacks d) p.resolve := by
  intro names chunk names' hnames h
  cases p with
  | text s =>
    cases h
    exact ⟨hp, hnames⟩
  | verbatim s =>
    cases h
    exact ⟨hp s List.mem_cons_self, hnames⟩
  | identifier name =>
    cases h
    exact ⟨absent_quoteIdentifier hd (hp name List.mem_cons_self), hnames⟩
  | literal s =>
    cases h
    exact ⟨absent_quoteLiteral hd (hp s List.mem_cons_self), hnames⟩
  | bound v =>
    cases h
    exact ⟨trivial, hnames⟩
  | tableName e =>
    obtain ⟨name, between, hname, hchunk⟩ := Naming.bind_eq_ok.mp h
    cases hchunk
    have hlacks := Names.lacks_table hd.sign hnames (hp e.givenName List.mem_cons_self) hname
    exact ⟨absent_quoteIdentifier hd hlacks.1, hlacks.2⟩
  | columnName c =>
    cases h
    have hlacks := Names.lacks_column hd.sign hnames (hp c.givenName List.mem_cons_self)
    exact ⟨absent_quoteIdentifier hd hlacks.1, hlacks.2⟩
  | marker edge into =>
    cases h
    have hlacks := Names.lacks_marker hd.sign hd.wording hnames edge (hp _ List.mem_cons_self)
    exact ⟨absent_append.mpr ⟨absent_of_wording hd.wording rfl, absent_quoteIdentifier hd hlacks.1⟩, hlacks.2⟩
  | failure fault => cases h

theorem keeps_resolve_lacks (hd : Foreign d) {pieces : List Piece} (h : ∀ p ∈ pieces, p.Lacks d) :
    Naming.Keeps (Names.Lacks d) (∀ c ∈ ·, Chunk.Lacks d c) (resolve pieces) := by
  induction pieces with
  | nil => exact Naming.keeps_pure (by simp)
  | cons p rest ih =>
    simp only [List.mem_cons, forall_eq_or_imp] at h
    rw [resolve_cons]
    refine Naming.keeps_bind (Piece.keeps_resolve hd h.1) fun chunk hchunk => ?_
    refine Naming.keeps_bind (ih h.2) fun chunks hchunks => ?_
    exact Naming.keeps_pure (by simpa using ⟨hchunk, hchunks⟩)

end RelationalMapping
