import RelationalMapping.Proofs.Sql.Naming

namespace RelationalMapping

structure Names.Extends (names names' : Names) : Prop where
  tables : ∀ key name, names.tables.lookup key = some name → names'.tables.lookup key = some name
  columns : ∀ key name, names.columns.lookup key = some name → names'.columns.lookup key = some name
  markers : ∀ key label, names.markers.lookup key = some label → names'.markers.lookup key = some label

namespace Names

variable {names names' names'' : Names}

theorem Extends.refl (names : Names) : names.Extends names := ⟨fun _ _ h => h, fun _ _ h => h, fun _ _ h => h⟩

theorem Extends.trans (h : names.Extends names') (h' : names'.Extends names'') : names.Extends names'' :=
  ⟨fun key name hname => h'.tables key name (h.tables key name hname),
    fun key name hname => h'.columns key name (h.columns key name hname),
    fun key label hlabel => h'.markers key label (h.markers key label hlabel)⟩

theorem lookup_cons_of_none {entries : List (String × String)} {key other name found : String}
    (hnone : entries.lookup key = none) (h : entries.lookup other = some found) :
    ((key, name) :: entries).lookup other = some found := by
  have hne : other ≠ key := by
    rintro rfl
    rw [hnone] at h
    cases h
  rw [List.lookup_cons, beq_eq_false_iff_ne.mpr hne]
  exact h

theorem markers_column (names : Names) (c : Column) : (names.column c).2.markers = names.markers := by
  unfold Names.column
  split <;> rfl

theorem Extends.column (h : names.Extends names') (c : Column) : names.Extends (names'.column c).2 := by
  unfold Names.column
  split
  · exact h
  · rename_i hnone
    exact { h with columns := fun key name hname => lookup_cons_of_none hnone (h.columns key name hname) }

theorem Extends.marker (h : names.Extends names') (edge : Edge) (into : IntoField) :
    names.Extends (names'.marker edge into).2 := by
  unfold Names.marker
  dsimp only
  split
  · exact h
  · rename_i hnone
    rw [← names'.markers_column into.column] at hnone
    have hcolumn := h.column into.column
    exact { hcolumn with markers := fun key label hlabel => lookup_cons_of_none hnone (hcolumn.markers key label hlabel) }

theorem Extends.table (h : names.Extends names') (e : Entity) : names.Extends (names'.table e).2 := by
  unfold Names.table
  split
  · exact h
  · split
    · exact h
    · rename_i hnone
      split
      · exact { h with tables := fun key name hname => lookup_cons_of_none hnone (h.tables key name hname) }
      · exact h

theorem lookup_table {e : Entity} {name : String} (h : names.table e = (.ok name, names')) :
    names'.tables.lookup e.typeName = some name := by
  unfold Names.table at h
  split at h
  · cases h
  · split at h
    · rename_i known hknown
      cases h
      exact hknown
    · split at h
      · cases h
        exact List.lookup_cons_self
      · cases h

theorem lookup_column (names : Names) (c : Column) :
    (names.column c).2.columns.lookup c.key = some (names.column c).1 := by
  unfold Names.column
  split
  · rename_i name hname
    exact hname
  · exact List.lookup_cons_self

theorem lookup_marker (names : Names) (edge : Edge) (into : IntoField) :
    (names.marker edge into).2.markers.lookup (edge.label ++ "|" ++ into.column.key)
      = some (names.marker edge into).1 := by
  unfold Names.marker
  dsimp only
  split
  · rename_i label hlabel
    exact hlabel
  · exact List.lookup_cons_self

theorem column_of_lookup {c : Column} {name : String} (h : names.columns.lookup c.key = some name) :
    (names.column c).1 = name := by
  simp only [Names.column, h]

theorem marker_of_lookup {edge : Edge} {into : IntoField} {label : String}
    (h : names.markers.lookup (edge.label ++ "|" ++ into.column.key) = some label) :
    (names.marker edge into).1 = label := by
  simp only [Names.marker, h]

def tableName (names : Names) (e : Entity) : String := (names.tables.lookup e.typeName).getD ""

theorem tableName_of_table {e : Entity} {name : String} (h : names.table e = (.ok name, names'))
    (hlater : names'.Extends names'') : names''.tableName e = name := by
  rw [tableName, hlater.tables _ _ (lookup_table h), Option.getD_some]

end Names

def Piece.shown (names : Names) : Piece → String
  | .text s | .verbatim s => s
  | .identifier name => Text.quoteIdentifier name
  | .literal s => Text.quoteLiteral s
  | .bound _ => parameterMark
  | .tableName e => Text.quoteIdentifier (names.tableName e)
  | .columnName c => Text.quoteIdentifier (names.column c).1
  | .marker edge into => "NULL AS " ++ Text.quoteIdentifier (names.marker edge into).1
  | .failure _ => ""

def shownText (names : Names) (pieces : List Piece) : String := String.join (pieces.map (·.shown names))

section Shown

variable {start names names' after : Names}

theorem Piece.keeps_extends (start : Names) (p : Piece) :
    Naming.Keeps start.Extends (fun _ => True) p.resolve := by
  intro names chunk names' hstart h
  cases p with
  | text | verbatim | identifier | literal | bound =>
    cases h
    exact ⟨trivial, hstart⟩
  | tableName e =>
    obtain ⟨name, between, hname, hchunk⟩ := Naming.bind_eq_ok.mp h
    cases hchunk
    have htable := hstart.table e
    rw [show names.table e = (.ok name, names') from hname] at htable
    exact ⟨trivial, htable⟩
  | columnName c =>
    cases h
    exact ⟨trivial, hstart.column c⟩
  | marker edge into =>
    cases h
    exact ⟨trivial, hstart.marker edge into⟩
  | failure fault => cases h

theorem extends_resolve {pieces : List Piece} {chunks : List Chunk} (hstart : start.Extends names)
    (h : resolve pieces names = (.ok chunks, names')) : start.Extends names' := by
  have hkeeps : Naming.Keeps start.Extends (List.Forall₂ (fun _ _ => True) pieces) (resolve pieces) :=
    Naming.keeps_mapM fun p _ => p.keeps_extends start
  exact (hkeeps names chunks names' hstart h).2

theorem Piece.sql_of_resolve {p : Piece} {chunk : Chunk} (h : p.resolve names = (.ok chunk, names'))
    (hafter : names'.Extends after) : chunk.sql = p.shown after := by
  cases p with
  | text | verbatim | identifier | literal | bound =>
    cases h
    rfl
  | tableName e =>
    obtain ⟨name, between, hname, hchunk⟩ := Naming.bind_eq_ok.mp h
    cases hchunk
    have hknown := hafter.tables _ _ (Names.lookup_table hname)
    simp [Piece.shown, Names.tableName, hknown, Chunk.sql]
  | columnName c =>
    cases h
    have hknown := hafter.columns _ _ (names.lookup_column c)
    rw [Piece.shown, Names.column_of_lookup hknown]
    rfl
  | marker edge into =>
    cases h
    have hknown := hafter.markers _ _ (names.lookup_marker edge into)
    rw [Piece.shown, Names.marker_of_lookup hknown]
    rfl
  | failure fault => cases h

theorem sql_of_resolve {pieces : List Piece} {chunks : List Chunk} (h : resolve pieces names = (.ok chunks, names'))
    (hafter : names'.Extends after) : String.join (chunks.map (·.sql)) = shownText after pieces := by
  refine congrArg String.join ?_
  induction pieces generalizing names chunks with
  | nil =>
    cases h
    rfl
  | cons p rest ih =>
    rw [resolve_cons] at h
    obtain ⟨chunk, between, hchunk, h⟩ := Naming.bind_eq_ok.mp h
    obtain ⟨others, last, hothers, h⟩ := Naming.bind_eq_ok.mp h
    cases h
    have hlater : between.Extends after := (extends_resolve (.refl _) hothers).trans hafter
    rw [List.map_cons, List.map_cons, Piece.sql_of_resolve hchunk hlater, ih hothers]

@[simp] theorem shownText_nil (names : Names) : shownText names [] = "" := rfl

@[simp] theorem shownText_cons (names : Names) (p : Piece) (pieces : List Piece) :
    shownText names (p :: pieces) = p.shown names ++ shownText names pieces := by
  simp [shownText]

@[simp] theorem shownText_append (names : Names) (pieces others : List Piece) :
    shownText names (pieces ++ others) = shownText names pieces ++ shownText names others := by
  simp [shownText]

@[simp] theorem shownText_enclosed (names : Names) (pieces : List Piece) :
    shownText names (enclosed pieces) = "(" ++ (shownText names pieces ++ ")") := by
  simp [enclosed, Piece.shown]

theorem join_separated {α : Type} (text : α → String) (separator : α) (lists : List (List α)) :
    String.join ((separated separator lists).map text)
      = (text separator).intercalate (lists.map fun items => String.join (items.map text)) := by
  induction lists using separated.induct with
  | case1 => rfl
  | case2 items => simp [separated]
  | case3 items rest hrest ih =>
    cases rest with
    | nil => exact absurd rfl hrest
    | cons other rest =>
      rw [separated, List.map_append, List.map_cons, String.join_append, String.join_cons, ih]
      · simp [String.intercalate_cons_cons, String.append_assoc]
      · exact hrest

@[simp] theorem shownText_separated (names : Names) (separator : String) (lists : List (List Piece)) :
    shownText names (separated (.text separator) lists) = separator.intercalate (lists.map (shownText names)) :=
  join_separated (Piece.shown names) (.text separator) lists

@[simp] theorem shownText_listed (names : Names) (lists : List (List Piece)) :
    shownText names (listed lists) = ", ".intercalate (lists.map (shownText names)) :=
  shownText_separated names ", " lists

end Shown

end RelationalMapping
