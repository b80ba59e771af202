import RelationalMapping.Proofs.Sql.Positional
import RelationalMapping.Proofs.Sql.Settled
import RelationalMapping.Proofs.Sql.Tables

namespace RelationalMapping

def Assignment.layout (a : Assignment) : List Piece := .columnName a.column :: .text " = " :: a.expr.pieces

def Update.layout (u : Update) : List Piece :=
  .text "UPDATE " :: u.table.pieces ++ .text " SET " :: listed (u.assignments.map (·.layout))
    ++ (u.source.pieces ++ conditionPieces u.condition ++ returningPieces u.returningColumns)

def slotPieces (table : String) (fields : List InsertField) (row : Nat) : List (List Piece) :=
  fields.map fun f => [.text (slotText table row f.property)]

def InsertSource.layout (table : String) (fields : List InsertField) : InsertSource → List Piece
  | .rows items =>
    .text " VALUES (" :: separated (.text "), (") ((List.range items.length).map fun row =>
      listed (slotPieces table fields row)) ++ [.text ")"]
  | .select q => .text " " :: enclosed q.pieces

def Insert.layout (i : Insert) (table : String) : List Piece :=
  .text "INSERT INTO " :: i.table.pieces ++ .text " (" :: columnNames (i.fields.map (·.column)) ++ .text ")"
    :: i.source.layout table i.fields ++ i.tailPieces

def Writable.layout (names : Names) : Writable → List Piece
  | .expr e => e.pieces
  | .query q => q.pieces
  | .update u => u.layout
  | .delete d => d.pieces
  | .insert i => i.layout (names.tableName i.table.entity)

theorem shownText_columnNames (names : Names) (columns : List Column) :
    shownText names (columnNames columns)
      = ", ".intercalate (columns.map fun c => Text.quoteIdentifier (names.column c).1) := by
  simp [columnNames, Piece.shown, Function.comp_def]

theorem Table.shownText_pieces (names : Names) (t : Table) :
    shownText names t.pieces = quotedRow (names.tableName t.entity :: t.alias?.toList) := by
  unfold Table.pieces
  cases t.alias? <;> simp [Piece.shown, quotedRow, String.intercalate_cons_cons, String.append_assoc]

def Sound (pieces : List Piece) : Prop := ∀ fault, .failure fault ∉ pieces

@[simp] theorem sound_cons {p : Piece} {pieces : List Piece} :
    Sound (p :: pieces) ↔ (∀ fault, p ≠ .failure fault) ∧ Sound pieces := by
  simp [Sound, forall_and, eq_comm]

@[simp] theorem sound_append {pieces others : List Piece} : Sound (pieces ++ others) ↔ Sound pieces ∧ Sound others := by
  simp [Sound, forall_and]

theorem sound_separated (separator : String) {lists : List (List Piece)} (h : ∀ pieces ∈ lists, Sound pieces) :
    Sound (separated (.text separator) lists) := by
  intro fault hfault
  rcases mem_of_mem_separated hfault with hfault | ⟨pieces, hpieces, hfault⟩
  · cases hfault
  · exact h pieces hpieces fault hfault

structure Spells (names : Names) (pieces : List Piece) (chunks : List Chunk) : Prop where
  sound : Sound pieces
  text : String.join (chunks.map (·.sql)) = shownText names pieces

section Shown

variable {start names names' after : Names} {pieces others : List Piece} {chunks rest : List Chunk}

theorem sound_of_resolve (h : resolve pieces names = (.ok chunks, names')) : Sound pieces := by
  induction pieces generalizing names chunks with
  | nil => simp [Sound]
  | cons p rest ih =>
    rw [resolve_cons] at h
    obtain ⟨chunk, between, hchunk, h⟩ := Naming.bind_eq_ok.mp h
    obtain ⟨others, last, hothers, h⟩ := Naming.bind_eq_ok.mp h
    cases h
    refine sound_cons.mpr ⟨?_, ih hothers⟩
    rintro fault rfl
    cases hchunk

theorem spells_resolve (h : resolve pieces names = (.ok chunks, names')) (hafter : names'.Extends after) :
    Spells after pieces chunks := ⟨sound_of_resolve h, sql_of_resolve h hafter⟩

theorem Spells.cons_text (h : Spells names pieces chunks) (s : String) :
    Spells names (.text s :: pieces) (.text s :: chunks) := by
  refine ⟨sound_cons.mpr ⟨nofun, h.sound⟩, ?_⟩
  rw [List.map_cons, String.join_cons, h.text, shownText_cons]
  rfl

theorem Spells.append (h : Spells names pieces chunks) (hothers : Spells names others rest) :
    Spells names (pieces ++ others) (chunks ++ rest) := by
  refine ⟨sound_append.mpr ⟨h.sound, hothers.sound⟩, ?_⟩
  rw [List.map_append, String.join_append, h.text, hothers.text, shownText_append]

theorem spells_separated (separator : String) {lists : List (List Piece)} {written : List (List Chunk)}
    (h : List.Forall₂ (Spells names) lists written) :
    Spells names (separated (.text separator) lists) (separated (.text separator) written) := by
  induction h with
  | nil => exact ⟨by simp [Sound, separated], rfl⟩
  | @cons pieces chunks lists written hfirst hrest ih =>
    cases hrest with
    | nil => exact hfirst
    | cons hsecond hrest => exact hfirst.append (ih.cons_text separator)

theorem keeps_extends_resolve (start : Names) (pieces : List Piece) :
    Naming.Keeps start.Extends (fun _ => True) (resolve pieces) :=
  fun _ _ _ hstart h => ⟨trivial, extends_resolve hstart h⟩

theorem Assignment.keeps_extends (start : Names) (a : Assignment) :
    Naming.Keeps start.Extends (fun _ => True) a.chunks := by
  refine Naming.keeps_bind (keeps_extends_resolve start _) fun value _ => ?_
  refine Naming.keeps_bind (keeps_extends_resolve start _) fun column _ => ?_
  exact Naming.keeps_pure trivial

theorem extends_assignments {assignments : List Assignment} {written : List (List Chunk)} (hstart : start.Extends names)
    (h : assignments.mapM (·.chunks) names = (.ok written, names')) : start.Extends names' := by
  have hkeeps : Naming.Keeps start.Extends (List.Forall₂ (fun _ _ => True) assignments)
      (assignments.mapM (·.chunks)) := Naming.keeps_mapM fun a _ => a.keeps_extends start
  exact (hkeeps names written names' hstart h).2

theorem Assignment.spells {a : Assignment} (h : a.chunks names = (.ok chunks, names')) (hafter : names'.Extends after) :
    Spells after a.layout chunks := by
  obtain ⟨value, between, hvalue, h⟩ := Naming.bind_eq_ok.mp h
  obtain ⟨column, last, hcolumn, h⟩ := Naming.bind_eq_ok.mp h
  cases h
  have hlater : between.Extends after := (extends_resolve (.refl _) hcolumn).trans hafter
  exact (spells_resolve hcolumn hafter).append ((spells_resolve hvalue hlater).cons_text " = ")

theorem spells_assignments {assignments : List Assignment} {written : List (List Chunk)}
    (h : assignments.mapM (·.chunks) names = (.ok written, names')) (hafter : names'.Extends after) :
    List.Forall₂ (Spells after) (assignments.map (·.layout)) written := by
  induction assignments generalizing names written with
  | nil =>
    cases h
    exact .nil
  | cons a rest ih =>
    rw [List.mapM_cons] at h
    obtain ⟨chunks, between, hchunks, h⟩ := Naming.bind_eq_ok.mp h
    obtain ⟨others, last, hothers, h⟩ := Naming.bind_eq_ok.mp h
    cases h
    have hlater : between.Extends after := (extends_assignments (.refl _) hothers).trans hafter
    exact .cons (Assignment.spells hchunks hlater) (ih hothers)

theorem Update.spells {u : Update} (h : u.chunks names = (.ok chunks, names')) :
    u.assignments ≠ [] ∧ Spells names' u.layout chunks := by
  unfold Update.chunks at h
  split at h
  · cases h
  · rename_i hassignments
    obtain ⟨assignments, between, ha, h⟩ := Naming.bind_eq_ok.mp h
    obtain ⟨table, afterTable, ht, h⟩ := Naming.bind_eq_ok.mp h
    obtain ⟨rest, last, hrest, h⟩ := Naming.bind_eq_ok.mp h
    cases h
    have hlater : afterTable.Extends names' := extends_resolve (.refl _) hrest
    have hassigned := spells_separated ", " (spells_assignments ha ((extends_resolve (.refl _) ht).trans hlater))
    have hset := (spells_resolve ht hlater).append (hassigned.cons_text " SET ")
    refine ⟨fun hnone => hassignments (by simp [hnone]), ?_⟩
    exact (hset.cons_text "UPDATE ").append (spells_resolve hrest (.refl _))

theorem enclosed_intercalate {texts : List String} (h : texts ≠ []) :
    "(" ++ "), (".intercalate texts ++ ")" = ", ".intercalate (texts.map fun s => "(" ++ s ++ ")") := by
  have hbetween : "), (" = ")" ++ ", " ++ "(" := rfl
  induction texts with
  | nil => exact absurd rfl h
  | cons text rest ih =>
    cases rest with
    | nil => rw [List.map_cons, List.map_nil, String.intercalate_singleton, String.intercalate_singleton]
    | cons other rest =>
      have hrest := ih (List.cons_ne_nil other rest)
      rw [List.map_cons] at hrest
      rw [List.map_cons, List.map_cons, String.intercalate_cons_cons, String.intercalate_cons_cons, ← hrest, hbetween]
      simp only [String.append_assoc]

theorem shownText_rows (names : Names) (table : String) (fields : List InsertField) {rows : List Instance}
    (h : rows ≠ []) : shownText names (InsertSource.layout table fields (.rows rows))
      = " VALUES " ++ ", ".intercalate ((List.range rows.length).map (slotRow table fields)) := by
  let slots (row : Nat) := ", ".intercalate (fields.map fun f => slotText table row f.property)
  have hopen (s : String) : " VALUES (" ++ s = " VALUES " ++ ("(" ++ s) := by
    rw [← String.append_assoc]
    rfl
  have hrow : slotRow table fields = (fun s => "(" ++ s ++ ")") ∘ slots := rfl
  have hrows : (List.range rows.length).map slots ≠ [] := by simp [h]
  rw [hrow, ← List.map_map, ← enclosed_intercalate hrows]
  simp [InsertSource.layout, slotPieces, slots, Piece.shown, hopen, String.append_assoc, Function.comp_def]

theorem InsertSource.spells {table : String} {fields : List InsertField} {source : InsertSource}
    (h : resolve (source.pieces table fields) names = (.ok chunks, names')) (hafter : names'.Extends after) :
    source ≠ .rows [] ∧ Spells after (source.layout table fields) chunks := by
  have hspells := spells_resolve h hafter
  cases source with
  | rows items =>
    cases items with
    | nil => cases h
    | cons item rest =>
      have hslots : ∀ row, Sound (listed (slotPieces table fields row)) := fun row =>
        sound_separated ", " (by simp [slotPieces, Sound])
      have hrows : Sound (separated (.text "), (") ((List.range (item :: rest).length).map fun row =>
          listed (slotPieces table fields row))) :=
        sound_separated "), (" (List.forall_mem_map.mpr fun row _ => hslots row)
      refine ⟨by simp, ⟨?_, ?_⟩⟩
      · exact sound_append.mpr ⟨sound_cons.mpr ⟨nofun, hrows⟩, by simp [Sound]⟩
      · rw [hspells.text, shownText_rows after table fields (List.cons_ne_nil item rest)]
        simp [pieces, Piece.shown]
  | select q => exact ⟨by simp, hspells⟩

theorem Insert.spells {i : Insert} {table : String} (h : i.chunks table names = (.ok chunks, names')) :
    names.Extends names' ∧ i.source ≠ .rows [] ∧ Spells names' (i.layout table) chunks := by
  obtain ⟨columns, afterColumns, hcolumns, h⟩ := Naming.bind_eq_ok.mp h
  obtain ⟨source, afterSource, hsource, h⟩ := Naming.bind_eq_ok.mp h
  obtain ⟨target, afterTarget, htarget, h⟩ := Naming.bind_eq_ok.mp h
  obtain ⟨tail, last, htail, h⟩ := Naming.bind_eq_ok.mp h
  cases h
  have hlast : afterTarget.Extends names' := extends_resolve (.refl _) htail
  have hlater : afterSource.Extends names' := (extends_resolve (.refl _) htarget).trans hlast
  have hextends : afterColumns.Extends names' := (extends_resolve (.refl _) hsource).trans hlater
  obtain ⟨hrows, hvalues⟩ := InsertSource.spells hsource hlater
  have htarget := (spells_resolve htarget hlast).cons_text "INSERT INTO "
  have hheader := htarget.append ((spells_resolve hcolumns hextends).cons_text " (")
  refine ⟨(extends_resolve (.refl _) hcolumns).trans hextends, hrows, ?_⟩
  exact (hheader.append (hvalues.cons_text ")")).append (spells_resolve htail (.refl _))

theorem Writable.spells {w : Writable} {f : Fragment} (h : w.write names = (.ok f, names')) :
    f.sql = shownText names' (w.layout names') ∧ Sound (w.layout names') := by
  obtain ⟨chunks, hchunks, rfl⟩ := chunks_of_write h
  suffices hspells : Spells names' (w.layout names') chunks from ⟨hspells.text, hspells.sound⟩
  cases w with
  | expr | query | delete => exact spells_resolve hchunks (.refl _)
  | update u => exact (Update.spells hchunks).2
  | insert i =>
    obtain ⟨table, between, htable, hchunks⟩ := Naming.bind_eq_ok.mp hchunks
    obtain ⟨hextends, -, hspells⟩ := Insert.spells hchunks
    rw [layout, Names.tableName_of_table htable hextends]
    exact hspells

end Shown

end RelationalMapping
