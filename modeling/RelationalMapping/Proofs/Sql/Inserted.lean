import RelationalMapping.Query.Change
import RelationalMapping.Proofs.Sql.Gathering
import RelationalMapping.Proofs.Sql.Lacking
import RelationalMapping.Proofs.Sql.Slots
import RelationalMapping.Proofs.Sql.Written

namespace RelationalMapping

def insertHeader (table : String) (columns : List String) : String :=
  "INSERT INTO " ++ Text.quoteIdentifier table ++ " ("
    ++ ", ".intercalate (columns.map Text.quoteIdentifier) ++ ")"

def insertRows (table : String) (fields : List InsertField) (count : Nat) : String :=
  insertValues (fun row f => slotText table row f.property) fields count

@[simp] theorem Chunk.values_text (s : String) : (Chunk.text s).values = [] := rfl

variable {among : Entity → Prop}

theorem yields_columnNames (hamong : Unconfused among) (columns : List Column)
    (h : ∀ c ∈ columns, among c.table.entity) :
    ∃ chunks, Naming.Yields (Names.Faithful among) (resolve (columnNames columns)) chunks
      ∧ String.join (chunks.map (·.sql)) = ", ".intercalate ((columns.map (·.ownName)).map Text.quoteIdentifier)
      ∧ chunks.flatMap (·.values) = [] := by
  have hpieces : ∀ p ∈ columnNames columns, p = .text ", " ∨ ∃ c ∈ columns, p = .columnName c := by
    intro p hp
    refine (mem_of_mem_separated hp).imp_right ?_
    rintro ⟨pieces, hmem, hp⟩
    obtain ⟨c, hc, rfl⟩ := List.mem_map.mp hmem
    exact ⟨c, hc, List.mem_singleton.mp hp⟩
  have hown : ownWritten (columnNames columns)
      = .ok (.join ", " (columns.map fun c => ⟨Text.quoteIdentifier c.ownName, []⟩)) := by
    refine ownWritten_separated ", " ?_
    rw [List.forall₂_map_left_iff, List.forall₂_map_right_iff, List.forall₂_same]
    intro c _
    simp [ownWritten, writtenBy, Piece.ownChunk, Fragment.ofChunks, Chunk.sql]
    rfl
  obtain ⟨chunks, hchunks, hfragment⟩ := bind_eq_ok_iff.mp hown
  have htext : Fragment.ofChunks chunks = .join ", " (columns.map fun c => ⟨Text.quoteIdentifier c.ownName, []⟩) :=
    Except.ok.inj hfragment
  rw [Fragment.ofChunks, Fragment.join, Fragment.mk.injEq] at htext
  refine ⟨chunks, yields_resolve hamong (fun p hp => ?_) (fun e he => ?_) hchunks, ?_, ?_⟩
  · rcases hpieces p hp with rfl | ⟨c, hc, rfl⟩
    · trivial
    · exact h c hc
  · rcases hpieces _ he with he | ⟨c, -, he⟩ <;> cases he
  · rw [htext.1]
    simp [Function.comp_def]
  · rw [htext.2]
    simp

theorem Table.yields_insert (hamong : Unconfused among) {e : Entity} (he : among e)
    (htype : e.typeName ≠ "") {table : String} (htable : e.ownTableName = .ok table)
    {fields : List InsertField} (hfields : ∀ f ∈ fields, among f.column.table.entity)
    {rows : List Instance} (hrows : rows ≠ []) :
    Naming.Yields (Names.Faithful among) (e.table.insert fields (.rows rows)).write
      { sql := insertHeader table (fields.map (·.column.ownName)) ++ insertRows table fields rows.length
        table, mark := parameterMark, rows, values := [] } := by
  have htypeName : e.typeName.isEmpty = false := by simpa using htype
  have htableName : Naming.Yields (Names.Faithful among) (Naming.table e) table :=
    Naming.yields_table hamong he htypeName htable
  obtain ⟨columns, hcolumns, hsql, hvalues⟩ := yields_columnNames hamong
    (fields.map (·.column)) (by simpa using hfields)
  have hsource : InsertSource.pieces table fields (.rows rows)
      = [Piece.text (insertRows table fields rows.length)] := by
    cases rows with
    | nil => exact absurd rfl hrows
    | cons i rest => rfl
  have hchunks : Naming.Yields (Names.Faithful among) ((e.table.insert fields (.rows rows)).chunks table)
      (Chunk.text "INSERT INTO " :: [Chunk.text (Text.quoteIdentifier table)] ++ Chunk.text " (" :: columns
        ++ Chunk.text ")" :: [Chunk.text (insertRows table fields rows.length)] ++ []) := by
    refine Naming.yields_bind hcolumns ?_
    refine Naming.yields_bind (a := [Chunk.text (insertRows table fields rows.length)]) ?_ ?_
    · change Naming.Yields _ (resolve (InsertSource.pieces table fields (.rows rows))) _
      rw [hsource]
      exact Naming.yields_pure _
    · refine Naming.yields_bind (a := [Chunk.text (Text.quoteIdentifier table)]) ?_ ?_
      · change Naming.Yields _ (resolve [.tableName e]) _
        rw [resolve_cons]
        refine Naming.yields_bind ?_ (Naming.yields_bind (Naming.yields_pure []) (Naming.yields_pure _))
        exact Naming.yields_bind htableName (Naming.yields_pure _)
      · exact Naming.yields_bind (Naming.yields_pure []) (Naming.yields_pure _)
  have hfragment : Fragment.ofChunks (Chunk.text "INSERT INTO " :: [Chunk.text (Text.quoteIdentifier table)]
      ++ Chunk.text " (" :: columns ++ Chunk.text ")" :: [Chunk.text (insertRows table fields rows.length)] ++ [])
        = ⟨insertHeader table (fields.map (·.column.ownName)) ++ insertRows table fields rows.length, []⟩ := by
    have hnames : (fields.map (·.column)).map (·.ownName) = fields.map (·.column.ownName) := List.map_map
    have htext := congrArg String.toList hsql
    rw [hnames, String.toList_join] at htext
    delta insertHeader
    rw [Fragment.ofChunks]
    congr 1
    · refine String.toList_inj.mp ?_
      simp only [String.toList_join, List.map_cons, List.map_append, List.flatMap_cons, List.flatMap_append,
        String.toList_append, htext, Chunk.sql_text, List.map_nil, List.flatMap_nil, List.append_nil,
        List.append_assoc, List.cons_append, List.nil_append]
    · simp [hvalues]
  refine Naming.yields_bind htableName (Naming.yields_bind hchunks ?_)
  rw [hfragment]
  exact Naming.yields_pure _

theorem bind_inserted (e : Entity) {table : String} {columns : List String} {fields : List InsertField}
    {rows : List Instance} {values : Instance → List Value} (htable : Absent '#' table)
    (hcolumns : ∀ name ∈ columns, Absent '#' name) (hwords : ∀ f ∈ fields, IsWord f.property)
    (hvalues : ∀ i ∈ rows, List.Forall₂ (fun f v => e.storedValue? i f.property = some v) fields (values i)) :
    ∃ sql, InsertStatement.bind { sql := insertHeader table columns ++ insertRows table fields rows.length
                                  table, mark := parameterMark, rows, values := [] } e
      = .ok ⟨sql, rows.flatMap values⟩ := by
  have hquoted : ∀ name ∈ columns.map Text.quoteIdentifier, Absent '#' name := by
    intro name hname
    obtain ⟨given, hgiven, rfl⟩ := List.mem_map.mp hname
    exact absent_quoteIdentifier foreign_slotStart (hcolumns given hgiven)
  have hnames : Absent '#' (", ".intercalate (columns.map Text.quoteIdentifier)) :=
    absent_intercalate (absent_of_wording foreign_slotStart.wording rfl) hquoted
  have hheader : Absent '#' (insertHeader table columns) := by
    have hwording : ∀ s, isWording s = true → Absent '#' s := fun _ => absent_of_wording foreign_slotStart.wording
    delta insertHeader
    simp only [absent_append]
    exact ⟨⟨⟨⟨hwording _ rfl, absent_quoteIdentifier foreign_slotStart htable⟩, hwording _ rfl⟩, hnames⟩,
      hwording _ rfl⟩
  have hreads := reads_insert table parameterMark hwords hheader (show '#' ∉ ("" : String).toList by simp)
    (by simp [Apart]) rows.length
  rw [String.append_empty, String.append_empty] at hreads
  have hbind := InsertStatement.bind_reads (e := e)
    (s := { sql := insertHeader table columns ++ insertRows table fields rows.length
            table, mark := parameterMark, rows, values := [] }) hreads (value_slots hvalues)
  rw [List.append_nil] at hbind
  exact ⟨_, hbind⟩

end RelationalMapping
