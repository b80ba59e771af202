import RelationalMapping.Proofs.Sql.Inserted
import RelationalMapping.Proofs.Sql.Statements

namespace RelationalMapping

def Insert.columnTexts (i : Insert) (names : Names) : List String := i.fields.map fun f => (names.column f.column).1

def Insert.rowsText (i : Insert) (names : Names) (table : String) (count : Nat) (tail : String)
    (place : Nat → InsertField → String) : String :=
  "INSERT INTO " ++ quotedRow (table :: i.table.alias?.toList) ++ " ("
    ++ ", ".intercalate ((i.columnTexts names).map Text.quoteIdentifier) ++ ")"
    ++ (insertValues place i.fields count ++ tail)

theorem Insert.apart_tail (i : Insert) (names : Names) : Apart (shownText names i.tailPieces).toList := by
  have hspaced : ∀ {s : String} {pieces : List Piece}, i.tailPieces = .text (" " ++ s) :: pieces →
      Apart (shownText names i.tailPieces).toList := by
    intro s pieces hpieces c hc
    rw [hpieces, shownText_cons, Piece.shown, String.toList_append, String.toList_append] at hc
    cases hc
    decide
  rcases hconflict : i.conflict with _ | c
  · rcases hreturning : i.returning with _ | projections
    · have hnone : i.tailPieces = [] := by rw [tailPieces, hconflict, hreturning]; rfl
      simp [hnone, Apart]
    · exact hspaced (s := "RETURNING ") (by rw [tailPieces, hconflict, hreturning]; rfl)
  · exact hspaced (s := "ON CONFLICT ") (by rw [tailPieces, hconflict]; rfl)

theorem Insert.sql_write {i : Insert} {rows : List Instance} {names names' : Names} {s : InsertStatement}
    (hsource : i.source = .rows rows) (h : i.write names = (.ok s, names')) :
    s.rows = rows ∧ ∃ tail, Apart tail.toList
      ∧ s.sql = i.rowsText names' s.table rows.length tail fun row f => slotText s.table row f.property := by
  obtain ⟨table, named, htable, h⟩ := Naming.bind_eq_ok.mp h
  obtain ⟨chunks, written, hchunks, h⟩ := Naming.bind_eq_ok.mp h
  cases h
  obtain ⟨hextends, hrows, hspells⟩ := Insert.spells hchunks
  have hrows : rows ≠ [] := fun hnone => hrows (by rw [hsource, hnone])
  refine ⟨?_, shownText names' i.tailPieces, i.apart_tail names', ?_⟩
  · change i.source.items = rows
    rw [hsource]
    rfl
  · have hvalues : insertValues (fun row f => slotText table row f.property) i.fields rows.length
        = " VALUES " ++ ", ".intercalate ((List.range rows.length).map (slotRow table i.fields)) := rfl
    refine hspells.text.trans ?_
    unfold rowsText
    rw [layout, hsource, columnTexts, hvalues]
    simp [Piece.shown, Table.shownText_pieces, Names.tableName_of_table htable hextends, shownText_columnNames,
      shownText_rows names' table i.fields hrows, String.append_assoc, Function.comp_def]

theorem absent_header {table : String} {alias? : Option String} {columns : List String} (htable : Absent '#' table)
    (halias : ∀ name ∈ alias?, Absent '#' name) (hcolumns : ∀ name ∈ columns, Absent '#' name) :
    Absent '#' ("INSERT INTO " ++ quotedRow (table :: alias?.toList) ++ " ("
      ++ ", ".intercalate (columns.map Text.quoteIdentifier) ++ ")") := by
  have hwording : ∀ s, isWording s = true → Absent '#' s := fun _ => absent_of_wording foreign_slotStart.wording
  have hlist : ∀ {separator : String} {names : List String}, isWording separator = true →
      (∀ name ∈ names, Absent '#' name) → Absent '#' (separator.intercalate (names.map Text.quoteIdentifier)) := by
    intro separator names hseparator hnames
    exact absent_intercalate (hwording _ hseparator)
      (List.forall_mem_map.mpr fun name hname => absent_quoteIdentifier foreign_slotStart (hnames name hname))
  have hrow : Absent '#' (quotedRow (table :: alias?.toList)) :=
    hlist rfl (List.forall_mem_cons.mpr ⟨htable, by simpa using halias⟩)
  simp only [absent_append]
  exact ⟨⟨⟨⟨hwording _ rfl, hrow⟩, hwording _ rfl⟩, hlist rfl hcolumns⟩, hwording _ rfl⟩

theorem getElem?_flatMap_uniform {α β : Type} {f : α → List β} {width : Nat} (hwidth : ∀ a, (f a).length = width)
    {items : List α} {r j : Nat} {a : α} (ha : items[r]? = some a) (hj : j < width) :
    (items.flatMap f)[r * width + j]? = (f a)[j]? := by
  induction items generalizing r with
  | nil => simp at ha
  | cons b rest ih =>
    rw [List.flatMap_cons]
    cases r with
    | zero =>
      cases ha
      rw [Nat.zero_mul, Nat.zero_add, List.getElem?_append_left (by rw [hwidth]; exact hj)]
    | succ r =>
      have hplace : (r + 1) * width + j - (f b).length = r * width + j := by
        rw [hwidth, Nat.succ_mul]
        omega
      rw [List.getElem?_append_right (by rw [hwidth, Nat.succ_mul]; omega), hplace, ih ha]

def InsertField.cells (e : Entity) (fields : List InsertField) (row : Instance) : List Value :=
  fields.map fun f => (e.storedValue? row f.property).getD .null

/-- No name of the table or of a column and no text after the rows has the sign of a slot in it, slots can refer to
the properties of the fields, and every row has them. -/
structure Insert.Bindable (i : Insert) (e : Entity) (rows : List Instance) (names : Names) (table tail : String) : Prop where
  table : Absent '#' table
  columns : ∀ name ∈ i.columnTexts names, Absent '#' name
  tail : Absent '#' tail
  words : ∀ f ∈ i.fields, IsWord f.property
  filled : ∀ row ∈ rows, ∀ f ∈ i.fields, (e.storedValue? row f.property).isSome

theorem Insert.bind_aligned {i : Insert} {rows : List Instance} {names names' : Names} {s : InsertStatement}
    (hsource : i.source = .rows rows) (hwrite : i.write names = (.ok s, names')) :
    ∃ tail, s.sql = i.rowsText names' s.table rows.length tail (fun row f => slotText s.table row f.property)
      ∧ ∀ e : Entity, i.Bindable e rows names' s.table tail → (∀ name ∈ i.table.alias?, Absent '#' name) →
        ∃ values, s.bind e
            = .ok ⟨i.rowsText names' s.table rows.length tail (fun _ _ => s.mark), values ++ s.values⟩
          ∧ values.length = rows.length * i.fields.length
          ∧ ∀ r j row f, rows[r]? = some row → i.fields[j]? = some f →
            values[r * i.fields.length + j]? = e.storedValue? row f.property := by
  obtain ⟨hrows, tail, hapart, hsql⟩ := Insert.sql_write hsource hwrite
  refine ⟨tail, hsql, fun e h halias => ?_⟩
  have hcells : ∀ row ∈ rows,
      List.Forall₂ (fun f v => e.storedValue? row f.property = some v) i.fields (InsertField.cells e i.fields row) := by
    intro row hrow
    rw [InsertField.cells, List.forall₂_map_right_iff, List.forall₂_same]
    intro f hf
    obtain ⟨v, hv⟩ := Option.isSome_iff_exists.mp (h.filled row hrow f hf)
    rw [hv, Option.getD_some]
  have hwidth : ∀ row, (InsertField.cells e i.fields row).length = i.fields.length := by simp [InsertField.cells]
  have hheader := absent_header h.table halias h.columns
  have hreads : Reads s.table.toList s.mark s.sql ((List.range rows.length).flatMap (rowSlots i.fields))
      (i.rowsText names' s.table rows.length tail fun _ _ => s.mark) := by
    rw [hsql]
    exact reads_insert s.table s.mark h.words hheader h.tail hapart rows.length
  refine ⟨rows.flatMap (InsertField.cells e i.fields), ?_, ?_, fun r j row f hrow hf => ?_⟩
  · refine InsertStatement.bind_reads hreads ?_
    rw [hrows]
    exact value_slots hcells
  · simp [List.length_flatMap, hwidth]
  · obtain ⟨v, hv⟩ := Option.isSome_iff_exists.mp
      (h.filled row (List.mem_of_getElem? hrow) f (List.mem_of_getElem? hf))
    rw [getElem?_flatMap_uniform hwidth hrow (List.getElem?_eq_some_iff.mp hf).1, InsertField.cells, List.getElem?_map,
      hf, Option.map_some, hv, Option.getD_some]

def bin (table : String) : Entity := Entity.ofFields "app::Bin" "Bin" (some table)
  [{ name := "id", label := "i64", holds := .column (.required (.element .int64)) },
    { name := "name", label := "String", holds := .column (.required (.element .text)) }]

def binOf (id : Int64) (name : String) : Instance :=
  .record "app::Bin" [("id", .value (.int id)), ("name", .value (.text name))]

theorem isWord_id : IsWord "id" := by decide

theorem Insert.bind_aligned_bins :
    let t := (bin "bins.(v2)+7").aliased "b"
    let i := (t.insert t.insertFields (.rows [binOf 1 "a", binOf 2 "#b"])).onConflict [] .nothing
    ∃ s names' values, i.write {} = (.ok s, names')
      ∧ s.bind t.entity = .ok
        ⟨"INSERT INTO \"bins.(v2)+7\" \"b\" (\"id\", \"name\") VALUES (?, ?), (?, ?) ON CONFLICT DO NOTHING", values⟩
      ∧ values.length = 4 ∧ values[2]? = some (.int 2) := by
  intro t i
  let rows := [binOf 1 "a", binOf 2 "#b"]
  let tail := " ON CONFLICT DO NOTHING"
  obtain ⟨s, names', hwrite, htable, hmark, hvalues, hcolumns, hsql⟩ : ∃ s names', i.write {} = (.ok s, names')
      ∧ s.table = "bins.(v2)+7" ∧ s.mark = "?" ∧ s.values = [] ∧ i.columnTexts names' = ["id", "name"]
      ∧ s.sql = i.rowsText names' s.table 2 tail fun row f => slotText s.table row f.property :=
    ⟨_, _, rfl, rfl, rfl, by decide +kernel, by decide +kernel, by decide +kernel⟩
  obtain ⟨last, hlast, hbind⟩ := Insert.bind_aligned rfl hwrite
  obtain rfl : tail = last := (String.append_right_inj _).mp ((String.append_right_inj _).mp (hsql.symm.trans hlast))
  have hbindable : i.Bindable t.entity rows names' s.table tail := by
    refine ⟨by rw [htable]; decide, by rw [hcolumns]; decide, by decide, ?_, by decide⟩
    have hname : IsWord "name" := by decide
    exact List.forall_mem_cons.mpr ⟨isWord_id, List.forall_mem_singleton.mpr hname⟩
  obtain ⟨values, hbound, hlength, hplace⟩ := hbind t.entity hbindable (by decide)
  have hbin : values[2]? = some (.int 2) := hplace 1 0 (binOf 2 "#b") (t.insertField "id") rfl rfl
  refine ⟨s, names', values, hwrite, ?_, hlength, hbin⟩
  rw [hbound, hvalues, List.append_nil, htable, hmark]
  congr 2
  unfold Insert.rowsText
  rw [hcolumns]
  decide +kernel

theorem reads_aliased_slot : Reads "bins".toList "?" "INSERT INTO \"bins\" \"#bins0.id\" (\"id\") VALUES (#bins0.id)"
    [slotAt 0 "id", slotAt 0 "id"] "INSERT INTO \"bins\" \"?\" (\"id\") VALUES (?)" := by
  have htext : "INSERT INTO \"bins\" \"#bins0.id\" (\"id\") VALUES (#bins0.id)" = "INSERT INTO \"bins\" \""
      ++ (slotText "bins" 0 "id" ++ ("\" (\"id\") VALUES (" ++ (slotText "bins" 0 "id" ++ ")"))) := by decide +kernel
  have hfilled : "INSERT INTO \"bins\" \"?\" (\"id\") VALUES (?)"
      = "INSERT INTO \"bins\" \"" ++ ("?" ++ ("\" (\"id\") VALUES (" ++ ("?" ++ ")"))) := by decide +kernel
  have hslot := @reads_slot "?" "bins" 0 "id" isWord_id
  have hclose : Apart ")".toList := by
    rintro c ⟨⟩
    decide
  have hcolumns : Apart ("\" (\"id\") VALUES (" ++ (slotText "bins" 0 "id" ++ ")")).toList := by
    rw [String.toList_append]
    rintro c ⟨⟩
    decide
  rw [htext, hfilled]
  refine reads_text_append (by decide) (reads_append hslot ?_ hcolumns)
  exact reads_text_append (by decide) (reads_append hslot (reads_text (by decide)) hclose)

theorem Insert.bind_aliased_slot :
    let t := (bin "bins").aliased "#bins0.id"
    let i := t.insert [t.insertField "id"] (.rows [binOf 7 "a"])
    ∃ s names', i.write {} = (.ok s, names') ∧ i.Bindable t.entity [binOf 7 "a"] names' s.table ""
      ∧ s.sql = i.rowsText names' s.table 1 "" (fun row f => slotText s.table row f.property)
      ∧ i.rowsText names' s.table 1 "" (fun _ _ => s.mark) = "INSERT INTO \"bins\" \"#bins0.id\" (\"id\") VALUES (?)"
      ∧ s.bind t.entity = .ok ⟨"INSERT INTO \"bins\" \"?\" (\"id\") VALUES (?)", [.int 7, .int 7]⟩ := by
  intro t i
  obtain ⟨s, names', hwrite, hbindable, hrows, hvalues, htable, hmark, hsql, hlayout, htext⟩ :
      ∃ s names', i.write {} = (.ok s, names') ∧ i.Bindable t.entity [binOf 7 "a"] names' s.table ""
        ∧ s.rows = [binOf 7 "a"] ∧ s.values = [] ∧ s.table = "bins" ∧ s.mark = "?"
        ∧ s.sql = "INSERT INTO \"bins\" \"#bins0.id\" (\"id\") VALUES (#bins0.id)"
        ∧ s.sql = i.rowsText names' s.table 1 "" (fun row f => slotText s.table row f.property)
        ∧ i.rowsText names' s.table 1 "" (fun _ _ => s.mark)
          = "INSERT INTO \"bins\" \"#bins0.id\" (\"id\") VALUES (?)" := by
    refine ⟨_, _, rfl, ?_, rfl, rfl, ?_, ?_, ?_, ?_, ?_⟩
    · refine ⟨by decide, by decide +kernel, by decide, ?_, ?_⟩
      · exact List.forall_mem_singleton.mpr isWord_id
      · decide
    all_goals decide +kernel
  have hcells : ∀ row ∈ [binOf 7 "a"],
      List.Forall₂ (fun f v => t.entity.storedValue? row f.property = some v) i.fields [Value.int 7] :=
    List.forall_mem_singleton.mpr (.cons rfl .nil)
  have hvalue : Slot.value t.entity [binOf 7 "a"] (slotAt 0 "id") = .ok (.int 7) :=
    (List.forall₂_cons.mp (value_slots hcells)).1
  have hreads := reads_aliased_slot
  rw [← htable, ← hmark, ← hsql] at hreads
  rw [← hrows] at hvalue
  refine ⟨s, names', hwrite, hbindable, hlayout, htext, ?_⟩
  rw [InsertStatement.bind_reads hreads (.cons hvalue (.cons hvalue .nil)), hvalues]
  rfl

end RelationalMapping
