import RelationalMapping.Proofs.Sql.Alignment

namespace RelationalMapping

/-- No slot starts in the text when these characters come after it. -/
def Slotless (table : List Char) : List Char → List Char → Prop
  | [], _ => True
  | c :: text, rest => Slot.read? table (c :: (text ++ rest)) = none ∧ Slotless table text rest

instance Slotless.decidable (table : List Char) : ∀ text rest, Decidable (Slotless table text rest)
  | [], _ => inferInstanceAs (Decidable True)
  | _ :: text, rest =>
    have := Slotless.decidable table text rest
    inferInstanceAs (Decidable (_ ∧ _))

def filledText (table : List Char) (mark : String) (text : List Char) : List Char :=
  (String.join ((slotTokens table 0 text).map (·.filled mark))).toList

variable {table : List Char} {mark : String}

theorem slots_chars (text : List Char) : (text.map SlotToken.char).flatMap (·.slots) = [] := by
  rw [List.flatMap_map]
  exact List.flatMap_eq_nil_iff.mpr fun _ _ => rfl

theorem slotless_of_absent {text : List Char} (h : '#' ∉ text) (rest : List Char) : Slotless table text rest := by
  induction text with
  | nil => trivial
  | cons c text ih =>
    simp only [List.mem_cons, not_or] at h
    exact ⟨read?_of_ne (Ne.symm h.1), ih h.2⟩

theorem slotTokens_slotless {text rest : List Char} (h : Slotless table text rest) :
    slotTokens table 0 (text ++ rest) = text.map .char ++ slotTokens table 0 rest := by
  induction text with
  | nil => rfl
  | cons c text ih =>
    obtain ⟨hread, htext⟩ := h
    rw [List.cons_append, slotTokens, hread, List.map_cons, List.cons_append, ih htext]

theorem filledText_slotless {text rest : List Char} (h : Slotless table text rest) :
    filledText table mark (text ++ rest) = text ++ filledText table mark rest := by
  rw [filledText, slotTokens_slotless h, List.map_append, String.join_append, filled_chars, String.toList_append,
    String.toList_ofList]
  rfl

theorem filledText_reads {text filled : String} {slots : List Slot} (h : Reads table mark text slots filled)
    {rest : List Char} (hrest : Apart rest) :
    filledText table mark (text.toList ++ rest) = filled.toList ++ filledText table mark rest := by
  obtain ⟨tokens, -, rfl, hread⟩ := h
  rw [filledText, hread rest hrest, List.map_append, String.join_append, String.toList_append]
  rfl

theorem slotless_of_filledText (hmark : ∃ c chars, mark.toList = c :: chars ∧ c ≠ '#') {text rest other : List Char}
    (h : filledText table mark (text ++ rest) = text ++ other) :
    Slotless table text rest ∧ filledText table mark rest = other := by
  induction text with
  | nil => exact ⟨trivial, h⟩
  | cons c text ih =>
    rw [List.cons_append, filledText, slotTokens] at h
    cases hread : Slot.read? table (c :: (text ++ rest)) with
    | some slot =>
      rw [hread] at h
      obtain ⟨m, chars, hchars, hsign⟩ := hmark
      rw [List.map_cons, String.join_cons, String.toList_append, SlotToken.filled, hchars, List.cons_append,
        List.cons_append, List.cons.injEq] at h
      have hc : c = '#' := by
        by_contra hc
        rw [read?_of_ne hc] at hread
        cases hread
      exact absurd (h.1.trans hc) hsign
    | none =>
      rw [hread] at h
      rw [List.map_cons, String.join_cons, String.toList_append, SlotToken.filled, Char.toString_eq_singleton,
        String.toList_singleton, List.singleton_append, List.cons_append, List.cons.injEq] at h
      obtain ⟨htext, hrest⟩ := ih h.2
      exact ⟨⟨hread, htext⟩, hrest⟩

theorem SlotToken.bind_filled {e : Entity} {rows : List Instance} {token : SlotToken} {part : Fragment}
    (h : token.bind e mark rows = .ok part) : part.sql = token.filled mark := by
  cases token with
  | char c =>
    cases h
    rfl
  | slot slot =>
    obtain ⟨v, -, hpart⟩ := bind_eq_ok_iff.mp h
    cases hpart
    rfl

theorem SlotToken.bind_parts {e : Entity} {rows : List Instance} {tokens : List SlotToken} {parts : List Fragment}
    (h : List.Forall₂ (fun token part => token.bind e mark rows = .ok part) tokens parts) :
    parts.map (·.sql) = tokens.map (·.filled mark) := by
  induction h with
  | nil => rfl
  | cons hpart _ ih => exact congrArg₂ List.cons (SlotToken.bind_filled hpart) ih

theorem InsertStatement.sql_bind {s : InsertStatement} {e : Entity} {bound : Fragment} (h : s.bind e = .ok bound) :
    bound.sql.toList = filledText s.table.toList s.mark s.sql.toList := by
  obtain ⟨parts, hparts, hbound⟩ := bind_eq_ok_iff.mp h
  cases hbound
  rw [filledText, ← SlotToken.bind_parts (mapM_eq_ok_iff.mp hparts), Fragment.push, Fragment.join,
    intercalate_empty, String.append_empty]

theorem bind_slotted (e : Entity) (mark : String) {text : List Char} (h : ¬ Slotless table text []) :
    ∃ digits, (slotTokens table 0 text).mapM (·.bind e mark []) = .error (.declaration (.noRow digits)) := by
  induction text with
  | nil => exact absurd trivial h
  | cons c text ih =>
    rw [slotTokens]
    cases hread : Slot.read? table (c :: text) with
    | some slot =>
      refine ⟨String.ofList slot.row, ?_⟩
      have hvalue : slot.value e [] = .error (.declaration (.noRow (String.ofList slot.row))) := by
        cases hrow : Text.asciiNumber? slot.row <;> simp [Slot.value, hrow]
      simp only
      rw [List.mapM_cons, SlotToken.bind, hvalue]
      rfl
    | none =>
      have htext : ¬ Slotless table text [] := fun htext => h ⟨by rw [List.append_nil, hread], htext⟩
      obtain ⟨digits, hdigits⟩ := ih htext
      refine ⟨digits, ?_⟩
      simp only
      rw [List.mapM_cons, hdigits]
      rfl

def Insert.headerText (i : Insert) (names : Names) (table : String) : String :=
  "INSERT INTO " ++ quotedRow (table :: i.table.alias?.toList) ++ " ("
    ++ ", ".intercalate ((i.columnTexts names).map Text.quoteIdentifier) ++ ")"

structure Insert.Resolves (i : Insert) (e : Entity) (rows : List Instance) : Prop where
  words : ∀ f ∈ i.fields, IsWord f.property
  filled : ∀ row ∈ rows, ∀ f ∈ i.fields, (e.storedValue? row f.property).isSome

theorem Insert.Resolves.values_slots {i : Insert} {e : Entity} {rows : List Instance} (h : i.Resolves e rows) :
    ∃ values, List.Forall₂ (fun slot v => Slot.value e rows slot = .ok v)
        ((List.range rows.length).flatMap (rowSlots i.fields)) values
      ∧ values.length = rows.length * i.fields.length := by
  have hcells : ∀ row ∈ rows,
      List.Forall₂ (fun f v => e.storedValue? row f.property = some v) i.fields (InsertField.cells e i.fields row) := by
    intro row hrow
    rw [InsertField.cells, List.forall₂_map_right_iff, List.forall₂_same]
    intro f hf
    obtain ⟨v, hv⟩ := Option.isSome_iff_exists.mp (h.filled row hrow f hf)
    rw [hv, Option.getD_some]
  refine ⟨rows.flatMap (InsertField.cells e i.fields), value_slots hcells, ?_⟩
  simp [List.length_flatMap, InsertField.cells]

theorem Insert.write_statement {i : Insert} {names names' : Names} {s : InsertStatement}
    (h : i.write names = (.ok s, names')) : s.mark = parameterMark ∧ s.rows = i.source.items := by
  obtain ⟨table, named, -, h⟩ := Naming.bind_eq_ok.mp h
  obtain ⟨chunks, written, -, h⟩ := Naming.bind_eq_ok.mp h
  cases h
  exact ⟨rfl, rfl⟩

theorem reads_values (name mark : String) {fields : List InsertField} (h : ∀ f ∈ fields, IsWord f.property)
    (count : Nat) :
    Reads name.toList mark (insertValues (fun row f => slotText name row f.property) fields count)
      ((List.range count).flatMap (rowSlots fields)) (insertValues (fun _ _ => mark) fields count) := by
  have hempty : '#' ∉ "".toList := by decide
  have hvalues := reads_insert name mark h hempty hempty (by simp [Apart]) count
  rwa [String.empty_append, String.append_empty, String.empty_append, String.append_empty] at hvalues

theorem InsertStatement.bind_slotless {s : InsertStatement} (e : Entity)
    (h : Slotless s.table.toList s.sql.toList []) : s.bind e = .ok ⟨s.sql, s.values⟩ := by
  have htokens : slotTokens s.table.toList 0 s.sql.toList = s.sql.toList.map .char := by
    have hwhole := slotTokens_slotless h
    rwa [List.append_nil, slotTokens, List.append_nil] at hwhole
  have hvalues : List.Forall₂ (fun slot v => Slot.value e s.rows slot = .ok v)
      ((s.sql.toList.map SlotToken.char).flatMap (·.slots)) [] := by
    rw [slots_chars]
    exact .nil
  have hbind := bind_of_tokens htokens hvalues
  rwa [filled_chars, String.ofList_toList, List.nil_append] at hbind

theorem Insert.bind_selection {i : Insert} {q : Query} {names names' : Names} {s : InsertStatement}
    (hsource : i.source = .select q) (hwrite : i.write names = (.ok s, names')) (e : Entity)
    (h : ¬ Slotless s.table.toList s.sql.toList []) : ∃ digits, s.bind e = .error (.declaration (.noRow digits)) := by
  have hrows := (Insert.write_statement hwrite).2
  rw [hsource] at hrows
  obtain ⟨digits, hdigits⟩ := bind_slotted e s.mark h
  refine ⟨digits, ?_⟩
  rw [InsertStatement.bind, hrows, InsertSource.items, hdigits]
  rfl

section Rows

variable {i : Insert} {rows : List Instance} {s : InsertStatement} {header tail : String}
  (hsql : s.sql = header ++ (insertValues (fun row f => slotText s.table row f.property) i.fields rows.length ++ tail))

include hsql

theorem slotless_of_bind (hmark : s.mark = parameterMark) (hwords : ∀ f ∈ i.fields, IsWord f.property)
    (hapart : Apart tail.toList) {e : Entity} {values : List Value}
    (h : s.bind e = .ok ⟨header ++ (insertValues (fun _ _ => s.mark) i.fields rows.length ++ tail), values⟩) :
    Slotless s.table.toList header.toList
        (insertValues (fun row f => slotText s.table row f.property) i.fields rows.length ++ tail).toList
      ∧ Slotless s.table.toList tail.toList [] := by
  have hsign : ∃ c chars, s.mark.toList = c :: chars ∧ c ≠ '#' := ⟨'?', [], by rw [hmark]; rfl, by decide⟩
  have hfilled := (InsertStatement.sql_bind h).symm
  rw [hsql] at hfilled
  simp only [String.toList_append] at hfilled
  obtain ⟨hheader, hrest⟩ := slotless_of_filledText hsign hfilled
  rw [filledText_reads (reads_values s.table s.mark hwords rows.length) hapart] at hrest
  have htail : filledText s.table.toList s.mark (tail.toList ++ []) = tail.toList ++ [] := by
    rw [List.append_nil]
    exact List.append_cancel_left hrest
  refine ⟨?_, (slotless_of_filledText hsign htail).1⟩
  rwa [String.toList_append]

theorem bind_of_slotless (hrows : s.rows = rows) {e : Entity} (h : i.Resolves e rows) (hapart : Apart tail.toList)
    (hheader : Slotless s.table.toList header.toList
      (insertValues (fun row f => slotText s.table row f.property) i.fields rows.length ++ tail).toList)
    (htail : Slotless s.table.toList tail.toList []) :
    ∃ values, s.bind e = .ok ⟨header ++ (insertValues (fun _ _ => s.mark) i.fields rows.length ++ tail),
        values ++ s.values⟩
      ∧ values.length = rows.length * i.fields.length := by
  obtain ⟨values, hvalues, hlength⟩ := h.values_slots
  obtain ⟨tokens, hslots, hjoin, hread⟩ := reads_values s.table s.mark h.words rows.length
  have htokens : slotTokens s.table.toList 0 s.sql.toList
      = header.toList.map .char ++ (tokens ++ tail.toList.map .char) := by
    have hend := slotTokens_slotless htail
    rw [List.append_nil, slotTokens, List.append_nil] at hend
    rw [hsql, String.toList_append, slotTokens_slotless hheader, String.toList_append, hread _ hapart, hend]
  have hall : (header.toList.map SlotToken.char ++ (tokens ++ tail.toList.map SlotToken.char)).flatMap (·.slots)
      = (List.range rows.length).flatMap (rowSlots i.fields) := by
    rw [List.flatMap_append, List.flatMap_append, slots_chars, slots_chars, hslots, List.append_nil, List.nil_append]
  refine ⟨values, ?_, hlength⟩
  rw [← hall, ← hrows] at hvalues
  rw [InsertStatement.bind_of_tokens htokens hvalues]
  simp only [List.map_append, String.join_append, filled_chars, hjoin, String.ofList_toList]

end Rows

theorem Insert.bind_untouched {i : Insert} {names names' : Names} {s : InsertStatement}
    (hwrite : i.write names = (.ok s, names')) (e : Entity) :
    (∀ q, i.source = .select q →
      (Slotless s.table.toList s.sql.toList [] → s.bind e = .ok ⟨s.sql, s.values⟩)
        ∧ (¬ Slotless s.table.toList s.sql.toList [] →
          ∃ digits, s.bind e = .error (.declaration (.noRow digits))))
      ∧ ∀ rows, i.source = .rows rows → i.Resolves e rows →
        ∃ tail, s.sql = i.headerText names' s.table
            ++ (insertValues (fun row f => slotText s.table row f.property) i.fields rows.length ++ tail)
          ∧ ((∃ values, s.bind e = .ok ⟨i.headerText names' s.table
                ++ (insertValues (fun _ _ => s.mark) i.fields rows.length ++ tail), values ++ s.values⟩
              ∧ values.length = rows.length * i.fields.length)
            ↔ Slotless s.table.toList (i.headerText names' s.table).toList
                (insertValues (fun row f => slotText s.table row f.property) i.fields rows.length ++ tail).toList
              ∧ Slotless s.table.toList tail.toList []) := by
  constructor
  · intro q hsource
    exact ⟨InsertStatement.bind_slotless e, Insert.bind_selection hsource hwrite e⟩
  · intro rows hsource h
    obtain ⟨hrows, tail, hapart, hsql⟩ := Insert.sql_write hsource hwrite
    refine ⟨tail, hsql, ?_, ?_⟩
    · rintro ⟨values, hbind, -⟩
      exact slotless_of_bind hsql (Insert.write_statement hwrite).1 h.words hapart hbind
    · rintro ⟨hheader, htail⟩
      exact bind_of_slotless hsql hrows h hapart hheader htail

def binsFrom (text : String) : Insert :=
  let t := (bin "bins").table
  t.insert [t.insertField "id"] (.select (t.select [(Expr.typedLiteral "text" text).project]))

theorem Insert.bind_untouched_bins :
    let t := (bin "bins").table
    let i := (t.insert [t.insertField "id"] (.rows [binOf 1 "a"])).alsoReturning
      [(Expr.typedLiteral "text" "#bins0_id").project]
    (∃ s names', (binsFrom "#bins.id").write {} = (.ok s, names')
        ∧ s.bind t.entity = .ok ⟨"INSERT INTO \"bins\" (\"id\") (SELECT text '#bins.id' FROM \"bins\")", []⟩)
      ∧ ∃ s names' values, i.write {} = (.ok s, names')
        ∧ s.bind t.entity
          = .ok ⟨"INSERT INTO \"bins\" (\"id\") VALUES (?) RETURNING text '#bins0_id'", values⟩
        ∧ values.length = 1 := by
  intro t i
  constructor
  · obtain ⟨s, names', hwrite, hsql, hvalues, hslotless⟩ : ∃ s names', (binsFrom "#bins.id").write {} = (.ok s, names')
        ∧ s.sql = "INSERT INTO \"bins\" (\"id\") (SELECT text '#bins.id' FROM \"bins\")" ∧ s.values = []
        ∧ Slotless s.table.toList s.sql.toList [] :=
      ⟨_, _, rfl, by decide +kernel, rfl, by decide +kernel⟩
    have hbind := ((Insert.bind_untouched hwrite t.entity).1 _ rfl).1 hslotless
    rw [hsql, hvalues] at hbind
    exact ⟨s, names', hwrite, hbind⟩
  · let tail := " RETURNING text '#bins0_id'"
    obtain ⟨s, names', hwrite, hmark, hvalues, hheader, hsql, hslotless⟩ : ∃ s names', i.write {} = (.ok s, names')
        ∧ s.mark = "?" ∧ s.values = [] ∧ i.headerText names' s.table = "INSERT INTO \"bins\" (\"id\")"
        ∧ s.sql = i.headerText names' s.table
          ++ (insertValues (fun row f => slotText s.table row f.property) i.fields 1 ++ tail)
        ∧ Slotless s.table.toList (i.headerText names' s.table).toList
          (insertValues (fun row f => slotText s.table row f.property) i.fields 1 ++ tail).toList
        ∧ Slotless s.table.toList tail.toList [] :=
      ⟨_, _, rfl, rfl, rfl, by decide +kernel, by decide +kernel, by decide +kernel, by decide +kernel⟩
    have hresolves : i.Resolves t.entity [binOf 1 "a"] := ⟨List.forall_mem_singleton.mpr isWord_id, by decide⟩
    obtain ⟨last, hlast, hiff⟩ := (Insert.bind_untouched hwrite t.entity).2 _ rfl hresolves
    obtain rfl : tail = last :=
      (String.append_right_inj _).mp ((String.append_right_inj _).mp (hsql.symm.trans hlast))
    obtain ⟨values, hbind, hlength⟩ := hiff.mpr hslotless
    refine ⟨s, names', values, hwrite, ?_, hlength⟩
    rw [hbind, hvalues, List.append_nil, hheader, hmark]
    congr 2

theorem Insert.bind_selected_slot :
    ∃ s names', (binsFrom "#bins0.id").write {} = (.ok s, names')
      ∧ s.sql = "INSERT INTO \"bins\" (\"id\") (SELECT text '#bins0.id' FROM \"bins\")"
      ∧ s.bind (bin "bins") = .error (.declaration (.noRow "0")) := by
  refine ⟨_, _, rfl, by decide +kernel, ?_⟩
  rfl

end RelationalMapping
