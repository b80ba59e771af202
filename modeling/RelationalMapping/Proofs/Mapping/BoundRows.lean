import RelationalMapping.Proofs.Mapping.StoredRows
import RelationalMapping.Proofs.Sql.Outside

namespace RelationalMapping

variable {table : List Char} {mark : String}

def Delimited (text : List Char) : Prop := ∃ d rest, text = d :: rest ∧ (d = ',' ∨ d = ')')

theorem read?_nameless (table digits : List Char) {rest : List Char} (hdigits : ∀ c ∈ digits, Text.isDecimalDigit c = true)
    (hrest : Apart rest) : Slot.read? table ('#' :: table ++ (digits ++ '.' :: rest)) = none := by
  have hdot : Text.isDecimalDigit '.' = false := by decide
  have hdrop : (digits ++ '.' :: rest).dropWhile Text.isDecimalDigit = '.' :: rest := by
    rw [List.dropWhile_append_of_pos hdigits, List.dropWhile_cons, hdot, if_neg (by decide)]
  have hdotted : Text.afterStart? ['.'] ('.' :: rest) = some rest := Text.afterStart?_append ['.'] _
  have hname : rest.takeWhile Text.isWordCharacter = [] := by
    cases rest with
    | nil => rfl
    | cons c rest => rw [List.takeWhile_cons, hrest c rfl, if_neg (by decide)]
  rw [Slot.read?, Text.afterStart?_append]
  simp only [Option.bind_eq_bind, Option.bind_some, hdrop, hdotted, hname, List.isEmpty_nil, Bool.or_true, if_pos]

theorem head_filledText (hmark : mark.toList = ['?']) {c : Char} {text : List Char} {d : Char} {rest : List Char}
    (h : filledText table mark (c :: text) = d :: rest) : d = c ∨ d = '?' := by
  rw [filledText, slotTokens] at h
  cases hread : Slot.read? table (c :: text) with
  | none =>
    rw [hread] at h
    simp only [List.map_cons, String.join_cons, String.toList_append, SlotToken.filled, Char.toString_eq_singleton,
      String.toList_singleton, List.singleton_append, List.cons.injEq] at h
    exact .inl h.1.symm
  | some slot =>
    rw [hread] at h
    simp only [List.map_cons, String.join_cons, String.toList_append, SlotToken.filled, hmark,
      List.singleton_append, List.cons.injEq] at h
    exact .inr h.1.symm

theorem isWord_of_filledText (hmark : mark.toList = ['?']) {name property : String} {row : Nat}
    {after filled : List Char} (hproperty : ',' ∉ property.toList ∧ ')' ∉ property.toList) (hafter : Delimited after)
    (hfilled : Delimited filled)
    (h : filledText name.toList mark ((slotText name row property).toList ++ after) = mark.toList ++ filled) :
    IsWord property ∧ filledText name.toList mark after = filled := by
  obtain ⟨word, rest, hsplit, hword, hstop⟩ : ∃ word rest, property.toList = word ++ rest
      ∧ (∀ c ∈ word, Text.isWordCharacter c = true) ∧ Apart rest := by
    refine ⟨property.toList.takeWhile Text.isWordCharacter, property.toList.dropWhile Text.isWordCharacter,
      List.takeWhile_append_dropWhile.symm, List.all_eq_true.mp List.all_takeWhile, fun c hc => ?_⟩
    have hdropped := List.head?_dropWhile_not Text.isWordCharacter property.toList
    rw [Option.mem_def.mp hc] at hdropped
    exact hdropped
  have hapart : Apart (rest ++ after) := by
    obtain ⟨d, others, rfl, hd⟩ := hafter
    cases rest with
    | nil =>
      rintro c ⟨⟩
      rcases hd with rfl | rfl <;> decide
    | cons c cs => exact hstop
  have htext : (slotText name row property).toList ++ after
      = '#' :: name.toList ++ ((toString row).toList ++ '.' :: (word ++ (rest ++ after))) := by
    simp [slotText, hsplit]
  by_cases hnil : word = []
  · have hread : Slot.read? name.toList ('#' :: name.toList ++ ((toString row).toList ++ '.' :: (rest ++ after))) = none :=
      read?_nameless _ _ (fun c hc => Text.isDecimalDigit_of_mem_toString hc) hapart
    have hsign : Slotless name.toList ['#'] (name.toList ++ ((toString row).toList ++ '.' :: (rest ++ after))) :=
      ⟨hread, trivial⟩
    rw [htext, hnil, List.nil_append, List.cons_append, ← List.singleton_append, filledText_slotless hsign, hmark,
      List.singleton_append, List.singleton_append, List.cons.injEq] at h
    exact absurd h.1 (by decide)
  · have hname : IsWord (String.ofList word) := by
      refine ⟨fun hempty => hnil ?_, by rwa [String.toList_ofList]⟩
      rw [← String.toList_ofList (l := word), hempty]
      rfl
    have hslot : (slotText name row property).toList ++ after
        = (slotText name row (String.ofList word)).toList ++ (rest ++ after) := by
      simp [slotText, hsplit]
    rw [hslot, filledText_reads (reads_slot name row hname) hapart] at h
    have hend := List.append_cancel_left h
    cases rest with
    | nil =>
      refine ⟨?_, hend⟩
      rwa [← String.ofList_toList (s := property), hsplit, List.append_nil]
    | cons c cs =>
      obtain ⟨d, others, rfl, hd⟩ := hfilled
      have hc : c ∈ property.toList := by simp [hsplit]
      rcases head_filledText hmark hend with rfl | rfl
      · rcases hd with rfl | rfl
        · exact absurd hc hproperty.1
        · exact absurd hc hproperty.2
      · exact absurd hd (by decide)

theorem words_of_filledText (hmark : mark.toList = ['?']) (name : String) (row : Nat) {fields : List InsertField}
    (hfields : ∀ f ∈ fields, ',' ∉ f.property.toList ∧ ')' ∉ f.property.toList) {after filled : List Char}
    (h : filledText name.toList mark
        ((", ".intercalate (fields.map fun f => slotText name row f.property)).toList ++ ')' :: after)
      = (", ".intercalate (fields.map fun _ => mark)).toList ++ ')' :: filled) :
    ∀ f ∈ fields, IsWord f.property := by
  induction fields with
  | nil => exact fun f hf => absurd hf List.not_mem_nil
  | cons f rest ih =>
    obtain ⟨hf, hrest⟩ := List.forall_mem_cons.mp hfields
    cases rest with
    | nil =>
      simp only [List.map_cons, List.map_nil, String.intercalate_singleton] at h
      exact List.forall_mem_singleton.mpr
        (isWord_of_filledText hmark hf ⟨')', after, rfl, .inr rfl⟩ ⟨')', filled, rfl, .inr rfl⟩ h).1
    | cons g others =>
      have htexts : ∀ text : InsertField → String, (", ".intercalate ((f :: g :: others).map text)).toList
          = (text f).toList ++ (',' :: ' ' :: (", ".intercalate ((g :: others).map text)).toList) := by
        intro text
        rw [List.map_cons, String.intercalate_cons_of_ne_nil (by simp), String.toList_append, String.toList_append,
          List.append_assoc]
        rfl
      rw [htexts, htexts, List.append_assoc, List.append_assoc] at h
      obtain ⟨hword, hnext⟩ :=
        isWord_of_filledText hmark hf ⟨',', _, rfl, .inl rfl⟩ ⟨',', _, rfl, .inl rfl⟩ h
      have hsign : ∃ c chars, mark.toList = c :: chars ∧ c ≠ '#' := ⟨'?', [], hmark, by decide⟩
      have hseparated : filledText name.toList mark ([',', ' '] ++ _) = [',', ' '] ++ _ := hnext
      exact List.forall_mem_cons.mpr ⟨hword, ih hrest (slotless_of_filledText hsign hseparated).2⟩

theorem insertValues_succ (place : Nat → InsertField → String) (fields : List InsertField) (count : Nat) :
    ∃ more, insertValues place fields (count + 1)
      = " VALUES (" ++ (", ".intercalate (fields.map (place 0)) ++ (")" ++ more)) := by
  obtain ⟨more, hmore⟩ : ∃ more, ", ".intercalate ((List.range (count + 1)).map fun row =>
      "(" ++ ", ".intercalate (fields.map (place row)) ++ ")")
        = "(" ++ ", ".intercalate (fields.map (place 0)) ++ ")" ++ more := by
    rw [List.range_succ_eq_map, List.map_cons]
    cases ((List.range count).map Nat.succ).map fun row => "(" ++ ", ".intercalate (fields.map (place row)) ++ ")" with
    | nil => exact ⟨"", by rw [String.intercalate_singleton, String.append_empty]⟩
    | cons next others =>
      refine ⟨", " ++ ", ".intercalate (next :: others), ?_⟩
      rw [String.intercalate_cons_of_ne_nil (by simp), String.append_assoc]
  refine ⟨more, ?_⟩
  rw [insertValues, hmore]
  have hopen : " VALUES (" = " VALUES " ++ "(" := by decide
  simp only [hopen, String.append_assoc]

theorem InsertStatement.words_of_bind {s : InsertStatement} {e : Entity} {header : String} {fields : List InsertField}
    {count : Nat} (hmark : s.mark.toList = ['?'])
    (hfields : ∀ f ∈ fields, ',' ∉ f.property.toList ∧ ')' ∉ f.property.toList)
    (hsql : s.sql = header ++ insertValues (fun row f => slotText s.table row f.property) fields (count + 1))
    {values : List Value}
    (h : s.bind e = .ok ⟨header ++ insertValues (fun _ _ => s.mark) fields (count + 1), values⟩) :
    ∀ f ∈ fields, IsWord f.property := by
  have hsign : ∃ c chars, s.mark.toList = c :: chars ∧ c ≠ '#' := ⟨'?', [], hmark, by decide⟩
  obtain ⟨more, hmore⟩ := insertValues_succ (fun row f => slotText s.table row f.property) fields count
  obtain ⟨others, hothers⟩ := insertValues_succ (fun _ _ => s.mark) fields count
  have hsplit : ∀ inner rest : String, (header ++ (" VALUES (" ++ (inner ++ (")" ++ rest)))).toList
      = (header ++ " VALUES (").toList ++ (inner.toList ++ ')' :: rest.toList) := by
    intro inner rest
    simp only [String.toList_append, List.append_assoc]
    rfl
  have hfilled := (sql_bind h).symm
  rw [hsql, hmore, hothers, hsplit, hsplit] at hfilled
  exact words_of_filledText hmark s.table 0 hfields (slotless_of_filledText hsign hfilled).2

/-- An entity whose fields have names of their own without delimiters of slots, and whose table and columns have names
without the sign of a slot. -/
structure Entity.Storable (e : Entity) : Prop where
  names : (e.fields.map (·.name)).Nodup
  typed : e.typeName ≠ ""
  named : e.simpleName ≠ ""
  delimiters : ∀ f ∈ e.fields, ',' ∉ f.name.toList ∧ ')' ∉ f.name.toList
  table : ∀ name, e.ownTableName = .ok name → Absent '#' name
  columns : ∀ name ∈ e.columnLabels, Absent '#' name

theorem absent_insertHeader {table : String} {columns : List String} (htable : Absent '#' table)
    (hcolumns : ∀ name ∈ columns, Absent '#' name) : Absent '#' (insertHeader table columns) := by
  have hheader := absent_header htable (fun name (hname : name ∈ none) => nomatch hname) hcolumns
  have hrow : quotedRow [table] = Text.quoteIdentifier table := by simp [quotedRow]
  rwa [Option.toList_none, hrow] at hheader

namespace Entity.Storable

variable {e : Entity}

theorem resolves (h : e.Storable) {rows : List Instance} (hinstances : ∀ i ∈ rows, e.HasInstance (fun _ => True) i)
    (hwords : ∀ f ∈ stored e.fields, IsWord f.name) :
    (e.table.insert e.table.insertFields (.rows rows)).Resolves e rows := by
  refine ⟨?_, fun row hrow => ?_⟩
  · change ∀ f ∈ e.table.insertFields, _
    rw [insertFields_eq]
    exact List.forall_mem_map.mpr hwords
  · change ∀ f ∈ e.table.insertFields, _
    rw [insertFields_eq]
    refine List.forall_mem_map.mpr fun f hf => ?_
    obtain ⟨content, rfl, hholds⟩ := hinstances row hrow
    obtain ⟨t, x, -, hcontent⟩ := hholds.stores f hf
    change (e.storedValue? (e.record content) f.name).isSome
    rw [e.storedValue?_record h.names hf hcontent]
    rfl

theorem write_rows (h : e.Storable) {rows : List Instance} (hrows : rows ≠ []) {names : Names}
    (hnames : names.Faithful (· = e)) :
    ∃ s names', (e.table.insert e.table.insertFields (.rows rows)).write names = (.ok s, names')
      ∧ s.sql = insertHeader s.table e.columnLabels
        ++ insertValues (fun row f => slotText s.table row f.property) e.table.insertFields rows.length
      ∧ Absent '#' (insertHeader s.table e.columnLabels) ∧ s.mark = parameterMark ∧ s.rows = rows ∧ s.values = [] := by
  obtain ⟨table, htable⟩ := exists_ownTableName h.named
  have hown : ∀ f ∈ e.table.insertFields, f.column.table.entity = e := by
    rw [insertFields_eq]
    exact List.forall_mem_map.mpr fun _ _ => rfl
  have hlabels : e.table.insertFields.map (·.column.ownName) = e.columnLabels := by
    rw [insertFields_eq, List.map_map]
    rfl
  obtain ⟨names', hwrite, -⟩ := Table.yields_insert (unconfused_single e) rfl h.typed htable hown hrows names hnames
  rw [hlabels] at hwrite
  exact ⟨_, names', hwrite, rfl, absent_insertHeader (h.table table htable) h.columns, rfl, rfl, rfl⟩

end Entity.Storable

theorem Entity.Storable.bind_all_columns {e : Entity} (h : e.Storable)
    {rows : List Instance} (hrows : rows ≠ []) (hinstances : ∀ i ∈ rows, e.HasInstance (fun _ => True) i) {names : Names}
    (hnames : names.Faithful (· = e)) :
    ∃ s names', (e.table.insert e.table.insertFields (.rows rows)).write names = (.ok s, names')
      ∧ ((∀ f ∈ stored e.fields, IsWord f.name)
        ↔ ∃ values, s.bind e = .ok ⟨insertHeader s.table e.columnLabels
              ++ insertValues (fun _ _ => s.mark) e.table.insertFields rows.length, values⟩
            ∧ values.length = rows.length * (stored e.fields).length) := by
  obtain ⟨s, names', hwrite, hsql, hheader, hmark, hheld, hvalues⟩ := h.write_rows hrows hnames
  refine ⟨s, names', hwrite, fun hwords => ?_, ?_⟩
  · have hsource : s.sql = insertHeader s.table e.columnLabels
        ++ (insertValues (fun row f => slotText s.table row f.property)
          (e.table.insert e.table.insertFields (.rows rows)).fields rows.length ++ "") :=
      hsql.trans (by rw [String.append_empty]; rfl)
    obtain ⟨values, hbind, hlength⟩ := bind_of_slotless hsource hheld (h.resolves hinstances hwords) (by simp [Apart])
      (slotless_of_absent hheader _) trivial
    rw [String.append_empty, hvalues, List.append_nil] at hbind
    refine ⟨values, hbind, hlength.trans ?_⟩
    change _ * e.table.insertFields.length = _
    rw [insertFields_eq, List.length_map]
  · rintro ⟨values, hbind, -⟩
    obtain ⟨first, others, rfl⟩ := List.exists_cons_of_ne_nil hrows
    have hdelimiters : ∀ f ∈ e.table.insertFields, ',' ∉ f.property.toList ∧ ')' ∉ f.property.toList := by
      rw [insertFields_eq]
      exact List.forall_mem_map.mpr fun f hf => h.delimiters f (mem_stored.mp hf).1
    have hwords := InsertStatement.words_of_bind (by rw [hmark]; rfl) hdelimiters hsql hbind
    rw [insertFields_eq] at hwords
    exact fun f hf => hwords (e.table.insertField f.name) (List.mem_map_of_mem hf)

def note (kind : String) : Entity := Entity.ofFields "app::Note" "Note" none
  [{ name := "id", label := "i64", holds := .column (.required (.element .int64)) },
    { name := kind, label := "String", holds := .column (.required (.element .text)), column := some "kind" },
    { name := "zone", label := "Option<Zone>", holds := .joined "app::Zone", transient := true }]

def noteOf (kind : String) (id : Int64) (text : String) : Instance :=
  (note kind).record fun f =>
    if f.name = "id" then .value (.int id) else if f.name = "zone" then .joined none else .value (.text text)

theorem note_storable : (note "kind").Storable ∧ (note "r#type").Storable := by
  have htable : ∀ kind name, (note kind).ownTableName = .ok name → Absent '#' name := by
    rintro kind name ⟨⟩
    change Absent '#' (Text.underscore "Note")
    decide +kernel
  exact ⟨⟨by decide +kernel, by decide, by decide, by decide +kernel, htable "kind", by decide +kernel⟩,
    ⟨by decide +kernel, by decide, by decide, by decide +kernel, htable "r#type", by decide +kernel⟩⟩

theorem note_hasInstance {kind : String} (hid : kind ≠ "id") (hzone : kind ≠ "zone") (id : Int64) (text : String) :
    (note kind).HasInstance (fun _ => True) (noteOf kind id text) := by
  refine ⟨_, rfl, ?_, fun _ _ _ h => absurd trivial h⟩
  refine List.forall_mem_cons.mpr ⟨⟨.required (.element .int64), id, rfl, rfl⟩, ?_⟩
  refine List.forall_mem_cons.mpr ⟨⟨.required (.element .text), text, rfl, ?_⟩, ?_⟩
  · exact (if_neg hid).trans (if_neg hzone)
  · exact fun f hf => absurd hf List.not_mem_nil

theorem Entity.Storable.bind_all_columns_notes :
    ∃ s names' values, ((note "kind").table.insert (note "kind").table.insertFields
        (.rows [noteOf "kind" 1 "memo", noteOf "kind" 2 "#"])).write {} = (.ok s, names')
      ∧ s.bind (note "kind") = .ok ⟨"INSERT INTO \"note\" (\"id\", \"kind\") VALUES (?, ?), (?, ?)", values⟩
      ∧ values.length = 4 := by
  have hinstances : ∀ i ∈ [noteOf "kind" 1 "memo", noteOf "kind" 2 "#"], (note "kind").HasInstance (fun _ => True) i := by
    have hone : ∀ id text, (note "kind").HasInstance (fun _ => True) (noteOf "kind" id text) :=
      note_hasInstance (by decide) (by decide)
    exact List.forall_mem_cons.mpr ⟨hone 1 "memo", List.forall_mem_singleton.mpr (hone 2 "#")⟩
  obtain ⟨s, names', hwrite, hiff⟩ :=
    note_storable.1.bind_all_columns (by simp) hinstances (Names.faithful_empty _)
  have hwords : ∀ f ∈ stored (note "kind").fields, IsWord f.name := by decide +kernel
  obtain ⟨values, hbind, hlength⟩ := hiff.mp hwords
  have hwritten : (s.table, s.mark) = ("note", "?") := by
    cases hwrite
    decide +kernel
  obtain ⟨htable, hmark⟩ := Prod.mk.inj hwritten
  refine ⟨s, names', values, hwrite, ?_, hlength⟩
  rw [hbind, htable, hmark]
  congr 2

theorem Entity.Storable.bind_raw_name :
    (note "r#type").Storable ∧ (note "r#type").HasInstance (fun _ => True) (noteOf "r#type" 1 "memo")
      ∧ ∃ s names', ((note "r#type").table.insert (note "r#type").table.insertFields
          (.rows [noteOf "r#type" 1 "memo"])).write {} = (.ok s, names')
        ∧ s.bind (note "r#type") = .error (.declaration (.noProperty "Note" "r")) := by
  refine ⟨note_storable.2, note_hasInstance (by decide) (by decide) 1 "memo", _, _, rfl, ?_⟩
  rfl

end RelationalMapping
