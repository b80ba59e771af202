import RelationalMapping.Proofs.Mapping.Records
import RelationalMapping.Proofs.Sql.Inserted

namespace RelationalMapping

def cutRows (width : Nat) (values : List Value) : List Row :=
  (List.range (values.length / width)).map fun row => (values.drop (row * width)).take width

def Insert.shown (i : Insert) : Naming ResultTable := do
  let statement ← i.write
  let bound ← ExceptT.mk (pure (statement.bind i.table.entity))
  let labels ← i.fields.mapM fun f => Naming.column f.column
  return ⟨labels, cutRows labels.length bound.values⟩

/-- A record entity whose inserts can be bound: its names are spelled, property names are words, and the names
of its table and its columns have no sign of a slot. -/
structure Entity.Insertable (types : TypeNames) (e : Entity) : Prop extends e.IsRecord types where
  typed : e.typeName ≠ ""
  named : e.simpleName ≠ ""
  stored : stored e.fields ≠ []
  words : ∀ f ∈ e.fields, f.name ≠ "" ∧ ∀ c ∈ f.name.toList, c.isAlphanum = true ∨ c = '_'
  table : ∀ name, e.ownTableName = .ok name → '#' ∉ name.toList
  columns : ∀ name ∈ e.columnLabels, '#' ∉ name.toList

variable {types : TypeNames} {e : Entity}

theorem flatten_length {width : Nat} {rows : List Row} (h : ∀ row ∈ rows, row.length = width) :
    rows.flatten.length = rows.length * width := by
  induction rows with
  | nil => simp
  | cons row rest ih =>
    simp only [List.mem_cons, forall_eq_or_imp] at h
    rw [List.flatten_cons, List.length_append, h.1, ih h.2, List.length_cons, Nat.succ_mul, Nat.add_comm]

theorem cutRows_flatten {width : Nat} (hwidth : 0 < width) {rows : List Row}
    (h : ∀ row ∈ rows, row.length = width) : cutRows width rows.flatten = rows := by
  have hcount : rows.flatten.length / width = rows.length := by
    rw [flatten_length h, Nat.mul_div_cancel _ hwidth]
  rw [cutRows, hcount]
  clear hcount
  induction rows with
  | nil => rfl
  | cons row rest ih =>
    simp only [List.mem_cons, forall_eq_or_imp] at h
    rw [List.length_cons, List.range_succ_eq_map, List.map_cons, List.map_map]
    congr 1
    · rw [Nat.zero_mul, List.drop_zero, List.flatten_cons, ← h.1, List.take_left]
    · refine Eq.trans (List.map_congr_left fun n _ => ?_) (ih h.2)
      have hdrop : (n + 1) * width = row.length + n * width := by rw [h.1, Nat.succ_mul, Nat.add_comm]
      rw [Function.comp_apply, Nat.succ_eq_add_one, hdrop, List.flatten_cons, ← List.drop_drop,
        List.drop_left]

theorem Entity.IsRecord.mapRow_plain (h : e.IsRecord types) {i : Instance}
    (hi : e.HasInstance (fun _ => False) i) :
    mapRow e (.record (planPlain .standard e (labelled 1 e.columnLabels))) (e.columnCells i) = .ok i := by
  obtain ⟨content, rfl, hholds⟩ := hi
  have hlabels : ((labelled 1 e.columnLabels).map fun c => Text.lowercase c.label).Nodup := by
    have heq : (labelled 1 e.columnLabels).map (fun c => Text.lowercase c.label)
        = (stored e.fields).map fun f => Text.lowercase f.columnName := by
      calc
        _ = ((labelled 1 e.columnLabels).map (·.label)).map Text.lowercase := List.map_map.symm
        _ = e.columnLabels.map Text.lowercase := by rw [map_label_labelled]
        _ = _ := by
          rw [h.columnLabels_eq, List.map_map]
          rfl
    rw [heq]
    exact nodup_lowercase_columnNames h.readable.unambiguous
  have hshows := h.shows hholds [] []
  rw [List.nil_append, List.append_nil, List.length_nil] at hshows
  have hrun := h.readable.run_planPlain e.typeName e.simpleName e.tableName hholds hshows hlabels
  rw [← h.made] at hrun
  rw [mapRow, RowMapper.map, hrun]
  exact if_pos h.instanceType_record

theorem Text.isWordCharacter_of_ascii {c : Char} (h : c.isAlphanum = true ∨ c = '_') :
    Text.isWordCharacter c = true := by
  have hascii : c.toNat < 0x80 := by
    rcases h with h | rfl
    · exact Text.toNat_lt_of_isAlphanum h
    · decide
  rw [isWordCharacter, if_pos hascii]
  simpa using h

theorem Entity.Insertable.isWord (h : e.Insertable types) {f : Field} (hf : f ∈ e.fields) : IsWord f.name := by
  obtain ⟨hname, hchars⟩ := h.words f hf
  exact ⟨hname, fun c hc => Text.isWordCharacter_of_ascii (hchars c hc)⟩

theorem insertFields_eq (e : Entity) :
    e.table.insertFields = (RelationalMapping.stored e.fields).map fun f => e.table.insertField f.name := by
  unfold Table.insertFields RelationalMapping.stored Entity.fields
  rw [List.filter_map, List.map_map]
  rfl

theorem exists_ownTableName (h : e.simpleName ≠ "") : ∃ name, e.ownTableName = .ok name := by
  unfold Entity.ownTableName
  cases e.tableName with
  | some name => exact ⟨name, rfl⟩
  | none => exact ⟨Text.underscore e.simpleName, if_neg (by simpa using h)⟩

theorem Entity.Insertable.shown_insert (h : e.Insertable types) {rows : List Instance} (hrows : rows ≠ [])
    (hinstances : ∀ i ∈ rows, e.HasInstance (fun _ => False) i) :
    Naming.Yields (Names.Faithful (· = e)) (e.table.insert e.table.insertFields (.rows rows)).shown
      ⟨e.columnLabels, rows.map e.columnCells⟩ := by
  obtain ⟨table, htable⟩ := exists_ownTableName h.named
  have hown : ∀ f ∈ e.table.insertFields, f.column.table.entity = e := by
    rw [insertFields_eq]
    exact List.forall_mem_map.mpr fun _ _ => rfl
  have hwrite := Table.yields_insert (unconfused_single e) rfl h.typed htable hown hrows
  have hlabels : e.table.insertFields.map (·.column.ownName) = e.columnLabels := by
    rw [insertFields_eq, List.map_map]
    rfl
  have hwords : ∀ f ∈ e.table.insertFields, IsWord f.property := by
    rw [insertFields_eq]
    exact List.forall_mem_map.mpr fun f hf => h.isWord (mem_stored.mp hf).1
  have hvalues : ∀ i ∈ rows,
      List.Forall₂ (fun f v => e.storedValue? i f.property = some v) e.table.insertFields (e.columnCells i) := by
    intro i hi
    obtain ⟨content, rfl, hholds⟩ := hinstances i hi
    rw [insertFields_eq, Entity.columnCells, List.forall₂_map_left_iff, List.forall₂_map_right_iff,
      List.forall₂_same]
    intro f hf
    have hread := h.storedValue?_record hholds hf
    change e.storedValue? (e.record content) f.name = some ((e.storedValue? (e.record content) f.name).getD .null)
    rw [hread, Option.getD_some]
  obtain ⟨sql, hbind⟩ := bind_inserted e (h.table table htable) h.columns
    hwords hvalues
  have hwidth : 0 < e.columnLabels.length := by
    rw [Entity.columnLabels, List.length_map]
    exact List.length_pos_iff.mpr h.stored
  have hcut : cutRows e.columnLabels.length (rows.flatMap e.columnCells) = rows.map e.columnCells := by
    rw [List.flatMap_def]
    refine cutRows_flatten hwidth (List.forall_mem_map.mpr fun i _ => ?_)
    simp [Entity.columnCells, Entity.columnLabels]
  refine Naming.yields_bind hwrite ?_
  refine Naming.yields_bind (a := Fragment.mk sql (rows.flatMap e.columnCells)) ?_ ?_
  · rw [hlabels]
    change Naming.Yields _ (ExceptT.mk (pure (InsertStatement.bind _ e))) _
    rw [hbind]
    exact Naming.yields_pure _
  · refine Naming.yields_bind (Naming.yields_mapM fun f hf =>
      Naming.yields_column (unconfused_single e) (hown f hf)) ?_
    change Naming.Yields _ (pure (ResultTable.mk (e.table.insertFields.map (·.column.ownName))
      (cutRows (e.table.insertFields.map (·.column.ownName)).length _))) _
    rw [hlabels, hcut]
    exact Naming.yields_pure _

theorem Entity.Insertable.map_inserted (h : e.Insertable types) {rows : List Instance} (hrows : rows ≠ [])
    (hinstances : ∀ i ∈ rows, e.HasInstance (fun _ => False) i) {names : Names}
    (hnames : names.Faithful (· = e)) :
    ∃ t names', (e.table.insert e.table.insertFields (.rows rows)).shown names = (.ok t, names')
      ∧ ∀ memory : Memory, memory.Knows .standard e → ∀ origin : Origin, origin.Plain →
        (mapResult .standard e origin t memory).1 = .ok rows := by
  obtain ⟨names', hshown, -⟩ := h.shown_insert hrows hinstances names hnames
  refine ⟨_, names', hshown, fun memory hmemory origin horigin => ?_⟩
  obtain ⟨memory', hresult, -⟩ := mapResult_plain h.shape hmemory horigin
    ⟨e.columnLabels, rows.map e.columnCells⟩
  rw [hresult]
  exact mapM_ok fun i hi => h.mapRow_plain (hinstances i hi)

def depot : Entity := Entity.ofFields "app::Depot" "Depot" none
  [{ name := "id", label := "i64", holds := .column (.required (.element .int64)) },
    { name := "openSince", label := "Option<String>", holds := .column (.nullable (.element .text))
      mutable := true },
    { name := "zone", label := "Option<Zone>", holds := .joined "app::Zone", transient := true }]

def depotTypes : TypeNames := ⟨[], ("app::" ++ ·)⟩

def depotOf (id : Int64) (openSince : Option String) : Instance :=
  depot.record fun f =>
    if f.name = "id" then .value (.int id)
    else if f.name = "openSince" then .value (FieldType.encode (.nullable (.element .text)) openSince)
    else .joined none

theorem depot_insertable : depot.Insertable depotTypes where
  toIsRecord := by
    have hascii : ∀ f ∈ depot.fields, Text.IsAscii f.slotName := by decide +kernel
    exact isRecord_ofFields ⟨⟨by decide +kernel, by decide +kernel⟩, ⟨hascii, by decide +kernel⟩⟩
  typed := by decide
  named := by decide
  stored := by decide
  words := by
    have hwords : ∀ f ∈ depot.fields, f.name ≠ ""
        ∧ f.name.toList.all (fun c => c.isAlphanum || c == '_') = true := by decide +kernel
    intro f hf
    refine ⟨(hwords f hf).1, fun c hc => ?_⟩
    simpa using List.all_eq_true.mp (hwords f hf).2 c hc
  table := by
    intro name hname
    cases hname
    decide +kernel
  columns := by decide +kernel

theorem depot_hasInstance (id : Int64) (openSince : Option String) :
    depot.HasInstance (fun _ => False) (depotOf id openSince) := by
  refine ⟨_, rfl, ?_, ?_⟩
  · refine List.forall_mem_cons.mpr ⟨⟨.required (.element .int64), id, rfl, rfl⟩, ?_⟩
    refine List.forall_mem_cons.mpr ⟨⟨.nullable (.element .text), openSince, rfl, rfl⟩, ?_⟩
    exact fun f hf => absurd hf List.not_mem_nil
  · refine List.forall_mem_cons.mpr ⟨fun h => (nomatch h), ?_⟩
    refine List.forall_mem_cons.mpr ⟨fun h => (nomatch h), ?_⟩
    refine List.forall_mem_cons.mpr ⟨fun _ _ => rfl, ?_⟩
    exact fun f hf => absurd hf List.not_mem_nil

theorem Entity.Insertable.map_inserted_depots :
    ∃ t names', (depot.table.insert depot.table.insertFields
        (.rows [depotOf 1 none, depotOf 2 (some "1978")])).shown {} = (.ok t, names')
      ∧ (mapResult .standard depot (.query depot.table.selectAll) t {}).1
        = .ok [depotOf 1 none, depotOf 2 (some "1978")] := by
  have hinstances : ∀ i ∈ [depotOf 1 none, depotOf 2 (some "1978")],
      depot.HasInstance (fun _ => False) i := by
    simp [depot_hasInstance]
  obtain ⟨t, names', hshown, hmap⟩ :=
    depot_insertable.map_inserted (by simp) hinstances (Names.faithful_empty _)
  exact ⟨t, names', hshown, hmap {} (Memory.knows_empty _ _) _ rfl⟩

end RelationalMapping
