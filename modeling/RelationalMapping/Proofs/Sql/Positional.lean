import RelationalMapping.Proofs.Sql.Composed
import RelationalMapping.Proofs.Sql.Lacking
import RelationalMapping.Proofs.Sql.Parameters
import RelationalMapping.Query.Select

namespace RelationalMapping

inductive Writable where
  | expr (e : Expr)
  | query (q : Query)
  | update (u : Update)
  | delete (d : Delete)
  | insert (i : Insert)

def UpdateSource.parameters : UpdateSource → List Value
  | .query q _ | .unnamed q => q.parameters
  | .none | .tables _ | .aliased _ => []

def returningParameters (columns : Option (List Projection)) : List Value :=
  columns.elim [] projectionParameters

def InsertSource.parameters : InsertSource → List Value
  | .rows _ => []
  | .select q => q.parameters

def InsertSource.strings (fields : List InsertField) : InsertSource → List String
  | .rows _ => fields.map (·.property)
  | .select q => q.pieces.flatMap Piece.strings

namespace Writable

/-- The values that are bound, in the order of the tree. An insert binds the values of its rows later. -/
def parameters : Writable → List Value
  | .expr e => e.parameters
  | .query q => q.parameters
  | .update u => u.assignments.flatMap (·.expr.parameters) ++ u.source.parameters
      ++ optionalParameters u.condition ++ returningParameters u.returning
  | .delete d => optionalParameters d.condition
  | .insert i => i.source.parameters ++ returningParameters i.returning

/-- The strings of the tree that go into the text. -/
def strings : Writable → List String
  | .expr e => e.pieces.flatMap Piece.strings
  | .query q => q.pieces.flatMap Piece.strings
  | .update u => u.assignments.flatMap (fun a => a.column.givenName :: a.expr.pieces.flatMap Piece.strings)
      ++ (u.table.pieces ++ u.source.pieces ++ conditionPieces u.condition
        ++ returningPieces u.returningColumns).flatMap Piece.strings
  | .delete d => d.pieces.flatMap Piece.strings
  | .insert i => i.source.strings i.fields
      ++ (i.table.pieces ++ columnNames (i.fields.map (·.column)) ++ i.tailPieces).flatMap Piece.strings

def chunks : Writable → Naming (List Chunk)
  | .expr e => e.chunks
  | .query q => q.chunks
  | .update u => u.chunks
  | .delete d => d.chunks
  | .insert i => do i.chunks (← Naming.table i.table.entity)

def write : Writable → Naming Fragment
  | .expr e => e.write
  | .query q => q.write
  | .update u => u.write
  | .delete d => d.write
  | .insert i => do
    let s ← i.write
    return ⟨s.sql, s.values⟩

def compose : Writable → Naming Fragment
  | .expr e => e.compose
  | .query q => q.compose
  | .update u => u.compose
  | .delete d => d.compose
  | .insert i => do
    let s ← i.compose
    return ⟨s.sql, s.values⟩

theorem write_eq_compose (w : Writable) : w.write = w.compose := by
  cases w with
  | expr e => exact e.write_eq_compose
  | query q => exact q.write_eq_compose
  | update u => exact u.write_eq_compose
  | delete d => exact d.write_eq_compose
  | insert i => rw [write, i.write_eq_compose, compose]

theorem chunks_of_write {w : Writable} {names names' : Names} {f : Fragment}
    (h : w.write names = (.ok f, names')) :
    ∃ chunks, w.chunks names = (.ok chunks, names') ∧ f = .ofChunks chunks := by
  cases w with
  | insert i =>
    obtain ⟨s, _, hs, hf⟩ := Naming.bind_eq_ok.mp h
    obtain ⟨table, between, htable, hs⟩ := Naming.bind_eq_ok.mp hs
    obtain ⟨chunks, _, hchunks, hs⟩ := Naming.bind_eq_ok.mp hs
    cases hs
    cases hf
    exact ⟨chunks, Naming.bind_eq_ok.mpr ⟨table, between, htable, hchunks⟩, rfl⟩
  | _ =>
    obtain ⟨chunks, _, hchunks, hf⟩ := Naming.bind_eq_ok.mp h
    cases hf
    exact ⟨chunks, hchunks, rfl⟩

end Writable

theorem Piece.values_of_resolve {p : Piece} {names names' : Names} {c : Chunk}
    (h : p.resolve names = (.ok c, names')) : c.values = p.values := by
  cases p with
  | tableName e =>
    obtain ⟨_, _, _, hc⟩ := Naming.bind_eq_ok.mp h
    cases hc
    rfl
  | failure fault => cases h
  | _ =>
    cases h
    rfl

def Bind (values : List Value) (chunks : List Chunk) : Prop := chunks.flatMap Chunk.values = values

abbrev Binds (values : List Value) (x : Naming (List Chunk)) : Prop :=
  Naming.Keeps (fun _ => True) (Bind values) x

theorem binds_resolve (pieces : List Piece) : Binds (pieces.flatMap Piece.values) (resolve pieces) := by
  induction pieces with
  | nil => exact Naming.keeps_pure rfl
  | cons p rest ih =>
    rw [resolve_cons]
    have hp : Naming.Keeps (fun _ => True) (fun c => c.values = p.values) p.resolve :=
      fun _ _ _ _ h => ⟨Piece.values_of_resolve h, trivial⟩
    refine Naming.keeps_bind hp fun c hc => ?_
    refine Naming.keeps_bind ih fun chunks hchunks => ?_
    exact Naming.keeps_pure (by simp [Bind, hc, hchunks.symm])

theorem values_condition (condition : Option Expr) :
    (conditionPieces condition).flatMap Piece.values = optionalParameters condition := by
  simp [conditionPieces, values_optionalPieces]

theorem values_returning (columns : Option (List (List Piece))) :
    (returningPieces columns).flatMap Piece.values = (columns.getD []).flatMap (·.flatMap Piece.values) := by
  cases columns <;> simp [returningPieces]

theorem UpdateSource.values_pieces (source : UpdateSource) :
    source.pieces.flatMap Piece.values = source.parameters := by
  cases source <;>
    simp [UpdateSource.pieces, UpdateSource.parameters, Piece.values, List.flatMap_map,
      Query.values_pieces]

theorem Update.values_returningColumns (u : Update) :
    (u.returningColumns.getD []).flatMap (·.flatMap Piece.values) = returningParameters u.returning := by
  cases h : u.returning <;>
    simp [Update.returningColumns, returningParameters, h, values_projectionPieces,
      List.flatMap_assoc, IntoField.returningPieces, Piece.values]

theorem InsertSource.values_pieces (table : String) (fields : List InsertField) (source : InsertSource) :
    (source.pieces table fields).flatMap Piece.values = source.parameters := by
  cases source with
  | rows items =>
    cases items <;> simp [InsertSource.pieces, InsertSource.parameters, Piece.values]
  | select q =>
    simp [InsertSource.pieces, InsertSource.parameters, Piece.values, q.values_pieces]

theorem Conflict.values_pieces (c : Conflict) : c.pieces.flatMap Piece.values = [] := by
  have htargets : (if c.targets.isEmpty then []
      else enclosed (columnNames c.targets) ++ [Piece.text " "]).flatMap Piece.values = [] := by
    split <;> simp [Piece.values]
  have haction : c.action.pieces.flatMap Piece.values = [] := by
    rcases c.action with _ | _ | _ <;>
      simp [ConflictAction.pieces, Piece.values, List.flatMap_map]
  simp only [Conflict.pieces, List.cons_append, List.flatMap_cons, List.flatMap_append, htargets, haction]
  rfl

theorem Insert.values_tailPieces (i : Insert) : i.tailPieces.flatMap Piece.values = returningParameters i.returning := by
  have hreturning : (returningPieces (i.returning.map projectionPieces)).flatMap Piece.values
      = returningParameters i.returning := by
    cases i.returning <;>
      simp [values_returning, returningParameters, values_projectionPieces]
  rw [Insert.tailPieces, List.flatMap_append, hreturning]
  split <;> simp [Conflict.values_pieces]

theorem Assignment.binds_chunks (a : Assignment) : Binds a.expr.parameters a.chunks := by
  rw [Assignment.chunks, Expr.chunks, ← a.expr.values_pieces]
  refine Naming.keeps_bind (binds_resolve a.expr.pieces) fun value hvalue => ?_
  refine Naming.keeps_bind (binds_resolve [.columnName a.column]) fun column hcolumn => ?_
  refine Naming.keeps_pure ?_
  rw [Bind] at hvalue hcolumn ⊢
  simp [hvalue, hcolumn, Chunk.values, Piece.values]

theorem bind_assignments {assignments : List Assignment} {chunks : List (List Chunk)}
    (h : List.Forall₂ (fun a => Bind a.expr.parameters) assignments chunks) :
    Bind (assignments.flatMap (·.expr.parameters)) (separated (.text ", ") chunks) := by
  rw [Bind, flatMap_separated rfl]
  induction h with
  | nil => rfl
  | cons ha _ ih => simp [ha.symm, ih]

theorem Update.binds_chunks (u : Update) : Binds (Writable.update u).parameters u.chunks := by
  rw [Update.chunks]
  split
  · exact Naming.keeps_bind (Naming.keeps_throw (fun _ => False) _) fun _ h => h.elim
  · refine Naming.keeps_bind (Naming.keeps_mapM fun a _ => a.binds_chunks) fun assignments ha => ?_
    refine Naming.keeps_bind (binds_resolve u.table.pieces) fun table ht => ?_
    refine Naming.keeps_bind (binds_resolve _) fun rest hrest => ?_
    refine Naming.keeps_pure ?_
    have ha := bind_assignments ha
    rw [Bind] at ha ht hrest ⊢
    simp [ha, ht, hrest, Chunk.values, Writable.parameters, u.source.values_pieces,
      values_condition, values_returning, u.values_returningColumns]

theorem Insert.binds_chunks (i : Insert) (table : String) :
    Binds (Writable.insert i).parameters (i.chunks table) := by
  rw [Insert.chunks]
  refine Naming.keeps_bind (binds_resolve _) fun columns hcolumns => ?_
  refine Naming.keeps_bind (binds_resolve _) fun source hsource => ?_
  refine Naming.keeps_bind (binds_resolve _) fun target htarget => ?_
  refine Naming.keeps_bind (binds_resolve _) fun tail htail => ?_
  refine Naming.keeps_pure ?_
  rw [Bind] at hcolumns hsource htarget htail ⊢
  simp [hcolumns, hsource, htarget, htail, Chunk.values, Writable.parameters,
    i.source.values_pieces, i.values_tailPieces]

theorem Writable.binds_chunks (w : Writable) : Binds w.parameters w.chunks := by
  cases w with
  | expr e =>
    rw [parameters, ← e.values_pieces]
    exact binds_resolve e.pieces
  | query q =>
    rw [parameters, ← q.values_pieces]
    exact binds_resolve q.pieces
  | update u => exact u.binds_chunks
  | delete d =>
    have hd : d.pieces.flatMap Piece.values = optionalParameters d.condition := by
      simp [Delete.pieces, values_condition, Piece.values]
    rw [parameters, ← hd]
    exact binds_resolve d.pieces
  | insert i =>
    have htable : Naming.Keeps (fun _ => True) (fun _ => True) (Naming.table i.table.entity) :=
      fun _ _ _ _ _ => ⟨trivial, trivial⟩
    exact Naming.keeps_bind htable fun table _ => i.binds_chunks table

theorem Writable.values_of_write {w : Writable} {names : Names} {f : Fragment}
    (h : (w.write names).1 = .ok f) : f.values = w.parameters := by
  have hw : w.write names = (.ok f, (w.write names).2) := Prod.ext h rfl
  obtain ⟨chunks, hchunks, rfl⟩ := chunks_of_write hw
  exact (w.binds_chunks names chunks _ trivial hchunks).1

variable {d : Char}

abbrev Spares (d : Char) (x : Naming (List Chunk)) : Prop :=
  Naming.Keeps (Names.Lacks d) (∀ c ∈ ·, Chunk.Lacks d c) x

theorem spares_resolve (hd : Foreign d) {pieces : List Piece} (hpieces : Worded pieces)
    (h : ∀ s ∈ pieces.flatMap Piece.strings, Absent d s) : Spares d (resolve pieces) := by
  refine keeps_resolve_lacks hd fun p hp => Piece.lacks_of_worded hd (hpieces p hp) fun s hs => ?_
  exact h s (List.mem_flatMap.mpr ⟨p, hp, hs⟩)

theorem Assignment.spares_chunks (hd : Foreign d) {a : Assignment}
    (h : ∀ s ∈ a.column.givenName :: a.expr.pieces.flatMap Piece.strings, Absent d s) :
    Spares d a.chunks := by
  simp only [List.mem_cons, forall_eq_or_imp] at h
  have hcolumn : Worded [.columnName a.column] := by simp [Piece.IsWorded]
  refine Naming.keeps_bind (spares_resolve hd a.expr.pieces_whole.worded h.2) fun value hvalue => ?_
  refine Naming.keeps_bind (spares_resolve hd hcolumn (by simpa [Piece.strings] using h.1)) ?_
  intro column hc
  have hequals : (Chunk.text " = ").Lacks d := absent_of_wording hd.wording rfl
  refine Naming.keeps_pure fun c hmem => ?_
  rcases List.mem_append.mp hmem with hmem | hmem
  · exact hc c hmem
  · rcases List.mem_cons.mp hmem with rfl | hmem
    · exact hequals
    · exact hvalue c hmem

theorem spares_assignments (hd : Foreign d) {assignments : List Assignment}
    {chunks : List (List Chunk)}
    (h : List.Forall₂ (fun _ => (∀ c ∈ ·, Chunk.Lacks d c)) assignments chunks) :
    ∀ c ∈ separated (.text ", ") chunks, Chunk.Lacks d c := by
  have hall : ∀ part ∈ chunks, ∀ c ∈ part, Chunk.Lacks d c := by
    induction h with
    | nil => simp
    | cons ha _ ih => exact List.forall_mem_cons.mpr ⟨ha, ih⟩
  intro c hc
  rcases mem_of_mem_separated hc with rfl | ⟨part, hpart, hc⟩
  · exact absent_of_wording hd.wording (s := ", ") rfl
  · exact hall part hpart c hc

theorem Update.spares_chunks (hd : Foreign d) {u : Update}
    (h : ∀ s ∈ (Writable.update u).strings, Absent d s) : Spares d u.chunks := by
  simp only [Writable.strings, List.mem_append, or_imp, forall_and, List.flatMap_append] at h
  obtain ⟨hsets, ⟨⟨htable, hsource⟩, hcondition⟩, hreturning⟩ := h
  have hassignments : ∀ a ∈ u.assignments, Spares d a.chunks := fun a ha =>
    Assignment.spares_chunks hd fun s hs => hsets s (List.mem_flatMap.mpr ⟨a, ha, hs⟩)
  have hrest : Worded (u.source.pieces ++ conditionPieces u.condition
      ++ returningPieces u.returningColumns) := by
    simp only [worded_append]
    exact ⟨⟨u.source.pieces_whole.worded, (whole_condition u.condition).worded⟩,
      (whole_returning u.returningColumns_whole).worded⟩
  have hupdate : (Chunk.text "UPDATE ").Lacks d := absent_of_wording hd.wording rfl
  have hset : (Chunk.text " SET ").Lacks d := absent_of_wording hd.wording rfl
  rw [Update.chunks]
  split
  · exact Naming.keeps_bind (Naming.keeps_throw (fun _ => False) _) fun _ h => h.elim
  · refine Naming.keeps_bind (Naming.keeps_mapM hassignments) fun assignments ha => ?_
    refine Naming.keeps_bind (spares_resolve hd (whole_table u.table).worded htable) fun table ht => ?_
    refine Naming.keeps_bind (spares_resolve hd hrest ?_) fun rest hr => ?_
    · simp only [List.flatMap_append, List.mem_append, or_imp, forall_and]
      exact ⟨⟨hsource, hcondition⟩, hreturning⟩
    refine Naming.keeps_pure ?_
    simp only [List.cons_append, List.append_assoc, List.forall_mem_cons, List.forall_mem_append]
    exact ⟨hupdate, ht, hset, spares_assignments hd ha, hr⟩

theorem absent_toString (hd : Foreign d) (n : Nat) : Absent d (toString n) :=
  absent_of_wording hd.wording (isWording_toString n)

theorem absent_slotText (hd : Foreign d) (hslot : d ≠ '#') {table : String} (ht : Absent d table)
    (row : Nat) {property : String} (hp : Absent d property) :
    Absent d (slotText table row property) := by
  have hstart : Absent d "#" := by simpa [Absent] using hslot
  have hdot : Absent d "." := absent_of_wording hd.wording rfl
  simp only [slotText, absent_append]
  exact ⟨⟨⟨⟨hstart, ht⟩, absent_toString hd row⟩, hdot⟩, hp⟩

theorem absent_slotRow (hd : Foreign d) (hslot : d ≠ '#') {table : String} (ht : Absent d table)
    {fields : List InsertField} (hf : ∀ f ∈ fields, Absent d f.property) (row : Nat) :
    Absent d (slotRow table fields row) := by
  have hopen : Absent d "(" := absent_of_wording hd.wording rfl
  have hclose : Absent d ")" := absent_of_wording hd.wording rfl
  have hslots : Absent d (", ".intercalate (fields.map fun f => slotText table row f.property)) := by
    refine absent_intercalate (absent_of_wording hd.wording rfl) fun s hs => ?_
    obtain ⟨f, hmem, rfl⟩ := List.mem_map.mp hs
    exact absent_slotText hd hslot ht row (hf f hmem)
  simp only [slotRow, absent_append]
  exact ⟨⟨hopen, hslots⟩, hclose⟩

theorem InsertSource.spares_pieces (hd : Foreign d) (hslot : d ≠ '#') {table : String}
    (ht : Absent d table) {fields : List InsertField} {source : InsertSource}
    (h : ∀ s ∈ source.strings fields, Absent d s) :
    Spares d (resolve (source.pieces table fields)) := by
  cases source with
  | rows items =>
    cases items with
    | nil => exact Naming.keeps_throw _ _
    | cons row rest =>
      have hvalues : Absent d (" VALUES " ++ ", ".intercalate
          ((List.range (row :: rest).length).map (slotRow table fields))) := by
        refine absent_append.mpr ⟨absent_of_wording hd.wording rfl, ?_⟩
        refine absent_intercalate (absent_of_wording hd.wording rfl) fun s hs => ?_
        obtain ⟨n, -, rfl⟩ := List.mem_map.mp hs
        exact absent_slotRow hd hslot ht (by simpa [InsertSource.strings] using h) n
      exact keeps_resolve_lacks hd (by simpa [InsertSource.pieces, Piece.Lacks] using hvalues)
  | select q =>
    refine spares_resolve hd ?_ ?_
    · simpa +decide [InsertSource.pieces] using (whole_enclosed q.pieces_whole).worded
    · simpa [InsertSource.pieces, InsertSource.strings, enclosed] using h

theorem Naming.keeps_table (hd : Foreign d) {e : Entity} (he : Absent d e.givenName) :
    Naming.Keeps (Names.Lacks d) (Absent d) (Naming.table e) := by
  intro names name names' hnames h
  exact Names.lacks_table hd.sign hnames he h

theorem Table.givenName_mem_strings (t : Table) :
    t.entity.givenName ∈ t.pieces.flatMap Piece.strings := by
  unfold Table.pieces
  split <;> simp [Piece.strings]

theorem Insert.spares_chunks (hd : Foreign d) (hslot : d ≠ '#') {i : Insert} {table : String}
    (ht : Absent d table) (h : ∀ s ∈ (Writable.insert i).strings, Absent d s) :
    Spares d (i.chunks table) := by
  simp only [Writable.strings, List.mem_append, or_imp, forall_and, List.flatMap_append] at h
  obtain ⟨hsource, ⟨htable, hfields⟩, htail⟩ := h
  have hinsert : (Chunk.text "INSERT INTO ").Lacks d := absent_of_wording hd.wording rfl
  have hopen : (Chunk.text " (").Lacks d := absent_of_wording hd.wording rfl
  have hclose : (Chunk.text ")").Lacks d := absent_of_wording hd.wording rfl
  rw [Insert.chunks]
  refine Naming.keeps_bind (spares_resolve hd (whole_columnNames _).worded hfields) fun columns hc => ?_
  refine Naming.keeps_bind (InsertSource.spares_pieces hd hslot ht hsource) fun source hs => ?_
  refine Naming.keeps_bind (spares_resolve hd (whole_table _).worded htable) fun target htarget => ?_
  refine Naming.keeps_bind (spares_resolve hd i.tailPieces_whole.worded htail) fun tail htail => ?_
  refine Naming.keeps_pure ?_
  simp only [List.cons_append, List.append_assoc, List.forall_mem_cons, List.forall_mem_append]
  exact ⟨hinsert, htarget, hopen, hc, hclose, hs, htail⟩

theorem Writable.spares_chunks (hd : Foreign d) (hslot : d ≠ '#') {w : Writable}
    (h : ∀ s ∈ w.strings, Absent d s) : Spares d w.chunks := by
  cases w with
  | expr e => exact spares_resolve hd e.pieces_whole.worded h
  | query q => exact spares_resolve hd q.pieces_whole.worded h
  | update u => exact Update.spares_chunks hd h
  | delete d => exact spares_resolve hd d.pieces_whole.worded h
  | insert i =>
    have htable : Absent d i.table.entity.givenName := by
      refine h _ (List.mem_append_right _ ?_)
      simp only [List.flatMap_append, List.mem_append]
      exact .inl (.inl i.table.givenName_mem_strings)
    refine Naming.keeps_bind (Naming.keeps_table hd htable) fun table ht => ?_
    exact Insert.spares_chunks hd hslot ht h

theorem count_marks {chunks : List Chunk} (h : ∀ c ∈ chunks, c.Lacks '?') :
    (String.join (chunks.map Chunk.sql)).toList.count '?' = (chunks.flatMap Chunk.values).length := by
  induction chunks with
  | nil => simp
  | cons c rest ih =>
    simp only [List.mem_cons, forall_eq_or_imp] at h
    have hc : c.sql.toList.count '?' = c.values.length := by
      cases c with
      | text s => exact List.count_eq_zero.mpr h.1
      | bound v =>
        change parameterMark.toList.count '?' = 1
        decide
    simp only [List.map_cons, String.join_cons, String.toList_append, List.count_append,
      List.flatMap_cons, List.length_append, hc, ih h.2]

theorem exists_chunk_of_value {chunks : List Chunk} {i : Nat}
    (hi : i < (chunks.flatMap Chunk.values).length) :
    ∃ before after, chunks = before ++ Chunk.bound (chunks.flatMap Chunk.values)[i] :: after
      ∧ (before.flatMap Chunk.values).length = i := by
  induction chunks generalizing i with
  | nil => simp at hi
  | cons c rest ih =>
    cases c with
    | text s =>
      obtain ⟨before, after, hrest, hlength⟩ := ih (i := i) (by simpa [Chunk.values] using hi)
      refine ⟨.text s :: before, after, ?_, by simpa [Chunk.values] using hlength⟩
      simpa [Chunk.values] using hrest
    | bound v =>
      cases i with
      | zero => exact ⟨[], rest, by simp [Chunk.values], rfl⟩
      | succ i =>
        obtain ⟨before, after, hrest, hlength⟩ := ih (i := i) (by simpa [Chunk.values] using hi)
        refine ⟨.bound v :: before, after, ?_, by simpa [Chunk.values] using hlength⟩
        simpa [Chunk.values] using hrest

theorem Writable.write_positional (w : Writable) {names names' : Names} {f : Fragment}
    (h : w.write names = (.ok f, names')) :
    f.values = w.parameters ∧ ∃ chunks, w.chunks names = (.ok chunks, names')
      ∧ f.sql = String.join (chunks.map Chunk.sql) ∧ f.values = chunks.flatMap Chunk.values
      ∧ ((∀ s ∈ w.strings, '?' ∉ s.toList) → names.Lacks '?' →
        names'.Lacks '?' ∧ f.sql.toList.count '?' = f.values.length
          ∧ ∀ (i : Nat) (hi : i < f.values.length), ∃ before after,
            chunks = before ++ .bound f.values[i] :: after
              ∧ (String.join (before.map Chunk.sql)).toList.count '?' = i) := by
  obtain ⟨chunks, hchunks, rfl⟩ := chunks_of_write h
  obtain ⟨hvalues, -⟩ := w.binds_chunks names chunks names' trivial hchunks
  refine ⟨hvalues, chunks, hchunks, rfl, rfl, fun hstrings hnames => ?_⟩
  obtain ⟨hlacks, hnames'⟩ := Writable.spares_chunks foreign_parameterMark (by decide) hstrings
    names chunks names' hnames hchunks
  refine ⟨hnames', count_marks hlacks, fun i hi => ?_⟩
  obtain ⟨before, after, hsplit, hlength⟩ := exists_chunk_of_value hi
  refine ⟨before, after, hsplit, ?_⟩
  rw [count_marks, hlength]
  intro c hc
  exact hlacks c (hsplit ▸ List.mem_append_left _ hc)

theorem Writable.write_positional_subquery :
    let t := (Entity.ofFields "Item" "Item" none []).table
    let inner := t.selectOne.filter (some (.compare .eq (.column (t.column "name")) (.value (.text "x?"))))
    let w := Writable.expr (.connective .and
      [.exists inner none false, .member (.value .null) [.value (.int 2), .array "int8" []] true])
    let f : Fragment :=
      { sql := "(EXISTS (SELECT ? FROM \"item\" WHERE (\"item\".\"name\" = ?)) AND (NULL NOT IN (?, ?)))"
        values := [.int 1, .text "x?", .int 2, .array "int8" []] }
    (w.write {}).1 = .ok f ∧ f.values = w.parameters ∧ f.sql.toList.count '?' = f.values.length := by
  intro t inner w f
  have hpieces : (Expr.connective .and [.exists inner none false,
      .member (.value .null) [.value (.int 2), .array "int8" []] true]).pieces
      = [.text "(", .text "EXISTS ", .text "(", .text "SELECT ", .bound (.int 1), .text " FROM ",
        .tableName t.entity, .text " WHERE ", .text "(", .tableName t.entity, .text ".",
        .columnName (t.column "name"), .text " = ", .bound (.text "x?"), .text ")", .text ")",
        .text " AND ", .text "(", .text "NULL", .text " NOT IN (", .bound (.int 2), .text ", ",
        .bound (.array "int8" []), .text "))", .text ")"] := by
    simp only [inner, Expr.pieces, exprPieces, Query.filter, t, Table.selectOne, Table.select,
      Query.empty, Query.pieces, projectionPieces, Expr.project, Projection.pieces, aggregatePieces,
      joinedColumns, FromItem.columnPieces, sourcePieces, FromItem.pieces, optionalPieces,
      optionalKeys, optionalOrder, Expr.compare]
    rfl
  have hw : w.write {}
      = (.ok f, { tables := [("Item", "item")], columns := [("Item|name", "name")] }) := by
    simp only [w, write, Expr.write, Expr.chunks, hpieces, t]
    rfl
  have hstrings : ∀ s ∈ w.strings, '?' ∉ s.toList := by
    simp only [w, strings, hpieces, t]
    decide +kernel
  obtain ⟨hvalues, chunks, -, -, -, hmarks⟩ := w.write_positional hw
  exact ⟨congrArg Prod.fst hw, hvalues, (hmarks hstrings Names.lacks_empty).2.1⟩

end RelationalMapping
