import RelationalMapping.Proofs.Sql.Gathering
import RelationalMapping.Proofs.Sql.Written

namespace RelationalMapping

def IntoField.returnedTexts (into : IntoField) (table : String) : List String :=
  ["NULL AS " ++ Text.quoteIdentifier (into.ownLabel .start), Text.quoteIdentifier table ++ ".*",
    "NULL AS " ++ Text.quoteIdentifier (into.ownLabel .stop)]

theorem sql_of_ownWritten_marker {edge : Edge} {into : IntoField} {f : Fragment}
    (h : ownWritten [.marker edge into] = .ok f) :
    f.sql = "NULL AS " ++ Text.quoteIdentifier (into.ownLabel edge) := by
  cases h
  rfl

theorem exists_of_ownWritten_columns {e : Entity} {f : Fragment}
    (h : ownWritten [.tableName e, .text ".*"] = .ok f) :
    ∃ table, e.ownTableName = .ok table ∧ f.sql = Text.quoteIdentifier table ++ ".*" := by
  rcases htable : e.ownTableName with fault | table
  · simp [ownWritten, writtenBy, Piece.ownChunk, htable] at h
  · simp [ownWritten, writtenBy, Piece.ownChunk, htable] at h
    cases h
    exact ⟨table, rfl, rfl⟩

theorem exists_returnedTexts {into : List IntoField} {fragments : List Fragment}
    (h : List.Forall₂ (fun pieces f => ownWritten pieces = .ok f) (into.flatMap (·.returningPieces)) fragments) :
    ∃ tables, List.Forall₂ (fun (i : IntoField) table => i.target.ownTableName = .ok table) into tables
      ∧ fragments.map (·.sql) = (List.zipWith IntoField.returnedTexts into tables).flatten := by
  induction into generalizing fragments with
  | nil =>
    cases h
    exact ⟨[], .nil, rfl⟩
  | cons i rest ih =>
    simp only [List.flatMap_cons, IntoField.returningPieces, List.cons_append, List.nil_append,
      List.forall₂_cons_left_iff] at h
    obtain ⟨start, _, hstart, ⟨columns, _, hcolumns, ⟨stop, others, hstop, hothers, rfl⟩, rfl⟩, rfl⟩ := h
    obtain ⟨table, htable, hsql⟩ := exists_of_ownWritten_columns hcolumns
    obtain ⟨tables, htables, hrest⟩ := ih hothers
    refine ⟨table :: tables, .cons htable htables, ?_⟩
    rw [List.map_cons, List.map_cons, List.map_cons, hrest, sql_of_ownWritten_marker hstart, hsql,
      sql_of_ownWritten_marker hstop]
    rfl

def Update.parts (u : Update) : List Piece :=
  u.assignments.flatMap (fun a => a.expr.pieces ++ [Piece.columnName a.column]) ++ u.table.pieces
    ++ (u.source.pieces ++ conditionPieces u.condition ++ returningPieces u.returningColumns)

theorem length_projectionPieces (projections : List Projection) :
    (projectionPieces projections).length = projections.length := by
  induction projections with
  | nil => rfl
  | cons p rest ih => rw [projectionPieces, List.length_cons, List.length_cons, ih]

def Update.ReturnsTexts (u : Update) (projections : List Projection) (sql : String) : Prop :=
  ∃ head shown tables, shown.length = projections.length
    ∧ List.Forall₂ (fun (i : IntoField) table => i.target.ownTableName = .ok table) u.into tables
    ∧ sql = head ++ (" RETURNING "
        ++ ", ".intercalate (shown ++ (List.zipWith IntoField.returnedTexts u.into tables).flatten))

theorem Update.returnsTexts_of_ownWritten {u : Update} {projections : List Projection}
    (hreturning : u.returning = some projections) {f : Fragment}
    (h : ownWritten (returningPieces u.returningColumns) = .ok f) (head : String) :
    u.ReturnsTexts projections (head ++ f.sql) := by
  rw [returningColumns, hreturning, Option.map_some, returningPieces, Option.map_some, clause, ownWritten,
    writtenBy_text_cons ownChunk_text, listed, writtenBy_separated ownChunk_text, bind_assoc] at h
  obtain ⟨fragments, hfragments, hf⟩ := bind_eq_ok_iff.mp h
  cases hf
  rw [List.mapM_append] at hfragments
  obtain ⟨own, hown, hrest⟩ := bind_eq_ok_iff.mp hfragments
  obtain ⟨joined, hjoined, hboth⟩ := bind_eq_ok_iff.mp hrest
  cases hboth
  obtain ⟨tables, htables, htexts⟩ := exists_returnedTexts (mapM_eq_ok_iff.mp hjoined)
  refine ⟨head, own.map (·.sql), tables, ?_, htables, ?_⟩
  · rw [List.length_map, ← (mapM_eq_ok_iff.mp hown).length_eq, length_projectionPieces]
  · rw [← htexts, ← List.map_append]
    rfl

theorem Update.write_eq {u : Update} (h : u.assignments.isEmpty = false) : u.write = do
    let assignments ← u.assignments.mapM (·.chunks)
    let table ← resolve u.table.pieces
    let rest ← written (u.source.pieces ++ conditionPieces u.condition)
    let returned ← written (returningPieces u.returningColumns)
    return ((Fragment.ofChunks
      (.text "UPDATE " :: table ++ .text " SET " :: separated (.text ", ") assignments)).push rest).push returned := by
  simp only [Update.write, Update.chunks, h, Bool.false_eq_true, if_false, resolve, List.mapM_append, written,
    writtenBy, bind_assoc, pure_bind, Fragment.ofChunks_append, Fragment.push_assoc]

variable {among : Entity → Prop}

theorem Assignment.keeps_chunks (hamong : Unconfused among) {a : Assignment}
    (h : ∀ p ∈ a.expr.pieces ++ [Piece.columnName a.column], p.Within among) :
    Naming.Keeps (Names.Faithful among) (fun _ => True) a.chunks := by
  refine Naming.keeps_bind (keeps_resolve hamong fun p hp => h p (List.mem_append_left _ hp)) fun value _ => ?_
  refine Naming.keeps_bind (keeps_resolve hamong fun p hp => h p (List.mem_append_right _ hp)) fun column _ => ?_
  exact Naming.keeps_pure trivial

theorem Update.write_returning (hamong : Unconfused among) {u : Update} (hparts : ∀ p ∈ u.parts, p.Within among)
    {projections : List Projection} (hreturning : u.returning = some projections) :
    Naming.Keeps (Names.Faithful among) (fun f => u.ReturnsTexts projections f.sql) u.write := by
  cases hassignments : u.assignments.isEmpty with
  | true =>
    rw [Update.write, Update.chunks, hassignments]
    exact Naming.keeps_throw _ _
  | false =>
    rw [Update.write_eq hassignments]
    simp only [Update.parts, List.mem_append, List.mem_flatMap] at hparts
    refine Naming.keeps_bind (Naming.keeps_mapM fun a ha => a.keeps_chunks hamong fun p hp => ?_) ?_
    · exact hparts p (.inl (.inl ⟨a, ha, List.mem_append.mp hp⟩))
    intro assignments _
    refine Naming.keeps_bind (keeps_resolve hamong fun p hp => hparts p (.inl (.inr hp))) fun table _ => ?_
    refine Naming.keeps_bind (keeps_written hamong fun p hp => ?_) fun rest _ => ?_
    · exact hparts p (.inr (.inl (List.mem_append.mp hp)))
    refine Naming.keeps_bind (keeps_written hamong fun p hp => hparts p (.inr (.inr hp))) fun returned hreturned => ?_
    exact Naming.keeps_pure (u.returnsTexts_of_ownWritten hreturning hreturned _)

end RelationalMapping
