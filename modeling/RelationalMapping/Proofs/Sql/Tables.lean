import RelationalMapping.Proofs.Sql.Lacking
import RelationalMapping.Proofs.Sql.Written
import RelationalMapping.Query.Select

namespace RelationalMapping

theorem intercalate_flatten {separator : String} {lists : List (List String)} (h : ∀ texts ∈ lists, texts ≠ []) :
    separator.intercalate lists.flatten = separator.intercalate (lists.map separator.intercalate) := by
  induction lists with
  | nil => rfl
  | cons texts rest ih =>
    simp only [List.mem_cons, forall_eq_or_imp] at h
    cases rest with
    | nil => simp
    | cons others rest =>
      have hflatten : (others :: rest).flatten ≠ [] := by
        rw [List.flatten_cons]
        exact List.append_ne_nil_of_left_ne_nil (h.2 others List.mem_cons_self) _
      rw [List.flatten_cons, String.intercalate_append_of_ne_nil h.1 hflatten, ih h.2]
      exact (String.intercalate_cons_of_ne_nil (List.cons_ne_nil _ _)).symm

def quotedRow (names : List String) : String := " ".intercalate (names.map Text.quoteIdentifier)

theorem quotedRow_cons (name : String) (names : List String) : ∃ rest,
    (quotedRow (name :: names)).toList = '"' :: (name.toList ++ '"' :: rest)
      ∧ (names = [] ∧ rest = [] ∨ names ≠ [] ∧ rest = ' ' :: (quotedRow names).toList) := by
  cases names with
  | nil => exact ⟨[], by simp [quotedRow, Text.toList_quoteIdentifier, Text.identifierQuote], .inl ⟨rfl, rfl⟩⟩
  | cons other names =>
    refine ⟨' ' :: (quotedRow (other :: names)).toList, ?_, .inr ⟨List.cons_ne_nil _ _, rfl⟩⟩
    rw [quotedRow, List.map_cons, String.intercalate_cons_of_ne_nil (by simp), ← quotedRow]
    simp [Text.toList_quoteIdentifier, Text.identifierQuote]

theorem quotedRow_injective {names others : List String} (hnames : ∀ name ∈ names, Absent '"' name)
    (hothers : ∀ name ∈ others, Absent '"' name) (h : quotedRow names = quotedRow others) : names = others := by
  induction names generalizing others with
  | nil =>
    cases others with
    | nil => rfl
    | cons other others =>
      obtain ⟨rest, hrest, -⟩ := quotedRow_cons other others
      rw [← h] at hrest
      cases hrest
  | cons name names ih =>
    obtain ⟨rest, hrest, hafter⟩ := quotedRow_cons name names
    cases others with
    | nil =>
      rw [h] at hrest
      cases hrest
    | cons other others =>
      obtain ⟨rest', hrest', hafter'⟩ := quotedRow_cons other others
      simp only [List.mem_cons, forall_eq_or_imp] at hnames hothers
      rw [h, hrest', List.cons.injEq] at hrest
      obtain ⟨hname, rfl⟩ := eq_of_append_cons_eq hothers.1 hnames.1 hrest.2
      have htail : names = others := by
        rcases hafter with ⟨rfl, rfl⟩ | ⟨-, rfl⟩
        · rcases hafter' with ⟨rfl, -⟩ | ⟨-, hrow⟩
          · rfl
          · cases hrow
        · rcases hafter' with ⟨-, hrow⟩ | ⟨-, hrow⟩
          · cases hrow
          · exact ih hnames.2 hothers.2 (String.toList_inj.mp (List.cons.inj hrow).2)
      rw [String.toList_inj.mp hname, htail]

def Table.names (t : Table) : Except Error (List String) := do return (← t.entity.ownTableName) :: t.alias?.toList

theorem Table.ownWritten_pieces {t : Table} {name : String} (h : t.entity.ownTableName = .ok name) :
    ownWritten t.pieces = .ok ⟨quotedRow (name :: t.alias?.toList), []⟩ := by
  unfold Table.pieces
  split
  · rename_i other halias
    simp [ownWritten, writtenBy, Piece.ownChunk, h, halias, quotedRow, Fragment.ofChunks, Chunk.sql, Chunk.values,
      String.intercalate_cons_cons, String.append_assoc]
  · rename_i halias
    simp [ownWritten, writtenBy, Piece.ownChunk, h, halias, quotedRow, Fragment.ofChunks, Chunk.sql, Chunk.values]

theorem Table.names_of_ownWritten {t : Table} {f : Fragment} (h : ownWritten t.pieces = .ok f) :
    ∃ names, t.names = .ok names ∧ names ≠ [] ∧ f.sql = quotedRow names := by
  rcases hname : t.entity.ownTableName with fault | name
  · unfold Table.pieces at h
    split at h <;> simp [ownWritten, writtenBy, Piece.ownChunk, hname] at h
  · rw [t.ownWritten_pieces hname] at h
    cases h
    exact ⟨name :: t.alias?.toList, by simp [Table.names, hname], List.cons_ne_nil _ _, rfl⟩

theorem Table.length_names {t : Table} {names : List String} (h : t.names = .ok names) :
    names.length = t.alias?.isSome.toNat + 1 := by
  obtain ⟨name, -, hnames⟩ := bind_eq_ok_iff.mp h
  cases hnames
  cases t.alias? <;> rfl

theorem names_of_ownWritten {ts : List Table} {f : Fragment}
    (h : ownWritten (separated (.text " ") (ts.map (·.pieces))) = .ok f) :
    ∃ given, ts.mapM Table.names = .ok given ∧ f.sql = quotedRow given.flatten := by
  rw [ownWritten, writtenBy_separated ownChunk_text] at h
  obtain ⟨fragments, hfragments, hf⟩ := bind_eq_ok_iff.mp h
  cases hf
  obtain ⟨given, hgiven, hnames, hsql⟩ : ∃ given, List.Forall₂ (fun t names => Table.names t = .ok names) ts given
      ∧ (∀ names ∈ given, names ≠ []) ∧ fragments.map (·.sql) = given.map quotedRow := by
    have hparts := mapM_eq_ok_iff.mp hfragments
    clear h hfragments
    induction ts generalizing fragments with
    | nil =>
      cases hparts
      exact ⟨[], .nil, by simp, rfl⟩
    | cons t rest ih =>
      rw [List.map_cons, List.forall₂_cons_left_iff] at hparts
      obtain ⟨f, others, hf, hothers, rfl⟩ := hparts
      obtain ⟨names, hnames, hsome, hsql⟩ := t.names_of_ownWritten hf
      obtain ⟨given, hgiven, hall, hsqls⟩ := ih others hothers
      refine ⟨names :: given, .cons hnames hgiven, List.forall_mem_cons.mpr ⟨hsome, hall⟩, ?_⟩
      rw [List.map_cons, List.map_cons, hsql, hsqls]
  refine ⟨given, mapM_eq_ok_iff.mpr hgiven, ?_⟩
  have hflat : ∀ texts ∈ given.map (·.map Text.quoteIdentifier), texts ≠ [] := by
    simpa using hnames
  rw [Fragment.join, hsql, quotedRow, List.map_flatten, intercalate_flatten hflat, List.map_map]
  rfl

theorem Table.absent_names {d : Char} (hd : Text.IsSign d) {t : Table}
    (h : ∀ s ∈ t.pieces.flatMap Piece.strings, Absent d s) {names : List String} (hnames : t.names = .ok names) :
    ∀ name ∈ names, Absent d name := by
  obtain ⟨own, hown, hrest⟩ := bind_eq_ok_iff.mp hnames
  cases hrest
  have hstrings : Absent d t.entity.givenName ∧ ∀ name ∈ t.alias?, Absent d name := by
    unfold Table.pieces at h
    split at h <;> simp_all [Piece.strings]
  exact List.forall_mem_cons.mpr ⟨t.entity.absent_ownTableName hd hstrings.1 hown, by simpa using hstrings.2⟩

theorem absent_of_names {d : Char} (hd : Text.IsSign d) {ts : List Table}
    (h : ∀ t ∈ ts, ∀ s ∈ t.pieces.flatMap Piece.strings, Absent d s) {given : List (List String)}
    (hgiven : ts.mapM Table.names = .ok given) : ∀ name ∈ given.flatten, Absent d name := by
  intro name hname
  obtain ⟨names, hnames, hname⟩ := List.mem_flatten.mp hname
  obtain ⟨t, ht, hnames⟩ := exists_of_mem_mapM hgiven hnames
  exact t.absent_names hd (h t ht) hnames name hname

theorem map_length_names {ts : List Table} {given : List (List String)} (h : ts.mapM Table.names = .ok given) :
    given.map List.length = (ts.map (·.alias?.isSome)).map (·.toNat + 1) := by
  have hnames := mapM_eq_ok_iff.mp h
  clear h
  induction hnames with
  | nil => rfl
  | cons hfirst _ ih => rw [List.map_cons, ih, Table.length_names hfirst, List.map_cons, List.map_cons]

namespace Query

def onTables (q : Query) (ts : List Table) : Query := { q with sources := ts.map .table }

theorem sourcePieces_tables (ts : List Table) : sourcePieces (ts.map .table) = ts.map (·.pieces) := by
  induction ts with
  | nil => rfl
  | cons t rest ih => rw [List.map_cons, sourcePieces, ih, FromItem.pieces, List.map_cons]

theorem joinedColumns_tables (ts : List Table) : joinedColumns (ts.map .table) = [] := by
  induction ts with
  | nil => rfl
  | cons t rest ih =>
    rw [List.map_cons, joinedColumns, ih]
    simp [FromItem.columnPieces]

def headPieces (q : Query) : List Piece :=
  Piece.text "SELECT " :: distinctPieces q.distinct (optionalKeys q.distinctOn)
    ++ listed (aggregatePieces q.aggregates ++ projectionPieces q.projections) ++ [Piece.text " FROM "]

def tailPieces (q : Query) : List Piece :=
  clause " WHERE " (optionalPieces q.condition)
    ++ clause " GROUP BY " (if q.grouped then some (listed (groupPieces q.projections)) else none)
    ++ orderingPieces q.random (optionalOrder q.order) ++ countPieces " LIMIT " q.limit
    ++ countPieces " OFFSET " q.offset

theorem pieces_onTables (q : Query) (ts : List Table) :
    (q.onTables ts).pieces
      = q.headPieces ++ (separated (.text " ") (ts.map (·.pieces)) ++ q.tailPieces) := by
  obtain ⟨projections, aggregates, sources, condition, order, limit, offset, grouped, distinct, random,
    distinctOn⟩ := q
  rw [onTables, Query.pieces, sourcePieces_tables, joinedColumns_tables, headPieces, tailPieces]
  simp

theorem ownWritten_onTables {q : Query} {ts : List Table} {f : Fragment}
    (h : ownWritten (q.onTables ts).pieces = .ok f) :
    ∃ head tables tail, ownWritten q.headPieces = .ok head
      ∧ ownWritten (separated (.text " ") (ts.map (·.pieces))) = .ok tables
      ∧ ownWritten q.tailPieces = .ok tail ∧ f.sql = head.sql ++ (tables.sql ++ tail.sql) := by
  rw [pieces_onTables, ownWritten, writtenBy_append, writtenBy_append] at h
  obtain ⟨head, hhead, hf⟩ := bind_eq_ok_iff.mp h
  obtain ⟨rest, hrest, hf⟩ := bind_eq_ok_iff.mp hf
  obtain ⟨tables, htables, hrest⟩ := bind_eq_ok_iff.mp hrest
  obtain ⟨tail, htail, hrest⟩ := bind_eq_ok_iff.mp hrest
  cases hrest
  cases hf
  exact ⟨head, tables, tail, hhead, htables, htail, rfl⟩

variable {among : Entity → Prop}

theorem write_onTables (hamong : Unconfused among) {q : Query} {ts us : List Table}
    (hparts : ∀ p ∈ (q.onTables ts).pieces ++ (q.onTables us).pieces, p.Within among)
    (hquotes : ∀ t ∈ ts ++ us, ∀ s ∈ t.pieces.flatMap Piece.strings, Absent '"' s)
    {names names' other other' : Names} (hnames : names.Faithful among) (hother : other.Faithful among)
    {f g : Fragment} (hf : (q.onTables ts).write names = (.ok f, names'))
    (hg : (q.onTables us).write other = (.ok g, other')) :
    ∃ given given', ts.mapM Table.names = .ok given ∧ us.mapM Table.names = .ok given'
      ∧ (f.sql = g.sql ↔ given.flatten = given'.flatten)
      ∧ (ts.map (·.alias?.isSome) = us.map (·.alias?.isSome) → f.sql = g.sql → given = given') := by
  rw [List.forall_mem_append] at hparts hquotes
  have hleft := (keeps_written hamong hparts.1 names f names' hnames hf).1
  have hright := (keeps_written hamong hparts.2 other g other' hother hg).1
  obtain ⟨head, tables, tail, hhead, htables, htail, hsql⟩ := ownWritten_onTables hleft
  obtain ⟨head', tables', tail', hhead', htables', htail', hsql'⟩ := ownWritten_onTables hright
  rw [hhead] at hhead'
  rw [htail] at htail'
  cases hhead'
  cases htail'
  obtain ⟨given, hgiven, hrow⟩ := names_of_ownWritten htables
  obtain ⟨given', hgiven', hrow'⟩ := names_of_ownWritten htables'
  have hiff : f.sql = g.sql ↔ given.flatten = given'.flatten := by
    rw [hsql, hsql', String.append_right_inj, String.append_left_inj, hrow, hrow']
    refine ⟨quotedRow_injective ?_ ?_, congrArg quotedRow⟩
    · exact absent_of_names (by decide) hquotes.1 hgiven
    · exact absent_of_names (by decide) hquotes.2 hgiven'
  refine ⟨given, given', hgiven, hgiven', hiff, fun haliases hwritten => ?_⟩
  refine List.eq_iff_flatten_eq.mpr ⟨hiff.mp hwritten, ?_⟩
  rw [map_length_names hgiven, map_length_names hgiven', haliases]

end Query

def truck : Entity := Entity.ofFields "app::Truck" "Truck" none
  [{ name := "id", label := "i64", holds := .column (.required (.element .int64)) }]

def trailer : Entity := Entity.ofFields "app::Trailer" "Trailer" none
  [{ name := "id", label := "i64", holds := .column (.required (.element .int64)) }]

def lorry : Entity := Entity.ofFields "app::Lorry" "Lorry" (some "truck") []

theorem Query.write_onTables_trucks :
    let q := truck.table.selectAll
    let ts := [truck.table, trailer.aliased "t"]
    let us := [lorry.table, trailer.aliased "t"]
    ∃ f names' other' given, (q.onTables ts).write {} = (.ok f, names') ∧ (q.onTables us).write {} = (.ok f, other')
      ∧ ts.mapM Table.names = .ok given ∧ us.mapM Table.names = .ok given := by
  intro q ts us
  have hdistinct : ∀ e ∈ [truck, trailer, lorry], ∀ d ∈ [truck, trailer, lorry], e.typeName = d.typeName → e = d := by
    decide +kernel
  have hamong : Unconfused (· ∈ [truck, trailer, lorry]) :=
    unconfused_of_distinct (fun e d he hd => hdistinct e he d hd) (by decide +kernel)
  have hparts : ∀ p ∈ (q.onTables ts).pieces ++ (q.onTables us).pieces, p.Within (· ∈ [truck, trailer, lorry]) := by
    decide +kernel
  obtain ⟨given, given', hgiven, hgiven', -, heq⟩ := Query.write_onTables hamong hparts (by decide +kernel)
    (Names.faithful_empty _) (Names.faithful_empty _) rfl rfl
  obtain rfl := heq rfl rfl
  exact ⟨_, _, _, given, rfl, rfl, hgiven, hgiven'⟩

theorem Query.write_onTables_side_by_side :
    let q := truck.table.selectAll
    let ts := [truck.table, trailer.table]
    let us := [truck.aliased "trailer"]
    (∃ names' other',
        (q.onTables ts).write {} = (.ok ⟨"SELECT \"truck\".* FROM \"truck\" \"trailer\"", []⟩, names')
          ∧ (q.onTables us).write {} = (.ok ⟨"SELECT \"truck\".* FROM \"truck\" \"trailer\"", []⟩, other'))
      ∧ (∀ t ∈ ts ++ us, ∀ s ∈ t.pieces.flatMap Piece.strings, Absent '"' s)
      ∧ ts.length ≠ us.length ∧ ts.mapM Table.names = .ok [["truck"], ["trailer"]]
      ∧ us.mapM Table.names = .ok [["truck", "trailer"]] :=
  ⟨⟨_, _, rfl, rfl⟩, by decide +kernel, by decide, rfl, rfl⟩

end RelationalMapping
