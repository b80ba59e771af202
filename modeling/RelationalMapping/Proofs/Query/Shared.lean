import RelationalMapping.Proofs.Sql.Segments
import RelationalMapping.Proofs.Sql.Tables

namespace RelationalMapping

namespace Entity

def storedNames (e : Entity) : List String := (e.properties.filter (!·.transient)).map (·.name)

/-- Under these names, and no others, both entities have a column. They stand once each, in the order of the first. -/
structure Shares (e wanted : Entity) (names : List String) : Prop where
  declared : names.Sublist (e.properties.map (·.name))
  once : names.Nodup
  mem_iff : ∀ name, name ∈ names ↔ name ∈ e.storedNames ∧ name ∈ wanted.storedNames

variable {e wanted : Entity} {name : String}

theorem mem_storedNames : name ∈ e.storedNames ↔ ∃ p ∈ e.properties, p.transient = false ∧ p.name = name := by
  simp [storedNames, and_assoc]

theorem declared_of_stored (h : name ∈ e.storedNames) : name ∈ e.properties.map (·.name) := by
  obtain ⟨p, hp, -, hname⟩ := mem_storedNames.mp h
  exact List.mem_map.mpr ⟨p, hp, hname⟩

def namesStoredBy (e wanted : Entity) : List String := (e.properties.map (·.name)).filter (· ∈ wanted.storedNames)

theorem mem_namesStoredBy :
    name ∈ e.namesStoredBy wanted ↔ name ∈ e.properties.map (·.name) ∧ name ∈ wanted.storedNames := by
  simp [namesStoredBy]

theorem shares_namesStoredBy_iff (hnames : (e.properties.map (·.name)).Nodup) :
    e.Shares wanted (e.namesStoredBy wanted)
      ↔ ∀ p ∈ e.properties, p.transient = true → p.name ∉ wanted.storedNames := by
  constructor
  · intro h p hp htransient hwanted
    have hselected : p.name ∈ e.namesStoredBy wanted := mem_namesStoredBy.mpr ⟨List.mem_map_of_mem hp, hwanted⟩
    obtain ⟨q, hq, hstored, hname⟩ := mem_storedNames.mp ((h.mem_iff p.name).mp hselected).1
    -- names are declared once, so the stored property of this name is the transient one
    rw [List.inj_on_of_nodup_map hnames hq hp hname, htransient] at hstored
    cases hstored
  · intro h
    refine ⟨List.filter_sublist, hnames.filter _, fun name => ?_⟩
    rw [mem_namesStoredBy]
    refine and_congr_left fun hwanted => ⟨fun hdeclared => ?_, declared_of_stored⟩
    obtain ⟨p, hp, rfl⟩ := List.mem_map.mp hdeclared
    have hstored : p.transient = false := by
      rw [← Bool.not_eq_true]
      exact fun htransient => h p hp htransient hwanted
    exact mem_storedNames.mpr ⟨p, hp, hstored, rfl⟩

end Entity

namespace Table

variable {t : Table} {names : List String}

def selectColumns (t : Table) (names : List String) : Query :=
  t.select (names.map fun name => (Expr.column (t.column name)).project)

theorem selectColumns_inj {others : List String} (h : t.selectColumns names = t.selectColumns others) :
    names = others := by
  have hprojections : names.map (fun name => (Expr.column (t.column name)).project)
      = others.map fun name => (Expr.column (t.column name)).project := congrArg Query.projections h
  refine List.map_injective_iff.mpr (fun name other hname => ?_) hprojections
  simpa [Expr.project, Table.column] using hname

theorem selectAllOf_eq (t : Table) (wanted : Entity) :
    t.selectAllOf wanted = t.selectColumns (t.entity.namesStoredBy wanted) := by
  have hwanted : ∀ p : Property, (wanted.properties.any fun w => w.name == p.name && !w.transient)
      = decide (p.name ∈ wanted.storedNames) := by
    intro p
    rw [Bool.eq_iff_iff, decide_eq_true_iff, Entity.mem_storedNames]
    simp [and_comm]
  simp only [selectAllOf, selectColumns, Entity.namesStoredBy, hwanted, List.filter_map, List.map_map]
  rfl

def columnText (t : Table) (table property : String) : String :=
  Text.quoteIdentifier (t.alias?.getD table) ++ "." ++ Text.quoteIdentifier (t.column property).ownName

variable {table : String}

theorem pieces_column (t : Table) (property : String) :
    (Expr.column (t.column property)).project.pieces
      = t.qualifier ++ [Piece.text ".", Piece.columnName (t.column property)] := by
  simp [Expr.project, Projection.pieces, aliasPieces, Expr.pieces, Table.column]

theorem ownWritten_column (h : t.entity.ownTableName = .ok table) (property : String) :
    ownWritten (Expr.column (t.column property)).project.pieces = .ok ⟨t.columnText table property, []⟩ := by
  rw [pieces_column, qualifier, columnText]
  cases t.alias? with
  | none => simp [ownWritten, writtenBy, Piece.ownChunk, h, Fragment.ofChunks, Chunk.sql, Chunk.values, String.append_assoc]
  | some name =>
    simp [ownWritten, writtenBy, Piece.ownChunk, Fragment.ofChunks, Chunk.sql, Chunk.values, String.append_assoc]
    rfl

theorem pieces_selectColumns (t : Table) (names : List String) :
    (t.selectColumns names).pieces = .text "SELECT "
      :: (listed (names.map fun name => (Expr.column (t.column name)).project.pieces) ++ .text " FROM " :: t.pieces) := by
  simp [selectColumns, select, Query.empty, Query.pieces, projectionPieces_eq, Function.comp_def, aggregatePieces,
    joinedColumns, FromItem.columnPieces, sourcePieces, FromItem.pieces, separated, distinctPieces, optionalKeys,
    optionalPieces, optionalOrder, clause, orderingPieces, countPieces]

theorem ownWritten_selectColumns (h : t.entity.ownTableName = .ok table) (names : List String) :
    ownWritten (t.selectColumns names).pieces
      = .ok ⟨"SELECT " ++ ", ".intercalate (names.map (t.columnText table)) ++ " FROM "
          ++ quotedRow (table :: t.alias?.toList), []⟩ := by
  have hcolumns : ownWritten (listed (names.map fun name => (Expr.column (t.column name)).project.pieces))
      = .ok (.join ", " (names.map fun name => ⟨t.columnText table name, []⟩)) := by
    refine ownWritten_separated ", " ?_
    rw [List.forall₂_map_left_iff, List.forall₂_map_right_iff, List.forall₂_same]
    exact fun name _ => ownWritten_column h name
  have htable : ownWritten t.pieces = .ok ⟨quotedRow (table :: t.alias?.toList), []⟩ := ownWritten_pieces h
  rw [ownWritten] at hcolumns htable ⊢
  rw [pieces_selectColumns, writtenBy_text_cons ownChunk_text, writtenBy_append, hcolumns,
    writtenBy_text_cons ownChunk_text, htable]
  change Except.ok _ = Except.ok _
  simp [Fragment.join, Fragment.push, String.append_assoc, Function.comp_def]

theorem within_selectColumns (t : Table) (names : List String) :
    ∀ p ∈ (t.selectColumns names).pieces, p.Within (· = t.entity) := by
  have hqualifier : ∀ p ∈ t.qualifier, p.Within (· = t.entity) := by
    unfold qualifier
    split <;> simp [Piece.Within]
  have htable : ∀ p ∈ t.pieces, p.Within (· = t.entity) := by
    unfold Table.pieces
    split <;> simp [Piece.Within]
  have hcolumn : ∀ name, ∀ p ∈ (Expr.column (t.column name)).project.pieces, p.Within (· = t.entity) := by
    intro name
    rw [pieces_column, List.forall_mem_append]
    exact ⟨hqualifier, by simp [Piece.Within, Table.column]⟩
  intro p hp
  simp only [pieces_selectColumns, List.mem_cons, List.mem_append] at hp
  rcases hp with rfl | hp | rfl | hp
  · trivial
  · rcases mem_of_mem_separated hp with rfl | ⟨pieces, hpieces, hp⟩
    · trivial
    · obtain ⟨name, -, rfl⟩ := List.mem_map.mp hpieces
      exact hcolumn name p hp
  · trivial
  · exact htable p hp

theorem selectColumns_write (htype : t.entity.typeName ≠ "") (h : t.entity.ownTableName = .ok table)
    (names : List String) :
    Naming.Yields (Names.Faithful (· = t.entity)) (t.selectColumns names).write
      ⟨"SELECT " ++ ", ".intercalate (names.map (t.columnText table)) ++ " FROM "
        ++ quotedRow (table :: t.alias?.toList), []⟩ := by
  refine yields_written (unconfused_single t.entity) (t.within_selectColumns names) (fun e he => ?_)
    (ownWritten_selectColumns h names)
  obtain rfl : e = t.entity := t.within_selectColumns names _ he
  simpa using htype

theorem selectAllOf_shares_iff (wanted : Entity) (hnames : (t.entity.properties.map (·.name)).Nodup) :
    ((∃ names, t.selectAllOf wanted = t.selectColumns names ∧ t.entity.Shares wanted names)
        ↔ ∀ p ∈ t.entity.properties, p.transient = true → p.name ∉ wanted.storedNames)
      ∧ ∃ names, t.selectAllOf wanted = t.selectColumns names ∧ names.Sublist (t.entity.properties.map (·.name))
        ∧ names.Nodup ∧ (∀ name, name ∈ names ↔ name ∈ t.entity.properties.map (·.name) ∧ name ∈ wanted.storedNames)
        ∧ ∀ table, t.entity.typeName ≠ "" → t.entity.ownTableName = .ok table →
          ∀ start : Names, start.Faithful (· = t.entity) → ∃ after, (t.selectAllOf wanted).write start
            = (.ok ⟨"SELECT " ++ ", ".intercalate (names.map (t.columnText table)) ++ " FROM "
              ++ quotedRow (table :: t.alias?.toList), []⟩, after) := by
  constructor
  · rw [← Entity.shares_namesStoredBy_iff hnames]
    constructor
    · rintro ⟨names, heq, hshares⟩
      rw [selectAllOf_eq] at heq
      exact selectColumns_inj heq ▸ hshares
    · exact fun hshares => ⟨_, t.selectAllOf_eq wanted, hshares⟩
  · refine ⟨_, t.selectAllOf_eq wanted, List.filter_sublist, hnames.filter _, fun name => Entity.mem_namesStoredBy, ?_⟩
    intro table htype htable start hstart
    rw [selectAllOf_eq]
    obtain ⟨after, hafter, -⟩ := selectColumns_write htype htable (t.entity.namesStoredBy wanted) start hstart
    exact ⟨after, hafter⟩

end Table

def crate : Entity := Entity.ofFields "app::Crate" "Crate" none
  [{ name := "id", label := "i64", holds := .column (.required (.element .int64)) },
    { name := "weight", label := "i32", holds := .column (.required (.element .int32)), column := some "kg" },
    { name := "pallet", label := "Option<Pallet>", holds := .joined "app::Pallet", transient := true }]

def tag : Entity := Entity.ofFields "app::Tag" "Tag" none
  [{ name := "weight", label := "f64", holds := .column (.required (.element .float64)) },
    { name := "id", label := "Option<Serial>", holds := .joined "app::Serial", transient := true }]

def load : Entity := Entity.ofFields "app::Load" "Load" none
  [{ name := "pallet", label := "i64", holds := .column (.required (.element .int64)) },
    { name := "id", label := "i64", holds := .column (.required (.element .int64)) }]

theorem Table.selectAllOf_shares_weight :
    (∃ names, (crate.aliased "c").selectAllOf tag = (crate.aliased "c").selectColumns names ∧ crate.Shares tag names)
      ∧ ∃ after, ((crate.aliased "c").selectAllOf tag).write {}
        = (.ok ⟨"SELECT \"c\".\"kg\" FROM \"crate\" \"c\"", []⟩, after) := by
  have hnames : ((crate.aliased "c").entity.properties.map (·.name)).Nodup := by decide +kernel
  have hselected : (crate.aliased "c").selectAllOf tag = (crate.aliased "c").selectColumns ["weight"] := rfl
  have htable : (crate.aliased "c").entity.ownTableName = .ok "crate" := rfl
  obtain ⟨hiff, names, heq, -, -, -, hwrite⟩ := Table.selectAllOf_shares_iff tag hnames
  obtain rfl : names = ["weight"] := Table.selectColumns_inj (heq.symm.trans hselected)
  exact ⟨hiff.mpr (by decide +kernel), hwrite "crate" (by decide) htable {} (Names.faithful_empty _)⟩

theorem Table.selectAllOf_transient :
    (crate.properties.map (·.name)).Nodup ∧ (load.properties.map (·.name)).Nodup ∧ "pallet" ∉ crate.storedNames
      ∧ (∃ after, (crate.table.selectAllOf load).write {}
        = (.ok ⟨"SELECT \"crate\".\"id\", \"crate\".\"pallet\" FROM \"crate\"", []⟩, after))
      ∧ ¬∃ names, crate.table.selectAllOf load = crate.table.selectColumns names ∧ crate.Shares load names := by
  have hselected : crate.table.selectAllOf load = crate.table.selectColumns ["id", "pallet"] := rfl
  have hmissing : "pallet" ∉ crate.storedNames := by decide +kernel
  refine ⟨by decide +kernel, by decide +kernel, hmissing, ⟨_, rfl⟩, ?_⟩
  rintro ⟨names, heq, hshares⟩
  obtain rfl : names = ["id", "pallet"] := Table.selectColumns_inj (heq.symm.trans hselected)
  exact hmissing ((hshares.mem_iff "pallet").mp (by simp)).1

end RelationalMapping
