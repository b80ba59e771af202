import RelationalMapping.Proofs.Sql.Aliases
import RelationalMapping.Proofs.Sql.Statements

namespace RelationalMapping

def Table.exposed (names : Names) (t : Table) : String := t.alias?.getD (names.tableName t.entity)

def FromItem.exposed? (names : Names) : FromItem → Option String
  | .table t => some (t.exposed names)
  | .join j => match j.alias? with
    | some name => some name
    | none => (soleTable? j.query.sources).map (·.exposed names)
  | .query _ alias? => alias?.map Mention.subQuery.denoted

def FromItem.selected : FromItem → List Projection
  | .join j => j.query.projections
  | _ => []

def Expr.qualifier? : Expr → Option Table
  | .all table => table
  | .column c => some c.table
  | _ => none

namespace Query

def qualifiers (q : Query) : List Table :=
  (q.projections ++ q.sources.flatMap (·.selected)).filterMap (·.expr.qualifier?)

def exposed (names : Names) (q : Query) : List String := q.sources.filterMap (·.exposed? names)

def InScope (names : Names) (q : Query) : Prop := ∀ t ∈ q.qualifiers, t.exposed names ∈ q.exposed names

end Query

structure AliasedJoin where
  kind : JoinKind
  inner : Table
  condition : Expr
  name : String

def AliasedJoin.item (j : AliasedJoin) : FromItem :=
  .join { j.inner.selectAll.onAlias j.condition j.name with kind := j.kind }

def Table.selectAllWith (outer : Table) (joins : List AliasedJoin) : Query :=
  joins.foldl (fun q j => q.addJoin j.kind (j.inner.selectAll.onAlias j.condition j.name)) outer.selectAll

theorem foldl_addJoin (q : Query) (joins : List AliasedJoin) :
    joins.foldl (fun q j => q.addJoin j.kind (j.inner.selectAll.onAlias j.condition j.name)) q
      = { q with sources := q.sources ++ joins.map (·.item) } := by
  induction joins generalizing q with
  | nil => cases q; simp
  | cons j rest ih =>
    rw [List.foldl_cons, ih]
    simp [Query.addJoin, Query.addSource, AliasedJoin.item]

theorem Table.selectAllWith_eq (outer : Table) (joins : List AliasedJoin) :
    outer.selectAllWith joins = { outer.selectAll with sources := .table outer :: joins.map (·.item) } :=
  foldl_addJoin outer.selectAll joins

theorem Table.qualifiers_selectAllWith (outer : Table) (joins : List AliasedJoin) :
    (outer.selectAllWith joins).qualifiers = outer :: joins.map (·.inner) := by
  have hjoined : ((joins.map (·.item)).flatMap (·.selected)).filterMap (·.expr.qualifier?)
      = joins.map (·.inner) := by
    induction joins with
    | nil => rfl
    | cons j rest ih =>
      rw [List.map_cons, List.flatMap_cons, List.filterMap_append, ih]
      rfl
  rw [selectAllWith_eq, Query.qualifiers, List.flatMap_cons]
  change outer :: ((joins.map (·.item)).flatMap (·.selected)).filterMap (·.expr.qualifier?) = _
  rw [hjoined]

theorem Table.exposed_selectAllWith (names : Names) (outer : Table) (joins : List AliasedJoin) :
    (outer.selectAllWith joins).exposed names = outer.exposed names :: joins.map (·.name) := by
  have hjoined : (joins.map (·.item)).filterMap (·.exposed? names) = joins.map (·.name) := by
    induction joins with
    | nil => rfl
    | cons j rest ih =>
      rw [List.map_cons, List.map_cons, ← ih]
      rfl
  rw [selectAllWith_eq, Query.exposed]
  change outer.exposed names :: (joins.map (·.item)).filterMap (·.exposed? names) = _
  rw [hjoined]

def Table.star (names : Names) (t : Table) : String := Text.quoteIdentifier (t.exposed names) ++ ".*"

def Table.place (names : Names) (t : Table) : String :=
  quotedRow (names.tableName t.entity :: t.alias?.toList)

def AliasedJoin.place (names : Names) (j : AliasedJoin) : String :=
  j.kind.text ++ " (SELECT " ++ j.inner.star names ++ " FROM " ++ j.inner.place names ++ ") "
    ++ Text.quoteIdentifier j.name ++ " ON " ++ shownText names j.condition.pieces

theorem Table.shownText_all (names : Names) (t : Table) :
    shownText names (Expr.all (some t)).pieces = t.star names := by
  rw [Expr.pieces, qualifier, star, exposed]
  cases t.alias? <;> simp [Piece.shown]

theorem Table.shownText_projectAll (names : Names) (t : Table) :
    shownText names t.projectAll.pieces = t.star names := by
  have hprojection : t.projectAll.pieces = (Expr.all (some t)).pieces := by
    simp [projectAll, Expr.project, Projection.pieces, aliasPieces]
  rw [hprojection, shownText_all]

theorem Table.shownText_selectAll (names : Names) (t : Table) (sources : List FromItem) :
    shownText names { t.selectAll with sources }.pieces
      = "SELECT " ++ ", ".intercalate (t.star names :: (joinedColumns sources).map (shownText names))
        ++ " FROM " ++ " ".intercalate ((sourcePieces sources).map (shownText names)) := by
  simp [selectAll, select, Query.empty, Query.pieces, projectionPieces, aggregatePieces, distinctPieces, optionalKeys,
    optionalPieces, optionalOrder, clause, orderingPieces, countPieces, shownText_projectAll, Piece.shown,
    String.append_assoc]

theorem AliasedJoin.shownText_columns (names : Names) (joins : List AliasedJoin) :
    (joinedColumns (joins.map (·.item))).map (shownText names) = joins.map (·.inner.star names) := by
  have hcolumns : ∀ j : AliasedJoin, j.item.columnPieces = [j.inner.projectAll.pieces] := by
    intro j
    simp [item, Table.selectAll, Table.select, Query.empty, Query.onAlias, Query.on, Query.toJoin, Join.on, Join.under,
      FromItem.columnPieces, markerPieces, projectionPieces]
  induction joins with
  | nil => simp [joinedColumns]
  | cons j rest ih =>
    rw [List.map_cons, joinedColumns, hcolumns, List.map_append, ih]
    simp [Table.shownText_projectAll]

theorem AliasedJoin.shownText_item (names : Names) (j : AliasedJoin) :
    shownText names j.item.pieces = j.place names := by
  have hinner : shownText names j.inner.selectAll.pieces
      = "SELECT " ++ j.inner.star names ++ " FROM " ++ j.inner.place names := by
    have htext : shownText names j.inner.selectAll.pieces = _ := j.inner.shownText_selectAll names [.table j.inner]
    rw [htext]
    simp [joinedColumns, FromItem.columnPieces, sourcePieces, FromItem.pieces, Table.shownText_pieces, Table.place]
  have hpieces : j.item.pieces = .text (j.kind.text ++ " ") :: enclosed j.inner.selectAll.pieces
      ++ .text " " :: .identifier j.name :: .text " ON " :: j.condition.pieces := by
    simp [item, Query.onAlias, Query.on, Query.toJoin, Join.on, Join.under, FromItem.pieces, Join.pieces, joinMatch,
      optionalPieces]
  have hopen : " (SELECT " = " " ++ ("(" ++ "SELECT ") := rfl
  have hclose : ") " = ")" ++ " " := rfl
  rw [hpieces, place, hopen, hclose]
  simp only [shownText_append, shownText_cons, shownText_enclosed, Piece.shown, hinner, String.append_assoc]

namespace Query

theorem selectAllWith_inScope_iff {outer : Table} {joins : List AliasedJoin} {names names' : Names} {f : Fragment}
    (h : (outer.selectAllWith joins).write names = (.ok f, names')) :
    f.sql = "SELECT " ++ ", ".intercalate ((outer :: joins.map (·.inner)).map (·.star names')) ++ " FROM "
        ++ " ".intercalate (outer.place names' :: joins.map (·.place names'))
      ∧ ((outer.selectAllWith joins).InScope names' ↔ ∀ j ∈ joins,
        j.inner.exposed names' = outer.exposed names' ∨ ∃ other ∈ joins, other.name = j.inner.exposed names') := by
  constructor
  · have hplaces : (sourcePieces (joins.map (·.item))).map (shownText names') = joins.map (·.place names') := by
      simp only [sourcePieces_eq, List.map_map, Function.comp_def, AliasedJoin.shownText_item]
    have hsql : f.sql = shownText names' (outer.selectAllWith joins).pieces := (Writable.spells (w := .query _) h).1
    rw [hsql, outer.selectAllWith_eq, outer.shownText_selectAll]
    simp [joinedColumns, FromItem.columnPieces, sourcePieces, FromItem.pieces, AliasedJoin.shownText_columns, hplaces,
      Table.shownText_pieces, Table.place, Function.comp_def]
  · rw [InScope, Table.qualifiers_selectAllWith, Table.exposed_selectAllWith]
    simp

def coupled (trailers : Table) : Expr :=
  .compare .eq (.column (truck.table.column "id")) (.column (trailers.column "id"))

theorem selectAllWith_inScope_trailers :
    let q := truck.table.selectAllWith [⟨.left, trailer.aliased "t", coupled (trailer.aliased "t"), "t"⟩]
    ∃ f names', q.write {} = (.ok f, names') ∧ q.InScope names' := by
  intro q
  have hwrite : q.write {} = (.ok _, _) := rfl
  obtain ⟨-, hscope⟩ := selectAllWith_inScope_iff hwrite
  exact ⟨_, _, hwrite, hscope.mpr (by simp [Entity.aliased, Table.exposed])⟩

theorem selectAllWith_out_of_scope :
    let q := truck.table.selectAllWith [⟨.inner, trailer.table, coupled (trailer.aliased "t"), "t"⟩]
    ∃ f names', q.write {} = (.ok f, names')
      ∧ f.sql = "SELECT \"truck\".*, \"trailer\".* FROM \"truck\" JOIN (SELECT \"trailer\".* FROM \"trailer\") \"t\""
        ++ " ON (\"truck\".\"id\" = \"t\".\"id\")"
      ∧ trailer.table ∈ q.qualifiers ∧ trailer.table.exposed names' = "trailer"
      ∧ q.exposed names' = ["truck", "t"] ∧ ¬ q.InScope names' := by
  intro q
  have hqualifies : trailer.table ∈ q.qualifiers := by simp [q, Table.qualifiers_selectAllWith]
  refine ⟨_, _, rfl, by decide +kernel, hqualifies, rfl, rfl, fun h => ?_⟩
  exact absurd (h trailer.table hqualifies) (by decide)

end Query

end RelationalMapping
