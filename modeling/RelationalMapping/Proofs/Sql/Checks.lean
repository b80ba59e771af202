import RelationalMapping.Proofs.Sql.Gathering

namespace RelationalMapping

def Entity.isNamed (e : Entity) : Bool :=
  !e.typeName.isEmpty && (e.tableName.isSome || !e.simpleName.isEmpty)

inductive Check where
  | table (e : Entity)
  | zone (name : String)
  | cases (branches : List Branch)
  | orderCases (branches : List Branch)
  | target (sources : List FromItem)
  | matched (condition : Option Expr) (shared : Option (List Column))

namespace Check

def passes : Check → Bool
  | .table e => e.isNamed
  | .zone name => isTimeZone name
  | .cases branches => !branches.isEmpty
  | .orderCases branches => !branches.isEmpty
  | .target [.table _] => true
  | .target _ => false
  | .matched condition shared => condition.isSome || shared.isSome

def fault : Check → Error
  | .table _ => .declaration .unnamed
  | .zone name => .unknownZone name
  | .cases _ => .statement .emptyCase
  | .orderCases _ => .statement .emptyOrderCase
  | .target _ => .statement .joinWithoutTable
  | .matched _ _ => .statement .joinWithoutCondition

def fault? (c : Check) : Option Error := if c.passes then none else some c.fault

end Check

def Table.qualifierChecks (t : Table) : List Check :=
  match t.alias? with
  | some _ => []
  | none => [.table t.entity]

def zoneChecks (zone : Expr) : List Check :=
  match zone.unadapted with
  | .value (.text name) => [.zone name]
  | _ => []

def targetChecks (sources : List FromItem) : List Check :=
  match sources with
  | [.table t] => [.target [.table t], .table t.entity]
  | _ => [.target sources]

mutual

def Expr.checks : Expr → List Check
  | .all none | .distinct _ | .value _ | .array _ _ | .typedLiteral _ _ | .aliasName _ => []
  | .all (some t) => t.qualifierChecks
  | .column c => c.table.qualifierChecks
  | .binary _ left right => left.checks ++ right.checks
  | .connective _ items => exprChecks items
  | .not e | .empty e _ | .is e _ _ | .cast e _ | .adapted _ e => e.checks
  | .member e candidates _ => e.checks ++ exprChecks candidates
  | .call _ args => exprChecks args
  | .exists query _ _ => query.checks
  | .atTimeZone time zone => zoneChecks zone ++ time.checks ++ zone.checks
  | .jsonObject entries => entryChecks entries
  | .case [] _ => [.cases []]
  | .case (b :: rest) fallback =>
    .cases (b :: rest) :: (b.checks ++ branchChecks rest ++ optionalChecks fallback)
  | .tableName t => [.table t.entity]

def exprChecks : List Expr → List Check
  | [] => []
  | e :: rest => e.checks ++ exprChecks rest

def entryChecks : List JsonEntry → List Check
  | [] => []
  | ⟨_, value⟩ :: rest => value.checks ++ entryChecks rest

def Branch.checks : Branch → List Check
  | ⟨condition, result⟩ => condition.checks ++ result.checks

def branchChecks : List Branch → List Check
  | [] => []
  | b :: rest => b.checks ++ branchChecks rest

def Projection.checks : Projection → List Check
  | ⟨e, _⟩ => e.checks

def projectionChecks : List Projection → List Check
  | [] => []
  | p :: rest => p.checks ++ projectionChecks rest

def Projection.groupChecks : Projection → List Check
  | ⟨_, some _⟩ => []
  | ⟨e, none⟩ => e.checks

def groupChecks : List Projection → List Check
  | [] => []
  | p :: rest => p.groupChecks ++ groupChecks rest

def Aggregate.checks : Aggregate → List Check
  | ⟨_, e, _, _, _⟩ => e.checks

def aggregateChecks : List Aggregate → List Check
  | [] => []
  | a :: rest => a.checks ++ aggregateChecks rest

def OrderTerm.checks : OrderTerm → List Check
  | .expr e _ _ => e.checks
  | .case [] => [.orderCases []]
  | .case (b :: rest) => .orderCases (b :: rest) :: (b.checks ++ branchChecks rest)

def orderChecks : List OrderTerm → List Check
  | [] => []
  | o :: rest => o.checks ++ orderChecks rest

def FromItem.columnChecks : FromItem → List Check
  | .join ⟨⟨projections, _, _, _, _, _, _, _, _, _, _⟩, _, _, _, _, _⟩ => projectionChecks projections
  | _ => []

def joinedChecks : List FromItem → List Check
  | [] => []
  | item :: rest => item.columnChecks ++ joinedChecks rest

def Join.checks : Join → List Check
  | ⟨query, _, _, condition, shared, some _⟩ =>
    query.checks ++ .matched condition shared :: optionalChecks condition
  | ⟨query, _, _, condition, shared, none⟩ =>
    targetChecks query.sources ++ .matched condition shared :: optionalChecks condition

def FromItem.checks : FromItem → List Check
  | .table t => [.table t.entity]
  | .join j => j.checks
  | .query q _ => q.checks

def sourceChecks : List FromItem → List Check
  | [] => []
  | item :: rest => item.checks ++ sourceChecks rest

def optionalChecks : Option Expr → List Check
  | some e => e.checks
  | none => []

def keyChecks : Bool → Option (List Projection) → List Check
  | false, some keys => projectionChecks keys
  | _, _ => []

def orderingChecks : Bool → Option (List OrderTerm) → List Check
  | false, some terms => orderChecks terms
  | _, _ => []

def Query.checks : Query → List Check
  | ⟨projections, aggregates, sources, condition, order, _, _, grouped, distinct, random, distinctOn⟩ =>
    keyChecks distinct distinctOn
      ++ aggregateChecks aggregates ++ projectionChecks projections
      ++ joinedChecks sources
      ++ sourceChecks sources
      ++ optionalChecks condition
      ++ (if grouped then groupChecks projections else [])
      ++ orderingChecks random order

end

inductive Demand where
  | table (e : Entity)
  | fault (e : Error)

def Demand.fault? : Demand → Option Error
  | .table e => (Check.table e).fault?
  | .fault e => some e

def Piece.demands : Piece → List Demand
  | .tableName e => [.table e]
  | .failure e => [.fault e]
  | _ => []

def Check.demands : Check → List Demand
  | .table e => [.table e]
  | c => if c.passes then [] else [.fault c.fault]

instance quiet_demands : Quiet Piece.demands :=
  ⟨fun _ => rfl, fun _ => rfl, fun _ => rfl, fun _ => rfl, fun _ _ => rfl⟩

abbrev demandsOf (pieces : List Piece) : List Demand := pieces.flatMap Piece.demands

abbrev demandsIn (checks : List Check) : List Demand := checks.flatMap Check.demands

theorem demands_value (v : Value) : v.piece.demands = [] := by
  cases v <;> rfl

theorem demands_arguments (arguments : List Value) :
    (arguments.map fun v => [v.piece]).flatMap (fun pieces => demandsOf pieces) = [] := by
  simp [List.flatMap_map, demands_value]

theorem demands_qualifier (t : Table) : demandsOf t.qualifier = demandsIn t.qualifierChecks := by
  unfold Table.qualifier Table.qualifierChecks
  cases t.alias? <;> rfl

theorem demands_table (t : Table) : demandsOf t.pieces = [.table t.entity] := by
  unfold Table.pieces
  cases t.alias? <;> rfl

theorem demands_zoneCheck (zone : Expr) : demandsOf (zoneCheck zone) = demandsIn (zoneChecks zone) := by
  unfold zoneCheck zoneChecks
  generalize zone.unadapted = e
  cases e with
  | value v =>
    cases v with
    | text name =>
      cases hzone : isTimeZone name <;>
        simp [Piece.demands, Check.demands, Check.passes, Check.fault, hzone]
    | _ => rfl
  | _ => rfl

theorem demands_sole (sources : List FromItem) :
    demandsOf (solePieces sources) = demandsIn (targetChecks sources) := by
  cases sources with
  | nil => rfl
  | cons item rest =>
    cases rest with
    | cons _ _ => cases item <;> rfl
    | nil =>
      cases item with
      | table t => exact demands_table t
      | join _ => rfl
      | query _ _ => rfl

theorem demands_joinMatch (condition : Option Expr) (shared : Option (List Column)) :
    demandsOf (joinMatch (optionalPieces condition) shared)
      = (Check.matched condition shared).demands ++ demandsOf ((optionalPieces condition).getD []) := by
  cases condition <;> cases shared <;>
    simp [optionalPieces, joinMatch, Piece.demands, Check.demands, Check.passes, Check.fault]

-- one case for every constructor: what is written of a part demands what the checks on this part demand

mutual

theorem Expr.demands_pieces : (e : Expr) → demandsOf e.pieces = demandsIn e.checks
  | .all (some t) => by simp [Expr.pieces, Expr.checks, Piece.demands, demands_qualifier]
  | .all none => by simp [Expr.pieces, Expr.checks, Piece.demands]
  | .column c => by simp [Expr.pieces, Expr.checks, Piece.demands, demands_qualifier]
  | .distinct c => by simp [Expr.pieces, Expr.checks, Piece.demands]
  | .value v => by simp [Expr.pieces, Expr.checks, demands_value]
  | .array elementType items => by simp [Expr.pieces, Expr.checks, Piece.demands]
  | .binary op left right => by
    simp [Expr.pieces, Expr.checks, left.demands_pieces, right.demands_pieces]
  | .connective op [] => by simp [Expr.pieces, Expr.checks, exprChecks, Piece.demands]
  | .connective op (e :: rest) => by
    simp [Expr.pieces, Expr.checks, exprChecks, e.demands_pieces, demands_exprPieces rest]
  | .not e => by simp [Expr.pieces, Expr.checks, Piece.demands, e.demands_pieces]
  | .empty e negated => by simp [Expr.pieces, Expr.checks, Piece.demands, e.demands_pieces]
  | .is e test negated => by simp [Expr.pieces, Expr.checks, Piece.demands, e.demands_pieces]
  | .member e candidates negated => by
    simp [Expr.pieces, Expr.checks, e.demands_pieces, demands_exprPieces candidates]
  | .call function args => by
    simp [Expr.pieces, Expr.checks, Piece.demands, demands_exprPieces args]
  | .typedLiteral typeName text => by simp [Expr.pieces, Expr.checks, Piece.demands]
  | .cast e typeName => by simp [Expr.pieces, Expr.checks, Piece.demands, e.demands_pieces]
  | .exists query alias? negated => by
    simp [Expr.pieces, Expr.checks, Piece.demands, query.demands_pieces]
  | .atTimeZone time zone => by
    simp [Expr.pieces, Expr.checks, Piece.demands, demands_zoneCheck, time.demands_pieces,
      zone.demands_pieces]
  | .jsonObject entries => by
    simp [Expr.pieces, Expr.checks, Piece.demands, demands_entryPieces entries]
  | .case [] _ => by
    simp [Expr.pieces, Expr.checks, Piece.demands, Check.demands, Check.passes, Check.fault]
  | .case (b :: rest) fallback => by
    simp [Expr.pieces, Expr.checks, Piece.demands, Check.demands, Check.passes, b.demands_pieces,
      demands_branchPieces rest, demands_optionalPieces fallback]
  | .aliasName name => by simp [Expr.pieces, Expr.checks, Piece.demands]
  | .tableName t => by simp [Expr.pieces, Expr.checks, Piece.demands, Check.demands]
  | .adapted _ e => by simp [Expr.pieces, Expr.checks, e.demands_pieces]

theorem demands_exprPieces : (es : List Expr) →
    (exprPieces es).flatMap demandsOf = demandsIn (exprChecks es)
  | [] => by simp [exprPieces, exprChecks]
  | e :: rest => by simp [exprPieces, exprChecks, e.demands_pieces, demands_exprPieces rest]

theorem demands_entryPieces : (es : List JsonEntry) →
    (entryPieces es).flatMap demandsOf = demandsIn (entryChecks es)
  | [] => by simp [entryPieces, entryChecks]
  | ⟨key, value⟩ :: rest => by
    simp [entryPieces, entryChecks, Piece.demands, value.demands_pieces, demands_entryPieces rest]

theorem Branch.demands_pieces : (b : Branch) → demandsOf b.pieces = demandsIn b.checks
  | ⟨condition, result⟩ => by
    simp [Branch.pieces, Branch.checks, Piece.demands, condition.demands_pieces, result.demands_pieces]

theorem demands_branchPieces : (bs : List Branch) →
    (branchPieces bs).flatMap demandsOf = demandsIn (branchChecks bs)
  | [] => by simp [branchPieces, branchChecks]
  | b :: rest => by simp [branchPieces, branchChecks, b.demands_pieces, demands_branchPieces rest]

theorem Projection.demands_pieces : (p : Projection) → demandsOf p.pieces = demandsIn p.checks
  | ⟨e, alias?⟩ => by simp [Projection.pieces, Projection.checks, e.demands_pieces]

theorem demands_projectionPieces : (ps : List Projection) →
    (projectionPieces ps).flatMap demandsOf = demandsIn (projectionChecks ps)
  | [] => by simp [projectionPieces, projectionChecks]
  | p :: rest => by
    simp [projectionPieces, projectionChecks, p.demands_pieces, demands_projectionPieces rest]

theorem Projection.demands_groupPieces : (p : Projection) →
    demandsOf p.groupPieces = demandsIn p.groupChecks
  | ⟨_, some name⟩ => by simp [Projection.groupPieces, Projection.groupChecks, Piece.demands]
  | ⟨e, none⟩ => by simp [Projection.groupPieces, Projection.groupChecks, e.demands_pieces]

theorem demands_groupPieces : (ps : List Projection) →
    (groupPieces ps).flatMap demandsOf = demandsIn (groupChecks ps)
  | [] => by simp [groupPieces, groupChecks]
  | p :: rest => by simp [groupPieces, groupChecks, p.demands_groupPieces, demands_groupPieces rest]

theorem Aggregate.demands_pieces : (a : Aggregate) → demandsOf a.pieces = demandsIn a.checks
  | ⟨function, e, arguments, alias?, unnested⟩ => by
    cases unnested <;>
      simp [Aggregate.pieces, Aggregate.checks, Piece.demands, e.demands_pieces, demands_arguments]

theorem demands_aggregatePieces : (as : List Aggregate) →
    (aggregatePieces as).flatMap demandsOf = demandsIn (aggregateChecks as)
  | [] => by simp [aggregatePieces, aggregateChecks]
  | a :: rest => by
    simp [aggregatePieces, aggregateChecks, a.demands_pieces, demands_aggregatePieces rest]

theorem OrderTerm.demands_pieces : (o : OrderTerm) → demandsOf o.pieces = demandsIn o.checks
  | .expr e descending nulls => by
    simp [OrderTerm.pieces, OrderTerm.checks, Piece.demands, e.demands_pieces]
  | .case [] => by
    simp [OrderTerm.pieces, OrderTerm.checks, Piece.demands, Check.demands, Check.passes, Check.fault]
  | .case (b :: rest) => by
    simp [OrderTerm.pieces, OrderTerm.checks, Piece.demands, Check.demands, Check.passes,
      b.demands_pieces, demands_branchPieces rest]

theorem demands_orderPieces : (os : List OrderTerm) →
    (orderPieces os).flatMap demandsOf = demandsIn (orderChecks os)
  | [] => by simp [orderPieces, orderChecks]
  | o :: rest => by simp [orderPieces, orderChecks, o.demands_pieces, demands_orderPieces rest]

theorem FromItem.demands_columnPieces : (i : FromItem) →
    i.columnPieces.flatMap demandsOf = demandsIn i.columnChecks
  | .join ⟨⟨projections, _, _, _, _, _, _, _, _, _, _⟩, _, into, _, _, _⟩ => by
    simp [FromItem.columnPieces, FromItem.columnChecks, demands_projectionPieces projections]
  | .table _ => by simp [FromItem.columnPieces, FromItem.columnChecks]
  | .query _ _ => by simp [FromItem.columnPieces, FromItem.columnChecks]

theorem demands_joinedColumns : (is : List FromItem) →
    (joinedColumns is).flatMap demandsOf = demandsIn (joinedChecks is)
  | [] => by simp [joinedColumns, joinedChecks]
  | i :: rest => by simp [joinedColumns, joinedChecks, i.demands_columnPieces, demands_joinedColumns rest]

theorem Join.demands_pieces : (j : Join) → demandsOf j.pieces = demandsIn j.checks
  | ⟨query, kind, _, condition, shared, some name⟩ => by
    simp [Join.pieces, Join.checks, Piece.demands, query.demands_pieces, demands_joinMatch,
      demands_optionalPieces condition]
  | ⟨query, kind, _, condition, shared, none⟩ => by
    simp [Join.pieces, Join.checks, Piece.demands, demands_sole, demands_joinMatch,
      demands_optionalPieces condition]

theorem FromItem.demands_pieces : (i : FromItem) → demandsOf i.pieces = demandsIn i.checks
  | .table t => by simp [FromItem.pieces, FromItem.checks, demands_table, Check.demands]
  | .join j => by simp [FromItem.pieces, FromItem.checks, j.demands_pieces]
  | .query q alias? => by simp [FromItem.pieces, FromItem.checks, q.demands_pieces]

theorem demands_sourcePieces : (is : List FromItem) →
    (sourcePieces is).flatMap demandsOf = demandsIn (sourceChecks is)
  | [] => by simp [sourcePieces, sourceChecks]
  | i :: rest => by simp [sourcePieces, sourceChecks, i.demands_pieces, demands_sourcePieces rest]

theorem demands_optionalPieces : (e : Option Expr) →
    demandsOf ((optionalPieces e).getD []) = demandsIn (optionalChecks e)
  | none => by simp [optionalPieces, optionalChecks]
  | some e => by simp [optionalPieces, optionalChecks, e.demands_pieces]

theorem demands_distinct : (distinct : Bool) → (keys : Option (List Projection)) →
    demandsOf (distinctPieces distinct (optionalKeys keys)) = demandsIn (keyChecks distinct keys)
  | true, _ => by simp [distinctPieces, keyChecks, Piece.demands]
  | false, none => by simp [distinctPieces, optionalKeys, keyChecks]
  | false, some keys => by
    simp [distinctPieces, optionalKeys, keyChecks, Piece.demands, demands_projectionPieces keys]

theorem demands_ordering : (random : Bool) → (terms : Option (List OrderTerm)) →
    demandsOf (orderingPieces random (optionalOrder terms)) = demandsIn (orderingChecks random terms)
  | true, _ => by simp [orderingPieces, orderingChecks, Piece.demands]
  | false, none => by simp [orderingPieces, optionalOrder, orderingChecks]
  | false, some terms => by
    simp [orderingPieces, optionalOrder, orderingChecks, Piece.demands, demands_orderPieces terms]

theorem Query.demands_pieces : (q : Query) → demandsOf q.pieces = demandsIn q.checks
  | ⟨projections, aggregates, sources, condition, order, limit, offset, grouped, distinct, random,
      distinctOn⟩ => by
    have hgroups : demandsIn (if grouped then groupChecks projections else [])
        = if grouped then (groupPieces projections).flatMap demandsOf else [] := by
      cases grouped
      · rfl
      · exact (demands_groupPieces projections).symm
    simp [Query.pieces, Query.checks, Piece.demands, demands_distinct distinct distinctOn,
      demands_aggregatePieces aggregates, demands_projectionPieces projections,
      demands_joinedColumns sources, demands_sourcePieces sources, demands_optionalPieces condition,
      hgroups, demands_ordering random order]

end

end RelationalMapping
