import RelationalMapping.Proofs.Sql.Gathering
import RelationalMapping.Sql.Statement

namespace RelationalMapping

def Value.parameters : Value → List Value
  | .null => []
  | v => [v]

mutual

def Expr.parameters : Expr → List Value
  | .all _ | .column _ | .distinct _ | .typedLiteral _ _ | .aliasName _ | .tableName _ => []
  | .value v => v.parameters
  | .array elementType items => [.array elementType items]
  | .binary _ left right => left.parameters ++ right.parameters
  | .connective _ items => exprParameters items
  | .not e | .empty e _ | .is e _ _ | .cast e _ | .adapted _ e => e.parameters
  | .member e candidates _ => e.parameters ++ exprParameters candidates
  | .call _ args => exprParameters args
  | .exists query _ _ => query.parameters
  | .atTimeZone time zone => time.parameters ++ zone.parameters
  | .jsonObject entries => entryParameters entries
  | .case [] _ => []
  | .case (b :: rest) fallback =>
    b.parameters ++ branchParameters rest ++ optionalParameters fallback

def exprParameters : List Expr → List Value
  | [] => []
  | e :: rest => e.parameters ++ exprParameters rest

def entryParameters : List JsonEntry → List Value
  | [] => []
  | ⟨_, value⟩ :: rest => value.parameters ++ entryParameters rest

def Branch.parameters : Branch → List Value
  | ⟨condition, result⟩ => condition.parameters ++ result.parameters

def branchParameters : List Branch → List Value
  | [] => []
  | b :: rest => b.parameters ++ branchParameters rest

def Projection.parameters : Projection → List Value
  | ⟨e, _⟩ => e.parameters

def projectionParameters : List Projection → List Value
  | [] => []
  | p :: rest => p.parameters ++ projectionParameters rest

def Projection.groupParameters : Projection → List Value
  | ⟨_, some _⟩ => []
  | ⟨e, none⟩ => e.parameters

def groupParameters : List Projection → List Value
  | [] => []
  | p :: rest => p.groupParameters ++ groupParameters rest

def Aggregate.parameters : Aggregate → List Value
  | ⟨_, e, arguments, _, _⟩ => e.parameters ++ arguments.flatMap Value.parameters

def aggregateParameters : List Aggregate → List Value
  | [] => []
  | a :: rest => a.parameters ++ aggregateParameters rest

def OrderTerm.parameters : OrderTerm → List Value
  | .expr e _ _ => e.parameters
  | .case branches => branchParameters branches

def orderParameters : List OrderTerm → List Value
  | [] => []
  | o :: rest => o.parameters ++ orderParameters rest

def FromItem.columnParameters : FromItem → List Value
  | .join ⟨⟨projections, _, _, _, _, _, _, _, _, _, _⟩, _, _, _, _, _⟩ =>
    projectionParameters projections
  | _ => []

def joinedParameters : List FromItem → List Value
  | [] => []
  | item :: rest => item.columnParameters ++ joinedParameters rest

/-- A join without an alias names the table of its query and binds nothing for it. -/
def Join.parameters : Join → List Value
  | ⟨query, _, _, condition, _, some _⟩ => query.parameters ++ optionalParameters condition
  | ⟨_, _, _, condition, _, none⟩ => optionalParameters condition

def FromItem.parameters : FromItem → List Value
  | .table _ => []
  | .join j => j.parameters
  | .query q _ => q.parameters

def sourceParameters : List FromItem → List Value
  | [] => []
  | item :: rest => item.parameters ++ sourceParameters rest

def optionalParameters : Option Expr → List Value
  | some e => e.parameters
  | none => []

def keyParameters : Bool → Option (List Projection) → List Value
  | false, some keys => projectionParameters keys
  | _, _ => []

def orderingParameters : Bool → Option (List OrderTerm) → List Value
  | false, some terms => orderParameters terms
  | _, _ => []

def Query.parameters : Query → List Value
  | ⟨projections, aggregates, sources, condition, order, _, _, grouped, distinct, random,
      distinctOn⟩ =>
    keyParameters distinct distinctOn
      ++ aggregateParameters aggregates ++ projectionParameters projections
      ++ joinedParameters sources
      ++ sourceParameters sources
      ++ optionalParameters condition
      ++ (if grouped then groupParameters projections else [])
      ++ orderingParameters random order

end

theorem entryParameters_eq (entries : List JsonEntry) :
    entryParameters entries = entries.flatMap (·.value.parameters) := by
  induction entries with
  | nil => rfl
  | cons entry rest ih =>
    obtain ⟨key, value⟩ := entry
    rw [entryParameters, ih, List.flatMap_cons]

def Piece.values : Piece → List Value
  | .bound v => [v]
  | _ => []

instance mute_values : Mute Piece.values where
  text _ := rfl
  verbatim _ := rfl
  identifier _ := rfl
  columnName _ := rfl
  marker _ _ := rfl
  tableName _ := rfl
  failure _ := rfl

@[simp] theorem values_piece (v : Value) : v.piece.values = v.parameters := by
  cases v <;> rfl

theorem values_arguments (arguments : List Value) :
    (arguments.map fun v => [v.piece]).flatMap (·.flatMap Piece.values) = arguments.flatMap Value.parameters := by
  simp [List.flatMap_map]

mutual

theorem Expr.values_pieces : (e : Expr) → e.pieces.flatMap Piece.values = e.parameters
  | .all (some t) => by simp [Expr.pieces, Expr.parameters, Piece.values]
  | .all none => by simp [Expr.pieces, Expr.parameters, Piece.values]
  | .column c => by simp [Expr.pieces, Expr.parameters, Piece.values]
  | .distinct c => by simp [Expr.pieces, Expr.parameters, Piece.values]
  | .value v => by simp [Expr.pieces, Expr.parameters]
  | .array elementType items => by simp [Expr.pieces, Expr.parameters, Piece.values]
  | .binary op left right => by
    simp [Expr.pieces, Expr.parameters, left.values_pieces, right.values_pieces]
  | .connective op [] => by simp [Expr.pieces, Expr.parameters, exprParameters, Piece.values]
  | .connective op (e :: rest) => by
    simp [Expr.pieces, Expr.parameters, exprParameters, e.values_pieces,
      values_exprPieces rest]
  | .not e => by simp [Expr.pieces, Expr.parameters, Piece.values, e.values_pieces]
  | .empty e negated => by simp [Expr.pieces, Expr.parameters, Piece.values, e.values_pieces]
  | .is e test negated => by
    simp [Expr.pieces, Expr.parameters, Piece.values, e.values_pieces]
  | .member e candidates negated => by
    simp [Expr.pieces, Expr.parameters, e.values_pieces, values_exprPieces candidates]
  | .call function args => by
    simp [Expr.pieces, Expr.parameters, Piece.values, values_exprPieces args]
  | .typedLiteral typeName text => by simp [Expr.pieces, Expr.parameters, Piece.values]
  | .cast e typeName => by simp [Expr.pieces, Expr.parameters, Piece.values, e.values_pieces]
  | .exists query alias? negated => by
    simp [Expr.pieces, Expr.parameters, Piece.values, query.values_pieces]
  | .atTimeZone time zone => by
    simp [Expr.pieces, Expr.parameters, Piece.values, time.values_pieces,
      zone.values_pieces]
  | .jsonObject entries => by
    simp [Expr.pieces, Expr.parameters, Piece.values, values_entryPieces entries]
  | .case [] _ => by simp [Expr.pieces, Expr.parameters, Piece.values]
  | .case (b :: rest) fallback => by
    simp [Expr.pieces, Expr.parameters, Piece.values, b.values_pieces,
      values_branchPieces rest, values_optionalPieces fallback]
  | .aliasName name => by simp [Expr.pieces, Expr.parameters, Piece.values]
  | .tableName t => by simp [Expr.pieces, Expr.parameters, Piece.values]
  | .adapted _ e => by simp [Expr.pieces, Expr.parameters, e.values_pieces]

theorem values_exprPieces : (es : List Expr) →
    (exprPieces es).flatMap (·.flatMap Piece.values) = exprParameters es
  | [] => by simp [exprPieces, exprParameters]
  | e :: rest => by
    simp [exprPieces, exprParameters, e.values_pieces, values_exprPieces rest]

theorem values_entryPieces : (es : List JsonEntry) →
    (entryPieces es).flatMap (·.flatMap Piece.values) = entryParameters es
  | [] => by simp [entryPieces, entryParameters]
  | ⟨key, value⟩ :: rest => by
    simp [entryPieces, entryParameters, Piece.values, value.values_pieces,
      values_entryPieces rest]

theorem Branch.values_pieces : (b : Branch) → b.pieces.flatMap Piece.values = b.parameters
  | ⟨condition, result⟩ => by
    simp [Branch.pieces, Branch.parameters, Piece.values, condition.values_pieces,
      result.values_pieces]

theorem values_branchPieces : (bs : List Branch) →
    (branchPieces bs).flatMap (·.flatMap Piece.values) = branchParameters bs
  | [] => by simp [branchPieces, branchParameters]
  | b :: rest => by
    simp [branchPieces, branchParameters, b.values_pieces, values_branchPieces rest]

theorem Projection.values_pieces : (p : Projection) → p.pieces.flatMap Piece.values = p.parameters
  | ⟨e, alias?⟩ => by simp [Projection.pieces, Projection.parameters, e.values_pieces]

theorem values_projectionPieces : (ps : List Projection) →
    (projectionPieces ps).flatMap (·.flatMap Piece.values) = projectionParameters ps
  | [] => by simp [projectionPieces, projectionParameters]
  | p :: rest => by
    simp [projectionPieces, projectionParameters, p.values_pieces,
      values_projectionPieces rest]

theorem Projection.values_groupPieces : (p : Projection) →
    p.groupPieces.flatMap Piece.values = p.groupParameters
  | ⟨_, some name⟩ => by
    simp [Projection.groupPieces, Projection.groupParameters, Piece.values]
  | ⟨e, none⟩ => by
    simp [Projection.groupPieces, Projection.groupParameters, e.values_pieces]

theorem values_groupPieces : (ps : List Projection) →
    (groupPieces ps).flatMap (·.flatMap Piece.values) = groupParameters ps
  | [] => by simp [groupPieces, groupParameters]
  | p :: rest => by
    simp [groupPieces, groupParameters, p.values_groupPieces, values_groupPieces rest]

theorem Aggregate.values_pieces : (a : Aggregate) → a.pieces.flatMap Piece.values = a.parameters
  | ⟨function, e, arguments, alias?, unnested⟩ => by
    cases unnested <;>
      simp [Aggregate.pieces, Aggregate.parameters, Piece.values, values_arguments, e.values_pieces]

theorem values_aggregatePieces : (as : List Aggregate) →
    (aggregatePieces as).flatMap (·.flatMap Piece.values) = aggregateParameters as
  | [] => by simp [aggregatePieces, aggregateParameters]
  | a :: rest => by
    simp [aggregatePieces, aggregateParameters, a.values_pieces,
      values_aggregatePieces rest]

theorem OrderTerm.values_pieces : (o : OrderTerm) → o.pieces.flatMap Piece.values = o.parameters
  | .expr e descending nulls => by
    simp [OrderTerm.pieces, OrderTerm.parameters, Piece.values, e.values_pieces]
  | .case [] => by simp [OrderTerm.pieces, OrderTerm.parameters, branchParameters, Piece.values]
  | .case (b :: rest) => by
    simp [OrderTerm.pieces, OrderTerm.parameters, branchParameters, Piece.values,
      b.values_pieces, values_branchPieces rest]

theorem values_orderPieces : (os : List OrderTerm) →
    (orderPieces os).flatMap (·.flatMap Piece.values) = orderParameters os
  | [] => by simp [orderPieces, orderParameters]
  | o :: rest => by
    simp [orderPieces, orderParameters, o.values_pieces, values_orderPieces rest]

theorem FromItem.values_columnPieces : (i : FromItem) →
    i.columnPieces.flatMap (·.flatMap Piece.values) = i.columnParameters
  | .join ⟨⟨projections, _, _, _, _, _, _, _, _, _, _⟩, _, into, _, _, _⟩ => by
    simp [FromItem.columnPieces, FromItem.columnParameters,
      values_projectionPieces projections]
  | .table _ => by simp [FromItem.columnPieces, FromItem.columnParameters]
  | .query _ _ => by simp [FromItem.columnPieces, FromItem.columnParameters]

theorem values_joinedColumns : (is : List FromItem) →
    (joinedColumns is).flatMap (·.flatMap Piece.values) = joinedParameters is
  | [] => by simp [joinedColumns, joinedParameters]
  | i :: rest => by
    simp [joinedColumns, joinedParameters, i.values_columnPieces,
      values_joinedColumns rest]

theorem Join.values_pieces : (j : Join) → j.pieces.flatMap Piece.values = j.parameters
  | ⟨query, kind, _, condition, shared, some name⟩ => by
    simp [Join.pieces, Join.parameters, Piece.values, query.values_pieces,
      values_optionalPieces condition]
  | ⟨query, kind, _, condition, shared, none⟩ => by
    simp [Join.pieces, Join.parameters, Piece.values,
      values_optionalPieces condition]

theorem FromItem.values_pieces : (i : FromItem) → i.pieces.flatMap Piece.values = i.parameters
  | .table t => by simp [FromItem.pieces, FromItem.parameters]
  | .join j => by simp [FromItem.pieces, FromItem.parameters, j.values_pieces]
  | .query q alias? => by simp [FromItem.pieces, FromItem.parameters, q.values_pieces]

theorem values_sourcePieces : (is : List FromItem) →
    (sourcePieces is).flatMap (·.flatMap Piece.values) = sourceParameters is
  | [] => by simp [sourcePieces, sourceParameters]
  | i :: rest => by
    simp [sourcePieces, sourceParameters, i.values_pieces, values_sourcePieces rest]

theorem values_optionalPieces : (e : Option Expr) →
    ((optionalPieces e).getD []).flatMap Piece.values = optionalParameters e
  | none => by simp [optionalPieces, optionalParameters]
  | some e => by simp [optionalPieces, optionalParameters, e.values_pieces]

theorem values_distinct : (distinct : Bool) → (keys : Option (List Projection)) →
    (distinctPieces distinct (optionalKeys keys)).flatMap Piece.values = keyParameters distinct keys
  | true, _ => by simp [distinctPieces, keyParameters, Piece.values]
  | false, none => by simp [distinctPieces, optionalKeys, keyParameters]
  | false, some keys => by
    simp [distinctPieces, optionalKeys, keyParameters, Piece.values,
      values_projectionPieces keys]

theorem values_ordering : (random : Bool) → (terms : Option (List OrderTerm)) →
    (orderingPieces random (optionalOrder terms)).flatMap Piece.values = orderingParameters random terms
  | true, _ => by simp [orderingPieces, orderingParameters, Piece.values]
  | false, none => by simp [orderingPieces, optionalOrder, orderingParameters]
  | false, some terms => by
    simp [orderingPieces, optionalOrder, orderingParameters, Piece.values,
      values_orderPieces terms]

theorem Query.values_pieces : (q : Query) → q.pieces.flatMap Piece.values = q.parameters
  | ⟨projections, aggregates, sources, condition, order, limit, offset, grouped, distinct, random,
      distinctOn⟩ => by
    simp [Query.pieces, Query.parameters, Piece.values, values_distinct distinct distinctOn,
      values_aggregatePieces aggregates, values_projectionPieces projections,
      values_joinedColumns sources,
      values_sourcePieces sources, values_optionalPieces condition,
      values_groupPieces projections, values_ordering random order]

end

end RelationalMapping
