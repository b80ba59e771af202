import RelationalMapping.Proofs.Sql.Positional

namespace RelationalMapping

mutual

def Expr.plain : Expr → Expr
  | .value v => .ofValue v
  | .adapted _ e => e.plain
  | .binary op left right => .binary op left.plain right.plain
  | .connective op items => .connective op (plainExprs items)
  | .not e => .not e.plain
  | .empty e negated => .empty e.plain negated
  | .is e test negated => .is e.plain test negated
  | .member e candidates negated => .member e.plain (plainExprs candidates) negated
  | .call function args => .call function (plainExprs args)
  | .cast e typeName => .cast e.plain typeName
  | .exists query alias? negated => .exists query.plain alias? negated
  | .atTimeZone time zone => .atTimeZone time.plain zone.plain
  | .jsonObject entries => .jsonObject (plainEntries entries)
  | .case branches fallback => .case (plainBranches branches) (plainOption fallback)
  | .all table => .all table
  | .column c => .column c
  | .distinct c => .distinct c
  | .array elementType items => .array elementType items
  | .typedLiteral typeName text => .typedLiteral typeName text
  | .aliasName name => .aliasName name
  | .tableName t => .tableName t

def plainExprs : List Expr → List Expr
  | [] => []
  | e :: rest => e.plain :: plainExprs rest

def plainEntries : List JsonEntry → List JsonEntry
  | [] => []
  | ⟨key, value⟩ :: rest => ⟨key, value.plain⟩ :: plainEntries rest

def Branch.plain : Branch → Branch
  | ⟨condition, result⟩ => ⟨condition.plain, result.plain⟩

def plainBranches : List Branch → List Branch
  | [] => []
  | b :: rest => b.plain :: plainBranches rest

def Projection.plain : Projection → Projection
  | ⟨e, alias?⟩ => ⟨e.plain, alias?⟩

def plainProjections : List Projection → List Projection
  | [] => []
  | p :: rest => p.plain :: plainProjections rest

def Aggregate.plain : Aggregate → Aggregate
  | ⟨function, e, arguments, alias?, unnested⟩ => ⟨function, e.plain, arguments, alias?, unnested⟩

def plainAggregates : List Aggregate → List Aggregate
  | [] => []
  | a :: rest => a.plain :: plainAggregates rest

def OrderTerm.plain : OrderTerm → OrderTerm
  | .expr e descending nulls => .expr e.plain descending nulls
  | .case branches => .case (plainBranches branches)

def plainTerms : List OrderTerm → List OrderTerm
  | [] => []
  | o :: rest => o.plain :: plainTerms rest

def Join.plain : Join → Join
  | ⟨query, kind, into, condition, shared, alias?⟩ =>
    ⟨query.plain, kind, into, plainOption condition, shared, alias?⟩

def FromItem.plain : FromItem → FromItem
  | .table t => .table t
  | .join j => .join j.plain
  | .query q alias? => .query q.plain alias?

def plainSources : List FromItem → List FromItem
  | [] => []
  | item :: rest => item.plain :: plainSources rest

def plainOption : Option Expr → Option Expr
  | none => none
  | some e => some e.plain

def plainKeys : Option (List Projection) → Option (List Projection)
  | none => none
  | some keys => some (plainProjections keys)

def plainOrder : Option (List OrderTerm) → Option (List OrderTerm)
  | none => none
  | some terms => some (plainTerms terms)

def Query.plain : Query → Query
  | ⟨projections, aggregates, sources, condition, order, limit, offset, grouped, distinct, random,
      distinctOn⟩ =>
    ⟨plainProjections projections, plainAggregates aggregates, plainSources sources, plainOption condition,
      plainOrder order, limit, offset, grouped, distinct, random, plainKeys distinctOn⟩

end

def Value.IsPlain : Value → Prop
  | .array .. => False
  | _ => True

mutual

def Expr.IsPlain : Expr → Prop
  | .value v => v.IsPlain
  | .adapted _ _ => False
  | .binary _ left right => left.IsPlain ∧ right.IsPlain
  | .connective _ items | .call _ items => PlainExprs items
  | .not e | .empty e _ | .is e _ _ | .cast e _ => e.IsPlain
  | .member e candidates _ => e.IsPlain ∧ PlainExprs candidates
  | .exists query _ _ => query.IsPlain
  | .atTimeZone time zone => time.IsPlain ∧ zone.IsPlain
  | .jsonObject entries => PlainEntries entries
  | .case branches fallback => PlainBranches branches ∧ PlainOption fallback
  | .all _ | .column _ | .distinct _ | .array .. | .typedLiteral .. | .aliasName _ | .tableName _ => True

def PlainExprs : List Expr → Prop
  | [] => True
  | e :: rest => e.IsPlain ∧ PlainExprs rest

def PlainEntries : List JsonEntry → Prop
  | [] => True
  | ⟨_, value⟩ :: rest => value.IsPlain ∧ PlainEntries rest

def Branch.IsPlain : Branch → Prop
  | ⟨condition, result⟩ => condition.IsPlain ∧ result.IsPlain

def PlainBranches : List Branch → Prop
  | [] => True
  | b :: rest => b.IsPlain ∧ PlainBranches rest

def Projection.IsPlain : Projection → Prop
  | ⟨e, _⟩ => e.IsPlain

def PlainProjections : List Projection → Prop
  | [] => True
  | p :: rest => p.IsPlain ∧ PlainProjections rest

def Aggregate.IsPlain : Aggregate → Prop
  | ⟨_, e, _, _, _⟩ => e.IsPlain

def PlainAggregates : List Aggregate → Prop
  | [] => True
  | a :: rest => a.IsPlain ∧ PlainAggregates rest

def OrderTerm.IsPlain : OrderTerm → Prop
  | .expr e _ _ => e.IsPlain
  | .case branches => PlainBranches branches

def PlainTerms : List OrderTerm → Prop
  | [] => True
  | o :: rest => o.IsPlain ∧ PlainTerms rest

def Join.IsPlain : Join → Prop
  | ⟨query, _, _, condition, _, _⟩ => query.IsPlain ∧ PlainOption condition

def FromItem.IsPlain : FromItem → Prop
  | .table _ => True
  | .join j => j.IsPlain
  | .query q _ => q.IsPlain

def PlainSources : List FromItem → Prop
  | [] => True
  | item :: rest => item.IsPlain ∧ PlainSources rest

def PlainOption : Option Expr → Prop
  | none => True
  | some e => e.IsPlain

def PlainKeys : Option (List Projection) → Prop
  | none => True
  | some keys => PlainProjections keys

def PlainOrder : Option (List OrderTerm) → Prop
  | none => True
  | some terms => PlainTerms terms

def Query.IsPlain : Query → Prop
  | ⟨projections, aggregates, sources, condition, order, _, _, _, _, _, distinctOn⟩ =>
    PlainProjections projections ∧ PlainAggregates aggregates ∧ PlainSources sources ∧ PlainOption condition
      ∧ PlainOrder order ∧ PlainKeys distinctOn

end

theorem Expr.isPlain_ofValue (v : Value) : (Expr.ofValue v).IsPlain := by
  cases v <;> simp [Expr.ofValue, Expr.IsPlain, Value.IsPlain]

mutual

theorem Expr.isPlain_plain : (e : Expr) → e.plain.IsPlain
  | .value v => by
    rw [Expr.plain]
    exact Expr.isPlain_ofValue v
  | .adapted _ e => by
    rw [Expr.plain]
    exact e.isPlain_plain
  | .binary op left right => by
    rw [Expr.plain, Expr.IsPlain]
    exact ⟨left.isPlain_plain, right.isPlain_plain⟩
  | .connective op items => by
    rw [Expr.plain, Expr.IsPlain]
    exact plainExprs_plain items
  | .call function args => by
    rw [Expr.plain, Expr.IsPlain]
    exact plainExprs_plain args
  | .not e | .empty e _ | .is e _ _ | .cast e _ => by
    rw [Expr.plain, Expr.IsPlain]
    exact e.isPlain_plain
  | .member e candidates negated => by
    rw [Expr.plain, Expr.IsPlain]
    exact ⟨e.isPlain_plain, plainExprs_plain candidates⟩
  | .exists query alias? negated => by
    rw [Expr.plain, Expr.IsPlain]
    exact query.isPlain_plain
  | .atTimeZone time zone => by
    rw [Expr.plain, Expr.IsPlain]
    exact ⟨time.isPlain_plain, zone.isPlain_plain⟩
  | .jsonObject entries => by
    rw [Expr.plain, Expr.IsPlain]
    exact plainEntries_plain entries
  | .case branches fallback => by
    rw [Expr.plain, Expr.IsPlain]
    exact ⟨plainBranches_plain branches, plainOption_plain fallback⟩
  | .all _ | .column _ | .distinct _ | .array .. | .typedLiteral .. | .aliasName _ | .tableName _ => by
    rw [Expr.plain, Expr.IsPlain]
    trivial

theorem plainExprs_plain : (es : List Expr) → PlainExprs (plainExprs es)
  | [] => trivial
  | e :: rest => ⟨e.isPlain_plain, plainExprs_plain rest⟩

theorem plainEntries_plain : (es : List JsonEntry) → PlainEntries (plainEntries es)
  | [] => trivial
  | ⟨_, value⟩ :: rest => ⟨value.isPlain_plain, plainEntries_plain rest⟩

theorem Branch.isPlain_plain : (b : Branch) → b.plain.IsPlain
  | ⟨condition, result⟩ => ⟨condition.isPlain_plain, result.isPlain_plain⟩

theorem plainBranches_plain : (bs : List Branch) → PlainBranches (plainBranches bs)
  | [] => trivial
  | b :: rest => ⟨b.isPlain_plain, plainBranches_plain rest⟩

theorem Projection.isPlain_plain : (p : Projection) → p.plain.IsPlain
  | ⟨e, _⟩ => e.isPlain_plain

theorem plainProjections_plain : (ps : List Projection) → PlainProjections (plainProjections ps)
  | [] => trivial
  | p :: rest => ⟨p.isPlain_plain, plainProjections_plain rest⟩

theorem Aggregate.isPlain_plain : (a : Aggregate) → a.plain.IsPlain
  | ⟨_, e, _, _, _⟩ => e.isPlain_plain

theorem plainAggregates_plain : (as : List Aggregate) → PlainAggregates (plainAggregates as)
  | [] => trivial
  | a :: rest => ⟨a.isPlain_plain, plainAggregates_plain rest⟩

theorem OrderTerm.isPlain_plain : (o : OrderTerm) → o.plain.IsPlain
  | .expr e _ _ => e.isPlain_plain
  | .case branches => plainBranches_plain branches

theorem plainTerms_plain : (os : List OrderTerm) → PlainTerms (plainTerms os)
  | [] => trivial
  | o :: rest => ⟨o.isPlain_plain, plainTerms_plain rest⟩

theorem Join.isPlain_plain : (j : Join) → j.plain.IsPlain
  | ⟨query, _, _, condition, _, _⟩ => ⟨query.isPlain_plain, plainOption_plain condition⟩

theorem FromItem.isPlain_plain : (i : FromItem) → i.plain.IsPlain
  | .table _ => trivial
  | .join j => j.isPlain_plain
  | .query q _ => q.isPlain_plain

theorem plainSources_plain : (is : List FromItem) → PlainSources (plainSources is)
  | [] => trivial
  | i :: rest => ⟨i.isPlain_plain, plainSources_plain rest⟩

theorem plainOption_plain : (e : Option Expr) → PlainOption (plainOption e)
  | none => trivial
  | some e => e.isPlain_plain

theorem plainKeys_plain : (ps : Option (List Projection)) → PlainKeys (plainKeys ps)
  | none => trivial
  | some ps => plainProjections_plain ps

theorem plainOrder_plain : (os : Option (List OrderTerm)) → PlainOrder (plainOrder os)
  | none => trivial
  | some os => plainTerms_plain os

theorem Query.isPlain_plain : (q : Query) → q.plain.IsPlain
  | ⟨projections, aggregates, sources, condition, order, _, _, _, _, _, distinctOn⟩ =>
    ⟨plainProjections_plain projections, plainAggregates_plain aggregates, plainSources_plain sources,
      plainOption_plain condition, plainOrder_plain order, plainKeys_plain distinctOn⟩

end

theorem Expr.pieces_ofValue (v : Value) : (Expr.ofValue v).pieces = [v.piece] := by
  cases v <;> simp [Expr.ofValue, Expr.pieces, Value.piece]

theorem zoneCheck_ofValue (v : Value) : zoneCheck (.ofValue v) = zoneCheck (.value v) := by
  cases v <;> rfl

-- a zone is looked at below its adapters, so nothing shows whether they are there
theorem zoneCheck_plain : (zone : Expr) → zoneCheck zone.plain = zoneCheck zone
  | .adapted _ e => by
    rw [Expr.plain, zoneCheck_plain e]
    rfl
  | .value v => by
    rw [Expr.plain]
    exact zoneCheck_ofValue v
  | .all _ | .column _ | .distinct _ | .array .. | .typedLiteral .. | .aliasName _ | .tableName _ | .binary ..
  | .connective .. | .not _ | .empty .. | .is .. | .member .. | .call .. | .cast .. | .exists .. | .atTimeZone ..
  | .jsonObject _ | .case .. => by
    rw [Expr.plain] <;> rfl

theorem soleTable?_plain (sources : List FromItem) : soleTable? (plainSources sources) = soleTable? sources := by
  match sources with
  | [] => rfl
  | [.table t] => rfl
  | [.join j] => rfl
  | [.query q alias?] => rfl
  | .table _ :: _ :: _ | .join _ :: _ :: _ | .query _ _ :: _ :: _ => rfl

theorem solePieces_plain (sources : List FromItem) : solePieces (plainSources sources) = solePieces sources := by
  rw [solePieces, solePieces, soleTable?_plain]

mutual

theorem Expr.pieces_plain : (e : Expr) → e.plain.pieces = e.pieces
  | .value v => by rw [Expr.plain, Expr.pieces_ofValue, Expr.pieces]
  | .adapted _ e => by rw [Expr.plain, Expr.pieces, e.pieces_plain]
  | .binary op left right => by
    rw [Expr.plain, Expr.pieces, Expr.pieces, left.pieces_plain, right.pieces_plain]
  | .connective op [] => rfl
  | .connective op (e :: rest) => by
    rw [Expr.plain, plainExprs, Expr.pieces, Expr.pieces, e.pieces_plain, exprPieces_plain rest]
  | .not e => by rw [Expr.plain, Expr.pieces, Expr.pieces, e.pieces_plain]
  | .empty e negated => by rw [Expr.plain, Expr.pieces, Expr.pieces, e.pieces_plain]
  | .is e test negated => by rw [Expr.plain, Expr.pieces, Expr.pieces, e.pieces_plain]
  | .cast e typeName => by rw [Expr.plain, Expr.pieces, Expr.pieces, e.pieces_plain]
  | .member e candidates negated => by
    rw [Expr.plain, Expr.pieces, Expr.pieces, e.pieces_plain, exprPieces_plain candidates]
  | .call function args => by rw [Expr.plain, Expr.pieces, Expr.pieces, exprPieces_plain args]
  | .exists query alias? negated => by rw [Expr.plain, Expr.pieces, Expr.pieces, query.pieces_plain]
  | .atTimeZone time zone => by
    rw [Expr.plain, Expr.pieces, Expr.pieces, zoneCheck_plain, time.pieces_plain, zone.pieces_plain]
  | .jsonObject entries => by rw [Expr.plain, Expr.pieces, Expr.pieces, entryPieces_plain entries]
  | .case [] fallback => by rw [Expr.plain, plainBranches, Expr.pieces, Expr.pieces]
  | .case (b :: rest) fallback => by
    rw [Expr.plain, plainBranches, Expr.pieces, Expr.pieces, b.pieces_plain, branchPieces_plain rest,
      optionalPieces_plain fallback]
  | .all _ | .column _ | .distinct _ | .array .. | .typedLiteral .. | .aliasName _ | .tableName _ => by
    rw [Expr.plain]

theorem exprPieces_plain : (es : List Expr) → exprPieces (plainExprs es) = exprPieces es
  | [] => rfl
  | e :: rest => by rw [plainExprs, exprPieces, exprPieces, e.pieces_plain, exprPieces_plain rest]

theorem entryPieces_plain : (es : List JsonEntry) → entryPieces (plainEntries es) = entryPieces es
  | [] => rfl
  | ⟨_, value⟩ :: rest => by
    rw [plainEntries, entryPieces, entryPieces, value.pieces_plain, entryPieces_plain rest]

theorem Branch.pieces_plain : (b : Branch) → b.plain.pieces = b.pieces
  | ⟨condition, result⟩ => by
    rw [Branch.plain, Branch.pieces, Branch.pieces, condition.pieces_plain, result.pieces_plain]

theorem branchPieces_plain : (bs : List Branch) → branchPieces (plainBranches bs) = branchPieces bs
  | [] => rfl
  | b :: rest => by rw [plainBranches, branchPieces, branchPieces, b.pieces_plain, branchPieces_plain rest]

theorem Projection.pieces_plain : (p : Projection) → p.plain.pieces = p.pieces
  | ⟨e, _⟩ => by rw [Projection.plain, Projection.pieces, Projection.pieces, e.pieces_plain]

theorem projectionPieces_plain : (ps : List Projection) → projectionPieces (plainProjections ps) = projectionPieces ps
  | [] => rfl
  | p :: rest => by
    rw [plainProjections, projectionPieces, projectionPieces, p.pieces_plain, projectionPieces_plain rest]

theorem Projection.groupPieces_plain : (p : Projection) → p.plain.groupPieces = p.groupPieces
  | ⟨_, some _⟩ => rfl
  | ⟨e, none⟩ => by
    rw [Projection.plain, Projection.groupPieces, Projection.groupPieces, e.pieces_plain]

theorem groupPieces_plain : (ps : List Projection) → groupPieces (plainProjections ps) = groupPieces ps
  | [] => rfl
  | p :: rest => by rw [plainProjections, groupPieces, groupPieces, p.groupPieces_plain, groupPieces_plain rest]

theorem Aggregate.pieces_plain : (a : Aggregate) → a.plain.pieces = a.pieces
  | ⟨_, e, _, _, _⟩ => by rw [Aggregate.plain, Aggregate.pieces, Aggregate.pieces, e.pieces_plain]

theorem aggregatePieces_plain : (as : List Aggregate) → aggregatePieces (plainAggregates as) = aggregatePieces as
  | [] => rfl
  | a :: rest => by
    rw [plainAggregates, aggregatePieces, aggregatePieces, a.pieces_plain, aggregatePieces_plain rest]

theorem OrderTerm.pieces_plain : (o : OrderTerm) → o.plain.pieces = o.pieces
  | .expr e _ _ => by rw [OrderTerm.plain, OrderTerm.pieces, OrderTerm.pieces, e.pieces_plain]
  | .case [] => rfl
  | .case (b :: rest) => by
    rw [OrderTerm.plain, plainBranches, OrderTerm.pieces, OrderTerm.pieces, b.pieces_plain, branchPieces_plain rest]

theorem orderPieces_plain : (os : List OrderTerm) → orderPieces (plainTerms os) = orderPieces os
  | [] => rfl
  | o :: rest => by rw [plainTerms, orderPieces, orderPieces, o.pieces_plain, orderPieces_plain rest]

theorem FromItem.columnPieces_plain : (i : FromItem) → i.plain.columnPieces = i.columnPieces
  | .table _ | .query _ _ => rfl
  | .join ⟨⟨projections, _, _, _, _, _, _, _, _, _, _⟩, _, _, _, _, _⟩ => by
    rw [FromItem.plain, Join.plain, Query.plain, FromItem.columnPieces, FromItem.columnPieces,
      projectionPieces_plain projections]

theorem joinedColumns_plain : (is : List FromItem) → joinedColumns (plainSources is) = joinedColumns is
  | [] => rfl
  | i :: rest => by rw [plainSources, joinedColumns, joinedColumns, i.columnPieces_plain, joinedColumns_plain rest]

theorem Join.pieces_plain : (j : Join) → j.plain.pieces = j.pieces
  | ⟨query, _, _, condition, _, some _⟩ => by
    rw [Join.plain, Join.pieces, Join.pieces, query.pieces_plain, optionalPieces_plain condition]
  | ⟨⟨_, _, sources, _, _, _, _, _, _, _, _⟩, _, _, condition, _, none⟩ => by
    rw [Join.plain, Query.plain, Join.pieces, Join.pieces, solePieces_plain, optionalPieces_plain condition]

theorem FromItem.pieces_plain : (i : FromItem) → i.plain.pieces = i.pieces
  | .table _ => rfl
  | .join j => by rw [FromItem.plain, FromItem.pieces, FromItem.pieces, j.pieces_plain]
  | .query q _ => by rw [FromItem.plain, FromItem.pieces, FromItem.pieces, q.pieces_plain]

theorem sourcePieces_plain : (is : List FromItem) → sourcePieces (plainSources is) = sourcePieces is
  | [] => rfl
  | i :: rest => by rw [plainSources, sourcePieces, sourcePieces, i.pieces_plain, sourcePieces_plain rest]

theorem optionalPieces_plain : (e : Option Expr) → optionalPieces (plainOption e) = optionalPieces e
  | none => rfl
  | some e => by rw [plainOption, optionalPieces, optionalPieces, e.pieces_plain]

theorem optionalKeys_plain : (ps : Option (List Projection)) → optionalKeys (plainKeys ps) = optionalKeys ps
  | none => rfl
  | some ps => by rw [plainKeys, optionalKeys, optionalKeys, projectionPieces_plain ps]

theorem optionalOrder_plain : (os : Option (List OrderTerm)) → optionalOrder (plainOrder os) = optionalOrder os
  | none => rfl
  | some os => by rw [plainOrder, optionalOrder, optionalOrder, orderPieces_plain os]

theorem Query.pieces_plain : (q : Query) → q.plain.pieces = q.pieces
  | ⟨projections, aggregates, sources, condition, order, _, _, _, _, _, distinctOn⟩ => by
    rw [Query.plain, Query.pieces, Query.pieces, optionalKeys_plain distinctOn, aggregatePieces_plain aggregates,
      projectionPieces_plain projections, joinedColumns_plain sources, sourcePieces_plain sources,
      optionalPieces_plain condition, groupPieces_plain projections, optionalOrder_plain order]

end

def Assignment.plain (a : Assignment) : Assignment := { a with expr := a.expr.plain }

def UpdateSource.plain : UpdateSource → UpdateSource
  | .query q name => .query q.plain name
  | .unnamed q => .unnamed q.plain
  | .none => .none
  | .tables ts => .tables ts
  | .aliased ts => .aliased ts

def InsertSource.plain : InsertSource → InsertSource
  | .rows items => .rows items
  | .select q => .select q.plain

def UpdateSource.IsPlain : UpdateSource → Prop
  | .query q _ | .unnamed q => q.IsPlain
  | .none | .tables _ | .aliased _ => True

def InsertSource.IsPlain : InsertSource → Prop
  | .rows _ => True
  | .select q => q.IsPlain

def Update.plain (u : Update) : Update :=
  { u with
    assignments := u.assignments.map (·.plain)
    source := u.source.plain
    condition := plainOption u.condition
    returning := plainKeys u.returning }

def Delete.plain (d : Delete) : Delete := { d with condition := plainOption d.condition }

def Insert.plain (i : Insert) : Insert := { i with source := i.source.plain, returning := plainKeys i.returning }

namespace Writable

def plain : Writable → Writable
  | .expr e => .expr e.plain
  | .query q => .query q.plain
  | .update u => .update u.plain
  | .delete d => .delete d.plain
  | .insert i => .insert i.plain

def IsPlain : Writable → Prop
  | .expr e => e.IsPlain
  | .query q => q.IsPlain
  | .update u => (∀ a ∈ u.assignments, a.expr.IsPlain) ∧ u.source.IsPlain ∧ PlainOption u.condition
      ∧ PlainKeys u.returning
  | .delete d => PlainOption d.condition
  | .insert i => i.source.IsPlain ∧ PlainKeys i.returning

end Writable

theorem UpdateSource.isPlain_plain (source : UpdateSource) : source.plain.IsPlain := by
  cases source with
  | query q name => exact q.isPlain_plain
  | unnamed q => exact q.isPlain_plain
  | none | tables | aliased => trivial

theorem UpdateSource.pieces_plain (source : UpdateSource) : source.plain.pieces = source.pieces := by
  cases source with
  | query q name => rw [plain, pieces, pieces, q.pieces_plain]
  | unnamed q => rw [plain, pieces, pieces, q.pieces_plain]
  | none | tables | aliased => rfl

theorem InsertSource.isPlain_plain (source : InsertSource) : source.plain.IsPlain := by
  cases source with
  | rows items => trivial
  | select q => exact q.isPlain_plain

theorem InsertSource.pieces_plain (table : String) (fields : List InsertField) (source : InsertSource) :
    source.plain.pieces table fields = source.pieces table fields := by
  cases source with
  | rows items => rfl
  | select q => rw [plain, pieces, pieces, q.pieces_plain]

theorem InsertSource.items_plain (source : InsertSource) : source.plain.items = source.items := by
  cases source <;> rfl

theorem Assignment.chunks_plain (a : Assignment) : a.plain.chunks = a.chunks := by
  rw [chunks, chunks, plain, Expr.chunks, Expr.chunks, a.expr.pieces_plain]

theorem conditionPieces_plain (condition : Option Expr) :
    conditionPieces (plainOption condition) = conditionPieces condition := by
  rw [conditionPieces, conditionPieces, optionalPieces_plain]

theorem map_plainKeys {α : Type} {f : List Projection → α} (hf : ∀ ps, f (plainProjections ps) = f ps)
    (columns : Option (List Projection)) : (plainKeys columns).map f = columns.map f := by
  cases columns with
  | none => rfl
  | some ps => exact congrArg some (hf ps)

theorem Update.chunks_plain (u : Update) : u.plain.chunks = u.chunks := by
  have hassignments : u.plain.assignments.mapM (·.chunks) = u.assignments.mapM (·.chunks) := by
    rw [plain, List.mapM_map]
    exact congrArg (fun f => u.assignments.mapM f) (funext Assignment.chunks_plain)
  have hempty : u.plain.assignments.isEmpty = u.assignments.isEmpty := List.isEmpty_map
  have hreturning : u.plain.returningColumns = u.returningColumns :=
    map_plainKeys (fun ps => by rw [projectionPieces_plain]) u.returning
  have hsource : u.plain.source.pieces = u.source.pieces := u.source.pieces_plain
  have hcondition : conditionPieces u.plain.condition = conditionPieces u.condition :=
    conditionPieces_plain u.condition
  rw [chunks, chunks, hassignments, hempty, hreturning, hsource, hcondition]
  rfl

theorem Delete.chunks_plain (d : Delete) : d.plain.chunks = d.chunks := by
  rw [chunks, chunks, pieces, pieces, plain, conditionPieces_plain]

theorem Insert.chunks_plain (i : Insert) (table : String) : i.plain.chunks table = i.chunks table := by
  have hsource : i.plain.source.pieces table i.plain.fields = i.source.pieces table i.fields :=
    i.source.pieces_plain table i.fields
  have htail : i.plain.tailPieces = i.tailPieces := by
    rw [tailPieces, tailPieces, plain, map_plainKeys projectionPieces_plain]
  rw [chunks, chunks, hsource, htail]
  rfl

theorem Insert.write_of_plain (i : Insert) : i.plain.write = i.write := by
  have hitems : i.plain.source.items = i.source.items := i.source.items_plain
  have hchunks : i.plain.chunks = i.chunks := funext i.chunks_plain
  rw [write, write, hchunks, hitems]
  rfl

namespace Writable

theorem isPlain_plain (w : Writable) : w.plain.IsPlain := by
  cases w with
  | expr e => exact e.isPlain_plain
  | query q => exact q.isPlain_plain
  | update u =>
    refine ⟨fun a ha => ?_, u.source.isPlain_plain, plainOption_plain u.condition, plainKeys_plain u.returning⟩
    obtain ⟨b, -, rfl⟩ := List.mem_map.mp ha
    exact b.expr.isPlain_plain
  | delete d => exact plainOption_plain d.condition
  | insert i => exact ⟨i.source.isPlain_plain, plainKeys_plain i.returning⟩

theorem write_plain (w : Writable) : w.plain.IsPlain ∧ w.plain.write = w.write := by
  refine ⟨w.isPlain_plain, ?_⟩
  cases w with
  | expr e => rw [plain, write, write, Expr.write, Expr.write, Expr.chunks, Expr.chunks, e.pieces_plain]
  | query q => rw [plain, write, write, Query.write, Query.write, Query.chunks, Query.chunks, q.pieces_plain]
  | update u => rw [plain, write, write, Update.write, Update.write, u.chunks_plain]
  | delete d => rw [plain, write, write, Delete.write, Delete.write, d.chunks_plain]
  | insert i => rw [plain, write, write, i.write_of_plain]

end Writable

end RelationalMapping
