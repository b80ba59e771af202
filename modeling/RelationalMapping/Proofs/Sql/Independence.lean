import RelationalMapping.Proofs.Sql.Positional

namespace RelationalMapping

def Expr.NamesKnownZone (zone : Expr) : Prop :=
  ∀ name, zone.unadapted = .value (.text name) → isTimeZone name = true

inductive Value.Like (related : Value → Value → Prop) : Value → Value → Prop
  | null : Value.Like related .null .null
  | bound {v w : Value} (hv : v.isNull = false) (hw : w.isNull = false) (h : related v w) :
    Value.Like related v w

mutual

inductive Expr.Like (related : Value → Value → Prop) : Expr → Expr → Prop
  | all (t : Option Table) : Expr.Like related (.all t) (.all t)
  | column (c : Column) : Expr.Like related (.column c) (.column c)
  | distinct (c : Column) : Expr.Like related (.distinct c) (.distinct c)
  | value {v w : Value} (h : v.Like related w) : Expr.Like related (.value v) (.value w)
  | array {s t : String} {xs ys : List Value} (h : related (.array s xs) (.array t ys)) :
    Expr.Like related (.array s xs) (.array t ys)
  | binary (op : BinaryOp) {a b c d : Expr} (hl : Expr.Like related a b)
    (hr : Expr.Like related c d) : Expr.Like related (.binary op a c) (.binary op b d)
  | connective (op : Connective) {as bs : List Expr} (h : List.Forall₂ (Expr.Like related) as bs) :
    Expr.Like related (.connective op as) (.connective op bs)
  | not {a b : Expr} (h : Expr.Like related a b) : Expr.Like related (.not a) (.not b)
  | empty {a b : Expr} (negated : Bool) (h : Expr.Like related a b) :
    Expr.Like related (.empty a negated) (.empty b negated)
  | is {a b : Expr} (test : TruthTest) (negated : Bool) (h : Expr.Like related a b) :
    Expr.Like related (.is a test negated) (.is b test negated)
  | member {a b : Expr} {as bs : List Expr} (negated : Bool) (h : Expr.Like related a b)
    (hs : List.Forall₂ (Expr.Like related) as bs) :
    Expr.Like related (.member a as negated) (.member b bs negated)
  | call (function : String) {as bs : List Expr} (h : List.Forall₂ (Expr.Like related) as bs) :
    Expr.Like related (.call function as) (.call function bs)
  | typedLiteral (typeName text : String) :
    Expr.Like related (.typedLiteral typeName text) (.typedLiteral typeName text)
  | cast {a b : Expr} (typeName : String) (h : Expr.Like related a b) :
    Expr.Like related (.cast a typeName) (.cast b typeName)
  | exists {q r : Query} (alias? : Option String) (negated : Bool) (h : Query.Like related q r) :
    Expr.Like related (.exists q alias? negated) (.exists r alias? negated)
  | atTimeZone {a b c d : Expr} (ht : Expr.Like related a b) (hz : Expr.Like related c d)
    (hc : c.NamesKnownZone) (hd : d.NamesKnownZone) :
    Expr.Like related (.atTimeZone a c) (.atTimeZone b d)
  | jsonObject {as bs : List JsonEntry} (h : List.Forall₂ (JsonEntry.Like related) as bs) :
    Expr.Like related (.jsonObject as) (.jsonObject bs)
  | case {as bs : List Branch} {a b : Option Expr} (h : List.Forall₂ (Branch.Like related) as bs)
    (hf : Option.Rel (Expr.Like related) a b) : Expr.Like related (.case as a) (.case bs b)
  | aliasName (name : String) : Expr.Like related (.aliasName name) (.aliasName name)
  | tableName (t : Table) : Expr.Like related (.tableName t) (.tableName t)
  | adapted (adapter : Adapter) {a b : Expr} (h : Expr.Like related a b) :
    Expr.Like related (.adapted adapter a) (.adapted adapter b)

inductive JsonEntry.Like (related : Value → Value → Prop) : JsonEntry → JsonEntry → Prop
  | mk (key : String) {a b : Expr} (h : Expr.Like related a b) :
    JsonEntry.Like related ⟨key, a⟩ ⟨key, b⟩

inductive Branch.Like (related : Value → Value → Prop) : Branch → Branch → Prop
  | mk {a b c d : Expr} (hc : Expr.Like related a b) (hr : Expr.Like related c d) :
    Branch.Like related ⟨a, c⟩ ⟨b, d⟩

inductive Projection.Like (related : Value → Value → Prop) : Projection → Projection → Prop
  | mk {a b : Expr} (alias? : Option String) (h : Expr.Like related a b) :
    Projection.Like related ⟨a, alias?⟩ ⟨b, alias?⟩

inductive Aggregate.Like (related : Value → Value → Prop) : Aggregate → Aggregate → Prop
  | mk (function : String) {a b : Expr} {vs ws : List Value} (alias? : Option String)
    (unnested : Bool) (h : Expr.Like related a b) (hs : List.Forall₂ (Value.Like related) vs ws) :
    Aggregate.Like related ⟨function, a, vs, alias?, unnested⟩ ⟨function, b, ws, alias?, unnested⟩

inductive OrderTerm.Like (related : Value → Value → Prop) : OrderTerm → OrderTerm → Prop
  | expr {a b : Expr} (descending : Bool) (nulls : Option NullsOrder) (h : Expr.Like related a b) :
    OrderTerm.Like related (.expr a descending nulls) (.expr b descending nulls)
  | case {as bs : List Branch} (h : List.Forall₂ (Branch.Like related) as bs) :
    OrderTerm.Like related (.case as) (.case bs)

inductive Join.Like (related : Value → Value → Prop) : Join → Join → Prop
  | mk {q r : Query} (kind : JoinKind) (into : Option IntoField) {a b : Option Expr}
    (shared : Option (List Column)) (alias? : Option String) (hq : Query.Like related q r)
    (h : Option.Rel (Expr.Like related) a b) :
    Join.Like related ⟨q, kind, into, a, shared, alias?⟩ ⟨r, kind, into, b, shared, alias?⟩

inductive FromItem.Like (related : Value → Value → Prop) : FromItem → FromItem → Prop
  | table (t : Table) : FromItem.Like related (.table t) (.table t)
  | join {i j : Join} (h : Join.Like related i j) : FromItem.Like related (.join i) (.join j)
  | query {q r : Query} (alias? : Option String) (h : Query.Like related q r) :
    FromItem.Like related (.query q alias?) (.query r alias?)

inductive Query.Like (related : Value → Value → Prop) : Query → Query → Prop
  | mk {projections projections' : List Projection} {aggregates aggregates' : List Aggregate}
    {sources sources' : List FromItem} {condition condition' : Option Expr}
    {order order' : Option (List OrderTerm)} (limit offset : Option UInt64)
    (grouped distinct random : Bool) {distinctOn distinctOn' : Option (List Projection)}
    (hprojections : List.Forall₂ (Projection.Like related) projections projections')
    (haggregates : List.Forall₂ (Aggregate.Like related) aggregates aggregates')
    (hsources : List.Forall₂ (FromItem.Like related) sources sources')
    (hcondition : Option.Rel (Expr.Like related) condition condition')
    (horder : Option.Rel (List.Forall₂ (OrderTerm.Like related)) order order')
    (hkeys : Option.Rel (List.Forall₂ (Projection.Like related)) distinctOn distinctOn') :
    Query.Like related
      ⟨projections, aggregates, sources, condition, order, limit, offset, grouped, distinct, random,
        distinctOn⟩
      ⟨projections', aggregates', sources', condition', order', limit, offset, grouped, distinct,
        random, distinctOn'⟩

end

inductive Piece.Like (related : Value → Value → Prop) : Piece → Piece → Prop
  | same {p : Piece} (h : p.values = []) : Piece.Like related p p
  | bound {v w : Value} (h : related v w) : Piece.Like related (.bound v) (.bound w)

variable {related : Value → Value → Prop}

abbrev PiecesLike (related : Value → Value → Prop) : List Piece → List Piece → Prop :=
  List.Forall₂ (Piece.Like related)

theorem like_text (s : String) : Piece.Like related (.text s) (.text s) := .same rfl

theorem like_same {pieces : List Piece} (h : pieces.flatMap Piece.values = []) :
    PiecesLike related pieces pieces := by
  rw [PiecesLike, List.forall₂_same]
  intro p hp
  exact .same (List.flatMap_eq_nil_iff.mp h p hp)

theorem like_append {a b c d : List Piece} (h : PiecesLike related a b) (h' : PiecesLike related c d) :
    PiecesLike related (a ++ c) (b ++ d) := List.rel_append h h'

theorem like_between (before after : String) {a b : List Piece} (h : PiecesLike related a b) :
    PiecesLike related (Piece.text before :: a ++ [Piece.text after]) (Piece.text before :: b ++ [Piece.text after]) :=
  like_append (.cons (like_text before) h) (like_same rfl)

theorem like_enclosed {a b : List Piece} (h : PiecesLike related a b) :
    PiecesLike related (enclosed a) (enclosed b) := like_between "(" ")" h

theorem like_separated (separator : String) {as bs : List (List Piece)}
    (h : List.Forall₂ (PiecesLike related) as bs) :
    PiecesLike related (separated (.text separator) as) (separated (.text separator) bs) := by
  induction h with
  | nil => exact .nil
  | cons ha hrest ih =>
    cases hrest with
    | nil => exact ha
    | cons _ _ => exact like_append ha (.cons (like_text separator) ih)

theorem like_listed {as bs : List (List Piece)} (h : List.Forall₂ (PiecesLike related) as bs) :
    PiecesLike related (listed as) (listed bs) := like_separated ", " h

theorem like_operation (op : BinaryOp) {a b c d : List Piece} (hl : PiecesLike related a b)
    (hr : PiecesLike related c d) : PiecesLike related (operation op a c) (operation op b d) := by
  have hpieces := like_append hl (.cons (like_text (" " ++ op.text ++ " ")) hr)
  unfold operation
  split
  · exact like_enclosed hpieces
  · exact hpieces

theorem Value.like_piece {v w : Value} (h : v.Like related w) : Piece.Like related v.piece w.piece := by
  cases h with
  | null => exact like_text "NULL"
  | bound hv hw h =>
    have hpiece : ∀ u : Value, u.isNull = false → u.piece = .bound u := by
      intro u hu
      cases u with
      | null => cases hu
      | _ => rfl
    rw [hpiece v hv, hpiece w hw]
    exact .bound h

theorem like_arguments {vs ws : List Value} (h : List.Forall₂ (Value.Like related) vs ws) :
    List.Forall₂ (PiecesLike related) (vs.map fun v => [v.piece]) (ws.map fun w => [w.piece]) := by
  induction h with
  | nil => exact .nil
  | cons hv _ ih => exact .cons (.cons (Value.like_piece hv) .nil) ih

theorem like_membership {a b : List Piece} {as bs : List (List Piece)} (negated : Bool)
    (h : PiecesLike related a b) (hs : List.Forall₂ (PiecesLike related) as bs) :
    PiecesLike related (membership a as negated) (membership b bs negated) := by
  cases hs with
  | nil => exact like_between _ _ h
  | cons ha hrest =>
    refine like_append (like_append (.cons (like_text "(") h) ?_) (like_same rfl)
    exact .cons (like_text _) (like_listed (.cons ha hrest))

theorem zoneCheck_of_known {zone : Expr} (h : zone.NamesKnownZone) : zoneCheck zone = [] := by
  unfold zoneCheck
  split
  · rename_i name hname
    rw [if_pos (h name hname)]
  · rfl

theorem like_clause (keyword : String) {a b : Option (List Piece)}
    (h : Option.Rel (PiecesLike related) a b) :
    PiecesLike related (clause keyword a) (clause keyword b) := by
  cases h with
  | none => exact .nil
  | some h => exact .cons (like_text keyword) h

theorem like_distinct (distinct : Bool) {as bs : Option (List (List Piece))}
    (h : Option.Rel (List.Forall₂ (PiecesLike related)) as bs) :
    PiecesLike related (distinctPieces distinct as) (distinctPieces distinct bs) := by
  cases distinct with
  | true => exact like_same rfl
  | false =>
    cases h with
    | none => exact .nil
    | some h => exact like_between "DISTINCT ON (" ") " (like_listed h)

theorem like_ordering (random : Bool) {as bs : Option (List (List Piece))}
    (h : Option.Rel (List.Forall₂ (PiecesLike related)) as bs) :
    PiecesLike related (orderingPieces random as) (orderingPieces random bs) := by
  cases random with
  | true => exact like_same rfl
  | false =>
    cases h with
    | none => exact .nil
    | some h => exact .cons (like_text " ORDER BY ") (like_listed h)

theorem like_grouping (grouped : Bool) {as bs : List (List Piece)}
    (h : List.Forall₂ (PiecesLike related) as bs) :
    PiecesLike related (clause " GROUP BY " (if grouped then some (listed as) else none))
      (clause " GROUP BY " (if grouped then some (listed bs) else none)) := by
  cases grouped with
  | true => exact like_clause " GROUP BY " (.some (like_listed h))
  | false => exact .nil

theorem like_joinMatch (shared : Option (List Column)) {a b : Option (List Piece)}
    (h : Option.Rel (PiecesLike related) a b) :
    PiecesLike related (joinMatch a shared) (joinMatch b shared) := by
  cases h with
  | none => exact like_same (gather_joinMatch none shared)
  | some h => exact .cons (like_text " ON ") h

theorem soleTable_like {as bs : List FromItem} (h : List.Forall₂ (FromItem.Like related) as bs) :
    soleTable? as = soleTable? bs := by
  cases h with
  | nil => rfl
  | cons ha hrest =>
    cases hrest with
    | nil => cases ha <;> rfl
    | cons _ _ => cases ha <;> rfl

theorem like_sole {as bs : List FromItem} (h : List.Forall₂ (FromItem.Like related) as bs) :
    PiecesLike related (solePieces as) (solePieces bs) := by
  have hsame : solePieces as = solePieces bs := by
    unfold solePieces
    rw [soleTable_like h]
  rw [hsame]
  exact like_same (gather_sole bs)

mutual

theorem Expr.like_pieces : (a b : Expr) → a.Like related b → PiecesLike related a.pieces b.pieces
  | _, _, .all t => like_same (by cases t <;> simp [Expr.pieces, Piece.values])
  | _, _, .column c => like_same (by simp [Expr.pieces, Piece.values])
  | _, _, .distinct c => like_same (by simp [Expr.pieces, Piece.values])
  | _, _, .value h => by
    rw [Expr.pieces, Expr.pieces]
    exact .cons (Value.like_piece h) .nil
  | _, _, .array h => by
    rw [Expr.pieces, Expr.pieces]
    exact .cons (.bound h) .nil
  | .binary _ a c, .binary _ b d, .binary op hl hr => by
    rw [Expr.pieces, Expr.pieces]
    exact like_operation op (Expr.like_pieces a b hl) (Expr.like_pieces c d hr)
  | .connective _ [], .connective _ [], .connective op _ =>
    like_same (by simp [Expr.pieces, Piece.values])
  | .connective _ (a :: as), .connective _ (b :: bs), .connective op (.cons h hs) => by
    rw [Expr.pieces, Expr.pieces]
    exact like_enclosed
      (like_separated _ (.cons (Expr.like_pieces a b h) (like_exprPieces as bs hs)))
  | .not a, .not b, .not h => by
    rw [Expr.pieces, Expr.pieces]
    exact like_between "(NOT " ")" (Expr.like_pieces a b h)
  | .empty a _, .empty b _, .empty negated h => by
    rw [Expr.pieces, Expr.pieces]
    exact like_append (.cons (like_text "(") (Expr.like_pieces a b h)) (like_same rfl)
  | .is a _ _, .is b _ _, .is test negated h => by
    rw [Expr.pieces, Expr.pieces]
    exact like_between "(" _ (Expr.like_pieces a b h)
  | .member a as _, .member b bs _, .member negated h hs => by
    rw [Expr.pieces, Expr.pieces]
    exact like_membership negated (Expr.like_pieces a b h) (like_exprPieces as bs hs)
  | .call _ as, .call _ bs, .call function h => by
    rw [Expr.pieces, Expr.pieces]
    exact .cons (.same rfl) (like_enclosed (like_listed (like_exprPieces as bs h)))
  | _, _, .typedLiteral typeName text => like_same (by simp [Expr.pieces, Piece.values])
  | .cast a _, .cast b _, .cast typeName h => by
    rw [Expr.pieces, Expr.pieces]
    exact like_append (.cons (like_text "(") (Expr.like_pieces a b h)) (like_same rfl)
  | .exists q _ _, .exists r _ _, .exists alias? negated h => by
    rw [Expr.pieces, Expr.pieces]
    exact like_append (.cons (like_text _) (like_enclosed (Query.like_pieces q r h)))
      (like_same (gather_queryAlias alias?))
  | .atTimeZone a c, .atTimeZone b d, .atTimeZone ht hz hc hd => by
    rw [Expr.pieces, Expr.pieces, zoneCheck_of_known hc, zoneCheck_of_known hd]
    have hzone := Expr.like_pieces c d hz
    exact like_append (like_append (.cons (like_text "(") (Expr.like_pieces a b ht))
      (.cons (like_text " AT TIME ZONE ") hzone)) (like_same rfl)
  | .jsonObject as, .jsonObject bs, .jsonObject h => by
    rw [Expr.pieces, Expr.pieces]
    exact .cons (like_text _) (like_enclosed (like_listed (like_entryPieces as bs h)))
  | .case [] _, .case [] _, .case _ _ => by
    rw [Expr.pieces, Expr.pieces]
    exact like_same rfl
  | .case (a :: as) x, .case (b :: bs) y, .case (.cons h hs) hf => by
    rw [Expr.pieces, Expr.pieces]
    have hbranches := like_separated " " (.cons (Branch.like_pieces a b h) (like_branchPieces as bs hs))
    have hfallback := like_clause " ELSE " (like_optionalPieces x y hf)
    exact like_append (like_append (.cons (like_text "CASE ") hbranches) hfallback) (like_same rfl)
  | _, _, .aliasName name => like_same (by simp [Expr.pieces, Piece.values])
  | _, _, .tableName t => like_same (by simp [Expr.pieces, Piece.values])
  | .adapted _ a, .adapted _ b, .adapted _ h => by
    rw [Expr.pieces, Expr.pieces]
    exact Expr.like_pieces a b h
termination_by structural a => a

theorem like_exprPieces : (as bs : List Expr) → List.Forall₂ (Expr.Like related) as bs →
    List.Forall₂ (PiecesLike related) (exprPieces as) (exprPieces bs)
  | [], [], _ => by simp [exprPieces]
  | a :: as, b :: bs, .cons h hs => by
    rw [exprPieces, exprPieces]
    exact .cons (Expr.like_pieces a b h) (like_exprPieces as bs hs)
termination_by structural a => a

theorem like_entryPieces : (as bs : List JsonEntry) → List.Forall₂ (JsonEntry.Like related) as bs →
    List.Forall₂ (PiecesLike related) (entryPieces as) (entryPieces bs)
  | [], [], _ => by simp [entryPieces]
  | ⟨_, a⟩ :: as, ⟨_, b⟩ :: bs, .cons (.mk key h) hs => by
    rw [entryPieces, entryPieces]
    exact .cons (.cons (.same rfl) (.cons (like_text ", ") (Expr.like_pieces a b h)))
      (like_entryPieces as bs hs)
termination_by structural a => a

theorem Branch.like_pieces : (a b : Branch) → a.Like related b → PiecesLike related a.pieces b.pieces
  | ⟨a, c⟩, ⟨b, d⟩, .mk hc hr => by
    rw [Branch.pieces, Branch.pieces]
    exact like_append (.cons (like_text "WHEN ") (Expr.like_pieces a b hc))
      (.cons (like_text " THEN ") (Expr.like_pieces c d hr))
termination_by structural a => a

theorem like_branchPieces : (as bs : List Branch) → List.Forall₂ (Branch.Like related) as bs →
    List.Forall₂ (PiecesLike related) (branchPieces as) (branchPieces bs)
  | [], [], _ => by simp [branchPieces]
  | a :: as, b :: bs, .cons h hs => by
    rw [branchPieces, branchPieces]
    exact .cons (Branch.like_pieces a b h) (like_branchPieces as bs hs)
termination_by structural a => a

theorem Projection.like_pieces : (a b : Projection) → a.Like related b →
    PiecesLike related a.pieces b.pieces
  | ⟨a, _⟩, ⟨b, _⟩, .mk alias? h => by
    rw [Projection.pieces, Projection.pieces]
    exact like_append (Expr.like_pieces a b h) (like_same (gather_alias alias?))
termination_by structural a => a

theorem like_projectionPieces : (as bs : List Projection) →
    List.Forall₂ (Projection.Like related) as bs →
    List.Forall₂ (PiecesLike related) (projectionPieces as) (projectionPieces bs)
  | [], [], _ => by simp [projectionPieces]
  | a :: as, b :: bs, .cons h hs => by
    rw [projectionPieces, projectionPieces]
    exact .cons (Projection.like_pieces a b h) (like_projectionPieces as bs hs)
termination_by structural a => a

theorem Projection.like_groupPieces : (a b : Projection) → a.Like related b →
    PiecesLike related a.groupPieces b.groupPieces
  | ⟨_, some _⟩, ⟨_, some _⟩, .mk _ _ => by
    rw [Projection.groupPieces, Projection.groupPieces]
    exact like_same rfl
  | ⟨a, none⟩, ⟨b, none⟩, .mk _ h => by
    rw [Projection.groupPieces, Projection.groupPieces]
    exact Expr.like_pieces a b h
termination_by structural a => a

theorem like_groupPieces : (as bs : List Projection) → List.Forall₂ (Projection.Like related) as bs →
    List.Forall₂ (PiecesLike related) (groupPieces as) (groupPieces bs)
  | [], [], _ => by simp [groupPieces]
  | a :: as, b :: bs, .cons h hs => by
    rw [groupPieces, groupPieces]
    exact .cons (Projection.like_groupPieces a b h) (like_groupPieces as bs hs)
termination_by structural a => a

theorem Aggregate.like_pieces : (a b : Aggregate) → a.Like related b →
    PiecesLike related a.pieces b.pieces
  | ⟨_, a, _, _, _⟩, ⟨_, b, _, _, _⟩, .mk function alias? unnested h hs => by
    have hargs := like_listed (.cons (Expr.like_pieces a b h) (like_arguments hs))
    have hcall := List.Forall₂.cons (.same (p := .verbatim function) rfl) (like_enclosed hargs)
    rw [Aggregate.pieces, Aggregate.pieces]
    refine like_append ?_ (like_same (gather_alias alias?))
    cases unnested with
    | true => exact .cons (like_text "unnest") (like_enclosed hcall)
    | false => exact hcall
termination_by structural a => a

theorem like_aggregatePieces : (as bs : List Aggregate) → List.Forall₂ (Aggregate.Like related) as bs →
    List.Forall₂ (PiecesLike related) (aggregatePieces as) (aggregatePieces bs)
  | [], [], _ => by simp [aggregatePieces]
  | a :: as, b :: bs, .cons h hs => by
    rw [aggregatePieces, aggregatePieces]
    exact .cons (Aggregate.like_pieces a b h) (like_aggregatePieces as bs hs)
termination_by structural a => a

theorem OrderTerm.like_pieces : (a b : OrderTerm) → a.Like related b →
    PiecesLike related a.pieces b.pieces
  | .expr a _ _, .expr b _ _, .expr descending nulls h => by
    rw [OrderTerm.pieces, OrderTerm.pieces]
    exact like_append (Expr.like_pieces a b h)
      (.cons (like_text _) (like_same (gather_nulls nulls)))
  | .case [], .case [], .case _ => by
    rw [OrderTerm.pieces]
    exact like_same rfl
  | .case (a :: as), .case (b :: bs), .case (.cons h hs) => by
    rw [OrderTerm.pieces, OrderTerm.pieces]
    exact like_between "CASE " " END"
      (like_separated " " (.cons (Branch.like_pieces a b h) (like_branchPieces as bs hs)))
termination_by structural a => a

theorem like_orderPieces : (as bs : List OrderTerm) → List.Forall₂ (OrderTerm.Like related) as bs →
    List.Forall₂ (PiecesLike related) (orderPieces as) (orderPieces bs)
  | [], [], _ => by simp [orderPieces]
  | a :: as, b :: bs, .cons h hs => by
    rw [orderPieces, orderPieces]
    exact .cons (OrderTerm.like_pieces a b h) (like_orderPieces as bs hs)
termination_by structural a => a

theorem FromItem.like_columnPieces : (a b : FromItem) → a.Like related b →
    List.Forall₂ (PiecesLike related) a.columnPieces b.columnPieces
  | .table _, .table _, _ => by simp [FromItem.columnPieces]
  | .query _ _, .query _ _, _ => by simp [FromItem.columnPieces]
  | .join ⟨⟨as, _, _, _, _, _, _, _, _, _, _⟩, _, _, _, _, _⟩,
      .join ⟨⟨bs, _, _, _, _, _, _, _, _, _, _⟩, _, _, _, _, _⟩,
      .join (.mk _ into _ _ (.mk _ _ _ _ _ h _ _ _ _ _) _) => by
    have hmarker : ∀ edge, List.Forall₂ (PiecesLike related) (markerPieces edge into)
        (markerPieces edge into) := by
      intro edge
      cases into with
      | none => exact .nil
      | some into => exact .cons (like_same rfl) .nil
    rw [FromItem.columnPieces, FromItem.columnPieces]
    exact List.rel_append (List.rel_append (hmarker .start) (like_projectionPieces as bs h))
      (hmarker .stop)
termination_by structural a => a

theorem like_joinedColumns : (as bs : List FromItem) → List.Forall₂ (FromItem.Like related) as bs →
    List.Forall₂ (PiecesLike related) (joinedColumns as) (joinedColumns bs)
  | [], [], _ => by simp [joinedColumns]
  | a :: as, b :: bs, .cons h hs => by
    rw [joinedColumns, joinedColumns]
    exact List.rel_append (FromItem.like_columnPieces a b h) (like_joinedColumns as bs hs)
termination_by structural a => a

theorem Join.like_pieces : (a b : Join) → a.Like related b → PiecesLike related a.pieces b.pieces
  | ⟨q, _, _, a, _, some _⟩, ⟨r, _, _, b, _, some _⟩, .mk kind into shared _ hq h => by
    rw [Join.pieces, Join.pieces]
    exact like_append (.cons (like_text _) (like_enclosed (Query.like_pieces q r hq)))
      (.cons (like_text " ") (.cons (.same rfl) (like_joinMatch shared (like_optionalPieces a b h))))
  | ⟨_, _, _, a, _, none⟩, ⟨_, _, _, b, _, none⟩, .mk kind into shared _ (.mk _ _ _ _ _ _ _ hs _ _ _) h => by
    rw [Join.pieces, Join.pieces]
    exact like_append (.cons (like_text _) (like_sole hs))
      (like_joinMatch shared (like_optionalPieces a b h))
termination_by structural a => a

theorem FromItem.like_pieces : (a b : FromItem) → a.Like related b →
    PiecesLike related a.pieces b.pieces
  | _, _, .table t => like_same (by simp [FromItem.pieces])
  | .join a, .join b, .join h => by
    rw [FromItem.pieces, FromItem.pieces]
    exact Join.like_pieces a b h
  | .query q _, .query r _, .query alias? h => by
    rw [FromItem.pieces, FromItem.pieces]
    exact like_append (like_enclosed (Query.like_pieces q r h))
      (like_same (gather_queryAlias alias?))
termination_by structural a => a

theorem like_sourcePieces : (as bs : List FromItem) → List.Forall₂ (FromItem.Like related) as bs →
    List.Forall₂ (PiecesLike related) (sourcePieces as) (sourcePieces bs)
  | [], [], _ => by simp [sourcePieces]
  | a :: as, b :: bs, .cons h hs => by
    rw [sourcePieces, sourcePieces]
    exact .cons (FromItem.like_pieces a b h) (like_sourcePieces as bs hs)
termination_by structural a => a

theorem like_optionalPieces : (a b : Option Expr) → Option.Rel (Expr.Like related) a b →
    Option.Rel (PiecesLike related) (optionalPieces a) (optionalPieces b)
  | none, none, _ => by
    rw [optionalPieces]
    exact .none
  | some a, some b, .some h => by
    rw [optionalPieces, optionalPieces]
    exact .some (Expr.like_pieces a b h)
termination_by structural a => a

theorem like_optionalKeys : (as bs : Option (List Projection)) →
    Option.Rel (List.Forall₂ (Projection.Like related)) as bs →
    Option.Rel (List.Forall₂ (PiecesLike related)) (optionalKeys as) (optionalKeys bs)
  | none, none, _ => by
    rw [optionalKeys]
    exact .none
  | some as, some bs, .some h => by
    rw [optionalKeys, optionalKeys]
    exact .some (like_projectionPieces as bs h)
termination_by structural a => a

theorem like_optionalOrder : (as bs : Option (List OrderTerm)) →
    Option.Rel (List.Forall₂ (OrderTerm.Like related)) as bs →
    Option.Rel (List.Forall₂ (PiecesLike related)) (optionalOrder as) (optionalOrder bs)
  | none, none, _ => by
    rw [optionalOrder]
    exact .none
  | some as, some bs, .some h => by
    rw [optionalOrder, optionalOrder]
    exact .some (like_orderPieces as bs h)
termination_by structural a => a

theorem Query.like_pieces : (q r : Query) → q.Like related r → PiecesLike related q.pieces r.pieces
  | ⟨ps, gs, ss, c, o, _, _, _, _, _, ks⟩, ⟨ps', gs', ss', c', o', _, _, _, _, _, ks'⟩,
      .mk limit offset grouped distinct random hp hg hs hc ho hk => by
    have hcolumns := like_listed (List.rel_append (List.rel_append (like_aggregatePieces gs gs' hg)
      (like_projectionPieces ps ps' hp)) (like_joinedColumns ss ss' hs))
    have hdistinct := like_distinct distinct (like_optionalKeys ks ks' hk)
    have hsources := like_separated " " (like_sourcePieces ss ss' hs)
    have hcondition := like_clause " WHERE " (like_optionalPieces c c' hc)
    have hgrouping := like_grouping grouped (like_groupPieces ps ps' hp)
    have hordering := like_ordering random (like_optionalOrder o o' ho)
    have hlimit : PiecesLike related (countPieces " LIMIT " limit) (countPieces " LIMIT " limit) :=
      like_same (gather_count _ limit)
    have hoffset : PiecesLike related (countPieces " OFFSET " offset) (countPieces " OFFSET " offset) :=
      like_same (gather_count _ offset)
    rw [Query.pieces, Query.pieces]
    exact like_append (like_append (like_append (like_append (like_append (like_append (like_append
      (.cons (like_text "SELECT ") hdistinct) hcolumns) (.cons (like_text " FROM ") hsources))
      hcondition) hgrouping) hordering) hlimit) hoffset
termination_by structural a => a

end

inductive Chunk.Like (related : Value → Value → Prop) : Chunk → Chunk → Prop
  | text (s : String) : Chunk.Like related (.text s) (.text s)
  | bound {v w : Value} (h : related v w) : Chunk.Like related (.bound v) (.bound w)

theorem Piece.resolve_like {p q : Piece} (h : p.Like related q) :
    Naming.Alike (Chunk.Like related) p.resolve q.resolve := by
  cases h with
  | bound h => exact Naming.alike_pure (.bound h)
  | same hp =>
    have htext : ∀ s : String, Chunk.Like related (.text s) (.text s) := .text
    cases p with
    | bound v => cases hp
    | tableName e =>
      refine Naming.alike_bind (Naming.alike_self (fun _ => rfl) (Naming.table e)) ?_
      rintro name _ rfl
      exact Naming.alike_pure (htext _)
    | failure fault => exact Naming.alike_throw _ fault
    | _ => exact fun _ => ⟨rfl, htext _⟩

theorem resolve_like {ps qs : List Piece} (h : PiecesLike related ps qs) :
    Naming.Alike (List.Forall₂ (Chunk.Like related)) (resolve ps) (resolve qs) := by
  induction h with
  | nil => exact Naming.alike_pure .nil
  | cons hp _ ih =>
    rw [resolve_cons, resolve_cons]
    refine Naming.alike_bind (Piece.resolve_like hp) fun c d hc => ?_
    refine Naming.alike_bind ih fun cs ds hcs => ?_
    exact Naming.alike_pure (.cons hc hcs)

structure Fragment.Like (related : Value → Value → Prop) (f g : Fragment) : Prop where
  sql : f.sql = g.sql
  values : List.Forall₂ related f.values g.values

theorem Fragment.like_ofChunks {cs ds : List Chunk} (h : List.Forall₂ (Chunk.Like related) cs ds) :
    Fragment.Like related (.ofChunks cs) (.ofChunks ds) := by
  induction h with
  | nil => exact ⟨rfl, .nil⟩
  | cons hc _ ih =>
    obtain ⟨hsql, hvalues⟩ := ih
    simp only [ofChunks] at hsql hvalues
    cases hc with
    | text s =>
      refine ⟨?_, hvalues⟩
      simp only [ofChunks, List.map_cons, String.join_cons, hsql]
    | bound h =>
      refine ⟨?_, .cons h hvalues⟩
      simp only [ofChunks, List.map_cons, String.join_cons, hsql]
      rfl

inductive Writable.Like (related : Value → Value → Prop) : Writable → Writable → Prop
  | expr {a b : Expr} (h : a.Like related b) : Writable.Like related (.expr a) (.expr b)
  | query {q r : Query} (h : q.Like related r) : Writable.Like related (.query q) (.query r)

theorem Writable.write_independent {a b : Writable} (h : a.Like related b) (names : Names) :
    (a.write names).2 = (b.write names).2
      ∧ ((∃ fault, (a.write names).1 = .error fault ∧ (b.write names).1 = .error fault)
        ∨ ∃ f g, (a.write names).1 = .ok f ∧ (b.write names).1 = .ok g ∧ f.sql = g.sql
          ∧ f.values = a.parameters ∧ g.values = b.parameters ∧ List.Forall₂ related f.values g.values) := by
  have hwrite : Naming.Alike (Fragment.Like related) a.write b.write := by
    cases h with
    | expr h =>
      refine Naming.alike_bind (resolve_like (Expr.like_pieces _ _ h)) fun _ _ hchunks => ?_
      exact Naming.alike_pure (Fragment.like_ofChunks hchunks)
    | query h =>
      refine Naming.alike_bind (resolve_like (Query.like_pieces _ _ h)) fun _ _ hchunks => ?_
      exact Naming.alike_pure (Fragment.like_ofChunks hchunks)
  obtain ⟨hnames, hresult⟩ := hwrite names
  refine ⟨hnames, ?_⟩
  rcases hf : (a.write names).1 with fault | f <;> rcases hg : (b.write names).1 with other | g <;>
    simp only [hf, hg] at hresult
  · subst hresult
    exact .inl ⟨fault, rfl, rfl⟩
  · exact .inr ⟨f, g, rfl, rfl, hresult.sql, values_of_write hf, values_of_write hg, hresult.values⟩

theorem Writable.write_independent_zone :
    let a := Expr.atTimeZone (.value (.text "noon")) (.adapted .notNull (.value (.text "UTC")))
    let b := Expr.atTimeZone (.value (.text "'; --")) (.adapted .notNull (.value (.text "Europe/Paris")))
    ∃ f g, ((Writable.expr a).write {}).1 = .ok f ∧ ((Writable.expr b).write {}).1 = .ok g ∧ f.sql = g.sql
      ∧ f.values = [.text "noon", .text "UTC"] ∧ g.values = [.text "'; --", .text "Europe/Paris"] := by
  intro a b
  have hknown : ∀ zone ∈ ["UTC", "Europe/Paris"],
      (Expr.adapted .notNull (.value (.text zone))).NamesKnownZone := by
    have hplaces : timeZones[592]? = some "UTC" ∧ timeZones[464]? = some "Europe/Paris" := by decide +kernel
    intro zone hzone name hname
    cases hname
    simp only [List.mem_cons, List.not_mem_nil, or_false] at hzone
    rcases hzone with rfl | rfl
    · exact List.elem_eq_true_of_mem (List.mem_of_getElem? hplaces.1)
    · exact List.elem_eq_true_of_mem (List.mem_of_getElem? hplaces.2)
  have hlike : a.Like (fun v w => v.kind = w.kind) b :=
    .atTimeZone (.value (.bound rfl rfl rfl)) (.adapted _ (.value (.bound rfl rfl rfl)))
      (hknown _ (by simp)) (hknown _ (by simp))
  obtain ⟨-, ⟨fault, hfault, -⟩ | ⟨f, g, hf, hg, hsql, hvf, hvg, -⟩⟩ :=
    write_independent (.expr hlike) {}
  · simp [write, Expr.write, Expr.chunks, a, Expr.pieces, zoneCheck_of_known (hknown "UTC" (by simp))] at hfault
    cases hfault
  · refine ⟨f, g, hf, hg, hsql, ?_, ?_⟩
    · simpa [a, parameters, Expr.parameters, Value.parameters] using hvf
    · simpa [b, parameters, Expr.parameters, Value.parameters] using hvg

end RelationalMapping
