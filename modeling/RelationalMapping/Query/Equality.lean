import RelationalMapping.Query.Basic

namespace RelationalMapping

def sameOption {α : Type} (same : α → α → Bool) : Option α → Option α → Bool
  | none, none => true
  | some a, some b => same a b
  | _, _ => false

def sameList {α : Type} (same : α → α → Bool) : List α → List α → Bool
  | [], [] => true
  | a :: as, b :: bs => same a b && sameList same as bs
  | _, _ => false

def Table.same (t u : Table) : Bool := t.entity.typeName == u.entity.typeName && t.alias? == u.alias?

def Column.same (c d : Column) : Bool := c.table.same d.table && c.property == d.property

def IntoField.same (i j : IntoField) : Bool :=
  i.target.typeName == j.target.typeName && i.column.same j.column

mutual

def Expr.same : Expr → Expr → Bool
  | .all t, .all u => sameOption Table.same t u
  | .column c, .column d => c.same d
  | .distinct c, .distinct d => c.same d
  | .value v, .value w => v.same w
  | .array s as, .array t bs => (Value.array s as).same (.array t bs)
  | .binary op a b, .binary op' c d => op == op' && a.same c && b.same d
  | .connective op as, .connective op' bs => op == op' && sameExprs as bs
  | .not a, .not b => a.same b
  | .empty a n, .empty b m => a.same b && n == m
  | .is a t n, .is b u m => a.same b && t == u && n == m
  | .member a as n, .member b bs m => a.same b && sameExprs as bs && n == m
  | .call f as, .call g bs => f == g && sameExprs as bs
  | .typedLiteral s a, .typedLiteral t b => s == t && a == b
  | .cast a s, .cast b t => a.same b && s == t
  | .exists q a n, .exists r b m => q.same r && a == b && n == m
  | .atTimeZone a z, .atTimeZone b w => a.same b && z.same w
  | .jsonObject as, .jsonObject bs => sameEntries as bs
  | .case as f, .case bs g => sameBranches as bs && sameFallback f g
  | .aliasName a, .aliasName b => a == b
  | .tableName t, .tableName u => t.same u
  | .adapted k a, .adapted l b => k == l && a.same b
  | _, _ => false
termination_by structural a => a

def sameExprs : List Expr → List Expr → Bool
  | [], [] => true
  | a :: as, b :: bs => a.same b && sameExprs as bs
  | _, _ => false
termination_by structural a => a

def sameEntries : List JsonEntry → List JsonEntry → Bool
  | [], [] => true
  | ⟨k, a⟩ :: as, ⟨l, b⟩ :: bs => k == l && a.same b && sameEntries as bs
  | _, _ => false
termination_by structural a => a

def sameBranches : List Branch → List Branch → Bool
  | [], [] => true
  | ⟨a, b⟩ :: as, ⟨c, d⟩ :: bs => a.same c && b.same d && sameBranches as bs
  | _, _ => false
termination_by structural a => a

def sameFallback : Option Expr → Option Expr → Bool
  | none, none => true
  | some a, some b => a.same b
  | _, _ => false
termination_by structural a => a

def sameProjections : List Projection → List Projection → Bool
  | [], [] => true
  | ⟨a, s⟩ :: as, ⟨b, t⟩ :: bs => a.same b && s == t && sameProjections as bs
  | _, _ => false
termination_by structural a => a

def sameKeys : Option (List Projection) → Option (List Projection) → Bool
  | none, none => true
  | some as, some bs => sameProjections as bs
  | _, _ => false
termination_by structural a => a

def sameAggregates : List Aggregate → List Aggregate → Bool
  | [], [] => true
  | ⟨f, a, vs, s, n⟩ :: as, ⟨g, b, ws, t, m⟩ :: bs =>
    f == g && a.same b && sameList Value.same vs ws && s == t && n == m && sameAggregates as bs
  | _, _ => false
termination_by structural a => a

def OrderTerm.same : OrderTerm → OrderTerm → Bool
  | .expr a d n, .expr b e m => a.same b && d == e && n == m
  | .case as, .case bs => sameBranches as bs
  | _, _ => false
termination_by structural a => a

def sameTerms : List OrderTerm → List OrderTerm → Bool
  | [], [] => true
  | a :: as, b :: bs => a.same b && sameTerms as bs
  | _, _ => false
termination_by structural a => a

def sameOrder : Option (List OrderTerm) → Option (List OrderTerm) → Bool
  | none, none => true
  | some as, some bs => sameTerms as bs
  | _, _ => false
termination_by structural a => a

def Join.same : Join → Join → Bool
  | ⟨q, k, i, c, s, a⟩, ⟨r, l, j, d, t, b⟩ =>
    q.same r && k == l && sameOption IntoField.same i j && sameFallback c d
      && sameOption (sameList Column.same) s t && a == b
termination_by structural a => a

def FromItem.same : FromItem → FromItem → Bool
  | .table t, .table u => t.same u
  | .join j, .join k => j.same k
  | .query q a, .query r b => q.same r && a == b
  | _, _ => false
termination_by structural a => a

def sameSources : List FromItem → List FromItem → Bool
  | [], [] => true
  | a :: as, b :: bs => a.same b && sameSources as bs
  | _, _ => false
termination_by structural a => a

def Query.same : Query → Query → Bool
  | ⟨ps, as, ss, c, o, l, f, g, d, r, k⟩, ⟨ps', as', ss', c', o', l', f', g', d', r', k'⟩ =>
    sameProjections ps ps' && sameAggregates as as' && sameSources ss ss' && sameFallback c c'
      && sameOrder o o' && l == l' && f == f' && g == g' && d == d' && r == r' && sameKeys k k'
termination_by structural a => a

end

end RelationalMapping
