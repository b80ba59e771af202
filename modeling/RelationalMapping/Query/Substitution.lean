import RelationalMapping.Query.Basic

namespace RelationalMapping

/-- What replaces columns and values, and what becomes of every other expression once it is built again. -/
structure Substitution (m : Type → Type) where
  column : Column → m Expr
  value : Value → m Expr
  node : Expr → m Expr

namespace Substitution

variable {m : Type → Type} [Monad m]

def identity : Substitution m where
  column c := pure (.column c)
  value v := pure (.value v)
  node := pure

def withoutNot : Expr → Expr
  | .not e => e
  | e => e

mutual

def apply (s : Substitution m) : Expr → m Expr
  | .column c => s.column c
  | .value v => s.value v
  | .all table => s.node (.all table)
  | .distinct c => s.node (.distinct c)
  | .array elementType items => s.node (.array elementType items)
  | .typedLiteral typeName text => s.node (.typedLiteral typeName text)
  | .exists query alias? negated => s.node (.exists query alias? negated)
  | .aliasName name => s.node (.aliasName name)
  | .tableName table => s.node (.tableName table)
  | .binary op left right => do s.node (.binary op (← s.apply left) (← s.apply right))
  | .connective op items => do s.node (.connective op (← s.applyItems items))
  | .not e => do s.node (.not (← s.apply e))
  | .empty e negated => do s.node (.empty (← s.apply e) negated)
  | .is e test negated => do s.node (.is (← s.apply e) test negated)
  | .member e candidates negated => do
    s.node (.member (← s.apply e) (← s.applyItems candidates) negated)
  | .call function args => do s.node (.call function (← s.applyItems args))
  | .cast e typeName => do s.node (.cast (← s.apply e) typeName)
  | .atTimeZone time zone => do s.node (.atTimeZone (← s.apply time) (← s.apply zone))
  | .jsonObject entries => do s.node (.jsonObject (← s.applyEntries entries))
  | .case branches fallback => do
    s.node (.case (← s.applyBranches branches) (← s.applyOption fallback))
  | .adapted adapter e => do s.node (.adapted adapter (← s.apply e))

def applyItems (s : Substitution m) : List Expr → m (List Expr)
  | [] => pure []
  | e :: rest => return (← s.apply e) :: (← s.applyItems rest)

def applyEntries (s : Substitution m) : List JsonEntry → m (List JsonEntry)
  | [] => pure []
  | ⟨key, value⟩ :: rest => return ⟨key, ← s.apply value⟩ :: (← s.applyEntries rest)

def applyBranches (s : Substitution m) : List Branch → m (List Branch)
  | [] => pure []
  | ⟨condition, result⟩ :: rest =>
    return ⟨← s.apply condition, ← s.apply result⟩ :: (← s.applyBranches rest)

def applyOption (s : Substitution m) : Option Expr → m (Option Expr)
  | none => pure none
  | some e => return some (← s.apply e)

end

end Substitution

end RelationalMapping
