import RelationalMapping.Query.Select
import RelationalMapping.Query.Substitution

namespace RelationalMapping

/-- What a substitution leaves as it is: sub-queries, distinct columns, `*`, arrays, literals and names. -/
def Expr.IsSealed : Expr → Prop
  | .all _ | .distinct _ | .array _ _ | .typedLiteral _ _ | .exists _ _ _ | .aliasName _ | .tableName _ => True
  | _ => False

inductive Leaf where
  | column (c : Column)
  | value (v : Value)
  | sealed (e : Expr)

mutual

def Expr.leaves : Expr → List Leaf
  | .column c => [.column c]
  | .value v => [.value v]
  | .all table => [.sealed (.all table)]
  | .distinct c => [.sealed (.distinct c)]
  | .array elementType items => [.sealed (.array elementType items)]
  | .typedLiteral typeName text => [.sealed (.typedLiteral typeName text)]
  | .exists query alias? negated => [.sealed (.exists query alias? negated)]
  | .aliasName name => [.sealed (.aliasName name)]
  | .tableName table => [.sealed (.tableName table)]
  | .binary _ left right => left.leaves ++ right.leaves
  | .connective _ items => exprLeaves items
  | .not e | .empty e _ | .is e _ _ | .cast e _ | .adapted _ e => e.leaves
  | .member e candidates _ => e.leaves ++ exprLeaves candidates
  | .call _ args => exprLeaves args
  | .atTimeZone time zone => time.leaves ++ zone.leaves
  | .jsonObject entries => entryLeaves entries
  | .case branches fallback => branchLeaves branches ++ optionalLeaves fallback

def exprLeaves : List Expr → List Leaf
  | [] => []
  | e :: rest => e.leaves ++ exprLeaves rest

def entryLeaves : List JsonEntry → List Leaf
  | [] => []
  | ⟨_, value⟩ :: rest => value.leaves ++ entryLeaves rest

def branchLeaves : List Branch → List Leaf
  | [] => []
  | ⟨condition, result⟩ :: rest => condition.leaves ++ result.leaves ++ branchLeaves rest

def optionalLeaves : Option Expr → List Leaf
  | some e => e.leaves
  | none => []

end

theorem Expr.leaves_of_isSealed {e : Expr} (h : e.IsSealed) : e.leaves = [.sealed e] := by
  cases e <;> first | exact h.elim | simp [Expr.leaves]

def Leaf.standIns (f : Expr → Expr) : Leaf → List Leaf
  | .column c => (f (.column c)).leaves
  | .value v => (f (.value v)).leaves
  | .sealed e => [.sealed e]

def JsonEntry.map (f : Expr → Expr) (entry : JsonEntry) : JsonEntry := ⟨entry.key, f entry.value⟩

def Branch.map (f : Expr → Expr) (b : Branch) : Branch := ⟨f b.condition, f b.result⟩

theorem JsonEntry.map_id : JsonEntry.map id = id := by
  funext ⟨_, _⟩
  rfl

theorem Branch.map_id : Branch.map id = id := by
  funext ⟨_, _⟩
  rfl

structure Rebuilds (f : Expr → Expr) : Prop where
  sealed : ∀ {e : Expr}, e.IsSealed → f e = e
  binary : ∀ op left right, f (.binary op left right) = .binary op (f left) (f right)
  connective : ∀ op items, f (.connective op items) = .connective op (items.map f)
  not : ∀ e, f (.not e) = .not (f e)
  empty : ∀ e negated, f (.empty e negated) = .empty (f e) negated
  is : ∀ e test negated, f (.is e test negated) = .is (f e) test negated
  member : ∀ e candidates negated, f (.member e candidates negated) = .member (f e) (candidates.map f) negated
  call : ∀ function args, f (.call function args) = .call function (args.map f)
  cast : ∀ e typeName, f (.cast e typeName) = .cast (f e) typeName
  atTimeZone : ∀ time zone, f (.atTimeZone time zone) = .atTimeZone (f time) (f zone)
  jsonObject : ∀ entries, f (.jsonObject entries) = .jsonObject (entries.map (JsonEntry.map f))
  case : ∀ branches fallback, f (.case branches fallback) = .case (branches.map (Branch.map f)) (fallback.map f)
  adapted : ∀ adapter e, f (.adapted adapter e) = .adapted adapter (f e)

namespace Rebuilds

variable {f g : Expr → Expr}

theorem identity : Rebuilds id where
  sealed _ := rfl
  binary _ _ _ := rfl
  connective op items := congrArg (Expr.connective op) (List.map_id items).symm
  not _ := rfl
  empty _ _ := rfl
  is _ _ _ := rfl
  member e candidates negated := congrArg (Expr.member e · negated) (List.map_id candidates).symm
  call function args := congrArg (Expr.call function) (List.map_id args).symm
  cast _ _ := rfl
  atTimeZone _ _ := rfl
  jsonObject entries := by rw [JsonEntry.map_id, List.map_id]; rfl
  case branches fallback := by rw [Branch.map_id, List.map_id, Option.map_id]; rfl
  adapted _ _ := rfl

theorem comp (hf : Rebuilds f) (hg : Rebuilds g) : Rebuilds (f ∘ g) where
  sealed h := by rw [Function.comp_apply, hg.sealed h, hf.sealed h]
  binary op left right := by simp [hg.binary, hf.binary]
  connective op items := by simp [hg.connective, hf.connective]
  not e := by simp [hg.not, hf.not]
  empty e negated := by simp [hg.empty, hf.empty]
  is e test negated := by simp [hg.is, hf.is]
  member e candidates negated := by simp [hg.member, hf.member]
  call function args := by simp [hg.call, hf.call]
  cast e typeName := by simp [hg.cast, hf.cast]
  atTimeZone time zone := by simp [hg.atTimeZone, hf.atTimeZone]
  jsonObject entries := by simp [hg.jsonObject, hf.jsonObject, Function.comp_def, JsonEntry.map]
  case branches fallback := by simp [hg.case, hf.case, Function.comp_def, Branch.map]
  adapted adapter e := by simp [hg.adapted, hf.adapted]

structure Agree (f g : Expr → Expr) : Prop where
  left : Rebuilds f
  right : Rebuilds g
  column : ∀ c, f (.column c) = g (.column c)
  value : ∀ v, f (.value v) = g (.value v)

theorem Agree.eq_of_isSealed (h : Agree f g) {e : Expr} (he : e.IsSealed) : f e = g e :=
  (h.left.sealed he).trans (h.right.sealed he).symm

mutual

theorem Agree.eq (h : Agree f g) : (e : Expr) → f e = g e
  | .column c => h.column c
  | .value v => h.value v
  | .all _ | .distinct _ | .array _ _ | .typedLiteral _ _ | .exists _ _ _ | .aliasName _ | .tableName _ =>
    h.eq_of_isSealed trivial
  | .binary op left right => by rw [h.left.binary, h.right.binary, h.eq left, h.eq right]
  | .connective op items => by rw [h.left.connective, h.right.connective, h.map_eq items]
  | .not e => by rw [h.left.not, h.right.not, h.eq e]
  | .empty e negated => by rw [h.left.empty, h.right.empty, h.eq e]
  | .is e test negated => by rw [h.left.is, h.right.is, h.eq e]
  | .member e candidates negated => by rw [h.left.member, h.right.member, h.eq e, h.map_eq candidates]
  | .call function args => by rw [h.left.call, h.right.call, h.map_eq args]
  | .cast e typeName => by rw [h.left.cast, h.right.cast, h.eq e]
  | .atTimeZone time zone => by rw [h.left.atTimeZone, h.right.atTimeZone, h.eq time, h.eq zone]
  | .jsonObject entries => by rw [h.left.jsonObject, h.right.jsonObject, h.mapEntries_eq entries]
  | .case branches fallback => by
    rw [h.left.case, h.right.case, h.mapBranches_eq branches, h.mapOption_eq fallback]
  | .adapted adapter e => by rw [h.left.adapted, h.right.adapted, h.eq e]

theorem Agree.map_eq (h : Agree f g) : (es : List Expr) → es.map f = es.map g
  | [] => rfl
  | e :: rest => by rw [List.map_cons, List.map_cons, h.eq e, h.map_eq rest]

theorem Agree.mapEntries_eq (h : Agree f g) :
    (entries : List JsonEntry) → entries.map (JsonEntry.map f) = entries.map (JsonEntry.map g)
  | [] => rfl
  | ⟨key, value⟩ :: rest => by
    rw [List.map_cons, List.map_cons, JsonEntry.map, JsonEntry.map, h.eq value, h.mapEntries_eq rest]

theorem Agree.mapBranches_eq (h : Agree f g) :
    (branches : List Branch) → branches.map (Branch.map f) = branches.map (Branch.map g)
  | [] => rfl
  | ⟨condition, result⟩ :: rest => by
    rw [List.map_cons, List.map_cons, Branch.map, Branch.map, h.eq condition, h.eq result, h.mapBranches_eq rest]

theorem Agree.mapOption_eq (h : Agree f g) : (e? : Option Expr) → e?.map f = e?.map g
  | none => rfl
  | some e => congrArg some (h.eq e)

end

theorem leaves_eq_of_isSealed (hf : Rebuilds f) {e : Expr} (h : e.IsSealed) :
    (f e).leaves = e.leaves.flatMap (Leaf.standIns f) := by
  rw [hf.sealed h, e.leaves_of_isSealed h]
  rfl

mutual

theorem leaves_eq (hf : Rebuilds f) : (e : Expr) → (f e).leaves = e.leaves.flatMap (Leaf.standIns f)
  | .column _ | .value _ => by simp [Expr.leaves, Leaf.standIns]
  | .all _ | .distinct _ | .array _ _ | .typedLiteral _ _ | .exists _ _ _ | .aliasName _ | .tableName _ =>
    hf.leaves_eq_of_isSealed trivial
  | .binary op left right => by simp [hf.binary, Expr.leaves, hf.leaves_eq left, hf.leaves_eq right]
  | .connective op items => by simp [hf.connective, Expr.leaves, hf.exprLeaves_map items]
  | .not e => by simp [hf.not, Expr.leaves, hf.leaves_eq e]
  | .empty e _ => by simp [hf.empty, Expr.leaves, hf.leaves_eq e]
  | .is e _ _ => by simp [hf.is, Expr.leaves, hf.leaves_eq e]
  | .member e candidates _ => by
    simp [hf.member, Expr.leaves, hf.leaves_eq e, hf.exprLeaves_map candidates]
  | .call _ args => by simp [hf.call, Expr.leaves, hf.exprLeaves_map args]
  | .cast e _ => by simp [hf.cast, Expr.leaves, hf.leaves_eq e]
  | .atTimeZone time zone => by simp [hf.atTimeZone, Expr.leaves, hf.leaves_eq time, hf.leaves_eq zone]
  | .jsonObject entries => by simp [hf.jsonObject, Expr.leaves, hf.entryLeaves_map entries]
  | .case branches fallback => by
    simp [hf.case, Expr.leaves, hf.branchLeaves_map branches, hf.optionalLeaves_map fallback]
  | .adapted _ e => by simp [hf.adapted, Expr.leaves, hf.leaves_eq e]

theorem exprLeaves_map (hf : Rebuilds f) :
    (es : List Expr) → exprLeaves (es.map f) = (exprLeaves es).flatMap (Leaf.standIns f)
  | [] => rfl
  | e :: rest => by simp [exprLeaves, hf.leaves_eq e, hf.exprLeaves_map rest]

theorem entryLeaves_map (hf : Rebuilds f) : (entries : List JsonEntry) →
    entryLeaves (entries.map (JsonEntry.map f)) = (entryLeaves entries).flatMap (Leaf.standIns f)
  | [] => rfl
  | ⟨_, value⟩ :: rest => by
    simp [entryLeaves, JsonEntry.map, hf.leaves_eq value, hf.entryLeaves_map rest]

theorem branchLeaves_map (hf : Rebuilds f) : (branches : List Branch) →
    branchLeaves (branches.map (Branch.map f)) = (branchLeaves branches).flatMap (Leaf.standIns f)
  | [] => rfl
  | ⟨condition, result⟩ :: rest => by
    simp [branchLeaves, Branch.map, hf.leaves_eq condition, hf.leaves_eq result, hf.branchLeaves_map rest]

theorem optionalLeaves_map (hf : Rebuilds f) : (e? : Option Expr) →
    optionalLeaves (e?.map f) = (optionalLeaves e?).flatMap (Leaf.standIns f)
  | none => rfl
  | some e => hf.leaves_eq e

end

end Rebuilds

structure Replacement where
  column : Column → Expr
  value : Value → Expr

namespace Replacement

def substitution (r : Replacement) : Substitution Id where
  column c := pure (r.column c)
  value v := pure (r.value v)
  node := pure

def apply (r : Replacement) (e : Expr) : Expr := (r.substitution.apply e).run

def andThen (s t : Replacement) : Replacement where
  column c := t.apply (s.column c)
  value v := t.apply (s.value v)

section Parts

variable (r : Replacement)

theorem run_applyItems (es : List Expr) : (r.substitution.applyItems es).run = es.map r.apply := by
  induction es with
  | nil => rfl
  | cons e rest ih => exact congrArg (r.apply e :: ·) ih

theorem run_applyEntries (entries : List JsonEntry) :
    (r.substitution.applyEntries entries).run = entries.map (JsonEntry.map r.apply) := by
  induction entries with
  | nil => rfl
  | cons entry rest ih =>
    obtain ⟨key, value⟩ := entry
    exact congrArg (⟨key, r.apply value⟩ :: ·) ih

theorem run_applyBranches (branches : List Branch) :
    (r.substitution.applyBranches branches).run = branches.map (Branch.map r.apply) := by
  induction branches with
  | nil => rfl
  | cons b rest ih =>
    obtain ⟨condition, result⟩ := b
    exact congrArg (⟨r.apply condition, r.apply result⟩ :: ·) ih

theorem run_applyOption (e? : Option Expr) : (r.substitution.applyOption e?).run = e?.map r.apply := by
  cases e? <;> rfl

theorem rebuilds_apply : Rebuilds r.apply where
  sealed {e} h := by cases e <;> first | rfl | exact h.elim
  binary _ _ _ := rfl
  connective op items := congrArg (Expr.connective op) (r.run_applyItems items)
  not _ := rfl
  empty _ _ := rfl
  is _ _ _ := rfl
  member e candidates negated := congrArg (Expr.member (r.apply e) · negated) (r.run_applyItems candidates)
  call function args := congrArg (Expr.call function) (r.run_applyItems args)
  cast _ _ := rfl
  atTimeZone _ _ := rfl
  jsonObject entries := congrArg Expr.jsonObject (r.run_applyEntries entries)
  case branches fallback := by rw [← r.run_applyBranches, ← r.run_applyOption]; rfl
  adapted _ _ := rfl

end Parts

theorem agree_andThen (s t : Replacement) : Rebuilds.Agree (t.apply ∘ s.apply) (s.andThen t).apply where
  left := t.rebuilds_apply.comp s.rebuilds_apply
  right := (s.andThen t).rebuilds_apply
  column _ := rfl
  value _ := rfl

def keep : Replacement := ⟨.column, .value⟩

theorem agree_keep : Rebuilds.Agree keep.apply id where
  left := keep.rebuilds_apply
  right := Rebuilds.identity
  column _ := rfl
  value _ := rfl

theorem apply_andThen (s t : Replacement) (e : Expr) :
    t.apply (s.apply e) = (s.andThen t).apply e
      ∧ (Substitution.identity.apply e : Id Expr).run = e
      ∧ (e.IsSealed → t.apply (s.apply e) = e ∧ (s.andThen t).apply e = e)
      ∧ ∀ r : Replacement, (r.apply e).leaves = e.leaves.flatMap fun
          | .column c => (r.column c).leaves
          | .value v => (r.value v).leaves
          | .sealed e => [.sealed e] := by
  refine ⟨(agree_andThen s t).eq e, agree_keep.eq e,
    fun h => ⟨?_, (s.andThen t).rebuilds_apply.sealed h⟩, fun r => ?_⟩
  · rw [s.rebuilds_apply.sealed h, t.rebuilds_apply.sealed h]
  · rw [r.rebuilds_apply.leaves_eq e]
    rfl

theorem apply_andThen_subquery :
    let zones := (Entity.ofFields "Zone" "Zone" none []).table
    let name := zones.column "name"
    let north := zones.selectAll.filter (some (.compare .eq (.column name) (.value (.text "North"))))
    let e := Expr.exists north none true
    let s : Replacement := ⟨fun c => (Expr.column c).lower, fun _ => .column name⟩
    let t : Replacement := ⟨.column, fun _ => .value .null⟩
    e.IsSealed ∧ t.apply (s.apply e) = e ∧ (s.andThen t).apply e = e := by
  intro zones name north e s t
  have hsealed : e.IsSealed := trivial
  exact ⟨hsealed, (apply_andThen s t e).2.2.1 hsealed⟩

end Replacement

end RelationalMapping
