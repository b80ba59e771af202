import RelationalMapping.Proofs.Sql.Positional
import RelationalMapping.Query.Substitution

namespace RelationalMapping

mutual

def Expr.offered : Expr → List Value
  | .value v => [v]
  | .all _ | .column _ | .distinct _ | .array _ _ | .typedLiteral _ _ | .exists _ _ _ | .aliasName _
  | .tableName _ => []
  | .binary _ left right => left.offered ++ right.offered
  | .connective _ items => exprOffered items
  | .not e | .empty e _ | .is e _ _ | .cast e _ | .adapted _ e => e.offered
  | .member e candidates _ => e.offered ++ exprOffered candidates
  | .call _ args => exprOffered args
  | .atTimeZone time zone => time.offered ++ zone.offered
  | .jsonObject entries => entryOffered entries
  | .case branches fallback => branchOffered branches ++ optionalOffered fallback

def exprOffered : List Expr → List Value
  | [] => []
  | e :: rest => e.offered ++ exprOffered rest

def entryOffered : List JsonEntry → List Value
  | [] => []
  | ⟨_, value⟩ :: rest => value.offered ++ entryOffered rest

def branchOffered : List Branch → List Value
  | [] => []
  | ⟨condition, result⟩ :: rest => condition.offered ++ result.offered ++ branchOffered rest

def optionalOffered : Option Expr → List Value
  | some e => e.offered
  | none => []

end

namespace Substitution

variable {m : Type → Type} [Monad m]

def watching (note : Value → m Unit) : Substitution m :=
  { identity with value := fun v => do note v; return .value v }

def recorder : Substitution (StateM (List Value)) := watching fun v => modify (· ++ [v])

@[simp] theorem watching_node (note : Value → m Unit) (e : Expr) : (watching note).node e = pure e := rfl

variable [LawfulMonad m]

mutual

theorem apply_watching (note : Value → m Unit) :
    (e : Expr) → (watching note).apply e = do e.offered.forM note; return e
  | .column _ | .all _ | .distinct _ | .array _ _ | .typedLiteral _ _ | .exists _ _ _ | .aliasName _
  | .tableName _ => by simp [apply, watching, identity, Expr.offered]
  | .value v => by simp [apply, watching, Expr.offered]
  | .binary _ left right => by
    simp [apply, watching_node, Expr.offered, apply_watching note left, apply_watching note right]
  | .connective _ items => by simp [apply, watching_node, Expr.offered, applyItems_watching note items]
  | .not e | .empty e _ | .is e _ _ | .cast e _ | .adapted _ e => by
    simp [apply, watching_node, Expr.offered, apply_watching note e]
  | .member e candidates _ => by
    simp [apply, watching_node, Expr.offered, apply_watching note e, applyItems_watching note candidates]
  | .call _ args => by simp [apply, watching_node, Expr.offered, applyItems_watching note args]
  | .atTimeZone time zone => by
    simp [apply, watching_node, Expr.offered, apply_watching note time, apply_watching note zone]
  | .jsonObject entries => by simp [apply, watching_node, Expr.offered, applyEntries_watching note entries]
  | .case branches fallback => by
    simp [apply, watching_node, Expr.offered, applyBranches_watching note branches,
      applyOption_watching note fallback]

theorem applyItems_watching (note : Value → m Unit) :
    (es : List Expr) → (watching note).applyItems es = do (exprOffered es).forM note; return es
  | [] => by simp [applyItems, exprOffered]
  | e :: rest => by
    simp [applyItems, exprOffered, apply_watching note e, applyItems_watching note rest]

theorem applyEntries_watching (note : Value → m Unit) : (entries : List JsonEntry) →
    (watching note).applyEntries entries = do (entryOffered entries).forM note; return entries
  | [] => by simp [applyEntries, entryOffered]
  | ⟨_, value⟩ :: rest => by
    simp [applyEntries, entryOffered, apply_watching note value, applyEntries_watching note rest]

theorem applyBranches_watching (note : Value → m Unit) : (branches : List Branch) →
    (watching note).applyBranches branches = do (branchOffered branches).forM note; return branches
  | [] => by simp [applyBranches, branchOffered]
  | ⟨condition, result⟩ :: rest => by
    simp [applyBranches, branchOffered, apply_watching note condition, apply_watching note result,
      applyBranches_watching note rest]

theorem applyOption_watching (note : Value → m Unit) : (e? : Option Expr) →
    (watching note).applyOption e? = do (optionalOffered e?).forM note; return e?
  | none => by simp [applyOption, optionalOffered]
  | some e => by simp [applyOption, optionalOffered, apply_watching note e]

end

theorem forM_append_state {α : Type} (items seen : List α) :
    (items.forM fun item => modify (· ++ [item]) : StateM (List α) Unit).run seen = ((), seen ++ items) := by
  induction items generalizing seen with
  | nil => simp only [List.append_nil]; rfl
  | cons item rest ih =>
    have hrest := ih (seen ++ [item])
    rw [List.append_assoc] at hrest
    exact hrest

theorem run_apply_recorder (e : Expr) (seen : List Value) :
    (recorder.apply e).run seen = (e, seen ++ e.offered) := by
  have happly : recorder.apply e = do e.offered.forM fun v => modify (· ++ [v]); return e :=
    apply_watching _ e
  rw [happly, StateT.run_bind, forM_append_state]
  rfl

end Substitution

mutual

/-- Nothing in an expression keeps its values from a substitution: it has no sub-query and no array. -/
def Expr.IsOpen : Expr → Prop
  | .exists _ _ _ | .array _ _ => False
  | .value _ | .all _ | .column _ | .distinct _ | .typedLiteral _ _ | .aliasName _ | .tableName _ => True
  | .binary _ left right => left.IsOpen ∧ right.IsOpen
  | .connective _ items => ExprsOpen items
  | .not e | .empty e _ | .is e _ _ | .cast e _ | .adapted _ e => e.IsOpen
  | .member e candidates _ => e.IsOpen ∧ ExprsOpen candidates
  | .call _ args => ExprsOpen args
  | .atTimeZone time zone => time.IsOpen ∧ zone.IsOpen
  | .jsonObject entries => EntriesOpen entries
  | .case branches fallback => BranchesOpen branches ∧ OptionOpen fallback

def ExprsOpen : List Expr → Prop
  | [] => True
  | e :: rest => e.IsOpen ∧ ExprsOpen rest

def EntriesOpen : List JsonEntry → Prop
  | [] => True
  | ⟨_, value⟩ :: rest => value.IsOpen ∧ EntriesOpen rest

def BranchesOpen : List Branch → Prop
  | [] => True
  | ⟨condition, result⟩ :: rest => (condition.IsOpen ∧ result.IsOpen) ∧ BranchesOpen rest

def OptionOpen : Option Expr → Prop
  | some e => e.IsOpen
  | none => True

end

def Piece.faults : Piece → List Error
  | .failure fault => [fault]
  | _ => []

instance quiet_faults : Quiet Piece.faults :=
  ⟨fun _ => rfl, fun _ => rfl, fun _ => rfl, fun _ => rfl, fun _ _ => rfl⟩

@[simp] theorem faults_text (s : String) : (Piece.text s).faults = [] := rfl

@[simp] theorem faults_verbatim (s : String) : (Piece.verbatim s).faults = [] := rfl

@[simp] theorem faults_literal (s : String) : (Piece.literal s).faults = [] := rfl

@[simp] theorem faults_failure (fault : Error) : (Piece.failure fault).faults = [fault] := rfl

theorem Piece.faults_of_resolve {p : Piece} {chunk : Chunk} {names names' : Names}
    (h : p.resolve names = (.ok chunk, names')) : p.faults = [] := by
  cases p with
  | failure fault => cases h
  | _ => rfl

theorem faults_of_resolve {pieces : List Piece} {chunks : List Chunk} {names names' : Names}
    (h : resolve pieces names = (.ok chunks, names')) : pieces.flatMap Piece.faults = [] := by
  induction pieces generalizing chunks names with
  | nil => rfl
  | cons p rest ih =>
    rw [resolve_cons] at h
    obtain ⟨chunk, between, hp, h⟩ := Naming.bind_eq_ok.mp h
    obtain ⟨chunks, after, hrest, hpure⟩ := Naming.bind_eq_ok.mp h
    cases hpure
    rw [List.flatMap_cons, Piece.faults_of_resolve hp, ih hrest]
    rfl

theorem flatMap_parameters (values : List Value) :
    values.flatMap Value.parameters = values.filter (!·.isNull) := by
  induction values with
  | nil => rfl
  | cons v rest ih => cases v <;> simp [Value.parameters, Value.isNull, ih]

mutual

theorem Expr.parameters_offered : (e : Expr) → e.IsOpen → e.pieces.flatMap Piece.faults = [] →
    e.offered.flatMap Value.parameters = e.parameters
  | .value v, _, _ => by simp [Expr.offered, Expr.parameters]
  | .all _, _, _ | .column _, _, _ | .distinct _, _, _ | .typedLiteral _ _, _, _ | .aliasName _, _, _
  | .tableName _, _, _ => by simp [Expr.offered, Expr.parameters]
  | .exists _ _ _, h, _ => by simp [Expr.IsOpen] at h
  | .array _ _, h, _ => by simp [Expr.IsOpen] at h
  | .binary op left right, h, hf => by
    rw [Expr.IsOpen] at h
    rw [Expr.pieces, gather_operation, List.append_eq_nil_iff] at hf
    rw [Expr.offered, Expr.parameters, List.flatMap_append, left.parameters_offered h.1 hf.1,
      right.parameters_offered h.2 hf.2]
  | .connective _ items, h, hf => by
    rw [Expr.IsOpen] at h
    have hitems : (exprPieces items).flatMap (·.flatMap Piece.faults) = [] := by
      cases items with
      | nil => rfl
      | cons e rest => simpa [Expr.pieces, exprPieces] using hf
    rw [Expr.offered, Expr.parameters, exprParameters_offered items h hitems]
  | .not e, h, hf | .empty e _, h, hf | .is e _ _, h, hf | .cast e _, h, hf | .adapted _ e, h, hf => by
    rw [Expr.IsOpen] at h
    rw [Expr.offered, Expr.parameters, e.parameters_offered h (by simpa [Expr.pieces] using hf)]
  | .member e candidates _, h, hf => by
    rw [Expr.IsOpen] at h
    rw [Expr.pieces, gather_membership, List.append_eq_nil_iff] at hf
    rw [Expr.offered, Expr.parameters, List.flatMap_append, e.parameters_offered h.1 hf.1,
      exprParameters_offered candidates h.2 hf.2]
  | .call _ args, h, hf => by
    rw [Expr.IsOpen] at h
    rw [Expr.offered, Expr.parameters, exprParameters_offered args h
      (by simpa [Expr.pieces] using hf)]
  | .atTimeZone time zone, h, hf => by
    rw [Expr.IsOpen] at h
    have hparts : time.pieces.flatMap Piece.faults = [] ∧ zone.pieces.flatMap Piece.faults = [] := by
      simp only [Expr.pieces, List.flatMap_append, List.flatMap_cons, List.append_eq_nil_iff] at hf
      exact ⟨hf.1.1.2.2, hf.1.2.2⟩
    rw [Expr.offered, Expr.parameters, List.flatMap_append, time.parameters_offered h.1 hparts.1,
      zone.parameters_offered h.2 hparts.2]
  | .jsonObject entries, h, hf => by
    rw [Expr.IsOpen] at h
    rw [Expr.offered, Expr.parameters, entryParameters_offered entries h
      (by simpa [Expr.pieces] using hf)]
  | .case [] _, _, hf => by simp [Expr.pieces] at hf
  | .case (b :: rest) fallback, h, hf => by
    rw [Expr.IsOpen] at h
    have hparts : (branchPieces (b :: rest)).flatMap (·.flatMap Piece.faults) = []
        ∧ ((optionalPieces fallback).getD []).flatMap Piece.faults = [] := by
      simpa [Expr.pieces, branchPieces, and_assoc] using hf
    have hbranches := branchParameters_offered (b :: rest) h.1 hparts.1
    rw [branchParameters] at hbranches
    rw [Expr.offered, Expr.parameters, List.flatMap_append, hbranches,
      optionalParameters_offered fallback h.2 hparts.2]

theorem exprParameters_offered : (es : List Expr) → ExprsOpen es →
    (exprPieces es).flatMap (·.flatMap Piece.faults) = [] →
    (exprOffered es).flatMap Value.parameters = exprParameters es
  | [], _, _ => by simp [exprOffered, exprParameters]
  | e :: rest, h, hf => by
    rw [ExprsOpen] at h
    rw [exprPieces, List.flatMap_cons, List.append_eq_nil_iff] at hf
    rw [exprOffered, exprParameters, List.flatMap_append, e.parameters_offered h.1 hf.1,
      exprParameters_offered rest h.2 hf.2]

theorem entryParameters_offered : (entries : List JsonEntry) → EntriesOpen entries →
    (entryPieces entries).flatMap (·.flatMap Piece.faults) = [] →
    (entryOffered entries).flatMap Value.parameters = entryParameters entries
  | [], _, _ => by simp [entryOffered, entryParameters]
  | ⟨_, value⟩ :: rest, h, hf => by
    rw [EntriesOpen] at h
    rw [entryPieces, List.flatMap_cons, List.append_eq_nil_iff] at hf
    rw [entryOffered, entryParameters, List.flatMap_append,
      value.parameters_offered h.1 (by simpa using hf.1),
      entryParameters_offered rest h.2 hf.2]

theorem branchParameters_offered : (branches : List Branch) → BranchesOpen branches →
    (branchPieces branches).flatMap (·.flatMap Piece.faults) = [] →
    (branchOffered branches).flatMap Value.parameters = branchParameters branches
  | [], _, _ => by simp [branchOffered, branchParameters]
  | ⟨condition, result⟩ :: rest, h, hf => by
    rw [BranchesOpen] at h
    rw [branchPieces, List.flatMap_cons, List.append_eq_nil_iff] at hf
    have hb : condition.pieces.flatMap Piece.faults = [] ∧ result.pieces.flatMap Piece.faults = [] := by
      simpa [Branch.pieces] using hf.1
    rw [branchOffered, branchParameters, Branch.parameters, List.flatMap_append, List.flatMap_append,
      condition.parameters_offered h.1.1 hb.1, result.parameters_offered h.1.2 hb.2,
      branchParameters_offered rest h.2 hf.2]

theorem optionalParameters_offered : (e? : Option Expr) → OptionOpen e? →
    ((optionalPieces e?).getD []).flatMap Piece.faults = [] →
    (optionalOffered e?).flatMap Value.parameters = optionalParameters e?
  | none, _, _ => by simp [optionalOffered, optionalParameters]
  | some e, h, hf => by
    rw [OptionOpen] at h
    rw [optionalOffered, optionalParameters, e.parameters_offered h (by simpa [optionalPieces] using hf)]

end

theorem Expr.recorded_eq_values (e : Expr) (hopen : e.IsOpen) {names : Names} {f : Fragment}
    (h : (e.write names).1 = .ok f) :
    ∃ recorded, (∀ seen, (Substitution.recorder.apply e).run seen = (e, seen ++ recorded))
      ∧ recorded.filter (!·.isNull) = f.values := by
  have hwrite : ((Writable.expr e).write names).1 = .ok f := h
  have hresolved : ∃ chunks, resolve e.pieces names = (.ok chunks, (e.write names).2) := by
    have hw : (Writable.expr e).write names = (.ok f, (e.write names).2) := Prod.ext h rfl
    obtain ⟨chunks, hchunks, -⟩ := Writable.chunks_of_write hw
    exact ⟨chunks, hchunks⟩
  obtain ⟨chunks, hchunks⟩ := hresolved
  refine ⟨e.offered, Substitution.run_apply_recorder e, ?_⟩
  calc e.offered.filter (!·.isNull)
      = e.offered.flatMap Value.parameters := (flatMap_parameters e.offered).symm
    _ = e.parameters := e.parameters_offered hopen (faults_of_resolve hchunks)
    _ = f.values := (Writable.values_of_write hwrite).symm

theorem Expr.recorded_eq_values_case :
    let e := Expr.case
      [⟨.member (.value (.int 1)) [.value .null, .value (.int 2)] false, .value (.text "few")⟩]
      (some (.value .null))
    let f : Fragment :=
      { sql := "CASE WHEN (? IN (NULL, ?)) THEN ? ELSE NULL END", values := [.int 1, .int 2, .text "few"] }
    e.IsOpen ∧ (e.write {}).1 = .ok f
      ∧ ∃ recorded, (∀ seen, (Substitution.recorder.apply e).run seen = (e, seen ++ recorded))
        ∧ recorded.filter (!·.isNull) = f.values := by
  intro e f
  have hopen : e.IsOpen := by simp [e, Expr.IsOpen, BranchesOpen, ExprsOpen, OptionOpen]
  have hpieces : e.pieces
      = [.text "CASE ", .text "WHEN ", .text "(", .bound (.int 1), .text " IN (", .text "NULL", .text ", ",
        .bound (.int 2), .text "))", .text " THEN ", .bound (.text "few"), .text " ELSE ", .text "NULL",
        .text " END"] := by
    simp only [e, Expr.pieces, exprPieces, Branch.pieces, branchPieces, optionalPieces]
    rfl
  have hwrite : (e.write {}).1 = .ok f := by
    simp only [Expr.write, Expr.chunks, hpieces]
    rfl
  exact ⟨hopen, hwrite, e.recorded_eq_values hopen hwrite⟩

end RelationalMapping
