import RelationalMapping.Mapping.Planner
import RelationalMapping.Proofs.Text.Folding

namespace RelationalMapping

namespace Matcher

def residue : Matcher → String → List Char
  | .exact, s => s.toList
  | .caseInsensitive, s => s.toList.map Char.toLower
  | .snakeCase, s => folded s

def Refines (m other : Matcher) : Prop :=
  ∀ label name, m.accepts label name = true → other.accepts label name = true

variable {m other : Matcher} {label name : String}

theorem accepts_iff : m.accepts label name = true ↔ m.residue label = m.residue name := by
  cases m with
  | exact => rw [accepts, beq_iff_eq, residue, residue, String.toList_inj]
  | caseInsensitive | snakeCase => exact sameFolded_iff

theorem Refines.refl (m : Matcher) : m.Refines m := fun _ _ h => h

theorem Refines.trans {last : Matcher} (h : m.Refines other) (hlast : other.Refines last) : m.Refines last :=
  fun label name haccepts => hlast label name (h label name haccepts)

theorem exact_refines : exact.Refines caseInsensitive := by
  intro label name h
  rw [accepts_iff, residue, residue] at h
  rw [accepts_iff, residue, residue, h]

theorem caseInsensitive_refines : caseInsensitive.Refines snakeCase := by
  intro label name h
  rw [accepts_iff, residue, residue] at h
  rw [accepts_iff, residue, residue, folded_eq_foldChars, folded_eq_foldChars, foldChars, foldChars, h]

theorem refines_snakeCase (m : Matcher) : m.Refines snakeCase := by
  cases m with
  | exact => exact exact_refines.trans caseInsensitive_refines
  | caseInsensitive => exact caseInsensitive_refines
  | snakeCase => exact .refl _

theorem equivalence (m : Matcher) : Equivalence fun label name => m.accepts label name = true where
  refl _ := accepts_iff.mpr rfl
  symm h := accepts_iff.mpr (accepts_iff.mp h).symm
  trans h hnext := accepts_iff.mpr ((accepts_iff.mp h).trans (accepts_iff.mp hnext))

def weaker : Matcher → Matcher → Matcher
  | .snakeCase, _ | _, .snakeCase => .snakeCase
  | .caseInsensitive, _ | _, .caseInsensitive => .caseInsensitive
  | .exact, .exact => .exact

theorem weaker_exact (m : Matcher) : m.weaker exact = m := by
  cases m <;> rfl

theorem weaker_comm (m other : Matcher) : m.weaker other = other.weaker m := by
  cases m <;> cases other <;> rfl

theorem weaker_eq_or (m other : Matcher) : m.weaker other = m ∨ m.weaker other = other := by
  cases m <;> cases other <;> simp [weaker]

theorem refines_weaker_left (m other : Matcher) : m.Refines (m.weaker other) := by
  cases other with
  | exact =>
    rw [weaker_exact]
    exact .refl m
  | caseInsensitive =>
    cases m with
    | exact => exact exact_refines
    | caseInsensitive | snakeCase => exact .refl _
  | snakeCase =>
    rw [weaker_comm]
    exact refines_snakeCase m

theorem refines_weaker_right (m other : Matcher) : other.Refines (m.weaker other) := by
  rw [weaker_comm]
  exact refines_weaker_left other m

def weakest (matchers : List Matcher) : Matcher := matchers.foldr weaker exact

theorem weakest_cons (m : Matcher) (rest : List Matcher) : weakest (m :: rest) = m.weaker (weakest rest) := rfl

variable {matchers : List Matcher}

theorem weakest_mem (h : matchers ≠ []) : weakest matchers ∈ matchers := by
  induction matchers with
  | nil => exact absurd rfl h
  | cons first rest ih =>
    rw [weakest_cons, List.mem_cons]
    rcases weaker_eq_or first (weakest rest) with heq | heq
    · exact .inl heq
    · cases rest with
      -- the strictest matcher ends every list, without being in it
      | nil => exact .inl (weaker_exact first)
      | cons second others =>
        rw [heq]
        exact .inr (ih (List.cons_ne_nil _ _))

theorem refines_weakest (matchers : List Matcher) : ∀ m ∈ matchers, m.Refines (weakest matchers) := by
  induction matchers with
  | nil => nofun
  | cons first rest ih =>
    rw [weakest_cons, List.forall_mem_cons]
    exact ⟨refines_weaker_left _ _, fun m hm => (ih m hm).trans (refines_weaker_right _ _)⟩

end Matcher

namespace MappingContext

open Matcher

variable {context : MappingContext} {label other name : String}

theorem matchers_ne_nil (h : context.accepts label name = true) : context.matchers ≠ [] := by
  intro hnone
  rw [accepts, hnone] at h
  cases h

theorem accepts_eq (h : context.matchers ≠ []) (label name : String) :
    context.accepts label name = (weakest context.matchers).accepts label name := by
  rw [Bool.eq_iff_iff, accepts, List.any_eq_true]
  constructor
  · rintro ⟨m, hm, haccepts⟩
    exact refines_weakest _ m hm label name haccepts
  · exact fun haccepts => ⟨_, weakest_mem h, haccepts⟩

theorem equivalence (h : context.matchers ≠ []) : Equivalence fun label name => context.accepts label name = true := by
  simpa only [accepts_eq h] using (weakest context.matchers).equivalence

theorem accepts_congr (h : context.accepts label other = true) (name : String) :
    context.accepts label name = context.accepts other name := by
  have hmatching := equivalence (matchers_ne_nil h)
  rw [Bool.eq_iff_iff]
  exact ⟨hmatching.trans (hmatching.symm h), hmatching.trans h⟩

end MappingContext

open MappingContext Matcher

variable {context : MappingContext} {label other name : String}

theorem accepts_self (h : context.matchers ≠ []) (name : String) : context.accepts name name = true :=
  (equivalence h).refl name

theorem standard_accepts_iff : MappingContext.standard.accepts label name = true ↔ folded label = folded name := by
  rw [accepts_eq (List.cons_ne_nil _ _)]
  exact Matcher.accepts_iff

theorem folded_eq_of_accepts (h : context.accepts label name = true) : folded label = folded name := by
  rw [accepts_eq (matchers_ne_nil h)] at h
  exact Matcher.accepts_iff.mp (refines_snakeCase _ label name h)

namespace MappingContext

theorem accepts_weakest (hmatchers : context.matchers ≠ []) :
    (∀ label name, Matcher.snakeCase.accepts label name = true ↔ folded label = folded name)
      ∧ Matcher.exact.Refines .caseInsensitive ∧ Matcher.caseInsensitive.Refines .snakeCase
      ∧ (∀ m : Matcher, Equivalence fun label name => m.accepts label name = true)
      ∧ (Equivalence fun label name => context.accepts label name = true)
      ∧ weakest context.matchers ∈ context.matchers ∧ (∀ m ∈ context.matchers, m.Refines (weakest context.matchers))
      ∧ (∀ label name, context.accepts label name = (weakest context.matchers).accepts label name)
      ∧ ∀ others : MappingContext, others.matchers ≠ [] → weakest others.matchers = weakest context.matchers →
        others.accepts = context.accepts := by
  refine ⟨fun label name => Matcher.accepts_iff, exact_refines, caseInsensitive_refines, Matcher.equivalence,
    MappingContext.equivalence hmatchers, weakest_mem hmatchers, refines_weakest _, accepts_eq hmatchers, ?_⟩
  intro others hothers hweakest
  funext label name
  rw [accepts_eq hothers, accepts_eq hmatchers, hweakest]

theorem accepts_weakest_reordered :
    let context : MappingContext := { matchers := [.exact, .caseInsensitive, .exact] }
    let others : MappingContext := { matchers := [.caseInsensitive, .exact] }
    others.accepts = context.accepts ∧ context.accepts "ID" "id" = true ∧ context.accepts "i_d" "id" = false := by
  intro context others
  have hmatchers : context.matchers ≠ [] := List.cons_ne_nil _ _
  obtain ⟨-, -, -, -, -, -, -, hdecides, hothers⟩ := accepts_weakest hmatchers
  refine ⟨hothers others (List.cons_ne_nil _ _) rfl, ?_, ?_⟩
  · rw [hdecides]
    decide +kernel
  · rw [hdecides]
    decide +kernel

end MappingContext

end RelationalMapping
