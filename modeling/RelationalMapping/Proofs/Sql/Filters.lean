import Mathlib.Data.List.Perm.Subperm
import RelationalMapping.Proofs.Sql.Positional

namespace RelationalMapping

mutual

/-- The conditions of a query and of what it reads from, as far as joins are followed under their aliases. -/
def Query.filters (follows : Option String → Bool) : Query → List Expr
  | ⟨_, _, sources, condition, _, _, _, _, _, _, _⟩ => sourceFilters follows sources ++ condition.toList

def Join.filters (follows : Option String → Bool) : Join → List Expr
  | ⟨query, _, _, _, _, alias?⟩ => if follows alias? then query.filters follows else []

def FromItem.filters (follows : Option String → Bool) : FromItem → List Expr
  | .table _ => []
  | .join j => j.filters follows
  | .query q _ => q.filters follows

def sourceFilters (follows : Option String → Bool) : List FromItem → List Expr
  | [] => []
  | item :: rest => item.filters follows ++ sourceFilters follows rest

end

def Query.allFilters (q : Query) : List Expr := q.filters fun _ => true

mutual

/-- What the joins without an alias lose, of a query and of what it reads from. -/
def Query.lostFilters : Query → List Expr
  | ⟨_, _, sources, _, _, _, _, _, _, _, _⟩ => sourceLosses sources

def Join.lostFilters : Join → List Expr
  | ⟨query, _, _, _, _, some _⟩ => query.lostFilters
  | ⟨query, _, _, _, _, none⟩ => query.allFilters

def FromItem.lostFilters : FromItem → List Expr
  | .table _ => []
  | .join j => j.lostFilters
  | .query q _ => q.lostFilters

def sourceLosses : List FromItem → List Expr
  | [] => []
  | item :: rest => item.lostFilters ++ sourceLosses rest

end

theorem parameters_toList (condition : Option Expr) :
    condition.toList.flatMap Expr.parameters = optionalParameters condition := by
  cases condition <;> simp [optionalParameters]

-- by cases on the alias of each join: with one, its query is written in full; without one, nothing is followed

mutual

theorem Query.filters_sublist : (q : Query) →
    ((q.filters Option.isSome).flatMap Expr.parameters).Sublist q.parameters
  | ⟨projections, aggregates, sources, condition, order, _, _, grouped, distinct, random, distinctOn⟩ => by
    rw [Query.filters, List.flatMap_append, parameters_toList, Query.parameters]
    refine List.Sublist.trans ?_ (List.sublist_append_left _ _)
    refine List.Sublist.trans ?_ (List.sublist_append_left _ _)
    refine List.Sublist.append ?_ (List.Sublist.refl _)
    exact (sourceFilters_sublist sources).trans (List.sublist_append_right _ _)

theorem Join.filters_sublist : (j : Join) →
    ((j.filters Option.isSome).flatMap Expr.parameters).Sublist j.parameters
  | ⟨query, _, _, condition, _, some name⟩ => by
    rw [Join.filters, Option.isSome_some, if_pos rfl, Join.parameters]
    exact query.filters_sublist.trans (List.sublist_append_left _ _)
  | ⟨_, _, _, _, _, none⟩ => List.nil_sublist _

theorem FromItem.filters_sublist : (i : FromItem) →
    ((i.filters Option.isSome).flatMap Expr.parameters).Sublist i.parameters
  | .table _ => List.nil_sublist _
  | .join j => j.filters_sublist
  | .query q _ => q.filters_sublist

theorem sourceFilters_sublist : (sources : List FromItem) →
    ((sourceFilters Option.isSome sources).flatMap Expr.parameters).Sublist (sourceParameters sources)
  | [] => List.nil_sublist _
  | item :: rest => by
    rw [sourceFilters, List.flatMap_append, sourceParameters]
    exact item.filters_sublist.append (sourceFilters_sublist rest)

end

mutual

theorem Query.filters_perm : (q : Query) →
    q.allFilters.Perm (q.filters Option.isSome ++ q.lostFilters)
  | ⟨projections, aggregates, sources, condition, order, _, _, grouped, distinct, random, distinctOn⟩ => by
    rw [Query.allFilters, Query.filters, Query.filters, Query.lostFilters]
    refine ((sourceFilters_perm sources).append_right _).trans ?_
    simp only [List.append_assoc]
    exact List.perm_append_comm.append_left _

theorem Join.filters_perm : (j : Join) →
    (j.filters fun _ => true).Perm (j.filters Option.isSome ++ j.lostFilters)
  | ⟨query, _, _, _, _, some _⟩ => query.filters_perm
  | ⟨_, _, _, _, _, none⟩ => List.Perm.refl _

theorem FromItem.filters_perm : (i : FromItem) →
    (i.filters fun _ => true).Perm (i.filters Option.isSome ++ i.lostFilters)
  | .table _ => List.Perm.refl _
  | .join j => j.filters_perm
  | .query q _ => q.filters_perm

theorem sourceFilters_perm : (sources : List FromItem) →
    (sourceFilters (fun _ => true) sources).Perm
      (sourceFilters Option.isSome sources ++ sourceLosses sources)
  | [] => List.Perm.refl _
  | item :: rest => by
    rw [sourceFilters, sourceFilters, sourceLosses]
    refine (item.filters_perm.append (sourceFilters_perm rest)).trans ?_
    simp only [List.append_assoc]
    refine List.Perm.append_left _ ?_
    exact List.perm_append_comm_assoc _ _ _

end

theorem Query.filters_bound {q : Query} {names : Names} {f : Fragment}
    (h : (q.write names).1 = .ok f) :
    ((q.filters Option.isSome).flatMap Expr.parameters).Sublist f.values
      ∧ (q.allFilters.flatMap Expr.parameters).Subperm
          (f.values ++ q.lostFilters.flatMap Expr.parameters) := by
  have hvalues : f.values = q.parameters := Writable.values_of_write (w := .query q) h
  have hkept := q.filters_sublist
  rw [← hvalues] at hkept
  refine ⟨hkept, ?_⟩
  have hall := q.filters_perm.flatMap_right Expr.parameters
  rw [List.flatMap_append] at hall
  exact (hall.subperm).trans (hkept.append_right _).subperm

theorem Query.filters_bound_alias :
    let rides := (Entity.ofFields "Ride" "Ride" none []).table
    let zones := (Entity.ofFields "Zone" "Zone" none []).table
    let north := zones.selectAll.filter
      (some (.compare .eq (.column (zones.column "name")) (.value (.text "North"))))
    let q := rides.selectAll.addJoin .inner (north.onAlias (.value (.int 1)) "z")
    ∃ f, (q.write {}).1 = .ok f ∧ f.values = [.text "North", .int 1]
      ∧ ((q.filters Option.isSome).flatMap Expr.parameters).Sublist f.values := by
  intro rides zones north q
  have hwrite : (q.write {}).1.toOption.isSome = true := by decide +kernel
  rcases hf : (q.write {}).1 with fault | f
  · rw [hf] at hwrite
    cases hwrite
  · have hvalues : f.values = q.parameters := Writable.values_of_write (w := .query q) hf
    exact ⟨f, rfl, hvalues.trans (by rfl), (Query.filters_bound hf).1⟩

theorem Query.filters_lost :
    let rides := (Entity.ofFields "Ride" "Ride" none []).table
    let zones := (Entity.ofFields "Zone" "Zone" none []).table
    let north := zones.selectAll.filter
      (some (.compare .eq (.column (zones.column "name")) (.value (.text "North"))))
    let q := rides.selectAll.addJoin .inner (north.on (.value (.int 1)))
    ∃ f, (q.write {}).1 = .ok f ∧ .text "North" ∈ q.allFilters.flatMap Expr.parameters
      ∧ .text "North" ∉ f.values := by
  intro rides zones north q
  have hwrite : (q.write {}).1.toOption.isSome = true := by decide +kernel
  rcases hf : (q.write {}).1 with fault | f
  · rw [hf] at hwrite
    cases hwrite
  · have hall : q.allFilters.flatMap Expr.parameters = [.text "North"] := rfl
    have hvalues : f.values = q.parameters := Writable.values_of_write (w := .query q) hf
    have hbound : q.parameters = [.int 1] := by rfl
    refine ⟨f, rfl, by simp [hall], by simp [hvalues, hbound]⟩

end RelationalMapping
