import RelationalMapping.Proofs.Mapping.Reading
import RelationalMapping.Proofs.Mapping.Reads

namespace RelationalMapping

variable {row other : Row}

structure Fillings.Alike (row other : Row) (f g : Fillings) : Prop where
  parameters : List.Forall₂ (Filling.Alike row other) f.parameters g.parameters
  properties : List.Forall₂ (Filling.Alike row other) f.properties g.properties

theorem alike_fill (field : String) {p q : Provider} (hprovide : p.provide row = q.provide other)
    {xs ys : List Filling} (h : List.Forall₂ (Filling.Alike row other) xs ys) :
    List.Forall₂ (Filling.Alike row other) (fill field p xs) (fill field q ys) := by
  induction h with
  | nil => exact .cons ⟨rfl, hprovide⟩ .nil
  | @cons x y xs ys hxy hrest ih =>
    rw [fill, fill, hxy.1]
    split
    · exact .cons ⟨rfl, hprovide⟩ hrest
    · exact .cons hxy ih

theorem Fillings.Alike.add {f g : Fillings} (h : f.Alike row other g) (target : FieldRef) {p q : Provider}
    (hprovide : p.provide row = q.provide other) : (f.add target p).Alike row other (g.add target q) := by
  cases target with
  | parameter parameter => exact ⟨alike_fill parameter.name hprovide h.parameters, h.properties⟩
  | property property => exact ⟨h.parameters, alike_fill property.name hprovide h.properties⟩

theorem alike_withNulls (required : List Parameter) {xs ys : List Filling}
    (h : List.Forall₂ (Filling.Alike row other) xs ys) :
    List.Forall₂ (Filling.Alike row other) (withNulls required xs) (withNulls required ys) := by
  induction required generalizing xs ys with
  | nil => exact h
  | cons p rest ih =>
    have hfields : xs.map (·.field) = ys.map (·.field) := by
      rw [← List.forall₂_eq_eq_eq, List.forall₂_map_left_iff, List.forall₂_map_right_iff]
      exact h.imp fun x y hxy => hxy.1
    have hany : xs.any (·.field == p.name) = ys.any (·.field == p.name) := by
      rw [Bool.eq_iff_iff, any_field_iff, any_field_iff, hfields]
    rw [withNulls, withNulls, List.foldl_cons, List.foldl_cons, hany]
    refine ih ?_
    split
    · exact h
    · exact List.rel_append h (.cons ⟨rfl, rfl⟩ .nil)

theorem Fillings.Alike.toPlan {f g : Fillings} (h : f.Alike row other g) (e : Entity) :
    (f.toPlan e).Alike row other (g.toPlan e) :=
  ⟨rfl, alike_withNulls _ h.parameters, h.properties⟩

def ColumnLabel.Alike (row other : Row) (c d : ColumnLabel) : Prop :=
  c.label = d.label ∧ row.cell? c.position = other.cell? d.position

theorem rel_find? {α β : Type} {related : α → β → Prop} {p : α → Bool} {q : β → Bool} {xs : List α} {ys : List β}
    (hsame : ∀ x y, related x y → p x = q y) (h : List.Forall₂ related xs ys) :
    Option.Rel related (xs.find? p) (ys.find? q) := by
  induction h with
  | nil => exact .none
  | @cons x y _ _ hxy _ ih =>
    rw [List.find?_cons, List.find?_cons, hsame x y hxy]
    split
    · exact .some hxy
    · exact ih

theorem cases_of_rel {α β : Type} {related : α → β → Prop} {a? : Option α} {b? : Option β}
    (h : Option.Rel related a? b?) : (a? = none ∧ b? = none) ∨ ∃ a b, a? = some a ∧ b? = some b ∧ related a b := by
  cases h with
  | none => exact .inl ⟨rfl, rfl⟩
  | some hab => exact .inr ⟨_, _, rfl, rfl, hab⟩

def Entity.FoundAlike (context : MappingContext) (e : Entity) (row other : Row) (columns others : List ColumnLabel) :
    Prop :=
  ∀ target ∈ e.columnFields, Option.Rel (ColumnLabel.Alike row other)
    (columns.find? fun c => context.accepts c.label target.slotName)
    (others.find? fun c => context.accepts c.label target.slotName)

theorem alike_foundFillings {context : MappingContext} {e : Entity} {columns others : List ColumnLabel}
    (h : e.FoundAlike context row other columns others) :
    (foundFillings context e columns).Alike row other (foundFillings context e others) := by
  have hstep : ∀ target ∈ e.columnFields, ∀ f g : Fillings, f.Alike row other g →
      (f.fillSlot context columns target).Alike row other (g.fillSlot context others target) := by
    intro target htarget f g hfg
    rw [Fillings.fillSlot, Fillings.fillSlot]
    rcases cases_of_rel (h target htarget) with ⟨hc, hd⟩ | ⟨c, d, hc, hd, hcd⟩ <;> rw [hc, hd]
    · exact hfg
    · refine hfg.add target ?_
      rw [Provider.provide, Provider.provide, hcd.2]
  have hfold : ∀ targets : List FieldRef, targets ⊆ e.columnFields → ∀ f g : Fillings, f.Alike row other g →
      (targets.foldl (Fillings.fillSlot context columns) f).Alike row other
        (targets.foldl (Fillings.fillSlot context others) g) := by
    intro targets htargets
    induction targets with
    | nil => exact fun f g hfg => hfg
    | cons target rest ih =>
      rw [List.cons_subset] at htargets
      exact fun f g hfg => ih htargets.2 _ _ (hstep target htargets.1 f g hfg)
  exact hfold _ (List.Subset.refl _) _ _ ⟨.nil, .nil⟩

def JoinPlan.Alike (row other : Row) (j k : JoinPlan) : Prop :=
  j.field = k.field
    ∧ (Provider.join j.plan j.positions).provide row = (Provider.join k.plan k.positions).provide other

theorem Fillings.Alike.addJoin {context : MappingContext} {e : Entity} {f g : Fillings} (h : f.Alike row other g)
    {j k : JoinPlan} (hjk : j.Alike row other k) :
    (RelationalMapping.addJoin context e f j).Alike row other (RelationalMapping.addJoin context e g k) := by
  rw [RelationalMapping.addJoin, RelationalMapping.addJoin, hjk.1]
  split
  · exact h.add _ hjk.2
  · exact h

theorem alike_assemble {context : MappingContext} {e : Entity} {columns others : List ColumnLabel}
    (h : e.FoundAlike context row other columns others) {joins joins' : List JoinPlan}
    (hjoins : List.Forall₂ (JoinPlan.Alike row other) joins joins') :
    (assemble context e columns joins).Alike row other (assemble context e others joins') := by
  have hfold : ∀ f g : Fillings, f.Alike row other g →
      (joins.foldl (addJoin context e) f).Alike row other (joins'.foldl (addJoin context e) g) := by
    induction hjoins with
    | nil => exact fun f g hfg => hfg
    | cons hjk _ ih => exact fun f g hfg => ih _ _ (hfg.addJoin hjk)
  exact (hfold _ _ (alike_foundFillings h)).toPlan e

theorem alike_labelled {labels : List String} {cells : Row} (hlength : cells.length = labels.length)
    (before after before' after' : Row) :
    List.Forall₂ (ColumnLabel.Alike (before ++ (cells ++ after)) (before' ++ (cells ++ after')))
      (labelled (before.length + 1) labels) (labelled (before'.length + 1) labels) := by
  induction labels generalizing cells before before' with
  | nil => exact .nil
  | cons label rest ih =>
    cases cells with
    | nil => cases hlength
    | cons v cells =>
      refine .cons ⟨rfl, ?_⟩ ?_
      · rw [List.cons_append, List.cons_append, cell?_append, cell?_append]
      · have hrest := ih (Nat.succ.inj hlength) (before ++ [v]) (before' ++ [v])
        simpa using hrest

theorem run_planRows_labelled (context : MappingContext) (e : Entity) {labels : List String} {cells : Row}
    (hlength : cells.length = labels.length) (before after : Row) :
    (planRows context e (labelled (before.length + 1) labels)).run (before ++ (cells ++ after))
      = (planRows context e (labelled 1 labels)).run cells := by
  have hcolumns := alike_labelled hlength before after [] []
  rw [List.nil_append, List.append_nil] at hcolumns
  have hfound : e.FoundAlike context _ _ (labelled (before.length + 1) labels) (labelled 1 labels) :=
    fun target _ => rel_find? (fun c d hcd => by rw [hcd.1]) hcolumns
  exact ((alike_foundFillings hfound).toPlan e).run_eq

end RelationalMapping
