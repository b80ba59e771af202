import Mathlib.Data.List.Forall2
import RelationalMapping.Sql.Statement

namespace RelationalMapping

namespace Naming

variable {α β : Type}

@[simp] theorem pure_apply (a : α) (names : Names) : (pure a : Naming α) names = (.ok a, names) := rfl

@[simp] theorem throw_apply (fault : Error) (names : Names) :
    (throw fault : Naming α) names = (.error fault, names) := rfl

theorem bind_apply (x : Naming α) (f : α → Naming β) (names : Names) :
    (x >>= f) names = match x names with
      | (.ok a, names) => f a names
      | (.error fault, names) => (.error fault, names) := by
  simp only [bind, ExceptT.bind, ExceptT.mk, StateT.bind, ExceptT.bindCont]
  rcases x names with ⟨fault | a, between⟩ <;> rfl

theorem bind_eq_ok {x : Naming α} {f : α → Naming β} {names names' : Names} {b : β} :
    (x >>= f) names = (.ok b, names')
      ↔ ∃ a between, x names = (.ok a, between) ∧ f a between = (.ok b, names') := by
  rw [bind_apply]
  constructor
  · intro h
    rcases hx : x names with ⟨fault | a, between⟩ <;> rw [hx] at h
    · cases h
    · exact ⟨a, between, rfl, h⟩
  · rintro ⟨a, between, hx, hf⟩
    simp only [hx, hf]

@[simp] theorem table_apply (e : Entity) (names : Names) : Naming.table e names = names.table e := rfl

@[simp] theorem column_apply (c : Column) (names : Names) :
    Naming.column c names = (.ok (names.column c).1, (names.column c).2) := rfl

@[simp] theorem marker_apply (edge : Edge) (into : IntoField) (names : Names) :
    Naming.marker edge into names
      = (.ok (names.marker edge into).1, (names.marker edge into).2) := rfl

def Keeps (kept : Names → Prop) (post : α → Prop) (x : Naming α) : Prop :=
  ∀ names a names', kept names → x names = (.ok a, names') → post a ∧ kept names'

variable {kept : Names → Prop}

theorem keeps_pure {post : α → Prop} {a : α} (h : post a) : Keeps kept post (pure a) := by
  intro names b names' hnames hb
  cases hb
  exact ⟨h, hnames⟩

theorem keeps_throw (post : α → Prop) (fault : Error) : Keeps kept post (throw fault) := by
  intro names b names' _ hb
  cases hb

theorem keeps_bind {post : α → Prop} {next : β → Prop} {x : Naming α} {f : α → Naming β}
    (hx : Keeps kept post x) (hf : ∀ a, post a → Keeps kept next (f a)) :
    Keeps kept next (x >>= f) := by
  intro names b names' hnames h
  obtain ⟨a, between, ha, hb⟩ := bind_eq_ok.mp h
  obtain ⟨hpost, hbetween⟩ := hx names a between hnames ha
  exact hf a hpost between b names' hbetween hb

theorem keeps_mapM {γ : Type} {related : γ → α → Prop} {f : γ → Naming α} {items : List γ}
    (h : ∀ item ∈ items, Keeps kept (related item) (f item)) :
    Keeps kept (List.Forall₂ related items) (items.mapM f) := by
  induction items with
  | nil => exact keeps_pure .nil
  | cons item rest ih =>
    rw [List.mapM_cons]
    refine keeps_bind (h item List.mem_cons_self) fun a ha => ?_
    refine keeps_bind (ih fun other hother => h other (List.mem_cons_of_mem _ hother)) ?_
    intro as has
    exact keeps_pure (.cons ha has)

def Alike (related : α → β → Prop) (x : Naming α) (y : Naming β) : Prop :=
  ∀ names, (x names).2 = (y names).2 ∧ match (x names).1, (y names).1 with
    | .ok a, .ok b => related a b
    | .error fault, .error other => fault = other
    | _, _ => False

theorem alike_pure {related : α → β → Prop} {a : α} {b : β} (h : related a b) :
    Alike related (pure a) (pure b) := fun _ => ⟨rfl, h⟩

theorem alike_throw (related : α → β → Prop) (fault : Error) :
    Alike related (throw fault) (throw fault) := fun _ => ⟨rfl, rfl⟩

theorem alike_self {related : α → α → Prop} (h : ∀ a, related a a) (x : Naming α) :
    Alike related x x := by
  intro names
  refine ⟨rfl, ?_⟩
  rcases (x names).1 with fault | a
  · rfl
  · exact h a

theorem alike_bind {γ δ : Type} {related : α → β → Prop} {next : γ → δ → Prop} {x : Naming α}
    {y : Naming β} {f : α → Naming γ} {g : β → Naming δ} (hxy : Alike related x y)
    (hfg : ∀ a b, related a b → Alike next (f a) (g b)) : Alike next (x >>= f) (y >>= g) := by
  intro names
  rw [bind_apply, bind_apply]
  have h := hxy names
  rcases hx : x names with ⟨fault | a, between⟩ <;> rcases hy : y names with ⟨other | b, after⟩ <;>
    simp only [hx, hy, and_false] at h
  · obtain ⟨rfl, rfl⟩ := h
    exact ⟨rfl, rfl⟩
  · obtain ⟨rfl, hab⟩ := h
    exact hfg a b hab between

def Ends (kept : Names → Prop) (x : Naming α) (fault? : Option Error) : Prop :=
  ∀ names, kept names → match fault? with
    | none => ∃ a names', x names = (.ok a, names') ∧ kept names'
    | some fault => (x names).1 = .error fault

theorem ends_pure (a : α) : Ends kept (pure a) none := fun names h => ⟨a, names, rfl, h⟩

theorem ends_throw (fault : Error) : Ends kept (throw fault : Naming α) (some fault) := fun _ _ => rfl

theorem ends_left {x : Naming α} {fault : Error} (hx : Ends kept x (some fault)) (f : α → Naming β) :
    Ends kept (x >>= f) (some fault) := by
  intro names hnames
  have herror := hx names hnames
  rcases hresult : x names with ⟨other | a, between⟩
  · rw [hresult] at herror
    cases herror
    rw [bind_apply, hresult]
  · rw [hresult] at herror
    cases herror

theorem ends_bind {x : Naming α} {f : α → Naming β} {fault? other? : Option Error}
    (hx : Ends kept x fault?) (hf : ∀ a, Ends kept (f a) other?) :
    Ends kept (x >>= f) (fault?.or other?) := by
  cases fault? with
  | none =>
    intro names hnames
    obtain ⟨a, between, ha, hbetween⟩ := hx names hnames
    rw [bind_apply, ha]
    exact hf a between hbetween
  | some fault => exact ends_left hx f

end Naming

@[simp] theorem Chunk.sql_text (s : String) : (Chunk.text s).sql = s := rfl

theorem resolve_cons (p : Piece) (pieces : List Piece) :
    resolve (p :: pieces) = do
      let chunk ← p.resolve
      let chunks ← resolve pieces
      return chunk :: chunks := by
  simp [resolve]

end RelationalMapping
