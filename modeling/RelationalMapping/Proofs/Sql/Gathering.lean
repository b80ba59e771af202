import RelationalMapping.Sql.Tree

namespace RelationalMapping

theorem flatMap_separated {α β : Type} {f : α → List β} {separator : α} (hs : f separator = [])
    (lists : List (List α)) :
    (separated separator lists).flatMap f = lists.flatMap (·.flatMap f) := by
  induction lists using separated.induct with
  | case1 => rfl
  | case2 items => simp [separated]
  | case3 items rest hrest ih =>
    rw [separated]
    · simp [hs, ih]
    · exact hrest

theorem mem_separated {α : Type} {separator item : α} {items : List α} {lists : List (List α)} (hitems : items ∈ lists)
    (h : item ∈ items) : item ∈ separated separator lists := by
  induction lists using separated.induct with
  | case1 => cases hitems
  | case2 others =>
    rw [List.mem_singleton.mp hitems] at h
    exact h
  | case3 others rest hrest ih =>
    rw [separated]
    · rcases List.mem_cons.mp hitems with rfl | hitems
      · exact List.mem_append_left _ h
      · exact List.mem_append_right _ (List.mem_cons_of_mem _ (ih hitems))
    · exact hrest

theorem mem_of_mem_separated {α : Type} {separator item : α} {lists : List (List α)}
    (h : item ∈ separated separator lists) : item = separator ∨ ∃ items ∈ lists, item ∈ items := by
  induction lists using separated.induct with
  | case1 => simp [separated] at h
  | case2 items => simpa [separated] using .inr h
  | case3 items rest hrest ih =>
    rw [separated] at h
    · simp only [List.mem_append, List.mem_cons] at h
      rcases h with h | h | h
      · exact .inr ⟨items, List.mem_cons_self, h⟩
      · exact .inl h
      · rcases ih h with h | ⟨others, hothers, h⟩
        · exact .inl h
        · exact .inr ⟨others, List.mem_cons_of_mem _ hothers, h⟩
    · exact hrest

class Quiet {β : Type} (f : Piece → List β) : Prop where
  text : ∀ s, f (.text s) = []
  verbatim : ∀ s, f (.verbatim s) = []
  identifier : ∀ name, f (.identifier name) = []
  columnName : ∀ c, f (.columnName c) = []
  marker : ∀ edge into, f (.marker edge into) = []

class Mute {β : Type} (f : Piece → List β) : Prop extends Quiet f where
  tableName : ∀ e, f (.tableName e) = []
  failure : ∀ fault, f (.failure fault) = []

section Gathering

variable {β : Type} {f : Piece → List β} [hf : Quiet f]

@[simp] theorem gather_separated (separator : String) (lists : List (List Piece)) :
    (separated (.text separator) lists).flatMap f = lists.flatMap (·.flatMap f) :=
  flatMap_separated (hf.text separator) lists

@[simp] theorem gather_listed (lists : List (List Piece)) :
    (listed lists).flatMap f = lists.flatMap (·.flatMap f) := gather_separated ", " lists

@[simp] theorem gather_enclosed (pieces : List Piece) :
    (enclosed pieces).flatMap f = pieces.flatMap f := by
  simp [enclosed, hf.text]

@[simp] theorem gather_operation (op : BinaryOp) (left right : List Piece) :
    (operation op left right).flatMap f = left.flatMap f ++ right.flatMap f := by
  unfold operation
  split <;> simp [hf.text]

@[simp] theorem gather_membership (e : List Piece) (candidates : List (List Piece)) (negated : Bool) :
    (membership e candidates negated).flatMap f
      = e.flatMap f ++ candidates.flatMap (·.flatMap f) := by
  unfold membership
  split <;> simp [hf.text]

@[simp] theorem gather_columnNames (columns : List Column) : (columnNames columns).flatMap f = [] := by
  simp [columnNames, List.flatMap_map, hf.columnName]

@[simp] theorem gather_alias (name : Option String) : (aliasPieces name).flatMap f = [] := by
  cases name <;> simp [aliasPieces, hf.text, hf.verbatim]

@[simp] theorem gather_queryAlias (name : Option String) : (queryAlias name).flatMap f = [] := by
  cases name <;> simp [queryAlias, hf.text, hf.verbatim]

@[simp] theorem gather_markers (edge : Edge) (into : Option IntoField) :
    (markerPieces edge into).flatMap (·.flatMap f) = [] := by
  cases into <;> simp [markerPieces, hf.marker]

@[simp] theorem gather_count (keyword : String) (n : Option UInt64) :
    (countPieces keyword n).flatMap f = [] := by
  cases n <;> simp [countPieces, hf.text]

@[simp] theorem gather_nulls (nulls : Option NullsOrder) : (nullsPieces nulls).flatMap f = [] := by
  cases nulls <;> simp [nullsPieces, hf.text]

@[simp] theorem gather_clause (keyword : String) (pieces : Option (List Piece)) :
    (clause keyword pieces).flatMap f = (pieces.getD []).flatMap f := by
  cases pieces <;> simp [clause, hf.text]

@[simp] theorem gather_grouping (grouped : Bool) (lists : List (List Piece)) :
    ((if grouped then some (listed lists) else none).getD []).flatMap f
      = if grouped then lists.flatMap (·.flatMap f) else [] := by
  cases grouped <;> simp

end Gathering

section Mute

variable {β : Type} {f : Piece → List β} [hf : Mute f]

@[simp] theorem gather_qualifier (t : Table) : t.qualifier.flatMap f = [] := by
  unfold Table.qualifier
  split <;> simp [hf.identifier, hf.tableName]

@[simp] theorem gather_table (t : Table) : t.pieces.flatMap f = [] := by
  unfold Table.pieces
  split <;> simp [hf.text, hf.identifier, hf.tableName]

@[simp] theorem gather_zoneCheck (zone : Expr) : (zoneCheck zone).flatMap f = [] := by
  unfold zoneCheck
  split
  · split <;> simp [hf.failure]
  · rfl

@[simp] theorem gather_sole (sources : List FromItem) : (solePieces sources).flatMap f = [] := by
  unfold solePieces
  split <;> simp [hf.failure]

@[simp] theorem gather_joinMatch (condition : Option (List Piece)) (shared : Option (List Column)) :
    (joinMatch condition shared).flatMap f = (condition.getD []).flatMap f := by
  unfold joinMatch
  split <;> simp [hf.text, hf.failure]

end Mute

end RelationalMapping
