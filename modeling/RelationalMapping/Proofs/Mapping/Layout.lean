import RelationalMapping.Proofs.Mapping.Records
import RelationalMapping.Proofs.Sql.Memo

namespace RelationalMapping

inductive Selected where
  | column (name : String)
  | marker (edge : Edge) (into : IntoField)

def Selected.label : Selected → String
  | .column name => name
  | .marker edge into => into.ownLabel edge

def Selected.isMarker : Selected → Bool
  | .column _ => false
  | .marker _ _ => true

def FromItem.filled : FromItem → List String
  | .join ⟨_, _, some into, _, _, _⟩ => [into.column.property]
  | _ => []

def filledFields (sources : List FromItem) : List String := sources.flatMap (·.filled)

mutual

def Query.layout (e : Entity) : Query → List Selected
  | ⟨_, _, sources, _, _, _, _, _, _, _, _⟩ => e.columnLabels.map .column ++ sourcesLayout sources

def sourcesLayout : List FromItem → List Selected
  | [] => []
  | item :: rest => item.layout ++ sourcesLayout rest

def FromItem.layout : FromItem → List Selected
  | .join ⟨query, _, some into, _, _, _⟩ =>
    .marker .start into :: (query.layout into.target ++ [.marker .stop into])
  | _ => []

end

mutual

/-- The row that shows an instance, with `NULL` in the place of a joined instance that is absent. -/
def Query.cells (e : Entity) : Query → Instance → Row
  | ⟨_, _, sources, _, _, _, _, _, _, _, _⟩, i => e.columnCells i ++ sourcesCells sources i

def sourcesCells : List FromItem → Instance → Row
  | [], _ => []
  | item :: rest, i => item.cells i ++ sourcesCells rest i

def FromItem.cells : FromItem → Instance → Row
  | .join ⟨query, _, some into, _, _, _⟩, i =>
    let inside := match i.field? into.column.property with
      | some (.joined (some child)) => query.cells into.target child
      | _ => (query.layout into.target).map fun _ => .null
    .null :: (inside ++ [.null])
  | _, _ => []

end

def IntoField.GoesInto (into : IntoField) (e : Entity) (f : Field) : Prop :=
  f ∈ e.fields ∧ f.name = into.column.property ∧ f.transient = true
    ∧ f.holds = .joined into.target.instanceType

mutual

/-- Joins between these entities, every one into a field that holds instances of its target, under markers that
are not among those above it. -/
def Query.Joins (among : Entity → Prop) (above : List String) (e : Entity) : Query → Prop
  | ⟨_, _, sources, _, _, _, _, _, _, _, _⟩ =>
    among e ∧ sourcesJoin among above e sources

def sourcesJoin (among : Entity → Prop) (above : List String) (e : Entity) : List FromItem → Prop
  | [] => True
  | item :: rest => item.Joins among above e ∧ sourcesJoin among above e rest

def FromItem.Joins (among : Entity → Prop) (above : List String) (e : Entity) : FromItem → Prop
  | .join ⟨query, _, some into, _, _, _⟩ =>
    among into.column.table.entity ∧ (∃ f, into.GoesInto e f)
      ∧ into.ownLabel .start ∉ above ∧ into.ownLabel .stop ∉ above
      ∧ query.Joins among (into.ownLabel .start :: into.ownLabel .stop :: above) into.target
  | _ => True

end

mutual

/-- An instance with the instances that its joins found, of which every one shows in some cell. -/
def Query.Instantiates (e : Entity) : Query → Instance → Prop
  | ⟨_, _, sources, _, _, _, _, _, _, _, _⟩, i =>
    e.HasInstance (· ∈ filledFields sources) i ∧ sourcesInstantiate sources i

def sourcesInstantiate : List FromItem → Instance → Prop
  | [], _ => True
  | item :: rest, i => item.Instantiates i ∧ sourcesInstantiate rest i

def FromItem.Instantiates : FromItem → Instance → Prop
  | .join ⟨query, _, some into, _, _, _⟩, i =>
    i.field? into.column.property = some (.joined none)
      ∨ ∃ child, i.field? into.column.property = some (.joined (some child))
        ∧ query.Instantiates into.target child ∧ ∃ v ∈ query.cells into.target child, v ≠ .null
  | _, _ => True

end

def Unmixed (layout : List Selected) : Prop :=
  ∀ s ∈ layout, ∀ t ∈ layout, s.isMarker = false → t.isMarker = true → s.label ≠ t.label

theorem Unmixed.subset {layout other : List Selected} (h : Unmixed layout) (hsub : other ⊆ layout) :
    Unmixed other := fun s hs t ht => h s (hsub hs) t (hsub ht)

theorem IntoField.start_ne_stop (into : IntoField) : into.ownLabel .start ≠ into.ownLabel .stop := by
  intro h
  have hchars := congrArg String.toList h
  simp [ownLabel, Edge.label] at hchars

theorem labelled_append (position : Nat) (labels others : List String) :
    labelled position (labels ++ others)
      = labelled position labels ++ labelled (position + labels.length) others := by
  induction labels generalizing position with
  | nil => rfl
  | cons label rest ih =>
    have hnext : position + 1 + rest.length = position + (rest.length + 1) := by omega
    rw [List.cons_append, labelled, labelled, ih, List.cons_append, List.length_cons, hnext]

theorem findIdx?_between {α : Type} {p : α → Bool} {before after : List α} {x : α}
    (h : ∀ y ∈ before, p y = false) (hx : p x = true) :
    (before ++ x :: after).findIdx? p = some before.length := by
  induction before with
  | nil => simp [List.findIdx?_cons, hx]
  | cons y rest ih =>
    simp only [List.mem_cons, forall_eq_or_imp] at h
    rw [List.cons_append, List.findIdx?_cons, h.1, ih h.2]
    rfl

theorem cutOut_between {start stop : String} {own inside rest : List ColumnLabel} {first last : ColumnLabel}
    (hfirst : first.label = start) (hlast : last.label = stop) (hdiffer : start ≠ stop)
    (hstart : ∀ c ∈ own, c.label ≠ start) (hstop : ∀ c ∈ own ++ inside, c.label ≠ stop) :
    cutOut start stop (own ++ first :: (inside ++ last :: rest)) = some (inside, own ++ rest) := by
  have hfound : (own ++ first :: (inside ++ last :: rest)).findIdx? (·.label == start) = some own.length :=
    findIdx?_between (fun c hc => by simpa using hstart c hc) (by simpa using hfirst)
  have hbefore : ∀ c ∈ own ++ first :: inside, (c.label == stop) = false := by
    intro c hc
    rcases List.mem_append.mp hc with hc | hc
    · simpa using hstop c (List.mem_append_left _ hc)
    · rcases List.mem_cons.mp hc with rfl | hc
      · simpa [hfirst] using hdiffer
      · simpa using hstop c (List.mem_append_right _ hc)
  have hended : ((own ++ first :: inside) ++ last :: rest).findIdx? (·.label == stop)
      = some (own ++ first :: inside).length := findIdx?_between hbefore (by simpa using hlast)
  rw [List.append_assoc, List.cons_append] at hended
  have hlt : own.length < (own ++ first :: inside).length := by simp
  have hsplit : own ++ first :: (inside ++ last :: rest) = (own ++ first :: inside) ++ last :: rest := by
    simp
  simp only [cutOut, hfound, hended, if_pos hlt]
  congr 2
  · rw [hsplit, List.take_left]
    simp
  · rw [List.take_left, hsplit, ← List.drop_drop, List.drop_left]
    rfl

mutual

theorem Query.length_cells (e : Entity) : (q : Query) → ∀ i, (q.cells e i).length = (q.layout e).length
  | ⟨_, _, sources, _, _, _, _, _, _, _, _⟩, i => by
    have hsources := length_sourcesCells sources i
    rw [Query.cells, Query.layout, List.length_append, List.length_append, hsources]
    simp [Entity.columnCells, Entity.columnLabels]

theorem length_sourcesCells : (sources : List FromItem) →
    ∀ i, (sourcesCells sources i).length = (sourcesLayout sources).length
  | [], i => by
    rw [sourcesCells, sourcesLayout]
    rfl
  | item :: rest, i => by
    rw [sourcesCells, sourcesLayout, List.length_append, List.length_append, item.length_cells i,
      length_sourcesCells rest i]

theorem FromItem.length_cells : (item : FromItem) → ∀ i, (item.cells i).length = item.layout.length
  | .join ⟨query, _, some into, _, _, _⟩, i => by
    have hquery := query.length_cells into.target
    rw [FromItem.cells, FromItem.layout]
    split <;> simp [hquery]
  | .join ⟨_, _, none, _, _, _⟩, i => by simp [FromItem.cells, FromItem.layout]
  | .table _, i => by simp [FromItem.cells, FromItem.layout]
  | .query _ _, i => by simp [FromItem.cells, FromItem.layout]

end

section Above

variable {among : Entity → Prop} {edge : Edge} {into : IntoField}

theorem Query.among_of_joins {above : List String} {e : Entity} : {q : Query} → q.Joins among above e → among e
  | ⟨_, _, _, _, _, _, _, _, _, _, _⟩, h => by
    rw [Query.Joins] at h
    exact h.1

mutual

theorem Query.marker_not_above : (q : Query) → ∀ {above : List String} {e : Entity},
    q.Joins among above e → .marker edge into ∈ q.layout e → into.ownLabel edge ∉ above
  | ⟨_, _, sources, _, _, _, _, _, _, _, _⟩, above, e, h, hmarker => by
    rw [Query.Joins] at h
    rw [Query.layout] at hmarker
    rcases List.mem_append.mp hmarker with hmarker | hmarker
    · obtain ⟨name, -, hname⟩ := List.mem_map.mp hmarker
      cases hname
    · exact sources_marker_not_above sources h.2 hmarker

theorem sources_marker_not_above : (sources : List FromItem) → ∀ {above : List String} {e : Entity},
    sourcesJoin among above e sources → .marker edge into ∈ sourcesLayout sources →
      into.ownLabel edge ∉ above
  | [], _, _, _, hmarker => by
    rw [sourcesLayout] at hmarker
    cases hmarker
  | item :: rest, _, _, h, hmarker => by
    rw [sourcesJoin] at h
    rw [sourcesLayout] at hmarker
    rcases List.mem_append.mp hmarker with hmarker | hmarker
    · exact item.marker_not_above h.1 hmarker
    · exact sources_marker_not_above rest h.2 hmarker

theorem FromItem.marker_not_above : (item : FromItem) → ∀ {above : List String} {e : Entity},
    item.Joins among above e → .marker edge into ∈ item.layout → into.ownLabel edge ∉ above
  | .join ⟨query, _, some other, _, _, _⟩, above, e, h, hmarker => by
    rw [FromItem.Joins] at h
    obtain ⟨-, -, hstart, hstop, hquery⟩ := h
    rw [FromItem.layout] at hmarker
    rcases List.mem_cons.mp hmarker with heq | hmarker
    · cases heq
      exact hstart
    · rcases List.mem_append.mp hmarker with hmarker | hmarker
      · have hinside := query.marker_not_above hquery hmarker
        exact fun habove => hinside (List.mem_cons_of_mem _ (List.mem_cons_of_mem _ habove))
      · cases List.mem_singleton.mp hmarker
        exact hstop
  | .join ⟨_, _, none, _, _, _⟩, _, _, _, hmarker => by simp [FromItem.layout] at hmarker
  | .table _, _, _, _, hmarker => by simp [FromItem.layout] at hmarker
  | .query _ _, _, _, _, hmarker => by simp [FromItem.layout] at hmarker

end

end Above

end RelationalMapping
