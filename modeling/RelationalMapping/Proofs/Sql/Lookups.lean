import RelationalMapping.Mapping.Planner
import RelationalMapping.Proofs.Sql.Positional
import RelationalMapping.Proofs.Sql.Returning

namespace RelationalMapping

section Steps

variable {σ α β : Type} {kept : σ → Prop}

def Settled (kept : σ → Prop) (x : ExceptT Error (StateM σ) α) : Prop :=
  ∃ result, ∀ state, kept state → (x state).1 = result ∧ kept (x state).2

theorem settled_pure (a : α) : Settled kept (pure a : ExceptT Error (StateM σ) α) :=
  ⟨.ok a, fun _ hstate => ⟨rfl, hstate⟩⟩

theorem settled_throw (fault : Error) : Settled kept (throw fault : ExceptT Error (StateM σ) α) :=
  ⟨.error fault, fun _ hstate => ⟨rfl, hstate⟩⟩

theorem settled_result (result : Except Error α) :
    Settled kept (ExceptT.mk (pure result) : ExceptT Error (StateM σ) α) :=
  ⟨result, fun _ hstate => ⟨rfl, hstate⟩⟩

theorem settled_bind {x : ExceptT Error (StateM σ) α} {f : α → ExceptT Error (StateM σ) β} (hx : Settled kept x)
    (hf : ∀ a, Settled kept (f a)) : Settled kept (x >>= f) := by
  have hbind (state : σ) : (x >>= f) state = match x state with
      | (.ok a, between) => f a between
      | (.error fault, between) => (.error fault, between) := by
    simp only [bind, ExceptT.bind, ExceptT.mk, StateT.bind, ExceptT.bindCont]
    rcases x state with ⟨fault | a, between⟩ <;> rfl
  obtain ⟨result, hx⟩ := hx
  cases result with
  | error fault =>
    refine ⟨.error fault, fun state hstate => ?_⟩
    obtain ⟨hresult, hbetween⟩ := hx state hstate
    rw [hbind, ← Prod.eta (x state), hresult]
    exact ⟨rfl, hbetween⟩
  | ok a =>
    obtain ⟨last, hf⟩ := hf a
    refine ⟨last, fun state hstate => ?_⟩
    obtain ⟨hresult, hbetween⟩ := hx state hstate
    rw [hbind, ← Prod.eta (x state), hresult]
    exact hf _ hbetween

theorem settled_mapM {γ : Type} {f : γ → ExceptT Error (StateM σ) α} {items : List γ}
    (h : ∀ item ∈ items, Settled kept (f item)) : Settled kept (items.mapM f) := by
  induction items with
  | nil => exact settled_pure []
  | cons item rest ih =>
    rw [List.mapM_cons]
    refine settled_bind (h item List.mem_cons_self) fun a => ?_
    refine settled_bind (ih fun other hother => h other (List.mem_cons_of_mem _ hother)) fun as => ?_
    exact settled_pure _

end Steps

theorem Naming.Yields.settled {α : Type} {kept : Names → Prop} {x : Naming α} {a : α} (h : Yields kept x a) :
    Settled kept x := by
  refine ⟨.ok a, fun names hnames => ?_⟩
  obtain ⟨after, hafter, hkept⟩ := h names hnames
  rw [hafter]
  exact ⟨rfl, hkept⟩

open Naming

variable {among : Entity → Prop}

theorem settled_table (hamong : Unconfused among) {e : Entity} (he : among e) :
    Settled (Names.Faithful among) (Naming.table e) := by
  cases htype : e.typeName.isEmpty with
  | true =>
    refine ⟨.error (.declaration .unnamed), fun names hnames => ?_⟩
    rw [table_apply, Names.table, htype]
    exact ⟨rfl, hnames⟩
  | false =>
    cases hname : e.ownTableName with
    | ok name => exact (yields_table hamong he htype hname).settled
    | error fault =>
      -- a failed search is not remembered, and fails again
      refine ⟨.error fault, fun names hnames => ?_⟩
      have hunknown : names.tables.lookup e.typeName = none := by
        rcases hlookup : names.tables.lookup e.typeName with _ | name
        · rfl
        · rw [hnames.tables e he name hlookup] at hname
          cases hname
      rw [table_apply, Names.table, htype, hunknown, hname]
      exact ⟨rfl, hnames⟩

inductive Lookup where
  | table (e : Entity)
  | column (c : Column)
  | marker (edge : Edge) (into : IntoField)

namespace Lookup

def find : Lookup → Naming String
  | .table e => Naming.table e
  | .column c => Naming.column c
  | .marker edge into => Naming.marker edge into

def entity : Lookup → Entity
  | .table e => e
  | .column c => c.table.entity
  | .marker _ into => into.column.table.entity

theorem settled_find (hamong : Unconfused among) {l : Lookup} (hl : among l.entity) :
    Settled (Names.Faithful among) l.find := by
  cases l with
  | table e => exact settled_table hamong hl
  | column c => exact (yields_column hamong hl).settled
  | marker edge into => exact (yields_marker hamong edge hl).settled

end Lookup

theorem Piece.settled_resolve (hamong : Unconfused among) {p : Piece} (hp : p.Within among) :
    Settled (Names.Faithful among) p.resolve := by
  cases p with
  | text | verbatim | identifier | literal | bound => exact settled_pure _
  | tableName e => exact settled_bind (settled_table hamong hp) fun _ => settled_pure _
  | columnName c =>
    exact settled_bind (yields_column hamong hp).settled fun _ => settled_pure _
  | marker edge into =>
    exact settled_bind (yields_marker hamong edge hp).settled fun _ => settled_pure _
  | failure fault => exact settled_throw fault

theorem settled_resolve (hamong : Unconfused among) {pieces : List Piece} (h : ∀ p ∈ pieces, p.Within among) :
    Settled (Names.Faithful among) (resolve pieces) :=
  settled_mapM fun p hp => p.settled_resolve hamong (h p hp)

theorem Update.settled_chunks (hamong : Unconfused among) {u : Update} (h : ∀ p ∈ u.parts, p.Within among) :
    Settled (Names.Faithful among) u.chunks := by
  simp only [Update.parts, List.mem_append, List.mem_flatMap] at h
  rw [Update.chunks]
  split
  · exact settled_throw _
  refine settled_bind (settled_mapM fun a ha => ?_) fun assignments => ?_
  · refine settled_bind (settled_resolve hamong fun p hp => h p (.inl (.inl ⟨a, ha, .inl hp⟩))) fun value => ?_
    refine settled_bind (settled_resolve hamong fun p hp => h p (.inl (.inl ⟨a, ha, .inr hp⟩))) fun column => ?_
    exact settled_pure _
  refine settled_bind (settled_resolve hamong fun p hp => h p (.inl (.inr hp))) fun table => ?_
  refine settled_bind (settled_resolve hamong fun p hp => h p (.inr ?_)) fun rest => ?_
  · simpa only [List.mem_append] using hp
  exact settled_pure _

def InsertSource.queryPieces : InsertSource → List Piece
  | .rows _ => []
  | .select q => q.pieces

theorem InsertSource.settled_pieces (hamong : Unconfused among) {source : InsertSource}
    (h : ∀ p ∈ source.queryPieces, p.Within among) (table : String) (fields : List InsertField) :
    Settled (Names.Faithful among) (resolve (source.pieces table fields)) := by
  refine settled_resolve hamong fun p hp => ?_
  cases source with
  | rows items =>
    cases items with
    | nil =>
      rw [List.mem_singleton.mp hp]
      trivial
    | cons i rest =>
      rw [List.mem_singleton.mp hp]
      trivial
  | select q =>
    simp only [InsertSource.pieces, enclosed, List.cons_append, List.mem_cons, List.mem_append,
      List.not_mem_nil, or_false] at hp
    rcases hp with rfl | rfl | hp | rfl
    · trivial
    · trivial
    · exact h p hp
    · trivial

def Insert.parts (i : Insert) : List Piece :=
  i.table.pieces ++ columnNames (i.fields.map (·.column)) ++ i.source.queryPieces ++ i.tailPieces

theorem Insert.settled_chunks (hamong : Unconfused among) {i : Insert} (h : ∀ p ∈ i.parts, p.Within among)
    (table : String) : Settled (Names.Faithful among) (i.chunks table) := by
  simp only [Insert.parts, List.mem_append] at h
  rw [Insert.chunks]
  refine settled_bind (settled_resolve hamong fun p hp => h p (.inl (.inl (.inr hp)))) fun columns => ?_
  refine settled_bind (i.source.settled_pieces hamong (fun p hp => h p (.inl (.inr hp))) _ _) fun source => ?_
  refine settled_bind (settled_resolve hamong fun p hp => h p (.inl (.inl (.inl hp)))) fun target => ?_
  refine settled_bind (settled_resolve hamong fun p hp => h p (.inr hp)) fun tail => ?_
  exact settled_pure _

theorem Table.tableName_mem_pieces (t : Table) : .tableName t.entity ∈ t.pieces := by
  unfold Table.pieces
  split <;> exact List.mem_cons_self

namespace Writable

def parts : Writable → List Piece
  | .expr e => e.pieces
  | .query q => q.pieces
  | .update u => u.parts
  | .delete d => d.pieces
  | .insert i => i.parts

theorem settled_write (hamong : Unconfused among) {w : Writable} (h : ∀ p ∈ w.parts, p.Within among) :
    Settled (Names.Faithful among) w.write := by
  cases w with
  | expr e => exact settled_bind (settled_resolve hamong h) fun _ => settled_pure _
  | query q => exact settled_bind (settled_resolve hamong h) fun _ => settled_pure _
  | update u => exact settled_bind (u.settled_chunks hamong h) fun _ => settled_pure _
  | delete d => exact settled_bind (settled_resolve hamong h) fun _ => settled_pure _
  | insert i =>
    have htable : among i.table.entity := by
      refine h (.tableName i.table.entity) ?_
      simp only [parts, Insert.parts, List.mem_append]
      exact .inl (.inl (.inl i.table.tableName_mem_pieces))
    refine settled_bind (settled_bind (settled_table hamong htable) fun table => ?_) fun _ => settled_pure _
    exact settled_bind (i.settled_chunks hamong h table) fun _ => settled_pure _

end Writable

mutual

def Query.intoFields : Query → List IntoField
  | ⟨_, _, sources, _, _, _, _, _, _, _, _⟩ => sourceIntoFields sources

def sourceIntoFields : List FromItem → List IntoField
  | [] => []
  | item :: rest => item.intoFields ++ sourceIntoFields rest

def FromItem.intoFields : FromItem → List IntoField
  | .join ⟨query, _, some into, _, _, _⟩ => into :: query.intoFields
  | _ => []

end

def IntoField.Within (among : Entity → Prop) (into : IntoField) : Prop := among into.column.table.entity

instance (among : Entity → Prop) [DecidablePred among] (into : IntoField) : Decidable (into.Within among) :=
  inferInstanceAs (Decidable (among _))

variable {context : MappingContext}

theorem settled_takeJoin (hamong : Unconfused among) (e : Entity) {into : IntoField} (hinto : into.Within among)
    (columns : List ColumnLabel) : Settled (Names.Faithful among) (takeJoin e into columns) := by
  refine settled_bind (yields_marker hamong .start hinto).settled fun start => ?_
  refine settled_bind (yields_marker hamong .stop hinto).settled fun stop => ?_
  split
  · exact settled_pure _
  · exact settled_throw _

mutual

theorem Query.settled_plan (hamong : Unconfused among) : (q : Query) → (∀ into ∈ q.intoFields, into.Within among) →
    ∀ (e : Entity) (columns : List ColumnLabel),
      Settled (Names.Faithful among) (planQuery context e q columns)
  | ⟨_, _, sources, _, _, _, _, _, _, _, _⟩, h, e, columns => by
    rw [planQuery]
    exact settled_bind (settled_planSources hamong sources h e columns) fun _ => settled_pure _

theorem settled_planSources (hamong : Unconfused among) : (sources : List FromItem) →
    (∀ into ∈ sourceIntoFields sources, into.Within among) → ∀ (e : Entity) (columns : List ColumnLabel),
      Settled (Names.Faithful among) (planSources context e sources columns)
  | [], _, e, columns => by
    rw [planSources]
    exact settled_pure _
  | item :: rest, h, e, columns => by
    simp only [sourceIntoFields, List.forall_mem_append] at h
    rw [planSources]
    -- the labels are general, because the sources after a join are planned without its columns
    refine settled_bind (FromItem.settled_plan hamong item h.1 e columns) fun first => ?_
    exact settled_bind (settled_planSources hamong rest h.2 e _) fun _ => settled_pure _

theorem FromItem.settled_plan (hamong : Unconfused among) : (item : FromItem) →
    (∀ into ∈ item.intoFields, into.Within among) → ∀ (e : Entity) (columns : List ColumnLabel),
      Settled (Names.Faithful among) (planSource context e item columns)
  | .join ⟨query, _, some into, _, _, _⟩, h, e, columns => by
    simp only [FromItem.intoFields, List.forall_mem_cons] at h
    rw [planSource]
    refine settled_bind (settled_takeJoin hamong e h.1 columns) fun cut => ?_
    exact settled_bind (Query.settled_plan hamong query h.2 into.target _) fun _ => settled_pure _
  | .join ⟨_, _, none, _, _, _⟩, _, _, _ => by simpa [planSource] using settled_pure _
  | .table _, _, _, _ => by simpa [planSource] using settled_pure _
  | .query _ _, _, _, _ => by simpa [planSource] using settled_pure _

end

theorem settled_planReturned (hamong : Unconfused among) (e : Entity) {into : List IntoField}
    (h : ∀ i ∈ into, i.Within among) (columns : List ColumnLabel) :
    Settled (Names.Faithful among) (planReturned context e into columns) := by
  induction into generalizing columns with
  | nil => exact settled_pure _
  | cons i rest ih =>
    rw [List.forall_mem_cons] at h
    rw [planReturned]
    refine settled_bind (settled_takeJoin hamong e h.1 columns) fun cut => ?_
    exact settled_bind (ih h.2 _) fun _ => settled_pure _

theorem settled_planUpdate (hamong : Unconfused among) (e : Entity) {into : List IntoField}
    (h : ∀ i ∈ into, i.Within among) (columns : List ColumnLabel) :
    Settled (Names.Faithful among) (planUpdate context e into columns) :=
  settled_bind (settled_planReturned hamong e h columns) fun _ => settled_pure _

end RelationalMapping
