import RelationalMapping.Proofs.Sql.Checks
import RelationalMapping.Proofs.Sql.Naming
import RelationalMapping.Query.Select

namespace RelationalMapping

theorem Entity.isNamed_iff (e : Entity) :
    e.isNamed = true ↔ e.typeName.isEmpty = false ∧ ∃ name, e.ownTableName = .ok name := by
  unfold Entity.isNamed Entity.ownTableName
  cases e.tableName with
  | some name => simp
  | none => cases e.simpleName.isEmpty <;> simp

theorem Entity.ownTableName_error {e : Entity} {fault : Error} (h : e.ownTableName = .error fault) :
    fault = .declaration .unnamed := by
  unfold Entity.ownTableName at h
  split at h
  · cases h
  · split at h <;> cases h
    rfl

def Names.OwnTables (among : Entity → Prop) (names : Names) : Prop :=
  ∀ e, among e → ∀ name, names.tables.lookup e.typeName = some name → e.ownTableName = .ok name

theorem Names.ownTables_empty (among : Entity → Prop) : Names.OwnTables among {} := by
  intro e _ name hname
  cases hname

theorem Names.OwnTables.column {among : Entity → Prop} {names : Names} (h : names.OwnTables among)
    (c : Column) : (names.column c).2.OwnTables among := by
  unfold Names.column
  split <;> exact h

theorem Names.OwnTables.marker {among : Entity → Prop} {names : Names} (h : names.OwnTables among)
    (edge : Edge) (into : IntoField) : (names.marker edge into).2.OwnTables among := by
  unfold Names.marker
  dsimp only
  split
  · exact h
  · exact h.column into.column

section Written

variable {among : Entity → Prop}

theorem Names.ownTables_cons (hdistinct : ∀ e d, among e → among d → e.typeName = d.typeName → e = d)
    {names : Names} (hnames : names.OwnTables among) {e : Entity} (he : among e) {own : String}
    (hown : e.ownTableName = .ok own) :
    Names.OwnTables among { names with tables := (e.typeName, own) :: names.tables } := by
  intro d hd name hname
  rw [List.lookup_cons] at hname
  split at hname
  · rename_i hkey
    cases hname
    rw [hdistinct d e hd he (beq_iff_eq.mp hkey), hown]
  · exact hnames d hd name hname

theorem Naming.ends_table (hdistinct : ∀ e d, among e → among d → e.typeName = d.typeName → e = d)
    {e : Entity} (he : among e) :
    Ends (Names.OwnTables among) (table e) (Check.table e).fault? := by
  intro names hnames
  rw [table_apply, Names.table]
  cases hnamed : e.isNamed with
  | true =>
    obtain ⟨htype, own, hown⟩ := e.isNamed_iff.mp hnamed
    rw [Check.fault?, Check.passes, hnamed, if_pos rfl, htype, if_neg (by decide)]
    cases names.tables.lookup e.typeName with
    | some name => exact ⟨name, names, rfl, hnames⟩
    | none => exact ⟨own, _, by rw [hown], Names.ownTables_cons hdistinct hnames he hown⟩
  | false =>
    rw [Check.fault?, Check.passes, hnamed, if_neg (by decide)]
    cases htype : e.typeName.isEmpty with
    | true => rfl
    | false =>
      have hunnamed : ∀ name, e.ownTableName ≠ .ok name := by
        intro name hname
        rw [e.isNamed_iff.mpr ⟨htype, name, hname⟩] at hnamed
        cases hnamed
      rw [if_neg (by decide)]
      cases hlookup : names.tables.lookup e.typeName with
      | some name => exact absurd (hnames e he name hlookup) (hunnamed name)
      | none =>
        cases hown : e.ownTableName with
        | ok name => exact absurd hown (hunnamed name)
        | error fault => rw [Entity.ownTableName_error hown]; rfl

theorem Piece.ends_resolve (hdistinct : ∀ e d, among e → among d → e.typeName = d.typeName → e = d)
    {p : Piece} (hp : ∀ e, .table e ∈ p.demands → among e) :
    Naming.Ends (Names.OwnTables among) p.resolve (p.demands.findSome? Demand.fault?) := by
  cases p with
  | tableName e =>
    have htable := Naming.ends_table hdistinct (hp e List.mem_cons_self)
    have hresolve := Naming.ends_bind htable fun name =>
      Naming.ends_pure (Chunk.text (Text.quoteIdentifier name))
    rw [Option.or_none] at hresolve
    rw [Piece.demands, List.findSome?_singleton]
    exact hresolve
  | columnName c =>
    intro names hnames
    exact ⟨_, _, rfl, hnames.column c⟩
  | marker edge into =>
    intro names hnames
    exact ⟨_, _, rfl, hnames.marker edge into⟩
  | failure fault => exact Naming.ends_throw fault
  | _ => exact Naming.ends_pure _

theorem ends_resolve (hdistinct : ∀ e d, among e → among d → e.typeName = d.typeName → e = d)
    {pieces : List Piece} (hpieces : ∀ e, .table e ∈ demandsOf pieces → among e) :
    Naming.Ends (Names.OwnTables among) (resolve pieces)
      ((demandsOf pieces).findSome? Demand.fault?) := by
  induction pieces with
  | nil => exact Naming.ends_pure _
  | cons p rest ih =>
    have hp := Piece.ends_resolve hdistinct fun e he =>
      hpieces e (List.mem_flatMap.mpr ⟨p, List.mem_cons_self, he⟩)
    have hrest := ih fun e he => hpieces e (by simp [he])
    rw [resolve_cons, demandsOf, List.flatMap_cons, List.findSome?_append]
    refine Naming.ends_bind hp fun chunk => ?_
    have hchunks := Naming.ends_bind hrest fun chunks => Naming.ends_pure (chunk :: chunks)
    rwa [Option.or_none] at hchunks

end Written

theorem Check.findSome?_demands (c : Check) : c.demands.findSome? Demand.fault? = c.fault? := by
  cases c with
  | table e => simp [demands, Demand.fault?]
  | _ =>
    simp only [demands, fault?]
    split <;> rfl

theorem findSome?_demandsIn (checks : List Check) :
    (demandsIn checks).findSome? Demand.fault? = checks.findSome? Check.fault? := by
  induction checks with
  | nil => rfl
  | cons c rest ih =>
    rw [demandsIn, List.flatMap_cons, List.findSome?_append, c.findSome?_demands, ih]
    cases hc : c.fault? <;> simp [hc]

theorem Check.table_mem_of_demands {checks : List Check} {e : Entity}
    (h : Demand.table e ∈ demandsIn checks) : .table e ∈ checks := by
  obtain ⟨c, hc, he⟩ := List.mem_flatMap.mp h
  cases c with
  | table d =>
    cases List.mem_singleton.mp he
    exact hc
  | _ =>
    simp only [demands] at he
    split at he <;> simp at he

theorem Check.fault?_eq_none_iff {c : Check} : c.fault? = none ↔ c.passes = true := by
  cases h : c.passes <;> simp [fault?, h]

theorem Check.fault?_eq_some_iff {c : Check} {fault : Error} :
    c.fault? = some fault ↔ c.passes = false ∧ fault = c.fault := by
  cases h : c.passes <;> simp [fault?, h, eq_comm]

theorem Check.kind_fault (c : Check) :
    c.fault.kind ∈ ["Construction", "Validation", "Configuration"] := by
  cases c <;> simp [fault, Error.kind]

theorem findSome?_fault {checks : List Check} {fault : Error}
    (h : checks.findSome? Check.fault? = some fault) :
    ∃ before c after, checks = before ++ c :: after ∧ (∀ b ∈ before, Check.passes b = true)
      ∧ Check.passes c = false ∧ fault = Check.fault c := by
  obtain ⟨before, c, after, hsplit, hfault, hbefore⟩ := List.findSome?_eq_some_iff.mp h
  obtain ⟨hpasses, rfl⟩ := Check.fault?_eq_some_iff.mp hfault
  exact ⟨before, c, after, hsplit, fun b hb => Check.fault?_eq_none_iff.mp (hbefore b hb), hpasses, rfl⟩

theorem Query.ends_write (q : Query)
    (hdistinct : ∀ e d, .table e ∈ q.checks → .table d ∈ q.checks → e.typeName = d.typeName → e = d) :
    Naming.Ends (Names.OwnTables (.table · ∈ q.checks)) q.write (q.checks.findSome? Check.fault?) := by
  have hpieces : ∀ e, .table e ∈ demandsOf q.pieces → Check.table e ∈ q.checks := by
    intro e he
    rw [q.demands_pieces] at he
    exact Check.table_mem_of_demands he
  have hchunks := ends_resolve hdistinct hpieces
  rw [q.demands_pieces, findSome?_demandsIn] at hchunks
  have hwrite := Naming.ends_bind hchunks fun chunks => Naming.ends_pure (Fragment.ofChunks chunks)
  rw [Option.or_none] at hwrite
  exact hwrite

theorem Query.write_ok_iff (q : Query) {names : Names}
    (hdistinct : ∀ e d, .table e ∈ q.checks → .table d ∈ q.checks → e.typeName = d.typeName → e = d)
    (hnames : names.OwnTables (.table · ∈ q.checks)) :
    ((∃ f, (q.write names).1 = .ok f) ↔ ∀ c ∈ q.checks, c.passes = true)
      ∧ ∀ fault, (q.write names).1 = .error fault →
        (∃ before c after, q.checks = before ++ c :: after ∧ (∀ b ∈ before, b.passes = true)
          ∧ c.passes = false ∧ fault = c.fault)
        ∧ fault.kind ∈ ["Construction", "Validation", "Configuration"] := by
  have hends := q.ends_write hdistinct names hnames
  cases hfault : q.checks.findSome? Check.fault? with
  | none =>
    rw [hfault] at hends
    obtain ⟨f, names', hf, -⟩ := hends
    rw [hf]
    refine ⟨⟨fun _ c hc => ?_, fun _ => ⟨f, rfl⟩⟩, fun fault h => by cases h⟩
    exact Check.fault?_eq_none_iff.mp (List.findSome?_eq_none_iff.mp hfault c hc)
  | some fault =>
    rw [hfault] at hends
    obtain ⟨before, c, after, hsplit, hbefore, hc, hkind⟩ := findSome?_fault hfault
    change (q.write names).1 = .error fault at hends
    rw [hends]
    constructor
    · constructor
      · rintro ⟨f, hf⟩
        cases hf
      · intro hall
        have hpasses := hall c (hsplit ▸ by simp)
        rw [hc] at hpasses
        cases hpasses
    · rintro other hother
      cases hother
      exact ⟨⟨before, c, after, hsplit, hbefore, hc, hkind⟩, hkind ▸ c.kind_fault⟩

theorem Query.write_ok_iff_shuffled :
    let items := (Entity.ofFields "Item" "Item" none []).table
    let zones := (Entity.ofFields "Zone" "Zone" none []).table
    let q := (items.selectAll.addJoin .left ((zones.selectAll.filter (some (.case [] none))).on
      (.is (.column (zones.column "name")) .null true))).orderBy [.case []]
    (∃ f, (q.shuffled.write {}).1 = .ok f) ∧ ¬ ∃ f, (q.write {}).1 = .ok f := by
  intro items zones q
  let written : List Check := [.table items.entity, .table zones.entity, .table items.entity,
    .target [.table zones], .table zones.entity,
    .matched (some (.is (.column (zones.column "name")) .null true)) none, .table zones.entity]
  have hshuffled : q.shuffled.checks = written := rfl
  have hchecks : q.checks = written ++ [Check.orderCases []] := rfl
  have htables : ∀ e, Check.table e ∈ written ++ [Check.orderCases []] → e = items.entity ∨ e = zones.entity := by
    intro e he
    simp only [written, List.cons_append, List.nil_append, List.mem_cons, Check.table.injEq, reduceCtorEq,
      List.not_mem_nil, or_false, false_or] at he
    rcases he with h | h | h | h | h
    · exact .inl h
    · exact .inr h
    · exact .inl h
    · exact .inr h
    · exact .inr h
  have hdistinct : ∀ e d, Check.table e ∈ written ++ [Check.orderCases []] →
      Check.table d ∈ written ++ [Check.orderCases []] → e.typeName = d.typeName → e = d := by
    intro e d he hd
    rcases htables e he with rfl | rfl <;> rcases htables d hd with rfl | rfl <;> decide
  constructor
  · refine (Query.write_ok_iff q.shuffled (fun e d he hd => ?_) (Names.ownTables_empty _)).1.mpr ?_
    · rw [hshuffled] at he hd
      exact hdistinct e d (List.mem_append_left _ he) (List.mem_append_left _ hd)
    · rw [hshuffled]
      simp only [written, List.mem_cons, List.not_mem_nil, or_false]
      rintro c (rfl | rfl | rfl | rfl | rfl | rfl | rfl) <;> rfl
  · rw [(Query.write_ok_iff q (by rwa [hchecks]) (Names.ownTables_empty _)).1, hchecks]
    intro hall
    cases hall (.orderCases []) (by simp)

end RelationalMapping
