import RelationalMapping.Proofs.Mapping.NestedRows
import RelationalMapping.Proofs.Mapping.Shifted
import RelationalMapping.Proofs.Sql.Returning
import RelationalMapping.Query.Change

namespace RelationalMapping

structure Bracket where
  into : IntoField
  labels : List String

namespace Bracket

def field (b : Bracket) : String := b.into.column.property

def layout (b : Bracket) : List String :=
  b.into.ownLabel .start :: (b.labels ++ [b.into.ownLabel .stop])

def Finds (context : MappingContext) (b : Bracket) (cells : Row) (found : Option Instance) : Prop :=
  if cells.all (·.isNull) then found = none
  else ∃ child, found = some child
    ∧ (planRows context b.into.target (labelled 1 b.labels)).run cells = .ok child

end Bracket

def returnedLabels (own : List String) (brackets : List Bracket) : List String :=
  own ++ brackets.flatMap (·.layout)

def returnedRow (own : Row) (inside : List Row) : Row :=
  own ++ inside.flatMap fun cells => Value.null :: (cells ++ [Value.null])

structure Unmarked (own : List String) (brackets : List Bracket) : Prop where
  own : ∀ label ∈ own, ∀ b ∈ brackets, ∀ edge, label ≠ b.into.ownLabel edge
  inside : ∀ b ∈ brackets, ∀ label ∈ b.labels, label ≠ b.into.ownLabel .stop

variable {context : MappingContext} {among : Entity → Prop} {e : Entity}

def bracketJoins (context : MappingContext) (position : Nat) : List Bracket → List JoinPlan
  | [] => []
  | b :: rest =>
    let inside := labelled (position + 1) b.labels
    ⟨b.field, planRows context b.into.target inside, inside.map (·.position)⟩
      :: bracketJoins context (position + b.labels.length + 2) rest

theorem map_field_bracketJoins (context : MappingContext) (position : Nat) (brackets : List Bracket) :
    (bracketJoins context position brackets).map (·.field) = brackets.map (·.field) := by
  induction brackets generalizing position with
  | nil => rfl
  | cons b rest ih => rw [bracketJoins, List.map_cons, List.map_cons, ih]

theorem labelled_bracket (position : Nat) (b : Bracket) (labels : List String) :
    labelled position (b.layout ++ labels)
      = ⟨position, b.into.ownLabel .start⟩ :: (labelled (position + 1) b.labels
        ++ ⟨position + 1 + b.labels.length, b.into.ownLabel .stop⟩
          :: labelled (position + b.labels.length + 2) labels) := by
  have hnext : position + 1 + b.labels.length + 1 = position + b.labels.length + 2 := by omega
  rw [Bracket.layout, List.cons_append, labelled, List.append_assoc, labelled_append, List.singleton_append,
    labelled, hnext]

theorem yields_planReturned (hamong : Unconfused among) {own : List ColumnLabel} {brackets : List Bracket}
    (hinto : ∀ b ∈ brackets, among b.into.column.table.entity)
    (hown : ∀ c ∈ own, ∀ b ∈ brackets, ∀ edge, c.label ≠ b.into.ownLabel edge)
    (hinside : ∀ b ∈ brackets, ∀ label ∈ b.labels, label ≠ b.into.ownLabel .stop) (position : Nat) :
    Naming.Yields (Names.Faithful among)
      (planReturned context e (brackets.map (·.into))
        (own ++ labelled position (brackets.flatMap (·.layout))))
      (bracketJoins context position brackets, own) := by
  induction brackets generalizing position with
  | nil =>
    rw [List.flatMap_nil, labelled, List.append_nil]
    exact Naming.yields_pure _
  | cons b rest ih =>
    simp only [List.mem_cons, forall_eq_or_imp] at hinto hown hinside
    rw [List.flatMap_cons, labelled_bracket, List.map_cons, planReturned]
    refine Naming.yields_bind (yields_takeJoin hamong hinto.1 (fun c hc => (hown c hc).1)
      fun c hc => hinside.1 _ (exists_label_iff.mp ⟨c, hc, rfl⟩)) ?_
    refine Naming.yields_bind (ih hinto.2 (fun c hc => (hown c hc).2) hinside.2 _) ?_
    exact Naming.yields_pure _

structure JoinPlan.Covers (context : MappingContext) (row : Row) (b : Bracket) (cells : Row) (j : JoinPlan) :
    Prop where
  field : j.field = b.field
  entity : j.plan.entity = b.into.target
  vacant : row.isVacant j.positions = cells.all (·.isNull)
  run : j.plan.run row = (planRows context b.into.target (labelled 1 b.labels)).run cells

theorem exists_covers (context : MappingContext) {brackets : List Bracket} {inside : List Row}
    (h : List.Forall₂ (fun b cells => cells.length = b.labels.length) brackets inside) (before : Row) :
    ∀ x ∈ brackets.zip inside, ∃ j ∈ bracketJoins context (before.length + 1) brackets,
      j.Covers context (returnedRow before inside) x.1 x.2 := by
  induction h generalizing before with
  | nil => simp
  | @cons b cells rest others hlength _ ih =>
    have hrow : returnedRow before (cells :: others)
        = (before ++ [Value.null]) ++ (cells ++ Value.null :: others.flatMap fun cells => Value.null :: (cells ++ [Value.null])) := by
      simp [returnedRow]
    have hnext : returnedRow before (cells :: others) = returnedRow (before ++ Value.null :: (cells ++ [Value.null])) others := by
      simp [returnedRow]
    have hposition : (before ++ [Value.null]).length + 1 = before.length + 1 + 1 := by simp
    intro x hx
    rcases List.mem_cons.mp hx with rfl | hx
    · refine ⟨_, List.mem_cons_self, rfl, rfl, ?_, ?_⟩
      · rw [hrow, ← hposition]
        exact isVacant_labelled hlength _ _
      · rw [hrow, ← hposition]
        exact run_planRows_labelled context b.into.target hlength _ _
    · obtain ⟨j, hj, hcovers⟩ := ih (before ++ Value.null :: (cells ++ [Value.null])) x hx
      refine ⟨j, List.mem_cons_of_mem _ ?_, hnext ▸ hcovers⟩
      have hlast : (before ++ Value.null :: (cells ++ [Value.null])).length + 1
          = before.length + 1 + b.labels.length + 2 := by
        simp [hlength]
        omega
      rwa [hlast] at hj

theorem Provider.Serves.congr {row other : Row} {g : Field} {c : Content} {p : Provider}
    (h : p.provide row = p.provide other) : p.Serves row g c ↔ p.Serves other g c := by
  rw [Provider.Serves, Provider.Serves, h]

theorem Provider.Serves.joined {row : Row} {g : Field} {c : Content} {plan : Plan} {positions : List Nat}
    (h : (Provider.join plan positions).Serves row g c) :
    g.holds = .joined plan.entity.instanceType ∧ ∃ found, c = .joined found
      ∧ if row.isVacant positions then found = none else ∃ child, found = some child ∧ plan.run row = .ok child := by
  obtain ⟨a, ha, hcontent⟩ := h
  have hobject : ∃ found, a = .object (.joined plan.entity.instanceType) (.joined found)
      ∧ if row.isVacant positions then found = none
        else ∃ child, found = some child ∧ plan.run row = .ok child := by
    rw [Provider.provide] at ha
    split at ha
    · rename_i hvacant
      cases ha
      exact ⟨none, rfl, by rw [if_pos hvacant]⟩
    · rename_i hvacant
      obtain ⟨child, hchild, hwrap⟩ := bind_eq_ok_iff.mp ha
      unfold Entity.wrap at hwrap
      split at hwrap
      · cases hwrap
        refine ⟨some child, rfl, ?_⟩
        rw [if_neg hvacant]
        exact ⟨child, rfl, hchild⟩
      · cases hwrap
  obtain ⟨found, rfl, hfound⟩ := hobject
  unfold Argument.content at hcontent
  split at hcontent
  · cases hcontent
  · rw [Argument.takeObject] at hcontent
    split at hcontent
    · rename_i heq
      cases hcontent
      exact ⟨heq.symm, found, rfl, hfound⟩
    · cases hcontent

/-- What an instance has from a returned row: in every into-field what its bracket shows, and in the other fields what
the row's own cells make by themselves. -/
structure ShowsReturned (context : MappingContext) (e : Entity) (own : List String) (brackets : List Bracket)
    (cells : Row) (inside : List Row) (i : Instance) : Prop where
  joined : ∀ x ∈ brackets.zip inside, ∃ found,
    i.field? x.1.field = some (.joined found) ∧ x.1.Finds context x.2 found
  outer : ∃ outer, (planRows context e (labelled 1 own)).run cells = .ok outer
    ∧ ∀ name, name ∉ brackets.map (·.field) → i.field? name = outer.field? name

section Records

variable {types : TypeNames} {fields : List Field} {typeName simpleName : String} {tableName : Option String}

theorem field?_recordOf {content : Field → Content} (hfields : (fields.map (·.name)).Nodup) {f : Field}
    (hf : f ∈ fields) : (recordOf typeName fields content).field? f.name = some (content f) :=
  lookup_contents (nodup_members hfields) (mem_members.mpr hf)

theorem field?_recordOf_eq_none {content : Field → Content} {name : String} (h : ¬ ∃ f ∈ fields, f.name = name) :
    (recordOf typeName fields content).field? name = none := by
  refine lookup_eq_none_of_not_mem fun hname => h ?_
  rw [keys_contents] at hname
  obtain ⟨f, hf, heq⟩ := List.mem_map.mp hname
  exact ⟨f, mem_members.mp hf, heq⟩

theorem transient_of_joined (h : Derived types fields) {f : Field} (hf : f ∈ fields) {target : String}
    (hholds : f.holds = .joined target) : f.transient = true := by
  have hheld := h.holds f hf
  rw [hholds] at hheld
  unfold TypeNames.held? at hheld
  split at hheld
  · rename_i htransient _
    exact htransient
  · simp at hheld

theorem columnProvider?_provide {row other : Row} {columns : List ColumnLabel}
    (h : ∀ c ∈ columns, row.cell? c.position = other.cell? c.position) {g : Field} {p : Provider}
    (hp : columnProvider? context columns g = some p) : p.provide row = p.provide other := by
  unfold columnProvider? at hp
  split at hp
  · cases hp
  · obtain ⟨c, hc, rfl⟩ := Option.map_eq_some_iff.mp hp
    rw [Provider.provide, Provider.provide, h c (List.mem_of_find?_eq_some hc)]

theorem Readable.showsReturned (h : Readable types fields) (typeName simpleName : String)
    (tableName : Option String) {own : List String} {brackets : List Bracket}
    (hjoins : JoinsInto context fields (bracketJoins context (own.length + 1) brackets))
    (hdistinct : (brackets.map (·.field)).Nodup) {cells : Row}
    (hcells : cells.length = own.length) {inside : List Row}
    (hinside : List.Forall₂ (fun b cells => cells.length = b.labels.length) brackets inside) {i : Instance}
    (hrun : (assemble context (Entity.ofFields typeName simpleName tableName fields) (labelled 1 own)
      (bracketJoins context (own.length + 1) brackets)).run (returnedRow cells inside) = .ok i) :
    ShowsReturned context (Entity.ofFields typeName simpleName tableName fields) own brackets cells inside i := by
  rw [assemble_eq, Fillings.run_toPlan_eq_ok_iff hjoins.nodup_names hjoins.fits] at hrun
  obtain ⟨content, rfl, hgets⟩ := hrun
  have hserved : ∀ j ∈ bracketJoins context (own.length + 1) brackets, ∀ g ∈ fields, g.name = j.field →
      (Provider.join j.plan j.positions).Serves (returnedRow cells inside) g (content g) := by
    intro j hj g hg hname
    have hfields := hdistinct
    rw [← map_field_bracketJoins context (own.length + 1)] at hfields
    have hprovided := hgets g hg
    obtain ⟨other, hother, hfield, hprovider⟩ := hjoins.provider?_joined hg (List.mem_map.mpr ⟨j, hj, hname.symm⟩)
    rw [hprovider, List.inj_on_of_nodup_map hfields hother hj (hfield.trans hname)] at hprovided
    exact hprovided
  refine ⟨fun x hx => ?_, ?_⟩
  · obtain ⟨j, hj, hcovers⟩ := exists_covers context hinside cells x hx
    rw [hcells] at hj
    obtain ⟨g, hg, hname⟩ := hjoins.places j hj
    obtain ⟨-, found, hcontent, hfound⟩ := (hserved j hj g hg hname).joined
    refine ⟨found, ?_, ?_⟩
    · rw [← hcovers.field, ← hname, field?_recordOf hjoins.nodup_names hg, hcontent]
    · rwa [hcovers.vacant, hcovers.run] at hfound
  · have hown : ∀ c ∈ labelled 1 own, (returnedRow cells inside).cell? c.position = cells.cell? c.position := by
      have halike := alike_labelled hcells [] (inside.flatMap fun cells => .null :: (cells ++ [.null])) [] []
      rw [List.nil_append, List.nil_append, List.append_nil, List.forall₂_same] at halike
      exact fun c hc => (halike c hc).2
    refine ⟨recordOf typeName fields fun g => if g.name ∈ brackets.map (·.field) then g.holds.initial else content g,
      ?_, ?_⟩
    · rw [planRows_eq, Fillings.run_toPlan_eq_ok_iff hjoins.nodup_names (fits_foundFillings _ _ _)]
      refine ⟨_, rfl, fun g hg => ?_⟩
      rw [h.provider?_foundFillings hg]
      have hgets := hgets g hg
      split
      · rename_i hname
        rw [← map_field_bracketJoins context (own.length + 1)] at hname
        obtain ⟨j, hj, hfield⟩ := List.mem_map.mp hname
        have htransient := transient_of_joined h.derived hg (hserved j hj g hg hfield.symm).joined.1
        rw [columnProvider?, if_pos htransient]
        exact ⟨.inr (.inl htransient), rfl⟩
      · rename_i hname
        rw [hjoins.provider?_other hg (map_field_bracketJoins context _ brackets ▸ hname),
          h.provider?_foundFillings hg] at hgets
        rcases hprovider : columnProvider? context (labelled 1 own) g with _ | p
        · rw [hprovider] at hgets
          exact hgets
        · rw [hprovider] at hgets
          exact (Provider.Serves.congr (columnProvider?_provide hown hprovider)).mp hgets
    · intro name hother
      by_cases hname : ∃ f ∈ fields, f.name = name
      · obtain ⟨f, hf, rfl⟩ := hname
        rw [field?_recordOf hjoins.nodup_names hf, field?_recordOf hjoins.nodup_names hf, if_neg hother]
      · rw [field?_recordOf_eq_none hname, field?_recordOf_eq_none hname]

end Records

theorem resolveMapper_returned {u : Update} (hsource : u.source ≠ .none) (hinto : u.into ≠ []) (memory : Memory) :
    resolveMapper e (.update u) memory = (.ok (.joinedUpdate e u.into), memory) := by
  have hsome : u.into.isEmpty = false := by simpa using hinto
  rw [resolveMapper]
  split
  · rename_i hnone
    exact absurd hnone hsource
  · rw [hsome]
    rfl

theorem mapRow_ok {plan : Plan} {row : Row} {i : Instance} (h : mapRow e (.record plan) row = .ok i) :
    plan.run row = .ok i := by
  obtain ⟨found, hfound, htype⟩ := bind_eq_ok_iff.mp h
  split at htype
  · cases htype
    exact hfound
  · cases htype

theorem yields_planUpdate (context : MappingContext) (e : Entity) (hamong : Unconfused among) {own : List String}
    {brackets : List Bracket} (hinto : ∀ b ∈ brackets, among b.into.column.table.entity)
    (h : Unmarked own brackets) :
    Naming.Yields (Names.Faithful among)
      (planUpdate context e (brackets.map (·.into)) (labelled 1 (returnedLabels own brackets)))
      (assemble context e (labelled 1 own) (bracketJoins context (own.length + 1) brackets)) := by
  rw [planUpdate, returnedLabels, labelled_append, Nat.add_comm 1]
  refine Naming.yields_bind (yields_planReturned hamong hinto (fun c hc => ?_) h.inside _) (Naming.yields_pure _)
  exact h.own _ (exists_label_iff.mp ⟨c, hc, rfl⟩)

structure Entity.Takes (types : TypeNames) (e : Entity) (brackets : List Bracket) : Prop where
  record : e.IsRecord types
  names : (e.fields.map fun f => folded f.name).Nodup
  places : ∀ b ∈ brackets, ∃ f ∈ e.fields, f.name = b.field
  distinct : (brackets.map (·.field)).Nodup

theorem Entity.Takes.joinsInto {types : TypeNames} {brackets : List Bracket} (h : e.Takes types brackets)
    (hmatchers : context.matchers ≠ []) (position : Nat) :
    JoinsInto context e.fields (bracketJoins context position brackets) where
  matchers := hmatchers
  names := h.names
  places := by
    intro j hj
    have hfield := List.mem_map_of_mem (f := (·.field)) hj
    rw [map_field_bracketJoins] at hfield
    obtain ⟨b, hb, hname⟩ := List.mem_map.mp hfield
    obtain ⟨f, hf, heq⟩ := h.places b hb
    exact ⟨f, hf, heq.trans hname⟩

theorem Update.among_of_parts {u : Update} (hparts : ∀ p ∈ u.parts, p.Within among)
    (hreturning : u.returning.isSome) {into : IntoField} (hinto : into ∈ u.into) :
    among into.column.table.entity := by
  obtain ⟨projections, hprojections⟩ := Option.isSome_iff_exists.mp hreturning
  have hlist : [.marker .start into] ∈ projectionPieces projections ++ u.into.flatMap (·.returningPieces) :=
    List.mem_append_right _ (List.mem_flatMap.mpr ⟨into, hinto, List.mem_cons_self⟩)
  have hmem : .marker .start into ∈ returningPieces u.returningColumns := by
    rw [Update.returningColumns, hprojections]
    exact List.mem_cons_of_mem _ (mem_separated hlist List.mem_cons_self)
  exact hparts (.marker .start into) (List.mem_append_right _ (List.mem_append_right _ hmem))

theorem Update.map_returned {types : TypeNames} (hamong : Unconfused among) {u : Update}
    (hparts : ∀ p ∈ u.parts, p.Within among) {projections : List Projection}
    (hreturning : u.returning = some projections) (hsource : u.source ≠ .none) {brackets : List Bracket}
    (hinto : brackets.map (·.into) = u.into) (hbrackets : brackets ≠ []) (htakes : e.Takes types brackets)
    {own : List String} (hunmarked : Unmarked own brackets) (hmatchers : context.matchers ≠ [])
    {names names' : Names} (hnames : names.Faithful among) {f : Fragment}
    (hwrite : u.write names = (.ok f, names')) {memory : Memory} (hmemory : memory.names.Faithful among)
    {rows : List (Row × List Row)} (hrows : ∀ r ∈ rows, r.1.length = own.length
      ∧ List.Forall₂ (fun b cells => cells.length = b.labels.length) brackets r.2)
    {instances : List Instance}
    (hmap : (mapResult context e (.update u)
      ⟨returnedLabels own brackets, rows.map fun r => returnedRow r.1 r.2⟩ memory).1 = .ok instances) :
    u.ReturnsTexts projections f.sql
      ∧ List.Forall₂ (fun r i => ShowsReturned context e own brackets r.1 r.2 i) rows instances := by
  refine ⟨(u.write_returning hamong hparts hreturning names f names' hnames hwrite).1, ?_⟩
  have hcolumns : ∀ b ∈ brackets, among b.into.column.table.entity := fun b hb =>
    Update.among_of_parts hparts (by simp [hreturning]) (hinto ▸ List.mem_map_of_mem hb)
  obtain ⟨after, hplan, -⟩ := yields_planUpdate context e hamong hcolumns hunmarked memory.names hmemory
  rw [hinto] at hplan
  have hmapper : resolveMapper e (.update u) memory = (.ok (.joinedUpdate e u.into), memory) :=
    resolveMapper_returned hsource (by rw [← hinto]; simpa using hbrackets) memory
  rw [mapResult_planned hmapper rfl hplan, List.mapM_map] at hmap
  have hrecord := htakes.record
  refine ((List.forall₂_and_left _ _).mpr ⟨hrows, mapM_eq_ok_iff.mp hmap⟩).imp fun r i ⟨⟨hcells, hinside⟩, hrow⟩ => ?_
  have hshows := hrecord.readable.showsReturned e.typeName e.simpleName e.tableName
    (htakes.joinsInto hmatchers (own.length + 1)) htakes.distinct hcells hinside (i := i)
  rw [← hrecord.made] at hshows
  exact hshows (mapRow_ok hrow)

def rideUpdate (source : UpdateSource) : Update :=
  (((ride.table.update.set (ride.table.column "id") (.value (.int 4))).readFrom source).alsoReturning
    [ride.table.projectAll]).returningInto (ride.table.column "vehicle") vehicle

def vehicleBracket : Bracket := ⟨⟨vehicle, ride.table.column "vehicle"⟩, ["id"]⟩

theorem ride_takes_vehicle : ride.Takes rideTypes [vehicleBracket] where
  record := rideEntities_schema.records _ List.mem_cons_self
  names := rideEntities_schema.names _ List.mem_cons_self
  places := List.forall_mem_singleton.mpr ⟨_, List.mem_cons_of_mem _ List.mem_cons_self, rfl⟩
  distinct := List.nodup_singleton _

theorem unmarked_vehicle : Unmarked ["id"] [vehicleBracket] where
  own := by
    simp only [List.forall_mem_singleton]
    rintro (_ | _) <;> decide +kernel
  inside := by
    simp only [List.forall_mem_singleton]
    decide +kernel

theorem Update.map_returned_rides :
    ∃ f names', (rideUpdate (.tables [vehicle.table])).write {} = (.ok f, names')
      ∧ (mapResult .standard ride (.update (rideUpdate (.tables [vehicle.table])))
          ⟨returnedLabels ["id"] [vehicleBracket],
            [([.int 1], [[.int 7]]), ([.int 2], [[.null]])].map fun r => returnedRow r.1 r.2⟩ {}).1
        = .ok [rideOf 1 (some (vehicleOf 7 none)), rideOf 2 none]
      ∧ (rideUpdate (.tables [vehicle.table])).ReturnsTexts [ride.table.projectAll] f.sql
      ∧ List.Forall₂ (fun r i => ShowsReturned .standard ride ["id"] [vehicleBracket] r.1 r.2 i)
          [([.int 1], [[.int 7]]), ([.int 2], [[.null]])]
          [rideOf 1 (some (vehicleOf 7 none)), rideOf 2 none] := by
  have hrows : ∀ r ∈ [(([.int 1], [[.int 7]]) : Row × List Row), ([.int 2], [[.null]])], r.1.length = 1
      ∧ List.Forall₂ (fun b cells => cells.length = b.labels.length) [vehicleBracket] r.2 :=
    List.forall_mem_cons.mpr ⟨⟨rfl, .cons rfl .nil⟩, List.forall_mem_singleton.mpr ⟨rfl, .cons rfl .nil⟩⟩
  have hsource : UpdateSource.tables [vehicle.table] ≠ .none := nofun
  have hmap : (mapResult .standard ride (.update (rideUpdate (.tables [vehicle.table])))
      ⟨returnedLabels ["id"] [vehicleBracket],
        [([.int 1], [[.int 7]]), ([.int 2], [[.null]])].map fun r => returnedRow r.1 r.2⟩ {}).1
      = .ok [rideOf 1 (some (vehicleOf 7 none)), rideOf 2 none] := rfl
  refine ⟨_, _, rfl, hmap, ?_⟩
  exact Update.map_returned rideEntities_schema.unconfused (by decide +kernel) rfl hsource rfl
    (List.cons_ne_nil _ _) ride_takes_vehicle unmarked_vehicle (List.cons_ne_nil _ _) (Names.faithful_empty _) rfl
    (Names.faithful_empty _) hrows hmap

theorem Update.map_returned_alone :
    (∃ names', (rideUpdate .none).write {}
        = (.ok ⟨"UPDATE \"ride\" SET \"id\" = ? RETURNING \"ride\".*, NULL AS \"start:vehicle\", "
            ++ "\"vehicle\".*, NULL AS \"end:vehicle\"", [.int 4]⟩, names'))
      ∧ ride.Takes rideTypes [vehicleBracket] ∧ Unmarked ["id"] [vehicleBracket]
      ∧ (mapResult .standard ride (.update (rideUpdate .none))
          ⟨returnedLabels ["id"] [vehicleBracket], [returnedRow [.int 1] [[.int 7]]]⟩ {}).1 = .ok [rideOf 1 none]
      ∧ ¬ ShowsReturned .standard ride ["id"] [vehicleBracket] [.int 1] [[.int 7]] (rideOf 1 none) := by
  refine ⟨⟨_, rfl⟩, ride_takes_vehicle, unmarked_vehicle, rfl, fun h => ?_⟩
  obtain ⟨found, hfield, hfinds⟩ := h.joined (vehicleBracket, [.int 7]) List.mem_cons_self
  cases hfield
  rw [Bracket.Finds, if_neg (by decide)] at hfinds
  obtain ⟨child, hchild, -⟩ := hfinds
  cases hchild

end RelationalMapping
