import RelationalMapping.Mapping.Planner

namespace RelationalMapping

inductive Origin where
  | unknown
  | query (q : Query)
  | update (u : Update)

inductive Mapper where
  | kept (typeName : String) (e : Entity)
  | joinedQuery (e : Entity) (q : Query)
  | joinedUpdate (e : Entity) (into : List IntoField)

/-- What is kept for a type name: the entity that was asked for first, and the routes of labels. -/
structure Kept where
  entity : Entity
  routes : List (String × Option FieldRef) := []
  deriving Repr

structure Memory where
  names : Names := {}
  kept : List (String × Kept) := []
  deriving Repr

abbrev Mapping := ExceptT Error (StateM Memory)

def Mapping.naming {α : Type} (step : Naming α) : Mapping α := fun memory =>
  let (result, names) := step memory.names
  (result, { memory with names })

def keep (e : Entity) (kept : List (String × Kept)) : Kept × List (String × Kept) :=
  match kept.lookup e.typeName with
  | some k => (k, kept)
  | none => ({ entity := e }, kept ++ [(e.typeName, { entity := e })])

def resolveMapper (e : Entity) (origin : Origin) : Mapping Mapper := fun memory =>
  let plain : Except Error Mapper × Memory :=
    let (k, kept) := keep e memory.kept
    (.ok (.kept e.typeName k.entity), { memory with kept })
  match origin with
  | .unknown => plain
  | .query q => if q.intoJoins.isEmpty then plain else (.ok (.joinedQuery e q), memory)
  | .update u => match u.source with
    | .none => plain
    | _ => if u.into.isEmpty then plain else (.ok (.joinedUpdate e u.into), memory)

namespace Mapper

def entity : Mapper → Entity
  | .kept _ e => e
  | .joinedQuery e _ => e
  | .joinedUpdate e _ => e

def isOne : Mapper → Mapper → Bool
  | .kept a _, .kept b _ => a == b
  | _, _ => false

end Mapper

def Kept.route (context : MappingContext) (k : Kept) (label : String) : Option FieldRef × Kept :=
  match k.routes.lookup label with
  | some target => (target, k)
  | none =>
    let target := route? context k.entity label
    (target, { k with routes := (label, target) :: k.routes })

def Kept.routeAll (context : MappingContext) (k : Kept) :
    List ColumnLabel → List (ColumnLabel × Option FieldRef) × Kept
  | [] => ([], k)
  | c :: rest =>
    let (target, k) := k.route context c.label
    let (routed, k) := k.routeAll context rest
    ((c, target) :: routed, k)

def Kept.plan (context : MappingContext) (k : Kept) (columns : List ColumnLabel) : Plan × Kept :=
  let (routed, k) := k.routeAll context (firstLabels [] columns)
  (planRouted context k.entity routed, k)

inductive RowMapper where
  | record (plan : Plan)
  | enumeration (e : Entity) (codec : Codec)

def RowMapper.map (row : Row) : RowMapper → Except Error Instance
  | .record plan => plan.run row
  | .enumeration e codec =>
    (codec.decode (row.cell? 1) >>= e.ofColumn).mapError (.within e.simpleName)

def replaceKept (typeName : String) (k : Kept) (kept : List (String × Kept)) : List (String × Kept) :=
  kept.map fun (name, old) => if name = typeName then (name, k) else (name, old)

def specialize (context : MappingContext) (mapper : Mapper) (columns : List ColumnLabel) :
    Mapping RowMapper :=
  match mapper with
  | .joinedQuery e q => return .record (← Mapping.naming (planQuery context e q columns))
  | .joinedUpdate e into => return .record (← Mapping.naming (planUpdate context e into columns))
  | .kept typeName e => match e.shape with
    | .enumeration _ => return .enumeration e (context.codec e.simpleName)
    | .record => fun memory =>
      let k := (memory.kept.lookup typeName).getD { entity := e }
      let (plan, k) := k.plan context columns
      (.ok (.record plan), { memory with kept := replaceKept typeName k memory.kept })

def mapRow (e : Entity) (mapper : RowMapper) (row : Row) : Except Error Instance := do
  let i ← mapper.map row
  if i.instanceType = e.instanceType then .ok i else .error (.mapping e.simpleName .unexpectedRow)

def mapResult (context : MappingContext) (e : Entity) (origin : Origin) (t : ResultTable) :
    Mapping (List Instance) := do
  let mapper ← resolveMapper e origin
  let rows ← specialize context mapper t.columns
  ExceptT.mk (pure (t.rows.mapM (mapRow e rows)))

end RelationalMapping
