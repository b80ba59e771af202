import RelationalMapping.Mapping.Plan
import RelationalMapping.Sql.Fragment
import RelationalMapping.Text.Case

namespace RelationalMapping

inductive FieldRef where
  | parameter (p : Parameter)
  | property (p : Property)
  deriving DecidableEq, Repr

namespace FieldRef

def name : FieldRef → String
  | .parameter p => p.name
  | .property p => p.name

def slotName : FieldRef → String
  | .parameter p => p.slotName
  | .property p => p.slotName

def label : FieldRef → String
  | .parameter p => p.label
  | .property p => p.label

end FieldRef

namespace Entity

def columnParameters (e : Entity) : List Parameter := e.parameters.filter (!·.transient)

def columnProperties (e : Entity) : List Property :=
  e.properties.filter fun p => p.mutable && !p.transient

end Entity

def fill (field : String) (provider : Provider) : List Filling → List Filling
  | [] => [⟨field, provider⟩]
  | f :: rest => if f.field = field then ⟨field, provider⟩ :: rest else f :: fill field provider rest

structure Fillings where
  parameters : List Filling := []
  properties : List Filling := []

namespace Fillings

def add (f : Fillings) (target : FieldRef) (provider : Provider) : Fillings :=
  match target with
  | .parameter p => { f with parameters := fill p.name provider f.parameters }
  | .property p => { f with properties := fill p.name provider f.properties }

def addColumn (context : MappingContext) (f : Fillings) (target : FieldRef) (position : Nat) : Fillings :=
  f.add target (.column position (context.codec target.label))

def toPlan (f : Fillings) (e : Entity) : Plan :=
  let required := e.parameters.filter fun p => !p.optional && p.nullable
  { entity := e
    parameters := required.foldl
      (fun parameters p =>
        if parameters.any (·.field == p.name) then parameters else parameters ++ [⟨p.name, .null⟩])
      f.parameters
    properties := f.properties }

end Fillings

def cutOut (start stop : String) (columns : List ColumnLabel) :
    Option (List ColumnLabel × List ColumnLabel) :=
  match columns.findIdx? (·.label == start), columns.findIdx? (·.label == stop) with
  | some first, some last =>
    if first < last then
      some ((columns.take last).drop (first + 1), columns.take first ++ columns.drop (last + 1))
    else none
  | _, _ => none

def takeJoin (e : Entity) (into : IntoField) (columns : List ColumnLabel) :
    Naming (List ColumnLabel × List ColumnLabel) := do
  let start ← Naming.marker .start into
  let stop ← Naming.marker .stop into
  match cutOut start stop columns with
  | some cut => return cut
  | none => throw (.mapping e.simpleName (.joinColumnsNotFound start stop))

structure JoinPlan where
  field : String
  plan : Plan
  positions : List Nat

def joinTarget? (context : MappingContext) (e : Entity) (field : String) : Option FieldRef :=
  match e.parameters.find? fun p => context.accepts field p.name with
  | some p => some (.parameter p)
  | none =>
    (e.properties.find? fun p => p.mutable && context.accepts field p.name).map .property

def addJoin (context : MappingContext) (e : Entity) (f : Fillings) (j : JoinPlan) : Fillings :=
  match joinTarget? context e j.field with
  | some target => f.add target (.join j.plan j.positions)
  | none => f

def enterParameter (fields : List FieldRef) (p : Parameter) : List FieldRef :=
  match fields with
  | [] => [.parameter p]
  | f :: rest => if f.slotName = p.slotName then .parameter p :: rest else f :: enterParameter rest p

def Entity.columnFields (e : Entity) : List FieldRef :=
  e.columnParameters.foldl enterParameter (e.columnProperties.map .property)

def assemble (context : MappingContext) (e : Entity) (columns : List ColumnLabel) (joins : List JoinPlan) :
    Plan :=
  let routed := e.columnFields.foldl
    (fun f target =>
      match columns.find? fun c => context.accepts c.label target.slotName with
      | some c => f.addColumn context target c.position
      | none => f)
    {}
  (joins.foldl (addJoin context e) routed).toPlan e

mutual

def planQuery (context : MappingContext) (e : Entity) : Query → List ColumnLabel → Naming Plan
  | ⟨_, _, sources, _, _, _, _, _, _, _, _⟩, columns => do
    let (joins, rest) ← planSources context e sources columns
    return assemble context e rest joins

def planSources (context : MappingContext) (e : Entity) :
    List FromItem → List ColumnLabel → Naming (List JoinPlan × List ColumnLabel)
  | [], columns => return ([], columns)
  | item :: rest, columns => do
    let (first, columns) ← planSource context e item columns
    let (others, columns) ← planSources context e rest columns
    return (first ++ others, columns)

def planSource (context : MappingContext) (e : Entity) :
    FromItem → List ColumnLabel → Naming (List JoinPlan × List ColumnLabel)
  | .join ⟨query, _, some into, _, _, _⟩, columns => do
    let (inside, rest) ← takeJoin e into columns
    let plan ← planQuery context into.target query inside
    return ([⟨into.column.property, plan, inside.map (·.position)⟩], rest)
  | _, columns => return ([], columns)

end

def planRows (context : MappingContext) (e : Entity) (columns : List ColumnLabel) : Plan :=
  assemble context e columns []

def planReturned (context : MappingContext) (e : Entity) :
    List IntoField → List ColumnLabel → Naming (List JoinPlan × List ColumnLabel)
  | [], columns => return ([], columns)
  | into :: others, columns => do
    let (inside, rest) ← takeJoin e into columns
    let first : JoinPlan :=
      ⟨into.column.property, planRows context into.target inside, inside.map (·.position)⟩
    let (joins, rest) ← planReturned context e others rest
    return (first :: joins, rest)

def planUpdate (context : MappingContext) (e : Entity) (into : List IntoField)
    (columns : List ColumnLabel) : Naming Plan := do
  let (joins, rest) ← planReturned context e into columns
  return assemble context e rest joins

def route? (context : MappingContext) (e : Entity) (label : String) : Option FieldRef :=
  match e.columnParameters.find? fun p => context.accepts label p.slotName with
  | some p => some (.parameter p)
  | none => (e.columnProperties.find? fun p => context.accepts label p.slotName).map .property

def firstLabels (seen : List String) : List ColumnLabel → List ColumnLabel
  | [] => []
  | c :: rest =>
    let folded := Text.lowercase c.label
    if seen.contains folded then firstLabels seen rest else c :: firstLabels (folded :: seen) rest

def planRouted (context : MappingContext) (e : Entity) (routed : List (ColumnLabel × Option FieldRef)) :
    Plan :=
  (routed.foldl
    (fun f (c, target) => match target with
      | some target => f.addColumn context target c.position
      | none => f)
    ({} : Fillings)).toPlan e

end RelationalMapping
