import RelationalMapping.Entity.Construction
import RelationalMapping.Mapping.Context
import RelationalMapping.Mapping.ResultTable

namespace RelationalMapping

mutual

inductive Provider where
  | null
  | column (position : Nat) (codec : Codec)
  | join (plan : Plan) (positions : List Nat)

structure Filling where
  field : String
  provider : Provider

structure Plan where
  entity : Entity
  parameters : List Filling
  properties : List Filling

end

def Row.isVacant (row : Row) (positions : List Nat) : Bool :=
  positions.all fun position => ((row.cell? position).getD .null).isNull

mutual

def Provider.provide (row : Row) : Provider → Except Error Argument
  | .null => .ok (.value .null)
  | .column position codec => (codec.decode (row.cell? position)).map .value
  | .join plan positions =>
    if row.isVacant positions then .ok plan.entity.absent
    else plan.run row >>= plan.entity.wrap

def provideAll (row : Row) (entity : String) : List Filling → Arguments → Except Error Arguments
  | [], args => .ok args
  | ⟨field, provider⟩ :: rest, args => do
    let a ← (provider.provide row).mapError (.within entity)
    provideAll row entity rest (args.insert field a)

def assignAll (row : Row) (entity : Entity) : List Filling → Instance → Except Error Instance
  | [], i => .ok i
  | ⟨field, provider⟩ :: rest, i => do
    let a ← (provider.provide row).mapError (.within entity.simpleName)
    let i ← (entity.assign i field a).mapError (.within entity.simpleName)
    assignAll row entity rest i

def Plan.run (row : Row) : Plan → Except Error Instance
  | ⟨entity, parameters, properties⟩ => do
    let args ← provideAll row entity.simpleName parameters (.empty entity.simpleName)
    let (i, _) ← (entity.instantiate args).mapError (.within entity.simpleName)
    assignAll row entity properties i

end

end RelationalMapping
