import RelationalMapping.Entity.Basic
import RelationalMapping.Json.Access
import RelationalMapping.Value.Label

namespace RelationalMapping

structure TypeNames where
  enumerations : List Enumeration
  instanceType : String → String

def TypeNames.held? (names : TypeNames) (label : String) (transient : Bool) : Option HeldType :=
  match transient, typeArgument? "Option" label with
  | true, some target => some (.joined (names.instanceType target))
  | _, _ => (FieldType.ofLabel? names.enumerations label).map .column

def Parameter.ofDocument? (names : TypeNames) (doc : Json) : Option Parameter := do
  let label ← (doc.get "type").string?
  let transient := (doc.get "transient").isTrue
  some { name := ← (doc.get "name").string?, column := ← (doc.get "column").optionalString?
         nullable := (doc.get "nullable").isTrue, optional := (doc.get "optional").isTrue
         transient, label, holds := ← names.held? label transient }

def Property.ofDocument? (names : TypeNames) (doc : Json) : Option Property := do
  let label ← (doc.get "type").string?
  let transient := (doc.get "transient").isTrue
  some { name := ← (doc.get "name").string?, column := ← (doc.get "column").optionalString?
         mutable := (doc.get "mutable").isTrue, transient, label
         holds := ← names.held? label transient }

def Entity.ofDocument? (names : TypeNames) (doc : Json) : Option Entity := do
  let name ← (doc.get "name").string?
  some { instanceType := names.instanceType name
         simpleName := (← (doc.get "simple_name").optionalString?).getD name, shape := .record
         parameters := ← (← (doc.get "parameters").items?).mapM (Parameter.ofDocument? names)
         properties := ← (← (doc.get "properties").items?).mapM (Property.ofDocument? names)
         typeName := (← (doc.get "type_name").optionalString?).getD (names.instanceType name)
         tableName := ← (doc.get "table_name").optionalString? }

def Parameter.document (e : Entity) (p : Parameter) : Json :=
  .ofEntries [("name", .string p.name), ("column", .ofOption p.column), ("nullable", .bool p.nullable),
    ("optional", .bool p.optional), ("transient", .bool p.transient), ("type", .string p.label),
    ("slot", .string p.slotName), ("found", .bool (e.parameter? p.name == some p))]

def Property.document (e : Entity) (p : Property) : Json :=
  .ofEntries [("name", .string p.name), ("column", .ofOption p.column), ("mutable", .bool p.mutable),
    ("transient", .bool p.transient), ("type", .string p.label), ("slot", .string p.slotName),
    ("found", .bool (e.property? p.name == some p))]

def Shape.name : Shape → String
  | .record => "Record"
  | .enumeration _ => "Enumeration"

def Entity.document (e : Entity) : Json :=
  .ofEntries [("simple_name", .string e.simpleName), ("table_name", .ofOption e.tableName),
    ("shape", .string e.shape.name), ("parameters", .array (e.parameters.map (Parameter.document e))),
    ("properties", .array (e.properties.map (Property.document e))),
    ("transient_names", .array (e.transientNames.map .string))]

end RelationalMapping
