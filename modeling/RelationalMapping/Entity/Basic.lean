import RelationalMapping.Value.FieldType

namespace RelationalMapping

inductive HeldType where
  | column (t : FieldType)
  | joined (target : String)
  deriving DecidableEq, Repr

namespace HeldType

def fullName : HeldType → String
  | .column t => t.fullName
  | .joined target => "core::option::Option<" ++ target ++ ">"

def isOptional : HeldType → Bool
  | .column t => t.optional
  | .joined _ => true

end HeldType

structure Parameter where
  name : String
  column : Option String
  nullable : Bool
  optional : Bool
  transient : Bool
  label : String
  holds : HeldType
  deriving DecidableEq, Repr

structure Property where
  name : String
  column : Option String
  mutable : Bool
  transient : Bool
  label : String
  holds : HeldType
  deriving DecidableEq, Repr

def Parameter.slotName (p : Parameter) : String := p.column.getD p.name

def Property.slotName (p : Property) : String := p.column.getD p.name

inductive Shape where
  | record
  | enumeration (variants : List String)
  deriving DecidableEq, Repr

structure Blueprint where
  instanceType : String
  simpleName : String
  shape : Shape
  parameters : List Parameter
  properties : List Property
  deriving DecidableEq, Repr

/-- A mapped type. Names are memoized under its type name, which another entity may share. -/
structure Entity extends Blueprint where
  typeName : String
  tableName : Option String
  builder : Option Blueprint := none
  deriving DecidableEq, Repr

namespace Blueprint

def parameter? (b : Blueprint) (name : String) : Option Parameter :=
  b.parameters.find? (·.name == name)

def property? (b : Blueprint) (name : String) : Option Property :=
  b.properties.find? (·.name == name)

def transientNames (b : Blueprint) : List String :=
  (b.parameters.filter (·.transient)).map (·.name) ++ (b.properties.filter (·.transient)).map (·.name)

end Blueprint

structure Field where
  name : String
  label : String
  holds : HeldType
  column : Option String := none
  mutable : Bool := false
  transient : Bool := false
  optional : Bool := false
  deriving DecidableEq, Repr

def Field.parameter (f : Field) : Parameter :=
  { name := f.name, column := f.column, nullable := f.holds.isOptional, optional := f.optional
    transient := f.transient, label := f.label, holds := f.holds }

def Field.property (f : Field) : Property :=
  { name := f.name, column := f.column, mutable := f.mutable, transient := f.transient
    label := f.label, holds := f.holds }

namespace Entity

def ofFields (typeName simpleName : String) (tableName : Option String) (fields : List Field) : Entity :=
  { instanceType := typeName, simpleName, shape := .record
    parameters := (fields.filter (!·.mutable)).map (·.parameter)
    properties := fields.map (·.property)
    typeName, tableName }

def ofVariants (typeName simpleName : String) (tableName : Option String) (variants : List String) :
    Entity :=
  { instanceType := typeName, simpleName, shape := .enumeration variants, parameters := [], properties := []
    typeName, tableName }

end Entity

end RelationalMapping
