import RelationalMapping.Value.Basic

namespace RelationalMapping

inductive ElementType where
  | bool
  | int16
  | int32
  | int64
  | float32
  | float64
  | text
  | uuid
  | timestamp
  deriving DecidableEq, Repr

structure Enumeration where
  name : String
  fullName : String
  variants : List String
  deriving DecidableEq, Repr

inductive BaseType where
  | element (t : ElementType)
  | bytes
  | json
  | jsonb
  | geometry
  | interval
  | any
  | enumeration (e : Enumeration)
  | list (t : ElementType)
  deriving DecidableEq, Repr

structure FieldType where
  base : BaseType
  optional : Bool
  deriving DecidableEq, Repr

namespace ElementType

def sqlName : ElementType → String
  | .bool => "bool"
  | .int16 => "int2"
  | .int32 => "int4"
  | .int64 => "int8"
  | .float32 => "float4"
  | .float64 => "float8"
  | .text => "text"
  | .uuid => "uuid"
  | .timestamp => "timestamptz"

def fullName : ElementType → String
  | .bool => "bool"
  | .int16 => "i16"
  | .int32 => "i32"
  | .int64 => "i64"
  | .float32 => "f32"
  | .float64 => "f64"
  | .text => "alloc::string::String"
  | .uuid => "uuid::Uuid"
  | .timestamp => "chrono::datetime::DateTime<chrono::offset::utc::Utc>"

def expectedName : ElementType → String
  | .float32 => ElementType.float64.fullName
  | t => t.fullName

abbrev Carrier : ElementType → Type
  | .bool => Bool
  | .int16 => Int16
  | .int32 => Int32
  | .int64 => Int64
  | .float32 => Binary32
  | .float64 => Binary64
  | .text => String
  | .uuid => Uuid
  | .timestamp => Timestamp

end ElementType

namespace BaseType

def fullName : BaseType → String
  | .element t => t.fullName
  | .bytes => "alloc::vec::Vec<u8>"
  | .json => "serde_json::value::Value"
  | .jsonb => "oxide_pgmap::value::Jsonb"
  | .geometry => "oxide_pgmap::value::Geometry"
  | .interval => "oxide_pgmap::value::Interval"
  | .any => "oxide_pgmap::value::SqlValue"
  | .enumeration e => e.fullName
  | .list t => "alloc::vec::Vec<" ++ t.fullName ++ ">"

def expectedName : BaseType → String
  | .element t => t.expectedName
  | .jsonb => BaseType.json.fullName
  | .geometry | .interval => ElementType.text.fullName
  | .enumeration e => e.name
  | t => t.fullName

abbrev Carrier : BaseType → Type
  | .element t => t.Carrier
  | .bytes => List UInt8
  | .json | .jsonb => Json
  | .geometry | .interval => String
  | .any => Value
  | .enumeration e => Fin e.variants.length
  | .list t => List t.Carrier

end BaseType

namespace FieldType

def required (base : BaseType) : FieldType := ⟨base, false⟩

def nullable (base : BaseType) : FieldType := ⟨base, true⟩

def fullName (t : FieldType) : String :=
  if t.optional then "core::option::Option<" ++ t.base.fullName ++ ">" else t.base.fullName

abbrev Carrier : FieldType → Type
  | ⟨base, false⟩ => base.Carrier
  | ⟨base, true⟩ => Option base.Carrier

end FieldType

end RelationalMapping
