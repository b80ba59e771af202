import RelationalMapping.Text.Start
import RelationalMapping.Value.FieldType

namespace RelationalMapping

def typeArgument? (name label : String) : Option String :=
  match (Text.afterStart? (name.toList ++ ['<']) label.toList).map List.reverse with
  | some ('>' :: inner) => some (String.ofList inner.reverse)
  | _ => none

def ElementType.ofLabel? : String → Option ElementType
  | "bool" => some .bool
  | "i16" => some .int16
  | "i32" => some .int32
  | "i64" => some .int64
  | "f32" => some .float32
  | "f64" => some .float64
  | "String" => some .text
  | "Uuid" => some .uuid
  | "DateTime<Utc>" => some .timestamp
  | _ => none

def BaseType.ofLabel? (enumerations : List Enumeration) : String → Option BaseType
  | "Vec<u8>" => some .bytes
  | "serde_json::Value" => some .json
  | "Jsonb" => some .jsonb
  | "Geometry" => some .geometry
  | "Interval" => some .interval
  | "SqlValue" => some .any
  | label => match ElementType.ofLabel? label with
    | some t => some (.element t)
    | none => match typeArgument? "Vec" label with
      | some item => (ElementType.ofLabel? item).map .list
      | none => (enumerations.find? (·.name == label)).map .enumeration

def optionArgument? (label : String) : Option String :=
  match typeArgument? "Option" label with
  | some inner => some inner
  | none => typeArgument? "std::option::Option" label

def FieldType.ofLabel? (enumerations : List Enumeration) (label : String) : Option FieldType :=
  match optionArgument? label with
  | some inner => (BaseType.ofLabel? enumerations inner).map .nullable
  | none => (BaseType.ofLabel? enumerations label).map .required

end RelationalMapping
