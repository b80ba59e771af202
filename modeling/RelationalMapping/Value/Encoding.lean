import RelationalMapping.Error
import RelationalMapping.Json.Reader
import RelationalMapping.Value.FieldType

namespace RelationalMapping

def mismatch (expected : String) (v : Value) : Error := .mismatch expected (.kind v.kind)

def fitsWord (width : Nat) (n : Int) : Bool :=
  -(1 <<< (width - 1) : Nat) ≤ n && n < (1 <<< (width - 1) : Nat)

namespace ElementType

def encode : (t : ElementType) → t.Carrier → Value
  | .bool, b => .bool b
  | .int16, n => .int n.toInt64
  | .int32, n => .int n.toInt64
  | .int64, n => .int n
  | .float32, x => .float x.widen
  | .float64, x => .float x
  | .text, s => .text s
  | .uuid, u => .uuid u
  | .timestamp, t => .timestamp t

def decode? : (t : ElementType) → Value → Option t.Carrier
  | .bool, .bool b => some b
  | .int16, .int n => if fitsWord 16 n.toInt then some n.toInt16 else none
  | .int32, .int n => if fitsWord 32 n.toInt then some n.toInt32 else none
  | .int64, .int n => some n
  | .float32, .float x => some x.narrow
  | .float32, .int n => some (Binary64.ofInt n.toInt).narrow
  | .float64, .float x => some x
  | .float64, .int n => some (Binary64.ofInt n.toInt)
  | .text, .text s => some s
  | .uuid, .uuid u => some u
  | .uuid, .text s => Uuid.parse? s
  | .timestamp, .timestamp t => some t
  | .timestamp, .text s => Timestamp.parse? s
  | _, _ => none

def decode (t : ElementType) (v : Value) : Except Error t.Carrier :=
  match t.decode? v with
  | some x => .ok x
  | none => .error (mismatch t.expectedName v)

def initial : ElementType → Value
  | .bool => .bool false
  | .int16 | .int32 | .int64 => .int 0
  | .float32 | .float64 => .float .zero
  | .text => .text ""
  | .uuid => .uuid .nil
  | .timestamp => .timestamp .epoch

end ElementType

namespace Enumeration

def encode (e : Enumeration) (variant : Fin e.variants.length) : Value := .text e.variants[variant]

def find? (e : Enumeration) (name : String) : Option (Fin e.variants.length) :=
  e.variants.finIdxOf? name

def decode (e : Enumeration) : Value → Except Error (Fin e.variants.length)
  | .text name => match e.find? name with
    | some variant => .ok variant
    | none => .error (.mapping e.name (.unknownVariant name))
  | v => .error (mismatch e.name v)

end Enumeration

def decodeJson (expected : String) : Value → Except Error Json
  | .json doc => .ok doc
  | .text s => match Json.parse? s with
    | some doc => .ok doc
    | none => .error (mismatch expected (.text s))
  | v => .error (mismatch expected v)

def decodeText (expected : String) : Value → Except Error String
  | .text s => .ok s
  | v => .error (mismatch expected v)

namespace BaseType

def encode : (t : BaseType) → t.Carrier → Value
  | .element t, x => t.encode x
  | .bytes, raw => .blob raw
  | .json, doc => .json doc
  | .jsonb, doc => .json doc
  | .geometry, s => .text s
  | .interval, s => .text s
  | .any, v => v
  | .enumeration e, variant => e.encode variant
  | .list t, items => .array t.sqlName (items.map t.encode)

def decode : (t : BaseType) → Value → Except Error t.Carrier
  | .element t, v => t.decode v
  | .bytes, .blob raw => .ok raw
  | .bytes, v => .error (mismatch BaseType.bytes.expectedName v)
  | .json, v => decodeJson BaseType.json.expectedName v
  | .jsonb, v => decodeJson BaseType.jsonb.expectedName v
  | .geometry, v => decodeText BaseType.geometry.expectedName v
  | .interval, v => decodeText BaseType.interval.expectedName v
  | .any, v => .ok v
  | .enumeration e, v => e.decode v
  | .list t, .array _ items => items.mapM t.decode
  | .list t, v => .error (mismatch (BaseType.list t).expectedName v)

def initial : BaseType → Value
  | .element t => t.initial
  | .bytes => .blob []
  | .json | .jsonb => .json .null
  | .geometry | .interval => .text ""
  | .any => .null
  | .enumeration e => .text (e.variants.headD "")
  | .list t => .array t.sqlName []

end BaseType

namespace FieldType

def encode : (t : FieldType) → t.Carrier → Value
  | ⟨base, false⟩, x => base.encode x
  | ⟨_, true⟩, none => .null
  | ⟨base, true⟩, some x => base.encode x

def decode : (t : FieldType) → Value → Except Error t.Carrier
  | ⟨base, false⟩, v => base.decode v
  | ⟨_, true⟩, .null => .ok none
  | ⟨base, true⟩, v => (base.decode v).map some

def hold (t : FieldType) (v : Value) : Except Error Value := (t.decode v).map t.encode

def initial (t : FieldType) : Value := if t.optional then .null else t.base.initial

end FieldType

end RelationalMapping
