import RelationalMapping.Json.Printer
import RelationalMapping.Json.Reader
import RelationalMapping.Text.Hex
import RelationalMapping.Value.Basic

namespace RelationalMapping

namespace Binary64

def digits (x : Binary64) : String :=
  if x.isNaN then "nan" else String.ofList (Text.hexDigits 16 x.bits.toNat)

def ofDigits? (text : String) : Option Binary64 :=
  if text = "nan" then some ⟨0x7ff8000000000000⟩
  else (Text.hexNumber? text.toList).map fun n => ⟨UInt64.ofNat n⟩

end Binary64

def bytesOfDigits? : List Char → Option (List UInt8)
  | [] => some []
  | [_] => none
  | a :: b :: rest => do
    let byte ← Text.hexNumber? [a, b]
    some (UInt8.ofNat byte :: (← bytesOfDigits? rest))

def digitsOfBytes (bytes : List UInt8) : List Char := bytes.flatMap fun b => Text.hexDigits 2 b.toNat

namespace Value

mutual

def document : Value → Json
  | .null => .null
  | .bool b => .object [("bool", .bool b)]
  | .int n => .object [("int", .integer n.toInt)]
  | .float x => .object [("float", .string x.digits)]
  | .text s => .object [("text", .string s)]
  | .blob bytes => .object [("blob", .string (String.ofList (digitsOfBytes bytes)))]
  | .uuid u => .object [("uuid", .string u.text)]
  | .timestamp t => .object [("timestamp", .array [.integer t.seconds, .integer t.nanos])]
  | .json doc => .object [("json", .string doc.render)]
  | .array elementType items =>
    .object [("array", .object [("items", .array (documents items)), ("type", .string elementType)])]

def documents : List Value → List Json
  | [] => []
  | v :: rest => v.document :: documents rest

end

mutual

def ofDocument? : Json → Option Value
  | .null => some .null
  | .object [("bool", .bool b)] => some (.bool b)
  | .object [("int", .integer n)] => some (.int (Int64.ofInt n))
  | .object [("float", .string s)] => (Binary64.ofDigits? s).map .float
  | .object [("text", .string s)] => some (.text s)
  | .object [("blob", .string s)] => (bytesOfDigits? s.toList).map .blob
  | .object [("uuid", .string s)] => (Uuid.parse? s).map .uuid
  | .object [("timestamp", .array [.integer seconds, .integer nanos])] =>
    some (.timestamp ⟨seconds, nanos.toNat⟩)
  | .object [("json", .string s)] => (Json.parse? s).map .json
  | .object [("array", .object [("items", .array items), ("type", .string elementType)])] =>
    (ofDocuments? items).map (.array elementType)
  | .object [("array", .object [("type", .string elementType)])] => some (.array elementType [])
  | _ => none

def ofDocuments? : List Json → Option (List Value)
  | [] => some []
  | doc :: rest => do
    let v ← ofDocument? doc
    some (v :: (← ofDocuments? rest))

end

end Value

end RelationalMapping
