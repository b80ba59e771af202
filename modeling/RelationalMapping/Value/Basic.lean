import RelationalMapping.Json.Basic
import RelationalMapping.Value.Timestamp
import RelationalMapping.Value.Uuid

namespace RelationalMapping

inductive Value where
  | null
  | bool (b : Bool)
  | int (n : Int64)
  | float (x : Binary64)
  | text (s : String)
  | blob (bytes : List UInt8)
  | uuid (u : Uuid)
  | timestamp (t : Timestamp)
  | json (doc : Json)
  | array (elementType : String) (items : List Value)
  deriving Repr, Inhabited

namespace Value

def kind : Value → String
  | .null => "null"
  | .bool _ => "bool"
  | .int _ => "int"
  | .float _ => "float"
  | .text _ => "text"
  | .blob _ => "blob"
  | .uuid _ => "uuid"
  | .timestamp _ => "timestamp"
  | .json _ => "json"
  | .array .. => "array"

def isNull : Value → Bool
  | .null => true
  | _ => false

mutual

def same : Value → Value → Bool
  | .null, .null => true
  | .bool a, .bool b => a == b
  | .int a, .int b => a == b
  | .float a, .float b => a.equal b
  | .text a, .text b => a == b
  | .blob a, .blob b => a == b
  | .uuid a, .uuid b => a == b
  | .timestamp a, .timestamp b => a == b
  | .json a, .json b => a.same b
  | .array s a, .array t b => s == t && sameItems a b
  | _, _ => false

def sameItems : List Value → List Value → Bool
  | [], [] => true
  | a :: as, b :: bs => a.same b && sameItems as bs
  | _, _ => false

end

end Value

end RelationalMapping
