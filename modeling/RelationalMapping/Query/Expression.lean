import RelationalMapping.Json.Printer
import RelationalMapping.Query.Basic
import RelationalMapping.Value.Encoding

namespace RelationalMapping

namespace Table

def column (t : Table) (property : String) : Column := ⟨t, property⟩

def rowToJson (t : Table) : Expr :=
  .call "row_to_json" [match t.alias? with
    | some name => .aliasName name
    | none => .tableName t]

end Table

namespace Entity

def table (e : Entity) : Table := { entity := e }

def aliased (e : Entity) (name : String) : Table := { entity := e, alias? := some name }

def autoAliased (e : Entity) : Table := e.aliased ("autogenerated_alias_" ++ e.simpleName)

end Entity

namespace Expr

def ofValue : Value → Expr
  | .array elementType items => .array elementType items
  | v => .value v

def nullable (e : Expr) : Expr := .adapted .nullable e

def notNull (e : Expr) : Expr := .adapted .notNull e

def arithmetic (op : ArithmeticOp) (left right : Expr) : Expr := .binary (.arithmetic op) left right

def compare (op : ComparisonOp) (left right : Expr) : Expr := .binary (.comparison op) left right

def compareArrays (op : ArrayOp) (left right : Expr) : Expr := .binary (.array op) left right

def matching (op : PatternOp) (e pattern : Expr) : Expr := .binary (.pattern op false) e pattern

def notMatching (op : PatternOp) (e pattern : Expr) : Expr := .binary (.pattern op true) e pattern

def plusInterval (time interval : Expr) : Expr := .binary (.date .plusInterval) time interval

def minusInterval (time interval : Expr) : Expr := .binary (.date .minusInterval) time interval

def scale (interval factor : Expr) : Expr := .binary .scaleInterval interval factor

def and (left right : Expr) : Expr := .connective .and [left, right]

def or (left right : Expr) : Expr := .connective .or [left, right]

def allOf (conditions : List (Option Expr)) : Expr := .connective .and (conditions.filterMap id)

def anyOf (conditions : List (Option Expr)) : Expr := .connective .or (conditions.filterMap id)

def castInt (e : Expr) : Expr := .cast e "INT"

def lower (e : Expr) : Expr := .call "lower" [e]

def upper (e : Expr) : Expr := .call "upper" [e]

def charLength (e : Expr) : Expr := .call "char_length" [e]

def asText (e : Expr) : Expr := .call "text" [e]

def now : Expr := .call "now" []

def dateTrunc (time : Expr) (precision : String) : Expr :=
  .call "date_trunc" [.value (.text precision), time]

def dateTruncTo (time interval : Expr) : Expr := .call "date_trunc" [interval, time]

def interval (text : String) : Expr := .typedLiteral "interval" text

def coalesce (args : List Expr) : Expr := .call "coalesce" args

def least (args : List Expr) : Expr := .call "least" args

def greatest (args : List Expr) : Expr := .call "greatest" args

def distance (e other : Expr) : Expr := .call "st_distance" [e, other]

def withinDistance (e other distance : Expr) : Expr := .call "st_dwithin" [e, other, distance]

def within (e other : Expr) : Expr := .call "st_within" [e, other]

def overlapsGeometry (e other : Expr) : Expr := .call "st_overlaps" [e, other]

def intersects (e other : Expr) : Expr := .call "st_intersects" [e, other]

def containsGeometry (e other : Expr) : Expr := .call "st_contains" [e, other]

def buffer (e radius : Expr) : Expr := .call "st_buffer" [e, radius]

def area (e : Expr) : Expr := .call "st_area" [e]

def asGeoJson (e : Expr) : Expr := .call "ST_AsGeoJson" [e]

def jsonGet (e : Expr) (key : Value) : Expr := .binary (.json .get) e (.value key)

def jsonGetText (e : Expr) (key : Value) : Expr := .binary (.json .getAsText) e (.value key)

def concat (left right : Expr) : Expr := .binary .concatJson left right

def asJsonb (e : Expr) : Expr := .cast e "jsonb"

end Expr

def jsonElementType : List Json → String
  | [] | .string _ :: _ => "text"
  | .integer _ :: _ | .float _ :: _ => "float8"
  | _ => "jsonb"

def jsonItem (elementType : String) (item : Json) : Value :=
  if elementType = "text" then
    match item with
    | .string s => .text s
    | other => .text other.render
  else if elementType = "float8" then
    match item.number? with
    | some x => .float x
    | none => .null
  else .json item

def Json.operand : Json → Expr
  | .null => .value .null
  | .bool b => .value (.bool b)
  | .integer n =>
    .value (if fitsWord 64 n then .int (Int64.ofInt n) else .float (Binary64.ofInt n))
  | .float x => .value (.float x)
  | .string s => .value (.text s)
  | .array items => .array (jsonElementType items) (items.map (jsonItem (jsonElementType items)))
  | .object entries => .value (.json (.object entries))

def Expr.concatEntries (e : Expr) (entries : List (String × Json)) : Expr :=
  e.concat (.jsonObject (entries.map fun (key, doc) => ⟨key, doc.operand⟩))

def FieldType.operand (t : FieldType) (wantsNullable : Bool) (x : t.Carrier) : Expr :=
  match t.base, wantsNullable with
  | .list _, true => (Expr.ofValue (t.encode x)).nullable
  | _, _ => Expr.ofValue (t.encode x)

end RelationalMapping
