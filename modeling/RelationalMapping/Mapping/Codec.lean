import RelationalMapping.Value.Encoding

namespace RelationalMapping

structure Codec where
  decode : Option Value → Except Error Value
  encode : Value → Value

namespace Codec

def presentCell : Option Value → Except Error Value
  | some v => .ok v
  | none => .error (.mismatch "column" .missingColumn)

def passThrough : Codec where
  decode := presentCell
  encode v := v

def jsonOfText : Value → Except Error Value
  | .text s => match Json.parse? s with
    | some doc => .ok (.json doc)
    | none => .error (.mismatch "json" (.kind (Value.text s).kind))
  | v => .ok v

def json : Codec where
  decode cell := presentCell cell >>= jsonOfText
  encode v := match jsonOfText v with
    | .ok doc => doc
    | .error _ => v

end Codec

structure Codecs where
  entries : List (String × Codec)

namespace Codecs

def standard : Codecs :=
  ⟨["Jsonb", "Option<Jsonb>", "serde_json::Value", "Option<serde_json::Value>"].map (·, .json)⟩

def register (codecs : Codecs) (label : String) (codec : Codec) : Codecs :=
  ⟨(label, codec) :: codecs.entries⟩

def forLabel (codecs : Codecs) (label : String) : Codec :=
  (codecs.entries.lookup label).getD .passThrough

end Codecs

end RelationalMapping
