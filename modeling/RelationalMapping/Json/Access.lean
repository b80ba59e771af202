import RelationalMapping.Json.Basic

namespace RelationalMapping.Json

def member? (doc : Json) (key : String) : Option Json :=
  match doc with
  | .object entries => entries.lookup key
  | _ => none

def get (doc : Json) (key : String) : Json := (doc.member? key).getD .null

def given? (doc : Json) (key : String) : Option Json :=
  match doc.get key with
  | .null => none
  | entry => some entry

def isTrue : Json → Bool
  | .bool b => b
  | _ => false

def string? : Json → Option String
  | .string s => some s
  | _ => none

def optionalString? : Json → Option (Option String)
  | .null => some none
  | doc => doc.string?.map some

def items? : Json → Option (List Json)
  | .array items => some items
  | .null => some []
  | _ => none

def ofOption : Option String → Json
  | some s => .string s
  | none => .null

end RelationalMapping.Json
