import RelationalMapping.Json.Basic
import RelationalMapping.Number.Decimal
import RelationalMapping.Text.Hex

namespace RelationalMapping.Json

def escapeChar (c : Char) : List Char :=
  if c = '"' then ['\\', '"']
  else if c = '\\' then ['\\', '\\']
  else if c = '\n' then ['\\', 'n']
  else if c = '\r' then ['\\', 'r']
  else if c = '\t' then ['\\', 't']
  else if c.toNat = 8 then ['\\', 'b']
  else if c.toNat = 12 then ['\\', 'f']
  else if c.toNat < 0x20 then '\\' :: 'u' :: Text.hexDigits 4 c.toNat
  else [c]

def quoteString (s : String) : String :=
  "\"" ++ String.ofList (s.toList.flatMap escapeChar) ++ "\""

def decimalText (d : Decimal) : String :=
  if d.leading < -5 || 16 ≤ d.leading then d.scientific
  else if d.exponent < 0 then d.positional
  else d.positional ++ ".0"

def floatText (x : Binary64) : String :=
  match x.read with
  | .finite negative mantissa exponent =>
    let body := if mantissa = 0 then "0.0" else decimalText (Binary64.shortest .even mantissa exponent)
    if negative then "-" ++ body else body
  | _ => "null"

mutual

def render : Json → String
  | .null => "null"
  | .bool b => if b then "true" else "false"
  | .integer n => toString n
  | .float x => floatText x
  | .string s => quoteString s
  | .array items => "[" ++ renderItems items ++ "]"
  | .object entries => '{'.toString ++ renderEntries entries ++ '}'.toString

def renderItems : List Json → String
  | [] => ""
  | item :: rest => item.render ++ (if rest.isEmpty then "" else "," ++ renderItems rest)

def renderEntries : List (String × Json) → String
  | [] => ""
  | (key, value) :: rest =>
    quoteString key ++ ":" ++ value.render ++ (if rest.isEmpty then "" else "," ++ renderEntries rest)

end

end RelationalMapping.Json
