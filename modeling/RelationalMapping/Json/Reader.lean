import RelationalMapping.Json.Basic
import RelationalMapping.Json.Source

namespace RelationalMapping.Json

def significandLimit : Nat := 1 <<< 64

def gather (significand : Nat) : List Char → Nat × List Char
  | [] => (significand, [])
  | c :: rest =>
    let next := significand * 10 + (c.toNat - '0'.toNat)
    if next < significandLimit then gather next rest else (significand, c :: rest)

def greatestPower : Nat := 308

def divideByPower (x : Binary64) (power : Nat) : Binary64 :=
  if power ≤ greatestPower then x.div (Binary64.ofNat (Nat.pow 10 power))
  else if x.isZero then x
  else divideByPower (x.div (Binary64.ofNat (Nat.pow 10 greatestPower))) (power - greatestPower)
termination_by power
decreasing_by simp only [greatestPower] at *; omega

def scale? (significand : Nat) (exponent : Int) : Option Binary64 :=
  let x := Binary64.ofNat significand
  if exponent < 0 then some (divideByPower x exponent.natAbs)
  else if exponent ≤ greatestPower then
    let product := x.mul (Binary64.ofNat (Nat.pow 10 exponent.toNat))
    if product.isInfinite then none else some product
  else if x.isZero then some x
  else none

def signed (negative : Bool) (x : Binary64) : Binary64 := if negative then x.neg else x

def digitsValue (digits : List Char) : Nat :=
  digits.foldl (fun n c => n * 10 + (c.toNat - '0'.toNat)) 0

namespace Numeral

def whole? (n : Numeral) (significand : Nat) : Json :=
  if !n.negative then .integer significand
  else if significand = 0 || 1 <<< 63 < significand then .float (Binary64.ofNat significand).neg
  else .integer (-significand)

def toJson? (n : Numeral) : Option Json :=
  let (significand, dropped) := gather 0 n.whole
  if n.plain && dropped.isEmpty then some (n.whole? significand)
  else
    let (significand, unread) := gather significand n.fraction
    let point : Int := dropped.length - (n.fraction.length - unread.length : Nat)
    let power : Int := digitsValue n.exponent
    let exponent := if n.exponentNegative then point - power else point + power
    (scale? significand exponent).map fun x => .float (signed n.negative x)

end Numeral

def unitsChars? : List StringUnit → Option (List Char)
  | [] => some []
  | .char c :: rest => (unitsChars? rest).map (c :: ·)
  | .code high :: .code low :: rest =>
    if 0xD800 ≤ high && high < 0xDC00 then
      if 0xDC00 ≤ low && low < 0xE000 then
        (unitsChars? rest).map
          (Char.ofNat (0x10000 + (high - 0xD800) * 0x400 + (low - 0xDC00)) :: ·)
      else none
    else if 0xDC00 ≤ high && high < 0xE000 then none
    else (unitsChars? (.code low :: rest)).map (Char.ofNat high :: ·)
  | .code n :: rest =>
    if 0xD800 ≤ n && n < 0xE000 then none else (unitsChars? rest).map (Char.ofNat n :: ·)

def unitsString? (units : List StringUnit) : Option String := (unitsChars? units).map String.ofList

def nestingLimit : Nat := 127

mutual

def Source.toJson? (levels : Nat) : Source → Option Json
  | .null => some .null
  | .bool b => some (.bool b)
  | .number n => n.toJson?
  | .string units => (unitsString? units).map .string
  | .array items => match levels with
    | 0 => none
    | levels + 1 => (Source.itemsToJson? levels items).map .array
  | .object entries => match levels with
    | 0 => none
    | levels + 1 => (Source.entriesToJson? levels entries).map Json.ofEntries

def Source.itemsToJson? (levels : Nat) : List Source → Option (List Json)
  | [] => some []
  | item :: rest => do
    let head ← item.toJson? levels
    let tail ← Source.itemsToJson? levels rest
    some (head :: tail)

def Source.entriesToJson? (levels : Nat) :
    List (List StringUnit × Source) → Option (List (String × Json))
  | [] => some []
  | (key, value) :: rest => do
    let name ← unitsString? key
    let head ← value.toJson? levels
    let tail ← Source.entriesToJson? levels rest
    some ((name, head) :: tail)

end

def parse? (text : String) : Option Json := do (← Source.parse? text).toJson? nestingLimit

end RelationalMapping.Json
