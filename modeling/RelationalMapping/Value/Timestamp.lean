namespace RelationalMapping

structure Timestamp where
  seconds : Int
  nanos : Nat
  deriving DecidableEq, Repr, Inhabited

namespace Timestamp

def epoch : Timestamp := ⟨0, 0⟩

def isLeapYear (year : Nat) : Bool :=
  year % 4 = 0 && (year % 100 != 0 || year % 400 = 0)

def daysInMonth (year month : Nat) : Nat :=
  if month = 2 then (if isLeapYear year then 29 else 28)
  else if month = 4 || month = 6 || month = 9 || month = 11 then 30
  else 31

def daysBeforeYear (year : Nat) : Nat :=
  365 * year + (year + 3) / 4 - (year + 99) / 100 + (year + 399) / 400

def daysBeforeMonth (year month : Nat) : Nat :=
  (List.range (month - 1)).foldl (fun n m => n + daysInMonth year (m + 1)) 0

def dayNumber (year month day : Nat) : Int :=
  (daysBeforeYear year + daysBeforeMonth year month + (day - 1) : Nat) - (daysBeforeYear 1970 : Nat)

abbrev Scan (α : Type) := List Char → Option (α × List Char)

def digitsValue (cs : List Char) : Nat := cs.foldl (fun n c => n * 10 + (c.toNat - '0'.toNat)) 0

def scanNumber (count : Nat) : Scan Nat := fun cs =>
  let digits := cs.take count
  if digits.length = count && digits.all Char.isDigit then some (digitsValue digits, cs.drop count)
  else none

def scanOneOf (allowed : List Char) : Scan Char
  | c :: rest => if allowed.contains c then some (c, rest) else none
  | [] => none

def fractionPlaces : Nat := 9

def nanosPerSecond : Nat := Nat.pow 10 fractionPlaces

def scanFraction : Scan Nat
  | '.' :: rest =>
    let digits := rest.takeWhile Char.isDigit
    if digits.isEmpty then none
    else
      let kept := digits.take fractionPlaces
      some (digitsValue kept * Nat.pow 10 (fractionPlaces - kept.length), rest.dropWhile Char.isDigit)
  | cs => some (0, cs)

def minusSign : Char := Char.ofNat 0x2212

def scanOffset : Scan Int
  | [] => none
  | c :: rest =>
    if c = 'Z' || c = 'z' then some (0, rest)
    else if c = '+' || c = '-' || c = minusSign then do
      let (hours, rest) ← scanNumber 2 rest
      let (_, rest) ← scanOneOf [':'] rest
      let (minutes, rest) ← scanNumber 2 rest
      guard (hours < 24 && minutes < 60)
      let offset : Int := (hours * 60 + minutes) * 60
      some (if c = '+' then offset else -offset, rest)
    else none

def parse? (text : String) : Option Timestamp := do
  let (year, rest) ← scanNumber 4 text.toList
  let (_, rest) ← scanOneOf ['-'] rest
  let (month, rest) ← scanNumber 2 rest
  let (_, rest) ← scanOneOf ['-'] rest
  let (day, rest) ← scanNumber 2 rest
  let (_, rest) ← scanOneOf ['T', 't', ' '] rest
  let (hour, rest) ← scanNumber 2 rest
  let (_, rest) ← scanOneOf [':'] rest
  let (minute, rest) ← scanNumber 2 rest
  let (_, rest) ← scanOneOf [':'] rest
  let (second, rest) ← scanNumber 2 rest
  let (fraction, rest) ← scanFraction rest
  let (offset, rest) ← scanOffset rest
  guard rest.isEmpty
  guard (1 ≤ month && month ≤ 12 && 1 ≤ day && day ≤ daysInMonth year month)
  guard (hour < 24 && minute < 60 && second ≤ 60)
  let leap := second = 60
  let counted : Int := (hour * 60 + minute) * 60 + (if leap then 59 else second)
  some {
    seconds := dayNumber year month day * 86400 + counted - offset
    nanos := fraction + if leap then nanosPerSecond else 0 }

end Timestamp

end RelationalMapping
