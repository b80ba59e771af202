import RelationalMapping.Number.Binary

namespace RelationalMapping

structure Decimal where
  digits : Nat
  exponent : Int
  deriving DecidableEq, Repr

inductive Tie where
  | even
  | up
  deriving DecidableEq, Repr

namespace Decimal

/-- Quarter units of `2 ^ exponent` on the decimal grid `10 ^ place`: a number of `q` such quarters is
`q * unit` grid steps over `step`. -/
structure Grid where
  unit : Nat
  step : Nat

def grid (exponent place : Int) : Grid :=
  { unit := Nat.pow 10 (-place).toNat <<< (exponent - 2).toNat
    step := Nat.pow 10 place.toNat <<< (2 - exponent).toNat }

structure Interval where
  low : Nat
  high : Nat
  closed : Bool

def interval (f : BinaryFormat) (mantissa : Nat) (exponent : Int) : Interval :=
  let narrowBelow := mantissa = 1 <<< f.mantissaBits && f.leastExponent < exponent
  { low := if narrowBelow then 4 * mantissa - 1 else 4 * mantissa - 2
    high := 4 * mantissa + 2
    closed := mantissa % 2 = 0 }

def Interval.holds (i : Interval) (g : Grid) (candidate : Nat) : Bool :=
  let scaled := candidate * g.step
  if i.closed then i.low * g.unit ≤ scaled && scaled ≤ i.high * g.unit
  else i.low * g.unit < scaled && scaled < i.high * g.unit

def onGrid (tie : Tie) (i : Interval) (g : Grid) (mantissa : Nat) : Option Nat :=
  let exact := 4 * mantissa * g.unit
  let below := exact / g.step
  let rest := 2 * (exact % g.step)
  match i.holds g below && below != 0, i.holds g (below + 1) with
  | true, false => some below
  | false, true => some (below + 1)
  | false, false => none
  | true, true =>
    if rest < g.step then some below
    else if g.step < rest then some (below + 1)
    else match tie with
      | .even => some (below + below % 2)
      | .up => some (below + 1)

def firstGrid (tie : Tie) (i : Interval) (mantissa : Nat) (exponent : Int) : Nat → Int → Decimal
  | 0, place => ⟨4 * mantissa * (grid exponent place).unit / (grid exponent place).step, place⟩
  | n + 1, place =>
    match onGrid tie i (grid exponent place) mantissa with
    | some digits => ⟨digits, place⟩
    | none => firstGrid tie i mantissa exponent n (place - 1)

def shortest (f : BinaryFormat) (tie : Tie) (mantissa : Nat) (exponent : Int) : Decimal :=
  let magnitude := (mantissa.log2 : Int) + exponent + 1
  firstGrid tie (interval f mantissa exponent) mantissa exponent 24 (magnitude * 30103 / 100000 + 2)

def leading (d : Decimal) : Int := d.exponent + (Nat.toDigits 10 d.digits).length - 1

def positional (d : Decimal) : String :=
  let digits := Nat.toDigits 10 d.digits
  if 0 ≤ d.exponent then String.ofList (digits ++ List.replicate d.exponent.toNat '0')
  else
    let places := (-d.exponent).toNat
    let padded := List.replicate (places + 1 - digits.length) '0' ++ digits
    let whole := padded.length - places
    String.ofList (padded.take whole ++ '.' :: padded.drop whole)

def scientific (d : Decimal) : String :=
  let digits := Nat.toDigits 10 d.digits
  let mantissa := match digits with
    | [] => []
    | [only] => [only]
    | first :: rest => first :: '.' :: rest
  let sign := if d.leading < 0 then "-" else "+"
  String.ofList mantissa ++ "e" ++ sign ++ toString d.leading.natAbs

end Decimal

namespace Binary64

def shortest (tie : Tie) (mantissa : Nat) (exponent : Int) : Decimal :=
  Decimal.shortest .double tie mantissa exponent

def plain (x : Binary64) : String :=
  match x.read with
  | .nan => "NaN"
  | .infinite negative => if negative then "-inf" else "inf"
  | .finite negative mantissa exponent =>
    let body := if mantissa = 0 then "0" else (shortest .up mantissa exponent).positional
    if negative then "-" ++ body else body

end Binary64

end RelationalMapping
