namespace RelationalMapping

structure BinaryFormat where
  mantissaBits : Nat
  exponentBits : Nat
  deriving DecidableEq, Repr

namespace BinaryFormat

def double : BinaryFormat := ⟨52, 11⟩

def single : BinaryFormat := ⟨23, 8⟩

def leastExponent (f : BinaryFormat) : Int :=
  2 - (1 <<< (f.exponentBits - 1) : Nat) - f.mantissaBits

def infinity (f : BinaryFormat) : Nat :=
  (1 <<< f.exponentBits - 1) <<< f.mantissaBits

def signWeight (f : BinaryFormat) : Nat :=
  1 <<< (f.mantissaBits + f.exponentBits)

inductive Reading where
  | nan
  | infinite (negative : Bool)
  | finite (negative : Bool) (mantissa : Nat) (exponent : Int)
  deriving DecidableEq, Repr

def read (f : BinaryFormat) (bits : Nat) : Reading :=
  let fraction := bits % (1 <<< f.mantissaBits)
  let field := (bits >>> f.mantissaBits) % (1 <<< f.exponentBits)
  let negative := bits / f.signWeight % 2 == 1
  if field = 1 <<< f.exponentBits - 1 then
    if fraction = 0 then .infinite negative else .nan
  else if field = 0 then .finite negative fraction f.leastExponent
  else .finite negative (fraction + 1 <<< f.mantissaBits) (f.leastExponent + field - 1)

def nearest (num den : Nat) : Nat :=
  let quotient := num / den
  let rest := 2 * (num % den)
  if rest < den then quotient
  else if den < rest then quotient + 1
  else quotient + quotient % 2

def scaled (num den : Nat) (exponent : Int) : Nat × Nat :=
  (num <<< (-exponent).toNat, den <<< exponent.toNat)

/-- The magnitude pattern nearest to `num / den`. A mantissa that rounds up to the next power of two
carries into the exponent field, which is what the format means by it. -/
def magnitude (f : BinaryFormat) (num den : Nat) : Nat :=
  let start := max f.leastExponent ((num.log2 : Int) - den.log2 - 1 - f.mantissaBits)
  let wide := scaled num den start
  let exponent := if 1 <<< (f.mantissaBits + 1) ≤ wide.1 / wide.2 then start + 1 else start
  let exact := scaled num den exponent
  min f.infinity ((exponent - f.leastExponent).toNat <<< f.mantissaBits + nearest exact.1 exact.2)

def ofRatio (f : BinaryFormat) (negative : Bool) (num den : Nat) : Nat :=
  (if negative then f.signWeight else 0) + if num = 0 then 0 else f.magnitude num den

def ofReading (f : BinaryFormat) : Reading → Nat
  | .nan => f.infinity + 1 <<< (f.mantissaBits - 1)
  | .infinite negative => (if negative then f.signWeight else 0) + f.infinity
  | .finite negative mantissa exponent =>
    f.ofRatio negative (mantissa <<< exponent.toNat) (1 <<< (-exponent).toNat)

end BinaryFormat

structure Binary64 where
  bits : UInt64
  deriving DecidableEq, Repr, Inhabited

structure Binary32 where
  bits : UInt32
  deriving DecidableEq, Repr, Inhabited

namespace Binary64

open BinaryFormat (Reading)

def read (x : Binary64) : Reading := BinaryFormat.double.read x.bits.toNat

def ofReading (r : Reading) : Binary64 := ⟨(BinaryFormat.double.ofReading r).toUInt64⟩

def ofRatio (negative : Bool) (num den : Nat) : Binary64 :=
  ⟨(BinaryFormat.double.ofRatio negative num den).toUInt64⟩

def zero : Binary64 := ⟨0⟩

def ofNat (n : Nat) : Binary64 := ofRatio false n 1

def ofInt (n : Int) : Binary64 := ofRatio (n < 0) n.natAbs 1

def isNaN (x : Binary64) : Bool := x.read == .nan

def isInfinite (x : Binary64) : Bool :=
  match x.read with
  | .infinite _ => true
  | _ => false

def isZero (x : Binary64) : Bool :=
  match x.read with
  | .finite _ 0 _ => true
  | _ => false

def neg (x : Binary64) : Binary64 := ⟨x.bits ^^^ 0x8000000000000000⟩

def equal (x y : Binary64) : Bool :=
  !x.isNaN && !y.isNaN && (x == y || x.isZero && y.isZero)

def mul (x y : Binary64) : Binary64 :=
  match x.read, y.read with
  | .nan, _ | _, .nan => ofReading .nan
  | .infinite a, .infinite b => ofReading (.infinite (a != b))
  | .infinite a, .finite b m _ | .finite b m _, .infinite a =>
    ofReading (if m = 0 then .nan else .infinite (a != b))
  | .finite a m e, .finite b n k => ofReading (.finite (a != b) (m * n) (e + k))

def div (x y : Binary64) : Binary64 :=
  match x.read, y.read with
  | .nan, _ | _, .nan => ofReading .nan
  | .infinite _, .infinite _ => ofReading .nan
  | .infinite a, .finite b _ _ => ofReading (.infinite (a != b))
  | .finite a _ _, .infinite b => ofReading (.finite (a != b) 0 0)
  | .finite a m e, .finite b n k =>
    if n = 0 then ofReading (if m = 0 then .nan else .infinite (a != b))
    else ofRatio (a != b) (m <<< (e - k).toNat) (n <<< (k - e).toNat)

def narrow (x : Binary64) : Binary32 := ⟨(BinaryFormat.single.ofReading x.read).toUInt32⟩

end Binary64

namespace Binary32

def read (x : Binary32) : BinaryFormat.Reading := BinaryFormat.single.read x.bits.toNat

def widen (x : Binary32) : Binary64 := Binary64.ofReading x.read

end Binary32

end RelationalMapping
