import RelationalMapping.Text.WordTable
import RelationalMapping.Text.Case

namespace RelationalMapping.Text

def isDecimalDigit (c : Char) : Bool :=
  if c.toNat < 0x80 then c.isDigit else inRanges decimalDigits c

def isWordCharacter (c : Char) : Bool :=
  if c.toNat < 0x80 then c.isAlphanum || c == '_' else inRanges wordCharacters c

def asciiNumber? (cs : List Char) : Option Nat :=
  if cs.isEmpty then none
  else cs.foldl
    (fun total c => total.bind fun n => if c.isDigit then some (n * 10 + (c.toNat - '0'.toNat)) else none)
    (some 0)

end RelationalMapping.Text
