import RelationalMapping.Text.Hex

namespace RelationalMapping

structure Uuid where
  bits : BitVec 128
  deriving DecidableEq, Repr, Inhabited

namespace Uuid

def nil : Uuid := ⟨0⟩

def groups : List Nat := [8, 4, 4, 4, 12]

def digitCount : Nat := 32

def ofDigits? (cs : List Char) : Option Uuid :=
  if cs.length = digitCount then
    (Text.hexNumber? cs).map fun n => ⟨BitVec.ofNat 128 n⟩
  else none

def joinGroups? : List Nat → List Char → Option (List Char)
  | [], cs => if cs.isEmpty then some [] else none
  | [last], cs => if cs.length = last then some cs else none
  | size :: sizes, cs =>
    match cs.drop size with
    | '-' :: rest => (joinGroups? sizes rest).map (cs.take size ++ ·)
    | _ => none

def ofHyphenated? (cs : List Char) : Option Uuid := (joinGroups? groups cs).bind ofDigits?

def urnMark : List Char := "urn:uuid:".toList

def parse? (text : String) : Option Uuid :=
  let cs := text.toList
  if cs.length = digitCount then ofDigits? cs
  else if cs.head? = some '{' && cs.getLast? = some '}' then ofHyphenated? (cs.tail.dropLast)
  else if (cs.take urnMark.length).map Char.toLower = urnMark then ofHyphenated? (cs.drop urnMark.length)
  else ofHyphenated? cs

def digits (u : Uuid) : List Char := Text.hexDigits digitCount u.bits.toNat

def splitGroups : List Nat → List Char → List Char
  | [], cs => cs
  | [_], cs => cs
  | size :: sizes, cs => cs.take size ++ '-' :: splitGroups sizes (cs.drop size)

def text (u : Uuid) : String := String.ofList (splitGroups groups u.digits)

end Uuid

end RelationalMapping
