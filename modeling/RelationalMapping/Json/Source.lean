import RelationalMapping.Text.Hex

namespace RelationalMapping.Json

inductive StringUnit where
  | char (c : Char)
  | code (n : Nat)
  deriving DecidableEq, Repr

structure Numeral where
  negative : Bool
  whole : List Char
  fraction : List Char
  exponent : List Char
  exponentNegative : Bool
  plain : Bool
  deriving DecidableEq, Repr

inductive Source where
  | null
  | bool (b : Bool)
  | number (n : Numeral)
  | string (units : List StringUnit)
  | array (items : List Source)
  | object (entries : List (List StringUnit × Source))
  deriving Repr, Inhabited

inductive Token where
  | openArray
  | closeArray
  | openObject
  | closeObject
  | comma
  | colon
  | scalar (value : Source)
  | string (units : List StringUnit)

namespace Numeral

def exponentOf (rest : List Char) : Option (List Char × Bool) :=
  match rest with
  | [] => some ([], false)
  | c :: rest =>
    if c = 'e' || c = 'E' then
      let (negative, digits) := match rest with
        | '+' :: digits => (false, digits)
        | '-' :: digits => (true, digits)
        | digits => (false, digits)
      if !digits.isEmpty && digits.all Char.isDigit then some (digits, negative) else none
    else none

def ofChars? (cs : List Char) : Option Numeral := do
  let (negative, unsigned) := match cs with
    | '-' :: rest => (true, rest)
    | rest => (false, rest)
  let whole := unsigned.takeWhile Char.isDigit
  let afterWhole := unsigned.dropWhile Char.isDigit
  guard (!whole.isEmpty && (whole.length == 1 || whole.head? != some '0'))
  let (fraction, rest) := match afterWhole with
    | '.' :: rest => (rest.takeWhile Char.isDigit, rest.dropWhile Char.isDigit)
    | rest => ([], rest)
  guard (afterWhole.head? != some '.' || !fraction.isEmpty)
  let (exponent, exponentNegative) ← exponentOf rest
  some { negative, whole, fraction, exponent, exponentNegative, plain := afterWhole.isEmpty }

end Numeral

inductive Pending where
  | nothing
  | word (text : List Char)
  | numeral (text : List Char)
  | string (units : List StringUnit)
  | escape (units : List StringUnit)
  | unicode (units : List StringUnit) (digits value : Nat)

def isBlank (c : Char) : Bool := c == ' ' || c == '\t' || c == '\n' || c == '\r'

def isNumeralChar (c : Char) : Bool :=
  c.isDigit || c == '-' || c == '+' || c == '.' || c == 'e' || c == 'E'

def escaped? : Char → Option Char
  | '"' => some '"'
  | '\\' => some '\\'
  | '/' => some '/'
  | 'b' => some (Char.ofNat 8)
  | 'f' => some (Char.ofNat 12)
  | 'n' => some '\n'
  | 'r' => some '\r'
  | 't' => some '\t'
  | _ => none

def wordToken? (text : List Char) : Option Token :=
  if text = "null".toList then some (.scalar .null)
  else if text = "true".toList then some (.scalar (.bool true))
  else if text = "false".toList then some (.scalar (.bool false))
  else none

def startToken (tokens : List Token) (c : Char) : Option (List Token × Pending) :=
  if isBlank c then some (tokens, .nothing)
  else match c with
    | '[' => some (.openArray :: tokens, .nothing)
    | ']' => some (.closeArray :: tokens, .nothing)
    | '{' => some (.openObject :: tokens, .nothing)
    | '}' => some (.closeObject :: tokens, .nothing)
    | ',' => some (.comma :: tokens, .nothing)
    | ':' => some (.colon :: tokens, .nothing)
    | '"' => some (tokens, .string [])
    | c =>
      if c.isDigit || c == '-' then some (tokens, .numeral [c])
      else if c.isLower then some (tokens, .word [c])
      else none

def lexChar (tokens : List Token) : Pending → Char → Option (List Token × Pending)
  | .nothing, c => startToken tokens c
  | .word text, c =>
    if c.isLower then some (tokens, .word (c :: text))
    else do startToken ((← wordToken? text.reverse) :: tokens) c
  | .numeral text, c =>
    if isNumeralChar c then some (tokens, .numeral (c :: text))
    else do startToken (.scalar (.number (← Numeral.ofChars? text.reverse)) :: tokens) c
  | .string units, c =>
    if c = '"' then some (.string units.reverse :: tokens, .nothing)
    else if c = '\\' then some (tokens, .escape units)
    else if c.toNat < 0x20 then none
    else some (tokens, .string (.char c :: units))
  | .escape units, c =>
    if c = 'u' then some (tokens, .unicode units 0 0)
    else do some (tokens, .string (.char (← escaped? c) :: units))
  | .unicode units digits value, c => do
    let value := value * 16 + (← Text.hexValue? c)
    if digits = 3 then some (tokens, .string (.code value :: units))
    else some (tokens, .unicode units (digits + 1) value)

def lexChars (tokens : List Token) (pending : Pending) : List Char → Option (List Token)
  | [] => match pending with
    | .nothing => some tokens.reverse
    | .word text => do some ((← wordToken? text.reverse) :: tokens).reverse
    | .numeral text => do some (.scalar (.number (← Numeral.ofChars? text.reverse)) :: tokens).reverse
    | _ => none
  | c :: rest => do
    let (tokens, pending) ← lexChar tokens pending c
    lexChars tokens pending rest

def tokens? (text : String) : Option (List Token) := lexChars [] .nothing text.toList

inductive Frame where
  | array (items : List Source)
  | object (entries : List (List StringUnit × Source)) (key : List StringUnit)

inductive Expectation where
  | value
  | valueOrClose
  | key
  | keyOrClose
  | colon
  | commaOrClose
  | finished (value : Source)

structure Assembly where
  frames : List Frame
  expects : Expectation

namespace Assembly

def place (frames : List Frame) (value : Source) : Assembly :=
  match frames with
  | [] => ⟨[], .finished value⟩
  | .array items :: outer => ⟨.array (value :: items) :: outer, .commaOrClose⟩
  | .object entries key :: outer => ⟨.object ((key, value) :: entries) [] :: outer, .commaOrClose⟩

def beginValue (frames : List Frame) : Token → Option Assembly
  | .scalar value => some (place frames value)
  | .string units => some (place frames (.string units))
  | .openArray => some ⟨.array [] :: frames, .valueOrClose⟩
  | .openObject => some ⟨.object [] [] :: frames, .keyOrClose⟩
  | _ => none

def step (a : Assembly) (t : Token) : Option Assembly :=
  match a.expects, t, a.frames with
  | .value, t, frames => beginValue frames t
  | .valueOrClose, .closeArray, .array items :: outer => some (place outer (.array items.reverse))
  | .valueOrClose, t, frames => beginValue frames t
  | .keyOrClose, .closeObject, .object entries _ :: outer => some (place outer (.object entries.reverse))
  | .keyOrClose, .string units, .object entries _ :: outer => some ⟨.object entries units :: outer, .colon⟩
  | .key, .string units, .object entries _ :: outer => some ⟨.object entries units :: outer, .colon⟩
  | .colon, .colon, frames => some ⟨frames, .value⟩
  | .commaOrClose, .comma, .array items :: outer => some ⟨.array items :: outer, .value⟩
  | .commaOrClose, .comma, .object entries key :: outer => some ⟨.object entries key :: outer, .key⟩
  | .commaOrClose, .closeArray, .array items :: outer => some (place outer (.array items.reverse))
  | .commaOrClose, .closeObject, .object entries _ :: outer =>
    some (place outer (.object entries.reverse))
  | _, _, _ => none

end Assembly

def Source.parse? (text : String) : Option Source := do
  let assembly ← (← tokens? text).foldlM Assembly.step ⟨[], .value⟩
  match assembly.expects with
  | .finished value => some value
  | _ => none

end RelationalMapping.Json
