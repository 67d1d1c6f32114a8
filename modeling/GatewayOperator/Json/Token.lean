/-
This file splits the text of a JSON document into tokens. Blanks between tokens are dropped. A
number is read into its parts here and into a value by the rules of its kind: an integer that
fits into 64 bits stays one; any other number takes as many leading digits as fit into an
unsigned word of 64 bits and scales them by a power of ten in floating-point arithmetic. A number
or a string that is well written and has no value is a token with the faulty value.
-/

import GatewayOperator.Json.Basic

namespace GatewayOperator.Json

/-- A token of a document. -/
inductive Token where
  | openObject
  | closeObject
  | openArray
  | closeArray
  | colon
  | comma
  /-- A string, which may also be the name of a member; nothing if it is faulty. -/
  | text (value : Option String)
  | scalar (value : Json)
  deriving Inhabited

/-! ### Numbers -/

/-- The greatest number of an unsigned word of 64 bits. -/
def wordLimit : Nat := UInt64.size

/-- A significand that grew by digits as long as it fitted a word, and the digits it could not
take. -/
structure Significand where
  value : Nat
  dropped : Nat
  taken : Nat

/-- The value of a decimal digit. -/
def digitValue (character : Char) : Nat := character.toNat - '0'.toNat

/-- Takes a digit, unless an earlier one was dropped or the word would overflow. -/
def Significand.push (significand : Significand) (digit : Char) : Significand :=
  let next := significand.value * 10 + digitValue digit
  if significand.dropped = 0 ∧ next < wordLimit then
    { significand with value := next, taken := significand.taken + 1 }
  else
    { significand with dropped := significand.dropped + 1 }

/-- Takes the digits in order. -/
def Significand.read (start : Nat) (digits : List Char) : Significand :=
  digits.foldl Significand.push ⟨start, 0, 0⟩

/-- The floating-point number next to a power of ten below `10 ^ 309`. -/
def powerOfTen (exponent : Nat) : Float := Float.ofScientific 1 false exponent

/-- Divides by powers of ten, at most `10 ^ 308` at a time. -/
def scaleDown : Nat → Float → Nat → Float
  | 0, number, _ => number
  | fuel + 1, number, exponent =>
    if exponent ≤ 308 then number / powerOfTen exponent
    else if number == 0.0 then number
    else scaleDown fuel (number / powerOfTen 308) (exponent - 308)

/-- A significand scaled by a power of ten; nothing if the result has no finite value. -/
def scale? (significand : Nat) (exponent : Int) : Option Float :=
  let number := (UInt64.ofNat significand).toFloat
  if 0 ≤ exponent then
    if exponent.toNat ≤ 308 then
      let scaled := number * powerOfTen exponent.toNat
      if scaled.isInf then none else some scaled
    else if number == 0.0 then some number
    else none
  else
    some (scaleDown 10 number (min (-exponent).toNat 3000))

/-- The exponent part of a number; a magnitude outside 32 bits is kept apart. -/
inductive Exponent where
  | within (value : Int)
  | beyond (positive : Bool)

/-- Reads the digits of an exponent. -/
def readExponent (positive : Bool) (digits : List Char) : Exponent :=
  let value := digits.foldl (fun value digit => value * 10 + digitValue digit) 0
  if value < 0x80000000 then .within (if positive then (value : Int) else -(value : Int))
  else .beyond positive

/-- The parts of a number as they are written. -/
structure NumberText where
  negative : Bool
  whole : List Char
  fraction : Option (List Char)
  exponent : Option Exponent

/-- Gives a magnitude its sign. -/
def signed (negative : Bool) (magnitude : Float) : Json :=
  float (if negative then -magnitude else magnitude)

/-- The value of a number; nothing if it is beyond the range of floating-point numbers. -/
def NumberText.value? (number : NumberText) : Option Json :=
  let whole := Significand.read 0 number.whole
  let significand := Significand.read whole.value (number.fraction.getD [])
  let exponent : Int := whole.dropped - significand.taken
  match number.fraction, number.exponent with
  | none, none =>
    if whole.dropped = 0 then
      if !number.negative then some (integer whole.value)
      else if whole.value = 0 then some (signed true 0.0)
      else if whole.value ≤ 0x8000000000000000 then some (integer (-(whole.value : Int)))
      else some (signed true (UInt64.ofNat whole.value).toFloat)
    else (scale? whole.value exponent).map (signed number.negative)
  | _, some (.beyond positive) =>
    if significand.value ≠ 0 ∧ positive then none else some (signed number.negative 0.0)
  | _, some (.within shift) =>
    (scale? significand.value (exponent + shift)).map (signed number.negative)
  | some _, none => (scale? significand.value exponent).map (signed number.negative)

/-- Splits off the leading digits. -/
def spanDigits (text : List Char) : List Char × List Char :=
  text.span Char.isDigit

/-- Reads the part behind the point, if there is one. -/
def readFraction : List Char → Option (Option (List Char) × List Char)
  | '.' :: rest =>
    match spanDigits rest with
    | ([], _) => none
    | (digits, rest) => some (some digits, rest)
  | rest => some (none, rest)

/-- Reads the digits of an exponent behind its sign. -/
def readExponentDigits (positive : Bool) (text : List Char) :
    Option (Option Exponent × List Char) :=
  match spanDigits text with
  | ([], _) => none
  | (digits, rest) => some (some (readExponent positive digits), rest)

/-- Reads the part behind the exponent mark, if there is one. -/
def readExponentPart : List Char → Option (Option Exponent × List Char)
  | mark :: rest =>
    if mark = 'e' ∨ mark = 'E' then
      match rest with
      | '+' :: digits => readExponentDigits true digits
      | '-' :: digits => readExponentDigits false digits
      | digits => readExponentDigits true digits
    else some (none, mark :: rest)
  | [] => some (none, [])

/-- Reads a number without its sign. A leading zero stands alone. -/
def readNumber (negative : Bool) (text : List Char) : Option (Json × List Char) := do
  let (whole, rest) := spanDigits text
  if whole.isEmpty || (whole.head? == some '0' && whole.length != 1) then
    none
  let (fraction, rest) ← readFraction rest
  let (exponent, rest) ← readExponentPart rest
  let value := NumberText.value? ⟨negative, whole, fraction, exponent⟩
  return (value.getD faulty, rest)

/-! ### Strings -/

/-- The value of a hexadecimal digit. -/
def hexValue? (character : Char) : Option Nat :=
  if '0' ≤ character ∧ character ≤ '9' then some (character.toNat - '0'.toNat)
  else if 'a' ≤ character ∧ character ≤ 'f' then some (character.toNat - 'a'.toNat + 10)
  else if 'A' ≤ character ∧ character ≤ 'F' then some (character.toNat - 'A'.toNat + 10)
  else none

/-- The value of four hexadecimal digits. -/
def hexUnit? (a b c d : Char) : Option Nat := do
  let a ← hexValue? a
  let b ← hexValue? b
  let c ← hexValue? c
  let d ← hexValue? d
  return a * 4096 + b * 256 + c * 16 + d

/-- The character a short escape stands for. -/
def shortEscape? : Char → Option Char
  | '"' => some '"'
  | '\\' => some '\\'
  | '/' => some '/'
  | 'b' => some '\x08'
  | 'f' => some '\x0c'
  | 'n' => some '\n'
  | 'r' => some '\r'
  | 't' => some '\t'
  | _ => none

/-- The first half of a pair of units. -/
def isLeading (unit : Nat) : Bool := 0xD800 ≤ unit && unit < 0xDC00

/-- The second half of a pair of units. -/
def isTrailing (unit : Nat) : Bool := 0xDC00 ≤ unit && unit < 0xE000

/-- The character of a pair of units. -/
def pairCharacter (leading trailing : Nat) : Char :=
  Char.ofNat (0x10000 + (leading - 0xD800) * 0x400 + (trailing - 0xDC00))

/-- A part of a string: a character, or a unit written by its number. -/
inductive StringPart where
  | character (value : Char)
  | unit (value : Nat)

/-- Reads the parts of a string behind its opening quote, up to and with its closing quote. A
bare control character and an unknown escape are refused. -/
def readParts (done : List StringPart) : List Char → Option (List StringPart × List Char)
  | '"' :: rest => some (done.reverse, rest)
  | '\\' :: 'u' :: a :: b :: c :: d :: rest =>
    match hexUnit? a b c d with
    | none => none
    | some unit => readParts (.unit unit :: done) rest
  | '\\' :: escape :: rest =>
    match shortEscape? escape with
    | none => none
    | some character => readParts (.character character :: done) rest
  | character :: rest =>
    if character.toNat < 0x20 || character = '\\' then none
    else readParts (.character character :: done) rest
  | [] => none

/-- The characters of a string; nothing if a half of a pair of units stands alone. -/
def joinParts (done : List Char) : List StringPart → Option (List Char)
  | [] => some done.reverse
  | .character value :: rest => joinParts (value :: done) rest
  | .unit leading :: rest =>
    if isTrailing leading then none
    else if isLeading leading then
      match rest with
      | .unit trailing :: rest =>
        if isTrailing trailing then joinParts (pairCharacter leading trailing :: done) rest
        else none
      | _ => none
    else joinParts (Char.ofNat leading :: done) rest

/-! ### The tokens of a document -/

/-- Whether a token is faulty. -/
def Token.isFaulty : Token → Bool
  | text none | scalar faulty => true
  | _ => false

/-- Whether a character may stand between tokens. -/
def isSeparator (character : Char) : Bool :=
  character = ' ' || character = '\n' || character = '\r' || character = '\t'

/-- Reads the token at the start of a text that begins with no blank. -/
def readToken : List Char → Option (Token × List Char)
  | '\x7b' :: rest => some (.openObject, rest)
  | '\x7d' :: rest => some (.closeObject, rest)
  | '[' :: rest => some (.openArray, rest)
  | ']' :: rest => some (.closeArray, rest)
  | ':' :: rest => some (.colon, rest)
  | ',' :: rest => some (.comma, rest)
  | '"' :: rest => (readParts [] rest).map fun (parts, rest) =>
      (.text ((joinParts [] parts).map String.ofList), rest)
  | 'n' :: 'u' :: 'l' :: 'l' :: rest => some (.scalar null, rest)
  | 't' :: 'r' :: 'u' :: 'e' :: rest => some (.scalar (boolean true), rest)
  | 'f' :: 'a' :: 'l' :: 's' :: 'e' :: rest => some (.scalar (boolean false), rest)
  | '-' :: rest => (readNumber true rest).map fun (value, rest) => (.scalar value, rest)
  | rest => (readNumber false rest).map fun (value, rest) => (.scalar value, rest)

/-- Reads tokens until the text ends. The fuel is a bound on their number. -/
def readTokens : Nat → List Token → List Char → Option (List Token)
  | 0, _, _ => none
  | fuel + 1, done, text =>
    match text.dropWhile isSeparator with
    | [] => some done.reverse
    | text =>
      match readToken text with
      | none => none
      | some (token, rest) => readTokens fuel (token :: done) rest

/-- The tokens of a document; nothing if a part of it is no token. Every token takes at least
one character, so the length of the text bounds their number. -/
def tokens? (text : List Char) : Option (List Token) :=
  readTokens (text.length + 1) [] text

end GatewayOperator.Json
