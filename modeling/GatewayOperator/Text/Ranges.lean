/-
This file holds sets of code points as lists of ranges and reads them from text, in which a
range is written as its bounds in hexadecimal and ranges are separated by blanks. Tables of
character properties are kept in this form.
-/

namespace GatewayOperator.Text

/-- The value of a lower-case hexadecimal digit; other characters count as zero. -/
def hexDigitValue (character : Char) : Nat :=
  if '0' ≤ character ∧ character ≤ '9' then character.toNat - '0'.toNat
  else if 'a' ≤ character ∧ character ≤ 'f' then character.toNat - 'a'.toNat + 10
  else 0

/-- The value of hexadecimal digits. -/
def hexValue (digits : List Char) : Nat :=
  digits.foldl (fun value digit => value * 16 + hexDigitValue digit) 0

/-- Splits a text at a separator. -/
def splitAt (separator : Char) : List Char → List (List Char)
  | [] => [[]]
  | character :: rest =>
    match splitAt separator rest with
    | [] => [[character]]
    | part :: parts =>
      if character = separator then [] :: part :: parts else (character :: part) :: parts

/-- The words of a text that is laid out over several lines. -/
def words (text : String) : List (List Char) :=
  ((splitAt '\n' text.toList).flatMap (splitAt ' ')).filter (!·.isEmpty)

/-- A range of code points with both bounds. -/
structure Range where
  first : Nat
  last : Nat

/-- Whether a code point lies in the range. -/
def Range.contains (range : Range) (code : Nat) : Bool :=
  range.first ≤ code && code ≤ range.last

/-- Reads a range; a single number is the range of itself. -/
def Range.read (text : List Char) : Range :=
  match splitAt '-' text with
  | first :: last :: _ => ⟨hexValue first, hexValue last⟩
  | [only] => ⟨hexValue only, hexValue only⟩
  | [] => ⟨0, 0⟩

/-- Reads a list of ranges. -/
def readRanges (text : String) : List Range :=
  (words text).map Range.read

/-- Whether a code point lies in one of the ranges. -/
def inRanges (ranges : List Range) (code : Nat) : Bool :=
  ranges.any (·.contains code)

end GatewayOperator.Text
