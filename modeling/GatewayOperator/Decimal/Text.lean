/-
This file writes floating-point numbers as text in the two layouts that are needed. In a JSON
document small and large magnitudes carry an exponent and a whole number keeps one decimal, so
that it reads back as a floating-point number. In a metrics exposition every number is written
out positionally, and a whole number has no point.
-/

import GatewayOperator.Decimal.Shortest

namespace GatewayOperator.Decimal

/-- The digits of a natural number. -/
def digitsOf (number : Nat) : List Char := Nat.toDigits 10 number

/-- An integer with its sign. -/
def writeInteger (number : Int) : List Char :=
  if number < 0 then '-' :: digitsOf number.natAbs else digitsOf number.natAbs

/-- The text of an integer. -/
def integerText (number : Int) : String := String.ofList (writeInteger number)

/-- The digits of a number can be read back. -/
theorem digitsOf_injective {first second : Nat} (same : digitsOf first = digitsOf second) :
    first = second := by
  unfold digitsOf at same
  calc
    first = Nat.ofDigitChars 10 (Nat.toDigits 10 first) 0 := Nat.ofDigitChars_ten_toDigits.symm
    _ = Nat.ofDigitChars 10 (Nat.toDigits 10 second) 0 := by rw [same]
    _ = second := Nat.ofDigitChars_ten_toDigits

/-- A sign is not a digit. -/
theorem digitsOf_ne_signed (number : Nat) (digits : List Char) :
    digitsOf number ≠ '-' :: digits := by
  intro same
  have isDigit : ∀ character ∈ digitsOf number, character.isDigit = true := fun _ member =>
    Nat.isDigit_of_mem_toDigits (by decide) (by decide) member
  rw [same] at isDigit
  exact absurd (isDigit '-' List.mem_cons_self) (by decide)

/-- Two integers of one text are the same. -/
theorem integerText_injective {first second : Int}
    (same : integerText first = integerText second) : first = second := by
  have written := String.ofList_injective same
  unfold writeInteger at written
  split at written <;> split at written
  · injection written with _ digits
    have magnitudes := digitsOf_injective digits
    omega
  · exact absurd written.symm (digitsOf_ne_signed _ _)
  · exact absurd written (digitsOf_ne_signed _ _)
  · have magnitudes := digitsOf_injective written
    omega

/-- So many zeros. -/
def zeros (count : Nat) : List Char := List.replicate count '0'

/-- A whole decimal that keeps `fraction` as what follows its digits. -/
def writeWhole (digits : List Char) (exponent : Nat) (fraction : List Char) : List Char :=
  digits ++ zeros exponent ++ fraction

/-- A decimal with its point inside or before its digits. -/
def writeFraction (digits : List Char) (places : Nat) : List Char :=
  let whole := digits.length - places
  if places < digits.length then digits.take whole ++ '.' :: digits.drop whole
  else '0' :: '.' :: zeros (places - digits.length) ++ digits

/-- Writes a decimal out in full, with `fraction` behind a whole number. -/
def writePositional (decimal : Scaled) (fraction : List Char) : List Char :=
  let digits := digitsOf decimal.digits
  if 0 ≤ decimal.exponent then writeWhole digits decimal.exponent.toNat fraction
  else writeFraction digits (-decimal.exponent).toNat

/-- Writes a decimal with one digit before the point and a signed exponent. -/
def writeScientific (decimal : Scaled) : List Char :=
  let digits := digitsOf decimal.digits
  let exponent := decimal.exponent + digits.length - 1
  let fraction := match digits.drop 1 with
    | [] => []
    | rest => '.' :: rest
  let sign := if exponent < 0 then '-' else '+'
  digits.take 1 ++ fraction ++ 'e' :: sign :: digitsOf exponent.natAbs

/-- Whether a decimal is written positionally in a document: from `10 ^ (-5)` up to, but not
including, `10 ^ 16`. -/
def isMiddling (decimal : Scaled) : Bool :=
  let position := decimal.exponent + (digitsOf decimal.digits).length
  position ≤ 16 && -5 < position

/-- The sign of a number, which a zero may have as well. -/
def sign (number : Float) : List Char :=
  if Nat.pow 2 63 ≤ number.toBits.toNat then ['-'] else []

/-- A finite number as it stands in a JSON document. -/
def writeDocument (number : Float) : List Char :=
  let decimal := shortest number.toBits
  sign number ++
    if decimal.digits = 0 || isMiddling decimal then writePositional decimal ['.', '0']
    else writeScientific decimal

/-- A finite number as it stands in a metrics exposition. -/
def writePlain (number : Float) : List Char :=
  sign number ++ writePositional (shortest number.toBits) []

end GatewayOperator.Decimal
