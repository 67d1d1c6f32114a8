/-
This file writes bytes in base 64 and reads them back. Reading is strict: the padding is
mandatory and the bits that no byte uses have to be zero, so every byte sequence has exactly
one written form.
-/

namespace GatewayOperator.Text.Base64

/-- The digit of a value below 64. -/
def digit (value : Nat) : Char :=
  if value < 26 then Char.ofNat ('A'.toNat + value)
  else if value < 52 then Char.ofNat ('a'.toNat + (value - 26))
  else if value < 62 then Char.ofNat ('0'.toNat + (value - 52))
  else if value = 62 then '+'
  else '/'

/-- The value of a digit. -/
def value? (character : Char) : Option Nat :=
  if 'A' ≤ character ∧ character ≤ 'Z' then some (character.toNat - 'A'.toNat)
  else if 'a' ≤ character ∧ character ≤ 'z' then some (character.toNat - 'a'.toNat + 26)
  else if '0' ≤ character ∧ character ≤ '9' then some (character.toNat - '0'.toNat + 52)
  else if character = '+' then some 62
  else if character = '/' then some 63
  else none

/-- Three bytes become four digits; one or two bytes at the end are padded to four. -/
def encode : List UInt8 → List Char
  | [] => []
  | [a] => [digit (a.toNat / 4), digit (a.toNat % 4 * 16), '=', '=']
  | [a, b] =>
    [digit (a.toNat / 4), digit (a.toNat % 4 * 16 + b.toNat / 16), digit (b.toNat % 16 * 4), '=']
  | a :: b :: c :: rest =>
    digit (a.toNat / 4) :: digit (a.toNat % 4 * 16 + b.toNat / 16) ::
      digit (b.toNat % 16 * 4 + c.toNat / 64) :: digit (c.toNat % 64) :: encode rest

/-- The byte before two padding characters. -/
def decodeOne (a b : Char) : Option (List UInt8) := do
  let first ← value? a
  let second ← value? b
  if second % 16 = 0 then
    return [UInt8.ofNat (first * 4 + second / 16)]
  else
    none

/-- The two bytes before one padding character. -/
def decodeTwo (a b c : Char) : Option (List UInt8) := do
  let first ← value? a
  let second ← value? b
  let third ← value? c
  if third % 4 = 0 then
    return [UInt8.ofNat (first * 4 + second / 16), UInt8.ofNat (second % 16 * 16 + third / 4)]
  else
    none

/-- The three bytes of four digits. -/
def decodeThree (a b c d : Char) : Option (List UInt8) := do
  let first ← value? a
  let second ← value? b
  let third ← value? c
  let fourth ← value? d
  return [UInt8.ofNat (first * 4 + second / 16), UInt8.ofNat (second % 16 * 16 + third / 4),
    UInt8.ofNat (third % 4 * 64 + fourth)]

/-- Reads groups of four digits; only the last group may be padded. -/
def decode : List Char → Option (List UInt8)
  | [] => some []
  | a :: b :: c :: d :: rest =>
    if rest.isEmpty && d == '=' then
      if c == '=' then decodeOne a b else decodeTwo a b c
    else do
      let group ← decodeThree a b c d
      let others ← decode rest
      return group ++ others
  | _ => none

/-! ### Reading back what was written -/

/-- A digit has its value. -/
theorem value?_digit : ∀ value < 64, value? (digit value) = some value := by decide

/-- No digit is the padding character. -/
theorem digit_ne_padding : ∀ value < 64, (digit value == '=') = false := by decide

theorem ofNat_eq_of_toNat_eq {value : Nat} {byte : UInt8} (equal : value = byte.toNat) :
    UInt8.ofNat value = byte := by
  rw [equal, UInt8.ofNat_toNat]

/-- What is written is read back. -/
theorem decode_encode (bytes : List UInt8) : decode (encode bytes) = some bytes := by
  fun_induction encode bytes with
  | case1 => rfl
  | case2 a =>
    have small := a.toNat_lt
    have first := value?_digit (a.toNat / 4) (by omega)
    have second := value?_digit (a.toNat % 4 * 16) (by omega)
    have whole : UInt8.ofNat (a.toNat / 4 * 4 + a.toNat % 4 * 16 / 16) = a :=
      ofNat_eq_of_toNat_eq (by omega)
    have trailing : a.toNat % 4 * 16 % 16 = 0 := by omega
    simp only [decode, List.isEmpty_nil, BEq.rfl, Bool.and_self, if_true, decodeOne, first,
      second, trailing, whole, bind, Option.bind, pure]
  | case3 a b =>
    have small := a.toNat_lt
    have small' := b.toNat_lt
    have first := value?_digit (a.toNat / 4) (by omega)
    have second := value?_digit (a.toNat % 4 * 16 + b.toNat / 16) (by omega)
    have third := value?_digit (b.toNat % 16 * 4) (by omega)
    have unpadded := digit_ne_padding (b.toNat % 16 * 4) (by omega)
    have whole : UInt8.ofNat (a.toNat / 4 * 4 + (a.toNat % 4 * 16 + b.toNat / 16) / 16) = a :=
      ofNat_eq_of_toNat_eq (by omega)
    have whole' : UInt8.ofNat ((a.toNat % 4 * 16 + b.toNat / 16) % 16 * 16 +
        b.toNat % 16 * 4 / 4) = b := ofNat_eq_of_toNat_eq (by omega)
    have trailing : b.toNat % 16 * 4 % 4 = 0 := by omega
    simp only [decode, List.isEmpty_nil, BEq.rfl, Bool.and_self, if_true, unpadded,
      Bool.false_eq_true, if_false, decodeTwo, first, second, third, trailing, whole, whole',
      bind, Option.bind, pure]
  | case4 a b c rest inductionHypothesis =>
    have small := a.toNat_lt
    have small' := b.toNat_lt
    have small'' := c.toNat_lt
    have first := value?_digit (a.toNat / 4) (by omega)
    have second := value?_digit (a.toNat % 4 * 16 + b.toNat / 16) (by omega)
    have third := value?_digit (b.toNat % 16 * 4 + c.toNat / 64) (by omega)
    have fourth := value?_digit (c.toNat % 64) (by omega)
    have unpadded := digit_ne_padding (c.toNat % 64) (by omega)
    have whole : UInt8.ofNat (a.toNat / 4 * 4 + (a.toNat % 4 * 16 + b.toNat / 16) / 16) = a :=
      ofNat_eq_of_toNat_eq (by omega)
    have whole' : UInt8.ofNat ((a.toNat % 4 * 16 + b.toNat / 16) % 16 * 16 +
        (b.toNat % 16 * 4 + c.toNat / 64) / 4) = b := ofNat_eq_of_toNat_eq (by omega)
    have whole'' : UInt8.ofNat ((b.toNat % 16 * 4 + c.toNat / 64) % 4 * 64 + c.toNat % 64) = c :=
      ofNat_eq_of_toNat_eq (by omega)
    simp only [decode, unpadded, Bool.and_false, Bool.false_eq_true, if_false, decodeThree, first,
      second, third, fourth, whole, whole', whole'', bind, Option.bind, pure,
      inductionHypothesis, List.cons_append, List.nil_append]

end GatewayOperator.Text.Base64
