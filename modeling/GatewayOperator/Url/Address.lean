/-
This file reads the numeric addresses that may stand in place of a host name. An address of
version 4 has up to four parts, each decimal, octal or hexadecimal, and the last part fills all
bytes that are left. An address of version 6 has eight parts in hexadecimal; one run of zeros
may be left out, and the last two parts may be written as an address of version 4.
-/

import GatewayOperator.Text.Ranges

namespace GatewayOperator.Url

open GatewayOperator.Text

/-! ### Version 4 -/

/-- The value of digits in a base; nothing if one is not of the base. -/
def digitsValue? (base : Nat) (digits : List Char) : Option Nat :=
  digits.foldlM (fun value digit =>
    let digitValue? : Option Nat :=
      if '0' ≤ digit ∧ digit ≤ '9' then some (digit.toNat - '0'.toNat)
      else if 'a' ≤ digit ∧ digit ≤ 'f' then some (digit.toNat - 'a'.toNat + 10)
      else if 'A' ≤ digit ∧ digit ≤ 'F' then some (digit.toNat - 'A'.toNat + 10)
      else none
    match digitValue? with
    | some number => if number < base then some (value * base + number) else none
    | none => none) 0

/-- The value of a part of an address, without a bound. -/
def partValue? : List Char → Option Nat
  | [] => none
  | '0' :: 'x' :: digits => digitsValue? 16 digits
  | '0' :: 'X' :: digits => digitsValue? 16 digits
  | '0' :: digit :: digits => digitsValue? 8 (digit :: digits)
  | digits => digitsValue? 10 digits

/-- Whether the last label of a name makes it an address: it consists of decimal digits or is
the part of an address. A final dot is passed over. -/
def endsInNumber (name : List Char) : Bool :=
  let labels := (splitAt '.' name).reverse
  let last := match labels with
    | [] :: rest => rest.head?
    | rest => rest.head?
  match last with
  | none => false
  | some label => (!label.isEmpty && label.all Char.isDigit) || (partValue? label).isSome

/-- The address of a name that ends in a number. -/
def ipv4? (name : List Char) : Option Nat := do
  let labels := splitAt '.' name
  let labels := if labels.getLast? = some [] then labels.dropLast else labels
  if 4 < labels.length then
    none
  let values ← labels.mapM partValue?
  let last ← values.getLast?
  let leading := values.dropLast
  if Nat.pow 256 (4 - leading.length) ≤ last || leading.any (255 < ·) then
    none
  return leading.foldl (fun address part => address * 256 + part) 0 *
    Nat.pow 256 (4 - leading.length) + last

/-! ### Version 6 -/

/-- Whether a character is a hexadecimal digit. -/
def isHexDigit (character : Char) : Bool :=
  character.isDigit || ('a' ≤ character && character ≤ 'f') ||
    ('A' ≤ character && character ≤ 'F')

/-- A decimal part of an address of version 4 at the end of one of version 6: at most 255 and
without a leading zero. -/
def octet? (digits : List Char) : Option Nat :=
  if digits.isEmpty || !digits.all Char.isDigit || (digits.head? = some '0' && digits != ['0']) then
    none
  else
    match digitsValue? 10 digits with
    | some value => if value ≤ 255 then some value else none
    | none => none

/-- The two parts that an address of version 4 stands for. -/
def dottedParts? (text : List Char) : Option (List Nat) :=
  match (splitAt '.' text).mapM octet? with
  | some [a, b, c, d] => some [a * 256 + b, c * 256 + d]
  | _ => none

/-- The parts read so far (reversed) and the number of parts before the run that was left out. -/
structure Ipv6Reading where
  parts : List Nat
  gap : Option Nat

/-- The eight parts at the end of an address: the run that was left out is filled with zeros. A
gap stands for at least one part. -/
def Ipv6Reading.finish (reading : Ipv6Reading) : Option (List Nat) :=
  let parts := reading.parts.reverse
  match reading.gap with
  | none => if parts.length = 8 then some parts else none
  | some before =>
    if parts.length ≤ 7 then
      some (parts.take before ++ List.replicate (8 - parts.length) 0 ++ parts.drop before)
    else none

/-- The number of parts a reading takes up; a gap counts as one. -/
def Ipv6Reading.count (reading : Ipv6Reading) : Nat :=
  reading.parts.length + if reading.gap.isSome then 1 else 0

/-- Reads the parts of an address. The fuel bounds their number. -/
def readIpv6 : Nat → Ipv6Reading → List Char → Option (List Nat)
  | 0, _, _ => none
  | _ + 1, reading, [] => reading.finish
  | fuel + 1, reading, ':' :: rest =>
    if reading.count = 8 || reading.gap.isSome then none
    else readIpv6 fuel { reading with gap := some reading.parts.length } rest
  | fuel + 1, reading, text =>
    if reading.count = 8 then none
    else
      let digits := (text.take 4).takeWhile isHexDigit
      let rest := text.drop digits.length
      let parts := hexValue (digits.map Char.toLower) :: reading.parts
      match rest with
      | [] => ({ reading with parts } : Ipv6Reading).finish
      | '.' :: _ =>
        if digits.isEmpty || 6 < reading.count then none
        else
          match dottedParts? text with
          | some [first, second] =>
            ({ reading with parts := second :: first :: reading.parts } : Ipv6Reading).finish
          | _ => none
      | ':' :: rest => if rest.isEmpty then none else readIpv6 fuel { reading with parts } rest
      | _ => none

/-- The parts of an address. A leading colon has to be followed by a second one. -/
def ipv6? (text : List Char) : Option (List Nat) :=
  match text with
  | ':' :: ':' :: rest => readIpv6 10 ⟨[], some 0⟩ rest
  | ':' :: _ => none
  | [] => none
  | [_] => none
  | text => readIpv6 10 ⟨[], none⟩ text

end GatewayOperator.Url
