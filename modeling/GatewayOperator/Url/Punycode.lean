/-
This file writes the labels of a host name with letters outside ASCII in ASCII and reads them
back. A label is its ASCII characters followed by a sequence of numbers; every number says how
far to move through the pairs of a code point and a position before the next code point is
inserted. A number is written with digits in base 36 whose thresholds adapt to the numbers
before it.
-/

namespace GatewayOperator.Url.Punycode

/-- The value of a digit: the letters are 0 to 25 and the figures 26 to 35. -/
def digitValue? (code : Nat) : Option Nat :=
  if 0x61 ≤ code ∧ code ≤ 0x7A then some (code - 0x61)
  else if 0x41 ≤ code ∧ code ≤ 0x5A then some (code - 0x41)
  else if 0x30 ≤ code ∧ code ≤ 0x39 then some (code - 0x30 + 26)
  else none

/-- The digit of a value below 36. -/
def digit (value : Nat) : Nat := if value < 26 then 0x61 + value else 0x30 + (value - 26)

/-- The threshold of the digit at a position, counted in steps of 36. -/
def threshold (position bias : Nat) : Nat := min 26 (max 1 (position - bias))

theorem threshold_pos (position bias : Nat) : 1 ≤ threshold position bias := by
  unfold threshold
  omega

theorem threshold_le (position bias : Nat) : threshold position bias ≤ 26 := by
  unfold threshold
  omega

/-- Divides the distance by 35 until it is small, and counts the divisions in steps of 36. -/
def shrink (delta steps : Nat) : Nat :=
  if 455 < delta then shrink (delta / 35) (steps + 36)
  else steps + 36 * delta / (delta + 38)
termination_by delta
decreasing_by exact Nat.div_lt_self (by omega) (by omega)

/-- The bias after a distance, given the number of code points there are now. -/
def adapt (delta count : Nat) (first : Bool) : Nat :=
  let damped := if first then delta / 700 else delta / 2
  shrink (damped + damped / count) 0

/-! ### Reading -/

/-- The longest label that is read. -/
def readLimit : Nat := 2000

/-- A label that is being read: the code points so far, the code point and the position reached,
the position at which the current number began, and the state of the current number. -/
structure Reading where
  output : List Nat
  code : Nat
  position : Nat
  start : Nat
  weight : Nat
  step : Nat
  bias : Nat
  inside : Bool

/-- Inserts a code point at a position. -/
def insertAt (code : Nat) : Nat → List Nat → List Nat
  | 0, text => code :: text
  | position + 1, first :: rest => first :: insertAt code position rest
  | _ + 1, [] => [code]

/-- Whether a number is a code point. -/
def isCodePoint (code : Nat) : Bool := code < 0xD800 || (0xDFFF < code && code < 0x110000)

/-- Takes one digit. The last digit of a number is below its threshold; then a code point is
inserted. -/
def Reading.push (reading : Reading) (character : Nat) : Option Reading := do
  let value ← digitValue? character
  let position := reading.position + value * reading.weight
  let limit := threshold reading.step reading.bias
  if UInt32.size ≤ position then
    none
  else if limit ≤ value then
    let weight := reading.weight * (36 - limit)
    if UInt32.size ≤ weight then
      none
    else
      return { reading with position, weight, step := reading.step + 36, inside := true }
  else
    let count := reading.output.length + 1
    let code := reading.code + position / count
    if isCodePoint code then
      return {
        output := insertAt code (position % count) reading.output
        code
        position := position % count + 1
        start := position % count + 1
        weight := 1
        step := 36
        bias := adapt (position - reading.start) count (reading.start == 0)
        inside := false }
    else
      none

/-- Splits a label at its last hyphen. Without one everything is numbers, and so it is when that
hyphen is the first character: a hyphen separates only what stands before it, and as a digit it is
refused later. -/
def splitLastHyphen (label : List Nat) : List Nat × List Nat :=
  let reversed := label.reverse
  let numbers := (reversed.takeWhile (· != 0x2D)).reverse
  match reversed.dropWhile (· != 0x2D) with
  | [] | [_] => ([], label)
  | _ :: base => (base.reverse, numbers)

/-- The code points of a label, which is given without its mark. -/
def decode? (label : List Nat) : Option (List Nat) := do
  if readLimit < label.length then
    none
  let (base, numbers) := splitLastHyphen label
  if base.any (0x80 ≤ ·) then
    none
  let reading ← numbers.foldlM Reading.push ⟨base, 0x80, 0, 0, 1, 36, 72, false⟩
  if reading.inside then
    none
  else
    return reading.output

/-! ### Writing -/

/-- The longest label that is written. -/
def writeLimit : Nat := 1000

/-- The digits of a number from a position on. -/
def writeNumber (number step bias : Nat) : List Nat :=
  if threshold step bias ≤ number then
    digit (threshold step bias +
        (number - threshold step bias) % (36 - threshold step bias)) ::
      writeNumber ((number - threshold step bias) / (36 - threshold step bias)) (step + 36) bias
  else [digit number]
termination_by number
decreasing_by
  have low := threshold_pos step bias
  have high := threshold_le step bias
  exact Nat.lt_of_le_of_lt (Nat.div_le_self _ _) (by omega)

/-- A label that is being written. -/
structure Writing where
  output : List Nat
  code : Nat
  delta : Nat
  bias : Nat
  count : Nat

/-- Passes a code point of the label while a given code point is being inserted. -/
def Writing.pass (base : Nat) (target : Nat) (writing : Writing) (code : Nat) : Writing :=
  if code < target then { writing with delta := writing.delta + 1 }
  else if code = target then
    { writing with
      output := writing.output ++ writeNumber writing.delta 36 writing.bias
      bias := adapt writing.delta (writing.count + 1) (writing.count == base)
      delta := 0
      count := writing.count + 1 }
  else writing

/-- Writes all occurrences of a code point. -/
def Writing.insert (base : Nat) (label : List Nat) (writing : Writing) (target : Nat) : Writing :=
  let moved :=
    { writing with delta := writing.delta + (target - writing.code) * (writing.count + 1) }
  let passed := label.foldl (Writing.pass base target) moved
  { passed with delta := passed.delta + 1, code := target + 1 }

/-- Puts a code point into a sorted list without repetition. -/
def insertSorted (code : Nat) : List Nat → List Nat
  | [] => [code]
  | first :: rest =>
    if code < first then code :: first :: rest
    else if code = first then first :: rest
    else first :: insertSorted code rest

/-- The ASCII form of a label, without its mark. -/
def encode? (label : List Nat) : Option (List Nat) :=
  if writeLimit < label.length then none
  else
    let basic := label.filter (· < 0x80)
    let others := (label.filter (0x80 ≤ ·)).foldr insertSorted []
    let output := if basic.isEmpty then [] else basic ++ [0x2D]
    some (others.foldl (Writing.insert basic.length label)
      ⟨output, 0x80, 0, 72, basic.length⟩).output

end GatewayOperator.Url.Punycode
