/-
This file reads bytes as text. Well-formed UTF-8 becomes the characters it encodes, and every
maximal ill-formed part becomes one replacement character, so reading never fails: a byte
sequence that breaks off is replaced once, and the byte that broke it is read afresh.
-/

namespace GatewayOperator.Text.Utf8

/-- The character that stands for what cannot be read. -/
def replacement : Char := '\uFFFD'

/-- A character of several bytes that has begun: how many bytes are still due, the bits read so
far, and the range the next byte has to lie in. -/
structure Pending where
  due : Nat
  bits : Nat
  lowest : Nat
  highest : Nat

/-- What the first byte of a character says. -/
inductive Lead where
  | complete (character : Char)
  | begun (pending : Pending)
  | invalid

/-- Reads the first byte of a character. The ranges of the second byte exclude overlong forms,
surrogates and values beyond the last code point. -/
def lead (byte : Nat) : Lead :=
  if byte < 0x80 then .complete (Char.ofNat byte)
  else if byte < 0xC2 then .invalid
  else if byte < 0xE0 then .begun ⟨1, byte - 0xC0, 0x80, 0xBF⟩
  else if byte < 0xF0 then
    .begun ⟨2, byte - 0xE0, if byte = 0xE0 then 0xA0 else 0x80,
      if byte = 0xED then 0x9F else 0xBF⟩
  else if byte < 0xF5 then
    .begun ⟨3, byte - 0xF0, if byte = 0xF0 then 0x90 else 0x80,
      if byte = 0xF4 then 0x8F else 0xBF⟩
  else .invalid

/-- Starts a character at a byte: what is written at once, and what is then pending. -/
def start (byte : Nat) : List Char × Option Pending :=
  match lead byte with
  | .complete character => ([character], none)
  | .begun pending => ([], some pending)
  | .invalid => ([replacement], none)

/-- Reads one byte. A byte that does not continue the pending character replaces it and starts
the next one. -/
def step (pending : Option Pending) (byte : Nat) : List Char × Option Pending :=
  match pending with
  | none => start byte
  | some pending =>
    if pending.lowest ≤ byte ∧ byte ≤ pending.highest then
      let bits := pending.bits * 64 + (byte - 0x80)
      if pending.due ≤ 1 then ([Char.ofNat bits], none)
      else ([], some ⟨pending.due - 1, bits, 0x80, 0xBF⟩)
    else
      let (written, next) := start byte
      (replacement :: written, next)

/-- Reads the rest of the bytes after a pending character. -/
def decodeFrom (pending : Option Pending) : List UInt8 → List Char
  | [] => if pending.isSome then [replacement] else []
  | byte :: rest =>
    let (written, next) := step pending byte.toNat
    written ++ decodeFrom next rest

/-- The text of a byte sequence. -/
def decode (bytes : List UInt8) : List Char :=
  decodeFrom none bytes

/-- The bytes of a text. -/
def encode (text : List Char) : List UInt8 :=
  text.flatMap String.utf8EncodeChar

end GatewayOperator.Text.Utf8
