/-
This file reads and writes the address of a socket: a numeric address of version 4 or 6 and a
port. An address of version 6 stands in brackets and may name the interface it belongs to. Names
of hosts are not addresses, so nothing has to be looked up to use one.
-/

import GatewayOperator.Decimal.Text
import GatewayOperator.Url.Address

namespace GatewayOperator

open GatewayOperator.Text GatewayOperator.Url

/-- A numeric address: the four bytes of version 4, or the eight groups of version 6 with the
number of the interface, which is zero when none is named. -/
inductive NetworkAddress where
  | v4 (bytes : List Nat)
  | v6 (groups : List Nat) (interface : Nat)
  deriving DecidableEq

/-- The address of a socket. -/
structure SocketAddress where
  host : NetworkAddress
  port : Nat
  deriving DecidableEq

namespace SocketAddress

/-! ### Reading -/

/-- A decimal number below a bound. Leading zeros are passed over. -/
def boundedNumber? (bound : Nat) (digits : List Char) : Option Nat :=
  if digits.isEmpty then none
  else (digitsValue? 10 digits).filter (· < bound)

/-- The number of a port. -/
def port? (digits : List Char) : Option Nat := boundedNumber? UInt16.size digits

/-- A group of an address of version 6: up to four hexadecimal digits. -/
def group? (digits : List Char) : Option Nat :=
  if digits.isEmpty || 4 < digits.length then none else digitsValue? 16 digits

/-- The groups of some parts. The last part may stand for two groups in the notation of
version 4. -/
def groups? : List (List Char) → Option (List Nat)
  | [] => some []
  | [last] =>
    if last.contains '.' then dottedParts? last else (group? last).map ([·])
  | part :: parts => do
    let group ← group? part
    let groups ← groups? parts
    return group :: groups

/-- The groups on one side of a gap, which may be none. -/
def side? : List Char → Option (List Nat)
  | [] => some []
  | text => groups? (splitAt ':' text)

/-- The texts before and after the first gap. -/
def splitAtGap? : List Char → Option (List Char × List Char)
  | ':' :: ':' :: rest => some ([], rest)
  | character :: rest => (splitAtGap? rest).map fun (before, after) => (character :: before, after)
  | [] => none

/-- The eight groups of an address. A gap stands for at least one group of zero, and the notation
of version 4 is for the end of the address only. -/
def addressGroups? (text : List Char) : Option (List Nat) :=
  match splitAtGap? text with
  | none => (groups? (splitAt ':' text)).filter (·.length = 8)
  | some (before, after) => do
    let leading ← if before.contains '.' then none else side? before
    let trailing ← side? after
    if leading.length + trailing.length ≤ 7 then
      return leading ++ List.replicate (8 - (leading.length + trailing.length)) 0 ++ trailing
    else none

/-- An address of version 6 with the interface behind a percent sign. -/
def bracketed? (text : List Char) : Option NetworkAddress :=
  match splitAt '%' text with
  | [address] => (addressGroups? address).map fun groups => .v6 groups 0
  | [address, interface] => do
    let groups ← addressGroups? address
    let interface ← boundedNumber? UInt32.size interface
    return .v6 groups interface
  | _ => none

/-- Reads an address of version 6 behind its opening bracket. -/
def readBracketed? (text : List Char) : Option SocketAddress :=
  match splitAt ']' text with
  | [address, ':' :: port] => do
    let host ← bracketed? address
    let port ← port? port
    return ⟨host, port⟩
  | _ => none

/-- Reads an address of version 4. -/
def readDotted? (text : List Char) : Option SocketAddress :=
  match splitAt ':' text with
  | [address, port] => do
    let bytes ← (splitAt '.' address).mapM octet?
    let port ← port? port
    if bytes.length = 4 then
      return ⟨.v4 bytes, port⟩
    else none
  | _ => none

/-- Reads the address of a socket. -/
def read? (text : String) : Option SocketAddress :=
  match text.toList with
  | '[' :: rest => readBracketed? rest
  | characters => readDotted? characters

/-! ### Writing -/

/-- Bytes with dots between them. -/
def dottedText (bytes : List Nat) : String :=
  ".".intercalate (bytes.map fun (byte : Nat) => Decimal.integerText byte)

/-- Groups with colons between them. -/
def groupsText (groups : List Nat) : String :=
  ":".intercalate (groups.map fun group => String.ofList (Nat.toDigits 16 group))

/-- The length of the run of zeros at the start. -/
def zeroRun (groups : List Nat) : Nat := (groups.takeWhile (· = 0)).length

/-- The start and the length of the first of the longest runs of zeros, looked for behind as many
groups as `position` says. -/
def longestZeroRun (position : Nat) : List Nat → Nat × Nat
  | [] => (position, 0)
  | group :: rest =>
    let later := longestZeroRun (position + 1) rest
    let here := zeroRun (group :: rest)
    if later.2 ≤ here then (position, here) else later

/-- The text of eight groups. The longest run of zeros is left out unless it is a single one, and
an address that stands for one of version 4 shows it. -/
def addressText (groups : List Nat) : String :=
  match groups with
  | [0, 0, 0, 0, 0, 65535, high, low] =>
    "::ffff:" ++ dottedText [high / 256, high % 256, low / 256, low % 256]
  | _ =>
    let (start, length) := longestZeroRun 0 groups
    if 1 < length then
      groupsText (groups.take start) ++ "::" ++ groupsText (groups.drop (start + length))
    else groupsText groups

/-- The text of a numeric address as it stands before a port. -/
def hostText : NetworkAddress → String
  | .v4 bytes => dottedText bytes
  | .v6 groups interface =>
    let scope := if interface = 0 then "" else "%" ++ Decimal.integerText interface
    "[" ++ addressText groups ++ scope ++ "]"

/-- The text of the address of a socket. -/
def text (address : SocketAddress) : String :=
  hostText address.host ++ ":" ++ Decimal.integerText address.port

end SocketAddress

end GatewayOperator
