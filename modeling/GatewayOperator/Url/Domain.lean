/-
This file brings host names into their ASCII form. The characters of a name are mapped and
composed, its labels are checked, and a label with characters outside ASCII is written in ASCII
behind a mark. A name whose labels are checked only in part would stand for two different
hosts, so a label that carries the mark already is read and checked like the others.
-/

import GatewayOperator.Unicode.Bidi
import GatewayOperator.Unicode.HostMapping
import GatewayOperator.Unicode.Joining
import GatewayOperator.Unicode.Marks
import GatewayOperator.Url.Punycode

namespace GatewayOperator.Url

open GatewayOperator.Unicode

/-- The ASCII characters that may not stand in a host name: blanks, control characters, and what
has a meaning of its own in an address. -/
def isDenied (code : Nat) : Bool :=
  code ≤ 0x20 || code == 0x7F || "%#/:<>?@[\\]^|".toList.any (·.toNat == code)

/-- The mark of a label that is written in ASCII. -/
def labelMark : List Nat := [0x78, 0x6E, 0x2D, 0x2D]

/-- Splits a name into its labels. -/
def splitLabels : List Nat → List (List Nat)
  | [] => [[]]
  | code :: rest =>
    match splitLabels rest with
    | [] => [[code]]
    | label :: labels => if code = 0x2E then [] :: label :: labels else (code :: label) :: labels

/-- The labels as one name. -/
def joinLabels : List (List Nat) → List Nat
  | [] => []
  | [label] => label
  | label :: labels => label ++ 0x2E :: joinLabels labels

/-- Maps the code points of a name. -/
def mapName? (name : List Nat) : Option (List Nat) := (name.mapM mapHostCode?).map List.flatten

/-- Whether a label is of ASCII characters. -/
def isAscii (label : List Nat) : Bool := label.all (· < 0x80)

/-- Reads a label that carries the mark; it has to be one that could not do without. -/
def readMarked? (label : List Nat) : Option (List Nat) := do
  let decoded ← Punycode.decode? label
  if !isAscii decoded && decoded.all isHostCode && normalForm decoded == decoded then
    return decoded
  else
    none

/-- The code points a label stands for. -/
def readLabel? (label : List Nat) : Option (List Nat) :=
  if labelMark.isPrefixOf label then readMarked? (label.drop 4) else some label

/-- Whether a label is in order by itself: it does not start with a mark on another character,
its joiners stand where they may, and none of its characters is denied. -/
def isValidLabel (label : List Nat) : Bool :=
  label.all (fun code => !isDenied code) &&
    (isAscii label || (!(label.head?.any isMark) && keepsJoiners [] label))

/-- Whether the labels of a name keep the rule of directions. -/
def keepsDirections (labels : List (List Nat)) : Bool :=
  !(labels.any fun label => !isAscii label && label.any runsRightToLeft) ||
    labels.all keepsDirection

/-- The ASCII form of a label. -/
def writeLabel? (label : List Nat) : Option (List Nat) :=
  if isAscii label then some label else (Punycode.encode? label).map (labelMark ++ ·)

/-- The ASCII form of a name; nothing if the name is not allowed. -/
def toAscii? (name : List Nat) : Option (List Nat) := do
  let mapped ← mapName? name
  let labels ← (splitLabels (normalForm mapped)).mapM readLabel?
  if labels.all isValidLabel && keepsDirections labels then
    let written ← labels.mapM writeLabel?
    return joinLabels written
  else
    none

end GatewayOperator.Url
