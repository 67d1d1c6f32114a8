/-
This file writes JSON values without any blank between their parts. A quote, a backslash and the
control characters are escaped, and every other character stands for itself. A faulty value has
no text of its own and is written as `null`.
-/

import GatewayOperator.Json.Basic
import GatewayOperator.Decimal.Text

namespace GatewayOperator.Json

/-- A hexadecimal digit in lower case. -/
def hexDigit (value : Nat) : Char :=
  if value < 10 then Char.ofNat ('0'.toNat + value) else Char.ofNat ('a'.toNat + (value - 10))

/-- A character inside a string. -/
def escapeCharacter (character : Char) : List Char :=
  match character with
  | '"' => ['\\', '"']
  | '\\' => ['\\', '\\']
  | '\x08' => ['\\', 'b']
  | '\t' => ['\\', 't']
  | '\n' => ['\\', 'n']
  | '\x0c' => ['\\', 'f']
  | '\r' => ['\\', 'r']
  | character =>
    if character.toNat < 0x20 then
      ['\\', 'u', '0', '0', hexDigit (character.toNat / 16), hexDigit (character.toNat % 16)]
    else [character]

/-- A string with its quotes. -/
def writeString (text : String) : List Char :=
  '"' :: text.toList.flatMap escapeCharacter ++ ['"']

mutual

/-- The characters of a value. -/
def write : Json → List Char
  | null => "null".toList
  | boolean true => "true".toList
  | boolean false => "false".toList
  | integer value => Decimal.writeInteger value
  | float value => Decimal.writeDocument value
  | string value => writeString value
  | faulty => "null".toList
  | array [] => ['[', ']']
  | array (first :: rest) => '[' :: first.write ++ writeElements rest
  | object [] => ['\x7b', '\x7d']
  | object ((name, value) :: rest) =>
    '\x7b' :: writeString name ++ ':' :: value.write ++ writeMembers rest

/-- The further elements of an array and its end. -/
def writeElements : List Json → List Char
  | [] => [']']
  | element :: rest => ',' :: element.write ++ writeElements rest

/-- The further members of an object and its end. -/
def writeMembers : List (String × Json) → List Char
  | [] => ['\x7d']
  | (name, value) :: rest => ',' :: writeString name ++ ':' :: value.write ++ writeMembers rest

end

/-- The text of a value. -/
def print (value : Json) : String := String.ofList value.write

end GatewayOperator.Json
