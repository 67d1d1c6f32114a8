/-
This file says why a JSON value cannot be read as a value of a type. An error names what was
found and what was expected; its text is what a user sees who wrote the value by hand.
-/

import GatewayOperator.Json.Printer
import GatewayOperator.Text.Quoted

namespace GatewayOperator

/-- Why a JSON value cannot be read. -/
inductive DecodeError where
  /-- A value of another type stands there. -/
  | invalidType (found : String) (expected : String)
  /-- A value of the right type that is not allowed. -/
  | invalidValue (found : String) (expected : String)
  /-- A name that is none of the alternatives. -/
  | unknownVariant (name : String) (alternatives : List String)
  /-- A member that has to be there is absent. -/
  | missingField (name : String)
  /-- A member stands there twice. -/
  | duplicateField (name : String)
  /-- A sequence has too few or too many elements. -/
  | invalidLength (length : Nat) (expected : String)
  deriving DecidableEq

namespace DecodeError

/-- A name between back quotes. -/
def ticked (name : String) : String := "`" ++ name ++ "`"

/-- The alternatives as a phrase. -/
def phrase : List String → String
  | [] => "there are no variants"
  | [only] => "expected " ++ ticked only
  | [first, second] => "expected " ++ ticked first ++ " or " ++ ticked second
  | several => "expected one of " ++ ", ".intercalate (several.map ticked)

/-- The text of the error. -/
def message : DecodeError → String
  | invalidType found expected => "invalid type: " ++ found ++ ", expected " ++ expected
  | invalidValue found expected => "invalid value: " ++ found ++ ", expected " ++ expected
  | unknownVariant name alternatives =>
    "unknown variant " ++ ticked name ++ ", " ++ phrase alternatives
  | missingField name => "missing field " ++ ticked name
  | duplicateField name => "duplicate field " ++ ticked name
  | invalidLength length expected =>
    "invalid length " ++ toString length ++ ", expected " ++ expected

end DecodeError

/-- What an error message says of a value that was found. -/
def Json.describe : Json → String
  | null => "null"
  | boolean true => "boolean `true`"
  | boolean false => "boolean `false`"
  | integer value => "integer " ++ DecodeError.ticked (integer value).print
  | float value => "floating point " ++ DecodeError.ticked (float value).print
  | string value => "string " ++ Text.quote value
  | array _ => "sequence"
  | object _ => "map"
  | faulty => "nothing"

/-- A value of another type than the expected one. -/
def Json.mismatch (found : Json) (expected : String) : DecodeError :=
  .invalidType found.describe expected

end GatewayOperator
