/-
This file lays out values for diagnostics. A record is its name and its fields in order, each
behind its name; a value that may be absent says which it is; the elements of a list stand
between brackets.
-/

import GatewayOperator.Text.Quoted

namespace GatewayOperator.Text

/-- A record with its fields. -/
def describeRecord (name : String) (fields : List (String × String)) : String :=
  name ++ " \x7b " ++ ", ".intercalate (fields.map fun field => field.1 ++ ": " ++ field.2) ++
    " \x7d"

/-- A value that may be absent. -/
def describeOption {Value : Type} (describe : Value → String) : Option Value → String
  | none => "None"
  | some value => "Some(" ++ describe value ++ ")"

/-- A list. -/
def describeList {Value : Type} (describe : Value → String) (values : List Value) : String :=
  "[" ++ ", ".intercalate (values.map describe) ++ "]"

end GatewayOperator.Text
