/-
This file writes JSON values as YAML documents. Every member and every element takes a line of
its own, and what belongs to it is indented by two columns below it. The elements of an array
stand below the key they belong to without any further indentation, since their dashes set them
off.
-/

import GatewayOperator.Yaml.Scalar

namespace GatewayOperator.Yaml

mutual

/-- The lines of a value. -/
def valueLines : Json → List String
  | .string text => scalarLines text
  | .array (first :: rest) => elementLines (first :: rest)
  | .object (first :: rest) => memberLines (first :: rest)
  | .null => [Json.print .null]
  | .faulty => [Json.print .faulty]
  | .boolean value => [Json.print (.boolean value)]
  | .integer value => [Json.print (.integer value)]
  | .float value => [Json.print (.float value)]
  | .array [] => [Json.print (.array [])]
  | .object [] => [Json.print (.object [])]

/-- The lines of the elements of an array. -/
def elementLines : List Json → List String
  | [] => []
  | element :: rest => placeElement element (valueLines element) ++ elementLines rest

/-- The lines of the members of an object. -/
def memberLines : List (String × Json) → List String
  | [] => []
  | (key, value) :: rest => placeMember key value (valueLines value) ++ memberLines rest

/-- The lines of an element behind its dash. The lines of a text are indented already. -/
def placeElement (element : Json) (lines : List String) : List String :=
  match element, lines with
  | _, [] => []
  | .string _, first :: rest => ("- " ++ first) :: rest
  | _, first :: rest => ("- " ++ first) :: rest.map indent

/-- The lines of a member behind its key. -/
def placeMember (key : String) (value : Json) (lines : List String) : List String :=
  match value, lines with
  | .array (_ :: _), lines => (keyText key ++ ":") :: lines
  | .object (_ :: _), lines => (keyText key ++ ":") :: lines.map indent
  | _, [] => []
  | _, first :: rest => (keyText key ++ ": " ++ first) :: rest

end

/-- The document of a value: its lines, each with a break at its end. -/
def document (value : Json) : String :=
  String.join ((valueLines value).map (· ++ "\n"))

end GatewayOperator.Yaml
