/-
This file holds JSON values. The members of an object stand in the order of the document and may
repeat a name, since a reader has to see the first of two faults and may refuse a repetition. The
normal form sorts the members and keeps the last of those with one name. A number is an integer
when it is written as one and fits into 64 bits, and a floating-point number otherwise. A document
may hold parts that are well written and stand for nothing; they have a value of their own, which
is read as no value of any type, so they matter only to a reader that looks at them.
-/

import GatewayOperator.Map

namespace GatewayOperator

/-- A JSON value. -/
inductive Json where
  | null
  | boolean (value : Bool)
  | integer (value : Int)
  | float (value : Float)
  | string (value : String)
  | array (elements : List Json)
  | object (members : List (String × Json))
  /-- What is written stands for nothing: a number beyond the range of numbers, a text with half
  of a pair of units, or an object with such a name. -/
  | faulty
  deriving Inhabited

namespace Json

/-- The last member of a name among the members of an object. -/
def lastMember (name : String) : List (String × Json) → Option Json
  | [] => none
  | (key, value) :: rest =>
    match lastMember name rest with
    | some later => some later
    | none => if key = name then some value else none

/-- The member of a name of an object; nothing for the other values. -/
def member? (name : String) : Json → Option Json
  | object members => lastMember name members
  | _ => none

/-- The text of a string; nothing for the other values. -/
def string? : Json → Option String
  | string value => some value
  | _ => none

/-- The elements of an array; nothing for the other values. -/
def elements? : Json → Option (List Json)
  | array elements => some elements
  | _ => none

/-- The members of an object; nothing for the other values. -/
def members? : Json → Option (List (String × Json))
  | object members => some members
  | _ => none

/-- Sorts members by name and keeps the last of those with one name. -/
def sortMembers (members : List (String × Json)) : List (String × Json) :=
  (Map.ofList members).entries

mutual

/-- The normal form of a value: at every depth the members of an object are sorted, and of those
with one name the last is kept. -/
def normalize : Json → Json
  | array elements => array (normalizeElements elements)
  | object members => object (sortMembers (normalizeMembers members))
  | null => null
  | boolean value => boolean value
  | integer value => integer value
  | float value => float value
  | string value => string value
  | faulty => faulty

/-- The normal forms of the elements of an array. -/
def normalizeElements : List Json → List Json
  | [] => []
  | element :: rest => element.normalize :: normalizeElements rest

/-- The members of an object with their values in normal form. -/
def normalizeMembers : List (String × Json) → List (String × Json)
  | [] => []
  | (name, value) :: rest => (name, value.normalize) :: normalizeMembers rest

end

end Json

end GatewayOperator
