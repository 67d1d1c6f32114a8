/-
This file holds the schemas by which the cluster checks the objects of a resource, and their JSON
form. A schema says what a value is and describes it for a reader.
-/

import GatewayOperator.Json.Basic

namespace GatewayOperator.Definition

/-- What is said of a value whatever it is: a description for the reader, and whether it may be
`null`. -/
structure Facet where
  description : Option String := none
  nullable : Bool := false

/-- What a value may be. -/
inductive Schema where
  | text (facet : Facet)
  | truth (facet : Facet)
  /-- An integer of a format, with the least value allowed. -/
  | integer (facet : Facet) (format : String) (minimum : Option Float)
  /-- One of some words; `null` may be listed among them. -/
  | choice (facet : Facet) (words : List String) (listsNull : Bool)
  /-- Values of one schema. The list may be empty when it is left out. -/
  | list (facet : Facet) (items : Schema) (emptyByDefault : Bool)
  /-- Members with their schemas. Those that are marked have to be there. -/
  | record (facet : Facet) (members : List (String × Bool × Schema))

namespace Schema

/-- The members that tell a facet. -/
def facetMembers (facet : Facet) : List (String × Json) :=
  (facet.description.toList.map fun description => ("description", .string description)) ++
    if facet.nullable then [("nullable", .boolean true)] else []

/-- The member that tells the type of a value. -/
def typeMember (word : String) : String × Json := ("type", .string word)

/-- The names of the members that have to be there, in the order of the alphabet. -/
def requiredNames (members : List (String × Bool × Schema)) : List String :=
  ((members.filter fun (_, required, _) => required).map fun (name, _, _) => name).mergeSort

/-- The member that tells which members have to be there; nothing if none has to. -/
def requiredMember (members : List (String × Bool × Schema)) : List (String × Json) :=
  match requiredNames members with
  | [] => []
  | names => [("required", .array (names.map .string))]

mutual

/-- The JSON form of a schema. -/
def json : Schema → Json
  | text facet => .object (facetMembers facet ++ [typeMember "string"])
  | truth facet => .object (facetMembers facet ++ [typeMember "boolean"])
  | integer facet format minimum =>
    .object (facetMembers facet ++ [("format", .string format)] ++
      (minimum.toList.map fun least => ("minimum", .float least)) ++ [typeMember "integer"])
  | choice facet words listsNull =>
    let alternatives := words.map Json.string ++ if listsNull then [.null] else []
    .object (facetMembers facet ++ [("enum", .array alternatives), typeMember "string"])
  | list facet items emptyByDefault =>
    .object (facetMembers facet ++ (if emptyByDefault then [("default", .array [])] else []) ++
      [("items", items.json), typeMember "array"])
  | record facet members =>
    .object (facetMembers facet ++ [("properties", .object (propertyMembers members))] ++
      requiredMember members ++ [typeMember "object"])

/-- The JSON forms of the schemas of members. -/
def propertyMembers : List (String × Bool × Schema) → List (String × Json)
  | [] => []
  | (name, _, schema) :: rest => (name, schema.json) :: propertyMembers rest

end

end Schema

end GatewayOperator.Definition
