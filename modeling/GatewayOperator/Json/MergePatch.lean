/-
This file applies merge patches. A patch that is an object changes the members it names: `null`
removes a member, an object patches it in turn, and any other value replaces it. A patch that is
no object replaces the whole value.
-/

import GatewayOperator.Json.Basic

namespace GatewayOperator.Json

mutual

/-- The value after a patch. -/
def mergePatch (target : Json) : Json → Json
  | object changes => object (mergeMembers (Map.ofList (target.members?.getD [])) changes).entries
  | patch => patch

/-- The members of an object after the changes of a patch. -/
def mergeMembers (members : Map Json) : List (String × Json) → Map Json
  | [] => members
  | (name, change) :: rest =>
    match change with
    | null => mergeMembers (members.erase name) rest
    | change =>
      mergeMembers (members.insert name (mergePatch ((members.get? name).getD null) change)) rest

end

end GatewayOperator.Json
