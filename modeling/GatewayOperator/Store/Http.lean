/-
This file uses the interface of the cluster as a store. A call is turned into a request, and the
response into the answer: a failure that the cluster describes is read as one of the errors of a
store where it is one, and any other response has to be the object itself.
-/

import GatewayOperator.Cluster.Failure
import GatewayOperator.Http.Message
import GatewayOperator.Store.Program

namespace GatewayOperator

/-! ### Requests -/

/-- The name by which the operator signs what it writes. -/
def fieldManager : String := "apicast-operator"

/-- The parameters of a write. -/
def writeQuery : String := "?&fieldManager=" ++ fieldManager

/-- The path of the objects of a kind in a namespace. -/
def Kind.collectionPath (kind : Kind) (namespaceName : String) : String :=
  kind.groupPath ++ "/namespaces/" ++ namespaceName ++ "/" ++ kind.plural

/-- The path of an object. -/
def Kind.objectPath (kind : Kind) (name : ObjectName) : String :=
  kind.collectionPath name.namespaceName ++ "/" ++ name.name

/-- The patch that writes the status of a gateway. -/
def statusPatch (status : Option GatewayStatus) : Json :=
  .object [("status", match status with
    | none => .null
    | some status => GatewayStatus.codec.write status)]

namespace Call

/-- The name of the object of a call; nothing if it has none. -/
def objectName? : Call → Option ObjectName
  | get _ namespaceName name => some ⟨namespaceName, name⟩
  | create kind object => kind.objectName? object
  | update kind object => kind.objectName? object
  | updateStatus gateway => Kind.gateway.objectName? gateway

/-- Whether the name of the object stands in the target. -/
def namesObject : Call → Bool
  | create .. => false
  | _ => true

/-- The request for a call, with a target that is still to be checked. -/
def draft (name : ObjectName) : Call → Http.Request
  | get kind _ _ => ⟨.get, kind.objectPath name, none, none⟩
  | create kind object =>
    ⟨.post, kind.collectionPath name.namespaceName ++ writeQuery, some "application/json",
      some (kind.codec.write object)⟩
  | update kind object =>
    ⟨.put, kind.objectPath name ++ writeQuery, some "application/json",
      some (kind.codec.write object)⟩
  | updateStatus gateway =>
    ⟨.patch, Kind.gateway.objectPath name ++ "/status?", some "application/merge-patch+json",
      some (statusPatch gateway.status)⟩

/-- The request for a call about the object of a name. An empty name would make the target that
of all objects, so it is refused. -/
def request? (call : Call) (name : ObjectName) : Option Http.Request :=
  if call.namesObject && name.name.isEmpty then none
  else
    let request := call.draft name
    (Http.target? request.target).map fun target => { request with target }

end Call

/-! ### Responses -/

/-- The failure that a response tells. A body that does not describe one is its message. -/
def Http.Response.failure (response : Http.Response) : ApiFailure :=
  match response.body.document?.map FailureStatus.codec.read with
  | some (.ok status) => .status status
  | _ => .status (.unreadable response.status response.body.content)

/-- Reads the object of a response. -/
def Http.Response.read {Value : Type} (codec : Codec Value) (response : Http.Response) :
    Except ApiFailure Value :=
  if response.isFailure then .error response.failure
  else
    match response.body.document?.map codec.read with
    | some (.ok value) => .ok value
    | _ => .error .unreadable

/-- The answer to a call that a response makes. -/
def Call.interpret (call : Call) (name : ObjectName) (response : Option Http.Response) :
    call.Answer :=
  let result : Except ApiFailure call.kind.Object := match response with
    | none => .error .transport
    | some response => response.read call.kind.codec
  result.mapError fun failure =>
    .ofApiFailure failure call.kind.label name.namespaceName name.name

/-- The interface of the cluster as a store. -/
def Http.Server.store {State : Type} (server : Http.Server State) : Store State where
  answer call state :=
    match call.objectName? with
    | none => (.error (.missingName call.kind.label), state)
    | some name =>
      match call.request? name with
      | none => (.error (.api .invalidRequest), state)
      | some request =>
        let (response, state) := server.answer request state
        (call.interpret name response, state)

end GatewayOperator
