/-
This file serves a store in memory over the interface of the cluster. The target of a request
names a kind, a namespace and mostly an object, and the method says which call it stands for. A
call that fails is answered with a status that tells its error, so that a store behind the
interface and the store in memory answer alike.
-/

import GatewayOperator.Json.MergePatch
import GatewayOperator.Store.Http
import GatewayOperator.Store.Memory

namespace GatewayOperator

/-! ### Routes -/

/-- All kinds of objects. -/
def Kind.all : List Kind :=
  [.gateway, .deployment, .service, .ingress, .secret, .configMap, .coreEvent, .event]

/-- What the target of a request names: all objects of a kind in a namespace, one of them, or
the status of one. -/
inductive Route where
  | collection (kind : Kind) (namespaceName : String)
  | object (kind : Kind) (name : ObjectName)
  | status (kind : Kind) (name : ObjectName)

namespace Route

/-- The route of the parts of a path behind the word for namespaces. -/
def ofParts? (kind : Kind) : List String → Option Route
  | [namespaceName, plural] =>
    if plural = kind.plural then some (collection kind namespaceName) else none
  | [namespaceName, plural, name] =>
    if plural = kind.plural then some (object kind ⟨namespaceName, name⟩) else none
  | [namespaceName, plural, name, "status"] =>
    if plural = kind.plural then some (status kind ⟨namespaceName, name⟩) else none
  | _ => none

/-- The path of a kind up to the namespace. -/
def stem (kind : Kind) : List Char := (kind.groupPath ++ "/namespaces/").toList

/-- The route of a path, if it is one of the kind. -/
def ofPath? (path : List Char) (kind : Kind) : Option Route := do
  let rest ← (stem kind).isPrefixOf? path
  ofParts? kind ((Text.splitAt '/' rest).map String.ofList)

/-- The route of a target. -/
def ofTarget? (target : String) : Option Route :=
  Kind.all.findSome? (ofPath? (target.toList.takeWhile (· != '?')))

end Route

/-! ### Responses -/

/-- The status that tells an error. -/
def StoreError.status : StoreError → FailureStatus
  | notFound kind namespaceName name =>
    { status := some .failure, code := 404, reason := "NotFound"
      message := (StoreError.notFound kind namespaceName name).message }
  | alreadyExists kind namespaceName name =>
    { status := some .failure, code := 409, reason := "AlreadyExists"
      message := (StoreError.alreadyExists kind namespaceName name).message }
  | conflict _ _ _ cause =>
    { status := some .failure, code := 409, reason := "Conflict", message := cause }
  | error =>
    { status := some .failure, code := 500, reason := "InternalError", message := error.message }

/-- The response that carries a status. -/
def FailureStatus.response (status : FailureStatus) : Http.Response :=
  ⟨status.code.toNat, .document (FailureStatus.codec.write status)⟩

/-- The response to a request that stands for no call. -/
def Http.Response.unknown : Http.Response :=
  FailureStatus.response
    { status := some .failure, code := 404, reason := "NotFound", message := "page not found" }

/-- The response to a request whose body is not an object of the kind. -/
def Http.Response.malformed : Http.Response :=
  FailureStatus.response
    { status := some .failure, code := 400, reason := "BadRequest", message := "malformed body" }

/-- The response that carries the answer to a call. -/
def Http.Response.ofAnswer (kind : Kind) : Except StoreError kind.Object → Http.Response
  | .ok object => ⟨200, .document (kind.codec.write object)⟩
  | .error cause => cause.status.response

/-- A request that was served: the response, the object that was written, and the store. -/
structure Served where
  response : Http.Response
  written : Option Stored
  memory : Memory

namespace Memory

/-- Serves a request that writes: the object of its body goes into a call. -/
def serveWrite (kind : Kind) (body : Option Json) (memory : Memory)
    (call : kind.Object → Memory → Except StoreError kind.Object × Memory) : Served :=
  match body.map kind.codec.read with
  | some (.ok object) =>
    let (answer, after) := call object memory
    ⟨.ofAnswer kind answer, answer.toOption.map fun written => ⟨kind, written⟩, after⟩
  | _ => ⟨.malformed, none, memory⟩

/-- Serves a patch of the status of a gateway: the patched gateway goes into a call. -/
def serveStatus (name : ObjectName) (patch : Option Json) (memory : Memory) : Served :=
  match memory.get .gateway name with
  | .error cause => ⟨cause.status.response, none, memory⟩
  | .ok stored =>
    memory.serveWrite .gateway (patch.map (Gateway.codec.write stored).mergePatch) updateStatus

/-- Serves a request. -/
def serve (request : Http.Request) (memory : Memory) : Served :=
  match request.method, Route.ofTarget? request.target with
  | .get, some (.object kind name) => ⟨.ofAnswer kind (memory.get kind name), none, memory⟩
  | .post, some (.collection kind _) =>
    memory.serveWrite kind request.body fun object memory => memory.create kind object
  | .put, some (.object kind _) =>
    memory.serveWrite kind request.body fun object memory => memory.update kind object
  | .patch, some (.status .gateway name) => memory.serveStatus name request.body
  | _, _ => ⟨.unknown, none, memory⟩

/-- The store in memory as a server. -/
def server : Http.Server Memory where
  answer request memory :=
    let served := memory.serve request
    (some served.response, served.memory)

end Memory

end GatewayOperator
