/-
This file says which servers serve the objects of a store in memory, and that a store in front of
such a server answers as the memory does. A faithful server applies to its objects what a request
asks for: it reads, creates, updates behind the guard of the version, or patches the status of a
gateway, and it tells the object or the error that comes of it. Nothing is assumed of any other
request, nor of how an error is told that a store in front of a server does not know. A memory makes
no such error of a kind that shares its word with no other, since only objects of the kind are found
in its places.
-/

import GatewayOperator.Proofs.Gateway.StatusPatch
import GatewayOperator.Proofs.Store.Reachable
import GatewayOperator.Proofs.Store.Routes

namespace GatewayOperator

/-! ### What a response tells -/

/-- A response describes a failure. -/
structure Http.Response.Describes (response : Http.Response) (status : FailureStatus) : Prop where
  failure : response.isFailure = true
  document : ∃ json, response.body.document? = some json ∧
    FailureStatus.codec.read json = .ok status

/-- A response tells what came of a call: the object, or that the object is missing, taken or stale.
Any other error may be told in any way. -/
def Http.Response.Conveys (response : Http.Response) (kind : Kind) :
    Except StoreError kind.Object → Prop
  | .ok object => response.isFailure = false ∧
    ∃ json, response.body.document? = some json ∧ kind.codec.read json = .ok object
  | .error (.notFound ..) => ∃ status, response.Describes status ∧ status.code = 404
  | .error (.alreadyExists ..) =>
    ∃ status, response.Describes status ∧ status.code = 409 ∧ status.reason = "AlreadyExists"
  | .error (.conflict _ _ _ message) => ∃ status, response.Describes status ∧
    status.code = 409 ∧ status.reason = "Conflict" ∧ status.message = message
  | .error _ => True

/-- The errors that a store in front of a server knows, about the object of a name. -/
inductive StoreError.Tells (kind : Kind) (name : ObjectName) : StoreError → Prop where
  | notFound : Tells kind name (.notFound kind.label name.namespaceName name.name)
  | alreadyExists : Tells kind name (.alreadyExists kind.label name.namespaceName name.name)
  | conflict (message : String) :
    Tells kind name (.conflict kind.label name.namespaceName name.name message)

theorem Http.Response.failure_of_describes {response : Http.Response} {status : FailureStatus}
    (describes : response.Describes status) : response.failure = .status status := by
  obtain ⟨json, document, read⟩ := describes.document
  unfold Http.Response.failure
  rw [document, Option.map_some, read]

theorem Http.Response.read_of_describes {Value : Type} {codec : Codec Value}
    {response : Http.Response} {status : FailureStatus} (describes : response.Describes status) :
    response.read codec = .error (.status status) := by
  unfold Http.Response.read
  rw [describes.failure, if_pos rfl, failure_of_describes describes]

theorem Call.interpret_some (call : Call) (name : ObjectName) (response : Http.Response) :
    call.interpret name (some response) = (response.read call.kind.codec).mapError fun failure =>
      .ofApiFailure failure call.kind.label name.namespaceName name.name := rfl

/-- What a response tells of a call is read from it. -/
theorem Call.interpret_of_conveys {call : Call} {name : ObjectName} {response : Http.Response}
    {answer : call.Answer} (conveys : response.Conveys call.kind answer)
    (told : ∀ cause, answer = .error cause → cause.Tells call.kind name) :
    call.interpret name (some response) = answer := by
  rw [Call.interpret_some]
  cases answer with
  | ok object =>
    obtain ⟨success, json, document, read⟩ := conveys
    have isRead : response.read call.kind.codec = .ok object := by
      unfold Http.Response.read
      rw [success, document, Option.map_some, read]
      rfl
    rw [isRead]
    rfl
  | error cause =>
    cases told cause rfl with
    | notFound =>
      obtain ⟨status, describes, code⟩ := conveys
      rw [Http.Response.read_of_describes describes]
      exact congrArg Except.error (if_pos code)
    | alreadyExists =>
      obtain ⟨status, describes, code, reason⟩ := conveys
      simp only [Http.Response.read_of_describes describes, Except.mapError,
        StoreError.ofApiFailure, code, reason, if_true]
      rfl
    | conflict message =>
      obtain ⟨status, describes, code, reason, rfl⟩ := conveys
      simp only [Http.Response.read_of_describes describes, Except.mapError,
        StoreError.ofApiFailure, code, reason, if_true]
      rfl

/-! ### What a request asks for -/

/-- What comes of a request when it is applied to the objects of a memory: a request reads an
object, creates one that the body holds, replaces one by the body behind the guard of its version,
or patches the status of a gateway. -/
inductive Http.Request.Asks (request : Http.Request) (memory : Memory) :
    (kind : Kind) → Except StoreError kind.Object × Memory → Prop where
  | get {kind : Kind} {name : ObjectName} (method : request.method = .get)
    (route : Route.ofTarget? request.target = some (.object kind name)) :
    Asks request memory kind (memory.get kind name, memory)
  | post {kind : Kind} {namespaceName : String} {json : Json} {object : kind.Object}
    (method : request.method = .post)
    (route : Route.ofTarget? request.target = some (.collection kind namespaceName))
    (contentType : request.contentType = some "application/json")
    (body : request.body = some json) (read : kind.codec.read json = .ok object)
    (inNamespace : kind.namespaceName object = namespaceName) :
    Asks request memory kind (memory.create kind object)
  | put {kind : Kind} {name : ObjectName} {json : Json} {object : kind.Object}
    (method : request.method = .put)
    (route : Route.ofTarget? request.target = some (.object kind name))
    (contentType : request.contentType = some "application/json")
    (body : request.body = some json) (read : kind.codec.read json = .ok object)
    (named : kind.objectName? object = some name) :
    Asks request memory kind (memory.update kind object)
  | patchUnread {name : ObjectName} {cause : StoreError} (method : request.method = .patch)
    (route : Route.ofTarget? request.target = some (.status .gateway name))
    (contentType : request.contentType = some "application/merge-patch+json")
    (fails : memory.get .gateway name = .error cause) :
    Asks request memory .gateway (.error cause, memory)
  | patch {name : ObjectName} {change : Json} {stored patched : Gateway}
    (method : request.method = .patch)
    (route : Route.ofTarget? request.target = some (.status .gateway name))
    (contentType : request.contentType = some "application/merge-patch+json")
    (body : request.body = some change) (got : memory.get .gateway name = .ok stored)
    (read : Gateway.codec.read ((Gateway.codec.write stored).mergePatch change) = .ok patched)
    (named : Kind.gateway.objectName? patched = some name) :
    Asks request memory .gateway (memory.updateStatus patched)

/-- A server that applies requests to the objects of a memory and tells what comes of them. -/
def Http.Server.Faithful {State : Type} (server : Http.Server State) (memory : State → Memory) :
    Prop :=
  ∀ (state : State) (request : Http.Request) (kind : Kind)
    (answered : Except StoreError kind.Object × Memory),
    request.Asks (memory state) kind answered →
      ∃ response, (server.answer request state).1 = some response ∧
        response.Conveys kind answered.1 ∧ memory (server.answer request state).2 = answered.2

/-! ### The store in memory as a server -/

theorem FailureStatus.describes_response (status : FailureStatus)
    (failure : (FailureStatus.response status).isFailure = true) :
    (FailureStatus.response status).Describes status :=
  ⟨failure, _, rfl, FailureStatus.codec_lawful.read_write status⟩

theorem StoreError.conveys_response (kind : Kind) (cause : StoreError) :
    cause.status.response.Conveys kind (.error cause) := by
  cases cause with
  | notFound => exact ⟨_, FailureStatus.describes_response _ rfl, rfl⟩
  | alreadyExists => exact ⟨_, FailureStatus.describes_response _ rfl, rfl, rfl⟩
  | conflict => exact ⟨_, FailureStatus.describes_response _ rfl, rfl, rfl, rfl⟩
  | missingName | serialization | api => trivial

theorem Http.Response.ofAnswer_conveys (kind : Kind) (answer : Except StoreError kind.Object) :
    (Http.Response.ofAnswer kind answer).Conveys kind answer := by
  cases answer with
  | ok object => exact ⟨rfl, _, rfl, kind.codec_lawful.read_write object⟩
  | error cause => exact cause.conveys_response kind

theorem Memory.serveWrite_read {kind : Kind} {body : Option Json} {json : Json}
    {object : kind.Object} (isBody : body = some json) (read : kind.codec.read json = .ok object)
    (memory : Memory) (call : kind.Object → Memory → Except StoreError kind.Object × Memory) :
    (memory.serveWrite kind body call).response = .ofAnswer kind (call object memory).1 ∧
      (memory.serveWrite kind body call).memory = (call object memory).2 := by
  subst isBody
  simp only [Memory.serveWrite, Option.map_some, read, and_self]

/-- The store in memory is a faithful server of itself. -/
theorem Memory.server_faithful : Memory.server.Faithful id := by
  intro memory request kind answered asks
  refine ⟨(memory.serve request).response, rfl, ?_⟩
  show _ ∧ (memory.serve request).memory = answered.2
  cases asks with
  | get method route =>
    simp only [Memory.serve, method, route]
    exact ⟨Http.Response.ofAnswer_conveys _ _, rfl⟩
  | post method route contentType body read inNamespace =>
    obtain ⟨response, after⟩ := serveWrite_read body read memory
      fun object memory => memory.create _ object
    simp only [Memory.serve, method, route, response, after]
    exact ⟨Http.Response.ofAnswer_conveys _ _, rfl⟩
  | put method route contentType body read named =>
    obtain ⟨response, after⟩ := serveWrite_read body read memory
      fun object memory => memory.update _ object
    simp only [Memory.serve, method, route, response, after]
    exact ⟨Http.Response.ofAnswer_conveys _ _, rfl⟩
  | patchUnread method route contentType fails =>
    simp only [id_eq] at fails
    simp only [Memory.serve, method, route, Memory.serveStatus, fails]
    exact ⟨StoreError.conveys_response _ _, rfl⟩
  | patch method route contentType body got read named =>
    simp only [id_eq] at got
    have isRead : Kind.gateway.codec.read _ = .ok _ := read
    obtain ⟨response, after⟩ :=
      serveWrite_read (congrArg (Option.map _) body) isRead memory updateStatus
    simp only [Memory.serve, method, route, Memory.serveStatus, got, response, after]
    exact ⟨Http.Response.ofAnswer_conveys _ _, rfl⟩

/-! ### Calls -/

namespace Memory

variable {memory : Memory} {call : Call} {name : ObjectName}

/-- The request for a call asks for what the call does to the memory. -/
theorem WellKept.asks_draft (wellKept : memory.WellKept) (named : call.objectName? = some name)
    (plain : name.IsPlain) :
    (call.draft name).Asks memory call.kind (store.answer call memory) := by
  have route := (call.request?_of_isPlain plain).2
  cases call with
  | get kind namespaceName objectName =>
    cases named
    exact .get rfl route
  | create kind object =>
    have inNamespace : kind.namespaceName object = name.namespaceName := by
      rw [Kind.eq_of_objectName? named]
    exact .post rfl route rfl rfl (kind.codec_lawful.read_write object) inNamespace
  | update kind object =>
    exact .put rfl route rfl rfl (kind.codec_lawful.read_write object) named
  | updateStatus gateway =>
    obtain ⟨-, fails⟩ | ⟨stored, found, got⟩ :=
      wellKept.get_cases (show Kind.gateway.Alone by decide) name
    · have answered : store.answer (.updateStatus gateway) memory = (.error _, memory) :=
        updateStatus_unread named fails
      rw [answered]
      exact .patchUnread rfl route rfl fails
    · -- The patch changes the status alone, and of the patched gateway only the status counts.
      have read := Gateway.read_mergePatch_statusPatch
        (Gateway.codec_lawful.read_write stored) gateway.status
      have sameName : Kind.gateway.objectName? { stored with status := gateway.status } =
          some name := show Kind.gateway.objectName? stored = _ from wellKept.objectName? found
      have same : store.answer (.updateStatus gateway) memory =
          memory.updateStatus { stored with status := gateway.status } :=
        (updateStatus_read named got).trans (updateStatus_read sameName got).symm
      rw [same]
      exact .patch rfl route rfl rfl got read sameName

/-- A memory that fails to read an object of a kind of its own misses it. -/
theorem WellKept.get_error (wellKept : memory.WellKept) {kind : Kind} (alone : kind.Alone)
    {cause : StoreError} (fails : memory.get kind name = .error cause) : cause.Tells kind name := by
  obtain ⟨-, missing⟩ | ⟨stored, -, got⟩ := wellKept.get_cases alone name
  · rw [missing] at fails
    cases fails
    exact .notFound
  · rw [got] at fails
    cases fails

/-- A memory that fails to create has the name taken. -/
theorem create_error {kind : Kind} {object : kind.Object} {cause : StoreError}
    (named : kind.objectName? object = some name)
    (fails : (memory.create kind object).1 = .error cause) : cause.Tells kind name := by
  cases taken : memory.object? (.of kind name) with
  | none =>
    rw [memory.create_free named taken] at fails
    cases fails
  | some stored =>
    rw [memory.create_taken named taken] at fails
    cases fails
    exact .alreadyExists

/-- A memory that fails to update has a conflict waiting, misses the object, or has a newer one. -/
theorem update_error {kind : Kind} {object : kind.Object} {cause : StoreError}
    (named : kind.objectName? object = some name)
    (fails : (memory.update kind object).1 = .error cause) : cause.Tells kind name := by
  cases injected : memory.conflicts.contains (.of kind name) with
  | true =>
    rw [memory.update_injected named injected] at fails
    cases fails
    exact .conflict _
  | false =>
    cases found : memory.object? (.of kind name) with
    | none =>
      rw [memory.update_missing named injected found] at fails
      cases fails
      exact .notFound
    | some stored =>
      cases stale : isStale stored.metadata (kind.metadata object) with
      | true =>
        rw [memory.update_stale named injected found stale] at fails
        cases fails
        exact .conflict _
      | false =>
        rw [memory.update_fresh named injected found stale] at fails
        cases fails

/-- A memory that fails to write a status misses the gateway. -/
theorem WellKept.updateStatus_error (wellKept : memory.WellKept) {gateway : Gateway}
    {cause : StoreError} (named : Kind.gateway.objectName? gateway = some name)
    (fails : (memory.updateStatus gateway).1 = .error cause) : cause.Tells .gateway name := by
  obtain ⟨-, missing⟩ | ⟨stored, -, got⟩ :=
    wellKept.get_cases (show Kind.gateway.Alone by decide) name
  · rw [updateStatus_unread named missing] at fails
    cases fails
    exact .notFound
  · rw [updateStatus_read named got] at fails
    cases fails

/-- The errors of a memory about a kind of its own are told by responses. -/
theorem WellKept.tells (wellKept : memory.WellKept) (named : call.objectName? = some name)
    (alone : call.kind.Alone) {cause : StoreError}
    (fails : (store.answer call memory).1 = .error cause) : cause.Tells call.kind name := by
  cases call with
  | get kind namespaceName objectName =>
    cases named
    exact wellKept.get_error alone fails
  | create kind object => exact create_error named fails
  | update kind object => exact update_error named fails
  | updateStatus gateway => exact wellKept.updateStatus_error named fails

end Memory

/-! ### A store in front of a faithful server -/

/-- A store in front of a server answers a call like the memory that the server stands for: the
answer is the same object or the same error, and the same objects are left. -/
structure Http.Server.AnswersLike {State : Type} (server : Http.Server State)
    (memory : State → Memory) (state : State) (request : Call) : Prop where
  answer : (server.store.answer request state).1 = (Memory.store.answer request (memory state)).1
  objects : memory (server.store.answer request state).2 =
    (Memory.store.answer request (memory state)).2

namespace Http.Server.Faithful

variable {State : Type} {server : Http.Server State} {memory : State → Memory} {state : State}
  {call : Call} {name : ObjectName}

theorem store_answer (named : call.objectName? = some name) (plain : name.IsPlain) :
    server.store.answer call state =
      (call.interpret name (server.answer (call.draft name) state).1,
        (server.answer (call.draft name) state).2) := by
  simp only [Http.Server.store, named, (call.request?_of_isPlain plain).1]

/-- A store in front of a faithful server answers every call about a plain name, and a kind that
shares its word with no other, like the memory. -/
theorem answersLike (faithful : server.Faithful memory) (wellKept : (memory state).WellKept)
    (named : call.objectName? = some name) (plain : name.IsPlain) (alone : call.kind.Alone) :
    server.AnswersLike memory state call := by
  obtain ⟨response, answered, conveys, after⟩ :=
    faithful state _ _ _ (wellKept.asks_draft named plain)
  constructor
  · rw [store_answer named plain, answered]
    exact Call.interpret_of_conveys conveys fun _ => wellKept.tells named alone
  · rw [store_answer named plain]
    exact after

end Http.Server.Faithful

end GatewayOperator
