/-
This file follows one gateway in a store while clients write it. An update writes all of it but its
status, and a write of a status writes nothing else, whatever the gateway says that a client passes.
After any run its spec and its metadata are therefore those of the last update, its status is the
last one that was written, and its uid is the one it always had. How updates and writes of statuses
were mixed is seen in versions only.
-/

import GatewayOperator.Proofs.Store.Agreement

namespace GatewayOperator

/-! ### Writes of a gateway -/

/-- A write of a gateway: of all but its status, or of its status. -/
inductive GatewayWrite where
  | body (given : Gateway)
  | status (given : Gateway)

namespace GatewayWrite

/-- The gateway whose spec and metadata are written. -/
def body? : GatewayWrite → Option Gateway
  | body given => some given
  | status _ => none

/-- The status that is written; it may be none. -/
def status? : GatewayWrite → Option (Option GatewayStatus)
  | body _ => none
  | status given => some given.status

end GatewayWrite

/-- The write of the gateway of a name that an operation is when it succeeds. -/
def Operation.gatewayWrite? (name : ObjectName) : Operation → Option GatewayWrite
  | call (.update .gateway given) =>
    if Kind.gateway.objectName? given = some name then some (.body given) else none
  | call (.updateStatus given) =>
    if Kind.gateway.objectName? given = some name then some (.status given) else none
  | _ => none

/-- Whether an operation puts an object at a place as if it had been there all along. -/
def Operation.Seeds (key : ObjectKey) : Operation → Prop
  | seed kind object => (kind.objectName? object).map (.of kind) = some key
  | _ => False

namespace Backend

variable {State : Type}

/-- The writes of the gateway of a name that succeed in a run, in their order. -/
def gatewayWrites (backend : Backend State) (name : ObjectName) (state : State) :
    List Operation → List GatewayWrite
  | [] => []
  | operation :: rest =>
    let answered := backend.perform state operation
    let written :=
      match answered.1 with
      | .ok _ => (operation.gatewayWrite? name).toList
      | .error _ => []
    written ++ backend.gatewayWrites name answered.2 rest

theorem gatewayWrites_cons (backend : Backend State) (name : ObjectName) (state : State)
    (operation : Operation) (rest : List Operation) :
    backend.gatewayWrites name state (operation :: rest) =
      backend.gatewayWrites name state [operation] ++
        backend.gatewayWrites name (backend.perform state operation).2 rest := by
  simp only [gatewayWrites, List.append_nil]

theorem gatewayWrites_of_error {backend : Backend State} {name : ObjectName} {state after : State}
    {operation : Operation} {cause : StoreError}
    (fails : backend.perform state operation = (.error cause, after)) :
    backend.gatewayWrites name state [operation] = [] := by
  simp only [gatewayWrites, fails, List.append_nil]

theorem gatewayWrites_of_none {backend : Backend State} {name : ObjectName} {state : State}
    {operation : Operation} (other : operation.gatewayWrite? name = none) :
    backend.gatewayWrites name state [operation] = [] := by
  unfold gatewayWrites
  rw [other]
  dsimp only
  split <;> rfl

theorem gatewayWrites_of_ok {backend : Backend State} {name : ObjectName} {state after : State}
    {operation : Operation} {write : GatewayWrite} {returned : Option Stored}
    (succeeds : backend.perform state operation = (.ok returned, after))
    (writes : operation.gatewayWrite? name = some write) :
    backend.gatewayWrites name state [operation] = [write] := by
  simp only [gatewayWrites, succeeds, writes, Option.toList_some, List.append_nil]

end Backend

/-! ### What writes leave -/

namespace Gateway

/-- A gateway under another version. -/
def withVersion (gateway : Gateway) (version : Option String) : Gateway :=
  { gateway with metadata := { gateway.metadata with resourceVersion := version } }

/-- What writes leave of a gateway, up to its version: the spec and the metadata of the last one
that writes them, the status of the last one that writes that, and the uid as it was. -/
def settled (initial : Gateway) (writes : List GatewayWrite) : Gateway :=
  let body := (writes.filterMap GatewayWrite.body?).getLastD initial
  { body with
    metadata := { body.metadata with uid := initial.metadata.uid }
    status := (writes.filterMap GatewayWrite.status?).getLastD initial.status }

/-- Later writes do not see under which version the earlier ones left the gateway. -/
theorem settled_append (initial : Gateway) (earlier later : List GatewayWrite)
    (between version : Option String) :
    (((initial.settled earlier).withVersion between).settled later).withVersion version =
      (initial.settled (earlier ++ later)).withVersion version := by
  unfold settled
  simp only [List.filterMap_append, List.getLastD_eq_getLast?, List.getLast?_append]
  cases (later.filterMap GatewayWrite.body?).getLast? <;>
    cases (later.filterMap GatewayWrite.status?).getLast? <;> rfl

/-- Writes that differ only in how they are mixed leave the same. -/
theorem settled_congr (initial : Gateway) {writes others : List GatewayWrite}
    (sameBodies : others.filterMap GatewayWrite.body? = writes.filterMap GatewayWrite.body?)
    (sameStatuses : others.filterMap GatewayWrite.status? =
      writes.filterMap GatewayWrite.status?) :
    initial.settled others = initial.settled writes := by
  unfold settled
  rw [sameBodies, sameStatuses]

end Gateway

/-! ### One operation -/

namespace Memory

/-- A call that writes another place is no write of the gateway. -/
theorem gatewayWrite?_of_elsewhere {request : Call} {name : ObjectName}
    (elsewhere : request.place? ≠ some (.of .gateway name)) :
    (Operation.call request).gatewayWrite? name = none := by
  have notNamed : ∀ {given : Gateway},
      (Kind.gateway.objectName? given).map (.of .gateway) ≠ some (ObjectKey.of .gateway name) →
      ¬ Kind.gateway.objectName? given = some name := by
    intro given elsewhere named
    rw [named] at elsewhere
    exact elsewhere rfl
  cases request with
  | get | create => rfl
  | updateStatus given => exact if_neg (notNamed elsewhere)
  | update kind given =>
    cases kind with
    | gateway => exact if_neg (notNamed elsewhere)
    | deployment | service | ingress | secret | configMap | coreEvent | event => rfl

/-- An update leaves all it was given but the status, or it changes no object. -/
theorem gateway_after_update {memory : Memory} {name : ObjectName} {stored given : Gateway}
    (found : memory.object? (.of .gateway name) = some ⟨.gateway, stored⟩)
    (named : Kind.gateway.objectName? given = some name) :
    ∃ version, (memory.update .gateway given).2.object? (.of .gateway name) =
      some ⟨.gateway, (stored.settled (backend.gatewayWrites name memory
        [.call (.update .gateway given)])).withVersion version⟩ := by
  have perform : backend.perform memory (.call (.update .gateway given)) =
      ((memory.update .gateway given).1.map fun object => some ⟨.gateway, object⟩,
        (memory.update .gateway given).2) := rfl
  obtain ⟨cause, after, fails, kept, -⟩ | ⟨_, _, _, _, after, _, _, _, succeeds, -, -⟩ :=
    memory.update_cases .gateway given
  · rw [fails] at perform ⊢
    rw [Backend.gatewayWrites_of_error perform]
    exact ⟨_, (kept.object? _).trans found⟩
  · obtain ⟨sameName, replaced, named', found', updated, wrote⟩ := of_update succeeds
    cases named.symm.trans named'
    cases found.symm.trans found'
    rw [replacement_stored] at updated
    rw [updated] at succeeds wrote
    rw [succeeds] at perform ⊢
    rw [Backend.gatewayWrites_of_ok perform (if_pos named)]
    exact ⟨_, wrote.object?_self⟩

/-- A write of a status leaves the status it was given. -/
theorem gateway_after_updateStatus {memory : Memory} {name : ObjectName} {stored given : Gateway}
    (found : memory.object? (.of .gateway name) = some ⟨.gateway, stored⟩)
    (named : Kind.gateway.objectName? given = some name) :
    ∃ version, (memory.updateStatus given).2.object? (.of .gateway name) =
      some ⟨.gateway, (stored.settled (backend.gatewayWrites name memory
        [.call (.updateStatus given)])).withVersion version⟩ := by
  have perform : backend.perform memory (.call (.updateStatus given)) =
      ((memory.updateStatus given).1.map fun object => some ⟨.gateway, object⟩,
        (memory.updateStatus given).2) := rfl
  rw [updateStatus_read named (get_found found)] at perform ⊢
  rw [Backend.gatewayWrites_of_ok perform (if_pos named)]
  exact ⟨_, lookup_put_self _ _ memory.objects⟩

/-- A call leaves of a gateway what its write leaves, if it is one that succeeds. -/
theorem WellKept.gateway_after_call {memory : Memory} (wellKept : memory.WellKept)
    {name : ObjectName} {stored : Gateway}
    (found : memory.object? (.of .gateway name) = some ⟨.gateway, stored⟩) (request : Call) :
    ∃ version, (store.answer request memory).2.object? (.of .gateway name) =
      some ⟨.gateway, (stored.settled (backend.gatewayWrites name memory
        [.call request])).withVersion version⟩ := by
  by_cases place : request.place? = some (.of .gateway name)
  · have isGateway : ∀ {kind : Kind} {named : Option ObjectName},
        named.map (ObjectKey.of kind) = some (.of .gateway name) →
        kind = .gateway ∧ named = some name := by
      intro kind named place
      obtain ⟨other, rfl, same⟩ := Option.map_eq_some_iff.mp place
      obtain ⟨label, rfl⟩ := ObjectKey.of_eq_of.mp same
      exact ⟨(show Kind.gateway.Alone by decide).eq_of_label label, rfl⟩
    cases request with
    | get => cases place
    | create kind object =>
      obtain ⟨rfl, named⟩ := isGateway place
      rw [Backend.gatewayWrites_of_none rfl]
      show ∃ version, (memory.create .gateway object).2.object? _ = _
      rw [memory.create_taken named found]
      exact ⟨_, found⟩
    | update kind object =>
      obtain ⟨rfl, named⟩ := isGateway place
      exact gateway_after_update found named
    | updateStatus gateway => exact gateway_after_updateStatus found (isGateway place).2
  · rw [Backend.gatewayWrites_of_none (gatewayWrite?_of_elsewhere place)]
    exact ⟨_, (wellKept.answer_object?_other place).trans found⟩

/-- An operation leaves of a gateway what its write leaves, if it is one that succeeds. -/
theorem WellKept.gateway_after_perform {memory : Memory} (wellKept : memory.WellKept)
    {name : ObjectName} {stored : Gateway}
    (found : memory.object? (.of .gateway name) = some ⟨.gateway, stored⟩) {operation : Operation}
    (notSeeded : ¬ operation.Seeds (.of .gateway name)) :
    ∃ version, (backend.perform memory operation).2.object? (.of .gateway name) =
      some ⟨.gateway, (stored.settled (backend.gatewayWrites name memory
        [operation])).withVersion version⟩ := by
  have kept : ∀ {after : Memory}, operation.gatewayWrite? name = none →
      after.object? (.of .gateway name) = memory.object? (.of .gateway name) →
      ∃ version, after.object? (.of .gateway name) =
        some ⟨.gateway, (stored.settled (backend.gatewayWrites name memory
          [operation])).withVersion version⟩ := by
    intro after other same
    rw [Backend.gatewayWrites_of_none other]
    exact ⟨_, same.trans found⟩
  cases operation with
  | call request => exact wellKept.gateway_after_call found request
  | clearWrites => exact kept rfl rfl
  | injectConflict conflict =>
    refine kept rfl ?_
    show (memory.injectConflict conflict).object? _ = _
    unfold injectConflict
    split <;> rfl
  | seed kind object =>
    refine kept rfl ?_
    show (memory.seed kind object).2.object? _ = _
    obtain ⟨cause, fails⟩ | ⟨placedName, after, named, succeeds, wrote, -⟩ :=
      memory.seed_cases kind object
    · rw [fails]
    · rw [succeeds]
      refine wrote.object?_other fun same => notSeeded ?_
      show (kind.objectName? object).map _ = _
      rw [named, same]
      rfl

/-! ### A run -/

/-- A run leaves of a gateway what its successful writes leave. -/
theorem Reachable.gateway_after {memory : Memory} (reachable : memory.Reachable)
    {name : ObjectName} {stored : Gateway}
    (found : memory.object? (.of .gateway name) = some ⟨.gateway, stored⟩)
    {operations : List Operation}
    (notSeeded : ∀ operation ∈ operations, ¬ operation.Seeds (.of .gateway name)) :
    ∃ version, (backend.after memory operations).object? (.of .gateway name) =
      some ⟨.gateway, (stored.settled (backend.gatewayWrites name memory
        operations)).withVersion version⟩ := by
  induction operations generalizing memory stored with
  | nil => exact ⟨_, found⟩
  | cons operation operations inductionHypothesis =>
    obtain ⟨notNow, notLater⟩ := List.forall_mem_cons.mp notSeeded
    obtain ⟨between, next⟩ := reachable.wellKept.gateway_after_perform found notNow
    obtain ⟨version, last⟩ :=
      inductionHypothesis (reachable.backend_perform operation) next notLater
    rw [Gateway.settled_append, ← Backend.gatewayWrites_cons] at last
    exact ⟨version, last⟩

end Memory

namespace Documents.StandFor

variable {documents : Documents} {memory : Memory}

/-- The same writes succeed on documents as on the memory that they stand for. -/
theorem gatewayWrites (stands : documents.StandFor memory) (reachable : memory.Reachable)
    (name : ObjectName) (operations : List Operation) :
    Documents.backend.gatewayWrites name documents operations =
      Memory.backend.gatewayWrites name memory operations := by
  induction operations generalizing documents memory with
  | nil => rfl
  | cons operation operations inductionHypothesis =>
    obtain ⟨same, next⟩ := stands.perform reachable.wellKept operation
    simp only [Backend.gatewayWrites, same,
      inductionHypothesis next (reachable.backend_perform operation)]

end Documents.StandFor

/-- A run on documents leaves of a gateway what its successful writes leave. -/
theorem Documents.gateway_after {past : List Operation} {name : ObjectName} {initial : Gateway}
    (stored : (Documents.backend.after {} past).get .gateway name = .ok initial)
    {operations : List Operation}
    (notSeeded : ∀ operation ∈ operations, ¬ operation.Seeds (.of .gateway name)) :
    ∃ version, (Documents.backend.after (Documents.backend.after {} past) operations).get .gateway
        name = .ok ((initial.settled (Documents.backend.gatewayWrites name
          (Documents.backend.after {} past) operations)).withVersion version) := by
  have reachable := Memory.Reachable.empty.after past
  have stands := Documents.StandFor.empty.after .empty past
  have found := reachable.wellKept.object?_of_get (show Kind.gateway.Alone by decide)
    ((stands.get reachable.wellKept .gateway name).symm.trans stored)
  obtain ⟨version, last⟩ := reachable.gateway_after found notSeeded
  rw [stands.gatewayWrites reachable]
  refine ⟨version, Eq.trans ?_ (Memory.get_found last)⟩
  exact (stands.after reachable operations).get (reachable.after operations).wellKept .gateway name

/-- The spec and the status of a stored gateway are written apart, after any past and in any run of
clients that does not seed it anew. What is read at the end is what the successful writes leave; and
another run in which the same updates and the same writes of statuses succeed, mixed in another way,
leaves the same up to the version. -/
theorem spec_and_status_are_written_apart (past : List Operation) (name : ObjectName)
    (initial : Gateway) (operations : List Operation)
    (stored : (Documents.backend.after {} past).get .gateway name = .ok initial)
    (notSeeded : ∀ operation ∈ operations, ¬ operation.Seeds (.of .gateway name)) :
    let before := Documents.backend.after {} past
    let writes := Documents.backend.gatewayWrites name before
    (∃ version, (Documents.backend.after before operations).get .gateway name =
      .ok ((initial.settled (writes operations)).withVersion version)) ∧
    ∀ others : List Operation,
      (∀ operation ∈ others, ¬ operation.Seeds (.of .gateway name)) →
      (writes others).filterMap GatewayWrite.body? =
        (writes operations).filterMap GatewayWrite.body? →
      (writes others).filterMap GatewayWrite.status? =
        (writes operations).filterMap GatewayWrite.status? →
      ∃ version, (Documents.backend.after before others).get .gateway name =
        .ok ((initial.settled (writes operations)).withVersion version) := by
  intro before writes
  refine ⟨Documents.gateway_after stored notSeeded,
    fun others notSeeded sameBodies sameStatuses => ?_⟩
  rw [← initial.settled_congr sameBodies sameStatuses]
  exact Documents.gateway_after stored notSeeded

/-- A gateway that nobody has written a status of. -/
def smallGateway : Gateway where
  metadata := { name := some "edge", namespaceName := some "default" }
  spec := { replicas := some 1 }

/-- The gateway as a client scales it, who says nothing of its status. -/
def scaledGateway : Gateway := { smallGateway with spec := { replicas := some 3 } }

/-- The gateway as a client checks it, who read it before it was scaled. -/
def checkedGateway : Gateway :=
  { smallGateway with
    status := some { conditions := [{ kind := "Checked", status := "True" }] } }

/-- The gateway is scaled and checked in either order, and ends under the uid it was seeded with. -/
theorem scaled_and_checked_apart :
    let before := Documents.backend.after {} [.seed .gateway smallGateway]
    let scale : Operation := .call (.update .gateway scaledGateway)
    let check : Operation := .call (.updateStatus checkedGateway)
    let uid := "00000000-0000-0000-0000-000000000001"
    let isBoth := fun documents : Documents => ∃ version,
      documents.get .gateway ⟨"default", "edge"⟩ = .ok
        { metadata := { smallGateway.metadata with uid := some uid, resourceVersion := version }
          spec := scaledGateway.spec
          status := checkedGateway.status }
    isBoth (Documents.backend.after before [scale, check]) ∧
      isBoth (Documents.backend.after before [check, scale]) := by
  intro before scale check uid isBoth
  have reachable := Memory.Reachable.empty.after [.seed .gateway smallGateway]
  have stands := Documents.StandFor.empty.after .empty [.seed .gateway smallGateway]
  have stored : before.get .gateway ⟨"default", "edge"⟩ =
      .ok (Memory.placed {} .gateway smallGateway) :=
    (stands.get reachable.wellKept .gateway _).trans rfl
  have inOrder : Documents.backend.gatewayWrites ⟨"default", "edge"⟩ before [scale, check] =
      [.body scaledGateway, .status checkedGateway] :=
    (stands.gatewayWrites reachable _ _).trans rfl
  have swapped : Documents.backend.gatewayWrites ⟨"default", "edge"⟩ before [check, scale] =
      [.status checkedGateway, .body scaledGateway] :=
    (stands.gatewayWrites reachable _ _).trans rfl
  have notSeeded : ∀ operations ∈ [[scale, check], [check, scale]], ∀ operation ∈ operations,
      ¬ operation.Seeds (.of .gateway ⟨"default", "edge"⟩) := by
    simp [scale, check, Operation.Seeds]
  obtain ⟨first, others⟩ := spec_and_status_are_written_apart [.seed .gateway smallGateway]
    ⟨"default", "edge"⟩ _ [scale, check] stored (notSeeded _ (.head _))
  have second := others [check, scale] (notSeeded _ (.tail _ (.head _)))
  rw [inOrder] at first
  rw [inOrder, swapped] at second
  exact ⟨first, second rfl rfl⟩

end GatewayOperator
