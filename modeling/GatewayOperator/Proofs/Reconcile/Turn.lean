/-
This file looks at one pass over a gateway as it is stored, from the memory it starts at to the
memory it ends at, and at passes that follow one another. A pass writes the gateway itself only when
it lacks its defaults, and then nothing else; it never writes the status. Otherwise it writes
Secrets and the objects of the gateway, and hands the gateway on as it got it.
-/

import GatewayOperator.Proofs.Reconcile.Protocol
import GatewayOperator.Proofs.Store.Frame

namespace GatewayOperator

/-- The reason of a pass that stopped early. -/
def requeueReason? : Except ReconcileError Outcome → Option RequeueReason
  | .ok (.requeue reason) => some reason
  | _ => none

/-- A pass that did not stop early converged or failed. -/
theorem requeueReason?_eq_none {result : Except ReconcileError Outcome}
    (none : requeueReason? result = none) :
    result = .ok .done ∨ ∃ error, result = .error error := by
  obtain error | (_ | reason) := result
  · exact Or.inr ⟨error, rfl⟩
  · exact Or.inl rfl
  · cases none

/-- A pass over a gateway that starts at a memory. -/
structure Turn where
  policy : ReplicaPolicy
  gateway : Gateway
  before : Memory

namespace Turn

/-- How the pass ends when nobody steps in. -/
def ended (turn : Turn) : Ended Memory PassResult :=
  (pass turn.policy turn.gateway).run Memory.store turn.before

/-- The result of the pass. -/
def result (turn : Turn) : Except ReconcileError Outcome := turn.ended.result.result

/-- The memory after the pass. -/
def after (turn : Turn) : Memory := turn.ended.state

/-- The calls of the pass with their answers. -/
def exchanges (turn : Turn) : List Exchange :=
  (pass turn.policy turn.gateway).exchanges Memory.store turn.before

/-- The reason for which the pass stopped early, if it did. -/
def reason? (turn : Turn) : Option RequeueReason := requeueReason? turn.result

/-- The pass only reads, and it leaves everything as it is. -/
def WritesNothing (turn : Turn) : Prop :=
  turn.after = turn.before ∧ ∀ exchange ∈ turn.exchanges, exchange.call.writes = false

theorem ends (turn : Turn) :
    (pass turn.policy turn.gateway).Ends turn.exchanges turn.ended.result :=
  (pass turn.policy turn.gateway).ends_run Memory.store turn.before

theorem gives (turn : Turn) : Memory.store.Gives turn.before turn.exchanges turn.after :=
  (pass turn.policy turn.gateway).gives_exchanges Memory.store turn.before

theorem reachable_after {turn : Turn} (reachable : turn.before.Reachable) :
    turn.after.Reachable :=
  reachable.gives turn.gives

end Turn

/-- The passes over the gateway of a name that follow one another, each over the gateway as it is
stored when the pass starts. -/
def Memory.turns (name : ObjectName) : List ReplicaPolicy → Memory → List Turn
  | [], _ => []
  | policy :: rest, memory =>
    match memory.get .gateway name with
    | .error _ => []
    | .ok gateway =>
      let turn : Turn := ⟨policy, gateway, memory⟩
      turn :: turns name rest turn.after

theorem Memory.turns_cons {memory : Memory} {name : ObjectName} {gateway : Gateway}
    (stored : memory.object? (.of .gateway name) = some ⟨.gateway, gateway⟩)
    (policy : ReplicaPolicy) (rest : List ReplicaPolicy) :
    memory.turns name (policy :: rest) = ⟨policy, gateway, memory⟩ ::
      Memory.turns name rest (Turn.mk policy gateway memory).after := by
  rw [turns, get_found stored]

/-! ### The kinds of calls -/

theorem SecretCalls.kind_of_mem {role : SecretRole} {gateway : Gateway} {calls : List Exchange}
    (secretCalls : SecretCalls role gateway calls) :
    ∀ exchange ∈ calls, exchange.call.kind = .secret := by
  intro exchange member
  cases secretCalls with
  | none => cases member
  | read answer refers named =>
    rw [List.mem_singleton.mp member]
    rfl
  | owned answer refers named fit free =>
    rcases List.mem_pair.mp member with rfl | rfl
    · rfl
    · rfl

theorem ChildCalls.kind_of_mem {kind : Kind} {name : ObjectName} {calls : List Exchange}
    (childCalls : ChildCalls kind name calls) :
    ∀ exchange ∈ calls, exchange.call.kind = kind := by
  intro exchange member
  cases childCalls with
  | none => cases member
  | unread | read =>
    rw [List.mem_singleton.mp member]
    rfl
  | created | updated =>
    rcases List.mem_pair.mp member with rfl | rfl
    · rfl
    · rfl

/-- A pass over a gateway that lacks nothing calls for Secrets and for the objects of the gateway
only. -/
theorem CallProtocol.kind_of_mem {gateway : Gateway} {parts : PassStep → List Exchange}
    {result : Except ReconcileError Outcome} (protocol : CallProtocol gateway parts result)
    (complete : gateway.spec.replicas ≠ none) :
    ∀ exchange ∈ PassStep.order.flatMap parts,
      exchange.call.kind = .secret ∨ exchange.call.kind.isChild = true := by
  intro exchange member
  obtain ⟨step, inOrder, inPart⟩ := List.mem_flatMap.mp member
  cases step with
  | defaults =>
    obtain ⟨-, none⟩ | ⟨lacks, -⟩ := protocol.defaults
    · rw [none] at inPart
      cases inPart
    · exact absurd lacks complete
  | secret role => exact Or.inl ((protocol.secrets role).kind_of_mem exchange inPart)
  | child kind =>
    have isChild := PassStep.isChild_of_mem_order inOrder
    refine Or.inr ?_
    rw [(protocol.children kind isChild).kind_of_mem exchange inPart]
    exact isChild

/-! ### The gateway -/

namespace Turn

variable {turn : Turn}

/-- A pass over a gateway that lacks nothing hands it on as it got it, and leaves alone what is
neither a Secret nor an object of the gateway. -/
theorem of_complete (reachable : turn.before.Reachable)
    (complete : turn.gateway.lacksDefaults = false) :
    turn.ended.result.gateway = turn.gateway ∧
    ∀ key : ObjectKey, key.label ≠ Kind.secret.label →
      (∀ kind : Kind, kind.isChild = true → key.label ≠ kind.label) →
      turn.after.object? key = turn.before.object? key := by
  refine ⟨((ends_pass_complete complete _ _).mp turn.ends).2, fun key notSecret notChild => ?_⟩
  obtain ⟨parts, calls, run⟩ := PassRun.of_ends turn.ends
  refine reachable.gives_object?_other turn.gives fun exchange member => ?_
  rw [calls] at member
  refine Call.place?_ne_of_label fun same => ?_
  rcases run.callProtocol.kind_of_mem
    (turn.gateway.lacksDefaults_eq_false_iff.mp complete) exchange member with isSecret | isChild
  · rw [isSecret] at same
    exact notSecret same.symm
  · exact notChild _ isChild same.symm

/-- A pass over a gateway that lacks nothing leaves the stored gateway as it is. -/
theorem stored_after_of_complete (reachable : turn.before.Reachable)
    (stored : turn.before.object? (.of .gateway name) = some ⟨.gateway, turn.gateway⟩)
    (complete : turn.gateway.lacksDefaults = false) :
    turn.after.object? (.of .gateway name) = some ⟨.gateway, turn.gateway⟩ :=
  ((of_complete reachable complete).2 _ (show Kind.gateway.label ≠ _ by decide) fun _ child =>
    Kind.label_ne_of_isChild (show Kind.gateway.Alone by decide) rfl child).trans stored

/-- A pass over a gateway that lacks its defaults stores it with the defaults and stops, or it fails
to. -/
theorem of_lacking {name : ObjectName}
    (stored : turn.before.object? (.of .gateway name) = some ⟨.gateway, turn.gateway⟩)
    (named : Kind.gateway.objectName? turn.gateway = some name)
    (lacks : turn.gateway.lacksDefaults = true) :
    (∃ cause, turn.result = .error (.store cause) ∧
      turn.before.update .gateway turn.gateway.withDefaults = (.error cause, turn.after)) ∨
    (turn.result = .ok (.requeue .defaultsApplied) ∧
      ∃ current, turn.before.Wrote (.of .gateway name) ⟨.gateway, current⟩ turn.after ∧
        current.spec = turn.gateway.withDefaults.spec ∧ current.status = turn.gateway.status) := by
  have gives := turn.gives
  obtain ⟨failure, calls, same⟩ | ⟨updated, calls, same⟩ := ends_pass_lacking lacks turn.ends
  · rw [calls] at gives
    exact Or.inl ⟨failure, congrArg PassResult.result same, Prod.ext gives.1 gives.2.symm⟩
  · rw [calls] at gives
    have answered : turn.before.update .gateway turn.gateway.withDefaults =
        (.ok updated, turn.after) := Prod.ext gives.1 gives.2.symm
    obtain ⟨other, present, otherNamed, found, replaced, wrote⟩ := Memory.of_update answered
    obtain rfl : name = other := Option.some.inj (named.symm.trans otherNamed)
    rw [stored] at found
    cases found
    rw [Memory.replacement_stored] at replaced
    rw [replaced] at wrote
    exact Or.inr ⟨congrArg PassResult.result same, _, wrote, rfl, rfl⟩

/-- No pass writes the status of the gateway. -/
theorem exists_stored_after (reachable : turn.before.Reachable)
    (stored : turn.before.object? (.of .gateway name) = some ⟨.gateway, turn.gateway⟩) :
    ∃ current, turn.after.object? (.of .gateway name) = some ⟨.gateway, current⟩ ∧
      current.status = turn.gateway.status := by
  cases lacks : turn.gateway.lacksDefaults with
  | false => exact ⟨turn.gateway, stored_after_of_complete reachable stored lacks, rfl⟩
  | true =>
    have place := reachable.wellKept.objectName? stored
    obtain ⟨cause, -, fails⟩ | ⟨-, current, wrote, -, status⟩ := of_lacking stored place lacks
    · obtain ⟨_, _, other, kept, -⟩ | ⟨_, _, _, _, _, -, -, -, succeeds, -⟩ :=
        turn.before.update_cases .gateway turn.gateway.withDefaults
      · rw [fails] at other
        cases other
        exact ⟨turn.gateway, (kept.object? _).trans stored, rfl⟩
      · rw [fails] at succeeds
        cases succeeds
    · exact ⟨current, wrote.object?_self, status⟩

end Turn

end GatewayOperator
