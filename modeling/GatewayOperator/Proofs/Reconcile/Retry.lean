/-
This file says what a pass that failed leaves in the copy of the gateway that it worked on, and what
becomes of the next pass over that copy. The defaults are filled into the copy before they are
written, and they stay there when the write fails. The copy then looks as if nothing were left to
store, so the next pass over it goes on to the Secrets and the objects of the gateway and never
writes the gateway, while a pass over the gateway as it was writes the defaults and stops. Every
other failure leaves the copy as it was.
-/

import GatewayOperator.Proofs.Reconcile.Ownership
import GatewayOperator.Proofs.Reconcile.Turn

namespace GatewayOperator

theorem Gateway.withDefaults_ne {gateway : Gateway} (lacks : gateway.lacksDefaults = true) :
    gateway.withDefaults ≠ gateway := by
  intro same
  have complete := gateway.lacksDefaults_withDefaults
  rw [same, lacks] at complete
  cases complete

section Runs

variable {State : Type} {store : Store State} {state : State} {policy : ReplicaPolicy}
  {gateway : Gateway}

/-- A pass over a gateway that lacks its defaults makes one call: it writes them. -/
theorem exchanges_pass_lacking (lacks : gateway.lacksDefaults = true) :
    (pass policy gateway).exchanges store state =
      [writing .gateway gateway.withDefaults
        (store.answer (.update .gateway gateway.withDefaults) state).1] := by
  obtain ⟨answer, calls⟩ : ∃ answer, (pass policy gateway).exchanges store state =
      [writing .gateway gateway.withDefaults answer] := by
    obtain ⟨failure, calls, -⟩ | ⟨updated, calls, -⟩ :=
      ends_pass_lacking lacks ((pass policy gateway).ends_run store state)
    · exact ⟨_, calls⟩
    · exact ⟨_, calls⟩
  have gives := (pass policy gateway).gives_exchanges store state
  rw [calls] at gives ⊢
  rw [show (store.answer (.update .gateway gateway.withDefaults) state).1 = answer from gives.1]

/-- A pass over a gateway that lacks nothing makes no call about the gateway. -/
theorem kind_of_mem_exchanges_complete (complete : gateway.lacksDefaults = false) :
    ∀ exchange ∈ (pass policy gateway).exchanges store state, exchange.call.kind ≠ .gateway := by
  obtain ⟨parts, calls, run⟩ := PassRun.of_ends ((pass policy gateway).ends_run store state)
  intro exchange member same
  rw [calls] at member
  rcases run.callProtocol.kind_of_mem (gateway.lacksDefaults_eq_false_iff.mp complete) exchange
    member with isSecret | isChild
  · rw [same] at isSecret
    cases isSecret
  · rw [same] at isChild
    cases isChild

/-- What is left of a pass that failed, on every store. Its copy of the gateway is the gateway that
it started with exactly when that one lacked no default, and exactly then the next pass over the
copy makes the calls that a pass over the gateway makes, whatever the store has become by then. If a
default was missing, then the pass failed because it could not be written, and the copy has it all
the same. So the next pass over the copy makes no call about the gateway, where a pass over the
gateway makes no other call than to write it. -/
theorem retry_agrees_iff_complete {cause : ReconcileError}
    (fails : ((pass policy gateway).run store state).result.result = .error cause) :
    let copy := ((pass policy gateway).run store state).result.gateway
    (copy = gateway ↔ gateway.lacksDefaults = false) ∧
    (∀ next, (pass policy copy).exchanges store next = (pass policy gateway).exchanges store next ↔
      gateway.lacksDefaults = false) ∧
    (gateway.lacksDefaults = true →
      copy = gateway.withDefaults ∧
      (∃ failure, cause = .store failure ∧
        (store.answer (.update .gateway gateway.withDefaults) state).1 = .error failure) ∧
      ∀ next,
        (∀ exchange ∈ (pass policy copy).exchanges store next, exchange.call.kind ≠ .gateway) ∧
        ∃ answer, (pass policy gateway).exchanges store next =
          [writing .gateway gateway.withDefaults answer]) := by
  intro copy
  have ends := (pass policy gateway).ends_run store state
  cases lacks : gateway.lacksDefaults with
  | false =>
    have same : copy = gateway := ((ends_pass_complete lacks _ _).mp ends).2
    refine ⟨iff_of_true same rfl, fun next => iff_of_true ?_ rfl, nofun⟩
    rw [same]
  | true =>
    obtain ⟨failure, calls, failed⟩ | ⟨updated, -, requeued⟩ := ends_pass_lacking lacks ends
    · have filled : copy = gateway.withDefaults := congrArg PassResult.gateway failed
      have complete : copy.lacksDefaults = false := by
        rw [filled]
        exact gateway.lacksDefaults_withDefaults
      refine ⟨iff_of_false ?_ nofun, fun next => iff_of_false ?_ nofun, fun _ =>
        ⟨filled, ⟨failure, ?_, ?_⟩, fun next =>
          ⟨kind_of_mem_exchanges_complete complete, _, exchanges_pass_lacking lacks⟩⟩⟩
      · rw [filled]
        exact Gateway.withDefaults_ne lacks
      · -- A pass over the gateway writes it first, which a pass over the copy never does.
        intro same
        rw [exchanges_pass_lacking lacks] at same
        have first : writing .gateway gateway.withDefaults _ ∈
            (pass policy copy).exchanges store next := same ▸ List.mem_cons_self
        exact kind_of_mem_exchanges_complete complete _ first rfl
      · rw [failed] at fails
        cases fails
        rfl
      · have gives := (pass policy gateway).gives_exchanges store state
        rw [calls] at gives
        exact gives.1
    · rw [requeued] at fails
      cases fails

end Runs

/-- A pass that misses a Secret leaves its copy of the gateway as it was, and the next pass over the
copy makes the calls of a pass over the gateway. -/
theorem missed_secret_leaves_copy :
    let failed := (pass .enforce configuredGateway).run Memory.store {}
    failed.result.result = .error
      (.secretNotFound "EmbeddedConfigurationSecretRef" "default" "settings") ∧
    failed.result.gateway = configuredGateway ∧
    ∀ next, (pass .enforce failed.result.gateway).exchanges Memory.store next =
      (pass .enforce configuredGateway).exchanges Memory.store next := by
  intro failed
  have fails : failed.result.result = .error
    (.secretNotFound "EmbeddedConfigurationSecretRef" "default" "settings") := rfl
  obtain ⟨kept, again, -⟩ := retry_agrees_iff_complete fails
  exact ⟨fails, kept.mpr rfl, fun next => (again next).mpr rfl⟩

/-- A gateway that leaves everything open. -/
def bareGateway : Gateway where
  metadata := { name := some "edge", namespaceName := some "default" }
  spec := {}

/-- The gateway as it is stored first. -/
def storedBareGateway : Gateway :=
  { bareGateway with
    metadata :=
      { bareGateway.metadata with
        resourceVersion := some "1"
        uid := some "00000000-0000-0000-0000-000000000001" } }

/-- The gateway is stored, and a conflict waits for its next update. -/
def contestedMemory : Memory :=
  ((Operation.injectConflict ⟨"APIcast", "default", "edge"⟩).perform
    ((Operation.seed .gateway bareGateway).perform {}).memory).memory

/-- A conflict leaves the defaults in the copy of the gateway though they are not stored. The next
pass over the copy converges, and it creates the objects of the gateway; a pass over the gateway as
it is stored writes the defaults and stops. -/
theorem defaults_survive_conflict :
    let failed := (pass .enforce storedBareGateway).run Memory.store contestedMemory
    let again := (pass .enforce failed.result.gateway).run Memory.store failed.state
    let fresh := (pass .enforce storedBareGateway).run Memory.store failed.state
    contestedMemory.Reachable ∧
    contestedMemory.object? ⟨"APIcast", "default", "edge"⟩ = some ⟨.gateway, storedBareGateway⟩ ∧
    failed.result.result = .error
      (.store (.conflict "APIcast" "default" "edge" "the object has been modified")) ∧
    failed.result.gateway ≠ storedBareGateway ∧
    failed.state.object? ⟨"APIcast", "default", "edge"⟩ = some ⟨.gateway, storedBareGateway⟩ ∧
    (again.result.result = .ok .done ∧ again.state.writes =
      [⟨.create, ⟨"Deployment", "default", "apicast-edge"⟩⟩,
        ⟨.create, ⟨"Service", "default", "apicast-edge"⟩⟩]) ∧
    (fresh.result.result = .ok (.requeue .defaultsApplied) ∧ fresh.state.writes =
      [⟨.update, ⟨"APIcast", "default", "edge"⟩⟩]) := by
  intro failed again fresh
  refine ⟨(Memory.Reachable.empty.perform _).perform _, rfl, rfl, ?_, rfl, ⟨rfl, rfl⟩, rfl, rfl⟩
  exact Gateway.withDefaults_ne rfl

end GatewayOperator
