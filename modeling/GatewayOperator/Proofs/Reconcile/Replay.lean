/-
This file says what a pass does not look at: the version and the uid of anything it stored. Reads go
into its decisions, but of a write it asks only whether it failed. A gateway or a Secret that was
written ends the pass, and what came of writing an object is dropped. So a pass goes the same way
when its writes are answered with twins of what they stored before.
-/

import GatewayOperator.Proofs.Store.Replay
import GatewayOperator.Reconcile.Pass

namespace GatewayOperator

open Attempt (follows_pure follows_fail follows_ofExcept follows_get follows_ask)

theorem fetchSecret_follows (role : SecretRole) (gateway : Gateway)
    (reference : LocalObjectReference) :
    Attempt.Follows Eq (fetchSecret role gateway reference)
      (fetchSecret role gateway reference) := by
  unfold fetchSecret
  split
  · exact follows_fail _
  · refine (follows_get _ _ _).bind fun answer other same => ?_
    rw [same]
    exact follows_ofExcept _

theorem resolveSecret_follows (role : SecretRole) (gateway : Gateway) :
    Attempt.Follows Eq (resolveSecret role gateway) (resolveSecret role gateway) := by
  unfold resolveSecret
  split
  · exact follows_pure rfl
  · refine (fetchSecret_follows role gateway _).bind fun secret other same => ?_
    rw [same]
    exact (follows_ofExcept _).bind fun _ _ _ => follows_pure rfl

/-- Two Secrets after their resolution are the same, or both were written. -/
inductive OwnedSecret.Alike : OwnedSecret → OwnedSecret → Prop where
  | same (owned : OwnedSecret) : Alike owned owned
  | written (first second : Option Secret) : Alike ⟨first, true⟩ ⟨second, true⟩

theorem takeOwnership_follows (gateway : Gateway) (secret : Secret) :
    Attempt.Follows OwnedSecret.Alike (takeOwnership gateway secret)
      (takeOwnership gateway secret) := by
  unfold takeOwnership
  split
  · exact follows_fail _
  · exact follows_pure (.same _)
  · exact (follows_ask _).bind fun _ _ _ => follows_pure (.written _ _)

theorem reconcileSecret_follows (role : SecretRole) (gateway : Gateway) :
    Attempt.Follows OwnedSecret.Alike (reconcileSecret role gateway)
      (reconcileSecret role gateway) := by
  refine (resolveSecret_follows role gateway).bind fun secret other same => ?_
  rw [same]
  cases other with
  | none => exact follows_pure (.same _)
  | some secret => exact takeOwnership_follows gateway secret

theorem reconcileChild_follows (kind : Kind) (rules : List (FieldRule kind.Object))
    (desired : kind.Object) :
    Attempt.Follows Eq (reconcileChild kind rules desired) (reconcileChild kind rules desired) := by
  unfold reconcileChild
  split
  · exact follows_fail _
  · refine (follows_get _ _ _).bind fun answer other same => ?_
    rw [same]
    cases other with
    | error cause =>
      dsimp only
      split
      · exact (follows_ask _).bind fun _ _ _ => follows_pure rfl
      · exact follows_fail _
    | ok existing =>
      dsimp only
      unfold updateChild
      dsimp only
      split
      · exact follows_pure rfl
      · exact (follows_ask _).bind fun _ _ _ => follows_pure rfl

theorem reconcileChildren_follows (policy : ReplicaPolicy) (desired : DesiredState) :
    Attempt.Follows Eq (reconcileChildren policy desired) (reconcileChildren policy desired) := by
  unfold reconcileChildren
  refine (reconcileChild_follows _ _ _).bind fun _ _ _ => ?_
  refine (reconcileChild_follows _ _ _).bind fun _ _ _ => ?_
  split
  · exact follows_pure rfl
  · exact (reconcileChild_follows _ _ _).bind fun _ _ _ => follows_pure rfl

/-- A Secret that was written ends the pass, so no later stage looks at it. -/
theorem reconcileGateway_follows (policy : ReplicaPolicy) (gateway : Gateway) :
    Attempt.Follows Eq (reconcileGateway policy gateway) (reconcileGateway policy gateway) := by
  refine (reconcileSecret_follows .adminPortal gateway).bind fun portal _ portalAlike => ?_
  cases portalAlike with
  | written => exact follows_pure rfl
  | same =>
    split
    · exact follows_pure rfl
    · refine (reconcileSecret_follows .embeddedConfig gateway).bind fun config _ configAlike => ?_
      cases configAlike with
      | written => exact follows_pure rfl
      | same =>
        split
        · exact follows_pure rfl
        · exact (reconcileChildren_follows policy _).bind fun _ _ _ => follows_pure rfl

/-- Two results of filling in defaults are the same, or both gateways were written. -/
inductive Defaulted.Alike : Defaulted → Defaulted → Prop where
  | same (defaulted : Defaulted) : Alike defaulted defaulted
  | written {first second : Gateway} (twins : Kind.gateway.Twins .update first second) :
    Alike ⟨.ok true, first⟩ ⟨.ok true, second⟩

theorem fillDefaults_follows (gateway : Gateway) :
    Program.Follows Defaulted.Alike (fillDefaults gateway) (fillDefaults gateway) := by
  unfold fillDefaults
  split
  · refine Program.follows_call fun answer other replays => ?_
    cases replays with
    | same =>
      cases answer with
      | error cause => exact Program.follows_done (.same _)
      | ok updated => exact Program.follows_done (.same _)
    | stored writes twins =>
      cases writes
      exact Program.follows_done (.written twins)
  · exact Program.follows_done (.same _)

/-- Two passes have the same result, and hand on twins of one gateway. -/
structure PassResult.Alike (first second : PassResult) : Prop where
  result : second.result = first.result
  gateway : Kind.gateway.Twins .update first.gateway second.gateway

theorem PassResult.alike_self (result : PassResult) : result.Alike result :=
  ⟨rfl, Kind.gateway.twins_self .update result.gateway⟩

/-- A pass never looks at the version or the uid of what it stored. -/
theorem pass_follows (policy : ReplicaPolicy) (gateway : Gateway) :
    Program.Follows PassResult.Alike (pass policy gateway) (pass policy gateway) := by
  refine (fillDefaults_follows gateway).bind fun defaulted _ alike => ?_
  cases alike with
  | written twins => exact Program.follows_done ⟨rfl, twins⟩
  | same =>
    split
    · exact Program.follows_done (PassResult.alike_self _)
    · exact Program.follows_done (PassResult.alike_self _)
    · refine Program.Follows.bind (reconcileGateway_follows policy _) fun result other same => ?_
      have equal : other = result := by
        cases same with
        | error cause => rfl
        | ok same => rw [same]
      rw [equal]
      exact Program.follows_done (PassResult.alike_self _)

end GatewayOperator
