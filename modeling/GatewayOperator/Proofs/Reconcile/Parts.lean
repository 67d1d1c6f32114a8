/-
This file takes a pass apart once, for properties that a program has when its parts have them. A
pass is put together from reads, from updates of the gateway and of Secrets, and from creating and
updating its objects; so what holds of these holds of the pass. Nothing is said of the order of the
parts or of what they are given.
-/

import GatewayOperator.Proofs.Gateway.DesiredState
import GatewayOperator.Proofs.Store.Exchange
import GatewayOperator.Reconcile.Report

namespace GatewayOperator

/-- Whether a call is one of those a pass makes for itself: it reads, or it updates something that
is not an object of the gateway. -/
def Call.isOwn : Call → Bool
  | get .. => true
  | update kind _ => !kind.isChild
  | create .. | updateStatus .. => false

/-- A property that a program has when the parts have it that a pass is put together from. -/
structure Program.Compositional (Holds : {Result : Type} → Program Result → Prop) : Prop where
  done {Result : Type} (result : Result) : Holds (.done result)
  bind {First Result : Type} {program : Program First} {next : First → Program Result}
    (first : Holds program) (rest : ∀ value, Holds (next value)) : Holds (program >>= next)
  own {request : Call} (isOwn : request.isOwn = true) : Holds (.ask request)
  createChild (kind : Kind) (desired : kind.Object) : Holds (createChild kind desired).run
  updateChild (kind : Kind) (rules : List (FieldRule kind.Object))
    (existing desired : kind.Object) : Holds (updateChild kind rules existing desired).run

namespace Program.Compositional

variable {Holds : {Result : Type} → Program Result → Prop} (parts : Compositional Holds)
include parts

/-! ### Attempts -/

section Attempts

variable {First Result : Type}

theorem pure (result : Result) : Holds (Pure.pure result : Attempt Result).run :=
  parts.done (Except.ok result : Except ReconcileError Result)

theorem fail (cause : ReconcileError) : Holds (Attempt.fail cause : Attempt Result).run :=
  parts.done (Except.error cause : Except ReconcileError Result)

theorem ofExcept (result : Except ReconcileError Result) : Holds (Attempt.ofExcept result).run :=
  parts.done result

/-- An attempt that follows another one does not run when the first one failed. -/
theorem attempt {attempt : Attempt First} {next : First → Attempt Result}
    (first : Holds attempt.run) (rest : ∀ value, Holds (next value).run) :
    Holds (attempt >>= next).run := by
  rw [ExceptT.run_bind]
  refine parts.bind first fun ended => ?_
  cases ended with
  | ok value => exact rest value
  | error cause => exact parts.fail cause

theorem ask {request : Call} (isOwn : request.isOwn = true) :
    Holds (Attempt.ask request).run :=
  parts.bind (parts.own isOwn) fun answer => parts.done (answer.mapError ReconcileError.store)

theorem answer {request : Call} (isOwn : request.isOwn = true) :
    Holds (Attempt.answer request).run :=
  parts.bind (parts.own isOwn) fun answer => parts.done (Except.ok answer : Except ReconcileError _)

end Attempts

/-! ### The stages -/

theorem fillDefaults (gateway : Gateway) : Holds (fillDefaults gateway) := by
  unfold GatewayOperator.fillDefaults
  split
  · have updated : Holds (.ask (.update .gateway gateway.withDefaults)) := parts.own rfl
    refine parts.bind updated fun answer => ?_
    cases answer with
    | ok updated => exact parts.done _
    | error cause => exact parts.done _
  · exact parts.done _

theorem fetchSecret (role : SecretRole) (gateway : Gateway) (reference : LocalObjectReference) :
    Holds (fetchSecret role gateway reference).run := by
  unfold GatewayOperator.fetchSecret
  split
  · exact parts.fail _
  · exact parts.attempt (parts.answer rfl) fun _ => parts.ofExcept _

theorem reconcileSecret (role : SecretRole) (gateway : Gateway) :
    Holds (reconcileSecret role gateway).run := by
  have resolved : Holds (resolveSecret role gateway).run := by
    unfold resolveSecret
    split
    · exact parts.pure _
    · exact parts.attempt (parts.fetchSecret role gateway _) fun _ =>
        parts.attempt (parts.ofExcept _) fun _ => parts.pure _
  have owned : ∀ secret, Holds (takeOwnership gateway secret).run := by
    intro secret
    unfold takeOwnership
    split
    · exact parts.fail _
    · exact parts.pure _
    · exact parts.attempt (parts.ask rfl) fun _ => parts.pure _
  refine parts.attempt resolved fun found => ?_
  cases found with
  | none => exact parts.pure _
  | some secret => exact owned secret

theorem reconcileChild (kind : Kind) (rules : List (FieldRule kind.Object))
    (desired : kind.Object) : Holds (reconcileChild kind rules desired).run := by
  unfold GatewayOperator.reconcileChild
  split
  · exact parts.fail _
  · refine parts.attempt (parts.answer rfl) fun answer => ?_
    cases answer with
    | ok existing => exact parts.updateChild kind rules existing desired
    | error cause =>
      dsimp only
      split
      · exact parts.createChild kind desired
      · exact parts.fail _

theorem reconcileChildren (policy : ReplicaPolicy) (desired : DesiredState) :
    Holds (reconcileChildren policy desired).run := by
  refine parts.attempt (parts.reconcileChild _ _ _) fun _ =>
    parts.attempt (parts.reconcileChild _ _ _) fun _ => ?_
  cases desired.ingress with
  | none => exact parts.pure _
  | some ingress => exact parts.attempt (parts.reconcileChild _ _ _) fun _ => parts.pure _

theorem reconcileGateway (policy : ReplicaPolicy) (gateway : Gateway) :
    Holds (reconcileGateway policy gateway).run := by
  refine parts.attempt (parts.reconcileSecret _ _) fun adminPortal => ?_
  split
  · exact parts.pure _
  · refine parts.attempt (parts.reconcileSecret _ _) fun embeddedConfig => ?_
    split
    · exact parts.pure _
    · exact parts.attempt (parts.reconcileChildren _ _) fun _ => parts.pure _

/-- A pass has what its parts have. -/
theorem pass (policy : ReplicaPolicy) (gateway : Gateway) : Holds (pass policy gateway) := by
  refine parts.bind (parts.fillDefaults gateway) fun defaulted => ?_
  split
  · exact parts.done _
  · exact parts.done _
  · exact parts.bind (parts.reconcileGateway policy _) fun _ => parts.done _

end Program.Compositional

end GatewayOperator
