/-
This file resolves the Secrets of a gateway. A Secret that the gateway refers to is read and
checked, and the gateway then takes ownership of it, so that a change of the Secret starts a
pass. The Secret is written only when it had no reference to the gateway before.
-/

import GatewayOperator.Ownership
import GatewayOperator.Secrets.Validation
import GatewayOperator.Store.Program

namespace GatewayOperator

/-- A program that may fail. -/
abbrev Attempt (Result : Type) : Type := ExceptT ReconcileError Program Result

/-- Fails. -/
def Attempt.fail {Result : Type} (cause : ReconcileError) : Attempt Result :=
  ExceptT.mk (.done (.error cause))

/-- Goes on with a value that is there, or fails. -/
def Attempt.ofExcept {Result : Type} (result : Except ReconcileError Result) : Attempt Result :=
  ExceptT.mk (.done result)

/-- Makes a call and fails if it does. -/
def Attempt.ask (request : Call) : Attempt request.kind.Object :=
  ExceptT.mk (.call request fun answer => .done (answer.mapError .store))

/-- Makes a call and goes on with its answer, whatever it is. -/
def Attempt.answer (request : Call) : Attempt request.Answer :=
  ExceptT.mk (.call request fun answer => .done (.ok answer))

/-- Notes what is measured. -/
def Attempt.note (observation : Observation) : Attempt Unit :=
  ExceptT.mk (.observe observation (.done (.ok ())))

/-- What the answer to reading a referenced Secret means for the pass. -/
def SecretRole.found (role : SecretRole) (namespaceName name : String) :
    Except StoreError Secret → Except ReconcileError Secret
  | .ok secret => .ok secret
  | .error (.notFound ..) => .error (.secretNotFound role.field namespaceName name)
  | .error cause => .error (.store cause)

/-- Reads the Secret of a reference. -/
def fetchSecret (role : SecretRole) (gateway : Gateway) (reference : LocalObjectReference) :
    Attempt Secret :=
  if reference.name.isEmpty then .fail (.referenceIncomplete role.field)
  else do
    let answer ← Attempt.answer (.get .secret gateway.namespaceName reference.name)
    Attempt.ofExcept (role.found gateway.namespaceName reference.name answer)

/-- Reads and checks a Secret of a gateway; nothing if the gateway does not refer to one. -/
def resolveSecret (role : SecretRole) (gateway : Gateway) : Attempt (Option Secret) :=
  match role.reference? gateway.spec with
  | none => return none
  | some reference => do
    let secret ← fetchSecret role gateway reference
    Attempt.ofExcept (role.check secret)
    return some secret

/-- A Secret after its resolution, and whether it was written. -/
structure OwnedSecret where
  secret : Option Secret
  changed : Bool

/-- The error of a Secret that somebody else controls. -/
def Secret.alreadyOwned (secret : Secret) (controller : OwnerReference) : ReconcileError :=
  .alreadyOwned Kind.secret.label (secret.metadata.namespaceName.getD "")
    (secret.metadata.name.getD "") controller.kind controller.name

/-- Makes a gateway the owner of a Secret. -/
def takeOwnership (gateway : Gateway) (secret : Secret) : Attempt OwnedSecret :=
  match secret.metadata.claim gateway.ownerReference with
  | .refused controller => .fail (secret.alreadyOwned controller)
  | .refreshed metadata => return ⟨some { secret with metadata }, false⟩
  | .appended metadata => do
    let updated ← Attempt.ask (.update .secret { secret with metadata })
    return ⟨some updated, true⟩

/-- Resolves a Secret of a gateway and takes ownership of it. -/
def reconcileSecret (role : SecretRole) (gateway : Gateway) : Attempt OwnedSecret := do
  match ← resolveSecret role gateway with
  | none => return ⟨none, false⟩
  | some secret => takeOwnership gateway secret

end GatewayOperator
