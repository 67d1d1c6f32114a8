/-
This file walks one pass over a gateway. First the defaults are stored, then the Secrets are
resolved and owned, then the desired objects are computed and brought about one after the other.
A stage that writes what the next stage depends on ends the pass, and the next pass starts from
what was written. An error ends the pass, and nothing is written after it.
-/

import GatewayOperator.Gateway.DesiredState
import GatewayOperator.Reconcile.Children

namespace GatewayOperator

/-- Why a pass stopped early. -/
inductive RequeueReason where
  /-- Defaults were written to the gateway. -/
  | defaultsApplied
  /-- The gateway became an owner of the admin portal Secret. -/
  | adminPortalSecretOwned
  /-- The gateway became an owner of the configuration Secret. -/
  | embeddedConfigSecretOwned
  deriving DecidableEq

/-- The word for a reason. -/
def RequeueReason.word : RequeueReason → String
  | defaultsApplied => "defaults_applied"
  | adminPortalSecretOwned => "admin_portal_secret_owned"
  | embeddedConfigSecretOwned => "embedded_config_secret_owned"

/-- How a pass ended that did not fail. -/
inductive Outcome where
  /-- Every object is as desired. -/
  | done
  /-- A write has to take effect first. -/
  | requeue (reason : RequeueReason)
  deriving DecidableEq

/-- After how many seconds the next pass is due. A pass that converged waits for the periodic
one. -/
def Outcome.requeueSeconds (resyncSeconds : Nat) : Outcome → Nat
  | done => resyncSeconds
  | requeue _ => 1

/-- A pass that has ended: its result, and the gateway as it was last read or written. -/
structure PassResult where
  result : Except ReconcileError Outcome
  gateway : Gateway

/-- Whether defaults were stored, and the gateway afterwards. -/
structure Defaulted where
  result : Except ReconcileError Bool
  gateway : Gateway

/-- Stores the defaults a gateway lacks. When the update fails, the defaults stay in the copy at
hand. -/
def fillDefaults (gateway : Gateway) : Program Defaulted :=
  if gateway.lacksDefaults then
    .call (.update .gateway gateway.withDefaults) fun
      | .ok updated => .done ⟨.ok true, updated⟩
      | .error cause => .done ⟨.error (.store cause), gateway.withDefaults⟩
  else .done ⟨.ok false, gateway⟩

/-- Brings the objects of a gateway about. -/
def reconcileChildren (policy : ReplicaPolicy) (desired : DesiredState) : Attempt Unit := do
  let _ ← reconcileChild .deployment (Deployment.rules policy) desired.deployment
  let _ ← reconcileChild .service Service.rules desired.service
  match desired.ingress with
  | none => return
  | some ingress => do
    let _ ← reconcileChild .ingress Ingress.rules ingress

/-- The stages behind the defaults. -/
def reconcileGateway (policy : ReplicaPolicy) (gateway : Gateway) : Attempt Outcome := do
  let adminPortal ← reconcileSecret .adminPortal gateway
  if adminPortal.changed then
    return .requeue .adminPortalSecretOwned
  let embeddedConfig ← reconcileSecret .embeddedConfig gateway
  if embeddedConfig.changed then
    return .requeue .embeddedConfigSecretOwned
  reconcileChildren policy <| desiredState gateway
    { adminPortal := adminPortal.secret.map Secret.resolved
      embeddedConfig := embeddedConfig.secret.map Secret.resolved }
  return .done

/-- One pass over a gateway. -/
def pass (policy : ReplicaPolicy) (gateway : Gateway) : Program PassResult := do
  let defaulted ← fillDefaults gateway
  match defaulted.result with
  | .error cause => return ⟨.error cause, defaulted.gateway⟩
  | .ok true => return ⟨.ok (.requeue .defaultsApplied), defaulted.gateway⟩
  | .ok false => do
    let result ← (reconcileGateway policy defaulted.gateway).run
    return ⟨result, defaulted.gateway⟩

/-- The objects a gateway should have, without writing anything: the defaults are filled in on
a copy, and the Secrets are resolved but not owned. -/
def inspect (gateway : Gateway) : Attempt DesiredState := do
  let complete := gateway.withDefaults
  let adminPortal ← resolveSecret .adminPortal complete
  let embeddedConfig ← resolveSecret .embeddedConfig complete
  return desiredState complete
    { adminPortal := adminPortal.map Secret.resolved
      embeddedConfig := embeddedConfig.map Secret.resolved }

end GatewayOperator
