/-
This file says what happens when the operator turns to a gateway: a pass, its report, and the
time after which it comes back. A report that cannot be written does not fail the visit, because
the next visit reports again.
-/

import GatewayOperator.Config.Basic
import GatewayOperator.Reconcile.Report

namespace GatewayOperator

/-- What the clock says of a visit: the time of day, as it is written into a condition, and the
nanoseconds that the pass takes. -/
structure ClockReading where
  now : String
  elapsed : Nat := 0

/-- What is measured of the end of a pass. -/
def Observation.ofResult (elapsed : Nat) : Except ReconcileError Outcome → Observation
  | .ok .done => succeeded gatewayKind elapsed
  | .ok (.requeue reason) => requeued gatewayKind reason.word
  | .error _ => failed gatewayKind elapsed

/-- Runs a pass over a gateway and reports it. The answer is the number of seconds after which
the next visit is due. -/
def reconcileAndReport (config : Config) (clock : ClockReading) (gateway : Gateway) :
    Program (Except ReconcileError Nat) := do
  let ended ← pass config.replicaPolicy gateway
  let _ ← report clock.now ended.gateway ended.result
  Program.note (.ofResult clock.elapsed ended.result)
  return ended.result.map (Outcome.requeueSeconds config.resyncSeconds)

/-- Counts an error and says after how many seconds the next visit is due. -/
def handleError (cause : ReconcileError) : Program Nat := do
  Program.note (.erred gatewayKind cause.reason)
  return cause.requeueSeconds

/-- A visit that has ended: the error of its pass, and the seconds until the next visit. -/
structure Visit where
  error : Option ReconcileError
  requeueSeconds : Nat

/-- A visit to a gateway. -/
def visit (config : Config) (clock : ClockReading) (gateway : Gateway) : Program Visit := do
  match ← reconcileAndReport config clock gateway with
  | .ok seconds => return ⟨none, seconds⟩
  | .error cause => return ⟨some cause, ← handleError cause⟩

end GatewayOperator
