/-
This file reports the result of a pass as the condition of the gateway. A requeue and a failure
of the store leave the condition alone: the first is a step on the way, and the second passes
without the user. The status is written only when the condition says something new.
-/

import GatewayOperator.Reconcile.Pass
import GatewayOperator.Status.Conditions

namespace GatewayOperator

/-- What of a result is reported: nothing, that the pass converged, or its error. -/
inductive Report where
  | nothing
  | converged
  | error (cause : ReconcileError)

/-- What of a result is reported. -/
def Report.ofResult : Except ReconcileError Outcome → Report
  | .ok .done => converged
  | .ok (.requeue _) => nothing
  | .error cause => if cause.isReported then error cause else nothing

/-- The condition that makes a report. -/
def Report.condition? (now : String) : Report → Option Condition
  | nothing => none
  | converged => some (readyCondition now none)
  | error cause => some (readyCondition now (some cause))

/-- Writes a condition unless the gateway has one that says the same, and answers whether it
was written. -/
def writeCondition (gateway : Gateway) (condition : Condition) :
    Program (Except StoreError Bool) :=
  if conditionChanged gateway.ready? condition then
    .call (.updateStatus (gateway.withCondition condition)) fun
      | .ok _ => .observe (.statusWritten gatewayKind condition.status) (.done (.ok true))
      | .error cause => .done (.error cause)
  else .done (.ok false)

/-- Reports the result of a pass over a gateway, and answers whether the status was written. -/
def report (now : String) (gateway : Gateway) (result : Except ReconcileError Outcome) :
    Program (Except StoreError Bool) :=
  match (Report.ofResult result).condition? now with
  | none => .done (.ok false)
  | some condition => writeCondition gateway condition

end GatewayOperator
