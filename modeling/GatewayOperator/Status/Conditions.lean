/-
This file keeps the conditions of a gateway. There is one condition of a kind, which is updated
in place; the time of its last transition stays as long as its status does, and a condition that
says the same as before is not written again.
-/

import GatewayOperator.Gateway.Basic
import GatewayOperator.Failure

namespace GatewayOperator

/-- The kind of the one condition the operator maintains. -/
def readyKind : String := "Ready"

/-- The status of a condition that holds. -/
def statusTrue : String := "True"

/-- The status of a condition that does not hold. -/
def statusFalse : String := "False"

/-- The reason of a pass that converged. -/
def reconciledReason : String := "Reconciled"

/-- The message of a pass that converged. -/
def readyMessage : String := "Deployment, Service and Ingress match the APIcast spec"

/-- A condition that is observed now. -/
def Condition.observed (now kind status reason message : String) : Condition where
  kind := kind
  status := status
  reason := some reason
  message := some message
  lastTransitionTime := some now

/-- Whether a condition says something else than the present one. Times and reasons do not
count. -/
def conditionChanged (existing : Option Condition) (condition : Condition) : Bool :=
  match existing with
  | none => true
  | some current =>
    current.kind != condition.kind || current.status != condition.status ||
      current.message != condition.message

/-- The first condition of a kind. -/
def findCondition (kind : String) (conditions : List Condition) : Option Condition :=
  conditions.find? (·.kind = kind)

/-- A condition after an update of the same kind. -/
def Condition.update (existing condition : Condition) : Condition where
  kind := existing.kind
  status := condition.status
  reason := condition.reason
  message := condition.message
  lastTransitionTime :=
    if existing.status = condition.status then
      existing.lastTransitionTime.or condition.lastTransitionTime
    else condition.lastTransitionTime

/-- Updates the first condition of a kind, or adds the condition at the end. -/
def updateCondition (condition : Condition) : List Condition → List Condition
  | [] => [condition]
  | existing :: rest =>
    if existing.kind = condition.kind then existing.update condition :: rest
    else existing :: updateCondition condition rest

/-- The condition that reports the result of a pass: that it converged, or the error. -/
def readyCondition (now : String) : Option ReconcileError → Condition
  | none => .observed now readyKind statusTrue reconciledReason readyMessage
  | some error => .observed now readyKind statusFalse error.reason error.message

/-- The condition `Ready` of a gateway. -/
def Gateway.ready? (gateway : Gateway) : Option Condition :=
  gateway.status.bind fun status => findCondition readyKind status.conditions

/-- The gateway with a condition updated. -/
def Gateway.withCondition (gateway : Gateway) (condition : Condition) : Gateway :=
  { gateway with
    status := some
      { conditions := updateCondition condition ((gateway.status.getD {}).conditions) } }

end GatewayOperator
