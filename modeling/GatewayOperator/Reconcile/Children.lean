/-
This file brings one object of a gateway to its desired state: an object that is missing is
created, and an object that is there is updated when a managed field differs.
-/

import GatewayOperator.Fields.Table
import GatewayOperator.Reconcile.Secrets

namespace GatewayOperator

/-- What happened to an object. -/
inductive ChildOutcome where
  | created
  | updated (fields : List String)
  | unchanged
  deriving DecidableEq

/-- Creates an object. -/
def createChild (kind : Kind) (desired : kind.Object) : Attempt ChildOutcome := do
  let _ ← Attempt.ask (.create kind desired)
  Attempt.note (.created kind.label)
  return .created

/-- Updates an object whose managed fields differ from the desired ones. -/
def updateChild (kind : Kind) (rules : List (FieldRule kind.Object))
    (existing desired : kind.Object) : Attempt ChildOutcome :=
  let reconciled := reconcileFields desired rules existing
  if reconciled.changed.isEmpty then return .unchanged
  else do
    let _ ← Attempt.ask (.update kind reconciled.object)
    Attempt.note (.updated kind.label)
    return .updated reconciled.changed

/-- Brings an object to its desired state. -/
def reconcileChild (kind : Kind) (rules : List (FieldRule kind.Object)) (desired : kind.Object) :
    Attempt ChildOutcome :=
  match kind.objectName? desired with
  | none => .fail (.store (.missingName kind.label))
  | some name => do
    match ← Attempt.answer (.get kind name.namespaceName name.name) with
    | .ok existing => updateChild kind rules existing desired
    | .error cause => if cause.isNotFound then createChild kind desired else .fail (.store cause)

end GatewayOperator
