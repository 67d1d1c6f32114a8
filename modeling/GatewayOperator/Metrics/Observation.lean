/-
This file says what is measured of the operator: how passes end and how long they take, and
which objects are created, updated and reported on.
-/

namespace GatewayOperator

/-- Something that is measured. The resource is the kind of the object concerned, and durations
are in nanoseconds. -/
inductive Observation where
  /-- A pass ended without an error. -/
  | succeeded (resource : String) (duration : Nat)
  /-- A pass ended with an error. -/
  | failed (resource : String) (duration : Nat)
  /-- A pass stopped to let a write take effect. -/
  | requeued (resource reason : String)
  /-- An object was created. -/
  | created (resource : String)
  /-- An object was updated. -/
  | updated (resource : String)
  /-- A status was written with the given value of its condition. -/
  | statusWritten (resource ready : String)
  /-- An error of the given reason occurred. -/
  | erred (resource reason : String)
  deriving DecidableEq

end GatewayOperator
