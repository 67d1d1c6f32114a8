/-
This file fills in what a gateway leaves open and the operator has to store: the number of
replicas. The other defaults take effect only in the objects that are built.
-/

import GatewayOperator.Gateway.Basic

namespace GatewayOperator

/-- The number of replicas of a gateway that names none. -/
def defaultReplicas : Int32 := 1

namespace Gateway

/-- Whether a default has to be filled in. -/
def lacksDefaults (gateway : Gateway) : Bool := gateway.spec.replicas.isNone

/-- The gateway with its defaults filled in. -/
def withDefaults (gateway : Gateway) : Gateway :=
  { gateway with
    spec := { gateway.spec with replicas := some (gateway.spec.replicas.getD defaultReplicas) } }

/-- Nothing is left to fill in afterwards. -/
theorem lacksDefaults_withDefaults (gateway : Gateway) :
    gateway.withDefaults.lacksDefaults = false := rfl

/-- A gateway that lacks nothing stays as it is. -/
theorem withDefaults_of_not_lacksDefaults {gateway : Gateway}
    (complete : gateway.lacksDefaults = false) : gateway.withDefaults = gateway := by
  rcases gateway with ⟨metadata, ⟨replicas, _⟩, status⟩
  cases replicas with
  | none => exact Bool.noConfusion complete
  | some replicas => rfl

end Gateway

end GatewayOperator
