/-
This file names and labels the objects of a gateway. The Deployment, the Service and the Ingress
share one name, which is that of the gateway behind a fixed stem, and the label that selects the
pods of a gateway carries that name, so two gateways of a namespace never select each other's
pods.
-/

import GatewayOperator.Gateway.Basic

namespace GatewayOperator

/-- The namespace and the name of an object. -/
structure ObjectName where
  namespaceName : String
  name : String
  deriving DecidableEq

/-- The name of the Deployment, the Service and the Ingress of a gateway. -/
def childName (gatewayName : String) : String := "apicast-" ++ gatewayName

/-- The labels that select the pods of a gateway. -/
def selectorLabels (gatewayName : String) : Map String :=
  Map.empty.insert "deployment" (childName gatewayName)

/-- The labels of every object of a gateway. -/
def gatewayLabels (gatewayName : String) : Map String :=
  ((((selectorLabels gatewayName).insert "app" "apicast").insert
    "app.kubernetes.io/instance" gatewayName).insert
    "app.kubernetes.io/managed-by" "apicast-operator").insert
    "app.kubernetes.io/part-of" "3scale-api-management"

namespace Gateway

/-- The name of a gateway. -/
def name (gateway : Gateway) : String := gateway.metadata.anyName

/-- The namespace of a gateway, empty when it has none. -/
def namespaceName (gateway : Gateway) : String := gateway.metadata.namespaceName.getD ""

/-- The reference by which a gateway controls an object. An object with this reference is
removed together with the gateway. -/
def ownerReference (gateway : Gateway) : OwnerReference where
  apiVersion := gatewayApiVersion
  blockOwnerDeletion := some true
  controller := some true
  kind := gatewayKind
  name := gateway.name
  uid := gateway.metadata.uid.getD ""

/-- The metadata of the objects of a gateway. -/
def childMetadata (gateway : Gateway) : ObjectMeta where
  name := some (childName gateway.name)
  namespaceName := gateway.metadata.namespaceName
  labels := some (gatewayLabels gateway.name)
  ownerReferences := some [gateway.ownerReference]

end Gateway

/-- Objects of gateways with different names have different names. -/
theorem childName_injective {first second : String}
    (equal : childName first = childName second) : first = second := by
  unfold childName at equal
  exact String.append_right_inj _ |>.mp equal

end GatewayOperator
