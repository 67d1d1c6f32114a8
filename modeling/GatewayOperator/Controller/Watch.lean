/-
This file says what the operator watches and which gateways a change concerns. It watches the
gateways and the four kinds of objects that a gateway may own, in one namespace or in all of
them. A change of an object concerns the gateways that its owner references name, whether they
control the object or not, so that a Secret shared by several gateways reaches all of them.
-/

import GatewayOperator.Http.Message
import GatewayOperator.Store.Memory

namespace GatewayOperator

/-- The kinds that are watched. -/
def Kind.watched : List Kind := [.gateway, .deployment, .service, .ingress, .secret]

/-- What is watched: one namespace, or all of them. -/
abbrev Scope : Type := Option String

namespace Scope

/-- Whether a namespace is watched. -/
def sees (scope : Scope) (namespaceName : String) : Bool :=
  scope.all (· = namespaceName)

/-- The path at which the objects of a kind are listed and watched. -/
def path (scope : Scope) (kind : Kind) : String :=
  match scope with
  | none => kind.groupPath ++ "/" ++ kind.plural
  | some namespaceName => kind.groupPath ++ "/namespaces/" ++ namespaceName ++ "/" ++ kind.plural

/-- The targets at which objects are listed and watched. -/
def targets (scope : Scope) : List String :=
  Kind.watched.filterMap fun kind => Http.target? (scope.path kind)

/-- Whether the namespace can be asked for. -/
def isUsable (scope : Scope) : Bool :=
  scope.targets.length = Kind.watched.length

end Scope

/-- Whether an owner reference names a gateway. -/
def OwnerReference.namesGateway (reference : OwnerReference) : Bool :=
  reference.apiVersion = gatewayApiVersion && reference.kind = gatewayKind

/-- The gateways that own an object of a namespace. -/
def owningGateways (metadata : ObjectMeta) : List ObjectName :=
  ((metadata.ownerReferences.getD []).filter (·.namesGateway)).map fun reference =>
    ⟨metadata.namespaceName.getD "", reference.name⟩

/-- The gateways that a change of an object concerns. -/
def Stored.concerns (stored : Stored) : List ObjectName :=
  match stored.kind with
  | .gateway => (stored.kind.objectName? stored.object).toList
  | .deployment | .service | .ingress | .secret => owningGateways stored.metadata
  | .configMap | .coreEvent | .event => []

/-- The gateways that a change concerns in a scope. -/
def Scope.concerned (scope : Scope) (stored : Stored) : List ObjectName :=
  if scope.isUsable && scope.sees (stored.metadata.namespaceName.getD "") then stored.concerns
  else []

end GatewayOperator
