/-
This file names the kinds of objects that a store holds, with the type of their objects, their
JSON form, and their place in the interface of the cluster.
-/

import GatewayOperator.Cluster.Deployment
import GatewayOperator.Cluster.Event
import GatewayOperator.Cluster.Secret
import GatewayOperator.Cluster.Service
import GatewayOperator.Gateway.Naming

namespace GatewayOperator

/-- The kinds of objects. -/
inductive Kind where
  | gateway
  | deployment
  | service
  | ingress
  | secret
  | configMap
  | coreEvent
  | event
  deriving DecidableEq

namespace Kind

/-- The objects of a kind. -/
abbrev Object : Kind → Type
  | gateway => Gateway
  | deployment => Deployment
  | service => Service
  | ingress => Ingress
  | secret => Secret
  | configMap => ConfigMap
  | coreEvent => CoreEvent
  | event => Event

/-- The JSON form of the objects of a kind. -/
def codec : (kind : Kind) → Codec kind.Object
  | gateway => Gateway.codec
  | deployment => Deployment.codec
  | service => Service.codec
  | ingress => Ingress.codec
  | secret => Secret.codec
  | configMap => ConfigMap.codec
  | coreEvent => CoreEvent.codec
  | event => Event.codec

/-- Every object of every kind is read back from its JSON form. -/
theorem codec_lawful (kind : Kind) : kind.codec.Lawful := by
  cases kind
  · exact Gateway.codec_lawful
  · exact Deployment.codec_lawful
  · exact Service.codec_lawful
  · exact Ingress.codec_lawful
  · exact Secret.codec_lawful
  · exact ConfigMap.codec_lawful
  · exact CoreEvent.codec_lawful
  · exact Event.codec_lawful

/-- The metadata of an object. -/
def metadata : (kind : Kind) → kind.Object → ObjectMeta
  | gateway, object => object.metadata
  | deployment, object => object.metadata
  | service, object => object.metadata
  | ingress, object => object.metadata
  | secret, object => object.metadata
  | configMap, object => object.metadata
  | coreEvent, object => object.metadata
  | event, object => object.metadata

/-- An object with other metadata. -/
def withMetadata : (kind : Kind) → kind.Object → ObjectMeta → kind.Object
  | gateway, object, metadata => { object with metadata }
  | deployment, object, metadata => { object with metadata }
  | service, object, metadata => { object with metadata }
  | ingress, object, metadata => { object with metadata }
  | secret, object, metadata => { object with metadata }
  | configMap, object, metadata => { object with metadata }
  | coreEvent, object, metadata => { object with metadata }
  | event, object, metadata => { object with metadata }

@[simp] theorem metadata_withMetadata (kind : Kind) (object : kind.Object)
    (metadata : ObjectMeta) :
    kind.metadata (kind.withMetadata object metadata) = metadata := by
  cases kind <;> rfl

/-- An object with the status of another one, for the kinds that have a status. -/
def withStatusOf : (kind : Kind) → kind.Object → kind.Object → kind.Object
  | gateway, object, other => { object with status := other.status }
  | deployment, object, other => { object with status := other.status }
  | service, object, other => { object with status := other.status }
  | ingress, object, other => { object with status := other.status }
  | secret, object, _ => object
  | configMap, object, _ => object
  | coreEvent, object, _ => object
  | event, object, _ => object

@[simp] theorem metadata_withStatusOf (kind : Kind) (object other : kind.Object) :
    kind.metadata (kind.withStatusOf object other) = kind.metadata object := by
  cases kind <;> rfl

/-- The word for a kind. The two versions of Events share theirs. -/
def label : Kind → String
  | gateway => gatewayKind
  | deployment => "Deployment"
  | service => "Service"
  | ingress => "Ingress"
  | secret => "Secret"
  | configMap => "ConfigMap"
  | coreEvent => "Event"
  | event => "Event"

/-- The path of the group and version of a kind in the interface of the cluster. -/
def groupPath : Kind → String
  | gateway => "/apis/" ++ gatewayApiVersion
  | deployment => "/apis/apps/v1"
  | ingress => "/apis/networking.k8s.io/v1"
  | event => "/apis/events.k8s.io/v1"
  | service | secret | configMap | coreEvent => "/api/v1"

/-- The word for the objects of a kind in the interface of the cluster. -/
def plural : Kind → String
  | gateway => "apicasts"
  | deployment => "deployments"
  | service => "services"
  | ingress => "ingresses"
  | secret => "secrets"
  | configMap => "configmaps"
  | coreEvent => "events"
  | event => "events"

/-- The namespace of an object, empty when it has none. -/
def namespaceName (kind : Kind) (object : kind.Object) : String :=
  (kind.metadata object).namespaceName.getD ""

/-- The namespace and the name of an object; nothing if it has no name. -/
def objectName? (kind : Kind) (object : kind.Object) : Option ObjectName :=
  (kind.metadata object).name.map fun name => ⟨kind.namespaceName object, name⟩

end Kind

end GatewayOperator
