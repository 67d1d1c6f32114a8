/-
This file holds Ingresses: the hosts they route, the paths of each host, and the certificates
of the hosts.
-/

import GatewayOperator.Cluster.Metadata

namespace GatewayOperator

/-- A port of a Service by its number or its name. -/
structure ServiceBackendPort where
  name : Option String := none
  number : Option Int32 := none
  deriving DecidableEq, Inhabited

/-- The JSON form of `ServiceBackendPort`. -/
def ServiceBackendPort.codec : Codec ServiceBackendPort :=
  Codec.object "ServiceBackendPort"
    (.cons (Member.optional "name" Codec.text) <|
     .cons (Member.optional "number" Codec.int32) .nil)
    (fun record => (record.name, record.number, ()))
    (fun (name, number, ()) =>
      { name, number })

theorem ServiceBackendPort.codec_lawful : ServiceBackendPort.codec.Lawful :=
  Codec.object_lawful ⟨Member.optional_lawful Codec.text_lawful,
    Member.optional_lawful Codec.int32_lawful, trivial⟩
    (by decide) (fun _ => rfl)

/-- A Service as the target of a route. -/
structure IngressServiceBackend where
  name : String := ""
  port : Option ServiceBackendPort := none
  deriving DecidableEq, Inhabited

/-- The JSON form of `IngressServiceBackend`. -/
def IngressServiceBackend.codec : Codec IngressServiceBackend :=
  Codec.object "IngressServiceBackend"
    (.cons (Member.filled "name" Codec.text "") <|
     .cons (Member.optional "port" ServiceBackendPort.codec) .nil)
    (fun record => (record.name, record.port, ()))
    (fun (name, port, ()) =>
      { name, port })

theorem IngressServiceBackend.codec_lawful : IngressServiceBackend.codec.Lawful :=
  Codec.object_lawful ⟨Member.filled_lawful Codec.text_lawful,
    Member.optional_lawful ServiceBackendPort.codec_lawful, trivial⟩
    (by decide) (fun _ => rfl)

/-- A target that is no Service. -/
def IngressBackend.layout : Layout := [.optional "resource" .typedLocalObjectReference]

/-- The target of a route. -/
structure IngressBackend where
  service : Option IngressServiceBackend := none
  others : IngressBackend.layout.Tuple := IngressBackend.layout.blank
  deriving DecidableEq, Inhabited

/-- The JSON form of `IngressBackend`. -/
def IngressBackend.codec : Codec IngressBackend :=
  Codec.object "IngressBackend"
    (.cons (Member.optional "service" IngressServiceBackend.codec) IngressBackend.layout.members)
    (fun record => (record.service, record.others))
    (fun (service, others) =>
      { service, others })

theorem IngressBackend.codec_lawful : IngressBackend.codec.Lawful :=
  Codec.object_lawful ⟨Member.optional_lawful IngressServiceBackend.codec_lawful,
    IngressBackend.layout.members_lawful⟩
    (by decide) (fun _ => rfl)

/-- A route for a path. -/
structure HTTPIngressPath where
  backend : IngressBackend := {}
  path : Option String := none
  pathType : String := ""
  deriving DecidableEq, Inhabited

/-- The JSON form of `HTTPIngressPath`. -/
def HTTPIngressPath.codec : Codec HTTPIngressPath :=
  Codec.object "HTTPIngressPath"
    (.cons (Member.filled "backend" IngressBackend.codec {}) <|
     .cons (Member.optional "path" Codec.text) <|
     .cons (Member.filled "pathType" Codec.text "") .nil)
    (fun record => (record.backend, record.path, record.pathType, ()))
    (fun (backend, path, pathType, ()) =>
      { backend, path, pathType })

theorem HTTPIngressPath.codec_lawful : HTTPIngressPath.codec.Lawful :=
  Codec.object_lawful ⟨Member.filled_lawful IngressBackend.codec_lawful,
    Member.optional_lawful Codec.text_lawful, Member.filled_lawful Codec.text_lawful, trivial⟩
    (by decide) (fun _ => rfl)

/-- The routes of a host. -/
structure HTTPIngressRuleValue where
  paths : List HTTPIngressPath := []
  deriving DecidableEq, Inhabited

/-- The JSON form of `HTTPIngressRuleValue`. -/
def HTTPIngressRuleValue.codec : Codec HTTPIngressRuleValue :=
  Codec.object "HTTPIngressRuleValue"
    (.cons (Member.filled "paths" (Codec.list HTTPIngressPath.codec) []) .nil)
    (fun record => (record.paths, ()))
    (fun (paths, ()) =>
      { paths })

theorem HTTPIngressRuleValue.codec_lawful : HTTPIngressRuleValue.codec.Lawful :=
  Codec.object_lawful ⟨Member.filled_lawful (Codec.list_lawful HTTPIngressPath.codec_lawful),
    trivial⟩
    (by decide) (fun _ => rfl)

/-- A host and its routes. -/
structure IngressRule where
  host : Option String := none
  http : Option HTTPIngressRuleValue := none
  deriving DecidableEq, Inhabited

/-- The JSON form of `IngressRule`. -/
def IngressRule.codec : Codec IngressRule :=
  Codec.object "IngressRule"
    (.cons (Member.optional "host" Codec.text) <|
     .cons (Member.optional "http" HTTPIngressRuleValue.codec) .nil)
    (fun record => (record.host, record.http, ()))
    (fun (host, http, ()) =>
      { host, http })

theorem IngressRule.codec_lawful : IngressRule.codec.Lawful :=
  Codec.object_lawful ⟨Member.optional_lawful Codec.text_lawful,
    Member.optional_lawful HTTPIngressRuleValue.codec_lawful, trivial⟩
    (by decide) (fun _ => rfl)

/-- The certificate of some hosts. -/
structure IngressTLS where
  hosts : Option (List String) := none
  secretName : Option String := none
  deriving DecidableEq, Inhabited

/-- The JSON form of `IngressTLS`. -/
def IngressTLS.codec : Codec IngressTLS :=
  Codec.object "IngressTLS"
    (.cons (Member.optional "hosts" (Codec.list Codec.text)) <|
     .cons (Member.optional "secretName" Codec.text) .nil)
    (fun record => (record.hosts, record.secretName, ()))
    (fun (hosts, secretName, ()) =>
      { hosts, secretName })

theorem IngressTLS.codec_lawful : IngressTLS.codec.Lawful :=
  Codec.object_lawful ⟨Member.optional_lawful (Codec.list_lawful Codec.text_lawful),
    Member.optional_lawful Codec.text_lawful, trivial⟩
    (by decide) (fun _ => rfl)

/-- What is wanted of an Ingress. -/
structure IngressSpec where
  defaultBackend : Option IngressBackend := none
  ingressClassName : Option String := none
  rules : Option (List IngressRule) := none
  tls : Option (List IngressTLS) := none
  deriving DecidableEq, Inhabited

/-- The JSON form of `IngressSpec`. -/
def IngressSpec.codec : Codec IngressSpec :=
  Codec.object "IngressSpec"
    (.cons (Member.optional "defaultBackend" IngressBackend.codec) <|
     .cons (Member.optional "ingressClassName" Codec.text) <|
     .cons (Member.optional "rules" (Codec.list IngressRule.codec)) <|
     .cons (Member.optional "tls" (Codec.list IngressTLS.codec)) .nil)
    (fun record => (record.defaultBackend, record.ingressClassName, record.rules, record.tls, ()))
    (fun (defaultBackend, ingressClassName, rules, tls, ()) =>
      { defaultBackend, ingressClassName, rules, tls })

theorem IngressSpec.codec_lawful : IngressSpec.codec.Lawful :=
  Codec.object_lawful ⟨Member.optional_lawful IngressBackend.codec_lawful,
    Member.optional_lawful Codec.text_lawful,
    Member.optional_lawful (Codec.list_lawful IngressRule.codec_lawful),
    Member.optional_lawful (Codec.list_lawful IngressTLS.codec_lawful), trivial⟩
    (by decide) (fun _ => rfl)

/-- What is said of an address beside its number. -/
def IngressLoadBalancerIngress.layout : Layout :=
  [.optional "hostname" .text, .optional "ports" (.list (.portStatus "IngressPortStatus"))]

/-- An address of a load balancer. -/
structure IngressLoadBalancerIngress where
  ip : Option String := none
  others : IngressLoadBalancerIngress.layout.Tuple := IngressLoadBalancerIngress.layout.blank
  deriving DecidableEq, Inhabited

/-- The JSON form of `IngressLoadBalancerIngress`. -/
def IngressLoadBalancerIngress.codec : Codec IngressLoadBalancerIngress :=
  Codec.object "IngressLoadBalancerIngress"
    (.cons (Member.optional "ip" Codec.text) IngressLoadBalancerIngress.layout.members)
    (fun record => (record.ip, record.others))
    (fun (ip, others) =>
      { ip, others })

theorem IngressLoadBalancerIngress.codec_lawful : IngressLoadBalancerIngress.codec.Lawful :=
  Codec.object_lawful ⟨Member.optional_lawful Codec.text_lawful,
    IngressLoadBalancerIngress.layout.members_lawful⟩
    (by decide) (fun _ => rfl)

/-- The addresses of a load balancer. -/
structure IngressLoadBalancerStatus where
  addresses : Option (List IngressLoadBalancerIngress) := none
  deriving DecidableEq, Inhabited

/-- The JSON form of `IngressLoadBalancerStatus`. -/
def IngressLoadBalancerStatus.codec : Codec IngressLoadBalancerStatus :=
  Codec.object "IngressLoadBalancerStatus"
    (.cons (Member.optional "ingress" (Codec.list IngressLoadBalancerIngress.codec)) .nil)
    (fun record => (record.addresses, ()))
    (fun (addresses, ()) =>
      { addresses })

theorem IngressLoadBalancerStatus.codec_lawful : IngressLoadBalancerStatus.codec.Lawful :=
  Codec.object_lawful ⟨
    Member.optional_lawful (Codec.list_lawful IngressLoadBalancerIngress.codec_lawful), trivial⟩
    (by decide) (fun _ => rfl)

/-- What was observed of an Ingress. -/
structure IngressStatus where
  loadBalancer : Option IngressLoadBalancerStatus := none
  deriving DecidableEq, Inhabited

/-- The JSON form of `IngressStatus`. -/
def IngressStatus.codec : Codec IngressStatus :=
  Codec.object "IngressStatus"
    (.cons (Member.optional "loadBalancer" IngressLoadBalancerStatus.codec) .nil)
    (fun record => (record.loadBalancer, ()))
    (fun (loadBalancer, ()) =>
      { loadBalancer })

theorem IngressStatus.codec_lawful : IngressStatus.codec.Lawful :=
  Codec.object_lawful ⟨Member.optional_lawful IngressLoadBalancerStatus.codec_lawful, trivial⟩
    (by decide) (fun _ => rfl)

/-- An Ingress. -/
structure Ingress where
  metadata : ObjectMeta := {}
  spec : Option IngressSpec := none
  status : Option IngressStatus := none
  deriving DecidableEq, Inhabited

/-- The JSON form of `Ingress`. -/
def Ingress.codec : Codec Ingress :=
  Codec.object "Ingress"
    (.cons (Member.constant "apiVersion" "networking.k8s.io/v1") <|
     .cons (Member.constant "kind" "Ingress") <|
     .cons (Member.filled "metadata" ObjectMeta.codec {}) <|
     .cons (Member.optional "spec" IngressSpec.codec) <|
     .cons (Member.optional "status" IngressStatus.codec) .nil)
    (fun record => ((), (), record.metadata, record.spec, record.status, ()))
    (fun (_, _, metadata, spec, status, ()) =>
      { metadata, spec, status })

theorem Ingress.codec_lawful : Ingress.codec.Lawful :=
  Codec.object_lawful ⟨Member.constant_lawful _ _, Member.constant_lawful _ _,
    Member.filled_lawful ObjectMeta.codec_lawful,
    Member.optional_lawful IngressSpec.codec_lawful,
    Member.optional_lawful IngressStatus.codec_lawful, trivial⟩
    (by decide) (fun _ => rfl)

end GatewayOperator
