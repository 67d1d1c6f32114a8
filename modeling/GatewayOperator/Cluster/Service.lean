/-
This file holds Services: the ports they offer, the labels of the pods behind them, and what was
observed of them.
-/

import GatewayOperator.Cluster.Pod

namespace GatewayOperator

/-- A port of a Service. -/
structure ServicePort where
  appProtocol : Option String := none
  name : Option String := none
  nodePort : Option Int32 := none
  port : Int32 := 0
  protocol : Option String := none
  targetPort : Option PortReference := none
  deriving DecidableEq, Inhabited

/-- The JSON form of `ServicePort`. -/
def ServicePort.codec : Codec ServicePort :=
  Codec.object "ServicePort"
    (.cons (Member.optional "appProtocol" Codec.text) <|
     .cons (Member.optional "name" Codec.text) <|
     .cons (Member.optional "nodePort" Codec.int32) <|
     .cons (Member.filled "port" Codec.int32 0) <|
     .cons (Member.optional "protocol" Codec.text) <|
     .cons (Member.optional "targetPort" PortReference.codec) .nil)
    (fun record => (record.appProtocol, record.name, record.nodePort, record.port,
      record.protocol, record.targetPort, ()))
    (fun (appProtocol, name, nodePort, port, protocol, targetPort, ()) =>
      { appProtocol, name, nodePort, port, protocol, targetPort })

theorem ServicePort.codec_lawful : ServicePort.codec.Lawful :=
  Codec.object_lawful ⟨Member.optional_lawful Codec.text_lawful,
    Member.optional_lawful Codec.text_lawful, Member.optional_lawful Codec.int32_lawful,
    Member.filled_lawful Codec.int32_lawful, Member.optional_lawful Codec.text_lawful,
    Member.optional_lawful PortReference.codec_lawful, trivial⟩
    (by decide) (fun _ => rfl)

/-- What the operator does not set of a Service. -/
def ServiceSpec.layout : Layout :=
  [.optional "allocateLoadBalancerNodePorts" .boolean, .optional "clusterIP" .text,
    .optional "clusterIPs" (.list .text), .optional "externalIPs" (.list .text),
    .optional "externalName" .text, .optional "externalTrafficPolicy" .text,
    .optional "healthCheckNodePort" .int32, .optional "internalTrafficPolicy" .text,
    .optional "ipFamilies" (.list .text), .optional "ipFamilyPolicy" .text,
    .optional "loadBalancerClass" .text, .optional "loadBalancerIP" .text,
    .optional "loadBalancerSourceRanges" (.list .text),
    .optional "publishNotReadyAddresses" .boolean, .optional "sessionAffinity" .text,
    .optional "sessionAffinityConfig" (.record "SessionAffinityConfig"
      [.optional "clientIP" (.record "ClientIPConfig" [.optional "timeoutSeconds" .int32])]),
    .optional "trafficDistribution" .text]

/-- What is wanted of a Service. -/
structure ServiceSpec where
  ports : Option (List ServicePort) := none
  selector : Option (Map String) := none
  kind : Option String := none
  others : ServiceSpec.layout.Tuple := ServiceSpec.layout.blank
  deriving DecidableEq, Inhabited

/-- The JSON form of `ServiceSpec`. -/
def ServiceSpec.codec : Codec ServiceSpec :=
  Codec.object "ServiceSpec"
    (.cons (Member.optional "ports" (Codec.list ServicePort.codec)) <|
     .cons (Member.optional "selector" (Codec.map Codec.text)) <|
     .cons (Member.optional "type" Codec.text) ServiceSpec.layout.members)
    (fun record => (record.ports, record.selector, record.kind, record.others))
    (fun (ports, selector, kind, others) =>
      { ports, selector, kind, others })

theorem ServiceSpec.codec_lawful : ServiceSpec.codec.Lawful :=
  Codec.object_lawful ⟨Member.optional_lawful (Codec.list_lawful ServicePort.codec_lawful),
    Member.optional_lawful (Codec.map_lawful Codec.text_lawful),
    Member.optional_lawful Codec.text_lawful, ServiceSpec.layout.members_lawful⟩
    (by decide) (fun _ => rfl)

/-- What may be observed of a Service. -/
def ServiceStatus.layout : Layout :=
  [.optional "conditions" (.list (.record "Condition"
      [.filled "lastTransitionTime" .time, .filled "message" .text,
        .optional "observedGeneration" .int64, .filled "reason" .text, .filled "status" .text,
        .filled "type" .text])),
    .optional "loadBalancer" (.record "LoadBalancerStatus"
      [.optional "ingress" (.list (.record "LoadBalancerIngress"
        [.optional "hostname" .text, .optional "ip" .text, .optional "ipMode" .text,
          .optional "ports" (.list (.portStatus "PortStatus"))]))])]

/-- What was observed of a Service. -/
structure ServiceStatus where
  others : ServiceStatus.layout.Tuple := ServiceStatus.layout.blank
  deriving DecidableEq, Inhabited

/-- The JSON form of `ServiceStatus`. -/
def ServiceStatus.codec : Codec ServiceStatus :=
  Codec.object "ServiceStatus" ServiceStatus.layout.members
    (fun record => record.others)
    (fun others => { others })

theorem ServiceStatus.codec_lawful : ServiceStatus.codec.Lawful :=
  Codec.object_lawful ServiceStatus.layout.members_lawful
    (by decide) (fun _ => rfl)

/-- A Service. -/
structure Service where
  metadata : ObjectMeta := {}
  spec : Option ServiceSpec := none
  status : Option ServiceStatus := none
  deriving DecidableEq, Inhabited

/-- The JSON form of `Service`. -/
def Service.codec : Codec Service :=
  Codec.object "Service"
    (.cons (Member.constant "apiVersion" "v1") <|
     .cons (Member.constant "kind" "Service") <|
     .cons (Member.filled "metadata" ObjectMeta.codec {}) <|
     .cons (Member.optional "spec" ServiceSpec.codec) <|
     .cons (Member.optional "status" ServiceStatus.codec) .nil)
    (fun record => ((), (), record.metadata, record.spec, record.status, ()))
    (fun (_, _, metadata, spec, status, ()) =>
      { metadata, spec, status })

theorem Service.codec_lawful : Service.codec.Lawful :=
  Codec.object_lawful ⟨Member.constant_lawful _ _, Member.constant_lawful _ _,
    Member.filled_lawful ObjectMeta.codec_lawful,
    Member.optional_lawful ServiceSpec.codec_lawful,
    Member.optional_lawful ServiceStatus.codec_lawful, trivial⟩
    (by decide) (fun _ => rfl)

end GatewayOperator
