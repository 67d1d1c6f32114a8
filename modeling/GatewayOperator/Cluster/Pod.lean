/-
This file holds what a Deployment says of its pods: containers with their environment, ports,
mounts and probes, and volumes. What the operator sets or looks at has a field of its own. The other
members that a pod may have are kept as the values of a layout, so they are refused when they have
another type and are written back as they were read; a member that a pod cannot have is ignored.
-/

import GatewayOperator.Cluster.Placement
import GatewayOperator.Cluster.Volume

namespace GatewayOperator

/-- A port given by its number or by its name. -/
inductive PortReference where
  | number (value : Int32)
  | name (value : String)
  deriving DecidableEq

instance : Inhabited PortReference := ⟨.number 0⟩

/-- The JSON form of a port reference: an integer or a string. -/
def PortReference.codec : Codec PortReference where
  write
    | .number value => Codec.int32.write value
    | .name value => Codec.text.write value
  read
    | .integer value => (Codec.int32.read (.integer value)).map .number
    | .string value => .ok (.name value)
    | found => .error (found.mismatch "IntOrString")

theorem PortReference.codec_lawful : PortReference.codec.Lawful where
  read_write
    | .number value =>
      congrArg (Except.map PortReference.number) (Codec.int32_lawful.read_write value)
    | .name _ => rfl
  write_ne_null
    | .number _ => nofun
    | .name _ => nofun

/-- A key of a Secret. -/
structure SecretKeySelector where
  key : String := ""
  name : String := ""
  isOptional : Option Bool := none
  deriving DecidableEq, Inhabited

/-- The JSON form of `SecretKeySelector`. -/
def SecretKeySelector.codec : Codec SecretKeySelector :=
  Codec.object "SecretKeySelector"
    (.cons (Member.filled "key" Codec.text "") <|
     .cons (Member.filled "name" Codec.text "") <|
     .cons (Member.optional "optional" Codec.boolean) .nil)
    (fun record => (record.key, record.name, record.isOptional, ()))
    (fun (key, name, isOptional, ()) =>
      { key, name, isOptional })

theorem SecretKeySelector.codec_lawful : SecretKeySelector.codec.Lawful :=
  Codec.object_lawful ⟨Member.filled_lawful Codec.text_lawful,
    Member.filled_lawful Codec.text_lawful, Member.optional_lawful Codec.boolean_lawful, trivial⟩
    (by decide) (fun _ => rfl)

/-- A key of a ConfigMap. -/
structure ConfigMapKeySelector where
  key : String := ""
  name : String := ""
  isOptional : Option Bool := none
  deriving DecidableEq, Inhabited

/-- The JSON form of `ConfigMapKeySelector`. -/
def ConfigMapKeySelector.codec : Codec ConfigMapKeySelector :=
  Codec.object "ConfigMapKeySelector"
    (.cons (Member.filled "key" Codec.text "") <|
     .cons (Member.filled "name" Codec.text "") <|
     .cons (Member.optional "optional" Codec.boolean) .nil)
    (fun record => (record.key, record.name, record.isOptional, ()))
    (fun (key, name, isOptional, ()) =>
      { key, name, isOptional })

theorem ConfigMapKeySelector.codec_lawful : ConfigMapKeySelector.codec.Lawful :=
  Codec.object_lawful ⟨Member.filled_lawful Codec.text_lawful,
    Member.filled_lawful Codec.text_lawful, Member.optional_lawful Codec.boolean_lawful, trivial⟩
    (by decide) (fun _ => rfl)

/-- A source of a value that the operator does not use. -/
def EnvVarSource.layout : Layout := [.optional "resourceFieldRef" .resourceFieldSelector]

/-- Where the value of an environment variable comes from. -/
structure EnvVarSource where
  configMapKeyRef : Option ConfigMapKeySelector := none
  fieldRef : Option ObjectFieldSelector := none
  secretKeyRef : Option SecretKeySelector := none
  others : EnvVarSource.layout.Tuple := EnvVarSource.layout.blank
  deriving DecidableEq, Inhabited

/-- The JSON form of `EnvVarSource`. -/
def EnvVarSource.codec : Codec EnvVarSource :=
  Codec.object "EnvVarSource"
    (.cons (Member.optional "configMapKeyRef" ConfigMapKeySelector.codec) <|
     .cons (Member.optional "fieldRef" ObjectFieldSelector.codec) <|
     .cons (Member.optional "secretKeyRef" SecretKeySelector.codec) EnvVarSource.layout.members)
    (fun record => (record.configMapKeyRef, record.fieldRef, record.secretKeyRef, record.others))
    (fun (configMapKeyRef, fieldRef, secretKeyRef, others) =>
      { configMapKeyRef, fieldRef, secretKeyRef, others })

theorem EnvVarSource.codec_lawful : EnvVarSource.codec.Lawful :=
  Codec.object_lawful ⟨Member.optional_lawful ConfigMapKeySelector.codec_lawful,
    Member.optional_lawful ObjectFieldSelector.codec_lawful,
    Member.optional_lawful SecretKeySelector.codec_lawful, EnvVarSource.layout.members_lawful⟩
    (by decide) (fun _ => rfl)

/-- An environment variable of a container. -/
structure EnvVar where
  name : String := ""
  value : Option String := none
  valueFrom : Option EnvVarSource := none
  deriving DecidableEq, Inhabited

/-- The JSON form of `EnvVar`. -/
def EnvVar.codec : Codec EnvVar :=
  Codec.object "EnvVar"
    (.cons (Member.filled "name" Codec.text "") <|
     .cons (Member.optional "value" Codec.text) <|
     .cons (Member.optional "valueFrom" EnvVarSource.codec) .nil)
    (fun record => (record.name, record.value, record.valueFrom, ()))
    (fun (name, value, valueFrom, ()) =>
      { name, value, valueFrom })

theorem EnvVar.codec_lawful : EnvVar.codec.Lawful :=
  Codec.object_lawful ⟨Member.filled_lawful Codec.text_lawful,
    Member.optional_lawful Codec.text_lawful, Member.optional_lawful EnvVarSource.codec_lawful,
    trivial⟩
    (by decide) (fun _ => rfl)

/-- A port of a container. -/
structure ContainerPort where
  containerPort : Int32 := 0
  hostIP : Option String := none
  hostPort : Option Int32 := none
  name : Option String := none
  protocol : Option String := none
  deriving DecidableEq, Inhabited

/-- The JSON form of `ContainerPort`. -/
def ContainerPort.codec : Codec ContainerPort :=
  Codec.object "ContainerPort"
    (.cons (Member.filled "containerPort" Codec.int32 0) <|
     .cons (Member.optional "hostIP" Codec.text) <|
     .cons (Member.optional "hostPort" Codec.int32) <|
     .cons (Member.optional "name" Codec.text) <|
     .cons (Member.optional "protocol" Codec.text) .nil)
    (fun record => (record.containerPort, record.hostIP, record.hostPort, record.name,
      record.protocol, ()))
    (fun (containerPort, hostIP, hostPort, name, protocol, ()) =>
      { containerPort, hostIP, hostPort, name, protocol })

theorem ContainerPort.codec_lawful : ContainerPort.codec.Lawful :=
  Codec.object_lawful ⟨Member.filled_lawful Codec.int32_lawful,
    Member.optional_lawful Codec.text_lawful, Member.optional_lawful Codec.int32_lawful,
    Member.optional_lawful Codec.text_lawful, Member.optional_lawful Codec.text_lawful, trivial⟩
    (by decide) (fun _ => rfl)

/-- A volume that a container sees at a path. -/
structure VolumeMount where
  mountPath : String := ""
  mountPropagation : Option String := none
  name : String := ""
  readOnly : Option Bool := none
  recursiveReadOnly : Option String := none
  subPath : Option String := none
  subPathExpr : Option String := none
  deriving DecidableEq, Inhabited

/-- The JSON form of `VolumeMount`. -/
def VolumeMount.codec : Codec VolumeMount :=
  Codec.object "VolumeMount"
    (.cons (Member.filled "mountPath" Codec.text "") <|
     .cons (Member.optional "mountPropagation" Codec.text) <|
     .cons (Member.filled "name" Codec.text "") <|
     .cons (Member.optional "readOnly" Codec.boolean) <|
     .cons (Member.optional "recursiveReadOnly" Codec.text) <|
     .cons (Member.optional "subPath" Codec.text) <|
     .cons (Member.optional "subPathExpr" Codec.text) .nil)
    (fun record => (record.mountPath, record.mountPropagation, record.name, record.readOnly,
      record.recursiveReadOnly, record.subPath, record.subPathExpr, ()))
    (fun (mountPath, mountPropagation, name, readOnly, recursiveReadOnly, subPath, subPathExpr,
      ()) =>
      { mountPath, mountPropagation, name, readOnly, recursiveReadOnly, subPath, subPathExpr })

theorem VolumeMount.codec_lawful : VolumeMount.codec.Lawful :=
  Codec.object_lawful ⟨Member.filled_lawful Codec.text_lawful,
    Member.optional_lawful Codec.text_lawful, Member.filled_lawful Codec.text_lawful,
    Member.optional_lawful Codec.boolean_lawful, Member.optional_lawful Codec.text_lawful,
    Member.optional_lawful Codec.text_lawful, Member.optional_lawful Codec.text_lawful, trivial⟩
    (by decide) (fun _ => rfl)

/-- The resources a container asks for, beside those it is limited to. -/
def ResourceRequirements.layout : Layout :=
  [.optional "claims" (.list (.record "ResourceClaim"
      [.filled "name" .text, .optional "request" .text])),
    .optional "requests" .labels]

/-- The resources a container is limited to. -/
structure ResourceRequirements where
  limits : Option (Map String) := none
  others : ResourceRequirements.layout.Tuple := ResourceRequirements.layout.blank
  deriving DecidableEq, Inhabited

/-- The JSON form of `ResourceRequirements`. -/
def ResourceRequirements.codec : Codec ResourceRequirements :=
  Codec.object "ResourceRequirements"
    (.cons (Member.optional "limits" (Codec.map Codec.text)) ResourceRequirements.layout.members)
    (fun record => (record.limits, record.others))
    (fun (limits, others) =>
      { limits, others })

theorem ResourceRequirements.codec_lawful : ResourceRequirements.codec.Lawful :=
  Codec.object_lawful ⟨Member.optional_lawful (Codec.map_lawful Codec.text_lawful),
    ResourceRequirements.layout.members_lawful⟩
    (by decide) (fun _ => rfl)

/-- What a request may say beside its path, port and scheme. -/
def HTTPGetAction.layout : Layout :=
  [.optional "host" .text,
    .optional "httpHeaders" (.list (.setting "HTTPHeader"))]

/-- A request that tells whether a container is well. -/
structure HTTPGetAction where
  path : Option String := none
  port : PortReference := (.number 0)
  scheme : Option String := none
  others : HTTPGetAction.layout.Tuple := HTTPGetAction.layout.blank
  deriving DecidableEq, Inhabited

/-- The JSON form of `HTTPGetAction`. -/
def HTTPGetAction.codec : Codec HTTPGetAction :=
  Codec.object "HTTPGetAction"
    (.cons (Member.optional "path" Codec.text) <|
     .cons (Member.filled "port" PortReference.codec (.number 0)) <|
     .cons (Member.optional "scheme" Codec.text) HTTPGetAction.layout.members)
    (fun record => (record.path, record.port, record.scheme, record.others))
    (fun (path, port, scheme, others) =>
      { path, port, scheme, others })

theorem HTTPGetAction.codec_lawful : HTTPGetAction.codec.Lawful :=
  Codec.object_lawful ⟨Member.optional_lawful Codec.text_lawful,
    Member.filled_lawful PortReference.codec_lawful, Member.optional_lawful Codec.text_lawful,
    HTTPGetAction.layout.members_lawful⟩
    (by decide) (fun _ => rfl)

namespace Format

/-- A number or a text, such as a port or a share. -/
def numberOrText : Format := .of PortReference.codec_lawful

/-- A command that is run in a container. -/
def execAction : Format := .record "ExecAction" [.optional "command" (.list .text)]

/-- A connection that is opened to a container. -/
def tcpSocketAction : Format :=
  .record "TCPSocketAction" [.optional "host" .text, .filled "port" numberOrText]

/-- What is done when a container has started, or is about to stop. -/
def lifecycleHandler : Format :=
  .record "LifecycleHandler"
    [.optional "exec" execAction, .optional "httpGet" (.of HTTPGetAction.codec_lawful),
      .optional "sleep" (.record "SleepAction" [.filled "seconds" .int64]),
      .optional "tcpSocket" tcpSocketAction]

end Format

/-- How a container is probed other than by a request, and what is made of the answers. -/
def Probe.layout : Layout :=
  [.optional "exec" .execAction, .optional "failureThreshold" .int32,
    .optional "grpc" (.record "GRPCAction" [.filled "port" .int32, .optional "service" .text]),
    .optional "successThreshold" .int32, .optional "tcpSocket" .tcpSocketAction,
    .optional "terminationGracePeriodSeconds" .int64]

/-- When and how a container is probed. -/
structure Probe where
  httpGet : Option HTTPGetAction := none
  initialDelaySeconds : Option Int32 := none
  periodSeconds : Option Int32 := none
  timeoutSeconds : Option Int32 := none
  others : Probe.layout.Tuple := Probe.layout.blank
  deriving DecidableEq, Inhabited

/-- The JSON form of `Probe`. -/
def Probe.codec : Codec Probe :=
  Codec.object "Probe"
    (.cons (Member.optional "httpGet" HTTPGetAction.codec) <|
     .cons (Member.optional "initialDelaySeconds" Codec.int32) <|
     .cons (Member.optional "periodSeconds" Codec.int32) <|
     .cons (Member.optional "timeoutSeconds" Codec.int32) Probe.layout.members)
    (fun record => (record.httpGet, record.initialDelaySeconds, record.periodSeconds,
      record.timeoutSeconds, record.others))
    (fun (httpGet, initialDelaySeconds, periodSeconds, timeoutSeconds, others) =>
      { httpGet, initialDelaySeconds, periodSeconds, timeoutSeconds, others })

theorem Probe.codec_lawful : Probe.codec.Lawful :=
  Codec.object_lawful ⟨Member.optional_lawful HTTPGetAction.codec_lawful,
    Member.optional_lawful Codec.int32_lawful, Member.optional_lawful Codec.int32_lawful,
    Member.optional_lawful Codec.int32_lawful, Probe.layout.members_lawful⟩
    (by decide) (fun _ => rfl)

/-- What the operator does not set of a container. -/
def Container.layout : Layout :=
  [.optional "command" (.list .text),
    .optional "envFrom" (.list (.record "EnvFromSource"
      [.optional "configMapRef" (.record "ConfigMapEnvSource"
          [.filled "name" .text, .optional "optional" .boolean]),
        .optional "prefix" .text,
        .optional "secretRef" (.record "SecretEnvSource"
          [.filled "name" .text, .optional "optional" .boolean])])),
    .optional "imagePullPolicy" .text,
    .optional "lifecycle" (.record "Lifecycle"
      [.optional "postStart" .lifecycleHandler, .optional "preStop" .lifecycleHandler]),
    .optional "resizePolicy" (.list (.record "ContainerResizePolicy"
      [.filled "resourceName" .text, .filled "restartPolicy" .text])),
    .optional "restartPolicy" .text, .optional "securityContext" .securityContext,
    .optional "startupProbe" (.of Probe.codec_lawful), .optional "stdin" .boolean,
    .optional "stdinOnce" .boolean, .optional "terminationMessagePath" .text,
    .optional "terminationMessagePolicy" .text, .optional "tty" .boolean,
    .optional "volumeDevices" (.list (.record "VolumeDevice"
      [.filled "devicePath" .text, .filled "name" .text])),
    .optional "workingDir" .text]

/-- A container of a pod. -/
structure Container where
  args : Option (List String) := none
  env : Option (List EnvVar) := none
  image : Option String := none
  livenessProbe : Option Probe := none
  name : String := ""
  ports : Option (List ContainerPort) := none
  readinessProbe : Option Probe := none
  resources : Option ResourceRequirements := none
  volumeMounts : Option (List VolumeMount) := none
  others : Container.layout.Tuple := Container.layout.blank
  deriving DecidableEq, Inhabited

/-- The JSON form of `Container`. -/
def Container.codec : Codec Container :=
  Codec.object "Container"
    (.cons (Member.optional "args" (Codec.list Codec.text)) <|
     .cons (Member.optional "env" (Codec.list EnvVar.codec)) <|
     .cons (Member.optional "image" Codec.text) <|
     .cons (Member.optional "livenessProbe" Probe.codec) <|
     .cons (Member.filled "name" Codec.text "") <|
     .cons (Member.optional "ports" (Codec.list ContainerPort.codec)) <|
     .cons (Member.optional "readinessProbe" Probe.codec) <|
     .cons (Member.optional "resources" ResourceRequirements.codec) <|
     .cons (Member.optional "volumeMounts" (Codec.list VolumeMount.codec))
       Container.layout.members)
    (fun record => (record.args, record.env, record.image, record.livenessProbe, record.name,
      record.ports, record.readinessProbe, record.resources, record.volumeMounts, record.others))
    (fun (args, env, image, livenessProbe, name, ports, readinessProbe, resources, volumeMounts,
      others) =>
      { args, env, image, livenessProbe, name, ports, readinessProbe, resources, volumeMounts,
        others })

theorem Container.codec_lawful : Container.codec.Lawful :=
  Codec.object_lawful ⟨Member.optional_lawful (Codec.list_lawful Codec.text_lawful),
    Member.optional_lawful (Codec.list_lawful EnvVar.codec_lawful),
    Member.optional_lawful Codec.text_lawful, Member.optional_lawful Probe.codec_lawful,
    Member.filled_lawful Codec.text_lawful,
    Member.optional_lawful (Codec.list_lawful ContainerPort.codec_lawful),
    Member.optional_lawful Probe.codec_lawful,
    Member.optional_lawful ResourceRequirements.codec_lawful,
    Member.optional_lawful (Codec.list_lawful VolumeMount.codec_lawful),
    Container.layout.members_lawful⟩
    (by decide) (fun _ => rfl)

/-- A container that is added to a pod for a while: it has every member of a container, and may name
the container that it looks into. -/
def Format.ephemeralContainer : Format :=
  .record "EphemeralContainer"
    ([.optional "args" (.list .text), .optional "env" (.list (.of EnvVar.codec_lawful)),
      .optional "image" .text, .optional "livenessProbe" (.of Probe.codec_lawful),
      .filled "name" .text, .optional "ports" (.list (.of ContainerPort.codec_lawful)),
      .optional "readinessProbe" (.of Probe.codec_lawful),
      .optional "resources" (.of ResourceRequirements.codec_lawful),
      .optional "targetContainerName" .text,
      .optional "volumeMounts" (.list (.of VolumeMount.codec_lawful))] ++ Container.layout)

/-- What the operator does not set of a pod. -/
def PodSpec.layout : Layout :=
  [.optional "activeDeadlineSeconds" .int64, .optional "affinity" .affinity,
    .optional "automountServiceAccountToken" .boolean, .optional "dnsConfig" .podDNSConfig,
    .optional "dnsPolicy" .text, .optional "enableServiceLinks" .boolean,
    .optional "ephemeralContainers" (.list .ephemeralContainer),
    .optional "hostAliases" (.list .hostAlias), .optional "hostIPC" .boolean,
    .optional "hostNetwork" .boolean, .optional "hostPID" .boolean,
    .optional "hostUsers" .boolean, .optional "hostname" .text,
    .optional "imagePullSecrets" (.list .localObjectReference),
    .optional "initContainers" (.list (.of Container.codec_lawful)), .optional "nodeName" .text,
    .optional "os" (.record "PodOS" [.filled "name" .text]), .optional "overhead" .labels,
    .optional "preemptionPolicy" .text, .optional "priority" .int32,
    .optional "priorityClassName" .text,
    .optional "readinessGates" (.list (.record "PodReadinessGate"
      [.filled "conditionType" .text])),
    .optional "resourceClaims" (.list .podResourceClaim), .optional "restartPolicy" .text,
    .optional "runtimeClassName" .text, .optional "schedulerName" .text,
    .optional "schedulingGates" (.list (.record "PodSchedulingGate" [.filled "name" .text])),
    .optional "securityContext" .podSecurityContext, .optional "setHostnameAsFQDN" .boolean,
    .optional "shareProcessNamespace" .boolean, .optional "subdomain" .text,
    .optional "tolerations" (.list .toleration),
    .optional "topologySpreadConstraints" (.list .topologySpreadConstraint)]

/-- What a pod runs. -/
structure PodSpec where
  containers : List Container := []
  nodeSelector : Option (Map String) := none
  serviceAccount : Option String := none
  serviceAccountName : Option String := none
  terminationGracePeriodSeconds : Option Int64 := none
  volumes : Option (List Volume) := none
  others : PodSpec.layout.Tuple := PodSpec.layout.blank
  deriving DecidableEq, Inhabited

/-- The JSON form of `PodSpec`. -/
def PodSpec.codec : Codec PodSpec :=
  Codec.object "PodSpec"
    (.cons (Member.filled "containers" (Codec.list Container.codec) []) <|
     .cons (Member.optional "nodeSelector" (Codec.map Codec.text)) <|
     .cons (Member.optional "serviceAccount" Codec.text) <|
     .cons (Member.optional "serviceAccountName" Codec.text) <|
     .cons (Member.optional "terminationGracePeriodSeconds" Codec.int64) <|
     .cons (Member.optional "volumes" (Codec.list Volume.codec)) PodSpec.layout.members)
    (fun record => (record.containers, record.nodeSelector, record.serviceAccount,
      record.serviceAccountName, record.terminationGracePeriodSeconds, record.volumes,
      record.others))
    (fun (containers, nodeSelector, serviceAccount, serviceAccountName,
      terminationGracePeriodSeconds, volumes, others) =>
      { containers, nodeSelector, serviceAccount, serviceAccountName,
        terminationGracePeriodSeconds, volumes, others })

theorem PodSpec.codec_lawful : PodSpec.codec.Lawful :=
  Codec.object_lawful ⟨Member.filled_lawful (Codec.list_lawful Container.codec_lawful),
    Member.optional_lawful (Codec.map_lawful Codec.text_lawful),
    Member.optional_lawful Codec.text_lawful, Member.optional_lawful Codec.text_lawful,
    Member.optional_lawful Codec.int64_lawful,
    Member.optional_lawful (Codec.list_lawful Volume.codec_lawful), PodSpec.layout.members_lawful⟩
    (by decide) (fun _ => rfl)

/-- The template of the pods of a Deployment. -/
structure PodTemplateSpec where
  metadata : Option ObjectMeta := none
  spec : Option PodSpec := none
  deriving DecidableEq, Inhabited

/-- The JSON form of `PodTemplateSpec`. -/
def PodTemplateSpec.codec : Codec PodTemplateSpec :=
  Codec.object "PodTemplateSpec"
    (.cons (Member.optional "metadata" ObjectMeta.codec) <|
     .cons (Member.optional "spec" PodSpec.codec) .nil)
    (fun record => (record.metadata, record.spec, ()))
    (fun (metadata, spec, ()) =>
      { metadata, spec })

theorem PodTemplateSpec.codec_lawful : PodTemplateSpec.codec.Lawful :=
  Codec.object_lawful ⟨Member.optional_lawful ObjectMeta.codec_lawful,
    Member.optional_lawful PodSpec.codec_lawful, trivial⟩
    (by decide) (fun _ => rfl)

end GatewayOperator
