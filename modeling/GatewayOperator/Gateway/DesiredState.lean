/-
This file computes the objects a gateway should have: a Deployment of the gateway, a Service in
front of its pods, and an Ingress when a host is exposed. The result depends on the gateway and
on the resolved Secrets alone. The versions of the Secrets stand as annotations on the pod
template, so a change of a Secret changes the template and replaces the pods.
-/

import GatewayOperator.Gateway.Naming
import GatewayOperator.Gateway.Defaults
import GatewayOperator.Gateway.Environment
import GatewayOperator.Cluster.Deployment
import GatewayOperator.Cluster.Service

namespace GatewayOperator

/-- The objects a gateway should have. -/
structure DesiredState where
  deployment : Deployment
  service : Service
  ingress : Option Ingress
  deriving DecidableEq

/-! ### Constants -/

/-- The image of a gateway that names none. -/
def defaultImage : String := "quay.io/3scale/apicast:3scale-2.8.0"

/-- The service account of a gateway that names none. -/
def defaultServiceAccount : String := "default"

/-- The port of the proxied traffic. -/
def proxyPort : Int32 := 8080

/-- The port of the management interface, which answers the probes. -/
def managementPort : Int32 := 8090

/-- The port of the gateway's own metrics. -/
def metricsPort : Int32 := 9421

/-- The volume of the embedded configuration. -/
def configurationVolume : String := "gateway-configuration-volume"

/-- The mode of the files of a Secret volume, which the cluster fills in itself. -/
def secretFileMode : Int32 := 0o644

/-- The annotation that records the version of the admin portal Secret. -/
def adminPortalVersionAnnotation : String :=
  "apicast.apps.3scale.net/admin-portal-secret-resource-version"

/-- The annotation that records the version of the configuration Secret. -/
def configurationVersionAnnotation : String :=
  "apicast.apps.3scale.net/gateway-configuration-secret-resource-version"

/-! ### The Deployment -/

/-- A list, or nothing in place of an empty one. -/
def nonEmpty {Value : Type} (values : List Value) : Option (List Value) :=
  if values.isEmpty then none else some values

/-- The versions of the resolved Secrets as annotations; nothing if none was resolved. -/
def versionAnnotations (secrets : ResolvedSecrets) : Option (Map String) :=
  let portal := match secrets.adminPortal with
    | none => Map.empty
    | some secret => Map.empty.insert adminPortalVersionAnnotation secret.resourceVersion
  let both := match secrets.embeddedConfig with
    | none => portal
    | some secret => portal.insert configurationVersionAnnotation secret.resourceVersion
  if both.isEmpty then none else some both

/-- The volume that holds the embedded configuration. -/
def configurationVolumes (secrets : ResolvedSecrets) : Option (List Volume) :=
  secrets.embeddedConfig.map fun secret =>
    [{ name := configurationVolume
       secret := some
        { secretName := some secret.name
          defaultMode := some secretFileMode
          items := some [{ key := configurationKey, path := configurationKey }] } }]

/-- Where the container sees the embedded configuration. -/
def configurationMounts (secrets : ResolvedSecrets) : Option (List VolumeMount) :=
  secrets.embeddedConfig.map fun _ =>
    [{ name := configurationVolume, mountPath := configurationMountPath, readOnly := some true }]

/-- A probe of the management port. -/
def managementProbe (path : String) (initialDelay period timeout : Int32) : Probe where
  httpGet := some { path := some path, port := .number managementPort, scheme := some "HTTP" }
  initialDelaySeconds := some initialDelay
  periodSeconds := some period
  timeoutSeconds := some timeout

/-- A port of the container. -/
def gatewayPort (name : String) (port : Int32) : ContainerPort where
  containerPort := port
  name := some name
  protocol := some "TCP"

/-- The gateway container. -/
def gatewayContainer (spec : GatewaySpec) (secrets : ResolvedSecrets) : Container where
  name := "apicast"
  image := some (spec.image.getD defaultImage)
  ports := some [gatewayPort "proxy" proxyPort, gatewayPort "management" managementPort,
    gatewayPort "metrics" metricsPort]
  env := nonEmpty (environment spec secrets)
  volumeMounts := configurationMounts secrets
  livenessProbe := some (managementProbe "/status/live" 10 10 5)
  readinessProbe := some (managementProbe "/status/ready" 15 30 5)

/-- The Deployment of a gateway. -/
def desiredDeployment (gateway : Gateway) (secrets : ResolvedSecrets) : Deployment where
  metadata := gateway.childMetadata
  spec := some
    { replicas := some (gateway.spec.replicas.getD defaultReplicas)
      selector := { matchLabels := some (selectorLabels gateway.name) }
      template :=
        { metadata := some
            { labels := some (gatewayLabels gateway.name)
              annotations := versionAnnotations secrets }
          spec := some
            { serviceAccountName := some (gateway.spec.serviceAccount.getD defaultServiceAccount)
              containers := [gatewayContainer gateway.spec secrets]
              volumes := configurationVolumes secrets } } }

/-! ### The Service and the Ingress -/

/-- A port of the Service, which leads to the container port of the same number. -/
def gatewayServicePort (name : String) (port : Int32) : ServicePort where
  name := some name
  port := port
  protocol := some "TCP"
  targetPort := some (.number port)

/-- The Service of a gateway. -/
def desiredService (gateway : Gateway) : Service where
  metadata := gateway.childMetadata
  spec := some
    { selector := some (selectorLabels gateway.name)
      ports := some [gatewayServicePort "proxy" proxyPort,
        gatewayServicePort "management" managementPort]
      kind := some "ClusterIP" }

/-- The route of every path to the proxy port of a gateway's Service. -/
def proxyRoute (gateway : Gateway) : HTTPIngressPath where
  path := some "/"
  pathType := "Prefix"
  backend.service := some
    { name := childName gateway.name
      port := some { number := some proxyPort } }

/-- The Ingress that routes a host to the proxy port of a gateway's Service. -/
def desiredIngress (gateway : Gateway) (exposedHost : ExposedHost) : Ingress where
  metadata := gateway.childMetadata
  spec := some
    { rules := some
        [{ host := some exposedHost.host, http := some { paths := [proxyRoute gateway] } }]
      tls := exposedHost.tls }

/-- The objects a gateway should have. -/
def desiredState (gateway : Gateway) (secrets : ResolvedSecrets) : DesiredState where
  deployment := desiredDeployment gateway secrets
  service := desiredService gateway
  ingress := gateway.spec.exposedHost.map (desiredIngress gateway)

end GatewayOperator
