/-
This file holds the definition by which the cluster learns the gateway resource: its names, its
schema and the columns in which it is listed.
-/

import GatewayOperator.Definition.Schema
import GatewayOperator.Gateway.Basic

namespace GatewayOperator.Definition

/-! ### Schemas -/

/-- A value that may be left out. -/
def optional (description : String) : Facet := ⟨some description, true⟩

/-- A value that is there. -/
def described (description : String) : Facet := ⟨some description, false⟩

/-- A member that may be left out. -/
def member (name : String) (schema : Schema) : String × Bool × Schema := (name, false, schema)

/-- A member that has to be there. -/
def requiredMember (name : String) (schema : Schema) : String × Bool × Schema :=
  (name, true, schema)

/-- Several lines of a description. -/
def paragraph (lines : List String) : String := "\n".intercalate lines

/-- The reference to a Secret. -/
def secretReference (description : String) : Schema :=
  .record (optional description)
    [requiredMember "name" (.text (described ("Name of the referent. This field is effectively " ++
      "required, but due to backwards compatibility is allowed to be empty. Instances of this " ++
      "type with an empty value here are almost certainly wrong. More info: https://kubernetes" ++
      ".io/docs/concepts/overview/working-with-objects/names/#names")))]

/-- The hosts of a certificate and the Secret that holds it. -/
def certificate : Schema :=
  .record (described ("IngressTLS describes the transport layer security associated with an " ++
      "ingress."))
    [member "hosts" (.list (described ("hosts is a list of hosts included in the TLS " ++
        "certificate. The values in this list must match the name/s used in the tlsSecret. " ++
        "Defaults to the wildcard host setting for the loadbalancer controller fulfilling this " ++
        "Ingress, if left unspecified.")) (.text {}) false),
      member "secretName" (.text (described ("secretName is the name of the secret used to " ++
        "terminate TLS traffic on port 443. Field is left optional to allow TLS routing based " ++
        "on SNI hostname alone. If the SNI host in a listener conflicts with the \"Host\" " ++
        "header field used by an IngressRule, the SNI host is used for termination and value of " ++
        "the \"Host\" header is used for routing.")))]

/-- The host under which a gateway is exposed. -/
def exposedHost : Schema :=
  .record (optional "Exposes the gateway through an Ingress for this host.")
    [requiredMember "host"
        (.text (described "Fully qualified host name routed to the gateway proxy port.")),
      member "tls"
        (.list (optional "TLS configuration copied verbatim onto the Ingress.") certificate false)]

/-- The description of what a gateway asks for. -/
def specDescription : String :=
  paragraph
    ["`APIcast` declares an APIcast API gateway.", "",
      "Each `APIcast` owns a Deployment and a Service named `apicast-<name>`, plus an",
      "Ingress of the same name when `exposedHost` is set.", "", "# Example", "", "```yaml",
      "apiVersion: apps.3scale.net/v1alpha1", "kind: APIcast", "metadata:",
      "  name: example-apicast", "  namespace: gateways", "spec:", "  replicas: 2",
      "  adminPortalCredentialsRef:", "    name: portal-credentials", "  exposedHost:",
      "    host: api.example.com", "  logLevel: info", "```"]

/-- What a gateway asks for. -/
def spec : Schema :=
  .record (described specDescription)
    [member "replicas"
        (.integer (optional (paragraph ["Number of gateway pod replicas.", "",
          "Filled in with 1 by the operator when not specified."])) "int32" (some 0)),
      member "adminPortalCredentialsRef"
        (secretReference (paragraph ["Secret holding the `AdminPortalURL` key",
          "(`https://<access-token>@<admin-portal-host>`)."])),
      member "embeddedConfigurationSecretRef"
        (secretReference
          "Secret holding the `config.json` key with an embedded gateway configuration."),
      member "serviceAccount"
        (.text (optional "Service account for the gateway pods. Defaults to `default`.")),
      member "image"
        (.text
          (optional "Gateway container image. Defaults to the pinned operator release image.")),
      member "exposedHost" exposedHost,
      member "deploymentEnvironment"
        (.text (optional (paragraph
          ["3scale deployment environment the gateway loads configuration for",
            "(for example `production` or `staging`)."]))),
      member "dnsResolverAddress"
        (.text (optional "DNS resolver address used by the gateway.")),
      member "enabledServices"
        (.list (optional "Service IDs the gateway loads. All services when unset.") (.text {})
          false),
      member "configurationLoadMode"
        (.choice (optional "When the gateway loads its configuration.")
          (LoadMode.all.map LoadMode.word) false),
      member "logLevel"
        (.choice (optional "Gateway log level.") (LogLevel.all.map LogLevel.word) true),
      member "pathRoutingEnabled"
        (.truth (optional "Route requests by path in addition to host.")),
      member "responseCodesIncluded"
        (.truth (optional "Report response codes to the admin portal.")),
      member "cacheConfigurationSeconds"
        (.integer (optional "Seconds the gateway caches its configuration.") "int64" none),
      member "managementAPIScope"
        (.choice (optional "Scope of the gateway management API.")
          (ManagementScope.all.map ManagementScope.word) true),
      member "openSSLPeerVerificationEnabled"
        (.truth (optional "Verify upstream TLS peers."))]

/-- A condition of a gateway. -/
def condition : Schema :=
  .record (described (paragraph
      ["Condition represents an observation of a resource's current state.", "",
        "Conditions are used in status subresources to communicate the state of",
        "a resource to users and controllers."]))
    [requiredMember "type"
        (.text (described
          "Type of condition. The operator maintains a single `Ready` condition.")),
      requiredMember "status"
        (.text (described "Status of the condition: True, False, or Unknown.")),
      member "reason"
        (.text (optional "Brief CamelCase reason for the condition's last transition.")),
      member "message"
        (.text (optional "Human-readable message indicating details about the transition.")),
      member "lastTransitionTime"
        (.text (optional
          "Last time the condition transitioned from one status to another (RFC3339 format)."))]

/-- The status of a gateway. -/
def status : Schema :=
  .record (optional "`APIcast` status")
    [member "conditions" (.list {} condition true)]

/-- A gateway. -/
def gateway : Schema :=
  .record (described ("APIcast represents an APIcast API gateway. Each APIcast creates a " ++
      "Deployment and a Service, and an Ingress when an exposed host is configured."))
    [requiredMember "spec" spec, member "status" status]

/-! ### The resource -/

/-- The group of the gateway resource. -/
def group : String := "apps.3scale.net"

/-- The version of the gateway resource. -/
def version : String := "v1alpha1"

/-- The word for several gateways. -/
def plural : String := "apicasts"

/-- The word for a gateway in commands. -/
def singular : String := "apicast"

/-- The name of the definition. -/
def name : String := plural ++ "." ++ group

/-- A column in which gateways are listed. -/
structure Column where
  name : String
  type : String
  path : String

/-- The JSON form of a column. -/
def Column.json (column : Column) : Json :=
  .object [("jsonPath", .string column.path), ("name", .string column.name),
    ("type", .string column.type)]

/-- The columns that show whether a gateway is ready next to its number of replicas. -/
def columns : List Column :=
  [⟨"Replicas", "integer", ".spec.replicas"⟩,
    ⟨"Ready", "string", ".status.conditions[?(@.type==\"Ready\")].status"⟩,
    ⟨"Age", "date", ".metadata.creationTimestamp"⟩]

/-- The schema of the resource under its title. -/
def titledSchema : Json :=
  match gateway.json with
  | .object members => .object (members ++ [("title", .string gatewayKind)])
  | other => other

/-- The names of the resource. -/
def namesJson : Json :=
  .object [("categories", .array []), ("kind", .string gatewayKind), ("plural", .string plural),
    ("shortNames", .array [.string singular]), ("singular", .string singular)]

/-- The version of the resource, with the columns in which it is listed. -/
def versionJson (columns : List Column) : Json :=
  .object [("additionalPrinterColumns", .array (columns.map Column.json)),
    ("name", .string version), ("schema", .object [("openAPIV3Schema", titledSchema)]),
    ("served", .boolean true), ("storage", .boolean true),
    ("subresources", .object [("status", .object [])])]

/-- The JSON form of the definition. -/
def json (columns : List Column) : Json :=
  .object [("apiVersion", .string "apiextensions.k8s.io/v1"),
    ("kind", .string "CustomResourceDefinition"),
    ("metadata", .object [("name", .string name)]),
    ("spec", .object [("group", .string group), ("names", namesJson),
      ("scope", .string "Namespaced"), ("versions", .array [versionJson columns])])]

end GatewayOperator.Definition
