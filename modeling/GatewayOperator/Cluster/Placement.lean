/-
This file holds what a pod says of the place it runs at and of its rights there: which nodes and
which neighbours it wants, what it tolerates, how it finds other hosts, and as whom it runs. The
operator sets none of it, so these are formats of members that it hands on.
-/

import GatewayOperator.Cluster.Metadata

namespace GatewayOperator.Format

/-! ### Nodes and neighbours -/

/-- A condition on a label or a field of a node. -/
def nodeSelectorRequirement : Format := .requirement "NodeSelectorRequirement"

/-- Conditions on a node, all of which have to hold. -/
def nodeSelectorTerm : Format :=
  .record "NodeSelectorTerm"
    [.optional "matchExpressions" (.list nodeSelectorRequirement),
      .optional "matchFields" (.list nodeSelectorRequirement)]

/-- Which nodes a pod is drawn to. -/
def nodeAffinity : Format :=
  .record "NodeAffinity"
    [.optional "preferredDuringSchedulingIgnoredDuringExecution"
        (.list (.record "PreferredSchedulingTerm"
          [.filled "preference" nodeSelectorTerm, .filled "weight" .int32])),
      .optional "requiredDuringSchedulingIgnoredDuringExecution"
        (.record "NodeSelector" [.filled "nodeSelectorTerms" (.list nodeSelectorTerm)])]

/-- Pods and how near is near. -/
def podAffinityTerm : Format :=
  .record "PodAffinityTerm"
    [.optional "labelSelector" labelSelector, .optional "matchLabelKeys" (.list .text),
      .optional "mismatchLabelKeys" (.list .text), .optional "namespaceSelector" labelSelector,
      .optional "namespaces" (.list .text), .filled "topologyKey" .text]

/-- Which pods a pod is drawn to, or kept away from. -/
def podAffinity (name : String) : Format :=
  .record name
    [.optional "preferredDuringSchedulingIgnoredDuringExecution"
        (.list (.record "WeightedPodAffinityTerm"
          [.filled "podAffinityTerm" podAffinityTerm, .filled "weight" .int32])),
      .optional "requiredDuringSchedulingIgnoredDuringExecution" (.list podAffinityTerm)]

/-- Which nodes and which pods a pod is drawn to. -/
def affinity : Format :=
  .record "Affinity"
    [.optional "nodeAffinity" nodeAffinity, .optional "podAffinity" (podAffinity "PodAffinity"),
      .optional "podAntiAffinity" (podAffinity "PodAntiAffinity")]

/-- A taint of nodes that a pod may run on all the same. -/
def toleration : Format :=
  .record "Toleration"
    [.optional "effect" .text, .optional "key" .text, .optional "operator" .text,
      .optional "tolerationSeconds" .int64, .optional "value" .text]

/-- How evenly pods are spread. -/
def topologySpreadConstraint : Format :=
  .record "TopologySpreadConstraint"
    [.optional "labelSelector" labelSelector, .optional "matchLabelKeys" (.list .text),
      .filled "maxSkew" .int32, .optional "minDomains" .int32,
      .optional "nodeAffinityPolicy" .text, .optional "nodeTaintsPolicy" .text,
      .filled "topologyKey" .text, .filled "whenUnsatisfiable" .text]

/-- A claim of a device for the containers of a pod. -/
def podResourceClaim : Format :=
  .record "PodResourceClaim"
    [.filled "name" .text, .optional "resourceClaimName" .text,
      .optional "resourceClaimTemplateName" .text]

/-! ### Other hosts -/

/-- How a pod resolves names. -/
def podDNSConfig : Format :=
  .record "PodDNSConfig"
    [.optional "nameservers" (.list .text),
      .optional "options" (.list (.record "PodDNSConfigOption"
        [.optional "name" .text, .optional "value" .text])),
      .optional "searches" (.list .text)]

/-- Names of an address. -/
def hostAlias : Format :=
  .record "HostAlias" [.optional "hostnames" (.list .text), .filled "ip" .text]

/-! ### Rights -/

/-- Which rules confine a process, and where they are found. -/
def profile (name : String) : Format :=
  .record name [.optional "localhostProfile" .text, .filled "type" .text]

/-- A setting by its name and value. -/
def setting (name : String) : Format :=
  .record name [.filled "name" .text, .filled "value" .text]

/-- The security labels of a process. -/
def seLinuxOptions : Format :=
  .record "SELinuxOptions"
    [.optional "level" .text, .optional "role" .text, .optional "type" .text,
      .optional "user" .text]

/-- As whom a process runs on a node of the other system. -/
def windowsOptions : Format :=
  .record "WindowsSecurityContextOptions"
    [.optional "gmsaCredentialSpec" .text, .optional "gmsaCredentialSpecName" .text,
      .optional "hostProcess" .boolean, .optional "runAsUserName" .text]

/-- As whom the containers of a pod run. -/
def podSecurityContext : Format :=
  .record "PodSecurityContext"
    [.optional "appArmorProfile" (profile "AppArmorProfile"), .optional "fsGroup" .int64,
      .optional "fsGroupChangePolicy" .text, .optional "runAsGroup" .int64,
      .optional "runAsNonRoot" .boolean, .optional "runAsUser" .int64,
      .optional "seLinuxOptions" seLinuxOptions,
      .optional "seccompProfile" (profile "SeccompProfile"),
      .optional "supplementalGroups" (.list .int64), .optional "supplementalGroupsPolicy" .text,
      .optional "sysctls" (.list (setting "Sysctl")),
      .optional "windowsOptions" windowsOptions]

/-- As whom a container runs, and what it may do. -/
def securityContext : Format :=
  .record "SecurityContext"
    [.optional "allowPrivilegeEscalation" .boolean,
      .optional "appArmorProfile" (profile "AppArmorProfile"),
      .optional "capabilities" (.record "Capabilities"
        [.optional "add" (.list .text), .optional "drop" (.list .text)]),
      .optional "privileged" .boolean, .optional "procMount" .text,
      .optional "readOnlyRootFilesystem" .boolean, .optional "runAsGroup" .int64,
      .optional "runAsNonRoot" .boolean, .optional "runAsUser" .int64,
      .optional "seLinuxOptions" seLinuxOptions,
      .optional "seccompProfile" (profile "SeccompProfile"),
      .optional "windowsOptions" windowsOptions]

end GatewayOperator.Format
