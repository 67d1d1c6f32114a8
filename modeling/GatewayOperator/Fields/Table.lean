/-
This file says which fields of an object the operator manages. Every kind of object has a table
of rules; a rule names a field, says how it is compared, and brings it to the desired value.
Running a table changes the fields in it and nothing else, so what users and other controllers
write into the rest of an object survives.
-/

import GatewayOperator.Fields.Merge
import GatewayOperator.Cluster.Deployment
import GatewayOperator.Cluster.Service

namespace GatewayOperator

/-- How a field is compared with its desired value. -/
inductive Comparison where
  /-- A single value, replaced when it differs. -/
  | scalar
  /-- A collection, replaced as a whole when its members differ. -/
  | exactSet
  /-- Named entries; the desired ones win and the others are kept. -/
  | keyedMerge
  /-- Entries with a key; those whose key is absent are added. -/
  | additiveByKey
  deriving DecidableEq

/-- The name of a comparison. -/
def Comparison.word : Comparison → String
  | scalar => "Scalar"
  | exactSet => "ExactSet"
  | keyedMerge => "KeyedMerge"
  | additiveByKey => "AdditiveByKey"

/-- A managed field of an object. -/
structure FieldRule (Object : Type) where
  field : String
  comparison : Comparison
  /-- Brings the field of the first object to its value in the second. -/
  merge : Object → Object → Merged Object

/-- The description of a rule that stands in diagnostics. -/
def FieldRule.describe {Object : Type} (rule : FieldRule Object) : String :=
  "FieldRule \x7b field: " ++ Text.quote rule.field ++ ", strategy: " ++ rule.comparison.word ++
    ", .. \x7d"

/-- An object after a table was run, with the names of the fields that changed in the order of
the table. -/
structure Reconciled (Object : Type) where
  object : Object
  changed : List String

/-- Runs the rules of a table one after the other. -/
def reconcileFields {Object : Type} (desired : Object) :
    List (FieldRule Object) → Object → Reconciled Object
  | [], existing => ⟨existing, []⟩
  | rule :: rules, existing =>
    let merged := rule.merge existing desired
    let rest := reconcileFields desired rules merged.value
    ⟨rest.object, if merged.changed then rule.field :: rest.changed else rest.changed⟩

/-! ### Deployments -/

/-- Whether the operator resets the number of replicas of an existing Deployment. -/
inductive ReplicaPolicy where
  /-- The number the gateway asks for always wins. -/
  | enforce
  /-- The number is set when the Deployment is created and left alone afterwards. -/
  | preserve
  deriving DecidableEq, Inhabited

namespace Deployment

/-- The pods of a Deployment, if it says anything of them. -/
def pod? (deployment : Deployment) : Option PodSpec :=
  deployment.spec.bind (·.template.spec)

/-- The annotations of the pod template. -/
def templateAnnotations? (deployment : Deployment) : Option (Map String) :=
  (deployment.spec.bind (·.template.metadata)).bind (·.annotations)

/-- The first container of the pods. -/
def firstContainer? (deployment : Deployment) : Option Container :=
  deployment.pod?.bind (·.containers.head?)

/-- Merges inside the specification; an absent one counts as empty. -/
def mergeSpec (deployment : Deployment) (merge : DeploymentSpec → Merged DeploymentSpec) :
    Merged Deployment :=
  (merge (deployment.spec.getD {})).map fun spec => { deployment with spec := some spec }

/-- Merges inside the pods; absent ones count as empty. -/
def mergePod (deployment : Deployment) (merge : PodSpec → Merged PodSpec) : Merged Deployment :=
  deployment.mergeSpec fun spec =>
    (merge (spec.template.spec.getD {})).map fun pod =>
      { spec with template := { spec.template with spec := some pod } }

/-- Merges inside the metadata of the pod template; absent metadata counts as empty. -/
def mergeTemplateMetadata (deployment : Deployment) (merge : ObjectMeta → Merged ObjectMeta) :
    Merged Deployment :=
  deployment.mergeSpec fun spec =>
    (merge (spec.template.metadata.getD {})).map fun metadata =>
      { spec with template := { spec.template with metadata := some metadata } }

/-- Merges the first container with the first wanted one. Without a wanted container nothing
happens; without an existing one the wanted container is added as a whole. -/
def mergeFirstContainer (merge : Container → Container → Merged Container)
    (existing desired : Deployment) : Merged Deployment :=
  match desired.firstContainer? with
  | none => .unchanged existing
  | some wanted =>
    existing.mergePod fun pod =>
      match pod.containers with
      | [] => ⟨{ pod with containers := [wanted] }, true⟩
      | current :: others =>
        (merge current wanted).map fun container =>
          { pod with containers := container :: others }

/-- The number of replicas. -/
def replicasRule : FieldRule Deployment where
  field := "spec.replicas"
  comparison := .scalar
  merge existing desired :=
    existing.mergeSpec fun spec =>
      (replaceScalar spec.replicas (desired.spec.bind (·.replicas))).map fun replicas =>
        { spec with replicas }

/-- The image of the first container. -/
def imageRule : FieldRule Deployment where
  field := "spec.template.spec.containers[0].image"
  comparison := .scalar
  merge := mergeFirstContainer fun current wanted =>
    (replaceScalar current.image wanted.image).map fun image => { current with image }

/-- The service account of the pods. -/
def serviceAccountRule : FieldRule Deployment where
  field := "spec.template.spec.serviceAccountName"
  comparison := .scalar
  merge existing desired :=
    existing.mergePod fun pod =>
      (replaceScalar pod.serviceAccountName (desired.pod?.bind (·.serviceAccountName))).map
        fun serviceAccountName => { pod with serviceAccountName }

/-- The environment of the first container. -/
def environmentRule : FieldRule Deployment where
  field := "spec.template.spec.containers[0].env"
  comparison := .keyedMerge
  merge := mergeFirstContainer fun current wanted =>
    (mergeEnvironment current.env wanted.env).map fun env => { current with env }

/-- The annotations of the pod template. -/
def annotationsRule : FieldRule Deployment where
  field := "spec.template.metadata.annotations"
  comparison := .exactSet
  merge existing desired :=
    existing.mergeTemplateMetadata fun metadata =>
      (replaceCollection metadata.annotations desired.templateAnnotations?).map
        fun annotations => { metadata with annotations }

/-- The volumes of the pods. -/
def volumesRule : FieldRule Deployment where
  field := "spec.template.spec.volumes"
  comparison := .exactSet
  merge existing desired :=
    existing.mergePod fun pod =>
      (replaceCollection pod.volumes (desired.pod?.bind (·.volumes))).map
        fun volumes => { pod with volumes }

/-- The mounts of the first container. -/
def volumeMountsRule : FieldRule Deployment where
  field := "spec.template.spec.containers[0].volumeMounts"
  comparison := .exactSet
  merge := mergeFirstContainer fun current wanted =>
    (replaceCollection current.volumeMounts wanted.volumeMounts).map
      fun volumeMounts => { current with volumeMounts }

/-- The fields that are managed under either policy. -/
def commonRules : List (FieldRule Deployment) :=
  [imageRule, serviceAccountRule, environmentRule, annotationsRule, volumesRule, volumeMountsRule]

/-- The managed fields of a Deployment. -/
def rules : ReplicaPolicy → List (FieldRule Deployment)
  | .enforce => replicasRule :: commonRules
  | .preserve => commonRules

end Deployment

/-! ### Services and Ingresses -/

/-- A Service is created and never changed. -/
def Service.rules : List (FieldRule Service) := []

namespace Ingress

/-- Merges inside the specification; an absent one counts as empty. -/
def mergeSpec (ingress : Ingress) (merge : IngressSpec → Merged IngressSpec) : Merged Ingress :=
  (merge (ingress.spec.getD {})).map fun spec => { ingress with spec := some spec }

/-- The routes, by host. -/
def routesRule : FieldRule Ingress where
  field := "spec.rules"
  comparison := .additiveByKey
  merge existing desired :=
    existing.mergeSpec fun spec =>
      (appendMissingRules spec.rules (desired.spec.bind (·.rules))).map fun rules =>
        { spec with rules }

/-- The certificates. -/
def certificatesRule : FieldRule Ingress where
  field := "spec.tls"
  comparison := .exactSet
  merge existing desired :=
    existing.mergeSpec fun spec =>
      (replaceCollection spec.tls (desired.spec.bind (·.tls))).map fun tls => { spec with tls }

/-- The managed fields of an Ingress. -/
def rules : List (FieldRule Ingress) := [routesRule, certificatesRule]

end Ingress

end GatewayOperator
