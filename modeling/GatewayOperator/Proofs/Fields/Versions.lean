/-
This file says what the versions of the Secrets do to a Deployment. They stand in the annotations
of the pod template and nowhere else, each under the annotation of its own reference, also when
both references lead to one Secret. So a Deployment that is as desired for some versions differs
from what is desired for others in its annotations alone, and it has the others when these are
merged.
-/

import GatewayOperator.Proofs.Gateway.Wiring

namespace GatewayOperator

/-! ### Annotations -/

/-- The annotation that records the version of the Secret of a role. -/
def SecretRole.versionAnnotation : SecretRole → String
  | adminPortal => adminPortalVersionAnnotation
  | embeddedConfig => configurationVersionAnnotation

/-- Nothing in place of an empty map is read as the map. -/
theorem Map.getD_nonEmpty {Value : Type} (map : Map Value) :
    (if map.isEmpty then none else some map).getD Map.empty = map := by
  split
  · next isEmpty => exact Map.ext (List.isEmpty_iff.mp isEmpty).symm
  · rfl

/-- The annotation of a role records the version of its Secret. -/
theorem get?_versionAnnotations (secrets : ResolvedSecrets) (role : SecretRole) :
    ((versionAnnotations secrets).getD Map.empty).get? role.versionAnnotation =
      (secrets.ofRole role).map (·.resourceVersion) := by
  have different : adminPortalVersionAnnotation ≠ configurationVersionAnnotation := by decide
  unfold versionAnnotations
  dsimp only
  rw [Map.getD_nonEmpty]
  obtain ⟨portal, config⟩ := secrets
  cases role with
  | adminPortal =>
    cases portal <;> cases config <;>
      simp [SecretRole.versionAnnotation, ResolvedSecrets.ofRole,
        Map.get?_insert_other _ _ different]
  | embeddedConfig =>
    cases portal <;> cases config <;>
      simp [SecretRole.versionAnnotation, ResolvedSecrets.ofRole,
        Map.get?_insert_other _ _ different.symm]

/-- Of a Secret that was resolved there is an annotation. -/
theorem exists_versionAnnotation {secrets : ResolvedSecrets} {role : SecretRole}
    {secret : ResolvedSecret} (resolved : secrets.ofRole role = some secret) :
    ∃ annotations, versionAnnotations secrets = some annotations ∧
      annotations.get? role.versionAnnotation = some secret.resourceVersion := by
  have recorded := get?_versionAnnotations secrets role
  rw [resolved] at recorded
  cases annotations : versionAnnotations secrets with
  | none =>
    rw [annotations] at recorded
    cases recorded
  | some annotations' =>
    rw [annotations] at recorded
    exact ⟨annotations', rfl, recorded⟩

/-! ### What else is desired -/

/-- Secrets of the same names, under whatever versions. -/
def ResolvedSecrets.SameNames (first second : ResolvedSecrets) : Prop :=
  ∀ role, (second.ofRole role).map (·.name) = (first.ofRole role).map (·.name)

section SameNames

variable {first second : ResolvedSecrets} (same : first.SameNames second)
include same

theorem portalEndpoint_congr :
    second.adminPortal.map portalEndpoint = first.adminPortal.map portalEndpoint := by
  have names : second.adminPortal.map (·.name) = first.adminPortal.map (·.name) :=
    same .adminPortal
  have byName : ∀ portal : Option ResolvedSecret, portal.map portalEndpoint =
      (portal.map (·.name)).map fun name => portalEndpoint { name } := fun portal => by
    cases portal <;> rfl
  rw [byName, names, ← byName]

/-- What is made of the configuration Secret by its name alone is the same. -/
theorem map_embeddedConfig_congr {Value : Type} (make : String → Value) :
    second.embeddedConfig.map (fun secret => make secret.name) =
      first.embeddedConfig.map (fun secret => make secret.name) := by
  have names : second.embeddedConfig.map (·.name) = first.embeddedConfig.map (·.name) :=
    same .embeddedConfig
  have byName : ∀ config : Option ResolvedSecret, config.map (fun secret => make secret.name) =
      (config.map (·.name)).map make := fun config => by
    cases config <;> rfl
  rw [byName, names, ← byName]

/-- The pods are desired by the names of the Secrets alone. -/
theorem pod?_desiredDeployment_congr (gateway : Gateway) :
    (desiredDeployment gateway second).pod? = (desiredDeployment gateway first).pod? := by
  have environments : environment gateway.spec second = environment gateway.spec first := by
    unfold environment
    rw [portalEndpoint_congr same, map_embeddedConfig_congr same fun _ => configFile]
  have mounts : configurationMounts second = configurationMounts first :=
    map_embeddedConfig_congr same fun _ =>
      ([{ name := configurationVolume, mountPath := configurationMountPath,
          readOnly := some true }] : List VolumeMount)
  have volumes : configurationVolumes second = configurationVolumes first :=
    map_embeddedConfig_congr same fun name =>
      ([{ name := configurationVolume
          secret := some
            { secretName := some name
              defaultMode := some secretFileMode
              items := some [{ key := configurationKey, path := configurationKey }] } }] :
        List Volume)
  show some _ = some _
  unfold gatewayContainer
  rw [environments, mounts, volumes]

end SameNames

/-! ### Merging the annotations -/

/-- The fields that a table changes are those whose rules report a change. -/
theorem reconcileFields_changed_eq {Object : Type} (desired : Object)
    (rules : List (FieldRule Object)) (existing : Object) :
    (reconcileFields desired rules existing).changed =
      ((mergeReports desired rules existing).filter (·.2)).map (·.1) := by
  induction rules generalizing existing with
  | nil => rfl
  | cons rule rules inductionHypothesis =>
    unfold reconcileFields mergeReports
    cases changed : (rule.merge existing desired).changed <;>
      simp [changed, inductionHypothesis]

namespace Deployment

/-- A Deployment that is as desired but for the annotations is changed in these alone. -/
theorem changed_of_annotations {policy : ReplicaPolicy} {existing old new : Deployment}
    (settled : Settled policy old existing)
    (replicas : new.spec.bind (·.replicas) = old.spec.bind (·.replicas))
    (pod : new.pod? = old.pod?)
    (differs : existing.templateAnnotations?.getD Map.empty ≠
      new.templateAnnotations?.getD Map.empty) :
    (reconcileFields new (rules policy) existing).changed = [annotationsRule.field] := by
  have container : new.firstContainer? = old.firstContainer? := by
    unfold firstContainer?
    rw [pod]
  have inContainer : containerDiffers existing new = containerDiffers existing old := by
    unfold containerDiffers
    rw [container]
  have annotations : (replaceCollection existing.templateMetadataOrEmpty.annotations
      new.templateAnnotations?).changed = true := by
    rw [← templateAnnotations?_eq, replaceCollection_changed, Bool.not_eq_true',
      Bool.eq_false_iff]
    exact fun same => differs ((sameCollection_iff_eq _ _).mp same)
  have others := (reconcileFields_changed_eq_nil_iff _ _ _).mp
    ((reconcileFields_changed_eq_nil_iff_settled policy existing old).mpr settled)
  rw [mergeReports_rules] at others
  rw [reconcileFields_changed_eq, mergeReports_rules]
  unfold differences at others ⊢
  simp only [List.forall_mem_append, List.forall_mem_cons] at others
  obtain ⟨replicasStay, image, serviceAccount, environment, -, volumes, volumeMounts, -⟩ := others
  rw [container, inContainer, pod, replicas, image, serviceAccount, environment, annotations,
    volumes, volumeMounts, List.filter_append, List.filter_eq_nil_iff.mpr fun report member => by
      rw [replicasStay report member]
      exact Bool.false_ne_true]
  rfl

/-- Annotations that differ are replaced as a whole. -/
theorem templateAnnotations?_reconcileFields {existing new : Deployment} (policy : ReplicaPolicy)
    (differs : existing.templateAnnotations?.getD Map.empty ≠
      new.templateAnnotations?.getD Map.empty) :
    (reconcileFields new (rules policy) existing).object.templateAnnotations? =
      new.templateAnnotations? := by
  rw [reconcileFields_object]
  show (replaceCollection existing.templateMetadataOrEmpty.annotations
    new.templateAnnotations?).value = _
  rw [← templateAnnotations?_eq]
  unfold replaceCollection
  rw [if_neg fun same => differs ((sameCollection_iff_eq _ _).mp same)]

end Deployment

end GatewayOperator
