/-
This file says in one piece what the field table of a Deployment does. The rules of the table
work on one object in turn, and a rule may create what the next one looks for: the specification,
the pods, or a whole container. The result is nevertheless the existing object with each managed
field merged on its own, and each rule reports what its own merge reports. Hence a Deployment on
which no rule reports a change has every managed field as desired, and the result of the table is
such a Deployment.
-/

import GatewayOperator.Proofs.Fields.Merge

namespace GatewayOperator

namespace Deployment

/-! ### The parts of a Deployment -/

/-- The specification, an absent one being empty. -/
def specOrEmpty (deployment : Deployment) : DeploymentSpec := deployment.spec.getD {}

/-- What is said of the pods, nothing being empty. -/
def podOrEmpty (deployment : Deployment) : PodSpec :=
  deployment.specOrEmpty.template.spec.getD {}

/-- The metadata of the pod template, absent metadata being empty. -/
def templateMetadataOrEmpty (deployment : Deployment) : ObjectMeta :=
  deployment.specOrEmpty.template.metadata.getD {}

theorem bind_spec {Value : Type} (deployment : Deployment)
    (field : DeploymentSpec → Option Value) (absent : field {} = none) :
    deployment.spec.bind field = field deployment.specOrEmpty := by
  unfold specOrEmpty
  cases deployment.spec with
  | none => exact absent.symm
  | some spec => rfl

theorem bind_pod? {Value : Type} (deployment : Deployment) (field : PodSpec → Option Value)
    (absent : field {} = none) : deployment.pod?.bind field = field deployment.podOrEmpty := by
  unfold pod? podOrEmpty
  rw [bind_spec deployment _ rfl]
  cases deployment.specOrEmpty.template.spec with
  | none => exact absent.symm
  | some pod => rfl

theorem firstContainer?_eq (deployment : Deployment) :
    deployment.firstContainer? = deployment.podOrEmpty.containers.head? :=
  deployment.bind_pod? (·.containers.head?) rfl

theorem templateAnnotations?_eq (deployment : Deployment) :
    deployment.templateAnnotations? = deployment.templateMetadataOrEmpty.annotations := by
  unfold templateAnnotations? templateMetadataOrEmpty
  rw [bind_spec deployment _ rfl]
  cases deployment.specOrEmpty.template.metadata <;> rfl

/-! ### What the table does -/

/-- A container with its managed fields merged. -/
def mergedContainer (current wanted : Container) : Container :=
  { current with
    image := wanted.image
    env := (mergeEnvironment current.env wanted.env).value
    volumeMounts := (replaceCollection current.volumeMounts wanted.volumeMounts).value }

/-- The containers with the managed fields of the first one merged. A pod without containers
gets the wanted one. -/
def mergedContainers (containers : List Container) : Option Container → List Container
  | none => containers
  | some wanted => mergedContainer (containers.headD wanted) wanted :: containers.tail

/-- The pods with their managed fields merged. -/
def mergedPod (existing desired : Deployment) : PodSpec :=
  { existing.podOrEmpty with
    serviceAccountName := desired.pod?.bind (·.serviceAccountName)
    volumes := (replaceCollection existing.podOrEmpty.volumes
      (desired.pod?.bind (·.volumes))).value
    containers := mergedContainers existing.podOrEmpty.containers desired.firstContainer? }

/-- The metadata of the pod template with its annotations merged. -/
def mergedTemplateMetadata (existing desired : Deployment) : ObjectMeta :=
  { existing.templateMetadataOrEmpty with
    annotations := (replaceCollection existing.templateMetadataOrEmpty.annotations
      desired.templateAnnotations?).value }

/-- The number of replicas under a policy. -/
def mergedReplicas (policy : ReplicaPolicy) (existing desired : Deployment) : Option Int32 :=
  match policy with
  | .enforce => desired.spec.bind (·.replicas)
  | .preserve => existing.specOrEmpty.replicas

/-- A Deployment with its managed fields merged. -/
def merged (policy : ReplicaPolicy) (existing desired : Deployment) : Deployment :=
  { existing with
    spec := some
      { existing.specOrEmpty with
        replicas := mergedReplicas policy existing desired
        template :=
          { metadata := some (mergedTemplateMetadata existing desired)
            spec := some (mergedPod existing desired) } } }

/-- Whether a field of the first container differs, when one is wanted. A pod without containers
differs in the image alone, because it gets the wanted container with it. -/
def containerDiffers (existing desired : Deployment)
    (differs : Container → Container → Bool) : Bool :=
  match desired.firstContainer? with
  | none => false
  | some wanted => differs (existing.podOrEmpty.containers.headD wanted) wanted

/-- Which managed fields of a Deployment differ from the desired ones. -/
def differences (policy : ReplicaPolicy) (existing desired : Deployment) :
    List (String × Bool) :=
  (match policy with
    | .enforce => [(replicasRule.field,
        (replaceScalar existing.specOrEmpty.replicas (desired.spec.bind (·.replicas))).changed)]
    | .preserve => []) ++
  [(imageRule.field,
      desired.firstContainer?.isSome && existing.podOrEmpty.containers.isEmpty ||
        containerDiffers existing desired fun current wanted =>
          (replaceScalar current.image wanted.image).changed),
    (serviceAccountRule.field, (replaceScalar existing.podOrEmpty.serviceAccountName
      (desired.pod?.bind (·.serviceAccountName))).changed),
    (environmentRule.field, containerDiffers existing desired fun current wanted =>
      (mergeEnvironment current.env wanted.env).changed),
    (annotationsRule.field, (replaceCollection existing.templateMetadataOrEmpty.annotations
      desired.templateAnnotations?).changed),
    (volumesRule.field, (replaceCollection existing.podOrEmpty.volumes
      (desired.pod?.bind (·.volumes))).changed),
    (volumeMountsRule.field, containerDiffers existing desired fun current wanted =>
      (replaceCollection current.volumeMounts wanted.volumeMounts).changed)]

/-- What the rules do depends on whether a container is wanted and on whether there is one. -/
theorem wanted_cases (existing desired : Deployment) :
    desired.firstContainer? = none ∨
    (∃ wanted, desired.firstContainer? = some wanted ∧
      (((existing.spec.getD {}).template.spec.getD {}).containers = [])) ∨
    ∃ wanted current others, desired.firstContainer? = some wanted ∧
      ((existing.spec.getD {}).template.spec.getD {}).containers = current :: others := by
  cases desired.firstContainer? with
  | none => exact Or.inl rfl
  | some wanted =>
    cases ((existing.spec.getD {}).template.spec.getD {}).containers with
    | nil => exact Or.inr (Or.inl ⟨wanted, rfl, rfl⟩)
    | cons current others => exact Or.inr (Or.inr ⟨wanted, current, others, rfl, rfl⟩)

/-- The table merges every managed field on its own. -/
theorem reconcileFields_object (policy : ReplicaPolicy) (existing desired : Deployment) :
    (reconcileFields desired (rules policy) existing).object = merged policy existing desired := by
  rcases wanted_cases existing desired with first | ⟨wanted, first, containers⟩ |
    ⟨wanted, current, others, first, containers⟩ <;>
  cases policy <;>
  simp [reconcileFields, rules, commonRules, imageRule, serviceAccountRule, environmentRule,
    annotationsRule, volumesRule, volumeMountsRule, replicasRule, mergeFirstContainer, mergePod,
    mergeSpec, mergeTemplateMetadata, Merged.unchanged, replaceScalar_value, merged,
    mergedReplicas, mergedTemplateMetadata, mergedPod, mergedContainers, mergedContainer,
    specOrEmpty, podOrEmpty, templateMetadataOrEmpty, *]

/-- Every rule reports whether its own field differs. -/
theorem mergeReports_rules (policy : ReplicaPolicy) (existing desired : Deployment) :
    mergeReports desired (rules policy) existing = differences policy existing desired := by
  rcases wanted_cases existing desired with first | ⟨wanted, first, containers⟩ |
    ⟨wanted, current, others, first, containers⟩ <;>
  cases policy <;>
  simp [mergeReports, rules, commonRules, imageRule, serviceAccountRule, environmentRule,
    annotationsRule, volumesRule, volumeMountsRule, replicasRule, mergeFirstContainer, mergePod,
    mergeSpec, mergeTemplateMetadata, Merged.unchanged, replaceScalar_value, differences,
    containerDiffers, specOrEmpty, podOrEmpty, templateMetadataOrEmpty, *]

/-! ### Deployments that are as desired -/

/-- The managed fields of a container are as wanted: its image, of its variables those that are
wanted, and its mounts up to their order. -/
structure ContainerSettled (wanted current : Container) : Prop where
  image : current.image = wanted.image
  environment : ∀ entry ∈ wanted.env.getD [], Provides (current.env.getD []) entry
  volumeMounts : (current.volumeMounts.getD []).Perm (wanted.volumeMounts.getD [])

/-- The managed fields of a Deployment are as desired. Only its first container is managed. -/
structure Settled (policy : ReplicaPolicy) (desired deployment : Deployment) : Prop where
  replicas : policy = .enforce →
    deployment.spec.bind (·.replicas) = desired.spec.bind (·.replicas)
  serviceAccount :
    deployment.pod?.bind (·.serviceAccountName) = desired.pod?.bind (·.serviceAccountName)
  annotations :
    deployment.templateAnnotations?.getD Map.empty = desired.templateAnnotations?.getD Map.empty
  volumes : ((deployment.pod?.bind (·.volumes)).getD []).Perm
    ((desired.pod?.bind (·.volumes)).getD [])
  container : ∀ wanted, desired.firstContainer? = some wanted →
    ∃ current, deployment.firstContainer? = some current ∧ ContainerSettled wanted current

/-- Only the specification counts. -/
theorem Settled.of_spec {policy : ReplicaPolicy} {desired first second : Deployment}
    (settled : Settled policy desired first) (same : second.spec = first.spec) :
    Settled policy desired second := by
  obtain ⟨metadata, spec, status⟩ := first
  obtain ⟨otherMetadata, otherSpec, otherStatus⟩ := second
  obtain rfl : otherSpec = spec := same
  exact ⟨settled.replicas, settled.serviceAccount, settled.annotations, settled.volumes,
    settled.container⟩

theorem containerSettled_iff (wanted current : Container) :
    ContainerSettled wanted current ↔
      (replaceScalar current.image wanted.image).changed = false ∧
        (mergeEnvironment current.env wanted.env).changed = false ∧
        (replaceCollection current.volumeMounts wanted.volumeMounts).changed = false := by
  rw [replaceScalar_changed, decide_eq_false_iff_not, not_not,
    mergeEnvironment_changed_eq_false_iff, replaceCollection_changed, Bool.not_eq_false',
    sameCollection_iff_perm]
  exact ⟨fun settled => ⟨settled.image, settled.environment, settled.volumeMounts⟩,
    fun ⟨image, environment, volumeMounts⟩ => ⟨image, environment, volumeMounts⟩⟩

/-- The container rules report no change exactly when there is a first container as wanted. That
there is none is reported by the image rule alone. -/
theorem firstContainer_settled_iff (existing desired : Deployment) :
    (∀ wanted, desired.firstContainer? = some wanted →
      ∃ current, existing.firstContainer? = some current ∧ ContainerSettled wanted current) ↔
    (desired.firstContainer?.isSome && existing.podOrEmpty.containers.isEmpty ||
        containerDiffers existing desired fun current wanted =>
          (replaceScalar current.image wanted.image).changed) = false ∧
      (containerDiffers existing desired fun current wanted =>
        (mergeEnvironment current.env wanted.env).changed) = false ∧
      (containerDiffers existing desired fun current wanted =>
        (replaceCollection current.volumeMounts wanted.volumeMounts).changed) = false := by
  unfold containerDiffers
  rw [firstContainer?_eq existing]
  cases desired.firstContainer? with
  | none =>
    refine ⟨fun _ => ⟨rfl, rfl, rfl⟩, fun _ wanted impossible => ?_⟩
    cases impossible
  | some wanted =>
    cases existing.podOrEmpty.containers with
    | nil =>
      constructor
      · intro settled
        obtain ⟨current, found, _⟩ := settled wanted rfl
        cases found
      · rintro ⟨impossible, _⟩
        simp at impossible
    | cons current others =>
      simp only [Option.isSome_some, List.isEmpty_cons, Bool.and_false, Bool.false_or,
        List.headD_cons, List.head?_cons, Option.some.injEq, exists_eq_left', forall_eq',
        containerSettled_iff]

/-- The table reports no change exactly on the Deployments that are as desired. -/
theorem reconcileFields_changed_eq_nil_iff_settled (policy : ReplicaPolicy)
    (existing desired : Deployment) :
    (reconcileFields desired (rules policy) existing).changed = [] ↔
      Settled policy desired existing := by
  have replicas : policy = .enforce →
      (existing.spec.bind (·.replicas) = desired.spec.bind (·.replicas) ↔
        (replaceScalar existing.specOrEmpty.replicas
          (desired.spec.bind (·.replicas))).changed = false) := fun _ => by
    rw [bind_spec existing _ rfl, replaceScalar_changed, decide_eq_false_iff_not, not_not]
  have serviceAccount :
      existing.pod?.bind (·.serviceAccountName) = desired.pod?.bind (·.serviceAccountName) ↔
        (replaceScalar existing.podOrEmpty.serviceAccountName
          (desired.pod?.bind (·.serviceAccountName))).changed = false := by
    rw [bind_pod? existing _ rfl, replaceScalar_changed, decide_eq_false_iff_not, not_not]
  have annotations :
      existing.templateAnnotations?.getD Map.empty =
          desired.templateAnnotations?.getD Map.empty ↔
        (replaceCollection existing.templateMetadataOrEmpty.annotations
          desired.templateAnnotations?).changed = false := by
    rw [templateAnnotations?_eq existing, replaceCollection_changed, Bool.not_eq_false',
      sameCollection_iff_eq]
  have volumes :
      ((existing.pod?.bind (·.volumes)).getD []).Perm ((desired.pod?.bind (·.volumes)).getD []) ↔
        (replaceCollection existing.podOrEmpty.volumes
          (desired.pod?.bind (·.volumes))).changed = false := by
    rw [bind_pod? existing _ rfl, replaceCollection_changed, Bool.not_eq_false',
      sameCollection_iff_perm]
  have container := firstContainer_settled_iff existing desired
  rw [reconcileFields_changed_eq_nil_iff, mergeReports_rules]
  unfold differences
  rw [List.forall_mem_append]
  simp only [List.forall_mem_cons, List.not_mem_nil, false_implies, implies_true, and_true]
  constructor
  · rintro ⟨first, image, account, environment, templates, pods, mounts⟩
    refine ⟨fun enforce => ?_, serviceAccount.mpr account, annotations.mpr templates,
      volumes.mpr pods, container.mpr ⟨image, environment, mounts⟩⟩
    subst enforce
    exact (replicas rfl).mpr (first _ List.mem_cons_self)
  · intro settled
    obtain ⟨image, environment, mounts⟩ := container.mp settled.container
    refine ⟨?_, image, serviceAccount.mp settled.serviceAccount, environment,
      annotations.mp settled.annotations, volumes.mp settled.volumes, mounts⟩
    cases policy with
    | enforce => exact List.forall_mem_singleton.mpr ((replicas rfl).mp (settled.replicas rfl))
    | preserve => exact nofun

/-- A merged container is as wanted, when the wanted variables have different names. -/
theorem containerSettled_mergedContainer {wanted : Container}
    (distinct : ((wanted.env.getD []).map (·.name)).Nodup) (current : Container) :
    ContainerSettled wanted (mergedContainer current wanted) where
  image := rfl
  environment _ member := provides_mergeEnvironment distinct current.env member
  volumeMounts :=
    (sameCollection_iff_perm _ _).mp (sameCollection_replaceCollection _ _)

/-- The result of the table is as desired, whatever the Deployment was before: every managed
field was merged, and no rule touches the field of another one. -/
theorem settled_reconcileFields {desired : Deployment}
    (distinct : ∀ wanted, desired.firstContainer? = some wanted →
      ((wanted.env.getD []).map (·.name)).Nodup)
    (policy : ReplicaPolicy) (existing : Deployment) :
    Settled policy desired (reconcileFields desired (rules policy) existing).object := by
  rw [reconcileFields_object]
  refine ⟨fun enforce => ?_, rfl, ?_, ?_, fun wanted isFirst => ?_⟩
  · subst enforce
    rfl
  · exact (sameCollection_iff_eq _ _).mp (sameCollection_replaceCollection _ _)
  · exact (sameCollection_iff_perm _ _).mp (sameCollection_replaceCollection _ _)
  · refine ⟨_, ?_, containerSettled_mergedContainer (distinct wanted isFirst)
      (existing.podOrEmpty.containers.headD wanted)⟩
    show (mergedContainers existing.podOrEmpty.containers desired.firstContainer?).head? = _
    rw [isFirst]
    rfl

/-- A Deployment is as desired by itself, when its own variables have different names. -/
theorem settled_self {desired : Deployment}
    (distinct : ∀ wanted, desired.firstContainer? = some wanted →
      ((wanted.env.getD []).map (·.name)).Nodup)
    (policy : ReplicaPolicy) : Settled policy desired desired where
  replicas _ := rfl
  serviceAccount := rfl
  annotations := rfl
  volumes := List.Perm.refl _
  container wanted isFirst := by
    exact ⟨wanted, isFirst, rfl, fun _ member => provides_self (distinct wanted isFirst) member,
      List.Perm.refl _⟩

/-- The table leaves the metadata of a Deployment alone. -/
theorem metadata_reconcileFields (policy : ReplicaPolicy) (existing desired : Deployment) :
    (reconcileFields desired (rules policy) existing).object.metadata = existing.metadata := by
  rw [reconcileFields_object]
  rfl

/-! ### The variables of the first container -/

/-- The names of the variables of the first container, if there is one. -/
def variableNames (deployment : Deployment) : List String :=
  ((deployment.firstContainer?.bind (·.env)).getD []).map (·.name)

theorem variableNames_of_first {deployment : Deployment} {container : Container}
    (isFirst : deployment.firstContainer? = some container) :
    deployment.variableNames = (container.env.getD []).map (·.name) := by
  unfold variableNames
  rw [isFirst]
  rfl

theorem nodup_of_variableNames {deployment : Deployment}
    (distinct : deployment.variableNames.Nodup) {container : Container}
    (isFirst : deployment.firstContainer? = some container) :
    ((container.env.getD []).map (·.name)).Nodup := by
  rw [← variableNames_of_first isFirst]
  exact distinct

/-- The variables of a merged Deployment are those of the wanted container merged into those that
were there. -/
theorem variableNames_merged (policy : ReplicaPolicy) (existing desired : Deployment) :
    (merged policy existing desired).variableNames = existing.variableNames ∨
    ∃ wanted current : Container, desired.firstContainer? = some wanted ∧
      ((current.env.getD []).map (·.name) = existing.variableNames ∨ current = wanted) ∧
      (merged policy existing desired).variableNames =
        ((mergeEnvironment current.env wanted.env).value.getD []).map (·.name) := by
  have first : (merged policy existing desired).firstContainer? =
    (mergedContainers existing.podOrEmpty.containers desired.firstContainer?).head? := rfl
  have before := existing.firstContainer?_eq
  cases isWanted : desired.firstContainer? with
  | none =>
    refine Or.inl ?_
    unfold variableNames
    rw [first, isWanted, before]
    rfl
  | some wanted =>
    rw [isWanted] at first
    refine Or.inr ⟨wanted, existing.podOrEmpty.containers.headD wanted, rfl, ?_,
      variableNames_of_first first⟩
    cases containers : existing.podOrEmpty.containers with
    | nil => exact Or.inr rfl
    | cons current others =>
      rw [containers] at before
      exact Or.inl (variableNames_of_first before).symm

/-- A variable of a merged Deployment was there, or it is wanted. -/
theorem mem_variableNames_merged {policy : ReplicaPolicy} {existing desired : Deployment}
    {name : String} (member : name ∈ (merged policy existing desired).variableNames) :
    name ∈ existing.variableNames ∨ name ∈ desired.variableNames := by
  obtain same | ⟨wanted, current, isWanted, isCurrent, same⟩ :=
    variableNames_merged policy existing desired
  · rw [same] at member
    exact Or.inl member
  · rw [same] at member
    rw [variableNames_of_first isWanted]
    rcases mem_names_mergeEnvironment member with there | wants
    · rcases isCurrent with names | rfl
      · rw [names] at there
        exact Or.inl there
      · exact Or.inr there
    · exact Or.inr wants

/-- The variables of a merged Deployment have different names when those of both Deployments
have. -/
theorem nodup_variableNames_merged {existing desired : Deployment}
    (distinct : existing.variableNames.Nodup) (wantedDistinct : desired.variableNames.Nodup)
    (policy : ReplicaPolicy) : (merged policy existing desired).variableNames.Nodup := by
  obtain same | ⟨wanted, current, isWanted, isCurrent, same⟩ :=
    variableNames_merged policy existing desired
  · rw [same]
    exact distinct
  · rw [same]
    refine names_nodup_mergeEnvironment ?_ _
    rcases isCurrent with names | rfl
    · rw [names]
      exact distinct
    · exact nodup_of_variableNames wantedDistinct isWanted

end Deployment
end GatewayOperator
