/-
This file compares the two field tables of a Deployment. The table that preserves the number of
replicas does to a Deployment what the other table does, except that the number stays as it was, and
it reports the same fields but for the number. A Deployment that the preserving table reports
nothing of is the one that the enforcing table makes of it, up to the number and to the metadata of
its pod template: where there are none, the enforcing table fills in empty ones.
-/

import GatewayOperator.Proofs.Fields.Reports

namespace GatewayOperator.Deployment

/-- The number of replicas, if one is asked for. -/
def replicas? (deployment : Deployment) : Option Int32 := deployment.spec.bind (·.replicas)

/-- A Deployment with another number of replicas. -/
def withReplicas (deployment : Deployment) (replicas : Option Int32) : Deployment :=
  { deployment with spec := deployment.spec.map fun spec => { spec with replicas } }

/-- A Deployment with another version. -/
def withVersion (deployment : Deployment) (version : Option String) : Deployment :=
  { deployment with metadata := { deployment.metadata with resourceVersion := version } }

/-- Two Deployments are the same up to their versions and their numbers of replicas. -/
def SameButReplicas (first second : Deployment) : Prop :=
  ∃ version replicas, second = (first.withVersion version).withReplicas replicas

/-- A Deployment says nothing of the metadata of its pod template. -/
def LacksTemplateMetadata (deployment : Deployment) : Prop :=
  ∃ spec, deployment.spec = some spec ∧ spec.template.metadata = none

/-- A Deployment with empty metadata in its pod template where there are none. -/
def withTemplateMetadata (deployment : Deployment) : Deployment :=
  { deployment with
    spec := deployment.spec.map fun spec =>
      { spec with
        template := { spec.template with metadata := some (spec.template.metadata.getD {}) } } }

/-! ### The two tables -/

/-- The preserving table differs from the enforcing one in the number of replicas, which it
leaves. -/
theorem reconcileFields_preserve (existing desired : Deployment) :
    (reconcileFields desired (rules .preserve) existing).object =
      (reconcileFields desired (rules .enforce) existing).object.withReplicas
        existing.replicas? := by
  rw [reconcileFields_object, reconcileFields_object]
  unfold replicas?
  rw [bind_spec existing _ rfl]
  rfl

theorem replicas?_preserve (existing desired : Deployment) :
    (reconcileFields desired (rules .preserve) existing).object.replicas? =
      existing.replicas? := by
  unfold replicas?
  rw [reconcileFields_object, bind_spec existing _ rfl]
  rfl

/-- The preserving table reports what the enforcing one does, but for the number of replicas. -/
theorem changed_preserve (existing desired : Deployment) :
    (reconcileFields desired (rules .preserve) existing).changed =
      (reconcileFields desired (rules .enforce) existing).changed.filter
        (· != replicasRule.field) := by
  rw [reconcileFields_changed, reconcileFields_changed, mergeReports_rules, mergeReports_rules]
  have split : differences .enforce existing desired =
      (replicasRule.field, (replaceScalar existing.specOrEmpty.replicas
        (desired.spec.bind (·.replicas))).changed) :: differences .preserve existing desired := rfl
  have names : (differences .preserve existing desired).map (·.1) = commonRules.map (·.field) := rfl
  have kept : (((differences .preserve existing desired).filter (·.2)).map (·.1)).filter
        (· != replicasRule.field) =
      ((differences .preserve existing desired).filter (·.2)).map (·.1) := by
    rw [List.filter_eq_self, List.forall_mem_map]
    intro report member
    have common : report.1 ∈ commonRules.map (·.field) :=
      names ▸ List.mem_map_of_mem (List.mem_of_mem_filter member)
    rw [bne_iff_ne]
    intro same
    rw [same] at common
    exact absurd common (by decide)
  rw [split, List.filter_cons]
  split
  · rw [List.map_cons, List.filter_cons, kept]
    rfl
  · exact kept.symm

/-! ### Deployments that are left alone -/

/-- What the tables fill in of a Deployment with a container are the metadata of its pod
template. -/
theorem filledIn_eq_withTemplateMetadata {deployment : Deployment} {container : Container}
    (isFirst : deployment.firstContainer? = some container) :
    deployment.filledIn = deployment.withTemplateMetadata := by
  obtain ⟨pod, isPod, -⟩ := Option.bind_eq_some_iff.mp isFirst
  obtain ⟨spec, isSpec, inTemplate⟩ := Option.bind_eq_some_iff.mp isPod
  unfold filledIn withTemplateMetadata podOrEmpty templateMetadataOrEmpty specOrEmpty
  rw [isSpec]
  simp only [Option.getD_some, Option.map_some, inTemplate]

theorem withTemplateMetadata_eq_self {deployment : Deployment}
    (present : ¬deployment.LacksTemplateMetadata) :
    deployment.withTemplateMetadata = deployment := by
  obtain ⟨metadata, spec, status⟩ := deployment
  cases spec with
  | none => rfl
  | some spec =>
    obtain ⟨_, _, _, _, _, _, _, ⟨templateMetadata, _⟩⟩ := spec
    cases templateMetadata with
    | none => exact absurd ⟨_, rfl, rfl⟩ present
    | some templateMetadata => rfl

/-- What the enforcing table makes of a Deployment that the preserving one reports nothing of. -/
theorem reconcileFields_enforce_of_unchanged {existing desired : Deployment}
    (wants : desired.firstContainer?.isSome = true)
    (unchanged : (reconcileFields desired (rules .preserve) existing).changed = []) :
    (reconcileFields desired (rules .enforce) existing).object =
      existing.withTemplateMetadata.withReplicas desired.replicas? := by
  have settled :=
    (reconcileFields_changed_eq_nil_iff_settled .preserve existing desired).mp unchanged
  obtain ⟨wanted, isWanted⟩ := Option.isSome_iff_exists.mp wants
  obtain ⟨current, isFirst, -⟩ := settled.container wanted isWanted
  have enforced : merged .enforce existing desired =
      (merged .preserve existing desired).withReplicas desired.replicas? := rfl
  rw [reconcileFields_object, enforced, merged_of_settled settled,
    filledIn_eq_withTemplateMetadata isFirst]

end GatewayOperator.Deployment
