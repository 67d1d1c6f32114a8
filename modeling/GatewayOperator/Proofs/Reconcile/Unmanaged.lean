/-
This file carries what the field tables leave alone to the objects that are written. An update of an
object sends what its table made of the object that was read just before, whatever the store answers
and whoever steps in. So an object that was stored is stored afterwards as it was, or as its table
left it and with another version; and everything outside its managed fields is the same.
-/

import GatewayOperator.Proofs.Fields.Unmanaged
import GatewayOperator.Proofs.Reconcile.ForeignObjects

namespace GatewayOperator

section ReconcileChild

variable {policy : ReplicaPolicy} {kind : Kind} {desired : kind.Object}

/-- What is stored of a merged object is what its table returned, under another version. The status
that an update keeps is the one that the table kept. -/
theorem Kind.mergedAt_eq (existing : kind.Object) (version : Nat) :
    kind.mergedAt policy desired existing version =
      kind.withMetadata (reconcileFields desired (kind.rules policy) existing).object
        { kind.metadata existing with
          resourceVersion := some (Memory.versionText version) } := by
  unfold Kind.mergedAt
  cases kind with
  | deployment =>
    have object : (reconcileFields desired (Kind.deployment.rules policy) existing).object =
      Deployment.merged policy existing desired :=
        Deployment.reconcileFields_object policy existing desired
    rw [object]
    rfl
  | _ => rfl

/-- Without a name nothing is asked of a store. -/
theorem ends_reconcileChild_nameless {rules : List (FieldRule kind.Object)}
    (nameless : kind.objectName? desired = none) {exchanges : List Exchange}
    {result : Except ReconcileError ChildOutcome}
    (ends : (reconcileChild kind rules desired).Ends exchanges result) : exchanges = [] := by
  unfold reconcileChild at ends
  rw [nameless] at ends
  exact ((Attempt.ends_fail _ _ _).mp ends).1

/-- An update sends what the table made of the object that was read before. -/
theorem ChildStage.update_cases {rules : List (FieldRule kind.Object)} {name : ObjectName}
    {exchanges : List Exchange} {result : Except ReconcileError ChildOutcome}
    (stage : ChildStage kind rules desired name exchanges result) {exchange : Exchange}
    (member : exchange ∈ exchanges) {written : kind.Object}
    (isUpdate : exchange.call = .update kind written) :
    ∃ existing, reading kind name (.ok existing) ∈ exchanges ∧
      written = (reconcileFields desired rules existing).object := by
  cases stage with
  | unread | settled =>
    rw [List.mem_singleton] at member
    subst member
    cases isUpdate
  | uncreated | created =>
    rw [List.mem_pair] at member
    obtain rfl | rfl := member <;> cases isUpdate
  | @unwritten existing | @written existing =>
    refine ⟨existing, List.mem_cons_self, ?_⟩
    rw [List.mem_pair] at member
    obtain rfl | rfl := member <;> cases isUpdate
    rfl

/-- A stored object is stored afterwards as it was, or as its table left it and with another
version. -/
theorem Memory.WellKept.stored_after_reconcileChild {memory : Memory} (wellKept : memory.WellKept)
    (policy : ReplicaPolicy) {name : ObjectName} {existing : kind.Object}
    (named : kind.objectName? desired = some name)
    (stored : memory.object? (.of kind name) = some ⟨kind, existing⟩) :
    ∃ object, ((reconcileChild kind (kind.rules policy) desired).run.run Memory.store
        memory).state.object? (.of kind name) = some ⟨kind, object⟩ ∧
      (object = existing ∨ ∃ version, object =
        kind.withMetadata (reconcileFields desired (kind.rules policy) existing).object
          { kind.metadata existing with resourceVersion := some version }) := by
  let program := (reconcileChild kind (kind.rules policy) desired).run
  have stage := ChildStage.of_ends named (Program.ends_run Memory.store program memory)
  have gives := Program.gives_exchanges Memory.store program memory
  obtain ⟨-, same⟩ | ⟨-, changed⟩ := wellKept.object?_of_childStage stored stage gives
  · exact ⟨existing, same, Or.inl rfl⟩
  · split at changed
    · exact ⟨existing, changed, Or.inl rfl⟩
    · exact ⟨_, changed, Or.inr ⟨_, Kind.mergedAt_eq existing _⟩⟩

end ReconcileChild

/-- Unmanaged fields survive. Everything outside the managed fields of an object is the same after
its table was run; an update that brings the object to its desired state sends such an object, made
of the one that was read before, whatever the store answers; and what is stored afterwards is the
object as it was, or such an object under another version. -/
theorem unmanaged_fields_survive (policy : ReplicaPolicy) (kind : Kind) (desired : kind.Object) :
    (∀ existing, kind.UnmanagedKept policy desired existing
      (reconcileFields desired (kind.rules policy) existing).object) ∧
    (∀ exchanges result,
      (reconcileChild kind (kind.rules policy) desired).Ends exchanges result →
      ∀ exchange ∈ exchanges, ∀ written, exchange.call = .update kind written →
      ∃ name existing, kind.objectName? desired = some name ∧
        reading kind name (.ok existing) ∈ exchanges ∧
        kind.UnmanagedKept policy desired existing written) ∧
    ∀ memory : Memory, memory.Reachable → ∀ name existing,
      kind.objectName? desired = some name →
      memory.object? (.of kind name) = some ⟨kind, existing⟩ →
      ∃ stored, ((reconcileChild kind (kind.rules policy) desired).run.run Memory.store
          memory).state.object? (.of kind name) = some ⟨kind, stored⟩ ∧
        (stored = existing ∨ ∃ kept version, kind.UnmanagedKept policy desired existing kept ∧
          stored = kind.withMetadata kept
            { kind.metadata existing with resourceVersion := some version }) := by
  have tables := fun existing => kind.unmanagedKept_reconcileFields policy existing desired
  refine ⟨tables, fun exchanges result ends exchange member written isUpdate => ?_,
    fun memory reachable name existing named stored => ?_⟩
  · cases named : kind.objectName? desired with
    | none =>
      rw [ends_reconcileChild_nameless named ends] at member
      cases member
    | some name =>
      obtain ⟨existing, read, rfl⟩ := (ChildStage.of_ends named ends).update_cases member isUpdate
      exact ⟨name, existing, rfl, read, tables existing⟩
  · obtain ⟨object, found, same | ⟨version, same⟩⟩ :=
      reachable.wellKept.stored_after_reconcileChild policy named stored
    · exact ⟨object, found, Or.inl same⟩
    · exact ⟨object, found, Or.inr ⟨_, version, tables existing, same⟩⟩

/-- The Deployment that is wanted for a gateway. -/
def wantedDeployment : Deployment :=
  { listeningDeployment with
    metadata := { name := some "apicast-edge", namespaceName := some "default" } }

/-- A container that somebody added. -/
def sidecar : Container where
  image := some "docker.io/library/busybox"
  name := "sidecar"

/-- A Deployment that somebody tuned, as it is stored: with a command, a deadline for its pods and a
number of pods that are available, none of which the operator has a field for. -/
def tunedDeployment : Deployment where
  metadata :=
    { creationTimestamp := Time.of? 2026 1 1 0 0 0
      labels := some (Map.empty.insert "team" "edge")
      name := some "apicast-edge"
      namespaceName := some "default"
      resourceVersion := some "1"
      uid := some "uid-deployment" }
  spec := some
    { minReadySeconds := some 5
      progressDeadlineSeconds := some 300
      template :=
        { spec := some
            { containers :=
                [{ env := some [{ name := "TZ", value := some "UTC" }]
                   name := "apicast"
                   others := (some ["serve"], Container.layout.blank.2) },
                  sidecar]
              terminationGracePeriodSeconds := some 60
              others := (some (3600 : Int64), PodSpec.layout.blank.2) } } }
  status := some
    { replicas := some 3, others := (some (2 : Int32), DeploymentStatus.layout.blank.2) }

/-- The tuned Deployment is stored. -/
def tunedMemory : Memory := ((Operation.seed .deployment tunedDeployment).perform {}).memory

/-- What comes of bringing the tuned Deployment to its desired state. -/
def tunedEnd : Ended Memory (Except ReconcileError ChildOutcome) :=
  (reconcileChild .deployment (Deployment.rules .preserve) wantedDeployment).run.run Memory.store
    tunedMemory

/-- The image and the environment of the tuned Deployment are written, and everything else of it
stays. -/
theorem tuned_deployment_survives :
    tunedMemory.Reachable ∧
    tunedMemory.object? ⟨"Deployment", "default", "apicast-edge"⟩ =
      some ⟨.deployment, tunedDeployment⟩ ∧
    tunedEnd.result =
      .ok (.updated [Deployment.imageRule.field, Deployment.environmentRule.field]) ∧
    ∃ kept version, Deployment.UnmanagedKept .preserve wantedDeployment tunedDeployment kept ∧
      tunedEnd.state.object? ⟨"Deployment", "default", "apicast-edge"⟩ = some ⟨.deployment,
        { kept with
          metadata := { tunedDeployment.metadata with resourceVersion := some version } }⟩ := by
  have reachable : tunedMemory.Reachable := Memory.Reachable.empty.perform _
  have stored : tunedMemory.object? (.of .deployment ⟨"default", "apicast-edge"⟩) =
    some ⟨.deployment, tunedDeployment⟩ := rfl
  obtain ⟨-, -, stores⟩ := unmanaged_fields_survive .preserve .deployment wantedDeployment
  obtain ⟨object, found, same | ⟨kept, version, unmanaged, rfl⟩⟩ :=
    stores tunedMemory reachable _ _ rfl stored
  · have version : (tunedEnd.state.object? (.of .deployment ⟨"default", "apicast-edge"⟩)).map
      (·.metadata.resourceVersion) = some (some "2") := rfl
    subst same
    replace found : tunedEnd.state.object? (.of .deployment ⟨"default", "apicast-edge"⟩) =
      some ⟨.deployment, tunedDeployment⟩ := found
    rw [found] at version
    exact absurd version (by decide)
  · exact ⟨reachable, stored, rfl, kept, version, unmanaged, found⟩

end GatewayOperator
