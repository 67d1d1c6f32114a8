/-
This file says who may control an object that a pass writes. A Secret that somebody else controls is
refused; the other objects of a gateway are not looked at for their owners. A pass that gets to such
an object merges what is desired into it exactly when a managed field differs and no conflict waits
for the write, whoever controls it, and the references to owners stay as they are. So a Deployment
that belongs to somebody else is written over, and no pass ever reports it as owned.
-/

import GatewayOperator.Proofs.Reconcile.Children

namespace GatewayOperator

/-! ### The update of an object -/

/-- An object with what is desired merged into it, as it is stored under a version. -/
def Kind.mergedAt (kind : Kind) (policy : ReplicaPolicy) (desired existing : kind.Object)
    (version : Nat) : kind.Object :=
  kind.withStatusOf (kind.withMetadata (reconcileFields desired (kind.rules policy) existing).object
    { kind.metadata existing with resourceVersion := some (Memory.versionText version) }) existing

theorem Kind.metadata_mergedAt (kind : Kind) (policy : ReplicaPolicy)
    (desired existing : kind.Object) (version : Nat) :
    kind.metadata (kind.mergedAt policy desired existing version) =
      { kind.metadata existing with
        resourceVersion := some (Memory.versionText version) } := by
  unfold Kind.mergedAt
  rw [Kind.metadata_withStatusOf, Kind.metadata_withMetadata]

namespace Memory

variable {policy : ReplicaPolicy}

/-- The memory after what is desired was merged into a stored object. -/
def merge (memory : Memory) (policy : ReplicaPolicy) (kind : Kind)
    (desired existing : kind.Object) (name : ObjectName) : Memory :=
  (memory.write (.of kind name)
    ⟨kind, kind.mergedAt policy desired existing (memory.lastVersion + 1)⟩).log .update
      (.of kind name)

theorem object?_merge_self (memory : Memory) (policy : ReplicaPolicy) (kind : Kind)
    (desired existing : kind.Object) (name : ObjectName) :
    (memory.merge policy kind desired existing name).object? (.of kind name) =
      some ⟨kind, kind.mergedAt policy desired existing (memory.lastVersion + 1)⟩ :=
  lookup_put_self _ _ _

theorem object?_merge_other (memory : Memory) (policy : ReplicaPolicy) (kind : Kind)
    (desired existing : kind.Object) {name : ObjectName} {other : ObjectKey}
    (different : other ≠ .of kind name) :
    (memory.merge policy kind desired existing name).object? other = memory.object? other :=
  lookup_put_other _ _ different

/-- An object that was merged is stored with the next version when no conflict waits for it. -/
theorem WellKept.update_merge {memory : Memory} (wellKept : WellKept memory)
    (policy : ReplicaPolicy) {kind : Kind} {existing : kind.Object} {name : ObjectName}
    (stored : memory.object? (.of kind name) = some ⟨kind, existing⟩)
    (quiet : memory.conflicts.contains (.of kind name) = false) (desired : kind.Object) :
    memory.update kind (reconcileFields desired (kind.rules policy) existing).object =
      (.ok (kind.mergedAt policy desired existing (memory.lastVersion + 1)),
        memory.merge policy kind desired existing name) := by
  have metadata := kind.metadata_reconcileFields policy existing desired
  have named : kind.objectName? (reconcileFields desired (kind.rules policy) existing).object =
      some name :=
    (kind.objectName?_reconcileFields policy existing desired).trans (wellKept.objectName? stored)
  rw [memory.update_stored named quiet stored (congrArg ObjectMeta.resourceVersion metadata),
    replacement_stored, metadata]
  rfl

/-- An object that was merged is stored with the next version, unless a conflict waits for it. Its
owners are not asked. -/
theorem WellKept.update_merged {memory : Memory} (wellKept : WellKept memory) {kind : Kind}
    {existing : kind.Object} {name : ObjectName}
    (stored : memory.object? (.of kind name) = some ⟨kind, existing⟩) (desired : kind.Object) :
    (memory.update kind (reconcileFields desired (kind.rules policy) existing).object).2.object?
        (.of kind name) =
      if memory.conflicts.contains (.of kind name) then some ⟨kind, existing⟩
      else some ⟨kind, kind.mergedAt policy desired existing (memory.lastVersion + 1)⟩ := by
  cases injected : memory.conflicts.contains (.of kind name) with
  | true =>
    have named : kind.objectName? (reconcileFields desired (kind.rules policy) existing).object =
        some name :=
      (kind.objectName?_reconcileFields policy existing desired).trans
        (wellKept.objectName? stored)
    rw [memory.update_injected named injected, if_pos rfl]
    exact stored
  | false =>
    rw [wellKept.update_merge policy stored injected, if_neg Bool.false_ne_true]
    exact memory.object?_merge_self policy kind desired existing name

/-- The version that is given next is not that of a stored object. -/
theorem WellKept.mergedAt_ne {memory : Memory} (wellKept : WellKept memory) {kind : Kind}
    {existing : kind.Object} {name : ObjectName}
    (stored : memory.object? (.of kind name) = some ⟨kind, existing⟩) (desired : kind.Object) :
    kind.mergedAt policy desired existing (memory.lastVersion + 1) ≠ existing := by
  intro same
  obtain ⟨version, given, text⟩ := wellKept.version _ _ stored
  have metadata := kind.metadata_mergedAt policy desired existing (memory.lastVersion + 1)
  rw [same] at metadata
  have next := congrArg ObjectMeta.resourceVersion metadata
  have equal := versionText_injective (Option.some.inj (next.symm.trans text))
  omega

/-- When an object that is stored is brought about, it is merged exactly when a managed field
differs and no conflict waits, and it is left alone otherwise. -/
theorem WellKept.object?_of_childStage {before after : Memory} (wellKept : WellKept before)
    {kind : Kind} {desired existing : kind.Object} {name : ObjectName}
    (stored : before.object? (.of kind name) = some ⟨kind, existing⟩) {exchanges : List Exchange}
    {result : Except ReconcileError ChildOutcome}
    (stage : ChildStage kind (kind.rules policy) desired name exchanges result)
    (gives : store.Gives before exchanges after) :
    (Unchanging policy kind desired existing ∧ after.object? (.of kind name) =
        some ⟨kind, existing⟩) ∨
    (¬Unchanging policy kind desired existing ∧ after.object? (.of kind name) =
      if before.conflicts.contains (.of kind name) then some ⟨kind, existing⟩
      else some ⟨kind, kind.mergedAt policy desired existing (before.lastVersion + 1)⟩) := by
  have got : before.get kind name = .ok existing := get_found stored
  cases stage with
  | unread | uncreated | created =>
    have unread := gives.1
    cases got.symm.trans unread
  | settled settled =>
    obtain ⟨read, rfl⟩ := gives
    cases got.symm.trans read
    exact Or.inl ⟨settled, stored⟩
  | unwritten differs | written differs =>
    obtain ⟨read, -, rfl⟩ := gives
    cases got.symm.trans read
    exact Or.inr ⟨differs, wellKept.update_merged stored desired⟩

end Memory

/-! ### What a pass does to a stored object -/

/-- A pass gets to the object of a kind. -/
def Turn.Reaches (turn : Turn) (kind : Kind) : Prop :=
  ∃ exchange ∈ turn.exchanges, exchange.call.kind = kind

theorem CallsAbout.exists_kind_iff {kind : Kind} {exchanges calls : List Exchange}
    (about : CallsAbout kind exchanges calls)
    (same : ∀ exchange ∈ calls, exchange.call.kind = kind) :
    (∃ exchange ∈ exchanges, exchange.call.kind = kind) ↔ calls ≠ [] := by
  obtain ⟨earlier, later, rfl, others⟩ := about
  constructor
  · rintro ⟨exchange, member, isKind⟩ rfl
    rw [List.append_nil] at member
    exact others exchange member isKind
  · intro called
    obtain ⟨exchange, member⟩ := List.exists_mem_of_ne_nil calls called
    exact ⟨exchange, List.mem_append_left _ (List.mem_append_right _ member), same exchange member⟩

/-- Either a pass leaves a stored object alone, and it does not get there, or a conflict waits, or
nothing differs; or none of this holds and what is desired is merged into the object. -/
theorem Turn.object_cases {turn : Turn} (reachable : turn.before.Reachable) {kind : Kind}
    (isChild : kind.isChild = true) {existing : kind.Object}
    (stored : turn.before.object? (.of kind turn.gateway.childObjectName) =
      some ⟨kind, existing⟩) :
    (turn.after.object? (.of kind turn.gateway.childObjectName) = some ⟨kind, existing⟩ ∧
      ¬(turn.Reaches kind ∧
        turn.before.conflicts.contains (.of kind turn.gateway.childObjectName) = false ∧
        ∃ desired, (turn.before.desiredState turn.gateway).child? kind = some desired ∧
          ¬Unchanging turn.policy kind desired existing)) ∨
    ∃ desired version, (turn.before.desiredState turn.gateway).child? kind = some desired ∧
      turn.Reaches kind ∧
      turn.before.conflicts.contains (.of kind turn.gateway.childObjectName) = false ∧
      ¬Unchanging turn.policy kind desired existing ∧
      turn.after.object? (.of kind turn.gateway.childObjectName) =
        some ⟨kind, kind.mergedAt turn.policy desired existing version⟩ ∧
      kind.mergedAt turn.policy desired existing version ≠ existing := by
  obtain ⟨calls, about, brings⟩ := turn.exists_callsAbout reachable isChild
  have reaches : turn.Reaches kind ↔ calls ≠ [] := about.exists_kind_iff brings.kind_of_mem
  obtain ⟨start, finish, started, gives, first, conflicts, last⟩ :=
    reachable.of_callsAbout (Kind.alone_of_isChild isChild) about turn.gives
      turn.gateway.childObjectName
  rw [stored] at first
  rw [last, ← conflicts]
  obtain rfl | ⟨wanted, outcome, child, ends⟩ := brings
  · rw [show finish = start from gives]
    exact Or.inl ⟨first, fun reached => reaches.mp reached.1 rfl⟩
  have stage := ChildStage.of_ends (objectName?_child child) ends
  have called : turn.Reaches kind := by
    rw [reaches]
    rintro rfl
    cases stage
  obtain ⟨settled, same⟩ | ⟨differs, changed⟩ :=
    started.wellKept.object?_of_childStage first stage gives
  · refine Or.inl ⟨same, ?_⟩
    rintro ⟨-, -, desired, other, unsettled⟩
    obtain rfl : wanted = desired := Option.some.inj (child.symm.trans other)
    exact unsettled settled
  · cases injected : start.conflicts.contains (.of kind turn.gateway.childObjectName) with
    | true =>
      rw [injected, if_pos rfl] at changed
      exact Or.inl ⟨changed, fun goes => Bool.false_ne_true goes.2.1.symm⟩
    | false =>
      rw [injected, if_neg Bool.false_ne_true] at changed
      exact Or.inr ⟨wanted, _, child, called, rfl, differs, changed,
        started.wellKept.mergedAt_ne first wanted⟩

/-! ### The error of a controlled object -/

/-- A Secret that does not pass its check is not refused for its owner. -/
theorem SecretRole.check_ne_alreadyOwned (role : SecretRole) (secret : Secret)
    (label namespaceName name ownerKind owner : String) :
    role.check secret ≠ .error (.alreadyOwned label namespaceName name ownerKind owner) := by
  intro fails
  cases role with
  | adminPortal =>
    unfold check Secret.checkAdminPortal at fails
    dsimp only at fails
    split at fails
    · cases fails
    · split at fails
      · cases fails
      · cases fails
      · split at fails <;> cases fails
  | embeddedConfig =>
    unfold check Secret.checkEmbeddedConfig at fails
    dsimp only at fails
    split at fails <;> cases fails

/-- A call that fails is not an error of an owner. -/
theorem PassStep.failure_ne_alreadyOwned (step : PassStep) (request : Call) (cause : StoreError)
    (label namespaceName name ownerKind owner : String) :
    step.failure request cause ≠ .alreadyOwned label namespaceName name ownerKind owner := by
  intro same
  unfold failure at same
  split at same
  · split at same <;> cases same
  · cases same

/-- A Secret is what a pass refuses for its owner. -/
theorem SecretRefused.label_of_alreadyOwned {role : SecretRole} {gateway : Gateway}
    {calls : List Exchange} {error : ReconcileError}
    (refused : SecretRefused role gateway calls error)
    {label namespaceName name ownerKind owner : String}
    (same : error = .alreadyOwned label namespaceName name ownerKind owner) :
    label = Kind.secret.label := by
  cases refused with
  | nameless refers nameless => cases same
  | unfit refers named unfit =>
    rw [same] at unfit
    exact absurd unfit (role.check_ne_alreadyOwned _ _ _ _ _ _)
  | controlled refers named fit refused =>
    cases same
    rfl

/-- A pass reports nothing but a Secret as controlled by somebody else. -/
theorem Turn.label_of_alreadyOwned {turn : Turn} {label namespaceName name ownerKind owner : String}
    (fails : turn.result = .error (.alreadyOwned label namespaceName name ownerKind owner)) :
    label = Kind.secret.label := by
  obtain ⟨parts, -, run⟩ := PassRun.of_ends turn.ends
  obtain ⟨_, step, exchange, cause, -, -, same⟩ | ⟨_, role, _, -, -, refused, -⟩ :=
    run.callProtocol.failed _ fails
  · exact absurd same.symm (step.failure_ne_alreadyOwned exchange.call cause _ _ _ _ _)
  · exact refused.label_of_alreadyOwned rfl

/-! ### Objects that somebody else controls -/

/-- What a pass does to a Deployment, a Service or an Ingress that is stored under the name of its
gateway, on every memory that can be reached, whoever controls the object. The object changes
exactly when the pass gets to it, no conflict waits for the write, and a managed field differs from
what is desired. Then it is stored with what is desired merged into it, and with its references to
owners as they were. A pass never fails because somebody else controls such an object: what it
reports as controlled is a Secret. -/
theorem objects_change_whoever_controls {turn : Turn} (reachable : turn.before.Reachable)
    {kind : Kind} (isChild : kind.isChild = true) {existing : kind.Object}
    (stored : turn.before.object? (.of kind turn.gateway.childObjectName) =
      some ⟨kind, existing⟩) :
    let key := ObjectKey.of kind turn.gateway.childObjectName
    (turn.after.object? key ≠ turn.before.object? key ↔
      turn.Reaches kind ∧ turn.before.conflicts.contains key = false ∧
      ∃ desired, (turn.before.desiredState turn.gateway).child? kind = some desired ∧
        ¬Unchanging turn.policy kind desired existing) ∧
    (turn.after.object? key ≠ turn.before.object? key →
      ∃ desired version, (turn.before.desiredState turn.gateway).child? kind = some desired ∧
        turn.after.object? key = some ⟨kind, kind.mergedAt turn.policy desired existing version⟩ ∧
        (kind.metadata (kind.mergedAt turn.policy desired existing version)).references =
          (kind.metadata existing).references) ∧
    ∀ label namespaceName name ownerKind owner,
      turn.result = .error (.alreadyOwned label namespaceName name ownerKind owner) →
      label = "Secret" := by
  intro key
  refine ⟨?_, ?_, fun _ _ _ _ _ fails => turn.label_of_alreadyOwned fails⟩
  · obtain ⟨same, stays⟩ | ⟨desired, version, child, reaches, quiet, differs, merged, different⟩ :=
      turn.object_cases reachable isChild stored
    · exact iff_of_false (fun changed => changed (same.trans stored.symm)) stays
    · refine iff_of_true (fun same => different ?_) ⟨reaches, quiet, desired, child, differs⟩
      exact eq_of_heq (Stored.mk.inj (Option.some.inj (merged.symm.trans (same.trans stored)))).2
  · intro changed
    obtain ⟨same, -⟩ | ⟨desired, version, child, -, -, -, merged, -⟩ :=
      turn.object_cases reachable isChild stored
    · exact absurd (same.trans stored.symm) changed
    · refine ⟨desired, version, child, merged, ?_⟩
      rw [Kind.metadata_mergedAt]
      rfl

/-- A reference to an owner that is no gateway of this operator, and that controls. -/
def rivalReference : OwnerReference where
  apiVersion := "routing.example.com/v1"
  controller := some true
  kind := "Router"
  name := "rival"
  uid := "uid-rival"

/-- A Deployment of somebody else under the name of the one the gateway should have. -/
def rivalDeployment : Deployment where
  metadata :=
    { name := some "apicast-edge"
      namespaceName := some "default"
      ownerReferences := some [rivalReference]
      uid := some "uid-deployment" }

/-- The Deployment as it is stored. -/
def storedRivalDeployment : Deployment :=
  { rivalDeployment with
    metadata := { rivalDeployment.metadata with resourceVersion := some "1" } }

/-- The gateway is stored after the Deployment. -/
def rivalMemory : Memory :=
  ((Operation.seed .gateway edgeGateway).perform
    ((Operation.seed .deployment rivalDeployment).perform {}).memory).memory

theorem reachable_rivalMemory : rivalMemory.Reachable :=
  (Memory.Reachable.empty.perform _).perform _

/-- A pass over the gateway. -/
def rivalTurn : Turn := ⟨.enforce, edgeGateway, rivalMemory⟩

/-- The pass gets to the Deployment, which lacks its replicas, and merges them into it. The owner of
the Deployment stays. -/
theorem rival_deployment_is_merged :
    rivalTurn.after.object? ⟨"Deployment", "default", "apicast-edge"⟩ ≠
      rivalTurn.before.object? ⟨"Deployment", "default", "apicast-edge"⟩ ∧
    ∃ current : Deployment, rivalTurn.after.object? ⟨"Deployment", "default", "apicast-edge"⟩ =
        some ⟨.deployment, current⟩ ∧
      current.metadata.references = [rivalReference] := by
  have reachable : rivalTurn.before.Reachable := reachable_rivalMemory
  have stored : rivalTurn.before.object?
      (.of .deployment rivalTurn.gateway.childObjectName) =
    some ⟨.deployment, storedRivalDeployment⟩ := rfl
  obtain ⟨changes, merges, -⟩ := objects_change_whoever_controls reachable rfl stored
  have reaches : rivalTurn.Reaches .deployment := ⟨_, List.mem_cons_self, rfl⟩
  have differs : ¬Unchanging .enforce .deployment
      (rivalMemory.desiredState edgeGateway).deployment storedRivalDeployment := by
    intro settled
    cases settled
  have changed := changes.mpr ⟨reaches, rfl, _, rfl, differs⟩
  obtain ⟨desired, version, -, merged, owners⟩ := merges changed
  exact ⟨changed, _, merged, owners⟩

/-- The Deployment is controlled by somebody else, in whose place the gateway is refused where it
asks; but the pass does not ask: it converges and gives the Deployment its replicas. -/
theorem rival_deployment_is_written_over :
    rivalMemory.Reachable ∧
    rivalMemory.object? ⟨"Deployment", "default", "apicast-edge"⟩ =
      some ⟨.deployment, storedRivalDeployment⟩ ∧
    (rivalReference ∈ storedRivalDeployment.metadata.references ∧ rivalReference.controls = true ∧
      rivalReference.sameOwner edgeGateway.ownerReference = false) ∧
    storedRivalDeployment.metadata.claim edgeGateway.ownerReference = .refused rivalReference ∧
    rivalTurn.result = .ok .done ∧
    ∃ current, rivalTurn.after.object? ⟨"Deployment", "default", "apicast-edge"⟩ =
        some ⟨.deployment, current⟩ ∧
      current.spec.bind (·.replicas) = some 2 ∧ current ≠ storedRivalDeployment := by
  have replicas : storedRivalDeployment.spec.bind (·.replicas) = none := rfl
  refine ⟨reachable_rivalMemory, rfl, ⟨List.mem_cons_self, rfl, ?_⟩, ?_, rfl, _, rfl, rfl, ?_⟩
  · decide
  · decide
  · intro same
    rw [← same] at replicas
    cases replicas

end GatewayOperator
