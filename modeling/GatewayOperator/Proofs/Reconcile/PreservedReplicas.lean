/-
This file follows the replicas of a Deployment while any number of passes and other clients take
turns. A pass that preserves the replicas writes a Deployment only with the replicas of the copy it
has just read, and the write succeeds only on top of that copy. So whatever has happened in between,
the next call of such a pass leaves the replicas of every stored Deployment as they are.
-/

import GatewayOperator.Proofs.Fields.Replicas
import GatewayOperator.Proofs.Reconcile.Children
import GatewayOperator.Proofs.Reconcile.Interleaving

namespace GatewayOperator

/-! ### The calls of a pass -/

/-- A call that writes a Deployment back keeps the replicas of the last object read. -/
def KeepsReplicas (seen : Stored) (request : Call) : Prop :=
  ∀ object : Deployment, request = .update .deployment object →
    ∃ existing : Deployment, seen = ⟨.deployment, existing⟩ ∧
      object.replicas? = existing.replicas?

theorem keepsReplicas_of_kind {request : Call} (different : request.kind ≠ .deployment)
    (seen : Stored) : KeepsReplicas seen request := by
  rintro object rfl
  exact absurd rfl different

theorem along_keepsReplicas_of_kind {exchanges : List Exchange}
    (different : ∀ exchange ∈ exchanges, exchange.call.kind ≠ .deployment) (seen : Stored) :
    Along KeepsReplicas seen exchanges := by
  induction exchanges generalizing seen with
  | nil => trivial
  | cons exchange exchanges inductionHypothesis =>
    rw [List.forall_mem_cons] at different
    exact ⟨keepsReplicas_of_kind different.1 seen, inductionHypothesis different.2 _⟩

theorem keepsReplicas_get (kind : Kind) (namespaceName name : String) (seen : Stored) :
    KeepsReplicas seen (.get kind namespaceName name) := by
  intro object same
  cases same

theorem keepsReplicas_create (kind : Kind) (object : kind.Object) (seen : Stored) :
    KeepsReplicas seen (.create kind object) := by
  intro object same
  cases same

theorem keepsReplicas_update {existing object : Deployment}
    (kept : object.replicas? = existing.replicas?) :
    KeepsReplicas ⟨.deployment, existing⟩ (.update .deployment object) := by
  intro other same
  cases same
  exact ⟨existing, rfl, kept⟩

/-- A Deployment that is merged keeps the replicas it was read with. -/
theorem ChildStage.along_keepsReplicas {desired : Deployment} {name : ObjectName}
    {exchanges : List Exchange} {result : Except ReconcileError ChildOutcome}
    (stage : ChildStage .deployment (Deployment.rules .preserve) desired name exchanges result)
    (seen : Stored) : Along KeepsReplicas seen exchanges := by
  have reads := keepsReplicas_get .deployment name.namespaceName name.name seen
  cases stage with
  | unread | settled => exact ⟨reads, trivial⟩
  | uncreated | created => exact ⟨reads, keepsReplicas_create _ _ _, trivial⟩
  | @unwritten existing | @written existing =>
    exact ⟨reads, keepsReplicas_update (Deployment.replicas?_preserve existing desired), trivial⟩

theorem BringsAbout.along_keepsReplicas {gateway : Gateway} {secrets : ResolvedSecrets}
    {kind : Kind} {calls : List Exchange}
    (brings : BringsAbout .preserve (desiredState gateway secrets) kind calls) (seen : Stored) :
    Along KeepsReplicas seen calls := by
  by_cases deployment : kind = .deployment
  · subst deployment
    obtain rfl | ⟨wanted, outcome, child, ends⟩ := brings
    · trivial
    · exact (ChildStage.of_ends (objectName?_child child) ends).along_keepsReplicas seen
  · refine along_keepsReplicas_of_kind (fun exchange member => ?_) seen
    rw [brings.kind_of_mem exchange member]
    exact deployment

theorem ChildrenStage.along_keepsReplicas {gateway : Gateway} {secrets : ResolvedSecrets}
    {exchanges : List Exchange} {result : Except ReconcileError Unit}
    (stage : ChildrenStage .preserve (desiredState gateway secrets) exchanges result)
    (seen : Stored) : Along KeepsReplicas seen exchanges := by
  obtain ⟨deployment, service, ingress, rfl, brings⟩ := stage.exists_parts
  rw [along_append, along_append]
  exact ⟨⟨(brings .deployment).along_keepsReplicas _, (brings .service).along_keepsReplicas _⟩,
    (brings .ingress).along_keepsReplicas _⟩

/-- A pass that preserves the replicas writes every Deployment back with the replicas it has just
read. -/
theorem along_keepsReplicas {gateway : Gateway} {calls : List Exchange} {result : PassResult}
    (ends : (pass .preserve gateway).Ends calls result) (seen : Stored) :
    Along KeepsReplicas seen calls := by
  cases lacks : gateway.lacksDefaults with
  | true =>
    refine along_keepsReplicas_of_kind ?_ seen
    obtain ⟨failure, rfl, -⟩ | ⟨updated, rfl, -⟩ := ends_pass_lacking lacks ends
    · exact List.forall_mem_singleton.mpr Kind.noConfusion
    · exact List.forall_mem_singleton.mpr Kind.noConfusion
  | false =>
    have secrets : ∀ {role : SecretRole} {calls : List Exchange}
        {owned : Except ReconcileError OwnedSecret},
        (reconcileSecret role gateway).Ends calls owned →
        ∀ seen, Along KeepsReplicas seen calls := by
      intro role calls owned ends
      refine along_keepsReplicas_of_kind fun exchange member => ?_
      rw [(SecretStage.of_ends ends).secretCalls.kind_of_mem exchange member]
      exact Kind.noConfusion
    have stage := GatewayStage.of_ends ((ends_pass_complete lacks _ _).mp ends).1
    generalize result.result = outcome at stage
    cases stage with
    | adminPortalFails first | adminPortalOwned first => exact secrets first seen
    | embeddedConfigFails first second | embeddedConfigOwned first second =>
      exact along_append.mpr ⟨secrets first seen, secrets second _⟩
    | children first second third =>
      rw [along_append, along_append]
      exact ⟨⟨secrets first _, secrets second _⟩,
        (ChildrenStage.of_ends third).along_keepsReplicas _⟩

/-! ### Passes among other clients -/

namespace World

/-- A write of a Deployment that a preserving pass is about to make keeps the replicas of the copy
it has read. -/
theorem Tracked.keepsReplicas {running : RunningPass} (tracked : Tracked running)
    (preserves : running.policy = .preserve) {request : Call}
    {next : request.Answer → Program PassResult} (rest : running.rest = .call request next) :
    KeepsReplicas running.base.stored request := by
  obtain ⟨exchanges, result, ends⟩ := running.rest.exists_ends
  have path := tracked.path exchanges result ends
  rw [preserves] at path
  have along := along_keepsReplicas path ⟨.gateway, running.gateway⟩
  rw [rest] at ends
  obtain ⟨answer, others, rfl, -⟩ := ends
  rw [tracked.base]
  exact (along_append.mp along).2.1

/-- An update that keeps the replicas of the copy it is guarded by keeps those that are stored,
because it succeeds only on top of the copy. -/
theorem Sound.update_keepsReplicas {world : World} {sighting : Sighting}
    (sound : world.Sound sighting) {object base existing : Deployment} {key : ObjectKey}
    (isBase : sighting.stored = ⟨.deployment, base⟩)
    (guards : Guards .deployment base object) (kept : object.replicas? = base.replicas?)
    (place : (Kind.deployment.objectName? object).map (.of .deployment) = some key)
    (stored : world.memory.object? key = some ⟨.deployment, existing⟩) :
    ∃ current : Deployment,
      (world.memory.update .deployment object).2.object? key = some ⟨.deployment, current⟩ ∧
      current.replicas? = existing.replicas? := by
  obtain ⟨name, named, onTop, -⟩ := sound.of_guards (by decide) isBase guards
  rw [named] at place
  obtain rfl := Option.some.inj place
  obtain ⟨cause, after, fails, unwritten, -⟩ |
    ⟨other, found, metadata, status, after, otherNamed, -, -, succeeds, wrote, -⟩ :=
    world.memory.update_cases .deployment object
  · rw [fails]
    exact ⟨existing, (unwritten.object? _).trans stored, rfl⟩
  · obtain rfl : name = other := Option.some.inj (named.symm.trans otherNamed)
    have top := (onTop ⟨_, congrArg Prod.fst succeeds⟩).1
    rw [stored] at top
    cases top
    rw [succeeds]
    exact ⟨_, wrote.object?_self, kept⟩

/-- The next call of a pass that preserves the replicas leaves those of a stored Deployment as they
are, whoever has written it since the pass read it. -/
theorem Consistent.keepsReplicas {world : World} (consistent : world.Consistent)
    {running : RunningPass} (member : running ∈ world.passes)
    (preserves : running.policy = .preserve) {request : Call}
    {next : request.Answer → Program PassResult} (rest : running.rest = .call request next)
    {key : ObjectKey} {existing : Deployment}
    (stored : world.memory.object? key = some ⟨.deployment, existing⟩) :
    ∃ current : Deployment,
      (Memory.store.answer request world.memory).2.object? key = some ⟨.deployment, current⟩ ∧
      current.replicas? = existing.replicas? := by
  have wellKept := consistent.wellKept
  have tracked := consistent.tracked running member
  by_cases place : request.place? = some key
  · -- Only a call about Deployments writes the place of one.
    have isDeployment : request.kind = .deployment := by
      by_contra different
      obtain ⟨name, -, isPlace⟩ := Option.map_eq_some_iff.mp (wellKept.place key _ stored)
      refine Call.place?_ne_of_label (fun same => different ?_) place
      rw [← isPlace] at same
      exact Kind.Alone.eq_of_label (by decide) same
    cases request with
    | get => cases place
    | updateStatus gateway => cases isDeployment
    | create kind object =>
      obtain ⟨cause, fails⟩ | ⟨name, after, named, free, -⟩ := world.memory.create_cases kind object
      · have kept : (Memory.store.answer (.create kind object) world.memory).2 = world.memory :=
          congrArg Prod.snd fails
        rw [kept]
        exact ⟨existing, stored, rfl⟩
      · have here : (kind.objectName? object).map (.of kind) = some key := place
        rw [named] at here
        obtain rfl := Option.some.inj here
        rw [stored] at free
        cases free
    | update kind object =>
      obtain rfl : kind = .deployment := isDeployment
      obtain ⟨base, isBase, kept⟩ := tracked.keepsReplicas preserves rest object rfl
      obtain ⟨-, other, isOther, guards⟩ := tracked.guards rest
      rw [isBase] at isOther
      cases isOther
      exact (consistent.basesSound running member).update_keepsReplicas isBase guards kept place
        stored
  · rw [wellKept.answer_object?_other place]
    exact ⟨existing, stored, rfl⟩

end World

end GatewayOperator
