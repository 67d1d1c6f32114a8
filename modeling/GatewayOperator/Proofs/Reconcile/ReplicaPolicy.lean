/-
This file runs a pass that preserves the replicas of a Deployment beside one that enforces them,
from one memory. The two go the same way up to the Deployment. There both create it, or both store
it and what they store differs in nothing but the replicas; or the first one finds nothing to write
and the second one stores the replicas, and with them empty metadata in a pod template that has
none. From there on the memories hold the same but for the Deployment and for versions, so the
passes end with the same result.
-/

import GatewayOperator.Proofs.Reconcile.Idempotence
import GatewayOperator.Proofs.Reconcile.PreservedReplicas
import GatewayOperator.Proofs.Reconcile.SideBySide

namespace GatewayOperator

namespace Memory

/-! ### What the two passes leave behind -/

/-- What a place holds after two passes from one memory is the same up to versions, and up to the
replicas of a Deployment that was there before. -/
inductive SameButReplicas (before : Memory) (key : ObjectKey) : Option Stored → Option Stored → Prop
  where
  | same {found other : Option Stored} (reissued : Stored.Reissued found other) :
    SameButReplicas before key found other
  | scaled {existing first second : Deployment}
    (stored : before.object? key = some ⟨.deployment, existing⟩)
    (same : first.SameButReplicas second) :
    SameButReplicas before key (some ⟨.deployment, first⟩) (some ⟨.deployment, second⟩)

/-- A Deployment without metadata in its pod template is left as it was by the first pass, and the
second one has stored it with empty metadata there. -/
inductive FilledByOne (before : Memory) (key : ObjectKey) : Option Stored → Option Stored → Prop
  where
  | filled {existing second : Deployment}
    (stored : before.object? key = some ⟨.deployment, existing⟩)
    (lacks : existing.LacksTemplateMetadata)
    (same : existing.withTemplateMetadata.SameButReplicas second) :
    FilledByOne before key (some ⟨.deployment, existing⟩) (some ⟨.deployment, second⟩)

/-- What a place may hold after a pass that preserves the replicas and after one that enforces
them. -/
def ReplicasAside (before : Memory) (key : ObjectKey) (found other : Option Stored) : Prop :=
  before.SameButReplicas key found other ∨ before.FilledByOne key found other

theorem replicasAside_of_reissued (before : Memory) (key : ObjectKey) (found other : Option Stored)
    (reissued : Stored.Reissued found other) : before.ReplicasAside key found other :=
  Or.inl (.same reissued)

/-! ### Bringing one object about -/

section Child

variable {memory : Memory} {kind : Kind} {desired existing : kind.Object} {name : ObjectName}

theorem run_reconcileChild_missing (rules : List (FieldRule kind.Object))
    (named : kind.objectName? desired = some name)
    (missing : memory.object? (.of kind name) = none) :
    ((reconcileChild kind rules desired).run.run store memory).result = .ok .created ∧
      ((reconcileChild kind rules desired).run.run store memory).state =
        (memory.create kind desired).2 := by
  have created := memory.create_free named missing
  have path : (reconcileChild kind rules desired).Ends
      [reading kind name (.error (.notFound kind.label name.namespaceName name.name)),
        creating kind desired (.ok (memory.placed kind desired))] (.ok .created) :=
    (ends_reconcileChild named _ _).mpr (Or.inr ⟨_, _, rfl,
      (ends_createChild kind desired _ _).mpr (Or.inr ⟨_, rfl, rfl⟩)⟩)
  have gives : store.Gives memory
      [reading kind name (.error (.notFound kind.label name.namespaceName name.name)),
        creating kind desired (.ok (memory.placed kind desired))] (memory.create kind desired).2 :=
    ⟨get_missing missing, congrArg Prod.fst created, rfl⟩
  obtain ⟨result, state, -⟩ := Program.run_eq_of_gives path gives
  exact ⟨result, state⟩

/-- An object that is stored is merged when a managed field differs, and left alone otherwise. -/
theorem WellKept.run_reconcileChild_stored (wellKept : WellKept memory) (policy : ReplicaPolicy)
    (named : kind.objectName? desired = some name)
    (stored : memory.object? (.of kind name) = some ⟨kind, existing⟩)
    (quiet : memory.conflicts.contains (.of kind name) = false) :
    (∃ outcome, ((reconcileChild kind (kind.rules policy) desired).run.run store memory).result =
        .ok outcome) ∧
      ((reconcileChild kind (kind.rules policy) desired).run.run store memory).state =
        if (reconcileFields desired (kind.rules policy) existing).changed = [] then memory
        else memory.merge policy kind desired existing name := by
  split
  · next settled =>
    have gives : store.Gives memory [reading kind name (.ok existing)] memory :=
      ⟨get_found stored, rfl⟩
    obtain ⟨result, state, -⟩ :=
      Program.run_eq_of_gives (ends_reconcileChild_settled named settled) gives
    exact ⟨⟨_, result⟩, state⟩
  · next differs =>
    have updated := wellKept.update_merge policy stored quiet desired
    have path : (reconcileChild kind (kind.rules policy) desired).Ends
        [reading kind name (.ok existing),
          writing kind (reconcileFields desired (kind.rules policy) existing).object
            (.ok (kind.mergedAt policy desired existing (memory.lastVersion + 1)))]
        (.ok (.updated (reconcileFields desired (kind.rules policy) existing).changed)) :=
      (ends_reconcileChild named _ _).mpr (Or.inl ⟨existing, _, rfl,
        (ends_updateChild_differs differs _ _).mpr (Or.inr ⟨_, rfl, rfl⟩)⟩)
    have gives : store.Gives memory
        [reading kind name (.ok existing),
          writing kind (reconcileFields desired (kind.rules policy) existing).object
            (.ok (kind.mergedAt policy desired existing (memory.lastVersion + 1)))]
        (memory.merge policy kind desired existing name) :=
      ⟨get_found stored, congrArg Prod.fst updated, (congrArg Prod.snd updated).symm⟩
    obtain ⟨result, state, -⟩ := Program.run_eq_of_gives path gives
    exact ⟨⟨_, result⟩, state⟩

end Child

/-! ### The Deployment -/

section Deployment

variable {before : Memory} {desired existing : Deployment} {name : ObjectName}

/-- What both passes store of a Deployment differs in nothing but the replicas. -/
theorem sameButReplicas_mergedAt (desired existing : Deployment) (version : Nat) :
    Deployment.SameButReplicas (Kind.deployment.mergedAt .preserve desired existing version)
      (Kind.deployment.mergedAt .enforce desired existing version) := by
  have preserved := Deployment.reconcileFields_preserve existing desired
  refine ⟨some (versionText version),
    (reconcileFields desired (Deployment.rules .enforce) existing).object.replicas?, ?_⟩
  unfold Kind.mergedAt Kind.rules
  dsimp only
  rw [preserved]
  generalize (reconcileFields desired (Deployment.rules .enforce) existing).object = enforced
  obtain ⟨_, spec, _⟩ := enforced
  cases spec <;> rfl

/-- A Deployment that the first pass does not write is stored by the second one. -/
theorem replicasAside_of_unchanged {key : ObjectKey} (wants : desired.firstContainer?.isSome = true)
    (stored : before.object? key = some ⟨.deployment, existing⟩)
    (unchanged : (reconcileFields desired (Deployment.rules .preserve) existing).changed = [])
    (version : Nat) :
    before.ReplicasAside key (some ⟨.deployment, existing⟩)
      (some ⟨.deployment, Kind.deployment.mergedAt .enforce desired existing version⟩) := by
  have enforced := Deployment.reconcileFields_enforce_of_unchanged wants unchanged
  have same : existing.withTemplateMetadata.SameButReplicas
      (Kind.deployment.mergedAt .enforce desired existing version) := by
    refine ⟨some (versionText version), desired.replicas?, ?_⟩
    unfold Kind.mergedAt Kind.rules
    dsimp only
    rw [enforced]
    rfl
  by_cases lacks : existing.LacksTemplateMetadata
  · exact Or.inr (.filled stored lacks same)
  · rw [Deployment.withTemplateMetadata_eq_self lacks] at same
    exact Or.inl (.scaled stored same)

/-- What the two passes make of a Deployment that is stored differs at its place alone, and there it
is the same, the replicas aside. -/
theorem Reachable.parallel_deployment (reachable : before.Reachable)
    (wants : desired.firstContainer?.isSome = true)
    (stored : before.object? (.of .deployment name) = some ⟨.deployment, existing⟩)
    (quiet : before.conflicts.contains (.of .deployment name) = false) :
    Parallel before.ReplicasAside [.of .deployment name]
      (if (reconcileFields desired (Kind.deployment.rules .preserve) existing).changed = []
        then before else before.merge .preserve .deployment desired existing name)
      (if (reconcileFields desired (Kind.deployment.rules .enforce) existing).changed = []
        then before else before.merge .enforce .deployment desired existing name) := by
  have start : Parallel before.ReplicasAside [] before before :=
    parallel_self before.replicasAside_of_reissued reachable
  have others := Deployment.changed_preserve existing desired
  have kept : ∀ policy place, place ≠ ObjectKey.of .deployment name →
      (before.merge policy .deployment desired existing name).object? place =
        before.object? place :=
    fun policy _ => before.object?_merge_other policy .deployment desired existing
  have updated := reachable.wellKept.update_merge .preserve stored quiet desired
  have merged : (before.merge .preserve .deployment desired existing name).Reachable := by
    have performed : (before.update .deployment
        (reconcileFields desired (Kind.deployment.rules .preserve) existing).object).2.Reachable :=
      reachable.perform (.call (.update .deployment _))
    rw [updated] at performed
    exact performed
  split
  · next unchanged =>
    split
    · exact start.cons _
    · refine start.after (fun _ _ => rfl) (kept .enforce) ?_ reachable rfl rfl
      rw [object?_merge_self, stored]
      exact replicasAside_of_unchanged wants stored unchanged _
  · next differs =>
    split
    · next unchanged =>
      -- The enforcing table reports whatever the preserving one does.
      exact absurd (others.trans (congrArg (List.filter _) unchanged)) differs
    · refine start.after (kept .preserve) (kept .enforce) ?_ merged rfl rfl
      rw [object?_merge_self, object?_merge_self]
      exact Or.inl (.scaled stored (sameButReplicas_mergedAt _ _ _))

/-- From one memory in which no conflict waits for the Deployment, both passes bring it about. -/
theorem Reachable.pairs_deployment (reachable : before.Reachable)
    (named : Kind.deployment.objectName? desired = some name)
    (wants : desired.firstContainer?.isSome = true)
    (quiet : before.conflicts.contains (.of .deployment name) = false) :
    Attempt.Pairs (fun first second => before = first ∧ before = second)
      (fun _ _ => Parallel before.ReplicasAside [.of .deployment name])
      (Alike before.ReplicasAside)
      (reconcileChild .deployment (Kind.deployment.rules .preserve) desired)
      (reconcileChild .deployment (Kind.deployment.rules .enforce) desired) := by
  rintro _ _ ⟨rfl, rfl⟩
  have wellKept := reachable.wellKept
  obtain ⟨missing, -⟩ | ⟨existing, stored, -⟩ :=
    wellKept.get_cases (show Kind.deployment.Alone by decide) name
  · have created := fun policy =>
      run_reconcileChild_missing (Kind.deployment.rules policy) named missing
    refine Or.inr ⟨_, _, (created .preserve).1, (created .enforce).1, ?_⟩
    rw [(created .preserve).2, (created .enforce).2]
    exact parallel_self before.replicasAside_of_reissued
      (reachable.perform (.call (.create .deployment desired)))
  · obtain ⟨⟨outcome, succeeds⟩, state⟩ :=
      wellKept.run_reconcileChild_stored .preserve named stored quiet
    obtain ⟨⟨other, otherSucceeds⟩, otherState⟩ :=
      wellKept.run_reconcileChild_stored .enforce named stored quiet
    refine Or.inr ⟨outcome, other, succeeds, otherSucceeds, ?_⟩
    rw [state, otherState]
    exact reachable.parallel_deployment wants stored quiet

end Deployment

/-! ### The pass -/

section Pass

variable {before : Memory} {gateway : Gateway}

theorem Reachable.pairs_children (reachable : before.Reachable) (secrets : ResolvedSecrets)
    (quiet : before.conflicts.contains (.of .deployment gateway.childObjectName) = false) :
    Attempt.Pairs (fun first second => before = first ∧ before = second)
      (fun _ _ => Alike before.ReplicasAside) (Alike before.ReplicasAside)
      (reconcileChildren .preserve (GatewayOperator.desiredState gateway secrets))
      (reconcileChildren .enforce (GatewayOperator.desiredState gateway secrets)) := by
  have named : ∀ (kind : Kind) wanted, (GatewayOperator.desiredState gateway secrets).child? kind =
      some wanted → kind.objectName? wanted = some gateway.childObjectName :=
    fun _ _ => objectName?_child
  have alike := before.replicasAside_of_reissued
  have wants := firstContainer?_desiredDeployment gateway secrets
  unfold reconcileChildren
  refine (reachable.pairs_deployment (named .deployment _ rfl)
    (Option.isSome_iff_exists.mpr ⟨_, wants⟩) quiet).bind fun _ _ => ?_
  refine (Attempt.pairs_reconcileChild alike (by decide) .preserve (named .service _ rfl)
    ?_).bind fun _ _ => ?_
  · simp [ObjectKey.of, Kind.label]
  split
  · exact Attempt.pairs_pure fun _ _ parallel => parallel.same
  · next ingress exposed =>
    refine (Attempt.pairs_reconcileChild alike (by decide) .preserve (named .ingress _ exposed)
      ?_).bind fun _ _ => Attempt.pairs_pure fun _ _ parallel => parallel.same
    simp [ObjectKey.of, Kind.label]

/-- A Secret is resolved and owned in the same way, and where it is not written the memory is as it
was. -/
theorem pairs_secret (before : Memory) (gateway : Gateway) (role : SecretRole) :
    Attempt.Pairs (fun first second => before = first ∧ before = second)
      (fun owned other first second => other = owned ∧ Alike before.ReplicasAside first second ∧
        (owned.changed = false → before = first ∧ before = second))
      (Alike before.ReplicasAside) (reconcileSecret role gateway)
      (reconcileSecret role gateway) := by
  rintro _ _ ⟨rfl, rfl⟩
  have ends := (reconcileSecret role gateway).run.ends_run store before
  have gives := (reconcileSecret role gateway).run.gives_exchanges store before
  have alike := fun memory => alike_self before.replicasAside_of_reissued memory
  cases result : ((reconcileSecret role gateway).run.run store before).result with
  | error cause => exact Or.inl ⟨cause, result, result, alike _⟩
  | ok owned =>
    refine Or.inr ⟨owned, owned, result, result, rfl, alike _, fun unchanged => ?_⟩
    obtain ⟨secret, _ | _⟩ := owned
    · rw [result] at ends
      have same := (of_secretStage (.of_ends ends) gives).1
      exact ⟨same.symm, same.symm⟩
    · cases unchanged

theorem Reachable.pairs_reconcileGateway (reachable : before.Reachable)
    (quiet : before.conflicts.contains (.of .deployment gateway.childObjectName) = false) :
    Attempt.Pairs (fun first second => before = first ∧ before = second)
      (fun outcome other first second => other = outcome ∧ Alike before.ReplicasAside first second)
      (Alike before.ReplicasAside) (reconcileGateway .preserve gateway)
      (reconcileGateway .enforce gateway) := by
  unfold reconcileGateway
  refine (before.pairs_secret gateway .adminPortal).bind fun _ portal =>
    Attempt.pairs_of_known fun equal => ?_
  subst equal
  cases portal.changed with
  | true => exact Attempt.pairs_pure fun _ _ holds => ⟨rfl, holds.1⟩
  | false =>
    refine Attempt.Pairs.from ((before.pairs_secret gateway .embeddedConfig).bind fun _ config =>
      Attempt.pairs_of_known fun equal => ?_) fun _ _ holds => holds.2 rfl
    subst equal
    cases config.changed with
    | true => exact Attempt.pairs_pure fun _ _ holds => ⟨rfl, holds.1⟩
    | false =>
      refine Attempt.Pairs.from ((reachable.pairs_children _ quiet).bind fun _ _ => ?_)
        fun _ _ holds => holds.2 rfl
      exact Attempt.pairs_pure fun _ _ alike => ⟨rfl, alike⟩

/-- A gateway that lacks its defaults is written with them, whatever the policy is. -/
theorem run_pass_lacking (lacks : gateway.lacksDefaults = true) (policy : ReplicaPolicy)
    (memory : Memory) :
    ((pass policy gateway).run store memory).result =
        (match (memory.update .gateway gateway.withDefaults).1 with
        | .ok updated => ⟨.ok (.requeue .defaultsApplied), updated⟩
        | .error failure => ⟨.error (.store failure), gateway.withDefaults⟩) ∧
      ((pass policy gateway).run store memory).state =
        (memory.update .gateway gateway.withDefaults).2 := by
  have gives := (pass policy gateway).gives_exchanges store memory
  obtain ⟨failure, calls, result⟩ | ⟨updated, calls, result⟩ :=
    ends_pass_lacking lacks ((pass policy gateway).ends_run store memory)
  · rw [calls] at gives
    have answered : (memory.update .gateway gateway.withDefaults).1 = .error failure := gives.1
    rw [answered]
    exact ⟨result, gives.2⟩
  · rw [calls] at gives
    have answered : (memory.update .gateway gateway.withDefaults).1 = .ok updated := gives.1
    rw [answered]
    exact ⟨result, gives.2⟩

/-- A gateway that lacks nothing goes through the stages behind the defaults. -/
theorem run_pass_complete (complete : gateway.lacksDefaults = false) (policy : ReplicaPolicy)
    (memory : Memory) :
    ((pass policy gateway).run store memory).result =
        ⟨((reconcileGateway policy gateway).run.run store memory).result, gateway⟩ ∧
      ((pass policy gateway).run store memory).state =
        ((reconcileGateway policy gateway).run.run store memory).state := by
  have stages := (reconcileGateway policy gateway).run.ends_run store memory
  have gives := (reconcileGateway policy gateway).run.gives_exchanges store memory
  obtain ⟨result, state, -⟩ := Program.run_eq_of_gives
    ((ends_pass_complete complete _ ⟨_, gateway⟩).mpr ⟨stages, rfl⟩) gives
  exact ⟨result, state⟩

/-- Two passes from one memory in which no conflict waits for the Deployment, one that preserves the
replicas and one that enforces them, end with the same result, and what they leave behind is the
same, the replicas aside. -/
theorem Reachable.pass_replicasAside (reachable : before.Reachable)
    (quiet : before.conflicts.contains (.of .deployment gateway.childObjectName) = false) :
    ((pass .enforce gateway).run store before).result =
        ((pass .preserve gateway).run store before).result ∧
      Alike before.ReplicasAside ((pass .preserve gateway).run store before).state
        ((pass .enforce gateway).run store before).state := by
  cases lacks : gateway.lacksDefaults with
  | true =>
    obtain ⟨result, state⟩ := run_pass_lacking lacks .preserve before
    obtain ⟨otherResult, otherState⟩ := run_pass_lacking lacks .enforce before
    rw [result, otherResult, state, otherState]
    exact ⟨rfl, alike_self before.replicasAside_of_reissued _⟩
  | false =>
    obtain ⟨result, state⟩ := run_pass_complete lacks .preserve before
    obtain ⟨otherResult, otherState⟩ := run_pass_complete lacks .enforce before
    rw [result, otherResult, state, otherState]
    obtain ⟨cause, fails, otherFails, alike⟩ | ⟨outcome, other, ends, otherEnds, rfl, alike⟩ :=
      reachable.pairs_reconcileGateway quiet before before ⟨rfl, rfl⟩
    · rw [fails, otherFails]
      exact ⟨rfl, alike⟩
    · rw [ends, otherEnds]
      exact ⟨rfl, alike⟩

end Pass

end Memory

/-! ### Two policies -/

/-- The policy decides the replicas and nothing else of a Deployment. The preserving table makes of
every Deployment what the enforcing one does, with the replicas it had, and it reports the same
fields but for the replicas. On every memory that can be reached and in which no conflict waits for
the Deployment, a pass of either policy over any gateway ends with the same result, and what the two
leave behind is the same up to versions and the replicas of a Deployment that was there before;
only where such a Deployment has no metadata in its pod template and the preserving pass leaves it
as it is, the enforcing one has stored it with empty ones. And however passes and other clients take
turns, no call of a pass that preserves the replicas changes those of a stored Deployment. -/
theorem replica_policy_decides_replicas :
    (∀ existing desired : Deployment,
      let preserved := reconcileFields desired (Deployment.rules .preserve) existing
      let enforced := reconcileFields desired (Deployment.rules .enforce) existing
      preserved.object = enforced.object.withReplicas existing.replicas? ∧
      preserved.object.replicas? = existing.replicas? ∧
      preserved.changed = enforced.changed.filter (· != "spec.replicas")) ∧
    (∀ memory : Memory, memory.Reachable → ∀ gateway : Gateway,
      memory.conflicts.contains (.of .deployment gateway.childObjectName) = false →
      let preserved := (pass .preserve gateway).run Memory.store memory
      let enforced := (pass .enforce gateway).run Memory.store memory
      enforced.result = preserved.result ∧
      ∀ key, memory.SameButReplicas key (preserved.state.object? key) (enforced.state.object? key) ∨
        memory.FilledByOne key (preserved.state.object? key) (enforced.state.object? key)) ∧
    ∀ world : World, world.Reachable → ∀ (before after : List RunningPass) (running : RunningPass)
      (request : Call) (next : request.Answer → Program PassResult),
      world.passes = before ++ running :: after → running.policy = .preserve →
      running.rest = .call request next →
      ∀ (key : ObjectKey) (existing : Deployment),
        world.memory.object? key = some ⟨.deployment, existing⟩ →
        ∃ current : Deployment,
          (world.afterCall before after running request next).memory.object? key =
            some ⟨.deployment, current⟩ ∧
          current.replicas? = existing.replicas? := by
  refine ⟨fun existing desired => ⟨Deployment.reconcileFields_preserve existing desired,
      Deployment.replicas?_preserve existing desired, Deployment.changed_preserve existing desired⟩,
    fun memory reachable gateway quiet => reachable.pass_replicasAside quiet, ?_⟩
  intro world reachable before after running request next present preserves rest key existing stored
  exact reachable.consistent.keepsReplicas (present ▸ List.mem_append_cons_self) preserves rest
    stored

/-- A Deployment that says little more than how many pods run, and which image. -/
def sparseDeployment : Deployment where
  metadata := { name := some "apicast-edge", namespaceName := some "default" }
  spec := some
    { replicas := some 3
      template.spec := some
        { serviceAccountName := some defaultServiceAccount
          containers := [{ name := "apicast", image := some defaultImage }] } }

/-- The gateway is stored after the Deployment. -/
def sparseMemory : Memory :=
  ((Operation.seed .gateway edgeGateway).perform
    ((Operation.seed .deployment sparseDeployment).perform {}).memory).memory

theorem reachable_sparseMemory : sparseMemory.Reachable :=
  (Memory.Reachable.empty.perform _).perform _

/-- A Deployment that says how many pods run and nothing else. -/
def scaledDeployment (replicas : Int32) : Deployment :=
  { strayDeployment with spec := some { replicas := some replicas } }

/-- The gateway is stored after a Deployment of three pods. -/
def scaledWorld : World :=
  (({} : World).perform (.seed .deployment (scaledDeployment 3))).perform
    (.seed .gateway edgeGateway)

/-- A pass over the gateway is started that preserves the replicas. -/
def preservingWorld : World :=
  { scaledWorld with
    passes := [⟨.preserve, storedEdgeGateway, [], pass .preserve storedEdgeGateway,
      ⟨⟨.gateway, storedEdgeGateway⟩, 2⟩⟩] }

theorem reachable_preservingWorld : preservingWorld.Reachable := by
  have deploymentStored :
      (({} : World).perform (.seed .deployment (scaledDeployment 3))).Reachable :=
    .step .empty (.client _ nofun)
  have bothStored : scaledWorld.Reachable := .step deploymentStored (.client _ nofun)
  have given : (⟨⟨.gateway, storedEdgeGateway⟩, 2⟩ : Sighting) ∈ scaledWorld.sightings :=
    List.mem_cons_of_mem _ List.mem_cons_self
  exact .step bothStored (.start .preserve given rfl)

/-- Both passes over the gateway of the sparse Deployment end with one result. And while a pass that
preserves the replicas is under way and has read a Deployment of three pods, somebody else scales it
to five; what the pass writes then leaves the five. -/
theorem scaling_survives_preserving_pass :
    ((pass .enforce edgeGateway).run Memory.store sparseMemory).result =
      ((pass .preserve edgeGateway).run Memory.store sparseMemory).result ∧
    ∃ (world : World) (running : RunningPass) (object : Deployment)
      (next : Except StoreError Deployment → Program PassResult),
      world.Reachable ∧ world.passes = [running] ∧ running.policy = .preserve ∧
      running.rest = .call (.update .deployment object) next ∧ object.replicas? = some 3 ∧
      ∃ current : Deployment,
        (world.afterCall [] [] running (.update .deployment object) next).memory.object?
          ⟨"Deployment", "default", "apicast-edge"⟩ = some ⟨.deployment, current⟩ ∧
        current.replicas? = some 5 := by
  obtain ⟨-, passes, calls⟩ := replica_policy_decides_replicas
  have read := reachable_preservingWorld.step
    (.call (show preservingWorld.passes = [] ++ _ :: [] from rfl) rfl)
  have scaled := read.step (.client (.call (.update .deployment (scaledDeployment 5))) nofun)
  obtain ⟨current, stored, kept⟩ := calls _ scaled [] [] _ _ _ rfl rfl rfl
    ⟨"Deployment", "default", "apicast-edge"⟩ _ rfl
  exact ⟨(passes sparseMemory reachable_sparseMemory edgeGateway rfl).1, _, _, _, _, scaled, rfl,
    rfl, rfl, rfl, current, stored, kept⟩

/-- The metadata of the pod template, if there are any. -/
def Deployment.templateMetadata? (deployment : Deployment) : Option ObjectMeta :=
  deployment.spec.bind (·.template.metadata)

/-- The metadata of the pod template are neither a version nor replicas. -/
theorem Memory.SameButReplicas.templateMetadata? {before : Memory} {key : ObjectKey}
    {first second : Deployment}
    (same : before.SameButReplicas key (some ⟨.deployment, first⟩) (some ⟨.deployment, second⟩)) :
    second.templateMetadata? = first.templateMetadata? := by
  cases same with
  | same reissued =>
    cases reissued with
    | held reissued =>
      obtain ⟨version, rfl⟩ := reissued
      rfl
  | scaled stored same =>
    obtain ⟨version, replicas, rfl⟩ := same
    obtain ⟨_, spec, _⟩ := first
    cases spec <;> rfl

/-- The two passes over the gateway differ in more than the replicas: the Deployment has no metadata
in its pod template, and only the pass that scales it fills them in. -/
theorem empty_metadata_are_filled_in_by_one :
    sparseMemory.Reachable ∧
    sparseMemory.conflicts.contains (.of .deployment edgeGateway.childObjectName) = false ∧
    ¬∀ key, sparseMemory.SameButReplicas key
      (((pass .preserve edgeGateway).run Memory.store sparseMemory).state.object? key)
      (((pass .enforce edgeGateway).run Memory.store sparseMemory).state.object? key) := by
  refine ⟨reachable_sparseMemory, rfl, fun same => ?_⟩
  obtain ⟨first, preserved, lacks⟩ : ∃ first : Deployment,
      ((pass .preserve edgeGateway).run Memory.store sparseMemory).state.object?
        ⟨"Deployment", "default", "apicast-edge"⟩ = some ⟨.deployment, first⟩ ∧
      first.templateMetadata? = none := ⟨_, rfl, rfl⟩
  obtain ⟨second, enforced, filled⟩ : ∃ second : Deployment,
      ((pass .enforce edgeGateway).run Memory.store sparseMemory).state.object?
        ⟨"Deployment", "default", "apicast-edge"⟩ = some ⟨.deployment, second⟩ ∧
      second.templateMetadata? = some {} := ⟨_, rfl, rfl⟩
  have equal := same ⟨"Deployment", "default", "apicast-edge"⟩
  rw [preserved, enforced] at equal
  have metadata := equal.templateMetadata?
  rw [lacks, filled] at metadata
  cases metadata

end GatewayOperator
