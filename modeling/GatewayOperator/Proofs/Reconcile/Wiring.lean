/-
This file follows the Deployment of a gateway over passes with edits of the gateway and of the
Secrets between them, from before there is one. A pass leaves the Deployment alone, creates it, or
merges what it wants into it, and it wants the variable of a Secret only when the gateway refers to
that Secret. So a variable of the Deployment goes back to a pass over a gateway that referred to a
Secret. As variables are merged by name, a variable stays when the reference is taken away; as
volumes and mounts are replaced, what the variable needs goes with the reference. After a pass that
converged a variable is wired, or it is left over.
-/

import GatewayOperator.Proofs.Gateway.Wiring
import GatewayOperator.Proofs.Reconcile.Children

namespace GatewayOperator

/-! ### What a pass makes of the Deployment -/

namespace Memory

/-- The Secrets of a gateway as they are stored. -/
def resolvedSecrets (memory : Memory) (gateway : Gateway) : ResolvedSecrets where
  adminPortal := memory.resolvedSecret? .adminPortal gateway
  embeddedConfig := memory.resolvedSecret? .embeddedConfig gateway

theorem ofRole_resolvedSecrets (memory : Memory) (gateway : Gateway) (role : SecretRole) :
    (memory.resolvedSecrets gateway).ofRole role = memory.resolvedSecret? role gateway := by
  cases role <;> rfl

end Memory

/-- A pass makes of the Deployment of its gateway what is desired with the Secrets as they are
stored, or nothing. -/
theorem Turn.brought_deployment {turn : Turn} (reachable : turn.before.Reachable) :
    Brought turn.policy .deployment
      (desiredDeployment turn.gateway (turn.before.resolvedSecrets turn.gateway))
      turn.gateway.childObjectName turn.before turn.after := by
  have child : (turn.before.desiredState turn.gateway).child? .deployment =
    some (desiredDeployment turn.gateway (turn.before.resolvedSecrets turn.gateway)) := rfl
  exact turn.brought reachable child

/-! ### The variables of the Deployment -/

namespace Memory

/-- The first container of the Deployment at a place has a variable. -/
def HasVariable (memory : Memory) (name : ObjectName) (text : String) : Prop :=
  ∃ deployment, memory.object? (.of .deployment name) = some ⟨.deployment, deployment⟩ ∧
    text ∈ deployment.variableNames

/-- No two variables of the Deployment at a place have one name. -/
def DistinctVariables (memory : Memory) (name : ObjectName) : Prop :=
  ∀ deployment, memory.object? (.of .deployment name) = some ⟨.deployment, deployment⟩ →
    deployment.variableNames.Nodup

end Memory

section Brought

variable {policy : ReplicaPolicy} {desired : Deployment} {name : ObjectName} {before after : Memory}

/-- The Deployment of a gateway has its variables from before, or they are the desired ones, or
these are merged into those from before. -/
theorem Brought.variableNames (brought : Brought policy .deployment desired name before after)
    {deployment : Deployment}
    (stored : after.object? (.of .deployment name) = some ⟨.deployment, deployment⟩) :
    deployment.variableNames = desired.variableNames ∨
    ∃ existing, before.object? (.of .deployment name) = some ⟨.deployment, existing⟩ ∧
      (deployment.variableNames = existing.variableNames ∨ deployment.variableNames =
        (Deployment.merged policy existing desired).variableNames) := by
  cases brought with
  | kept same =>
    rw [same] at stored
    exact Or.inr ⟨deployment, stored, Or.inl rfl⟩
  | created free metadata created =>
    rw [created] at stored
    cases stored
    exact Or.inl rfl
  | @merged existing found metadata merged =>
    rw [merged] at stored
    cases stored
    refine Or.inr ⟨existing, found, Or.inr ?_⟩
    rw [← Deployment.reconcileFields_object]
    rfl

/-- A variable of the Deployment was there before, or it is desired. -/
theorem Brought.hasVariable (brought : Brought policy .deployment desired name before after)
    {text : String} (present : after.HasVariable name text) :
    before.HasVariable name text ∨ text ∈ desired.variableNames := by
  obtain ⟨deployment, stored, member⟩ := present
  obtain same | ⟨existing, found, same | same⟩ := brought.variableNames stored
  · rw [same] at member
    exact Or.inr member
  · rw [same] at member
    exact Or.inl ⟨existing, found, member⟩
  · rw [same] at member
    exact (Deployment.mem_variableNames_merged member).imp_left fun there =>
      ⟨existing, found, there⟩

/-- The variables of the Deployment keep having different names. -/
theorem Brought.distinctVariables (brought : Brought policy .deployment desired name before after)
    (desiredDistinct : desired.variableNames.Nodup) (distinct : before.DistinctVariables name) :
    after.DistinctVariables name := by
  intro deployment stored
  obtain same | ⟨existing, found, same | same⟩ := brought.variableNames stored
  · rw [same]
    exact desiredDistinct
  · rw [same]
    exact distinct existing found
  · rw [same]
    exact Deployment.nodup_variableNames_merged (distinct existing found) desiredDistinct policy

end Brought

/-- A pass leaves the variable of a Secret in the Deployment of its gateway only when the gateway
refers to the Secret, or when the variable was there before. -/
theorem Turn.hasVariable_after {turn : Turn} (reachable : turn.before.Reachable)
    (role : SecretRole)
    (present : turn.after.HasVariable turn.gateway.childObjectName role.variableName) :
    turn.before.HasVariable turn.gateway.childObjectName role.variableName ∨
      turn.gateway.secretReference? role ≠ none := by
  refine ((brought_deployment reachable).hasVariable present).imp_right fun wanted unset => ?_
  rw [variableNames_desiredDeployment] at wanted
  refine ResolvedSecrets.ofRole_ne_none wanted ?_
  rw [Memory.ofRole_resolvedSecrets]
  unfold Memory.resolvedSecret?
  rw [unset]
  rfl

theorem Turn.distinctVariables_after {turn : Turn} (reachable : turn.before.Reachable)
    (distinct : turn.before.DistinctVariables turn.gateway.childObjectName) :
    turn.after.DistinctVariables turn.gateway.childObjectName := by
  refine (brought_deployment reachable).distinctVariables ?_ distinct
  rw [variableNames_desiredDeployment]
  exact environment_names_nodup _ _

/-! ### Runs -/

/-- The name of the objects of a gateway, from the name of the gateway. -/
def ObjectName.ofChildren (name : ObjectName) : ObjectName :=
  ⟨name.namespaceName, childName name.name⟩

theorem Memory.WellKept.childObjectName {memory : Memory} (wellKept : memory.WellKept)
    {name : ObjectName} {gateway : Gateway}
    (stored : memory.object? (.of .gateway name) = some ⟨.gateway, gateway⟩) :
    gateway.childObjectName = name.ofChildren := by
  rw [Kind.eq_of_objectName? (wellKept.objectName? stored)]
  rfl

/-- What happens to a memory when passes are made over the stored gateway of a name one after the
other, under any policies, and anybody does anything in between that leaves the Deployment of the
gateway alone. -/
inductive WiringRun (name : ObjectName) (start : Memory) : List Turn → Memory → Prop where
  | start : WiringRun name start [] start
  | edited {turns : List Turn} {memory : Memory} (run : WiringRun name start turns memory)
    (operation : Operation)
    (keeps : (operation.perform memory).memory.object? (.of .deployment name.ofChildren) =
      memory.object? (.of .deployment name.ofChildren)) :
    WiringRun name start turns (operation.perform memory).memory
  | passed {turns : List Turn} {memory : Memory} {gateway : Gateway}
    (run : WiringRun name start turns memory)
    (stored : memory.object? (.of .gateway name) = some ⟨.gateway, gateway⟩)
    (policy : ReplicaPolicy) :
    WiringRun name start (turns ++ [⟨policy, gateway, memory⟩])
      (Turn.mk policy gateway memory).after

/-- The variables of the Deployment of a gateway after some passes: they have different names, and
the variable of a Secret was left by one of the passes, over a gateway that referred to the
Secret. -/
structure Traced (name : ObjectName) (turns : List Turn) (memory : Memory) : Prop where
  distinct : memory.DistinctVariables name
  traced : ∀ role : SecretRole, memory.HasVariable name role.variableName →
    ∃ turn ∈ turns, turn.gateway.secretReference? role ≠ none ∧
      turn.after.HasVariable name role.variableName

namespace WiringRun

variable {name : ObjectName} {start memory : Memory} {turns : List Turn}

theorem reachable (run : WiringRun name start turns memory) (reachable : start.Reachable) :
    memory.Reachable := by
  induction run with
  | start => exact reachable
  | edited run operation keeps inductionHypothesis => exact inductionHypothesis.perform operation
  | passed run stored policy inductionHypothesis =>
    exact (Turn.mk policy _ _).reachable_after inductionHypothesis

/-- The variables of a run that starts without a Deployment go back to its passes. -/
theorem traced (run : WiringRun name start turns memory) (reachable : start.Reachable)
    (absent : start.object? (.of .deployment name.ofChildren) = none) :
    Traced name.ofChildren turns memory := by
  induction run with
  | start =>
    refine ⟨fun deployment stored => ?_, fun role present => ?_⟩
    · rw [absent] at stored
      cases stored
    · obtain ⟨deployment, stored, -⟩ := present
      rw [absent] at stored
      cases stored
  | edited run operation keeps inductionHypothesis =>
    refine ⟨fun deployment stored => ?_, fun role present => ?_⟩
    · rw [keeps] at stored
      exact inductionHypothesis.distinct deployment stored
    · obtain ⟨deployment, stored, member⟩ := present
      rw [keeps] at stored
      exact inductionHypothesis.traced role ⟨deployment, stored, member⟩
  | @passed turns memory gateway run stored policy inductionHypothesis =>
    have reached := run.reachable reachable
    let turn : Turn := ⟨policy, gateway, memory⟩
    have place : turn.gateway.childObjectName = name.ofChildren :=
      reached.wellKept.childObjectName stored
    have distinct := turn.distinctVariables_after reached
    have left := turn.hasVariable_after reached
    rw [place] at distinct left
    refine ⟨distinct inductionHypothesis.distinct, fun role present => ?_⟩
    rcases left role present with before | refers
    · obtain ⟨earlier, member, isTrace⟩ := inductionHypothesis.traced role before
      exact ⟨earlier, List.mem_append_left _ member, isTrace⟩
    · exact ⟨turn, List.mem_append_right _ List.mem_cons_self, refers, present⟩

end WiringRun

/-! ### After a pass that converged -/

/-- A pass that converged found the Secrets of its gateway owned. -/
theorem Turn.ownsFor_of_done {turn : Turn} (reachable : turn.before.Reachable)
    (done : turn.result = .ok .done) (role : SecretRole) :
    turn.before.OwnsFor turn.gateway role := by
  obtain ⟨-, -, adminPortal, embeddedConfig, children, portal, config, calls, first, second, -⟩ :=
    ends_pass_done turn.ends done
  have gives := turn.gives
  rw [calls, ← List.append_assoc] at gives
  obtain ⟨middle, secretsGive, -⟩ := (Memory.store.gives_append _ _ _ _).mp gives
  exact (reachable.wellKept.of_secretStages first second secretsGive).2.1 role

/-- A Secret that is owned is resolved under the name by which it is referred to. -/
theorem Memory.OwnsFor.exists_resolved {memory : Memory} {gateway : Gateway} {role : SecretRole}
    (owns : memory.OwnsFor gateway role) (wellKept : memory.WellKept)
    {reference : LocalObjectReference} (refers : gateway.secretReference? role = some reference) :
    ∃ secret, memory.resolvedSecret? role gateway = some secret ∧ secret.name = reference.name := by
  obtain ⟨secret, -, stored, -⟩ := owns reference refers
  have place := Kind.eq_of_objectName? (wellKept.objectName? stored)
  refine ⟨secret.resolved, ?_, (congrArg ObjectName.name place).symm⟩
  unfold resolvedSecret?
  rw [refers, Option.bind_some, get_found stored]
  rfl

/-- A pass that converged leaves a Deployment that is wired for every reference that is set, when no
two of its variables have one name. -/
theorem Turn.wired_of_done {turn : Turn} (reachable : turn.before.Reachable)
    (done : turn.result = .ok .done) :
    ∃ deployment container,
      turn.after.object? (.of .deployment turn.gateway.childObjectName) =
        some ⟨.deployment, deployment⟩ ∧
      deployment.firstContainer? = some container ∧
      (deployment.variableNames.Nodup → ∀ (role : SecretRole) (reference : LocalObjectReference),
        turn.gateway.secretReference? role = some reference →
          role.Wired deployment container reference.name) := by
  obtain ⟨same, holds, -⟩ := reachable.of_run_done turn.policy turn.gateway done
  obtain ⟨deployment, found, unchanging⟩ := holds .deployment _ rfl
  rw [same] at unchanging
  have settled : Deployment.Settled turn.policy (desiredDeployment turn.gateway
      (turn.before.resolvedSecrets turn.gateway)) deployment :=
    (Deployment.reconcileFields_changed_eq_nil_iff_settled _ _ _).mp unchanging
  obtain ⟨container, isFirst, -⟩ :=
    settled.container _ (firstContainer?_desiredDeployment turn.gateway _)
  refine ⟨deployment, container, found, isFirst, fun distinct role reference refers => ?_⟩
  obtain ⟨secret, resolved, sameName⟩ :=
    (turn.ownsFor_of_done reachable done role).exists_resolved reachable.wellKept refers
  rw [Deployment.variableNames_of_first isFirst] at distinct
  rw [← Memory.ofRole_resolvedSecrets] at resolved
  rw [← sameName]
  exact wired_of_settled settled isFirst distinct resolved

/-- Secrets are wired into the Deployment of a gateway after every pass that converged, in every run
that starts without a Deployment and in which only the passes touch it: when the first container has
the variable of a Secret, the variable leads to the Secret that the gateway refers to now. When the
gateway refers to no such Secret now, the variable is left over from an earlier pass, over the
gateway as it was when it did refer to one. -/
theorem variables_wired_or_left_over {start memory : Memory} (reachable : start.Reachable)
    {name : ObjectName} (absent : start.object? (.of .deployment name.ofChildren) = none)
    {turns : List Turn} (run : WiringRun name start turns memory) {gateway : Gateway}
    (stored : memory.object? (.of .gateway name) = some ⟨.gateway, gateway⟩)
    (policy : ReplicaPolicy) (done : (Turn.mk policy gateway memory).result = .ok .done) :
    let after := (Turn.mk policy gateway memory).after
    after.object? (.of .gateway name) = some ⟨.gateway, gateway⟩ ∧
    ∃ deployment container,
      after.object? (.of .deployment name.ofChildren) = some ⟨.deployment, deployment⟩ ∧
      deployment.firstContainer? = some container ∧
      ∀ role : SecretRole, container.HasVariable role.variableName →
        (∃ reference, gateway.secretReference? role = some reference ∧
          role.Wired deployment container reference.name) ∨
        (gateway.secretReference? role = none ∧
          ∃ earlier ∈ turns, earlier.gateway.secretReference? role ≠ none ∧
            earlier.after.HasVariable name.ofChildren role.variableName) := by
  intro after
  have reached := run.reachable reachable
  let turn : Turn := ⟨policy, gateway, memory⟩
  have complete : turn.gateway.lacksDefaults = false := (ends_pass_done turn.ends done).1
  have traces := (run.passed stored policy).traced reachable absent
  obtain ⟨deployment, container, found, isFirst, wired⟩ := turn.wired_of_done reached done
  rw [show turn.gateway.childObjectName = name.ofChildren from
    reached.wellKept.childObjectName stored] at found
  refine ⟨turn.stored_after_of_complete reached stored complete, deployment, container, found,
    isFirst, fun role present => ?_⟩
  cases refers : gateway.secretReference? role with
  | some reference =>
    exact Or.inl ⟨reference, rfl, wired (traces.distinct deployment found) role reference refers⟩
  | none =>
    refine Or.inr ⟨rfl, ?_⟩
    have there : after.HasVariable name.ofChildren role.variableName := by
      refine ⟨deployment, found, ?_⟩
      rw [Deployment.variableNames_of_first isFirst]
      exact present
    obtain ⟨earlier, member, referred, left⟩ := traces.traced role there
    -- The trace is not the last pass, which no reference is set for.
    rcases List.mem_append.mp member with before | isLast
    · exact ⟨earlier, before, referred, left⟩
    · rw [List.mem_singleton.mp isLast] at referred
      exact absurd refers referred

/-! ### References that are taken away -/

/-- A gateway that takes both its Secrets from one. -/
def wiredGateway : Gateway where
  metadata := { name := some "edge", namespaceName := some "default" }
  spec :=
    { replicas := some 1
      adminPortalCredentialsRef := some { name := "settings" }
      embeddedConfigurationSecretRef := some { name := "settings" }
      deploymentEnvironment := some "staging" }

/-- The Secret of both references. -/
def wiredSecret : Secret where
  metadata := { name := some "settings", namespaceName := some "default" }
  stringData := some
    ((Map.empty.insert adminPortalKey "https://token@portal.example.com").insert
      configurationKey "\x7b\x7d")

/-- The gateway as it is stored. -/
def storedWiredGateway : Gateway :=
  { wiredGateway with
    metadata :=
      { wiredGateway.metadata with
        resourceVersion := some "2"
        uid := some "00000000-0000-0000-0000-000000000002" } }

/-- The gateway is stored after its Secret, and passes are made over it. -/
def wiredMemory : Memory :=
  ((Operation.seed .gateway wiredGateway).perform
    ((Operation.seed .secret wiredSecret).perform {}).memory).memory

/-- The first pass owns the Secret. -/
def owningTurn : Turn := ⟨.enforce, storedWiredGateway, wiredMemory⟩

/-- The second pass converges. -/
def wiringTurn : Turn := ⟨.preserve, storedWiredGateway, owningTurn.after⟩

theorem wiringRun_owningTurn : WiringRun ⟨"default", "edge"⟩ {} [owningTurn] owningTurn.after := by
  have nothingYet : WiringRun ⟨"default", "edge"⟩ {} [] {} := .start
  have secretStored := nothingYet.edited (.seed .secret wiredSecret) rfl
  have gatewayStored := secretStored.edited (.seed .gateway wiredGateway) rfl
  exact gatewayStored.passed rfl .enforce

theorem wiredGateway_stored :
    owningTurn.after.object? ⟨"APIcast", "default", "edge"⟩ =
      some ⟨.gateway, storedWiredGateway⟩ := rfl

/-- The pass after the Secret was owned leads both variables to it. -/
theorem owned_secret_wired :
    ∃ deployment container,
      wiringTurn.after.object? ⟨"Deployment", "default", "apicast-edge"⟩ =
        some ⟨.deployment, deployment⟩ ∧
      deployment.firstContainer? = some container ∧
      ∀ role : SecretRole, container.HasVariable role.variableName ∧
        role.Wired deployment container "settings" := by
  obtain ⟨-, deployment, container, found, isFirst, wired⟩ :=
    variables_wired_or_left_over .empty rfl wiringRun_owningTurn wiredGateway_stored .preserve rfl
  refine ⟨deployment, container, found, isFirst, fun role => ?_⟩
  have names : ((wiringTurn.after.get .deployment ⟨"default", "apicast-edge"⟩).toOption.map
    Deployment.variableNames) = some [SecretRole.adminPortal.variableName,
      SecretRole.embeddedConfig.variableName, "THREESCALE_DEPLOYMENT_ENV"] := rfl
  have got : wiringTurn.after.get .deployment ⟨"default", "apicast-edge"⟩ = .ok deployment :=
    Memory.get_found found
  rw [got] at names
  have present : container.HasVariable role.variableName := by
    unfold Container.HasVariable
    rw [← Deployment.variableNames_of_first isFirst, Option.some.inj names]
    cases role <;> decide
  refine ⟨present, ?_⟩
  obtain ⟨reference, refers, isWired⟩ | ⟨unset, -⟩ := wired role present
  · cases role <;> cases refers <;> exact isWired
  · cases role <;> cases unset

/-- The gateway when both references are taken away. -/
def unwiredGateway : Gateway :=
  { wiredGateway with
    spec :=
      { wiredGateway.spec with
        adminPortalCredentialsRef := none
        embeddedConfigurationSecretRef := none } }

/-- The gateway as it is stored without its references. -/
def storedUnwiredGateway : Gateway :=
  { unwiredGateway with
    metadata := { storedWiredGateway.metadata with resourceVersion := some "6" } }

/-- The gateway is stored without its references. -/
def unwiredMemory : Memory :=
  ((Operation.call (.update .gateway unwiredGateway)).perform wiringTurn.after).memory

/-- The third pass converges without the references. -/
def unwiringTurn : Turn := ⟨.enforce, storedUnwiredGateway, unwiredMemory⟩

/-- Variables stay when both references are taken away, though the pass converges: the configuration
is not mounted any more, and the address of the admin portal is still taken from the Secret. -/
theorem unset_references_leave_variables :
    WiringRun ⟨"default", "edge"⟩ {} [owningTurn, wiringTurn] unwiredMemory ∧
    unwiredMemory.object? ⟨"APIcast", "default", "edge"⟩ =
      some ⟨.gateway, storedUnwiredGateway⟩ ∧
    unwiringTurn.result = .ok .done ∧
    (∀ role : SecretRole, storedUnwiredGateway.secretReference? role = none) ∧
    ∃ deployment container,
      unwiringTurn.after.object? ⟨"Deployment", "default", "apicast-edge"⟩ =
        some ⟨.deployment, deployment⟩ ∧
      deployment.firstContainer? = some container ∧
      (∀ role : SecretRole, container.HasVariable role.variableName) ∧
      container.volumeMounts.getD [] = [] ∧ (deployment.pod?.bind (·.volumes)).getD [] = [] ∧
      ∃ entry ∈ container.env.getD [], entry.name = "THREESCALE_PORTAL_ENDPOINT" ∧
        (entry.valueFrom.bind (·.secretKeyRef)).map (·.name) = some "settings" := by
  have converged := wiringRun_owningTurn.passed wiredGateway_stored .preserve
  have run : WiringRun ⟨"default", "edge"⟩ {} [owningTurn, wiringTurn] unwiredMemory :=
    converged.edited (.call (.update .gateway unwiredGateway))
      ((converged.reachable .empty).wellKept.answer_object?_other
        (Call.place?_ne_of_label (by decide)))
  refine ⟨run, rfl, rfl, fun role => ?_, _, _, rfl, rfl, fun role => ?_, rfl, rfl, ?_⟩
  · cases role <;> rfl
  · cases role with
    | adminPortal => exact List.mem_cons_self
    | embeddedConfig => exact List.mem_cons_of_mem _ List.mem_cons_self
  · exact ⟨_, List.mem_cons_self, rfl, rfl⟩

end GatewayOperator
