/-
This file says what a store in memory holds after a pass that converged. Such a pass wrote no
Secret, so the desired objects are those of the Secrets as they are stored; and it left every
object of the gateway with its managed fields as desired, whether it found the object like that,
created it, or brought an object of any other shape there.
-/

import GatewayOperator.Proofs.Fields.Children
import GatewayOperator.Proofs.Ownership
import GatewayOperator.Proofs.Reconcile.Stages
import GatewayOperator.Proofs.Store.Reachable

namespace GatewayOperator

namespace Memory

/-! ### Secrets -/

/-- What the Secret of a reference is in a memory; nothing if there is no reference. -/
def resolvedSecret? (memory : Memory) (role : SecretRole) (gateway : Gateway) :
    Option ResolvedSecret :=
  (gateway.secretReference? role).bind fun reference =>
    (memory.get .secret (gateway.secretName reference)).toOption.map fun secret =>
      { name := secret.metadata.anyName
        resourceVersion := secret.metadata.resourceVersion.getD "" }

/-- The objects a gateway should have, with the Secrets as they are stored. -/
def desiredState (memory : Memory) (gateway : Gateway) : DesiredState :=
  GatewayOperator.desiredState gateway
    { adminPortal := memory.resolvedSecret? .adminPortal gateway
      embeddedConfig := memory.resolvedSecret? .embeddedConfig gateway }

/-- Resolving a Secret changes nothing, and a Secret that is resolved is the stored one. -/
theorem of_secretResolution {before after : Memory} {role : SecretRole} {gateway : Gateway}
    {exchanges : List Exchange} {result : Option Secret}
    (resolution : SecretResolution role gateway exchanges (.ok result))
    (gives : store.Gives before exchanges after) :
    after = before ∧ before.resolvedSecret? role gateway = result.map Secret.resolved := by
  unfold resolvedSecret?
  cases resolution with
  | unset unset =>
    rw [unset]
    exact ⟨gives, rfl⟩
  | @fit reference secret refers named fit =>
    obtain ⟨got, same⟩ := gives
    replace got : before.get .secret (gateway.secretName reference) = .ok secret := got
    rw [refers, Option.bind_some, got]
    exact ⟨same, rfl⟩

/-- A Secret that is claimed keeps its name and its version. -/
theorem resolved_of_claimed {secret : Secret} {owner : OwnerReference} {metadata : ObjectMeta}
    (owned : secret.metadata.claim owner = .refreshed metadata) :
    Secret.resolved { secret with metadata } = secret.resolved := by
  have same := ObjectMeta.claim_metadata? (congrArg Claimed.metadata? owned)
  rw [same]
  rfl

/-- A Secret that was owned before is not written. -/
theorem of_secretStage {before after : Memory} {role : SecretRole} {gateway : Gateway}
    {exchanges : List Exchange} {secret : Option Secret}
    (stage : SecretStage role gateway exchanges (.ok ⟨secret, false⟩))
    (gives : store.Gives before exchanges after) :
    after = before ∧ before.resolvedSecret? role gateway = secret.map Secret.resolved := by
  cases stage with
  | absent resolution => exact of_secretResolution resolution gives
  | owned resolution owned =>
    obtain ⟨same, resolved⟩ := of_secretResolution resolution gives
    refine ⟨same, resolved.trans ?_⟩
    exact congrArg some (resolved_of_claimed owned).symm

/-! ### The objects of a gateway -/

section Children

variable {policy : ReplicaPolicy} {gateway : Gateway} {secrets : ResolvedSecrets}

/-- There is an object of a kind with its managed fields as desired. -/
def Holds (memory : Memory) (policy : ReplicaPolicy) (gateway : Gateway) (kind : Kind)
    (desired : kind.Object) : Prop :=
  ∃ object, memory.object? (.of kind gateway.childObjectName) = some ⟨kind, object⟩ ∧
    Unchanging policy kind desired object

/-- What is held survives what touches objects of another word only. -/
theorem Holds.keep {before after : Memory} {kind other : Kind} {desired : kind.Object}
    (holds : before.Holds policy gateway kind desired)
    (frame : ∀ key : ObjectKey, key.label ≠ other.label → after.object? key = before.object? key)
    (different : kind.label ≠ other.label) : after.Holds policy gateway kind desired := by
  obtain ⟨object, found, unchanging⟩ := holds
  exact ⟨object, (frame _ different).trans found, unchanging⟩

/-- Whichever way an object was brought about, it is there with its managed fields as desired, and
no object of another word was touched. -/
theorem Reachable.of_childStage {before after : Memory} (reachable : Reachable before)
    {kind : Kind} (alone : kind.Alone) {desired : kind.Object}
    (child : (GatewayOperator.desiredState gateway secrets).child? kind = some desired)
    {exchanges : List Exchange} {outcome : ChildOutcome}
    (stage : ChildStage kind (kind.rules policy) desired gateway.childObjectName exchanges
      (.ok outcome))
    (gives : store.Gives before exchanges after) :
    after.Holds policy gateway kind desired ∧
      ∀ key : ObjectKey, key.label ≠ kind.label → after.object? key = before.object? key := by
  have otherWord : ∀ {name : ObjectName} {key : ObjectKey}, key.label ≠ kind.label →
      key ≠ .of kind name := fun different same => different (same ▸ rfl)
  cases stage with
  | @settled existing settled =>
    obtain ⟨got, same⟩ := gives
    replace same : after = before := same
    rw [same]
    exact ⟨⟨existing, reachable.wellKept.object?_of_get alone got, settled⟩, fun _ _ => rfl⟩
  | created missing object =>
    obtain ⟨-, created, rfl⟩ := gives
    replace created : (before.create kind desired).1 = .ok object := created
    show (before.create kind desired).2.Holds policy gateway kind desired ∧
      ∀ key : ObjectKey, key.label ≠ kind.label →
        (before.create kind desired).2.object? key = before.object? key
    obtain ⟨cause, fails⟩ | ⟨name, stored, named, free, succeeds, wrote, -⟩ :=
      before.create_cases kind desired
    · rw [fails] at created
      cases created
    · rw [objectName?_child child] at named
      cases named
      rw [succeeds]
      exact ⟨⟨_, wrote.object?_self, (unchanging_self policy child).withMetadata _⟩,
        fun key different => wrote.object?_other (otherWord different)⟩
  | @written existing differs updated =>
    obtain ⟨got, written, rfl⟩ := gives
    replace got : before.get kind gateway.childObjectName = .ok existing := got
    let result := (reconcileFields desired (kind.rules policy) existing).object
    replace written : (before.update kind result).1 = .ok updated := written
    show (before.update kind result).2.Holds policy gateway kind desired ∧
      ∀ key : ObjectKey, key.label ≠ kind.label →
        (before.update kind result).2.object? key = before.object? key
    have found := reachable.wellKept.object?_of_get alone got
    have place := reachable.wellKept.objectName? found
    obtain ⟨cause, stored, fails, -⟩ |
      ⟨name, present, metadata, other, stored, named, -, -, succeeds, wrote, -⟩ :=
      before.update_cases kind result
    · rw [fails] at written
      cases written
    · rw [kind.objectName?_reconcileFields, place] at named
      cases named
      rw [succeeds]
      exact ⟨⟨_, wrote.object?_self,
        (unchanging_reconcileFields policy child existing).restored metadata other⟩,
        fun key different => wrote.object?_other (otherWord different)⟩

/-- The objects of a gateway are brought about one after the other, and none of the later ones
touches an earlier one, because their words differ. -/
theorem Reachable.of_childrenStage {before after : Memory} (reachable : Reachable before)
    {exchanges : List Exchange}
    (stage : ChildrenStage policy (GatewayOperator.desiredState gateway secrets) exchanges
      (.ok ()))
    (gives : store.Gives before exchanges after) :
    (∀ kind desired, (GatewayOperator.desiredState gateway secrets).child? kind = some desired →
      after.Holds policy gateway kind desired) ∧
    ∀ key : ObjectKey, (∀ kind : Kind, kind.isChild = true → key.label ≠ kind.label) →
      after.object? key = before.object? key := by
  have ofEnds : ∀ {start finish : Memory} {kind : Kind} {desired : kind.Object}
      {exchanges : List Exchange} {outcome : ChildOutcome}, start.Reachable → kind.Alone →
      (GatewayOperator.desiredState gateway secrets).child? kind = some desired →
      (reconcileChild kind (kind.rules policy) desired).Ends exchanges (.ok outcome) →
      store.Gives start exchanges finish →
      finish.Holds policy gateway kind desired ∧
        ∀ key : ObjectKey, key.label ≠ kind.label → finish.object? key = start.object? key :=
    fun reachable alone child ends => reachable.of_childStage alone child
      (.of_ends (objectName?_child child) ends)
  cases stage with
  | unexposed unexposed deploymentEnds serviceEnds =>
    obtain ⟨first, deploymentGives, serviceGives⟩ := (store.gives_append _ _ _ _).mp gives
    obtain ⟨deployment, deploymentFrame⟩ :=
      ofEnds reachable (by decide) rfl deploymentEnds deploymentGives
    obtain ⟨service, serviceFrame⟩ :=
      ofEnds (reachable.gives deploymentGives) (by decide) rfl serviceEnds serviceGives
    refine ⟨fun kind desired child => ?_, fun key other => ?_⟩
    · cases kind with
      | deployment =>
        cases child
        exact deployment.keep serviceFrame (by decide)
      | service =>
        cases child
        exact service
      | ingress =>
        cases Eq.trans unexposed.symm child
      | _ => cases child
    · rw [serviceFrame key (other .service rfl), deploymentFrame key (other .deployment rfl)]
  | @exposed _ _ _ _ _ _ wanted exposed deploymentEnds serviceEnds ingressEnds =>
    have wantedIngress :
      (GatewayOperator.desiredState gateway secrets).child? .ingress = some wanted := exposed
    obtain ⟨second, gives, ingressGives⟩ := (store.gives_append _ _ _ _).mp gives
    obtain ⟨first, deploymentGives, serviceGives⟩ := (store.gives_append _ _ _ _).mp gives
    obtain ⟨deployment, deploymentFrame⟩ :=
      ofEnds reachable (by decide) rfl deploymentEnds deploymentGives
    obtain ⟨service, serviceFrame⟩ :=
      ofEnds (reachable.gives deploymentGives) (by decide) rfl serviceEnds serviceGives
    obtain ⟨ingress, ingressFrame⟩ := ofEnds
      ((reachable.gives deploymentGives).gives serviceGives) (by decide) wantedIngress ingressEnds
      ingressGives
    refine ⟨fun kind desired child => ?_, fun key other => ?_⟩
    · cases kind with
      | deployment =>
        cases child
        exact (deployment.keep serviceFrame (by decide)).keep ingressFrame (by decide)
      | service =>
        cases child
        exact service.keep ingressFrame (by decide)
      | ingress =>
        cases wantedIngress.symm.trans child
        exact ingress
      | _ => cases child
    · rw [ingressFrame key (other .ingress rfl), serviceFrame key (other .service rfl),
        deploymentFrame key (other .deployment rfl)]

end Children

/-! ### The whole pass -/

/-- A pass that converges reads the Secrets first and brings the objects about then, starting from
the memory it began with. -/
theorem of_pass_done {before after : Memory} {policy : ReplicaPolicy} {gateway : Gateway}
    {exchanges : List Exchange} {result : PassResult}
    (ends : (pass policy gateway).Ends exchanges result) (done : result.result = .ok .done)
    (gives : store.Gives before exchanges after) :
    ∃ children, store.Gives before children after ∧
      ChildrenStage policy (before.desiredState gateway) children (.ok ()) := by
  obtain ⟨-, -, adminPortal, embeddedConfig, children, portal, config, rfl, first, second, rest⟩ :=
    ends_pass_done ends done
  obtain ⟨middle, portalGives, gives⟩ := (store.gives_append _ _ _ _).mp gives
  obtain ⟨start, configGives, childrenGive⟩ := (store.gives_append _ _ _ _).mp gives
  obtain ⟨rfl, portalResolved⟩ := of_secretStage (.of_ends first) portalGives
  obtain ⟨rfl, configResolved⟩ := of_secretStage (.of_ends second) configGives
  refine ⟨children, childrenGive, ?_⟩
  unfold desiredState
  rw [portalResolved, configResolved]
  exact .of_ends rest

/-- The desired objects depend on no object that a pass brings about. -/
theorem desiredState_congr {first second : Memory} (gateway : Gateway)
    (same : ∀ name, first.object? (.of .secret name) = second.object? (.of .secret name)) :
    first.desiredState gateway = second.desiredState gateway := by
  have resolved : ∀ role, first.resolvedSecret? role gateway =
      second.resolvedSecret? role gateway := fun role => by
    unfold resolvedSecret?
    cases gateway.secretReference? role with
    | none => rfl
    | some reference =>
      rw [Option.bind_some, Option.bind_some, get_congr (same (gateway.secretName reference))]
  unfold desiredState
  rw [resolved, resolved]

/-- After a pass that converged there is every object of the gateway with its managed fields as
desired, and nothing else was touched. What is desired is the same before and after the pass,
because no Secret was written. -/
theorem Reachable.of_run_done {memory : Memory} (reachable : Reachable memory)
    (policy : ReplicaPolicy) (gateway : Gateway)
    (done : ((pass policy gateway).run store memory).result.result = .ok .done) :
    let after := ((pass policy gateway).run store memory).state
    after.desiredState gateway = memory.desiredState gateway ∧
      (∀ kind desired, (after.desiredState gateway).child? kind = some desired →
        after.Holds policy gateway kind desired) ∧
      ∀ key : ObjectKey, (∀ kind : Kind, kind.isChild = true → key.label ≠ kind.label) →
        after.object? key = memory.object? key := by
  intro after
  obtain ⟨children, gives, stage⟩ := of_pass_done
    ((pass policy gateway).ends_run store memory) done
    ((pass policy gateway).gives_exchanges store memory)
  obtain ⟨holds, frame⟩ := reachable.of_childrenStage stage gives
  have same : after.desiredState gateway = memory.desiredState gateway :=
    desiredState_congr gateway fun name => frame _ fun kind child =>
      Kind.label_ne_of_isChild (show Kind.secret.Alone by decide) rfl child
  refine ⟨same, fun kind desired child => ?_, frame⟩
  rw [same] at child
  exact holds kind desired child

end Memory

/-- A pass that converges establishes what it promises, on every memory that can be reached and
whatever objects it finds: a Deployment with its managed fields as desired, a Service, and when a
host is exposed an Ingress with a rule for it and with the desired certificates. What is desired
is computed from the gateway and from the Secrets as they are stored, before the pass as well as
after it. -/
theorem pass_done_postcondition {memory : Memory} (reachable : memory.Reachable)
    (policy : ReplicaPolicy) (gateway : Gateway)
    (done : ((pass policy gateway).run Memory.store memory).result.result = .ok .done) :
    let after := ((pass policy gateway).run Memory.store memory).state
    let desired := after.desiredState gateway
    let name : ObjectName := ⟨gateway.namespaceName, childName gateway.name⟩
    desired = memory.desiredState gateway ∧
    (∃ deployment wanted current,
      after.object? (.of .deployment name) = some ⟨.deployment, deployment⟩ ∧
      Deployment.Settled policy desired.deployment deployment ∧
      desired.deployment.firstContainer? = some wanted ∧
      deployment.firstContainer? = some current ∧
      Deployment.ContainerSettled wanted current) ∧
    (∃ service, after.object? (.of .service name) = some ⟨.service, service⟩) ∧
    ∀ exposedHost, gateway.spec.exposedHost = some exposedHost →
      ∃ ingress wanted, after.object? (.of .ingress name) = some ⟨.ingress, ingress⟩ ∧
        desired.ingress = some wanted ∧ Ingress.Settled wanted ingress ∧
        HasRoute ((ingress.spec.bind (·.rules)).getD []) (some exposedHost.host) ∧
        ((ingress.spec.bind (·.tls)).getD []).Perm (exposedHost.tls.getD []) := by
  intro after desired name
  obtain ⟨same, holds, -⟩ := reachable.of_run_done policy gateway done
  refine ⟨same, ?_, ?_, fun exposedHost exposed => ?_⟩
  · obtain ⟨deployment, found, unchanging⟩ := holds .deployment desired.deployment rfl
    have settled := (Deployment.reconcileFields_changed_eq_nil_iff_settled policy deployment
      desired.deployment).mp unchanging
    obtain ⟨current, isFirst, container⟩ :=
      settled.container _ (firstContainer?_desiredDeployment gateway _)
    exact ⟨deployment, _, current, found, settled, firstContainer?_desiredDeployment gateway _,
      isFirst, container⟩
  · obtain ⟨service, found, -⟩ := holds .service desired.service rfl
    exact ⟨service, found⟩
  · have child : desired.child? .ingress = some (desiredIngress gateway exposedHost) :=
      congrArg (Option.map (desiredIngress gateway)) exposed
    obtain ⟨ingress, found, unchanging⟩ := holds .ingress _ child
    have settled := (Ingress.reconcileFields_changed_eq_nil_iff_settled ingress
      (desiredIngress gateway exposedHost)).mp unchanging
    exact ⟨ingress, _, found, child, settled, settled.routes _ List.mem_cons_self,
      settled.certificates⟩

/-! ### A pass over a stray Deployment -/

/-- A gateway that lacks no default and exposes a host. -/
def edgeGateway : Gateway where
  metadata := { name := some "edge", namespaceName := some "default" }
  spec := { replicas := some 2, exposedHost := some { host := "api.example.com" } }

/-- A Deployment of nothing, under the name of the one the gateway should have. -/
def strayDeployment : Deployment where
  metadata := { name := some "apicast-edge", namespaceName := some "default" }

/-- The gateway is stored after the stray Deployment. -/
def edgeMemory : Memory :=
  ((Operation.seed .gateway edgeGateway).perform
    ((Operation.seed .deployment strayDeployment).perform {}).memory).memory

theorem reachable_edgeMemory : edgeMemory.Reachable :=
  (Memory.Reachable.empty.perform _).perform _

/-- A pass over the gateway gives the stray Deployment its replicas and routes the host. -/
theorem edge_pass_postcondition :
    let after := ((pass .enforce edgeGateway).run Memory.store edgeMemory).state
    (∃ deployment,
      after.object? ⟨"Deployment", "default", "apicast-edge"⟩ = some ⟨.deployment, deployment⟩ ∧
      deployment.spec.bind (·.replicas) = some 2) ∧
    (∃ service,
      after.object? ⟨"Service", "default", "apicast-edge"⟩ = some ⟨.service, service⟩) ∧
    ∃ ingress, after.object? ⟨"Ingress", "default", "apicast-edge"⟩ = some ⟨.ingress, ingress⟩ ∧
      HasRoute ((ingress.spec.bind (·.rules)).getD []) (some "api.example.com") := by
  obtain ⟨-, ⟨deployment, _, _, found, settled, -⟩, service, ingresses⟩ :=
    pass_done_postcondition reachable_edgeMemory .enforce edgeGateway rfl
  obtain ⟨ingress, _, routed, -, -, route, -⟩ := ingresses _ rfl
  exact ⟨⟨deployment, found, settled.replicas rfl⟩, service, ingress, routed, route⟩

end GatewayOperator
