/-
This file follows the ownership of a Secret into a store in memory. A Secret that is written with
the reference of a gateway is recognised as owned from then on, whichever of the two references of
the gateway leads to it, and no write to another Secret takes that away. A Secret that has a
reference to the gateway already is not written, though the pass goes on with the reference
refreshed: what the pass has in hand is what is stored only when the reference was the gateway's own
one to begin with.
-/

import GatewayOperator.Proofs.Reconcile.Convergence
import GatewayOperator.Proofs.Store.Frame

namespace GatewayOperator

/-- A Secret keeps its name when it is claimed. -/
theorem Secret.objectName?_of_claim {secret : Secret} {owner : OwnerReference}
    {claimed : ObjectMeta} (claims : (secret.metadata.claim owner).metadata? = some claimed) :
    Kind.secret.objectName? { secret with metadata := claimed } =
      Kind.secret.objectName? secret := by
  have same := ObjectMeta.claim_metadata? claims
  have sameName : claimed.name = secret.metadata.name := by rw [same]
  have sameNamespace : claimed.namespaceName = secret.metadata.namespaceName := by rw [same]
  exact Kind.objectName?_congr sameName sameNamespace

namespace Memory

/-- A Secret is stored with a reference by which a gateway is recognised as its owner. -/
def Owns (memory : Memory) (gateway : Gateway) (name : ObjectName) : Prop :=
  ∃ secret claimed, memory.object? (.of .secret name) = some ⟨.secret, secret⟩ ∧
    secret.metadata.claim gateway.ownerReference = .refreshed claimed

/-- The gateway is recognised as the owner of the Secret of a role, if it refers to one. -/
def OwnsFor (memory : Memory) (gateway : Gateway) (role : SecretRole) : Prop :=
  ∀ reference, gateway.secretReference? role = some reference →
    memory.Owns gateway (gateway.secretName reference)

/-- What is owned stays owned as long as the Secret stays. -/
theorem Owns.keep {before after : Memory} {gateway : Gateway} {name : ObjectName}
    (owns : before.Owns gateway name)
    (same : after.object? (.of .secret name) = before.object? (.of .secret name)) :
    after.Owns gateway name := by
  obtain ⟨secret, claimed, found, refreshed⟩ := owns
  exact ⟨secret, claimed, same.trans found, refreshed⟩

/-! ### A stage that reads -/

/-- A Secret that was resolved is the stored one of the reference. -/
theorem WellKept.of_resolved {before after : Memory} (wellKept : WellKept before)
    {role : SecretRole} {gateway : Gateway} {exchanges : List Exchange} {secret : Secret}
    (resolution : SecretResolution role gateway exchanges (.ok (some secret)))
    (gives : store.Gives before exchanges after) :
    after = before ∧ ∃ reference, gateway.secretReference? role = some reference ∧
      before.object? (.of .secret (gateway.secretName reference)) = some ⟨.secret, secret⟩ := by
  refine ⟨(of_secretResolution resolution gives).1, ?_⟩
  cases resolution with
  | @fit reference _ refers named fit =>
    have found := wellKept.object?_of_get (show Kind.secret.Alone by decide) gives.1
    exact ⟨reference, refers, found⟩

/-- A stage that goes on with a Secret it did not write found a reference to the gateway in it, and
refreshed the reference in what it goes on with. -/
theorem WellKept.refreshed_of_secretStage {before after : Memory} (wellKept : WellKept before)
    {role : SecretRole} {gateway : Gateway} {exchanges : List Exchange} {secret : Secret}
    (stage : SecretStage role gateway exchanges (.ok ⟨some secret, false⟩))
    (gives : store.Gives before exchanges after) :
    after = before ∧ ∃ reference found, gateway.secretReference? role = some reference ∧
      before.object? (.of .secret (gateway.secretName reference)) = some ⟨.secret, found⟩ ∧
      found.metadata.claim gateway.ownerReference = .refreshed secret.metadata := by
  cases stage with
  | @owned exchanges found claimed resolution owned =>
    obtain ⟨same, reference, refers, stored⟩ := wellKept.of_resolved resolution gives
    exact ⟨same, reference, found, refers, stored, owned⟩

/-- A stage that does not write its Secret found it owned. -/
theorem WellKept.ownsFor_of_secretStage {before after : Memory} (wellKept : WellKept before)
    {role : SecretRole} {gateway : Gateway} {exchanges : List Exchange} {secret : Option Secret}
    (stage : SecretStage role gateway exchanges (.ok ⟨secret, false⟩))
    (gives : store.Gives before exchanges after) : before.OwnsFor gateway role := by
  intro reference refers
  cases secret with
  | none =>
    cases stage with
    | absent resolution =>
      cases resolution with
      | unset unset =>
        rw [unset] at refers
        cases refers
  | some secret =>
    obtain ⟨-, other, found, otherRefers, stored, owned⟩ :=
      wellKept.refreshed_of_secretStage stage gives
    rw [otherRefers] at refers
    cases refers
    exact ⟨found, secret.metadata, stored, owned⟩

/-- When no Secret is written, both Secrets are owned, and they are resolved as they are stored. -/
theorem WellKept.of_secretStages {before after : Memory} (wellKept : WellKept before)
    {gateway : Gateway} {adminPortal embeddedConfig : List Exchange} {portal config : Option Secret}
    (first : (reconcileSecret .adminPortal gateway).Ends adminPortal (.ok ⟨portal, false⟩))
    (second : (reconcileSecret .embeddedConfig gateway).Ends embeddedConfig (.ok ⟨config, false⟩))
    (gives : store.Gives before (adminPortal ++ embeddedConfig) after) :
    after = before ∧ (∀ role, before.OwnsFor gateway role) ∧
      before.resolvedSecret? .adminPortal gateway = portal.map Secret.resolved ∧
      before.resolvedSecret? .embeddedConfig gateway = config.map Secret.resolved := by
  obtain ⟨middle, portalGives, configGives⟩ := (store.gives_append _ _ _ _).mp gives
  have portalOwned := wellKept.ownsFor_of_secretStage (.of_ends first) portalGives
  obtain ⟨rfl, portalResolved⟩ := of_secretStage (.of_ends first) portalGives
  have configOwned := wellKept.ownsFor_of_secretStage (.of_ends second) configGives
  obtain ⟨same, configResolved⟩ := of_secretStage (.of_ends second) configGives
  refine ⟨same, fun role => ?_, portalResolved, configResolved⟩
  cases role with
  | adminPortal => exact portalOwned
  | embeddedConfig => exact configOwned

/-! ### A stage that writes -/

/-- What a stage does that writes its Secret: nobody was recognised as the gateway in it, and it is
stored again with the gateway's reference behind all others. -/
structure Appended (before after : Memory) (gateway : Gateway) (name : ObjectName)
    (found updated : Secret) : Prop where
  stored : before.object? (.of .secret name) = some ⟨.secret, found⟩
  absent : found.metadata.referenceTo? gateway.ownerReference = none
  references : updated.metadata.references =
    found.metadata.references ++ [gateway.ownerReference]
  wrote : before.Wrote (.of .secret name) ⟨.secret, updated⟩ after

theorem WellKept.appended_of_secretStage {before after : Memory} (wellKept : WellKept before)
    {role : SecretRole} {gateway : Gateway} {exchanges : List Exchange} {secret : Option Secret}
    (stage : SecretStage role gateway exchanges (.ok ⟨secret, true⟩))
    (gives : store.Gives before exchanges after) :
    ∃ reference found updated, gateway.secretReference? role = some reference ∧
      secret = some updated ∧
      Appended before after gateway (gateway.secretName reference) found updated := by
  cases stage with
  | @written exchanges found claimed resolution free updated =>
    obtain ⟨middle, reads, writes⟩ := (store.gives_append _ _ _ _).mp gives
    obtain ⟨rfl, reference, refers, stored⟩ := wellKept.of_resolved resolution reads
    obtain ⟨absent, references⟩ := ObjectMeta.of_claim_appended free
    have answered : middle.update .secret { found with metadata := claimed } =
        (.ok updated, after) := Prod.ext writes.1 writes.2.symm
    obtain ⟨name, present, named, there, replaced, wrote⟩ := of_update answered
    -- The write goes to the place the Secret was read from, because a claim keeps its name.
    have place := wellKept.objectName? stored
    rw [Secret.objectName?_of_claim (congrArg Claimed.metadata? free)] at named
    obtain rfl : gateway.secretName reference = name := Option.some.inj (place.symm.trans named)
    rw [stored] at there
    cases there
    refine ⟨reference, found, updated, refers, rfl, stored, absent, ?_, wrote⟩
    rw [replaced, replacement_stored]
    exact references

/-- A Secret that was written with the reference is owned, and so is every Secret that was owned
before. -/
theorem Appended.owns {before after : Memory} {gateway : Gateway} {written : ObjectName}
    {found updated : Secret} (appended : Appended before after gateway written found updated)
    {name : ObjectName} (owned : name = written ∨ before.Owns gateway name) :
    after.Owns gateway name := by
  by_cases same : ObjectKey.of .secret name = .of .secret written
  · have member : gateway.ownerReference ∈ updated.metadata.references := by
      rw [appended.references]
      exact List.mem_append_right _ List.mem_cons_self
    obtain ⟨claimed, refreshed⟩ := ObjectMeta.exists_claim_refreshed member
    refine ⟨updated, claimed, ?_, refreshed⟩
    rw [same]
    exact appended.wrote.object?_self
  · rcases owned with rfl | owns
    · exact absurd rfl same
    · exact owns.keep (appended.wrote.object?_other same)

/-- A stage that wrote the Secret of a role leaves that Secret owned, and every other one that was
owned before. -/
theorem WellKept.ownsFor_of_written {before after : Memory} (wellKept : WellKept before)
    {role other : SecretRole} {gateway : Gateway} {exchanges : List Exchange}
    {secret : Option Secret}
    (stage : SecretStage role gateway exchanges (.ok ⟨secret, true⟩))
    (gives : store.Gives before exchanges after)
    (owned : other = role ∨ before.OwnsFor gateway other) :
    ¬ before.OwnsFor gateway role ∧ after.OwnsFor gateway other := by
  obtain ⟨reference, found, updated, refers, -, appended⟩ :=
    wellKept.appended_of_secretStage stage gives
  constructor
  · intro owns
    obtain ⟨present, claimed, there, refreshed⟩ := owns reference refers
    rw [appended.stored] at there
    cases there
    obtain ⟨existing, -, -, isFirst, -⟩ := ObjectMeta.of_claim_refreshed refreshed
    rw [appended.absent] at isFirst
    cases isFirst
  · intro otherReference otherRefers
    refine appended.owns ?_
    rcases owned with rfl | owns
    · rw [refers] at otherRefers
      cases otherRefers
      exact Or.inl rfl
    · exact Or.inr (owns otherReference otherRefers)

end Memory

/-! ### What is stored and what is returned -/

/-- A Secret that refers to the owner already has the owner's own reference, and is as it would be
refreshed, exactly when its first reference to the owner is the owner's own one. -/
theorem ObjectMeta.refreshed_is_stored_iff {metadata claimed : ObjectMeta} {owner : OwnerReference}
    (owned : metadata.claim owner = .refreshed claimed) :
    (owner ∈ metadata.references ∧ claimed.references = metadata.references) ↔
      metadata.referenceTo? owner = some owner := by
  obtain ⟨existing, before, after, isFirst, split, refreshed⟩ := of_claim_refreshed owned
  rw [isFirst, split, refreshed, List.append_cancel_left_eq, List.cons.injEq]
  constructor
  · rintro ⟨-, same, -⟩
    rw [same]
  · rintro same
    cases same
    exact ⟨List.mem_append_right _ List.mem_cons_self, rfl, rfl⟩

/-- What becomes of a Secret that a gateway refers to, on every memory that can be reached, when its
stage goes well. If it had no reference to the gateway, it is stored with the gateway's own one,
and this is what is returned. If it had one, nothing is written, and the reference is refreshed in
what is returned only. So the gateway's own reference is stored, and what is returned is what is
stored, exactly when the Secret had no reference to the gateway before or had that one first. -/
theorem own_reference_stored_iff {memory : Memory} (reachable : memory.Reachable)
    (role : SecretRole) (gateway : Gateway) {secret : Secret} {changed : Bool}
    (resolved : ((reconcileSecret role gateway).run.run Memory.store memory).result =
      .ok ⟨some secret, changed⟩) :
    let after := ((reconcileSecret role gateway).run.run Memory.store memory).state
    let owner := gateway.ownerReference
    ∃ reference found stored, gateway.secretReference? role = some reference ∧
      memory.object? (.of .secret (gateway.secretName reference)) = some ⟨.secret, found⟩ ∧
      after.object? (.of .secret (gateway.secretName reference)) = some ⟨.secret, stored⟩ ∧
      owner ∈ secret.metadata.references ∧
      (changed = true ↔ found.metadata.referenceTo? owner = none) ∧
      (changed = true → stored = secret) ∧ (changed = false → after = memory) ∧
      ((owner ∈ stored.metadata.references ∧
          secret.metadata.references = stored.metadata.references) ↔
        ∀ existing, found.metadata.referenceTo? owner = some existing → existing = owner) := by
  intro after owner
  have ends := (reconcileSecret role gateway).run.ends_run Memory.store memory
  have gives := (reconcileSecret role gateway).run.gives_exchanges Memory.store memory
  rw [resolved] at ends
  have stage := SecretStage.of_ends ends
  cases changed with
  | true =>
    obtain ⟨reference, found, updated, refers, same, appended⟩ :=
      reachable.wellKept.appended_of_secretStage stage gives
    cases same
    have member : owner ∈ secret.metadata.references := by
      rw [appended.references]
      exact List.mem_append_right _ List.mem_cons_self
    refine ⟨reference, found, secret, refers, appended.stored, appended.wrote.object?_self, member,
      iff_of_true rfl appended.absent, fun _ => rfl, nofun, iff_of_true ⟨member, rfl⟩ ?_⟩
    intro existing isFirst
    rw [appended.absent] at isFirst
    cases isFirst
  | false =>
    obtain ⟨same, reference, found, refers, stored, owned⟩ :=
      reachable.wellKept.refreshed_of_secretStage stage gives
    obtain ⟨existing, before, behind, isFirst, -, refreshed⟩ :=
      ObjectMeta.of_claim_refreshed owned
    have member : owner ∈ secret.metadata.references := by
      rw [refreshed]
      exact List.mem_append_right _ List.mem_cons_self
    have present : found.metadata.referenceTo? owner ≠ none := by
      rw [isFirst]
      exact Option.some_ne_none existing
    refine ⟨reference, found, found, refers, stored, ?_, member, iff_of_false nofun present,
      nofun, fun _ => same, ?_⟩
    · rw [show after = memory from same]
      exact stored
    · refine (ObjectMeta.refreshed_is_stored_iff owned).trans ?_
      rw [isFirst]
      constructor
      · rintro own other isOther
        exact Option.some.inj (isOther.symm.trans own)
      · intro own
        rw [own existing rfl]

/-! ### A reference that does not control -/

/-- A gateway that refers to a configuration Secret. -/
def configuredGateway : Gateway where
  metadata := { name := some "edge", namespaceName := some "default", uid := some "uid-edge" }
  spec := { replicas := some 1, embeddedConfigurationSecretRef := some { name := "settings" } }

/-- A reference to the gateway that does not make it the controller. -/
def looseReference : OwnerReference where
  apiVersion := "apps.3scale.net/v1alpha1"
  kind := "APIcast"
  name := "edge"
  uid := "uid-edge"

/-- The configuration Secret of the gateway, with references to owners. -/
def settingsSecret (references : List OwnerReference) : Secret where
  metadata :=
    { name := some "settings", namespaceName := some "default", ownerReferences := some references }
  stringData := some (Map.empty.insert configurationKey "\x7b\x7d")

/-- A memory with one Secret. -/
def secretMemory (secret : Secret) : Memory :=
  ((Operation.seed .secret secret).perform {}).memory

theorem reachable_secretMemory (secret : Secret) : (secretMemory secret).Reachable :=
  Memory.Reachable.empty.perform _

/-- The Secret as it is stored with the references and a version. -/
def storedSettings (references : List OwnerReference) (version : String) : Secret :=
  let secret := settingsSecret references
  { secret with
    metadata :=
      { secret.metadata with
        resourceVersion := some version
        uid := some "00000000-0000-0000-0000-000000000001" } }

/-- A Secret that nobody owned is stored with the gateway's own reference, and this is what is
returned. -/
theorem unowned_reference_stored :
    let ended := (reconcileSecret .embeddedConfig configuredGateway).run.run Memory.store
      (secretMemory (settingsSecret []))
    let owner := configuredGateway.ownerReference
    ended.result = .ok ⟨some (storedSettings [owner] "2"), true⟩ ∧
    ∃ stored, ended.state.object? ⟨"Secret", "default", "settings"⟩ = some ⟨.secret, stored⟩ ∧
      owner ∈ stored.metadata.references ∧
      (storedSettings [owner] "2").metadata.references = stored.metadata.references := by
  intro ended owner
  have resolved : ended.result = .ok ⟨some (storedSettings [owner] "2"), true⟩ := rfl
  obtain ⟨reference, found, stored, refers, before, after, -, absent, -, -, persisted⟩ :=
    own_reference_stored_iff (reachable_secretMemory (settingsSecret [])) .embeddedConfig
      configuredGateway resolved
  cases refers
  refine ⟨resolved, stored, after, persisted.mpr fun existing isFirst => ?_⟩
  rw [absent.mp rfl] at isFirst
  cases isFirst

/-- A reference to the gateway that does not make it the controller stays as it is in the store,
though the Secret is returned with the gateway's own reference. -/
theorem loose_reference_stays :
    let memory := secretMemory (settingsSecret [looseReference])
    let ended := (reconcileSecret .embeddedConfig configuredGateway).run.run Memory.store memory
    let owner := configuredGateway.ownerReference
    memory.Reachable ∧
    ended.result = .ok ⟨some (storedSettings [owner] "1"), false⟩ ∧
    ended.state.object? ⟨"Secret", "default", "settings"⟩ =
      some ⟨.secret, storedSettings [looseReference] "1"⟩ ∧
    owner ∉ (storedSettings [looseReference] "1").metadata.references ∧
    (storedSettings [owner] "1").metadata.references ≠
      (storedSettings [looseReference] "1").metadata.references := by
  refine ⟨reachable_secretMemory _, rfl, rfl, ?_, ?_⟩
  · decide
  · decide

end GatewayOperator
