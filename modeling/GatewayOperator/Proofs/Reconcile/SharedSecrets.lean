/-
This file lets passes over any number of gateways share their Secrets, together with other clients
that write no Secret with two controlling owners. A pass reads a Secret, claims the copy it has, and
writes it back when nobody controls the copy; between the read and the write anybody may have
written the Secret. The write succeeds only on top of the copy that was read, so a Secret that a
pass writes had no controlling owner at that moment, and the pass adds its own reference behind the
others. A copy whose reference was refreshed in memory may have two controlling owners, but it is
never written.
-/

import GatewayOperator.Proofs.Reconcile.Interleaving
import GatewayOperator.Proofs.Reconcile.Ownership

namespace GatewayOperator

/-! ### Secrets with one controlling owner -/

/-- No Secret in a memory has two controlling owners. -/
def Memory.SingleControllers (memory : Memory) : Prop :=
  ∀ key secret, memory.object? key = some ⟨.secret, secret⟩ → secret.metadata.SingleController

/-- The object that an operation is to store. -/
def Operation.offered? : Operation → Option Stored
  | seed kind object | call (.create kind object) | call (.update kind object) =>
    some ⟨kind, object⟩
  | call (.get ..) | call (.updateStatus _) | injectConflict _ | clearWrites => none

/-- A client offers no Secret with two controlling owners. -/
def Operation.Fair (operation : Operation) : Prop :=
  ∀ secret, operation.offered? = some ⟨.secret, secret⟩ → secret.metadata.SingleController

namespace Memory

/-- An object that is put at its place keeps its owners. -/
theorem references_placed (memory : Memory) (kind : Kind) (object : kind.Object) :
    (kind.metadata (memory.placed kind object)).references =
      (kind.metadata object).references := by
  rw [placed, Kind.metadata_withMetadata]
  rfl

/-- An update stores the owners it was given. -/
theorem references_replacement (memory : Memory) (kind : Kind) (stored : Stored)
    (object : kind.Object) :
    (kind.metadata (memory.replacement kind stored object)).references =
      (kind.metadata object).references := by
  obtain ⟨metadata, other, replaced, same⟩ := memory.replacement_spec kind stored object
  rw [replaced, Kind.metadata_withStatusOf, Kind.metadata_withMetadata, same]
  rfl

/-- An update writes nothing, or it replaces the object at the place of its name. -/
theorem perform_update (memory : Memory) (kind : Kind) (object : kind.Object) :
    (((Operation.call (.update kind object)).perform memory).written = none ∧
      memory.Kept ((Operation.call (.update kind object)).perform memory).memory) ∨
    ∃ name stored, kind.objectName? object = some name ∧
      memory.object? (.of kind name) = some stored ∧
      (memory.update kind object).1 = .ok (memory.replacement kind stored object) ∧
      ((Operation.call (.update kind object)).perform memory).written = some (.of kind name) ∧
      memory.Wrote (.of kind name) ⟨kind, memory.replacement kind stored object⟩
        ((Operation.call (.update kind object)).perform memory).memory := by
  have performed : (Operation.call (.update kind object)).perform memory =
    .ofAnswer true (memory.update kind object) := rfl
  rw [performed]
  obtain ⟨cause, after, fails, kept, -⟩ | ⟨_, _, _, _, after, -, -, -, succeeds, -⟩ :=
    memory.update_cases kind object
  · rw [fails]
    exact Or.inl ⟨rfl, kept⟩
  · obtain ⟨name, stored, named, found, replaced, wrote⟩ := of_update succeeds
    rw [succeeds, replaced]
    rw [replaced] at wrote
    exact Or.inr ⟨name, stored, named, found, rfl, wrote.place, wrote⟩

/-- A Secret in the store was there before an operation, or it has the owners of the one the
operation offered. -/
theorem WellKept.secret_of_perform {memory : Memory} (wellKept : WellKept memory)
    (operation : Operation) {key : ObjectKey} {secret : Secret}
    (found : (operation.perform memory).memory.object? key = some ⟨.secret, secret⟩) :
    memory.object? key = some ⟨.secret, secret⟩ ∨
    ∃ offered : Secret, operation.offered? = some ⟨.secret, offered⟩ ∧
      secret.metadata.references = offered.metadata.references := by
  have wroteOffered : ∀ {kind : Kind} {object stored : kind.Object} {name : ObjectName}
      {after : Memory}, memory.Wrote (.of kind name) ⟨kind, stored⟩ after →
      operation.offered? = some ⟨kind, object⟩ →
      (kind.metadata stored).references = (kind.metadata object).references →
      after.object? key = some ⟨.secret, secret⟩ →
      memory.object? key = some ⟨.secret, secret⟩ ∨
      ∃ offered : Secret, operation.offered? = some ⟨.secret, offered⟩ ∧
        secret.metadata.references = offered.metadata.references := by
    intro kind object stored name after wrote offered owners found
    by_cases here : key = .of kind name
    · rw [here, wrote.object?_self] at found
      cases found
      exact Or.inr ⟨object, offered, owners⟩
    · rw [wrote.object?_other here] at found
      exact Or.inl found
  cases operation with
  | seed kind object =>
    replace found : (memory.seed kind object).2.object? key = some ⟨.secret, secret⟩ := found
    obtain ⟨cause, fails⟩ | ⟨name, after, -, succeeds, wrote, -⟩ := memory.seed_cases kind object
    · rw [fails] at found
      exact Or.inl found
    · rw [succeeds] at found
      exact wroteOffered wrote rfl (memory.references_placed kind object) found
  | injectConflict conflict =>
    have kept : (memory.injectConflict conflict).object? key = memory.object? key := by
      unfold injectConflict
      split <;> rfl
    exact Or.inl (kept.symm.trans found)
  | clearWrites => exact Or.inl found
  | call request =>
    cases request with
    | get kind namespaceName name => exact Or.inl found
    | create kind object =>
      replace found : (memory.create kind object).2.object? key = some ⟨.secret, secret⟩ := found
      obtain ⟨cause, fails⟩ | ⟨name, after, -, -, succeeds, wrote, -⟩ :=
        memory.create_cases kind object
      · rw [fails] at found
        exact Or.inl found
      · rw [succeeds] at found
        exact wroteOffered wrote rfl (memory.references_placed kind object) found
    | update kind object =>
      replace found : (memory.update kind object).2.object? key = some ⟨.secret, secret⟩ := found
      obtain ⟨-, kept⟩ | ⟨name, stored, -, -, -, -, wrote⟩ := memory.perform_update kind object
      · exact Or.inl ((kept.object? key).symm.trans found)
      · exact wroteOffered wrote rfl (memory.references_replacement kind stored object) found
    | updateStatus gateway =>
      replace found : (memory.updateStatus gateway).2.object? key = some ⟨.secret, secret⟩ := found
      obtain ⟨cause, fails⟩ | ⟨name, stored, after, -, -, succeeds, wrote, -⟩ :=
        wellKept.updateStatus_cases gateway
      · rw [fails] at found
        exact Or.inl found
      · rw [succeeds] at found
        by_cases here : key = .of .gateway name
        · rw [here, wrote.object?_self] at found
          cases found
        · rw [wrote.object?_other here] at found
          exact Or.inl found

/-- Whatever a client does that offers no Secret with two controlling owners, no Secret gets two. -/
theorem SingleControllers.perform {memory : Memory} (single : memory.SingleControllers)
    (wellKept : WellKept memory) {operation : Operation} (fair : operation.Fair) :
    (operation.perform memory).memory.SingleControllers := by
  intro key secret found
  obtain before | ⟨offered, isOffered, owners⟩ := wellKept.secret_of_perform operation found
  · exact single key secret before
  · have one := fair offered isOffered
    unfold ObjectMeta.SingleController at one ⊢
    rw [owners]
    exact one

end Memory

/-! ### Passes that share Secrets -/

/-- The next thing that happens when passes over any gateways and other clients share a store. -/
inductive SharedStep (world : World) : World → Prop where
  /-- A client uses the store, and offers no Secret with two controlling owners. -/
  | client (operation : Operation) (fair : operation.Fair) :
    SharedStep world (world.perform operation)
  /-- A pass is started with any gateway. -/
  | start (policy : ReplicaPolicy) (gateway : Gateway) :
    SharedStep world { world with
      passes := ⟨policy, gateway, [], pass policy gateway,
        ⟨⟨.gateway, gateway⟩, world.history.length⟩⟩ :: world.passes }
  /-- A pass makes its next call. -/
  | call {before after : List RunningPass} {running : RunningPass} {request : Call}
    {next : request.Answer → Program PassResult}
    (present : world.passes = before ++ running :: after)
    (rest : running.rest = .call request next) :
    SharedStep world (world.afterCall before after running request next)
  /-- A pass notes something. -/
  | observe {before after : List RunningPass} {running : RunningPass} {observation : Observation}
    {next : Program PassResult} (present : world.passes = before ++ running :: after)
    (rest : running.rest = .observe observation next) :
    SharedStep world { world with passes := before ++ { running with rest := next } :: after }

/-- The worlds that come about from a store. -/
inductive SharedRun (start : Memory) : World → Prop where
  | start : SharedRun start { memory := start }
  | step {world after : World} (run : SharedRun start world) (step : SharedStep world after) :
    SharedRun start after

/-- A Secret as a pass stores it: with one more reference behind the others, under a version. -/
def Secret.ownedBy (secret : Secret) (owner : OwnerReference) (version : Nat) : Secret :=
  { secret with
    metadata :=
      { secret.metadata with
        ownerReferences := some (secret.metadata.references ++ [owner])
        resourceVersion := some (Memory.versionText version) } }

/-- A call writes a place of its own kind. -/
theorem Call.label_of_written {memory : Memory} {request : Call} {key : ObjectKey}
    (written : ((Operation.call request).perform memory).written = some key) :
    key.label = request.kind.label := by
  replace written : (if request.writes = true then
      ((Memory.store.answer request memory).1.toOption.map (Stored.mk request.kind)).bind
        Stored.key?
    else none) = some key := written
  split at written
  · obtain ⟨stored, returned, place⟩ := Option.bind_eq_some_iff.mp written
    obtain ⟨object, -, rfl⟩ := Option.map_eq_some_iff.mp returned
    obtain ⟨name, -, rfl⟩ := Option.map_eq_some_iff.mp place
    rfl
  · cases written

namespace World

/-- The store is well kept and no Secret in it has two controlling owners; every pass is on its
path, and the copy of a Secret that it read last is sound. -/
structure Shared (world : World) : Prop where
  wellKept : world.memory.WellKept
  single : world.memory.SingleControllers
  tracked : ∀ running ∈ world.passes, Tracked running
  sound : ∀ running ∈ world.passes, running.base.stored.kind = .secret → world.Sound running.base

/-- What a call does to the Secrets of a store when it is not about Secrets: nothing. -/
theorem secrets_of_other {memory : Memory} (wellKept : memory.WellKept) {request : Call}
    (other : request.kind ≠ .secret) :
    (∀ name, ((Operation.call request).perform memory).written ≠ some (.of .secret name)) ∧
    ∀ key secret, ((Operation.call request).perform memory).memory.object? key =
      some ⟨.secret, secret⟩ → memory.object? key = some ⟨.secret, secret⟩ := by
  have alone : Kind.secret.Alone := by decide
  refine ⟨fun name written => ?_, fun key secret found => ?_⟩
  · exact other (alone.eq_of_label (Call.label_of_written written).symm)
  · obtain before | ⟨offered, isOffered, -⟩ :=
      wellKept.secret_of_perform (.call request) found
    · exact before
    · cases request with
      | get | updateStatus => cases isOffered
      | create | update =>
        cases isOffered
        exact absurd rfl other

/-- The call a pass is about to make leaves all Secrets alone; or it writes one that nobody
controls, with the reference of its gateway behind the others. -/
theorem Shared.secret_cases {world : World} (shared : world.Shared) {running : RunningPass}
    (member : running ∈ world.passes) {request : Call}
    {next : request.Answer → Program PassResult} (rest : running.rest = .call request next) :
    ((∀ name, ((Operation.call request).perform world.memory).written ≠ some (.of .secret name)) ∧
      ∀ key secret, ((Operation.call request).perform world.memory).memory.object? key =
        some ⟨.secret, secret⟩ → world.memory.object? key = some ⟨.secret, secret⟩) ∨
    ∃ name found, world.memory.object? (.of .secret name) = some ⟨.secret, found⟩ ∧
      (∀ reference ∈ found.metadata.references, reference.controls = false) ∧
      ((Operation.call request).perform world.memory).written = some (.of .secret name) ∧
      world.memory.Wrote (.of .secret name)
        ⟨.secret, found.ownedBy running.gateway.ownerReference (world.memory.lastVersion + 1)⟩
        ((Operation.call request).perform world.memory).memory := by
  have allowed := (shared.tracked running member).passCall rest
  have sound := shared.sound running member
  generalize seen : running.base.stored = base at allowed
  cases allowed with
  | read reads =>
    refine Or.inl ?_
    cases request with
    | get kind namespaceName name => exact ⟨fun _ => nofun, fun _ _ found => found⟩
    | create | update | updateStatus => cases reads
  | defaults => exact Or.inl (secrets_of_other shared.wellKept nofun)
  | created isChild named =>
    exact Or.inl (secrets_of_other shared.wellKept (Kind.ne_secret_of_isChild isChild))
  | merged isChild same =>
    exact Or.inl (secrets_of_other shared.wellKept (Kind.ne_secret_of_isChild isChild))
  | @owned secret metadata free =>
    obtain ⟨alone, base, isBase, guards⟩ := (PassCall.owned free).guards
    cases isBase
    have sighted := sound (congrArg Stored.kind seen)
    obtain ⟨name, named, onTop, -⟩ := sighted.of_guards alone seen guards
    obtain ⟨unwritten, kept⟩ | ⟨other, stored, otherNamed, there, succeeds, written, wrote⟩ :=
      world.memory.perform_update .secret { secret with metadata }
    · refine Or.inl ⟨fun name written => ?_, fun key other found => ?_⟩
      · rw [unwritten] at written
        cases written
      · exact (kept.object? key).symm.trans found
    · obtain rfl : name = other := Option.some.inj (named.symm.trans otherNamed)
      obtain ⟨found, -⟩ := onTop ⟨_, succeeds⟩
      rw [found] at there
      cases there
      obtain ⟨uncontrolled, claimed⟩ := ObjectMeta.eq_of_claim_appended free
      have stored : world.memory.replacement .secret ⟨.secret, secret⟩ { secret with metadata } =
          secret.ownedBy running.gateway.ownerReference (world.memory.lastVersion + 1) := by
        rw [Memory.replacement_stored, claimed]
        rfl
      rw [stored] at wrote
      exact Or.inr ⟨name, secret, found, uncontrolled, written, wrote⟩

/-- A Secret that a pass stores has one controlling owner, or none. -/
theorem singleController_ownedBy {secret : Secret} (owner : OwnerReference) (version : Nat)
    (uncontrolled : ∀ reference ∈ secret.metadata.references, reference.controls = false) :
    (secret.ownedBy owner version).metadata.SingleController :=
  ObjectMeta.singleController_of_uncontrolled uncontrolled rfl

/-- Whatever call a pass makes, no Secret gets two controlling owners. -/
theorem Shared.single_call {world : World} (shared : world.Shared) {running : RunningPass}
    (member : running ∈ world.passes) {request : Call}
    {next : request.Answer → Program PassResult} (rest : running.rest = .call request next) :
    ((Operation.call request).perform world.memory).memory.SingleControllers := by
  intro key secret there
  obtain ⟨-, same⟩ | ⟨name, found, -, uncontrolled, -, wrote⟩ := shared.secret_cases member rest
  · exact shared.single key secret (same key secret there)
  · by_cases here : key = .of .secret name
    · rw [here, wrote.object?_self] at there
      cases there
      exact singleController_ownedBy _ _ uncontrolled
    · rw [wrote.object?_other here] at there
      exact shared.single key secret there

theorem Shared.step {world after : World} (shared : world.Shared)
    (step : SharedStep world after) : after.Shared := by
  cases step with
  | client operation fair =>
    have effect := shared.wellKept.effect operation
    refine ⟨effect.wellKept shared.wellKept, shared.single.perform shared.wellKept fair,
      shared.tracked, fun running member isSecret => ?_⟩
    exact (shared.sound running member isSecret).of_effect effect rfl rfl
  | start policy gateway =>
    refine ⟨shared.wellKept, shared.single, ?_, ?_⟩
    · exact List.forall_mem_cons.mpr ⟨⟨fun _ _ ends => ends, rfl⟩, shared.tracked⟩
    · exact List.forall_mem_cons.mpr ⟨nofun, shared.sound⟩
  | @call before after running request next present rest =>
    have member : running ∈ world.passes := present ▸ List.mem_append_cons_self
    have effect := shared.wellKept.effect (.call request)
    have tracked := shared.tracked
    have sound : ∀ running ∈ world.passes, running.base.stored.kind = .secret →
        (world.perform (.call request)).Sound running.base := fun running member isSecret =>
      (shared.sound running member isSecret).of_effect effect rfl rfl
    have own := sound running member
    rw [present] at tracked sound
    refine ⟨effect.wellKept shared.wellKept, shared.single_call member rest,
      forall_mem_replaced tracked ((shared.tracked running member).answered rest _ _),
      forall_mem_replaced sound ?_⟩
    obtain same | fromCall := base_answered_cases shared.wellKept running request (next _)
    · rw [same]
      exact own
    · exact fun _ => fromCall
  | @observe before after running observation next present rest =>
    have member : running ∈ world.passes := present ▸ List.mem_append_cons_self
    have tracked := shared.tracked
    have sound := shared.sound
    rw [present] at tracked sound
    exact ⟨shared.wellKept, shared.single,
      forall_mem_replaced tracked ((shared.tracked running member).observed rest),
      forall_mem_replaced sound (shared.sound running member)⟩

end World

theorem SharedRun.shared {start : Memory} {world : World} (run : SharedRun start world)
    (wellKept : start.WellKept) (single : start.SingleControllers) : world.Shared := by
  induction run with
  | start => exact ⟨wellKept, single, fun _ => nofun, fun _ => nofun⟩
  | step run step inductionHypothesis => exact inductionHypothesis.step step

/-- Secrets that are shared never get two controlling owners. However passes over any gateways and
other clients take turns on a store, when it had no Secret with two controlling owners at the start
and the other clients offer none, no Secret in it has two. And when a pass writes a Secret, nobody
controlled the Secret until then; it is stored as it was, with the references to its owners in their
order, the pass's own one behind them, and a new version. -/
theorem shared_secrets_keep_one_controller {start : Memory} (reachable : start.Reachable)
    (single : start.SingleControllers) {world : World} (run : SharedRun start world) :
    world.memory.SingleControllers ∧
    ∀ running ∈ world.passes, ∀ (request : Call) (next : request.Answer → Program PassResult),
      running.rest = .call request next → ∀ name,
      ((Operation.call request).perform world.memory).written = some (.of .secret name) →
      ∃ found : Secret, world.memory.object? (.of .secret name) = some ⟨.secret, found⟩ ∧
        (∀ reference ∈ found.metadata.references, reference.controls = false) ∧
        (Memory.store.answer request world.memory).2.object? (.of .secret name) =
          some ⟨.secret, { found with
            metadata := { found.metadata with
              ownerReferences :=
                some (found.metadata.references ++ [running.gateway.ownerReference])
              resourceVersion :=
                some (Memory.versionText (world.memory.lastVersion + 1)) } }⟩ := by
  have shared := run.shared reachable.wellKept single
  refine ⟨shared.single, fun running member request next rest name written => ?_⟩
  obtain ⟨unwritten, -⟩ | ⟨other, found, stored, uncontrolled, place, wrote⟩ :=
    shared.secret_cases member rest
  · exact absurd written (unwritten name)
  · have same : ObjectKey.of .secret other = .of .secret name :=
      Option.some.inj (place.symm.trans written)
    rw [same] at stored wrote
    exact ⟨found, stored, uncontrolled, wrote.object?_self⟩

/-! ### Two gateways and one Secret -/

/-- Another gateway that refers to the configuration Secret. -/
def siblingGateway : Gateway :=
  { configuredGateway with
    metadata :=
      { configuredGateway.metadata with name := some "sibling", uid := some "uid-sibling" } }

/-- A world after a pass over a gateway was started. -/
def World.started (world : World) (gateway : Gateway) : World :=
  { world with
    passes := ⟨.enforce, gateway, [], pass .enforce gateway,
      ⟨⟨.gateway, gateway⟩, world.history.length⟩⟩ :: world.passes }

/-- The Secret is stored without owners, and passes over both gateways are started. -/
def sharingWorld : World :=
  (World.started { memory := secretMemory (settingsSecret []) } configuredGateway).started
    siblingGateway

theorem singleControllers_secretMemory :
    (secretMemory (settingsSecret [])).SingleControllers := by
  have nothing : ({} : Memory).SingleControllers := fun _ _ => nofun
  refine nothing.perform Memory.wellKept_empty fun secret offered => ?_
  cases offered
  exact Nat.zero_le 1

theorem sharedRun_sharingWorld : SharedRun (secretMemory (settingsSecret [])) sharingWorld :=
  .step (.step .start (.start .enforce configuredGateway)) (.start .enforce siblingGateway)

/-- Both passes have read the Secret, the one that was started last first. The other one writes it
and is its only owner. -/
theorem first_writer_owns_secret :
    ∃ world, SharedRun (secretMemory (settingsSecret [])) world ∧ world.passes.length = 2 ∧
      ∃ running ∈ world.passes, running.gateway = configuredGateway ∧
      ∃ request next, running.rest = .call request next ∧
      ∃ stored : Secret, (Memory.store.answer request world.memory).2.object?
          ⟨"Secret", "default", "settings"⟩ = some ⟨.secret, stored⟩ ∧
        stored.metadata.references = [configuredGateway.ownerReference] := by
  have siblingReads := sharedRun_sharingWorld.step
    (.call (show sharingWorld.passes = [] ++ _ :: _ from rfl) rfl)
  have bothRead := siblingReads.step (.call (show World.passes _ = [_] ++ _ :: [] from rfl) rfl)
  refine ⟨_, bothRead, rfl, _, List.mem_cons_of_mem _ List.mem_cons_self, rfl, _, _, rfl, ?_⟩
  obtain ⟨-, writes⟩ := shared_secrets_keep_one_controller (reachable_secretMemory _)
    singleControllers_secretMemory bothRead
  obtain ⟨found, stored, -, after⟩ := writes _ (List.mem_cons_of_mem _ List.mem_cons_self) _ _ rfl
    ⟨"default", "settings"⟩ rfl
  refine ⟨_, after, ?_⟩
  cases stored
  rfl

end GatewayOperator
