/-
This file lets any number of passes run on one store in memory, together with other clients. Every
call is a step of its own, so between two calls of a pass anybody may write. A copy of an object is
remembered with the number of writes that had been made when the store gave it out: as long as its
place is not written again the store holds that copy, and from then on it holds a later version. An
update that is guarded by a copy therefore succeeds only on top of that copy.
-/

import GatewayOperator.Proofs.Reconcile.Guard

namespace GatewayOperator

/-! ### Worlds -/

/-- A copy of an object, and how many writes had been made when the store gave it out. -/
structure Sighting where
  stored : Stored
  moment : Nat

/-- A pass that is under way: the gateway it was started with, the calls it has made, what is left
of it, and the copy it read last, which is the one it was started with at first. -/
structure RunningPass where
  policy : ReplicaPolicy
  gateway : Gateway
  made : List Exchange
  rest : Program PassResult
  base : Sighting

/-- A store in memory with everybody who uses it: the places of all writes in their order, the
copies the store gave out, and the passes. -/
structure World where
  memory : Memory := {}
  history : List ObjectKey := []
  sightings : List Sighting := []
  passes : List RunningPass := []

namespace World

/-- A place was written since a copy was given out. -/
def WrittenSince (world : World) (sighting : Sighting) (key : ObjectKey) : Prop :=
  key ∈ world.history.drop sighting.moment

/-- Does an operation on the store. -/
def perform (world : World) (operation : Operation) : World :=
  let performed := operation.perform world.memory
  let history := world.history ++ performed.written.toList
  { world with
    memory := performed.memory
    history
    sightings := world.sightings ++
      performed.returned.toList.map fun stored => ⟨stored, history.length⟩ }

end World

/-- A pass after its next call was answered. What it reads is what it goes on from. -/
def RunningPass.answered (running : RunningPass) (exchange : Exchange) (moment : Nat)
    (rest : Program PassResult) : RunningPass :=
  { running with
    made := running.made ++ [exchange]
    rest
    base := match exchange.read? with
      | some stored => ⟨stored, moment⟩
      | none => running.base }

namespace World

/-- The world after a pass made its next call. -/
def afterCall (world : World) (before after : List RunningPass) (running : RunningPass)
    (request : Call) (next : request.Answer → Program PassResult) : World :=
  let answer := (Memory.store.answer request world.memory).1
  let called := world.perform (.call request)
  { called with
    passes := before ++
      running.answered ⟨request, answer⟩ called.history.length (next answer) :: after }

/-- The next thing that happens. -/
inductive Step (world : World) : World → Prop where
  /-- A client uses the store, and does not clear the log. -/
  | client (operation : Operation) (keepsLog : operation ≠ .clearWrites) :
    Step world (world.perform operation)
  /-- A pass is started with a gateway that the store gave out. -/
  | start (policy : ReplicaPolicy) {sighting : Sighting} {gateway : Gateway}
    (given : sighting ∈ world.sightings) (isGateway : sighting.stored = ⟨.gateway, gateway⟩) :
    Step world { world with
      passes := ⟨policy, gateway, [], pass policy gateway, sighting⟩ :: world.passes }
  /-- A pass makes its next call. -/
  | call {before after : List RunningPass} {running : RunningPass} {request : Call}
    {next : request.Answer → Program PassResult}
    (present : world.passes = before ++ running :: after)
    (rest : running.rest = .call request next) :
    Step world (world.afterCall before after running request next)
  /-- A pass notes something. -/
  | observe {before after : List RunningPass} {running : RunningPass} {observation : Observation}
    {next : Program PassResult} (present : world.passes = before ++ running :: after)
    (rest : running.rest = .observe observation next) :
    Step world { world with passes := before ++ { running with rest := next } :: after }

/-- The worlds that come about, from an empty store without a pass. -/
inductive Reachable : World → Prop where
  | empty : Reachable {}
  | step {world after : World} (reachable : Reachable world) (step : Step world after) :
    Reachable after

/-! ### Copies -/

/-- What is known of a copy: it has the version of its place until the place is written again, and
an older one from then on. -/
def Sound (world : World) (sighting : Sighting) : Prop :=
  sighting.stored.kind.Alone → ∃ key version,
    sighting.stored.key? = some key ∧
    sighting.stored.metadata.resourceVersion = some (Memory.versionText version) ∧
    version ≤ world.memory.lastVersion ∧ sighting.moment ≤ world.history.length ∧
    (¬world.WrittenSince sighting key → world.memory.object? key = some sighting.stored) ∧
    (world.WrittenSince sighting key → ∃ present later,
      world.memory.object? key = some present ∧
      present.metadata.resourceVersion = some (Memory.versionText later) ∧ version < later)

/-- A copy stays sound whatever an operation does: a write of its place leaves a later version
there, and any other write leaves the place alone. -/
theorem Sound.of_effect {world after : World} {sighting : Sighting} (sound : world.Sound sighting)
    {performed : Performed} (effect : Effect world.memory performed)
    (memory : after.memory = performed.memory)
    (history : after.history = world.history ++ performed.written.toList) :
    after.Sound sighting := by
  intro alone
  obtain ⟨key, version, place, text, given, made, untouched, touched⟩ := sound alone
  refine ⟨key, version, place, text, ?_⟩
  unfold WrittenSince at untouched touched ⊢
  rw [memory, history, List.length_append, List.drop_append_of_le_length made]
  cases effect with
  | kept kept writes current =>
    rw [Option.toList_none, List.append_nil, kept.object? key, kept.lastVersion]
    exact ⟨given, Nat.le_add_right_of_le made, untouched, touched⟩
  | @wrote written stored memory wrote writes =>
    rw [wrote.lastVersion, Option.toList_some, List.mem_append, List.mem_singleton]
    refine ⟨Nat.le_succ_of_le given, Nat.le_add_right_of_le made, fun notWritten => ?_,
      fun isWritten => ?_⟩
    · rw [not_or] at notWritten
      rw [wrote.object?_other notWritten.2]
      exact untouched notWritten.1
    · by_cases here : key = written
      · subst here
        exact ⟨stored, _, wrote.object?_self, wrote.version, Nat.lt_succ_of_le given⟩
      · rw [wrote.object?_other here]
        exact touched (isWritten.resolve_right here)

/-- A copy that is given out is sound: it is what its place holds. -/
theorem sound_of_returned {world after : World} (wellKept : world.memory.WellKept)
    {performed : Performed} (effect : Effect world.memory performed)
    (memory : after.memory = performed.memory)
    (history : after.history = world.history ++ performed.written.toList) {stored : Stored}
    (returned : performed.returned = some stored) :
    after.Sound ⟨stored, after.history.length⟩ := by
  intro alone
  have kept := effect.wellKept wellKept
  rw [← memory] at kept
  have found : ∃ key, stored.key? = some key ∧ after.memory.object? key = some stored := by
    rw [memory]
    cases effect with
    | kept same writes current =>
      obtain ⟨key, place, found⟩ := current stored returned alone
      exact ⟨key, place, (same.object? key).trans found⟩
    | wrote wrote writes =>
      cases returned
      exact ⟨_, wrote.place, wrote.object?_self⟩
  obtain ⟨key, place, present⟩ := found
  obtain ⟨version, given, text⟩ := kept.version key stored present
  refine ⟨key, version, place, text, given, Nat.le_refl _, fun _ => present, fun written => ?_⟩
  unfold WrittenSince at written
  rw [List.drop_length] at written
  cases written

/-! ### The invariant of a world -/

/-- What is known of a pass that is under way: with any end of its rest it is a path of the pass,
and its copy is the last object on its path so far. -/
structure Tracked (running : RunningPass) : Prop where
  path : ∀ exchanges result, running.rest.Ends exchanges result →
    (pass running.policy running.gateway).Ends (running.made ++ exchanges) result
  base : running.base.stored = lastRead ⟨.gateway, running.gateway⟩ running.made

/-- The store is well kept, every copy is sound, and every pass is on its path. -/
structure Consistent (world : World) : Prop where
  wellKept : world.memory.WellKept
  sound : ∀ sighting ∈ world.sightings, world.Sound sighting
  tracked : ∀ running ∈ world.passes, Tracked running
  basesSound : ∀ running ∈ world.passes, world.Sound running.base

theorem consistent_empty : Consistent {} where
  wellKept := Memory.wellKept_empty
  sound _ member := nomatch member
  tracked _ member := nomatch member
  basesSound _ member := nomatch member

theorem Consistent.perform {world : World} (consistent : world.Consistent)
    (operation : Operation) : (world.perform operation).Consistent := by
  have effect := consistent.wellKept.effect operation
  refine ⟨effect.wellKept consistent.wellKept, fun sighting member => ?_, consistent.tracked,
    fun running member => (consistent.basesSound running member).of_effect effect rfl rfl⟩
  rcases List.mem_append.mp member with earlier | now
  · exact (consistent.sound sighting earlier).of_effect effect rfl rfl
  · obtain ⟨stored, returned, rfl⟩ := List.mem_map.mp now
    exact sound_of_returned consistent.wellKept effect rfl rfl (Option.mem_toList.mp returned)

/-- A pass stays on its path when its next call is answered. -/
theorem Tracked.answered {running : RunningPass} (tracked : Tracked running) {request : Call}
    {next : request.Answer → Program PassResult} (rest : running.rest = .call request next)
    (answer : request.Answer) (moment : Nat) :
    Tracked (running.answered ⟨request, answer⟩ moment (next answer)) where
  path exchanges result ends := by
    have path := tracked.path (⟨request, answer⟩ :: exchanges) result
      (rest ▸ ⟨answer, exchanges, rfl, ends⟩)
    unfold RunningPass.answered
    rw [List.append_assoc]
    exact path
  base := by
    unfold RunningPass.answered
    rw [lastRead_append, ← tracked.base]
    show _ = (Exchange.read? ⟨request, answer⟩).getD running.base.stored
    cases Exchange.read? ⟨request, answer⟩ <;> rfl

/-- What a call of a pass reads is what the operation gives back. -/
theorem returned_of_read? {memory : Memory} {request : Call} {stored : Stored}
    (read : Exchange.read? ⟨request, (Memory.store.answer request memory).1⟩ = some stored) :
    ((Operation.call request).perform memory).returned = some stored := by
  unfold Exchange.read? at read
  split at read
  · cases read
  · exact read

/-- The copy of a pass whose call was answered is the one it had, or a sound one that the call gave
out. -/
theorem base_answered_cases {world : World} (wellKept : world.memory.WellKept)
    (running : RunningPass) (request : Call) (rest : Program PassResult) :
    let called := world.perform (.call request)
    let answered := running.answered ⟨request, (Memory.store.answer request world.memory).1⟩
      called.history.length rest
    answered.base = running.base ∨ called.Sound answered.base := by
  unfold RunningPass.answered
  cases read : Exchange.read? ⟨request, (Memory.store.answer request world.memory).1⟩ with
  | none => exact Or.inl rfl
  | some stored =>
    exact Or.inr (sound_of_returned wellKept (wellKept.effect (.call request)) rfl rfl
      (returned_of_read? read))

/-- A pass stays on its path when it notes something. -/
theorem Tracked.observed {running : RunningPass} (tracked : Tracked running)
    {observation : Observation} {next : Program PassResult}
    (rest : running.rest = .observe observation next) :
    Tracked { running with rest := next } where
  path exchanges result ends := tracked.path exchanges result (rest ▸ ends)
  base := tracked.base

/-- When one pass changes, the others are as they were. -/
theorem forall_mem_replaced {Property : RunningPass → Prop} {before after : List RunningPass}
    {old new : RunningPass} (all : ∀ running ∈ before ++ old :: after, Property running)
    (changed : Property new) : ∀ running ∈ before ++ new :: after, Property running := by
  rw [List.forall_mem_append, List.forall_mem_cons] at all ⊢
  exact ⟨all.1, changed, all.2.2⟩

theorem Consistent.step {world after : World} (consistent : world.Consistent)
    (step : Step world after) : after.Consistent := by
  cases step with
  | client operation keepsLog => exact consistent.perform operation
  | @start policy sighting gateway given isGateway =>
    refine ⟨consistent.wellKept, consistent.sound, ?_, ?_⟩
    · exact List.forall_mem_cons.mpr ⟨⟨fun _ _ ends => ends, isGateway⟩, consistent.tracked⟩
    · exact List.forall_mem_cons.mpr ⟨consistent.sound sighting given, consistent.basesSound⟩
  | @call before after running request next present rest =>
    have member : running ∈ world.passes := present ▸ List.mem_append_cons_self
    have performed := consistent.perform (.call request)
    have bases := performed.basesSound
    have tracked := consistent.tracked
    rw [show (world.perform (.call request)).passes = world.passes from rfl, present] at bases
    rw [present] at tracked
    refine ⟨performed.wellKept, performed.sound, forall_mem_replaced tracked
      ((consistent.tracked running member).answered rest _ _), forall_mem_replaced bases ?_⟩
    obtain same | sound := base_answered_cases consistent.wellKept running request (next _)
    · rw [same]
      exact performed.basesSound running member
    · exact sound
  | @observe before after running observation next present rest =>
    have member : running ∈ world.passes := present ▸ List.mem_append_cons_self
    have bases := consistent.basesSound
    have tracked := consistent.tracked
    rw [present] at bases tracked
    exact ⟨consistent.wellKept, consistent.sound,
      forall_mem_replaced tracked ((consistent.tracked running member).observed rest),
      forall_mem_replaced bases (consistent.basesSound running member)⟩

/-- The invariant holds in every world that comes about. -/
theorem Reachable.consistent {world : World} (reachable : Reachable world) :
    world.Consistent := by
  induction reachable with
  | empty => exact consistent_empty
  | step reachable step inductionHypothesis => exact inductionHypothesis.step step

/-! ### Updates -/

/-- The call a pass is about to make is one it may make after what it read last. -/
theorem Tracked.passCall {running : RunningPass} (tracked : Tracked running) {request : Call}
    {next : request.Answer → Program PassResult} (rest : running.rest = .call request next) :
    PassCall running.gateway running.base.stored request := by
  obtain ⟨exchanges, result, ends⟩ := running.rest.exists_ends
  have along := along_of_ends (tracked.path exchanges result ends)
  rw [rest] at ends
  obtain ⟨answer, others, rfl, -⟩ := ends
  rw [tracked.base]
  exact (along_append.mp along).2.1

/-- The update a pass is about to make is guarded by its copy. -/
theorem Tracked.guards {running : RunningPass} (tracked : Tracked running) {kind : Kind}
    {object : kind.Object} {next : Except StoreError kind.Object → Program PassResult}
    (rest : running.rest = .call (.update kind object) next) :
    kind.Alone ∧ ∃ base, running.base.stored = ⟨kind, base⟩ ∧ Guards kind base object :=
  (tracked.passCall rest).guards

/-- A pass whose update failed makes no more calls and returns the error. -/
theorem Tracked.stops {running : RunningPass} (tracked : Tracked running) {kind : Kind}
    {object : kind.Object} {next : Except StoreError kind.Object → Program PassResult}
    (rest : running.rest = .call (.update kind object) next) {cause : StoreError}
    {exchanges : List Exchange} {result : PassResult}
    (ends : (next (.error cause)).Ends exchanges result) :
    exchanges = [] ∧ result.result = .error (.store cause) := by
  refine ends_failed_update
    (tracked.path (⟨.update kind object, .error cause⟩ :: exchanges) result ?_)
  rw [rest]
  exact ⟨_, exchanges, rfl, ends⟩

/-- Versions that differ make an update stale. -/
theorem isStale_of_lt {stored given : ObjectMeta} {version later : Nat}
    (givenVersion : given.resourceVersion = some (Memory.versionText version))
    (storedVersion : stored.resourceVersion = some (Memory.versionText later))
    (older : version < later) : Memory.isStale stored given = true := by
  have different : Memory.versionText version ≠ Memory.versionText later := fun same =>
    Nat.ne_of_lt older (Memory.versionText_injective same)
  unfold Memory.isStale
  rw [givenVersion, storedVersion]
  simpa using different

/-- An update that is guarded by a copy goes to the place of the copy. It succeeds only on top of
the copy, and once the place was written it is a conflict. -/
theorem Sound.of_guards {world : World} {sighting : Sighting} (sound : world.Sound sighting)
    {kind : Kind} (alone : kind.Alone) {base object : kind.Object}
    (isBase : sighting.stored = ⟨kind, base⟩) (guards : Guards kind base object) :
    ∃ name, kind.objectName? object = some name ∧
      ((∃ updated, (world.memory.update kind object).1 = .ok updated) →
        world.memory.object? (.of kind name) = some ⟨kind, base⟩ ∧
        ¬world.WrittenSince sighting (.of kind name)) ∧
      (world.WrittenSince sighting (.of kind name) →
        ∃ message after, world.memory.update kind object =
            (.error (.conflict kind.label name.namespaceName name.name message), after) ∧
          world.memory.Kept after ∧ after.writes = world.memory.writes) := by
  unfold Sound at sound
  rw [isBase] at sound
  obtain ⟨key, version, place, text, -, -, untouched, touched⟩ := sound alone
  obtain ⟨name, named, rfl⟩ := Option.map_eq_some_iff.mp place
  have objectNamed : kind.objectName? object = some name :=
    (Kind.objectName?_congr guards.name guards.namespaceName).trans named
  have conflicts : world.WrittenSince sighting (.of kind name) →
      ∃ message after, world.memory.update kind object =
          (.error (.conflict kind.label name.namespaceName name.name message), after) ∧
        world.memory.Kept after ∧ after.writes = world.memory.writes := by
    intro written
    obtain ⟨present, later, found, presentText, older⟩ := touched written
    exact world.memory.update_conflict objectNamed found
      (isStale_of_lt (guards.resourceVersion.trans text) presentText older)
  refine ⟨name, objectNamed, fun ⟨updated, succeeds⟩ => ?_, conflicts⟩
  have notWritten : ¬world.WrittenSince sighting (.of kind name) := by
    intro written
    obtain ⟨message, after, fails, -⟩ := conflicts written
    rw [fails] at succeeds
    cases succeeds
  exact ⟨untouched notWritten, notWritten⟩

end World

/-- No update is lost, however passes and other clients take turns. An update that a pass is about
to make is based on the copy the pass read last, or was started with: it succeeds only when the
store still holds that very copy, which nobody has written since; and when somebody has, it is a
conflict that stores nothing and the pass makes no more calls. No place is created twice. -/
theorem no_lost_update {world : World} (reachable : world.Reachable) :
    (∀ running ∈ world.passes, ∀ (kind : Kind) (object : kind.Object)
      (next : Except StoreError kind.Object → Program PassResult),
      running.rest = .call (.update kind object) next →
      ∃ name base, kind.objectName? object = some name ∧
        running.base.stored = ⟨kind, base⟩ ∧
        lastRead ⟨.gateway, running.gateway⟩ running.made = ⟨kind, base⟩ ∧
        ((∃ updated, (world.memory.update kind object).1 = .ok updated) →
          world.memory.object? (.of kind name) = some ⟨kind, base⟩ ∧
          ¬world.WrittenSince running.base (.of kind name)) ∧
        (world.WrittenSince running.base (.of kind name) →
          ∃ message after, world.memory.update kind object =
              (.error (.conflict kind.label name.namespaceName name.name message), after) ∧
            after.objects = world.memory.objects ∧ after.writes = world.memory.writes ∧
            ∀ exchanges result,
              (next (.error (.conflict kind.label name.namespaceName name.name message))).Ends
                exchanges result →
              exchanges = [] ∧ result.result = .error (.store
                (.conflict kind.label name.namespaceName name.name message)))) ∧
    ∀ key, world.memory.writes.count ⟨.create, key⟩ ≤ 1 := by
  have consistent := reachable.consistent
  refine ⟨fun running member kind object next rest => ?_, consistent.wellKept.once⟩
  have tracked := consistent.tracked running member
  obtain ⟨alone, base, isBase, guards⟩ := tracked.guards rest
  obtain ⟨name, named, onTop, conflicts⟩ :=
    (consistent.basesSound running member).of_guards alone isBase guards
  refine ⟨name, base, named, isBase, tracked.base ▸ isBase, onTop, fun written => ?_⟩
  obtain ⟨message, after, fails, kept, log⟩ := conflicts written
  exact ⟨message, after, fails, kept.objects, log, fun exchanges result ends =>
    tracked.stops rest ends⟩

/-! ### A pass that was overtaken -/

/-- A gateway that lacks its replicas, as a store gives it out. -/
def openGateway : Gateway where
  metadata :=
    { name := some "edge"
      namespaceName := some "default"
      resourceVersion := some "1"
      uid := some "00000000-0000-0000-0000-000000000001" }
  spec := {}

/-- The gateway was stored, a pass was started with it, and somebody else updated it. -/
def overtakenWorld : World :=
  let seeded := ({} : World).perform (.seed .gateway openGateway)
  let started := { seeded with
    passes := [⟨.enforce, openGateway, [], pass .enforce openGateway,
      ⟨⟨.gateway, openGateway⟩, 1⟩⟩] }
  started.perform (.call (.update .gateway openGateway))

theorem reachable_overtakenWorld : overtakenWorld.Reachable := by
  have seeded : (({} : World).perform (.seed .gateway openGateway)).Reachable :=
    .step .empty (.client _ nofun)
  have given : (⟨⟨.gateway, openGateway⟩, 1⟩ : Sighting) ∈
      (({} : World).perform (.seed .gateway openGateway)).sightings := List.mem_cons_self
  exact .step (.step seeded (.start .enforce given rfl)) (.client _ nofun)

/-- The pass that was overtaken cannot write the defaults. -/
theorem overtaken_update_conflicts :
    ∃ message, (overtakenWorld.memory.update .gateway openGateway.withDefaults).1 =
      .error (.conflict "APIcast" "default" "edge" message) := by
  obtain ⟨passes, -⟩ := no_lost_update reachable_overtakenWorld
  obtain ⟨name, base, named, -, -, -, conflicts⟩ := passes _ List.mem_cons_self .gateway
    openGateway.withDefaults _ rfl
  cases named
  have written : overtakenWorld.WrittenSince ⟨⟨.gateway, openGateway⟩, 1⟩
      (.of .gateway ⟨"default", "edge"⟩) := List.mem_cons_self
  obtain ⟨message, after, fails, -⟩ := conflicts written
  exact ⟨message, congrArg Prod.fst fails⟩

end GatewayOperator
