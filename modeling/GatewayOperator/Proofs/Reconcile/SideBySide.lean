/-
This file runs attempts side by side, each on a store in memory of its own. When the two stores hold
the same wherever the attempts are still going to look, wait with the same conflicts and gave the
same uid last, they answer alike, up to versions, and they still have all this in common afterwards.
So two attempts that start from such stores go the same way as long as they make the same calls.
-/

import GatewayOperator.Proofs.Reconcile.ForeignObjects
import GatewayOperator.Proofs.Store.Replay

namespace GatewayOperator

/-! ### Objects up to their versions -/

/-- Two objects are the same, but were stored under two versions. -/
def Kind.Reissued (kind : Kind) (first second : kind.Object) : Prop :=
  ∃ version, second = kind.withMetadata first
    { kind.metadata first with resourceVersion := version }

theorem Kind.reissued_self (kind : Kind) (object : kind.Object) : kind.Reissued object object := by
  refine ⟨(kind.metadata object).resourceVersion, ?_⟩
  cases kind <;> rfl

/-- Twins that an update stored have one uid. -/
theorem Kind.Twins.reissued {kind : Kind} {first second : kind.Object}
    (twins : kind.Twins .update first second) : kind.Reissued first second := by
  obtain ⟨version, uid, same, kept⟩ := twins
  obtain rfl := kept (by decide)
  exact ⟨version, same⟩

/-- A place is empty in two memories, or it holds the same object in both, up to the version. -/
inductive Stored.Reissued : Option Stored → Option Stored → Prop where
  | absent : Reissued none none
  | held {kind : Kind} {first second : kind.Object} (reissued : kind.Reissued first second) :
    Reissued (some ⟨kind, first⟩) (some ⟨kind, second⟩)

theorem Stored.reissued_self (found : Option Stored) : Reissued found found := by
  cases found with
  | none => exact .absent
  | some stored => exact .held (stored.kind.reissued_self stored.object)

namespace Memory

/-- Two memories with one uid given last create the same object, up to the version. -/
theorem reissued_placed {first second : Memory} (lastUid : second.lastUid = first.lastUid)
    (kind : Kind) (object : kind.Object) :
    kind.Reissued (first.placed kind object) (second.placed kind object) := by
  refine ⟨some (versionText (second.lastVersion + 1)), ?_⟩
  unfold placed
  rw [Kind.withMetadata_withMetadata, Kind.metadata_withMetadata, lastUid]
  rfl

theorem reissued_replacement (first second : Memory) (kind : Kind) (stored : Stored)
    (object : kind.Object) :
    kind.Reissued (first.replacement kind stored object)
      (second.replacement kind stored object) :=
  (twins_replacement first second kind stored object).reissued

/-- An object that is put at its place uses up a uid when it has none. -/
theorem place_lastUid (memory : Memory) (kind : Kind) (key : ObjectKey) (object : kind.Object) :
    (memory.place kind key object).2.lastUid =
      if (kind.metadata object).uid.isSome then memory.lastUid else memory.lastUid + 1 := by
  have stamped : (memory.stamp (kind.metadata object)).uid = (kind.metadata object).uid := rfl
  unfold place
  dsimp only
  rw [stamped]
  cases (kind.metadata object).uid <;> rfl

/-! ### Two memories -/

/-- Two memories are the same at every place, in some sense. -/
def Alike (Same : ObjectKey → Option Stored → Option Stored → Prop) (first second : Memory) :
    Prop :=
  ∀ key, Same key (first.object? key) (second.object? key)

/-- Two memories are alike, and what they hold at other places than some is equal. The same
conflicts wait in both, and both gave the same uid last. -/
structure Parallel (Same : ObjectKey → Option Stored → Option Stored → Prop)
    (seen : List ObjectKey) (first second : Memory) : Prop where
  reachable : first.Reachable
  conflicts : second.conflicts = first.conflicts
  lastUid : second.lastUid = first.lastUid
  unseen : ∀ key, key ∉ seen → second.object? key = first.object? key
  same : Alike Same first second

section Parallel

variable {Same : ObjectKey → Option Stored → Option Stored → Prop} {seen : List ObjectKey}
  {first second firstAfter secondAfter : Memory}

theorem alike_self
    (reissued : ∀ key found other, Stored.Reissued found other → Same key found other)
    (memory : Memory) : Alike Same memory memory :=
  fun key => reissued key _ _ (Stored.reissued_self _)

theorem parallel_self
    (reissued : ∀ key found other, Stored.Reissued found other → Same key found other)
    {memory : Memory} (reachable : memory.Reachable) : Parallel Same seen memory memory where
  reachable := reachable
  conflicts := rfl
  lastUid := rfl
  unseen _ _ := rfl
  same := alike_self reissued memory

/-- Two memories still have as much in common after each of them has changed at most what it holds
at one place, to something alike. -/
theorem Parallel.after (parallel : Parallel Same seen first second) {key : ObjectKey}
    (firstKept : ∀ place, place ≠ key → firstAfter.object? place = first.object? place)
    (secondKept : ∀ place, place ≠ key → secondAfter.object? place = second.object? place)
    (same : Same key (firstAfter.object? key) (secondAfter.object? key))
    (reachable : firstAfter.Reachable) (conflicts : secondAfter.conflicts = firstAfter.conflicts)
    (lastUid : secondAfter.lastUid = firstAfter.lastUid) :
    Parallel Same (key :: seen) firstAfter secondAfter where
  reachable := reachable
  conflicts := conflicts
  lastUid := lastUid
  unseen place unseen := by
    obtain ⟨different, unseen⟩ := not_or.mp (List.mem_cons.not.mp unseen)
    rw [firstKept place different, secondKept place different]
    exact parallel.unseen place unseen
  same place := by
    by_cases equal : place = key
    · rw [equal]
      exact same
    · rw [firstKept place equal, secondKept place equal]
      exact parallel.same place

/-- Where nothing was written there is nothing more to be seen. -/
theorem Parallel.cons (parallel : Parallel Same seen first second) (key : ObjectKey) :
    Parallel Same (key :: seen) first second :=
  { parallel with
    unseen := fun place unseen => parallel.unseen place fun member =>
      unseen (List.mem_cons_of_mem key member) }

end Parallel

end Memory

/-! ### Attempts -/

namespace Attempt

variable {First Second Third Fourth : Type} {start failed : Memory → Memory → Prop}

/-- Two attempts on two memories that have something in common fail both with one error, or succeed
both; and something is known of the memories and of the results afterwards. -/
def Pairs (start : Memory → Memory → Prop) (finish : First → Second → Memory → Memory → Prop)
    (failed : Memory → Memory → Prop) (first : Attempt First) (second : Attempt Second) : Prop :=
  ∀ memory other, start memory other →
    let ended := first.run.run Memory.store memory
    let otherEnded := second.run.run Memory.store other
    (∃ cause, ended.result = .error cause ∧ otherEnded.result = .error cause ∧
      failed ended.state otherEnded.state) ∨
    ∃ value otherValue, ended.result = .ok value ∧ otherEnded.result = .ok otherValue ∧
      finish value otherValue ended.state otherEnded.state

/-- Attempts go on side by side. -/
theorem Pairs.bind {middle : First → Second → Memory → Memory → Prop}
    {finish : Third → Fourth → Memory → Memory → Prop} {first : Attempt First}
    {second : Attempt Second} {next : First → Attempt Third} {following : Second → Attempt Fourth}
    (pairs : Pairs start middle failed first second)
    (rest : ∀ value other,
      Pairs (middle value other) finish failed (next value) (following other)) :
    Pairs start finish failed (first >>= next) (second >>= following) := by
  intro memory other starts
  obtain ⟨cause, fails, otherFails, holds⟩ | ⟨value, otherValue, succeeds, otherSucceeds, holds⟩ :=
    pairs memory other starts
  · obtain ⟨result, state⟩ := run_bind_of_error fails next
    obtain ⟨otherResult, otherState⟩ := run_bind_of_error otherFails following
    refine Or.inl ⟨cause, result, otherResult, ?_⟩
    rw [state, otherState]
    exact holds
  · obtain ⟨result, state⟩ := run_bind_of_ok succeeds next
    obtain ⟨otherResult, otherState⟩ := run_bind_of_ok otherSucceeds following
    dsimp only
    rw [result, otherResult, state, otherState]
    exact rest value otherValue _ _ holds

/-- Attempts may start from more than they need to have in common. -/
theorem Pairs.from {begin : Memory → Memory → Prop}
    {finish : First → Second → Memory → Memory → Prop} {first : Attempt First}
    {second : Attempt Second} (pairs : Pairs start finish failed first second)
    (implies : ∀ memory other, begin memory other → start memory other) :
    Pairs begin finish failed first second :=
  fun memory other begins => pairs memory other (implies memory other begins)

/-- Attempts that are over succeed side by side. -/
theorem pairs_pure {finish : First → Second → Memory → Memory → Prop} {first : First}
    {second : Second}
    (holds : ∀ memory other, start memory other → finish first second memory other) :
    Pairs start finish failed (pure first) (pure second) :=
  fun memory other starts => Or.inr ⟨first, second, rfl, rfl, holds memory other starts⟩

theorem pairs_fail {finish : First → Second → Memory → Memory → Prop} (cause : ReconcileError)
    (holds : ∀ memory other, start memory other → failed memory other) :
    Pairs start finish failed (fail cause) (fail cause) :=
  fun memory other starts => Or.inl ⟨cause, rfl, rfl, holds memory other starts⟩

theorem pairs_note (observation : Observation) :
    Pairs start (fun _ _ => start) failed (note observation) (note observation) :=
  fun _ _ starts => Or.inr ⟨(), (), rfl, rfl, starts⟩

/-- What is known of the results is at hand for the attempts that follow. -/
theorem pairs_of_known {Known : Prop} {finish : First → Second → Memory → Memory → Prop}
    {first : Attempt First} {second : Attempt Second}
    (pairs : Known → Pairs start finish failed first second) :
    Pairs (fun memory other => Known ∧ start memory other) finish failed first second :=
  fun memory other starts => pairs starts.1 memory other starts.2

/-! ### One object -/

section Child

variable {Same : ObjectKey → Option Stored → Option Stored → Prop} {seen : List ObjectKey}
  {kind : Kind} {name : ObjectName}

/-- An object is read at a place that is the same in both memories. -/
theorem pairs_get (alone : kind.Alone) (unseen : ObjectKey.of kind name ∉ seen) :
    Pairs (Memory.Parallel Same seen) (fun answer other first second =>
        (other = answer ∧
          ∀ existing, answer = .ok existing → kind.objectName? existing = some name) ∧
        Memory.Parallel Same seen first second)
      failed (answer (.get kind name.namespaceName name.name))
      (answer (.get kind name.namespaceName name.name)) := by
  intro first second parallel
  have wellKept := parallel.reachable.wellKept
  exact Or.inr ⟨_, _, rfl, rfl, ⟨Memory.get_congr (parallel.unseen _ unseen),
    fun existing found => wellKept.objectName? (wellKept.object?_of_get alone found)⟩, parallel⟩

/-- A call is asked of two memories that answer it alike. -/
theorem pairs_ask {finish : Memory → Memory → Prop} {request : Call}
    (answers : ∀ first second, start first second →
      (∃ cause firstAfter secondAfter,
        Memory.store.answer request first = (.error cause, firstAfter) ∧
        Memory.store.answer request second = (.error cause, secondAfter) ∧
        failed firstAfter secondAfter) ∨
      ∃ object other firstAfter secondAfter,
        Memory.store.answer request first = (.ok object, firstAfter) ∧
        Memory.store.answer request second = (.ok other, secondAfter) ∧
        finish firstAfter secondAfter) :
    Pairs start (fun _ _ => finish) failed (ask request) (ask request) := by
  intro first second starts
  obtain ⟨cause, firstAfter, secondAfter, fails, otherFails, holds⟩ |
    ⟨object, other, firstAfter, secondAfter, succeeds, otherSucceeds, holds⟩ :=
    answers first second starts
  · refine Or.inl ⟨.store cause, ?_⟩
    simp only [ask, ExceptT.run, ExceptT.mk, Program.run, fails, otherFails]
    exact ⟨rfl, rfl, holds⟩
  · refine Or.inr ⟨object, other, ?_⟩
    simp only [ask, ExceptT.run, ExceptT.mk, Program.run, succeeds, otherSucceeds]
    exact ⟨rfl, rfl, holds⟩

variable (reissued : ∀ key found other, Stored.Reissued found other → Same key found other)

include reissued

theorem pairs_create {object : kind.Object} (named : kind.objectName? object = some name)
    (unseen : ObjectKey.of kind name ∉ seen) :
    Pairs (Memory.Parallel Same seen) (fun _ _ => Memory.Parallel Same (.of kind name :: seen))
      (Memory.Alike Same) (ask (.create kind object)) (ask (.create kind object)) := by
  refine pairs_ask fun first second parallel => ?_
  have same := parallel.unseen _ unseen
  cases there : first.object? (.of kind name) with
  | some stored =>
    exact Or.inl ⟨_, first, second, first.create_taken named there,
      second.create_taken named (same.trans there), parallel.same⟩
  | none =>
    have created := first.create_free named there
    refine Or.inr ⟨_, _, _, _, created, second.create_free named (same.trans there), ?_⟩
    obtain ⟨-, firstWrote, -⟩ := first.place_spec named
    obtain ⟨-, secondWrote, -⟩ := second.place_spec named
    have reachable : (first.create kind object).2.Reachable :=
      parallel.reachable.perform (.call (.create kind object))
    rw [created] at reachable
    have stored : Stored.Reissued
        ((first.place kind (.of kind name) object).2.object? (.of kind name))
        ((second.place kind (.of kind name) object).2.object? (.of kind name)) := by
      rw [firstWrote.object?_self, secondWrote.object?_self]
      exact .held (Memory.reissued_placed parallel.lastUid kind object)
    refine parallel.after (fun _ => firstWrote.object?_other) (fun _ => secondWrote.object?_other)
      (reissued _ _ _ stored) reachable ?_ ?_
    · show (second.place _ _ _).2.conflicts = (first.place _ _ _).2.conflicts
      rw [Memory.place_conflicts, Memory.place_conflicts, parallel.conflicts]
    · show (second.place _ _ _).2.lastUid = (first.place _ _ _).2.lastUid
      rw [Memory.place_lastUid, Memory.place_lastUid, parallel.lastUid]

theorem pairs_update {object : kind.Object} (named : kind.objectName? object = some name)
    (unseen : ObjectKey.of kind name ∉ seen) :
    Pairs (Memory.Parallel Same seen) (fun _ _ => Memory.Parallel Same (.of kind name :: seen))
      (Memory.Alike Same) (ask (.update kind object)) (ask (.update kind object)) := by
  refine pairs_ask fun first second parallel => ?_
  have same := parallel.unseen _ unseen
  have conflict := congrArg (List.contains · (ObjectKey.of kind name)) parallel.conflicts
  cases injected : first.conflicts.contains (.of kind name) with
  | true =>
    exact Or.inl ⟨_, _, _, first.update_injected named injected,
      second.update_injected named (conflict.trans injected), parallel.same⟩
  | false =>
    replace conflict := conflict.trans injected
    cases there : first.object? (.of kind name) with
    | none =>
      exact Or.inl ⟨_, _, _, first.update_missing named injected there,
        second.update_missing named conflict (same.trans there), parallel.same⟩
    | some stored =>
      cases stale : Memory.isStale stored.metadata (kind.metadata object) with
      | true =>
        exact Or.inl ⟨_, _, _, first.update_stale named injected there stale,
          second.update_stale named conflict (same.trans there) stale, parallel.same⟩
      | false =>
        have updated := first.update_fresh named injected there stale
        have reachable : (first.update kind object).2.Reachable :=
          parallel.reachable.perform (.call (.update kind object))
        rw [updated] at reachable
        refine Or.inr ⟨_, _, _, _, updated,
          second.update_fresh named conflict (same.trans there) stale,
          parallel.after (fun _ => Memory.lookup_put_other _ _)
            (fun _ => Memory.lookup_put_other _ _) (reissued _ _ _ ?_) reachable
            parallel.conflicts parallel.lastUid⟩
        rw [first.object?_put, second.object?_put]
        exact .held (Memory.reissued_replacement first second kind stored object)

/-- An object is brought about side by side where both memories hold the same. -/
theorem pairs_reconcileChild (alone : kind.Alone) (policy : ReplicaPolicy) {desired : kind.Object}
    (named : kind.objectName? desired = some name) (unseen : ObjectKey.of kind name ∉ seen) :
    Pairs (Memory.Parallel Same seen) (fun _ _ => Memory.Parallel Same (.of kind name :: seen))
      (Memory.Alike Same) (reconcileChild kind (kind.rules policy) desired)
      (reconcileChild kind (kind.rules policy) desired) := by
  unfold reconcileChild
  rw [named]
  refine (pairs_get alone unseen).bind fun answer other => pairs_of_known ?_
  rintro ⟨rfl, found⟩
  cases other with
  | error cause =>
    dsimp only
    split
    · exact (pairs_create reissued named unseen).bind fun _ _ =>
        (pairs_note _).bind fun _ _ => pairs_pure fun _ _ parallel => parallel
    · exact pairs_fail _ fun _ _ parallel => parallel.same
  | ok existing =>
    have merged := (kind.objectName?_reconcileFields policy existing desired).trans (found _ rfl)
    dsimp only
    unfold updateChild
    dsimp only
    split
    · exact pairs_pure fun _ _ parallel => parallel.cons _
    · exact (pairs_update reissued merged unseen).bind fun _ _ =>
        (pairs_note _).bind fun _ _ => pairs_pure fun _ _ parallel => parallel

end Child

end Attempt

end GatewayOperator
