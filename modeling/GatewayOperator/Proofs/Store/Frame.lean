/-
This file says what a call leaves alone in a store in memory. A call writes at most its own place,
and an object that is there stays there. So a run leaves every place alone that none of its calls
writes. An update that succeeds was based on the stored version; and where no conflict waits for an
update, none comes about by calls, so an update of an object as it is stored does succeed.
-/

import GatewayOperator.Proofs.Store.Reachable

namespace GatewayOperator

/-- The place that a call writes when it succeeds. -/
def Call.place? : Call → Option ObjectKey
  | get .. => none
  | create kind object => (kind.objectName? object).map (.of kind)
  | update kind object => (kind.objectName? object).map (.of kind)
  | updateStatus gateway => (Kind.gateway.objectName? gateway).map (.of .gateway)

/-- A call about objects of another word writes another place. -/
theorem Call.place?_ne_of_label {request : Call} {key : ObjectKey}
    (different : request.kind.label ≠ key.label) : request.place? ≠ some key := by
  have labelled : ∀ {kind : Kind} {named : Option ObjectName}, kind.label ≠ key.label →
      named.map (ObjectKey.of kind) ≠ some key := by
    intro kind named different same
    obtain ⟨name, _, rfl⟩ := Option.map_eq_some_iff.mp same
    exact different rfl
  cases request with
  | get kind namespaceName name => exact nofun
  | create kind object => exact labelled different
  | update kind object => exact labelled different
  | updateStatus gateway => exact labelled different

/-- Whatever an operation does, what was there is replaced at most. -/
theorem Effect.present {before : Memory} {performed : Performed}
    (effect : Effect before performed) {key : ObjectKey}
    (present : (before.object? key).isSome = true) :
    (performed.memory.object? key).isSome = true := by
  cases effect with
  | kept kept _ _ =>
    rw [kept.object? key]
    exact present
  | @wrote written stored after wrote _ =>
    by_cases same : key = written
    · rw [same, wrote.object?_self]
      rfl
    · rw [wrote.object?_other same]
      exact present

namespace Memory

/-! ### Other places -/

/-- A call leaves every place but its own alone. -/
theorem WellKept.answer_object?_other {memory : Memory} (wellKept : WellKept memory)
    {request : Call} {key : ObjectKey} (other : request.place? ≠ some key) :
    (store.answer request memory).2.object? key = memory.object? key := by
  cases request with
  | get kind namespaceName name => rfl
  | create kind object =>
    show (memory.create kind object).2.object? key = memory.object? key
    obtain ⟨cause, fails⟩ | ⟨name, after, named, _, succeeds, wrote, _⟩ :=
      memory.create_cases kind object
    · rw [fails]
    · rw [succeeds]
      exact wrote.object?_other (ObjectKey.ne_of_elsewhere named other)
  | update kind object =>
    show (memory.update kind object).2.object? key = memory.object? key
    obtain ⟨cause, after, fails, kept, _⟩ |
      ⟨name, stored, metadata, status, after, named, _, _, succeeds, wrote, _⟩ :=
      memory.update_cases kind object
    · rw [fails]
      exact kept.object? key
    · rw [succeeds]
      exact wrote.object?_other (ObjectKey.ne_of_elsewhere named other)
  | updateStatus gateway =>
    show (memory.updateStatus gateway).2.object? key = memory.object? key
    obtain ⟨cause, fails⟩ | ⟨name, stored, after, named, _, succeeds, wrote, _⟩ :=
      wellKept.updateStatus_cases gateway
    · rw [fails]
    · rw [succeeds]
      exact wrote.object?_other (ObjectKey.ne_of_elsewhere named other)

/-- A run leaves every place alone that none of its calls writes. -/
theorem Reachable.gives_object?_other {before after : Memory} (reachable : Reachable before)
    {exchanges : List Exchange} (gives : store.Gives before exchanges after) {key : ObjectKey}
    (other : ∀ exchange ∈ exchanges, exchange.call.place? ≠ some key) :
    after.object? key = before.object? key := by
  refine (gives.keeps (fun memory => memory.Reachable ∧ memory.object? key = before.object? key)
    (fun exchange member memory kept => ?_) ⟨reachable, rfl⟩).2
  exact ⟨kept.1.perform (.call exchange.call),
    (kept.1.wellKept.answer_object?_other (other exchange member)).trans kept.2⟩

/-- A run without calls about a kind leaves the objects of that kind alone. -/
theorem Reachable.gives_object?_of_kind {before after : Memory} (reachable : Reachable before)
    {exchanges : List Exchange} (gives : store.Gives before exchanges after) {kind : Kind}
    (alone : kind.Alone) (others : ∀ exchange ∈ exchanges, exchange.call.kind ≠ kind)
    (name : ObjectName) : after.object? (.of kind name) = before.object? (.of kind name) :=
  reachable.gives_object?_other gives fun exchange member =>
    Call.place?_ne_of_label fun same => others exchange member (alone.eq_of_label same)

/-- What was there before a run is there after it. -/
theorem Reachable.gives_present {before after : Memory} (reachable : Reachable before)
    {exchanges : List Exchange} (gives : store.Gives before exchanges after) {key : ObjectKey}
    (present : (before.object? key).isSome = true) : (after.object? key).isSome = true := by
  refine (gives.keeps (fun memory => memory.Reachable ∧ (memory.object? key).isSome = true)
    (fun exchange _ memory kept => ?_) ⟨reachable, present⟩).2
  exact ⟨kept.1.perform (.call exchange.call),
    (kept.1.wellKept.effect (.call exchange.call)).present kept.2⟩

/-! ### Updates -/

/-- An update that succeeds stores its object with the next version, the stored uid and the stored
status. -/
theorem of_update {memory after : Memory} {kind : Kind} {object updated : kind.Object}
    (succeeds : memory.update kind object = (.ok updated, after)) :
    ∃ name stored, kind.objectName? object = some name ∧
      memory.object? (.of kind name) = some stored ∧
      updated = memory.replacement kind stored object ∧
      Wrote memory (.of kind name) ⟨kind, updated⟩ after := by
  obtain ⟨cause, other, fails, -⟩ |
    ⟨name, stored, metadata, status, other, named, found, fresh, result, wrote, -⟩ :=
    memory.update_cases kind object
  · rw [fails] at succeeds
    cases succeeds
  · rw [result] at succeeds
    cases succeeds
    refine ⟨name, stored, named, found, ?_, wrote⟩
    cases injected : memory.conflicts.contains (.of kind name) with
    | true =>
      rw [memory.update_injected named injected] at result
      cases result
    | false =>
      rw [memory.update_fresh named injected found fresh] at result
      exact (Except.ok.inj (congrArg Prod.fst result)).symm

/-! ### Conflicts -/

/-- No conflict waits for an update. -/
def Quiet (memory : Memory) : Prop := memory.conflicts = []

theorem Quiet.notInjected {memory : Memory} (quiet : memory.Quiet) (key : ObjectKey) :
    memory.conflicts.contains key = false := by
  rw [show memory.conflicts = [] from quiet]
  rfl

theorem place_conflicts (memory : Memory) (kind : Kind) (key : ObjectKey)
    (object : kind.Object) : (memory.place kind key object).2.conflicts = memory.conflicts := by
  unfold place
  dsimp only
  split <;> rfl

/-- A call leaves the conflicts alone, or it is an update that settles the one of its place. -/
theorem answer_conflicts (memory : Memory) (request : Call) :
    (store.answer request memory).2.conflicts = memory.conflicts ∨
    ∃ key, request.place? = some key ∧
      (store.answer request memory).2.conflicts = memory.conflicts.filter (· != key) := by
  cases request with
  | get kind namespaceName name => exact Or.inl rfl
  | create kind object =>
    refine Or.inl ?_
    show (memory.create kind object).2.conflicts = memory.conflicts
    unfold create
    split
    · rfl
    · dsimp only
      split
      · rfl
      · exact memory.place_conflicts kind _ object
  | update kind object =>
    show (memory.update kind object).2.conflicts = memory.conflicts ∨ ∃ key, _ ∧
      (memory.update kind object).2.conflicts = memory.conflicts.filter (· != key)
    cases named : kind.objectName? object with
    | none =>
      rw [memory.update_nameless named]
      exact Or.inl rfl
    | some name =>
      cases injected : memory.conflicts.contains (.of kind name) with
      | true =>
        rw [memory.update_injected named injected]
        exact Or.inr ⟨.of kind name, congrArg (Option.map (ObjectKey.of kind)) named, rfl⟩
      | false =>
        refine Or.inl ?_
        simp only [update, named, injected, Bool.false_eq_true, if_false]
        split
        · rfl
        · split <;> rfl
  | updateStatus gateway =>
    refine Or.inl ?_
    show (memory.updateStatus gateway).2.conflicts = memory.conflicts
    unfold updateStatus
    split
    · rfl
    · dsimp only
      split <;> rfl

/-- A call leaves the conflict of every place but its own alone. -/
theorem answer_conflicts_other (memory : Memory) {request : Call} {key : ObjectKey}
    (other : request.place? ≠ some key) :
    (store.answer request memory).2.conflicts.contains key = memory.conflicts.contains key := by
  obtain same | ⟨settled, place, same⟩ := memory.answer_conflicts request
  · rw [same]
  · have different : key ≠ settled := by
      rintro rfl
      exact other place
    rw [same, Bool.eq_iff_iff, List.contains_iff_mem, List.contains_iff_mem, List.mem_filter]
    exact and_iff_left (bne_iff_ne.mpr different)

/-- A call never adds a conflict. -/
theorem Quiet.answer {memory : Memory} (quiet : memory.Quiet) (request : Call) :
    (store.answer request memory).2.Quiet := by
  obtain same | ⟨settled, -, same⟩ := memory.answer_conflicts request
  · exact same.trans quiet
  · rw [show memory.conflicts = [] from quiet] at same
    exact same

theorem Quiet.gives {before after : Memory} (quiet : before.Quiet) {exchanges : List Exchange}
    (gives : store.Gives before exchanges after) : after.Quiet :=
  gives.keeps Quiet (fun exchange _ _ quiet => quiet.answer exchange.call) quiet

/-- A run leaves the conflict of every place alone that none of its calls writes. -/
theorem gives_conflicts_other {before after : Memory} {exchanges : List Exchange}
    (gives : store.Gives before exchanges after) {key : ObjectKey}
    (other : ∀ exchange ∈ exchanges, exchange.call.place? ≠ some key) :
    after.conflicts.contains key = before.conflicts.contains key := by
  refine gives.keeps (fun memory => memory.conflicts.contains key = before.conflicts.contains key)
    (fun exchange member memory same => ?_) rfl
  exact (memory.answer_conflicts_other (other exchange member)).trans same

/-- Where no conflict waits for it, an update under the name and the version of the stored object
succeeds. -/
theorem update_stored (memory : Memory) {kind : Kind} {stored object : kind.Object}
    {name : ObjectName} (named : kind.objectName? object = some name)
    (notInjected : memory.conflicts.contains (.of kind name) = false)
    (found : memory.object? (.of kind name) = some ⟨kind, stored⟩)
    (version : (kind.metadata object).resourceVersion = (kind.metadata stored).resourceVersion) :
    memory.update kind object = (.ok (memory.replacement kind ⟨kind, stored⟩ object),
      (memory.write (.of kind name) ⟨kind, memory.replacement kind ⟨kind, stored⟩ object⟩).log
        .update (.of kind name)) := by
  refine memory.update_fresh named notInjected found ?_
  have fresh : (kind.metadata object).resourceVersion =
      (Stored.metadata ⟨kind, stored⟩).resourceVersion := version
  unfold isStale
  rw [fresh, bne_self_eq_false, Bool.and_false]

theorem Quiet.update_stored {memory : Memory} (quiet : memory.Quiet) {kind : Kind}
    {stored object : kind.Object} {name : ObjectName}
    (named : kind.objectName? object = some name)
    (found : memory.object? (.of kind name) = some ⟨kind, stored⟩)
    (version : (kind.metadata object).resourceVersion = (kind.metadata stored).resourceVersion) :
    memory.update kind object = (.ok (memory.replacement kind ⟨kind, stored⟩ object),
      (memory.write (.of kind name) ⟨kind, memory.replacement kind ⟨kind, stored⟩ object⟩).log
        .update (.of kind name)) :=
  memory.update_stored named (quiet.notInjected _) found version

/-- An object that is stored is replaced by the given one with the next version, the stored uid
and the stored status. -/
theorem replacement_stored (memory : Memory) {kind : Kind} (stored object : kind.Object) :
    memory.replacement kind ⟨kind, stored⟩ object =
      kind.withStatusOf (kind.withMetadata object
        { memory.stamp (kind.metadata object) with uid := (kind.metadata stored).uid }) stored := by
  unfold replacement
  dsimp only
  rw [Stored.readAs_self]
  rfl

end Memory

end GatewayOperator
