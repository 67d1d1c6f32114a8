/-
This file follows a store in memory from its start. Its clients put objects into it, make calls,
let a later update fail, and clear the log, in any order. Every such operation either leaves the
objects alone or writes one object with the next version, so the invariant of the store holds in
every state that is reached.
-/

import GatewayOperator.Proofs.Store.Memory
import GatewayOperator.Proofs.Store.Exchange

namespace GatewayOperator

/-- What a client does to a store in memory. -/
inductive Operation where
  | seed (kind : Kind) (object : kind.Object)
  | call (request : Call)
  | injectConflict (key : ObjectKey)
  | clearWrites

/-- What comes of an operation: the object the client gets back, the place that was written, and
the memory afterwards. -/
structure Performed where
  returned : Option Stored
  written : Option ObjectKey
  memory : Memory

/-- Whether a call writes when it succeeds. -/
def Call.writes : Call → Bool
  | get .. => false
  | create .. | update .. | updateStatus .. => true

/-- What comes of a call with an answer. A write that succeeds gives back what it stored. -/
def Performed.ofAnswer {kind : Kind} (writes : Bool)
    (answered : Except StoreError kind.Object × Memory) : Performed :=
  let returned := answered.1.toOption.map (Stored.mk kind)
  ⟨returned, if writes then returned.bind Stored.key? else none, answered.2⟩

/-- Does an operation. -/
def Operation.perform (memory : Memory) : Operation → Performed
  | seed kind object => .ofAnswer true (memory.seed kind object)
  | call request => .ofAnswer request.writes (Memory.store.answer request memory)
  | injectConflict key => ⟨none, none, memory.injectConflict key⟩
  | clearWrites => ⟨none, none, memory.clearWrites⟩

/-- The states of a store in memory that its clients can bring it to. -/
inductive Memory.Reachable : Memory → Prop where
  | empty : Reachable {}
  | perform {memory : Memory} (reachable : Reachable memory) (operation : Operation) :
    Reachable (operation.perform memory).memory

/-! ### What an operation can do -/

/-- An operation leaves the objects alone and gives back one of them or none, or it writes the
object it gives back. -/
inductive Effect (before : Memory) : Performed → Prop where
  | kept {returned : Option Stored} {after : Memory} (kept : before.Kept after)
    (writes : after.writes.Sublist before.writes)
    (current : ∀ stored, returned = some stored → stored.kind.Alone →
      ∃ key, stored.key? = some key ∧ before.object? key = some stored) :
    Effect before ⟨returned, none, after⟩
  | wrote {key : ObjectKey} {stored : Stored} {after : Memory}
    (wrote : before.Wrote key stored after)
    (writes : after.writes = before.writes ∨ ∃ verb,
      after.writes = before.writes ++ [⟨verb, key⟩] ∧
        (verb = .create → before.object? key = none)) :
    Effect before ⟨some stored, some key, after⟩

/-- A call that failed and left the objects alone. -/
theorem Effect.failed {before after : Memory} {kind : Kind} (writes : Bool) {cause : StoreError}
    {answered : Except StoreError kind.Object × Memory} (fails : answered = (.error cause, after))
    (kept : before.Kept after) (log : after.writes = before.writes) :
    Effect before (.ofAnswer writes answered) := by
  subst fails
  have effect : Effect before ⟨none, none, after⟩ :=
    .kept kept (log ▸ List.Sublist.refl _) fun _ returned => nomatch returned
  cases writes <;> exact effect

/-- A call that wrote the object it answers. -/
theorem Effect.succeeded {before after : Memory} {kind : Kind} {object : kind.Object}
    {key : ObjectKey} {answered : Except StoreError kind.Object × Memory}
    (succeeds : answered = (.ok object, after)) (wrote : before.Wrote key ⟨kind, object⟩ after)
    (log : after.writes = before.writes ∨ ∃ verb,
      after.writes = before.writes ++ [⟨verb, key⟩] ∧
        (verb = .create → before.object? key = none)) :
    Effect before (.ofAnswer true answered) := by
  subst succeeds
  have place : (Performed.ofAnswer true ((.ok object, after) : Except StoreError kind.Object ×
      Memory)) = ⟨some ⟨kind, object⟩, some key, after⟩ :=
    congrArg (Performed.mk _ · after) wrote.place
  rw [place]
  exact .wrote wrote log

namespace Memory

/-- Every operation on a well-kept memory has one of the effects. -/
theorem WellKept.effect {memory : Memory} (wellKept : WellKept memory) (operation : Operation) :
    Effect memory (operation.perform memory) := by
  cases operation with
  | seed kind object =>
    obtain ⟨cause, fails⟩ | ⟨name, after, _, succeeds, wrote, log⟩ :=
      memory.seed_cases kind object
    · exact .failed true fails (.refl memory) rfl
    · exact .succeeded succeeds wrote (Or.inl log)
  | injectConflict key =>
    refine .kept ?_ ?_ fun _ returned => nomatch returned
    · unfold injectConflict
      split
      · exact .refl memory
      · exact ⟨rfl, rfl⟩
    · unfold injectConflict
      split <;> exact List.Sublist.refl _
  | clearWrites =>
    exact .kept ⟨rfl, rfl⟩ (List.nil_sublist _) fun _ returned => nomatch returned
  | call request =>
    cases request with
    | get kind namespaceName name =>
      refine .kept (.refl memory) (List.Sublist.refl _) fun stored returned alone => ?_
      obtain ⟨object, answered, rfl⟩ := Option.map_eq_some_iff.mp returned
      cases got : memory.get kind ⟨namespaceName, name⟩ with
      | error cause =>
        have none : (memory.get kind ⟨namespaceName, name⟩).toOption = some object := answered
        rw [got] at none
        cases none
      | ok present =>
        have some : (memory.get kind ⟨namespaceName, name⟩).toOption = some object := answered
        rw [got] at some
        cases some
        have found := wellKept.object?_of_get alone got
        exact ⟨_, wellKept.place _ _ found, found⟩
    | create kind object =>
      obtain ⟨cause, fails⟩ | ⟨name, after, _, free, succeeds, wrote, log⟩ :=
        memory.create_cases kind object
      · exact .failed true fails (.refl memory) rfl
      · exact .succeeded succeeds wrote (Or.inr ⟨_, log, fun _ => free⟩)
    | update kind object =>
      obtain ⟨cause, after, fails, kept, log⟩ |
        ⟨name, stored, metadata, other, after, _, _, _, succeeds, wrote, log⟩ :=
        memory.update_cases kind object
      · exact .failed true fails kept log
      · exact .succeeded succeeds wrote (Or.inr ⟨_, log, nofun⟩)
    | updateStatus gateway =>
      obtain ⟨cause, fails⟩ | ⟨name, stored, after, _, _, succeeds, wrote, log⟩ :=
        wellKept.updateStatus_cases gateway
      · exact .failed true fails (.refl memory) rfl
      · exact .succeeded succeeds wrote (Or.inr ⟨_, log, nofun⟩)

end Memory

/-- Every effect keeps the invariant. -/
theorem Effect.wellKept {before : Memory} {performed : Performed} (effect : Effect before performed)
    (wellKept : before.WellKept) : performed.memory.WellKept := by
  cases effect with
  | kept kept writes _ => exact wellKept.kept kept writes
  | wrote wrote writes => exact wellKept.wrote wrote writes

namespace Memory

/-- The invariant holds in every state that is reached. -/
theorem Reachable.wellKept {memory : Memory} (reachable : Reachable memory) : WellKept memory := by
  induction reachable with
  | empty => exact wellKept_empty
  | perform reachable operation inductionHypothesis =>
    exact (inductionHypothesis.effect operation).wellKept inductionHypothesis

/-- The calls of a program lead from reachable states to reachable states. -/
theorem Reachable.gives {exchanges : List Exchange} {before after : Memory}
    (reachable : Reachable before) (gives : store.Gives before exchanges after) :
    Reachable after :=
  gives.keeps Reachable (fun exchange _ _ reached => reached.perform (.call exchange.call))
    reachable

end Memory

end GatewayOperator
