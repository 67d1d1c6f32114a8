/-
This file describes a run of a program by its exchanges: the calls it makes, each with the answer
it gets. A program is a tree, so whatever a store answers picks one path of it, and a path is
known from its exchanges and its result. Nothing is said of where the answers come from, so what
holds of every path holds on every store. The paths of a composed program are put together from
those of its parts, and a run on a store is the one path on which the answers are the store's.
-/

import GatewayOperator.Reconcile.Secrets

namespace GatewayOperator

/-- A call with the answer it got. -/
structure Exchange where
  call : Call
  answer : call.Answer

namespace Program

variable {Result Other State : Type}

/-! ### Paths -/

/-- A program comes to its end after some exchanges. What it observes on its way is left out. -/
def Ends : Program Result → List Exchange → Result → Prop
  | done value, exchanges, result => exchanges = [] ∧ result = value
  | call request next, exchanges, result =>
    ∃ answer rest, exchanges = ⟨request, answer⟩ :: rest ∧ (next answer).Ends rest result
  | observe _ next, exchanges, result => next.Ends exchanges result

/-- The exchanges of two programs run one after the other are those of the first followed by
those of the second. -/
theorem ends_bind (program : Program Result) (next : Result → Program Other)
    (exchanges : List Exchange) (result : Other) :
    (program >>= next).Ends exchanges result ↔
      ∃ first rest value, exchanges = first ++ rest ∧ program.Ends first value ∧
        (next value).Ends rest result := by
  induction program generalizing exchanges with
  | done value =>
    constructor
    · intro ends
      exact ⟨[], exchanges, value, rfl, ⟨rfl, rfl⟩, ends⟩
    · rintro ⟨first, rest, other, rfl, ⟨rfl, rfl⟩, ends⟩
      exact ends
  | call request following inductionHypothesis =>
    constructor
    · rintro ⟨answer, others, rfl, ends⟩
      obtain ⟨first, rest, value, rfl, firstEnds, restEnds⟩ :=
        (inductionHypothesis answer others).mp ends
      exact ⟨⟨request, answer⟩ :: first, rest, value, rfl, ⟨answer, first, rfl, firstEnds⟩,
        restEnds⟩
    · rintro ⟨first, rest, value, rfl, ⟨answer, others, rfl, firstEnds⟩, restEnds⟩
      exact ⟨answer, others ++ rest, rfl,
        (inductionHypothesis answer _).mpr ⟨others, rest, value, rfl, firstEnds, restEnds⟩⟩
  | observe observation following inductionHypothesis => exact inductionHypothesis exchanges

/-- Every program has an end, however its calls are answered. -/
theorem exists_ends (program : Program Result) :
    ∃ exchanges result, program.Ends exchanges result := by
  induction program with
  | done value => exact ⟨[], value, rfl, rfl⟩
  | call request next inductionHypothesis =>
    obtain ⟨exchanges, result, ends⟩ := inductionHypothesis (.error (.missingName ""))
    exact ⟨_, result, _, exchanges, rfl, ends⟩
  | observe observation next inductionHypothesis => exact inductionHypothesis

/-! ### Runs on a store -/

/-- The exchanges of a program that is run on a store. -/
def exchanges (store : Store State) : Program Result → State → List Exchange
  | done _, _ => []
  | call request next, state =>
    let answered := store.answer request state
    ⟨request, answered.1⟩ :: (next answered.1).exchanges store answered.2
  | observe _ next, state => next.exchanges store state

/-- A run on a store is one of the paths of the program. -/
theorem ends_run (store : Store State) (program : Program Result) (state : State) :
    program.Ends (program.exchanges store state) (program.run store state).result := by
  induction program generalizing state with
  | done value => exact ⟨rfl, rfl⟩
  | call request next inductionHypothesis =>
    exact ⟨_, _, rfl, inductionHypothesis _ _⟩
  | observe observation next inductionHypothesis => exact inductionHypothesis state

end Program

/-- A store gives the answers of some exchanges one after the other and is left in a state. -/
def Store.Gives {State : Type} (store : Store State) : State → List Exchange → State → Prop
  | state, [], after => after = state
  | state, ⟨request, answer⟩ :: rest, after =>
    (store.answer request state).1 = answer ∧
      store.Gives (store.answer request state).2 rest after

/-- Exchanges are given one part after the other. -/
theorem Store.gives_append {State : Type} (store : Store State) (state after : State)
    (first rest : List Exchange) :
    store.Gives state (first ++ rest) after ↔
      ∃ middle, store.Gives state first middle ∧ store.Gives middle rest after := by
  induction first generalizing state with
  | nil => exact ⟨fun gives => ⟨state, rfl, gives⟩, fun ⟨_, same, gives⟩ => same ▸ gives⟩
  | cons exchange first inductionHypothesis =>
    simp only [List.cons_append, Store.Gives, inductionHypothesis, and_assoc, exists_and_left]

/-- What every call keeps is kept by all of them. -/
theorem Store.Gives.keeps {State : Type} {store : Store State} {exchanges : List Exchange}
    {state after : State} (gives : store.Gives state exchanges after) (Property : State → Prop)
    (step : ∀ exchange ∈ exchanges, ∀ state, Property state →
      Property (store.answer exchange.call state).2)
    (holds : Property state) : Property after := by
  induction exchanges generalizing state with
  | nil => exact gives ▸ holds
  | cons exchange exchanges inductionHypothesis =>
    rw [List.forall_mem_cons] at step
    exact inductionHypothesis gives.2 step.2 (step.1 state holds)

namespace Program

variable {First Result State : Type}

/-- A program that follows another one goes on where that one ended. -/
theorem run_bind (store : Store State) (program : Program First)
    (next : First → Program Result) (state : State) :
    let first := program.run store state
    let rest := (next first.result).run store first.state
    (program >>= next).run store state =
      ⟨rest.result, rest.state, first.observations ++ rest.observations⟩ := by
  induction program generalizing state with
  | done value => rfl
  | call request following inductionHypothesis => exact inductionHypothesis _ _
  | observe observation following inductionHypothesis =>
    show { (following >>= next).run store state with
      observations := observation :: ((following >>= next).run store state).observations } = _
    rw [inductionHypothesis]
    rfl

/-- The answers of a run are those of the store. -/
theorem gives_exchanges (store : Store State) (program : Program Result) (state : State) :
    store.Gives state (program.exchanges store state) (program.run store state).state := by
  induction program generalizing state with
  | done value => rfl
  | call request next inductionHypothesis => exact ⟨rfl, inductionHypothesis _ _⟩
  | observe observation next inductionHypothesis => exact inductionHypothesis state

/-- A path whose answers are the store's is the run on it. -/
theorem run_eq_of_gives {store : Store State} {program : Program Result} {state after : State}
    {exchanges : List Exchange} {result : Result} (ends : program.Ends exchanges result)
    (gives : store.Gives state exchanges after) :
    (program.run store state).result = result ∧ (program.run store state).state = after ∧
      program.exchanges store state = exchanges := by
  induction program generalizing state exchanges with
  | done value =>
    obtain ⟨rfl, rfl⟩ := ends
    exact ⟨rfl, gives.symm, rfl⟩
  | call request next inductionHypothesis =>
    obtain ⟨answer, rest, rfl, ends⟩ := ends
    obtain ⟨rfl, gives⟩ := gives
    obtain ⟨sameResult, sameState, sameExchanges⟩ := inductionHypothesis _ ends gives
    exact ⟨sameResult, sameState, congrArg (List.cons _) sameExchanges⟩
  | observe observation next inductionHypothesis => exact inductionHypothesis ends gives

end Program

/-! ### Attempts -/

namespace Attempt

variable {First Result State : Type}

/-- What follows an attempt that failed does not run. -/
theorem run_bind_of_error {store : Store State} {attempt : Attempt First} {state : State}
    {cause : ReconcileError} (fails : (attempt.run.run store state).result = .error cause)
    (next : First → Attempt Result) :
    ((attempt >>= next).run.run store state).result = .error cause ∧
      ((attempt >>= next).run.run store state).state = (attempt.run.run store state).state := by
  rw [ExceptT.run_bind, Program.run_bind]
  dsimp only
  rw [fails]
  exact ⟨rfl, rfl⟩

/-- What follows an attempt that succeeded goes on where it ended. -/
theorem run_bind_of_ok {store : Store State} {attempt : Attempt First} {state : State}
    {value : First} (succeeds : (attempt.run.run store state).result = .ok value)
    (next : First → Attempt Result) :
    ((attempt >>= next).run.run store state).result =
        ((next value).run.run store (attempt.run.run store state).state).result ∧
      ((attempt >>= next).run.run store state).state =
        ((next value).run.run store (attempt.run.run store state).state).state := by
  rw [ExceptT.run_bind, Program.run_bind]
  dsimp only
  rw [succeeds]
  exact ⟨rfl, rfl⟩

/-- An attempt comes to its end after some exchanges. -/
def Ends (attempt : Attempt Result) (exchanges : List Exchange)
    (result : Except ReconcileError Result) : Prop :=
  Program.Ends attempt.run exchanges result

theorem ends_fail (cause : ReconcileError) (exchanges : List Exchange)
    (result : Except ReconcileError Result) :
    (fail cause).Ends exchanges result ↔ exchanges = [] ∧ result = .error cause := Iff.rfl

/-- The second of two attempts runs only when the first one did not fail. -/
theorem ends_bind (attempt : Attempt First) (next : First → Attempt Result)
    (exchanges : List Exchange) (result : Except ReconcileError Result) :
    Ends (attempt >>= next) exchanges result ↔
      (∃ cause, attempt.Ends exchanges (.error cause) ∧ result = .error cause) ∨
      ∃ first rest value, exchanges = first ++ rest ∧ attempt.Ends first (.ok value) ∧
        (next value).Ends rest result := by
  unfold Ends
  rw [ExceptT.run_bind, Program.ends_bind]
  constructor
  · rintro ⟨first, rest, cause | value, rfl, firstEnds, restEnds⟩
    · obtain ⟨rfl, rfl⟩ := restEnds
      rw [List.append_nil]
      exact Or.inl ⟨cause, firstEnds, rfl⟩
    · exact Or.inr ⟨first, rest, value, rfl, firstEnds, restEnds⟩
  · rintro (⟨cause, ends, rfl⟩ | ⟨first, rest, value, rfl, firstEnds, restEnds⟩)
    · exact ⟨exchanges, [], .error cause, (List.append_nil _).symm, ends, rfl, rfl⟩
    · exact ⟨first, rest, .ok value, rfl, firstEnds, restEnds⟩

theorem ends_ofExcept_bind (value : Except ReconcileError First) (next : First → Attempt Result)
    (exchanges : List Exchange) (result : Except ReconcileError Result) :
    Ends (ofExcept value >>= next) exchanges result ↔
      (∃ cause, value = .error cause ∧ exchanges = [] ∧ result = .error cause) ∨
      ∃ first, value = .ok first ∧ (next first).Ends exchanges result := by
  constructor
  · intro ends
    cases value with
    | error cause => exact Or.inl ⟨cause, rfl, ends⟩
    | ok first => exact Or.inr ⟨first, rfl, ends⟩
  · rintro (⟨cause, rfl, ends⟩ | ⟨first, rfl, ends⟩)
    · exact ends
    · exact ends

theorem ends_answer_bind (request : Call) (next : request.Answer → Attempt Result)
    (exchanges : List Exchange) (result : Except ReconcileError Result) :
    Ends (Attempt.answer request >>= next) exchanges result ↔
      ∃ answer rest, exchanges = ⟨request, answer⟩ :: rest ∧ (next answer).Ends rest result :=
  Iff.rfl

theorem ends_ask_bind (request : Call) (next : request.kind.Object → Attempt Result)
    (exchanges : List Exchange) (result : Except ReconcileError Result) :
    Ends (ask request >>= next) exchanges result ↔
      (∃ cause, exchanges = [⟨request, .error cause⟩] ∧ result = .error (.store cause)) ∨
      ∃ object rest, exchanges = ⟨request, .ok object⟩ :: rest ∧
        (next object).Ends rest result := by
  constructor
  · rintro ⟨cause | object, rest, rfl, ends⟩
    · obtain ⟨rfl, rfl⟩ := ends
      exact Or.inl ⟨cause, rfl, rfl⟩
    · exact Or.inr ⟨object, rest, rfl, ends⟩
  · rintro (⟨cause, rfl, rfl⟩ | ⟨object, rest, rfl, ends⟩)
    · exact ⟨_, _, rfl, rfl, rfl⟩
    · exact ⟨_, rest, rfl, ends⟩

end Attempt

end GatewayOperator
