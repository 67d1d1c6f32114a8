/-
This file says what the counters are worth after any history. A pass and its report note only
objects and statuses, as they write them; how the pass ended is noted once, after the report and
whether or not that could be written. So the counters of objects and statuses follow the log of the
store, and the counters of endings follow the results of the passes, on whatever store they run.
-/

import GatewayOperator.Controller.Visit
import GatewayOperator.Proofs.Metrics.Tally
import GatewayOperator.Proofs.Reconcile.Idempotence
import GatewayOperator.Proofs.Reconcile.Turn

namespace GatewayOperator

/-! ### What is noted before the end -/

/-- Whether an observation is of an object or of a status. -/
def Observation.isOfWrite : Observation → Bool
  | created _ | updated _ | statusWritten .. => true
  | succeeded .. | failed .. | requeued .. | erred .. => false

/-- A program that observes writes only, however its calls are answered. -/
def Program.NotesWrites {Result : Type} : Program Result → Prop
  | done _ => True
  | call _ next => ∀ answer, (next answer).NotesWrites
  | observe observation next => observation.isOfWrite = true ∧ next.NotesWrites

namespace Program.NotesWrites

variable {First Result State : Type}

theorem bind {program : Program First} {next : First → Program Result}
    (first : program.NotesWrites) (rest : ∀ value, (next value).NotesWrites) :
    (program >>= next).NotesWrites := by
  induction program with
  | done value => exact rest value
  | call request following inductionHypothesis =>
    exact fun answer => inductionHypothesis answer (first answer)
  | observe observation following inductionHypothesis =>
    exact ⟨first.1, inductionHypothesis first.2⟩

/-- On no store does such a program observe anything else. -/
theorem of_mem_run {program : Program Result} (notes : program.NotesWrites)
    (store : Store State) (state : State) :
    ∀ observation ∈ (program.run store state).observations, observation.isOfWrite = true := by
  induction program generalizing state with
  | done value => exact fun _ member => nomatch member
  | call request next inductionHypothesis => exact inductionHypothesis _ (notes _) _
  | observe observation next inductionHypothesis =>
    exact List.forall_mem_cons.mpr ⟨notes.1, inductionHypothesis notes.2 state⟩

theorem updateChild (kind : Kind) (rules : List (FieldRule kind.Object))
    (existing desired : kind.Object) :
    (updateChild kind rules existing desired).run.NotesWrites := by
  unfold GatewayOperator.updateChild
  dsimp only
  split
  · exact True.intro
  · rintro (cause | object)
    · exact True.intro
    · exact ⟨rfl, True.intro⟩

theorem createChild (kind : Kind) (desired : kind.Object) :
    (createChild kind desired).run.NotesWrites := by
  rintro (cause | object)
  · exact True.intro
  · exact ⟨rfl, True.intro⟩

theorem pass (policy : ReplicaPolicy) (gateway : Gateway) : (pass policy gateway).NotesWrites :=
  Compositional.pass ⟨fun _ => True.intro, bind, fun _ _ => True.intro, createChild, updateChild⟩
    policy gateway

theorem report (now : String) (gateway : Gateway) (result : Except ReconcileError Outcome) :
    (report now gateway result).NotesWrites := by
  unfold GatewayOperator.report
  split
  · exact True.intro
  · unfold writeCondition
    split
    · rintro (cause | object)
      · exact True.intro
      · exact ⟨rfl, True.intro⟩
    · exact True.intro

end Program.NotesWrites

/-! ### Series -/

namespace Series

/-- The series of endings do not count writes. -/
theorem value_eq_zero {series : Series} {observations : List Observation}
    (ofEndings : series.family = .reconciliations ∨ series.family = .requeues)
    (ofWrites : ∀ observation ∈ observations, observation.isOfWrite = true) :
    series.value observations = 0 := by
  refine List.countP_eq_zero.mpr fun counted member same => ?_
  obtain ⟨observation, observed, member⟩ := List.mem_flatMap.mp member
  have family : series.family = counted.family := by
    simpa using (Bool.and_eq_true_iff.mp same).1
  cases observation with
  | created | updated | statusWritten =>
    rw [List.mem_singleton.mp member] at family
    rcases ofEndings with isEnding | isEnding <;> exact nomatch isEnding.symm.trans family
  | succeeded | failed | requeued | erred => cases ofWrites _ observed

/-- What each of some histories counts once or not at all is counted as often as it should. -/
theorem value_flatMap {History : Type} (series : Series) (observed : History → List Observation)
    (counts : History → Bool)
    (each : ∀ history, series.value (observed history) = if counts history then 1 else 0)
    (histories : List History) :
    series.value (histories.flatMap observed) = histories.countP counts := by
  induction histories with
  | nil => rfl
  | cons history histories inductionHypothesis =>
    rw [List.flatMap_cons, value_append, each, inductionHypothesis, List.countP_cons, Nat.add_comm]

end Series

/-! ### Passes with their reports -/

/-- A pass that is followed by its report, from the memory it starts at. -/
structure ReportedPass where
  policy : ReplicaPolicy
  gateway : Gateway
  now : String
  before : Memory

namespace ReportedPass

/-- The pass and the report. -/
def program (step : ReportedPass) : Program (Except StoreError Bool) := do
  let ended ← pass step.policy step.gateway
  report step.now ended.gateway ended.result

/-- How the pass and the report end when nobody steps in. -/
def ended (step : ReportedPass) : Ended Memory (Except StoreError Bool) :=
  step.program.run Memory.store step.before

/-- The writes of the pass and of the report, each with the memory it left. -/
def writes (step : ReportedPass) : List LoggedWrite := step.program.logged step.before

theorem tally (step : ReportedPass) : Tally step.ended.observations step.writes :=
  Program.Tallied.bind (.pass step.policy step.gateway)
    (fun ended => .report step.now ended.gateway ended.result) step.before

theorem tally_flatMap (steps : List ReportedPass) :
    Tally (steps.flatMap (·.ended.observations)) (steps.flatMap writes) := by
  induction steps with
  | nil => exact .nil
  | cons step steps inductionHypothesis => exact step.tally.append inductionHypothesis

end ReportedPass

/-! ### Results -/

/-- How a pass with a result ended. -/
def PassEnding.ofResult : Except ReconcileError Outcome → PassEnding
  | .ok .done => success
  | .ok (.requeue _) => requeue
  | .error _ => error

/-- A turn of the operator to a gateway, from the state of the store it starts at. -/
structure Attendance (State : Type) where
  config : Config
  clock : ClockReading
  gateway : Gateway
  state : State

namespace Attendance

variable {State : Type} (store : Store State) (attendance : Attendance State)

/-- How the pass, its report and its measurement end. -/
def ended : Ended State (Except ReconcileError Nat) :=
  (reconcileAndReport attendance.config attendance.clock attendance.gateway).run store
    attendance.state

/-- The result of the pass. -/
def result : Except ReconcileError Outcome :=
  ((pass attendance.config.replicaPolicy attendance.gateway).run store
    attendance.state).result.result

/-- Whether the pass ended in a way. -/
def endedAs (ending : PassEnding) : Bool :=
  PassEnding.ofResult (attendance.result store) = ending

/-- Whether the pass stopped for a reason of a word. -/
def stoppedFor (word : String) : Bool :=
  (requeueReason? (attendance.result store)).map RequeueReason.word = some word

/-- The end of the pass is observed once, after writes. -/
theorem exists_observations :
    ∃ before, (∀ observation ∈ before, observation.isOfWrite = true) ∧
      (attendance.ended store).observations =
        before ++ [.ofResult attendance.clock.elapsed (attendance.result store)] := by
  unfold ended reconcileAndReport
  simp only [Program.run_bind]
  refine ⟨_, ?_, (List.append_assoc _ _ _).symm⟩
  exact List.forall_mem_append.mpr ⟨(Program.NotesWrites.pass _ _).of_mem_run store _,
    (Program.NotesWrites.report _ _ _).of_mem_run store _⟩

/-- What the operator answers is the result of the pass, whatever became of the report. -/
theorem ended_result :
    (attendance.ended store).result =
      (attendance.result store).map (Outcome.requeueSeconds attendance.config.resyncSeconds) := by
  unfold ended reconcileAndReport
  simp only [Program.run_bind]
  rfl

theorem value_eq {series : Series}
    (ofEndings : series.family = .reconciliations ∨ series.family = .requeues) :
    series.value (attendance.ended store).observations =
      series.value [.ofResult attendance.clock.elapsed (attendance.result store)] := by
  obtain ⟨before, ofWrites, observations⟩ := attendance.exists_observations store
  rw [observations, Series.value_append, Series.value_eq_zero ofEndings ofWrites, Nat.zero_add]

theorem value_reconciliations (ending : PassEnding) :
    (Series.reconciliations gatewayKind ending).value (attendance.ended store).observations =
      if attendance.endedAs store ending then 1 else 0 := by
  unfold endedAs
  rw [attendance.value_eq store (Or.inl rfl)]
  obtain cause | (_ | reason) := attendance.result store
  · cases ending <;> rfl
  · cases ending <;> rfl
  · cases ending <;> rfl

theorem value_requeues (word : String) :
    (Series.requeues gatewayKind word).value (attendance.ended store).observations =
      if attendance.stoppedFor store word then 1 else 0 := by
  unfold stoppedFor
  rw [attendance.value_eq store (Or.inr rfl)]
  obtain cause | (_ | reason) := attendance.result store
  · rfl
  · rfl
  · simp [Series.value, Observation.ofResult, Observation.series, Series.requeues,
      Series.reconciliations, Series.isSame, Series.key, requeueReason?, eq_comm]

end Attendance

/-- Every pass ended in one of the three ways. -/
theorem Attendance.countP_endedAs {State : Type} (store : Store State)
    (attendances : List (Attendance State)) :
    attendances.countP (·.endedAs store .success) + attendances.countP (·.endedAs store .error) +
      attendances.countP (·.endedAs store .requeue) = attendances.length := by
  induction attendances with
  | nil => rfl
  | cons attendance attendances inductionHypothesis =>
    simp only [List.countP_cons, List.length_cons, ← inductionHypothesis, endedAs]
    cases PassEnding.ofResult (attendance.result store) <;> simp <;> omega

/-- The counters agree with the log and with the results, whatever was observed earlier. Over any
passes with their reports, each on a memory of its own, the created and the updated objects are the
records of the log, and the reported statuses are those that the store has after each write of a
status. Over any turns on any store, the endings are the results of the passes, each counted
once. -/
theorem counters_agree {State : Type} (store : Store State) (earlier : List Observation)
    (steps : List ReportedPass) (attendances : List (Attendance State)) :
    (let later := earlier ++ steps.flatMap (·.ended.observations)
      let writes := steps.flatMap ReportedPass.writes
      (∀ step ∈ steps,
        step.ended.state.writes = step.before.writes ++ step.writes.map LoggedWrite.record) ∧
      (∀ kind : Kind, kind.isChild = true →
        (Series.resourcesCreated kind.label).value later =
          (Series.resourcesCreated kind.label).value earlier +
            writes.countP (fun write => write.record.isOf .create kind) ∧
        (Series.resourcesUpdated kind.label).value later =
          (Series.resourcesUpdated kind.label).value earlier +
            writes.countP (fun write => write.record.isOf .update kind)) ∧
      ∀ ready, (Series.statusUpdates gatewayKind ready).value later =
        (Series.statusUpdates gatewayKind ready).value earlier + writes.countP (·.reports ready)) ∧
    (let later := earlier ++ attendances.flatMap fun attendance =>
        (attendance.ended store).observations
      let endings := fun ending => attendances.countP (·.endedAs store ending)
      (∀ ending, (Series.reconciliations gatewayKind ending).value later =
        (Series.reconciliations gatewayKind ending).value earlier + endings ending) ∧
      endings .success + endings .error + endings .requeue = attendances.length ∧
      (∀ word, (Series.requeues gatewayKind word).value later =
        (Series.requeues gatewayKind word).value earlier +
          attendances.countP (·.stoppedFor store word)) ∧
      ∀ attendance ∈ attendances, (attendance.ended store).result =
        (attendance.result store).map
          (Outcome.requeueSeconds attendance.config.resyncSeconds)) := by
  have tally := ReportedPass.tally_flatMap steps
  refine ⟨⟨fun step _ => step.program.writes_run step.before, fun kind isChild => ⟨?_, ?_⟩,
    fun ready => ?_⟩, fun ending => ?_, Attendance.countP_endedAs store attendances, fun word => ?_,
    fun attendance _ => attendance.ended_result store⟩
  · rw [Series.value_append, tally.created kind isChild]
  · rw [Series.value_append, tally.updated kind isChild]
  · rw [Series.value_append, tally.reported ready]
  · rw [Series.value_append, Series.value_flatMap _ _ _ fun attendance =>
      attendance.value_reconciliations store ending]
  · rw [Series.value_append, Series.value_flatMap _ _ _ fun attendance =>
      attendance.value_requeues store word]

/-- A pass over the stray Deployment updates it, creates the other two objects and reports that it
converged. -/
theorem edge_pass_is_counted :
    let step : ReportedPass := ⟨.enforce, storedEdgeGateway, "noon", edgeMemory⟩
    let observed := step.ended.observations
    (Series.resourcesCreated Kind.service.label).value observed = 1 ∧
    (Series.resourcesUpdated Kind.deployment.label).value observed = 1 ∧
    (Series.resourcesCreated Kind.deployment.label).value observed = 0 ∧
    (Series.statusUpdates gatewayKind statusTrue).value observed = 1 := by
  intro step observed
  obtain ⟨⟨-, agree⟩, -⟩ := counters_agree Memory.store [] [step] []
  have writes : (step.writes.countP fun write => write.record.isOf .create .service) = 1 ∧
      (step.writes.countP fun write => write.record.isOf .update .deployment) = 1 ∧
      (step.writes.countP fun write => write.record.isOf .create .deployment) = 0 ∧
      step.writes.countP (·.reports statusTrue) = 1 := by decide +kernel
  have all : [] ++ [step].flatMap (·.ended.observations) = observed := List.append_nil _
  have logged : [step].flatMap ReportedPass.writes = step.writes := List.append_nil _
  rw [all, logged] at agree
  clear_value observed
  obtain ⟨service, updated, notCreated, status⟩ := writes
  refine ⟨?_, ?_, ?_, ?_⟩
  · rw [(agree.1 .service rfl).1, service]
    rfl
  · rw [(agree.1 .deployment rfl).2, updated]
    rfl
  · rw [(agree.1 .deployment rfl).1, notCreated]
    rfl
  · rw [agree.2 statusTrue, status]
    rfl

end GatewayOperator
