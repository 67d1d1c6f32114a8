/-
This file compares what is counted with what is written. An object is counted as created or updated
next to the call that writes it, and a status as written next to the call that writes that; the log
of the store is kept by the store alone. Call by call the two agree: a call that fails adds neither
to the log nor to a counter, and the calls that are not counted write nothing the counters are
about. So the counters grow by the number of records of a run, whichever way the run ends.
-/

import GatewayOperator.Metrics.Series
import GatewayOperator.Proofs.Reconcile.Parts
import GatewayOperator.Proofs.Status.Conditions
import GatewayOperator.Proofs.Store.Memory

namespace GatewayOperator

/-! ### Writes -/

/-- A write that was logged, and the memory right after it. -/
structure LoggedWrite where
  record : WriteRecord
  after : Memory

/-- Whether a record is of a kind and of a way of writing. -/
def WriteRecord.isOf (verb : WriteVerb) (kind : Kind) (record : WriteRecord) : Bool :=
  record.verb = verb && record.key.label = kind.label

namespace LoggedWrite

/-- The status of the condition `Ready` of the gateway that is stored where was written. -/
def ready? (write : LoggedWrite) : Option String :=
  match write.after.get .gateway ⟨write.record.key.namespaceName, write.record.key.name⟩ with
  | .ok gateway => gateway.ready?.map (·.status)
  | .error _ => none

/-- Whether a status was written, and the condition `Ready` has a value since. -/
def reports (ready : String) (write : LoggedWrite) : Bool :=
  write.record.verb = .updateStatus && write.ready? = some ready

theorem ready?_of_stored {name : ObjectName} {verb : WriteVerb} {after : Memory}
    {gateway : Gateway} {ready : String}
    (stored : after.object? (.of .gateway name) = some ⟨.gateway, gateway⟩)
    (status : gateway.ready?.map (·.status) = some ready) :
    ready? ⟨⟨verb, .of .gateway name⟩, after⟩ = some ready := by
  have got : after.get .gateway name = .ok gateway := Memory.get_found stored
  show (match after.get .gateway name with
    | .ok gateway => gateway.ready?.map (·.status)
    | .error _ => none) = some ready
  rw [got]
  exact status

end LoggedWrite

/-- A condition `Ready` that was written has its status in the gateway. -/
theorem Gateway.ready?_withCondition (gateway : Gateway) {condition : Condition}
    (isReady : condition.kind = readyKind) :
    (gateway.withCondition condition).ready?.map (·.status) = some condition.status := by
  obtain ⟨current, found, -, status, -⟩ :=
    findCondition_updateCondition condition (gateway.status.getD {}).conditions
  rw [isReady] at found
  show (findCondition readyKind _).map _ = _
  rw [found, Option.map_some, status]

namespace Memory

variable {before after : Memory}

/-- The writes that were logged between two states of a memory by one call. -/
def logged (before after : Memory) : List LoggedWrite :=
  (after.writes.drop before.writes.length).map fun record => ⟨record, after⟩

theorem logged_of_same (same : after.writes = before.writes) : before.logged after = [] := by
  unfold logged
  rw [same, List.drop_length]
  rfl

theorem logged_of_append {record : WriteRecord}
    (append : after.writes = before.writes ++ [record]) :
    before.logged after = [⟨record, after⟩] := by
  unfold logged
  rw [append, List.drop_left]
  rfl

/-- A call logs nothing, or it succeeds and logs one write of its own. -/
theorem answer_writes (memory : Memory) (request : Call) :
    (store.answer request memory).2.writes = memory.writes ∨
    ∃ verb name, (store.answer request memory).2.writes =
        memory.writes ++ [⟨verb, .of request.kind name⟩] := by
  cases request with
  | get kind namespaceName name => exact Or.inl rfl
  | create kind object =>
    show (memory.create kind object).2.writes = _ ∨ ∃ verb name,
      (memory.create kind object).2.writes = _
    obtain ⟨cause, fails⟩ | ⟨name, after, -, -, succeeds, -, writes⟩ :=
      memory.create_cases kind object
    · rw [fails]
      exact Or.inl rfl
    · rw [succeeds]
      exact Or.inr ⟨_, name, writes⟩
  | update kind object =>
    show (memory.update kind object).2.writes = _ ∨ ∃ verb name,
      (memory.update kind object).2.writes = _
    obtain ⟨cause, after, fails, -, writes⟩ |
      ⟨name, _, _, _, after, -, -, -, succeeds, -, writes⟩ :=
      memory.update_cases kind object
    · rw [fails]
      exact Or.inl writes
    · rw [succeeds]
      exact Or.inr ⟨_, name, writes⟩
  | updateStatus gateway =>
    show (memory.updateStatus gateway).2.writes = _ ∨ ∃ verb name,
      (memory.updateStatus gateway).2.writes = _
    cases named : Kind.gateway.objectName? gateway with
    | none =>
      rw [memory.updateStatus_nameless named]
      exact Or.inl rfl
    | some name =>
      cases got : memory.get .gateway name with
      | error cause =>
        rw [updateStatus_unread named got]
        exact Or.inl rfl
      | ok stored =>
        rw [updateStatus_read named got]
        exact Or.inr ⟨_, name, rfl⟩

/-- The log only grows. -/
theorem answer_writes_eq (memory : Memory) (request : Call) :
    (store.answer request memory).2.writes =
      memory.writes ++
        (memory.logged (store.answer request memory).2).map LoggedWrite.record := by
  obtain same | ⟨verb, name, append⟩ := memory.answer_writes request
  · rw [logged_of_same same, same]
    exact (List.append_nil _).symm
  · rw [logged_of_append append, append]
    rfl

end Memory

namespace Program

variable {First Result State : Type}

/-- The writes a program adds to the log of a memory, one call after the other. -/
def logged : Program Result → Memory → List LoggedWrite
  | done _, _ => []
  | call request next, memory =>
    let answered := Memory.store.answer request memory
    memory.logged answered.2 ++ (next answered.1).logged answered.2
  | observe _ next, memory => next.logged memory

/-- The writes of a program are what its run adds to the log. -/
theorem writes_run (program : Program Result) (memory : Memory) :
    (program.run Memory.store memory).state.writes =
      memory.writes ++ (program.logged memory).map LoggedWrite.record := by
  induction program generalizing memory with
  | done result => exact (List.append_nil _).symm
  | call request next inductionHypothesis =>
    show ((next _).run Memory.store _).state.writes = _
    rw [inductionHypothesis, memory.answer_writes_eq, logged, List.map_append, List.append_assoc]
  | observe observation next inductionHypothesis => exact inductionHypothesis memory

theorem logged_bind (program : Program First) (next : First → Program Result) (memory : Memory) :
    let first := program.run Memory.store memory
    (program >>= next).logged memory =
      program.logged memory ++ (next first.result).logged first.state := by
  induction program generalizing memory with
  | done value => rfl
  | call request following inductionHypothesis =>
    show _ ++ (following _ >>= next).logged _ = _
    rw [inductionHypothesis, ← List.append_assoc]
    rfl
  | observe observation following inductionHypothesis => exact inductionHypothesis memory

end Program

/-! ### Counters -/

/-- The counters of objects and of status writes agree with the writes. -/
structure Tally (observations : List Observation) (writes : List LoggedWrite) : Prop where
  created (kind : Kind) (isChild : kind.isChild = true) :
    (Series.resourcesCreated kind.label).value observations =
      writes.countP fun write => write.record.isOf .create kind
  updated (kind : Kind) (isChild : kind.isChild = true) :
    (Series.resourcesUpdated kind.label).value observations =
      writes.countP fun write => write.record.isOf .update kind
  reported (ready : String) :
    (Series.statusUpdates gatewayKind ready).value observations = writes.countP (·.reports ready)

namespace Tally

theorem nil : Tally [] [] where
  created _ _ := rfl
  updated _ _ := rfl
  reported _ := rfl

theorem append {earlier later : List Observation} {first rest : List LoggedWrite}
    (before : Tally earlier first) (after : Tally later rest) :
    Tally (earlier ++ later) (first ++ rest) where
  created kind isChild := by
    rw [Series.value_append, List.countP_append, before.created kind isChild,
      after.created kind isChild]
  updated kind isChild := by
    rw [Series.value_append, List.countP_append, before.updated kind isChild,
      after.updated kind isChild]
  reported ready := by
    rw [Series.value_append, List.countP_append, before.reported ready, after.reported ready]

/-- An update of something that is not an object of the gateway is not counted. -/
theorem own {kind : Kind} (notChild : kind.isChild = false) (name : ObjectName)
    (after : Memory) : Tally [] [⟨⟨.update, .of kind name⟩, after⟩] where
  created _ _ := rfl
  updated other isChild := by
    have different : kind.label ≠ other.label := by
      revert notChild isChild
      cases kind <;> cases other <;> decide
    have notOf : (WriteRecord.mk .update (.of kind name)).isOf .update other = false := by
      simp [WriteRecord.isOf, ObjectKey.of, different]
    show 0 = _
    rw [List.countP_cons, notOf]
    rfl
  reported _ := rfl

/-- The series of an object has the word of its kind only. -/
theorem value_labelled (family : CounterFamily) (label word : String) :
    ([Series.mk family word ""].countP (Series.mk family label "").isSame) =
      if word = label then 1 else 0 := by
  by_cases same : word = label
  · rw [if_pos same, same]
    simp [Series.isSame]
  · rw [if_neg same]
    simp [Series.isSame, Series.key, Ne.symm same]

theorem createdChild (kind : Kind) (name : ObjectName) (after : Memory) :
    Tally [.created kind.label] [⟨⟨.create, .of kind name⟩, after⟩] where
  created other _ := by
    refine (value_labelled .resourcesCreated other.label kind.label).trans ?_
    simp [WriteRecord.isOf, ObjectKey.of]
  updated _ _ := rfl
  reported _ := rfl

theorem updatedChild (kind : Kind) (name : ObjectName) (after : Memory) :
    Tally [.updated kind.label] [⟨⟨.update, .of kind name⟩, after⟩] where
  created _ _ := rfl
  updated other _ := by
    refine (value_labelled .resourcesUpdated other.label kind.label).trans ?_
    simp [WriteRecord.isOf, ObjectKey.of]
  reported _ := rfl

/-- A status is counted under the value its condition has in the store. -/
theorem reportedStatus {name : ObjectName} {after : Memory} {ready : String}
    (stored : LoggedWrite.ready? ⟨⟨.updateStatus, .of .gateway name⟩, after⟩ = some ready) :
    Tally [.statusWritten gatewayKind ready]
      [⟨⟨.updateStatus, .of .gateway name⟩, after⟩] where
  created _ _ := rfl
  updated _ _ := rfl
  reported other := by
    have reports : LoggedWrite.reports other ⟨⟨.updateStatus, .of .gateway name⟩, after⟩ =
        decide (ready = other) := by
      simp [LoggedWrite.reports, stored]
    show [Series.statusUpdates gatewayKind ready].countP
      (Series.statusUpdates gatewayKind other).isSame = _
    rw [List.countP_singleton, List.countP_singleton, reports]
    simp [Series.isSame, Series.key, Series.statusUpdates, eq_comm]

end Tally

/-- Whatever memory a program is run on, its counters agree with its writes. -/
def Program.Tallied {Result : Type} (program : Program Result) : Prop :=
  ∀ memory, Tally (program.run Memory.store memory).observations (program.logged memory)

namespace Program.Tallied

variable {First Result : Type}

theorem done (result : Result) : Tallied (.done result) := fun _ => .nil

theorem bind {program : Program First} {next : First → Program Result}
    (first : program.Tallied) (rest : ∀ value, (next value).Tallied) :
    (program >>= next).Tallied := by
  intro memory
  rw [run_bind, logged_bind]
  exact (first memory).append (rest _ _)

/-- A call of a pass for itself is not counted. -/
theorem own {request : Call} (isOwn : request.isOwn = true) : Tallied (.ask request) := by
  intro memory
  show Tally [] (memory.logged (Memory.store.answer request memory).2 ++ [])
  rw [List.append_nil]
  cases request with
  | get kind namespaceName name =>
    show Tally [] (memory.logged memory)
    rw [Memory.logged_of_same rfl]
    exact .nil
  | update kind object =>
    have notChild : kind.isChild = false := by simpa [Call.isOwn] using isOwn
    show Tally [] (memory.logged (memory.update kind object).2)
    obtain ⟨cause, after, fails, -, writes⟩ |
      ⟨name, _, _, _, after, -, -, -, succeeds, -, writes⟩ :=
      memory.update_cases kind object
    · rw [fails, Memory.logged_of_same writes]
      exact .nil
    · rw [succeeds, Memory.logged_of_append writes]
      exact .own notChild name after
  | create | updateStatus => cases isOwn

/-- A call that is counted when it succeeds, and only then. -/
theorem counted (request : Call) {next : request.Answer → Program Result}
    {observation : Observation}
    (failed : ∀ cause, ∃ result, next (.error cause) = .done result)
    (succeeded : ∀ object, ∃ result, next (.ok object) = .observe observation (.done result))
    (agrees : ∀ memory, let answered := Memory.store.answer request memory
      (∃ cause, answered.1 = .error cause ∧ memory.logged answered.2 = []) ∨
      ∃ object, answered.1 = .ok object ∧ Tally [observation] (memory.logged answered.2)) :
    Tallied (.call request next) := by
  intro memory
  show Tally ((next (Memory.store.answer request memory).1).run _ _).observations
    (_ ++ (next (Memory.store.answer request memory).1).logged _)
  obtain ⟨cause, answer, nothing⟩ | ⟨object, answer, agrees⟩ := agrees memory
  · obtain ⟨result, ends⟩ := failed cause
    rw [answer, ends, nothing]
    exact .nil
  · obtain ⟨result, ends⟩ := succeeded object
    rw [answer, ends]
    exact agrees.append .nil

/-- An object that is created is counted when the store has it. -/
theorem createChild (kind : Kind) (desired : kind.Object) :
    Tallied (createChild kind desired).run := by
  refine counted (.create kind desired) (fun _ => ⟨_, rfl⟩) (fun _ => ⟨_, rfl⟩)
    fun memory => ?_
  show (∃ cause, (memory.create kind desired).1 = _ ∧ memory.logged (memory.create kind desired).2
    = _) ∨ ∃ object, (memory.create kind desired).1 = _ ∧ Tally _ (memory.logged
    (memory.create kind desired).2)
  obtain ⟨cause, fails⟩ | ⟨name, after, -, -, succeeds, -, writes⟩ :=
    memory.create_cases kind desired
  · rw [fails]
    exact Or.inl ⟨cause, rfl, Memory.logged_of_same rfl⟩
  · rw [succeeds, Memory.logged_of_append writes]
    exact Or.inr ⟨_, rfl, .createdChild kind name after⟩

/-- An object that is updated is counted when the store has it. -/
theorem updateChild (kind : Kind) (rules : List (FieldRule kind.Object))
    (existing desired : kind.Object) : Tallied (updateChild kind rules existing desired).run := by
  unfold GatewayOperator.updateChild
  dsimp only
  split
  · exact done _
  · refine counted (.update kind _) (fun _ => ⟨_, rfl⟩) (fun _ => ⟨_, rfl⟩)
      fun memory => ?_
    dsimp only [Memory.store]
    obtain ⟨cause, after, fails, -, writes⟩ |
      ⟨name, _, _, _, after, -, -, -, succeeds, -, writes⟩ :=
      memory.update_cases kind (reconcileFields desired rules existing).object
    · rw [fails]
      exact Or.inl ⟨cause, rfl, Memory.logged_of_same writes⟩
    · rw [succeeds, Memory.logged_of_append writes]
      exact Or.inr ⟨_, rfl, .updatedChild kind name after⟩

/-- A condition `Ready` that is written is counted under its status when the store has it. -/
theorem writeCondition (gateway : Gateway) {condition : Condition}
    (isReady : condition.kind = readyKind) : Tallied (writeCondition gateway condition) := by
  unfold GatewayOperator.writeCondition
  split
  · refine counted (.updateStatus (gateway.withCondition condition))
      (fun _ => ⟨_, rfl⟩) (fun _ => ⟨_, rfl⟩) fun memory => ?_
    dsimp only [Memory.store]
    cases named : Kind.gateway.objectName? (gateway.withCondition condition) with
    | none =>
      rw [memory.updateStatus_nameless named]
      exact Or.inl ⟨_, rfl, Memory.logged_of_same rfl⟩
    | some name =>
      cases got : memory.get .gateway name with
      | error cause =>
        rw [Memory.updateStatus_unread named got]
        exact Or.inl ⟨cause, rfl, Memory.logged_of_same rfl⟩
      | ok stored =>
        rw [Memory.updateStatus_read named got, Memory.logged_of_append rfl]
        refine Or.inr ⟨_, rfl, .reportedStatus (LoggedWrite.ready?_of_stored
          (Memory.lookup_put_self _ _ _) ?_)⟩
        exact gateway.ready?_withCondition isReady
  · exact done _

theorem report (now : String) (gateway : Gateway) (result : Except ReconcileError Outcome) :
    Tallied (report now gateway result) := by
  unfold GatewayOperator.report
  cases Report.ofResult result with
  | nothing => exact done _
  | converged => exact writeCondition gateway rfl
  | error cause => exact writeCondition gateway rfl

/-- The counters of a pass agree with its writes. -/
theorem pass (policy : ReplicaPolicy) (gateway : Gateway) : Tallied (pass policy gateway) :=
  Compositional.pass ⟨done, bind, own, createChild, updateChild⟩ policy gateway

end Program.Tallied

end GatewayOperator
