/-
This file looks at a report that comes late. A pass was started with a copy of the gateway, and
until its result is reported others may write the status of the gateway. The report writes the
conditions of the copy back, with its own condition among them, and the store does not ask which
version they were read under. So a condition of another kind is kept when the copy has it and is
lost when it was written since; nothing is lost when nobody wrote the status in between.
-/

import GatewayOperator.Proofs.Status.History
import GatewayOperator.Proofs.Store.Subresource

namespace GatewayOperator

/-- The conditions of a gateway that the operator does not maintain. -/
def Gateway.otherConditions (gateway : Gateway) : List Condition :=
  gateway.conditions.filter (·.kind ≠ readyKind)

/-! ### A report from a copy -/

/-- A report asks for a condition of the kind that the operator maintains. -/
theorem Reported.kind_of_condition? {reported : Reported} {condition : Condition}
    (asks : reported.condition? = some condition) : condition.kind = readyKind := by
  unfold condition? at asks
  generalize Report.ofResult reported.result = report at asks
  cases report with
  | nothing => cases asks
  | converged | error =>
    cases asks
    rfl

/-- A condition of the kind that the operator maintains leaves the others alone. -/
theorem Gateway.otherConditions_withCondition (gateway : Gateway) {condition : Condition}
    (kind : condition.kind = readyKind) :
    (gateway.withCondition condition).otherConditions = gateway.otherConditions := by
  have others := filter_updateCondition_other condition gateway.conditions
  rwa [kind] at others

/-- What a report from a copy of a gateway does to a store. -/
def Reported.operations (reported : Reported) (copy : Gateway) : List Operation :=
  match reported.condition? with
  | none => []
  | some condition =>
    if conditionChanged copy.ready? condition then
      [.call (.updateStatus (copy.withCondition condition))]
    else []

namespace Memory

/-- A report from a copy of a gateway does to the memory what it says. -/
theorem run_report_state (memory : Memory) (reported : Reported) (copy : Gateway) :
    ((report reported.now copy reported.result).run store memory).state =
      backend.after memory (reported.operations copy) := by
  unfold Reported.operations
  cases asks : reported.condition? with
  | none => exact run_report_of_none asks copy memory
  | some condition =>
    rw [report_of_some asks]
    dsimp only
    cases changed : conditionChanged copy.ready? condition with
    | false => exact (memory.writeCondition_unchanged changed).2
    | true => exact (memory.run_writeCondition_of_changed changed).2

/-- A report from a copy of a stored gateway writes nothing, or it writes the other conditions of
the copy over those that are stored. -/
theorem run_report_cases {memory : Memory} {name : ObjectName} {stored copy : Gateway}
    (found : memory.object? (.of .gateway name) = some ⟨.gateway, stored⟩)
    (named : Kind.gateway.objectName? copy = some name) (reported : Reported) :
    let ended := (report reported.now copy reported.result).run store memory
    (ended.result = .ok false ∧ ended.state = memory) ∨
    (ended.result = .ok true ∧ ∃ current : Gateway,
      ended.state.object? (.of .gateway name) = some ⟨.gateway, current⟩ ∧
      current.otherConditions = copy.otherConditions) := by
  intro ended
  cases asks : reported.condition? with
  | none =>
    refine Or.inl ?_
    show ((report reported.now copy reported.result).run store memory).result = _ ∧ _
    rw [report_of_none asks]
    exact ⟨rfl, run_report_of_none asks copy memory⟩
  | some condition =>
    have same : ended = (writeCondition copy condition).run store memory :=
      congrArg (Program.run store · memory) (report_of_some asks copy)
    rw [same]
    cases changed : conditionChanged copy.ready? condition with
    | false => exact Or.inl (memory.writeCondition_unchanged changed)
    | true =>
      have namedStill : Kind.gateway.objectName? (copy.withCondition condition) = some name := named
      obtain ⟨result, state⟩ := memory.run_writeCondition_of_changed changed
      rw [updateStatus_read namedStill (get_found found)] at result state
      refine Or.inr ⟨result, memory.withStatus stored (copy.withCondition condition), ?_,
        copy.otherConditions_withCondition (Reported.kind_of_condition? asks)⟩
      rw [state]
      exact lookup_put_self _ _ memory.objects

end Memory

/-! ### What happens in between -/

/-- What others do while a pass works with its copy of a gateway: a client does something to the
store, or another pass is reported from the copy it was started with. -/
inductive Intervention where
  | operation (operation : Operation)
  | report (reported : Reported) (copy : Gateway)

/-- What an intervention does to a store. -/
def Intervention.operations : Intervention → List Operation
  | operation done => [done]
  | report reported copy => reported.operations copy

/-- The memory after an intervention. -/
def Memory.after (memory : Memory) : Intervention → Memory
  | .operation done => (backend.perform memory done).2
  | .report reported copy =>
    ((GatewayOperator.report reported.now copy reported.result).run store memory).state

/-- The memory after interventions is the one after all that they do. -/
theorem Memory.foldl_after (memory : Memory) (interventions : List Intervention) :
    interventions.foldl Memory.after memory =
      backend.after memory (interventions.flatMap Intervention.operations) := by
  induction interventions generalizing memory with
  | nil => rfl
  | cons intervention rest inductionHypothesis =>
    rw [List.foldl_cons, inductionHypothesis, List.flatMap_cons, backend.after_append]
    refine congrArg (backend.after · _) ?_
    cases intervention with
    | operation done => rfl
    | report reported copy => exact memory.run_report_state reported copy

/-- A gateway whose status nobody wrote has the conditions it had. -/
theorem Gateway.otherConditions_settled (initial : Gateway) {writes : List GatewayWrite}
    (unwritten : ∀ write ∈ writes, write.status? = none) (version : Option String) :
    ((initial.settled writes).withVersion version).otherConditions = initial.otherConditions := by
  have same : ((initial.settled writes).withVersion version).status = initial.status := by
    show (writes.filterMap GatewayWrite.status?).getLastD initial.status = initial.status
    rw [List.filterMap_eq_nil_iff.mpr unwritten]
    rfl
  unfold otherConditions conditions
  rw [same]

/-- A report keeps the conditions that its copy has. A pass was started with a copy of a gateway in
a memory that can be reached; then others did whatever they did, other reports among it; and then
the result of the pass is reported. Of the conditions stored just before, which the operator does
not maintain, exactly those are stored just after that the copy has, unless the report had nothing
to write. So all of them are, if nobody wrote the status in between. -/
theorem report_keeps_conditions_of_copy {start : Memory} (reachable : start.Reachable)
    {name : ObjectName} {copy : Gateway} (read : start.get .gateway name = .ok copy)
    {interventions : List Intervention}
    (notSeeded : ∀ intervention ∈ interventions, ∀ operation ∈ intervention.operations,
      ¬ operation.Seeds (.of .gateway name)) (reported : Reported) :
    let before := interventions.foldl Memory.after start
    let ended := (report reported.now copy reported.result).run Memory.store before
    let writes := Memory.backend.gatewayWrites name start
      (interventions.flatMap Intervention.operations)
    ∃ stored current : Gateway, before.get .gateway name = .ok stored ∧
      ended.state.get .gateway name = .ok current ∧
      ((ended.result = .ok false ∧ ended.state = before) ∨
        (ended.result = .ok true ∧ current.otherConditions = copy.otherConditions)) ∧
      (∀ condition ∈ stored.otherConditions, condition ∈ current.otherConditions ↔
        ended.result = .ok false ∨ condition ∈ copy.otherConditions) ∧
      ((∀ write ∈ writes, write.status? = none) →
        current.otherConditions = stored.otherConditions) := by
  intro before ended writes
  have found := reachable.wellKept.object?_of_get (show Kind.gateway.Alone by decide) read
  have named := reachable.wellKept.objectName? found
  obtain ⟨version, isStored⟩ := reachable.gateway_after found
    (List.forall_mem_flatMap.mpr notSeeded)
  rw [← start.foldl_after interventions] at isStored
  have sameStatus : (∀ write ∈ writes, write.status? = none) →
      ((copy.settled writes).withVersion version).otherConditions = copy.otherConditions :=
    fun unwritten => copy.otherConditions_settled unwritten version
  generalize (copy.settled writes).withVersion version = stored at isStored sameStatus
  obtain ⟨result, state⟩ | ⟨result, current, isCurrent, same⟩ :=
    Memory.run_report_cases isStored named reported
  · refine ⟨stored, stored, Memory.get_found isStored, ?_, Or.inl ⟨result, state⟩,
      fun condition member => ⟨fun _ => Or.inl result, fun _ => member⟩, fun _ => rfl⟩
    show ended.state.get .gateway name = _
    rw [show ended.state = before from state]
    exact Memory.get_found isStored
  · refine ⟨stored, current, Memory.get_found isStored, Memory.get_found isCurrent,
      Or.inr ⟨result, same⟩, fun condition member => ?_,
      fun unwritten => same.trans (sameStatus unwritten).symm⟩
    have written : ended.result ≠ .ok false := by
      rw [show ended.result = .ok true from result]
      exact nofun
    rw [same, or_iff_right written]

/-- The gateway as a client drains it who keeps what was checked. -/
def drainedGateway : Gateway :=
  { smallGateway with
    status := some
      { conditions :=
          [{ kind := "Checked", status := "True" }, { kind := "Drained", status := "False" }] } }

/-- The gateway was checked when a pass began. What was checked is kept by the report of the pass,
also when the gateway was scaled in between; that it was drained in between is lost. -/
theorem late_report_keeps_what_was_checked :
    let start := Memory.backend.after {} [.seed .gateway checkedGateway]
    let scaled := [Intervention.operation (.call (.update .gateway scaledGateway))]
    let drained := [Intervention.operation (.call (.updateStatus drainedGateway))]
    ∃ copy : Gateway, start.get .gateway ⟨"default", "edge"⟩ = .ok copy ∧
      ∀ interventions ∈ [scaled, drained],
        let before := interventions.foldl Memory.after start
        ∃ current : Gateway,
          (before.after (.report ⟨"noon", .ok .done⟩ copy)).get .gateway ⟨"default", "edge"⟩ =
            .ok current ∧
          current.otherConditions = [{ kind := "Checked", status := "True" }] := by
  intro start scaled drained
  have reachable : start.Reachable := Memory.Reachable.empty.after _
  refine ⟨_, rfl, List.forall_mem_cons.mpr ⟨?_, List.forall_mem_singleton.mpr ?_⟩⟩
  · intro before
    obtain ⟨stored, current, isStored, isCurrent, -, -, unwritten⟩ :=
      @report_keeps_conditions_of_copy start reachable ⟨"default", "edge"⟩ _ rfl scaled
        (by simp [scaled, Intervention.operations, Operation.Seeds]) ⟨"noon", .ok .done⟩
    refine ⟨current, isCurrent, (unwritten (List.forall_mem_singleton.mpr rfl)).trans ?_⟩
    cases isStored
    rfl
  · intro before
    obtain ⟨-, current, -, isCurrent, outcome, -⟩ :=
      @report_keeps_conditions_of_copy start reachable ⟨"default", "edge"⟩ _ rfl drained
        (by simp [drained, Intervention.operations, Operation.Seeds]) ⟨"noon", .ok .done⟩
    obtain ⟨unwritten, -⟩ | ⟨-, kept⟩ := outcome
    · cases unwritten
    · exact ⟨current, isCurrent, kept⟩

/-- A condition is lost: a client wrote it after the copy of the pass was read, and the report of
the pass writes the status without it. -/
theorem late_report_drops_condition :
    let start := Memory.backend.after {} [.seed .gateway smallGateway]
    let before := start.after (.operation (.call (.updateStatus checkedGateway)))
    ∃ copy stored current : Gateway, start.get .gateway ⟨"default", "edge"⟩ = .ok copy ∧
      before.get .gateway ⟨"default", "edge"⟩ = .ok stored ∧
      (before.after (.report ⟨"noon", .ok .done⟩ copy)).get .gateway ⟨"default", "edge"⟩ =
        .ok current ∧
      ∃ condition ∈ stored.otherConditions, condition ∉ current.otherConditions :=
  ⟨_, _, _, rfl, rfl, rfl, { kind := "Checked", status := "True" }, .head _, List.not_mem_nil⟩

end GatewayOperator
