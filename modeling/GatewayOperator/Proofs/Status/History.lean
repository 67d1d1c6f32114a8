/-
This file follows the condition of a gateway over passes that are reported one after the other,
while anybody changes anything but the status in between. The gateway has one condition of the kind
the operator maintains as soon as a pass was reported that asks for one; it says what was asked for
last, and it dates from the first report since the status changed. The condition is not rewritten
when its status and its message stay, so its reason is right only because the message tells it.
-/

import GatewayOperator.Proofs.Failure
import GatewayOperator.Proofs.Reconcile.Idempotence
import GatewayOperator.Proofs.Reconcile.Turn

namespace GatewayOperator

/-! ### The errors of a pass -/

theorem SecretRole.legible_of_check {role : SecretRole} {secret : Secret} {error : ReconcileError}
    (unfit : role.check secret = .error error) : error.Legible := by
  cases role with
  | adminPortal =>
    unfold check Secret.checkAdminPortal at unfit
    dsimp only at unfit
    split at unfit
    · cases unfit
      exact ReconcileError.legible_keyMissing _ _
    · split at unfit
      · cases unfit
        exact ReconcileError.legible_credentialMissing _ _
      · cases unfit
        exact ReconcileError.legible_invalidAdminPortalUrl _ _ _
      · split at unfit
        · cases unfit
          exact ReconcileError.legible_credentialMissing _ _
        · cases unfit
  | embeddedConfig =>
    unfold check Secret.checkEmbeddedConfig at unfit
    dsimp only at unfit
    split at unfit
    · cases unfit
    · cases unfit
      exact ReconcileError.legible_keyMissing _ _

theorem SecretRefused.legible {role : SecretRole} {gateway : Gateway} {calls : List Exchange}
    {error : ReconcileError} (refused : SecretRefused role gateway calls error) :
    error.Legible := by
  cases refused with
  | nameless refers nameless => exact ReconcileError.legible_referenceIncomplete _
  | unfit refers named unfit => exact SecretRole.legible_of_check unfit
  | controlled refers named fit refused => exact ReconcileError.legible_alreadyOwned _ _ _ _

/-- A call that fails is an error of the store, unless a Secret is not found. -/
theorem PassStep.failure_cases (step : PassStep) (request : Call) (cause : StoreError) :
    (step.failure request cause).isReported = false ∨ (step.failure request cause).Legible := by
  unfold failure
  split
  · split
    · exact Or.inr (ReconcileError.legible_secretNotFound _ _ _)
    · exact Or.inl rfl
  · exact Or.inl rfl

/-- The message of an error of a pass tells its reason, if the error is reported. -/
theorem CallProtocol.legible {gateway : Gateway} {parts : PassStep → List Exchange}
    {error : ReconcileError} (protocol : CallProtocol gateway parts (.error error))
    (isReported : error.isReported = true) : error.Legible := by
  obtain ⟨_, step, exchange, cause, -, -, rfl⟩ | ⟨_, role, _, -, -, refused, -⟩ :=
    protocol.failed error rfl
  · rcases step.failure_cases exchange.call cause with silent | legible
    · rw [silent] at isReported
      cases isReported
    · exact legible
  · exact refused.legible

/-! ### Conditions that are asked for -/

/-- The reason that goes with a status and a message. -/
def reasonFor (status : String) (message : Option String) : Option String :=
  if status = statusTrue then some reconciledReason else message.map reasonOfMessage

/-- What every condition has that a report asks for: it is of the kind the operator maintains, its
status and its message tell its reason, and it is dated. -/
structure Condition.WellFormed (condition : Condition) : Prop where
  kind : condition.kind = readyKind
  reason : condition.reason = reasonFor condition.status condition.message
  dated : condition.lastTransitionTime.isSome = true

theorem wellFormed_converged (now : String) : (readyCondition now none).WellFormed :=
  ⟨rfl, rfl, rfl⟩

theorem ReconcileError.Legible.wellFormed {error : ReconcileError} (legible : error.Legible)
    (now : String) : (readyCondition now (some error)).WellFormed where
  kind := rfl
  reason := by
    have told : some (reasonOfMessage error.message) = some error.reason := congrArg some legible
    exact told.symm
  dated := rfl

/-- Two conditions tell the same, their time apart. -/
structure Condition.Alike (condition other : Condition) : Prop where
  status : condition.status = other.status
  reason : condition.reason = other.reason
  message : condition.message = other.message

/-- A condition tells what was asked for last, and it dates from the first of the last conditions
asked for that all have its status. -/
structure Tells (asked : List Condition) (condition : Condition) : Prop where
  latest : ∃ last, asked.getLast? = some last ∧ condition.Alike last
  since : ∃ before first block, asked = before ++ first :: block ∧
    (∀ other ∈ first :: block, other.status = condition.status) ∧
    (∀ previous, before.getLast? = some previous → previous.status ≠ condition.status) ∧
    condition.lastTransitionTime = first.lastTransitionTime

section Tells

variable {asked : List Condition} {condition asks updated : Condition}

/-- A condition of the same status goes on with the block of the last one. -/
theorem Tells.extend (tells : Tells asked condition) (same : asks.status = condition.status)
    (alike : updated.Alike asks)
    (time : updated.lastTransitionTime = condition.lastTransitionTime) :
    Tells (asked ++ [asks]) updated where
  latest := ⟨asks, List.getLast?_concat, alike⟩
  since := by
    obtain ⟨before, first, block, rfl, all, change, date⟩ := tells.since
    refine ⟨before, first, block ++ [asks], ?_, ?_, ?_, time.trans date⟩
    · rw [List.append_assoc, List.cons_append]
    · intro other member
      rw [alike.status, same]
      rw [← List.cons_append] at member
      rcases List.mem_append.mp member with earlier | last
      · exact all other earlier
      · rw [List.mem_singleton.mp last, same]
    · rw [alike.status, same]
      exact change

/-- A condition of another status than the last one begins a block. -/
theorem Tells.restart (different : ∀ last, asked.getLast? = some last → last.status ≠ asks.status)
    (alike : updated.Alike asks) (time : updated.lastTransitionTime = asks.lastTransitionTime) :
    Tells (asked ++ [asks]) updated where
  latest := ⟨asks, List.getLast?_concat, alike⟩
  since := by
    refine ⟨asked, asks, [], rfl, ?_, ?_, time⟩
    · intro other member
      rw [List.mem_singleton.mp member, alike.status]
    · rw [alike.status]
      exact different

/-- A condition of the kind that tells what was asked for is well-formed as well. -/
theorem Tells.wellFormed (tells : Tells asked condition)
    (earlier : ∀ other ∈ asked, other.WellFormed) (kind : condition.kind = readyKind) :
    condition.WellFormed where
  kind := kind
  reason := by
    obtain ⟨last, isLast, alike⟩ := tells.latest
    rw [alike.reason, alike.status, alike.message]
    exact (earlier last (List.mem_of_getLast? isLast)).reason
  dated := by
    obtain ⟨before, first, block, rfl, -, -, date⟩ := tells.since
    rw [date]
    exact (earlier first (List.mem_append_right _ List.mem_cons_self)).dated

end Tells

/-- A condition that is not written again is alike to the one that is there. -/
theorem alike_of_unchanged {condition asks : Condition} (present : condition.WellFormed)
    (isNew : asks.WellFormed) (unchanged : conditionChanged (some condition) asks = false) :
    condition.Alike asks := by
  have same : (condition.kind != asks.kind || condition.status != asks.status ||
    condition.message != asks.message) = false := unchanged
  rw [Bool.or_eq_false_iff, Bool.or_eq_false_iff, bne_eq_false_iff_eq, bne_eq_false_iff_eq,
    bne_eq_false_iff_eq] at same
  obtain ⟨⟨-, status⟩, message⟩ := same
  refine ⟨status, ?_, message⟩
  rw [present.reason, isNew.reason, status, message]

/-- A dated condition keeps its time when it is updated with its own status. -/
theorem Condition.update_lastTransitionTime {existing condition : Condition}
    (dated : existing.lastTransitionTime.isSome = true)
    (same : existing.status = condition.status) :
    (existing.update condition).lastTransitionTime = existing.lastTransitionTime := by
  obtain ⟨time, isTime⟩ := Option.isSome_iff_exists.mp dated
  unfold update
  rw [if_pos same, isTime]
  rfl

/-! ### The conditions of a gateway -/

/-- What the conditions of a gateway are after some were asked for: the other ones are as they were,
and there is one of the kind the operator maintains as soon as one was asked for. -/
structure Follows (others asked conditions : List Condition) : Prop where
  others : conditions.filter (·.kind ≠ readyKind) = others
  absent : asked = [] → conditions.filter (·.kind = readyKind) = []
  one : asked ≠ [] → ∃ condition, conditions.filter (·.kind = readyKind) = [condition] ∧
    Tells asked condition

/-- The conditions after one was asked for: they are updated if it says something new. -/
def afterAsking (condition : Condition) (conditions : List Condition) : List Condition :=
  if conditionChanged (findCondition readyKind conditions) condition then
    updateCondition condition conditions
  else conditions

theorem filter_other_afterAsking {condition : Condition} (kind : condition.kind = readyKind)
    (conditions : List Condition) :
    (afterAsking condition conditions).filter (·.kind ≠ readyKind) =
      conditions.filter (·.kind ≠ readyKind) := by
  unfold afterAsking
  split
  · rw [← kind]
    exact filter_updateCondition_other condition conditions
  · rfl

/-- The first condition asked for is added. -/
theorem filter_afterAsking_of_absent {condition : Condition} (kind : condition.kind = readyKind)
    {conditions : List Condition} (absent : conditions.filter (·.kind = readyKind) = []) :
    (afterAsking condition conditions).filter (·.kind = readyKind) = [condition] := by
  unfold afterAsking
  rw [findCondition_eq_head?, absent, List.head?_nil,
    if_pos (show conditionChanged none condition = true from rfl)]
  rw [← kind] at absent ⊢
  exact filter_updateCondition_of_none absent

/-- A later condition updates the one that is there, if it says something new. -/
theorem filter_afterAsking_of_one {condition present : Condition}
    (kind : condition.kind = readyKind) {conditions : List Condition}
    (one : conditions.filter (·.kind = readyKind) = [present]) :
    (afterAsking condition conditions).filter (·.kind = readyKind) =
      [if conditionChanged (some present) condition then present.update condition
        else present] := by
  unfold afterAsking
  rw [findCondition_eq_head?, one, List.head?_cons]
  split
  · rw [← kind] at one ⊢
    exact filter_updateCondition_of_cons one
  · exact one

/-- The condition that is there tells what is asked for, once that was dealt with. -/
theorem Tells.ask {asked : List Condition} {condition present : Condition}
    (tells : Tells asked present) (wellFormed : present.WellFormed)
    (isNew : condition.WellFormed) :
    Tells (asked ++ [condition])
      (if conditionChanged (some present) condition then present.update condition
        else present) := by
  by_cases changed : conditionChanged (some present) condition = true
  · rw [if_pos changed]
    by_cases same : present.status = condition.status
    · exact tells.extend same.symm ⟨rfl, rfl, rfl⟩
        (Condition.update_lastTransitionTime wellFormed.dated same)
    · obtain ⟨last, isLast, alike⟩ := tells.latest
      refine Tells.restart (fun other isOther => ?_) ⟨rfl, rfl, rfl⟩ (if_neg same)
      rw [isLast] at isOther
      cases isOther
      rw [← alike.status]
      exact same
  · rw [if_neg changed]
    have alike := alike_of_unchanged wellFormed isNew (Bool.not_eq_true _ ▸ changed)
    exact tells.extend alike.status.symm alike rfl

/-- Asking for a condition keeps what the conditions follow. -/
theorem Follows.ask {others asked conditions : List Condition}
    (follows : Follows others asked conditions) (earlier : ∀ other ∈ asked, other.WellFormed)
    {condition : Condition} (isNew : condition.WellFormed) :
    Follows others (asked ++ [condition]) (afterAsking condition conditions) where
  others := (filter_other_afterAsking isNew.kind conditions).trans follows.others
  absent impossible := absurd impossible (List.append_ne_nil_of_right_ne_nil asked (by simp))
  one _ := by
    by_cases none : asked = []
    · subst none
      exact ⟨condition, filter_afterAsking_of_absent isNew.kind (follows.absent rfl),
        Tells.restart (fun _ => nofun) ⟨rfl, rfl, rfl⟩ rfl⟩
    · obtain ⟨present, one, tells⟩ := follows.one none
      have member : present ∈ conditions.filter (·.kind = readyKind) := by
        rw [one]
        exact List.mem_cons_self
      have kind : present.kind = readyKind := by simpa using (List.mem_filter.mp member).2
      exact ⟨_, filter_afterAsking_of_one isNew.kind one,
        tells.ask (tells.wellFormed earlier kind) isNew⟩

namespace Gateway

/-- The conditions of a gateway. -/
def conditions (gateway : Gateway) : List Condition := (gateway.status.getD {}).conditions

theorem ready?_eq (gateway : Gateway) :
    gateway.ready? = findCondition readyKind gateway.conditions := by
  unfold ready? conditions
  cases gateway.status <;> rfl

end Gateway

/-! ### Reports -/

/-- The result of a pass that is reported, and when. -/
structure Reported where
  now : String
  result : Except ReconcileError Outcome

/-- The condition that a report asks for, if it asks for one. -/
def Reported.condition? (reported : Reported) : Option Condition :=
  (Report.ofResult reported.result).condition? reported.now

/-- A condition is asked for under the time of the report. -/
theorem Reported.lastTransitionTime_of_condition? {reported : Reported} {condition : Condition}
    (asks : reported.condition? = some condition) :
    condition.lastTransitionTime = some reported.now := by
  unfold condition? at asks
  generalize Report.ofResult reported.result = report at asks
  cases report with
  | nothing => cases asks
  | converged | error =>
    cases asks
    rfl

/-- Nothing is asked for by a pass that stopped early or that the store failed. -/
theorem Reported.condition?_eq_none {now : String} {result : Except ReconcileError Outcome}
    (silent : (∃ reason, result = .ok (.requeue reason)) ∨
      ∃ cause, result = .error (.store cause)) :
    (Reported.mk now result).condition? = none := by
  obtain ⟨reason, rfl⟩ | ⟨cause, rfl⟩ := silent
  · rfl
  · rfl

/-- A pass that converged is reported. -/
theorem Reported.condition?_done (now : String) :
    (Reported.mk now (.ok .done)).condition? = some (readyCondition now none) := rfl

/-- Every error but a failure of the store is reported. -/
theorem Reported.condition?_error (now : String) {error : ReconcileError}
    (notStore : ∀ cause, error ≠ .store cause) :
    (Reported.mk now (.error error)).condition? = some (readyCondition now (some error)) := by
  cases error with
  | store cause => exact absurd rfl (notStore cause)
  | _ => rfl

theorem report_of_none {now : String} {result : Except ReconcileError Outcome}
    (silent : (Reported.mk now result).condition? = none) (gateway : Gateway) :
    report now gateway result = .done (.ok false) := by
  unfold report
  rw [show (Report.ofResult result).condition? now = none from silent]

theorem report_of_some {now : String} {result : Except ReconcileError Outcome}
    {condition : Condition} (asks : (Reported.mk now result).condition? = some condition)
    (gateway : Gateway) : report now gateway result = writeCondition gateway condition := by
  unfold report
  rw [show (Report.ofResult result).condition? now = some condition from asks]

/-- A report that asks for nothing changes nothing. -/
theorem run_report_of_none {now : String} {result : Except ReconcileError Outcome}
    (silent : (Reported.mk now result).condition? = none) (gateway : Gateway) (memory : Memory) :
    ((report now gateway result).run Memory.store memory).state = memory := by
  rw [report_of_none silent]
  rfl

/-- A report that asks for a condition leaves the stored gateway with the conditions there are
then. -/
theorem Memory.WellKept.conditions_writeCondition {memory : Memory} (wellKept : memory.WellKept)
    {gateway : Gateway} {name : ObjectName}
    (found : memory.object? (.of .gateway name) = some ⟨.gateway, gateway⟩)
    (condition : Condition) :
    ∃ current, ((writeCondition gateway condition).run store memory).state.object?
        (.of .gateway name) = some ⟨.gateway, current⟩ ∧
      current.conditions = afterAsking condition gateway.conditions := by
  unfold afterAsking
  rw [← gateway.ready?_eq]
  cases changed : conditionChanged gateway.ready? condition with
  | false =>
    rw [(memory.writeCondition_unchanged changed).2]
    exact ⟨gateway, found, rfl⟩
  | true =>
    obtain ⟨-, wrote⟩ := wellKept.writeCondition_changed found changed
    exact ⟨_, wrote.object?_self, rfl⟩

/-! ### A pass and its report -/

namespace Turn

variable {turn : Turn} {name : ObjectName}

/-- The memory after the result of the pass was reported. -/
def reported (turn : Turn) (now : String) : Memory :=
  ((report now turn.ended.result.gateway turn.result).run Memory.store turn.after).state

/-- The condition that the report of a pass asks for is well-formed. -/
theorem wellFormed_condition {now : String} {condition : Condition}
    (asks : (Reported.mk now turn.result).condition? = some condition) : condition.WellFormed := by
  obtain ⟨parts, -, run⟩ := PassRun.of_ends turn.ends
  have protocol : CallProtocol turn.gateway parts turn.result := run.callProtocol
  unfold Reported.condition? at asks
  dsimp only at asks
  generalize turn.result = result at asks protocol
  obtain error | (_ | reason) := result
  · have isReport : Report.ofResult (.error error) =
      if error.isReported then .error error else .nothing := rfl
    rw [isReport] at asks
    cases isReported : error.isReported with
    | false =>
      rw [isReported, if_neg Bool.false_ne_true] at asks
      cases asks
    | true =>
      rw [isReported, if_pos rfl] at asks
      cases asks
      exact (protocol.legible isReported).wellFormed now
  · cases asks
    exact wellFormed_converged now
  · cases asks

/-- A pass over a gateway that lacks its defaults has nothing to report. -/
theorem silent_of_lacking (lacks : turn.gateway.lacksDefaults = true) (now : String) :
    (Reported.mk now turn.result).condition? = none := by
  refine Reported.condition?_eq_none ?_
  obtain ⟨failure, -, same⟩ | ⟨updated, -, same⟩ := ends_pass_lacking lacks turn.ends
  · exact Or.inr ⟨failure, congrArg PassResult.result same⟩
  · exact Or.inl ⟨_, congrArg PassResult.result same⟩

/-- After a pass was reported, the conditions of the stored gateway are those before it, or those
after asking for what the report asks for. -/
theorem conditions_reported (reachable : turn.before.Reachable)
    (stored : turn.before.object? (.of .gateway name) = some ⟨.gateway, turn.gateway⟩)
    (now : String) :
    ∃ current, (turn.reported now).object? (.of .gateway name) = some ⟨.gateway, current⟩ ∧
      current.conditions = match (Reported.mk now turn.result).condition? with
        | none => turn.gateway.conditions
        | some condition => afterAsking condition turn.gateway.conditions := by
  unfold reported
  cases asks : (Reported.mk now turn.result).condition? with
  | none =>
    obtain ⟨current, found, status⟩ := exists_stored_after reachable stored
    rw [run_report_of_none asks]
    refine ⟨current, found, ?_⟩
    unfold Gateway.conditions
    rw [status]
  | some condition =>
    have complete : turn.gateway.lacksDefaults = false := by
      cases lacks : turn.gateway.lacksDefaults with
      | false => rfl
      | true =>
        rw [silent_of_lacking lacks] at asks
        cases asks
    rw [report_of_some asks, (of_complete reachable complete).1]
    exact (turn.reachable_after reachable).wellKept.conditions_writeCondition
      (stored_after_of_complete reachable stored complete) condition

end Turn

/-! ### Runs -/

/-- The status of the stored gateway of a name. -/
def Memory.status? (memory : Memory) (name : ObjectName) : Option GatewayStatus :=
  (memory.get .gateway name).toOption.bind (·.status)

/-- What happens to a memory when passes over the stored gateway of a name are reported one after
the other, under any policies and at any times, and anybody does anything in between that leaves the
status of the gateway alone. -/
inductive ReportedRun (name : ObjectName) (start : Memory) : List Reported → Memory → Prop where
  | start : ReportedRun name start [] start
  | changed {reports : List Reported} {memory : Memory}
    (run : ReportedRun name start reports memory) (operation : Operation)
    (keeps : (operation.perform memory).memory.status? name = memory.status? name) :
    ReportedRun name start reports (operation.perform memory).memory
  | reported {reports : List Reported} {memory : Memory} {gateway : Gateway}
    (run : ReportedRun name start reports memory)
    (stored : memory.object? (.of .gateway name) = some ⟨.gateway, gateway⟩)
    (policy : ReplicaPolicy) (now : String) :
    ReportedRun name start (reports ++ [⟨now, (Turn.mk policy gateway memory).result⟩])
      ((Turn.mk policy gateway memory).reported now)

namespace ReportedRun

variable {name : ObjectName} {start memory : Memory} {reports : List Reported}

theorem reachable (run : ReportedRun name start reports memory) (reachable : start.Reachable) :
    memory.Reachable := by
  induction run with
  | start => exact reachable
  | changed run operation keeps inductionHypothesis =>
    exact inductionHypothesis.perform operation
  | reported run stored policy now inductionHypothesis =>
    exact ((Turn.mk policy _ _).reachable_after inductionHypothesis).gives
      (Program.gives_exchanges Memory.store _ _)

/-- What the reports of a run ask for is well-formed. -/
theorem wellFormed (run : ReportedRun name start reports memory) :
    ∀ condition ∈ reports.filterMap Reported.condition?, condition.WellFormed := by
  induction run with
  | start => exact fun _ => nofun
  | changed run operation keeps inductionHypothesis => exact inductionHypothesis
  | reported run stored policy now inductionHypothesis =>
    rw [List.filterMap_append]
    refine List.forall_mem_append.mpr ⟨inductionHypothesis, fun condition member => ?_⟩
    obtain ⟨reported, isLast, asks⟩ := List.mem_filterMap.mp member
    rw [List.mem_singleton.mp isLast] at asks
    exact Turn.wellFormed_condition asks

/-- The conditions of the stored gateway follow what the reports of a run ask for. -/
theorem follows (run : ReportedRun name start reports memory) (reachable : start.Reachable)
    {gateway : Gateway}
    (stored : start.object? (.of .gateway name) = some ⟨.gateway, gateway⟩)
    (unreported : gateway.ready? = none) :
    ∃ current, memory.object? (.of .gateway name) = some ⟨.gateway, current⟩ ∧
      Follows (gateway.conditions.filter (·.kind ≠ readyKind))
        (reports.filterMap Reported.condition?) current.conditions := by
  induction run with
  | start =>
    refine ⟨gateway, stored, rfl, fun _ => ?_, fun impossible => absurd rfl impossible⟩
    rw [gateway.ready?_eq, findCondition_eq_head?, List.head?_eq_none_iff] at unreported
    exact unreported
  | @changed reports memory run operation keeps inductionHypothesis =>
    obtain ⟨before, found, follows⟩ := inductionHypothesis
    have reached := run.reachable reachable
    have present : (memory.object? (.of .gateway name)).isSome = true := by
      rw [found]
      rfl
    obtain ⟨object, there⟩ := Option.isSome_iff_exists.mp
      ((reached.wellKept.effect operation).present present)
    obtain ⟨current, rfl, -⟩ := (reached.perform operation).wellKept.exists_object
      (show Kind.gateway.Alone by decide) there
    have same : current.status = before.status := by
      unfold Memory.status? at keeps
      rw [Memory.get_found there, Memory.get_found found] at keeps
      exact keeps
    refine ⟨current, there, ?_⟩
    unfold Gateway.conditions at follows ⊢
    rw [same]
    exact follows
  | @reported reports memory before run found policy now inductionHypothesis =>
    obtain ⟨other, there, follows⟩ := inductionHypothesis
    rw [found] at there
    cases there
    obtain ⟨current, isStored, conditions⟩ :=
      (Turn.mk policy before memory).conditions_reported (run.reachable reachable) found now
    refine ⟨current, isStored, ?_⟩
    rw [List.filterMap_append, conditions]
    cases asks : (Reported.mk now (Turn.mk policy before memory).result).condition? with
    | none =>
      rw [List.filterMap_cons_none asks, List.filterMap_nil, List.append_nil]
      exact follows
    | some condition =>
      rw [List.filterMap_cons_some asks, List.filterMap_nil]
      exact follows.ask run.wellFormed (Turn.wellFormed_condition asks)

end ReportedRun

/-- The condition of a gateway follows what is reported of it, over every run that starts at a
memory that can be reached and in which the gateway has no condition of the kind the operator
maintains. The gateway has one such condition after the first report that asks for one; it tells
what the last report asked for, and it has the time of the first report of those that asked for its
status ever since. A report asks for the condition that a pass converged, or for that of its error,
whichever error it is. Conditions of other kinds are never touched, and a report of a pass that
stopped early or that the store failed changes nothing. -/
theorem condition_follows_reports {start memory : Memory} (reachable : start.Reachable)
    {name : ObjectName} {gateway : Gateway}
    (stored : start.object? (.of .gateway name) = some ⟨.gateway, gateway⟩)
    (unreported : gateway.ready? = none) {reports : List Reported}
    (run : ReportedRun name start reports memory) :
    let asked := reports.filterMap Reported.condition?
    (∃ current, memory.object? (.of .gateway name) = some ⟨.gateway, current⟩ ∧
      current.conditions.filter (·.kind ≠ readyKind) =
        gateway.conditions.filter (·.kind ≠ readyKind) ∧
      (asked = [] → current.conditions.filter (·.kind = readyKind) = []) ∧
      (asked ≠ [] → ∃ condition, current.conditions.filter (·.kind = readyKind) = [condition] ∧
        Tells asked condition)) ∧
    (∀ reported ∈ reports, ∀ condition, reported.condition? = some condition →
      condition.lastTransitionTime = some reported.now) ∧
    (∀ now, (Reported.mk now (.ok .done)).condition? = some (readyCondition now none)) ∧
    (∀ now error, (∀ cause, error ≠ .store cause) →
      (Reported.mk now (.error error)).condition? = some (readyCondition now (some error))) ∧
    ∀ now other result,
      ((∃ reason, result = .ok (.requeue reason)) ∨ ∃ cause, result = .error (.store cause)) →
      ((report now other result).run Memory.store memory).state = memory := by
  intro asked
  obtain ⟨current, found, follows⟩ := run.follows reachable stored unreported
  refine ⟨⟨current, found, follows.others, follows.absent, follows.one⟩, ?_,
    Reported.condition?_done, fun now _ => Reported.condition?_error now, ?_⟩
  · intro reported _ condition asks
    exact Reported.lastTransitionTime_of_condition? asks
  · intro now other result silent
    exact run_report_of_none (Reported.condition?_eq_none silent) other memory

/-! ### A Secret that turns up late -/

/-- A condition of another kind. -/
def scaledCondition : Condition where
  kind := "Scaled"
  status := "True"
  lastTransitionTime := some "morning"

/-- A gateway that refers to a Secret and has a condition of another kind. -/
def lateGateway : Gateway where
  metadata := { name := some "edge", namespaceName := some "default" }
  spec := { replicas := some 1, embeddedConfigurationSecretRef := some { name := "settings" } }
  status := some { conditions := [scaledCondition] }

/-- The gateway is stored, and its Secret is not there yet. -/
def lateMemory : Memory := ((Operation.seed .gateway lateGateway).perform {}).memory

/-- The Secret the gateway waits for. -/
def lateSecret : Secret where
  metadata := { name := some "settings", namespaceName := some "default" }
  stringData := some (Map.empty.insert configurationKey "\x7b\x7d")

/-- The error of the pass that misses the Secret. -/
def lateError : ReconcileError :=
  .secretNotFound SecretRole.embeddedConfig.field "default" "settings"

/-- A pass fails, the Secret turns up, and three more passes own it and converge twice: the
condition tells that the last one converged. -/
theorem late_condition_follows_reports :
    ∃ reports memory current condition,
      ReportedRun ⟨"default", "edge"⟩ lateMemory reports memory ∧
      (∀ now, (Reported.mk now (.error lateError)).condition? =
        some (readyCondition now (some lateError))) ∧
      memory.object? ⟨"APIcast", "default", "edge"⟩ = some ⟨.gateway, current⟩ ∧
      current.conditions.filter (·.kind ≠ readyKind) = [scaledCondition] ∧
      current.conditions.filter (·.kind = readyKind) = [condition] ∧
      Tells [readyCondition "noon" (some lateError), readyCondition "two" none,
        readyCondition "three" none] condition := by
  have reachable : lateMemory.Reachable := Memory.Reachable.empty.perform _
  have unreported : ReportedRun ⟨"default", "edge"⟩ lateMemory [] lateMemory := .start
  have missing := unreported.reported rfl .enforce "noon"
  have owned := (missing.changed (.seed .secret lateSecret) rfl).reported rfl .enforce "one"
  have converged := (owned.reported rfl .enforce "two").reported rfl .preserve "three"
  obtain ⟨⟨current, found, others, -, one⟩, -, -, errors, -⟩ :=
    condition_follows_reports reachable rfl rfl converged
  obtain ⟨condition, isReady, tells⟩ := one nofun
  exact ⟨_, _, current, condition, converged, fun now => errors now lateError nofun, found, others,
    isReady, tells⟩

end GatewayOperator
