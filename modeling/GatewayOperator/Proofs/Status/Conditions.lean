/-
This file says that a condition that was written is not written again: it is found under its kind,
and it says what was written, whatever the conditions were before. Conditions of other kinds stay as
they are, and a kind that had no more than one condition has one. Two passes that both converge say
the same, at whatever times they do.
-/

import GatewayOperator.Reconcile.Report

namespace GatewayOperator

/-- A condition that was written is the first one of its kind, and it says what was written. -/
theorem findCondition_updateCondition (condition : Condition) (conditions : List Condition) :
    ∃ current, findCondition condition.kind (updateCondition condition conditions) =
        some current ∧
      current.kind = condition.kind ∧ current.status = condition.status ∧
      current.message = condition.message := by
  induction conditions with
  | nil => exact ⟨condition, List.find?_cons_of_pos (by simp), rfl, rfl, rfl⟩
  | cons existing rest inductionHypothesis =>
    unfold updateCondition
    by_cases same : existing.kind = condition.kind
    · rw [if_pos same]
      have here : (existing.update condition).kind = condition.kind := same
      exact ⟨existing.update condition, List.find?_cons_of_pos (by simpa using here), here, rfl,
        rfl⟩
    · rw [if_neg same]
      obtain ⟨current, found, alike⟩ := inductionHypothesis
      exact ⟨current, (List.find?_cons_of_neg (by simpa using same)).trans found, alike⟩

/-- The conditions of other kinds are left alone. -/
theorem filter_updateCondition_other (condition : Condition) (conditions : List Condition) :
    (updateCondition condition conditions).filter (·.kind ≠ condition.kind) =
      conditions.filter (·.kind ≠ condition.kind) := by
  induction conditions with
  | nil => exact List.filter_cons_of_neg (by simp)
  | cons existing rest inductionHypothesis =>
    unfold updateCondition
    by_cases same : existing.kind = condition.kind
    · have updated : (existing.update condition).kind = condition.kind := same
      rw [if_pos same, List.filter_cons_of_neg (by simpa using updated),
        List.filter_cons_of_neg (by simpa using same)]
    · rw [if_neg same, List.filter_cons_of_pos (by simpa using same),
        List.filter_cons_of_pos (by simpa using same), inductionHypothesis]

/-- The first condition of the kind is added when there is none. -/
theorem filter_updateCondition_of_none {condition : Condition} {conditions : List Condition}
    (none : conditions.filter (·.kind = condition.kind) = []) :
    (updateCondition condition conditions).filter (·.kind = condition.kind) = [condition] := by
  induction conditions with
  | nil => exact List.filter_cons_of_pos (by simp)
  | cons existing rest inductionHypothesis =>
    unfold updateCondition
    by_cases same : existing.kind = condition.kind
    · rw [List.filter_cons_of_pos (by simpa using same)] at none
      cases none
    · rw [List.filter_cons_of_neg (by simpa using same)] at none
      rw [if_neg same, List.filter_cons_of_neg (by simpa using same), inductionHypothesis none]

/-- The first condition of the kind is updated when there is one. -/
theorem filter_updateCondition_of_cons {condition existing : Condition}
    {conditions others : List Condition}
    (some : conditions.filter (·.kind = condition.kind) = existing :: others) :
    (updateCondition condition conditions).filter (·.kind = condition.kind) =
      existing.update condition :: others := by
  induction conditions with
  | nil => cases some
  | cons head rest inductionHypothesis =>
    unfold updateCondition
    by_cases same : head.kind = condition.kind
    · rw [List.filter_cons_of_pos (by simpa using same)] at some
      injection some with isFirst isRest
      subst isFirst isRest
      have updated : (head.update condition).kind = condition.kind := same
      rw [if_pos same, List.filter_cons_of_pos (by simpa using updated)]
    · rw [List.filter_cons_of_neg (by simpa using same)] at some
      rw [if_neg same, List.filter_cons_of_neg (by simpa using same), inductionHypothesis some]

/-- The first condition of a kind is the first of those of the kind. -/
theorem findCondition_eq_head? (kind : String) (conditions : List Condition) :
    findCondition kind conditions = (conditions.filter (·.kind = kind)).head? :=
  List.head?_filter.symm

/-- Conditions of one kind, status and message say the same. -/
theorem conditionChanged_eq_false {current condition : Condition}
    (kind : current.kind = condition.kind) (status : current.status = condition.status)
    (message : current.message = condition.message) :
    conditionChanged (some current) condition = false := by
  show (current.kind != condition.kind || current.status != condition.status ||
    current.message != condition.message) = false
  rw [kind, status, message]
  simp

/-- The condition of a pass that converged says the same at all times. -/
theorem conditionChanged_readyCondition_congr (existing : Option Condition) (now later : String) :
    conditionChanged existing (readyCondition now none) =
      conditionChanged existing (readyCondition later none) := by
  cases existing <;> rfl

/-- The condition of a pass that converged is not written on top of another such condition. -/
theorem conditionChanged_withCondition (gateway : Gateway) (now later : String) :
    conditionChanged (gateway.withCondition (readyCondition now none)).ready?
      (readyCondition later none) = false := by
  rw [conditionChanged_readyCondition_congr _ later now]
  obtain ⟨current, found, kind, status, message⟩ := findCondition_updateCondition
    (readyCondition now none) (gateway.status.getD {}).conditions
  have ready : (gateway.withCondition (readyCondition now none)).ready? = some current := found
  rw [ready]
  exact conditionChanged_eq_false kind status message

end GatewayOperator
