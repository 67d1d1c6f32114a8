/-
This file follows a list of conditions over any number of updates. Updates of one kind do not meet
those of another, so every kind has a history of its own: the condition that was there, if there was
one, and then the updates of the kind. What is found under a kind is the last condition of its
history, dated by the first time that is known since the status is what it is. The time is a fact
about the whole history, which an update sees only through the condition it finds; the induction
goes along the updates and carries the condition as a function of the history.
-/

import GatewayOperator.Proofs.Keys
import GatewayOperator.Proofs.Status.Conditions
import Mathlib.Data.List.DropRight

namespace GatewayOperator

/-- The conditions after several updates, one after the other. -/
def updateConditions (conditions updates : List Condition) : List Condition :=
  updates.foldl (fun conditions update => updateCondition update conditions) conditions

/-! ### Kinds -/

/-- An update puts its kind behind the others unless it is among them. -/
theorem kinds_updateCondition (condition : Condition) (conditions : List Condition) :
    (updateCondition condition conditions).map (·.kind) =
      appendMissing (conditions.map (·.kind)) condition.kind := by
  unfold appendMissing
  induction conditions with
  | nil => rfl
  | cons existing rest inductionHypothesis =>
    unfold updateCondition
    by_cases same : existing.kind = condition.kind
    · rw [if_pos same, List.map_cons, List.map_cons, if_pos (List.mem_cons.mpr (Or.inl same.symm))]
      rfl
    · rw [if_neg same, List.map_cons, List.map_cons, inductionHypothesis]
      have elsewhere : condition.kind ∈ existing.kind :: rest.map (·.kind) ↔
          condition.kind ∈ rest.map (·.kind) := by
        rw [List.mem_cons, or_iff_right (Ne.symm same)]
      simp only [elsewhere]
      split <;> rfl

theorem kinds_updateConditions (conditions updates : List Condition) :
    (updateConditions conditions updates).map (·.kind) =
      (updates.map (·.kind)).foldl appendMissing (conditions.map (·.kind)) :=
  map_foldl_eq_foldl_appendMissing
    (fun conditions update => kinds_updateCondition update conditions) conditions updates

/-! ### Conditions of other kinds -/

/-- Conditions of other kinds than that of an update are left alone. -/
theorem filter_updateCondition_of_others {condition : Condition} {others : Condition → Bool}
    (byKind : ∀ other, others other = true → other.kind ≠ condition.kind)
    (conditions : List Condition) :
    (updateCondition condition conditions).filter others = conditions.filter others := by
  have narrower : ∀ list : List Condition, list.filter others =
      (list.filter (·.kind ≠ condition.kind)).filter others := by
    intro list
    rw [List.filter_filter]
    refine List.filter_congr fun other _ => ?_
    cases isOther : others other with
    | false => rfl
    | true => simpa using byKind other isOther
  rw [narrower, filter_updateCondition_other, ← narrower]

/-- Conditions of kinds that are not updated are left alone. -/
theorem filter_updateConditions_of_others {updates : List Condition} {others : Condition → Bool}
    (byKind : ∀ other, others other = true → other.kind ∉ updates.map (·.kind))
    (conditions : List Condition) :
    (updateConditions conditions updates).filter others = conditions.filter others := by
  induction updates generalizing conditions with
  | nil => rfl
  | cons update updates inductionHypothesis =>
    have differs : ∀ other, others other = true →
        other.kind ≠ update.kind ∧ other.kind ∉ updates.map (·.kind) := fun other isOther =>
      List.ne_and_not_mem_of_not_mem_cons (byKind other isOther)
    calc (updateConditions conditions (update :: updates)).filter others
        = (updateConditions (updateCondition update conditions) updates).filter others := rfl
      _ = (updateCondition update conditions).filter others :=
        inductionHypothesis (fun other isOther => (differs other isOther).2) _
      _ = conditions.filter others :=
        filter_updateCondition_of_others (fun other isOther => (differs other isOther).1) _

/-- An update leaves what is found under other kinds. -/
theorem findCondition_updateCondition_of_ne {condition : Condition} {kind : String}
    (other : kind ≠ condition.kind) (conditions : List Condition) :
    findCondition kind (updateCondition condition conditions) = findCondition kind conditions := by
  rw [findCondition_eq_head?, findCondition_eq_head?, filter_updateCondition_of_others]
  intro found named
  rw [of_decide_eq_true named]
  exact other

/-- Under its own kind an update is found on top of what was found before. -/
theorem findCondition_updateCondition_self (condition : Condition) (conditions : List Condition) :
    findCondition condition.kind (updateCondition condition conditions) =
      some ((findCondition condition.kind conditions).elim condition (·.update condition)) := by
  rw [findCondition_eq_head?, findCondition_eq_head?]
  cases found : conditions.filter (·.kind = condition.kind) with
  | nil => rw [filter_updateCondition_of_none found]; rfl
  | cons existing others => rw [filter_updateCondition_of_cons found]; rfl

/-! ### Histories -/

/-- The history of a kind: the condition that was there, if there was one, and the updates of the
kind. -/
def kindHistory (kind : String) (conditions updates : List Condition) : List Condition :=
  (findCondition kind conditions).toList ++ updates.filter (·.kind = kind)

/-- The first time that is known among the conditions at the end of a history that all have a
status. -/
def knownSince (status : String) (history : List Condition) : Option String :=
  (history.rtakeWhile (·.status = status)).findSome? (·.lastTransitionTime)

/-- What a history comes to: its last condition, dated by the first time that is known since the
status is what it is. -/
def summary? (history : List Condition) : Option Condition :=
  history.getLast?.map fun last =>
    { last with lastTransitionTime := knownSince last.status history }

/-- One more condition of a status goes on with those before it: its own time counts when none of
theirs is known. -/
theorem knownSince_concat_self (history : List Condition) (condition : Condition) :
    knownSince condition.status (history ++ [condition]) =
      (knownSince condition.status history).or condition.lastTransitionTime := by
  have same : decide (condition.status = condition.status) = true := decide_eq_true rfl
  unfold knownSince
  rw [List.rtakeWhile_concat, if_pos same, List.findSome?_append, List.findSome?_singleton]

/-- Behind a condition of another status nothing is known yet. -/
theorem knownSince_concat_of_ne {status : String} {condition : Condition}
    (different : condition.status ≠ status) (history : List Condition) :
    knownSince status (history ++ [condition]) = none := by
  have differs : ¬decide (condition.status = status) = true := by simpa using different
  unfold knownSince
  rw [List.rtakeWhile_concat, if_neg differs]
  rfl

theorem summary?_concat (history : List Condition) (last : Condition) :
    summary? (history ++ [last]) = some
      { last with lastTransitionTime := knownSince last.status (history ++ [last]) } := by
  unfold summary?
  rw [List.getLast?_concat, Option.map_some]

theorem summary?_singleton (condition : Condition) : summary? [condition] = some condition := by
  rw [← List.nil_append [condition], summary?_concat, knownSince_concat_self]
  rfl

/-- One more condition of a kind updates what its history comes to. -/
theorem summary?_concat_eq_update {history : List Condition} {condition : Condition}
    (alike : ∀ other ∈ history, other.kind = condition.kind) :
    summary? (history ++ [condition]) =
      some ((summary? history).elim condition (·.update condition)) := by
  obtain rfl | ⟨earlier, last, rfl⟩ := history.eq_nil_or_concat'
  · exact summary?_singleton condition
  · have kind : last.kind = condition.kind :=
      alike last (List.mem_append_right _ List.mem_cons_self)
    have time : (knownSince condition.status (earlier ++ [last])).or condition.lastTransitionTime =
        if last.status = condition.status then
          (knownSince last.status (earlier ++ [last])).or condition.lastTransitionTime
        else condition.lastTransitionTime := by
      split
      · next same => rw [same]
      · next different => rw [knownSince_concat_of_ne different, Option.none_or]
    rw [summary?_concat, knownSince_concat_self, summary?_concat, Option.elim_some, time, ← kind]
    rfl

/-! ### Conditions after several updates -/

theorem kindHistory_concat_self (conditions updates : List Condition) (update : Condition) :
    kindHistory update.kind conditions (updates ++ [update]) =
      kindHistory update.kind conditions updates ++ [update] := by
  unfold kindHistory
  rw [List.filter_append, List.filter_cons_of_pos (by simp), List.filter_nil, List.append_assoc]

theorem kindHistory_concat_of_ne {kind : String} {update : Condition}
    (other : kind ≠ update.kind) (conditions updates : List Condition) :
    kindHistory kind conditions (updates ++ [update]) = kindHistory kind conditions updates := by
  unfold kindHistory
  rw [List.filter_append, List.filter_cons_of_neg (by simpa using other.symm), List.filter_nil,
    List.append_nil]

theorem kind_of_mem_kindHistory {kind : String} {conditions updates : List Condition}
    {condition : Condition} (member : condition ∈ kindHistory kind conditions updates) :
    condition.kind = kind := by
  rcases List.mem_append.mp member with initial | update
  · have found : findCondition kind conditions = some condition := Option.mem_toList.mp initial
    obtain ⟨named, -⟩ := List.find?_eq_some_iff_append.mp found
    exact of_decide_eq_true named
  · exact of_decide_eq_true (List.mem_filter.mp update).2

/-- What is found under a kind after several updates is what the history of the kind comes to. -/
theorem findCondition_updateConditions (kind : String) (conditions updates : List Condition) :
    findCondition kind (updateConditions conditions updates) =
      summary? (kindHistory kind conditions updates) := by
  induction updates using List.reverseRecOn with
  | nil =>
    unfold kindHistory
    rw [List.filter_nil, List.append_nil]
    show findCondition kind conditions = _
    cases findCondition kind conditions with
    | none => rfl
    | some condition => exact (summary?_singleton condition).symm
  | append_singleton updates update inductionHypothesis =>
    have step : updateConditions conditions (updates ++ [update]) =
        updateCondition update (updateConditions conditions updates) := List.foldl_concat ..
    rw [step]
    -- An update goes to the end of the history of its own kind, and is not in any other.
    by_cases own : kind = update.kind
    · subst own
      rw [findCondition_updateCondition_self, inductionHypothesis, kindHistory_concat_self,
        summary?_concat_eq_update fun _ => kind_of_mem_kindHistory]
    · rw [findCondition_updateCondition_of_ne own, inductionHypothesis,
        kindHistory_concat_of_ne own]

/-- A kind that is updated has a last update. -/
theorem exists_last_update {kind : String} {updates : List Condition}
    (updated : kind ∈ updates.map (·.kind)) :
    ∃ earlier last, updates.filter (·.kind = kind) = earlier ++ [last] := by
  obtain ⟨update, member, named⟩ := List.mem_map.mp updated
  have ofKind : update ∈ updates.filter (·.kind = kind) :=
    List.mem_filter.mpr ⟨member, decide_eq_true named⟩
  obtain none | split := (updates.filter (·.kind = kind)).eq_nil_or_concat'
  · rw [none] at ofKind
    cases ofKind
  · exact split

/-- What any updates make of a list of conditions. The kinds that were there stay in front and the
new ones follow, once each, in the order in which they come first; a list that has no kind twice
keeps to that, and its kinds then stand in the order in which they first appeared. Conditions of
kinds that are not updated stay as they are. Under every kind that is updated the last update of the
kind is found, dated by the first time that is known in the history of the kind since its status is
what it is, and not dated when no such time is known. -/
theorem conditions_after_updates (conditions updates : List Condition) :
    let result := updateConditions conditions updates
    let before := conditions.map (·.kind)
    let updated := updates.map (·.kind)
    (before.Nodup →
      (result.map (·.kind)).Nodup ∧ result.map (·.kind) = (before ++ updated).eraseDups) ∧
    result.map (·.kind) = before ++ (updated.removeAll before).eraseDups ∧
    result.filter (·.kind ∉ updated) = conditions.filter (·.kind ∉ updated) ∧
    ∀ kind ∈ updated, ∃ last, (updates.filter (·.kind = kind)).getLast? = some last ∧
      findCondition kind result = some
        { last with
          lastTransitionTime := knownSince last.status (kindHistory kind conditions updates) } := by
  intro result before updated
  have kinds : result.map (·.kind) = updated.foldl appendMissing before :=
    kinds_updateConditions conditions updates
  refine ⟨fun distinct => ⟨?_, ?_⟩, ?_, ?_, fun kind member => ?_⟩
  · rw [kinds]
    exact nodup_foldl_appendMissing distinct updated
  · rw [kinds, foldl_appendMissing, List.eraseDups_append, eraseDups_of_nodup distinct]
  · rw [kinds, foldl_appendMissing]
  · exact filter_updateConditions_of_others (fun other => of_decide_eq_true) conditions
  · obtain ⟨earlier, last, split⟩ := exists_last_update member
    have history : kindHistory kind conditions updates =
        (findCondition kind conditions).toList ++ earlier ++ [last] := by
      rw [kindHistory, split, List.append_assoc]
    refine ⟨last, ?_, ?_⟩
    · rw [split, List.getLast?_concat]
    · rw [findCondition_updateConditions, history, summary?_concat]

/-- A condition of which the kind, the status, the reason and the time matter. -/
def conditionAt (time : Option String) (kind status reason : String) : Condition where
  kind := kind
  status := status
  reason := some reason
  lastTransitionTime := time

/-- Conditions of two kinds, one of them not dated. -/
def earlyConditions : List Condition :=
  [conditionAt none "Ready" "False" "Waiting", conditionAt (some "six") "Scaled" "True" "Scaled"]

/-- Updates of three kinds that alternate. -/
def mixedUpdates : List Condition :=
  [conditionAt (some "seven") "Ready" "True" "Reconciled",
    conditionAt none "Checked" "True" "Checked",
    conditionAt none "Ready" "False" "Stopped",
    conditionAt (some "eight") "Scaled" "True" "ScaledAgain",
    conditionAt (some "nine") "Ready" "False" "Failed",
    conditionAt (some "ten") "Ready" "False" "FailedAgain"]

/-- The kind that was ready in between is dated by the first time that is known since it is not, and
the kind whose status never changed by the condition that was there. The new kind comes last. -/
theorem mixed_updates_are_dated :
    let result := updateConditions earlyConditions mixedUpdates
    ((earlyConditions.map (·.kind)).Nodup ∧ (result.map (·.kind)).Nodup ∧
      result.map (·.kind) = ["Ready", "Scaled", "Checked"]) ∧
    ("Ready" ∈ mixedUpdates.map (·.kind) ∧ findCondition "Ready" result =
      some (conditionAt (some "nine") "Ready" "False" "FailedAgain")) ∧
    ("Scaled" ∈ mixedUpdates.map (·.kind) ∧ findCondition "Scaled" result =
      some (conditionAt (some "six") "Scaled" "True" "ScaledAgain")) := by
  intro result
  obtain ⟨once, -, -, found⟩ := conditions_after_updates earlyConditions mixedUpdates
  have distinct : (earlyConditions.map (·.kind)).Nodup := by decide
  have ready : "Ready" ∈ mixedUpdates.map (·.kind) := by decide
  have scaled : "Scaled" ∈ mixedUpdates.map (·.kind) := by decide
  obtain ⟨_, lastReady, isReady⟩ := found "Ready" ready
  obtain ⟨_, lastScaled, isScaled⟩ := found "Scaled" scaled
  cases lastReady
  cases lastScaled
  exact ⟨⟨distinct, (once distinct).1, (once distinct).2.trans (by decide)⟩,
    ⟨ready, isReady.trans (by decide)⟩, ⟨scaled, isScaled.trans (by decide)⟩⟩

end GatewayOperator
