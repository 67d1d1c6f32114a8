/-
This file says which rules are added to those of an Ingress: of every host that is wanted and has no
rule, the first wanted rule, in the order of the wanted ones. Rules without a host are rules of one
more host. Adding looks for a host among the rules there are by then, those that were added before
included, while the missing rules are told from the two lists alone. Both come to the same for all
existing rules at once, because a rule that was added is an existing one for those behind it.
-/

import GatewayOperator.Proofs.Fields.Unmanaged
import GatewayOperator.Proofs.Keys

namespace GatewayOperator

/-- The first rule of a host. -/
def firstRule? (rules : List IngressRule) (host : Option String) : Option IngressRule :=
  rules.find? (·.host = host)

/-- The rules that are missing: for every host that is wanted and that no existing rule has, in the
order in which these hosts come first, the first wanted rule of the host. -/
def missingRules (existing wanted : List IngressRule) : List IngressRule :=
  ((wanted.map (·.host)).removeAll (existing.map (·.host))).eraseDups.filterMap (firstRule? wanted)

/-! ### The missing rules along the wanted ones -/

theorem hasRoute_iff_mem_map {rules : List IngressRule} {host : Option String} :
    HasRoute rules host ↔ host ∈ rules.map (·.host) :=
  List.mem_map.symm

theorem firstRule?_cons_self (rule : IngressRule) (rules : List IngressRule) :
    firstRule? (rule :: rules) rule.host = some rule :=
  List.find?_cons_of_pos (decide_eq_true rfl)

/-- A rule is not the first one of any other host. -/
theorem filterMap_firstRule?_cons {rule : IngressRule} {hosts : List (Option String)}
    (others : rule.host ∉ hosts) (rules : List IngressRule) :
    hosts.filterMap (firstRule? (rule :: rules)) = hosts.filterMap (firstRule? rules) := by
  refine List.filterMap_congr fun host member => List.find?_cons_of_neg ?_
  have differs : rule.host ≠ host := fun same => others (same ▸ member)
  simpa using differs

section MissingRules

variable {existing : List IngressRule} {rule : IngressRule}

/-- A wanted rule whose host has a rule is passed over. -/
theorem missingRules_cons_of_hasRoute (present : HasRoute existing rule.host)
    (wanted : List IngressRule) :
    missingRules existing (rule :: wanted) = missingRules existing wanted := by
  rw [hasRoute_iff_mem_map] at present
  unfold missingRules
  rw [List.map_cons, List.cons_removeAll, if_neg (by simpa using present)]
  refine filterMap_firstRule?_cons (fun member => ?_) wanted
  rw [List.mem_eraseDups, List.removeAll, List.mem_filter] at member
  simp [present] at member

/-- A wanted rule whose host has none is missing, and its host has one as far as the rules behind it
are concerned. -/
theorem missingRules_cons_of_not_hasRoute (absent : ¬HasRoute existing rule.host)
    (wanted : List IngressRule) :
    missingRules existing (rule :: wanted) =
      rule :: missingRules (existing ++ [rule]) wanted := by
  rw [hasRoute_iff_mem_map] at absent
  unfold missingRules
  rw [List.map_cons, List.cons_removeAll, if_pos (by simpa using absent), List.eraseDups_cons,
    List.filterMap_cons_some (firstRule?_cons_self rule wanted), List.map_append,
    List.map_singleton, removeAll_concat]
  exact congrArg (rule :: ·) (filterMap_firstRule?_cons (by simp) wanted)

theorem appendRule_value_of_not_hasRoute (absent : ¬HasRoute existing rule.host) :
    (appendRule existing rule).value = existing ++ [rule] := by
  unfold appendRule
  rw [if_neg]
  simpa [HasRoute] using absent

end MissingRules

/-- The missing rules are wanted ones in their order. -/
theorem missingRules_sublist (existing wanted : List IngressRule) :
    (missingRules existing wanted).Sublist wanted := by
  induction wanted generalizing existing with
  | nil => exact List.Sublist.refl _
  | cons rule wanted inductionHypothesis =>
    by_cases present : HasRoute existing rule.host
    · rw [missingRules_cons_of_hasRoute present]
      exact (inductionHypothesis existing).cons rule
    · rw [missingRules_cons_of_not_hasRoute present]
      exact (inductionHypothesis _).cons_cons rule

/-! ### Adding the wanted rules -/

/-- Adding the wanted rules one after the other adds those that are missing. -/
theorem foldl_appendRule (existing wanted : List IngressRule) :
    wanted.foldl (fun rules rule => (appendRule rules rule).value) existing =
      existing ++ missingRules existing wanted := by
  induction wanted generalizing existing with
  | nil => exact (List.append_nil existing).symm
  | cons rule wanted inductionHypothesis =>
    rw [List.foldl_cons, inductionHypothesis]
    by_cases present : HasRoute existing rule.host
    · have kept : (appendRule existing rule).value = existing :=
        appendRule_value_of_unchanged rule existing
          ((appendRule_changed_eq_false_iff rule existing).mpr present)
      rw [missingRules_cons_of_hasRoute present, kept]
    · rw [missingRules_cons_of_not_hasRoute present, appendRule_value_of_not_hasRoute present,
        List.append_assoc, List.singleton_append]

theorem appendMissingRules_value (existing desired : Option (List IngressRule)) :
    (appendMissingRules existing desired).value.getD [] =
      existing.getD [] ++ missingRules (existing.getD []) (desired.getD []) := by
  obtain _ | _ | ⟨rule, wanted⟩ := desired
  · exact (List.append_nil _).symm
  · exact (List.append_nil _).symm
  · exact (appendRules_value _ _).trans (foldl_appendRule _ _)

/-- A change is reported exactly when a rule is missing. -/
theorem appendMissingRules_changed_iff (existing desired : Option (List IngressRule)) :
    (appendMissingRules existing desired).changed = true ↔
      missingRules (existing.getD []) (desired.getD []) ≠ [] := by
  rw [appendMissingRules_reports, appendMissingRules_value, Bool.not_eq_true',
    decide_eq_false_iff_not, List.self_eq_append_right]

/-- Adding the desired rules once more changes nothing and reports nothing. -/
theorem appendMissingRules_again (existing desired : Option (List IngressRule)) :
    let merged := (appendMissingRules existing desired).value
    appendMissingRules merged desired = ⟨merged, false⟩ := by
  intro merged
  have quiet : (appendMissingRules merged desired).changed = false :=
    (appendMissingRules_changed_eq_false_iff merged desired).mpr fun _ =>
      hasRoute_appendMissingRules existing desired
  exact congrArg₂ Merged.mk (appendMissingRules_value_of_unchanged quiet) quiet

/-- What the rules are after the desired ones were added, an absent list being read as empty. The
existing rules stay in front, as they were, and the missing rules follow, which are desired ones in
their order; every desired host has a rule then. A change is reported exactly when a rule was
missing, without one the list is the one that was there, absent if it was, and adding once more adds
nothing. -/
theorem missing_rules_are_appended (existing desired : Option (List IngressRule)) :
    let before := existing.getD []
    let wanted := desired.getD []
    let missing := missingRules before wanted
    let merged := appendMissingRules existing desired
    merged.value.getD [] = before ++ missing ∧
    missing.Sublist wanted ∧
    (∀ rule ∈ wanted, HasRoute (merged.value.getD []) rule.host) ∧
    (merged.changed = true ↔ missing ≠ []) ∧
    (missing = [] → merged.value = existing) ∧
    appendMissingRules merged.value desired = ⟨merged.value, false⟩ := by
  intro before wanted missing merged
  have reports : merged.changed = true ↔ missing ≠ [] :=
    appendMissingRules_changed_iff existing desired
  refine ⟨appendMissingRules_value existing desired, missingRules_sublist before wanted,
    fun rule => hasRoute_appendMissingRules existing desired, reports, fun complete => ?_,
    appendMissingRules_again existing desired⟩
  refine appendMissingRules_value_of_unchanged ((Bool.not_eq_true _).mp fun changed => ?_)
  exact reports.mp changed complete

/-- A rule of a host, or of none, that has one path. -/
def pathRule (host : Option String) (path : String) : IngressRule where
  host := host
  http := some { paths := [{ path := some path }] }

/-- Rules of which two have the same host, and two have none. -/
def doubledRules : List IngressRule :=
  [pathRule none "/", pathRule (some "api.example.com") "/", pathRule (some "new.example.com") "/",
    pathRule none "/again", pathRule (some "new.example.com") "/again"]

/-- The rule of the user stays for its host, and the first of two wanted rules is added. -/
theorem doubled_rules_are_appended_once :
    let custom := pathRule (some "api.example.com") "/custom"
    let merged := appendMissingRules (some [custom]) (some doubledRules)
    merged.value.getD [] =
      [custom, pathRule none "/", pathRule (some "new.example.com") "/"] ∧
    (pathRule none "/again" ∈ doubledRules ∧ HasRoute (merged.value.getD []) none) ∧
    merged.changed = true ∧
    (missingRules (merged.value.getD []) doubledRules = [] ∧
      (appendMissingRules merged.value (some doubledRules)).value = merged.value) := by
  intro custom merged
  obtain ⟨value, -, routes, reports, -, -⟩ :=
    missing_rules_are_appended (some [custom]) (some doubledRules)
  have missing : missingRules [custom] doubledRules =
      [pathRule none "/", pathRule (some "new.example.com") "/"] := by decide
  have member : pathRule none "/again" ∈ doubledRules := by decide
  have complete : missingRules (merged.value.getD []) doubledRules = [] := by decide
  obtain ⟨-, -, -, -, kept, -⟩ := missing_rules_are_appended merged.value (some doubledRules)
  refine ⟨value.trans (congrArg (custom :: ·) missing), ⟨member, routes _ member⟩,
    reports.mpr ?_, complete, kept complete⟩
  exact fun none => List.cons_ne_nil _ _ (missing.symm.trans none)

end GatewayOperator
