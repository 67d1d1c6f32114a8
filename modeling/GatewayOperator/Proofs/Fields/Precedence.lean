/-
This file says when the wanted variables win over those that an environment has. A merge brings the
first variable of a wanted name to the wanted value and looks no further, but of two variables of
one name the container gets the last one. So a variable that stands behind another of its name keeps
its value, and when that is not the wanted one it is in effect, though no change is reported. Every
variable of a wanted name that differs after a merge is such a one, and it was there before.
-/

import GatewayOperator.Proofs.Fields.Environment

namespace GatewayOperator

/-- A variable has the value and the source of a wanted one. -/
def EnvVar.Carries (entry wanted : EnvVar) : Prop :=
  entry.value = wanted.value ∧ entry.valueFrom = wanted.valueFrom

instance (entry wanted : EnvVar) : Decidable (entry.Carries wanted) :=
  inferInstanceAs (Decidable (entry.value = wanted.value ∧ entry.valueFrom = wanted.valueFrom))

/-- Every variable of a wanted name is as it is wanted. -/
def WantedWin (wanted entries : List EnvVar) : Prop :=
  ∀ entry ∈ entries, ∀ want ∈ wanted, entry.name = want.name → entry.Carries want

instance (wanted entries : List EnvVar) : Decidable (WantedWin wanted entries) :=
  inferInstanceAs (Decidable
    (∀ entry ∈ entries, ∀ want ∈ wanted, entry.name = want.name → entry.Carries want))

/-! ### Hidden variables -/

/-- A variable that is not hidden is the first one of its name. -/
theorem find?_name_of_not_hidden {entries : List EnvVar} {position : Nat} {entry : EnvVar}
    (found : entries[position]? = some entry) (visible : ¬Hidden entries position) :
    entries.find? (·.name = entry.name) = some entry := by
  obtain ⟨bound, isEntry⟩ := List.getElem?_eq_some_iff.mp found
  refine List.find?_eq_some_iff_getElem.mpr ⟨decide_eq_true rfl, position, bound, isEntry, ?_⟩
  intro earlier isEarlier
  rw [Bool.not_eq_true', decide_eq_false_iff_not]
  intro sameName
  have inside := Nat.lt_trans isEarlier bound
  refine visible ⟨earlier, isEarlier, ?_⟩
  simp [found, List.getElem?_eq_getElem inside, sameName]

/-- Where no two names are the same, no variable is hidden. -/
theorem not_hidden_of_nodup {entries : List EnvVar} (distinct : (entries.map (·.name)).Nodup)
    {position : Nat} (bound : position < entries.length) : ¬Hidden entries position := by
  rintro ⟨earlier, isEarlier, same⟩
  have inside : earlier < (entries.map (·.name)).length := by
    rw [List.length_map]
    exact Nat.lt_trans isEarlier bound
  exact Nat.ne_of_lt isEarlier ((List.getElem?_inj inside distinct).mp same)

/-- Every variable that is hidden in the second environment was hidden in the first one. -/
def HidesNoMore (before after : List EnvVar) : Prop :=
  ∀ position < after.length, Hidden after position →
    position < before.length ∧ Hidden before position

/-- A name that a merge adds was not there, so nothing hides its variable. -/
theorem hidesNoMore_mergeVariable (wanted : EnvVar) (entries : List EnvVar) :
    HidesNoMore entries (mergeVariable wanted entries).value := by
  rintro position bound ⟨earlier, isEarlier, same⟩
  have names := names_mergeVariable wanted entries
  rw [← List.length_map (·.name)] at bound
  unfold Hidden
  rw [← List.length_map (·.name)]
  rw [names] at bound same
  by_cases present : wanted.name ∈ entries.map (·.name)
  · rw [if_pos present] at bound same
    exact ⟨bound, earlier, isEarlier, same⟩
  · rw [if_neg present] at bound same
    rw [List.length_append, List.length_singleton] at bound
    rw [List.getElem?_append_left (by omega)] at same
    rcases Nat.lt_succ_iff_lt_or_eq.mp bound with old | rfl
    · rw [List.getElem?_append_left old] at same
      exact ⟨old, earlier, isEarlier, same⟩
    · rw [List.getElem?_concat_length] at same
      exact absurd (List.mem_of_getElem? same) present

theorem hidesNoMore_mergeVariables (existing wanted : List EnvVar) :
    HidesNoMore existing (mergeVariables existing wanted).value :=
  mergeAll_relates mergeVariable (fun _ _ bound hidden => ⟨bound, hidden⟩)
    (fun first second position bound hidden =>
      have between := second position bound hidden
      first position between.1 between.2)
    (fun wanted _ entries => hidesNoMore_mergeVariable wanted entries) existing

/-! ### Who wins -/

/-- A variable of a wanted name that is not as it is wanted after a merge is hidden behind another
of its name, and it was there before. -/
theorem hidden_of_not_carries {existing wanted : List EnvVar}
    (distinct : (wanted.map (·.name)).Nodup) {position : Nat} {entry want : EnvVar}
    (found : (mergeVariables existing wanted).value[position]? = some entry)
    (member : want ∈ wanted) (named : entry.name = want.name) (differs : ¬entry.Carries want) :
    existing[position]? = some entry ∧ Hidden existing position := by
  have bound := (List.getElem?_eq_some_iff.mp found).1
  by_cases hidden : Hidden (mergeVariables existing wanted).value position
  · obtain ⟨inside, wasHidden⟩ := hidesNoMore_mergeVariables existing wanted position bound hidden
    have kept := (placesKept_mergeVariables existing wanted).kept position existing[position]
      (List.getElem?_eq_getElem inside) (Or.inr wasHidden)
    rw [found] at kept
    rw [List.getElem?_eq_getElem inside]
    exact ⟨kept.symm, wasHidden⟩
  · obtain ⟨current, isFirst, provided⟩ := provides_mergeVariables distinct existing member
    have isEntry := find?_name_of_not_hidden found hidden
    rw [named, isFirst] at isEntry
    cases isEntry
    exact absurd provided differs

/-- When the wanted names differ, every variable of a wanted name is as it is wanted after a merge,
except for those that were hidden behind another of their name: they keep their values. So the
wanted variables win exactly when what was hidden says the same, and always when no two of the
present names are the same. -/
theorem wanted_variables_win_iff {existing desired : Option (List EnvVar)}
    (distinct : ((desired.getD []).map (·.name)).Nodup) :
    let before := existing.getD []
    let wanted := desired.getD []
    let after := (mergeEnvironment existing desired).value.getD []
    (∀ position entry, ∀ want ∈ wanted, entry.name = want.name → ¬entry.Carries want →
      (after[position]? = some entry ↔ before[position]? = some entry ∧ Hidden before position)) ∧
    (WantedWin wanted after ↔ ∀ position entry, before[position]? = some entry →
      Hidden before position → ∀ want ∈ wanted, entry.name = want.name → entry.Carries want) ∧
    ((before.map (·.name)).Nodup → WantedWin wanted after) := by
  intro before wanted after
  have isAfter : after = (mergeVariables before wanted).value := by
    show (mergeEnvironment existing desired).value.getD [] = _
    obtain _ | _ | ⟨entry, others⟩ := desired <;> rfl
  have left : ∀ position entry, ∀ want ∈ wanted, entry.name = want.name → ¬entry.Carries want →
      (after[position]? = some entry ↔
        before[position]? = some entry ∧ Hidden before position) := by
    intro position entry want member named differs
    rw [isAfter]
    refine ⟨fun found => hidden_of_not_carries distinct found member named differs, ?_⟩
    rintro ⟨found, hidden⟩
    exact (placesKept_mergeVariables before wanted).kept position entry found (Or.inr hidden)
  have wins : WantedWin wanted after ↔ ∀ position entry, before[position]? = some entry →
      Hidden before position → ∀ want ∈ wanted, entry.name = want.name → entry.Carries want := by
    constructor
    · intro win position entry found hidden want member named
      by_contra differs
      have stays := (left position entry want member named differs).mpr ⟨found, hidden⟩
      exact differs (win entry (List.mem_of_getElem? stays) want member named)
    · intro agree entry inAfter want member named
      by_contra differs
      obtain ⟨position, found⟩ := List.mem_iff_getElem?.mp inAfter
      obtain ⟨was, hidden⟩ := (left position entry want member named differs).mp found
      exact differs (agree position entry was hidden want member named)
  refine ⟨left, wins, fun differ => wins.mpr fun position entry found hidden => ?_⟩
  exact absurd hidden (not_hidden_of_nodup differ (List.getElem?_eq_some_iff.mp found).1)

/-- A resolver is wanted that both variables of its name contradict. -/
def wantedResolver : List EnvVar := [.ofValue "RESOLVER" "10.0.0.3"]

/-- The first resolver is brought to the wanted address, and the one behind it keeps its own. -/
theorem hidden_resolver_stays :
    (wantedResolver.map (·.name)).Nodup ∧
    let after := (mergeEnvironment (some doubledEnvironment) (some wantedResolver)).value.getD []
    ¬WantedWin wantedResolver after ∧
    (after[2]? = some (.ofValue "RESOLVER" "10.0.0.2") ↔
      doubledEnvironment[2]? = some (.ofValue "RESOLVER" "10.0.0.2") ∧
        Hidden doubledEnvironment 2) := by
  have distinct : (wantedResolver.map (·.name)).Nodup := by decide
  obtain ⟨left, wins, -⟩ :=
    @wanted_variables_win_iff (some doubledEnvironment) (some wantedResolver) distinct
  refine ⟨distinct, fun win => ?_, left 2 _ _ List.mem_cons_self rfl (by decide)⟩
  have carries := wins.mp win 2 (.ofValue "RESOLVER" "10.0.0.2") rfl ⟨0, by decide, rfl⟩
    (.ofValue "RESOLVER" "10.0.0.3") List.mem_cons_self rfl
  exact absurd carries (by decide)

/-- Two levels of one name, of which the second one is in effect. -/
def doubledLevels : List EnvVar :=
  [.ofValue "APICAST_LOG_LEVEL" "debug", .ofValue "APICAST_LOG_LEVEL" "warn"]

/-- The wanted level is the first of the two, so the merge sees nothing to do, and the level that is
in effect is not the wanted one. -/
theorem hidden_level_stays_in_effect :
    let wanted : List EnvVar := [.ofValue "APICAST_LOG_LEVEL" "debug"]
    let merged := mergeEnvironment (some doubledLevels) (some wanted)
    (wanted.map (·.name)).Nodup ∧ merged = ⟨some doubledLevels, false⟩ ∧
      lastNamed? (merged.value.getD []) "APICAST_LOG_LEVEL" =
        some (.ofValue "APICAST_LOG_LEVEL" "warn") ∧
      ¬WantedWin wanted (merged.value.getD []) := by
  decide

end GatewayOperator
