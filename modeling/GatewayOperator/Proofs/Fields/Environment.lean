/-
This file says what an environment looks like after variables were merged into it, for lists in
which a name may stand several times on either side. A variable that is merged early may be found by
a later one of the same name, so the statements are about whole runs: the names that were there stay
in front of the new ones, the last wanted variable of a name decides what the first variable of that
name carries, and every other variable is as it was, where it was. Together they leave nothing of
the merged list open.
-/

import GatewayOperator.Proofs.Fields.Unmanaged
import GatewayOperator.Proofs.Keys

namespace GatewayOperator

/-! ### Names -/

/-- The wanted names that are not there yet come behind those that are. -/
theorem names_mergeVariables (existing wanted : List EnvVar) :
    (mergeVariables existing wanted).value.map (·.name) =
      existing.map (·.name) ++
        ((wanted.map (·.name)).removeAll (existing.map (·.name))).eraseDups := by
  have step : ∀ entries entry, (mergeVariable entry entries).value.map (·.name) =
      appendMissing (entries.map (·.name)) entry.name := fun entries entry =>
    names_mergeVariable entry entries
  rw [mergeVariables_value, map_foldl_eq_foldl_appendMissing step, foldl_appendMissing]

/-! ### Values -/

/-- The last of several variables that has a name. -/
def lastNamed? (entries : List EnvVar) (name : String) : Option EnvVar :=
  entries.findRev? (·.name = name)

/-- Every name among several variables has a last one. -/
theorem exists_lastNamed? {entries : List EnvVar} {name : String}
    (member : name ∈ entries.map (·.name)) :
    ∃ before last after, entries = before ++ last :: after ∧ last.name = name ∧
      name ∉ after.map (·.name) ∧ lastNamed? entries name = some last := by
  obtain ⟨entry, isEntry, named⟩ := List.mem_map.mp member
  have present : (entries.reverse.find? (·.name = name)).isSome = true :=
    List.find?_isSome.mpr ⟨entry, List.mem_reverse.mpr isEntry, decide_eq_true named⟩
  obtain ⟨last, found⟩ := Option.isSome_iff_exists.mp present
  obtain ⟨isNamed, later, earlier, reversed, others⟩ := List.find?_eq_some_iff_append.mp found
  refine ⟨earlier.reverse, last, later.reverse, ?_, of_decide_eq_true isNamed, ?_, ?_⟩
  · rw [← List.reverse_reverse entries, reversed, List.reverse_append, List.reverse_cons,
      List.append_assoc, List.singleton_append]
  · rw [List.map_reverse, List.mem_reverse, List.mem_map]
    rintro ⟨other, inLater, same⟩
    simpa [same] using others other inLater
  · unfold lastNamed?
    rw [List.findRev?_eq_find?_reverse]
    exact found

/-! ### Places -/

/-- A variable earlier in the list has the name of the one at a position, and is found in its
stead. -/
def Hidden (entries : List EnvVar) (position : Nat) : Prop :=
  ∃ earlier < position, (entries.map (·.name))[earlier]? = (entries.map (·.name))[position]?

/-- Merging a variable leaves the variables of other names where they are, and those that are
hidden. -/
theorem getElem?_mergeVariable (wanted : EnvVar) {entries : List EnvVar} {position : Nat}
    {entry : EnvVar} (found : entries[position]? = some entry)
    (spared : entry.name ≠ wanted.name ∨ Hidden entries position) :
    (mergeVariable wanted entries).value[position]? = some entry := by
  induction entries generalizing position with
  | nil => cases found
  | cons current rest inductionHypothesis =>
    unfold mergeVariable
    by_cases here : current.name = wanted.name
    · rw [if_pos here]
      cases position with
      | zero =>
        cases found
        rcases spared with different | ⟨earlier, before, -⟩
        · exact absurd here different
        · exact absurd before (Nat.not_lt_zero earlier)
      | succ position =>
        split <;> exact found
    · rw [if_neg here]
      cases position with
      | zero => exact found
      | succ position =>
        refine inductionHypothesis found ?_
        rcases spared with different | ⟨earlier, before, same⟩
        · exact Or.inl different
        · cases earlier with
          | zero =>
            -- It is hidden by the variable in front, which is of another name than the wanted one.
            have named : some current.name = rest[position]?.map (·.name) := by
              simpa using same
            rw [show rest[position]? = some entry from found] at named
            exact Or.inl fun wantedName => here ((Option.some.inj named).trans wantedName)
          | succ earlier => exact Or.inr ⟨earlier, Nat.lt_of_succ_lt_succ before, same⟩

/-- Variables before and after a merge: the names stay in front, and so does every variable that is
not wanted or that is hidden. -/
structure PlacesKept (wanted before after : List EnvVar) : Prop where
  names : before.map (·.name) <+: after.map (·.name)
  kept : ∀ position entry, before[position]? = some entry →
    entry.name ∉ wanted.map (·.name) ∨ Hidden before position → after[position]? = some entry

/-- What is hidden stays so when the names stay in front. -/
theorem Hidden.of_prefix {before after : List EnvVar} {position : Nat}
    (hidden : Hidden before position) (names : before.map (·.name) <+: after.map (·.name))
    (bound : position < before.length) : Hidden after position := by
  obtain ⟨earlier, isEarlier, same⟩ := hidden
  have there : ∀ index < before.length,
      (after.map (·.name))[index]? = (before.map (·.name))[index]? := fun index inside => by
    rw [← List.length_map] at inside
    rw [List.prefix_iff_getElem?.mp names index inside, List.getElem?_eq_getElem inside]
  refine ⟨earlier, isEarlier, ?_⟩
  rw [there earlier (Nat.lt_trans isEarlier bound), there position bound, same]

theorem PlacesKept.trans {wanted first second third : List EnvVar}
    (before : PlacesKept wanted first second) (after : PlacesKept wanted second third) :
    PlacesKept wanted first third where
  names := before.names.trans after.names
  kept position entry found spared := by
    have bound : position < first.length := (List.getElem?_eq_some_iff.mp found).1
    exact after.kept position entry (before.kept position entry found spared)
      (spared.imp_right fun hidden => hidden.of_prefix before.names bound)

theorem placesKept_mergeVariables (existing wanted : List EnvVar) :
    PlacesKept wanted existing (mergeVariables existing wanted).value := by
  have refl : ∀ entries, PlacesKept wanted entries entries := fun entries =>
    ⟨List.prefix_refl _, fun _ _ found _ => found⟩
  have step : ∀ head ∈ wanted, ∀ entries,
      PlacesKept wanted entries (mergeVariable head entries).value := by
    intro head member entries
    refine ⟨names_prefix_mergeVariable head entries, fun position entry found spared => ?_⟩
    refine getElem?_mergeVariable head found (spared.imp_left fun unwanted same => ?_)
    exact unwanted (same ▸ List.mem_map_of_mem member)
  exact mergeAll_relates mergeVariable refl PlacesKept.trans step existing

/-! ### Merged environments -/

/-- What an environment looks like after variables were merged into it, an absent list being read as
empty. The names are those that were there, in their order, and then the wanted ones that were not,
once each in the order in which they come first. For every wanted name, the first variable of that
name has the value and the source of the last wanted one. A variable that was there and is not
wanted is unchanged at its position, and so is one behind another variable of its name. When the
wanted names differ, a change is reported exactly when there is one. -/
theorem merged_environment (existing desired : Option (List EnvVar)) :
    let before := existing.getD []
    let wanted := desired.getD []
    let merged := mergeEnvironment existing desired
    let after := merged.value.getD []
    after.map (·.name) = before.map (·.name) ++
      ((wanted.map (·.name)).removeAll (before.map (·.name))).eraseDups ∧
    (∀ name ∈ wanted.map (·.name), ∃ last, lastNamed? wanted name = some last ∧
      ∃ current, after.find? (·.name = name) = some current ∧
        current.value = last.value ∧ current.valueFrom = last.valueFrom) ∧
    (∀ position entry, before[position]? = some entry →
      entry.name ∉ wanted.map (·.name) ∨ Hidden before position →
      after[position]? = some entry) ∧
    ((wanted.map (·.name)).Nodup → (merged.changed = true ↔ after ≠ before)) := by
  intro before wanted merged after
  have isAfter : after = (mergeVariables before wanted).value := by
    show (mergeEnvironment existing desired).value.getD [] = _
    obtain _ | _ | ⟨entry, others⟩ := desired <;> rfl
  refine ⟨?_, fun name member => ?_, ?_, fun distinct => ?_⟩
  · rw [isAfter, names_mergeVariables]
  · obtain ⟨earlier, last, later, split, rfl, isLast, found⟩ := exists_lastNamed? member
    refine ⟨last, found, ?_⟩
    rw [isAfter, split]
    exact provides_mergeVariables_last before earlier later isLast
  · rw [isAfter]
    exact (placesKept_mergeVariables before wanted).kept
  · have reports : merged.changed = !decide (before = after) :=
      mergeEnvironment_reports distinct existing
    rw [reports, Bool.not_eq_true', decide_eq_false_iff_not, ne_comm]

/-- An environment in which a name stands twice. -/
def doubledEnvironment : List EnvVar :=
  [.ofValue "RESOLVER" "10.0.0.1", .ofValue "APICAST_WORKERS" "4", .ofValue "RESOLVER" "10.0.0.2"]

/-- Of two levels that are wanted the last one counts, and it comes behind the variables that were
there. The first resolver gets the wanted value, and the one that it hides keeps its own. -/
theorem doubled_environment_is_merged :
    let desired := some [.ofValue "APICAST_LOG_LEVEL" "info", .ofValue "RESOLVER" "10.0.0.3",
      .ofValue "APICAST_LOG_LEVEL" "debug"]
    let after := (mergeEnvironment (some doubledEnvironment) desired).value.getD []
    let fewer := mergeEnvironment (some doubledEnvironment) (some [.ofValue "APICAST_WORKERS" "4"])
    after.map (·.name) = ["RESOLVER", "APICAST_WORKERS", "RESOLVER", "APICAST_LOG_LEVEL"] ∧
    (∃ current, after.find? (·.name = "APICAST_LOG_LEVEL") = some current ∧
      current.value = some "debug") ∧
    (doubledEnvironment[1]? = some (.ofValue "APICAST_WORKERS" "4") ∧
      after[1]? = some (.ofValue "APICAST_WORKERS" "4")) ∧
    (Hidden doubledEnvironment 2 ∧ after[2]? = some (.ofValue "RESOLVER" "10.0.0.2")) ∧
    (fewer.changed = true ↔ fewer.value.getD [] ≠ doubledEnvironment) := by
  intro desired after fewer
  obtain ⟨names, values, kept, -⟩ := merged_environment (some doubledEnvironment) desired
  obtain ⟨-, -, -, reports⟩ :=
    merged_environment (some doubledEnvironment) (some [.ofValue "APICAST_WORKERS" "4"])
  have hidden : Hidden doubledEnvironment 2 := ⟨0, by decide, rfl⟩
  refine ⟨names.trans (by decide), ?_, ⟨rfl, kept 1 _ rfl (Or.inl (by decide))⟩,
    ⟨hidden, kept 2 _ rfl (Or.inr hidden)⟩, reports (by decide)⟩
  obtain ⟨last, isLast, current, isFirst, value, -⟩ := values "APICAST_LOG_LEVEL" (by decide)
  have isDebug : last = .ofValue "APICAST_LOG_LEVEL" "debug" :=
    Option.some.inj (isLast.symm.trans (by decide))
  exact ⟨current, isFirst, value.trans (congrArg EnvVar.value isDebug)⟩

end GatewayOperator
