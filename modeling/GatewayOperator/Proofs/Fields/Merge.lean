/-
This file says when a merge reports no change, and that every merge reports none on its own
result. A collection is unchanged exactly when its members are those of the desired one, counted;
environment variables are unchanged exactly when the first variable of every wanted name has the
wanted value and source; routes are unchanged exactly when every wanted host has one. A merge that
reports no change leaves the value as it was. A table reports the fields whose merges report a
change.
-/

import GatewayOperator.Fields.Table
import Mathlib.Data.List.Perm.Subperm

namespace GatewayOperator

/-! ### Collections -/

/-- Two lists have the same members exactly when one is a permutation of the other. Counting the
members of one side is enough because the lengths agree. -/
theorem sameMembers_iff_perm {Item : Type} [DecidableEq Item] (first second : List Item) :
    Collection.sameMembers first second = true ↔ first.Perm second := by
  show (first.length == second.length &&
    first.all fun item => first.count item == second.count item) = true ↔ _
  rw [Bool.and_eq_true, beq_iff_eq, List.all_eq_true]
  constructor
  · rintro ⟨sameLength, sameCounts⟩
    refine List.Subperm.perm_of_length_le (List.subperm_ext_iff.mpr fun item member => ?_)
      (Nat.le_of_eq sameLength.symm)
    exact Nat.le_of_eq (beq_iff_eq.mp (sameCounts item member))
  · intro permuted
    exact ⟨permuted.length_eq, fun item _ => beq_iff_eq.mpr (permuted.count_eq item)⟩

/-- Two optional lists count as the same exactly when they are permutations of each other, an
absent one being read as empty. -/
theorem sameCollection_iff_perm {Item : Type} [DecidableEq Item]
    (first second : Option (List Item)) :
    sameCollection first second = true ↔ (first.getD []).Perm (second.getD []) := by
  have vacant : ∀ items : List Item, isVacant (some items) = true ↔ items = [] := fun _ =>
    List.isEmpty_iff
  cases first with
  | none =>
    cases second with
    | none => exact ⟨fun _ => List.Perm.refl _, fun _ => rfl⟩
    | some items =>
      show (true && isVacant (some items)) = true ↔ _
      rw [Bool.true_and, vacant, Option.getD_none, Option.getD_some, List.nil_perm]
  | some items =>
    cases second with
    | none =>
      show (isVacant (some items) && true) = true ↔ _
      rw [Bool.and_true, vacant, Option.getD_none, Option.getD_some, List.perm_nil]
    | some others => exact sameMembers_iff_perm items others

/-- Two optional maps count as the same exactly when they are equal, an absent one being read as
empty. -/
theorem sameCollection_iff_eq {Value : Type} [DecidableEq Value]
    (first second : Option (Map Value)) :
    sameCollection first second = true ↔ first.getD Map.empty = second.getD Map.empty := by
  have vacant : ∀ map : Map Value, isVacant (some map) = true ↔ map = Map.empty := fun map =>
    Iff.trans List.isEmpty_iff ⟨fun none => Map.ext none, fun same => same ▸ rfl⟩
  cases first with
  | none =>
    cases second with
    | none => exact ⟨fun _ => rfl, fun _ => rfl⟩
    | some map =>
      show (true && isVacant (some map)) = true ↔ _
      rw [Bool.true_and, vacant]
      exact eq_comm
  | some map =>
    cases second with
    | none =>
      show (isVacant (some map) && true) = true ↔ _
      rw [Bool.and_true, vacant]
      rfl
    | some other => exact beq_iff_eq

/-- Collections that have the same members as themselves. -/
class LawfulCollection (Items : Type) [Collection Items] : Prop where
  sameMembers_self : ∀ items : Items, Collection.sameMembers items items = true

instance {Item : Type} [DecidableEq Item] : LawfulCollection (List Item) where
  sameMembers_self items := (sameMembers_iff_perm items items).mpr (List.Perm.refl items)

instance {Value : Type} [DecidableEq Value] : LawfulCollection (Map Value) where
  sameMembers_self map := beq_self_eq_true map

theorem sameCollection_self {Items : Type} [Collection Items] [LawfulCollection Items]
    (items : Option Items) : sameCollection items items = true := by
  cases items with
  | none => rfl
  | some items => exact LawfulCollection.sameMembers_self items

theorem replaceCollection_changed {Items : Type} [Collection Items]
    (existing desired : Option Items) :
    (replaceCollection existing desired).changed = !sameCollection existing desired := by
  unfold replaceCollection
  split
  · next same => rw [same]; rfl
  · next differs => rw [Bool.not_eq_true] at differs; rw [differs]; rfl

/-- A replaced collection has the desired members. -/
theorem sameCollection_replaceCollection {Items : Type} [Collection Items]
    [LawfulCollection Items] (existing desired : Option Items) :
    sameCollection (replaceCollection existing desired).value desired = true := by
  unfold replaceCollection
  split
  · next same => exact same
  · exact sameCollection_self desired

theorem replaceCollection_value_of_same {Items : Type} [Collection Items]
    {existing desired : Option Items} (same : sameCollection existing desired = true) :
    (replaceCollection existing desired).value = existing := by
  unfold replaceCollection
  rw [if_pos same]
  rfl

theorem replaceCollection_value_of_differs {Items : Type} [Collection Items]
    {existing desired : Option Items} (differs : sameCollection existing desired = false) :
    (replaceCollection existing desired).value = desired := by
  unfold replaceCollection
  rw [differs]
  rfl

/-! ### Merging several entries -/

/-- Merges several entries one after the other. -/
def mergeAll {Entry Value : Type} (merge : Entry → Value → Merged Value) (existing : Value)
    (entries : List Entry) : Merged Value :=
  entries.foldl
    (fun merged entry =>
      let next := merge entry merged.value
      ⟨next.value, merged.changed || next.changed⟩)
    (.unchanged existing)

section MergeAll

variable {Entry Value : Type} (merge : Entry → Value → Merged Value)

theorem foldl_merge_value (entries : List Entry) (merged : Merged Value) :
    (entries.foldl
      (fun merged entry =>
        let next := merge entry merged.value
        ⟨next.value, merged.changed || next.changed⟩) merged).value =
      entries.foldl (fun value entry => (merge entry value).value) merged.value := by
  induction entries generalizing merged with
  | nil => rfl
  | cons entry entries inductionHypothesis => exact inductionHypothesis _

theorem mergeAll_value (existing : Value) (entries : List Entry) :
    (mergeAll merge existing entries).value =
      entries.foldl (fun value entry => (merge entry value).value) existing :=
  foldl_merge_value merge entries (.unchanged existing)

/-- Merging several entries changes nothing exactly when none of them would change the existing
value: an entry that changes nothing leaves the next one to the same value. -/
theorem mergeAll_changed_eq_false_iff
    (keeps : ∀ entry value, (merge entry value).changed = false → (merge entry value).value = value)
    (existing : Value) (entries : List Entry) :
    (mergeAll merge existing entries).changed = false ↔
      ∀ entry ∈ entries, (merge entry existing).changed = false := by
  suffices general : ∀ merged : Merged Value,
      (entries.foldl
        (fun merged entry =>
          let next := merge entry merged.value
          ⟨next.value, merged.changed || next.changed⟩) merged).changed = false ↔
        merged.changed = false ∧
          ∀ entry ∈ entries, (merge entry merged.value).changed = false by
    exact Iff.trans (general (.unchanged existing)) ⟨fun unchanged => unchanged.2,
      fun unchanged => ⟨rfl, unchanged⟩⟩
  intro merged
  induction entries generalizing merged with
  | nil => exact ⟨fun unchanged => ⟨unchanged, nofun⟩, fun unchanged => unchanged.1⟩
  | cons entry entries inductionHypothesis =>
    refine Iff.trans (inductionHypothesis _) ?_
    simp only [Bool.or_eq_false_iff, List.forall_mem_cons, and_assoc]
    refine and_congr_right fun _ => and_congr_right fun unchanged => ?_
    rw [keeps entry merged.value unchanged]

end MergeAll

/-- Merging several entries leaves a value alone that none of them would change. -/
theorem mergeAll_value_of_unchanged {Entry Value : Type} {merge : Entry → Value → Merged Value}
    (keeps : ∀ entry value, (merge entry value).changed = false →
      (merge entry value).value = value)
    {existing : Value} {entries : List Entry}
    (unchanged : (mergeAll merge existing entries).changed = false) :
    (mergeAll merge existing entries).value = existing := by
  rw [mergeAll_changed_eq_false_iff merge keeps] at unchanged
  rw [mergeAll_value]
  induction entries with
  | nil => rfl
  | cons entry entries inductionHypothesis =>
    rw [List.forall_mem_cons] at unchanged
    rw [List.foldl_cons, keeps entry existing unchanged.1]
    exact inductionHypothesis unchanged.2

/-- A list that entries are merged into stays absent when nothing changes, because an entry that
finds nothing there is added. -/
theorem mergeAll_some_value_of_unchanged {Entry Item : Type}
    (merge : Entry → List Item → Merged (List Item))
    (keeps : ∀ entry items, (merge entry items).changed = false →
      (merge entry items).value = items)
    (adds : ∀ entry, (merge entry []).changed = true) {existing : Option (List Item)}
    {entry : Entry} {entries : List Entry}
    (unchanged : (mergeAll merge (existing.getD []) (entry :: entries)).changed = false) :
    some (mergeAll merge (existing.getD []) (entry :: entries)).value = existing := by
  rw [mergeAll_value_of_unchanged keeps unchanged]
  cases existing with
  | some items => rfl
  | none =>
    rw [mergeAll_changed_eq_false_iff merge keeps, List.forall_mem_cons] at unchanged
    have added := adds entry
    rw [show (merge entry []).changed = false from unchanged.1] at added
    cases added

/-! ### Environment variables -/

/-- The first variable of a wanted name has the wanted value and source. -/
def Provides (entries : List EnvVar) (wanted : EnvVar) : Prop :=
  ∃ current, entries.find? (·.name = wanted.name) = some current ∧
    current.value = wanted.value ∧ current.valueFrom = wanted.valueFrom

theorem mergeVariable_changed_eq_false_iff (wanted : EnvVar) (entries : List EnvVar) :
    (mergeVariable wanted entries).changed = false ↔ Provides entries wanted := by
  induction entries with
  | nil => exact ⟨nofun, fun ⟨_, found, _⟩ => nomatch found⟩
  | cons current rest inductionHypothesis =>
    unfold mergeVariable Provides
    by_cases here : current.name = wanted.name
    · rw [if_pos here, List.find?_cons_of_pos (by simpa using here)]
      by_cases same : current.value = wanted.value ∧ current.valueFrom = wanted.valueFrom
      · rw [if_pos same]
        exact ⟨fun _ => ⟨current, rfl, same⟩, fun _ => rfl⟩
      · rw [if_neg same]
        refine ⟨nofun, fun ⟨_, found, provided⟩ => ?_⟩
        cases found
        exact absurd provided same
    · rw [if_neg here, List.find?_cons_of_neg (by simpa using here)]
      exact inductionHypothesis

theorem mergeVariable_value_of_unchanged (wanted : EnvVar) (entries : List EnvVar)
    (unchanged : (mergeVariable wanted entries).changed = false) :
    (mergeVariable wanted entries).value = entries := by
  induction entries with
  | nil => cases unchanged
  | cons current rest inductionHypothesis =>
    unfold mergeVariable at unchanged ⊢
    by_cases here : current.name = wanted.name
    · rw [if_pos here] at unchanged ⊢
      by_cases same : current.value = wanted.value ∧ current.valueFrom = wanted.valueFrom
      · rw [if_pos same]
        rfl
      · rw [if_neg same] at unchanged
        cases unchanged
    · rw [if_neg here] at unchanged ⊢
      exact congrArg (current :: ·) (inductionHypothesis unchanged)

/-- A merged variable is provided. -/
theorem provides_mergeVariable (wanted : EnvVar) (entries : List EnvVar) :
    Provides (mergeVariable wanted entries).value wanted := by
  induction entries with
  | nil =>
    exact ⟨wanted, List.find?_cons_of_pos (by simp), rfl, rfl⟩
  | cons current rest inductionHypothesis =>
    unfold mergeVariable
    by_cases here : current.name = wanted.name
    · rw [if_pos here]
      by_cases same : current.value = wanted.value ∧ current.valueFrom = wanted.valueFrom
      · rw [if_pos same]
        exact ⟨current, List.find?_cons_of_pos (by simpa using here), same⟩
      · rw [if_neg same]
        exact ⟨_, List.find?_cons_of_pos (by simpa using here), rfl, rfl⟩
    · rw [if_neg here]
      obtain ⟨found, isFirst, provided⟩ := inductionHypothesis
      exact ⟨found, (List.find?_cons_of_neg (by simpa using here)).trans isFirst, provided⟩

/-- Merging a variable leaves the first variable of every other name. -/
theorem find?_mergeVariable_other (wanted : EnvVar) (entries : List EnvVar) {name : String}
    (different : wanted.name ≠ name) :
    (mergeVariable wanted entries).value.find? (·.name = name) =
      entries.find? (·.name = name) := by
  induction entries with
  | nil => exact List.find?_cons_of_neg (by simpa using different)
  | cons current rest inductionHypothesis =>
    unfold mergeVariable
    by_cases here : current.name = wanted.name
    · have notHere : ¬current.name = name := fun same => different (here.symm.trans same)
      rw [if_pos here]
      split
      · rfl
      · rw [List.find?_cons_of_neg (by simpa using notHere),
          List.find?_cons_of_neg (by simpa using notHere)]
    · rw [if_neg here]
      show List.find? _ (current :: (mergeVariable wanted rest).value) = _
      by_cases found : current.name = name
      · rw [List.find?_cons_of_pos (by simpa using found),
          List.find?_cons_of_pos (by simpa using found)]
      · rw [List.find?_cons_of_neg (by simpa using found),
          List.find?_cons_of_neg (by simpa using found), inductionHypothesis]

theorem find?_foldl_mergeVariable_other (wanted existing : List EnvVar) {name : String}
    (different : name ∉ wanted.map (·.name)) :
    (wanted.foldl (fun entries entry => (mergeVariable entry entries).value) existing).find?
      (·.name = name) = existing.find? (·.name = name) := by
  induction wanted generalizing existing with
  | nil => rfl
  | cons entry wanted inductionHypothesis =>
    rw [List.map_cons, List.mem_cons, not_or] at different
    rw [List.foldl_cons, inductionHypothesis _ different.2,
      find?_mergeVariable_other entry existing (Ne.symm different.1)]

theorem mergeVariables_value (existing wanted : List EnvVar) :
    (mergeVariables existing wanted).value =
      wanted.foldl (fun entries entry => (mergeVariable entry entries).value) existing :=
  mergeAll_value mergeVariable existing wanted

/-- Of the wanted variables of one name the last one is provided. -/
theorem provides_mergeVariables_last (existing before after : List EnvVar) {last : EnvVar}
    (isLast : last.name ∉ after.map (·.name)) :
    Provides (mergeVariables existing (before ++ last :: after)).value last := by
  rw [mergeVariables_value, List.foldl_append, List.foldl_cons]
  obtain ⟨current, isFirst, provided⟩ := provides_mergeVariable last
    (before.foldl (fun entries entry => (mergeVariable entry entries).value) existing)
  exact ⟨current, (find?_foldl_mergeVariable_other after _ isLast).trans isFirst, provided⟩

/-- Merged variables are all provided when their names differ. Of two variables of one name only
the second would be. -/
theorem provides_mergeVariables {wanted : List EnvVar} (distinct : (wanted.map (·.name)).Nodup)
    (existing : List EnvVar) {entry : EnvVar} (member : entry ∈ wanted) :
    Provides (mergeVariables existing wanted).value entry := by
  obtain ⟨before, after, rfl⟩ := List.append_of_mem member
  rw [List.map_append, List.map_cons, List.nodup_append, List.nodup_cons] at distinct
  exact provides_mergeVariables_last existing before after distinct.2.1.1

/-- A variable is found under its name when the names differ. -/
theorem find?_name_of_mem {entries : List EnvVar} (distinct : (entries.map (·.name)).Nodup)
    {entry : EnvVar} (member : entry ∈ entries) :
    entries.find? (·.name = entry.name) = some entry := by
  induction entries with
  | nil => cases member
  | cons head entries inductionHypothesis =>
    rw [List.map_cons, List.nodup_cons] at distinct
    rcases List.mem_cons.mp member with rfl | inRest
    · exact List.find?_cons_of_pos (by simp)
    · have different : head.name ≠ entry.name := fun same =>
        distinct.1 (same ▸ List.mem_map_of_mem inRest)
      rw [List.find?_cons_of_neg (by simpa using different)]
      exact inductionHypothesis distinct.2 inRest

/-- Variables with different names provide themselves. -/
theorem provides_self {entries : List EnvVar} (distinct : (entries.map (·.name)).Nodup)
    {entry : EnvVar} (member : entry ∈ entries) : Provides entries entry :=
  ⟨entry, find?_name_of_mem distinct member, rfl, rfl⟩

/-- An environment is unchanged exactly when it provides every wanted variable. -/
theorem mergeEnvironment_changed_eq_false_iff (existing desired : Option (List EnvVar)) :
    (mergeEnvironment existing desired).changed = false ↔
      ∀ entry ∈ desired.getD [], Provides (existing.getD []) entry := by
  have merging : ∀ wanted : List EnvVar,
      (mergeVariables (existing.getD []) wanted).changed = false ↔
        ∀ entry ∈ wanted, Provides (existing.getD []) entry := fun wanted =>
    Iff.trans (mergeAll_changed_eq_false_iff mergeVariable mergeVariable_value_of_unchanged
      (existing.getD []) wanted)
      (forall₂_congr fun entry _ => mergeVariable_changed_eq_false_iff entry _)
  unfold mergeEnvironment
  split
  · exact ⟨fun _ entry member => (List.not_mem_nil member).elim, fun _ => rfl⟩
  · exact ⟨fun _ entry member => (List.not_mem_nil member).elim, fun _ => rfl⟩
  · exact merging _

/-- An environment that is reported as unchanged stays as it is. -/
theorem mergeEnvironment_value_of_unchanged {existing desired : Option (List EnvVar)}
    (unchanged : (mergeEnvironment existing desired).changed = false) :
    (mergeEnvironment existing desired).value = existing := by
  obtain _ | _ | ⟨entry, wanted⟩ := desired
  · rfl
  · rfl
  · exact mergeAll_some_value_of_unchanged mergeVariable mergeVariable_value_of_unchanged
      (fun _ => rfl) unchanged

/-- A merged environment provides every wanted variable. -/
theorem provides_mergeEnvironment {desired : Option (List EnvVar)}
    (distinct : ((desired.getD []).map (·.name)).Nodup) (existing : Option (List EnvVar))
    {entry : EnvVar} (member : entry ∈ desired.getD []) :
    Provides ((mergeEnvironment existing desired).value.getD []) entry := by
  unfold mergeEnvironment
  split
  · cases member
  · cases member
  · exact provides_mergeVariables distinct _ member

/-- Merging a variable adds its name behind the others, unless it is there. -/
theorem names_mergeVariable (wanted : EnvVar) (entries : List EnvVar) :
    (mergeVariable wanted entries).value.map (·.name) =
      if wanted.name ∈ entries.map (·.name) then entries.map (·.name)
      else entries.map (·.name) ++ [wanted.name] := by
  induction entries with
  | nil => rfl
  | cons current rest inductionHypothesis =>
    unfold mergeVariable
    simp only [List.map_cons, List.mem_cons]
    by_cases here : current.name = wanted.name
    · rw [if_pos here, if_pos (Or.inl here.symm)]
      split <;> rfl
    · have elsewhere : wanted.name = current.name ∨ wanted.name ∈ rest.map (·.name) ↔
          wanted.name ∈ rest.map (·.name) := or_iff_right (Ne.symm here)
      rw [if_neg here, Merged.map_value, List.map_cons, inductionHypothesis]
      simp only [elsewhere]
      split <;> rfl

/-- The names in a merged environment are those that were there and the wanted ones. -/
theorem mem_names_mergeVariable {wanted : EnvVar} {entries : List EnvVar} {name : String}
    (member : name ∈ (mergeVariable wanted entries).value.map (·.name)) :
    name ∈ entries.map (·.name) ∨ name = wanted.name := by
  rw [names_mergeVariable] at member
  split at member
  · exact Or.inl member
  · exact (List.mem_append.mp member).imp_right List.mem_singleton.mp

theorem names_nodup_mergeVariable (wanted : EnvVar) {entries : List EnvVar}
    (distinct : (entries.map (·.name)).Nodup) :
    ((mergeVariable wanted entries).value.map (·.name)).Nodup := by
  rw [names_mergeVariable]
  split
  · exact distinct
  · next absent =>
    refine List.nodup_append.mpr ⟨distinct, List.pairwise_singleton _ _, ?_⟩
    intro name here other isWanted
    rw [List.mem_singleton.mp isWanted]
    rintro rfl
    exact absent here

theorem mem_names_mergeVariables {existing wanted : List EnvVar} {name : String}
    (member : name ∈ (mergeVariables existing wanted).value.map (·.name)) :
    name ∈ existing.map (·.name) ∨ name ∈ wanted.map (·.name) := by
  rw [mergeVariables_value] at member
  induction wanted generalizing existing with
  | nil => exact Or.inl member
  | cons head wanted inductionHypothesis =>
    rw [List.foldl_cons] at member
    rw [List.map_cons, List.mem_cons]
    rcases inductionHypothesis member with merged | inRest
    · exact (mem_names_mergeVariable merged).imp_right Or.inl
    · exact Or.inr (Or.inr inRest)

theorem names_nodup_mergeVariables {existing : List EnvVar}
    (distinct : (existing.map (·.name)).Nodup) (wanted : List EnvVar) :
    ((mergeVariables existing wanted).value.map (·.name)).Nodup := by
  rw [mergeVariables_value]
  induction wanted generalizing existing with
  | nil => exact distinct
  | cons head wanted inductionHypothesis =>
    exact inductionHypothesis (names_nodup_mergeVariable head distinct)

theorem mem_names_mergeEnvironment {existing desired : Option (List EnvVar)} {name : String}
    (member : name ∈ ((mergeEnvironment existing desired).value.getD []).map (·.name)) :
    name ∈ (existing.getD []).map (·.name) ∨ name ∈ (desired.getD []).map (·.name) := by
  unfold mergeEnvironment at member
  split at member
  · exact Or.inl member
  · exact Or.inl member
  · exact mem_names_mergeVariables member

/-- The names in a merged environment differ when they did before. -/
theorem names_nodup_mergeEnvironment {existing : Option (List EnvVar)}
    (distinct : ((existing.getD []).map (·.name)).Nodup) (desired : Option (List EnvVar)) :
    (((mergeEnvironment existing desired).value.getD []).map (·.name)).Nodup := by
  unfold mergeEnvironment
  split
  · exact distinct
  · exact distinct
  · exact names_nodup_mergeVariables distinct _

/-! ### Routes -/

/-- There is a rule for a host. -/
def HasRoute (rules : List IngressRule) (host : Option String) : Prop :=
  ∃ rule ∈ rules, rule.host = host

theorem appendRule_changed_eq_false_iff (rule : IngressRule) (rules : List IngressRule) :
    (appendRule rules rule).changed = false ↔ HasRoute rules rule.host := by
  unfold appendRule HasRoute
  split
  · next present =>
    simp only [List.any_eq_true, decide_eq_true_eq] at present
    exact ⟨fun _ => present, fun _ => rfl⟩
  · next absent =>
    simp only [List.any_eq_true, decide_eq_true_eq] at absent
    exact ⟨nofun, fun present => absurd present absent⟩

theorem appendRule_value_of_unchanged (rule : IngressRule) (rules : List IngressRule)
    (unchanged : (appendRule rules rule).changed = false) :
    (appendRule rules rule).value = rules := by
  unfold appendRule at unchanged ⊢
  split
  · rfl
  · next absent =>
    rw [if_neg absent] at unchanged
    cases unchanged

/-- A rule that was added, or whose host had one, has a route. -/
theorem hasRoute_appendRule_self (rules : List IngressRule) (rule : IngressRule) :
    HasRoute (appendRule rules rule).value rule.host := by
  cases changed : (appendRule rules rule).changed with
  | false =>
    rw [appendRule_value_of_unchanged rule rules changed]
    exact (appendRule_changed_eq_false_iff rule rules).mp changed
  | true =>
    unfold appendRule at changed ⊢
    split
    · next present =>
      rw [if_pos present] at changed
      cases changed
    · exact ⟨rule, List.mem_append_right _ List.mem_cons_self, rfl⟩

/-- Adding a rule keeps the routes there are. -/
theorem HasRoute.appendRule {rules : List IngressRule} {host : Option String}
    (present : HasRoute rules host) (rule : IngressRule) :
    HasRoute (appendRule rules rule).value host := by
  obtain ⟨found, member, same⟩ := present
  unfold GatewayOperator.appendRule
  split
  · exact ⟨found, member, same⟩
  · exact ⟨found, List.mem_append_left _ member, same⟩

theorem HasRoute.foldl_appendRule {rules : List IngressRule} {host : Option String}
    (present : HasRoute rules host) (wanted : List IngressRule) :
    HasRoute (wanted.foldl (fun rules rule => (GatewayOperator.appendRule rules rule).value) rules)
      host := by
  induction wanted generalizing rules with
  | nil => exact present
  | cons rule wanted inductionHypothesis => exact inductionHypothesis (present.appendRule rule)

theorem appendRules_value (existing wanted : List IngressRule) :
    (appendRules existing wanted).value =
      wanted.foldl (fun rules rule => (appendRule rules rule).value) existing :=
  mergeAll_value (fun rule rules => appendRule rules rule) existing wanted

/-- Every wanted rule has a route after the wanted rules were added. -/
theorem hasRoute_appendRules (existing wanted : List IngressRule) {rule : IngressRule}
    (member : rule ∈ wanted) : HasRoute (appendRules existing wanted).value rule.host := by
  rw [appendRules_value]
  induction wanted generalizing existing with
  | nil => cases member
  | cons head wanted inductionHypothesis =>
    rcases List.mem_cons.mp member with rfl | inRest
    · exact (hasRoute_appendRule_self existing rule).foldl_appendRule wanted
    · exact inductionHypothesis _ inRest

/-- Routes are unchanged exactly when every wanted host has one. -/
theorem appendMissingRules_changed_eq_false_iff (existing desired : Option (List IngressRule)) :
    (appendMissingRules existing desired).changed = false ↔
      ∀ rule ∈ desired.getD [], HasRoute (existing.getD []) rule.host := by
  have appending : ∀ wanted : List IngressRule,
      (appendRules (existing.getD []) wanted).changed = false ↔
        ∀ rule ∈ wanted, HasRoute (existing.getD []) rule.host := fun wanted =>
    Iff.trans (mergeAll_changed_eq_false_iff (fun rule rules => appendRule rules rule)
      appendRule_value_of_unchanged (existing.getD []) wanted)
      (forall₂_congr fun rule _ => appendRule_changed_eq_false_iff rule _)
  unfold appendMissingRules
  split
  · exact ⟨fun _ => nofun, fun _ => rfl⟩
  · exact ⟨fun _ => nofun, fun _ => rfl⟩
  · exact appending _

/-- Routes that are reported as unchanged stay as they are. -/
theorem appendMissingRules_value_of_unchanged {existing desired : Option (List IngressRule)}
    (unchanged : (appendMissingRules existing desired).changed = false) :
    (appendMissingRules existing desired).value = existing := by
  obtain _ | _ | ⟨rule, wanted⟩ := desired
  · rfl
  · rfl
  · exact mergeAll_some_value_of_unchanged (fun rule rules => appendRule rules rule)
      appendRule_value_of_unchanged (fun _ => rfl) unchanged

/-- Every wanted host has a route after the missing rules were added. -/
theorem hasRoute_appendMissingRules (existing desired : Option (List IngressRule))
    {rule : IngressRule} (member : rule ∈ desired.getD []) :
    HasRoute ((appendMissingRules existing desired).value.getD []) rule.host := by
  unfold appendMissingRules
  split
  · cases member
  · cases member
  · exact hasRoute_appendRules _ _ member

/-! ### Reports of a table -/

/-- What the rules of a table report one after the other, each by its field. -/
def mergeReports {Object : Type} (desired : Object) :
    List (FieldRule Object) → Object → List (String × Bool)
  | [], _ => []
  | rule :: rules, existing =>
    let merged := rule.merge existing desired
    (rule.field, merged.changed) :: mergeReports desired rules merged.value

/-- A table reports the fields whose rules report a change. -/
theorem reconcileFields_changed {Object : Type} (desired : Object)
    (rules : List (FieldRule Object)) (existing : Object) :
    (reconcileFields desired rules existing).changed =
      ((mergeReports desired rules existing).filter (·.2)).map (·.1) := by
  induction rules generalizing existing with
  | nil => rfl
  | cons rule rules inductionHypothesis =>
    unfold reconcileFields mergeReports
    dsimp only
    rw [inductionHypothesis, List.filter_cons]
    split <;> rfl

/-- A table reports no field exactly when none of its rules reports a change. -/
theorem reconcileFields_changed_eq_nil_iff {Object : Type} (desired : Object)
    (rules : List (FieldRule Object)) (existing : Object) :
    (reconcileFields desired rules existing).changed = [] ↔
      ∀ report ∈ mergeReports desired rules existing, report.2 = false := by
  rw [reconcileFields_changed, List.map_eq_nil_iff, List.filter_eq_nil_iff]
  exact forall₂_congr fun report _ => by rw [Bool.not_eq_true]

end GatewayOperator
