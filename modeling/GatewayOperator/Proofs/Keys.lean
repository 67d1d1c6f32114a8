/-
This file says which keys a list has after entries were merged into it one after the other, when an
entry whose key is there leaves the keys as they are and any other entry goes to the end. The keys
that were there stay in front, and the new ones follow, once each, in the order in which they came
first. Variables have their names for keys, and conditions their kinds.
-/

import Mathlib.Data.List.Nodup

namespace GatewayOperator

/-- What is left without some values and one more is what is left without them, and then without
that one. -/
theorem removeAll_concat {Value : Type} [BEq Value] (added values : List Value) (value : Value) :
    added.removeAll (values ++ [value]) =
      (added.removeAll values).filter fun other => !other == value := by
  simp [List.removeAll, List.filter_filter, Bool.and_comm]

section Missing

variable {Value : Type} [DecidableEq Value]

/-- Puts a value behind the others, unless it is among them. -/
def appendMissing (values : List Value) (value : Value) : List Value :=
  if value ∈ values then values else values ++ [value]

/-- Values that are put behind the others one after the other stand there once each, in the order in
which they came first. -/
theorem foldl_appendMissing (values added : List Value) :
    added.foldl appendMissing values = values ++ (added.removeAll values).eraseDups := by
  induction added generalizing values with
  | nil => exact (List.append_nil values).symm
  | cons value added inductionHypothesis =>
    rw [List.foldl_cons, inductionHypothesis, List.cons_removeAll]
    unfold appendMissing
    by_cases present : value ∈ values
    · rw [if_pos present, if_neg (by simpa using present)]
    · rw [if_neg present, if_pos (by simpa using present), List.eraseDups_cons, removeAll_concat,
        List.append_assoc, List.singleton_append]

/-- Values that differ still do when others are put behind them. -/
theorem nodup_foldl_appendMissing {values : List Value} (distinct : values.Nodup)
    (added : List Value) : (added.foldl appendMissing values).Nodup := by
  induction added generalizing values with
  | nil => exact distinct
  | cons value added inductionHypothesis =>
    refine inductionHypothesis ?_
    unfold appendMissing
    split
    · exact distinct
    · next absent =>
      rw [← List.concat_eq_append, List.nodup_concat]
      exact ⟨absent, distinct⟩

/-- Values that differ are all kept when those that came before are erased. -/
theorem eraseDups_of_nodup {values : List Value} (distinct : values.Nodup) :
    values.eraseDups = values := by
  induction values with
  | nil => rfl
  | cons value values inductionHypothesis =>
    obtain ⟨absent, others⟩ := List.nodup_cons.mp distinct
    have kept : (values.filter fun other => !other == value) = values := by
      refine List.filter_eq_self.mpr fun other member => ?_
      have differs : other ≠ value := fun same => absent (same ▸ member)
      simpa using differs
    rw [List.eraseDups_cons, kept, inductionHypothesis others]

variable {Entry : Type} {key : Entry → Value} {merge : List Entry → Entry → List Entry}

/-- The keys after entries were merged, when every merge puts its key behind the others unless it is
among them. -/
theorem map_foldl_eq_foldl_appendMissing
    (step : ∀ entries entry, (merge entries entry).map key =
      appendMissing (entries.map key) (key entry))
    (existing added : List Entry) :
    (added.foldl merge existing).map key =
      (added.map key).foldl appendMissing (existing.map key) := by
  rw [List.foldl_map]
  exact (List.foldl_hom (List.map key) fun entries entry => (step entries entry).symm).symm

end Missing

end GatewayOperator
