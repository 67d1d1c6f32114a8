/-
This file says that collections are replaced exactly. Whether two collections have the same members
is found out by counting the members of one side only, and an absent collection is compared with
nothing but its emptiness; both come to one relation on what the collections hold. So a replacement
reports a change exactly when the two are not related, and because the relation is an equivalence,
what was replaced once is left alone afterwards.
-/

import GatewayOperator.Proofs.Fields.Merge

namespace GatewayOperator

/-- Collections are replaced exactly unless they agree. -/
structure ReplacesExactly {Items : Type} [Collection Items]
    (agree : Option Items → Option Items → Prop) : Prop where
  /-- Nothing is reported, and the collection stays as it is, exactly when it agrees. -/
  unchanged_iff : ∀ existing desired : Option Items,
    replaceCollection existing desired = ⟨existing, false⟩ ↔ agree existing desired
  /-- A change is reported, and the collection becomes the desired one, exactly when it does not. -/
  replaced_iff : ∀ existing desired : Option Items,
    replaceCollection existing desired = ⟨desired, true⟩ ↔ ¬agree existing desired
  equivalence : Equivalence fun existing desired : Option Items =>
    (replaceCollection existing desired).changed = false
  /-- A second replacement changes nothing and reports nothing. -/
  settled : ∀ existing desired : Option Items,
    let replaced := (replaceCollection existing desired).value
    replaceCollection replaced desired = ⟨replaced, false⟩

section ReplacesExactly

variable {Items : Type} [Collection Items] {agree : Option Items → Option Items → Prop}

/-- A collection is left alone when it agrees with the desired one, and replaced otherwise. -/
theorem replaceCollection_cases (same : ∀ first second,
      sameCollection first second = true ↔ agree first second)
    (existing desired : Option Items) :
    agree existing desired ∧ replaceCollection existing desired = ⟨existing, false⟩ ∨
      ¬agree existing desired ∧ replaceCollection existing desired = ⟨desired, true⟩ := by
  rw [← same]
  unfold replaceCollection
  by_cases related : sameCollection existing desired = true
  · rw [if_pos related]
    exact Or.inl ⟨related, rfl⟩
  · rw [if_neg related]
    exact Or.inr ⟨related, rfl⟩

/-- Collections are replaced exactly for an equivalence that holds when they have the same
members. -/
theorem replacesExactly_of_equivalence (equivalence : Equivalence agree)
    (same : ∀ first second, sameCollection first second = true ↔ agree first second) :
    ReplacesExactly agree := by
  have changed_iff : ∀ existing desired,
      (replaceCollection existing desired).changed = false ↔ agree existing desired := by
    intro existing desired
    rw [replaceCollection_changed, Bool.not_eq_false', same]
  refine ⟨fun existing desired => ?_, fun existing desired => ?_, ?_, fun existing desired => ?_⟩
  · obtain ⟨agreed, kept⟩ | ⟨differs, replaced⟩ := replaceCollection_cases same existing desired
    · simp [kept, agreed]
    · simp [replaced, differs]
  · obtain ⟨agreed, kept⟩ | ⟨differs, replaced⟩ := replaceCollection_cases same existing desired
    · simp [kept, agreed]
    · simp [replaced, differs]
  · simpa only [changed_iff] using equivalence
  · obtain ⟨agreed, kept⟩ | ⟨-, replaced⟩ := replaceCollection_cases same existing desired
    · rw [kept]
      exact kept
    · rw [replaced]
      obtain ⟨-, kept⟩ | ⟨differs, -⟩ := replaceCollection_cases same desired desired
      · exact kept
      · exact absurd (equivalence.refl desired) differs

end ReplacesExactly

/-- Collections are replaced exactly, an absent one being read as empty. Lists agree when they are
permutations of each other, so that each member stands equally often in both, and maps agree when
they are equal. -/
theorem collections_are_replaced_exactly {Item Value : Type} [DecidableEq Item]
    [DecidableEq Value] :
    ReplacesExactly (fun first second : Option (List Item) =>
      (first.getD []).Perm (second.getD [])) ∧
    ReplacesExactly (fun first second : Option (Map Value) =>
      first.getD Map.empty = second.getD Map.empty) := by
  constructor
  · refine replacesExactly_of_equivalence ?_ sameCollection_iff_perm
    exact ⟨fun _ => List.Perm.refl _, List.Perm.symm, List.Perm.trans⟩
  · refine replacesExactly_of_equivalence ?_ sameCollection_iff_eq
    exact ⟨fun _ => rfl, Eq.symm, Eq.trans⟩

end GatewayOperator
