/-
This file takes texts apart and finds what they were put together from. Parts that are free of a
separator are found again between separators, and a text without white space is found again inside
white space.
-/

import GatewayOperator.Text.Blank
import GatewayOperator.Text.Ranges
import Mathlib.Data.List.Infix
import Mathlib.Data.List.TakeWhile

namespace GatewayOperator

/-! ### Splitting -/

namespace Text

variable {separator : Char}

theorem splitAt_ne_nil (separator : Char) (text : List Char) : splitAt separator text ≠ [] := by
  cases text with
  | nil => nofun
  | cons character rest =>
    unfold splitAt
    split
    · nofun
    · split <;> nofun

/-- A text without the separator is one part. -/
theorem splitAt_single {part : List Char} (free : ∀ character ∈ part, character ≠ separator) :
    splitAt separator part = [part] := by
  induction part with
  | nil => rfl
  | cons character part inductionHypothesis =>
    rw [List.forall_mem_cons] at free
    rw [splitAt, inductionHypothesis free.2]
    exact if_neg free.1

/-- The first part ends at the first separator. -/
theorem splitAt_append {part : List Char} (free : ∀ character ∈ part, character ≠ separator)
    (rest : List Char) :
    splitAt separator (part ++ separator :: rest) = part :: splitAt separator rest := by
  induction part with
  | nil =>
    rw [List.nil_append, splitAt]
    cases others : splitAt separator rest with
    | nil => exact absurd others (splitAt_ne_nil separator rest)
    | cons first others => exact if_pos rfl
  | cons character part inductionHypothesis =>
    rw [List.forall_mem_cons] at free
    rw [List.cons_append, splitAt, inductionHypothesis free.2]
    exact if_neg free.1

/-- Parts without the separator are found again between separators. -/
theorem splitAt_intercalate {parts : List (List Char)} (nonempty : parts ≠ [])
    (free : ∀ part ∈ parts, ∀ character ∈ part, character ≠ separator) :
    splitAt separator ([separator].intercalate parts) = parts := by
  induction parts with
  | nil => exact absurd rfl nonempty
  | cons part parts inductionHypothesis =>
    rw [List.forall_mem_cons] at free
    cases parts with
    | nil =>
      rw [List.intercalate_singleton]
      exact splitAt_single free.1
    | cons next parts =>
      rw [List.intercalate_cons_cons, List.append_assoc, List.singleton_append,
        splitAt_append free.1, inductionHypothesis (List.cons_ne_nil _ _) free.2]

/-- Between the separators stand the parts. -/
theorem mem_intercalate {parts : List (List Char)} {character : Char}
    (member : character ∈ [separator].intercalate parts) :
    character = separator ∨ ∃ part ∈ parts, character ∈ part := by
  induction parts with
  | nil => cases member
  | cons part parts inductionHypothesis =>
    cases parts with
    | nil =>
      rw [List.intercalate_singleton] at member
      exact Or.inr ⟨part, List.mem_cons_self, member⟩
    | cons next parts =>
      rw [List.intercalate_cons_cons, List.append_assoc, List.singleton_append, List.mem_append,
        List.mem_cons] at member
      rcases member with inPart | separates | inRest
      · exact Or.inr ⟨part, List.mem_cons_self, inPart⟩
      · exact Or.inl separates
      · exact (inductionHypothesis inRest).imp_right fun ⟨other, inParts, inOther⟩ =>
          ⟨other, List.mem_cons_of_mem _ inParts, inOther⟩

/-! ### Trimming -/

/-- A text is not shortened by a test that no character of it meets. -/
theorem dropWhile_eq_self {test : Char → Bool} {text : List Char}
    (keeps : ∀ character ∈ text, test character = false) : text.dropWhile test = text := by
  cases text with
  | nil => rfl
  | cons first rest =>
    rw [List.forall_mem_cons] at keeps
    exact List.dropWhile_cons_of_neg (by rw [keeps.1]; exact Bool.false_ne_true)

/-- What is dropped at both ends of a text does not reach into what stands between them. -/
theorem dropTrailing_dropWhile {test : Char → Bool} {before text after : List Char}
    (dropsBefore : ∀ character ∈ before, test character = true)
    (keeps : ∀ character ∈ text, test character = false)
    (dropsAfter : ∀ character ∈ after, test character = true) :
    dropTrailing test ((before ++ text ++ after).dropWhile test) = text := by
  unfold dropTrailing
  rw [List.append_assoc, List.dropWhile_append_of_pos dropsBefore]
  cases text with
  | nil =>
    rw [List.nil_append, List.dropWhile_eq_nil_iff.mpr dropsAfter]
    rfl
  | cons first rest =>
    have starts : (first :: rest ++ after).dropWhile test = first :: rest ++ after := by
      rw [List.forall_mem_cons] at keeps
      exact List.dropWhile_cons_of_neg (by rw [keeps.1]; exact Bool.false_ne_true)
    rw [starts, List.reverse_append, List.dropWhile_append_of_pos fun character member =>
      dropsAfter character (List.mem_reverse.mp member)]
    rw [dropWhile_eq_self fun character member => keeps character (List.mem_reverse.mp member),
      List.reverse_reverse]

end Text

end GatewayOperator
