/-
This file reads the parts of a printed document back. An integer of at most 64 bits is read as the
integer it is, up to what cannot be part of a number; a string is read as its own text, whatever
characters it has, since what would end it is escaped. A text that is a sequence of such parts is
read as the sequence of their tokens.
-/

import GatewayOperator.Json.Parser
import GatewayOperator.Json.Printer
import Mathlib.Data.List.TakeDrop

namespace GatewayOperator.Json

/-! ### Numbers -/

/-- Whether a text that starts like this cannot continue a number. -/
def endsNumber : List Char → Bool
  | [] => true
  | next :: _ => !next.isDigit && next != '.' && next != 'e' && next != 'E'

theorem digitValue_digitChar {digit : Nat} (small : digit < 10) :
    digitValue digit.digitChar = digit := by
  show digit.digitChar.toNat - 48 = digit
  rw [Nat.toNat_digitChar_of_lt_ten small, Nat.add_sub_cancel_left]

/-- The digits of a number that fits a word give the number, and none is dropped. -/
theorem Significand.read_digitsOf {number : Nat} (small : number < wordLimit) :
    ∃ taken, Significand.read 0 (Decimal.digitsOf number) = ⟨number, 0, taken⟩ := by
  induction number using Nat.strongRecOn with
  | ind number inductionHypothesis =>
    by_cases single : number < 10
    · refine ⟨1, ?_⟩
      rw [Decimal.digitsOf, Nat.toDigits_of_lt_base single]
      show Significand.push ⟨0, 0, 0⟩ number.digitChar = _
      simp [Significand.push, digitValue_digitChar single, small]
    · obtain ⟨taken, front⟩ := inductionHypothesis (number / 10) (by omega) (by omega)
      have last : number % 10 < 10 := Nat.mod_lt _ (by decide)
      have together : number / 10 * 10 + number % 10 = number := Nat.div_add_mod' number 10
      refine ⟨taken + 1, ?_⟩
      rw [Decimal.digitsOf, Nat.toDigits_of_base_le (by decide) (Nat.not_lt.mp single)]
      unfold Significand.read at front ⊢
      rw [List.foldl_append, ← Decimal.digitsOf, front]
      show Significand.push ⟨number / 10, 0, taken⟩ _ = _
      simp [Significand.push, digitValue_digitChar last, together, small]

/-- Only zero is written with a leading zero. -/
theorem eq_zero_of_head?_digitsOf {number : Nat}
    (leading : (Decimal.digitsOf number).head? = some '0') : number = 0 := by
  induction number using Nat.strongRecOn with
  | ind number inductionHypothesis =>
    by_cases single : number < 10
    · rw [Decimal.digitsOf, Nat.toDigits_of_lt_base single] at leading
      exact Nat.digitChar_eq_zero.mp (Option.some.inj leading)
    · rw [Decimal.digitsOf, Nat.toDigits_of_base_le (by decide) (Nat.not_lt.mp single),
        List.head?_append] at leading
      obtain ⟨first, others, front⟩ : ∃ first others, Nat.toDigits 10 (number / 10) =
        first :: others := List.exists_cons_of_ne_nil Nat.toDigits_ne_nil
      rw [front, List.head?_cons, Option.some_or] at leading
      have := inductionHypothesis (number / 10) (by omega)
        (by rw [Decimal.digitsOf, front, List.head?_cons, leading])
      omega

theorem isDigit_of_mem_digitsOf {number : Nat} :
    ∀ character ∈ Decimal.digitsOf number, character.isDigit = true := fun _ member =>
  Nat.isDigit_of_mem_toDigits (by decide) (by decide) member

theorem spanDigits_digitsOf (number : Nat) {rest : List Char} (ends : endsNumber rest = true) :
    spanDigits (Decimal.digitsOf number ++ rest) = (Decimal.digitsOf number, rest) := by
  have stop : rest.takeWhile Char.isDigit = [] ∧ rest.dropWhile Char.isDigit = rest := by
    cases rest with
    | nil => exact ⟨rfl, rfl⟩
    | cons next rest =>
      have noDigit : next.isDigit = false := by
        simp only [endsNumber, Bool.and_eq_true, Bool.not_eq_true'] at ends
        exact ends.1.1.1
      simp [noDigit]
  unfold spanDigits
  rw [List.span_eq_takeWhile_dropWhile,
    List.takeWhile_append_of_pos isDigit_of_mem_digitsOf,
    List.dropWhile_append_of_pos isDigit_of_mem_digitsOf, stop.1, stop.2, List.append_nil]

/-- A number that is written with its digits alone. -/
theorem readNumber_digitsOf (negative : Bool) (number : Nat) {rest : List Char}
    (ends : endsNumber rest = true) :
    readNumber negative (Decimal.digitsOf number ++ rest) =
      some ((NumberText.value? ⟨negative, Decimal.digitsOf number, none, none⟩).getD faulty,
        rest) := by
  have wellFormed : ((Decimal.digitsOf number).isEmpty ||
      ((Decimal.digitsOf number).head? == some '0' &&
        (Decimal.digitsOf number).length != 1)) = false := by
    have some : (Decimal.digitsOf number).isEmpty = false :=
      List.isEmpty_eq_false_iff.mpr Nat.toDigits_ne_nil
    rw [some, Bool.false_or, Bool.and_eq_false_iff]
    by_cases leading : (Decimal.digitsOf number).head? = Option.some '0'
    · rw [eq_zero_of_head?_digitsOf leading]
      exact Or.inr rfl
    · exact Or.inl (beq_false_of_ne leading)
  have noFraction : readFraction rest = some (none, rest) := by
    cases rest with
    | nil => rfl
    | cons next rest =>
      unfold readFraction
      split
      · next same => cases same; simp [endsNumber] at ends
      · rfl
  have noExponent : readExponentPart rest = some (none, rest) := by
    cases rest with
    | nil => rfl
    | cons next rest =>
      simp only [endsNumber, Bool.and_eq_true, bne_iff_ne] at ends
      exact if_neg (not_or.mpr ⟨ends.1.2, ends.2⟩)
  unfold readNumber
  simp only [spanDigits_digitsOf number ends, wellFormed, noFraction, noExponent,
    Bool.false_eq_true, if_false, Option.bind_eq_bind, Option.bind_some]
  rfl

/-- An integer of a document: one that fits a signed or an unsigned word of 64 bits. -/
def IsWord (value : Int) : Prop := -0x8000000000000000 ≤ value ∧ value < wordLimit

theorem value?_digitsOf {number : Nat} (small : number < wordLimit) :
    NumberText.value? ⟨false, Decimal.digitsOf number, none, none⟩ = some (integer number) := by
  obtain ⟨taken, read⟩ := Significand.read_digitsOf small
  simp only [NumberText.value?, read]
  rfl

theorem value?_negative_digitsOf {number : Nat} (positive : 0 < number)
    (small : number ≤ 0x8000000000000000) :
    NumberText.value? ⟨true, Decimal.digitsOf number, none, none⟩ =
      some (integer (-(number : Int))) := by
  have fits : number < wordLimit := Nat.lt_of_le_of_lt small (by decide)
  obtain ⟨taken, read⟩ := Significand.read_digitsOf fits
  simp only [NumberText.value?, read, Bool.not_true, Bool.false_eq_true, if_false, if_true,
    if_neg (Nat.pos_iff_ne_zero.mp positive), if_pos small]

/-- A digit starts a number and nothing else. -/
theorem readToken_of_isDigit {first : Char} (digit : first.isDigit = true) (rest : List Char) :
    readToken (first :: rest) =
      (readNumber false (first :: rest)).map fun (value, rest) => (.scalar value, rest) := by
  unfold readToken
  split <;> first
    | rfl
    | next same =>
      rw [(List.cons.inj same).1] at digit
      exact absurd digit (by decide)

/-- An integer is read back. -/
theorem readToken_writeInteger {value : Int} (word : IsWord value) {rest : List Char}
    (ends : endsNumber rest = true) :
    readToken (Decimal.writeInteger value ++ rest) = some (.scalar (integer value), rest) := by
  unfold Decimal.writeInteger
  split
  · next negative =>
    have small : value.natAbs ≤ 0x8000000000000000 := by have := word.1; omega
    have back : -(value.natAbs : Int) = value := by omega
    show (readNumber true (Decimal.digitsOf value.natAbs ++ rest)).map _ = _
    rw [readNumber_digitsOf true _ ends, value?_negative_digitsOf (by omega) small, back]
    rfl
  · next notNegative =>
    have small : value.natAbs < wordLimit := by have := word.2; omega
    have back : (value.natAbs : Int) = value := by omega
    have number := readNumber_digitsOf false value.natAbs ends
    rw [value?_digitsOf small, back] at number
    cases digits : Decimal.digitsOf value.natAbs with
    | nil => exact absurd digits Nat.toDigits_ne_nil
    | cons first others =>
      have digit : first.isDigit = true :=
        isDigit_of_mem_digitsOf first (by rw [digits]; exact List.mem_cons_self)
      rw [digits, List.cons_append] at number
      rw [List.cons_append, readToken_of_isDigit digit, number]
      rfl

/-! ### Strings -/

/-- A control character is read from its number. -/
theorem hexUnit?_control :
    ∀ number < 0x20, hexUnit? '0' '0' (hexDigit (number / 16)) (hexDigit (number % 16)) =
      some number := by decide

/-- A character that is no escape and no quote stands for itself. -/
theorem readParts_plain {character : Char} (noQuote : character ≠ '"')
    (noBackslash : character ≠ '\\') (printable : 0x20 ≤ character.toNat)
    (done : List StringPart) (rest : List Char) :
    readParts done (character :: rest) = readParts (.character character :: done) rest := by
  rw [readParts]
  · rw [if_neg]
    simp [noBackslash, printable]
  all_goals
    intros
    simp_all

/-- A character of a string is one part that stands for it. -/
theorem exists_part (character : Char) :
    ∃ part, (∀ done rest, readParts done (escapeCharacter character ++ rest) =
      readParts (part :: done) rest) ∧
      ∀ done rest, joinParts done (part :: rest) = joinParts (character :: done) rest := by
  unfold escapeCharacter
  split
  case h_8 =>
    next noQuote noBackslash _ _ _ _ _ =>
    split
    · next control =>
      refine ⟨.unit character.toNat, fun done rest => ?_, fun done rest => ?_⟩
      · show readParts done ('\\' :: 'u' :: '0' :: '0' :: _ :: _ :: rest) = _
        rw [readParts, hexUnit?_control _ control]
      · have noTrailing : isTrailing character.toNat = false := by
          simp only [isTrailing, Bool.and_eq_false_iff, decide_eq_false_iff_not]
          omega
        have noLeading : isLeading character.toNat = false := by
          simp only [isLeading, Bool.and_eq_false_iff, decide_eq_false_iff_not]
          omega
        unfold joinParts
        simp only [noTrailing, noLeading, Char.ofNat_toNat, Bool.false_eq_true, if_false]
        rw [joinParts.eq_def]
    · next printable =>
      exact ⟨.character character,
        readParts_plain noQuote noBackslash (Nat.not_lt.mp printable), fun _ _ => rfl⟩
  all_goals exact ⟨.character _, fun _ _ => rfl, fun _ _ => rfl⟩

/-- The parts of a string are those of its characters. -/
theorem exists_parts (text : List Char) :
    ∃ parts, (∀ done rest, readParts done (text.flatMap escapeCharacter ++ '"' :: rest) =
      some (done.reverse ++ parts, rest)) ∧
      ∀ done, joinParts done parts = some (done.reverse ++ text) := by
  induction text with
  | nil => exact ⟨[], fun _ _ => by simp [readParts], fun _ => by simp [joinParts]⟩
  | cons character text inductionHypothesis =>
    obtain ⟨part, reads, joins⟩ := exists_part character
    obtain ⟨parts, readsRest, joinsRest⟩ := inductionHypothesis
    refine ⟨part :: parts, fun done rest => ?_, fun done => ?_⟩
    · rw [List.flatMap_cons, List.append_assoc, reads, readsRest, List.reverse_cons,
        List.append_assoc, List.singleton_append]
    · rw [joins, joinsRest, List.reverse_cons, List.append_assoc, List.singleton_append]

/-- A string ends at its own quote and is read back. -/
theorem readToken_writeString (text : String) (rest : List Char) :
    readToken (writeString text ++ rest) = some (.text (some text), rest) := by
  obtain ⟨parts, reads, joins⟩ := exists_parts text.toList
  show (readParts [] ((text.toList.flatMap escapeCharacter ++ ['"']) ++ rest)).map _ = _
  rw [List.append_assoc, List.singleton_append, reads]
  simp [joins]

/-! ### Sequences of tokens -/

/-- A text is read as a sequence of tokens, up to what cannot be part of a number. -/
structure SpelledBy (tokens : List Token) (text : List Char) : Prop where
  length_le : tokens.length ≤ text.length
  read : ∀ rest, endsNumber rest = true → ∀ fuel done,
    readTokens (fuel + tokens.length) done (text ++ rest) =
      readTokens fuel (tokens.reverse ++ done) rest

namespace SpelledBy

variable {tokens others : List Token} {text further : List Char}

/-- One token that starts with no blank. -/
theorem single {token : Token} {first : Char} {behind : List Char}
    (noBlank : isSeparator first = false)
    (read : ∀ rest, endsNumber rest = true →
      readToken (first :: behind ++ rest) = some (token, rest)) :
    SpelledBy [token] (first :: behind) where
  length_le := Nat.succ_le_succ (Nat.zero_le _)
  read rest ends fuel done := by
    show readTokens (fuel + 1) done (first :: (behind ++ rest)) = _
    rw [readTokens, List.dropWhile_cons_of_neg (by rw [noBlank]; exact Bool.false_ne_true)]
    simp only [← List.cons_append, read rest ends]
    rfl

/-- A mark of one character, whatever follows it. -/
theorem mark {token : Token} {first : Char} (noBlank : isSeparator first = false)
    (read : ∀ rest, readToken (first :: rest) = some (token, rest))
    (back : SpelledBy tokens text) : SpelledBy (token :: tokens) (first :: text) where
  length_le := Nat.succ_le_succ back.length_le
  read rest ends fuel done := by
    show readTokens (fuel + tokens.length + 1) done (first :: (text ++ rest)) = _
    rw [readTokens, List.dropWhile_cons_of_neg (by rw [noBlank]; exact Bool.false_ne_true)]
    simp only [read]
    rw [back.read rest ends, List.reverse_cons, List.append_assoc, List.singleton_append]

/-- What follows may not continue a number. -/
theorem append (front : SpelledBy tokens text) (back : SpelledBy others further)
    (ends : ∀ rest, endsNumber rest = true → endsNumber (further ++ rest) = true) :
    SpelledBy (tokens ++ others) (text ++ further) where
  length_le := by
    rw [List.length_append, List.length_append]
    exact Nat.add_le_add front.length_le back.length_le
  read rest restEnds fuel done := by
    rw [List.length_append, Nat.add_comm tokens.length, ← Nat.add_assoc, List.append_assoc,
      front.read _ (ends rest restEnds), back.read rest restEnds, List.reverse_append,
      List.append_assoc]

/-- The tokens of a text that is spelled to its end. -/
theorem tokens? (spelled : SpelledBy tokens text) : tokens? text = some tokens := by
  have enough : text.length + 1 = (text.length - tokens.length + 1) + tokens.length := by
    have := spelled.length_le
    omega
  unfold Json.tokens?
  rw [enough, ← List.append_nil text, spelled.read [] rfl, List.append_nil]
  simp [readTokens]

end SpelledBy

theorem spelledBy_integer {value : Int} (word : IsWord value) :
    SpelledBy [.scalar (integer value)] (Decimal.writeInteger value) := by
  have read := fun rest => @readToken_writeInteger value word rest
  unfold Decimal.writeInteger at read ⊢
  split
  · next negative =>
    simp only [if_pos negative] at read
    exact .single rfl read
  · next notNegative =>
    simp only [if_neg notNegative] at read
    cases digits : Decimal.digitsOf value.natAbs with
    | nil => exact absurd digits Nat.toDigits_ne_nil
    | cons first others =>
      have digit : first.isDigit = true :=
        isDigit_of_mem_digitsOf first (by rw [digits]; exact List.mem_cons_self)
      rw [digits] at read
      refine .single ?_ read
      by_contra blank
      simp only [isSeparator, Bool.not_eq_false, Bool.or_eq_true, decide_eq_true_eq] at blank
      rcases blank with ((rfl | rfl) | rfl) | rfl <;> exact absurd digit (by decide)

theorem spelledBy_string (text : String) : SpelledBy [.text (some text)] (writeString text) :=
  .single rfl fun rest _ => readToken_writeString text rest

end GatewayOperator.Json
