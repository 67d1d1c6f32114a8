/-
This file reads the name of a host whose labels consist of ASCII letters. Nothing in such a name is
refused and its labels need no other form: capital letters become small ones, no label carries the
mark of a label outside ASCII, and the last label is no number. So the host is that name.
-/

import GatewayOperator.Proofs.Text.Parts
import GatewayOperator.Url.Basic

namespace GatewayOperator.Url

open GatewayOperator.Text GatewayOperator.Unicode

/-! ### Labels -/

theorem joinLabels_splitLabels (name : List Nat) : joinLabels (splitLabels name) = name := by
  induction name with
  | nil => rfl
  | cons code rest inductionHypothesis =>
    unfold splitLabels
    cases found : splitLabels rest with
    | nil =>
      rw [found] at inductionHypothesis
      rw [← inductionHypothesis]
      rfl
    | cons label labels =>
      rw [found] at inductionHypothesis
      by_cases dot : code = 0x2E
      · simp only [dot, ← inductionHypothesis]
        rfl
      · simp only [if_neg dot, ← inductionHypothesis]
        cases labels <;> rfl

/-- The labels hold nothing that is not in the joined name. -/
theorem mem_joinLabels {labels : List (List Nat)} {label : List Nat} {code : Nat}
    (member : label ∈ labels) (inLabel : code ∈ label) : code ∈ joinLabels labels := by
  induction labels with
  | nil => cases member
  | cons first rest inductionHypothesis =>
    cases rest with
    | nil =>
      rw [List.mem_singleton.mp member] at inLabel
      exact inLabel
    | cons next rest =>
      rw [joinLabels, List.mem_append, List.mem_cons]
      · rcases List.mem_cons.mp member with rfl | behind
        · exact Or.inl inLabel
        · exact Or.inr (Or.inr (inductionHypothesis behind))
      · nofun

theorem mem_of_mem_splitLabels {name label : List Nat} {code : Nat}
    (inName : label ∈ splitLabels name) (inLabel : code ∈ label) : code ∈ name := by
  rw [← joinLabels_splitLabels name]
  exact mem_joinLabels inName inLabel

/-! ### ASCII forms -/

theorem mapM_eq_some_map {Value Result : Type} {change? : Value → Option Result}
    {change : Value → Result} {values : List Value}
    (changes : ∀ value ∈ values, change? value = some (change value)) :
    values.mapM change? = some (values.map change) := by
  induction values with
  | nil => rfl
  | cons value values inductionHypothesis =>
    rw [List.forall_mem_cons] at changes
    rw [List.mapM_cons, changes.1, inductionHypothesis changes.2]
    rfl

theorem mapName?_ascii {name : List Nat} (ascii : ∀ code ∈ name, code < 0x80) :
    mapName? name = some (name.map lowerAscii) := by
  have mapped : name.mapM mapHostCode? = some (name.map fun code => [lowerAscii code]) :=
    mapM_eq_some_map fun code member => if_pos (ascii code member)
  unfold mapName?
  rw [mapped, Option.map_some, ← List.flatMap_def, List.map_eq_flatMap]

/-- A code that may stand in a label for itself and cannot begin a mark. -/
structure IsPlainCode (code : Nat) : Prop where
  ascii : code < 0x80
  noHyphen : code ≠ 0x2D
  allowed : isDenied code = false

/-- A label without a hyphen does not carry the mark. -/
theorem readLabel?_plain {label : List Nat} (plain : ∀ code ∈ label, IsPlainCode code) :
    readLabel? label = some label := by
  have unmarked : labelMark.isPrefixOf label = false := by
    rw [Bool.eq_false_iff]
    intro marked
    obtain ⟨rest, rfl⟩ := List.isPrefixOf_iff_prefix.mp marked
    exact (plain 0x2D (List.mem_append_left _ (by decide))).noHyphen rfl
  unfold readLabel?
  rw [unmarked]
  rfl

theorem isAscii_plain {label : List Nat} (plain : ∀ code ∈ label, IsPlainCode code) :
    isAscii label = true :=
  List.all_eq_true.mpr fun code member => decide_eq_true (plain code member).ascii

/-- A name of plain codes has no other form than that in small letters. -/
theorem toAscii?_plain {name : List Nat} (ascii : ∀ code ∈ name, code < 0x80)
    (plain : ∀ code ∈ name, IsPlainCode (lowerAscii code)) :
    toAscii? name = some (name.map lowerAscii) := by
  have inForm : normalForm (name.map lowerAscii) = name.map lowerAscii :=
    normalForm_ascii (List.forall_mem_map.mpr fun code member => (plain code member).ascii)
  have plainLabels : ∀ label ∈ splitLabels (name.map lowerAscii), ∀ code ∈ label,
      IsPlainCode code := by
    intro label inName code inLabel
    obtain ⟨original, member, rfl⟩ := List.mem_map.mp (mem_of_mem_splitLabels inName inLabel)
    exact plain original member
  have read : (splitLabels (name.map lowerAscii)).mapM readLabel? =
      some ((splitLabels (name.map lowerAscii)).map id) :=
    mapM_eq_some_map fun label member => readLabel?_plain (plainLabels label member)
  have written : (splitLabels (name.map lowerAscii)).mapM writeLabel? =
      some ((splitLabels (name.map lowerAscii)).map id) :=
    mapM_eq_some_map fun label member => if_pos (isAscii_plain (plainLabels label member))
  have valid : (splitLabels (name.map lowerAscii)).all isValidLabel = true := by
    refine List.all_eq_true.mpr fun label member => ?_
    unfold isValidLabel
    rw [isAscii_plain (plainLabels label member), Bool.true_or, Bool.and_true]
    refine List.all_eq_true.mpr fun code inLabel => ?_
    rw [(plainLabels label member code inLabel).allowed]
    rfl
  have directed : keepsDirections (splitLabels (name.map lowerAscii)) = true := by
    unfold keepsDirections
    rw [Bool.or_eq_true, Bool.not_eq_true', List.any_eq_false]
    refine Or.inl fun label member => ?_
    rw [isAscii_plain (plainLabels label member)]
    exact Bool.false_ne_true
  unfold toAscii?
  rw [mapName?_ascii ascii]
  simp only [Option.bind_eq_bind, Option.bind_some, inForm, read, written, List.map_id, valid,
    directed, Bool.and_self, if_true, joinLabels_splitLabels]
  rfl

/-! ### Names of letters -/

/-- Labels that consist of ASCII letters. -/
structure LetterLabels (labels : List (List Char)) : Prop where
  present : labels ≠ []
  nonempty : ∀ label ∈ labels, label ≠ []
  letters : ∀ label ∈ labels, ∀ character ∈ label, character.isAlpha = true

/-- The name with given labels. -/
def dotted (labels : List (List Char)) : List Char := ['.'].intercalate labels

/-- What holds of every ASCII character is checked one by one. -/
theorem of_ascii (property : Char → Prop) (all : ∀ number < 128, property (Char.ofNat number))
    {character : Char} (ascii : character.toNat < 128) : property character := by
  have here := all character.toNat ascii
  rwa [Char.ofNat_toNat] at here

theorem ascii_of_isAlphanum {character : Char} (plain : character.isAlphanum = true) :
    character.toNat < 128 := by
  have letterOrDigit : character.isAlpha = true ∨ character.isDigit = true :=
    Bool.or_eq_true_iff.mp plain
  rcases letterOrDigit with letter | digit
  · have upperOrLower : character.isUpper = true ∨ character.isLower = true :=
      Bool.or_eq_true_iff.mp letter
    rcases upperOrLower with upper | lower
    · exact Nat.lt_of_le_of_lt (of_decide_eq_true upper).2 (by decide)
    · exact Nat.lt_of_le_of_lt (of_decide_eq_true (Bool.and_eq_true_iff.mp lower).2) (by decide)
  · exact Nat.lt_of_le_of_lt (of_decide_eq_true (Bool.and_eq_true_iff.mp digit).2) (by decide)

theorem ascii_of_isAlpha {character : Char} (letter : character.isAlpha = true) :
    character.toNat < 128 :=
  ascii_of_isAlphanum (Bool.or_eq_true_iff.mpr (Or.inl letter))

variable {labels : List (List Char)}

theorem LetterLabels.characters (letters : LetterLabels labels) {character : Char}
    (member : character ∈ dotted labels) :
    character.toNat < 128 ∧ (character.isAlpha = true ∨ character = '.') := by
  rcases mem_intercalate member with rfl | ⟨label, inLabels, inLabel⟩
  · exact ⟨by decide, Or.inr rfl⟩
  · have letter := letters.letters label inLabels character inLabel
    exact ⟨ascii_of_isAlpha letter, Or.inl letter⟩

theorem LetterLabels.not_mem_dotted (letters : LetterLabels labels) {mark : Char}
    (noLetter : mark.isAlpha = false) (noDot : mark ≠ '.') : mark ∉ dotted labels := by
  intro inName
  rcases (letters.characters inName).2 with letter | dot
  · exact absurd letter (by rw [noLetter]; exact Bool.false_ne_true)
  · exact noDot dot

theorem LetterLabels.splitAt_dotted (letters : LetterLabels labels) :
    splitAt '.' (dotted labels) = labels := by
  refine splitAt_intercalate letters.present fun label inLabels character inLabel => ?_
  rintro rfl
  exact absurd (letters.letters label inLabels '.' inLabel) (by decide)

theorem LetterLabels.dotted_ne_nil (letters : LetterLabels labels) : dotted labels ≠ [] := by
  intro empty
  have split := letters.splitAt_dotted
  rw [empty] at split
  exact letters.nonempty [] (split ▸ List.mem_cons_self) rfl

theorem map_dotted {change : Char → Char} (keepsDot : change '.' = '.') :
    (dotted labels).map change = dotted (labels.map (·.map change)) := by
  unfold dotted
  induction labels with
  | nil => rfl
  | cons label labels inductionHypothesis =>
    cases labels with
    | nil => rw [List.intercalate_singleton, List.map_singleton, List.intercalate_singleton]
    | cons next labels =>
      rw [List.intercalate_cons_cons, List.map_append, inductionHypothesis, List.map_append,
        List.map_singleton, keepsDot]
      exact List.intercalate_cons_cons.symm

theorem LetterLabels.toLower (letters : LetterLabels labels) :
    LetterLabels (labels.map (·.map Char.toLower)) where
  present := by simpa using letters.present
  nonempty := by simpa using letters.nonempty
  letters := by
    rw [List.forall_mem_map]
    intro label inLabels
    rw [List.forall_mem_map]
    intro character inLabel
    have letter := letters.letters label inLabels character inLabel
    exact of_ascii (fun character => character.isAlpha = true → character.toLower.isAlpha = true)
      (by decide) (ascii_of_isAlpha letter) letter

/-! ### Numbers -/

/-- A text that begins with a letter is no number. -/
theorem partValue?_letter {first : Char} (letter : first.isAlpha = true) (rest : List Char) :
    partValue? (first :: rest) = none := by
  have ascii := ascii_of_isAlpha letter
  have noDigit : digitsValue? 10 [first] = none :=
    of_ascii (fun first => first.isAlpha = true → digitsValue? 10 [first] = none) (by decide)
      ascii letter
  have decimal : digitsValue? 10 (first :: rest) = none := by
    unfold digitsValue? at noDigit ⊢
    rw [List.foldlM_cons] at noDigit ⊢
    simp only [List.foldlM_nil, bind_pure] at noDigit
    rw [noDigit]
    rfl
  have noZero : first ≠ '0' := by
    rintro rfl
    exact absurd letter (by decide)
  unfold partValue?
  split
  · next empty => cases empty
  · next same => exact absurd (List.cons.inj same).1 noZero
  · next same => exact absurd (List.cons.inj same).1 noZero
  · next same => exact absurd (List.cons.inj same).1 noZero
  · exact decimal

/-- A name whose last label consists of letters is no address. -/
theorem LetterLabels.endsInNumber (letters : LetterLabels labels) :
    endsInNumber (dotted labels) = false := by
  obtain ⟨before, last, rfl⟩ :=
    (List.eq_nil_or_concat' labels).resolve_left letters.present
  have inLabels : last ∈ before ++ [last] := List.mem_append_right _ List.mem_cons_self
  obtain ⟨first, rest, rfl⟩ := List.exists_cons_of_ne_nil (letters.nonempty last inLabels)
  have letter := letters.letters _ inLabels first List.mem_cons_self
  have noDigit : first.isDigit = false :=
    of_ascii (fun first => first.isAlpha = true → first.isDigit = false) (by decide)
      (ascii_of_isAlpha letter) letter
  unfold Url.endsInNumber
  rw [letters.splitAt_dotted, List.reverse_append, List.reverse_singleton, List.singleton_append]
  simp only [List.head?_cons, partValue?_letter letter, List.all_cons, noDigit, Bool.false_and,
    Bool.and_false, Option.isSome_none, Bool.or_self]

/-- A name of letters is a host, in small letters. -/
theorem readHost_dotted (letters : LetterLabels labels) :
    readHost (dotted labels) =
      .ok (.domain (String.ofList ((dotted labels).map Char.toLower))) := by
  have decoded : decodeHost (dotted labels) = dotted labels :=
    if_neg fun percent =>
      letters.not_mem_dotted (by decide) (by decide) (List.contains_iff_mem.mp percent)
  have plain : ∀ character ∈ dotted labels, character.toNat < 0x80 ∧
      IsPlainCode (lowerAscii character.toNat) ∧
      Char.ofNat (lowerAscii character.toNat) = character.toLower := by
    intro character inName
    obtain ⟨ascii, letterOrDot⟩ := letters.characters inName
    obtain ⟨small, noHyphen, allowed, lower⟩ := of_ascii
      (fun character => character.isAlpha = true ∨ character = '.' →
        lowerAscii character.toNat < 0x80 ∧ lowerAscii character.toNat ≠ 0x2D ∧
        isDenied (lowerAscii character.toNat) = false ∧
        Char.ofNat (lowerAscii character.toNat) = character.toLower)
      (by decide) ascii letterOrDot
    exact ⟨ascii, ⟨small, noHyphen, allowed⟩, lower⟩
  have ascii : toAscii? ((dotted labels).map Char.toNat) =
      some (((dotted labels).map Char.toNat).map lowerAscii) :=
    toAscii?_plain (List.forall_mem_map.mpr fun character inName => (plain character inName).1)
      (List.forall_mem_map.mpr fun character inName => (plain character inName).2.1)
  have lowered : (((dotted labels).map Char.toNat).map lowerAscii).map Char.ofNat =
      (dotted labels).map Char.toLower := by
    rw [List.map_map, List.map_map]
    exact List.map_congr_left fun character inName => (plain character inName).2.2
  unfold readHost
  split
  · next rest bracket =>
    exact absurd (bracket ▸ List.mem_cons_self)
      (letters.not_mem_dotted (by decide) (by decide))
  · rw [decoded, ascii]
    split
    · next none => cases none
    · next empty =>
      have noName := Option.some.inj empty
      rw [List.map_eq_nil_iff, List.map_eq_nil_iff] at noName
      exact absurd noName letters.dotted_ne_nil
    · next codes found =>
      rw [← Option.some.inj found, lowered, map_dotted (by decide)]
      simp only [letters.toLower.endsInNumber, Bool.false_eq_true, if_false]

end GatewayOperator.Url
