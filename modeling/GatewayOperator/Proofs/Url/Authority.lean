/-
This file reads addresses of the web whose host is a name of letters. The scheme ends at the first
colon, the user at the last at sign and the host at the first slash behind it, so an address is read
as the parts it was written from; a text without a colon has no scheme and is no address.
-/

import GatewayOperator.Proofs.Url.Host

namespace GatewayOperator.Url

open GatewayOperator.Text

/-! ### Schemes -/

/-- Nothing is passed over in a text without blanks and control characters. -/
theorem clean_of_visible {text : List Char} (visible : ∀ character ∈ text, 0x20 < character.toNat) :
    clean text = text := by
  have keeps : ∀ character ∈ text, isControlOrSpace character = false := fun character member =>
    decide_eq_false (Nat.not_le.mpr (visible character member))
  have trimmed := @dropTrailing_dropWhile isControlOrSpace [] text [] nofun keeps nofun
  rw [List.nil_append, List.append_nil] at trimmed
  unfold clean
  rw [trimmed, List.filter_eq_self]
  intro character member
  rw [Bool.not_eq_true', Bool.eq_false_iff]
  intro ignored
  simp only [isIgnored, Bool.or_eq_true, decide_eq_true_eq] at ignored
  rcases ignored with (rfl | rfl) | rfl <;> exact absurd (visible _ member) (by decide)

/-- The scheme ends at the colon. -/
theorem readScheme?_append {scheme : List Char} (letter : scheme.head?.any Char.isAlpha = true)
    (characters : ∀ character ∈ scheme, isSchemeCharacter character = true) (rest : List Char) :
    readScheme? (scheme ++ ':' :: rest) = some (scheme.map Char.toLower, rest) := by
  cases scheme with
  | nil => cases letter
  | cons first others =>
    have colon : isSchemeCharacter ':' = false := by decide
    have isLetter : first.isAlpha = true := letter
    unfold readScheme?
    rw [List.dropWhile_append_of_pos characters, List.takeWhile_append_of_pos characters]
    simp only [List.cons_append, isLetter, if_true, List.dropWhile_cons, List.takeWhile_cons, colon,
      Bool.false_eq_true, if_false, List.append_nil]

/-- A text without a colon has no scheme. -/
theorem readScheme?_eq_none {text : List Char} (noColon : ':' ∉ text) :
    readScheme? text = none := by
  unfold readScheme?
  split
  · split
    · split
      · next rest found =>
        have member : ':' ∈ List.dropWhile isSchemeCharacter _ := found ▸ List.mem_cons_self
        exact absurd ((List.dropWhile_suffix _).subset member) noColon
      · rfl
    · rfl
  · rfl

/-! ### Users and hosts -/

theorem bne_of_not_mem {mark : Char} {text : List Char} (absent : mark ∉ text) :
    ∀ character ∈ text, (character != mark) = true := by
  intro character member
  rw [bne_iff_ne]
  rintro rfl
  exact absent member

/-- A text without an at sign has no user. -/
theorem splitLastAt?_eq_none {text : List Char} (noAt : '@' ∉ text) : splitLastAt? text = none := by
  have all := bne_of_not_mem (List.mem_reverse.not.mpr noAt)
  unfold splitLastAt?
  simp only [List.dropWhile_eq_nil_iff.mpr all]

/-- The user ends at the last at sign. -/
theorem splitLastAt?_append (user : List Char) {host : List Char} (noAt : '@' ∉ host) :
    splitLastAt? (user ++ '@' :: host) = some (user, host) := by
  have all := bne_of_not_mem (List.mem_reverse.not.mpr noAt)
  unfold splitLastAt?
  simp only [List.reverse_append, List.reverse_cons, List.append_assoc, List.singleton_append,
    List.dropWhile_append_of_pos all, List.takeWhile_append_of_pos all, List.dropWhile_cons,
    List.takeWhile_cons, bne_self_eq_false, Bool.false_eq_true, if_false, List.append_nil,
    List.reverse_reverse]

/-- A host without a colon has no port. -/
theorem splitHost_of_no_colon {text : List Char} (noColon : ':' ∉ text) (inBrackets : Bool) :
    splitHost inBrackets text = (text, []) := by
  induction text generalizing inBrackets with
  | nil => rfl
  | cons first rest inductionHypothesis =>
    rw [List.mem_cons, not_or] at noColon
    have other : (decide (first = ':') && !inBrackets) = false := by
      rw [decide_eq_false (Ne.symm noColon.1), Bool.false_and]
    unfold splitHost
    simp only [other, Bool.false_eq_true, if_false, inductionHypothesis noColon.2]

variable {labels : List (List Char)}

/-- The host with given labels, in small letters. -/
def hostOf (labels : List (List Char)) : Host :=
  .domain (String.ofList ((dotted labels).map Char.toLower))

theorem readHostAndPort_dotted (letters : LetterLabels labels) :
    readHostAndPort .web (dotted labels) = .ok (some (hostOf labels)) := by
  have noColon : ':' ∉ dotted labels := letters.not_mem_dotted (by decide) (by decide)
  have present : (dotted labels).isEmpty = false :=
    List.isEmpty_eq_false_iff.mpr letters.dotted_ne_nil
  have named : hostOf labels ≠ .domain "" := by
    intro same
    have empty := congrArg String.toList (Host.domain.inj same)
    rw [String.toList_ofList] at empty
    exact letters.dotted_ne_nil (List.map_eq_nil_iff.mp empty)
  unfold readHostAndPort
  rw [splitHost_of_no_colon noColon]
  simp only [present, Bool.and_false, Bool.false_eq_true, if_false, reduceCtorEq,
    readHost_dotted letters, bind, Except.bind]
  split
  · next noPort => cases noPort
  · next empty _ => exact absurd empty named
  · rfl
  · next noPort _ => cases noPort

/-- A path begins with a slash, so what stands before it ends where it begins. -/
theorem takeWhile_authority {authority path : List Char}
    (inside : ∀ character ∈ authority, endsAuthority .web character = false)
    (ends : ∀ first ∈ path.head?, first = '/') :
    (authority ++ path).takeWhile (!endsAuthority .web ·) = authority := by
  have all : ∀ character ∈ authority, (!endsAuthority .web character) = true :=
    fun character member => by rw [inside character member, Bool.not_false]
  rw [List.takeWhile_append_of_pos all]
  cases path with
  | nil => exact List.append_nil authority
  | cons first rest =>
    rw [ends first rfl]
    exact List.append_nil authority

theorem LetterLabels.endsAuthority (letters : LetterLabels labels) :
    ∀ character ∈ dotted labels, endsAuthority .web character = false := by
  intro character member
  obtain ⟨ascii, letterOrDot⟩ := letters.characters member
  exact of_ascii (fun character => character.isAlpha = true ∨ character = '.' →
    Url.endsAuthority .web character = false) (by decide) ascii letterOrDot

/-- An address without a user. -/
theorem readAuthority_host (letters : LetterLabels labels) {path : List Char}
    (ends : ∀ first ∈ path.head?, first = '/') :
    readAuthority .web (dotted labels ++ path) = .ok ([], some (hostOf labels)) := by
  have noAt : '@' ∉ dotted labels := letters.not_mem_dotted (by decide) (by decide)
  unfold readAuthority
  simp only [takeWhile_authority letters.endsAuthority ends, splitLastAt?_eq_none noAt,
    readHostAndPort_dotted letters]
  rfl

/-- An address with a user that has no password. -/
theorem readAuthority_user (letters : LetterLabels labels) {user path : List Char}
    (present : user ≠ []) (noColon : ':' ∉ user)
    (inside : ∀ character ∈ user, endsAuthority .web character = false)
    (ends : ∀ first ∈ path.head?, first = '/') :
    readAuthority .web (user ++ '@' :: dotted labels ++ path) =
      .ok (user, some (hostOf labels)) := by
  have noAt : '@' ∉ dotted labels := letters.not_mem_dotted (by decide) (by decide)
  have allInside : ∀ character ∈ user ++ '@' :: dotted labels,
      endsAuthority .web character = false := by
    rw [List.forall_mem_append, List.forall_mem_cons]
    exact ⟨inside, by decide, letters.endsAuthority⟩
  have wholeName : userName user = user :=
    List.takeWhile_eq_self_iff.mpr (bne_of_not_mem noColon)
  obtain ⟨first, rest, rfl⟩ := List.exists_cons_of_ne_nil present
  unfold readAuthority
  simp only [takeWhile_authority allInside ends, splitLastAt?_append _ noAt,
    readHostAndPort_dotted letters, wholeName]
  rfl

/-! ### Addresses -/

/-- The two schemes of web pages. -/
inductive WebScheme where
  | http
  | https
  deriving DecidableEq

/-- The text of a scheme. -/
def WebScheme.text : WebScheme → List Char
  | http => "http".toList
  | https => "https".toList

/-- The slashes behind a scheme are passed over. -/
theorem readRest_web (scheme : WebScheme) {authority : List Char} {user : List Char}
    {host : Option Host} (noSlash : ∀ first ∈ authority.head?, isSlash first = false)
    (read : readAuthority .web authority = .ok (user, host)) :
    readRest scheme.text ('/' :: '/' :: authority) =
      .ok ⟨String.ofList scheme.text, String.ofList user, host⟩ := by
  have behind : ('/' :: '/' :: authority).dropWhile isSlash = authority := by
    cases authority with
    | nil => rfl
    | cons first rest =>
      have here := noSlash first rfl
      simp only [List.dropWhile_cons, here, show isSlash '/' = true by decide, if_true,
        Bool.false_eq_true, if_false]
  have web : schemeKind scheme.text = .web := by cases scheme <;> decide
  unfold readRest
  simp only [web, behind, read]
  rfl

end GatewayOperator.Url
