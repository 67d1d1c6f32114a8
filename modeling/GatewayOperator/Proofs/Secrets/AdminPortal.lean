/-
This file checks the addresses of admin portals in their documented form: a scheme of the web, an
access token as the user name, a host name of letters and a path, with white space around them. The
check accepts such an address, wherever its text comes from, and misses the token in one without a
token and in one without a scheme.
-/

import GatewayOperator.Proofs.Url.Authority
import GatewayOperator.Secrets.Validation

namespace GatewayOperator

/-! ### Addresses of admin portals -/

/-- Whether a character may stand in an access token. -/
def isTokenCharacter (character : Char) : Bool :=
  character.isAlphanum || character = '-' || character = '.' || character = '_' || character = '~'

/-- An address of an admin portal, whose scheme and access token may have been forgotten. -/
structure PortalAddress where
  scheme : Option Url.WebScheme
  token : Option (List Char)
  labels : List (List Char)
  path : List Char
  tokenPresent : ∀ text ∈ token, text ≠ []
  tokenPlain : ∀ text ∈ token, ∀ character ∈ text, isTokenCharacter character = true
  letters : Url.LetterLabels labels
  pathStarts : ∀ first ∈ path.head?, first = '/'
  pathPlain : ∀ character ∈ path, character.isAlphanum = true ∨ character = '/'

namespace PortalAddress

/-- What stands behind the scheme. -/
def authority (address : PortalAddress) : List Char :=
  match address.token with
  | some token => token ++ '@' :: Url.dotted address.labels ++ address.path
  | none => Url.dotted address.labels ++ address.path

/-- The text of an address. -/
def text (address : PortalAddress) : List Char :=
  match address.scheme with
  | some scheme => scheme.text ++ ':' :: '/' :: '/' :: address.authority
  | none => address.authority

/-- Whether neither the scheme nor the token was forgotten. -/
def isComplete (address : PortalAddress) : Bool := address.scheme.isSome && address.token.isSome

/-- Whether a character may stand behind the scheme. -/
def isCharacter (character : Char) : Bool :=
  isTokenCharacter character || character = '@' || character = '/'

theorem ascii_of_isCharacter {character : Char} (plain : isCharacter character = true) :
    character.toNat < 128 := by
  simp only [isCharacter, isTokenCharacter, Bool.or_eq_true, decide_eq_true_eq] at plain
  rcases plain with (((((plain | rfl) | rfl) | rfl) | rfl) | rfl) | rfl
  · exact Url.ascii_of_isAlphanum plain
  all_goals decide

/-- A character of a token does not end the user of an address. -/
theorem token_facts {character : Char} (plain : isTokenCharacter character = true) :
    Url.isSlash character = false ∧ character ≠ ':' ∧ Url.endsAuthority .web character = false :=
  have isPlain : isCharacter character = true := by simp [isCharacter, plain]
  Url.of_ascii (fun character => isTokenCharacter character = true →
    Url.isSlash character = false ∧ character ≠ ':' ∧ Url.endsAuthority .web character = false)
    (by decide) (ascii_of_isCharacter isPlain) plain

variable (address : PortalAddress)

theorem isCharacter_of_mem_authority :
    ∀ character ∈ address.authority, isCharacter character = true := by
  have host : ∀ character ∈ Url.dotted address.labels, isCharacter character = true := by
    intro character member
    obtain ⟨ascii, letterOrDot⟩ := address.letters.characters member
    exact Url.of_ascii (fun character => character.isAlpha = true ∨ character = '.' →
      isCharacter character = true) (by decide) ascii letterOrDot
  have path : ∀ character ∈ address.path, isCharacter character = true := by
    intro character member
    rcases address.pathPlain character member with plain | rfl
    · simp [isCharacter, isTokenCharacter, plain]
    · decide
  unfold authority
  split
  · next token isToken =>
    rw [List.forall_mem_append, List.forall_mem_append, List.forall_mem_cons]
    refine ⟨⟨fun character member => ?_, by decide, host⟩, path⟩
    simp [isCharacter, address.tokenPlain token isToken character member]
  · rw [List.forall_mem_append]
    exact ⟨host, path⟩

/-- Whether a character is no white space, and does not end a scheme. -/
theorem visible_of_isCharacter {character : Char} (plain : isCharacter character = true) :
    0x20 < character.toNat ∧ Text.isBlank character = false ∧ character ≠ ':' :=
  Url.of_ascii (fun character => isCharacter character = true →
    0x20 < character.toNat ∧ Text.isBlank character = false ∧ character ≠ ':') (by decide)
    (ascii_of_isCharacter plain) plain

theorem visible_of_mem_text :
    ∀ character ∈ address.text, 0x20 < character.toNat ∧ Text.isBlank character = false := by
  have behind : ∀ character ∈ address.authority,
      0x20 < character.toNat ∧ Text.isBlank character = false := fun character member =>
    have visible := visible_of_isCharacter (address.isCharacter_of_mem_authority character member)
    ⟨visible.1, visible.2.1⟩
  unfold text
  split
  · next scheme isScheme =>
    rw [List.forall_mem_append]
    refine ⟨fun character member => ?_, ?_⟩
    · have plain : isCharacter character = true :=
        List.all_eq_true.mp (by cases scheme <;> decide) character member
      have visible := visible_of_isCharacter plain
      exact ⟨visible.1, visible.2.1⟩
    rw [List.forall_mem_cons, List.forall_mem_cons, List.forall_mem_cons]
    exact ⟨by decide, by decide, by decide, behind⟩
  · exact behind

/-- The slashes behind the scheme do not reach into the authority. -/
theorem isSlash_of_mem_head : ∀ first ∈ address.authority.head?, Url.isSlash first = false := by
  intro first member
  unfold authority at member
  cases isToken : address.token with
  | none =>
    simp only [isToken, List.head?_append_of_ne_nil _ address.letters.dotted_ne_nil] at member
    obtain ⟨ascii, letterOrDot⟩ := address.letters.characters (List.mem_of_mem_head? member)
    exact Url.of_ascii (fun character => character.isAlpha = true ∨ character = '.' →
      Url.isSlash character = false) (by decide) ascii letterOrDot
  | some token =>
    simp only [isToken, List.append_assoc,
      List.head?_append_of_ne_nil _ (address.tokenPresent token isToken)] at member
    exact (token_facts (address.tokenPlain token isToken first (List.mem_of_mem_head? member))).1

/-- The authority is read as the token and the host. -/
theorem readAuthority_authority :
    Url.readAuthority .web address.authority =
      .ok (address.token.getD [], some (Url.hostOf address.labels)) := by
  unfold authority
  cases isToken : address.token with
  | none => exact Url.readAuthority_host address.letters address.pathStarts
  | some token =>
    have plain := fun character member =>
      token_facts (address.tokenPlain token isToken character member)
    exact Url.readAuthority_user address.letters (address.tokenPresent token isToken)
      (fun colon => (plain ':' colon).2.1 rfl)
      (fun character member => (plain character member).2.2) address.pathStarts

/-- An address is read as the parts it was written from, unless it has no scheme. -/
theorem parse_text :
    Url.parse address.text =
      match address.scheme with
      | some scheme => .ok ⟨String.ofList scheme.text, String.ofList (address.token.getD []),
          some (Url.hostOf address.labels)⟩
      | none => .error .relativeWithoutBase := by
  unfold Url.parse
  rw [Url.clean_of_visible fun character member => (address.visible_of_mem_text character member).1]
  unfold text
  cases address.scheme with
  | none =>
    have noColon : ':' ∉ address.authority := fun colon =>
      (visible_of_isCharacter (address.isCharacter_of_mem_authority ':' colon)).2.2 rfl
    simp only [Url.readScheme?_eq_none noColon]
  | some scheme =>
    have read : Url.readScheme? (scheme.text ++ ':' :: '/' :: '/' :: address.authority) =
        some (scheme.text, '/' :: '/' :: address.authority) := by
      rw [Url.readScheme?_append (by cases scheme <;> decide)
        (List.all_eq_true.mp (by cases scheme <;> decide))]
      cases scheme <;> rfl
    simp only [read]
    exact Url.readRest_web scheme address.isSlash_of_mem_head address.readAuthority_authority

end PortalAddress

/-! ### Secrets -/

namespace Secret

/-- The text under a key: text data wins over bytes, which are read as text. -/
def effectiveText? (secret : Secret) (key : String) : Option String :=
  match secret.stringData.bind (·.get? key) with
  | some text => some text
  | none => (secret.data.bind (·.get? key)).map fun bytes =>
      String.ofList (Text.Utf8.decode bytes)

theorem get?_texts (secret : Secret) (key : String) :
    secret.texts.get? key = secret.effectiveText? key := by
  have optional : ∀ {Value : Type} (map : Option (Map Value)),
      (map.getD Map.empty).get? key = map.bind (·.get? key) := by
    intro Value map
    cases map <;> rfl
  unfold texts effectiveText?
  rw [Map.get?_union, Map.get?_map, optional, optional]
  cases secret.stringData.bind (·.get? key) <;> rfl

end Secret

/-- A documented address is accepted when it is complete, and otherwise its token is missed. -/
theorem admin_portal_verdict (address : PortalAddress) {before after : List Char}
    (blankBefore : ∀ character ∈ before, Text.isBlank character = true)
    (blankAfter : ∀ character ∈ after, Text.isBlank character = true) {secret : Secret}
    (holds : secret.effectiveText? adminPortalKey =
      some (String.ofList (before ++ address.text ++ after))) :
    secret.checkAdminPortal = if address.isComplete then .ok ()
      else .error (.credentialMissing adminPortalKey secret.name) := by
  have trimmed : Text.trim (before ++ address.text ++ after) = address.text :=
    Text.dropTrailing_dropWhile blankBefore
      (fun character member => (address.visible_of_mem_text character member).2) blankAfter
  have parsed := address.parse_text
  unfold Secret.checkAdminPortal PortalAddress.isComplete
  rw [Secret.get?_texts, holds]
  simp only [String.toList_ofList, trimmed]
  cases isScheme : address.scheme with
  | none =>
    rw [isScheme] at parsed
    simp only [parsed, Option.isSome_none, Bool.false_and, Bool.false_eq_true, if_false]
  | some scheme =>
    rw [isScheme] at parsed
    cases isToken : address.token with
    | none =>
      rw [isToken] at parsed
      simp only [parsed]
      rfl
    | some token =>
      have named : (String.ofList token).isEmpty = false := by
        rw [Bool.eq_false_iff, ne_eq, String.isEmpty_iff]
        intro empty
        have noCharacters := congrArg String.toList empty
        rw [String.toList_ofList] at noCharacters
        exact address.tokenPresent token isToken noCharacters
      rw [isToken] at parsed
      simp only [parsed, Option.getD_some, named, Option.isSome_some, Bool.and_self, if_true,
        Bool.false_eq_true, if_false]

/-- A portal with an access token and a path. -/
def edgePortal : PortalAddress where
  scheme := some .https
  token := some "s3cr-et.~_".toList
  labels := ["Portal".toList, "example".toList, "com".toList]
  path := "/api/v2".toList
  tokenPresent := by decide
  tokenPlain := by
    rintro _ ⟨⟩
    exact List.all_eq_true.mp (by decide)
  letters :=
    { present := by decide
      nonempty := by decide
      letters := by
        rw [List.forall_mem_cons, List.forall_mem_cons, List.forall_mem_singleton]
        exact ⟨List.all_eq_true.mp (by decide), List.all_eq_true.mp (by decide),
          List.all_eq_true.mp (by decide)⟩ }
  pathStarts := by
    rintro _ ⟨⟩
    rfl
  pathPlain := by simp

/-- A Secret whose bytes hold an address without a token and whose text data holds the complete one
between a no-break space and a line end. -/
def edgePortalSecret : Secret where
  metadata := { name := some "portal" }
  data := some (Map.empty.insert adminPortalKey "https://portal.example.com".toUTF8.data.toList)
  stringData := some (Map.empty.insert adminPortalKey
    "\u00A0https://s3cr-et.~_@Portal.example.com/api/v2\n")

theorem edge_portal_is_accepted :
    edgePortalSecret.effectiveText? adminPortalKey =
      some (String.ofList (['\u00A0'] ++ edgePortal.text ++ ['\n'])) ∧
    edgePortalSecret.checkAdminPortal = .ok () := by
  have holds : edgePortalSecret.effectiveText? adminPortalKey =
      some (String.ofList (['\u00A0'] ++ edgePortal.text ++ ['\n'])) := by decide
  exact ⟨holds, admin_portal_verdict edgePortal (List.forall_mem_singleton.mpr (by decide))
    (List.forall_mem_singleton.mpr (by decide)) holds⟩

end GatewayOperator
