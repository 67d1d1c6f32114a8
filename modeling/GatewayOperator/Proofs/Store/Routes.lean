/-
This file follows the target of a request to the server and back. A namespace and a name that are
labels of the domain name system stand in a path for themselves, and so does the name of an object
of a gateway, which is a label behind a fixed stem. So the target of a call can be sent as it is,
and whoever takes it apart finds the kind and the name that it was made from: no two kinds share
both the path of their group and the word for their objects, and no path of a group begins another
one.
-/

import GatewayOperator.Proofs.Text.Parts
import GatewayOperator.Store.Server
import Mathlib.Data.List.Infix
import Mathlib.Data.List.TakeWhile

namespace GatewayOperator

/-! ### Labels -/

/-- Whether a character may stand in a label of the domain name system. -/
def isLabelCharacter (character : Char) : Bool :=
  ('a' ≤ character && character ≤ 'z') || character.isDigit || character = '-'

/-- Whether a text is a label of the domain name system: it has between one and 63 characters, and a
hyphen stands neither at its start nor at its end. -/
def isLabel (text : String) : Bool :=
  0 < text.length && text.length ≤ 63 && text.toList.all isLabelCharacter &&
    text.toList.head? != some '-' && text.toList.getLast? != some '-'

/-- A text that stands in a path for itself. -/
structure IsSegment (text : String) : Prop where
  nonempty : text.isEmpty = false
  short : text.length ≤ 255
  characters : ∀ character ∈ text.toList, isLabelCharacter character = true

/-- A name both parts of which stand in a path for themselves. -/
structure ObjectName.IsPlain (name : ObjectName) : Prop where
  namespaceName : IsSegment name.namespaceName
  name : IsSegment name.name

theorem isSegment_of_isLabel {text : String} (label : isLabel text = true) : IsSegment text := by
  simp only [isLabel, Bool.and_eq_true, decide_eq_true_eq, List.all_eq_true] at label
  obtain ⟨⟨⟨⟨positive, short⟩, characters⟩, -⟩, -⟩ := label
  refine ⟨?_, by omega, characters⟩
  rw [Bool.eq_false_iff]
  intro empty
  rw [String.isEmpty_iff.mp empty] at positive
  exact absurd positive (by decide)

/-- The objects of a gateway whose name is a label have a name that stands for itself. -/
theorem isSegment_childName {gatewayName : String} (label : isLabel gatewayName = true) :
    IsSegment (childName gatewayName) := by
  have plain := isSegment_of_isLabel label
  simp only [isLabel, Bool.and_eq_true, decide_eq_true_eq] at label
  have short := label.1.1.1.2
  have length : (childName gatewayName).length = 8 + gatewayName.length :=
    String.length_append _ _
  refine ⟨?_, by omega, ?_⟩
  · rw [Bool.eq_false_iff]
    intro empty
    rw [String.isEmpty_iff.mp empty, String.length_empty] at length
    omega
  · unfold childName
    rw [String.toList_append, List.forall_mem_append]
    exact ⟨List.all_eq_true.mp (by decide), plain.characters⟩

/-- A character has at most four bytes. -/
theorem utf8ByteSize_le (text : String) : text.utf8ByteSize ≤ 4 * text.length := by
  have bytes : ∀ characters : List Char,
      (String.ofList characters).utf8ByteSize ≤ 4 * characters.length := by
    intro characters
    induction characters with
    | nil => exact Nat.zero_le _
    | cons character characters inductionHypothesis =>
      have size := character.utf8Size_le_four
      rw [String.ofList_cons, String.utf8ByteSize_append, String.utf8ByteSize_singleton,
        List.length_cons]
      omega
  have whole := bytes text.toList
  rwa [String.ofList_toList, String.length_toList] at whole

/-! ### Targets -/

/-- Whether a character may stand in a path and ends none. -/
def isPathCharacter (character : Char) : Bool :=
  Http.pathAllows character && character != '?' && character != '#'

theorem isPathCharacter_iff {character : Char} : isPathCharacter character = true ↔
    Http.pathAllows character = true ∧ (character != '?') = true ∧ (character != '#') = true := by
  unfold isPathCharacter
  rw [Bool.and_eq_true, Bool.and_eq_true, and_assoc]

/-- A character of a label stands in a path, and it is no slash. -/
theorem isPathCharacter_of_isLabelCharacter {character : Char}
    (inLabel : isLabelCharacter character = true) :
    isPathCharacter character = true ∧ character ≠ '/' := by
  have small : character.toNat < 128 := by
    simp only [isLabelCharacter, Bool.or_eq_true, Bool.and_eq_true, decide_eq_true_eq] at inLabel
    rcases inLabel with (⟨-, upper⟩ | digit) | rfl
    · exact Nat.lt_of_le_of_lt upper (by decide)
    · simp only [Char.isDigit, Bool.and_eq_true, decide_eq_true_eq] at digit
      exact Nat.lt_of_le_of_lt digit.2 (by decide)
    · decide
  -- All characters below this bound are checked one by one.
  have all : ∀ number < 128, isLabelCharacter (Char.ofNat number) = true →
      isPathCharacter (Char.ofNat number) = true ∧ Char.ofNat number ≠ '/' := by decide
  have here := all character.toNat small
  rw [Char.ofNat_toNat] at here
  exact here inLabel

/-- A text that may stand behind a path as its query, or no query at all. -/
structure IsQuery (query : String) : Prop where
  marked : query.toList.head?.all (· == '?') = true
  characters : query.toList.all (fun character => Http.queryAllows character && character != '#') =
    true

theorem IsQuery.allows {query : String} (isQuery : IsQuery query) :
    ∀ character ∈ query.toList,
      Http.queryAllows character = true ∧ (character != '#') = true := fun character member =>
  Bool.and_eq_true_iff.mp (List.all_eq_true.mp isQuery.characters character member)

section Targets

variable {path query : String}

/-- The query of a target starts where its path ends. -/
theorem path_and_query (isPath : ∀ character ∈ path.toList, isPathCharacter character = true)
    (isQuery : IsQuery query) :
    (path ++ query).toList.takeWhile (· != '?') = path.toList ∧
      (path ++ query).toList.dropWhile (· != '?') = query.toList := by
  have unmarked : ∀ character ∈ path.toList, (character != '?') = true := fun character member =>
    (isPathCharacter_iff.mp (isPath character member)).2.1
  have stop : query.toList.takeWhile (· != '?') = [] ∧
      query.toList.dropWhile (· != '?') = query.toList := by
    have marked := isQuery.marked
    cases characters : query.toList with
    | nil => exact ⟨rfl, rfl⟩
    | cons first rest =>
      rw [characters] at marked
      obtain rfl : first = '?' := beq_iff_eq.mp marked
      exact ⟨rfl, rfl⟩
  rw [String.toList_append, List.takeWhile_append_of_pos unmarked,
    List.dropWhile_append_of_pos unmarked, stop.1, stop.2, List.append_nil]
  exact ⟨rfl, rfl⟩

/-- A path with a query is sent as it is. -/
theorem target?_eq (isPath : ∀ character ∈ path.toList, isPathCharacter character = true)
    (isQuery : IsQuery query) (short : (path ++ query).utf8ByteSize ≤ Http.targetLimit) :
    Http.target? (path ++ query) = some (path ++ query) := by
  have whole : Http.sentPart (path ++ query).toList = (path ++ query).toList := by
    refine List.takeWhile_eq_self_iff.mpr fun character member => ?_
    rw [String.toList_append] at member
    rcases List.mem_append.mp member with inPath | inQuery
    · exact (isPathCharacter_iff.mp (isPath character inPath)).2.2
    · exact (isQuery.allows character inQuery).2
  have parts := path_and_query isPath isQuery
  have allowed : Http.isTarget (path ++ query).toList = true := by
    unfold Http.isTarget
    rw [parts.1, parts.2, Bool.and_eq_true, List.all_eq_true, List.all_eq_true]
    exact ⟨fun character member => (isPathCharacter_iff.mp (isPath character member)).1,
      fun character member => (isQuery.allows character member).1⟩
  simp only [Http.target?, whole, allowed, decide_eq_true short, Bool.and_self, if_true,
    String.ofList_toList]

end Targets

/-! ### Routes -/

namespace Route

/-- The kind of the objects of a route. -/
def kind : Route → Kind
  | collection kind _ | object kind _ | status kind _ => kind

/-- The parts of the path behind the word for namespaces. -/
def parts : Route → List String
  | collection kind namespaceName => [namespaceName, kind.plural]
  | object kind name => [name.namespaceName, kind.plural, name.name]
  | status kind name => [name.namespaceName, kind.plural, name.name, "status"]

/-- The path of a route. -/
def path : Route → String
  | collection kind namespaceName => kind.collectionPath namespaceName
  | object kind name => kind.objectPath name
  | status kind name => kind.objectPath name ++ "/status"

/-- A route whose namespace and name stand in a path for themselves. -/
def IsPlain : Route → Prop
  | collection _ namespaceName => IsSegment namespaceName
  | object _ name | status _ name => name.IsPlain

theorem toList_path (route : Route) :
    route.path.toList = stem route.kind ++ ['/'].intercalate (route.parts.map String.toList) := by
  cases route <;>
    simp [path, stem, parts, kind, Kind.objectPath, Kind.collectionPath, List.intercalate]

variable {route : Route}

theorem IsPlain.parts (plain : route.IsPlain) :
    ∀ part ∈ route.parts, ∀ character ∈ part.toList, isLabelCharacter character = true := by
  have plural : ∀ kind : Kind, ∀ character ∈ kind.plural.toList,
      isLabelCharacter character = true := by
    intro kind
    refine List.all_eq_true.mp ?_
    cases kind <;> decide
  cases route with
  | collection kind namespaceName =>
    exact List.forall_mem_cons.mpr ⟨plain.characters, List.forall_mem_singleton.mpr (plural kind)⟩
  | object kind name =>
    exact List.forall_mem_cons.mpr ⟨plain.namespaceName.characters, List.forall_mem_cons.mpr
      ⟨plural kind, List.forall_mem_singleton.mpr plain.name.characters⟩⟩
  | status kind name =>
    exact List.forall_mem_cons.mpr ⟨plain.namespaceName.characters, List.forall_mem_cons.mpr
      ⟨plural kind, List.forall_mem_cons.mpr ⟨plain.name.characters,
        List.forall_mem_singleton.mpr (List.all_eq_true.mp (by decide))⟩⟩⟩

/-- The path of a plain route has nothing in it that ends a path. -/
theorem IsPlain.path (plain : route.IsPlain) :
    ∀ character ∈ route.path.toList, isPathCharacter character = true := by
  have inStem : ∀ kind : Kind, ∀ character ∈ stem kind, isPathCharacter character = true := by
    intro kind
    refine List.all_eq_true.mp ?_
    cases kind <;> decide
  rw [toList_path, List.forall_mem_append]
  refine ⟨inStem _, fun character member => ?_⟩
  obtain rfl | ⟨_, inParts, inPart⟩ := Text.mem_intercalate member
  · decide
  · obtain ⟨part, inRoute, rfl⟩ := List.mem_map.mp inParts
    exact (isPathCharacter_of_isLabelCharacter (plain.parts part inRoute character inPart)).1

/-- The parts of a plain route are found again in its path. -/
theorem IsPlain.splitAt_rest (plain : route.IsPlain) :
    (Text.splitAt '/' (['/'].intercalate (route.parts.map String.toList))).map String.ofList =
      route.parts := by
  rw [Text.splitAt_intercalate]
  · rw [List.map_map]
    refine (List.map_congr_left fun text _ => ?_).trans (List.map_id _)
    exact String.ofList_toList
  · cases route <;> nofun
  · intro part inParts character inPart
    obtain ⟨text, inRoute, rfl⟩ := List.mem_map.mp inParts
    exact (isPathCharacter_of_isLabelCharacter (plain.parts text inRoute character inPart)).2

theorem ofParts?_parts (route : Route) : ofParts? route.kind route.parts = some route := by
  cases route with
  | collection kind namespaceName => exact if_pos rfl
  | object kind name => exact if_pos rfl
  | status kind name => exact if_pos rfl

/-- The word for the objects of a route belongs to its kind. -/
theorem ofParts?_of_plural {other : Kind} (different : route.kind.plural ≠ other.plural) :
    ofParts? other route.parts = none := by
  cases route with
  | collection kind namespaceName => exact if_neg different
  | object kind name => exact if_neg different
  | status kind name => exact if_neg different

/-- Two kinds have different words for their objects or live in groups whose paths go apart. -/
theorem stem_or_plural {kind other : Kind} (different : other ≠ kind) :
    (stem other = stem kind ∧ kind.plural ≠ other.plural) ∨
      (¬stem other <+: stem kind ∧ ¬stem kind <+: stem other) := by
  revert different
  cases kind <;> cases other <;> decide

/-- The path of a plain route belongs to its kind and to no other one. -/
theorem IsPlain.ofPath?_path (plain : route.IsPlain) (other : Kind) :
    Route.ofPath? route.path.toList other = if other = route.kind then some route else none := by
  have found : ∀ kind : Kind, stem kind = stem route.kind →
      Route.ofPath? route.path.toList kind = ofParts? kind route.parts := by
    intro kind same
    unfold Route.ofPath?
    rw [toList_path, ← same, List.isPrefixOf?_eq_some_iff_append_eq.mpr rfl]
    show ofParts? kind _ = _
    rw [plain.splitAt_rest]
  split
  · next same =>
    rw [found other (congrArg stem same), same]
    exact ofParts?_parts route
  · next different =>
    rcases stem_or_plural different with ⟨same, plural⟩ | ⟨shorter, longer⟩
    · rw [found other same]
      exact ofParts?_of_plural plural
    · unfold Route.ofPath?
      cases begins : (stem other).isPrefixOf? route.path.toList with
      | none => rfl
      | some rest =>
        have whole := List.isPrefixOf?_eq_some_iff_append_eq.mp begins
        rw [toList_path] at whole
        rcases List.prefix_or_prefix_of_prefix ⟨rest, whole⟩ (List.prefix_append _ _)
          with isPrefix | isPrefix
        · exact absurd isPrefix shorter
        · exact absurd isPrefix longer

/-- A plain route is found again in a target. -/
theorem IsPlain.ofTarget?_path (plain : route.IsPlain) {query : String}
    (isQuery : IsQuery query) :
    Route.ofTarget? (route.path ++ query) = some route := by
  unfold Route.ofTarget?
  rw [(path_and_query plain.path isQuery).1, funext plain.ofPath?_path]
  cases route.kind <;> rfl

/-- A plain route has a path that a target has room for. -/
theorem IsPlain.utf8ByteSize_path (plain : route.IsPlain) : route.path.utf8ByteSize ≤ 4000 := by
  have segment : ∀ {text : String}, IsSegment text → text.utf8ByteSize ≤ 1020 := by
    intro text isSegment
    have bytes := utf8ByteSize_le text
    have short := isSegment.short
    omega
  have words : ∀ kind : Kind,
      kind.groupPath.utf8ByteSize + kind.plural.utf8ByteSize ≤ 60 := by
    intro kind
    cases kind <;> decide
  have namespaces : "/namespaces/".utf8ByteSize = 12 := rfl
  have slash : "/".utf8ByteSize = 1 := rfl
  have status : "/status".utf8ByteSize = 7 := rfl
  cases route with
  | collection kind namespaceName =>
    have word := words kind
    have size := segment plain
    simp only [Route.path, Kind.collectionPath, String.utf8ByteSize_append]
    omega
  | object kind name | status kind name =>
    have word := words kind
    have namespaceSize := segment plain.namespaceName
    have nameSize := segment plain.name
    simp only [Route.path, Kind.objectPath, Kind.collectionPath, String.utf8ByteSize_append]
    omega

end Route

/-! ### The request of a call -/

namespace Call

/-- What a call is about, as its request tells. -/
def route (name : ObjectName) : Call → Route
  | get kind _ _ | update kind _ => .object kind name
  | create kind _ => .collection kind name.namespaceName
  | updateStatus _ => .status .gateway name

/-- The query of the request. -/
def query : Call → String
  | get .. => ""
  | create .. | update .. => writeQuery
  | updateStatus _ => "?"

theorem target_draft (call : Call) (name : ObjectName) :
    (call.draft name).target = (call.route name).path ++ call.query := by
  cases call with
  | get kind namespaceName objectName => exact String.append_empty.symm
  | create kind object => rfl
  | update kind object => rfl
  | updateStatus gateway =>
    show _ ++ "/status?" = Kind.gateway.objectPath name ++ "/status" ++ "?"
    rw [String.append_assoc]
    rfl

theorem isQuery_query (call : Call) :
    IsQuery call.query ∧ call.query.utf8ByteSize ≤ 100 := by
  have none : IsQuery "" ∧ "".utf8ByteSize ≤ 100 := ⟨⟨by decide, by decide⟩, by decide⟩
  have write : IsQuery writeQuery ∧ writeQuery.utf8ByteSize ≤ 100 :=
    ⟨⟨by decide, by decide⟩, by decide⟩
  have mark : IsQuery "?" ∧ "?".utf8ByteSize ≤ 100 := ⟨⟨by decide, by decide⟩, by decide⟩
  cases call with
  | get => exact none
  | create | update => exact write
  | updateStatus => exact mark

/-- The request for a call about a plain name is made as it was drafted, and its target tells what
the call is about. -/
theorem request?_of_isPlain (call : Call) {name : ObjectName} (plain : name.IsPlain) :
    call.request? name = some (call.draft name) ∧
      Route.ofTarget? (call.draft name).target = some (call.route name) := by
  have plainRoute : (call.route name).IsPlain := by
    cases call with
    | get | update | updateStatus => exact plain
    | create => exact plain.namespaceName
  obtain ⟨isQuery, short⟩ := call.isQuery_query
  have sent : Http.target? (call.draft name).target = some (call.draft name).target := by
    rw [target_draft]
    refine target?_eq plainRoute.path isQuery ?_
    have long := plainRoute.utf8ByteSize_path
    have limit : Http.targetLimit = 65534 := rfl
    rw [String.utf8ByteSize_append]
    omega
  constructor
  · unfold request?
    rw [plain.name.nonempty, Bool.and_false]
    simp only [Bool.false_eq_true, if_false, sent]
    rfl
  · rw [target_draft]
    exact plainRoute.ofTarget?_path isQuery

end Call

end GatewayOperator
