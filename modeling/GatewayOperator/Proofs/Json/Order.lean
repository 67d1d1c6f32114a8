/-
This file reads documents whose members stand in another order. What a record reads of an object
are the last members of its names, whatever order they stand in and whatever else the object holds.
The normal form of a document sorts the members at every depth and keeps the last of those with one
name, so what a document is read as, its normal form is read as as well.
-/

import GatewayOperator.Proofs.Store.Documents
import Mathlib.Data.List.Forall2

namespace GatewayOperator

/-! ### Readings that succeed -/

section Readings

variable {Value Result : Type}

theorem ok_of_map {read : Except DecodeError Value} {change : Value → Result} {result : Result}
    (ok : read.map change = .ok result) : ∃ value, read = .ok value ∧ change value = result := by
  cases read with
  | error cause => exact nomatch ok
  | ok value => exact ⟨value, rfl, Except.ok.inj ok⟩

theorem ok_of_bind {read : Except DecodeError Value} {next : Value → Except DecodeError Result}
    {result : Result} (ok : read >>= next = .ok result) :
    ∃ value, read = .ok value ∧ next value = .ok result := by
  cases read with
  | error cause => exact nomatch ok
  | ok value => exact ⟨value, rfl, ok⟩

end Readings

/-! ### Members of sorted documents -/

namespace Map

variable {Value : Type}

/-- No two entries of a map have one name. -/
theorem nodup_names (map : Map Value) : (map.entries.map Prod.fst).Nodup :=
  List.pairwise_map.mpr (map.sorted.imp fun before => String.ne_of_lt before)

end Map

namespace Json

/-- The entries of a map are found where a reader of members finds them. -/
theorem lastMember_entries (name : String) (map : Map Json) :
    lastMember name map.entries = map.get? name := by
  obtain ⟨entries, sorted⟩ := map
  show lastMember name entries = Map.lookup name entries
  induction entries with
  | nil => rfl
  | cons entry entries inductionHypothesis =>
    obtain ⟨key, value⟩ := entry
    rw [List.pairwise_cons] at sorted
    rw [lastMember_cons, Map.lookup, inductionHypothesis sorted.2]
    split
    · next same =>
      have others : ∀ entry ∈ entries, entry.1 ≠ name := fun entry member equal =>
        String.lt_irrefl _ (equal ▸ same ▸ sorted.1 entry member)
      rw [← inductionHypothesis sorted.2, lastMember_eq_none others]
      rfl
    · exact Option.or_none

/-- The map of a list of members has the last one under each name. -/
theorem get?_ofList (name : String) (members : List (String × Json)) :
    (Map.ofList members).get? name = lastMember name members := by
  induction members with
  | nil => rfl
  | cons member members inductionHypothesis =>
    obtain ⟨key, value⟩ := member
    rw [lastMember_cons, ← inductionHypothesis]
    exact Map.get?_foldl_insert name members _

theorem lastMember_normalizeMembers (name : String) (members : List (String × Json)) :
    lastMember name (normalizeMembers members) = (lastMember name members).map normalize := by
  induction members with
  | nil => rfl
  | cons member members inductionHypothesis =>
    obtain ⟨key, value⟩ := member
    rw [normalizeMembers, lastMember_cons, lastMember_cons, inductionHypothesis]
    cases lastMember name members <;> split <;> rfl

/-- A member of a normal form is the normal form of the member. -/
theorem lastMember_sortMembers (name : String) (members : List (String × Json)) :
    lastMember name (sortMembers (normalizeMembers members)) =
      (lastMember name members).map normalize := by
  rw [sortMembers, lastMember_entries, get?_ofList, lastMember_normalizeMembers]

theorem ne_of_lastMember_eq_none {name : String} {members : List (String × Json)}
    (absent : lastMember name members = none) : ∀ entry ∈ members, entry.1 ≠ name := by
  induction members with
  | nil => exact nofun
  | cons member members inductionHypothesis =>
    rw [lastMember_cons, Option.or_eq_none_iff] at absent
    refine List.forall_mem_cons.mpr ⟨fun same => ?_, inductionHypothesis absent.1⟩
    rw [if_pos same] at absent
    exact nomatch absent.2

/-- Among members of different names, one that is found stands alone under its name. -/
theorem exists_of_lastMember {name : String} {json : Json} {members : List (String × Json)}
    (distinct : (members.map Prod.fst).Nodup) (found : lastMember name members = some json) :
    ∃ before after, members = before ++ (name, json) :: after ∧
      ∀ entry ∈ before ++ after, entry.1 ≠ name := by
  induction members with
  | nil => exact nomatch found
  | cons member members inductionHypothesis =>
    obtain ⟨key, value⟩ := member
    rw [List.map_cons, List.nodup_cons] at distinct
    rw [lastMember_cons] at found
    by_cases same : key = name
    · subst same
      have others : ∀ entry ∈ members, entry.1 ≠ key := fun entry member equal =>
        distinct.1 (equal ▸ List.mem_map.mpr ⟨entry, member, rfl⟩)
      rw [lastMember_eq_none others, if_pos rfl, Option.none_or] at found
      cases found
      exact ⟨[], members, rfl, others⟩
    · rw [if_neg same, Option.or_none] at found
      obtain ⟨before, after, rfl, others⟩ := inductionHypothesis distinct.2 found
      exact ⟨(key, value) :: before, after, rfl, List.forall_mem_cons.mpr ⟨same, others⟩⟩

end Json

/-! ### What a table reads -/

namespace Member

variable {Value : Type} {member : Member Value} {found : List (String × Json)}
  {start slot : Option Value}

/-- The slot of a member after the members of an object were read: it holds what the last member of
the name is read as, or what it held before if there is none. -/
def Fills (member : Member Value) (found : List (String × Json)) (start slot : Option Value) :
    Prop :=
  match Json.lastMember member.name found with
  | none => slot = start
  | some json => ∃ value, member.read json = .ok value ∧ slot = some value

theorem fills_of_none (absent : Json.lastMember member.name found = none) :
    member.Fills found start start := by
  rw [Fills, absent]

theorem fills_of_some {json : Json} {value : Value}
    (present : Json.lastMember member.name found = some json)
    (read : member.read json = .ok value) : member.Fills found start (some value) := by
  rw [Fills, present]
  exact ⟨value, read, rfl⟩

theorem Fills.eq_of_none (fills : member.Fills found start slot)
    (absent : Json.lastMember member.name found = none) : slot = start := by
  rw [Fills, absent] at fills
  exact fills

theorem Fills.exists_of_some {json : Json} (fills : member.Fills found start slot)
    (present : Json.lastMember member.name found = some json) :
    ∃ value, member.read json = .ok value ∧ slot = some value := by
  rw [Fills, present] at fills
  exact fills

/-- Only the last member of the name counts. -/
theorem Fills.congr (fills : member.Fills found start slot) {other : List (String × Json)}
    (same : Json.lastMember member.name other = Json.lastMember member.name found) :
    member.Fills other start slot := by
  rw [Fills, same]
  exact fills

end Member

namespace Members

variable {Value Rest Tuple Slots : Type}

/-- Every slot of a table holds what its member is read as. -/
def Filled {Tuple Slots : Type} (found : List (String × Json)) :
    (members : Members Tuple Slots) → Slots → Slots → Prop
  | nil, _, _ => True
  | cons first rest, (start, starts), (slot, slots) =>
    first.Fills found start slot ∧ rest.Filled found starts slots

theorem filled_nil (members : Members Tuple Slots) (slots : Slots) :
    members.Filled [] slots slots := by
  induction members with
  | nil => trivial
  | cons first rest inductionHypothesis =>
    exact ⟨Member.fills_of_none rfl, inductionHypothesis _⟩

/-- A member of another name changes nothing. -/
theorem filled_cons_other {members : Members Tuple Slots} {name : String} (json : Json)
    {found : List (String × Json)} {start slots : Slots} (unknown : name ∉ members.names)
    (filled : members.Filled found start slots) :
    members.Filled ((name, json) :: found) start slots := by
  induction members with
  | nil => trivial
  | cons first rest inductionHypothesis =>
    rw [names, List.mem_cons, not_or] at unknown
    refine ⟨filled.1.congr ?_, inductionHypothesis unknown.2 filled.2⟩
    rw [Json.lastMember_cons, if_neg unknown.1, Option.or_none]

/-- A member that is read in front of the others counts if none of its name follows. -/
theorem filled_cons {members : Members Tuple Slots} (distinct : members.names.Nodup)
    {strict : Bool} {name : String} {json : Json} {found : List (String × Json)}
    {start between slots : Slots} (read : members.set strict name json start = .ok between)
    (filled : members.Filled found between slots) :
    members.Filled ((name, json) :: found) start slots := by
  induction members with
  | nil => trivial
  | cons first rest inductionHypothesis =>
    obtain ⟨slot, others⟩ := start
    rw [names, List.nodup_cons] at distinct
    unfold set at read
    split at read
    · next same =>
      subst same
      split at read
      · cases read
      · obtain ⟨value, isRead, rfl⟩ := ok_of_map read
        refine ⟨?_, rest.filled_cons_other json distinct.1 filled.2⟩
        cases later : Json.lastMember first.name found with
        | none =>
          rw [filled.1.eq_of_none later]
          refine Member.fills_of_some ?_ isRead
          rw [Json.lastMember_cons, later, if_pos rfl, Option.none_or]
        | some other =>
          obtain ⟨value, isRead, same⟩ := filled.1.exists_of_some later
          rw [same]
          refine Member.fills_of_some ?_ isRead
          rw [Json.lastMember_cons, later, Option.some_or]
    · next different =>
      obtain ⟨others, isRead, rfl⟩ := ok_of_map read
      refine ⟨filled.1.congr ?_, inductionHypothesis distinct.2 isRead filled.2⟩
      rw [Json.lastMember_cons, if_neg (Ne.symm different), Option.or_none]

theorem setAll_append (strict : Bool) (members : Members Tuple Slots)
    (before after : List (String × Json)) (slots : Slots) :
    members.setAll strict slots (before ++ after) =
      members.setAll strict slots before >>= fun slots => members.setAll strict slots after := by
  induction before generalizing slots with
  | nil => rfl
  | cons entry before inductionHypothesis =>
    show (members.set strict entry.1 entry.2 slots >>= fun slots =>
      members.setAll strict slots (before ++ after)) =
        (members.set strict entry.1 entry.2 slots >>= fun slots =>
          members.setAll strict slots before) >>= _
    cases members.set strict entry.1 entry.2 slots with
    | error cause => rfl
    | ok slots => exact inductionHypothesis slots

/-- What is read of an object is what its last members are read as. -/
theorem filled_of_setAll {members : Members Tuple Slots} (distinct : members.names.Nodup)
    {strict : Bool} {found : List (String × Json)} {start slots : Slots}
    (read : members.setAll strict start found = .ok slots) :
    members.Filled found start slots := by
  induction found generalizing start with
  | nil =>
    cases read
    exact members.filled_nil slots
  | cons entry found inductionHypothesis =>
    obtain ⟨between, isRead, readRest⟩ := ok_of_bind read
    exact filled_cons distinct isRead (inductionHypothesis readRest)

/-- Members of different names are read in any order: all of them are read when the one of each
name can be read. -/
theorem setAll_of_filled {members : Members Tuple Slots} (distinct : members.names.Nodup)
    (strict : Bool) {found : List (String × Json)} (single : (found.map Prod.fst).Nodup)
    {slots : Slots} (filled : members.Filled found members.blank slots) :
    members.setAll strict members.blank found = .ok slots := by
  induction members with
  | nil =>
    have skipped := setAll_skip strict .nil () found (by simp [names]) []
    rw [List.append_nil] at skipped
    exact skipped
  | cons first rest inductionHypothesis =>
    obtain ⟨slot, others⟩ := slots
    rw [names, List.nodup_cons] at distinct
    have readRest := inductionHypothesis distinct.2 filled.2
    cases last : Json.lastMember first.name found with
    | none =>
      rw [blank, setAll_cons_other strict first rest none rest.blank found
        (Json.ne_of_lastMember_eq_none last), readRest, filled.1.eq_of_none last]
      rfl
    | some json =>
      obtain ⟨value, isRead, rfl⟩ := filled.1.exists_of_some last
      obtain ⟨before, after, rfl, beside⟩ := Json.exists_of_lastMember single last
      rw [List.forall_mem_append] at beside
      rw [setAll_append] at readRest ⊢
      obtain ⟨between, readBefore, readBehind⟩ := ok_of_bind readRest
      rw [setAll, set_other strict json rest between distinct.1] at readBehind
      rw [blank, setAll_cons_other strict first rest none rest.blank before beside.1, readBefore]
      show (cons first rest).setAll strict (none, between) ((first.name, json) :: after) = _
      rw [setAll, set, if_pos rfl, Option.isSome_none, Bool.and_false, isRead]
      show (cons first rest).setAll strict (some value, between) after = _
      rw [setAll_cons_other strict first rest (some value) between after beside.2]
      exact congrArg (Except.map _) readBehind

end Members

/-! ### Reading normal forms -/

/-- What is read of a document is read of its normal form as well. -/
def Codec.Orderless {Value : Type} (codec : Codec Value) : Prop :=
  ∀ json value, codec.read json = .ok value → codec.read json.normalize = .ok value

/-- What is read as a member is read of its normal form as well. -/
def Member.Orderless {Value : Type} (member : Member Value) : Prop :=
  ∀ json value, member.read json = .ok value → member.read json.normalize = .ok value

/-- Every member may be read of its normal form. -/
def Members.Orderless {Tuple Slots : Type} : Members Tuple Slots → Prop
  | .nil => True
  | .cons first rest => first.Orderless ∧ rest.Orderless

namespace Codec

variable {Value : Type}

/-- A value that is read neither from an array nor from an object. -/
theorem orderless_of_scalar {codec : Codec Value}
    (noArray : ∀ elements value, codec.read (.array elements) ≠ .ok value)
    (noObject : ∀ members value, codec.read (.object members) ≠ .ok value) : codec.Orderless := by
  intro json value read
  cases json with
  | array elements => exact absurd read (noArray elements value)
  | object members => exact absurd read (noObject members value)
  | _ => exact read

theorem text_orderless : text.Orderless := orderless_of_scalar nofun nofun

theorem boolean_orderless : boolean.Orderless := orderless_of_scalar nofun nofun

theorem int32_orderless : int32.Orderless := orderless_of_scalar nofun nofun

theorem int64_orderless : int64.Orderless := orderless_of_scalar nofun nofun

theorem choice_orderless (alternatives : List (String × Value)) (name : Value → String) :
    (choice alternatives name).Orderless := by
  intro json value read
  match json, read with
  | .string _, read => exact read
  | .object [(chosen, content)], read =>
    obtain ⟨found, isFound, behind⟩ := ok_of_bind read
    obtain ⟨_, isUnit, -⟩ := ok_of_bind behind
    have null : content = .null := by
      cases content <;> first | rfl | exact nomatch isUnit
    subst null
    exact read

theorem readElements_normalizeElements {codec : Codec Value} (orderless : codec.Orderless)
    {elements : List Json} {values : List Value}
    (read : codec.readElements elements = .ok values) :
    codec.readElements (Json.normalizeElements elements) = .ok values := by
  induction elements generalizing values with
  | nil => exact read
  | cons element elements inductionHypothesis =>
    obtain ⟨first, isRead, behind⟩ := ok_of_bind read
    obtain ⟨others, readRest, same⟩ := ok_of_bind behind
    obtain rfl := Except.ok.inj same
    show (codec.read element.normalize >>= _) = _
    rw [orderless element first isRead]
    show (codec.readElements (Json.normalizeElements elements) >>= _) = _
    rw [inductionHypothesis readRest]
    rfl

theorem list_orderless {codec : Codec Value} (orderless : codec.Orderless) :
    (list codec).Orderless := by
  intro json values read
  cases json with
  | array elements => exact readElements_normalizeElements orderless read
  | _ => exact nomatch read

/-- A member and the entry it is read as. -/
def ReadAs (codec : Codec Value) (member : String × Json) (entry : String × Value) : Prop :=
  member.1 = entry.1 ∧ codec.read member.2 = .ok entry.2

theorem readMembers_eq_ok_iff {codec : Codec Value} {members : List (String × Json)}
    {entries : List (String × Value)} :
    codec.readMembers members = .ok entries ↔ List.Forall₂ codec.ReadAs members entries := by
  induction members generalizing entries with
  | nil =>
    rw [List.forall₂_nil_left_iff]
    exact ⟨fun read => (Except.ok.inj read).symm, fun none => none ▸ rfl⟩
  | cons member members inductionHypothesis =>
    obtain ⟨name, json⟩ := member
    constructor
    · intro read
      obtain ⟨first, isRead, behind⟩ := ok_of_bind read
      obtain ⟨others, readRest, same⟩ := ok_of_bind behind
      obtain rfl := Except.ok.inj same
      exact .cons ⟨rfl, isRead⟩ (inductionHypothesis.mp readRest)
    · rintro (_ | ⟨⟨rfl, isRead⟩, readRest⟩)
      show (codec.read json >>= _) = _
      rw [isRead]
      show (codec.readMembers members >>= _) = _
      rw [inductionHypothesis.mpr readRest]
      rfl

theorem forall₂_insertEntry {codec : Codec Value} {name : String} {json : Json} {value : Value}
    (isRead : codec.read json = .ok value) {members : List (String × Json)}
    {entries : List (String × Value)} (read : List.Forall₂ codec.ReadAs members entries) :
    List.Forall₂ codec.ReadAs (Map.insertEntry name json members)
      (Map.insertEntry name value entries) := by
  induction read with
  | nil => exact .cons ⟨rfl, isRead⟩ .nil
  | @cons member entry members entries here read inductionHypothesis =>
    obtain ⟨key, old⟩ := member
    obtain ⟨_, oldValue⟩ := entry
    obtain ⟨rfl, oldRead⟩ := here
    unfold Map.insertEntry
    split
    · exact .cons ⟨rfl, isRead⟩ (.cons ⟨rfl, oldRead⟩ read)
    · split
      · exact .cons ⟨rfl, isRead⟩ read
      · exact .cons ⟨rfl, oldRead⟩ inductionHypothesis

theorem forall₂_foldl_insert {codec : Codec Value} {members : List (String × Json)}
    {entries : List (String × Value)} (read : List.Forall₂ codec.ReadAs members entries)
    {documents : Map Json} {values : Map Value}
    (before : List.Forall₂ codec.ReadAs documents.entries values.entries) :
    List.Forall₂ codec.ReadAs
      (members.foldl (fun map entry => map.insert entry.1 entry.2) documents).entries
      (entries.foldl (fun map entry => map.insert entry.1 entry.2) values).entries := by
  induction read generalizing documents values with
  | nil => exact before
  | @cons member entry members entries here read inductionHypothesis =>
    obtain ⟨name, json⟩ := member
    obtain ⟨_, value⟩ := entry
    obtain ⟨rfl, isRead⟩ := here
    exact inductionHypothesis (forall₂_insertEntry isRead before)

theorem forall₂_normalizeMembers {codec : Codec Value} (orderless : codec.Orderless)
    {members : List (String × Json)} {entries : List (String × Value)}
    (read : List.Forall₂ codec.ReadAs members entries) :
    List.Forall₂ codec.ReadAs (Json.normalizeMembers members) entries := by
  induction read with
  | nil => exact .nil
  | @cons member entry members entries here read inductionHypothesis =>
    exact .cons ⟨here.1, orderless _ _ here.2⟩ inductionHypothesis

theorem map_orderless {codec : Codec Value} (orderless : codec.Orderless) :
    (map codec).Orderless := by
  intro json value read
  cases json with
  | object members =>
    obtain ⟨entries, isRead, rfl⟩ := ok_of_map read
    have normalized := forall₂_normalizeMembers orderless (readMembers_eq_ok_iff.mp isRead)
    have sorted : codec.readMembers (Json.sortMembers (Json.normalizeMembers members)) =
        .ok (Map.ofList entries).entries :=
      readMembers_eq_ok_iff.mpr (forall₂_foldl_insert normalized .nil)
    show (codec.readMembers _).map Map.ofList = _
    rw [sorted]
    exact congrArg Except.ok (Map.ofList_entries _)
  | _ => exact nomatch read

end Codec

namespace Member

variable {Value : Type} {name : String} {codec : Codec Value}

theorem optional_orderless (orderless : codec.Orderless) : (optional name codec).Orderless := by
  intro json value read
  cases json with
  | null => exact read
  | _ =>
    obtain ⟨value, isRead, rfl⟩ := ok_of_map read
    exact congrArg (Except.map some) (orderless _ _ isRead)

theorem nullable_orderless (orderless : codec.Orderless) : (nullable name codec).Orderless :=
  fun json value => @optional_orderless _ name _ orderless json value

theorem filled_orderless {default : Value} (orderless : codec.Orderless) :
    (filled name codec default).Orderless := by
  intro json value read
  cases json with
  | null => exact read
  | _ => exact orderless _ _ read

theorem defaulted_orderless {default : Value} (orderless : codec.Orderless) :
    (defaulted name codec default).Orderless := orderless

theorem required_orderless (orderless : codec.Orderless) : (required name codec).Orderless :=
  orderless

end Member

namespace Members

variable {Tuple Slots : Type}

theorem Filled.normalize {members : Members Tuple Slots} (orderless : members.Orderless)
    {found : List (String × Json)} {start slots : Slots}
    (filled : members.Filled found start slots) :
    members.Filled (Json.sortMembers (Json.normalizeMembers found)) start slots := by
  induction members with
  | nil => trivial
  | cons first rest inductionHypothesis =>
    refine ⟨?_, inductionHypothesis orderless.2 filled.2⟩
    have sorted := Json.lastMember_sortMembers first.name found
    cases last : Json.lastMember first.name found with
    | none =>
      rw [last] at sorted
      rw [filled.1.eq_of_none last]
      exact Member.fills_of_none sorted
    | some json =>
      rw [last] at sorted
      obtain ⟨value, isRead, same⟩ := filled.1.exists_of_some last
      rw [same]
      exact Member.fills_of_some sorted (orderless.1 _ _ isRead)

theorem readObject_normalize {members : Members Tuple Slots} (distinct : members.names.Nodup)
    (orderless : members.Orderless) {strict : Bool} {found : List (String × Json)} {values : Tuple}
    (read : members.readObject strict found = .ok values) :
    members.readObject strict (Json.sortMembers (Json.normalizeMembers found)) = .ok values := by
  obtain ⟨slots, isRead, finished⟩ := ok_of_bind read
  have filled := (filled_of_setAll distinct isRead).normalize orderless
  have reread : members.setAll strict members.blank
      (Json.sortMembers (Json.normalizeMembers found)) = .ok slots :=
    setAll_of_filled distinct strict (Map.nodup_names _) filled
  unfold readObject
  rw [reread]
  exact finished

theorem readSequence_normalize {members : Members Tuple Slots} (orderless : members.Orderless)
    {length : Nat} {expected : String} {elements : List Json} {values : Tuple}
    (read : members.readSequence length expected elements = .ok values) :
    members.readSequence length expected (Json.normalizeElements elements) = .ok values := by
  induction members generalizing elements with
  | nil =>
    cases elements with
    | nil => exact read
    | cons => exact nomatch read
  | cons first rest inductionHypothesis =>
    cases elements with
    | nil => exact read
    | cons element elements =>
      obtain ⟨value, isRead, behind⟩ := ok_of_bind read
      obtain ⟨others, readRest, same⟩ := ok_of_bind behind
      obtain rfl := Except.ok.inj same
      show (first.read element.normalize >>= _) = _
      rw [orderless.1 _ _ isRead]
      show (rest.readSequence length expected (Json.normalizeElements elements) >>= _) = _
      rw [inductionHypothesis orderless.2 readRest]
      rfl

end Members

namespace Codec

variable {Record Tuple Slots : Type} {name : String} {members : Members Tuple Slots}
  {toTuple : Record → Tuple} {ofTuple : Tuple → Record}

theorem length_normalizeElements (elements : List Json) :
    (Json.normalizeElements elements).length = elements.length := by
  induction elements with
  | nil => rfl
  | cons element elements inductionHypothesis => exact congrArg (· + 1) inductionHypothesis

theorem object_orderless (orderless : members.Orderless) (distinct : members.names.Nodup) :
    (object name members toTuple ofTuple).Orderless := by
  intro json record read
  cases json with
  | object found =>
    obtain ⟨values, isRead, rfl⟩ := ok_of_map read
    exact congrArg (Except.map ofTuple) (Members.readObject_normalize distinct orderless isRead)
  | _ => exact nomatch read

theorem record_orderless {heading : List (String × Json)} (orderless : members.Orderless)
    (distinct : members.names.Nodup) :
    (record name heading members toTuple ofTuple).Orderless := by
  intro json record read
  cases json with
  | object found =>
    obtain ⟨values, isRead, rfl⟩ := ok_of_map read
    exact congrArg (Except.map ofTuple) (Members.readObject_normalize distinct orderless isRead)
  | array elements =>
    obtain ⟨values, isRead, rfl⟩ := ok_of_map read
    have reread := Members.readSequence_normalize orderless isRead
    rw [← length_normalizeElements] at reread
    exact congrArg (Except.map ofTuple) reread
  | _ => exact nomatch read

end Codec

end GatewayOperator
