/-
This file builds the JSON form of a record from the table of its members. A record is read
member by member in the order of the document, so of two faults the first is reported; members
that are missing are looked for only when all present ones have been read. Unknown members are
ignored. A record of the first kind is read from objects alone; a record of the second kind
refuses a repeated member and may also be read from an array that holds its members in order.
Main statement: a record whose members are lawful reads back exactly what it writes.
-/

import GatewayOperator.Json.Codec

namespace GatewayOperator

/-! ### Members -/

/-- A member of a record: its name, its value as JSON (nothing when it is left out), and the
value it has when it is absent from an object or missing at the end of an array. -/
structure Member (Value : Type) where
  name : String
  write : Value → Option Json
  read : Json → Except DecodeError Value
  absent : Option Value
  missing : Option Value

namespace Member

variable {Value : Type}

/-- Reads a value that may be `null`. -/
def readOption (codec : Codec Value) : Json → Except DecodeError (Option Value)
  | .null => .ok none
  | found => (codec.read found).map some

/-- A member that may be left out. -/
def optional (name : String) (codec : Codec Value) : Member (Option Value) where
  name := name
  write value := value.map codec.write
  read := readOption codec
  absent := some none
  missing := some none

/-- A member that may be left out of an object, but not of an array. -/
def nullable (name : String) (codec : Codec Value) : Member (Option Value) :=
  { optional name codec with missing := none }

/-- A member that is always written; `null` and absence are read as the given value. -/
def filled (name : String) (codec : Codec Value) (default : Value) : Member Value where
  name := name
  write value := some (codec.write value)
  read
    | .null => .ok default
    | found => codec.read found
  absent := some default
  missing := some default

/-- A member that is always written; absence is read as the given value. -/
def defaulted (name : String) (codec : Codec Value) (default : Value) : Member Value where
  name := name
  write value := some (codec.write value)
  read := codec.read
  absent := some default
  missing := some default

/-- A member that has to be there. -/
def required (name : String) (codec : Codec Value) : Member Value where
  name := name
  write value := some (codec.write value)
  read := codec.read
  absent := none
  missing := none

/-- A member that always has the same text: it is always written, and when it is present it has
to be that text. -/
def constant (name content : String) : Member Unit where
  name := name
  write _ := some (.string content)
  read found := do
    let given ← Codec.text.read found
    if given = content then
      return ()
    else
      throw (.invalidValue found.describe content)
  absent := some ()
  missing := some ()

/-- What is written is read back, and what is left out is the value of absence. -/
def Lawful (member : Member Value) : Prop :=
  ∀ value, match member.write value with
    | some json => member.read json = .ok value
    | none => member.absent = some value

theorem optional_lawful {name : String} {codec : Codec Value} (lawful : codec.Lawful) :
    (optional name codec).Lawful := by
  intro value
  cases value with
  | none => rfl
  | some value =>
    show readOption codec (codec.write value) = .ok (some value)
    have written := lawful.write_ne_null value
    have back := lawful.read_write value
    unfold readOption
    split
    · next null => exact absurd null written
    · rw [back]; rfl

theorem nullable_lawful {name : String} {codec : Codec Value} (lawful : codec.Lawful) :
    (nullable name codec).Lawful := fun value => @optional_lawful _ name _ lawful value

theorem filled_lawful {name : String} {codec : Codec Value} {default : Value}
    (lawful : codec.Lawful) : (filled name codec default).Lawful := by
  intro value
  show (match codec.write value with
    | .null => Except.ok default
    | found => codec.read found) = .ok value
  have written := lawful.write_ne_null value
  split
  · next null => exact absurd null written
  · exact lawful.read_write value

theorem defaulted_lawful {name : String} {codec : Codec Value} {default : Value}
    (lawful : codec.Lawful) : (defaulted name codec default).Lawful :=
  fun value => lawful.read_write value

theorem required_lawful {name : String} {codec : Codec Value} (lawful : codec.Lawful) :
    (required name codec).Lawful :=
  fun value => lawful.read_write value

theorem constant_lawful (name content : String) : (constant name content).Lawful := by
  intro value
  simp [constant, Codec.text, bind, Except.bind, pure, Except.pure]

end Member

/-! ### Tables of members -/

/-- The members of a record in the order of their declaration. The indices are the type of the
tuple of their values and the type of the values read so far, each of which may still be absent. -/
inductive Members : Type → Type → Type 1 where
  | nil : Members Unit Unit
  | cons {Value Rest Slots : Type} (first : Member Value) (rest : Members Rest Slots) :
      Members (Value × Rest) (Option Value × Slots)

namespace Members

/-- The names of the members. -/
def names {Tuple Slots : Type} : Members Tuple Slots → List String
  | nil => []
  | cons first rest => first.name :: rest.names

/-- The members of an object that are written for a tuple. -/
def write {Tuple Slots : Type} : Members Tuple Slots → Tuple → List (String × Json)
  | nil, _ => []
  | cons first rest, (value, values) =>
    match first.write value with
    | some json => (first.name, json) :: rest.write values
    | none => rest.write values

/-- Nothing was read yet. -/
def blank {Tuple Slots : Type} : (members : Members Tuple Slots) → Slots
  | nil => ()
  | cons _ rest => (none, rest.blank)

/-- Reads one member of an object. A strict record refuses a member that was read before. -/
def set {Tuple Slots : Type} (strict : Bool) (name : String) (json : Json) :
    (members : Members Tuple Slots) → Slots → Except DecodeError Slots
  | nil, slots => .ok slots
  | cons first rest, (slot, slots) =>
    if first.name = name then
      if strict && slot.isSome then .error (.duplicateField name)
      else (first.read json).map fun value => (some value, slots)
    else (rest.set strict name json slots).map fun slots => (slot, slots)

/-- Reads the members of an object in order. -/
def setAll {Tuple Slots : Type} (strict : Bool) (members : Members Tuple Slots) (slots : Slots) :
    List (String × Json) → Except DecodeError Slots
  | [] => .ok slots
  | (name, json) :: others => do
    let slots ← members.set strict name json slots
    members.setAll strict slots others

/-- The tuple of the values read, with the values of absence for the others. The first member
that has to be there and is absent is an error. -/
def finish {Tuple Slots : Type} :
    (members : Members Tuple Slots) → Slots → Except DecodeError Tuple
  | nil, _ => .ok ()
  | cons first rest, (slot, slots) =>
    match slot.or first.absent with
    | none => .error (.missingField first.name)
    | some value => (rest.finish slots).map fun values => (value, values)

/-- Reads a tuple from the members of an object. -/
def readObject {Tuple Slots : Type} (strict : Bool) (members : Members Tuple Slots)
    (found : List (String × Json)) : Except DecodeError Tuple := do
  let slots ← members.setAll strict members.blank found
  members.finish slots

/-- The number of members. -/
def count {Tuple Slots : Type} : Members Tuple Slots → Nat
  | nil => 0
  | cons _ rest => rest.count + 1

/-- Reads a tuple from the elements of an array of the given length; `expected` describes the
record for the error of an array that is too short. -/
def readSequence {Tuple Slots : Type} (length : Nat) (expected : String) :
    Members Tuple Slots → List Json → Except DecodeError Tuple
  | nil, [] => .ok ()
  | nil, _ :: _ => .error (.invalidLength length "fewer elements in array")
  | cons first rest, [] =>
    match first.missing with
    | none => .error (.invalidLength length expected)
    | some value => (rest.readSequence length expected []).map fun values => (value, values)
  | cons first rest, element :: elements => do
    let value ← first.read element
    let values ← rest.readSequence length expected elements
    return (value, values)

/-- Every member is lawful. -/
def Lawful {Tuple Slots : Type} : Members Tuple Slots → Prop
  | nil => True
  | cons first rest => first.Lawful ∧ rest.Lawful

/-! ### Reading back what was written -/

/-- The slots after all members of a tuple were read. -/
def slotsOf {Tuple Slots : Type} : (members : Members Tuple Slots) → Tuple → Slots
  | nil, _ => ()
  | cons first rest, (value, values) =>
    ((first.write value).map fun _ => value, rest.slotsOf values)

theorem set_other {Tuple Slots : Type} (strict : Bool) {name : String} (json : Json)
    (members : Members Tuple Slots) (slots : Slots) (unknown : name ∉ members.names) :
    members.set strict name json slots = .ok slots := by
  induction members with
  | nil => rfl
  | cons first rest inductionHypothesis =>
    obtain ⟨slot, slots⟩ := slots
    simp only [names, List.mem_cons, not_or] at unknown
    simp only [set, if_neg (Ne.symm unknown.1), inductionHypothesis slots unknown.2]
    rfl

theorem setAll_skip {Tuple Slots : Type} (strict : Bool) (members : Members Tuple Slots)
    (slots : Slots) (others : List (String × Json))
    (unknown : ∀ entry ∈ others, entry.1 ∉ members.names) (rest : List (String × Json)) :
    members.setAll strict slots (others ++ rest) = members.setAll strict slots rest := by
  induction others with
  | nil => rfl
  | cons entry others inductionHypothesis =>
    obtain ⟨name, json⟩ := entry
    have here := unknown (name, json) List.mem_cons_self
    show (members.set strict name json slots >>= fun slots =>
      members.setAll strict slots (others ++ rest)) = _
    rw [set_other strict json members slots here]
    exact inductionHypothesis fun entry member => unknown entry (List.mem_cons_of_mem _ member)

theorem name_mem_of_mem_write {Tuple Slots : Type} (members : Members Tuple Slots) (values : Tuple)
    {entry : String × Json} (member : entry ∈ members.write values) :
    entry.1 ∈ members.names := by
  induction members with
  | nil => simp [write] at member
  | cons first rest inductionHypothesis =>
    obtain ⟨value, values⟩ := values
    simp only [write] at member
    simp only [names, List.mem_cons]
    split at member
    · rcases List.mem_cons.mp member with rfl | inRest
      · exact Or.inl rfl
      · exact Or.inr (inductionHypothesis values inRest)
    · exact Or.inr (inductionHypothesis values member)

/-- Members that are not the first one are read by the rest of the table. -/
theorem setAll_cons_other {Value Rest Slots : Type} (strict : Bool) (first : Member Value)
    (rest : Members Rest Slots) (slot : Option Value) (slots : Slots)
    (found : List (String × Json)) (different : ∀ entry ∈ found, entry.1 ≠ first.name) :
    (cons first rest).setAll strict (slot, slots) found =
      (rest.setAll strict slots found).map fun slots => (slot, slots) := by
  induction found generalizing slots with
  | nil => rfl
  | cons entry found inductionHypothesis =>
    obtain ⟨name, json⟩ := entry
    have here : first.name ≠ name := Ne.symm (different (name, json) List.mem_cons_self)
    show ((cons first rest).set strict name json (slot, slots) >>= fun slots =>
      (cons first rest).setAll strict slots found) = _
    simp only [set, if_neg here, setAll]
    cases rest.set strict name json slots with
    | error cause => rfl
    | ok next =>
      exact inductionHypothesis next fun entry member =>
        different entry (List.mem_cons_of_mem _ member)

theorem setAll_write {Tuple Slots : Type} (strict : Bool) (members : Members Tuple Slots)
    (values : Tuple)
    (lawful : members.Lawful) (distinct : members.names.Nodup) :
    members.setAll strict members.blank (members.write values) = .ok (members.slotsOf values) := by
  induction members with
  | nil => rfl
  | cons first rest inductionHypothesis =>
    obtain ⟨value, values⟩ := values
    simp only [names, List.nodup_cons] at distinct
    have others : ∀ entry ∈ rest.write values, entry.1 ≠ first.name := by
      intro entry member equal
      exact distinct.1 (equal ▸ rest.name_mem_of_mem_write values member)
    have tail := inductionHypothesis values lawful.2 distinct.2
    have head := lawful.1 value
    simp only [write, slotsOf, blank]
    cases written : first.write value with
    | none => simp only [setAll_cons_other strict first rest none rest.blank _ others, tail]; rfl
    | some json =>
      rw [written] at head
      simp only at head
      show ((cons first rest).set strict first.name json (none, rest.blank) >>= fun slots =>
        (cons first rest).setAll strict slots (rest.write values)) = _
      simp only [set, if_true, head, Option.isSome_none, Bool.and_false, Bool.false_eq_true,
        if_false]
      show (cons first rest).setAll strict (some value, rest.blank) (rest.write values) = _
      rw [setAll_cons_other strict first rest (some value) rest.blank _ others, tail]
      rfl

theorem finish_slotsOf {Tuple Slots : Type} (members : Members Tuple Slots) (values : Tuple)
    (lawful : members.Lawful) : members.finish (members.slotsOf values) = .ok values := by
  induction members with
  | nil => rfl
  | cons first rest inductionHypothesis =>
    obtain ⟨value, values⟩ := values
    have head := lawful.1 value
    have tail := inductionHypothesis values lawful.2
    simp only [finish, slotsOf]
    cases written : first.write value with
    | none =>
      rw [written] at head
      simp only at head
      simp only [Option.map_none, Option.none_or, head, tail]
      rfl
    | some json =>
      simp only [Option.map_some, Option.some_or, tail]
      rfl

/-- A tuple is read back from what is written for it, whatever members of other names stand
before it. -/
theorem readObject_write {Tuple Slots : Type} (strict : Bool) (members : Members Tuple Slots)
    (values : Tuple) (heading : List (String × Json))
    (unknown : ∀ entry ∈ heading, entry.1 ∉ members.names) (lawful : members.Lawful)
    (distinct : members.names.Nodup) :
    members.readObject strict (heading ++ members.write values) = .ok values := by
  unfold readObject
  rw [setAll_skip strict members members.blank heading unknown,
    setAll_write strict members values lawful distinct]
  exact finish_slotsOf members values lawful

end Members

/-! ### Records -/

namespace Codec

variable {Record Tuple Slots : Type}

/-- A record that is read from objects alone. The name is what an error expects. -/
def object (name : String) (members : Members Tuple Slots) (toTuple : Record → Tuple)
    (ofTuple : Tuple → Record) : Codec Record where
  write record := .object (members.write (toTuple record))
  read
    | .object found => (members.readObject false found).map ofTuple
    | found => .error (found.mismatch name)

/-- The length of a record as an error expects it. -/
def recordLength (name : String) (count : Nat) : String :=
  "struct " ++ name ++ " with " ++ toString count ++ (if count = 1 then " element" else " elements")

/-- A record that is read from an object, without repeated members, or from an array. The
heading stands before its members when it is written and is ignored when it is read. -/
def record (name : String) (heading : List (String × Json)) (members : Members Tuple Slots)
    (toTuple : Record → Tuple) (ofTuple : Tuple → Record) : Codec Record where
  write record := .object (heading ++ members.write (toTuple record))
  read
    | .object found => (members.readObject true found).map ofTuple
    | .array elements =>
      (members.readSequence elements.length (recordLength name members.count) elements).map ofTuple
    | found => .error (found.mismatch ("struct " ++ name))

/-- A record with lawful members reads back what it writes. -/
theorem object_lawful {name : String} {members : Members Tuple Slots} {toTuple : Record → Tuple}
    {ofTuple : Tuple → Record} (lawful : members.Lawful) (distinct : members.names.Nodup)
    (inverse : ∀ record, ofTuple (toTuple record) = record) :
    (object name members toTuple ofTuple).Lawful where
  read_write record := by
    show (members.readObject false (members.write (toTuple record))).map ofTuple = .ok record
    have back := members.readObject_write false (toTuple record) [] (by simp) lawful distinct
    rw [List.nil_append] at back
    rw [back]
    exact congrArg Except.ok (inverse record)
  write_ne_null _ := nofun

/-- A record with lawful members reads back what it writes, if its heading names none of them. -/
theorem record_lawful {name : String} {heading : List (String × Json)}
    {members : Members Tuple Slots}
    {toTuple : Record → Tuple} {ofTuple : Tuple → Record}
    (unknown : ∀ entry ∈ heading, entry.1 ∉ members.names) (lawful : members.Lawful)
    (distinct : members.names.Nodup) (inverse : ∀ record, ofTuple (toTuple record) = record) :
    (record name heading members toTuple ofTuple).Lawful where
  read_write record := by
    show (members.readObject true (heading ++ members.write (toTuple record))).map ofTuple =
      .ok record
    rw [members.readObject_write true (toTuple record) heading unknown lawful distinct]
    exact congrArg Except.ok (inverse record)
  write_ne_null _ := nofun

end Codec

end GatewayOperator
