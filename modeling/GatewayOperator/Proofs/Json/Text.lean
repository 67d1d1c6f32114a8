/-
This file reads printed documents back. A value fits a depth if it has no faulty part and no
floating-point number, its integers have at most 64 bits, and its containers are nested at most so
deep. The reader puts such a value together from the tokens of its text, wherever the value stands
in a document that is still open. Main statement: the text of a value that is not too deep is read
as the value. What a table of members writes fits a depth when the members do.
-/

import GatewayOperator.Json.Normal
import GatewayOperator.Json.Record
import GatewayOperator.Proofs.Json.Tokens

namespace GatewayOperator.Json

/-- A value that is written without loss and whose containers are nested at most so deep. -/
inductive Fits : Nat → Json → Prop where
  | null (depth : Nat) : Fits depth .null
  | boolean (depth : Nat) (value : Bool) : Fits depth (.boolean value)
  | integer (depth : Nat) {value : Int} (word : IsWord value) : Fits depth (.integer value)
  | string (depth : Nat) (value : String) : Fits depth (.string value)
  | array {depth : Nat} {elements : List Json} (inside : ∀ element ∈ elements, Fits depth element) :
    Fits (depth + 1) (.array elements)
  | object {depth : Nat} {members : List (String × Json)}
    (inside : ∀ member ∈ members, Fits depth member.2) : Fits (depth + 1) (.object members)

/-- A sorted document is nested as deep as it was. -/
theorem Fits.normalize {depth : Nat} {value : Json} (fits : Fits depth value) :
    Fits depth value.normalize := by
  induction fits with
  | null => exact .null _
  | boolean _ value => exact .boolean _ value
  | integer _ word => exact .integer _ word
  | string _ value => exact .string _ value
  | array _ inductionHypothesis =>
    refine .array fun element member => ?_
    obtain ⟨original, isElement, rfl⟩ := mem_normalizeElements member
    exact inductionHypothesis original isElement
  | object _ inductionHypothesis =>
    refine .object fun entry member => ?_
    obtain ⟨original, isMember, same⟩ := mem_normalizeMembers (mem_of_mem_sortMembers member)
    exact same ▸ inductionHypothesis original isMember

/-! ### What the reader does with a text -/

/-- A text takes the reader from one state to the next, under a limit of open containers: the text
is spelled by sound tokens, and they are taken in order. -/
def Takes (limit : Nat) (text : List Char) (start : Reader) (next : Option Reader) : Prop :=
  ∃ tokens, SpelledBy tokens text ∧ tokens.any Token.isFaulty = false ∧
    tokens.foldlM (Reader.step limit) start = next

namespace Takes

variable {limit : Nat} {text further : List Char} {start between : Reader} {next : Option Reader}

theorem single {token : Token} (spelled : SpelledBy [token] text)
    (sound : token.isFaulty = false) (step : Reader.step limit start token = next) :
    Takes limit text start next :=
  ⟨[token], spelled, by simp [sound], by simp [step]⟩

/-- A text behind one that cannot be continued by it. -/
theorem append (front : Takes limit text start (some between))
    (back : Takes limit further between next)
    (ends : ∀ rest, endsNumber rest = true → endsNumber (further ++ rest) = true) :
    Takes limit (text ++ further) start next := by
  obtain ⟨tokens, spelled, sound, taken⟩ := front
  obtain ⟨others, spelledBack, soundBack, takenBack⟩ := back
  refine ⟨tokens ++ others, spelled.append spelledBack ends, ?_, ?_⟩
  · rw [List.any_append, sound, soundBack, Bool.or_false]
  · rw [List.foldlM_append, taken]
    exact takenBack

/-- A text behind a mark that ends with its only character. -/
theorem mark {token : Token} {first : Char} (noBlank : isSeparator first = false)
    (read : ∀ rest, readToken (first :: rest) = some (token, rest))
    (sound : token.isFaulty = false) (step : Reader.step limit start token = some between)
    (back : Takes limit further between next) : Takes limit (first :: further) start next := by
  obtain ⟨others, spelled, soundBack, taken⟩ := back
  refine ⟨token :: others, spelled.mark noBlank read, ?_, ?_⟩
  · rw [List.any_cons, sound, soundBack, Bool.or_false]
  · rw [List.foldlM_cons, step]
    exact taken

end Takes

/-- Where a value may stand. -/
def Expected.allowsValue : Expected → Bool
  | .value | .valueOrClose => true
  | _ => false

/-- A token that closes no array is taken as a value where one may stand. -/
theorem Reader.step_of_allowsValue {limit : Nat} {frames : List Frame} {expected : Expected}
    (allowed : expected.allowsValue = true) (token : Token) (opens : token ≠ .closeArray) :
    Reader.step limit ⟨frames, expected, null⟩ token =
      Reader.value limit ⟨frames, expected, null⟩ token := by
  cases expected with
  | value => rfl
  | valueOrClose => cases token <;> first | rfl | exact absurd rfl opens
  | _ => exact absurd allowed Bool.false_ne_true

/-- The reader makes a value of its text: it puts the value where it belongs, wherever a value may
stand and so many containers may still be opened. -/
def Reads (depth : Nat) (value : Json) : Prop :=
  ∀ limit frames expected, frames.length + depth ≤ limit → expected.allowsValue = true →
    Takes limit value.write ⟨frames, expected, null⟩ (Reader.place frames value)

section Containers

variable {limit depth : Nat} {frames : List Frame}

theorem endsNumber_writeElements (elements : List Json) (rest : List Char) :
    endsNumber (writeElements elements ++ rest) = true := by
  cases elements <;> rfl

theorem endsNumber_writeMembers (members : List (String × Json)) (rest : List Char) :
    endsNumber (writeMembers members ++ rest) = true := by
  cases members <;> rfl

/-- The further elements of an array and its end. -/
theorem takes_writeElements {elements : List Json}
    (inside : ∀ element ∈ elements, Reads depth element)
    (room : frames.length + (depth + 1) ≤ limit) (done : List Json) :
    Takes limit (writeElements elements) ⟨.array done :: frames, .commaOrClose, null⟩
      (Reader.place frames (.array (done.reverse ++ elements))) := by
  induction elements generalizing done with
  | nil =>
    rw [List.append_nil]
    exact .single (.single rfl fun _ _ => rfl) rfl rfl
  | cons element elements inductionHypothesis =>
    rw [List.forall_mem_cons] at inside
    have back := inductionHypothesis inside.2 (element :: done)
    rw [List.reverse_cons, List.append_assoc, List.singleton_append] at back
    have here := inside.1 limit (.array done :: frames) .value
      (by rw [List.length_cons]; omega) rfl
    exact .mark rfl (fun _ => rfl) rfl rfl
      (here.append back fun rest _ => endsNumber_writeElements elements rest)

/-- A member behind a place where its name may stand, and what follows it. -/
theorem takes_member {name : String} {value : Json} {done : List (String × Json)}
    {expected : Expected} {further : List Char} {next : Option Reader}
    (allowed : expected = .name ∨ expected = .nameOrClose) (read : Reads depth value)
    (room : frames.length + (depth + 1) ≤ limit)
    (back : Takes limit further
      ⟨.object (some ((name, value) :: done)) :: frames, .commaOrClose, null⟩ next)
    (ends : ∀ rest, endsNumber rest = true → endsNumber (further ++ rest) = true) :
    Takes limit (writeString name ++ (':' :: value.write ++ further))
      ⟨.object (some done) :: frames, expected, null⟩ next := by
  have named : Takes limit (writeString name) ⟨.object (some done) :: frames, expected, null⟩
      (some ⟨.member (some done) name :: frames, .colon, null⟩) :=
    .single (spelledBy_string name) rfl (by rcases allowed with rfl | rfl <;> rfl)
  have here := read limit (.member (some done) name :: frames) .value
    (by rw [List.length_cons]; omega) rfl
  refine named.append (.mark rfl (fun _ => rfl) rfl rfl (here.append back ends)) ?_
  exact fun _ _ => rfl

/-- The further members of an object and its end. -/
theorem takes_writeMembers {members : List (String × Json)}
    (inside : ∀ member ∈ members, Reads depth member.2)
    (room : frames.length + (depth + 1) ≤ limit) (done : List (String × Json)) :
    Takes limit (writeMembers members) ⟨.object (some done) :: frames, .commaOrClose, null⟩
      (Reader.place frames (.object (done.reverse ++ members))) := by
  induction members generalizing done with
  | nil =>
    rw [List.append_nil]
    exact .single (.single rfl fun _ _ => rfl) rfl rfl
  | cons member members inductionHypothesis =>
    obtain ⟨name, value⟩ := member
    rw [List.forall_mem_cons] at inside
    have back := inductionHypothesis inside.2 ((name, value) :: done)
    rw [List.reverse_cons, List.append_assoc, List.singleton_append] at back
    show Takes limit (',' :: writeString name ++ ':' :: value.write ++ writeMembers members) _ _
    rw [List.append_assoc, List.cons_append]
    exact .mark rfl (fun _ => rfl) rfl rfl (takes_member (.inl rfl) inside.1 room back
      fun rest _ => endsNumber_writeMembers members rest)

/-- A container may be opened as long as there is room. -/
theorem Reader.openFrame_of_room {expected next : Expected} {frame : Frame}
    (room : frames.length + (depth + 1) ≤ limit) :
    Reader.openFrame limit ⟨frames, expected, null⟩ frame next =
      some ⟨frame :: frames, next, null⟩ := by
  have below : ¬limit ≤ frames.length := by omega
  exact if_neg below

theorem reads_array {elements : List Json} (inside : ∀ element ∈ elements, Reads depth element) :
    Reads (depth + 1) (.array elements) := by
  intro limit frames expected room allowed
  have opened : Reader.step limit ⟨frames, expected, null⟩ .openArray =
      some ⟨.array [] :: frames, .valueOrClose, null⟩ :=
    (Reader.step_of_allowsValue allowed .openArray nofun).trans (Reader.openFrame_of_room room)
  cases elements with
  | nil =>
    exact .mark rfl (fun _ => rfl) rfl opened (.single (.single rfl fun _ _ => rfl) rfl rfl)
  | cons element elements =>
    rw [List.forall_mem_cons] at inside
    have here := inside.1 limit (.array [] :: frames) .valueOrClose
      (by rw [List.length_cons]; omega) rfl
    exact .mark rfl (fun _ => rfl) rfl opened
      (here.append (takes_writeElements inside.2 room [element])
        fun rest _ => endsNumber_writeElements elements rest)

theorem reads_object {members : List (String × Json)}
    (inside : ∀ member ∈ members, Reads depth member.2) : Reads (depth + 1) (.object members) := by
  intro limit frames expected room allowed
  have opened : Reader.step limit ⟨frames, expected, null⟩ .openObject =
      some ⟨.object (some []) :: frames, .nameOrClose, null⟩ :=
    (Reader.step_of_allowsValue allowed .openObject nofun).trans (Reader.openFrame_of_room room)
  cases members with
  | nil =>
    exact .mark rfl (fun _ => rfl) rfl opened (.single (.single rfl fun _ _ => rfl) rfl rfl)
  | cons member members =>
    obtain ⟨name, value⟩ := member
    rw [List.forall_mem_cons] at inside
    show Takes limit
      ('\x7b' :: writeString name ++ ':' :: value.write ++ writeMembers members) _ _
    rw [List.append_assoc, List.cons_append]
    exact .mark rfl (fun _ => rfl) rfl opened (takes_member (.inr rfl) inside.1 room
      (takes_writeMembers inside.2 room [(name, value)])
      fun rest _ => endsNumber_writeMembers members rest)

end Containers

/-- The reader makes every value that fits of its text. -/
theorem Fits.reads {depth : Nat} {value : Json} (fits : Fits depth value) : Reads depth value := by
  induction fits with
  | null =>
    exact fun _ _ _ _ allowed => .single (.single rfl fun _ _ => rfl) rfl
      (Reader.step_of_allowsValue allowed (.scalar .null) nofun)
  | boolean _ value =>
    refine fun _ _ _ _ allowed => .single ?_ rfl
      (Reader.step_of_allowsValue allowed (.scalar (.boolean value)) nofun)
    cases value <;> exact .single rfl fun _ _ => rfl
  | @integer _ value word =>
    exact fun _ _ _ _ allowed => .single (spelledBy_integer word) rfl
      (Reader.step_of_allowsValue allowed (.scalar (.integer value)) nofun)
  | string _ value =>
    exact fun _ _ _ _ allowed => .single (spelledBy_string value) rfl
      (Reader.step_of_allowsValue allowed (.text (some value)) nofun)
  | array _ inductionHypothesis => exact reads_array inductionHypothesis
  | object _ inductionHypothesis => exact reads_object inductionHypothesis

end GatewayOperator.Json

namespace GatewayOperator

/-! ### The depth of what is written -/

/-- Everything that is written fits a depth. -/
def Codec.Fits {Value : Type} (depth : Nat) (codec : Codec Value) : Prop :=
  ∀ value, Json.Fits depth (codec.write value)

/-- Everything that is written as the member fits a depth. -/
def Member.Fits {Value : Type} (depth : Nat) (member : Member Value) : Prop :=
  ∀ value, ∀ json ∈ member.write value, Json.Fits depth json

/-- Everything that is written as one of the members fits a depth. -/
def Members.Fits {Tuple Slots : Type} (depth : Nat) : Members Tuple Slots → Prop
  | .nil => True
  | .cons first rest => first.Fits depth ∧ rest.Fits depth

/-- What is written for a tuple fits a depth. -/
def Members.FitsAt {Tuple Slots : Type} (depth : Nat) : Members Tuple Slots → Tuple → Prop
  | .nil, _ => True
  | .cons first rest, (value, values) =>
    (∀ json ∈ first.write value, Json.Fits depth json) ∧ rest.FitsAt depth values

theorem Members.Fits.at {Tuple Slots : Type} {depth : Nat} {members : Members Tuple Slots}
    (fits : members.Fits depth) (values : Tuple) : members.FitsAt depth values := by
  induction members with
  | nil => trivial
  | cons first rest inductionHypothesis =>
    exact ⟨fits.1 values.1, inductionHypothesis fits.2 values.2⟩

theorem Members.FitsAt.write {Tuple Slots : Type} {depth : Nat} {members : Members Tuple Slots}
    {values : Tuple} (fits : members.FitsAt depth values) :
    ∀ entry ∈ members.write values, Json.Fits depth entry.2 := by
  induction members with
  | nil => exact nofun
  | cons first rest inductionHypothesis =>
    have others := inductionHypothesis fits.2
    unfold Members.write
    split
    · next json written => exact List.forall_mem_cons.mpr ⟨fits.1 json written, others⟩
    · exact others

namespace Member

variable {Value : Type} {name : String} {codec : Codec Value} {depth : Nat}

theorem optional_fits (fits : codec.Fits depth) : (optional name codec).Fits depth := by
  intro value json written
  obtain ⟨value, -, rfl⟩ := Option.map_eq_some_iff.mp written
  exact fits value

theorem nullable_fits (fits : codec.Fits depth) : (nullable name codec).Fits depth :=
  fun value => @optional_fits _ name _ _ fits value

theorem filled_fits {default : Value} (fits : codec.Fits depth) :
    (filled name codec default).Fits depth := fun value _ written =>
  Option.some.inj written ▸ fits value

theorem defaulted_fits {default : Value} (fits : codec.Fits depth) :
    (defaulted name codec default).Fits depth := fun value _ written =>
  Option.some.inj written ▸ fits value

theorem required_fits (fits : codec.Fits depth) : (required name codec).Fits depth :=
  fun value _ written => Option.some.inj written ▸ fits value

end Member

namespace Codec

variable {Value : Type}

theorem text_fits (depth : Nat) : text.Fits depth := fun value => .string depth value

theorem boolean_fits (depth : Nat) : boolean.Fits depth := fun value => .boolean depth value

theorem int32_fits (depth : Nat) : int32.Fits depth := fun value =>
  .integer depth ⟨by have := value.le_toInt; omega,
    Int.lt_trans value.toInt_lt (by decide)⟩

theorem int64_fits (depth : Nat) : int64.Fits depth := fun value =>
  .integer depth ⟨value.le_toInt, Int.lt_trans value.toInt_lt (by decide)⟩

theorem choice_fits (depth : Nat) (alternatives : List (String × Value)) (name : Value → String) :
    (choice alternatives name).Fits depth := fun value => .string depth (name value)

theorem fits_list {depth : Nat} {codec : Codec Value} {values : List Value}
    (fits : ∀ value ∈ values, Json.Fits depth (codec.write value)) :
    Json.Fits (depth + 1) ((list codec).write values) := by
  refine .array fun element member => ?_
  obtain ⟨value, isValue, rfl⟩ := List.mem_map.mp member
  exact fits value isValue

theorem list_fits {depth : Nat} {codec : Codec Value} (fits : codec.Fits depth) :
    (list codec).Fits (depth + 1) := fun _ => fits_list fun value _ => fits value

theorem map_fits {depth : Nat} {codec : Codec Value} (fits : codec.Fits depth) :
    (map codec).Fits (depth + 1) := by
  refine fun map => .object fun entry member => ?_
  obtain ⟨value, -, rfl⟩ := List.mem_map.mp member
  exact fits value.2

variable {Record Tuple Slots : Type} {name : String} {members : Members Tuple Slots}
  {toTuple : Record → Tuple} {ofTuple : Tuple → Record} {depth : Nat}

/-- What is written for a record fits a depth when what is written for its members does. -/
theorem fits_object {record : Record} (fits : members.FitsAt depth (toTuple record)) :
    Json.Fits (depth + 1) ((object name members toTuple ofTuple).write record) :=
  .object fits.write

theorem fits_record {heading : List (String × Json)} {record : Record}
    (head : ∀ entry ∈ heading, Json.Fits depth entry.2)
    (fits : members.FitsAt depth (toTuple record)) :
    Json.Fits (depth + 1) ((Codec.record name heading members toTuple ofTuple).write record) :=
  .object (List.forall_mem_append.mpr ⟨head, fits.write⟩)

theorem object_fits (fits : members.Fits depth) :
    (object name members toTuple ofTuple).Fits (depth + 1) := fun record =>
  fits_object (fits.at (toTuple record))

theorem record_fits {heading : List (String × Json)}
    (head : ∀ entry ∈ heading, Json.Fits depth entry.2) (fits : members.Fits depth) :
    (record name heading members toTuple ofTuple).Fits (depth + 1) := fun record =>
  fits_record head (fits.at (toTuple record))

end Codec

end GatewayOperator
