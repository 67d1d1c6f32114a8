/-
This file pairs the two directions between a type and JSON: how its values are written and how
they are read back. A lawful pair reads back exactly what it writes and never writes `null`,
since `null` means that an optional value is absent. The pairs of the elementary types stand
here, and those of lists and maps are built from the pair of their elements.
-/

import GatewayOperator.Json.Decode
import GatewayOperator.Text.Base64

namespace GatewayOperator

/-- How values of a type are written as JSON and read back. -/
structure Codec (Value : Type) where
  write : Value → Json
  read : Json → Except DecodeError Value

namespace Codec

variable {Value : Type}

/-- What is written is read back, and is never `null`. -/
structure Lawful (codec : Codec Value) : Prop where
  read_write : ∀ value, codec.read (codec.write value) = .ok value
  write_ne_null : ∀ value, codec.write value ≠ .null

/-! ### Elementary types -/

/-- Text. -/
def text : Codec String where
  write value := .string value
  read
    | .string value => .ok value
    | found => .error (found.mismatch "a string")

/-- A truth value. -/
def boolean : Codec Bool where
  write value := .boolean value
  read
    | .boolean value => .ok value
    | found => .error (found.mismatch "a boolean")

/-- An unsigned integer of 16 bits. -/
def uint16 : Codec UInt16 where
  write value := .integer value.toNat
  read
    | .integer value =>
      if 0 ≤ value ∧ value < UInt16.size then .ok (UInt16.ofNat value.toNat)
      else .error (.invalidValue (Json.integer value).describe "u16")
    | found => .error (found.mismatch "u16")

/-- An unsigned integer of 32 bits. -/
def uint32 : Codec UInt32 where
  write value := .integer value.toNat
  read
    | .integer value =>
      if 0 ≤ value ∧ value < UInt32.size then .ok (UInt32.ofNat value.toNat)
      else .error (.invalidValue (Json.integer value).describe "u32")
    | found => .error (found.mismatch "u32")

/-- A signed integer of 32 bits. -/
def int32 : Codec Int32 where
  write value := .integer value.toInt
  read
    | .integer value =>
      if -0x80000000 ≤ value ∧ value < 0x80000000 then .ok (Int32.ofInt value)
      else .error (.invalidValue (Json.integer value).describe "i32")
    | found => .error (found.mismatch "i32")

/-- A signed integer of 64 bits. -/
def int64 : Codec Int64 where
  write value := .integer value.toInt
  read
    | .integer value =>
      if -0x8000000000000000 ≤ value ∧ value < 0x8000000000000000 then .ok (Int64.ofInt value)
      else .error (.invalidValue (Json.integer value).describe "i64")
    | found => .error (found.mismatch "i64")

/-- Bytes, written in base 64; `null` is read as no bytes. -/
def bytes : Codec (List UInt8) where
  write value := .string (String.ofList (Text.Base64.encode value))
  read
    | .null => .ok []
    | .string value =>
      match Text.Base64.decode value.toList with
      | some bytes => .ok bytes
      | none => .error (.invalidValue (Json.string value).describe "a base64-encoded string")
    | found => .error (found.mismatch "a base64-encoded string")

/-! ### Lists and maps -/

/-- Reads the elements of an array in order. -/
def readElements (codec : Codec Value) : List Json → Except DecodeError (List Value)
  | [] => .ok []
  | element :: rest => do
    let first ← codec.read element
    let others ← codec.readElements rest
    return first :: others

/-- A list. -/
def list (codec : Codec Value) : Codec (List Value) where
  write values := .array (values.map codec.write)
  read
    | .array elements => codec.readElements elements
    | found => .error (found.mismatch "a sequence")

/-- Reads the members of an object in order. -/
def readMembers (codec : Codec Value) :
    List (String × Json) → Except DecodeError (List (String × Value))
  | [] => .ok []
  | (name, member) :: rest => do
    let first ← codec.read member
    let others ← codec.readMembers rest
    return (name, first) :: others

/-- A map. -/
def map (codec : Codec Value) : Codec (Map Value) where
  write value := .object (value.entries.map fun entry => (entry.1, codec.write entry.2))
  read
    | .object members => (codec.readMembers members).map Map.ofList
    | found => .error (found.mismatch "a map")

/-! ### Alternatives -/

/-- Reads the value beside the name of an alternative, which has to be `null`. -/
def readUnit : Json → Except DecodeError Unit
  | .null => .ok ()
  | found => .error (found.mismatch "unit")

/-- One of several named alternatives. An alternative is written as its name, and is read from
its name or from an object whose only member has that name and the value `null`. -/
def choice (alternatives : List (String × Value)) (name : Value → String) : Codec Value where
  write value := .string (name value)
  read found :=
    let find (chosen : String) : Except DecodeError Value :=
      match alternatives.lookup chosen with
      | some value => .ok value
      | none => .error (.unknownVariant chosen (alternatives.map (·.1)))
    match found with
    | .string chosen => find chosen
    | .object [(chosen, content)] => do
      let value ← find chosen
      readUnit content
      return value
    | .object _ => .error (.invalidValue found.describe "map with a single key")
    | _ => .error (found.mismatch "string or map")

/-! ### Laws -/

theorem text_lawful : text.Lawful := ⟨fun _ => rfl, nofun⟩

theorem boolean_lawful : boolean.Lawful := ⟨fun _ => rfl, nofun⟩

theorem int32_lawful : int32.Lawful where
  read_write value := by
    have within : -0x80000000 ≤ value.toInt ∧ value.toInt < 0x80000000 :=
      ⟨value.le_toInt, value.toInt_lt⟩
    show (if _ then Except.ok (Int32.ofInt value.toInt) else _) = Except.ok value
    rw [if_pos within, Int32.ofInt_toInt]
  write_ne_null _ := nofun

theorem int64_lawful : int64.Lawful where
  read_write value := by
    have within : -0x8000000000000000 ≤ value.toInt ∧ value.toInt < 0x8000000000000000 :=
      ⟨value.le_toInt, value.toInt_lt⟩
    show (if _ then Except.ok (Int64.ofInt value.toInt) else _) = Except.ok value
    rw [if_pos within, Int64.ofInt_toInt]
  write_ne_null _ := nofun

theorem uint16_lawful : uint16.Lawful where
  read_write value := by
    have small := value.toNat_lt
    have within : (0 : Int) ≤ value.toNat ∧ (value.toNat : Int) < UInt16.size :=
      ⟨Int.natCast_nonneg _, Int.ofNat_lt.mpr small⟩
    simp only [uint16, if_pos within, Int.toNat_natCast, UInt16.ofNat_toNat]
  write_ne_null _ := nofun

theorem uint32_lawful : uint32.Lawful where
  read_write value := by
    have small := value.toNat_lt
    have within : (0 : Int) ≤ value.toNat ∧ (value.toNat : Int) < UInt32.size :=
      ⟨Int.natCast_nonneg _, Int.ofNat_lt.mpr small⟩
    simp only [uint32, if_pos within, Int.toNat_natCast, UInt32.ofNat_toNat]
  write_ne_null _ := nofun

theorem bytes_lawful : bytes.Lawful where
  read_write value := by
    simp only [bytes, String.toList_ofList, Text.Base64.decode_encode]
  write_ne_null _ := nofun

theorem readElements_map_write {codec : Codec Value} (lawful : codec.Lawful)
    (values : List Value) : codec.readElements (values.map codec.write) = .ok values := by
  induction values with
  | nil => rfl
  | cons value values inductionHypothesis =>
    simp only [List.map_cons, readElements, lawful.read_write value, inductionHypothesis]
    rfl

theorem list_lawful {codec : Codec Value} (lawful : codec.Lawful) : (list codec).Lawful where
  read_write values := readElements_map_write lawful values
  write_ne_null _ := nofun

theorem readMembers_map_write {codec : Codec Value} (lawful : codec.Lawful)
    (entries : List (String × Value)) :
    codec.readMembers (entries.map fun entry => (entry.1, codec.write entry.2)) =
      .ok entries := by
  induction entries with
  | nil => rfl
  | cons entry entries inductionHypothesis =>
    simp only [List.map_cons, readMembers, lawful.read_write entry.2, inductionHypothesis]
    rfl

theorem map_lawful {codec : Codec Value} (lawful : codec.Lawful) : (map codec).Lawful where
  read_write value := by
    show (codec.readMembers _).map Map.ofList = .ok value
    rw [readMembers_map_write lawful]
    exact congrArg Except.ok (Map.ofList_entries value)
  write_ne_null _ := nofun

/-- An alternative that is found under its name is read back. -/
theorem choice_lawful {alternatives : List (String × Value)} {name : Value → String}
    (found : ∀ value, alternatives.lookup (name value) = some value) :
    (choice alternatives name).Lawful where
  read_write value := by simp [choice, found value]
  write_ne_null _ := nofun

end Codec

end GatewayOperator
