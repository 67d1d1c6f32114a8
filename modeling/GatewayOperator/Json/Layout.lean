/-
This file builds the JSON form of a record from a list of its members. It serves the members of an
object that the operator reads, keeps and writes back without looking at them: they have a type,
since a document that gives one of them another value is refused, but no field of their own. A
format is a type with its JSON form, its default and the law that what is written is read back, so a
format that is made of others needs no proof but that the names of its members differ.
-/

import GatewayOperator.Json.Record

namespace GatewayOperator

/-- A type of values that are written as JSON and read back. -/
structure Format : Type 1 where
  Value : Type
  codec : Codec Value
  /-- The value of a member that has to be there and is absent. -/
  default : Value
  lawful : codec.Lawful
  equality : DecidableEq Value

/-- A member of a record by its name and format. -/
inductive Entry : Type 1 where
  /-- It may be left out. -/
  | optional (name : String) (format : Format)
  /-- It is always there, and the default of its format when a document leaves it out. -/
  | filled (name : String) (format : Format)

namespace Entry

/-- The values of a member. -/
def Value : Entry → Type
  | optional _ format => Option format.Value
  | filled _ format => format.Value

/-- How a member is written and read. -/
def member : (entry : Entry) → Member entry.Value
  | optional name format => Member.optional name format.codec
  | filled name format => Member.filled name format.codec format.default

/-- The value of a member that nobody set. -/
def blank : (entry : Entry) → entry.Value
  | optional _ _ => none
  | filled _ format => format.default

instance equality : (entry : Entry) → DecidableEq entry.Value
  | optional _ format =>
    have := format.equality
    inferInstanceAs (DecidableEq (Option format.Value))
  | filled _ format => format.equality

theorem member_lawful (entry : Entry) : entry.member.Lawful := by
  cases entry with
  | optional _ format => exact Member.optional_lawful format.lawful
  | filled _ format => exact Member.filled_lawful format.lawful

end Entry

/-- The members of a record in the order in which they are written. -/
abbrev Layout : Type 1 := List Entry

namespace Layout

/-- The values of the members. -/
def Tuple : Layout → Type
  | [] => Unit
  | entry :: rest => entry.Value × Tuple rest

/-- The values of the members read so far. -/
def Slots : Layout → Type
  | [] => Unit
  | entry :: rest => Option entry.Value × Slots rest

/-- How the members are written and read. -/
def members : (layout : Layout) → Members layout.Tuple layout.Slots
  | [] => .nil
  | entry :: rest => .cons entry.member (members rest)

/-- The values of members that nobody set. -/
def blank : (layout : Layout) → layout.Tuple
  | [] => ()
  | entry :: rest => (entry.blank, blank rest)

instance equality : (layout : Layout) → DecidableEq layout.Tuple
  | [] => fun _ _ => isTrue rfl
  | entry :: rest => @instDecidableEqProd _ _ entry.equality (equality rest)

instance (layout : Layout) : Inhabited layout.Tuple := ⟨layout.blank⟩

theorem members_lawful (layout : Layout) : layout.members.Lawful := by
  induction layout with
  | nil => trivial
  | cons entry rest inductionHypothesis => exact ⟨entry.member_lawful, inductionHypothesis⟩

end Layout

namespace Format

/-- The format of a type whose values are read back from their JSON form. -/
def of {Value : Type} [equality : DecidableEq Value] [Inhabited Value] {codec : Codec Value}
    (lawful : codec.Lawful) : Format :=
  ⟨Value, codec, Inhabited.default, lawful, equality⟩

/-- Text, empty when it is absent. -/
def text : Format := of Codec.text_lawful

/-- A truth value, false when it is absent. -/
def boolean : Format := of Codec.boolean_lawful

/-- A signed integer of 32 bits, zero when it is absent. -/
def int32 : Format := of Codec.int32_lawful

/-- A signed integer of 64 bits, zero when it is absent. -/
def int64 : Format := of Codec.int64_lawful

/-- A list, empty when it is absent. -/
def list (format : Format) : Format :=
  ⟨List format.Value, Codec.list format.codec, [], Codec.list_lawful format.lawful,
    @instDecidableEqList _ format.equality⟩

/-- A map of texts, empty when it is absent. -/
def labels : Format := of (Codec.map_lawful Codec.text_lawful)

/-- A record of some members. -/
def record (name : String) (layout : Layout)
    (distinct : layout.members.names.Nodup := by decide) : Format where
  Value := layout.Tuple
  codec := Codec.object name layout.members id id
  default := layout.blank
  lawful := Codec.object_lawful layout.members_lawful distinct fun _ => rfl
  equality := layout.equality

end Format

end GatewayOperator
