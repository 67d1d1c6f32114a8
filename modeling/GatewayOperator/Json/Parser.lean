/-
This file reads JSON documents. The reader is a machine that takes one token at a time and keeps
the containers that are still open, so it is total, and the depth of a document is the number of
open containers. There are two ways to read a document: as a whole, when it may be only so deep
and nothing in it may be faulty, and for a reader of its own, who looks at some parts of it and
passes over the others, whatever stands there.
-/

import GatewayOperator.Json.Token

namespace GatewayOperator.Json

/-- An open container with what it holds so far, the last first. An object holds nothing any more
when the name of a member is faulty. -/
inductive Frame where
  | array (done : List Json)
  | object (done : Option (List (String × Json)))
  | member (done : Option (List (String × Json))) (name : String)

/-- What may come next. -/
inductive Expected where
  | value
  | valueOrClose
  | nameOrClose
  | name
  | colon
  | commaOrClose
  | nothing
  deriving DecidableEq

/-- The reader between two tokens. -/
structure Reader where
  frames : List Frame
  expected : Expected
  result : Json

/-- Puts a finished value where it belongs. -/
def Reader.place (frames : List Frame) (value : Json) : Option Reader :=
  match frames with
  | [] => some ⟨[], .nothing, value⟩
  | .array done :: rest => some ⟨.array (value :: done) :: rest, .commaOrClose, null⟩
  | .member done name :: rest =>
    some ⟨.object (done.map ((name, value) :: ·)) :: rest, .commaOrClose, null⟩
  | .object _ :: _ => none

/-- Opens a container, unless as many are open as the limit says. -/
def Reader.openFrame (limit : Nat) (reader : Reader) (frame : Frame) (expected : Expected) :
    Option Reader :=
  if limit ≤ reader.frames.length then none
  else some ⟨frame :: reader.frames, expected, null⟩

/-- Closes the innermost container, if it is of the kind of the token. -/
def Reader.close (frames : List Frame) (token : Token) : Option Reader :=
  match frames, token with
  | .array done :: rest, .closeArray => Reader.place rest (.array done.reverse)
  | .object done :: rest, .closeObject =>
    Reader.place rest (match done with
      | some members => .object members.reverse
      | none => .faulty)
  | _, _ => none

/-- Takes a token where a value may stand. -/
def Reader.value (limit : Nat) (reader : Reader) (token : Token) : Option Reader :=
  match token with
  | .text value => Reader.place reader.frames ((value.map string).getD faulty)
  | .scalar value => Reader.place reader.frames value
  | .openArray => reader.openFrame limit (.array []) .valueOrClose
  | .openObject => reader.openFrame limit (.object (some [])) .nameOrClose
  | _ => none

/-- Takes the name of a member. -/
def Reader.name (frames : List Frame) (name : Option String) : Option Reader :=
  match frames, name with
  | .object done :: rest, some name => some ⟨.member done name :: rest, .colon, null⟩
  | .object _ :: rest, none => some ⟨.member none "" :: rest, .colon, null⟩
  | _, _ => none

/-- Takes one token. -/
def Reader.step (limit : Nat) (reader : Reader) (token : Token) : Option Reader :=
  match reader.expected, token with
  | .value, token => reader.value limit token
  | .valueOrClose, .closeArray => Reader.close reader.frames .closeArray
  | .valueOrClose, token => reader.value limit token
  | .nameOrClose, .closeObject => Reader.close reader.frames .closeObject
  | .nameOrClose, .text name => Reader.name reader.frames name
  | .name, .text name => Reader.name reader.frames name
  | .colon, .colon => some { reader with expected := .value }
  | .commaOrClose, .comma =>
    match reader.frames with
    | .array _ :: _ => some { reader with expected := .value }
    | .object _ :: _ => some { reader with expected := .name }
    | _ => none
  | .commaOrClose, token => Reader.close reader.frames token
  | _, _ => none

/-- The value of a token sequence in which at most so many containers are open at once; nothing
if it is not exactly one value. -/
def ofTokens? (limit : Nat) (tokens : List Token) : Option Json := do
  let reader ← tokens.foldlM (Reader.step limit) ⟨[], .value, null⟩
  if reader.expected = .nothing then
    return reader.result
  else
    none

/-- So many containers may be open at once in a document that is read as a whole. -/
def depthLimit : Nat := 127

/-- The value of a document that is read as a whole, its members in the order of the document. -/
def parse? (text : String) : Option Json := do
  let tokens ← tokens? text.toList
  if tokens.any Token.isFaulty then
    none
  else
    ofTokens? depthLimit tokens

/-- The value of a document for a reader who passes over a part of it. It may be of any depth,
and a fault in it is the fault of the part that it stands in. -/
def skim? (text : String) : Option Json := do
  let tokens ← tokens? text.toList
  ofTokens? tokens.length tokens

end GatewayOperator.Json
