/-
This file holds the requests and responses by which the operator talks to the interface of the
cluster, and says which texts are the target of a request. A target is sent as it is: a character
that may not stand in one makes the request impossible, and what follows a number sign is no part
of it.
-/

import GatewayOperator.Json.Parser
import GatewayOperator.Json.Printer

namespace GatewayOperator.Http

/-- The methods that are used. -/
inductive Method where
  | get
  | post
  | put
  | patch
  deriving DecidableEq

/-- The word for a method. -/
def Method.word : Method → String
  | get => "GET"
  | post => "POST"
  | put => "PUT"
  | patch => "PATCH"

/-- A request. A request that reads has neither a body nor the type of one. -/
structure Request where
  method : Method
  target : String
  contentType : Option String
  body : Option Json

/-- The body of a response: a document, or a text that may turn out to be one. -/
inductive Body where
  | document (value : Json)
  | text (content : String)

namespace Body

/-- The text of a body. -/
def content : Body → String
  | document value => value.print
  | text content => content

/-- The document of a body; nothing if its text is none. Whoever reads an object from it passes
over the members that the object does not have. -/
def document? : Body → Option Json
  | document value => some value
  | text content => Json.skim? content

end Body

/-- A response: its status and its body. -/
structure Response where
  status : Nat
  body : Body

/-- Whether the response says that the request failed. -/
def Response.isFailure (response : Response) : Bool :=
  400 ≤ response.status && response.status < 600

/-- Somebody who answers requests in a state. There may be no answer. -/
structure Server (State : Type) where
  answer : Request → State → Option Response × State

/-! ### Targets -/

/-- The most bytes that a target may have. -/
def targetLimit : Nat := 65534

/-- Whether a character is a control character or the blank; none of them may stand in a
target. -/
def isInvisible (character : Char) : Bool :=
  character.toNat ≤ 0x20 || character.toNat = 0x7F

/-- Whether a character may stand in the path of a target. -/
def pathAllows (character : Char) : Bool :=
  !isInvisible character && !(['<', '>', '\x60'].contains character)

/-- Whether a character may stand in the query of a target. -/
def queryAllows (character : Char) : Bool :=
  !isInvisible character && !(['"', '<', '>'].contains character)

/-- The part of a target that is sent. -/
def sentPart (text : List Char) : List Char := text.takeWhile (· != '#')

/-- Whether every character may stand where it stands. The query starts at the first question
mark. -/
def isTarget (sent : List Char) : Bool :=
  (sent.takeWhile (· != '?')).all pathAllows && (sent.dropWhile (· != '?')).all queryAllows

/-- The target that a text makes. -/
def target? (text : String) : Option String :=
  let sent := sentPart text.toList
  if text.utf8ByteSize ≤ targetLimit && isTarget sent then some (String.ofList sent) else none

end GatewayOperator.Http
