/-
This file says how the operator uses a store. A program makes calls to a store one at a time,
goes on with the answer, and notes what is measured on its way. What a call does is left open,
so the same program runs on any store, and other writers may step in between two of its calls.
-/

import GatewayOperator.Cluster.Kind
import GatewayOperator.Failure
import GatewayOperator.Metrics.Observation

namespace GatewayOperator

/-- A call to a store. -/
inductive Call where
  /-- Reads an object. -/
  | get (kind : Kind) (namespaceName name : String)
  /-- Creates an object whose name is not taken. -/
  | create (kind : Kind) (object : kind.Object)
  /-- Replaces an object, guarded by the version it was read at. -/
  | update (kind : Kind) (object : kind.Object)
  /-- Writes the status of a gateway and nothing else of it. -/
  | updateStatus (gateway : Gateway)

/-- The kind of the object of a call. -/
def Call.kind : Call → Kind
  | get kind _ _ => kind
  | create kind _ => kind
  | update kind _ => kind
  | updateStatus _ => .gateway

/-- The answer to a call: the object as it is stored, or an error. -/
abbrev Call.Answer (call : Call) : Type := Except StoreError call.kind.Object

/-- A program that uses a store. -/
inductive Program (Result : Type) where
  | done (result : Result)
  | call (request : Call) (next : request.Answer → Program Result)
  | observe (observation : Observation) (next : Program Result)

namespace Program

variable {Result Other State : Type}

/-- Goes on with another program. -/
def bind (program : Program Result) (next : Result → Program Other) : Program Other :=
  match program with
  | done result => next result
  | call request following => call request fun answer => (following answer).bind next
  | observe observation following => observe observation (following.bind next)

instance : Monad Program where
  pure := done
  bind := bind

/-- A program of one call. -/
def ask (request : Call) : Program request.Answer := call request done

/-- A program that notes something. -/
def note (observation : Observation) : Program Unit := observe observation (done ())

end Program

/-- A store: what a call answers in a state, and the state afterwards. -/
structure Store (State : Type) where
  answer : (request : Call) → State → request.Answer × State

/-- A program that has ended: its result, the state of the store, and what was observed. -/
structure Ended (State Result : Type) where
  result : Result
  state : State
  observations : List Observation

/-- Runs a program to its end without anybody stepping in. -/
def Program.run {Result State : Type} (store : Store State) : Program Result → State →
    Ended State Result
  | done result, state => ⟨result, state, []⟩
  | call request next, state =>
    let answered := store.answer request state
    (next answered.1).run store answered.2
  | observe observation next, state =>
    let ended := next.run store state
    { ended with observations := observation :: ended.observations }

end GatewayOperator
