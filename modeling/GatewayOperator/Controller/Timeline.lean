/-
This file runs the operator against a cluster of its own over a span of time. A gateway is due
when it or an object it owns appears or changes, and when the delay of its last visit has passed;
each gateway has one time at which it is due, the earliest that was asked for. A write takes a
millisecond and a visit without writes takes none, so visits follow a change until one of them
writes nothing, and the delay counts from there.
-/

import GatewayOperator.Controller.Visit
import GatewayOperator.Controller.Watch
import GatewayOperator.Store.Server

namespace GatewayOperator

/-! ### What is due -/

/-- When gateways are due, in milliseconds; each gateway stands in it once. -/
abbrev Agenda : Type := List (ObjectName × Nat)

namespace Agenda

/-- Makes a gateway due at a time, unless it is due before. -/
def add (agenda : Agenda) (name : ObjectName) (time : Nat) : Agenda :=
  match agenda with
  | [] => [(name, time)]
  | (other, due) :: rest =>
    if other = name then (name, min due time) :: rest else (other, due) :: add rest name time

/-- Makes gateways due at a time. -/
def addAll (agenda : Agenda) (names : List ObjectName) (time : Nat) : Agenda :=
  names.foldl (fun agenda name => agenda.add name time) agenda

/-- Takes a gateway off. -/
def remove (agenda : Agenda) (name : ObjectName) : Agenda :=
  agenda.filter (·.1 ≠ name)

/-- The gateway that is due first, with its time. Of two that are due together the one that was
added first comes first. -/
def first? : Agenda → Option (ObjectName × Nat)
  | [] => none
  | entry :: rest =>
    match first? rest with
    | none => some entry
    | some other => if other.2 < entry.2 then some other else some entry

end Agenda

/-! ### The cluster -/

/-- A request that wrote, with its response and the time at which it was made. -/
structure TimedWrite where
  time : Nat
  request : Http.Request
  response : Http.Response

/-- The cluster at a moment, with what is due and what the operator has written so far. -/
structure Timeline where
  memory : Memory
  clock : Nat := 0
  agenda : Agenda := []
  writes : List TimedWrite := []

namespace Timeline

/-- Lets a change reach the watches. -/
def announce (scope : Scope) (stored : Stored) (timeline : Timeline) : Timeline :=
  { timeline with agenda := timeline.agenda.addAll (scope.concerned stored) timeline.clock }

/-- Serves a request of the operator. The watches hear of a write before its writer does. -/
def answer (scope : Scope) (request : Http.Request) (timeline : Timeline) :
    Option Http.Response × Timeline :=
  let served := timeline.memory.serve request
  let after := { timeline with memory := served.memory }
  if request.method = .get then (some served.response, after)
  else
    let logged : Timeline :=
      { after with
        clock := timeline.clock + 1
        writes := timeline.writes ++ [⟨timeline.clock, request, served.response⟩] }
    let announced := match served.written with
      | none => logged
      | some stored => logged.announce scope stored
    (some served.response, announced)

/-- The cluster as a server. -/
def server (scope : Scope) : Http.Server Timeline where
  answer request timeline := timeline.answer scope request

/-- Visits a gateway that is due. A gateway that is not known is passed over. -/
def visitGateway (config : Config) (now : String) (name : ObjectName) (timeline : Timeline) :
    Timeline :=
  let scope := config.namespaceName?
  let begun := { timeline with agenda := timeline.agenda.remove name }
  match begun.memory.get .gateway name with
  | .error _ => begun
  | .ok gateway =>
    let ended := (visit config { now } gateway).run (server scope).store begun
    let due := ended.state.clock + 1000 * ended.result.requeueSeconds
    { ended.state with agenda := ended.state.agenda.add name due }

/-! ### Events -/

/-- A change that somebody else makes. -/
inductive Change where
  /-- An object is put into the cluster. -/
  | put (stored : Stored)
  /-- An object that is there is patched. -/
  | patch (kind : Kind) (name : ObjectName) (change : Json)

/-- A change at a time. -/
structure TimedChange where
  time : Nat
  change : Change

/-- Why a change cannot be made. -/
inductive ChangeError where
  /-- The result of a patch is no object of its kind. -/
  | unreadable
  /-- The cluster does not take the object. -/
  | refused (cause : StoreError)

/-- Puts an object into the cluster. -/
def seed (scope : Scope) (stored : Stored) (timeline : Timeline) : Except ChangeError Timeline :=
  match timeline.memory.seed stored.kind stored.object with
  | (.error cause, _) => .error (.refused cause)
  | (.ok placed, memory) => .ok ({ timeline with memory }.announce scope ⟨stored.kind, placed⟩)

/-- Makes a change. A patch of an object that is absent changes nothing. -/
def apply (scope : Scope) (change : Change) (timeline : Timeline) :
    Except ChangeError Timeline :=
  match change with
  | .put stored => timeline.seed scope stored
  | .patch kind name patch =>
    match timeline.memory.get kind name with
    | .error _ => .ok timeline
    | .ok object =>
      match kind.codec.read ((kind.codec.write object).normalize.mergePatch patch) with
      | .error _ => .error .unreadable
      | .ok patched => timeline.seed scope ⟨kind, patched⟩

/-- The timeline at a later time. -/
def advance (time : Nat) (timeline : Timeline) : Timeline :=
  { timeline with clock := max timeline.clock time }

/-! ### Runs -/

/-- What can happen next. -/
inductive Next where
  | change (change : TimedChange) (rest : List TimedChange)
  | visit (name : ObjectName) (time : Nat)
  | nothing

/-- What happens next. A change comes before a visit at the same time. -/
def next (changes : List TimedChange) (timeline : Timeline) : Next :=
  match changes, timeline.agenda.first? with
  | [], none => .nothing
  | [], some (name, time) => .visit name time
  | change :: rest, none => .change change rest
  | change :: rest, some (name, time) =>
    if time < change.time then .visit name time else .change change rest

/-- Runs the operator until a time, or until a change cannot be made. The fuel bounds the number
of changes and visits. -/
def runUntil (config : Config) (now : String) (stop : Nat) :
    (fuel : Nat) → List TimedChange → Timeline → Except ChangeError Timeline
  | 0, _, timeline => .ok timeline
  | fuel + 1, changes, timeline =>
    match timeline.next changes with
    | .nothing => .ok timeline
    | .change ⟨time, change⟩ rest =>
      if stop < time then .ok timeline
      else
        match (timeline.advance time).apply config.namespaceName? change with
        | .error cause => .error cause
        | .ok changed => runUntil config now stop fuel rest changed
    | .visit name time =>
      if stop < time then .ok timeline
      else
        runUntil config now stop fuel changes
          ((timeline.advance time).visitGateway config now name)

/-- Changes in the order of their times. -/
def inOrder (changes : List TimedChange) : List TimedChange :=
  changes.mergeSort fun first second => first.time ≤ second.time

/-- Runs the operator in a cluster with some objects, while others make changes. A gateway is
visited at most once a millisecond between two changes, since a visit is put off by more than that
or has written, so the fuel suffices. -/
def simulate (config : Config) (now : String) (objects : List Stored)
    (changes : List TimedChange) (stop : Nat) : Except ChangeError Timeline := do
  let start ← objects.foldlM
    (fun timeline stored => timeline.seed config.namespaceName? stored) { memory := {} }
  let fuel := (stop + changes.length + 1) * (objects.length + changes.length + 1) + changes.length
  runUntil config now stop fuel (inOrder changes) start

end Timeline

end GatewayOperator
