/-
This file counts what was observed. Every observation adds one to the series it concerns, and
the value of a series is how often it was added to; the durations of passes are collected for
each kind of resource. Nothing else is kept, so the figures of a run are a function of the
observations alone.
-/

import GatewayOperator.Metrics.Observation

namespace GatewayOperator

/-- The families of counters. -/
inductive CounterFamily where
  | errors
  | reconciliations
  | requeues
  | resourcesCreated
  | resourcesUpdated
  | statusUpdates
  deriving DecidableEq

/-- A counter of a family: the kind of resource it counts for, and the value of the other label in
the families that have one. -/
structure Series where
  family : CounterFamily
  resource : String
  detail : String := ""
  deriving DecidableEq

/-- How a pass ended, as a label says it. -/
inductive PassEnding where
  | success
  | error
  | requeue
  deriving DecidableEq

/-- The value of the label. -/
def PassEnding.word : PassEnding → String
  | success => "success"
  | error => "error"
  | requeue => "requeue"

namespace Series

/-- The passes that ended in a way. -/
def reconciliations (resource : String) (ending : PassEnding) : Series :=
  ⟨.reconciliations, resource, ending.word⟩

/-- The passes that stopped for a reason. -/
def requeues (resource reason : String) : Series := ⟨.requeues, resource, reason⟩

/-- The objects that were created. -/
def resourcesCreated (resource : String) : Series := ⟨.resourcesCreated, resource, ""⟩

/-- The objects that were updated. -/
def resourcesUpdated (resource : String) : Series := ⟨.resourcesUpdated, resource, ""⟩

/-- The status writes with a value of the condition. -/
def statusUpdates (resource ready : String) : Series := ⟨.statusUpdates, resource, ready⟩

/-- The errors of a reason. -/
def errors (resource reason : String) : Series := ⟨.errors, resource, reason⟩

/-- What a series is kept under in its family: the values of its labels, one after the other.
Nothing stands between them, so two series whose values run together to one text are one. -/
def key (series : Series) : String := series.resource ++ series.detail

/-- Whether two series are kept as one. -/
def isSame (series other : Series) : Bool :=
  series.family = other.family && series.key = other.key

/-- The labels with their values, in the order of the names of the labels. -/
def labels (series : Series) : List (String × String) :=
  let resource := ("resource_type", series.resource)
  match series.family with
  | .errors => [("error_type", series.detail), resource]
  | .reconciliations => [resource, ("status", series.detail)]
  | .requeues => [("reason", series.detail), resource]
  | .resourcesCreated | .resourcesUpdated => [resource]
  | .statusUpdates => [("ready", series.detail), resource]

end Series

namespace Observation

/-- The series an observation adds one to. -/
def series : Observation → List Series
  | succeeded resource _ => [.reconciliations resource .success]
  | failed resource _ => [.reconciliations resource .error]
  | requeued resource reason =>
    [.reconciliations resource .requeue, .requeues resource reason]
  | created resource => [.resourcesCreated resource]
  | updated resource => [.resourcesUpdated resource]
  | statusWritten resource ready => [.statusUpdates resource ready]
  | erred resource reason => [.errors resource reason]

/-- The duration an observation tells, with the kind of resource. -/
def timing? : Observation → Option (String × Nat)
  | succeeded resource duration => some (resource, duration)
  | failed resource duration => some (resource, duration)
  | _ => none

end Observation

/-- The value of a series after some observations. -/
def Series.value (series : Series) (observations : List Observation) : Nat :=
  (observations.flatMap Observation.series).countP series.isSame

/-- The durations of the passes over a kind of resource, in the order of the observations. -/
def durations (resource : String) (observations : List Observation) : List Nat :=
  (observations.filterMap Observation.timing?).filterMap fun timing =>
    if timing.1 = resource then some timing.2 else none

/-- What is observed later is added to what was observed before. -/
theorem Series.value_append (series : Series) (earlier later : List Observation) :
    series.value (earlier ++ later) = series.value earlier + series.value later := by
  unfold Series.value
  rw [List.flatMap_append, List.countP_append]

end GatewayOperator
