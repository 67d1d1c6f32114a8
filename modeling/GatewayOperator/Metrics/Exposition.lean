/-
This file writes the figures of a run as the text that a metrics server answers. The families
stand in the order of their names and the series of a family in the order of the values of their
labels; a family without a series is left out. The durations are a histogram whose buckets count
all durations up to their bound.
-/

import GatewayOperator.Decimal.Text
import GatewayOperator.Metrics.Series

namespace GatewayOperator

/-! ### Families -/

/-- What all names of families begin with. -/
def metricsNamespace : String := "apps_3scale_net_"

namespace CounterFamily

/-- The name of a family. -/
def name : CounterFamily → String
  | errors => metricsNamespace ++ "errors_total"
  | reconciliations => metricsNamespace ++ "reconciliations_total"
  | requeues => metricsNamespace ++ "requeues_total"
  | resourcesCreated => metricsNamespace ++ "resources_created_total"
  | resourcesUpdated => metricsNamespace ++ "resources_updated_total"
  | statusUpdates => metricsNamespace ++ "status_updates_total"

/-- The description of a family. -/
def help : CounterFamily → String
  | errors => "Total number of errors by resource type and error category"
  | reconciliations => "Total number of reconciliations by resource type and status"
  | requeues => "Total number of requeue operations by resource type and reason"
  | resourcesCreated => "Total number of resources created by type"
  | resourcesUpdated => "Total number of resources updated by type"
  | statusUpdates => "Total number of status updates by resource type and Ready value"

end CounterFamily

/-- The name of the family of durations. -/
def durationName : String := metricsNamespace ++ "reconciliation_duration_seconds"

/-- The description of the family of durations. -/
def durationHelp : String := "Duration of reconciliations in seconds by resource type"

/-- The bounds of the buckets in seconds. -/
def durationBounds : List Float := [0.001, 0.01, 0.1, 0.5, 1.0, 2.0, 5.0, 10.0, 30.0, 60.0]

/-! ### Lines -/

/-- A character inside the value of a label. -/
def escapeLabel (character : Char) : List Char :=
  match character with
  | '\\' => ['\\', '\\']
  | '"' => ['\\', '"']
  | '\n' => ['\\', 'n']
  | character => [character]

/-- A label with its value. -/
def labelText (label : String × String) : String :=
  label.1 ++ "=\"" ++ String.ofList (label.2.toList.flatMap escapeLabel) ++ "\""

/-- A line with the value of a sample. -/
def sampleLine (name : String) (labels : List (String × String)) (value : String) : String :=
  name ++ "\x7b" ++ ",".intercalate (labels.map labelText) ++ "\x7d " ++ value

/-- The lines that introduce a family. -/
def headLines (name help kind : String) : List String :=
  ["# HELP " ++ name ++ " " ++ help, "# TYPE " ++ name ++ " " ++ kind]

/-- A number as a sample shows it. -/
def sampleNumber (value : Float) : String := String.ofList (Decimal.writePlain value)

/-- A duration in seconds. -/
def seconds (duration : Nat) : Float :=
  (UInt64.ofNat (duration / 1000000000)).toFloat +
    (UInt64.ofNat (duration % 1000000000)).toFloat / 1000000000.0

/-! ### Order -/

/-- Whether a list of texts comes before another one, the first difference deciding. -/
def textsBefore : List String → List String → Bool
  | [], second => !second.isEmpty
  | _ :: _, [] => false
  | first :: rest, first' :: rest' =>
    if first < first' then true else if first = first' then textsBefore rest rest' else false

/-- Puts a series at its place. -/
def placeSeries (series : Series) : List Series → List Series
  | [] => [series]
  | first :: rest =>
    if textsBefore (series.labels.map (·.2)) (first.labels.map (·.2)) then series :: first :: rest
    else first :: placeSeries series rest

/-- Adds a series, unless it is kept as one with a series that is there. The labels of the first
of them are shown. -/
def insertSeries (series : Series) (present : List Series) : List Series :=
  if present.any series.isSame then present else placeSeries series present

/-- The series of a family that were added to, in order. -/
def familySeries (family : CounterFamily) (observations : List Observation) : List Series :=
  ((observations.flatMap Observation.series).filter (·.family = family)).foldl
    (fun present series => insertSeries series present) []

/-- Puts a name at its place, unless it is there. -/
def insertName (name : String) : List String → List String
  | [] => [name]
  | first :: rest =>
    if name = first then first :: rest
    else if name < first then name :: first :: rest
    else first :: insertName name rest

/-- The kinds of resources whose passes were timed, in order. -/
def timedResources (observations : List Observation) : List String :=
  (observations.filterMap Observation.timing?).foldl
    (fun present timing => insertName timing.1 present) []

/-! ### The text -/

/-- The lines of a family of counters. -/
def counterLines (family : CounterFamily) (observations : List Observation) : List String :=
  match familySeries family observations with
  | [] => []
  | series =>
    headLines family.name family.help "counter" ++ series.map fun series =>
      sampleLine family.name series.labels (Decimal.integerText (series.value observations))

/-- The lines of the durations of a kind of resource. -/
def histogramLines (resource : String) (observations : List Observation) : List String :=
  let values := (durations resource observations).map seconds
  let label := ("resource_type", resource)
  let bucket (bound : String) (count : Nat) : String :=
    sampleLine (durationName ++ "_bucket") [label, ("le", bound)] (Decimal.integerText count)
  durationBounds.map (fun bound =>
      bucket (sampleNumber bound) (values.countP fun value => value ≤ bound)) ++
    [bucket "+Inf" values.length,
      sampleLine (durationName ++ "_sum") [label] (sampleNumber (values.foldl (· + ·) 0.0)),
      sampleLine (durationName ++ "_count") [label] (Decimal.integerText values.length)]

/-- The lines of the family of durations. -/
def durationLines (observations : List Observation) : List String :=
  match timedResources observations with
  | [] => []
  | resources =>
    headLines durationName durationHelp "histogram" ++
      resources.flatMap fun resource => histogramLines resource observations

/-- The lines of all families. -/
def expositionLines (observations : List Observation) : List String :=
  counterLines .errors observations ++ durationLines observations ++
    counterLines .reconciliations observations ++ counterLines .requeues observations ++
    counterLines .resourcesCreated observations ++ counterLines .resourcesUpdated observations ++
    counterLines .statusUpdates observations

/-- The text of the figures; every line ends with a line break. -/
def exposition (observations : List Observation) : String :=
  String.join ((expositionLines observations).map (· ++ "\n"))

end GatewayOperator
