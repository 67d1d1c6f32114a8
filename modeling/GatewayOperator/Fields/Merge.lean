/-
This file brings single values to a desired value: a scalar is replaced, a collection is replaced
unless it has the same members, environment variables are merged by name, and routes are added
for hosts that have none. An absent collection and an empty one count as the same throughout,
because the cluster drops empty collections when it stores an object. Every operation reports
whether it changed anything.
-/

import GatewayOperator.Cluster.Pod
import GatewayOperator.Cluster.Ingress

namespace GatewayOperator

/-- A value after a merge, and whether the merge changed it. -/
structure Merged (Value : Type) where
  value : Value
  changed : Bool
  deriving DecidableEq

namespace Merged

variable {Value Result : Type}

/-- A value that stays as it is. -/
def unchanged (value : Value) : Merged Value := ⟨value, false⟩

/-- The result of a merge inside a larger value. -/
def map (wrap : Value → Result) (merged : Merged Value) : Merged Result :=
  ⟨wrap merged.value, merged.changed⟩

@[simp] theorem map_value (wrap : Value → Result) (merged : Merged Value) :
    (merged.map wrap).value = wrap merged.value := rfl

@[simp] theorem map_changed (wrap : Value → Result) (merged : Merged Value) :
    (merged.map wrap).changed = merged.changed := rfl

end Merged

/-! ### Scalars -/

/-- Replaces a value that differs from the desired one. -/
def replaceScalar {Value : Type} [DecidableEq Value] (existing desired : Value) : Merged Value :=
  if existing = desired then .unchanged existing else ⟨desired, true⟩

theorem replaceScalar_value {Value : Type} [DecidableEq Value] (existing desired : Value) :
    (replaceScalar existing desired).value = desired := by
  unfold replaceScalar
  split
  · next equal => exact equal
  · rfl

theorem replaceScalar_changed {Value : Type} [DecidableEq Value] (existing desired : Value) :
    (replaceScalar existing desired).changed = decide (existing ≠ desired) := by
  unfold replaceScalar
  split
  · next equal => simp [Merged.unchanged, equal]
  · next different => simp [different]

/-! ### Collections -/

/-- Collections that can be told to be empty and compared by their members. -/
class Collection (Items : Type) where
  isEmpty : Items → Bool
  sameMembers : Items → Items → Bool

/-- Two lists have the same members when they are equally long and every member of the first
stands equally often in both. -/
instance {Item : Type} [DecidableEq Item] : Collection (List Item) where
  isEmpty := List.isEmpty
  sameMembers first second :=
    first.length == second.length &&
      first.all fun item => first.count item == second.count item

/-- Two maps have the same members when they are equal. -/
instance {Value : Type} [DecidableEq Value] : Collection (Map Value) where
  isEmpty := Map.isEmpty
  sameMembers first second := first == second

/-- Whether a collection is absent or empty. -/
def isVacant {Items : Type} [Collection Items] : Option Items → Bool
  | none => true
  | some items => Collection.isEmpty items

/-- Whether two collections have the same members, an absent one having none. -/
def sameCollection {Items : Type} [Collection Items] : Option Items → Option Items → Bool
  | some existing, some desired => Collection.sameMembers existing desired
  | existing, desired => isVacant existing && isVacant desired

/-- Replaces a collection as a whole unless it has the same members. -/
def replaceCollection {Items : Type} [Collection Items] (existing desired : Option Items) :
    Merged (Option Items) :=
  if sameCollection existing desired then .unchanged existing else ⟨desired, true⟩

/-! ### Environment variables -/

/-- Brings the first variable of a name to the desired value and source; a variable that is
missing goes to the end. -/
def mergeVariable (wanted : EnvVar) : List EnvVar → Merged (List EnvVar)
  | [] => ⟨[wanted], true⟩
  | current :: rest =>
    if current.name = wanted.name then
      if current.value = wanted.value ∧ current.valueFrom = wanted.valueFrom then
        .unchanged (current :: rest)
      else
        ⟨{ current with value := wanted.value, valueFrom := wanted.valueFrom } :: rest, true⟩
    else (mergeVariable wanted rest).map (current :: ·)

/-- Merges the wanted variables one after the other. -/
def mergeVariables (existing wanted : List EnvVar) : Merged (List EnvVar) :=
  wanted.foldl
    (fun merged entry =>
      let next := mergeVariable entry merged.value
      ⟨next.value, merged.changed || next.changed⟩)
    (.unchanged existing)

/-- Merges environment variables by name. Variables that are not wanted are kept. -/
def mergeEnvironment (existing desired : Option (List EnvVar)) : Merged (Option (List EnvVar)) :=
  match desired with
  | none | some [] => .unchanged existing
  | some wanted => (mergeVariables (existing.getD []) wanted).map some

/-! ### Routes -/

/-- Adds a rule unless its host has one. -/
def appendRule (rules : List IngressRule) (rule : IngressRule) : Merged (List IngressRule) :=
  if rules.any fun present => present.host = rule.host then .unchanged rules
  else ⟨rules ++ [rule], true⟩

/-- Adds the wanted rules one after the other. -/
def appendRules (existing wanted : List IngressRule) : Merged (List IngressRule) :=
  wanted.foldl
    (fun merged rule =>
      let next := appendRule merged.value rule
      ⟨next.value, merged.changed || next.changed⟩)
    (.unchanged existing)

/-- Adds the desired rules whose host has no rule yet. Present rules are left alone. -/
def appendMissingRules (existing desired : Option (List IngressRule)) :
    Merged (Option (List IngressRule)) :=
  match desired with
  | none | some [] => .unchanged existing
  | some wanted => (appendRules (existing.getD []) wanted).map some

end GatewayOperator
