/-
This file says what the field tables leave alone. Everything outside the managed fields of an object
is the same before and after, whatever the object looked like; what is absent on the way to a
managed field becomes empty, and a pod without containers gets the wanted one. Of the managed
fields, the variables of other names keep their places among the variables, and the rules that are
there stay in front of those that are added.
-/

import GatewayOperator.Proofs.Fields.Reports

namespace GatewayOperator

/-! ### Merges -/

/-- What holds between a value and what each entry makes of it holds between a value and what all of
them make of it. -/
theorem mergeAll_relates {Entry Value : Type} {Relates : Value → Value → Prop}
    (merge : Entry → Value → Merged Value) (refl : ∀ value, Relates value value)
    (trans : ∀ {first second third}, Relates first second → Relates second third →
      Relates first third)
    {entries : List Entry}
    (step : ∀ entry ∈ entries, ∀ value, Relates value (merge entry value).value)
    (existing : Value) : Relates existing (mergeAll merge existing entries).value := by
  rw [mergeAll_value]
  induction entries generalizing existing with
  | nil => exact refl existing
  | cons entry entries inductionHypothesis =>
    rw [List.forall_mem_cons] at step
    exact trans (step.1 existing) (inductionHypothesis step.2 _)

/-- The names of the variables after a merge start with those that were there. -/
theorem names_prefix_mergeVariable (wanted : EnvVar) (entries : List EnvVar) :
    entries.map (·.name) <+: (mergeVariable wanted entries).value.map (·.name) := by
  rw [names_mergeVariable]
  split
  · exact List.prefix_refl _
  · exact List.prefix_append _ _

/-- Merging a variable leaves the variables of other names. -/
theorem filter_mergeVariable_other {wanted : EnvVar} {others : EnvVar → Bool}
    (byName : ∀ entry, entry.name = wanted.name → others entry = false) (entries : List EnvVar) :
    (mergeVariable wanted entries).value.filter others = entries.filter others := by
  induction entries with
  | nil => exact List.filter_cons_of_neg (by rw [byName wanted rfl]; exact Bool.false_ne_true)
  | cons current rest inductionHypothesis =>
    unfold mergeVariable
    by_cases here : current.name = wanted.name
    · rw [if_pos here]
      split
      · rfl
      · have changed : ∀ entry : EnvVar, entry.name = current.name → ¬others entry = true :=
          fun entry same => by
            rw [byName entry (same.trans here)]
            exact Bool.false_ne_true
        rw [List.filter_cons_of_neg (changed current rfl)]
        exact List.filter_cons_of_neg (changed _ rfl)
    · rw [if_neg here, Merged.map_value, List.filter_cons, List.filter_cons, inductionHypothesis]

/-- Variables before and after a merge: those of other names are the same, and new variables stand
behind the others. -/
structure VariablesKept (wanted before after : List EnvVar) : Prop where
  others : after.filter (fun entry => entry.name ∉ wanted.map (·.name)) =
    before.filter (fun entry => entry.name ∉ wanted.map (·.name))
  order : before.map (·.name) <+: after.map (·.name)

theorem VariablesKept.refl (wanted entries : List EnvVar) :
    VariablesKept wanted entries entries where
  others := rfl
  order := List.prefix_refl _

theorem variablesKept_mergeVariables (existing wanted : List EnvVar) :
    VariablesKept wanted existing (mergeVariables existing wanted).value := by
  refine mergeAll_relates mergeVariable (VariablesKept.refl wanted)
    (fun first second => ⟨second.others.trans first.others, first.order.trans second.order⟩)
    (fun entry member value => ⟨?_, names_prefix_mergeVariable entry value⟩) existing
  refine filter_mergeVariable_other (fun other same => decide_eq_false ?_) value
  rw [not_not, same]
  exact List.mem_map_of_mem member

theorem variablesKept_mergeEnvironment (existing desired : Option (List EnvVar)) :
    VariablesKept (desired.getD []) (existing.getD [])
      ((mergeEnvironment existing desired).value.getD []) := by
  unfold mergeEnvironment
  split
  · exact VariablesKept.refl _ _
  · exact VariablesKept.refl _ _
  · exact variablesKept_mergeVariables _ _

/-- The rules that were there stay in front of those that are added. -/
theorem prefix_appendRule (rules : List IngressRule) (rule : IngressRule) :
    rules <+: (appendRule rules rule).value := by
  unfold appendRule
  split
  · exact List.prefix_refl _
  · exact List.prefix_append _ _

theorem prefix_appendMissingRules (existing desired : Option (List IngressRule)) :
    existing.getD [] <+: (appendMissingRules existing desired).value.getD [] := by
  unfold appendMissingRules
  split
  · exact List.prefix_refl _
  · exact List.prefix_refl _
  · exact mergeAll_relates (fun rule rules => appendRule rules rule) List.prefix_refl
      List.IsPrefix.trans (fun rule _ rules => prefix_appendRule rules rule) _

/-! ### What is left alone -/

/-- A container before and after what is wanted was merged into it. -/
structure Container.UnmanagedKept (wanted before after : Container) : Prop where
  rest : after =
    { before with image := after.image, env := after.env, volumeMounts := after.volumeMounts }
  environment : VariablesKept (wanted.env.getD []) (before.env.getD []) (after.env.getD [])

/-- The containers of a pod before and after what is wanted of the first one was merged in. -/
inductive ContainersKept : Option Container → List Container → List Container → Prop where
  /-- No container is wanted. -/
  | unwanted (containers : List Container) : ContainersKept none containers containers
  /-- The containers behind the first one stay. -/
  | merged {wanted before after : Container} (kept : Container.UnmanagedKept wanted before after)
      (others : List Container) :
    ContainersKept (some wanted) (before :: others) (after :: others)
  /-- There was no container, and the wanted one is there. Its variables, which are managed, are
  merged into themselves, which changes them only when two of them have one name. -/
  | received {wanted after : Container}
      (same : after = { wanted with env := (mergeEnvironment wanted.env wanted.env).value })
      (whole : ((wanted.env.getD []).map (·.name)).Nodup → after = wanted) :
    ContainersKept (some wanted) [] [after]

/-- A Deployment before and after its table was run. -/
structure Deployment.UnmanagedKept (policy : ReplicaPolicy) (desired before after : Deployment) :
    Prop where
  metadata : after.metadata = before.metadata
  status : after.status = before.status
  spec : after.spec = some
    { before.specOrEmpty with
      replicas := after.specOrEmpty.replicas, template := after.specOrEmpty.template }
  replicas : policy = .preserve → after.specOrEmpty.replicas = before.specOrEmpty.replicas
  templateMetadata : after.specOrEmpty.template.metadata = some
    { before.templateMetadataOrEmpty with
      annotations := after.templateMetadataOrEmpty.annotations }
  pod : after.specOrEmpty.template.spec = some
    { before.podOrEmpty with
      serviceAccountName := after.podOrEmpty.serviceAccountName
      volumes := after.podOrEmpty.volumes
      containers := after.podOrEmpty.containers }
  containers : ContainersKept desired.firstContainer? before.podOrEmpty.containers
    after.podOrEmpty.containers

/-- An Ingress before and after its table was run. -/
structure Ingress.UnmanagedKept (before after : Ingress) : Prop where
  metadata : after.metadata = before.metadata
  status : after.status = before.status
  spec : after.spec = some
    { before.specOrEmpty with rules := after.specOrEmpty.rules, tls := after.specOrEmpty.tls }
  rules : before.specOrEmpty.rules.getD [] <+: after.specOrEmpty.rules.getD []

/-- An object before and after the table of its kind was run. -/
def Kind.UnmanagedKept (policy : ReplicaPolicy) :
    (kind : Kind) → (desired before after : kind.Object) → Prop
  | .deployment => Deployment.UnmanagedKept policy
  | .ingress => fun _ before after => Ingress.UnmanagedKept before after
  | _ => fun _ before after => after = before

/-! ### What the tables leave alone -/

namespace Deployment

theorem unmanagedKept_mergedContainer (current wanted : Container) :
    Container.UnmanagedKept wanted current (mergedContainer current wanted) where
  rest := rfl
  environment := variablesKept_mergeEnvironment _ _

theorem containersKept_mergedContainers (containers : List Container) (wanted? : Option Container) :
    ContainersKept wanted? containers (mergedContainers containers wanted?) := by
  cases wanted? with
  | none => exact .unwanted containers
  | some wanted =>
    cases containers with
    | cons current others => exact .merged (unmanagedKept_mergedContainer current wanted) others
    -- The wanted container is added for its image, and then merged into itself.
    | nil =>
      refine .received ?_ fun distinct => ?_
      · show mergedContainer wanted wanted = _
        unfold mergedContainer
        rw [replaceCollection_value_of_same (sameCollection_self _)]
      · exact mergedContainer_of_settled
          ⟨rfl, fun _ => provides_self distinct, List.Perm.refl _⟩

theorem unmanagedKept_merged (policy : ReplicaPolicy) (existing desired : Deployment) :
    UnmanagedKept policy desired existing (merged policy existing desired) where
  metadata := rfl
  status := rfl
  spec := rfl
  replicas := by
    rintro rfl
    rfl
  templateMetadata := rfl
  pod := rfl
  containers := containersKept_mergedContainers _ _

end Deployment

/-- Everything outside the managed fields of an object is the same after its table was run. -/
theorem Kind.unmanagedKept_reconcileFields (policy : ReplicaPolicy) (kind : Kind)
    (existing desired : kind.Object) :
    kind.UnmanagedKept policy desired existing
      (reconcileFields desired (kind.rules policy) existing).object := by
  cases kind with
  | deployment =>
    show Deployment.UnmanagedKept policy desired existing
      (reconcileFields desired (Deployment.rules policy) existing).object
    rw [Deployment.reconcileFields_object]
    exact Deployment.unmanagedKept_merged policy existing desired
  | ingress => exact ⟨rfl, rfl, rfl, prefix_appendMissingRules _ _⟩
  | _ => rfl

end GatewayOperator
