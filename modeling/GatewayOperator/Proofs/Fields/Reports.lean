/-
This file says what the field tables report. The report of a table decides whether an object is
written, so it is compared with what a reader sees of the object before and after: a field is
reported exactly when its managed value differs, where an absent collection counts as an empty one
and volumes, mounts and certificates count up to their order. There is one exception, because a
Deployment without containers gets the wanted container as a whole and then reports its image alone.
A table that reports nothing leaves the object as it was, except that it fills in what is absent on
the way to the managed fields; and on its own result it reports nothing and changes nothing.
-/

import GatewayOperator.Proofs.Fields.Children

namespace GatewayOperator

/-! ### Merges -/

section Merges

variable {Item Value : Type} [DecidableEq Item] [DecidableEq Value]

/-- A scalar is reported exactly when it differs from what it becomes. -/
theorem replaceScalar_reports (existing desired : Value) :
    (replaceScalar existing desired).changed =
      !decide (existing = (replaceScalar existing desired).value) := by
  rw [replaceScalar_changed, replaceScalar_value, decide_not]

/-- A collection is reported exactly when its members differ from those of what it becomes. -/
theorem replaceCollection_reports {Items : Type} [Collection Items] [LawfulCollection Items]
    (existing desired : Option Items) :
    (replaceCollection existing desired).changed =
      !sameCollection existing (replaceCollection existing desired).value := by
  rw [replaceCollection_changed]
  cases same : sameCollection existing desired with
  | true => rw [replaceCollection_value_of_same same, sameCollection_self]
  | false => rw [replaceCollection_value_of_differs same, same]

theorem sameCollection_eq_decide_perm (first second : Option (List Item)) :
    sameCollection first second = decide ((first.getD []).Perm (second.getD [])) := by
  rw [Bool.eq_iff_iff, sameCollection_iff_perm, decide_eq_true_iff]

theorem sameCollection_eq_decide_eq (first second : Option (Map Value)) :
    sameCollection first second =
      decide (first.getD Map.empty = second.getD Map.empty) := by
  rw [Bool.eq_iff_iff, sameCollection_iff_eq, decide_eq_true_iff]

end Merges

/-- A merge that leaves a list alone when it reports no change, and that reports none when the list
is what it becomes, reports exactly whether the list differs. -/
theorem Merged.reports_list {Item : Type} [DecidableEq Item] {existing : Option (List Item)}
    {merged : Merged (Option (List Item))}
    (keeps : merged.changed = false → merged.value = existing)
    (settled : existing.getD [] = merged.value.getD [] → merged.changed = false) :
    merged.changed = !decide (existing.getD [] = merged.value.getD []) := by
  cases changed : merged.changed with
  | false => rw [keeps changed, decide_eq_true rfl, Bool.not_true]
  | true =>
    have differs : ¬existing.getD [] = merged.value.getD [] := fun same => by
      rw [settled same] at changed
      cases changed
    rw [decide_eq_false differs, Bool.not_false]

/-- An environment is reported exactly when it differs from what it becomes, when the wanted
variables have different names. Of two of one name the second would overwrite the first in every
run. -/
theorem mergeEnvironment_reports {desired : Option (List EnvVar)}
    (distinct : ((desired.getD []).map (·.name)).Nodup) (existing : Option (List EnvVar)) :
    (mergeEnvironment existing desired).changed =
      !decide (existing.getD [] = (mergeEnvironment existing desired).value.getD []) := by
  refine Merged.reports_list mergeEnvironment_value_of_unchanged fun same => ?_
  rw [mergeEnvironment_changed_eq_false_iff, same]
  exact fun entry => provides_mergeEnvironment distinct existing

/-- Routes are reported exactly when they differ from what they become. -/
theorem appendMissingRules_reports (existing desired : Option (List IngressRule)) :
    (appendMissingRules existing desired).changed =
      !decide (existing.getD [] = (appendMissingRules existing desired).value.getD []) := by
  refine Merged.reports_list appendMissingRules_value_of_unchanged fun same => ?_
  rw [appendMissingRules_changed_eq_false_iff, same]
  exact fun rule => hasRoute_appendMissingRules existing desired

/-! ### What is seen of a managed field -/

/-- A managed field as it is seen on an object: when two objects have the same value of it. -/
structure FieldView (Object : Type) where
  field : String
  /-- The field belongs to the first container. -/
  ofContainer : Bool := false
  same : Object → Object → Bool

namespace FieldView

variable {Object Value Item : Type}

/-- Whether a field differs between an object before and after a merge. A container that was
received as a whole counts as its image. -/
def differs (view : FieldView Object) (received : Bool) (before after : Object) : Bool :=
  if view.ofContainer && received then view.field == Deployment.imageRule.field
  else !view.same before after

/-- A field whose values are compared as they are. -/
def plain [DecidableEq Value] (field : String) (value : Object → Value)
    (ofContainer : Bool := false) : FieldView Object where
  field := field
  ofContainer := ofContainer
  same before after := value before = value after

/-- A field whose values are compared up to the order of their members. -/
def unordered [DecidableEq Item] (field : String) (items : Object → List Item)
    (ofContainer : Bool := false) : FieldView Object where
  field := field
  ofContainer := ofContainer
  same before after := (items before).Perm (items after)

end FieldView

namespace Deployment

/-- The fields that are managed under either policy, as they are seen. -/
def commonViews : List (FieldView Deployment) :=
  [.plain imageRule.field (fun deployment => deployment.firstContainer?.bind (·.image)) true,
    .plain serviceAccountRule.field fun deployment =>
      deployment.pod?.bind (·.serviceAccountName),
    .plain environmentRule.field
      (fun deployment => (deployment.firstContainer?.bind (·.env)).getD []) true,
    .plain annotationsRule.field fun deployment =>
      deployment.templateAnnotations?.getD Map.empty,
    .unordered volumesRule.field fun deployment =>
      (deployment.pod?.bind (·.volumes)).getD [],
    .unordered volumeMountsRule.field
      (fun deployment => (deployment.firstContainer?.bind (·.volumeMounts)).getD []) true]

/-- The managed fields of a Deployment as they are seen. -/
def views : ReplicaPolicy → List (FieldView Deployment)
  | .enforce =>
    .plain replicasRule.field (fun deployment => deployment.spec.bind (·.replicas)) :: commonViews
  | .preserve => commonViews

/-- A Deployment without containers gets the wanted one as a whole. -/
def receivesContainer (existing desired : Deployment) : Bool :=
  existing.firstContainer?.isNone && desired.firstContainer?.isSome

/-- What is absent on the way to the managed fields is there and empty. -/
def filledIn (deployment : Deployment) : Deployment :=
  { deployment with
    spec := some
      { deployment.specOrEmpty with
        template :=
          { metadata := some deployment.templateMetadataOrEmpty
            spec := some deployment.podOrEmpty } } }

end Deployment

namespace Ingress

/-- The managed fields of an Ingress as they are seen. -/
def views : List (FieldView Ingress) :=
  [.plain routesRule.field fun ingress => (ingress.spec.bind (·.rules)).getD [],
    .unordered certificatesRule.field fun ingress => (ingress.spec.bind (·.tls)).getD []]

/-- What is absent on the way to the managed fields is there and empty. -/
def filledIn (ingress : Ingress) : Ingress := { ingress with spec := some ingress.specOrEmpty }

end Ingress

namespace Kind

/-- The managed fields of a kind of objects as they are seen. -/
def views (policy : ReplicaPolicy) : (kind : Kind) → List (FieldView kind.Object)
  | .deployment => Deployment.views policy
  | .ingress => Ingress.views
  | _ => []

/-- An object gets a wanted container as a whole. -/
def receivesContainer : (kind : Kind) → kind.Object → kind.Object → Bool
  | .deployment, existing, desired => Deployment.receivesContainer existing desired
  | _, _, _ => false

/-- What is absent on the way to the managed fields is there and empty. -/
def filledIn : (kind : Kind) → kind.Object → kind.Object
  | .deployment, object => Deployment.filledIn object
  | .ingress, object => Ingress.filledIn object
  | .gateway, object | .service, object | .secret, object | .configMap, object
  | .coreEvent, object | .event, object => object

/-- The fields that differ between an object before and after what is desired was merged into
it. -/
def differing (kind : Kind) (policy : ReplicaPolicy) (existing desired after : kind.Object) :
    List String :=
  ((kind.views policy).filter
    (·.differs (kind.receivesContainer existing desired) existing after)).map (·.field)

end Kind

/-! ### What the tables report -/

/-- A table whose rules report what is seen to differ reports these fields. -/
theorem reconcileFields_changed_of_views {Object : Type} {desired existing : Object}
    {rules : List (FieldRule Object)} {views : List (FieldView Object)}
    {differs : FieldView Object → Bool}
    (reports : mergeReports desired rules existing =
      views.map fun view => (view.field, differs view)) :
    (reconcileFields desired rules existing).changed = (views.filter differs).map (·.field) := by
  rw [reconcileFields_changed, reports, List.filter_map, List.map_map]
  rfl

namespace Deployment

variable {policy : ReplicaPolicy} {existing desired : Deployment}

theorem receivesContainer_eq (existing desired : Deployment) :
    existing.receivesContainer desired =
      (desired.firstContainer?.isSome && existing.podOrEmpty.containers.isEmpty) := by
  unfold receivesContainer
  rw [firstContainer?_eq existing, Bool.and_comm]
  cases existing.podOrEmpty.containers <;> rfl

/-- What is reported of the first container is what is seen to differ in it. Of a container that is
received as a whole nothing is reported, because it is merged into itself. -/
theorem containerDiffers_eq_ite (policy : ReplicaPolicy) {differs : Container → Container → Bool}
    (same : Option Container → Option Container → Bool)
    (self : ∀ container, same container container = true)
    (received : ∀ wanted, desired.firstContainer? = some wanted → differs wanted wanted = false)
    (merges : ∀ current wanted, desired.firstContainer? = some wanted →
      differs current wanted = !same (some current) (some (mergedContainer current wanted))) :
    containerDiffers existing desired differs =
      if existing.receivesContainer desired then false
      else !same existing.firstContainer? (merged policy existing desired).firstContainer? := by
  have after : (merged policy existing desired).firstContainer? =
    (mergedContainers existing.podOrEmpty.containers desired.firstContainer?).head? := rfl
  rw [receivesContainer_eq, after, firstContainer?_eq existing]
  unfold containerDiffers
  cases isWanted : desired.firstContainer? with
  | none => exact (congrArg (!·) (self _)).symm
  | some wanted =>
    cases existing.podOrEmpty.containers with
    -- The wanted container is there already when its other fields are merged.
    | nil => exact received wanted isWanted
    | cons current others => exact merges current wanted isWanted

/-- The image is reported when a container is received and when the image is seen to differ. -/
theorem image_reports (policy : ReplicaPolicy) (existing desired : Deployment) :
    (desired.firstContainer?.isSome && existing.podOrEmpty.containers.isEmpty ||
      containerDiffers existing desired fun current wanted =>
        (replaceScalar current.image wanted.image).changed) =
      if existing.receivesContainer desired then true
      else !decide (existing.firstContainer?.bind (·.image) =
        (merged policy existing desired).firstContainer?.bind (·.image)) := by
  rw [← receivesContainer_eq, containerDiffers_eq_ite policy
    (fun first second => decide (first.bind (·.image) = second.bind (·.image)))
    (fun _ => decide_eq_true rfl)]
  · cases existing.receivesContainer desired <;> rfl
  · intro wanted _
    rw [replaceScalar_changed, decide_not, decide_eq_true rfl]
    rfl
  · intro current wanted _
    rw [replaceScalar_reports, replaceScalar_value]
    rfl

/-- The environment is reported when it is seen to differ. -/
theorem environment_reports (distinct : desired.variableNames.Nodup) (policy : ReplicaPolicy)
    (existing : Deployment) :
    (containerDiffers existing desired fun current wanted =>
        (mergeEnvironment current.env wanted.env).changed) =
      if existing.receivesContainer desired then false
      else !decide ((existing.firstContainer?.bind (·.env)).getD [] =
        ((merged policy existing desired).firstContainer?.bind (·.env)).getD []) := by
  refine containerDiffers_eq_ite policy
    (fun first second => decide ((first.bind (·.env)).getD [] = (second.bind (·.env)).getD []))
    (fun _ => decide_eq_true rfl) (fun wanted isWanted => ?_) fun current wanted isWanted => ?_
  · exact (mergeEnvironment_changed_eq_false_iff _ _).mpr fun _ =>
      provides_self (nodup_of_variableNames distinct isWanted)
  · exact mergeEnvironment_reports (nodup_of_variableNames distinct isWanted) current.env

/-- The mounts are reported when they are seen to differ. -/
theorem volumeMounts_reports (policy : ReplicaPolicy) (existing desired : Deployment) :
    (containerDiffers existing desired fun current wanted =>
        (replaceCollection current.volumeMounts wanted.volumeMounts).changed) =
      if existing.receivesContainer desired then false
      else !decide (((existing.firstContainer?.bind (·.volumeMounts)).getD []).Perm
        (((merged policy existing desired).firstContainer?.bind (·.volumeMounts)).getD [])) := by
  refine containerDiffers_eq_ite policy
    (fun first second => decide (((first.bind (·.volumeMounts)).getD []).Perm
      ((second.bind (·.volumeMounts)).getD [])))
    (fun _ => decide_eq_true (List.Perm.refl _)) (fun wanted _ => ?_) fun current wanted _ => ?_
  · rw [replaceCollection_changed, sameCollection_self]
    rfl
  · rw [replaceCollection_reports, sameCollection_eq_decide_perm]
    rfl

/-- Every rule reports whether its field is seen to differ. -/
theorem mergeReports_eq_views
    (distinct : desired.variableNames.Nodup) (policy : ReplicaPolicy) (existing : Deployment) :
    mergeReports desired (rules policy) existing = (views policy).map fun view =>
      (view.field, view.differs (existing.receivesContainer desired) existing
        (merged policy existing desired)) := by
  have replicas : (replaceScalar existing.specOrEmpty.replicas
      (desired.spec.bind (·.replicas))).changed =
        !decide (existing.spec.bind (·.replicas) =
          (merged .enforce existing desired).spec.bind (·.replicas)) := by
    rw [replaceScalar_reports, replaceScalar_value, bind_spec existing _ rfl]
    rfl
  have serviceAccount : (replaceScalar existing.podOrEmpty.serviceAccountName
      (desired.pod?.bind (·.serviceAccountName))).changed =
        !decide (existing.pod?.bind (·.serviceAccountName) =
          (merged policy existing desired).pod?.bind (·.serviceAccountName)) := by
    rw [replaceScalar_reports, replaceScalar_value, bind_pod? existing _ rfl]
    rfl
  have annotations : (replaceCollection existing.templateMetadataOrEmpty.annotations
      desired.templateAnnotations?).changed =
        !decide (existing.templateAnnotations?.getD Map.empty =
          (merged policy existing desired).templateAnnotations?.getD Map.empty) := by
    rw [replaceCollection_reports, sameCollection_eq_decide_eq, templateAnnotations?_eq existing]
    rfl
  have volumes : (replaceCollection existing.podOrEmpty.volumes
      (desired.pod?.bind (·.volumes))).changed =
        !decide (((existing.pod?.bind (·.volumes)).getD []).Perm
          (((merged policy existing desired).pod?.bind (·.volumes)).getD [])) := by
    rw [replaceCollection_reports, sameCollection_eq_decide_perm, bind_pod? existing _ rfl]
    rfl
  rw [mergeReports_rules]
  unfold differences
  rw [image_reports policy, serviceAccount, environment_reports distinct policy, annotations,
    volumes, volumeMounts_reports policy]
  cases policy with
  | enforce =>
    rw [replicas]
    rfl
  | preserve => rfl

/-- A container that is as wanted is left as it is. -/
theorem mergedContainer_of_settled {wanted current : Container}
    (settled : ContainerSettled wanted current) : mergedContainer current wanted = current := by
  obtain ⟨image, environment, volumeMounts⟩ := (containerSettled_iff wanted current).mp settled
  rw [replaceCollection_changed, Bool.not_eq_false'] at volumeMounts
  unfold mergedContainer
  rw [mergeEnvironment_value_of_unchanged environment, ← settled.image,
    replaceCollection_value_of_same volumeMounts]

theorem mergedContainers_of_settled (settled : Settled policy desired existing) :
    mergedContainers existing.podOrEmpty.containers desired.firstContainer? =
      existing.podOrEmpty.containers := by
  cases isWanted : desired.firstContainer? with
  | none => rfl
  | some wanted =>
    obtain ⟨current, isFirst, settled⟩ := settled.container wanted isWanted
    rw [firstContainer?_eq, List.head?_eq_some_iff] at isFirst
    obtain ⟨others, containers⟩ := isFirst
    rw [containers]
    show mergedContainer current wanted :: others = _
    rw [mergedContainer_of_settled settled]

/-- A Deployment that is as desired is left as it is, up to what is filled in. -/
theorem merged_of_settled (settled : Settled policy desired existing) :
    merged policy existing desired = filledIn existing := by
  have replicas : mergedReplicas policy existing desired = existing.specOrEmpty.replicas := by
    cases policy with
    | enforce => exact (settled.replicas rfl).symm.trans (bind_spec existing _ rfl)
    | preserve => rfl
  have templateMetadata :
      mergedTemplateMetadata existing desired = existing.templateMetadataOrEmpty := by
    have annotations := (sameCollection_iff_eq _ _).mpr settled.annotations
    rw [templateAnnotations?_eq existing] at annotations
    unfold mergedTemplateMetadata
    rw [replaceCollection_value_of_same annotations]
  have pod : mergedPod existing desired = existing.podOrEmpty := by
    have volumes := (sameCollection_iff_perm _ _).mpr settled.volumes
    rw [bind_pod? existing _ rfl] at volumes
    unfold mergedPod
    rw [replaceCollection_value_of_same volumes, mergedContainers_of_settled settled,
      ← settled.serviceAccount, bind_pod? existing _ rfl]
  unfold merged filledIn
  rw [replicas, templateMetadata, pod]

end Deployment

namespace Ingress

variable {existing desired : Ingress}

/-- Every rule reports whether its field is seen to differ. -/
theorem mergeReports_eq_views (existing desired : Ingress) :
    mergeReports desired rules existing = views.map fun view =>
      (view.field, view.differs false existing (merged existing desired)) := by
  have routes : (appendMissingRules existing.specOrEmpty.rules
      (desired.spec.bind (·.rules))).changed =
        !decide ((existing.spec.bind (·.rules)).getD [] =
          ((merged existing desired).spec.bind (·.rules)).getD []) := by
    rw [appendMissingRules_reports, bind_spec existing _ rfl]
    rfl
  have certificates : (replaceCollection existing.specOrEmpty.tls
      (desired.spec.bind (·.tls))).changed =
        !decide (((existing.spec.bind (·.tls)).getD []).Perm
          (((merged existing desired).spec.bind (·.tls)).getD [])) := by
    rw [replaceCollection_reports, sameCollection_eq_decide_perm, bind_spec existing _ rfl]
    rfl
  have reports : mergeReports desired rules existing =
      [(routesRule.field, (appendMissingRules existing.specOrEmpty.rules
        (desired.spec.bind (·.rules))).changed),
      (certificatesRule.field, (replaceCollection existing.specOrEmpty.tls
        (desired.spec.bind (·.tls))).changed)] := rfl
  rw [reports, routes, certificates]
  rfl

/-- An Ingress that is as desired is left as it is, up to what is filled in. -/
theorem merged_of_settled (settled : Settled desired existing) :
    merged existing desired = filledIn existing := by
  have routes := (appendMissingRules_changed_eq_false_iff _ _).mpr settled.routes
  have certificates := (sameCollection_iff_perm _ _).mpr settled.certificates
  rw [bind_spec existing _ rfl] at routes certificates
  unfold merged filledIn
  rw [appendMissingRules_value_of_unchanged routes, replaceCollection_value_of_same certificates]

end Ingress

/-! ### The tables -/

section Tables

variable (policy : ReplicaPolicy) {kind : Kind} {desired : kind.Object}

/-- The rules of a table report what is seen to differ. -/
theorem Kind.mergeReports_eq_views (distinct : (kind.variableNames desired).Nodup)
    (existing : kind.Object) :
    mergeReports desired (kind.rules policy) existing = (kind.views policy).map fun view =>
      (view.field, view.differs (kind.receivesContainer existing desired) existing
        (reconcileFields desired (kind.rules policy) existing).object) := by
  cases kind with
  | deployment =>
    show mergeReports desired (Deployment.rules policy) existing = _
    rw [Deployment.mergeReports_eq_views distinct policy existing,
      ← Deployment.reconcileFields_object policy existing desired]
    rfl
  | ingress => exact Ingress.mergeReports_eq_views existing desired
  | _ => rfl

/-- A table that reports nothing leaves the object as it was, up to what it fills in. -/
theorem Unchanging.object_eq_filledIn {policy : ReplicaPolicy} {existing : kind.Object}
    (unchanging : Unchanging policy kind desired existing) :
    (reconcileFields desired (kind.rules policy) existing).object = kind.filledIn existing := by
  unfold Unchanging at unchanging
  cases kind with
  | deployment =>
    have settled := (Deployment.reconcileFields_changed_eq_nil_iff_settled policy existing
      desired).mp unchanging
    exact (Deployment.reconcileFields_object policy existing desired).trans
      (Deployment.merged_of_settled settled)
  | ingress =>
    have settled :=
      (Ingress.reconcileFields_changed_eq_nil_iff_settled existing desired).mp unchanging
    exact Ingress.merged_of_settled settled
  | _ => rfl

/-- Nothing is absent on the way to the managed fields of what a table returns. -/
theorem Kind.filledIn_reconcileFields (existing : kind.Object) :
    kind.filledIn (reconcileFields desired (kind.rules policy) existing).object =
      (reconcileFields desired (kind.rules policy) existing).object := by
  cases kind with
  | deployment =>
    show Deployment.filledIn (reconcileFields desired (Deployment.rules policy) existing).object =
      (reconcileFields desired (Deployment.rules policy) existing).object
    rw [Deployment.reconcileFields_object]
    rfl
  | _ => rfl

end Tables

/-- Field tables are exact and quiet. Run a second time, a table changes nothing and reports
nothing. The first run reports exactly the fields whose value it changed; and if it reports none, it
only filled in what was absent. That the variables wanted for the first container of a Deployment
have different names is needed for all but the last, because of two variables of one name the second
would overwrite the first in every run. -/
theorem tables_are_exact_and_quiet (policy : ReplicaPolicy) (kind : Kind)
    (existing desired : kind.Object) (distinct : (kind.variableNames desired).Nodup) :
    let first := reconcileFields desired (kind.rules policy) existing
    reconcileFields desired (kind.rules policy) first.object = ⟨first.object, []⟩ ∧
      first.changed = kind.differing policy existing desired first.object ∧
      (first.changed = [] → first.object = kind.filledIn existing) := by
  intro first
  have settled : Unchanging policy kind desired first.object :=
    unchanging_of_distinct policy distinct existing
  refine ⟨?_, ?_, Unchanging.object_eq_filledIn⟩
  · have second := settled.object_eq_filledIn.trans (kind.filledIn_reconcileFields policy existing)
    exact congrArg₂ Reconciled.mk second settled
  · exact reconcileFields_changed_of_views (kind.mergeReports_eq_views policy distinct existing)

/-- A Deployment with a container that has two variables. -/
def listeningDeployment : Deployment where
  spec := some
    { replicas := some 2
      template :=
        { spec := some
            { containers :=
                [{ env := some
                    [{ name := "APICAST_LOG_LEVEL", value := some "info" },
                      { name := "APICAST_WORKERS", value := some "4" }]
                   image := some "quay.io/3scale/apicast"
                   name := "apicast" }] } } }

/-- A Deployment of which nothing is said receives the container. Its image is reported, but not its
environment, and neither are the annotations that are absent on both sides. -/
theorem bare_deployment_receives_container :
    (Kind.variableNames .deployment listeningDeployment).Nodup ∧
    let first := reconcileFields listeningDeployment (Deployment.rules .enforce) {}
    first.object.firstContainer? = listeningDeployment.firstContainer? ∧
      first.changed = [Deployment.replicasRule.field, Deployment.imageRule.field] ∧
      reconcileFields listeningDeployment (Deployment.rules .enforce) first.object =
        ⟨first.object, []⟩ := by
  have distinct : (Kind.variableNames .deployment listeningDeployment).Nodup := by decide
  obtain ⟨quiet, reports, _⟩ :=
    tables_are_exact_and_quiet .enforce .deployment {} listeningDeployment distinct
  exact ⟨distinct, by decide, reports.trans (by decide), quiet⟩

end GatewayOperator
