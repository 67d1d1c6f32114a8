/-
This file holds Deployments: how many pods run, by which selector they are found, and from which
template they are made.
-/

import GatewayOperator.Cluster.Pod

namespace GatewayOperator

/-- How many pods may be missing, or too many, while they are replaced one by one. -/
def DeploymentStrategy.layout : Layout :=
  [.optional "rollingUpdate" (.record "RollingUpdateDeployment"
    [.optional "maxSurge" .numberOrText, .optional "maxUnavailable" .numberOrText])]

/-- How pods are replaced. -/
structure DeploymentStrategy where
  kind : Option String := none
  others : DeploymentStrategy.layout.Tuple := DeploymentStrategy.layout.blank
  deriving DecidableEq, Inhabited

/-- The JSON form of `DeploymentStrategy`. -/
def DeploymentStrategy.codec : Codec DeploymentStrategy :=
  Codec.object "DeploymentStrategy"
    (.cons (Member.optional "type" Codec.text) DeploymentStrategy.layout.members)
    (fun record => (record.kind, record.others))
    (fun (kind, others) =>
      { kind, others })

theorem DeploymentStrategy.codec_lawful : DeploymentStrategy.codec.Lawful :=
  Codec.object_lawful ⟨Member.optional_lawful Codec.text_lawful,
    DeploymentStrategy.layout.members_lawful⟩
    (by decide) (fun _ => rfl)

/-- What is wanted of a Deployment. -/
structure DeploymentSpec where
  minReadySeconds : Option Int32 := none
  paused : Option Bool := none
  progressDeadlineSeconds : Option Int32 := none
  replicas : Option Int32 := none
  revisionHistoryLimit : Option Int32 := none
  selector : LabelSelector := {}
  strategy : Option DeploymentStrategy := none
  template : PodTemplateSpec := {}
  deriving DecidableEq, Inhabited

/-- The JSON form of `DeploymentSpec`. -/
def DeploymentSpec.codec : Codec DeploymentSpec :=
  Codec.object "DeploymentSpec"
    (.cons (Member.optional "minReadySeconds" Codec.int32) <|
     .cons (Member.optional "paused" Codec.boolean) <|
     .cons (Member.optional "progressDeadlineSeconds" Codec.int32) <|
     .cons (Member.optional "replicas" Codec.int32) <|
     .cons (Member.optional "revisionHistoryLimit" Codec.int32) <|
     .cons (Member.filled "selector" LabelSelector.codec {}) <|
     .cons (Member.optional "strategy" DeploymentStrategy.codec) <|
     .cons (Member.filled "template" PodTemplateSpec.codec {}) .nil)
    (fun record => (record.minReadySeconds, record.paused, record.progressDeadlineSeconds,
      record.replicas, record.revisionHistoryLimit, record.selector, record.strategy,
      record.template, ()))
    (fun (minReadySeconds, paused, progressDeadlineSeconds, replicas, revisionHistoryLimit,
      selector, strategy, template, ()) =>
      { minReadySeconds, paused, progressDeadlineSeconds, replicas, revisionHistoryLimit,
        selector, strategy, template })

theorem DeploymentSpec.codec_lawful : DeploymentSpec.codec.Lawful :=
  Codec.object_lawful ⟨Member.optional_lawful Codec.int32_lawful,
    Member.optional_lawful Codec.boolean_lawful, Member.optional_lawful Codec.int32_lawful,
    Member.optional_lawful Codec.int32_lawful, Member.optional_lawful Codec.int32_lawful,
    Member.filled_lawful LabelSelector.codec_lawful,
    Member.optional_lawful DeploymentStrategy.codec_lawful,
    Member.filled_lawful PodTemplateSpec.codec_lawful, trivial⟩
    (by decide) (fun _ => rfl)

/-- What was observed of a Deployment beside the number of its pods. -/
def DeploymentStatus.layout : Layout :=
  [.optional "availableReplicas" .int32, .optional "collisionCount" .int32,
    .optional "conditions" (.list (.record "DeploymentCondition"
      [.optional "lastTransitionTime" .time, .optional "lastUpdateTime" .time,
        .optional "message" .text, .optional "reason" .text, .filled "status" .text,
        .filled "type" .text])),
    .optional "observedGeneration" .int64, .optional "readyReplicas" .int32,
    .optional "unavailableReplicas" .int32, .optional "updatedReplicas" .int32]

/-- What was observed of a Deployment. -/
structure DeploymentStatus where
  replicas : Option Int32 := none
  others : DeploymentStatus.layout.Tuple := DeploymentStatus.layout.blank
  deriving DecidableEq, Inhabited

/-- The JSON form of `DeploymentStatus`. -/
def DeploymentStatus.codec : Codec DeploymentStatus :=
  Codec.object "DeploymentStatus"
    (.cons (Member.optional "replicas" Codec.int32) DeploymentStatus.layout.members)
    (fun record => (record.replicas, record.others))
    (fun (replicas, others) =>
      { replicas, others })

theorem DeploymentStatus.codec_lawful : DeploymentStatus.codec.Lawful :=
  Codec.object_lawful ⟨Member.optional_lawful Codec.int32_lawful,
    DeploymentStatus.layout.members_lawful⟩
    (by decide) (fun _ => rfl)

/-- A Deployment. -/
structure Deployment where
  metadata : ObjectMeta := {}
  spec : Option DeploymentSpec := none
  status : Option DeploymentStatus := none
  deriving DecidableEq, Inhabited

/-- The JSON form of `Deployment`. -/
def Deployment.codec : Codec Deployment :=
  Codec.object "Deployment"
    (.cons (Member.constant "apiVersion" "apps/v1") <|
     .cons (Member.constant "kind" "Deployment") <|
     .cons (Member.filled "metadata" ObjectMeta.codec {}) <|
     .cons (Member.optional "spec" DeploymentSpec.codec) <|
     .cons (Member.optional "status" DeploymentStatus.codec) .nil)
    (fun record => ((), (), record.metadata, record.spec, record.status, ()))
    (fun (_, _, metadata, spec, status, ()) =>
      { metadata, spec, status })

theorem Deployment.codec_lawful : Deployment.codec.Lawful :=
  Codec.object_lawful ⟨Member.constant_lawful _ _, Member.constant_lawful _ _,
    Member.filled_lawful ObjectMeta.codec_lawful,
    Member.optional_lawful DeploymentSpec.codec_lawful,
    Member.optional_lawful DeploymentStatus.codec_lawful, trivial⟩
    (by decide) (fun _ => rfl)

end GatewayOperator
