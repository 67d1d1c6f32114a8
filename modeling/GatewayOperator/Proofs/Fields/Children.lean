/-
This file says what the field tables of the three kinds of objects of a gateway have in common.
A table leaves the metadata alone; it finds nothing to do on its own result, nor on the desired
object itself; and what it finds depends neither on the metadata nor on the status, so storing an
object does not give it anything new to do.
-/

import GatewayOperator.Proofs.Cluster.Kind
import GatewayOperator.Proofs.Fields.Deployment
import GatewayOperator.Proofs.Fields.Ingress
import GatewayOperator.Proofs.Gateway.DesiredState

namespace GatewayOperator

/-- The field table of a kind of objects. -/
def Kind.rules (policy : ReplicaPolicy) : (kind : Kind) → List (FieldRule kind.Object)
  | .deployment => Deployment.rules policy
  | .service => Service.rules
  | .ingress => Ingress.rules
  | _ => []

/-- A table leaves the metadata of an object alone. -/
theorem Kind.metadata_reconcileFields (policy : ReplicaPolicy) (kind : Kind)
    (existing desired : kind.Object) :
    kind.metadata (reconcileFields desired (kind.rules policy) existing).object =
      kind.metadata existing := by
  cases kind with
  | deployment => exact Deployment.metadata_reconcileFields policy existing desired
  | _ => rfl

/-- A table leaves the name of an object alone. -/
theorem Kind.objectName?_reconcileFields (policy : ReplicaPolicy) (kind : Kind)
    (existing desired : kind.Object) :
    kind.objectName? (reconcileFields desired (kind.rules policy) existing).object =
      kind.objectName? existing := by
  have same := kind.metadata_reconcileFields policy existing desired
  exact Kind.objectName?_congr (congrArg ObjectMeta.name same)
    (congrArg ObjectMeta.namespaceName same)

/-- A table finds nothing to do on an object. -/
def Unchanging (policy : ReplicaPolicy) (kind : Kind) (desired object : kind.Object) : Prop :=
  (reconcileFields desired (kind.rules policy) object).changed = []

/-- What a table finds to do depends neither on the metadata nor on the status. -/
theorem Unchanging.restored {policy : ReplicaPolicy} {kind : Kind}
    {desired object : kind.Object} (unchanging : Unchanging policy kind desired object)
    (metadata : ObjectMeta) (other : kind.Object) :
    Unchanging policy kind desired
      (kind.withStatusOf (kind.withMetadata object metadata) other) := by
  unfold Unchanging at unchanging ⊢
  cases kind with
  | deployment =>
    have settled :=
      (Deployment.reconcileFields_changed_eq_nil_iff_settled policy object desired).mp unchanging
    exact (Deployment.reconcileFields_changed_eq_nil_iff_settled policy _ desired).mpr
      (settled.of_spec rfl)
  | ingress =>
    have settled :=
      (Ingress.reconcileFields_changed_eq_nil_iff_settled object desired).mp unchanging
    exact (Ingress.reconcileFields_changed_eq_nil_iff_settled _ desired).mpr
      (settled.of_spec rfl)
  | _ => rfl

theorem Unchanging.withMetadata {policy : ReplicaPolicy} {kind : Kind}
    {desired object : kind.Object} (unchanging : Unchanging policy kind desired object)
    (metadata : ObjectMeta) :
    Unchanging policy kind desired (kind.withMetadata object metadata) := by
  rw [← kind.withStatusOf_withMetadata_self]
  exact unchanging.restored metadata object

/-- The names of the variables of the first container. -/
def Kind.variableNames : (kind : Kind) → kind.Object → List String
  | .deployment, object => Deployment.variableNames object
  | _, _ => []

/-- A table finds nothing to do on its own result, when the wanted variables have different
names. -/
theorem unchanging_of_distinct (policy : ReplicaPolicy) {kind : Kind} {desired : kind.Object}
    (distinct : (kind.variableNames desired).Nodup) (existing : kind.Object) :
    Unchanging policy kind desired
      (reconcileFields desired (kind.rules policy) existing).object := by
  unfold Unchanging
  cases kind with
  | deployment =>
    exact (Deployment.reconcileFields_changed_eq_nil_iff_settled policy _ _).mpr
      (Deployment.settled_reconcileFields
        (fun _ isFirst => Deployment.nodup_of_variableNames distinct isFirst) policy existing)
  | ingress =>
    exact (Ingress.reconcileFields_changed_eq_nil_iff_settled _ _).mpr
      (Ingress.settled_reconcileFields existing desired)
  | _ => rfl

section Children

variable {gateway : Gateway} {secrets : ResolvedSecrets} {kind : Kind} {desired : kind.Object}

/-- The variables of a desired object have different names. -/
theorem variableNames_child_nodup
    (child : (desiredState gateway secrets).child? kind = some desired) :
    (kind.variableNames desired).Nodup := by
  cases kind with
  | deployment =>
    cases child
    have isFirst := firstContainer?_desiredDeployment gateway secrets
    show (Deployment.variableNames (desiredDeployment gateway secrets)).Nodup
    rw [Deployment.variableNames_of_first isFirst]
    exact desiredDeployment_names_nodup gateway secrets _ isFirst
  | _ => exact List.nodup_nil

/-- A table finds nothing to do on its own result. -/
theorem unchanging_reconcileFields (policy : ReplicaPolicy)
    (child : (desiredState gateway secrets).child? kind = some desired) (existing : kind.Object) :
    Unchanging policy kind desired
      (reconcileFields desired (kind.rules policy) existing).object :=
  unchanging_of_distinct policy (variableNames_child_nodup child) existing

/-- A table finds nothing to do on the desired object. -/
theorem unchanging_self (policy : ReplicaPolicy)
    (child : (desiredState gateway secrets).child? kind = some desired) :
    Unchanging policy kind desired desired := by
  unfold Unchanging
  cases kind with
  | deployment =>
    cases child
    exact (Deployment.reconcileFields_changed_eq_nil_iff_settled policy _ _).mpr
      (Deployment.settled_self (desiredDeployment_names_nodup gateway secrets) policy)
  | ingress =>
    exact (Ingress.reconcileFields_changed_eq_nil_iff_settled _ _).mpr
      (Ingress.settled_self desired)
  | _ => rfl

end Children

end GatewayOperator
