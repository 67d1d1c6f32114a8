/-
This file says what the metadata of an object decides: its name, and with its kind the word it is
stored under. Writing an object with new metadata or with the status of another one leaves the
rest of it alone.
-/

import GatewayOperator.Cluster.Kind

namespace GatewayOperator.Kind

/-- A kind that shares its word with no other kind: all but the two versions of Events. -/
def Alone (kind : Kind) : Prop := kind ≠ .coreEvent ∧ kind ≠ .event

instance (kind : Kind) : Decidable kind.Alone :=
  inferInstanceAs (Decidable (kind ≠ .coreEvent ∧ kind ≠ .event))

theorem Alone.eq_of_label {kind other : Kind} (alone : kind.Alone)
    (same : other.label = kind.label) : other = kind := by
  obtain ⟨notCoreEvent, notEvent⟩ := alone
  revert notCoreEvent notEvent same
  cases kind <;> cases other <;> decide

/-- The name of an object is part of its metadata. -/
theorem objectName?_congr {kind : Kind} {first second : kind.Object}
    (name : (kind.metadata first).name = (kind.metadata second).name)
    (namespaceName : (kind.metadata first).namespaceName = (kind.metadata second).namespaceName) :
    kind.objectName? first = kind.objectName? second := by
  unfold objectName? Kind.namespaceName
  rw [name, namespaceName]

/-- An object that has a name goes by that name. -/
theorem eq_of_objectName? {kind : Kind} {object : kind.Object} {name : ObjectName}
    (named : kind.objectName? object = some name) :
    name = ⟨kind.namespaceName object, (kind.metadata object).anyName⟩ := by
  obtain ⟨text, isName, rfl⟩ := Option.map_eq_some_iff.mp named
  unfold ObjectMeta.anyName
  rw [isName]
  rfl

/-- An object has a status of its own before it takes over another one's. -/
theorem withStatusOf_withMetadata_self (kind : Kind) (object : kind.Object)
    (metadata : ObjectMeta) :
    kind.withStatusOf (kind.withMetadata object metadata) object =
      kind.withMetadata object metadata := by
  cases kind <;> rfl

end GatewayOperator.Kind
