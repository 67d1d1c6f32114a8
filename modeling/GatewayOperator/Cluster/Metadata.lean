/-
This file holds the metadata that every object of the cluster carries: its name, its labels and
annotations, the version it was read at, the objects that own it, and when and by whom its fields
were set. Labels select objects, and names refer to them.
-/

import GatewayOperator.Cluster.Time
import GatewayOperator.Json.Layout
import GatewayOperator.Json.Normal

namespace GatewayOperator

/-- A reference from an object to one of its owners. At most one owner is meant to control it. -/
structure OwnerReference where
  apiVersion : String := ""
  blockOwnerDeletion : Option Bool := none
  controller : Option Bool := none
  kind : String := ""
  name : String := ""
  uid : String := ""
  deriving DecidableEq, Inhabited

/-- The JSON form of `OwnerReference`. -/
def OwnerReference.codec : Codec OwnerReference :=
  Codec.object "OwnerReference"
    (.cons (Member.filled "apiVersion" Codec.text "") <|
     .cons (Member.optional "blockOwnerDeletion" Codec.boolean) <|
     .cons (Member.optional "controller" Codec.boolean) <|
     .cons (Member.filled "kind" Codec.text "") <|
     .cons (Member.filled "name" Codec.text "") <|
     .cons (Member.filled "uid" Codec.text "") .nil)
    (fun record => (record.apiVersion, record.blockOwnerDeletion, record.controller,
      record.kind, record.name, record.uid, ()))
    (fun (apiVersion, blockOwnerDeletion, controller, kind, name, uid, ()) =>
      { apiVersion, blockOwnerDeletion, controller, kind, name, uid })

theorem OwnerReference.codec_lawful : OwnerReference.codec.Lawful :=
  Codec.object_lawful ⟨Member.filled_lawful Codec.text_lawful,
    Member.optional_lawful Codec.boolean_lawful, Member.optional_lawful Codec.boolean_lawful,
    Member.filled_lawful Codec.text_lawful, Member.filled_lawful Codec.text_lawful,
    Member.filled_lawful Codec.text_lawful, trivial⟩
    (by decide) (fun _ => rfl)

/-- A set of fields, as the document of a trie of field names. Nothing is said of its form: it is
any sound document but `null`, which is read as no set, and it is kept in normal form. -/
structure FieldSet where
  document : Json
  isNormal : document.normalize = document
  isSound : document.isSound = true
  isValue : document ≠ .null
  deriving DecidableEq

namespace FieldSet

/-- The set without fields. -/
def empty : FieldSet := ⟨.object [], rfl, rfl, nofun⟩

instance : Inhabited FieldSet := ⟨empty⟩

/-- The JSON form of `FieldSet`. -/
def codec : Codec FieldSet where
  write fields := fields.document
  read found :=
    if meant : found.isSound = true ∧ found ≠ .null then
      .ok ⟨found.normalize, found.normalize_normalize, found.isSound_normalize meant.1,
        fun null => meant.2 (found.normalize_eq_null_iff.mp null)⟩
    else .error (found.mismatch "a set of fields")

theorem ext {first second : FieldSet} (same : first.document = second.document) :
    first = second := by
  cases first
  cases second
  congr

theorem codec_lawful : codec.Lawful where
  read_write fields :=
    (dif_pos ⟨fields.isSound, fields.isValue⟩).trans (congrArg Except.ok (ext fields.isNormal))
  write_ne_null fields := fields.isValue

end FieldSet

/-- The fields of an object that a manager set in one go. -/
structure ManagedFieldsEntry where
  apiVersion : Option String := none
  fieldsType : Option String := none
  fields : Option FieldSet := none
  manager : Option String := none
  operation : Option String := none
  subresource : Option String := none
  time : Option Time := none
  deriving DecidableEq, Inhabited

/-- The JSON form of `ManagedFieldsEntry`. -/
def ManagedFieldsEntry.codec : Codec ManagedFieldsEntry :=
  Codec.object "ManagedFieldsEntry"
    (.cons (Member.optional "apiVersion" Codec.text) <|
     .cons (Member.optional "fieldsType" Codec.text) <|
     .cons (Member.optional "fieldsV1" FieldSet.codec) <|
     .cons (Member.optional "manager" Codec.text) <|
     .cons (Member.optional "operation" Codec.text) <|
     .cons (Member.optional "subresource" Codec.text) <|
     .cons (Member.optional "time" Time.codec) .nil)
    (fun record => (record.apiVersion, record.fieldsType, record.fields, record.manager,
      record.operation, record.subresource, record.time, ()))
    (fun (apiVersion, fieldsType, fields, manager, operation, subresource, time, ()) =>
      { apiVersion, fieldsType, fields, manager, operation, subresource, time })

theorem ManagedFieldsEntry.codec_lawful : ManagedFieldsEntry.codec.Lawful :=
  Codec.object_lawful ⟨Member.optional_lawful Codec.text_lawful,
    Member.optional_lawful Codec.text_lawful, Member.optional_lawful FieldSet.codec_lawful,
    Member.optional_lawful Codec.text_lawful, Member.optional_lawful Codec.text_lawful,
    Member.optional_lawful Codec.text_lawful, Member.optional_lawful Time.codec_lawful, trivial⟩
    (by decide) (fun _ => rfl)

/-- The metadata of an object. -/
structure ObjectMeta where
  annotations : Option (Map String) := none
  creationTimestamp : Option Time := none
  deletionGracePeriodSeconds : Option Int64 := none
  deletionTimestamp : Option Time := none
  finalizers : Option (List String) := none
  generateName : Option String := none
  generation : Option Int64 := none
  labels : Option (Map String) := none
  managedFields : Option (List ManagedFieldsEntry) := none
  name : Option String := none
  namespaceName : Option String := none
  ownerReferences : Option (List OwnerReference) := none
  resourceVersion : Option String := none
  selfLink : Option String := none
  uid : Option String := none
  deriving DecidableEq, Inhabited

/-- The JSON form of `ObjectMeta`. -/
def ObjectMeta.codec : Codec ObjectMeta :=
  Codec.object "ObjectMeta"
    (.cons (Member.optional "annotations" (Codec.map Codec.text)) <|
     .cons (Member.optional "creationTimestamp" Time.codec) <|
     .cons (Member.optional "deletionGracePeriodSeconds" Codec.int64) <|
     .cons (Member.optional "deletionTimestamp" Time.codec) <|
     .cons (Member.optional "finalizers" (Codec.list Codec.text)) <|
     .cons (Member.optional "generateName" Codec.text) <|
     .cons (Member.optional "generation" Codec.int64) <|
     .cons (Member.optional "labels" (Codec.map Codec.text)) <|
     .cons (Member.optional "managedFields" (Codec.list ManagedFieldsEntry.codec)) <|
     .cons (Member.optional "name" Codec.text) <|
     .cons (Member.optional "namespace" Codec.text) <|
     .cons (Member.optional "ownerReferences" (Codec.list OwnerReference.codec)) <|
     .cons (Member.optional "resourceVersion" Codec.text) <|
     .cons (Member.optional "selfLink" Codec.text) <|
     .cons (Member.optional "uid" Codec.text) .nil)
    (fun record => (record.annotations, record.creationTimestamp,
      record.deletionGracePeriodSeconds, record.deletionTimestamp, record.finalizers,
      record.generateName, record.generation, record.labels, record.managedFields, record.name,
      record.namespaceName, record.ownerReferences, record.resourceVersion, record.selfLink,
      record.uid, ()))
    (fun (annotations, creationTimestamp, deletionGracePeriodSeconds, deletionTimestamp,
      finalizers, generateName, generation, labels, managedFields, name, namespaceName,
      ownerReferences, resourceVersion, selfLink, uid, ()) =>
      { annotations, creationTimestamp, deletionGracePeriodSeconds, deletionTimestamp,
        finalizers, generateName, generation, labels, managedFields, name, namespaceName,
        ownerReferences, resourceVersion, selfLink, uid })

theorem ObjectMeta.codec_lawful : ObjectMeta.codec.Lawful :=
  Codec.object_lawful ⟨Member.optional_lawful (Codec.map_lawful Codec.text_lawful),
    Member.optional_lawful Time.codec_lawful, Member.optional_lawful Codec.int64_lawful,
    Member.optional_lawful Time.codec_lawful,
    Member.optional_lawful (Codec.list_lawful Codec.text_lawful),
    Member.optional_lawful Codec.text_lawful, Member.optional_lawful Codec.int64_lawful,
    Member.optional_lawful (Codec.map_lawful Codec.text_lawful),
    Member.optional_lawful (Codec.list_lawful ManagedFieldsEntry.codec_lawful),
    Member.optional_lawful Codec.text_lawful, Member.optional_lawful Codec.text_lawful,
    Member.optional_lawful (Codec.list_lawful OwnerReference.codec_lawful),
    Member.optional_lawful Codec.text_lawful, Member.optional_lawful Codec.text_lawful,
    Member.optional_lawful Codec.text_lawful, trivial⟩
    (by decide) (fun _ => rfl)

/-- A reference to an object of the same namespace. -/
structure LocalObjectReference where
  name : String := ""
  deriving DecidableEq, Inhabited

/-- The JSON form of `LocalObjectReference`. -/
def LocalObjectReference.codec : Codec LocalObjectReference :=
  Codec.object "LocalObjectReference"
    (.cons (Member.filled "name" Codec.text "") .nil)
    (fun record => (record.name, ()))
    (fun (name, ()) =>
      { name })

theorem LocalObjectReference.codec_lawful : LocalObjectReference.codec.Lawful :=
  Codec.object_lawful ⟨Member.filled_lawful Codec.text_lawful, trivial⟩
    (by decide) (fun _ => rfl)

/-- A condition on a label or a field, by the values that it may have. -/
def Format.requirement (name : String) : Format :=
  .record name
    [.filled "key" .text, .filled "operator" .text, .optional "values" (.list .text)]

/-- What selects objects beside labels that they have to carry. -/
def LabelSelector.layout : Layout :=
  [.optional "matchExpressions" (.list (.requirement "LabelSelectorRequirement"))]

/-- Which labels an object has to carry to be selected. -/
structure LabelSelector where
  matchLabels : Option (Map String) := none
  others : LabelSelector.layout.Tuple := LabelSelector.layout.blank
  deriving DecidableEq, Inhabited

/-- The JSON form of `LabelSelector`. -/
def LabelSelector.codec : Codec LabelSelector :=
  Codec.object "LabelSelector"
    (.cons (Member.optional "matchLabels" (Codec.map Codec.text)) LabelSelector.layout.members)
    (fun record => (record.matchLabels, record.others))
    (fun (matchLabels, others) =>
      { matchLabels, others })

theorem LabelSelector.codec_lawful : LabelSelector.codec.Lawful :=
  Codec.object_lawful ⟨Member.optional_lawful (Codec.map_lawful Codec.text_lawful),
    LabelSelector.layout.members_lawful⟩
    (by decide) (fun _ => rfl)

namespace Format

/-- A time, the start of the year 1970 when it is absent. -/
def time : Format := .of Time.codec_lawful

/-- A selection of objects by their labels. -/
def labelSelector : Format := .of LabelSelector.codec_lawful

/-- A reference to an object of the same namespace. -/
def localObjectReference : Format := .of LocalObjectReference.codec_lawful

/-- A reference to an object of any type in the same namespace. -/
def typedLocalObjectReference : Format :=
  .record "TypedLocalObjectReference"
    [.optional "apiGroup" .text, .filled "kind" .text, .filled "name" .text]

/-- What was observed of a port of a load balancer. -/
def portStatus (name : String) : Format :=
  .record name [.optional "error" .text, .filled "port" .int32, .filled "protocol" .text]

end Format

namespace ObjectMeta

/-- The name of an object, or the stem of the name it is going to get. -/
def anyName (metadata : ObjectMeta) : String :=
  (metadata.name.or metadata.generateName).getD ""

end ObjectMeta

end GatewayOperator
