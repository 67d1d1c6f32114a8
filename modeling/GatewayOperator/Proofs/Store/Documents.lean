/-
This file keeps the objects of a store as JSON documents. An update writes the document of its
object and takes over the status of the old document as it stands there; a write of a status sets
two members of the old document; and the object that is answered is read from the document that is
stored. What stands as the status of a document is a status, nothing, or `null`, and each is read as
it was meant: the document of an object stays one of that object, whichever of its members are
exchanged.
-/

import GatewayOperator.Proofs.Store.Frame
import Mathlib.Logic.Function.Basic

namespace GatewayOperator

/-! ### Members of documents -/

namespace Json

/-- Sets a member: the one of its name is replaced where it stands, or it is put at the end. -/
def setMember (name : String) (value : Json) : List (String × Json) → List (String × Json)
  | [] => [(name, value)]
  | (key, old) :: rest =>
    if key = name then (name, value) :: rest else (key, old) :: setMember name value rest

/-- An object with a member set; the other values stay as they are. -/
def withMember (document : Json) (name : String) (value : Json) : Json :=
  match document with
  | object members => object (setMember name value members)
  | other => other

/-- An object without a member; the other values stay as they are. -/
def withoutMember (document : Json) (name : String) : Json :=
  match document with
  | object members => object (members.filter (·.1 ≠ name))
  | other => other

/-- The text of a member of the metadata. -/
def metadataText? (document : Json) (name : String) : Option String :=
  ((document.member? "metadata").bind (member? name)).bind string?

/-- A document with the status of another one, or without a status if that has none. -/
def withStatusOf (document other : Json) : Json :=
  match other.member? "status" with
  | some status => document.withMember "status" status
  | none => document.withoutMember "status"

/-- A document under a version. -/
def withVersion (document : Json) (version : String) : Json :=
  match document.member? "metadata" with
  | some metadata =>
    document.withMember "metadata" (metadata.withMember "resourceVersion" (.string version))
  | none => document

theorem lastMember_cons (name key : String) (value : Json) (rest : List (String × Json)) :
    lastMember name ((key, value) :: rest) =
      (lastMember name rest).or (if key = name then some value else none) := by
  rw [lastMember]
  cases lastMember name rest <;> rfl

theorem lastMember_append (name : String) (first rest : List (String × Json)) :
    lastMember name (first ++ rest) = (lastMember name rest).or (lastMember name first) := by
  induction first with
  | nil => rw [List.nil_append, lastMember, Option.or_none]
  | cons entry first inductionHypothesis =>
    rw [List.cons_append, lastMember_cons, inductionHypothesis, lastMember_cons, Option.or_assoc]

theorem lastMember_eq_none {name : String} {members : List (String × Json)}
    (others : ∀ entry ∈ members, entry.1 ≠ name) : lastMember name members = none := by
  induction members with
  | nil => rfl
  | cons entry members inductionHypothesis =>
    rw [List.forall_mem_cons] at others
    rw [lastMember_cons, inductionHypothesis others.2, if_neg others.1, Option.none_or]

theorem setMember_append {name : String} (value : Json) {first : List (String × Json)}
    (others : ∀ entry ∈ first, entry.1 ≠ name) (rest : List (String × Json)) :
    setMember name value (first ++ rest) = first ++ setMember name value rest := by
  induction first with
  | nil => rfl
  | cons entry first inductionHypothesis =>
    rw [List.forall_mem_cons] at others
    rw [List.cons_append, setMember, if_neg others.1, inductionHypothesis others.2,
      List.cons_append]

end Json

namespace Members

variable {Value Rest Slots : Type}

theorem write_nil (values : Unit) : nil.write values = [] := rfl

theorem write_cons (first : Member Value) (rest : Members Rest Slots) (value : Value)
    (values : Rest) :
    (cons first rest).write (value, values) =
      ((first.write value).map (Prod.mk first.name)).toList ++ rest.write values := by
  rw [write]
  cases first.write value <;> rfl

/-- The member of a name among those that are written for a tuple. -/
theorem lastMember_write_cons (name : String) (first : Member Value) (rest : Members Rest Slots)
    (value : Value) (values : Rest) :
    Json.lastMember name ((cons first rest).write (value, values)) =
      (Json.lastMember name (rest.write values)).or
        (if first.name = name then first.write value else none) := by
  rw [write_cons, Json.lastMember_append]
  congr 1
  cases first.write value with
  | none => rw [ite_self]; rfl
  | some json => exact Json.lastMember_cons name first.name json []

/-- A member that is set stands behind the members of other names. -/
theorem setMember_write_other {name : String} {first : Member Value}
    (different : first.name ≠ name) (rest : Members Rest Slots) (json : Json) (value : Value)
    (values : Rest) :
    Json.setMember name json ((cons first rest).write (value, values)) =
      ((first.write value).map (Prod.mk first.name)).toList ++
        Json.setMember name json (rest.write values) := by
  rw [write_cons, Json.setMember_append]
  intro entry member
  obtain ⟨written, -, rfl⟩ := Option.map_eq_some_iff.mp (Option.mem_toList.mp member)
  exact different

/-- A member that was written is replaced where it stands. -/
theorem setMember_write_self {name : String} {first : Member Value} (named : first.name = name)
    (rest : Members Rest Slots) {json : Json} {old new : Value}
    (present : (first.write old).isSome = true) (written : first.write new = some json)
    (values : Rest) :
    Json.setMember name json ((cons first rest).write (old, values)) =
      (cons first rest).write (new, values) := by
  obtain ⟨before, isBefore⟩ := Option.isSome_iff_exists.mp present
  rw [write_cons, write_cons, isBefore, written, ← named]
  exact if_pos rfl

end Members

namespace ObjectMeta

theorem member?_resourceVersion (metadata : ObjectMeta) :
    (ObjectMeta.codec.write metadata).member? "resourceVersion" =
      metadata.resourceVersion.map .string := by
  simp [ObjectMeta.codec, Codec.object, Json.member?, Members.lastMember_write_cons,
    Members.write_nil, Json.lastMember, Member.optional, Codec.text]

theorem member?_uid (metadata : ObjectMeta) :
    (ObjectMeta.codec.write metadata).member? "uid" = metadata.uid.map .string := by
  simp [ObjectMeta.codec, Codec.object, Json.member?, Members.lastMember_write_cons,
    Members.write_nil, Json.lastMember, Member.optional, Codec.text]

/-- A version is replaced where it stands. -/
theorem withMember_resourceVersion {metadata : ObjectMeta}
    (versioned : metadata.resourceVersion.isSome = true) (version : String) :
    (ObjectMeta.codec.write metadata).withMember "resourceVersion" (.string version) =
      ObjectMeta.codec.write { metadata with resourceVersion := some version } := by
  have present : ((Member.optional "resourceVersion" Codec.text).write
      metadata.resourceVersion).isSome = true := by
    rw [show (Member.optional "resourceVersion" Codec.text).write metadata.resourceVersion =
      metadata.resourceVersion.map Codec.text.write from rfl, Option.isSome_map]
    exact versioned
  have named : (Member.optional "resourceVersion" Codec.text).name = "resourceVersion" := rfl
  have written : (Member.optional "resourceVersion" Codec.text).write (some version) =
    some (.string version) := rfl
  refine congrArg Json.object ?_
  show Json.setMember _ _ (Members.write _ _) = Members.write _ _
  repeat rw [Members.setMember_write_other (by decide)]
  rw [Members.setMember_write_self named _ present written]
  repeat rw [Members.write_cons]

end ObjectMeta

/-! ### The document of an object -/

namespace Kind

/-- The status of an object as it is written. -/
def status? : (kind : Kind) → kind.Object → Option Json
  | gateway, object => object.status.map GatewayStatus.codec.write
  | deployment, object => object.status.map DeploymentStatus.codec.write
  | service, object => object.status.map ServiceStatus.codec.write
  | ingress, object => object.status.map IngressStatus.codec.write
  | secret, _ | configMap, _ | coreEvent, _ | event, _ => none

/-- The members of an object as it is written, all but the status. -/
def fields (kind : Kind) (object : kind.Object) : List (String × Json) :=
  ((kind.codec.write object).members?.getD []).filter (·.1 ≠ "status")

/-- The document of an object with something else as its status. -/
def document (kind : Kind) (object : kind.Object) (status : Option Json) : Json :=
  .object (kind.fields object ++ (status.map (Prod.mk "status")).toList)

/-- The status of an object is written last. -/
theorem write_eq_document (kind : Kind) (object : kind.Object) :
    kind.codec.write object = kind.document object (kind.status? object) := by
  cases kind with
  | gateway => obtain ⟨metadata, spec, _ | status⟩ := object <;> rfl
  | deployment | service | ingress =>
    obtain ⟨metadata, _ | spec, _ | status⟩ := object <;> rfl
  | secret =>
    obtain ⟨_ | data, _ | immutable, metadata, _ | stringData, _ | type⟩ := object <;> rfl
  | configMap => obtain ⟨_ | binaryData, _ | data, _ | immutable, metadata⟩ := object <;> rfl
  | coreEvent => obtain ⟨involved, metadata, _ | reason⟩ := object <;> rfl
  | event => obtain ⟨metadata, _ | reason⟩ := object <;> rfl

/-- The other members do not depend on the status. -/
theorem document_withStatusOf (kind : Kind) (object other : kind.Object) (status : Option Json) :
    kind.document (kind.withStatusOf object other) status = kind.document object status := by
  suffices same : kind.fields (kind.withStatusOf object other) = kind.fields object by
    unfold document
    rw [same]
  cases kind with
  | gateway =>
    obtain ⟨metadata, spec, _ | status⟩ := object <;>
      obtain ⟨otherMetadata, otherSpec, _ | otherStatus⟩ := other <;> rfl
  | deployment | service | ingress =>
    obtain ⟨metadata, _ | spec, _ | status⟩ := object <;>
      obtain ⟨otherMetadata, otherSpec, _ | otherStatus⟩ := other <;> rfl
  | secret | configMap | coreEvent | event => rfl

theorem status?_withStatusOf (kind : Kind) (object other : kind.Object) :
    kind.status? (kind.withStatusOf object other) = kind.status? other := by
  cases kind <;> rfl

/-- Two kinds that share their word have no status. -/
theorem statusless_of_label {kind other : Kind} (label : other.label = kind.label)
    (different : other ≠ kind) :
    (∀ object, other.status? object = none) ∧ (∀ object, kind.status? object = none) ∧
      ∀ object status, kind.withStatusOf object status = object := by
  revert label different
  cases kind <;> cases other <;> intro label different <;>
    first
    | exact ⟨fun _ => rfl, fun _ => rfl, fun _ _ => rfl⟩
    | exact absurd label (by decide)
    | exact absurd rfl different

theorem ne_status_of_mem_fields {kind : Kind} {object : kind.Object} :
    ∀ entry ∈ kind.fields object, entry.1 ≠ "status" := fun _ member =>
  of_decide_eq_true (List.mem_filter.mp member).2

theorem member?_status_document (kind : Kind) (object : kind.Object) (status : Option Json) :
    (kind.document object status).member? "status" = status := by
  show Json.lastMember "status" (kind.fields object ++ _) = status
  rw [Json.lastMember_append, Json.lastMember_eq_none ne_status_of_mem_fields, Option.or_none]
  cases status <;> rfl

theorem withMember_status_document (kind : Kind) (object : kind.Object) (status : Option Json)
    (other : Json) :
    (kind.document object status).withMember "status" other =
      kind.document object (some other) := by
  refine congrArg Json.object ?_
  show Json.setMember _ _ (kind.fields object ++ _) = kind.fields object ++ _
  rw [Json.setMember_append _ ne_status_of_mem_fields]
  cases status <;> rfl

theorem withoutMember_status_document (kind : Kind) (object : kind.Object)
    (status : Option Json) :
    (kind.document object status).withoutMember "status" = kind.document object none := by
  refine congrArg Json.object ?_
  show List.filter _ (kind.fields object ++ _) = kind.fields object ++ []
  have kept : (kind.fields object).filter (·.1 ≠ "status") = kind.fields object :=
    List.filter_eq_self.mpr fun entry member =>
      decide_eq_true (ne_status_of_mem_fields entry member)
  rw [List.filter_append, kept]
  cases status <;> rfl

/-- A document takes over the status of another one, whatever stands there. -/
theorem withStatusOf_document (kind other : Kind) (object : kind.Object)
    (otherObject : other.Object) (status otherStatus : Option Json) :
    (kind.document object status).withStatusOf (other.document otherObject otherStatus) =
      kind.document object otherStatus := by
  unfold Json.withStatusOf
  rw [member?_status_document]
  cases otherStatus with
  | none => exact kind.withoutMember_status_document object status
  | some json => exact kind.withMember_status_document object status json

theorem member?_metadata_document (kind : Kind) (object : kind.Object) (status : Option Json) :
    (kind.document object status).member? "metadata" =
      some (ObjectMeta.codec.write (kind.metadata object)) := by
  have beside : ∀ status : Option Json, (kind.document object status).member? "metadata" =
      Json.lastMember "metadata" (kind.fields object) := by
    intro status
    show Json.lastMember "metadata" (kind.fields object ++ _) = _
    rw [Json.lastMember_append]
    cases status <;> rfl
  rw [beside, ← beside (kind.status? object), ← kind.write_eq_document]
  cases kind <;>
    simp [Kind.codec, Gateway.codec, Deployment.codec, Service.codec, Ingress.codec, Secret.codec,
      ConfigMap.codec, CoreEvent.codec, Event.codec, Codec.object, Codec.record, Json.member?,
      Members.lastMember_write_cons, Members.write_nil, Json.lastMember, Member.constant,
      Member.filled, Member.optional, Member.nullable, Member.required, Kind.metadata]

theorem metadataText?_resourceVersion (kind : Kind) (object : kind.Object)
    (status : Option Json) :
    (kind.document object status).metadataText? "resourceVersion" =
      (kind.metadata object).resourceVersion := by
  unfold Json.metadataText?
  rw [member?_metadata_document, Option.bind_some, ObjectMeta.member?_resourceVersion,
    Option.bind_map]
  exact Option.bind_fun_some _

theorem metadataText?_uid (kind : Kind) (object : kind.Object) (status : Option Json) :
    (kind.document object status).metadataText? "uid" = (kind.metadata object).uid := by
  unfold Json.metadataText?
  rw [member?_metadata_document, Option.bind_some, ObjectMeta.member?_uid, Option.bind_map]
  exact Option.bind_fun_some _

end Kind

theorem Gateway.fields_eq (gateway : Gateway) :
    Kind.gateway.fields gateway = [("apiVersion", .string gatewayApiVersion),
      ("kind", .string gatewayKind), ("metadata", ObjectMeta.codec.write gateway.metadata),
      ("spec", GatewaySpec.codec.write gateway.spec)] := by
  obtain ⟨metadata, spec, _ | status⟩ := gateway <;> rfl

/-- The document of a gateway under another version. -/
theorem Gateway.withVersion_document {gateway : Gateway}
    (versioned : gateway.metadata.resourceVersion.isSome = true) (status : Option Json)
    (version : String) :
    (Kind.gateway.document gateway status).withVersion version =
      Kind.gateway.document
        { gateway with metadata := { gateway.metadata with resourceVersion := some version } }
        status := by
  unfold Json.withVersion
  rw [Kind.gateway.member?_metadata_document]
  show (Kind.gateway.document gateway status).withMember "metadata"
    ((ObjectMeta.codec.write gateway.metadata).withMember _ _) = _
  rw [ObjectMeta.withMember_resourceVersion versioned]
  refine congrArg Json.object ?_
  show Json.setMember _ _ (Kind.gateway.fields gateway ++ _) = Kind.gateway.fields _ ++ _
  rw [Gateway.fields_eq, Gateway.fields_eq]
  rfl

/-- The slots of a gateway whose status is `null`: all of them are filled. -/
theorem Gateway.setAll_null_status {metadata : ObjectMeta} {spec : GatewaySpec}
    {metadataJson specJson : Json}
    (metadataRead : ObjectMeta.codec.read metadataJson = .ok metadata)
    (specRead : GatewaySpec.codec.read specJson = .ok spec) :
    (Members.cons (Member.required "metadata" ObjectMeta.codec) <|
      .cons (Member.required "spec" GatewaySpec.codec) <|
      .cons (Member.nullable "status" GatewayStatus.codec) .nil).setAll true (none, none, none, ())
      [("metadata", metadataJson), ("spec", specJson), ("status", .null)] =
        .ok (some metadata, some spec, some none, ()) := by
  simp [Members.setAll, Members.set, Member.required, Member.nullable, Member.optional,
    Member.readOption, metadataRead, specRead, bind, Except.bind, Except.map]

/-- A gateway whose status is `null` has none. -/
theorem Gateway.read_null_status {gateway : Gateway} (absent : gateway.status = none) :
    Gateway.codec.read (Kind.gateway.document gateway (some .null)) = .ok gateway := by
  obtain ⟨metadata, spec, status⟩ := gateway
  cases absent
  have filled := setAll_null_status (ObjectMeta.codec_lawful.read_write metadata)
    (GatewaySpec.codec_lawful.read_write spec)
  unfold Kind.document
  rw [Gateway.fields_eq]
  show (Members.readObject true _ ([("apiVersion", _), ("kind", _)] ++
    [("metadata", ObjectMeta.codec.write metadata), ("spec", GatewaySpec.codec.write spec),
      ("status", .null)])).map _ = _
  unfold Members.readObject
  rw [Members.setAll_skip _ _ _ _ (by decide +revert)]
  show ((Members.setAll true _ (none, none, none, ()) _) >>= _).map _ = _
  rw [filled]
  rfl

/-! ### What is kept for an object -/

/-- A document that is kept for an object: the object as it is written, or a gateway without a
status whose status was once written as nothing. -/
inductive Stored.KeptAs : Stored → Json → Prop where
  | written {kind : Kind} (object : kind.Object) :
    KeptAs ⟨kind, object⟩ (kind.document object (kind.status? object))
  | nullStatus {gateway : Gateway} (absent : gateway.status = none) :
    KeptAs ⟨.gateway, gateway⟩ (Kind.gateway.document gateway (some .null))

namespace Stored.KeptAs

variable {kind : Kind} {object : kind.Object} {document : Json}

/-- An object is kept as it is written. -/
theorem write (object : kind.Object) : Stored.KeptAs ⟨kind, object⟩ (kind.codec.write object) := by
  rw [Kind.write_eq_document]
  exact .written object

/-- A document is that of the object with some status. -/
theorem exists_status (kept : Stored.KeptAs ⟨kind, object⟩ document) :
    ∃ status, document = kind.document object status := by
  cases kept with
  | written | nullStatus => exact ⟨_, rfl⟩

/-- The object is read back from its document. -/
theorem read (kept : Stored.KeptAs ⟨kind, object⟩ document) :
    kind.codec.read document = .ok object := by
  cases kept with
  | written =>
    rw [← Kind.write_eq_document]
    exact kind.codec_lawful.read_write object
  | nullStatus absent => exact Gateway.read_null_status absent

theorem metadataText?_resourceVersion (kept : Stored.KeptAs ⟨kind, object⟩ document) :
    document.metadataText? "resourceVersion" = (kind.metadata object).resourceVersion := by
  obtain ⟨status, rfl⟩ := kept.exists_status
  exact kind.metadataText?_resourceVersion object status

theorem metadataText?_uid (kept : Stored.KeptAs ⟨kind, object⟩ document) :
    document.metadataText? "uid" = (kind.metadata object).uid := by
  obtain ⟨status, rfl⟩ := kept.exists_status
  exact kind.metadataText?_uid object status

/-- An object that is written with the status of an old document is the object with the status of
the old one. -/
theorem withStatusOf (kept : Stored.KeptAs ⟨kind, object⟩ document) (updated : kind.Object) :
    Stored.KeptAs ⟨kind, kind.withStatusOf updated object⟩
      ((kind.codec.write updated).withStatusOf document) := by
  rw [Kind.write_eq_document]
  cases kept with
  | written =>
    rw [Kind.withStatusOf_document, ← kind.document_withStatusOf updated object,
      ← kind.status?_withStatusOf updated object]
    exact .written _
  | @nullStatus gateway absent =>
    rw [Kind.withStatusOf_document, ← Kind.gateway.document_withStatusOf updated gateway]
    exact .nullStatus absent

/-- A gateway whose status is written is kept under that status. -/
theorem withMember_status {gateway : Gateway} (kept : Stored.KeptAs ⟨.gateway, gateway⟩ document)
    (status : Option GatewayStatus) :
    Stored.KeptAs ⟨.gateway, { gateway with status }⟩ (document.withMember "status"
      ((status.map GatewayStatus.codec.write).getD .null)) := by
  obtain ⟨before, rfl⟩ := kept.exists_status
  rw [Kind.withMember_status_document,
    ← Kind.gateway.document_withStatusOf gateway { gateway with status }]
  cases status with
  | none => exact .nullStatus rfl
  | some status => exact @written .gateway { gateway with status := some status }

/-- A gateway is kept under another version. -/
theorem withVersion {gateway : Gateway} (kept : Stored.KeptAs ⟨.gateway, gateway⟩ document)
    (versioned : gateway.metadata.resourceVersion.isSome = true) (version : String) :
    Stored.KeptAs ⟨.gateway, { gateway with
      metadata := { gateway.metadata with resourceVersion := some version } }⟩
      (document.withVersion version) := by
  cases kept with
  | written =>
    rw [Gateway.withVersion_document versioned]
    exact @written .gateway _
  | nullStatus absent =>
    rw [Gateway.withVersion_document versioned]
    exact .nullStatus absent

end Stored.KeptAs

/-! ### A store of documents -/

/-- A store of documents: the document at each place, and all else as a store in memory has it. -/
structure Documents where
  document? : ObjectKey → Option Json := fun _ => none
  lastVersion : Nat := 0
  lastUid : Nat := 0
  writes : List WriteRecord := []
  conflicts : List ObjectKey := []

namespace Documents

/-- The text of the next version. -/
def nextVersion (documents : Documents) : String :=
  Memory.versionText (documents.lastVersion + 1)

/-- The documents after one was written with the next version. -/
def write (documents : Documents) (key : ObjectKey) (document : Json) : Documents :=
  { documents with
    document? := Function.update documents.document? key (some document)
    lastVersion := documents.lastVersion + 1 }

/-- The documents with a write logged. -/
def log (documents : Documents) (verb : WriteVerb) (key : ObjectKey) : Documents :=
  { documents with writes := documents.writes ++ [⟨verb, key⟩] }

/-- The error of a document that cannot be read. -/
def unreadable (kind : Kind) (cause : DecodeError) : StoreError :=
  .serialization kind.label (.ofText cause.message)

/-- Writes an object with the next version, and with the next uid if it has none. -/
def place (documents : Documents) (kind : Kind) (key : ObjectKey) (object : kind.Object) :
    kind.Object × Documents :=
  let metadata := { kind.metadata object with resourceVersion := some documents.nextVersion }
  match metadata.uid with
  | some _ =>
    let placed := kind.withMetadata object metadata
    (placed, documents.write key (kind.codec.write placed))
  | none =>
    let number := documents.lastUid + 1
    let placed := kind.withMetadata object { metadata with uid := some (Memory.uidText number) }
    (placed, { documents.write key (kind.codec.write placed) with lastUid := number })

/-- Reads an object from its document. -/
def get (kind : Kind) (name : ObjectName) (documents : Documents) :
    Except StoreError kind.Object :=
  match documents.document? (.of kind name) with
  | none => .error (.notFound kind.label name.namespaceName name.name)
  | some document => (kind.codec.read document).mapError (unreadable kind)

/-- Puts an object into the store as if it had been there all along; nothing is logged. -/
def seed (kind : Kind) (object : kind.Object) (documents : Documents) :
    Except StoreError kind.Object × Documents :=
  match kind.objectName? object with
  | none => (.error (.missingName kind.label), documents)
  | some name =>
    let (placed, documents) := documents.place kind (.of kind name) object
    (.ok placed, documents)

/-- Creates an object. -/
def create (kind : Kind) (object : kind.Object) (documents : Documents) :
    Except StoreError kind.Object × Documents :=
  match kind.objectName? object with
  | none => (.error (.missingName kind.label), documents)
  | some name =>
    let key := ObjectKey.of kind name
    match documents.document? key with
    | some _ => (.error (.alreadyExists kind.label name.namespaceName name.name), documents)
    | none =>
      let (placed, documents) := documents.place kind key object
      (.ok placed, documents.log .create key)

/-- Stores a document when an object can be read from it, and answers that object. The version is
used up in any case. -/
def store (documents : Documents) (kind : Kind) (verb : WriteVerb) (key : ObjectKey)
    (document : Json) : Except StoreError kind.Object × Documents :=
  match kind.codec.read document with
  | .ok object => (.ok object, (documents.write key document).log verb key)
  | .error cause =>
    (.error (unreadable kind cause), { documents with lastVersion := documents.lastVersion + 1 })

/-- The documents after an update of a place whose conflict waited. -/
def settleConflict (documents : Documents) (key : ObjectKey) : Documents :=
  { documents with conflicts := documents.conflicts.filter (· != key) }

/-- Whether an update is based on another version than that of the stored document. -/
def isStale (stored : Json) (given : ObjectMeta) : Bool :=
  given.resourceVersion.isSome &&
    given.resourceVersion != stored.metadataText? "resourceVersion"

/-- Updates an object: the document is that of the given object, with the uid and the status of the
stored one. -/
def update (kind : Kind) (object : kind.Object) (documents : Documents) :
    Except StoreError kind.Object × Documents :=
  match kind.objectName? object with
  | none => (.error (.missingName kind.label), documents)
  | some name =>
    let key := ObjectKey.of kind name
    let conflict := StoreError.conflict kind.label name.namespaceName name.name
    if documents.conflicts.contains key then
      (.error (conflict "the object has been modified"), documents.settleConflict key)
    else
      match documents.document? key with
      | none => (.error (.notFound kind.label name.namespaceName name.name), documents)
      | some stored =>
        if isStale stored (kind.metadata object) then
          (.error (conflict ("the object has been modified; " ++
            "please apply your changes to the latest version")), documents)
        else
          let updated := kind.withMetadata object
            { kind.metadata object with
              resourceVersion := some documents.nextVersion
              uid := stored.metadataText? "uid" }
          documents.store kind .update key ((kind.codec.write updated).withStatusOf stored)

/-- Writes the status of a gateway: two members of its document are set. -/
def updateStatus (gateway : Gateway) (documents : Documents) :
    Except StoreError Gateway × Documents :=
  match Kind.gateway.objectName? gateway with
  | none => (.error (.missingName Kind.gateway.label), documents)
  | some name =>
    let key := ObjectKey.of .gateway name
    match documents.document? key with
    | none => (.error (.notFound Kind.gateway.label name.namespaceName name.name), documents)
    | some stored =>
      let status := (gateway.status.map GatewayStatus.codec.write).getD .null
      documents.store .gateway .updateStatus key
        ((stored.withMember "status" status).withVersion documents.nextVersion)

/-- Makes the next update of an object fail. -/
def injectConflict (key : ObjectKey) (documents : Documents) : Documents :=
  if documents.conflicts.contains key then documents
  else { documents with conflicts := key :: documents.conflicts }

/-- Forgets the writes that were made. -/
def clearWrites (documents : Documents) : Documents := { documents with writes := [] }

end Documents

end GatewayOperator
