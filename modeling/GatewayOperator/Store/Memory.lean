/-
This file holds a store in memory that keeps the rules of the cluster. Every write gives the
object a fresh version; an object without a uid gets one when it is created; an update of an
object that was written since it was read is a conflict; and the status of an object is written
only by itself, so an update keeps it. Every successful write is logged.
-/

import GatewayOperator.Store.Program

namespace GatewayOperator

/-- An object with its kind. -/
structure Stored where
  kind : Kind
  object : kind.Object

namespace Stored

/-- The metadata of a stored object. -/
def metadata (stored : Stored) : ObjectMeta := stored.kind.metadata stored.object

/-- The JSON form of a stored object. -/
def json (stored : Stored) : Json := stored.kind.codec.write stored.object

/-- Reads a stored object as one of a kind. An object of another kind is read from its JSON
form. -/
def readAs (stored : Stored) (kind : Kind) : Except DecodeError kind.Object :=
  if same : stored.kind = kind then .ok (same ▸ stored.object) else kind.codec.read stored.json

@[simp] theorem readAs_self (kind : Kind) (object : kind.Object) :
    readAs ⟨kind, object⟩ kind = .ok object := by
  simp [readAs]

end Stored

/-- Where an object is stored. Kinds that share their word share their places. -/
structure ObjectKey where
  label : String
  namespaceName : String
  name : String
  deriving DecidableEq

/-- The place of an object of a kind. -/
def ObjectKey.of (kind : Kind) (name : ObjectName) : ObjectKey :=
  ⟨kind.label, name.namespaceName, name.name⟩

/-- The ways of writing. -/
inductive WriteVerb where
  | create
  | update
  | updateStatus
  deriving DecidableEq

/-- A write that was made. -/
structure WriteRecord where
  verb : WriteVerb
  key : ObjectKey
  deriving DecidableEq

/-- A store in memory: its objects, the last version and the last uid given, the writes that
were made, and the objects whose next update is going to fail as if somebody had stepped in. -/
structure Memory where
  objects : List (ObjectKey × Stored) := []
  lastVersion : Nat := 0
  lastUid : Nat := 0
  writes : List WriteRecord := []
  conflicts : List ObjectKey := []

namespace Memory

/-! ### The objects -/

/-- The object at a place among objects. -/
def lookup (key : ObjectKey) : List (ObjectKey × Stored) → Option Stored
  | [] => none
  | (other, stored) :: rest => if other = key then some stored else lookup key rest

/-- Puts an object at its place. -/
def put (key : ObjectKey) (stored : Stored) :
    List (ObjectKey × Stored) → List (ObjectKey × Stored)
  | [] => [(key, stored)]
  | (other, old) :: rest =>
    if other = key then (key, stored) :: rest else (other, old) :: put key stored rest

@[simp] theorem lookup_put_self (key : ObjectKey) (stored : Stored)
    (objects : List (ObjectKey × Stored)) : lookup key (put key stored objects) = some stored := by
  induction objects with
  | nil => simp [put, lookup]
  | cons head rest inductionHypothesis =>
    obtain ⟨other, old⟩ := head
    unfold put
    split
    · simp [lookup]
    · next different => simp [lookup, different, inductionHypothesis]

theorem lookup_put_other {key other : ObjectKey} (stored : Stored)
    (objects : List (ObjectKey × Stored)) (different : other ≠ key) :
    lookup other (put key stored objects) = lookup other objects := by
  induction objects with
  | nil => simp [put, lookup, Ne.symm different]
  | cons head rest inductionHypothesis =>
    obtain ⟨present, old⟩ := head
    unfold put
    split
    · next equal =>
      subst equal
      simp [lookup, Ne.symm different]
    · simp [lookup, inductionHypothesis]

/-- The object at a place. -/
def object? (memory : Memory) (key : ObjectKey) : Option Stored := lookup key memory.objects

/-- The text of a version. -/
def versionText (version : Nat) : String := Decimal.integerText version

/-- The text of a uid: twelve digits behind zeros. -/
def uidText (number : Nat) : String :=
  let digits := Decimal.digitsOf number
  "00000000-0000-0000-0000-" ++ String.ofList (Decimal.zeros (12 - digits.length) ++ digits)

/-- Metadata with the next version. -/
def stamp (memory : Memory) (metadata : ObjectMeta) : ObjectMeta :=
  { metadata with resourceVersion := some (versionText (memory.lastVersion + 1)) }

/-- The memory after an object was written with the next version. -/
def write (memory : Memory) (key : ObjectKey) (stored : Stored) : Memory :=
  { memory with
    objects := put key stored memory.objects
    lastVersion := memory.lastVersion + 1 }

/-- The memory with a write logged. -/
def log (memory : Memory) (verb : WriteVerb) (key : ObjectKey) : Memory :=
  { memory with writes := memory.writes ++ [⟨verb, key⟩] }

/-- Stores an object with the next version, and with the next uid if it has none. -/
def place (memory : Memory) (kind : Kind) (key : ObjectKey) (object : kind.Object) :
    kind.Object × Memory :=
  let metadata := memory.stamp (kind.metadata object)
  match metadata.uid with
  | some _ =>
    let placed := kind.withMetadata object metadata
    (placed, memory.write key ⟨kind, placed⟩)
  | none =>
    let number := memory.lastUid + 1
    let placed := kind.withMetadata object { metadata with uid := some (uidText number) }
    (placed, { memory.write key ⟨kind, placed⟩ with lastUid := number })

/-! ### Calls -/

/-- Reads an object. -/
def get (kind : Kind) (name : ObjectName) (memory : Memory) : Except StoreError kind.Object :=
  match memory.object? (.of kind name) with
  | none => .error (.notFound kind.label name.namespaceName name.name)
  | some stored =>
    match stored.readAs kind with
    | .ok object => .ok object
    | .error cause => .error (.serialization kind.label (.ofText cause.message))

/-- Puts an object into the store as if it had been there all along; nothing is logged. -/
def seed (kind : Kind) (object : kind.Object) (memory : Memory) :
    Except StoreError kind.Object × Memory :=
  match kind.objectName? object with
  | none => (.error (.missingName kind.label), memory)
  | some name =>
    let (placed, memory) := memory.place kind (.of kind name) object
    (.ok placed, memory)

/-- Creates an object. -/
def create (kind : Kind) (object : kind.Object) (memory : Memory) :
    Except StoreError kind.Object × Memory :=
  match kind.objectName? object with
  | none => (.error (.missingName kind.label), memory)
  | some name =>
    let key := ObjectKey.of kind name
    match memory.object? key with
    | some _ => (.error (.alreadyExists kind.label name.namespaceName name.name), memory)
    | none =>
      let (placed, memory) := memory.place kind key object
      (.ok placed, memory.log .create key)

/-- The object an update stores: that of the call with the uid and the status of the one it
replaces. -/
def replacement (memory : Memory) (kind : Kind) (stored : Stored) (object : kind.Object) :
    kind.Object :=
  let metadata := { memory.stamp (kind.metadata object) with uid := stored.metadata.uid }
  let updated := kind.withMetadata object metadata
  match stored.readAs kind with
  | .ok old => kind.withStatusOf updated old
  | .error _ => updated

/-- Whether an update is based on another version than the stored one. An update without a
version is based on any. -/
def isStale (stored given : ObjectMeta) : Bool :=
  given.resourceVersion.isSome && given.resourceVersion != stored.resourceVersion

/-- Updates an object. -/
def update (kind : Kind) (object : kind.Object) (memory : Memory) :
    Except StoreError kind.Object × Memory :=
  match kind.objectName? object with
  | none => (.error (.missingName kind.label), memory)
  | some name =>
    let key := ObjectKey.of kind name
    let conflict := StoreError.conflict kind.label name.namespaceName name.name
    if memory.conflicts.contains key then
      (.error (conflict "the object has been modified"),
        { memory with conflicts := memory.conflicts.filter (· != key) })
    else
      match memory.object? key with
      | none => (.error (.notFound kind.label name.namespaceName name.name), memory)
      | some stored =>
        if isStale stored.metadata (kind.metadata object) then
          (.error (conflict ("the object has been modified; " ++
            "please apply your changes to the latest version")), memory)
        else
          let updated := memory.replacement kind stored object
          (.ok updated, (memory.write key ⟨kind, updated⟩).log .update key)

/-- Writes the status of a gateway. -/
def updateStatus (gateway : Gateway) (memory : Memory) : Except StoreError Gateway × Memory :=
  match Kind.gateway.objectName? gateway with
  | none => (.error (.missingName Kind.gateway.label), memory)
  | some name =>
    let key := ObjectKey.of .gateway name
    match memory.get .gateway name with
    | .error cause => (.error cause, memory)
    | .ok stored =>
      let updated : Gateway :=
        { stored with metadata := memory.stamp stored.metadata, status := gateway.status }
      (.ok updated, (memory.write key ⟨.gateway, updated⟩).log .updateStatus key)

/-- Makes the next update of an object fail. -/
def injectConflict (key : ObjectKey) (memory : Memory) : Memory :=
  if memory.conflicts.contains key then memory
  else { memory with conflicts := key :: memory.conflicts }

/-- Forgets the writes that were made. -/
def clearWrites (memory : Memory) : Memory := { memory with writes := [] }

/-- The memory as a store. -/
def store : Store Memory where
  answer
    | .get kind namespaceName name, memory => (memory.get kind ⟨namespaceName, name⟩, memory)
    | .create kind object, memory => memory.create kind object
    | .update kind object, memory => memory.update kind object
    | .updateStatus gateway, memory => memory.updateStatus gateway

end Memory

end GatewayOperator
