/-
This file holds the two versions of Events. The operator makes none, but its store keeps objects of
any type under the bare word of their kind, and the two versions share theirs: they are what an
object of another type looks like in a place of the store. Of their members only those are held
that tell the versions apart, the metadata, and the reason. An Event of the core version always
names the object it is about.
-/

import GatewayOperator.Cluster.Metadata

namespace GatewayOperator

/-- The object an Event is about. -/
structure ObjectReference where
  deriving DecidableEq, Inhabited

/-- The JSON form of `ObjectReference`. -/
def ObjectReference.codec : Codec ObjectReference :=
  Codec.object "ObjectReference"
    .nil
    (fun _ => ())
    (fun _ => {})

theorem ObjectReference.codec_lawful : ObjectReference.codec.Lawful :=
  Codec.object_lawful trivial
    (by decide) (fun _ => rfl)

/-- An Event of the core version. -/
structure CoreEvent where
  involvedObject : ObjectReference := {}
  metadata : ObjectMeta := {}
  reason : Option String := none
  deriving DecidableEq, Inhabited

/-- The JSON form of `CoreEvent`. -/
def CoreEvent.codec : Codec CoreEvent :=
  Codec.object "Event"
    (.cons (Member.constant "apiVersion" "v1") <|
     .cons (Member.constant "kind" "Event") <|
     .cons (Member.filled "involvedObject" ObjectReference.codec {}) <|
     .cons (Member.filled "metadata" ObjectMeta.codec {}) <|
     .cons (Member.optional "reason" Codec.text) .nil)
    (fun record => ((), (), record.involvedObject, record.metadata, record.reason, ()))
    (fun (_, _, involvedObject, metadata, reason, ()) =>
      { involvedObject, metadata, reason })

theorem CoreEvent.codec_lawful : CoreEvent.codec.Lawful :=
  Codec.object_lawful ⟨Member.constant_lawful _ _, Member.constant_lawful _ _,
    Member.filled_lawful ObjectReference.codec_lawful,
    Member.filled_lawful ObjectMeta.codec_lawful, Member.optional_lawful Codec.text_lawful,
    trivial⟩
    (by decide) (fun _ => rfl)

/-- An Event of the events group. -/
structure Event where
  metadata : ObjectMeta := {}
  reason : Option String := none
  deriving DecidableEq, Inhabited

/-- The JSON form of `Event`. -/
def Event.codec : Codec Event :=
  Codec.object "Event"
    (.cons (Member.constant "apiVersion" "events.k8s.io/v1") <|
     .cons (Member.constant "kind" "Event") <|
     .cons (Member.filled "metadata" ObjectMeta.codec {}) <|
     .cons (Member.optional "reason" Codec.text) .nil)
    (fun record => ((), (), record.metadata, record.reason, ()))
    (fun (_, _, metadata, reason, ()) =>
      { metadata, reason })

theorem Event.codec_lawful : Event.codec.Lawful :=
  Codec.object_lawful ⟨Member.constant_lawful _ _, Member.constant_lawful _ _,
    Member.filled_lawful ObjectMeta.codec_lawful, Member.optional_lawful Codec.text_lawful,
    trivial⟩
    (by decide) (fun _ => rfl)

end GatewayOperator
