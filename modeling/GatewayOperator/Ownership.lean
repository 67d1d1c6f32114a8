/-
This file takes ownership of objects. An object has at most one owner that controls it: a
reference to the same owner is refreshed in place, a reference is appended when nobody controls
the object, and an object that somebody else controls is refused.
-/

import GatewayOperator.Cluster.Metadata

namespace GatewayOperator

/-- Whether two references mean the same owner. A reference without a uid means any owner of its
kind and name. -/
def OwnerReference.sameOwner (first second : OwnerReference) : Bool :=
  first.kind == second.kind && first.name == second.name &&
    (first.uid.isEmpty || second.uid.isEmpty || first.uid == second.uid)

/-- Whether a reference is that of the controlling owner. -/
def OwnerReference.controls (reference : OwnerReference) : Bool :=
  reference.controller == some true

/-- Replaces the first entry that satisfies a test; nothing if none does. -/
def replaceFirst? {Value : Type} (test : Value → Bool) (new : Value) :
    List Value → Option (List Value)
  | [] => none
  | value :: rest =>
    if test value then some (new :: rest) else (replaceFirst? test new rest).map (value :: ·)

/-- What becomes of an object when an owner asks for it. -/
inductive Claimed where
  /-- The owner had a reference already, which was refreshed. -/
  | refreshed (metadata : ObjectMeta)
  /-- A reference was appended. -/
  | appended (metadata : ObjectMeta)
  /-- Somebody else controls the object. -/
  | refused (controller : OwnerReference)
  deriving DecidableEq

/-- Makes an owner the controlling owner of an object. -/
def ObjectMeta.claim (metadata : ObjectMeta) (owner : OwnerReference) : Claimed :=
  let references := metadata.ownerReferences.getD []
  match replaceFirst? (·.sameOwner owner) owner references with
  | some refreshed => .refreshed { metadata with ownerReferences := some refreshed }
  | none =>
    match references.find? (·.controls) with
    | some controller => .refused controller
    | none => .appended { metadata with ownerReferences := some (references ++ [owner]) }

end GatewayOperator
