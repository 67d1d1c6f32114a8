/-
This file makes a claim in place, on metadata that the caller goes on to hold whatever comes of the
claim, and says what the claim leaves there. No reference to an owner is lost: at most the first one
to the same owner is replaced, and otherwise the reference comes behind the others. A second claim
of the same owner finds the reference that the first one wrote, though two references can each mean
the same owner as a third without meaning the same owner themselves. An absent list of references
becomes an empty one before it is searched; that a refused claim still leaves the metadata as it was
is because somebody controls the object then, so its list was not absent.
-/

import GatewayOperator.Proofs.Ownership
import GatewayOperator.Reconcile.Secrets

namespace GatewayOperator

/-- What a claim that is made in place returns, and the metadata that it leaves. -/
structure ClaimRun where
  /-- Whether a reference came to the object, or why the claim was refused. -/
  returned : Except ReconcileError Bool
  metadata : ObjectMeta

namespace ObjectMeta

/-- The error of an object that somebody else controls. -/
def alreadyOwned (metadata : ObjectMeta) (kind : String) (controller : OwnerReference) :
    ReconcileError :=
  .alreadyOwned kind (metadata.namespaceName.getD "") (metadata.name.getD "") controller.kind
    controller.name

/-- Makes an owner the controlling owner of an object in place. -/
def claimInPlace (kind : String) (owner : OwnerReference) (metadata : ObjectMeta) : ClaimRun :=
  let searched := { metadata with ownerReferences := some metadata.references }
  match metadata.references.findIdx? (·.sameOwner owner) with
  | some position =>
    ⟨.ok false,
      { searched with ownerReferences := some (metadata.references.set position owner) }⟩
  | none =>
    match metadata.references.find? (·.controls) with
    | some controller => ⟨.error (searched.alreadyOwned kind controller), searched⟩
    | none =>
      ⟨.ok true, { searched with ownerReferences := some (metadata.references ++ [owner]) }⟩

end ObjectMeta

/-- What a claim amounts to in place. -/
def Claimed.inPlace (kind : String) (metadata : ObjectMeta) : Claimed → ClaimRun
  | refreshed claimed => ⟨.ok false, claimed⟩
  | appended claimed => ⟨.ok true, claimed⟩
  | refused controller => ⟨.error (metadata.alreadyOwned kind controller), metadata⟩

/-! ### Claims in place -/

/-- A replacement is made at the position of the first entry that satisfies the test. -/
theorem replaceFirst?_eq_set {Value : Type} (test : Value → Bool) (new : Value)
    (values : List Value) :
    replaceFirst? test new values =
      (values.findIdx? test).map fun position => values.set position new := by
  induction values with
  | nil => rfl
  | cons value rest inductionHypothesis =>
    unfold replaceFirst?
    rw [List.findIdx?_cons]
    by_cases satisfies : test value = true
    · rw [if_pos satisfies, if_pos satisfies]
      rfl
    · rw [if_neg satisfies, if_neg satisfies, inductionHypothesis, Option.map_map, Option.map_map]
      rfl

namespace ObjectMeta

variable {metadata claimed : ObjectMeta} {owner : OwnerReference}

/-- A list of references with a member is there. -/
theorem ownerReferences_eq_some_of_mem {reference : OwnerReference}
    (member : reference ∈ metadata.references) :
    metadata.ownerReferences = some metadata.references := by
  unfold references at member ⊢
  cases present : metadata.ownerReferences with
  | none =>
    rw [present] at member
    cases member
  | some references => rfl

/-- A claim in place is the claim, and leaves the metadata alone when it is refused. -/
theorem claimInPlace_eq (kind : String) (owner : OwnerReference) (metadata : ObjectMeta) :
    metadata.claimInPlace kind owner = (metadata.claim owner).inPlace kind metadata := by
  unfold claimInPlace claim
  dsimp only
  rw [replaceFirst?_eq_set, show metadata.ownerReferences.getD [] = metadata.references from rfl]
  cases metadata.references.findIdx? (·.sameOwner owner) with
  | some position => rfl
  | none =>
    cases controlled : metadata.references.find? (·.controls) with
    | none => rfl
    | some controller =>
      have there := ownerReferences_eq_some_of_mem (List.mem_of_find?_eq_some controlled)
      have same : { metadata with ownerReferences := some metadata.references } = metadata := by
        rw [← there]
      show (⟨_, _⟩ : ClaimRun) = ⟨_, _⟩
      rw [same]

end ObjectMeta

/-- A gateway takes ownership of a Secret by a claim in place, and writes the Secret when a
reference came to it. -/
theorem takeOwnership_eq (gateway : Gateway) (secret : Secret) :
    takeOwnership gateway secret =
      let run := secret.metadata.claimInPlace Kind.secret.label gateway.ownerReference
      let claimed := { secret with metadata := run.metadata }
      match run.returned with
      | .error error => .fail error
      | .ok false => return ⟨some claimed, false⟩
      | .ok true => do
        let updated ← Attempt.ask (.update .secret claimed)
        return ⟨some updated, true⟩ := by
  rw [ObjectMeta.claimInPlace_eq]
  unfold takeOwnership
  cases secret.metadata.claim gateway.ownerReference <;> rfl

/-! ### What a claim leaves -/

namespace ObjectMeta

variable {metadata claimed : ObjectMeta} {owner : OwnerReference}

/-- A claim replaces the first reference to the same owner. -/
theorem claim_of_split {before after : List OwnerReference} {existing : OwnerReference}
    (owners : metadata.references = before ++ existing :: after)
    (others : ∀ reference ∈ before, reference.sameOwner owner = false)
    (same : existing.sameOwner owner = true) :
    metadata.claim owner =
      .refreshed { metadata with ownerReferences := some (before ++ owner :: after) } := by
  have replaced : replaceFirst? (·.sameOwner owner) owner (before ++ existing :: after) =
      some (before ++ owner :: after) := by
    clear owners
    induction before with
    | nil => exact if_pos same
    | cons reference before inductionHypothesis =>
      rw [List.forall_mem_cons] at others
      rw [List.cons_append, replaceFirst?, inductionHypothesis others.2, others.1]
      rfl
  unfold claim
  dsimp only
  rw [show metadata.ownerReferences.getD [] = metadata.references from rfl, owners, replaced]

/-- The references before the first one to the same owner are to others. -/
theorem exists_split_of_referenceTo? {existing : OwnerReference}
    (found : metadata.referenceTo? owner = some existing) :
    existing.sameOwner owner = true ∧ ∃ before after,
      metadata.references = before ++ existing :: after ∧
      ∀ reference ∈ before, reference.sameOwner owner = false := by
  obtain ⟨same, before, after, owners, others⟩ := List.find?_eq_some_iff_append.mp found
  refine ⟨same, before, after, owners, fun reference member => ?_⟩
  simpa using others reference member

/-- An owner that claimed an object is recognised when it claims the object again, and the second
claim leaves everything as the first one did. -/
theorem claim_of_claimed (claims : (metadata.claim owner).metadata? = some claimed) :
    claimed.claim owner = .refreshed claimed := by
  -- The reference stands behind references to other owners, and is written over by itself.
  have again {before after : List OwnerReference}
      (others : ∀ reference ∈ before, reference.sameOwner owner = false)
      (result : claimed =
        { metadata with ownerReferences := some (before ++ owner :: after) }) :
      claimed.claim owner = .refreshed claimed := by
    subst result
    exact claim_of_split rfl others owner.sameOwner_self
  cases found : metadata.referenceTo? owner with
  | some existing =>
    obtain ⟨same, before, after, owners, others⟩ := exists_split_of_referenceTo? found
    rw [claim_of_split owners others same] at claims
    exact again others (Option.some.inj claims).symm
  | none =>
    have others : ∀ reference ∈ metadata.references, reference.sameOwner owner = false :=
      fun reference member => by simpa using List.find?_eq_none.mp found reference member
    obtain ⟨controller, refused⟩ | appended := claim_of_no_reference found
    · rw [refused] at claims
      cases claims
    · rw [appended] at claims
      exact again others (Option.some.inj claims).symm

/-- Claims in place lose no reference to an owner. A claim that adds a reference found none to the
owner and nobody who controls the object, and puts it behind the others. A claim that adds none has
written over the first reference to the same owner, and over no other. After either of them a second
claim of the owner adds none and changes nothing. A claim that is refused found no reference to the
owner, leaves the metadata as it was, and its error names the controlling owner that comes first.
Nothing but the references is ever changed. -/
theorem claims_lose_no_reference (kind : String) (metadata : ObjectMeta) (owner : OwnerReference) :
    let run := metadata.claimInPlace kind owner
    (run.returned = .ok true →
      metadata.referenceTo? owner = none ∧ metadata.controllers = [] ∧
      run.metadata =
        { metadata with ownerReferences := some (metadata.references ++ [owner]) }) ∧
    (run.returned = .ok false → ∃ before existing after,
      metadata.references = before ++ existing :: after ∧ existing.sameOwner owner = true ∧
      (∀ reference ∈ before, reference.sameOwner owner = false) ∧
      run.metadata = { metadata with ownerReferences := some (before ++ owner :: after) }) ∧
    (∀ added, run.returned = .ok added →
      run.metadata.claimInPlace kind owner = ⟨.ok false, run.metadata⟩) ∧
    (∀ error, run.returned = .error error →
      metadata.referenceTo? owner = none ∧ run.metadata = metadata ∧
      ∃ controller, metadata.controllers.head? = some controller ∧
        error = .alreadyOwned kind (metadata.namespaceName.getD "") (metadata.name.getD "")
          controller.kind controller.name) := by
  intro run
  have isRun : run = (metadata.claim owner).inPlace kind metadata :=
    claimInPlace_eq kind owner metadata
  have again : ∀ claimed, (metadata.claim owner).metadata? = some claimed →
      claimed.claimInPlace kind owner = ⟨.ok false, claimed⟩ := by
    intro claimed claims
    rw [claimInPlace_eq, claim_of_claimed claims]
    rfl
  clear_value run
  subst isRun
  cases claim : metadata.claim owner with
  | appended claimed =>
    have absent := (of_claim_appended claim).1
    obtain ⟨uncontrolled, isClaimed⟩ := eq_of_claim_appended claim
    have nobody : metadata.controllers = [] :=
      List.filter_eq_nil_iff.mpr fun reference member =>
        Bool.eq_false_iff.mp (uncontrolled reference member)
    refine ⟨fun _ => ⟨absent, nobody, isClaimed⟩, nofun, fun _ _ => ?_,
      fun _ returned => by cases returned⟩
    exact again claimed (by rw [claim]; rfl)
  | refreshed claimed =>
    obtain ⟨existing, -, -, found, -, -⟩ := of_claim_refreshed claim
    obtain ⟨same, before, after, owners, others⟩ := exists_split_of_referenceTo? found
    have isClaimed := claim.symm.trans (claim_of_split owners others same)
    cases isClaimed
    refine ⟨nofun, fun _ => ⟨before, existing, after, owners, same, others, rfl⟩, fun _ _ => ?_,
      fun _ returned => by cases returned⟩
    exact again _ (by rw [claim]; rfl)
  | refused controller =>
    obtain ⟨absent, first⟩ := claim_eq_refused_iff.mp claim
    refine ⟨nofun, nofun, nofun, fun error returned => ⟨absent, rfl, controller, first, ?_⟩⟩
    cases returned
    rfl

/-- An owner puts its reference behind that of another one, writes over the first of two references
that both mean it, and is refused by an object that a rival controls. -/
theorem edge_claims_three_secrets :
    let owner := namedOwner "edge" "uid-edge" (some true)
    let other := namedOwner "other" "uid-other" none
    let rival := namedOwner "rival" "uid-rival" (some true)
    let free := (ownedMetadata [other]).claimInPlace "Secret" owner
    let owned :=
      (ownedMetadata [other, namedOwner "edge" "" none, owner]).claimInPlace "Secret" owner
    let taken := (ownedMetadata [rival]).claimInPlace "Secret" owner
    (free.returned = .ok true ∧ free.metadata = ownedMetadata [other, owner]) ∧
    (owned.returned = .ok false ∧ owned.metadata = ownedMetadata [other, owner, owner] ∧
      owned.metadata.claimInPlace "Secret" owner = ⟨.ok false, owned.metadata⟩) ∧
    (taken.returned = .error (.alreadyOwned "Secret" "default" "settings" "APIcast" "rival") ∧
      taken.metadata = ownedMetadata [rival]) := by
  intro owner other rival free owned taken
  have freely : free.returned = .ok true := rfl
  have already : owned.returned = .ok false := rfl
  have refused : taken.returned =
    .error (.alreadyOwned "Secret" "default" "settings" "APIcast" "rival") := rfl
  obtain ⟨added, -, -, -⟩ := claims_lose_no_reference "Secret" (ownedMetadata [other]) owner
  obtain ⟨-, -, again, -⟩ := claims_lose_no_reference "Secret"
    (ownedMetadata [other, namedOwner "edge" "" none, owner]) owner
  obtain ⟨-, -, -, left⟩ := claims_lose_no_reference "Secret" (ownedMetadata [rival]) owner
  exact ⟨⟨freely, (added freely).2.2⟩, ⟨already, rfl, again false already⟩,
    ⟨refused, (left _ refused).2.1⟩⟩

end ObjectMeta

end GatewayOperator
