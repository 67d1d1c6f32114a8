/-
This file says what claiming an object does to its metadata: it touches nothing but the references
to owners. The name, the version and the uid of an object survive a claim, so an object that is
written with a claim is still guarded by the version it was read at. A claim writes the reference
in the place of the first one to the same owner, or at the end when there is none, and an object
that was claimed once is recognised when the same owner claims it again. Because the reference to
the same owner is looked for first, a controlling owner behind it is passed over, and the object has
two of them afterwards.
-/

import GatewayOperator.Ownership

namespace GatewayOperator

/-- What a claim makes of the metadata, if it is not refused. -/
def Claimed.metadata? : Claimed → Option ObjectMeta
  | refreshed metadata | appended metadata => some metadata
  | refused _ => none

/-- A claim changes nothing but the references to owners. -/
theorem ObjectMeta.claim_metadata? {metadata claimed : ObjectMeta} {owner : OwnerReference}
    (claims : (metadata.claim owner).metadata? = some claimed) :
    claimed = { metadata with ownerReferences := claimed.ownerReferences } := by
  unfold ObjectMeta.claim at claims
  dsimp only at claims
  split at claims
  · cases claims
    rfl
  · split at claims
    · cases claims
    · cases claims
      rfl

/-! ### The references to owners -/

theorem OwnerReference.sameOwner_self (reference : OwnerReference) :
    reference.sameOwner reference = true := by
  unfold sameOwner
  rw [beq_self_eq_true, beq_self_eq_true, beq_self_eq_true, Bool.or_true, Bool.and_self,
    Bool.and_self]

/-- A replacement takes the place of the first entry that satisfies the test. -/
theorem replaceFirst?_of_find? {Value : Type} {test : Value → Bool} {values : List Value}
    {existing : Value} (found : values.find? test = some existing) (new : Value) :
    ∃ before after, values = before ++ existing :: after ∧
      replaceFirst? test new values = some (before ++ new :: after) := by
  induction values with
  | nil => cases found
  | cons value rest inductionHypothesis =>
    unfold replaceFirst?
    by_cases satisfies : test value = true
    · rw [List.find?_cons_of_pos satisfies] at found
      cases found
      rw [if_pos satisfies]
      exact ⟨[], rest, rfl, rfl⟩
    · rw [List.find?_cons_of_neg satisfies] at found
      obtain ⟨before, after, rfl, replaced⟩ := inductionHypothesis found
      rw [if_neg satisfies, replaced]
      exact ⟨value :: before, after, rfl, rfl⟩

theorem replaceFirst?_eq_none {Value : Type} {test : Value → Bool} {values : List Value}
    (absent : values.find? test = none) (new : Value) :
    replaceFirst? test new values = none := by
  induction values with
  | nil => rfl
  | cons value rest inductionHypothesis =>
    have fails : test value ≠ true := List.find?_eq_none.mp absent value List.mem_cons_self
    rw [List.find?_cons_of_neg fails] at absent
    unfold replaceFirst?
    rw [if_neg fails, inductionHypothesis absent, Option.map_none]

namespace ObjectMeta

variable {metadata claimed : ObjectMeta} {owner : OwnerReference}

/-- The owners that an object refers to. -/
def references (metadata : ObjectMeta) : List OwnerReference := metadata.ownerReferences.getD []

/-- The first reference of an object to an owner. -/
def referenceTo? (metadata : ObjectMeta) (owner : OwnerReference) : Option OwnerReference :=
  metadata.references.find? (·.sameOwner owner)

/-- An object that refers to the owner already has its first reference to it replaced. -/
theorem claim_of_referenceTo? {existing : OwnerReference}
    (found : metadata.referenceTo? owner = some existing) :
    ∃ before after, metadata.references = before ++ existing :: after ∧
      metadata.claim owner =
        .refreshed { metadata with ownerReferences := some (before ++ owner :: after) } := by
  obtain ⟨before, after, split, replaced⟩ := replaceFirst?_of_find? found owner
  refine ⟨before, after, split, ?_⟩
  unfold claim
  dsimp only
  rw [show metadata.ownerReferences.getD [] = metadata.references from rfl, replaced]

/-- An object that does not refer to the owner is refused, or it gets the reference at the
end. -/
theorem claim_of_no_reference (absent : metadata.referenceTo? owner = none) :
    (∃ controller, metadata.claim owner = .refused controller) ∨
    metadata.claim owner =
      .appended { metadata with ownerReferences := some (metadata.references ++ [owner]) } := by
  unfold claim
  dsimp only
  rw [show metadata.ownerReferences.getD [] = metadata.references from rfl,
    replaceFirst?_eq_none absent]
  dsimp only
  split
  · exact Or.inl ⟨_, rfl⟩
  · exact Or.inr rfl

/-- A claim that is refreshed replaced a reference to the same owner. -/
theorem of_claim_refreshed (owned : metadata.claim owner = .refreshed claimed) :
    ∃ existing before after, metadata.referenceTo? owner = some existing ∧
      metadata.references = before ++ existing :: after ∧
      claimed.references = before ++ owner :: after := by
  cases found : metadata.referenceTo? owner with
  | none =>
    obtain ⟨controller, refused⟩ | appended := claim_of_no_reference found
    · rw [refused] at owned
      cases owned
    · rw [appended] at owned
      cases owned
  | some existing =>
    obtain ⟨before, after, split, refreshed⟩ := claim_of_referenceTo? found
    rw [refreshed] at owned
    cases owned
    exact ⟨existing, before, after, rfl, split, rfl⟩

/-- A claim that is appended found no reference to the owner. -/
theorem of_claim_appended (free : metadata.claim owner = .appended claimed) :
    metadata.referenceTo? owner = none ∧ claimed.references = metadata.references ++ [owner] := by
  cases found : metadata.referenceTo? owner with
  | some existing =>
    obtain ⟨before, after, -, refreshed⟩ := claim_of_referenceTo? found
    rw [refreshed] at free
    cases free
  | none =>
    obtain ⟨controller, refused⟩ | appended := claim_of_no_reference found
    · rw [refused] at free
      cases free
    · rw [appended] at free
      cases free
      exact ⟨rfl, rfl⟩

/-- A claim that is appended found an object that nobody controls, and changes nothing of it but
that its own reference comes behind the others. -/
theorem eq_of_claim_appended (free : metadata.claim owner = .appended claimed) :
    (∀ reference ∈ metadata.references, reference.controls = false) ∧
      claimed = { metadata with ownerReferences := some (metadata.references ++ [owner]) } := by
  unfold claim at free
  dsimp only at free
  split at free
  · cases free
  · split at free
    · cases free
    · next uncontrolled =>
      cases free
      refine ⟨fun reference member => ?_, rfl⟩
      exact Bool.eq_false_iff.mpr (List.find?_eq_none.mp uncontrolled reference member)

/-- An object that has the owner's reference is recognised when the owner claims it. -/
theorem exists_claim_refreshed (member : owner ∈ metadata.references) :
    ∃ claimed, metadata.claim owner = .refreshed claimed := by
  have found : (metadata.referenceTo? owner).isSome = true :=
    List.find?_isSome.mpr ⟨owner, member, owner.sameOwner_self⟩
  obtain ⟨existing, isFirst⟩ := Option.isSome_iff_exists.mp found
  obtain ⟨before, after, -, refreshed⟩ := claim_of_referenceTo? isFirst
  exact ⟨_, refreshed⟩

/-! ### Controlling owners -/

/-- At most one of the owners that an object refers to controls it. -/
def SingleController (metadata : ObjectMeta) : Prop :=
  (metadata.references.filter (·.controls)).length ≤ 1

/-- An object that nobody controls has at most one controlling owner when any owner is added. -/
theorem singleController_of_uncontrolled {references : List OwnerReference}
    (uncontrolled : ∀ reference ∈ references, reference.controls = false)
    (owners : claimed.references = references ++ [owner]) : claimed.SingleController := by
  unfold SingleController
  have none : references.filter (·.controls) = [] := by
    rw [List.filter_eq_nil_iff]
    intro reference member controls
    rw [uncontrolled reference member] at controls
    cases controls
  rw [owners, List.filter_append, none, List.nil_append]
  exact List.length_filter_le _ _

/-- The owners that control an object. -/
def controllers (metadata : ObjectMeta) : List OwnerReference :=
  metadata.references.filter (·.controls)

/-- The controlling owners that a claim passes over: all but the one that it finds as the owner's
own reference. -/
def passedOver (metadata : ObjectMeta) (owner : OwnerReference) : List OwnerReference :=
  metadata.controllers.filter fun controller => metadata.referenceTo? owner != some controller

/-- A claim is refused exactly when there is no reference to the owner, and the controlling owner
that comes first is named. -/
theorem claim_eq_refused_iff {controller : OwnerReference} :
    metadata.claim owner = .refused controller ↔
      metadata.referenceTo? owner = none ∧ metadata.controllers.head? = some controller := by
  unfold controllers
  rw [List.head?_filter]
  cases found : metadata.referenceTo? owner with
  | some existing =>
    obtain ⟨before, after, -, refreshed⟩ := claim_of_referenceTo? found
    rw [refreshed]
    exact iff_of_false nofun nofun
  | none =>
    unfold claim
    dsimp only
    rw [show metadata.ownerReferences.getD [] = metadata.references from rfl,
      replaceFirst?_eq_none found]
    dsimp only
    cases metadata.references.find? (·.controls) with
    | none => exact iff_of_false nofun nofun
    | some other => simp

/-- A claim that is appended makes the owner the only one that controls the object. -/
theorem controllers_of_appended (controls : owner.controls = true)
    (free : metadata.claim owner = .appended claimed) :
    claimed.controllers = [owner] ∧ metadata.passedOver owner = [] := by
  obtain ⟨-, owners⟩ := of_claim_appended free
  have nobody : metadata.controllers = [] := by
    refine List.filter_eq_nil_iff.mpr fun reference member => ?_
    exact Bool.eq_false_iff.mp ((eq_of_claim_appended free).1 reference member)
  constructor
  · show claimed.references.filter (·.controls) = [owner]
    rw [owners, List.filter_append, show metadata.references.filter (·.controls) = [] from nobody,
      List.nil_append, List.filter_cons_of_pos controls, List.filter_nil]
  · unfold passedOver
    rw [nobody, List.filter_nil]

/-- The one reference that controls an object is none of those around it. -/
theorem controllers_around (single : metadata.SingleController) {existing : OwnerReference}
    {before after : List OwnerReference}
    (owners : metadata.references = before ++ existing :: after)
    (controlled : existing.controls = true) :
    (before ++ after).filter (·.controls) = [] := by
  have counted : ((before ++ existing :: after).filter (·.controls)).length =
      (before.filter (·.controls)).length + ((after.filter (·.controls)).length + 1) := by
    rw [List.filter_append, List.filter_cons_of_pos controlled, List.length_append,
      List.length_cons]
  unfold SingleController at single
  rw [owners, counted] at single
  rw [List.filter_append, ← List.length_eq_zero_iff, List.length_append]
  omega

/-- What a claim passes over are the controlling owners around the reference that it refreshes. -/
theorem passedOver_of_refreshed (single : metadata.SingleController) {existing : OwnerReference}
    {before after : List OwnerReference} (isFirst : metadata.referenceTo? owner = some existing)
    (owners : metadata.references = before ++ existing :: after) :
    metadata.passedOver owner = (before ++ after).filter (·.controls) := by
  unfold passedOver controllers
  rw [isFirst, owners]
  by_cases controlled : existing.controls = true
  · have around := controllers_around single owners controlled
    rw [around]
    rw [List.filter_append, List.append_eq_nil_iff] at around
    rw [List.filter_append, List.filter_cons_of_pos controlled, around.1, around.2]
    simp
  · rw [List.filter_append, List.filter_cons_of_neg controlled, ← List.filter_append,
      List.filter_filter]
    refine List.filter_congr fun reference _ => ?_
    cases controls : reference.controls with
    | false => simp
    | true =>
      have different : existing ≠ reference := fun same => controlled (same ▸ controls)
      simpa using different

/-- A claim that is not refused makes the owner one of the controlling owners, beside those that it
passed over. -/
theorem controllers_of_claimed (single : metadata.SingleController)
    (controls : owner.controls = true)
    (claims : (metadata.claim owner).metadata? = some claimed) :
    claimed.controllers.Perm (owner :: metadata.passedOver owner) := by
  cases claim : metadata.claim owner with
  | refused controller =>
    rw [claim] at claims
    cases claims
  | appended appended =>
    rw [claim] at claims
    cases claims
    obtain ⟨owners, nobody⟩ := controllers_of_appended controls claim
    rw [owners, nobody]
  | refreshed refreshed =>
    rw [claim] at claims
    cases claims
    obtain ⟨existing, before, after, isFirst, owners, replaced⟩ := of_claim_refreshed claim
    rw [passedOver_of_refreshed single isFirst owners]
    unfold controllers
    rw [replaced, List.filter_append, List.filter_append, List.filter_cons_of_pos controls]
    exact List.perm_middle

/-- Who controls an object after a controlling owner claimed it, when at most one owner controlled
it before. The claim is refused exactly when somebody controls the object and it has no reference to
the owner; the one that controls it is named. Otherwise the claim succeeds, and the owner controls
the object beside the controlling owners that the claim passed over. So it is the only one exactly
when the object was controlled by nobody, or by the reference that the claim refreshes; an object
with a reference to the owner that does not control keeps its controlling owner and has two of
them. -/
theorem controllers_after_claim (single : metadata.SingleController)
    (controls : owner.controls = true) :
    (∀ controller, metadata.claim owner = .refused controller ↔
      metadata.referenceTo? owner = none ∧ metadata.controllers = [controller]) ∧
    (metadata.referenceTo? owner ≠ none ∨ metadata.controllers = [] →
      ∃ claimed, (metadata.claim owner).metadata? = some claimed ∧
        claimed.controllers.Perm (owner :: metadata.passedOver owner) ∧
        (claimed.controllers = [owner] ↔ ∀ controller ∈ metadata.controllers,
          metadata.referenceTo? owner = some controller)) := by
  constructor
  · intro controller
    rw [claim_eq_refused_iff]
    refine and_congr_right fun _ => ?_
    replace single : metadata.controllers.length ≤ 1 := single
    match metadata.controllers, single with
    | [], _ => exact iff_of_false nofun nofun
    | [first], _ => simp
  · intro free
    obtain ⟨claimed, claims⟩ : ∃ claimed, (metadata.claim owner).metadata? = some claimed := by
      cases claim : metadata.claim owner with
      | refused controller =>
        obtain ⟨absent, first⟩ := claim_eq_refused_iff.mp claim
        rcases free with present | nobody
        · exact absurd absent present
        · rw [nobody] at first
          cases first
      | refreshed metadata | appended metadata => exact ⟨metadata, rfl⟩
    have permuted := controllers_of_claimed single controls claims
    refine ⟨claimed, claims, permuted, ?_⟩
    have alone : claimed.controllers = [owner] ↔ metadata.passedOver owner = [] := by
      constructor
      · intro owners
        rw [owners] at permuted
        exact List.length_eq_zero_iff.mp (Nat.succ.inj permuted.length_eq.symm)
      · intro nobody
        rw [nobody] at permuted
        exact List.perm_singleton.mp permuted
    rw [alone, passedOver, List.filter_eq_nil_iff]
    exact forall₂_congr fun controller _ => by simp

/-- A reference to an owner with a name, which controls or not. -/
def namedOwner (name uid : String) (controller : Option Bool) : OwnerReference where
  apiVersion := "apps.3scale.net/v1alpha1"
  controller := controller
  kind := "APIcast"
  name := name
  uid := uid

/-- The metadata of a Secret with some owners. -/
def ownedMetadata (references : List OwnerReference) : ObjectMeta where
  name := some "settings"
  namespaceName := some "default"
  ownerReferences := some references

/-- An owner that controls an object already still is the only one after it claimed the object. -/
theorem controller_claims_again :
    let owner := namedOwner "edge" "uid-edge" (some true)
    let metadata := ownedMetadata [namedOwner "other" "uid-other" none, owner]
    metadata.SingleController ∧ owner.controls = true ∧
    ∃ claimed, (metadata.claim owner).metadata? = some claimed ∧ claimed.controllers = [owner] := by
  intro owner metadata
  have single : metadata.SingleController := by
    unfold SingleController
    decide
  have present : metadata.referenceTo? owner ≠ none := by decide
  have controls : owner.controls = true := rfl
  obtain ⟨claimed, claims, -, alone⟩ := (controllers_after_claim single controls).2 (Or.inl present)
  exact ⟨single, controls, claimed, claims, alone.mpr (by decide)⟩

/-- An object with a reference to the owner that does not control, and with another owner that does,
is not refused, though it would be without the first of them: afterwards two owners control it. -/
theorem loose_reference_hides_controller :
    let owner := namedOwner "edge" "uid-edge" (some true)
    let loose := namedOwner "edge" "uid-edge" none
    let rival := namedOwner "rival" "uid-rival" (some true)
    let metadata := ownedMetadata [loose, rival]
    metadata.SingleController ∧ owner.controls = true ∧
    (rival ∈ metadata.controllers ∧ rival.sameOwner owner = false) ∧
    (ownedMetadata [rival]).claim owner = .refused rival ∧
    metadata.claim owner = .refreshed (ownedMetadata [owner, rival]) ∧
    (ownedMetadata [owner, rival]).controllers = [owner, rival] := by
  intro owner loose rival metadata
  refine ⟨?_, rfl, ⟨by decide, by decide⟩, by decide, by decide, by decide⟩
  unfold SingleController
  decide

end ObjectMeta

end GatewayOperator
