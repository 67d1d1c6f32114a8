/-
This file follows a change of a Secret into the Deployment of a gateway. A pass that converged left
the Deployment with the versions of the Secrets on its pod template. Every later write of a Secret
gives it a version that was never given before, so the next pass finds other versions desired than
those on the template; and it finds nothing else desired otherwise, because the Secrets keep their
names. It writes the Deployment once for that, however many Secrets changed and however often, and
when none of its own Secrets changed it writes nothing.
-/

import GatewayOperator.Proofs.Fields.Versions
import GatewayOperator.Proofs.Reconcile.Inspection
import GatewayOperator.Proofs.Reconcile.Progress
import GatewayOperator.Proofs.Reconcile.Wiring

namespace GatewayOperator

/-! ### Paths of a pass -/

/-- A Secret that is not there is nothing to own. -/
theorem SecretResolution.ends_absent {role : SecretRole} {gateway : Gateway}
    {exchanges : List Exchange} (resolution : SecretResolution role gateway exchanges (.ok none)) :
    (reconcileSecret role gateway).Ends exchanges (.ok ⟨none, false⟩) := by
  unfold reconcileSecret
  exact (Attempt.ends_bind _ _ _ _).mpr
    (Or.inr ⟨_, [], _, (List.append_nil _).symm, resolution.ends, rfl, rfl⟩)

/-- A Secret that refers to the gateway is owned without a write. -/
theorem SecretResolution.ends_owned {role : SecretRole} {gateway : Gateway}
    {exchanges : List Exchange} {secret : Secret} {metadata : ObjectMeta}
    (resolution : SecretResolution role gateway exchanges (.ok (some secret)))
    (owned : secret.metadata.claim gateway.ownerReference = .refreshed metadata) :
    (reconcileSecret role gateway).Ends exchanges (.ok ⟨some { secret with metadata }, false⟩) := by
  unfold reconcileSecret
  exact (Attempt.ends_bind _ _ _ _).mpr (Or.inr ⟨_, [], _, (List.append_nil _).symm,
    resolution.ends, (ends_takeOwnership_refreshed owned _ _).mpr ⟨rfl, rfl⟩⟩)

/-- A stage that goes on without an error has a name to read the Secret by. -/
theorem SecretStage.named {role : SecretRole} {gateway : Gateway} {exchanges : List Exchange}
    {secret : Option Secret} (stage : SecretStage role gateway exchanges (.ok ⟨secret, false⟩))
    {reference : LocalObjectReference} (refers : gateway.secretReference? role = some reference) :
    reference.name.isEmpty = false := by
  have ofResolution : ∀ {found : Option Secret},
      SecretResolution role gateway exchanges (.ok found) → reference.name.isEmpty = false := by
    intro found resolution
    cases resolution with
    | unset unset =>
      rw [unset] at refers
      cases refers
    | fit otherRefers named fit =>
      rw [otherRefers] at refers
      cases refers
      exact named
  cases stage with
  | absent resolution => exact ofResolution resolution
  | owned resolution owned => exact ofResolution resolution

/-- A pass that converged is over a gateway whose references have names. -/
theorem Turn.named_of_done {turn : Turn} (done : turn.result = .ok .done) (role : SecretRole)
    (reference : LocalObjectReference)
    (refers : turn.gateway.secretReference? role = some reference) :
    reference.name.isEmpty = false := by
  obtain ⟨-, -, _, _, _, _, _, -, first, second, -⟩ := ends_pass_done turn.ends done
  cases role with
  | adminPortal => exact (SecretStage.of_ends first).named refers
  | embeddedConfig => exact (SecretStage.of_ends second).named refers

namespace Memory

/-! ### Secrets that are accepted -/

/-- Each Secret a gateway refers to is stored, passes its check, and refers to the gateway. -/
def Accepts (memory : Memory) (gateway : Gateway) : Prop :=
  ∀ role reference, gateway.secretReference? role = some reference →
    ∃ secret existing,
      memory.object? (.of .secret (gateway.secretName reference)) = some ⟨.secret, secret⟩ ∧
      role.check secret = .ok () ∧
      secret.metadata.referenceTo? gateway.ownerReference = some existing

/-- A Secret is resolved by the name of its reference and its stored version. -/
theorem WellKept.resolvedSecret?_of_stored {memory : Memory} (wellKept : WellKept memory)
    {role : SecretRole} {gateway : Gateway} {reference : LocalObjectReference} {secret : Secret}
    (refers : gateway.secretReference? role = some reference)
    (found : memory.object? (.of .secret (gateway.secretName reference)) =
      some ⟨.secret, secret⟩) :
    memory.resolvedSecret? role gateway =
      some ⟨reference.name, secret.metadata.resourceVersion.getD ""⟩ := by
  have place := Kind.eq_of_objectName? (wellKept.objectName? found)
  have isNamed : reference.name = secret.name := congrArg ObjectName.name place
  unfold resolvedSecret?
  rw [refers, Option.bind_some, get_found found, isNamed]
  rfl

/-- A Secret that is accepted is read and not written. -/
theorem Accepts.exists_reads {memory : Memory} {gateway : Gateway}
    (accepts : memory.Accepts gateway) {role : SecretRole}
    (named : ∀ reference, gateway.secretReference? role = some reference →
      reference.name.isEmpty = false) :
    ∃ exchanges secret, (reconcileSecret role gateway).Ends exchanges (.ok ⟨secret, false⟩) ∧
      memory.Reads exchanges ∧
      memory.resolvedSecret? role gateway = secret.map Secret.resolved := by
  cases refers : gateway.secretReference? role with
  | none =>
    have ends := (SecretResolution.unset refers).ends_absent
    exact ⟨_, _, ends, .nil memory, (of_secretStage (.of_ends ends) rfl).2⟩
  | some reference =>
    obtain ⟨secret, existing, found, fit, owner⟩ := accepts role reference refers
    obtain ⟨_, _, -, owned⟩ := ObjectMeta.claim_of_referenceTo? owner
    have ends := (SecretResolution.fit refers (named reference refers) fit).ends_owned owned
    have reads : memory.Reads _ := .single (get_found found)
    exact ⟨_, _, ends, reads, (of_secretStage (.of_ends ends) reads.gives).2⟩

/-- Where the Secrets are accepted, a pass reads them and brings the objects about. -/
theorem Accepts.exists_pass {memory : Memory} {gateway : Gateway} (accepts : memory.Accepts gateway)
    (named : ∀ role reference, gateway.secretReference? role = some reference →
      reference.name.isEmpty = false)
    (complete : gateway.lacksDefaults = false) {policy : ReplicaPolicy} {children : List Exchange}
    (ends : (reconcileChildren policy (memory.desiredState gateway)).Ends children (.ok ())) :
    ∃ reads, memory.Reads reads ∧
      (pass policy gateway).Ends (reads ++ children) ⟨.ok .done, gateway⟩ := by
  obtain ⟨first, portal, firstEnds, firstReads, portalResolved⟩ :=
    accepts.exists_reads (named .adminPortal)
  obtain ⟨second, config, secondEnds, secondReads, configResolved⟩ :=
    accepts.exists_reads (named .embeddedConfig)
  have same : memory.desiredState gateway = gateway.desiredWith portal config := by
    unfold desiredState Gateway.desiredWith
    rw [portalResolved, configResolved]
  rw [same] at ends
  refine ⟨first ++ second, firstReads.append secondReads, ?_⟩
  rw [List.append_assoc]
  exact (ends_pass_complete complete _ _).mpr
    ⟨ends_reconcileGateway_done firstEnds secondEnds ends, rfl⟩

end Memory

/-! ### Rotations -/

/-- An update of a Secret that succeeded. -/
def Exchange.IsRotation (exchange : Exchange) : Prop :=
  ∃ secret updated, exchange = writing .secret secret (.ok updated)

/-- Some of the exchanges writes a Secret that a gateway refers to. -/
def Gateway.RotatedBy (gateway : Gateway) (exchanges : List Exchange) : Prop :=
  ∃ role reference, gateway.secretReference? role = some reference ∧
    ∃ exchange ∈ exchanges, exchange.call.place? = some (.of .secret (gateway.secretName reference))

namespace Memory

section Rotations

variable {before after : Memory} {exchanges : List Exchange} (reachable : before.Reachable)
  (gives : store.Gives before exchanges after)
  (rotations : ∀ exchange ∈ exchanges, exchange.IsRotation)
include reachable gives rotations

/-- Rotations leave everything alone that is no Secret. -/
theorem Reachable.rotations_other {key : ObjectKey} (other : key.label ≠ Kind.secret.label) :
    after.object? key = before.object? key := by
  refine reachable.gives_object?_other gives fun exchange member => ?_
  obtain ⟨secret, updated, rfl⟩ := rotations exchange member
  exact Call.place?_ne_of_label (Ne.symm other)

/-- A Secret that was rotated is stored under a version that was not given before. -/
theorem Reachable.rotations_version {name : ObjectName}
    (rotated : ∃ exchange ∈ exchanges, exchange.call.place? = some (.of .secret name)) :
    ∃ secret version, after.object? (.of .secret name) = some ⟨.secret, secret⟩ ∧
      secret.metadata.resourceVersion = some (versionText version) ∧
      before.lastVersion < version := by
  induction exchanges generalizing before with
  | nil =>
    obtain ⟨exchange, member, -⟩ := rotated
    cases member
  | cons exchange exchanges inductionHypothesis =>
    rw [List.forall_mem_cons] at rotations
    obtain ⟨given, updated, rfl⟩ := rotations.1
    obtain ⟨answered, rest⟩ := gives
    have succeeds : before.update .secret given =
        (.ok updated, (before.update .secret given).2) := Prod.ext answered rfl
    obtain ⟨place, stored, named, -, -, wrote⟩ := of_update succeeds
    have next : (before.update .secret given).2.Reachable :=
      reachable.perform (.call (.update .secret given))
    by_cases later : ∃ exchange ∈ exchanges, exchange.call.place? = some (.of .secret name)
    · obtain ⟨secret, version, found, text, newer⟩ :=
        inductionHypothesis next rest rotations.2 later
      replace newer : (before.update .secret given).2.lastVersion < version := newer
      rw [wrote.lastVersion] at newer
      exact ⟨secret, version, found, text, Nat.lt_of_succ_lt newer⟩
    · -- The last write of the Secret is this one.
      have stays : after.object? (.of .secret name) =
          (before.update .secret given).2.object? (.of .secret name) :=
        next.gives_object?_other rest fun exchange member same => later ⟨exchange, member, same⟩
      obtain ⟨exchange, member, same⟩ := rotated
      rcases List.mem_cons.mp member with rfl | member
      · have isPlace : (Kind.secret.objectName? given).map (ObjectKey.of .secret) =
            some (.of .secret name) := same
        rw [named] at isPlace
        obtain ⟨-, rfl⟩ := ObjectKey.of_eq_of.mp (Option.some.inj isPlace)
        exact ⟨updated, _, stays.trans wrote.object?_self, wrote.version, Nat.lt_succ_self _⟩
      · exact absurd ⟨exchange, member, same⟩ later

end Rotations

end Memory

/-! ### The pass after rotations -/

/-- Memories with the Secrets of a gateway resolve them under the same names. -/
theorem Memory.sameNames {before after : Memory} {gateway : Gateway}
    (wellKept : before.WellKept) (owns : ∀ role, before.OwnsFor gateway role)
    (afterWellKept : after.WellKept) (accepts : after.Accepts gateway) :
    (before.resolvedSecrets gateway).SameNames (after.resolvedSecrets gateway) := by
  intro role
  rw [ofRole_resolvedSecrets, ofRole_resolvedSecrets]
  cases refers : gateway.secretReference? role with
  | none =>
    unfold resolvedSecret?
    rw [refers]
    rfl
  | some reference =>
    obtain ⟨secret, -, found, -⟩ := owns role reference refers
    obtain ⟨other, -, otherFound, -⟩ := accepts role reference refers
    rw [wellKept.resolvedSecret?_of_stored refers found,
      afterWellKept.resolvedSecret?_of_stored refers otherFound]
    rfl

/-- A pass whose one write is an update of the Deployment that changes the annotations of the pod
template alone. They hold the versions of the Secrets afterwards. -/
structure Turn.Rolls (turn : Turn) (updated : Deployment) : Prop where
  written : ∃ given, turn.exchanges.filter (·.call.writes) =
    [writing .deployment given (.ok updated)]
  logged : turn.after.writes = turn.before.writes ++
    [⟨.update, .of .deployment turn.gateway.childObjectName⟩]
  stored : turn.after.object? (.of .deployment turn.gateway.childObjectName) =
    some ⟨.deployment, updated⟩
  others : ∀ key, key ≠ .of .deployment turn.gateway.childObjectName →
    turn.after.object? key = turn.before.object? key
  reported : ((reconcileChild .deployment (Deployment.rules turn.policy)
      (turn.before.desiredState turn.gateway).deployment).run.run Memory.store turn.before).result =
    .ok (.updated ["spec.template.metadata.annotations"])
  versions : ∀ role reference, turn.gateway.secretReference? role = some reference →
    ∃ secret annotations version,
      turn.after.object? (.of .secret (turn.gateway.secretName reference)) =
        some ⟨.secret, secret⟩ ∧
      secret.metadata.resourceVersion = some version ∧
      updated.templateAnnotations? = some annotations ∧
      annotations.get? role.versionAnnotation = some version

/-- A Deployment that is as desired with other versions of the Secrets is written once, with the
versions as they are now. -/
theorem Memory.Holds.rolls {memory : Memory} {policy : ReplicaPolicy} {gateway : Gateway}
    {old new : ResolvedSecrets}
    (holds : memory.Holds policy gateway .deployment (desiredDeployment gateway old))
    (wellKept : memory.WellKept) (quiet : memory.Quiet) (same : old.SameNames new)
    (differs : (versionAnnotations old).getD Map.empty ≠ (versionAnnotations new).getD Map.empty) :
    ∃ existing given updated after,
      (reconcileChild .deployment (Deployment.rules policy) (desiredDeployment gateway new)).Ends
        [reading .deployment gateway.childObjectName (.ok existing),
          writing .deployment given (.ok updated)]
        (.ok (.updated ["spec.template.metadata.annotations"])) ∧
      Memory.store.Gives memory [reading .deployment gateway.childObjectName (.ok existing),
        writing .deployment given (.ok updated)] after ∧
      memory.Wrote (.of .deployment gateway.childObjectName) ⟨.deployment, updated⟩ after ∧
      after.writes = memory.writes ++ [⟨.update, .of .deployment gateway.childObjectName⟩] ∧
      updated.templateAnnotations? = versionAnnotations new := by
  obtain ⟨existing, found, unchanging⟩ := holds
  have settled :=
    (Deployment.reconcileFields_changed_eq_nil_iff_settled policy existing _).mp unchanging
  have otherAnnotations : existing.templateAnnotations?.getD Map.empty ≠
      (desiredDeployment gateway new).templateAnnotations?.getD Map.empty := by
    rw [settled.annotations]
    exact differs
  have changed : (reconcileFields (desiredDeployment gateway new) (Deployment.rules policy)
      existing).changed = ["spec.template.metadata.annotations"] :=
    Deployment.changed_of_annotations settled rfl (pod?_desiredDeployment_congr same gateway)
      otherAnnotations
  have annotations := Deployment.templateAnnotations?_reconcileFields policy otherAnnotations
  -- The update succeeds, because it is made under the name and the version that were read.
  have place := (Kind.deployment.objectName?_reconcileFields policy existing
    (desiredDeployment gateway new)).trans (wellKept.objectName? found)
  have version := congrArg ObjectMeta.resourceVersion
    (Kind.deployment.metadata_reconcileFields policy existing (desiredDeployment gateway new))
  have updated := quiet.update_stored place found version
  obtain ⟨name, stored, named, -, -, wrote⟩ := Memory.of_update updated
  cases place.symm.trans named
  refine ⟨existing, _, _, _, ?_, ⟨Memory.get_found found, congrArg Prod.fst updated,
    (congrArg Prod.snd updated).symm⟩, wrote, rfl, ?_⟩
  · refine (ends_reconcileChild rfl _ _).mpr (Or.inl ⟨existing, _, rfl, ?_⟩)
    refine (ends_updateChild_differs (fun none => ?_) _ _).mpr (Or.inr ⟨_, rfl, ?_⟩)
    · rw [changed] at none
      cases none
    · rw [changed]
  · rw [Memory.replacement_stored]
    exact annotations

/-- Behind the Deployment there are only reads where the other objects are held. -/
theorem Memory.exists_reads_behind_deployment {memory : Memory} {policy : ReplicaPolicy}
    {gateway : Gateway} {secrets : ResolvedSecrets}
    (holds : ∀ kind desired, kind ≠ .deployment →
      (GatewayOperator.desiredState gateway secrets).child? kind = some desired →
        memory.Holds policy gateway kind desired) :
    ∃ reads, memory.Reads reads ∧ ∀ calls outcome,
      (reconcileChild .deployment (Deployment.rules policy)
        (desiredDeployment gateway secrets)).Ends calls (.ok outcome) →
      (reconcileChildren policy (GatewayOperator.desiredState gateway secrets)).Ends
        (calls ++ reads) (.ok ()) := by
  obtain ⟨service, serviceEnds, serviceReads⟩ := (holds .service _ nofun rfl).reads rfl
  cases exposed : (GatewayOperator.desiredState gateway secrets).ingress with
  | none =>
    exact ⟨service, serviceReads, fun calls outcome ends =>
      (ChildrenStage.unexposed exposed ends serviceEnds).ends⟩
  | some wanted =>
    obtain ⟨ingress, ingressEnds, ingressReads⟩ :=
      (holds .ingress wanted nofun exposed).reads exposed
    refine ⟨service ++ ingress, serviceReads.append ingressReads, fun calls outcome ends => ?_⟩
    rw [← List.append_assoc]
    exact (ChildrenStage.exposed exposed ends serviceEnds ingressEnds).ends

/-- No read stands among the calls that write. -/
theorem Memory.Reads.filter_writes {memory : Memory} {exchanges : List Exchange}
    (reads : memory.Reads exchanges) : exchanges.filter (·.call.writes) = [] :=
  List.filter_eq_nil_iff.mpr fun exchange member => by
    rw [reads.reading exchange member]
    exact Bool.false_ne_true

/-- What is desired of the other objects does not depend on the Secrets, so they are held behind a
write of the Deployment, too. -/
theorem Memory.Wrote.holds_beside {memory after : Memory} {policy : ReplicaPolicy}
    {gateway : Gateway} {old new : ResolvedSecrets} {updated : Deployment}
    (wrote : memory.Wrote (.of .deployment gateway.childObjectName) ⟨.deployment, updated⟩ after)
    (holds : ∀ kind desired, (GatewayOperator.desiredState gateway old).child? kind = some desired →
      memory.Holds policy gateway kind desired) :
    ∀ kind desired, kind ≠ .deployment →
      (GatewayOperator.desiredState gateway new).child? kind = some desired →
        after.Holds policy gateway kind desired := by
  have frame : ∀ key : ObjectKey, key.label ≠ Kind.deployment.label →
      after.object? key = memory.object? key := fun key label =>
    wrote.object?_other fun equal => label (equal ▸ rfl)
  intro kind desired different child
  have sameChild : (GatewayOperator.desiredState gateway old).child? kind = some desired := by
    cases kind with
    | deployment => exact absurd rfl different
    | _ => exact child
  refine (holds kind desired sameChild).keep frame fun label => different ?_
  exact ((Kind.alone_of_isChild (DesiredState.isChild_of_child? child)).eq_of_label
    label.symm).symm

/-- The versions of the Secrets of a gateway are recorded as the memory has them. -/
theorem Memory.Accepts.exists_version {memory : Memory} {gateway : Gateway}
    (accepts : memory.Accepts gateway) (wellKept : memory.WellKept) {role : SecretRole}
    {reference : LocalObjectReference} (refers : gateway.secretReference? role = some reference) :
    ∃ secret annotations version,
      memory.object? (.of .secret (gateway.secretName reference)) = some ⟨.secret, secret⟩ ∧
      secret.metadata.resourceVersion = some version ∧
      versionAnnotations (memory.resolvedSecrets gateway) = some annotations ∧
      annotations.get? role.versionAnnotation = some version := by
  obtain ⟨secret, -, found, -⟩ := accepts role reference refers
  obtain ⟨version, -, text⟩ := wellKept.version _ _ found
  have resolved : (memory.resolvedSecrets gateway).ofRole role = some _ :=
    (Memory.ofRole_resolvedSecrets _ _ _).trans
      (wellKept.resolvedSecret?_of_stored refers found)
  obtain ⟨annotations, areAnnotations, recorded⟩ := exists_versionAnnotation resolved
  replace text : secret.metadata.resourceVersion = some (Memory.versionText version) := text
  rw [text] at recorded
  exact ⟨secret, annotations, _, found, text, areAnnotations, recorded⟩

/-- A pass that finds everything as desired but for other versions of the Secrets rolls the
Deployment. -/
theorem Turn.rolls_of_differs {turn : Turn} (reachable : turn.before.Reachable)
    (quiet : turn.before.Quiet) (complete : turn.gateway.lacksDefaults = false)
    (named : ∀ role reference, turn.gateway.secretReference? role = some reference →
      reference.name.isEmpty = false)
    (accepts : turn.before.Accepts turn.gateway) {old : ResolvedSecrets}
    (same : old.SameNames (turn.before.resolvedSecrets turn.gateway))
    (differs : (versionAnnotations old).getD Map.empty ≠
      (versionAnnotations (turn.before.resolvedSecrets turn.gateway)).getD Map.empty)
    (holds : ∀ kind desired, (desiredState turn.gateway old).child? kind = some desired →
      turn.before.Holds turn.policy turn.gateway kind desired) :
    turn.result = .ok .done ∧ ∃ updated, turn.Rolls updated := by
  obtain ⟨existing, given, updated, after, ends, gives, wrote, logged, annotations⟩ :=
    (holds .deployment _ rfl).rolls reachable.wellKept quiet same differs
  have others : ∀ key : ObjectKey, key ≠ .of .deployment turn.gateway.childObjectName →
      after.object? key = turn.before.object? key := fun key => wrote.object?_other
  obtain ⟨behind, behindReads, childrenEnd⟩ :=
    Memory.exists_reads_behind_deployment (wrote.holds_beside holds)
  obtain ⟨reads, readsReads, passEnds⟩ :=
    accepts.exists_pass named complete (childrenEnd _ _ ends)
  obtain ⟨result, state, calls⟩ := Program.run_eq_of_gives passEnds
    ((Memory.store.gives_append _ _ _ _).mpr ⟨_, readsReads.gives,
      (Memory.store.gives_append _ _ _ _).mpr ⟨_, gives, behindReads.gives⟩⟩)
  have isAfter : turn.after = after := state
  have areCalls : turn.exchanges = _ := calls
  refine ⟨congrArg PassResult.result result, updated, ⟨given, ?_⟩, ?_, ?_, ?_, ?_, ?_⟩
  · rw [areCalls, List.filter_append, List.filter_append, readsReads.filter_writes,
      behindReads.filter_writes]
    rfl
  · rw [isAfter]
    exact logged
  · rw [isAfter]
    exact wrote.object?_self
  · rw [isAfter]
    exact others
  · exact (Program.run_eq_of_gives ends gives).1
  · intro role reference refers
    obtain ⟨secret, versions, version, found, text, areVersions, recorded⟩ :=
      accepts.exists_version reachable.wellKept refers
    refine ⟨secret, versions, version, ?_, text, annotations.trans areVersions, recorded⟩
    rw [isAfter]
    refine (others _ fun equal => ?_).trans found
    exact absurd (congrArg ObjectKey.label equal)
      (show Kind.secret.label ≠ Kind.deployment.label by decide)

/-- The desired objects depend on no Secrets but those that are referred to. -/
theorem Memory.desiredState_of_referred {first second : Memory} {gateway : Gateway}
    (same : ∀ role reference, gateway.secretReference? role = some reference →
      first.object? (.of .secret (gateway.secretName reference)) =
        second.object? (.of .secret (gateway.secretName reference))) :
    first.desiredState gateway = second.desiredState gateway := by
  have resolved : ∀ role, first.resolvedSecret? role gateway =
      second.resolvedSecret? role gateway := fun role => by
    unfold resolvedSecret?
    cases refers : gateway.secretReference? role with
    | none => rfl
    | some reference =>
      rw [Option.bind_some, Option.bind_some, get_congr (same role reference refers)]
  unfold desiredState
  rw [resolved, resolved]

/-- A rotation shows in the versions that are recorded. -/
theorem Memory.versions_differ_of_rotated {before after : Memory} {gateway : Gateway}
    (reachable : before.Reachable) (owns : ∀ role, before.OwnsFor gateway role)
    {exchanges : List Exchange} (gives : store.Gives before exchanges after)
    (rotations : ∀ exchange ∈ exchanges, exchange.IsRotation)
    (rotated : gateway.RotatedBy exchanges) :
    (versionAnnotations (before.resolvedSecrets gateway)).getD Map.empty ≠
      (versionAnnotations (after.resolvedSecrets gateway)).getD Map.empty := by
  obtain ⟨role, reference, refers, written⟩ := rotated
  obtain ⟨secret, version, found, text, newer⟩ :=
    reachable.rotations_version gives rotations written
  obtain ⟨old, -, oldFound, -⟩ := owns role reference refers
  obtain ⟨oldVersion, given, oldText⟩ := reachable.wellKept.version _ _ oldFound
  replace oldText : old.metadata.resourceVersion = some (versionText oldVersion) := oldText
  intro equal
  have recorded := congrArg (·.get? role.versionAnnotation) equal
  simp only [get?_versionAnnotations, ofRole_resolvedSecrets] at recorded
  rw [reachable.wellKept.resolvedSecret?_of_stored refers oldFound,
    (reachable.gives gives).wellKept.resolvedSecret?_of_stored refers found, text, oldText]
    at recorded
  have same : oldVersion = version := versionText_injective (Option.some.inj recorded)
  exact absurd newer (Nat.not_lt.mpr (same ▸ given))

/-- A rotation of Secrets rolls the Deployment, and nothing else does. Starting from a state in
which a pass over the stored gateway has just converged and no conflict waits, any clients may
update any Secrets successfully, as long as those the gateway refers to still pass their checks and
still refer to the gateway. The next pass over the stored gateway, under the same policy, converges.
If one of its Secrets was updated, it writes the Deployment once, for the versions of the Secrets on
the pod template and for nothing else; otherwise it writes nothing. -/
theorem rotation_rolls_deployment {first : Turn} {name : ObjectName}
    (reachable : first.before.Reachable)
    (stored : first.before.object? (.of .gateway name) = some ⟨.gateway, first.gateway⟩)
    (done : first.result = .ok .done) (quiet : first.after.Quiet) {exchanges : List Exchange}
    {final : Memory} (gives : Memory.store.Gives first.after exchanges final)
    (rotations : ∀ exchange ∈ exchanges, exchange.IsRotation)
    (accepts : final.Accepts first.gateway) :
    let next : Turn := ⟨first.policy, first.gateway, final⟩
    final.object? (.of .gateway name) = some ⟨.gateway, first.gateway⟩ ∧
    next.result = .ok .done ∧
    (first.gateway.RotatedBy exchanges → ∃ updated, next.Rolls updated) ∧
    (¬ first.gateway.RotatedBy exchanges → next.WritesNothing) := by
  intro next
  obtain ⟨-, holds, untouched⟩ := reachable.of_run_done first.policy first.gateway done
  have complete : first.gateway.lacksDefaults = false := (ends_pass_done first.ends done).1
  have afterReachable := first.reachable_after reachable
  have finalReachable := afterReachable.gives gives
  have others : ∀ key : ObjectKey, key.label ≠ Kind.secret.label →
      final.object? key = first.after.object? key := fun key =>
    afterReachable.rotations_other gives rotations
  have owns : ∀ role, first.after.OwnsFor first.gateway role := fun role reference refers =>
    (first.ownsFor_of_done reachable done role reference refers).keep
      (untouched _ fun _ child =>
        Kind.label_ne_of_isChild (show Kind.secret.Alone by decide) rfl child)
  have held : ∀ kind desired,
      (first.after.desiredState first.gateway).child? kind = some desired →
      final.Holds first.policy first.gateway kind desired := fun kind desired child =>
    (holds kind desired child).keep others (Kind.label_ne_of_isChild
      (show Kind.secret.Alone by decide) rfl (DesiredState.isChild_of_child? child)).symm
  refine ⟨(others _ (show Kind.gateway.label ≠ _ by decide)).trans
    (first.stored_after_of_complete reachable stored complete), ?_⟩
  by_cases rotated : first.gateway.RotatedBy exchanges
  · have same := Memory.sameNames afterReachable.wellKept owns finalReachable.wellKept accepts
    have differs := Memory.versions_differ_of_rotated afterReachable owns gives rotations rotated
    obtain ⟨converges, rolls⟩ := next.rolls_of_differs finalReachable (quiet.gives gives) complete
      (first.named_of_done done) accepts same differs held
    exact ⟨converges, fun _ => rolls, fun not => absurd rotated not⟩
  · -- The Secrets of the gateway are as they were, so the same is desired and held.
    have sameState : final.desiredState first.gateway =
        first.after.desiredState first.gateway :=
      Memory.desiredState_of_referred fun role reference refers =>
        afterReachable.gives_object?_other gives fun exchange member place =>
          rotated ⟨role, reference, refers, exchange, member, place⟩
    rw [← sameState] at held
    obtain ⟨children, childrenEnd, childrenRead⟩ := Memory.exists_reads_of_holds held
    obtain ⟨reads, readsRead, passEnds⟩ :=
      accepts.exists_pass (first.named_of_done done) complete childrenEnd
    obtain ⟨converges, nothing⟩ := next.of_reads passEnds (readsRead.append childrenRead)
    exact ⟨converges, fun isRotated => absurd isRotated rotated, fun _ => nothing⟩

/-- The Secret of both references with another token, as a client writes it. -/
def rotatedSecret : Secret where
  metadata :=
    { wiredSecret.metadata with ownerReferences := some [storedWiredGateway.ownerReference] }
  stringData := some
    ((Map.empty.insert adminPortalKey "https://renewed@portal.example.com").insert
      configurationKey "\x7b\x7d")

/-- The Secret as it is stored. -/
def storedRotatedSecret : Secret :=
  { rotatedSecret with
    metadata :=
      { rotatedSecret.metadata with
        resourceVersion := some "6"
        uid := some "00000000-0000-0000-0000-000000000001" } }

/-- The Secret is rotated after the gateway was wired. -/
def rotatedMemory : Memory := (wiringTurn.after.update .secret rotatedSecret).2

/-- The next pass records the version of the Secret for both references. -/
theorem rotated_secret_rolls_deployment :
    let next : Turn := ⟨.preserve, storedWiredGateway, rotatedMemory⟩
    next.result = .ok .done ∧
    ∃ deployment annotations,
      next.after.object? ⟨"Deployment", "default", "apicast-edge"⟩ =
        some ⟨.deployment, deployment⟩ ∧
      deployment.templateAnnotations? = some annotations ∧
      ∀ role : SecretRole, annotations.get? role.versionAnnotation = some "6" := by
  intro next
  have stored : rotatedMemory.object? (.of .secret ⟨"default", "settings"⟩) =
    some ⟨.secret, storedRotatedSecret⟩ := rfl
  have given : (wiringTurn.after.update .secret rotatedSecret).1 = .ok storedRotatedSecret := rfl
  have accepts : rotatedMemory.Accepts storedWiredGateway := by
    intro role reference refers
    cases role <;> cases refers <;> exact ⟨_, _, stored, rfl, rfl⟩
  have gives : Memory.store.Gives wiringTurn.after
    [writing .secret rotatedSecret (.ok storedRotatedSecret)] rotatedMemory := ⟨given, rfl⟩
  have reachable : wiringTurn.before.Reachable :=
    owningTurn.reachable_after ((Memory.Reachable.empty.perform _).perform _)
  have gatewayStored : wiringTurn.before.object? (.of .gateway ⟨"default", "edge"⟩) =
    some ⟨.gateway, wiringTurn.gateway⟩ := wiredGateway_stored
  have converged : wiringTurn.result = .ok .done := rfl
  have quiet : wiringTurn.after.Quiet := rfl
  obtain ⟨-, converges, rolls, -⟩ := rotation_rolls_deployment reachable gatewayStored converged
    quiet gives (fun exchange member => ⟨_, _, List.mem_singleton.mp member⟩) accepts
  obtain ⟨updated, rolls⟩ := rolls ⟨.adminPortal, _, rfl, _, List.mem_cons_self, rfl⟩
  have recorded : ∀ role : SecretRole, ∃ annotations,
      updated.templateAnnotations? = some annotations ∧
        annotations.get? role.versionAnnotation = some "6" := by
    intro role
    obtain ⟨secret, annotations, version, found, text, isRecorded, holds⟩ :=
      rolls.versions role { name := "settings" } (by cases role <;> rfl)
    have same : rotatedMemory.object? (.of .secret ⟨"default", "settings"⟩) =
        some ⟨.secret, secret⟩ :=
      (rolls.others (.of .secret ⟨"default", "settings"⟩) (by decide)).symm.trans found
    cases stored.symm.trans same
    cases text
    exact ⟨annotations, isRecorded, holds⟩
  obtain ⟨annotations, isRecorded, -⟩ := recorded .adminPortal
  refine ⟨converges, updated, annotations, rolls.stored, isRecorded, fun role => ?_⟩
  obtain ⟨others, same, holds⟩ := recorded role
  cases isRecorded.symm.trans same
  exact holds

end GatewayOperator
