/-
This file compares inspecting a gateway with passing over it. Both resolve the Secrets of the
gateway in the same order, and resolving a Secret only reads. A pass that converged wrote no Secret,
so it brought about what an inspection names, before the pass as well as after it. An inspection
that fails is one that a pass cannot get beyond: the pass stops at the same Secret with the same
error, or it stopped ahead of it because the Secret of the admin portal had to be owned first.
-/

import GatewayOperator.Proofs.Reconcile.Children
import GatewayOperator.Proofs.Reconcile.Progress

namespace GatewayOperator

/-! ### Resolving a Secret -/

/-- Whichever rule the resolution of a Secret goes by, it is a path of it. -/
theorem SecretResolution.ends {role : SecretRole} {gateway : Gateway} {exchanges : List Exchange}
    {result : Except ReconcileError (Option Secret)}
    (resolution : SecretResolution role gateway exchanges result) :
    (resolveSecret role gateway).Ends exchanges result := by
  cases resolution with
  | unset unset =>
    rw [resolveSecret_of_unset unset]
    exact ⟨rfl, rfl⟩
  | nameless refers nameless =>
    rw [resolveSecret_of_refers refers, Attempt.ends_bind]
    have fetched := (ends_fetchSecret_nameless role gateway nameless [] _).mpr ⟨rfl, rfl⟩
    exact Or.inl ⟨_, fetched, rfl⟩
  | unread refers named fails =>
    rw [resolveSecret_of_refers refers, Attempt.ends_bind]
    have fetched := (ends_fetchSecret_named role gateway named _ _).mpr ⟨_, rfl, fails.symm⟩
    exact Or.inl ⟨_, fetched, rfl⟩
  | @unfit reference secret error refers named unfit =>
    rw [resolveSecret_of_refers refers, Attempt.ends_bind]
    have fetched := (ends_fetchSecret_named role gateway named _ _).mpr ⟨.ok secret, rfl, rfl⟩
    refine Or.inr ⟨_, [], secret, (List.append_nil _).symm, fetched, ?_⟩
    exact (Attempt.ends_ofExcept_bind _ _ _ _).mpr (Or.inl ⟨_, unfit, rfl, rfl⟩)
  | @fit reference secret refers named fit =>
    rw [resolveSecret_of_refers refers, Attempt.ends_bind]
    have fetched := (ends_fetchSecret_named role gateway named _ _).mpr ⟨.ok secret, rfl, rfl⟩
    refine Or.inr ⟨_, [], secret, (List.append_nil _).symm, fetched, ?_⟩
    exact (Attempt.ends_ofExcept_bind _ _ _ _).mpr (Or.inr ⟨(), fit, rfl, rfl⟩)

namespace Memory

/-- What comes of resolving a Secret of a gateway in a memory. -/
def resolution (memory : Memory) (role : SecretRole) (gateway : Gateway) :
    Except ReconcileError (Option Secret) :=
  ((resolveSecret role gateway).run.run store memory).result

/-- A Secret is resolved by reading. -/
theorem exists_reads_resolution (memory : Memory) (role : SecretRole) (gateway : Gateway) :
    ∃ exchanges, (resolveSecret role gateway).Ends exchanges (memory.resolution role gateway) ∧
      memory.Reads exchanges := by
  have ends := (resolveSecret role gateway).run.ends_run store memory
  have gives := (resolveSecret role gateway).run.gives_exchanges store memory
  have resolved : SecretResolution role gateway _ (memory.resolution role gateway) := .of_ends ends
  exact ⟨_, ends, (reads_of_gives gives resolved.reads).2⟩

/-- A rule whose reads a memory answers is the one that the resolution goes by there. -/
theorem resolution_of_gives {before after : Memory} {role : SecretRole} {gateway : Gateway}
    {exchanges : List Exchange} {result : Except ReconcileError (Option Secret)}
    (resolved : SecretResolution role gateway exchanges result)
    (gives : store.Gives before exchanges after) :
    after = before ∧ before.resolution role gateway = result :=
  ⟨(reads_of_gives gives resolved.reads).1,
    (Program.run_eq_of_gives resolved.ends gives).1⟩

/-- Resolving a Secret looks at nothing but Secrets. -/
theorem resolution_congr {first second : Memory} (role : SecretRole) (gateway : Gateway)
    (same : ∀ name, first.object? (.of .secret name) = second.object? (.of .secret name)) :
    first.resolution role gateway = second.resolution role gateway := by
  obtain ⟨exchanges, ends, reads⟩ := first.exists_reads_resolution role gateway
  suffices again : second.Reads exchanges from
    (Program.run_eq_of_gives ends again.gives).1.symm
  have resolved := SecretResolution.of_ends ends
  generalize first.resolution role gateway = result at resolved
  cases resolved with
  | unset | nameless => exact .nil second
  | unread | unfit | fit => exact .single ((get_congr (same _)).symm.trans reads.gives.1)

/-- The stage of a Secret that cannot be resolved fails for that. -/
theorem result_of_unresolved {before after : Memory} {role : SecretRole} {gateway : Gateway}
    {exchanges : List Exchange} {result : Except ReconcileError OwnedSecret}
    (stage : SecretStage role gateway exchanges result)
    (gives : store.Gives before exchanges after) {error : ReconcileError}
    (unresolved : before.resolution role gateway = .error error) : result = .error error := by
  have first : ∀ {resolving writes : List Exchange} {found : Except ReconcileError (Option Secret)},
      SecretResolution role gateway resolving found →
      store.Gives before (resolving ++ writes) after → found = .error error := by
    intro resolving writes found resolved gives
    obtain ⟨middle, reads, -⟩ := (store.gives_append _ _ _ _).mp gives
    exact (resolution_of_gives resolved reads).2.symm.trans unresolved
  cases stage with
  | unresolved resolved =>
    cases (resolution_of_gives resolved gives).2.symm.trans unresolved
    rfl
  | absent resolved | refused resolved | owned resolved =>
    cases (resolution_of_gives resolved gives).2.symm.trans unresolved
  | unwritten resolved | written resolved => cases first resolved gives

/-- When a Secret is resolved, its stage fails only because somebody else controls the Secret or
because a conflict waits for it. -/
theorem WellKept.error_of_resolved {before after : Memory} (wellKept : WellKept before)
    {role : SecretRole} {gateway : Gateway} {exchanges : List Exchange} {error : ReconcileError}
    (stage : SecretStage role gateway exchanges (.error error))
    (gives : store.Gives before exchanges after) {found : Option Secret}
    (resolved : before.resolution role gateway = .ok found) :
    ∃ reference secret, found = some secret ∧ gateway.secretReference? role = some reference ∧
      before.object? (.of .secret (gateway.secretName reference)) = some ⟨.secret, secret⟩ ∧
      ((∃ controller, secret.metadata.claim gateway.ownerReference = .refused controller ∧
          error = secret.alreadyOwned controller) ∨
        error = .store (.conflict Kind.secret.label gateway.namespaceName reference.name
          "the object has been modified")) := by
  cases stage with
  | unresolved unresolved =>
    cases (resolution_of_gives unresolved gives).2.symm.trans resolved
  | @refused _ secret controller reading refused =>
    cases (resolution_of_gives reading gives).2.symm.trans resolved
    obtain ⟨-, reference, refers, stored⟩ := wellKept.of_resolved reading gives
    exact ⟨reference, secret, rfl, refers, stored, Or.inl ⟨controller, refused, rfl⟩⟩
  | @unwritten _ secret claimed reading free failure =>
    obtain ⟨middle, reads, writes⟩ := (store.gives_append _ _ _ _).mp gives
    obtain ⟨rfl, same⟩ := resolution_of_gives reading reads
    cases same.symm.trans resolved
    obtain ⟨-, reference, refers, stored⟩ := wellKept.of_resolved reading reads
    refine ⟨reference, secret, rfl, refers, stored, Or.inr ?_⟩
    have updated : (middle.update .secret { secret with metadata := claimed }).1 =
      .error failure := writes.1
    have claims := congrArg Claimed.metadata? free
    have version : claimed.resourceVersion = secret.metadata.resourceVersion := by
      rw [ObjectMeta.claim_metadata? claims]
    have place := (Secret.objectName?_of_claim claims).trans (wellKept.objectName? stored)
    cases injected : middle.conflicts.contains (.of .secret (gateway.secretName reference)) with
    | true =>
      rw [middle.update_injected place injected] at updated
      cases updated
      rfl
    | false =>
      rw [middle.update_stored place injected stored version] at updated
      cases updated

/-! ### Inspecting a gateway -/

/-- What comes of inspecting a gateway in a memory. -/
def inspection (memory : Memory) (gateway : Gateway) : Except ReconcileError DesiredState :=
  ((inspect gateway).run.run store memory).result

/-- An inspection reads the Secrets of the gateway, and names what is desired with the Secrets as
they are stored when both can be resolved. -/
theorem exists_reads_inspection (memory : Memory) (gateway : Gateway) :
    let complete := gateway.withDefaults
    ∃ exchanges, memory.Reads exchanges ∧
      (inspect gateway).Ends exchanges (memory.resolution .adminPortal complete >>= fun _ =>
        memory.resolution .embeddedConfig complete >>= fun _ =>
          .ok (memory.desiredState complete)) := by
  intro complete
  obtain ⟨adminPortal, portalEnds, portalReads⟩ :=
    memory.exists_reads_resolution .adminPortal complete
  obtain ⟨embeddedConfig, configEnds, configReads⟩ :=
    memory.exists_reads_resolution .embeddedConfig complete
  cases portalIs : memory.resolution .adminPortal complete with
  | error error =>
    rw [portalIs] at portalEnds
    exact ⟨adminPortal, portalReads, (Attempt.ends_bind _ _ _ _).mpr
      (Or.inl ⟨error, portalEnds, rfl⟩)⟩
  | ok portal =>
    rw [portalIs] at portalEnds
    refine ⟨adminPortal ++ embeddedConfig, portalReads.append configReads,
      (Attempt.ends_bind _ _ _ _).mpr (Or.inr ⟨_, _, portal, rfl, portalEnds, ?_⟩)⟩
    refine (Attempt.ends_bind _ _ _ _).mpr ?_
    cases configIs : memory.resolution .embeddedConfig complete with
    | error error =>
      rw [configIs] at configEnds
      exact Or.inl ⟨error, configEnds, rfl⟩
    | ok config =>
      rw [configIs] at configEnds
      refine Or.inr ⟨_, [], config, (List.append_nil _).symm, configEnds, rfl, ?_⟩
      have portalResolved := (of_secretResolution (.of_ends portalEnds) portalReads.gives).2
      have configResolved := (of_secretResolution (.of_ends configEnds) configReads.gives).2
      show Except.ok (memory.desiredState complete) = .ok (complete.desiredWith portal config)
      unfold desiredState
      rw [portalResolved, configResolved]
      rfl

theorem inspection_eq (memory : Memory) (gateway : Gateway) :
    memory.inspection gateway = (memory.resolution .adminPortal gateway.withDefaults >>= fun _ =>
      memory.resolution .embeddedConfig gateway.withDefaults >>= fun _ =>
        .ok (memory.desiredState gateway.withDefaults)) := by
  obtain ⟨exchanges, reads, ends⟩ := memory.exists_reads_inspection gateway
  exact (Program.run_eq_of_gives ends reads.gives).1

/-- An inspection looks at nothing but Secrets. -/
theorem inspection_congr {first second : Memory} (gateway : Gateway)
    (same : ∀ name, first.object? (.of .secret name) = second.object? (.of .secret name)) :
    first.inspection gateway = second.inspection gateway := by
  rw [inspection_eq, inspection_eq, resolution_congr _ _ same, resolution_congr _ _ same,
    desiredState_congr _ same]

/-- An inspection fails for the first Secret that cannot be resolved. -/
theorem inspection_eq_error {memory : Memory} {gateway : Gateway} {error : ReconcileError}
    (fails : memory.inspection gateway = .error error) :
    memory.resolution .adminPortal gateway.withDefaults = .error error ∨
    ∃ portal, memory.resolution .adminPortal gateway.withDefaults = .ok portal ∧
      memory.resolution .embeddedConfig gateway.withDefaults = .error error := by
  rw [inspection_eq] at fails
  cases portalIs : memory.resolution .adminPortal gateway.withDefaults with
  | error cause =>
    rw [portalIs] at fails
    cases fails
    exact Or.inl rfl
  | ok portal =>
    rw [portalIs] at fails
    cases configIs : memory.resolution .embeddedConfig gateway.withDefaults with
    | error cause =>
      rw [configIs] at fails
      cases fails
      exact Or.inr ⟨portal, rfl, rfl⟩
    | ok config =>
      rw [configIs] at fails
      cases fails

end Memory

/-! ### Passes -/

namespace Turn

variable {turn : Turn}

/-- A pass that converged resolved both Secrets and wrote neither, so an inspection before it would
have named what it brought about, and an inspection after it names the same. -/
theorem inspection_of_done (reachable : turn.before.Reachable)
    (done : turn.result = .ok .done) :
    turn.before.inspection turn.gateway = .ok (turn.before.desiredState turn.gateway) ∧
      turn.after.inspection turn.gateway = .ok (turn.before.desiredState turn.gateway) := by
  have unwritten : ∀ name, turn.after.object? (.of .secret name) =
      turn.before.object? (.of .secret name) := fun name =>
    (reachable.of_run_done turn.policy turn.gateway done).2.2 _ fun _ child =>
      Kind.label_ne_of_isChild (show Kind.secret.Alone by decide) rfl child
  suffices named : turn.before.inspection turn.gateway =
      .ok (turn.before.desiredState turn.gateway) from
    ⟨named, (Memory.inspection_congr _ unwritten).trans named⟩
  obtain ⟨complete, -, adminPortal, embeddedConfig, children, portal, config, calls, first, second,
    -⟩ := ends_pass_done turn.ends done
  have gives := turn.gives
  rw [calls] at gives
  obtain ⟨middle, portalGives, gives⟩ := (Memory.store.gives_append _ _ _ _).mp gives
  obtain ⟨start, configGives, -⟩ := (Memory.store.gives_append _ _ _ _).mp gives
  obtain ⟨rfl, -⟩ := Memory.of_secretStage (.of_ends first) portalGives
  rw [Memory.inspection_eq, turn.gateway.withDefaults_of_not_lacksDefaults complete]
  cases portalIs : turn.before.resolution .adminPortal turn.gateway with
  | error error => cases Memory.result_of_unresolved (.of_ends first) portalGives portalIs
  | ok found =>
    cases configIs : turn.before.resolution .embeddedConfig turn.gateway with
    | error error => cases Memory.result_of_unresolved (.of_ends second) configGives configIs
    | ok found => rfl

/-- An object of the gateway that a pass created is the desired one under a version and a uid, and
it is stored like that afterwards. -/
theorem of_created (reachable : turn.before.Reachable) {kind : Kind}
    (isChild : kind.isChild = true) {object created : kind.Object}
    (member : creating kind object (.ok created) ∈ turn.exchanges) :
    (turn.before.desiredState turn.gateway).child? kind = some object ∧
    turn.after.object? (.of kind turn.gateway.childObjectName) = some ⟨kind, created⟩ ∧
    ∃ version uid, created = kind.withMetadata object
      { kind.metadata object with resourceVersion := some version, uid := some uid } := by
  obtain ⟨calls, about, brings⟩ := turn.exists_callsAbout reachable isChild
  obtain ⟨start, finish, -, gives, -, -, last⟩ := reachable.of_callsAbout
    (Kind.alone_of_isChild isChild) about turn.gives turn.gateway.childObjectName
  rw [last]
  -- The creation stands among the calls about its kind.
  have inCalls : creating kind object (.ok created) ∈ calls := by
    obtain ⟨earlier, later, split, others⟩ := about
    rw [split, List.mem_append, List.mem_append] at member
    rw [List.forall_mem_append] at others
    obtain (inEarlier | inCalls) | inLater := member
    · exact absurd rfl (others.1 _ inEarlier)
    · exact inCalls
    · exact absurd rfl (others.2 _ inLater)
  obtain rfl | ⟨wanted, outcome, child, ends⟩ := brings
  · cases inCalls
  have named := objectName?_child child
  cases ChildStage.of_ends named ends with
  | unread | settled => cases List.mem_singleton.mp inCalls
  | uncreated | unwritten | written =>
    obtain first | second := List.mem_pair.mp inCalls
    · cases first
    · cases second
  | created missing stored =>
    obtain first | second := List.mem_pair.mp inCalls
    · cases first
    · cases second
      obtain ⟨-, answered, rfl⟩ := gives
      replace answered : (start.create kind object).1 = .ok created := answered
      show _ ∧ (start.create kind object).2.object? _ = _ ∧ _
      obtain ⟨cause, fails⟩ | ⟨name, after, otherNamed, -, succeeds, wrote, -⟩ :=
        start.create_cases kind object
      · rw [fails] at answered
        cases answered
      · rw [succeeds] at answered ⊢
        cases answered
        cases named.symm.trans otherNamed
        exact ⟨child, wrote.object?_self, _, _, rfl⟩

/-- The Secret of the admin portal was resolved, and only that of the configuration was not. -/
structure StopsAtConfig (turn : Turn) (error : ReconcileError) (reference : LocalObjectReference)
    (secret : Secret) : Prop where
  refers : turn.gateway.secretReference? .adminPortal = some reference
  stored : turn.before.object? (.of .secret (turn.gateway.secretName reference)) =
    some ⟨.secret, secret⟩
  resolved : turn.before.resolution .adminPortal turn.gateway = .ok (some secret)
  unresolved : turn.before.resolution .embeddedConfig turn.gateway = .error error

/-- How a pass may end over a gateway whose inspection fails: with the same error; or, where that
comes from the configuration Secret, ahead of it, at the Secret of the admin portal. -/
inductive EndsAs (turn : Turn) (error : ReconcileError) :
    Except ReconcileError Outcome → Prop where
  /-- The pass fails as the inspection does. -/
  | same : EndsAs turn error (.error error)
  /-- Somebody else controls the Secret of the admin portal. -/
  | controlled {reference : LocalObjectReference} {secret : Secret} {controller : OwnerReference}
    (ahead : turn.StopsAtConfig error reference secret)
    (refused : secret.metadata.claim turn.gateway.ownerReference = .refused controller) :
    EndsAs turn error (.error (secret.alreadyOwned controller))
  /-- A conflict waited for the Secret of the admin portal. -/
  | conflict {reference : LocalObjectReference} {secret : Secret}
    (ahead : turn.StopsAtConfig error reference secret) :
    EndsAs turn error (.error (.store (.conflict Kind.secret.label turn.gateway.namespaceName
      reference.name "the object has been modified")))
  /-- The Secret of the admin portal was written with the reference of the gateway. -/
  | owned {reference : LocalObjectReference} {secret : Secret}
    (ahead : turn.StopsAtConfig error reference secret) :
    EndsAs turn error (.ok (.requeue .adminPortalSecretOwned))

/-- When the Secret of the admin portal did not stop a pass and an inspection fails, the Secret of
the configuration stops the pass. -/
theorem result_of_secretStages {before after : Memory} {gateway : Gateway}
    {adminPortal embeddedConfig : List Exchange} {portal : Option Secret}
    {owned : Except ReconcileError OwnedSecret}
    (first : (reconcileSecret .adminPortal gateway).Ends adminPortal (.ok ⟨portal, false⟩))
    (second : (reconcileSecret .embeddedConfig gateway).Ends embeddedConfig owned)
    (gives : Memory.store.Gives before (adminPortal ++ embeddedConfig) after)
    {error : ReconcileError}
    (unresolved : before.resolution .adminPortal gateway = .error error ∨
      ∃ found, before.resolution .adminPortal gateway = .ok found ∧
        before.resolution .embeddedConfig gateway = .error error) : owned = .error error := by
  obtain ⟨middle, portalGives, configGives⟩ := (Memory.store.gives_append _ _ _ _).mp gives
  obtain ⟨rfl, -⟩ := Memory.of_secretStage (.of_ends first) portalGives
  obtain portalFails | ⟨found, -, configFails⟩ := unresolved
  · cases Memory.result_of_unresolved (.of_ends first) portalGives portalFails
  · exact Memory.result_of_unresolved (.of_ends second) configGives configFails

/-- A pass that stops at the Secret of the admin portal fails as an inspection does, or the Secret
is resolved and it is the one of the configuration that the inspection fails for. -/
theorem endsAs_of_adminPortal (reachable : turn.before.Reachable) {calls : List Exchange}
    {after : Memory} {owned : Except ReconcileError OwnedSecret}
    (stage : SecretStage .adminPortal turn.gateway calls owned)
    (gives : Memory.store.Gives turn.before calls after) {error : ReconcileError}
    (unresolved : turn.before.resolution .adminPortal turn.gateway = .error error ∨
      ∃ found, turn.before.resolution .adminPortal turn.gateway = .ok found ∧
        turn.before.resolution .embeddedConfig turn.gateway = .error error) :
    (∀ failure, owned = .error failure → turn.EndsAs error (.error failure)) ∧
      ∀ secret, owned = .ok ⟨secret, true⟩ →
        turn.EndsAs error (.ok (.requeue .adminPortalSecretOwned)) := by
  obtain portalFails | ⟨found, resolved, unresolved⟩ := unresolved
  · cases Memory.result_of_unresolved stage gives portalFails
    refine ⟨fun failure same => ?_, fun _ => nofun⟩
    cases same
    exact .same
  constructor
  · rintro failure rfl
    obtain ⟨reference, secret, rfl, refers, stored, ⟨controller, refused, rfl⟩ | rfl⟩ :=
      reachable.wellKept.error_of_resolved stage gives resolved
    · exact .controlled ⟨refers, stored, resolved, unresolved⟩ refused
    · exact .conflict ⟨refers, stored, resolved, unresolved⟩
  · rintro secret rfl
    cases stage with
    | written reading free updated =>
      obtain ⟨middle, reads, -⟩ := (Memory.store.gives_append _ _ _ _).mp gives
      obtain ⟨-, reference, refers, stored⟩ := reachable.wellKept.of_resolved reading reads
      cases resolved.symm.trans (Memory.resolution_of_gives reading reads).2
      exact .owned ⟨refers, stored, resolved, unresolved⟩

/-- A pass over a gateway whose inspection fails does not get beyond its Secrets. -/
theorem endsAs_of_inspection (reachable : turn.before.Reachable)
    (complete : turn.gateway.lacksDefaults = false) {error : ReconcileError}
    (fails : turn.before.inspection turn.gateway = .error error) :
    (∀ exchange ∈ turn.exchanges, exchange.call.kind = .secret) ∧
      turn.EndsAs error turn.result := by
  have stages := ((ends_pass_complete complete _ _).mp turn.ends).1
  have gives := turn.gives
  have aboutSecrets : ∀ {role : SecretRole} {calls : List Exchange}
      {owned : Except ReconcileError OwnedSecret},
      (reconcileSecret role turn.gateway).Ends calls owned →
      ∀ exchange ∈ calls, exchange.call.kind = .secret :=
    fun ends => (SecretStage.of_ends ends).secretCalls.kind_of_mem
  have unresolved := Memory.inspection_eq_error fails
  rw [turn.gateway.withDefaults_of_not_lacksDefaults complete] at unresolved
  show _ ∧ turn.EndsAs error turn.ended.result.result
  generalize turn.ended.result.result = result at stages ⊢
  generalize turn.exchanges = exchanges at stages gives ⊢
  cases GatewayStage.of_ends stages with
  | adminPortalFails portalFails =>
    exact ⟨aboutSecrets portalFails,
      (endsAs_of_adminPortal reachable (.of_ends portalFails) gives unresolved).1 _ rfl⟩
  | adminPortalOwned owned =>
    exact ⟨aboutSecrets owned,
      (endsAs_of_adminPortal reachable (.of_ends owned) gives unresolved).2 _ rfl⟩
  | embeddedConfigFails first second =>
    cases result_of_secretStages first second gives unresolved
    exact ⟨List.forall_mem_append.mpr ⟨aboutSecrets first, aboutSecrets second⟩, .same⟩
  | embeddedConfigOwned first second =>
    cases result_of_secretStages first second gives unresolved
  | children first second =>
    obtain ⟨middle, secretsGive, -⟩ := (Memory.store.gives_append _ _ _ _).mp gives
    cases result_of_secretStages first second secretsGive unresolved

end Turn

/-- Inspecting a gateway agrees with passing over it, on every memory that can be reached. An
inspection makes no write. When a pass converges, an inspection names the same objects before and
after it, and whatever the pass created is the object that is named, under a version and a uid. When
the inspection fails, a pass over a gateway that has its number of replicas calls for Secrets only,
and ends with the same error or, where only the configuration Secret is at fault, ahead of it at the
Secret of the admin portal. -/
theorem inspection_agrees_with_pass {memory : Memory} (reachable : memory.Reachable)
    (policy : ReplicaPolicy) (gateway : Gateway) :
    let inspected := (inspect gateway).run.run Memory.store memory
    let turn : Turn := ⟨policy, gateway, memory⟩
    (inspected.state = memory ∧ ∀ exchange ∈ (inspect gateway).run.exchanges Memory.store memory,
      exchange.call.writes = false) ∧
    (turn.result = .ok .done → ∃ desired : DesiredState, inspected.result = .ok desired ∧
      ((inspect gateway).run.run Memory.store turn.after).result = .ok desired ∧
      ∀ (kind : Kind) (object created : kind.Object), kind.isChild = true →
        creating kind object (.ok created) ∈ turn.exchanges →
        desired.child? kind = some object ∧
        turn.after.object? (.of kind gateway.childObjectName) = some ⟨kind, created⟩ ∧
        ∃ version uid, created = kind.withMetadata object
          { kind.metadata object with resourceVersion := some version, uid := some uid }) ∧
    ∀ error, inspected.result = .error error → gateway.spec.replicas ≠ none →
      (∀ exchange ∈ turn.exchanges, exchange.call.kind = .secret) ∧
      turn.EndsAs error turn.result := by
  intro inspected turn
  obtain ⟨exchanges, reads, ends⟩ := memory.exists_reads_inspection gateway
  obtain ⟨-, same, calls⟩ := Program.run_eq_of_gives ends reads.gives
  refine ⟨⟨same, ?_⟩, fun done => ?_, fun error fails complete => ?_⟩
  · rw [calls]
    exact reads.reading
  · obtain ⟨before, after⟩ := @Turn.inspection_of_done turn reachable done
    exact ⟨_, before, after, fun kind object created isChild member =>
      @Turn.of_created turn reachable kind isChild object created member⟩
  · have nothingLacks := gateway.lacksDefaults_eq_false_iff.mpr complete
    exact @Turn.endsAs_of_inspection turn reachable nothingLacks error fails

/-- A pass over the stray Deployment creates the Service that an inspection names, and a gateway
whose configuration Secret is missing fails the same way in both. -/
theorem edge_inspection_agrees_with_pass :
    let turn : Turn := ⟨.enforce, edgeGateway, edgeMemory⟩
    let failing : Turn := ⟨.enforce, configuredGateway, edgeMemory⟩
    let error : ReconcileError :=
      .secretNotFound SecretRole.embeddedConfig.field "default" "settings"
    edgeMemory.Reachable ∧ turn.result = .ok .done ∧
    (∃ desired, ((inspect edgeGateway).run.run Memory.store edgeMemory).result = .ok desired ∧
      ((inspect edgeGateway).run.run Memory.store turn.after).result = .ok desired ∧
      ∃ object created, desired.child? .service = some object ∧
        turn.after.object? ⟨"Service", "default", "apicast-edge"⟩ = some ⟨.service, created⟩ ∧
        created.spec = object.spec) ∧
    ((inspect configuredGateway).run.run Memory.store edgeMemory).result = .error error ∧
    (∀ exchange ∈ failing.exchanges, exchange.call.kind = .secret) ∧
    failing.EndsAs error failing.result := by
  intro turn failing error
  obtain ⟨-, converges, -⟩ := inspection_agrees_with_pass reachable_edgeMemory .enforce edgeGateway
  obtain ⟨-, -, fails⟩ :=
    inspection_agrees_with_pass reachable_edgeMemory .enforce configuredGateway
  have done : turn.result = .ok .done := rfl
  obtain ⟨desired, before, after, creates⟩ := converges done
  obtain ⟨child, stored, version, uid, same⟩ := creates .service _ _ rfl
    (.tail _ (.tail _ (.tail _ (.head _))))
  refine ⟨reachable_edgeMemory, done, ⟨desired, before, after, _, _, child, stored, rfl⟩, rfl, ?_⟩
  exact fails error rfl (Option.some_ne_none _)

end GatewayOperator
