/-
This file says that passes over a stored gateway come to rest when nobody steps in. A pass stops
early for something that is not settled yet, and it leaves that settled together with all that comes
before it: the defaults are stored, or a Secret is owned and recognised as such. Nothing of it is
lost again, so no reason comes up twice or out of order. A pass that fails wrote nothing, because
every write of a pass succeeds where no conflict waits, and so it fails the same way ever after.
-/

import GatewayOperator.Proofs.Reconcile.Idempotence
import GatewayOperator.Proofs.Reconcile.Ownership
import GatewayOperator.Proofs.Reconcile.Turn

namespace GatewayOperator

namespace Memory

/-! ### Reads -/

/-- Calls that only read leave the memory as it is. -/
theorem reads_of_gives {before after : Memory} {exchanges : List Exchange}
    (gives : store.Gives before exchanges after)
    (reading : ∀ exchange ∈ exchanges, exchange.call.writes = false) :
    after = before ∧ before.Reads exchanges := by
  have unchanged : ∀ {request : Call} (memory : Memory), request.writes = false →
      (store.answer request memory).2 = memory := by
    intro request memory reads
    cases request with
    | get kind namespaceName name => rfl
    | create | update | updateStatus => cases reads
  suffices same : after = before by
    rw [same] at gives
    exact ⟨same, gives, reading⟩
  induction exchanges generalizing before with
  | nil => exact gives
  | cons exchange exchanges inductionHypothesis =>
    rw [List.forall_mem_cons] at reading
    rw [inductionHypothesis gives.2 reading.2]
    exact unchanged before reading.1

/-! ### Calls that cannot fail -/

/-- Where no conflict waits, an object of a gateway is always brought about. -/
theorem Quiet.childStage_ok {before after : Memory} (quiet : before.Quiet)
    (wellKept : WellKept before) {policy : ReplicaPolicy} {kind : Kind} (alone : kind.Alone)
    {desired : kind.Object} {name : ObjectName} (named : kind.objectName? desired = some name)
    {exchanges : List Exchange} {result : Except ReconcileError ChildOutcome}
    (stage : ChildStage kind (kind.rules policy) desired name exchanges result)
    (gives : store.Gives before exchanges after) : ∃ outcome, result = .ok outcome := by
  cases stage with
  | created | settled | written => exact ⟨_, rfl⟩
  | @unread cause unknown =>
    have got : before.get kind name = .error cause := gives.1
    obtain ⟨-, notFound⟩ | ⟨object, -, there⟩ := wellKept.get_cases alone name
    · rw [notFound] at got
      cases got
      cases unknown
    · rw [there] at got
      cases got
  | @uncreated cause missing failure =>
    have got : before.get kind name = .error cause := gives.1
    have created : (before.create kind desired).1 = .error failure := gives.2.1
    obtain ⟨absent, -⟩ | ⟨object, -, there⟩ := wellKept.get_cases alone name
    · rw [before.create_free named absent] at created
      cases created
    · rw [there] at got
      cases got
  | @unwritten existing differs failure =>
    have got : before.get kind name = .ok existing := gives.1
    have updated : (before.update kind (reconcileFields desired (kind.rules policy)
      existing).object).1 = .error failure := gives.2.1
    have found := wellKept.object?_of_get alone got
    have place := (kind.objectName?_reconcileFields policy existing desired).trans
      (wellKept.objectName? found)
    have version := congrArg ObjectMeta.resourceVersion
      (kind.metadata_reconcileFields policy existing desired)
    rw [quiet.update_stored place found version] at updated
    cases updated

/-- Where no conflict waits, all objects of a gateway are always brought about. -/
theorem Quiet.childrenStage_ok {before after : Memory} (quiet : before.Quiet)
    (reachable : Reachable before) {policy : ReplicaPolicy} {gateway : Gateway}
    {secrets : ResolvedSecrets} {exchanges : List Exchange} {result : Except ReconcileError Unit}
    (stage : ChildrenStage policy (GatewayOperator.desiredState gateway secrets) exchanges result)
    (gives : store.Gives before exchanges after) : result = .ok () := by
  have succeeds : ∀ {start finish : Memory} (kind : Kind) {desired : kind.Object}
      {exchanges : List Exchange} {error : ReconcileError}, start.Reachable → start.Quiet →
      kind.Alone → (GatewayOperator.desiredState gateway secrets).child? kind = some desired →
      (reconcileChild kind (kind.rules policy) desired).Ends exchanges (.error error) →
      ¬ store.Gives start exchanges finish := by
    intro start finish kind desired exchanges error reachable quiet alone child ends gives
    have named := objectName?_child child
    obtain ⟨outcome, impossible⟩ :=
      quiet.childStage_ok reachable.wellKept alone named (.of_ends named ends) gives
    cases impossible
  cases stage with
  | unexposed | exposed => rfl
  | deploymentFails fails =>
    exact absurd gives (succeeds .deployment reachable quiet (by decide) rfl fails)
  | serviceFails deploymentEnds fails =>
    obtain ⟨middle, first, second⟩ := (store.gives_append _ _ _ _).mp gives
    exact absurd second (succeeds .service (reachable.gives first) (quiet.gives first)
      (by decide) rfl fails)
  | ingressFails exposed deploymentEnds serviceEnds fails =>
    obtain ⟨middle, first, second⟩ := (store.gives_append _ _ _ _).mp gives
    exact absurd second (succeeds .ingress (reachable.gives first) (quiet.gives first)
      (by decide) exposed fails)

/-- Where no conflict waits, a Secret stops a pass by being read only. -/
theorem Quiet.reading_of_secretStage {before after : Memory} (quiet : before.Quiet)
    (wellKept : WellKept before) {role : SecretRole} {gateway : Gateway}
    {exchanges : List Exchange} {error : ReconcileError}
    (stage : SecretStage role gateway exchanges (.error error))
    (gives : store.Gives before exchanges after) :
    ∀ exchange ∈ exchanges, exchange.call.writes = false := by
  cases stage with
  | unresolved resolution => exact resolution.reads
  | refused resolution refused => exact resolution.reads
  | @unwritten exchanges found claimed resolution free failure =>
    obtain ⟨middle, reads, writes⟩ := (store.gives_append _ _ _ _).mp gives
    obtain ⟨rfl, reference, refers, stored⟩ := wellKept.of_resolved resolution reads
    have updated : (middle.update .secret { found with metadata := claimed }).1 =
      .error failure := writes.1
    have claims := congrArg Claimed.metadata? free
    have version : claimed.resourceVersion = found.metadata.resourceVersion := by
      rw [ObjectMeta.claim_metadata? claims]
    have place := (Secret.objectName?_of_claim claims).trans (wellKept.objectName? stored)
    rw [quiet.update_stored place stored version] at updated
    cases updated

end Memory

/-! ### What is settled -/

namespace RequeueReason

/-- The reasons in the order of a pass. -/
def order : List RequeueReason :=
  [defaultsApplied, adminPortalSecretOwned, embeddedConfigSecretOwned]

/-- The place of a reason in the order. -/
def rank : RequeueReason → Nat
  | defaultsApplied => 0
  | adminPortalSecretOwned => 1
  | embeddedConfigSecretOwned => 2

theorem pairwise_rank : order.Pairwise fun earlier later => earlier.rank < later.rank := by
  decide

/-- A reason that is not among the first ones comes behind them, and no reason up to it is of a
higher rank. -/
theorem split_order {passed rest : List RequeueReason} (split : order = passed ++ rest)
    {reason : RequeueReason} (ahead : reason ∉ passed) :
    ∃ skipped later, rest = skipped ++ reason :: later ∧
      ∀ earlier ∈ passed ++ skipped ++ [reason], earlier.rank ≤ reason.rank := by
  have member : reason ∈ passed ++ rest := by
    rw [← split]
    cases reason <;> decide
  obtain ⟨skipped, later, rfl⟩ :=
    List.append_of_mem ((List.mem_append.mp member).resolve_left ahead)
  have ordered := pairwise_rank
  rw [split, ← List.append_assoc, List.pairwise_append] at ordered
  refine ⟨skipped, later, rfl, fun earlier inFront => ?_⟩
  rcases List.mem_append.mp inFront with before | same
  · exact Nat.le_of_lt (ordered.2.2 earlier before reason List.mem_cons_self)
  · exact Nat.le_of_eq (congrArg rank (List.mem_singleton.mp same))

end RequeueReason

/-- What a pass would stop for early is done already. -/
def Memory.Settled (memory : Memory) (gateway : Gateway) : RequeueReason → Prop
  | .defaultsApplied => gateway.lacksDefaults = false
  | .adminPortalSecretOwned => memory.OwnsFor gateway .adminPortal
  | .embeddedConfigSecretOwned => memory.OwnsFor gateway .embeddedConfig

/-- A memory that can be reached, in which no conflict waits and a gateway is stored. -/
structure Memory.Undisturbed (memory : Memory) (name : ObjectName) (gateway : Gateway) : Prop where
  reachable : memory.Reachable
  quiet : memory.Quiet
  stored : memory.object? (.of .gateway name) = some ⟨.gateway, gateway⟩

/-! ### One pass -/

/-- What a pass over a stored gateway achieves, by its result. -/
inductive Turn.Achieves (name : ObjectName) (turn : Turn) :
    Except ReconcileError Outcome → Prop where
  /-- It stopped for what was not settled, and that is settled now with all that comes before. -/
  | requeued {reason : RequeueReason} {current : Gateway}
    (unsettled : ¬ turn.before.Settled turn.gateway reason)
    (stored : turn.after.object? (.of .gateway name) = some ⟨.gateway, current⟩)
    (settled : ∀ earlier : RequeueReason, earlier.rank ≤ reason.rank →
      turn.after.Settled current earlier) :
    Achieves name turn (.ok (.requeue reason))
  /-- Everything is settled. -/
  | done (stored : turn.after.object? (.of .gateway name) = some ⟨.gateway, turn.gateway⟩)
    (settled : ∀ reason, turn.after.Settled turn.gateway reason) :
    Achieves name turn (.ok .done)
  /-- It changed nothing, and it would do the same again. -/
  | failed {error : ReconcileError}
    (again : ∀ policy, (Turn.mk policy turn.gateway turn.before).result = .error error ∧
      (Turn.mk policy turn.gateway turn.before).WritesNothing) :
    Achieves name turn (.error error)

/-- A path of a pass on which a memory is only read is the pass on it. -/
theorem Turn.of_reads {turn : Turn} {exchanges : List Exchange} {result : PassResult}
    (ends : (pass turn.policy turn.gateway).Ends exchanges result)
    (reads : turn.before.Reads exchanges) :
    turn.result = result.result ∧ turn.WritesNothing := by
  obtain ⟨same, unchanged, calls⟩ := Program.run_eq_of_gives ends reads.gives
  refine ⟨congrArg PassResult.result same, unchanged, fun exchange member => ?_⟩
  have called : turn.exchanges = exchanges := calls
  rw [called] at member
  exact reads.reading exchange member

section Failures

variable {gateway : Gateway} {adminPortal embeddedConfig : List Exchange} {error : ReconcileError}

/-- What fails before the objects are brought about fails under every policy. -/
theorem ends_reconcileGateway_adminPortal (policy : ReplicaPolicy)
    (fails : (reconcileSecret .adminPortal gateway).Ends adminPortal (.error error)) :
    (reconcileGateway policy gateway).Ends adminPortal (.error error) := by
  unfold reconcileGateway
  exact (Attempt.ends_bind _ _ _ _).mpr (Or.inl ⟨error, fails, rfl⟩)

theorem ends_reconcileGateway_embeddedConfig (policy : ReplicaPolicy) {portal : Option Secret}
    (adminPortalEnds : (reconcileSecret .adminPortal gateway).Ends adminPortal
      (.ok ⟨portal, false⟩))
    (fails : (reconcileSecret .embeddedConfig gateway).Ends embeddedConfig (.error error)) :
    (reconcileGateway policy gateway).Ends (adminPortal ++ embeddedConfig) (.error error) := by
  unfold reconcileGateway
  refine (Attempt.ends_bind _ _ _ _).mpr (Or.inr ⟨_, _, _, rfl, adminPortalEnds, ?_⟩)
  simp only [Bool.false_eq_true, if_false]
  exact (Attempt.ends_bind _ _ _ _).mpr (Or.inl ⟨error, fails, rfl⟩)

end Failures

namespace Turn

variable {turn : Turn} {name : ObjectName}

/-- A pass over a gateway that lacks its defaults stores it with them. -/
theorem achieves_of_lacking (undisturbed : turn.before.Undisturbed name turn.gateway)
    (lacks : turn.gateway.lacksDefaults = true) : turn.Achieves name turn.result := by
  have place := undisturbed.reachable.wellKept.objectName? undisturbed.stored
  obtain ⟨cause, -, fails⟩ | ⟨same, current, wrote, spec, -⟩ :=
    of_lacking undisturbed.stored place lacks
  · have named : Kind.gateway.objectName? turn.gateway.withDefaults = some name := place
    rw [undisturbed.quiet.update_stored named undisturbed.stored rfl] at fails
    cases fails
  · rw [same]
    refine .requeued ?_ wrote.object?_self fun earlier isFirst => ?_
    · intro complete
      rw [show turn.gateway.lacksDefaults = false from complete] at lacks
      cases lacks
    · cases earlier with
      | defaultsApplied =>
        show current.lacksDefaults = false
        unfold Gateway.lacksDefaults
        rw [spec]
        exact turn.gateway.lacksDefaults_withDefaults
      | adminPortalSecretOwned | embeddedConfigSecretOwned => cases isFirst

/-- A pass that fails on calls that only read, whatever its policy, does so every time. -/
theorem achieves_of_reads (complete : turn.gateway.lacksDefaults = false)
    {exchanges : List Exchange} {error : ReconcileError}
    (fails : ∀ policy, (reconcileGateway policy turn.gateway).Ends exchanges (.error error))
    (reads : turn.before.Reads exchanges) : turn.Achieves name (.error error) :=
  .failed fun policy => (Turn.mk policy turn.gateway turn.before).of_reads
    ((ends_pass_complete complete _ ⟨.error _, turn.gateway⟩).mpr ⟨fails policy, rfl⟩) reads

/-- When the Secrets are owned, the objects are brought about and everything is settled. -/
theorem achieves_of_childrenStage (undisturbed : turn.before.Undisturbed name turn.gateway)
    (complete : turn.gateway.lacksDefaults = false)
    (owned : ∀ role, turn.before.OwnsFor turn.gateway role) {secrets : ResolvedSecrets}
    {exchanges : List Exchange} {result : Except ReconcileError Unit}
    (stage : ChildrenStage turn.policy (desiredState turn.gateway secrets) exchanges result)
    (gives : Memory.store.Gives turn.before exchanges turn.after) :
    turn.Achieves name (result.map fun _ => .done) := by
  obtain ⟨reachable, quiet, stored⟩ := undisturbed
  obtain rfl := quiet.childrenStage_ok reachable stage gives
  have frame := (reachable.of_childrenStage stage gives).2
  have stays : ∀ role, turn.after.OwnsFor turn.gateway role := fun role reference refers =>
    (owned role reference refers).keep (frame _ fun _ child =>
      Kind.label_ne_of_isChild (show Kind.secret.Alone by decide) rfl child)
  refine .done (stored_after_of_complete reachable stored complete) fun reason => ?_
  cases reason with
  | defaultsApplied => exact complete
  | adminPortalSecretOwned => exact stays .adminPortal
  | embeddedConfigSecretOwned => exact stays .embeddedConfig

/-- The stages behind the defaults. -/
theorem achieves_of_gatewayStage (undisturbed : turn.before.Undisturbed name turn.gateway)
    (complete : turn.gateway.lacksDefaults = false) {exchanges : List Exchange}
    {result : Except ReconcileError Outcome}
    (stage : GatewayStage turn.policy turn.gateway exchanges result)
    (gives : Memory.store.Gives turn.before exchanges turn.after) :
    turn.Achieves name result := by
  have ⟨reachable, quiet, stored⟩ := undisturbed
  have unchanged := stored_after_of_complete reachable stored complete
  cases stage with
  | adminPortalFails fails =>
    have reading := quiet.reading_of_secretStage reachable.wellKept (.of_ends fails) gives
    exact achieves_of_reads complete (fun policy => ends_reconcileGateway_adminPortal policy fails)
      (Memory.reads_of_gives gives reading).2
  | adminPortalOwned owned =>
    have written := fun other (before : other = SecretRole.adminPortal ∨
        turn.before.OwnsFor turn.gateway other) =>
      reachable.wellKept.ownsFor_of_written (.of_ends owned) gives before
    refine .requeued (written _ (Or.inl rfl)).1 unchanged fun earlier upTo => ?_
    cases earlier with
    | defaultsApplied => exact complete
    | adminPortalSecretOwned => exact (written _ (Or.inl rfl)).2
    | embeddedConfigSecretOwned => exact absurd upTo (by decide)
  | @embeddedConfigFails portalCalls _ _ _ first fails =>
    obtain ⟨middle, portalGives, configGives⟩ := (Memory.store.gives_append _ _ _ _).mp gives
    obtain ⟨rfl, -⟩ := Memory.of_secretStage (.of_ends first) portalGives
    have portalReading : ∀ exchange ∈ portalCalls, exchange.call.writes = false :=
      ((stepRun_secret first).2.1 _ rfl).reads rfl
    have configReading := quiet.reading_of_secretStage reachable.wellKept (.of_ends fails)
      configGives
    have reading := List.forall_mem_append.mpr ⟨portalReading, configReading⟩
    exact achieves_of_reads complete
      (fun policy => ends_reconcileGateway_embeddedConfig policy first fails)
      (Memory.reads_of_gives gives reading).2
  | embeddedConfigOwned first owned =>
    obtain ⟨middle, portalGives, configGives⟩ := (Memory.store.gives_append _ _ _ _).mp gives
    have portal := reachable.wellKept.ownsFor_of_secretStage (.of_ends first) portalGives
    obtain ⟨rfl, -⟩ := Memory.of_secretStage (.of_ends first) portalGives
    have written := fun other (before : other = SecretRole.embeddedConfig ∨
        turn.before.OwnsFor turn.gateway other) =>
      reachable.wellKept.ownsFor_of_written (.of_ends owned) configGives before
    refine .requeued (written _ (Or.inl rfl)).1 unchanged fun earlier _ => ?_
    cases earlier with
    | defaultsApplied => exact complete
    | adminPortalSecretOwned => exact (written _ (Or.inr portal)).2
    | embeddedConfigSecretOwned => exact (written _ (Or.inl rfl)).2
  | children first second childrenEnd =>
    obtain ⟨middle, secretsGive, childrenGive⟩ := (Memory.store.gives_append _ _ _ _).mp gives
    obtain ⟨rfl, owned, -⟩ := reachable.wellKept.of_secretStages first second secretsGive
    exact achieves_of_childrenStage undisturbed complete owned (.of_ends childrenEnd) childrenGive

/-- What every pass over a stored gateway achieves when nobody steps in. -/
theorem achieves (undisturbed : turn.before.Undisturbed name turn.gateway) :
    turn.Achieves name turn.result := by
  cases lacks : turn.gateway.lacksDefaults with
  | true => exact achieves_of_lacking undisturbed lacks
  | false =>
    have stages := ((ends_pass_complete lacks _ _).mp turn.ends).1
    exact achieves_of_gatewayStage undisturbed lacks (.of_ends stages) turn.gives

theorem undisturbed_of_stored (undisturbed : turn.before.Undisturbed name turn.gateway)
    {current : Gateway}
    (stored : turn.after.object? (.of .gateway name) = some ⟨.gateway, current⟩) :
    turn.after.Undisturbed name current where
  reachable := turn.reachable_after undisturbed.reachable
  quiet := undisturbed.quiet.gives turn.gives
  stored := stored

/-- After a pass there is still a gateway to pass over. -/
theorem undisturbed_after (undisturbed : turn.before.Undisturbed name turn.gateway) :
    ∃ current, turn.after.Undisturbed name current := by
  have present : (turn.before.object? (.of .gateway name)).isSome = true := by
    rw [undisturbed.stored]
    rfl
  obtain ⟨stored, found⟩ := Option.isSome_iff_exists.mp
    (undisturbed.reachable.gives_present turn.gives present)
  obtain ⟨current, rfl, -⟩ := (turn.reachable_after undisturbed.reachable).wellKept.exists_object
    (show Kind.gateway.Alone by decide) found
  exact ⟨current, undisturbed_of_stored undisturbed found⟩

end Turn

/-! ### Passes that follow one another -/

namespace Memory

variable {memory : Memory} {name : ObjectName} {gateway : Gateway}

/-- Nothing stops the passes from following one another. -/
theorem Undisturbed.length_turns (undisturbed : memory.Undisturbed name gateway)
    (policies : List ReplicaPolicy) : (memory.turns name policies).length = policies.length := by
  induction policies generalizing memory gateway with
  | nil => rfl
  | cons policy policies inductionHypothesis =>
    obtain ⟨current, next⟩ := (Turn.mk policy gateway memory).undisturbed_after undisturbed
    rw [turns_cons undisturbed.stored, List.length_cons, List.length_cons,
      inductionHypothesis next]

/-- When a pass over the stored gateway fails and changes nothing, so does every one. -/
theorem turns_failed
    (stored : memory.object? (.of .gateway name) = some ⟨.gateway, gateway⟩)
    {error : ReconcileError}
    (again : ∀ policy, (Turn.mk policy gateway memory).result = .error error ∧
      (Turn.mk policy gateway memory).WritesNothing)
    (policies : List ReplicaPolicy) :
    ∀ turn ∈ memory.turns name policies, turn.result = .error error ∧ turn.WritesNothing := by
  induction policies with
  | nil => exact fun _ => nofun
  | cons policy policies inductionHypothesis =>
    obtain ⟨fails, nothing⟩ := again policy
    rw [turns_cons stored, nothing.1]
    exact List.forall_mem_cons.mpr ⟨⟨fails, nothing⟩, inductionHypothesis⟩

/-- A failure is repeated by all passes that follow, and none of them writes. -/
theorem Undisturbed.failure_repeats (undisturbed : memory.Undisturbed name gateway)
    {policies : List ReplicaPolicy} {earlier later : List Turn} {turn : Turn}
    (split : memory.turns name policies = earlier ++ turn :: later) {error : ReconcileError}
    (fails : turn.result = .error error) :
    turn.WritesNothing ∧ ∀ next ∈ later, next.result = .error error ∧ next.WritesNothing := by
  induction policies generalizing memory gateway earlier with
  | nil => cases earlier <;> cases split
  | cons policy policies inductionHypothesis =>
    rw [turns_cons undisturbed.stored] at split
    cases earlier with
    | cons head earlier =>
      injection split with _ split
      obtain ⟨current, next⟩ := (Turn.mk policy gateway memory).undisturbed_after undisturbed
      exact inductionHypothesis next split
    | nil =>
      injection split with same following
      subst same
      have achieves := (Turn.mk policy gateway memory).achieves undisturbed
      rw [fails] at achieves
      cases achieves with
      | failed again =>
        have nothing := (again policy).2
        rw [nothing.1] at following
        rw [← following]
        exact ⟨nothing, turns_failed undisturbed.stored again policies⟩

/-- What is settled does not stop a pass again: the reasons for which passes stop early come, in
their order, from those that are not settled. -/
theorem Undisturbed.reasons_sublist (undisturbed : memory.Undisturbed name gateway)
    {passed rest : List RequeueReason} (split : RequeueReason.order = passed ++ rest)
    (settled : ∀ reason ∈ passed, memory.Settled gateway reason) (policies : List ReplicaPolicy) :
    ((memory.turns name policies).filterMap Turn.reason?).Sublist rest := by
  induction policies generalizing memory gateway passed rest with
  | nil => exact List.nil_sublist rest
  | cons policy policies inductionHypothesis =>
    let turn : Turn := ⟨policy, gateway, memory⟩
    have achieves : turn.Achieves name turn.result := Turn.achieves undisturbed
    rw [turns_cons undisturbed.stored]
    generalize isResult : turn.result = result at achieves
    have isReason : turn.reason? = requeueReason? result := congrArg requeueReason? isResult
    cases achieves with
    | @requeued reason current unsettled stored now =>
      obtain ⟨skipped, later, rfl, ranks⟩ := RequeueReason.split_order split fun inFront =>
        unsettled (settled reason inFront)
      have behind : RequeueReason.order = (passed ++ skipped ++ [reason]) ++ later := by
        rw [split, List.append_assoc, List.append_assoc]
        rfl
      have next := inductionHypothesis (Turn.undisturbed_of_stored undisturbed stored) behind
        fun earlier inFront => now earlier (ranks earlier inFront)
      rw [List.filterMap_cons_some isReason]
      exact (next.cons_cons reason).trans (List.sublist_append_right skipped _)
    | done stored now =>
      rw [List.filterMap_cons_none isReason]
      exact inductionHypothesis (Turn.undisturbed_of_stored undisturbed stored) split
        fun reason _ => now reason
    | failed again =>
      have same : turn.after = memory := (again policy).2.1
      rw [List.filterMap_cons_none isReason, same]
      exact inductionHypothesis undisturbed split settled

/-- After as many passes as there are reasons left, no pass stops early. -/
theorem Undisturbed.reason?_of_mem_drop (undisturbed : memory.Undisturbed name gateway)
    {passed rest : List RequeueReason} (split : RequeueReason.order = passed ++ rest)
    (settled : ∀ reason ∈ passed, memory.Settled gateway reason) (policies : List ReplicaPolicy) :
    ∀ turn ∈ (memory.turns name policies).drop rest.length, turn.reason? = none := by
  induction policies generalizing memory gateway passed rest with
  | nil =>
    intro turn member
    rw [turns, List.drop_nil] at member
    cases member
  | cons policy policies inductionHypothesis =>
    let turn : Turn := ⟨policy, gateway, memory⟩
    have achieves : turn.Achieves name turn.result := Turn.achieves undisturbed
    rw [turns_cons undisturbed.stored]
    generalize isResult : turn.result = result at achieves
    have isReason : turn.reason? = requeueReason? result := congrArg requeueReason? isResult
    intro member inDrop
    cases achieves with
    | @requeued reason current unsettled stored now =>
      obtain ⟨skipped, later, rfl, ranks⟩ := RequeueReason.split_order split fun inFront =>
        unsettled (settled reason inFront)
      have behind : RequeueReason.order = (passed ++ skipped ++ [reason]) ++ later := by
        rw [split, List.append_assoc, List.append_assoc]
        rfl
      refine inductionHypothesis (Turn.undisturbed_of_stored undisturbed stored) behind
        (fun earlier inFront => now earlier (ranks earlier inFront)) member ?_
      rw [List.length_append, List.length_cons, ← Nat.add_assoc, List.drop_succ_cons,
        Nat.add_comm, ← List.drop_drop] at inDrop
      exact List.mem_of_mem_drop inDrop
    | done stored now =>
      have behind : RequeueReason.order = RequeueReason.order ++ [] := (List.append_nil _).symm
      have reasons := (Turn.undisturbed_of_stored undisturbed stored).reasons_sublist behind
        (fun reason _ => now reason) policies
      rcases List.mem_cons.mp (List.mem_of_mem_drop inDrop) with rfl | later
      · exact isReason
      · exact List.filterMap_eq_nil_iff.mp (List.sublist_nil.mp reasons) member later
    | failed again =>
      have same : turn.after = memory := (again policy).2.1
      rw [same] at inDrop
      rcases List.mem_cons.mp (List.mem_of_mem_drop inDrop) with rfl | later
      · exact isReason
      · have fails := (turns_failed undisturbed.stored again policies member later).1
        exact congrArg requeueReason? fails

end Memory

/-- Passes over a stored gateway come to rest, from every memory that can be reached and in which no
conflict waits, when nobody steps in: they stop early for each reason at most once and in order, so
from the fourth pass on every pass converges or fails. A pass that fails wrote nothing, and every
later pass fails with the same error and writes nothing. -/
theorem passes_come_to_rest {memory : Memory} (reachable : memory.Reachable)
    (quiet : memory.Quiet) {name : ObjectName} {gateway : Gateway}
    (stored : memory.object? (.of .gateway name) = some ⟨.gateway, gateway⟩)
    (policies : List ReplicaPolicy) :
    let turns := memory.turns name policies
    turns.length = policies.length ∧
    (turns.filterMap Turn.reason?).Sublist
      [.defaultsApplied, .adminPortalSecretOwned, .embeddedConfigSecretOwned] ∧
    (∀ turn ∈ turns.drop 3, turn.result = .ok .done ∨ ∃ error, turn.result = .error error) ∧
    ∀ earlier turn later error, turns = earlier ++ turn :: later → turn.result = .error error →
      turn.WritesNothing ∧ ∀ next ∈ later, next.result = .error error ∧ next.WritesNothing := by
  intro turns
  have undisturbed : memory.Undisturbed name gateway := ⟨reachable, quiet, stored⟩
  have unsettled : ∀ reason ∈ [], memory.Settled gateway reason := fun _ => nofun
  have atRest : ∀ turn ∈ turns.drop RequeueReason.order.length, turn.reason? = none :=
    undisturbed.reason?_of_mem_drop (List.nil_append _).symm unsettled policies
  exact ⟨undisturbed.length_turns policies,
    undisturbed.reasons_sublist (List.nil_append _).symm unsettled policies,
    fun turn behind => requeueReason?_eq_none (atRest turn behind),
    fun earlier turn later error split fails => undisturbed.failure_repeats split fails⟩

/-! ### A Secret that both references lead to -/

/-- A gateway that lacks its replicas and refers to one Secret twice. -/
def waitingGateway : Gateway where
  metadata := { name := some "edge", namespaceName := some "default" }
  spec :=
    { adminPortalCredentialsRef := some { name := "settings" }
      embeddedConfigurationSecretRef := some { name := "settings" } }

/-- A Secret that serves for both references. -/
def sharedSecret : Secret where
  metadata := { name := some "settings", namespaceName := some "default" }
  stringData := some
    ((Map.empty.insert adminPortalKey "https://token@portal.example.com").insert
      configurationKey "\x7b\x7d")

/-- The gateway is stored after the Secret. -/
def waitingMemory : Memory :=
  ((Operation.seed .gateway waitingGateway).perform
    ((Operation.seed .secret sharedSecret).perform {}).memory).memory

/-- The gateway as it is stored. -/
def storedWaitingGateway : Gateway :=
  { waitingGateway with
    metadata :=
      { waitingGateway.metadata with
        resourceVersion := some "2"
        uid := some "00000000-0000-0000-0000-000000000002" } }

/-- The first two of four passes stop early, and the Secret is owned once for both references. -/
theorem waiting_passes_come_to_rest :
    let turns := waitingMemory.turns ⟨"default", "edge"⟩ [.enforce, .preserve, .enforce, .enforce]
    turns.length = 4 ∧
    turns.map Turn.reason? = [some .defaultsApplied, some .adminPortalSecretOwned, none, none] ∧
    ∀ turn ∈ turns.drop 3, turn.result = .ok .done ∨ ∃ error, turn.result = .error error := by
  have reachable : waitingMemory.Reachable := (Memory.Reachable.empty.perform _).perform _
  have stored : waitingMemory.object? (.of .gateway ⟨"default", "edge"⟩) =
    some ⟨.gateway, storedWaitingGateway⟩ := rfl
  obtain ⟨length, -, rest, -⟩ := passes_come_to_rest reachable rfl stored
    [.enforce, .preserve, .enforce, .enforce]
  exact ⟨length, rfl, rest⟩

end GatewayOperator
