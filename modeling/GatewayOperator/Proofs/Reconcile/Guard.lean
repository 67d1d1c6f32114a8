/-
This file says what a pass may call after what it read last. It writes back only what it has just
read: a Secret with its own reference behind all others, and an object of the gateway under the
metadata it has. Every update carries the name and the version of the object that was read last, or
of the gateway the pass was started with when it has read nothing yet, because no stage touches them
on the way. And an update that fails is the last call of the pass.
-/

import GatewayOperator.Proofs.Reconcile.Protocol

namespace GatewayOperator

/-! ### The last object read -/

/-- The object that a call read, if it did. -/
def Exchange.read? (exchange : Exchange) : Option Stored :=
  if exchange.call.writes then none
  else exchange.answer.toOption.map (Stored.mk exchange.call.kind)

/-- The last object that was read, or the one at hand from the start. -/
def lastRead (start : Stored) (exchanges : List Exchange) : Stored :=
  exchanges.foldl (fun seen exchange => exchange.read?.getD seen) start

theorem lastRead_append (start : Stored) (first rest : List Exchange) :
    lastRead start (first ++ rest) = lastRead (lastRead start first) rest :=
  List.foldl_append

/-- An object carries the name and the version of another one. -/
structure Guards (kind : Kind) (base object : kind.Object) : Prop where
  name : (kind.metadata object).name = (kind.metadata base).name
  namespaceName : (kind.metadata object).namespaceName = (kind.metadata base).namespaceName
  resourceVersion : (kind.metadata object).resourceVersion = (kind.metadata base).resourceVersion

theorem Guards.of_metadata {kind : Kind} {base object : kind.Object}
    (same : kind.metadata object = kind.metadata base) : Guards kind base object :=
  ⟨congrArg ObjectMeta.name same, congrArg ObjectMeta.namespaceName same,
    congrArg ObjectMeta.resourceVersion same⟩

/-! ### The calls of a pass -/

/-- Every call follows a rule that knows the last object read. -/
def Along (rule : Stored → Call → Prop) : Stored → List Exchange → Prop
  | _, [] => True
  | seen, exchange :: rest =>
    rule seen exchange.call ∧ Along rule (exchange.read?.getD seen) rest

theorem along_append {rule : Stored → Call → Prop} {seen : Stored} {first rest : List Exchange} :
    Along rule seen (first ++ rest) ↔
      Along rule seen first ∧ Along rule (lastRead seen first) rest := by
  induction first generalizing seen with
  | nil => exact ⟨fun along => ⟨trivial, along⟩, fun along => along.2⟩
  | cons exchange first inductionHypothesis =>
    rw [List.cons_append, Along, Along, inductionHypothesis, and_assoc]
    rfl

/-- Steps follow a rule one after the other when each of them does from whatever was read before. -/
theorem along_flatMap {rule : Stored → Call → Prop} {parts : PassStep → List Exchange}
    {steps : List PassStep} (along : ∀ step ∈ steps, ∀ seen, Along rule seen (parts step))
    (seen : Stored) : Along rule seen (steps.flatMap parts) := by
  induction steps generalizing seen with
  | nil => trivial
  | cons step steps inductionHypothesis =>
    rw [List.forall_mem_cons] at along
    rw [List.flatMap_cons, along_append]
    exact ⟨along.1 seen, inductionHypothesis along.2 _⟩

/-- What a pass may call, by the last object it read. -/
inductive PassCall (gateway : Gateway) : Stored → Call → Prop where
  /-- It may read. -/
  | read {seen : Stored} {request : Call} (reads : request.writes = false) :
    PassCall gateway seen request
  /-- It may write the gateway it was started with, with its defaults, while it has read nothing. -/
  | defaults : PassCall gateway ⟨.gateway, gateway⟩ (.update .gateway gateway.withDefaults)
  /-- It may write a Secret that nobody controls, with its own reference behind all others. -/
  | owned {secret : Secret} {metadata : ObjectMeta}
    (free : secret.metadata.claim gateway.ownerReference = .appended metadata) :
    PassCall gateway ⟨.secret, secret⟩ (.update .secret { secret with metadata })
  /-- It may create an object of the gateway. -/
  | created {seen : Stored} {kind : Kind} (isChild : kind.isChild = true) {desired : kind.Object}
    (named : kind.objectName? desired = some gateway.childObjectName) :
    PassCall gateway seen (.create kind desired)
  /-- It may write an object of the gateway under the metadata it was read with. -/
  | merged {kind : Kind} (isChild : kind.isChild = true) {existing object : kind.Object}
    (same : kind.metadata object = kind.metadata existing) :
    PassCall gateway ⟨kind, existing⟩ (.update kind object)

theorem SecretCalls.along {role : SecretRole} {gateway : Gateway} {calls : List Exchange}
    (secretCalls : SecretCalls role gateway calls) (seen : Stored) :
    Along (PassCall gateway) seen calls := by
  cases secretCalls with
  | none => trivial
  | read answer refers named => exact ⟨.read rfl, trivial⟩
  | owned answer refers named fit free => exact ⟨.read rfl, .owned free, trivial⟩

theorem ChildCalls.along {kind : Kind} (isChild : kind.isChild = true) {gateway : Gateway}
    {calls : List Exchange} (childCalls : ChildCalls kind gateway.childObjectName calls)
    (seen : Stored) : Along (PassCall gateway) seen calls := by
  cases childCalls with
  | none => trivial
  | unread | read => exact ⟨.read rfl, trivial⟩
  | created missing named answer => exact ⟨.read rfl, .created isChild named, trivial⟩
  | updated same answer => exact ⟨.read rfl, .merged isChild same, trivial⟩

/-- Every call of a pass is one it may make. -/
theorem along_of_ends {policy : ReplicaPolicy} {gateway : Gateway} {calls : List Exchange}
    {result : PassResult} (ends : (pass policy gateway).Ends calls result) :
    Along (PassCall gateway) ⟨.gateway, gateway⟩ calls := by
  obtain ⟨parts, rfl, run⟩ := PassRun.of_ends ends
  have protocol := run.callProtocol
  rw [show PassStep.order = .defaults :: [.secret .adminPortal, .secret .embeddedConfig,
    .child .deployment, .child .service, .child .ingress] from rfl, List.flatMap_cons,
    along_append]
  constructor
  · obtain ⟨-, calls⟩ | ⟨-, answer, calls⟩ := protocol.defaults
    · rw [calls]
      trivial
    · rw [calls]
      exact ⟨.defaults, trivial⟩
  · refine along_flatMap (fun step member => ?_) _
    simp only [List.mem_cons, List.not_mem_nil, or_false] at member
    rcases member with rfl | rfl | rfl | rfl | rfl
    · exact (protocol.secrets .adminPortal).along
    · exact (protocol.secrets .embeddedConfig).along
    · exact (protocol.children .deployment rfl).along rfl
    · exact (protocol.children .service rfl).along rfl
    · exact (protocol.children .ingress rfl).along rfl

/-- Every update of a pass carries the name and the version of the last object it read, or of the
gateway it was started with. -/
theorem PassCall.guards {gateway : Gateway} {seen : Stored} {kind : Kind} {object : kind.Object}
    (allowed : PassCall gateway seen (.update kind object)) :
    kind.Alone ∧ ∃ base, seen = ⟨kind, base⟩ ∧ Guards kind base object := by
  cases allowed with
  | read reads => cases reads
  | defaults =>
    have guards : Guards .gateway gateway gateway.withDefaults := ⟨rfl, rfl, rfl⟩
    exact ⟨by decide, gateway, rfl, guards⟩
  | @owned secret metadata free =>
    have claimed := ObjectMeta.claim_metadata? (congrArg Claimed.metadata? free)
    have guards : Guards .secret secret { secret with metadata } := by
      rw [claimed]
      exact ⟨rfl, rfl, rfl⟩
    exact ⟨by decide, secret, rfl, guards⟩
  | merged isChild same => exact ⟨Kind.alone_of_isChild isChild, _, rfl, .of_metadata same⟩

/-- An update that fails is the last call of a pass, and the pass returns its error. -/
theorem ends_failed_update {policy : ReplicaPolicy} {gateway : Gateway}
    {earlier later : List Exchange} {kind : Kind} {object : kind.Object} {cause : StoreError}
    {result : PassResult}
    (ends : (pass policy gateway).Ends (earlier ++ writing kind object (.error cause) :: later)
      result) :
    later = [] ∧ result.result = .error (.store cause) := by
  obtain ⟨parts, calls, run⟩ := PassRun.of_ends ends
  have unlabelled : (labelled parts PassStep.order).map Prod.snd =
      earlier ++ writing kind object (.error cause) :: later := by
    rw [calls]
    unfold labelled
    rw [List.map_flatMap]
    refine congrArg₂ List.flatMap (funext fun step => ?_) rfl
    rw [List.map_map]
    exact List.map_id _
  obtain ⟨before, rest, split, rfl, restCalls⟩ := List.map_eq_append_iff.mp unlabelled
  obtain ⟨⟨step, exchange⟩, after, rfl, same, rfl⟩ := List.map_eq_cons_iff.mp restCalls
  replace same : exchange = writing kind object (.error cause) := same
  subst same
  have tolerates : step.tolerates (.update kind object) cause = false := by
    unfold PassStep.tolerates
    rw [show (!(Call.update kind object).writes) = false from rfl, Bool.and_false, Bool.false_and]
  obtain ⟨rfl, ended⟩ := run.callProtocol.stops before step _ after cause split rfl tolerates
  refine ⟨rfl, ended.trans ?_⟩
  cases step <;> rfl

end GatewayOperator
