/-
This file says which places a pass looks at and writes, and that passes over different gateways keep
out of each other's way. The calls of a pass are about its gateway, the Secrets the gateway refers
to, and its objects, because everything it writes back is written to the place it was read from.
None of these places is shared when the names differ and no Secret is common. The version and the
uid that a memory gives next are shared by all gateways, but a pass never comes back to what it
stored.
-/

import GatewayOperator.Proofs.Reconcile.Guard
import GatewayOperator.Proofs.Reconcile.Ownership
import GatewayOperator.Proofs.Reconcile.Replay
import GatewayOperator.Proofs.Reconcile.Turn

namespace GatewayOperator

/-! ### The places of a pass -/

/-- A gateway refers to the Secret of a name. -/
def Gateway.RefersTo (gateway : Gateway) (name : ObjectName) : Prop :=
  ∃ (role : SecretRole) (reference : LocalObjectReference),
    gateway.secretReference? role = some reference ∧ reference.name.isEmpty = false ∧
    name = gateway.secretName reference

/-- The objects that a pass over a gateway may look at or write, by their kinds: the gateway itself,
the Secrets it refers to, and its Deployment, its Service and its Ingress. -/
def Gateway.Uses (gateway : Gateway) : Kind → ObjectName → Prop
  | .gateway, name => name = ⟨gateway.namespaceName, gateway.name⟩
  | .secret, name => gateway.RefersTo name
  | .deployment, name | .service, name | .ingress, name => name = gateway.childObjectName
  | .configMap, _ | .coreEvent, _ | .event, _ => False

/-- The places of those objects. -/
def Gateway.Touches (gateway : Gateway) (key : ObjectKey) : Prop :=
  ∃ kind name, key = .of kind name ∧ gateway.Uses kind name

theorem Gateway.touches_secret {gateway : Gateway} {role : SecretRole}
    {reference : LocalObjectReference} (refers : gateway.secretReference? role = some reference)
    (named : reference.name.isEmpty = false) :
    gateway.Touches (.of .secret (gateway.secretName reference)) :=
  ⟨.secret, _, rfl, role, reference, refers, named, rfl⟩

theorem Gateway.touches_child (gateway : Gateway) {kind : Kind} (isChild : kind.isChild = true) :
    gateway.Touches (.of kind gateway.childObjectName) := by
  refine ⟨kind, gateway.childObjectName, rfl, ?_⟩
  cases kind with
  | deployment | service | ingress => rfl
  | gateway | secret | configMap | coreEvent | event => cases isChild

/-- What is read lies where it was asked for. -/
def Exchange.ReadsPlace (exchange : Exchange) : Prop :=
  ∀ stored, exchange.read? = some stored → stored.kind.Alone → stored.key? = exchange.call.key?

theorem Memory.Reachable.readsPlace {before after : Memory} (reachable : before.Reachable)
    {exchanges : List Exchange} (gives : Memory.store.Gives before exchanges after) :
    ∀ exchange ∈ exchanges, exchange.ReadsPlace := by
  induction exchanges generalizing before with
  | nil => exact fun _ => nofun
  | cons exchange exchanges inductionHypothesis =>
    obtain ⟨request, answer⟩ := exchange
    obtain ⟨rfl, gives⟩ := gives
    rw [List.forall_mem_cons]
    refine ⟨fun stored read alone => ?_,
      inductionHypothesis (reachable.perform (.call request)) gives⟩
    cases request with
    | get kind namespaceName name =>
      replace read : (before.get kind ⟨namespaceName, name⟩).toOption.map (Stored.mk kind) =
          some stored := read
      cases got : before.get kind ⟨namespaceName, name⟩ with
      | error cause =>
        rw [got] at read
        cases read
      | ok object =>
        rw [got] at read
        cases read
        exact reachable.wellKept.place _ _ (reachable.wellKept.object?_of_get alone got)
    | create | update | updateStatus => cases read

/-- All calls are about places that a gateway touches. -/
def Gateway.Confines (gateway : Gateway) (exchanges : List Exchange) : Prop :=
  ∀ exchange ∈ exchanges, ∀ key, exchange.call.key? = some key → gateway.Touches key

theorem SecretCalls.confined {role : SecretRole} {gateway : Gateway} {calls : List Exchange}
    (secretCalls : SecretCalls role gateway calls)
    (readsPlace : ∀ exchange ∈ calls, exchange.ReadsPlace) : gateway.Confines calls := by
  unfold Gateway.Confines
  cases secretCalls with
  | none => exact fun _ => nofun
  | read answer refers named =>
    rw [List.forall_mem_singleton]
    rintro key ⟨⟩
    exact Gateway.touches_secret refers named
  | @owned reference secret metadata answer refers named fit free =>
    have read : Stored.key? ⟨.secret, secret⟩ = some (.of .secret (gateway.secretName reference)) :=
      readsPlace _ List.mem_cons_self ⟨.secret, secret⟩ rfl (show Kind.secret.Alone by decide)
    have sameName : Kind.secret.objectName? { secret with metadata } =
        Kind.secret.objectName? secret :=
      Secret.objectName?_of_claim (congrArg Claimed.metadata? free)
    rw [List.forall_mem_cons, List.forall_mem_singleton]
    refine ⟨?_, fun key about => ?_⟩
    · rintro key ⟨⟩
      exact Gateway.touches_secret refers named
    · replace about : (Kind.secret.objectName? { secret with metadata }).map (.of .secret) =
          some key := about
      rw [sameName] at about
      obtain rfl := Option.some.inj (read.symm.trans about)
      exact Gateway.touches_secret refers named

theorem ChildCalls.confined {kind : Kind} (isChild : kind.isChild = true) {gateway : Gateway}
    {calls : List Exchange} (childCalls : ChildCalls kind gateway.childObjectName calls)
    (readsPlace : ∀ exchange ∈ calls, exchange.ReadsPlace) : gateway.Confines calls := by
  have atPlace : ∀ {key : ObjectKey}, some (ObjectKey.of kind gateway.childObjectName) = some key →
      gateway.Touches key := by
    rintro key ⟨⟩
    exact gateway.touches_child isChild
  unfold Gateway.Confines
  cases childCalls with
  | none => exact fun _ => nofun
  | unread | read =>
    rw [List.forall_mem_singleton]
    exact fun key => atPlace
  | @created cause desired missing named answer =>
    have place : (kind.objectName? desired).map (ObjectKey.of kind) =
        some (.of kind gateway.childObjectName) := congrArg (Option.map (ObjectKey.of kind)) named
    rw [List.forall_mem_cons, List.forall_mem_singleton]
    exact ⟨fun key => atPlace, fun key about => atPlace (place.symm.trans about)⟩
  | @updated existing object guarded answer =>
    have read : Stored.key? ⟨kind, existing⟩ = some (.of kind gateway.childObjectName) :=
      readsPlace _ List.mem_cons_self ⟨kind, existing⟩ rfl (Kind.alone_of_isChild isChild)
    have sameName : kind.objectName? object = kind.objectName? existing :=
      Kind.objectName?_congr (congrArg ObjectMeta.name guarded)
        (congrArg ObjectMeta.namespaceName guarded)
    have place : (kind.objectName? object).map (ObjectKey.of kind) =
        some (.of kind gateway.childObjectName) := by
      rw [sameName]
      exact read
    rw [List.forall_mem_cons, List.forall_mem_singleton]
    exact ⟨fun key => atPlace, fun key about => atPlace (place.symm.trans about)⟩

namespace CallProtocol

variable {gateway : Gateway} {parts : PassStep → List Exchange}
  {result : Except ReconcileError Outcome}

/-- The gateway is written under its own name. -/
theorem confined_defaults (protocol : CallProtocol gateway parts result) :
    gateway.Confines (parts .defaults) := by
  obtain ⟨-, calls⟩ | ⟨-, answer, calls⟩ := protocol.defaults
  · rw [calls]
    exact fun _ => nofun
  · rw [calls]
    refine List.forall_mem_singleton.mpr fun key about => ?_
    obtain ⟨name, named, rfl⟩ := Option.map_eq_some_iff.mp about
    exact ⟨.gateway, name, rfl, Kind.eq_of_objectName? named⟩

/-- Every call of a pass is about a place that its gateway touches. -/
theorem confined (protocol : CallProtocol gateway parts result)
    (readsPlace : ∀ exchange ∈ PassStep.order.flatMap parts, exchange.ReadsPlace) :
    gateway.Confines (PassStep.order.flatMap parts) := by
  intro exchange member
  obtain ⟨step, inOrder, inPart⟩ := List.mem_flatMap.mp member
  have inStep : ∀ exchange ∈ parts step, exchange.ReadsPlace := fun exchange inPart =>
    readsPlace exchange (List.mem_flatMap.mpr ⟨step, inOrder, inPart⟩)
  cases step with
  | defaults => exact protocol.confined_defaults exchange inPart
  | secret role => exact (protocol.secrets role).confined inStep exchange inPart
  | child kind =>
    have isChild := PassStep.isChild_of_mem_order inOrder
    exact (protocol.children kind isChild).confined isChild inStep exchange inPart

end CallProtocol

/-! ### Places that were written -/

theorem fresh_single (exchange : Exchange) : Fresh [exchange] := List.pairwise_singleton _ _

/-- A read may come before anything. -/
theorem fresh_pair {first : Exchange} (reads : first.call.place? = none) (second : Exchange) :
    Fresh [first, second] := by
  refine List.pairwise_pair.mpr fun key place => ?_
  rw [reads] at place
  cases place

theorem SecretCalls.fresh {role : SecretRole} {gateway : Gateway} {calls : List Exchange}
    (secretCalls : SecretCalls role gateway calls) : Fresh calls := by
  cases secretCalls with
  | none => exact .nil
  | read => exact fresh_single _
  | owned => exact fresh_pair rfl _

theorem ChildCalls.fresh {kind : Kind} {name : ObjectName} {calls : List Exchange}
    (childCalls : ChildCalls kind name calls) : Fresh calls := by
  cases childCalls with
  | none => exact .nil
  | unread | read => exact fresh_single _
  | created | updated => exact fresh_pair rfl _

/-- A list whose members go with all members before them. -/
theorem pairwise_of_before {Value : Type} {values : List Value} {Related : Value → Value → Prop}
    (related : ∀ before value after, values = before ++ value :: after →
      ∀ earlier ∈ before, Related earlier value) : values.Pairwise Related := by
  refine List.pairwise_iff_forall_sublist.mpr fun {earlier value} sublist => ?_
  obtain ⟨before, rest, rfl, inBefore, inRest⟩ := List.cons_sublist_iff.mp sublist
  obtain ⟨middle, after, rfl⟩ := List.append_of_mem (List.singleton_sublist.mp inRest)
  refine related (before ++ middle) value after ?_ earlier (List.mem_append_left _ inBefore)
  rw [List.append_assoc]

namespace CallProtocol

variable {gateway : Gateway} {parts : PassStep → List Exchange}
  {result : Except ReconcileError Outcome}

/-- A step that lets a pass go on writes nothing but an object of the gateway. -/
theorem isChild_of_ready {step : PassStep} {calls : List Exchange}
    (ready : step.Ready gateway calls) {exchange : Exchange} (member : exchange ∈ calls)
    {key : ObjectKey} (place : exchange.call.place? = some key) : step.isChild = true := by
  cases step with
  | defaults =>
    rw [ready.2] at member
    cases member
  | secret role =>
    obtain ⟨-, rfl⟩ | ⟨reference, secret, metadata, -, -, rfl, -, -⟩ := ready
    · cases member
    · rw [List.mem_singleton.mp member] at place
      cases place
  | child kind => rfl

/-- The calls of one step do not come back to a place that was written. -/
theorem fresh_part (protocol : CallProtocol gateway parts result) {step : PassStep}
    (inOrder : step ∈ PassStep.order) : Fresh (parts step) := by
  cases step with
  | defaults =>
    obtain ⟨-, calls⟩ | ⟨-, answer, calls⟩ := protocol.defaults
    · rw [calls]
      exact .nil
    · rw [calls]
      exact fresh_single _
  | secret role => exact (protocol.secrets role).fresh
  | child kind => exact (protocol.children kind (PassStep.isChild_of_mem_order inOrder)).fresh

/-- The calls of a step are about objects of one word. -/
theorem label_of_child (protocol : CallProtocol gateway parts result) {kind : Kind}
    (inOrder : PassStep.child kind ∈ PassStep.order) {exchange : Exchange}
    (member : exchange ∈ parts (.child kind)) {key : ObjectKey}
    (about : exchange.call.key? = some key) : key.label = kind.label := by
  have children := protocol.children kind (PassStep.isChild_of_mem_order inOrder)
  rw [Call.label_of_key? about, children.kind_of_mem exchange member]

/-- No call of a pass comes back to a place that was written: a write to the gateway or a Secret is
the last call, and each object of the gateway has its own step. -/
theorem fresh (protocol : CallProtocol gateway parts result) :
    Fresh (PassStep.order.flatMap parts) := by
  have ready : PassStep.order.Pairwise fun earlier later =>
      parts later ≠ [] → earlier.Ready gateway (parts earlier) :=
    pairwise_of_before fun before step after split earlier member reached =>
      protocol.prepared before step after split reached earlier member
  have different : PassStep.order.Pairwise (· ≠ ·) := by decide
  have related := (ready.and PassStep.pairwise_order).and different
  refine List.pairwise_flatMap.mpr ⟨fun step inOrder => protocol.fresh_part inOrder, ?_⟩
  refine related.imp_of_mem fun {earlier later} earlierIn laterIn related => ?_
  obtain ⟨⟨ready, order⟩, different⟩ := related
  intro first inEarlier second inLater key place about
  have isChild := isChild_of_ready (ready (List.ne_nil_of_mem inLater)) inEarlier place
  have laterIsChild := order isChild
  cases earlier with
  | defaults | secret => cases isChild
  | child kind =>
    cases later with
    | defaults | secret => cases laterIsChild
    | child other =>
      have alone := Kind.alone_of_isChild (PassStep.isChild_of_mem_order earlierIn)
      have label := protocol.label_of_child earlierIn inEarlier (Call.key?_of_place? place)
      have otherLabel := protocol.label_of_child laterIn inLater about
      exact different (congrArg PassStep.child
        (alone.eq_of_label (otherLabel.symm.trans label)).symm)

end CallProtocol

/-! ### One pass on two memories -/

namespace Turn

variable {turn : Turn}

/-- Every call of a pass is about a place that its gateway touches. -/
theorem confined (reachable : turn.before.Reachable) : turn.gateway.Confines turn.exchanges := by
  obtain ⟨parts, calls, run⟩ := PassRun.of_ends turn.ends
  have readsPlace := reachable.readsPlace turn.gives
  rw [calls] at readsPlace ⊢
  exact run.callProtocol.confined readsPlace

theorem fresh (turn : Turn) : Fresh turn.exchanges := by
  obtain ⟨parts, calls, run⟩ := PassRun.of_ends turn.ends
  rw [calls]
  exact run.callProtocol.fresh

/-- A pass leaves every place alone that its gateway does not touch, and the conflict that waits
there. -/
theorem agrees_after (reachable : turn.before.Reachable) {key : ObjectKey}
    (untouched : ¬turn.gateway.Touches key) : turn.before.Agrees turn.after key := by
  have elsewhere : ∀ exchange ∈ turn.exchanges, exchange.call.place? ≠ some key :=
    fun exchange member place =>
      untouched (confined reachable exchange member key (Call.key?_of_place? place))
  exact ⟨reachable.gives_object?_other turn.gives elsewhere,
    Memory.gives_conflicts_other turn.gives elsewhere⟩

/-- Two passes go the same way: they have the same result, make the same calls, log the same writes,
and what they write and hand on is the same up to versions and generated uids. -/
structure Mirrors (turn other : Turn) : Prop where
  result : other.result = turn.result
  gateway : Kind.gateway.Twins .update turn.ended.result.gateway other.ended.result.gateway
  exchanges : List.Forall₂ Exchange.Replays turn.exchanges other.exchanges
  writes : ∃ writes, Memory.SameWrites writes turn.before turn.after other.before other.after

/-- A pass goes the same way on two memories that agree on the places its gateway touches. -/
theorem mirrors_of_agrees (reachable : turn.before.Reachable) {second : Memory}
    (secondReachable : second.Reachable)
    (agrees : ∀ key, turn.gateway.Touches key → turn.before.Agrees second key) :
    turn.Mirrors { turn with before := second } := by
  obtain ⟨others, after, gives, replays, writes⟩ :=
    reachable.exists_replay secondReachable turn.gives turn.fresh
      fun exchange member key about => agrees key (confined reachable exchange member key about)
  obtain ⟨result, ends, alike⟩ :=
    pass_follows turn.policy turn.gateway _ _ turn.ends others replays
  obtain ⟨sameResult, sameAfter, sameExchanges⟩ := Program.run_eq_of_gives ends gives
  refine ⟨?_, ?_, ?_, ?_⟩
  · exact (congrArg PassResult.result sameResult).trans alike.result
  · show Kind.gateway.Twins .update _
      ((pass turn.policy turn.gateway).run Memory.store second).result.gateway
    rw [sameResult]
    exact alike.gateway
  · show List.Forall₂ _ _ ((pass turn.policy turn.gateway).exchanges Memory.store second)
    rw [sameExchanges]
    exact replays
  · show ∃ writes, Memory.SameWrites writes _ _ _
      ((pass turn.policy turn.gateway).run Memory.store second).state
    rw [sameAfter]
    exact writes

end Turn

/-! ### Two gateways -/

/-- The kind and the name of an object that a gateway uses are known from its place. -/
theorem Gateway.uses_of_touches {gateway : Gateway} {kind : Kind} {name : ObjectName}
    (touches : gateway.Touches (.of kind name)) (alone : kind.Alone) : gateway.Uses kind name := by
  obtain ⟨other, otherName, same, uses⟩ := touches
  obtain ⟨label, rfl⟩ := ObjectKey.of_eq_of.mp same
  obtain rfl := alone.eq_of_label label.symm
  exact uses

/-- Gateways of different names that refer to no common Secret touch no common place. -/
theorem Gateway.not_touches {first second : Gateway}
    (apart : (second.namespaceName, second.name) ≠ (first.namespaceName, first.name))
    (unshared : ∀ name, first.RefersTo name → ¬second.RefersTo name) {key : ObjectKey}
    (touches : second.Touches key) : ¬first.Touches key := by
  obtain ⟨kind, name, rfl, uses⟩ := touches
  intro firstTouches
  have alone : kind.Alone := by
    cases kind with
    | coreEvent | event => cases uses
    | _ => decide
  have firstUses := Gateway.uses_of_touches firstTouches alone
  have sameChild : second.childObjectName = first.childObjectName → False := by
    intro same
    injection same with sameNamespace sameName
    exact apart (Prod.ext sameNamespace (childName_injective sameName))
  cases kind with
  | gateway =>
    have same := uses.symm.trans firstUses
    injection same with sameNamespace sameName
    exact apart (Prod.ext sameNamespace sameName)
  | secret => exact unshared name firstUses uses
  | deployment | service | ingress => exact sameChild (uses.symm.trans firstUses)
  | configMap | coreEvent | event => cases uses

/-- Passes over different gateways keep apart, on every memory that can be reached. Whatever its
result, a pass leaves every place alone except that of its gateway, those of the Secrets the gateway
refers to, and those of its Deployment, its Service and its Ingress. So when two gateways have
different names and refer to no common Secret, a pass over the one goes the same way behind a pass
over the other as without it: it has the same result, makes the same calls, logs the same writes,
and writes the same objects up to their versions and the uids of those it creates. -/
theorem passes_keep_apart {turn : Turn} (reachable : turn.before.Reachable) :
    (∀ key, ¬turn.gateway.Touches key → turn.after.object? key = turn.before.object? key) ∧
    ∀ other : Turn, other.before = turn.before →
      (other.gateway.namespaceName, other.gateway.name) ≠
        (turn.gateway.namespaceName, turn.gateway.name) →
      (∀ name, turn.gateway.RefersTo name → ¬other.gateway.RefersTo name) →
      other.Mirrors { other with before := turn.after } := by
  refine ⟨fun key untouched => (Turn.agrees_after reachable untouched).object, ?_⟩
  intro other sameStart apart unshared
  rw [← sameStart] at reachable
  refine Turn.mirrors_of_agrees reachable (Turn.reachable_after (sameStart ▸ reachable)) ?_
  intro key touches
  rw [sameStart]
  exact Turn.agrees_after (sameStart ▸ reachable) (Gateway.not_touches apart unshared touches)

/-- A gateway that refers to no Secret. -/
def plainGateway : Gateway where
  metadata := { name := some "plain", namespaceName := some "default" }
  spec := { replicas := some 1 }

/-- A pass that becomes an owner of a Secret. -/
def settingsTurn : Turn := ⟨.enforce, configuredGateway, secretMemory (settingsSecret [])⟩

/-- A pass over the other gateway that starts at the same memory. -/
def plainTurn : Turn := ⟨.enforce, plainGateway, secretMemory (settingsSecret [])⟩

/-- The pass over the other gateway creates its Deployment and its Service, whether or not the
Secret was written first. -/
theorem plain_pass_is_not_disturbed :
    settingsTurn.after.writes = [⟨.update, ⟨"Secret", "default", "settings"⟩⟩] ∧
    plainTurn.after.writes = [⟨.create, ⟨"Deployment", "default", "apicast-plain"⟩⟩,
      ⟨.create, ⟨"Service", "default", "apicast-plain"⟩⟩] ∧
    plainTurn.Mirrors { plainTurn with before := settingsTurn.after } := by
  have reachable : settingsTurn.before.Reachable := reachable_secretMemory _
  have apart : (plainGateway.namespaceName, plainGateway.name) ≠
      (configuredGateway.namespaceName, configuredGateway.name) := by decide
  have refersToNone : ∀ name, ¬plainGateway.RefersTo name := by
    rintro name ⟨role, reference, refers, -⟩
    cases role <;> cases refers
  exact ⟨rfl, rfl, (passes_keep_apart reachable).2 plainTurn rfl apart
    fun name _ => refersToNone name⟩

end GatewayOperator
