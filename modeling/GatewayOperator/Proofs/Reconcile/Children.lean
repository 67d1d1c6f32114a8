/-
This file follows one object of a gateway through a pass. The calls about the object stand together,
and all others are about objects of other words, so the pass finds the object as it was stored
before and leaves it as those few calls do. They leave it alone, create it, or merge what is desired
into it; and what is desired is known from the gateway and from the Secrets as they are stored,
because a pass that gets that far wrote no Secret.
-/

import GatewayOperator.Proofs.Reconcile.Ownership
import GatewayOperator.Proofs.Reconcile.Turn

namespace GatewayOperator

/-! ### The calls about one object -/

/-- The calls about objects of a kind among others: they stand together. -/
def CallsAbout (kind : Kind) (exchanges calls : List Exchange) : Prop :=
  ∃ earlier later, exchanges = earlier ++ calls ++ later ∧
    ∀ exchange ∈ earlier ++ later, exchange.call.kind ≠ kind

theorem callsAbout_none {kind : Kind} {exchanges : List Exchange}
    (others : ∀ exchange ∈ exchanges, exchange.call.kind ≠ kind) :
    CallsAbout kind exchanges [] := by
  refine ⟨exchanges, [], ?_, ?_⟩
  · rw [List.append_nil, List.append_nil]
  · rw [List.append_nil]
    exact others

/-- Calls about other objects may come first. -/
theorem CallsAbout.behind {kind : Kind} {exchanges calls : List Exchange}
    (about : CallsAbout kind exchanges calls) {first : List Exchange}
    (others : ∀ exchange ∈ first, exchange.call.kind ≠ kind) :
    CallsAbout kind (first ++ exchanges) calls := by
  obtain ⟨earlier, later, rfl, different⟩ := about
  refine ⟨first ++ earlier, later, ?_, ?_⟩
  · rw [List.append_assoc, List.append_assoc, List.append_assoc]
  · rw [List.append_assoc, List.forall_mem_append]
    exact ⟨others, different⟩

/-- When the calls about an object begin it is as it was at the start, and when they have ended it
stays as they left it. No conflict of its place is used up before they begin. -/
theorem Memory.Reachable.of_callsAbout {before after : Memory} (reachable : before.Reachable)
    {kind : Kind} (alone : kind.Alone) {exchanges calls : List Exchange}
    (about : CallsAbout kind exchanges calls) (gives : store.Gives before exchanges after)
    (name : ObjectName) :
    ∃ start finish : Memory, start.Reachable ∧ store.Gives start calls finish ∧
      start.object? (.of kind name) = before.object? (.of kind name) ∧
      start.conflicts.contains (.of kind name) = before.conflicts.contains (.of kind name) ∧
      after.object? (.of kind name) = finish.object? (.of kind name) := by
  obtain ⟨earlier, later, rfl, others⟩ := about
  rw [List.forall_mem_append] at others
  obtain ⟨finish, firstGives, laterGive⟩ := (store.gives_append _ _ _ _).mp gives
  obtain ⟨start, earlierGive, callsGive⟩ := (store.gives_append _ _ _ _).mp firstGives
  have started := reachable.gives earlierGive
  have elsewhere : ∀ exchange ∈ earlier, exchange.call.place? ≠ some (.of kind name) := by
    intro exchange member
    exact Call.place?_ne_of_label fun same =>
      others.1 exchange member (alone.eq_of_label same)
  refine ⟨start, finish, started, callsGive, ?_, ?_, ?_⟩
  · exact reachable.gives_object?_other earlierGive elsewhere
  · exact gives_conflicts_other earlierGive elsewhere
  · exact (started.gives callsGive).gives_object?_of_kind laterGive alone others.2 name

/-- The calls of the three steps that bring the objects of a gateway about. -/
def childParts (deployment service ingress : List Exchange) : Kind → List Exchange
  | .deployment => deployment
  | .service => service
  | .ingress => ingress
  | _ => []

/-- Nothing is called about the object of a kind, or it is brought to its desired state. -/
def BringsAbout (policy : ReplicaPolicy) (desired : DesiredState) (kind : Kind)
    (calls : List Exchange) : Prop :=
  calls = [] ∨ ∃ wanted outcome, desired.child? kind = some wanted ∧
    (reconcileChild kind (kind.rules policy) wanted).Ends calls outcome

/-- The objects of a gateway are brought about one after the other, as far as the pass gets. -/
theorem ChildrenStage.exists_parts {policy : ReplicaPolicy} {desired : DesiredState}
    {exchanges : List Exchange} {result : Except ReconcileError Unit}
    (stage : ChildrenStage policy desired exchanges result) :
    ∃ deployment service ingress, exchanges = deployment ++ service ++ ingress ∧
      ∀ kind, BringsAbout policy desired kind (childParts deployment service ingress kind) := by
  have together : ∀ {deployment service ingress : List Exchange},
      BringsAbout policy desired .deployment deployment →
      BringsAbout policy desired .service service → BringsAbout policy desired .ingress ingress →
      ∀ kind, BringsAbout policy desired kind (childParts deployment service ingress kind) := by
    intro deployment service ingress first second third kind
    cases kind with
    | deployment => exact first
    | service => exact second
    | ingress => exact third
    | _ => exact Or.inl rfl
  cases stage with
  | deploymentFails fails =>
    exact ⟨exchanges, [], [], by simp, together (Or.inr ⟨_, _, rfl, fails⟩) (Or.inl rfl)
      (Or.inl rfl)⟩
  | serviceFails deploymentEnds fails =>
    exact ⟨_, _, [], by simp, together (Or.inr ⟨_, _, rfl, deploymentEnds⟩)
      (Or.inr ⟨_, _, rfl, fails⟩) (Or.inl rfl)⟩
  | unexposed unexposed deploymentEnds serviceEnds =>
    exact ⟨_, _, [], by simp, together (Or.inr ⟨_, _, rfl, deploymentEnds⟩)
      (Or.inr ⟨_, _, rfl, serviceEnds⟩) (Or.inl rfl)⟩
  | ingressFails exposed deploymentEnds serviceEnds fails =>
    exact ⟨_, _, _, rfl, together (Or.inr ⟨_, _, rfl, deploymentEnds⟩)
      (Or.inr ⟨_, _, rfl, serviceEnds⟩) (Or.inr ⟨_, _, exposed, fails⟩)⟩
  | exposed exposed deploymentEnds serviceEnds ingressEnds =>
    exact ⟨_, _, _, rfl, together (Or.inr ⟨_, _, rfl, deploymentEnds⟩)
      (Or.inr ⟨_, _, rfl, serviceEnds⟩) (Or.inr ⟨_, _, exposed, ingressEnds⟩)⟩

/-- An object that is brought about is looked at by calls about its kind only. -/
theorem BringsAbout.kind_of_mem {policy : ReplicaPolicy} {gateway : Gateway}
    {secrets : ResolvedSecrets} {kind : Kind} {calls : List Exchange}
    (brings : BringsAbout policy (desiredState gateway secrets) kind calls) :
    ∀ exchange ∈ calls, exchange.call.kind = kind := by
  intro exchange member
  obtain rfl | ⟨wanted, outcome, child, ends⟩ := brings
  · cases member
  · have named := objectName?_child child
    exact ((ChildStage.of_ends named ends).childCalls named).kind_of_mem exchange member

/-- Among the calls about the objects of a gateway those about one kind stand together. -/
theorem ChildrenStage.exists_calls {policy : ReplicaPolicy} {gateway : Gateway}
    {secrets : ResolvedSecrets} {exchanges : List Exchange} {result : Except ReconcileError Unit}
    (stage : ChildrenStage policy (desiredState gateway secrets) exchanges result) {kind : Kind}
    (isChild : kind.isChild = true) :
    ∃ calls, CallsAbout kind exchanges calls ∧
      BringsAbout policy (desiredState gateway secrets) kind calls := by
  obtain ⟨deployment, service, ingress, rfl, brings⟩ := stage.exists_parts
  have others : ∀ other : Kind, other ≠ kind →
      ∀ exchange ∈ childParts deployment service ingress other, exchange.call.kind ≠ kind := by
    intro other different exchange member
    rw [(brings other).kind_of_mem exchange member]
    exact different
  refine ⟨_, ?_, brings kind⟩
  cases kind with
  | deployment =>
    refine ⟨[], service ++ ingress, List.append_assoc _ _ _, ?_⟩
    rw [List.nil_append, List.forall_mem_append]
    exact ⟨others .service (by decide), others .ingress (by decide)⟩
  | service =>
    refine ⟨deployment, ingress, rfl, ?_⟩
    rw [List.forall_mem_append]
    exact ⟨others .deployment (by decide), others .ingress (by decide)⟩
  | ingress =>
    refine ⟨deployment ++ service, [], (List.append_nil _).symm, ?_⟩
    rw [List.append_nil, List.forall_mem_append]
    exact ⟨others .deployment (by decide), others .service (by decide)⟩
  | _ => cases isChild

/-! ### The calls of a pass about one object -/

/-- Behind its Secrets a pass brings the objects about that are desired with the Secrets as they are
stored, because it gets there only without writing them. -/
theorem Memory.Reachable.callsAbout_of_gatewayStage {before after : Memory}
    (reachable : before.Reachable) {policy : ReplicaPolicy} {gateway : Gateway}
    {exchanges : List Exchange} {result : Except ReconcileError Outcome}
    (stage : GatewayStage policy gateway exchanges result)
    (gives : store.Gives before exchanges after) {kind : Kind} (isChild : kind.isChild = true) :
    ∃ calls, CallsAbout kind exchanges calls ∧
      BringsAbout policy (before.desiredState gateway) kind calls := by
  have aboutSecrets : ∀ {role : SecretRole} {calls : List Exchange}
      {owned : Except ReconcileError OwnedSecret}, (reconcileSecret role gateway).Ends calls owned →
      ∀ exchange ∈ calls, exchange.call.kind ≠ kind := by
    intro role calls owned ends exchange member same
    rw [(SecretStage.of_ends ends).secretCalls.kind_of_mem exchange member] at same
    rw [← same] at isChild
    cases isChild
  cases stage with
  | adminPortalFails first | adminPortalOwned first =>
    exact ⟨[], callsAbout_none (aboutSecrets first), Or.inl rfl⟩
  | embeddedConfigFails first second | embeddedConfigOwned first second =>
    refine ⟨[], callsAbout_none ?_, Or.inl rfl⟩
    exact List.forall_mem_append.mpr ⟨aboutSecrets first, aboutSecrets second⟩
  | @children _ _ _ portal config _ first second childrenEnd =>
    obtain ⟨middle, secretsGive, -⟩ := (store.gives_append _ _ _ _).mp gives
    obtain ⟨-, -, portalResolved, configResolved⟩ :=
      reachable.wellKept.of_secretStages first second secretsGive
    have desired : gateway.desiredWith portal config = before.desiredState gateway := by
      unfold Memory.desiredState
      rw [portalResolved, configResolved]
      rfl
    obtain ⟨calls, about, brings⟩ := (ChildrenStage.of_ends childrenEnd).exists_calls isChild
    rw [← desired]
    exact ⟨calls, about.behind (List.forall_mem_append.mpr ⟨aboutSecrets first,
      aboutSecrets second⟩), brings⟩

/-- In every pass the calls about an object of its gateway stand together, and they bring it to what
is desired with the Secrets as they are stored. -/
theorem Turn.exists_callsAbout {turn : Turn} (reachable : turn.before.Reachable) {kind : Kind}
    (isChild : kind.isChild = true) :
    ∃ calls, CallsAbout kind turn.exchanges calls ∧
      BringsAbout turn.policy (turn.before.desiredState turn.gateway) kind calls := by
  cases lacks : turn.gateway.lacksDefaults with
  | false =>
    have stages := ((ends_pass_complete lacks _ _).mp turn.ends).1
    exact reachable.callsAbout_of_gatewayStage (.of_ends stages) turn.gives isChild
  | true =>
    have different : Kind.gateway ≠ kind := by
      rintro rfl
      cases isChild
    refine ⟨[], callsAbout_none ?_, Or.inl rfl⟩
    obtain ⟨failure, calls, -⟩ | ⟨updated, calls, -⟩ := ends_pass_lacking lacks turn.ends
    · rw [calls]
      exact List.forall_mem_singleton.mpr different
    · rw [calls]
      exact List.forall_mem_singleton.mpr different

/-! ### What a pass makes of an object -/

/-- What becomes of an object of a gateway in a pass: it is left alone, the desired object is stored
at its free place, or it is stored again with its managed fields merged. -/
inductive Brought (policy : ReplicaPolicy) (kind : Kind) (desired : kind.Object)
    (name : ObjectName) (before after : Memory) : Prop where
  | kept (same : after.object? (.of kind name) = before.object? (.of kind name))
  | created (free : before.object? (.of kind name) = none) (metadata : ObjectMeta)
    (stored : after.object? (.of kind name) = some ⟨kind, kind.withMetadata desired metadata⟩)
  | merged {existing : kind.Object}
    (found : before.object? (.of kind name) = some ⟨kind, existing⟩) (metadata : ObjectMeta)
    (stored : after.object? (.of kind name) = some ⟨kind, kind.withStatusOf (kind.withMetadata
      (reconcileFields desired (kind.rules policy) existing).object metadata) existing⟩)

/-- What becomes of an object is seen at its place alone. -/
theorem Brought.congr {policy : ReplicaPolicy} {kind : Kind} {desired : kind.Object}
    {name : ObjectName} {before start finish after : Memory}
    (brought : Brought policy kind desired name start finish)
    (first : start.object? (.of kind name) = before.object? (.of kind name))
    (last : after.object? (.of kind name) = finish.object? (.of kind name)) :
    Brought policy kind desired name before after := by
  cases brought with
  | kept kept => exact .kept (last.trans (kept.trans first))
  | created free metadata stored =>
    exact .created (first.symm.trans free) metadata (last.trans stored)
  | merged found metadata stored =>
    exact .merged (first.symm.trans found) metadata (last.trans stored)

namespace Memory

variable {policy : ReplicaPolicy}

/-- An object that is created is stored at its free place, or nothing happens. -/
theorem brought_of_create (memory : Memory) {kind : Kind} {desired : kind.Object}
    {name : ObjectName} (named : kind.objectName? desired = some name) :
    Brought policy kind desired name memory (memory.create kind desired).2 := by
  obtain ⟨cause, fails⟩ | ⟨other, after, otherNamed, free, succeeds, wrote, -⟩ :=
    memory.create_cases kind desired
  · rw [fails]
    exact .kept rfl
  · obtain rfl : name = other := Option.some.inj (named.symm.trans otherNamed)
    rw [succeeds]
    exact .created free _ wrote.object?_self

/-- An object that is written back is merged, or nothing happens to it. -/
theorem WellKept.brought_of_update {memory : Memory} (wellKept : WellKept memory) {kind : Kind}
    {existing : kind.Object} {name : ObjectName}
    (found : memory.object? (.of kind name) = some ⟨kind, existing⟩) (desired : kind.Object) :
    Brought policy kind desired name memory
      (memory.update kind (reconcileFields desired (kind.rules policy) existing).object).2 := by
  obtain ⟨cause | updated, after, answered⟩ : ∃ outcome after, memory.update kind
      (reconcileFields desired (kind.rules policy) existing).object = (outcome, after) :=
    ⟨_, _, rfl⟩
  · rw [answered]
    obtain ⟨_, _, fails, kept, -⟩ | ⟨_, _, _, _, _, _, _, _, succeeds, -, -⟩ :=
      memory.update_cases kind (reconcileFields desired (kind.rules policy) existing).object
    · rw [answered] at fails
      cases fails
      exact .kept (kept.object? _)
    · rw [answered] at succeeds
      cases succeeds
  · rw [answered]
    obtain ⟨other, present, otherNamed, there, replaced, wrote⟩ := of_update answered
    -- The update goes to the place the object was read from, because the table keeps its name.
    rw [kind.objectName?_reconcileFields, wellKept.objectName? found] at otherNamed
    obtain rfl : name = other := Option.some.inj otherNamed
    rw [found] at there
    cases there
    rw [replacement_stored] at replaced
    rw [replaced] at wrote
    exact .merged found _ wrote.object?_self

/-- Whatever is answered, an object that is brought about is left alone, created, or merged. -/
theorem WellKept.brought_of_childStage {before after : Memory} (wellKept : WellKept before)
    {kind : Kind} (alone : kind.Alone) {desired : kind.Object} {name : ObjectName}
    (named : kind.objectName? desired = some name) {exchanges : List Exchange}
    {result : Except ReconcileError ChildOutcome}
    (stage : ChildStage kind (kind.rules policy) desired name exchanges result)
    (gives : store.Gives before exchanges after) :
    Brought policy kind desired name before after := by
  cases stage with
  | unread | settled =>
    obtain ⟨-, rfl⟩ := gives
    exact .kept rfl
  | uncreated | created =>
    obtain ⟨-, -, rfl⟩ := gives
    exact before.brought_of_create named
  | unwritten | written =>
    obtain ⟨got, -, rfl⟩ := gives
    exact wellKept.brought_of_update (wellKept.object?_of_get alone got) desired

end Memory

/-- A pass makes of an object of its gateway what is desired with the Secrets as they are stored, or
nothing. -/
theorem Turn.brought {turn : Turn} (reachable : turn.before.Reachable) {kind : Kind}
    {desired : kind.Object}
    (child : (turn.before.desiredState turn.gateway).child? kind = some desired) :
    Brought turn.policy kind desired turn.gateway.childObjectName turn.before turn.after := by
  have isChild := DesiredState.isChild_of_child? child
  have alone := Kind.alone_of_isChild isChild
  obtain ⟨calls, about, brings⟩ := turn.exists_callsAbout reachable isChild
  obtain ⟨start, finish, started, gives, first, -, last⟩ :=
    reachable.of_callsAbout alone about turn.gives turn.gateway.childObjectName
  refine Brought.congr ?_ first last
  obtain rfl | ⟨wanted, outcome, same, ends⟩ := brings
  · rw [show finish = start from gives]
    exact .kept rfl
  · obtain rfl : desired = wanted := Option.some.inj (child.symm.trans same)
    have named := objectName?_child child
    exact started.wellKept.brought_of_childStage alone named (.of_ends named ends) gives

end GatewayOperator
