/-
This file runs a pass over a gateway in front of a faithful server and on the memory the server
stands for. Every call of a program gets the same answer on both, so the program goes the same way,
as long as it asks for names that stand in a path for themselves and for kinds that share their word
with no other. A pass asks for nothing else when its gateway, its namespace and the Secrets it
refers to have labels for names. So what holds of a pass on a store in memory holds in front of the
cluster.
-/

import GatewayOperator.Proofs.Reconcile.Convergence
import GatewayOperator.Proofs.Reconcile.Isolation
import GatewayOperator.Proofs.Store.Faithful

namespace GatewayOperator

/-! ### Runs -/

/-- A call is about a name that stands in a path for itself, and about a kind that shares its word
with no other. A call without a name is about nothing. -/
def Call.IsPlain (request : Call) : Prop :=
  ∀ name, request.objectName? = some name → name.IsPlain ∧ request.kind.Alone

/-- A run in front of a server has ended like one on the memory that the server stands for. -/
structure Ended.Mirrors {State Result : Type} (memory : State → Memory)
    (remote : Ended State Result) (near : Ended Memory Result) : Prop where
  result : remote.result = near.result
  state : memory remote.state = near.state
  observations : remote.observations = near.observations

/-- A call without a name is refused before anything is asked. -/
theorem Memory.answer_nameless (memory : Memory) {request : Call}
    (nameless : request.objectName? = none) :
    store.answer request memory = (.error (.missingName request.kind.label), memory) := by
  cases request with
  | get kind namespaceName name => cases nameless
  | create kind object => exact memory.create_nameless nameless
  | update kind object => exact memory.update_nameless nameless
  | updateStatus gateway => exact memory.updateStatus_nameless nameless

namespace Http.Server.Faithful

variable {State : Type} {server : Http.Server State} {memory : State → Memory}

theorem store_answer_nameless (state : State) {request : Call}
    (nameless : request.objectName? = none) :
    server.store.answer request state = (.error (.missingName request.kind.label), state) := by
  simp only [Http.Server.store, nameless]

/-- A plain call has the same answer and leaves the same objects. -/
theorem answer_of_isPlain (faithful : server.Faithful memory) {state : State}
    (wellKept : (memory state).WellKept) {request : Call} (plain : request.IsPlain) :
    server.AnswersLike memory state request := by
  cases named : request.objectName? with
  | none => constructor <;> rw [store_answer_nameless state named, Memory.answer_nameless _ named]
  | some name =>
    obtain ⟨isPlain, alone⟩ := plain name named
    exact faithful.answersLike wellKept named isPlain alone

/-- A program that makes plain calls ends alike on both stores. -/
theorem run_mirrors {Result : Type} (faithful : server.Faithful memory)
    (program : Program Result) {state : State} (reachable : (memory state).Reachable)
    (plain : ∀ exchange ∈ program.exchanges Memory.store (memory state), exchange.call.IsPlain) :
    (program.run server.store state).Mirrors memory
      (program.run Memory.store (memory state)) := by
  induction program generalizing state with
  | done value => exact ⟨rfl, rfl, rfl⟩
  | call request next inductionHypothesis =>
    obtain ⟨now, later⟩ := List.forall_mem_cons.mp plain
    obtain ⟨answered, after⟩ := faithful.answer_of_isPlain reachable.wellKept now
    have reached : (memory (server.store.answer request state).2).Reachable :=
      after ▸ reachable.perform (.call request)
    have rest := inductionHypothesis (Memory.store.answer request (memory state)).1 reached
    rw [after] at rest
    show Ended.Mirrors memory
      ((next (server.store.answer request state).1).run server.store
        (server.store.answer request state).2) _
    rw [answered]
    exact rest later
  | observe observation next inductionHypothesis =>
    obtain ⟨result, after, observations⟩ := inductionHypothesis reachable plain
    exact ⟨result, after, congrArg (List.cons observation) observations⟩

end Http.Server.Faithful

/-! ### The calls of a pass -/

/-- The names that a gateway goes by are labels: its namespace, its own, and those of the Secrets it
refers to. A reference without a name refers to nothing. -/
structure Gateway.IsLabelled (gateway : Gateway) : Prop where
  namespaceName : isLabel gateway.namespaceName = true
  name : isLabel gateway.name = true
  references : ∀ (role : SecretRole) (reference : LocalObjectReference),
    gateway.secretReference? role = some reference → reference.name.isEmpty = false →
    isLabel reference.name = true

/-- The objects that a labelled gateway uses have plain names. -/
theorem Gateway.IsLabelled.isPlain_of_uses {gateway : Gateway} (labelled : gateway.IsLabelled)
    {kind : Kind} {name : ObjectName} (uses : gateway.Uses kind name) :
    name.IsPlain ∧ kind.Alone := by
  have namespaceName := isSegment_of_isLabel labelled.namespaceName
  cases kind with
  | gateway =>
    cases uses
    exact ⟨⟨namespaceName, isSegment_of_isLabel labelled.name⟩, by decide⟩
  | deployment | service | ingress =>
    cases uses
    exact ⟨⟨namespaceName, isSegment_childName labelled.name⟩, by decide⟩
  | secret =>
    obtain ⟨role, reference, refers, given, rfl⟩ := uses
    have label := labelled.references role reference refers given
    exact ⟨⟨namespaceName, isSegment_of_isLabel label⟩, by decide⟩
  | configMap | coreEvent | event => cases uses

theorem Call.key?_of_objectName? {request : Call} {name : ObjectName}
    (named : request.objectName? = some name) : request.key? = some (.of request.kind name) := by
  cases request with
  | get kind namespaceName objectName =>
    cases named
    rfl
  | create kind object | update kind object | updateStatus gateway =>
    exact congrArg (Option.map _) named

/-- A pass over a labelled gateway makes plain calls only. -/
theorem Turn.calls_isPlain {turn : Turn} (reachable : turn.before.Reachable)
    (labelled : turn.gateway.IsLabelled) :
    ∀ exchange ∈ turn.exchanges, exchange.call.IsPlain := by
  intro exchange member name named
  obtain ⟨kind, otherName, same, uses⟩ :=
    Turn.confined reachable exchange member _ (Call.key?_of_objectName? named)
  obtain ⟨label, rfl⟩ := ObjectKey.of_eq_of.mp same
  obtain ⟨plain, alone⟩ := labelled.isPlain_of_uses uses
  obtain rfl := alone.eq_of_label label
  exact ⟨plain, alone⟩

/-! ### Both stores -/

/-- A store in front of a faithful server and the memory that the server stands for agree. A call
about a name whose parts are labels, of any kind but the two versions of Events, has the same
answer, be it the object or an error with all it says, and leaves the same objects. So a pass over a
gateway whose names are labels has the same result, observes the same, and leaves the same
objects. -/
theorem stores_agree {State : Type} {server : Http.Server State} {memory : State → Memory}
    (faithful : server.Faithful memory) {state : State} (reachable : (memory state).Reachable) :
    (∀ request name, request.objectName? = some name → isLabel name.namespaceName = true →
      isLabel name.name = true → request.kind.Alone → server.AnswersLike memory state request) ∧
    ∀ policy gateway, gateway.IsLabelled →
      ((pass policy gateway).run server.store state).Mirrors memory
        ((pass policy gateway).run Memory.store (memory state)) := by
  constructor
  · intro request name named namespaceLabel nameLabel alone
    exact faithful.answersLike reachable.wellKept named
      ⟨isSegment_of_isLabel namespaceLabel, isSegment_of_isLabel nameLabel⟩ alone
  · intro policy gateway labelled
    let turn : Turn := ⟨policy, gateway, memory state⟩
    have reachesTurn : turn.before.Reachable := reachable
    exact faithful.run_mirrors _ reachable (Turn.calls_isPlain reachesTurn labelled)

theorem edgeGateway_isLabelled : edgeGateway.IsLabelled where
  namespaceName := by decide
  name := by decide
  references role reference refers := by cases role <;> cases refers

/-- The pass over the stray Deployment converges in front of the memory, too. -/
theorem edge_pass_mirrors :
    edgeMemory.Reachable ∧ Memory.server.Faithful id ∧ edgeGateway.IsLabelled ∧
    (∃ gateway, (Memory.server.store.answer (.get .gateway "default" "edge") edgeMemory).1 =
      .ok gateway) ∧
    ((pass .enforce edgeGateway).run Memory.server.store edgeMemory).result.result =
      .ok .done := by
  obtain ⟨calls, passes⟩ :=
    @stores_agree Memory Memory.server id Memory.server_faithful edgeMemory reachable_edgeMemory
  have alike := calls (.get .gateway "default" "edge") ⟨"default", "edge"⟩ rfl (by decide)
    (by decide) (by decide)
  have mirrors := passes .enforce edgeGateway edgeGateway_isLabelled
  exact ⟨reachable_edgeMemory, Memory.server_faithful, edgeGateway_isLabelled,
    ⟨_, alike.answer⟩, congrArg PassResult.result mirrors.result⟩

end GatewayOperator
