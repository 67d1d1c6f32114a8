/-
This file says which calls a pass makes on a store that may answer anything. A pass walks six steps
in one order, and every step makes its own calls: the defaults are written, the two Secrets are
read and owned, and the three objects are read and then created or written back. A step goes on to
the next one or ends the pass, and a call that fails ends it at once, except that an object that
was not found is created. A pass fails for no other reason than such a call or a Secret it refuses.
-/

import GatewayOperator.Proofs.Fields.Children
import GatewayOperator.Proofs.Ownership
import GatewayOperator.Proofs.Reconcile.Stages
import GatewayOperator.Proofs.Store.Reachable

namespace GatewayOperator

/-! ### Steps -/

/-- A step of a pass. -/
inductive PassStep where
  /-- The defaults of the gateway are written. -/
  | defaults
  /-- A Secret is read, checked and owned. -/
  | secret (role : SecretRole)
  /-- An object of the gateway is brought about. -/
  | child (kind : Kind)
  deriving DecidableEq

namespace PassStep

/-- The steps in the order of a pass. -/
def order : List PassStep :=
  [defaults, secret .adminPortal, secret .embeddedConfig, child .deployment, child .service,
    child .ingress]

/-- Whether a step brings an object about. -/
def isChild : PassStep → Bool
  | defaults | secret _ => false
  | child _ => true

/-- Once a pass brings objects about it does nothing else. -/
theorem pairwise_order :
    order.Pairwise fun earlier later => earlier.isChild = true → later.isChild = true := by
  decide

theorem isChild_of_mem_order {kind : Kind} (inOrder : child kind ∈ order) :
    kind.isChild = true := by
  revert inOrder
  cases kind <;> decide

/-- The error of a call that fails in a step: a Secret that is not found is an error of its
reference, and every other failure is one of the store. -/
def failure (step : PassStep) (request : Call) (cause : StoreError) : ReconcileError :=
  match step, request with
  | secret role, .get _ namespaceName name =>
    if cause.isNotFound then .secretNotFound role.field namespaceName name else .store cause
  | _, _ => .store cause

/-- Whether a pass goes on after a call failed: it does when an object of the gateway is not
found. -/
def tolerates (step : PassStep) (request : Call) (cause : StoreError) : Bool :=
  step.isChild && !request.writes && cause.isNotFound

end PassStep

/-- The step that a pass stopped at for a reason. -/
def RequeueReason.step : RequeueReason → PassStep
  | defaultsApplied => .defaults
  | adminPortalSecretOwned => .secret .adminPortal
  | embeddedConfigSecretOwned => .secret .embeddedConfig

/-! ### The calls of a step -/

/-- The calls about a Secret: it is read when it is referred to, and written back when it passed
its check and nobody controls it. -/
inductive SecretCalls (role : SecretRole) (gateway : Gateway) : List Exchange → Prop where
  | none : SecretCalls role gateway []
  | read {reference : LocalObjectReference} (answer : Except StoreError Secret)
    (refers : gateway.secretReference? role = some reference)
    (named : reference.name.isEmpty = false) :
    SecretCalls role gateway [reading .secret (gateway.secretName reference) answer]
  | owned {reference : LocalObjectReference} {secret : Secret} {metadata : ObjectMeta}
    (answer : Except StoreError Secret) (refers : gateway.secretReference? role = some reference)
    (named : reference.name.isEmpty = false) (fit : role.check secret = .ok ())
    (free : secret.metadata.claim gateway.ownerReference = .appended metadata) :
    SecretCalls role gateway [reading .secret (gateway.secretName reference) (.ok secret),
      writing .secret { secret with metadata } answer]

/-- The calls about an object of the gateway: it is read, then created when it was not found, and
written back at most once when it was, under the metadata it was read with. -/
inductive ChildCalls (kind : Kind) (name : ObjectName) : List Exchange → Prop where
  | none : ChildCalls kind name []
  | unread {cause : StoreError} (unknown : cause.isNotFound = false) :
    ChildCalls kind name [reading kind name (.error cause)]
  | created {cause : StoreError} {desired : kind.Object} (missing : cause.isNotFound = true)
    (named : kind.objectName? desired = some name) (answer : Except StoreError kind.Object) :
    ChildCalls kind name [reading kind name (.error cause), creating kind desired answer]
  | read (existing : kind.Object) : ChildCalls kind name [reading kind name (.ok existing)]
  | updated {existing object : kind.Object}
    (guarded : kind.metadata object = kind.metadata existing)
    (answer : Except StoreError kind.Object) :
    ChildCalls kind name [reading kind name (.ok existing), writing kind object answer]

/-- A Secret lets a pass go on: it is not referred to, or it was read, passes its check, and has a
reference to the gateway already. -/
def SecretReady (role : SecretRole) (gateway : Gateway) (calls : List Exchange) : Prop :=
  (gateway.secretReference? role = none ∧ calls = []) ∨
  ∃ reference secret metadata, gateway.secretReference? role = some reference ∧
    reference.name.isEmpty = false ∧
    calls = [reading .secret (gateway.secretName reference) (.ok secret)] ∧
    role.check secret = .ok () ∧
    secret.metadata.claim gateway.ownerReference = .refreshed metadata

/-- A Secret stops a pass though no call failed: its reference has no name, it does not pass its
check, or somebody else controls it. -/
inductive SecretRefused (role : SecretRole) (gateway : Gateway) :
    List Exchange → ReconcileError → Prop where
  | nameless {reference : LocalObjectReference}
    (refers : gateway.secretReference? role = some reference)
    (nameless : reference.name.isEmpty = true) :
    SecretRefused role gateway [] (.referenceIncomplete role.field)
  | unfit {reference : LocalObjectReference} {secret : Secret} {error : ReconcileError}
    (refers : gateway.secretReference? role = some reference)
    (named : reference.name.isEmpty = false) (unfit : role.check secret = .error error) :
    SecretRefused role gateway [reading .secret (gateway.secretName reference) (.ok secret)] error
  | controlled {reference : LocalObjectReference} {secret : Secret} {controller : OwnerReference}
    (refers : gateway.secretReference? role = some reference)
    (named : reference.name.isEmpty = false) (fit : role.check secret = .ok ())
    (refused : secret.metadata.claim gateway.ownerReference = .refused controller) :
    SecretRefused role gateway [reading .secret (gateway.secretName reference) (.ok secret)]
      (secret.alreadyOwned controller)

/-- The calls of a step that let a pass go on: the gateway has its replicas already, the Secret is
ready, the object was looked at or is not wanted. -/
def PassStep.Ready (gateway : Gateway) : PassStep → List Exchange → Prop
  | defaults, calls => gateway.spec.replicas ≠ none ∧ calls = []
  | secret role, calls => SecretReady role gateway calls
  | child kind, calls => calls ≠ [] ∨ kind = .ingress ∧ gateway.spec.exposedHost = none

/-! ### The calls of a pass -/

/-- The calls of steps, each with its step. -/
def labelled (parts : PassStep → List Exchange) (steps : List PassStep) :
    List (PassStep × Exchange) :=
  steps.flatMap fun step => (parts step).map (Prod.mk step)

/-- Which calls a pass makes, by its steps, and what they have to do with its result. -/
structure CallProtocol (gateway : Gateway) (parts : PassStep → List Exchange)
    (result : Except ReconcileError Outcome) : Prop where
  /-- The gateway is written exactly when it lacks its replicas. -/
  defaults : (gateway.spec.replicas ≠ none ∧ parts .defaults = []) ∨
    (gateway.spec.replicas = none ∧
      ∃ answer, parts .defaults = [writing .gateway gateway.withDefaults answer])
  secrets : ∀ role, SecretCalls role gateway (parts (.secret role))
  children : ∀ kind : Kind, kind.isChild = true →
    ChildCalls kind gateway.childObjectName (parts (.child kind))
  /-- Without an exposed host there is no call about an Ingress. -/
  unexposed : gateway.spec.exposedHost = none → parts (.child .ingress) = []
  /-- A call that fails is the last one, and the pass returns its error. -/
  stops : ∀ earlier step exchange later cause,
    labelled parts PassStep.order = earlier ++ (step, exchange) :: later →
    exchange.answer = .error cause → step.tolerates exchange.call cause = false →
    later = [] ∧ result = .error (step.failure exchange.call cause)
  /-- A requeue comes of one write, which is the last call and belongs to the step of the
  reason. -/
  requeued : ∀ reason, result = .ok (.requeue reason) →
    ∃ earlier exchange, labelled parts PassStep.order = earlier ++ [(reason.step, exchange)] ∧
      exchange.call.writes = true ∧ (∃ object, exchange.answer = .ok object) ∧
      ∀ call ∈ earlier, call.2.call.writes = false
  /-- An error comes of the last call, which failed, or of a Secret that is refused when the steps
  before let the pass go on. -/
  failed : ∀ error, result = .error error →
    (∃ earlier step exchange cause,
      labelled parts PassStep.order = earlier ++ [(step, exchange)] ∧
      exchange.answer = .error cause ∧ error = step.failure exchange.call cause) ∨
    ∃ before role after, PassStep.order = before ++ .secret role :: after ∧
      (∀ earlier ∈ before, earlier.Ready gateway (parts earlier)) ∧
      SecretRefused role gateway (parts (.secret role)) error ∧ ∀ later ∈ after, parts later = []
  /-- A pass that converges writes nothing but objects of the gateway, and looks at all of
  them. -/
  converged : result = .ok .done →
    (∀ call ∈ labelled parts PassStep.order, call.2.call.writes = true →
      call.1.isChild = true) ∧
    ∀ step ∈ PassStep.order, step.Ready gateway (parts step)
  /-- A step makes calls only when every step before it let the pass go on. So no object of the
  gateway is read or written before the gateway has its replicas and its Secrets are ready. -/
  prepared : ∀ before step after, PassStep.order = before ++ step :: after → parts step ≠ [] →
    ∀ earlier ∈ before, earlier.Ready gateway (parts earlier)

/-! ### Runs of steps -/

/-- How a step goes: the calls it makes, and the result of the pass if the step ends it. -/
def StepRun (gateway : Gateway) :
    PassStep → List Exchange → Option (Except ReconcileError Outcome) → Prop
  | .defaults, calls, ended =>
    (gateway.lacksDefaults = false ∧ calls = [] ∧ ended = none) ∨
    (gateway.lacksDefaults = true ∧
      ((∃ cause, calls = [writing .gateway gateway.withDefaults (.error cause)] ∧
        ended = some (.error (.store cause))) ∨
      ∃ updated, calls = [writing .gateway gateway.withDefaults (.ok updated)] ∧
        ended = some (.ok (.requeue .defaultsApplied))))
  | .secret role, calls, ended =>
    ∃ result, SecretStage role gateway calls result ∧
      ((∃ error, result = .error error ∧ ended = some (.error error)) ∨
      (∃ secret, result = .ok ⟨secret, false⟩ ∧ ended = none) ∨
      ∃ secret, result = .ok ⟨secret, true⟩ ∧
        ∃ reason : RequeueReason, reason.step = .secret role ∧ ended = some (.ok (.requeue reason)))
  | .child kind, calls, ended =>
    (kind = .ingress ∧ gateway.spec.exposedHost = none ∧ calls = [] ∧ ended = none) ∨
    (kind = .ingress → gateway.spec.exposedHost ≠ none) ∧
    ∃ policy desired result, kind.objectName? desired = some gateway.childObjectName ∧
      ChildStage kind (kind.rules policy) desired gateway.childObjectName calls result ∧
      ((∃ error, result = .error error ∧ ended = some (.error error)) ∨
      ∃ outcome, result = .ok outcome ∧ ended = none)

/-- How a pass goes: every step goes on, or one step ends it and no later one is reached. -/
inductive PassRun (gateway : Gateway) (parts : PassStep → List Exchange) :
    Except ReconcileError Outcome → Prop where
  | done (all : ∀ step ∈ PassStep.order, StepRun gateway step (parts step) none) :
    PassRun gateway parts (.ok .done)
  | ended {before after : List PassStep} {step : PassStep}
    {result : Except ReconcileError Outcome} (split : PassStep.order = before ++ step :: after)
    (passed : ∀ earlier ∈ before, StepRun gateway earlier (parts earlier) none)
    (ends : StepRun gateway step (parts step) (some result))
    (unreached : ∀ later ∈ after, parts later = []) :
    PassRun gateway parts result

/-! ### Calls that fail -/

/-- A call that does not end a pass. -/
def GoesOn (call : PassStep × Exchange) : Prop :=
  ∀ cause, call.2.answer = .error cause → call.1.tolerates call.2.call cause = true

/-- A call that ends a pass is the last one, and its error is the result. -/
def Orderly (ended : Option (Except ReconcileError Outcome))
    (calls : List (PassStep × Exchange)) : Prop :=
  ∀ earlier step exchange later cause, calls = earlier ++ (step, exchange) :: later →
    exchange.answer = .error cause → step.tolerates exchange.call cause = false →
    later = [] ∧ ended = some (.error (step.failure exchange.call cause))

section Orderly

variable {ended : Option (Except ReconcileError Outcome)}

theorem orderly_nil : Orderly ended [] := by
  intro earlier step exchange later cause split
  cases earlier <;> cases split

/-- The last call may fail if its error is the result. -/
theorem orderly_last {step : PassStep} {exchange : Exchange}
    (ends : ∀ cause, exchange.answer = .error cause →
      ended = some (.error (step.failure exchange.call cause))) :
    Orderly ended [(step, exchange)] := by
  intro earlier other found later cause split fails _
  cases earlier with
  | nil =>
    cases split
    exact ⟨rfl, ends cause fails⟩
  | cons head rest =>
    injection split with _ impossible
    cases rest <;> cases impossible

/-- A call that does not end the pass comes before any orderly calls. -/
theorem Orderly.cons {call : PassStep × Exchange} {rest : List (PassStep × Exchange)}
    (goesOn : GoesOn call) (orderly : Orderly ended rest) : Orderly ended (call :: rest) := by
  intro earlier step exchange later cause split fails ends
  cases earlier with
  | nil =>
    cases split
    rw [goesOn cause fails] at ends
    cases ends
  | cons head earlier =>
    injection split with _ split
    exact orderly earlier step exchange later cause split fails ends

theorem Orderly.append {first rest : List (PassStep × Exchange)}
    (goesOn : ∀ call ∈ first, GoesOn call) (orderly : Orderly ended rest) :
    Orderly ended (first ++ rest) := by
  induction first with
  | nil => exact orderly
  | cons call first inductionHypothesis =>
    rw [List.forall_mem_cons] at goesOn
    exact .cons goesOn.1 (inductionHypothesis goesOn.2)

/-- Orderly calls of a step that goes on do not end the pass. -/
theorem Orderly.goesOn {calls : List (PassStep × Exchange)} (orderly : Orderly none calls) :
    ∀ call ∈ calls, GoesOn call := by
  rintro ⟨step, exchange⟩ member cause fails
  obtain ⟨earlier, later, split⟩ := List.append_of_mem member
  cases tolerates : step.tolerates exchange.call cause with
  | true => rfl
  | false => cases (orderly earlier step exchange later cause split fails tolerates).2

end Orderly

/-! ### How a step goes -/

section StepRun

variable {gateway : Gateway} {calls : List Exchange}
  {ended : Option (Except ReconcileError Outcome)}

theorem Gateway.lacksDefaults_eq_false_iff (gateway : Gateway) :
    gateway.lacksDefaults = false ↔ gateway.spec.replicas ≠ none :=
  Option.isNone_eq_false_iff.trans Option.isSome_iff_ne_none

theorem SecretResolution.secretCalls {role : SecretRole}
    {result : Except ReconcileError (Option Secret)}
    (resolution : SecretResolution role gateway calls result) :
    SecretCalls role gateway calls := by
  cases resolution with
  | unset | nameless => exact .none
  | unread refers named fails => exact .read _ refers named
  | unfit refers named unfit => exact .read _ refers named
  | fit refers named fit => exact .read _ refers named

/-- A Secret that was resolved was read and passed its check. -/
theorem SecretResolution.of_resolved {role : SecretRole} {secret : Secret}
    (resolution : SecretResolution role gateway calls (.ok (some secret))) :
    ∃ reference, gateway.secretReference? role = some reference ∧
      reference.name.isEmpty = false ∧ role.check secret = .ok () ∧
      calls = [reading .secret (gateway.secretName reference) (.ok secret)] := by
  cases resolution with
  | fit refers named fit => exact ⟨_, refers, named, fit, rfl⟩

theorem SecretStage.secretCalls {role : SecretRole} {result : Except ReconcileError OwnedSecret}
    (stage : SecretStage role gateway calls result) : SecretCalls role gateway calls := by
  cases stage with
  | unresolved resolution => exact resolution.secretCalls
  | absent resolution => exact resolution.secretCalls
  | refused resolution refused => exact resolution.secretCalls
  | owned resolution owned => exact resolution.secretCalls
  | unwritten resolution free failure =>
    obtain ⟨_, refers, named, fit, rfl⟩ := resolution.of_resolved
    exact .owned _ refers named fit free
  | written resolution free updated =>
    obtain ⟨_, refers, named, fit, rfl⟩ := resolution.of_resolved
    exact .owned _ refers named fit free

theorem ChildStage.childCalls {policy : ReplicaPolicy} {kind : Kind} {desired : kind.Object}
    {name : ObjectName} {result : Except ReconcileError ChildOutcome}
    (named : kind.objectName? desired = some name)
    (stage : ChildStage kind (kind.rules policy) desired name calls result) :
    ChildCalls kind name calls := by
  cases stage with
  | unread unknown => exact .unread unknown
  | uncreated missing failure => exact .created missing named _
  | created missing object => exact .created missing named _
  | settled settled => exact .read _
  | unwritten differs failure =>
    exact .updated (kind.metadata_reconcileFields policy _ desired) _
  | written differs updated =>
    exact .updated (kind.metadata_reconcileFields policy _ desired) _

/-- A Secret that is read answers with its error, which is that of its reference when it was not
found. -/
theorem SecretRole.found_error {role : SecretRole} {gateway : Gateway}
    {reference : LocalObjectReference} {cause : StoreError} {error : ReconcileError}
    (fails : role.found gateway.namespaceName reference.name (.error cause) = .error error) :
    error = (PassStep.secret role).failure
      (.get .secret gateway.namespaceName reference.name) cause := by
  cases cause <;> cases fails <;> rfl

theorem SecretResolution.orderly {role : SecretRole}
    {result : Except ReconcileError (Option Secret)}
    (resolution : SecretResolution role gateway calls result)
    (ends : ∀ error, result = .error error → ended = some (.error error)) :
    Orderly ended (calls.map (Prod.mk (.secret role))) := by
  cases resolution with
  | unset | nameless => exact orderly_nil
  | @unread reference cause error refers named fails =>
    refine orderly_last fun other same => ?_
    cases same
    rw [ends error rfl, SecretRole.found_error fails]
    rfl
  | unfit refers named unfit => exact orderly_last fun _ fails => nomatch fails
  | fit refers named fit => exact orderly_last fun _ fails => nomatch fails

/-- The write of a Secret comes behind a read that did not fail. -/
theorem orderly_ownership {role : SecretRole} {name : ObjectName} {secret written : Secret}
    {answer : Except StoreError Secret}
    (ends : ∀ cause, answer = .error cause → ended = some (.error (.store cause))) :
    Orderly ended ([reading .secret name (.ok secret), writing .secret written answer].map
      (Prod.mk (.secret role))) :=
  .cons (fun _ fails => nomatch fails) (orderly_last ends)

theorem SecretStage.orderly {role : SecretRole} {result : Except ReconcileError OwnedSecret}
    (stage : SecretStage role gateway calls result)
    (ends : ∀ error, result = .error error → ended = some (.error error)) :
    Orderly ended (calls.map (Prod.mk (.secret role))) := by
  cases stage with
  | unresolved resolution =>
    refine resolution.orderly fun error same => ?_
    cases same
    exact ends _ rfl
  | absent resolution => exact resolution.orderly fun _ impossible => nomatch impossible
  | refused resolution refused => exact resolution.orderly fun _ impossible => nomatch impossible
  | owned resolution owned => exact resolution.orderly fun _ impossible => nomatch impossible
  | unwritten resolution free failure =>
    obtain ⟨_, _, _, _, rfl⟩ := resolution.of_resolved
    refine orderly_ownership fun cause same => ?_
    cases same
    exact ends _ rfl
  | written resolution free updated =>
    obtain ⟨_, _, _, _, rfl⟩ := resolution.of_resolved
    exact orderly_ownership fun _ fails => nomatch fails

theorem ChildStage.orderly {kind : Kind} {rules : List (FieldRule kind.Object)}
    {desired : kind.Object} {name : ObjectName} {result : Except ReconcileError ChildOutcome}
    (stage : ChildStage kind rules desired name calls result)
    (ends : ∀ error, result = .error error → ended = some (.error error)) :
    Orderly ended (calls.map (Prod.mk (.child kind))) := by
  cases stage with
  | unread unknown =>
    refine orderly_last fun cause same => ?_
    cases same
    exact ends _ rfl
  | uncreated missing failure =>
    refine .cons (fun cause same => ?_) (orderly_last fun cause same => ?_)
    · cases same
      exact missing
    · cases same
      exact ends _ rfl
  | created missing object =>
    refine .cons (fun cause same => ?_) (orderly_last fun _ fails => nomatch fails)
    cases same
    exact missing
  | settled settled => exact orderly_last fun _ fails => nomatch fails
  | unwritten differs failure =>
    refine .cons (fun _ fails => nomatch fails) (orderly_last fun cause same => ?_)
    cases same
    exact ends _ rfl
  | written differs updated =>
    exact .cons (fun _ fails => nomatch fails) (orderly_last fun _ fails => nomatch fails)

/-- In every step a call that fails is the last one and ends the pass with its error, unless the
step tolerates it. -/
theorem StepRun.orderly {step : PassStep} (run : StepRun gateway step calls ended) :
    Orderly ended (calls.map (Prod.mk step)) := by
  cases step with
  | defaults =>
    obtain ⟨-, rfl, rfl⟩ | ⟨-, ⟨cause, rfl, rfl⟩ | ⟨updated, rfl, rfl⟩⟩ := run
    · exact orderly_nil
    · refine orderly_last fun cause same => ?_
      cases same
      rfl
    · exact orderly_last fun _ fails => nomatch fails
  | secret role =>
    obtain ⟨result, stage, goes⟩ := run
    refine stage.orderly fun error same => ?_
    subst same
    obtain ⟨_, same, rfl⟩ | ⟨_, impossible, _⟩ | ⟨_, impossible, _⟩ := goes
    · cases same
      rfl
    · cases impossible
    · cases impossible
  | child kind =>
    obtain ⟨-, -, rfl, rfl⟩ | ⟨-, policy, desired, result, -, stage, goes⟩ := run
    · exact orderly_nil
    · refine stage.orderly fun error same => ?_
      subst same
      obtain ⟨_, same, rfl⟩ | ⟨_, impossible, _⟩ := goes
      · cases same
        rfl
      · cases impossible

/-- A Secret that was resolved, or not, was not written for it. -/
theorem SecretResolution.reads {role : SecretRole}
    {result : Except ReconcileError (Option Secret)}
    (resolution : SecretResolution role gateway calls result) :
    ∀ exchange ∈ calls, exchange.call.writes = false := by
  intro exchange member
  cases resolution with
  | unset | nameless => cases member
  | unread | unfit | fit =>
    cases List.mem_singleton.mp member
    rfl

/-- The defaults do not stop a pass only when there is nothing to fill in. -/
theorem StepRun.of_defaults (run : StepRun gateway .defaults calls none) :
    gateway.lacksDefaults = false ∧ calls = [] := by
  obtain ⟨complete, none, -⟩ | ⟨-, ⟨_, _, impossible⟩ | ⟨_, _, impossible⟩⟩ := run
  · exact ⟨complete, none⟩
  · cases impossible
  · cases impossible

/-- A Secret does not stop a pass only when it is not written. -/
theorem StepRun.of_secret {role : SecretRole} (run : StepRun gateway (.secret role) calls none) :
    ∃ secret, SecretStage role gateway calls (.ok ⟨secret, false⟩) := by
  obtain ⟨result, stage, ⟨_, _, impossible⟩ | ⟨secret, rfl, -⟩ | ⟨_, _, _, _, impossible⟩⟩ := run
  · cases impossible
  · exact ⟨secret, stage⟩
  · cases impossible

/-- A step that goes on without bringing an object about writes nothing. -/
theorem StepRun.reads {step : PassStep} (run : StepRun gateway step calls none)
    (notChild : step.isChild = false) : ∀ exchange ∈ calls, exchange.call.writes = false := by
  cases step with
  | defaults =>
    rw [run.of_defaults.2]
    exact fun _ => nofun
  | secret role =>
    obtain ⟨secret, stage⟩ := run.of_secret
    cases stage with
    | absent resolution => exact resolution.reads
    | owned resolution owned => exact resolution.reads
  | child kind => cases notChild

/-- A step that ends the pass with a requeue is that of the reason, and its last call is its one
write, which succeeded. -/
theorem StepRun.of_requeue {step : PassStep} {reason : RequeueReason}
    (run : StepRun gateway step calls (some (.ok (.requeue reason)))) :
    step = reason.step ∧ ∃ earlier exchange, calls = earlier ++ [exchange] ∧
      exchange.call.writes = true ∧ (∃ object, exchange.answer = .ok object) ∧
      ∀ other ∈ earlier, other.call.writes = false := by
  cases step with
  | defaults =>
    obtain ⟨-, -, impossible⟩ | ⟨-, ⟨_, _, impossible⟩ | ⟨updated, rfl, same⟩⟩ := run
    · cases impossible
    · cases impossible
    · cases same
      exact ⟨rfl, [], _, rfl, rfl, ⟨updated, rfl⟩, fun _ => nofun⟩
  | secret role =>
    obtain ⟨result, stage, ⟨_, _, impossible⟩ | ⟨_, _, impossible⟩ |
      ⟨secret, rfl, other, isReason, same⟩⟩ := run
    · cases impossible
    · cases impossible
    · cases same
      cases stage with
      | written resolution free updated =>
        exact ⟨isReason.symm, _, _, rfl, rfl, ⟨updated, rfl⟩, resolution.reads⟩
  | child kind =>
    obtain ⟨-, -, -, impossible⟩ | ⟨-, _, _, _, -, -, ⟨_, _, impossible⟩ | ⟨_, _, impossible⟩⟩ :=
      run
    · cases impossible
    · cases impossible
    · cases impossible

/-- No step ends a pass that converges. -/
theorem StepRun.ne_done {step : PassStep} (run : StepRun gateway step calls ended) :
    ended ≠ some (.ok .done) := by
  rintro rfl
  cases step with
  | defaults =>
    obtain ⟨-, -, impossible⟩ | ⟨-, ⟨_, _, impossible⟩ | ⟨_, _, impossible⟩⟩ := run <;>
      cases impossible
  | secret role =>
    obtain ⟨_, -, ⟨_, _, impossible⟩ | ⟨_, _, impossible⟩ | ⟨_, _, _, _, impossible⟩⟩ := run <;>
      cases impossible
  | child kind =>
    obtain ⟨-, -, -, impossible⟩ | ⟨-, _, _, _, -, -, ⟨_, _, impossible⟩ | ⟨_, _, impossible⟩⟩ :=
      run <;> cases impossible

/-- A Secret whose step goes on is ready. -/
theorem StepRun.secretReady {role : SecretRole} (run : StepRun gateway (.secret role) calls none) :
    SecretReady role gateway calls := by
  obtain ⟨secret, stage⟩ := run.of_secret
  cases stage with
  | absent resolution =>
    cases resolution with
    | unset unset => exact Or.inl ⟨unset, rfl⟩
  | owned resolution owned =>
    obtain ⟨reference, refers, named, fit, rfl⟩ := resolution.of_resolved
    exact Or.inr ⟨reference, _, _, refers, named, rfl, fit, owned⟩

theorem StepRun.ready {step : PassStep} (run : StepRun gateway step calls none) :
    step.Ready gateway calls := by
  cases step with
  | defaults =>
    obtain ⟨complete, none⟩ := run.of_defaults
    exact ⟨gateway.lacksDefaults_eq_false_iff.mp complete, none⟩
  | secret role => exact run.secretReady
  | child kind =>
    obtain ⟨isIngress, unexposed, -⟩ | ⟨-, _, _, _, -, stage, -⟩ := run
    · exact Or.inr ⟨isIngress, unexposed⟩
    · refine Or.inl ?_
      cases stage <;> exact List.cons_ne_nil _ _

theorem SecretResolution.of_error {role : SecretRole} {error : ReconcileError}
    (resolution : SecretResolution role gateway calls (.error error)) :
    (∃ exchange cause, calls = [exchange] ∧ exchange.answer = .error cause ∧
      error = (PassStep.secret role).failure exchange.call cause) ∨
    SecretRefused role gateway calls error := by
  cases resolution with
  | nameless refers nameless => exact Or.inr (.nameless refers nameless)
  | unread refers named fails => exact Or.inl ⟨_, _, rfl, rfl, SecretRole.found_error fails⟩
  | unfit refers named unfit => exact Or.inr (.unfit refers named unfit)

theorem SecretStage.of_error {role : SecretRole} {error : ReconcileError}
    (stage : SecretStage role gateway calls (.error error)) :
    (∃ earlier exchange cause, calls = earlier ++ [exchange] ∧ exchange.answer = .error cause ∧
      error = (PassStep.secret role).failure exchange.call cause) ∨
    SecretRefused role gateway calls error := by
  cases stage with
  | unresolved resolution =>
    obtain ⟨exchange, cause, rfl, fails, same⟩ | refused := resolution.of_error
    · exact Or.inl ⟨[], exchange, cause, rfl, fails, same⟩
    · exact Or.inr refused
  | refused resolution refused =>
    obtain ⟨_, refers, named, fit, rfl⟩ := resolution.of_resolved
    exact Or.inr (.controlled refers named fit refused)
  | unwritten resolution free failure => exact Or.inl ⟨_, _, failure, rfl, rfl, rfl⟩

theorem ChildStage.of_error {kind : Kind} {rules : List (FieldRule kind.Object)}
    {desired : kind.Object} {name : ObjectName} {error : ReconcileError}
    (stage : ChildStage kind rules desired name calls (.error error)) :
    ∃ earlier exchange cause, calls = earlier ++ [exchange] ∧ exchange.answer = .error cause ∧
      error = (PassStep.child kind).failure exchange.call cause := by
  cases stage with
  | unread unknown => exact ⟨[], _, _, rfl, rfl, rfl⟩
  | uncreated missing failure => exact ⟨[_], _, failure, rfl, rfl, rfl⟩
  | unwritten differs failure => exact ⟨[_], _, failure, rfl, rfl, rfl⟩

/-- A step that ends the pass with an error made a call that failed last, or refused a Secret. -/
theorem StepRun.of_error {step : PassStep} {error : ReconcileError}
    (run : StepRun gateway step calls (some (.error error))) :
    (∃ earlier exchange cause, calls = earlier ++ [exchange] ∧ exchange.answer = .error cause ∧
      error = step.failure exchange.call cause) ∨
    ∃ role, step = .secret role ∧ SecretRefused role gateway calls error := by
  cases step with
  | defaults =>
    obtain ⟨-, -, impossible⟩ | ⟨-, ⟨cause, rfl, same⟩ | ⟨_, _, impossible⟩⟩ := run
    · cases impossible
    · cases same
      exact Or.inl ⟨[], _, cause, rfl, rfl, rfl⟩
    · cases impossible
  | secret role =>
    obtain ⟨result, stage, ⟨_, rfl, same⟩ | ⟨_, _, impossible⟩ | ⟨_, _, _, _, impossible⟩⟩ := run
    · cases same
      exact stage.of_error.imp_right fun refused => ⟨role, rfl, refused⟩
    · cases impossible
    · cases impossible
  | child kind =>
    obtain ⟨-, -, -, impossible⟩ | ⟨-, _, _, _, -, stage, ⟨_, rfl, same⟩ | ⟨_, _, impossible⟩⟩ :=
      run
    · cases impossible
    · cases same
      exact Or.inl stage.of_error
    · cases impossible

end StepRun

/-! ### How a pass goes -/

theorem labelled_append (parts : PassStep → List Exchange) (first rest : List PassStep) :
    labelled parts (first ++ rest) = labelled parts first ++ labelled parts rest :=
  List.flatMap_append

theorem labelled_cons (parts : PassStep → List Exchange) (step : PassStep)
    (steps : List PassStep) :
    labelled parts (step :: steps) = (parts step).map (Prod.mk step) ++ labelled parts steps :=
  rfl

theorem labelled_of_unreached {parts : PassStep → List Exchange} {steps : List PassStep}
    (unreached : ∀ step ∈ steps, parts step = []) : labelled parts steps = [] := by
  refine List.flatMap_eq_nil_iff.mpr fun step member => ?_
  rw [unreached step member, List.map_nil]

theorem mem_labelled {parts : PassStep → List Exchange} {steps : List PassStep}
    {call : PassStep × Exchange} :
    call ∈ labelled parts steps ↔ call.1 ∈ steps ∧ call.2 ∈ parts call.1 := by
  obtain ⟨step, exchange⟩ := call
  unfold labelled
  rw [List.mem_flatMap]
  constructor
  · rintro ⟨found, member, inside⟩
    obtain ⟨_, called, same⟩ := List.mem_map.mp inside
    cases same
    exact ⟨member, called⟩
  · rintro ⟨member, called⟩
    exact ⟨step, member, List.mem_map_of_mem called⟩

namespace PassRun

variable {gateway : Gateway} {parts : PassStep → List Exchange}
  {result : Except ReconcileError Outcome}

/-- A step makes its calls by its own rules, or none because it was not reached. -/
theorem step_cases (run : PassRun gateway parts result) {step : PassStep}
    (member : step ∈ PassStep.order) :
    parts step = [] ∨ ∃ ended, StepRun gateway step (parts step) ended := by
  cases run with
  | done all => exact Or.inr ⟨none, all step member⟩
  | ended split passed ends unreached =>
    rw [split, List.mem_append, List.mem_cons] at member
    rcases member with before | rfl | after
    · exact Or.inr ⟨none, passed step before⟩
    · exact Or.inr ⟨_, ends⟩
    · exact Or.inl (unreached step after)

/-- The first step is always reached. -/
theorem defaults_reached (run : PassRun gateway parts result) :
    ∃ ended, StepRun gateway .defaults (parts .defaults) ended := by
  cases run with
  | done all => exact ⟨none, all .defaults List.mem_cons_self⟩
  | @ended before after step result split passed ends unreached =>
    cases before with
    | nil =>
      injection split with same
      subst same
      exact ⟨_, ends⟩
    | cons head rest =>
      injection split with same
      subst same
      exact ⟨none, passed .defaults List.mem_cons_self⟩

/-- When a step made calls, every step before it went on. -/
theorem ready_before (run : PassRun gateway parts result) {before after : List PassStep}
    {step : PassStep} (split : PassStep.order = before ++ step :: after)
    (reached : parts step ≠ []) :
    ∀ earlier ∈ before, earlier.Ready gateway (parts earlier) := by
  intro earlier member
  cases run with
  | done all =>
    rw [split] at all
    exact (all earlier (List.mem_append_left _ member)).ready
  | ended endSplit passed ends unreached =>
    -- The step stands before the one that ended the pass, or is that one, because no step behind
    -- it made calls.
    rcases List.append_eq_append_iff.mp (endSplit.symm.trans split) with
      ⟨between, rfl, same⟩ | ⟨between, rfl, -⟩
    · cases between with
      | nil =>
        rw [List.append_nil] at member
        exact (passed earlier member).ready
      | cons head between =>
        injection same with _ behind
        refine absurd (unreached step ?_) reached
        rw [behind]
        exact List.mem_append_right _ List.mem_cons_self
    · exact (passed earlier (List.mem_append_left _ member)).ready

/-- The calls of a pass that ended at a step are those of the steps before it and its own. -/
theorem labelled_ended {before after : List PassStep} {step : PassStep}
    (split : PassStep.order = before ++ step :: after)
    (unreached : ∀ later ∈ after, parts later = []) :
    labelled parts PassStep.order =
      labelled parts before ++ (parts step).map (Prod.mk step) := by
  rw [split, labelled_append, labelled_cons, labelled_of_unreached unreached, List.append_nil]

/-- The last call of the step at which a pass ended is the last call of the pass. -/
theorem labelled_ended_last {before after : List PassStep} {step : PassStep}
    (split : PassStep.order = before ++ step :: after)
    (unreached : ∀ later ∈ after, parts later = []) {earlier : List Exchange}
    {exchange : Exchange} (calls : parts step = earlier ++ [exchange]) :
    labelled parts PassStep.order =
      (labelled parts before ++ earlier.map (Prod.mk step)) ++ [(step, exchange)] := by
  rw [labelled_ended split unreached, calls, List.map_append, List.append_assoc]
  rfl

theorem goesOn_of_passed {steps : List PassStep}
    (passed : ∀ step ∈ steps, StepRun gateway step (parts step) none) :
    ∀ call ∈ labelled parts steps, GoesOn call := by
  intro call member
  obtain ⟨inSteps, called⟩ := mem_labelled.mp member
  exact (passed call.1 inSteps).orderly.goesOn call (List.mem_map.mpr ⟨call.2, called, rfl⟩)

/-- A call that fails in a pass is the last one, and its error is the result. -/
theorem orderly (run : PassRun gateway parts result) :
    Orderly (some result) (labelled parts PassStep.order) := by
  cases run with
  | done all =>
    rw [← List.append_nil (labelled parts PassStep.order)]
    exact .append (goesOn_of_passed all) orderly_nil
  | ended split passed ends unreached =>
    rw [labelled_ended split unreached]
    exact .append (goesOn_of_passed passed) ends.orderly

/-- The calls before a step that brings no object about are reads, when the steps went on. -/
theorem reads_of_passed {before after : List PassStep} {step : PassStep}
    (split : PassStep.order = before ++ step :: after) (notChild : step.isChild = false)
    (passed : ∀ earlier ∈ before, StepRun gateway earlier (parts earlier) none) :
    ∀ call ∈ labelled parts before, call.2.call.writes = false := by
  intro call member
  obtain ⟨inSteps, called⟩ := mem_labelled.mp member
  have sorted := PassStep.pairwise_order
  rw [split, List.pairwise_append] at sorted
  have earlier : call.1.isChild = false := by
    cases isChild : call.1.isChild with
    | false => rfl
    | true =>
      rw [sorted.2.2 call.1 inSteps step List.mem_cons_self isChild] at notChild
      cases notChild
  exact (passed call.1 inSteps).reads earlier call.2 called

theorem isChild_reason_step (reason : RequeueReason) : reason.step.isChild = false := by
  cases reason <;> rfl

/-- The one write of a pass that is to be repeated is its last call. -/
theorem of_requeue {reason : RequeueReason}
    (run : PassRun gateway parts (.ok (.requeue reason))) :
    ∃ earlier exchange, labelled parts PassStep.order = earlier ++ [(reason.step, exchange)] ∧
      exchange.call.writes = true ∧ (∃ object, exchange.answer = .ok object) ∧
      ∀ call ∈ earlier, call.2.call.writes = false := by
  generalize same : (Except.ok (Outcome.requeue reason) : Except ReconcileError Outcome) = result
    at run
  cases run with
  | done all => cases same
  | @ended before after step result split passed ends unreached =>
    subst same
    obtain ⟨rfl, earlier, exchange, calls, writes, answered, reads⟩ := ends.of_requeue
    refine ⟨_, exchange, labelled_ended_last split unreached calls, writes, answered,
      fun call member => ?_⟩
    rcases List.mem_append.mp member with inBefore | inStep
    · exact reads_of_passed split (isChild_reason_step reason) passed call inBefore
    · obtain ⟨other, called, rfl⟩ := List.mem_map.mp inStep
      exact reads other called

/-- A pass that failed made a call that failed last, or refused a Secret. -/
theorem of_error {error : ReconcileError} (run : PassRun gateway parts (.error error)) :
    (∃ earlier step exchange cause,
      labelled parts PassStep.order = earlier ++ [(step, exchange)] ∧
      exchange.answer = .error cause ∧ error = step.failure exchange.call cause) ∨
    ∃ before role after, PassStep.order = before ++ .secret role :: after ∧
      (∀ earlier ∈ before, earlier.Ready gateway (parts earlier)) ∧
      SecretRefused role gateway (parts (.secret role)) error ∧
      ∀ later ∈ after, parts later = [] := by
  generalize same : (Except.error error : Except ReconcileError Outcome) = result at run
  cases run with
  | done all => cases same
  | ended split passed ends unreached =>
    subst same
    obtain ⟨earlier, exchange, cause, calls, fails, sameError⟩ | ⟨role, rfl, refused⟩ :=
      ends.of_error
    · exact Or.inl ⟨_, _, exchange, cause, labelled_ended_last split unreached calls, fails,
        sameError⟩
    · exact Or.inr ⟨_, role, _, split, fun earlier member => (passed earlier member).ready,
        refused, unreached⟩

/-- A pass that converges went through all steps. -/
theorem of_done (run : PassRun gateway parts (.ok .done)) :
    ∀ step ∈ PassStep.order, StepRun gateway step (parts step) none := by
  generalize same : (Except.ok Outcome.done : Except ReconcileError Outcome) = result at run
  cases run with
  | done all => exact all
  | ended split passed ends unreached =>
    subst same
    exact absurd rfl ends.ne_done

theorem child_mem_order {kind : Kind} (isChild : kind.isChild = true) :
    PassStep.child kind ∈ PassStep.order := by
  revert isChild
  cases kind <;> decide

theorem secret_mem_order (role : SecretRole) : PassStep.secret role ∈ PassStep.order := by
  cases role <;> decide

/-- What a pass calls follows the protocol. -/
theorem callProtocol (run : PassRun gateway parts result) : CallProtocol gateway parts result where
  defaults := by
    obtain ⟨ended, ⟨complete, calls, -⟩ | ⟨lacks, ends⟩⟩ := run.defaults_reached
    · exact Or.inl ⟨gateway.lacksDefaults_eq_false_iff.mp complete, calls⟩
    · refine Or.inr ⟨Option.isNone_iff_eq_none.mp lacks, ?_⟩
      obtain ⟨cause, calls, -⟩ | ⟨updated, calls, -⟩ := ends
      · exact ⟨_, calls⟩
      · exact ⟨_, calls⟩
  secrets role := by
    obtain unreached | ⟨ended, result, stage, -⟩ := run.step_cases (secret_mem_order role)
    · rw [unreached]
      exact .none
    · exact stage.secretCalls
  children kind isChild := by
    obtain unreached | ⟨ended, ⟨-, -, calls, -⟩ | ⟨-, _, _, _, named, stage, -⟩⟩ :=
      run.step_cases (child_mem_order isChild)
    · rw [unreached]
      exact .none
    · rw [calls]
      exact .none
    · exact stage.childCalls named
  unexposed unexposed := by
    obtain unreached | ⟨ended, ⟨-, -, calls, -⟩ | ⟨exposed, -⟩⟩ :=
      run.step_cases (child_mem_order (show Kind.ingress.isChild = true from rfl))
    · exact unreached
    · exact calls
    · exact absurd unexposed (exposed rfl)
  stops earlier step exchange later cause split fails ends := by
    obtain ⟨isLast, same⟩ := run.orderly earlier step exchange later cause split fails ends
    exact ⟨isLast, Option.some.inj same⟩
  requeued reason same := by
    subst same
    exact run.of_requeue
  failed error same := by
    subst same
    exact run.of_error
  converged same := by
    subst same
    have all := run.of_done
    refine ⟨fun call member writes => ?_, fun step member => (all step member).ready⟩
    obtain ⟨inOrder, called⟩ := mem_labelled.mp member
    cases isChild : call.1.isChild with
    | true => rfl
    | false =>
      rw [(all call.1 inOrder).reads isChild call.2 called] at writes
      cases writes
  prepared before step after split reached := run.ready_before split reached

end PassRun

/-! ### Every pass is a run of the steps -/

/-- The calls of the six steps. -/
def partsOf (defaults adminPortal embeddedConfig deployment service ingress : List Exchange) :
    PassStep → List Exchange
  | .defaults => defaults
  | .secret .adminPortal => adminPortal
  | .secret .embeddedConfig => embeddedConfig
  | .child .deployment => deployment
  | .child .service => service
  | .child .ingress => ingress
  | .child _ => []

theorem flatMap_partsOf
    (defaults adminPortal embeddedConfig deployment service ingress : List Exchange) :
    PassStep.order.flatMap
        (partsOf defaults adminPortal embeddedConfig deployment service ingress) =
      defaults ++ adminPortal ++ embeddedConfig ++ deployment ++ service ++ ingress := by
  simp [PassStep.order, partsOf]

section OfEnds

variable {gateway : Gateway}

theorem stepRun_secret {role : SecretRole} {calls : List Exchange}
    {result : Except ReconcileError OwnedSecret}
    (ends : (reconcileSecret role gateway).Ends calls result) :
    (∀ error, result = .error error →
      StepRun gateway (.secret role) calls (some (.error error))) ∧
    (∀ secret, result = .ok ⟨secret, false⟩ → StepRun gateway (.secret role) calls none) ∧
    ∀ secret reason, result = .ok ⟨secret, true⟩ → RequeueReason.step reason = .secret role →
      StepRun gateway (.secret role) calls (some (.ok (.requeue reason))) := by
  have stage := SecretStage.of_ends ends
  exact ⟨fun error same => ⟨result, stage, Or.inl ⟨error, same, rfl⟩⟩,
    fun secret same => ⟨result, stage, Or.inr (Or.inl ⟨secret, same, rfl⟩)⟩,
    fun secret reason same isReason =>
      ⟨result, stage, Or.inr (Or.inr ⟨secret, same, reason, isReason, rfl⟩)⟩⟩

theorem stepRun_child (policy : ReplicaPolicy) {secrets : ResolvedSecrets} {kind : Kind}
    {desired : kind.Object} {calls : List Exchange} {result : Except ReconcileError ChildOutcome}
    (child : (desiredState gateway secrets).child? kind = some desired)
    (ends : (reconcileChild kind (kind.rules policy) desired).Ends calls result) :
    (∀ error, result = .error error →
      StepRun gateway (.child kind) calls (some (.error error))) ∧
    ∀ outcome, result = .ok outcome → StepRun gateway (.child kind) calls none := by
  have named := objectName?_child child
  have stage := ChildStage.of_ends named ends
  have exposed : kind = .ingress → gateway.spec.exposedHost ≠ none := by
    rintro rfl unexposed
    have absent : (desiredState gateway secrets).child? .ingress = none :=
      congrArg (Option.map (desiredIngress gateway)) unexposed
    rw [absent] at child
    cases child
  exact ⟨fun error same => Or.inr ⟨exposed, policy, desired, result, named, stage,
      Or.inl ⟨error, same, rfl⟩⟩,
    fun outcome same => Or.inr ⟨exposed, policy, desired, result, named, stage,
      Or.inr ⟨outcome, same, rfl⟩⟩⟩

end OfEnds

/-- Behind the Secrets the objects are brought about one after the other. -/
theorem PassRun.of_childrenStage {policy : ReplicaPolicy} {gateway : Gateway}
    {secrets : ResolvedSecrets} {portalCalls configCalls children : List Exchange}
    {result : Except ReconcileError Unit} (defaults : StepRun gateway .defaults [] none)
    (portal : StepRun gateway (.secret .adminPortal) portalCalls none)
    (config : StepRun gateway (.secret .embeddedConfig) configCalls none)
    (stage : ChildrenStage policy (desiredState gateway secrets) children result) :
    ∃ parts, portalCalls ++ configCalls ++ children = PassStep.order.flatMap parts ∧
      PassRun gateway parts (result.map fun _ => .done) := by
  have wantsDeployment : (desiredState gateway secrets).child? .deployment =
    some (desiredState gateway secrets).deployment := rfl
  have wantsService : (desiredState gateway secrets).child? .service =
    some (desiredState gateway secrets).service := rfl
  have prepared : ∀ deployment service ingress, ∀ step ∈ [PassStep.defaults, .secret .adminPortal,
      .secret .embeddedConfig], StepRun gateway step
        (partsOf [] portalCalls configCalls deployment service ingress step) none :=
    fun _ _ _ => List.forall_mem_cons.mpr ⟨defaults, List.forall_mem_cons.mpr ⟨portal,
      List.forall_mem_singleton.mpr config⟩⟩
  cases stage with
  | deploymentFails fails =>
    refine ⟨partsOf [] portalCalls configCalls children [] [], by simp [flatMap_partsOf], .ended
      (show PassStep.order = [.defaults, .secret .adminPortal, .secret .embeddedConfig] ++
        .child .deployment :: _ from rfl) (prepared _ _ _) ?_ (by simp [partsOf])⟩
    exact (stepRun_child policy wantsDeployment fails).1 _ rfl
  | @serviceFails deployment service _ _ deploymentEnds fails =>
    refine ⟨partsOf [] portalCalls configCalls deployment service [], by simp [flatMap_partsOf],
      .ended (show PassStep.order = ([.defaults, .secret .adminPortal, .secret .embeddedConfig] ++
        [.child .deployment]) ++ .child .service :: _ from rfl) ?_ ?_ (by simp [partsOf])⟩
    · exact List.forall_mem_append.mpr ⟨prepared _ _ _, List.forall_mem_singleton.mpr
        ((stepRun_child policy wantsDeployment deploymentEnds).2 _ rfl)⟩
    · exact (stepRun_child policy wantsService fails).1 _ rfl
  | @unexposed deployment service _ _ unexposed deploymentEnds serviceEnds =>
    refine ⟨partsOf [] portalCalls configCalls deployment service [], by simp [flatMap_partsOf],
      .done ?_⟩
    rw [show PassStep.order = [.defaults, .secret .adminPortal, .secret .embeddedConfig] ++
      [.child .deployment, .child .service, .child .ingress] from rfl, List.forall_mem_append]
    refine ⟨prepared _ _ _, List.forall_mem_cons.mpr
      ⟨(stepRun_child policy wantsDeployment deploymentEnds).2 _ rfl, List.forall_mem_cons.mpr
        ⟨(stepRun_child policy wantsService serviceEnds).2 _ rfl,
          List.forall_mem_singleton.mpr ?_⟩⟩⟩
    exact Or.inl ⟨rfl, Option.map_eq_none_iff.mp unexposed, rfl, rfl⟩
  | @ingressFails deployment service ingress _ _ _ wanted exposed deploymentEnds serviceEnds
      fails =>
    have wantsIngress : (desiredState gateway secrets).child? .ingress = some wanted := exposed
    refine ⟨partsOf [] portalCalls configCalls deployment service ingress,
      by simp [flatMap_partsOf], .ended (show PassStep.order =
        ([.defaults, .secret .adminPortal, .secret .embeddedConfig] ++
          [.child .deployment, .child .service]) ++ .child .ingress :: _ from rfl) ?_ ?_
        (by simp)⟩
    · exact List.forall_mem_append.mpr ⟨prepared _ _ _, List.forall_mem_cons.mpr
        ⟨(stepRun_child policy wantsDeployment deploymentEnds).2 _ rfl,
          List.forall_mem_singleton.mpr
            ((stepRun_child policy wantsService serviceEnds).2 _ rfl)⟩⟩
    · exact (stepRun_child policy wantsIngress fails).1 _ rfl
  | @exposed deployment service ingress _ _ _ wanted exposed deploymentEnds serviceEnds
      ingressEnds =>
    have wantsIngress : (desiredState gateway secrets).child? .ingress = some wanted := exposed
    refine ⟨partsOf [] portalCalls configCalls deployment service ingress,
      by simp [flatMap_partsOf], .done ?_⟩
    rw [show PassStep.order = [.defaults, .secret .adminPortal, .secret .embeddedConfig] ++
      [.child .deployment, .child .service, .child .ingress] from rfl, List.forall_mem_append]
    exact ⟨prepared _ _ _, List.forall_mem_cons.mpr
      ⟨(stepRun_child policy wantsDeployment deploymentEnds).2 _ rfl, List.forall_mem_cons.mpr
        ⟨(stepRun_child policy wantsService serviceEnds).2 _ rfl, List.forall_mem_singleton.mpr
          ((stepRun_child policy wantsIngress ingressEnds).2 _ rfl)⟩⟩⟩

/-- Where a pass stops it has gone on with the steps before, and it reaches no step behind. -/
theorem PassRun.of_gatewayStage {policy : ReplicaPolicy} {gateway : Gateway}
    (complete : gateway.lacksDefaults = false) {calls : List Exchange}
    {result : Except ReconcileError Outcome} (stage : GatewayStage policy gateway calls result) :
    ∃ parts, calls = PassStep.order.flatMap parts ∧ PassRun gateway parts result := by
  have defaults : StepRun gateway .defaults [] none := Or.inl ⟨complete, rfl, rfl⟩
  cases stage with
  | adminPortalFails fails =>
    refine ⟨partsOf [] calls [] [] [] [], by simp [flatMap_partsOf], .ended
      (show PassStep.order = [.defaults] ++ .secret .adminPortal :: _ from rfl) ?_
      ((stepRun_secret fails).1 _ rfl) (by simp [partsOf])⟩
    exact List.forall_mem_singleton.mpr defaults
  | adminPortalOwned owned =>
    refine ⟨partsOf [] calls [] [] [] [], by simp [flatMap_partsOf], .ended
      (show PassStep.order = [.defaults] ++ .secret .adminPortal :: _ from rfl) ?_
      ((stepRun_secret owned).2.2 _ _ rfl rfl) (by simp [partsOf])⟩
    exact List.forall_mem_singleton.mpr defaults
  | @embeddedConfigFails portalCalls configCalls _ _ first fails =>
    refine ⟨partsOf [] portalCalls configCalls [] [] [], by simp [flatMap_partsOf], .ended
      (show PassStep.order =
        [.defaults, .secret .adminPortal] ++ .secret .embeddedConfig :: _ from rfl) ?_
      ((stepRun_secret fails).1 _ rfl) (by simp [partsOf])⟩
    exact List.forall_mem_cons.mpr
      ⟨defaults, List.forall_mem_singleton.mpr ((stepRun_secret first).2.1 _ rfl)⟩
  | @embeddedConfigOwned portalCalls configCalls _ _ first owned =>
    refine ⟨partsOf [] portalCalls configCalls [] [] [], by simp [flatMap_partsOf], .ended
      (show PassStep.order =
        [.defaults, .secret .adminPortal] ++ .secret .embeddedConfig :: _ from rfl) ?_
      ((stepRun_secret owned).2.2 _ _ rfl rfl) (by simp [partsOf])⟩
    exact List.forall_mem_cons.mpr
      ⟨defaults, List.forall_mem_singleton.mpr ((stepRun_secret first).2.1 _ rfl)⟩
  | children first second childrenEnd =>
    exact PassRun.of_childrenStage defaults ((stepRun_secret first).2.1 _ rfl)
      ((stepRun_secret second).2.1 _ rfl) (.of_ends childrenEnd)

/-- However the calls of a pass are answered, it is a run of its steps. -/
theorem PassRun.of_ends {policy : ReplicaPolicy} {gateway : Gateway} {calls : List Exchange}
    {result : PassResult} (ends : (pass policy gateway).Ends calls result) :
    ∃ parts, calls = PassStep.order.flatMap parts ∧ PassRun gateway parts result.result := by
  cases lacks : gateway.lacksDefaults with
  | false =>
    exact PassRun.of_gatewayStage lacks
      (.of_ends ((ends_pass_complete lacks calls result).mp ends).1)
  | true =>
    obtain ⟨failure, rfl, rfl⟩ | ⟨updated, rfl, rfl⟩ := ends_pass_lacking lacks ends
    · exact ⟨partsOf [writing .gateway gateway.withDefaults (.error failure)] [] [] [] [] [],
        by simp [flatMap_partsOf], .ended (show PassStep.order = [] ++ .defaults :: _ from rfl)
          (fun _ => nofun) (Or.inr ⟨lacks, Or.inl ⟨failure, rfl, rfl⟩⟩) (by simp [partsOf])⟩
    · exact ⟨partsOf [writing .gateway gateway.withDefaults (.ok updated)] [] [] [] [] [],
        by simp [flatMap_partsOf], .ended (show PassStep.order = [] ++ .defaults :: _ from rfl)
          (fun _ => nofun) (Or.inr ⟨lacks, Or.inr ⟨updated, rfl, rfl⟩⟩) (by simp [partsOf])⟩

/-- The call protocol of a pass, on every store: whatever the store answers in whatever state, the
calls of a pass are those of its six steps in their order, and they follow the protocol. -/
theorem pass_call_protocol {State : Type} (store : Store State) (state : State)
    (policy : ReplicaPolicy) (gateway : Gateway) :
    ∃ parts : PassStep → List Exchange,
      (pass policy gateway).exchanges store state = PassStep.order.flatMap parts ∧
      CallProtocol gateway parts ((pass policy gateway).run store state).result.result := by
  obtain ⟨parts, calls, run⟩ := PassRun.of_ends ((pass policy gateway).ends_run store state)
  exact ⟨parts, calls, run.callProtocol⟩

end GatewayOperator
