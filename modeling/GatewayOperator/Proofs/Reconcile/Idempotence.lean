/-
This file says that a pass that converged is followed by passes that write nothing. The report of
the first pass changes the status and the version of the gateway at most, which no stage of a pass
reads; the Secrets are owned, the objects have their managed fields as desired, and the condition
says what it would be told again.
-/

import GatewayOperator.Proofs.Reconcile.Convergence
import GatewayOperator.Proofs.Status.Conditions

namespace GatewayOperator

/-! ### The gateway after a report -/

/-- Two gateways that differ in their versions and their statuses at most. -/
def Gateway.SameBut (first second : Gateway) : Prop :=
  second.spec = first.spec ∧
    second.metadata = { first.metadata with resourceVersion := second.metadata.resourceVersion }

/-- No stage of a pass reads the version or the status of the gateway. -/
theorem reconcileGateway_congr {first second : Gateway} (same : first.SameBut second)
    (policy : ReplicaPolicy) : reconcileGateway policy second = reconcileGateway policy first := by
  obtain ⟨metadata, spec, status⟩ := second
  obtain ⟨sameSpec, sameMetadata⟩ := same
  obtain rfl : spec = first.spec := sameSpec
  replace sameMetadata :
    metadata = { first.metadata with resourceVersion := metadata.resourceVersion } := sameMetadata
  rw [sameMetadata]
  rfl

theorem Gateway.SameBut.lacksDefaults {first second : Gateway} (same : first.SameBut second) :
    second.lacksDefaults = first.lacksDefaults := by
  unfold Gateway.lacksDefaults
  rw [same.1]

namespace Memory

/-! ### A pass that only reads -/

/-- Exchanges that a memory gives and that are all reads. -/
structure Reads (memory : Memory) (exchanges : List Exchange) : Prop where
  gives : store.Gives memory exchanges memory
  reading : ∀ exchange ∈ exchanges, exchange.call.writes = false

theorem Reads.nil (memory : Memory) : memory.Reads [] := ⟨rfl, fun _ => nofun⟩

theorem Reads.append {memory : Memory} {first rest : List Exchange} (reads : memory.Reads first)
    (others : memory.Reads rest) : memory.Reads (first ++ rest) where
  gives := (store.gives_append _ _ _ _).mpr ⟨memory, reads.gives, others.gives⟩
  reading exchange member := (List.mem_append.mp member).elim (reads.reading exchange)
    (others.reading exchange)

/-- One read of what is stored. -/
theorem Reads.single {memory : Memory} {kind : Kind} {name : ObjectName}
    {answer : Except StoreError kind.Object} (got : memory.get kind name = answer) :
    memory.Reads [GatewayOperator.reading kind name answer] where
  gives := ⟨got, rfl⟩
  reading exchange member := by
    cases List.mem_singleton.mp member
    rfl

/-- A Secret that was owned once is owned by the same reads again, as long as it stays. -/
theorem reads_of_secretStage {before middle after : Memory} {role : SecretRole}
    {gateway : Gateway} {exchanges : List Exchange} {secret : Option Secret}
    (stage : SecretStage role gateway exchanges (.ok ⟨secret, false⟩))
    (gives : store.Gives before exchanges middle)
    (same : ∀ name, after.object? (.of .secret name) = before.object? (.of .secret name)) :
    after.Reads exchanges := by
  have ofResolution : ∀ {result : Option Secret},
      SecretResolution role gateway exchanges (.ok result) → after.Reads exchanges := by
    intro result resolution
    cases resolution with
    | unset unset => exact .nil after
    | fit refers named fit => exact .single ((get_congr (same _)).trans gives.1)
  cases stage with
  | absent resolution => exact ofResolution resolution
  | owned resolution owned => exact ofResolution resolution

section Children

variable {policy : ReplicaPolicy} {gateway : Gateway} {secrets : ResolvedSecrets}

/-- An object that is held is left alone. -/
theorem Holds.reads {memory : Memory} {kind : Kind} {desired : kind.Object}
    (holds : memory.Holds policy gateway kind desired)
    (child : (GatewayOperator.desiredState gateway secrets).child? kind = some desired) :
    ∃ exchanges, (reconcileChild kind (kind.rules policy) desired).Ends exchanges
        (.ok .unchanged) ∧
      memory.Reads exchanges := by
  obtain ⟨object, found, unchanging⟩ := holds
  exact ⟨_, ends_reconcileChild_settled (objectName?_child child) unchanging,
    .single (get_found found)⟩

/-- When every object is held, bringing the objects about is only reading them. -/
theorem exists_reads_of_holds {memory : Memory}
    (holds : ∀ kind desired,
      (GatewayOperator.desiredState gateway secrets).child? kind = some desired →
        memory.Holds policy gateway kind desired) :
    ∃ exchanges, (reconcileChildren policy
        (GatewayOperator.desiredState gateway secrets)).Ends exchanges (.ok ()) ∧
      memory.Reads exchanges := by
  obtain ⟨deployment, deploymentEnds, deploymentReads⟩ := (holds .deployment _ rfl).reads rfl
  obtain ⟨service, serviceEnds, serviceReads⟩ := (holds .service _ rfl).reads rfl
  cases exposed : (GatewayOperator.desiredState gateway secrets).ingress with
  | none =>
    exact ⟨_, (ChildrenStage.unexposed exposed deploymentEnds serviceEnds).ends,
      deploymentReads.append serviceReads⟩
  | some wanted =>
    obtain ⟨ingress, ingressEnds, ingressReads⟩ := (holds .ingress wanted exposed).reads exposed
    exact ⟨_, (ChildrenStage.exposed exposed deploymentEnds serviceEnds ingressEnds).ends,
      (deploymentReads.append serviceReads).append ingressReads⟩

end Children

/-- After a pass that converged, a pass over the same gateway converges by reading, in every
memory that differs in nothing but gateways. -/
theorem Reachable.reads_after_done {before after final : Memory} (reachable : Reachable before)
    {policy : ReplicaPolicy} {gateway current : Gateway} {exchanges : List Exchange}
    {result : PassResult} (ends : (pass policy gateway).Ends exchanges result)
    (done : result.result = .ok .done) (gives : store.Gives before exchanges after)
    (same : gateway.SameBut current)
    (frame : ∀ key : ObjectKey, key.label ≠ Kind.gateway.label →
      final.object? key = after.object? key) :
    ∃ again, (pass policy current).Ends again ⟨.ok .done, current⟩ ∧ final.Reads again := by
  obtain ⟨complete, -, adminPortal, embeddedConfig, children, portal, config, rfl, first, second,
    rest⟩ := ends_pass_done ends done
  obtain ⟨middle, portalGives, gives⟩ := (store.gives_append _ _ _ _).mp gives
  obtain ⟨start, configGives, childrenGive⟩ := (store.gives_append _ _ _ _).mp gives
  obtain ⟨rfl, -⟩ := of_secretStage (.of_ends first) portalGives
  obtain ⟨rfl, -⟩ := of_secretStage (.of_ends second) configGives
  obtain ⟨holds, untouched⟩ := reachable.of_childrenStage (.of_ends rest) childrenGive
  have secretsStay : ∀ name, final.object? (.of .secret name) =
      start.object? (.of .secret name) := fun name =>
    (frame _ (show Kind.secret.label ≠ Kind.gateway.label by decide)).trans
      (untouched _ fun _ child =>
        Kind.label_ne_of_isChild (show Kind.secret.Alone by decide) rfl child)
  obtain ⟨readings, readingsEnd, readingsRead⟩ :=
    exists_reads_of_holds fun kind desired child =>
      (holds kind desired child).keep frame (Kind.label_ne_of_isChild
        (show Kind.gateway.Alone by decide) rfl (DesiredState.isChild_of_child? child)).symm
  refine ⟨adminPortal ++ (embeddedConfig ++ readings), ?_, ?_⟩
  · refine (ends_pass_complete (same.lacksDefaults.trans complete) _ _).mpr ⟨?_, rfl⟩
    rw [reconcileGateway_congr same]
    exact ends_reconcileGateway_done first second readingsEnd
  · exact (reads_of_secretStage (.of_ends first) portalGives secretsStay).append
      ((reads_of_secretStage (.of_ends second) configGives secretsStay).append readingsRead)

/-! ### Reports -/

/-- A condition that says nothing new is not written. -/
theorem writeCondition_unchanged (memory : Memory) {gateway : Gateway} {condition : Condition}
    (unchanged : conditionChanged gateway.ready? condition = false) :
    ((writeCondition gateway condition).run store memory).result = .ok false ∧
      ((writeCondition gateway condition).run store memory).state = memory := by
  unfold writeCondition
  rw [unchanged]
  exact ⟨rfl, rfl⟩

/-- A condition that says something new to a copy of a gateway is written once. -/
theorem run_writeCondition_of_changed (memory : Memory) {copy : Gateway} {condition : Condition}
    (changed : conditionChanged copy.ready? condition = true) :
    let ended := (writeCondition copy condition).run store memory
    let answered := memory.updateStatus (copy.withCondition condition)
    ended.result = answered.1.map (fun _ => true) ∧ ended.state = answered.2 := by
  intro ended answered
  have isAnswered : store.answer (.updateStatus (copy.withCondition condition)) memory = answered :=
    rfl
  show ((writeCondition copy condition).run store memory).result = _ ∧
    ((writeCondition copy condition).run store memory).state = _
  unfold writeCondition
  rw [if_pos changed, Program.run, isAnswered]
  obtain ⟨failure | written, after⟩ := answered
  · exact ⟨rfl, rfl⟩
  · exact ⟨rfl, rfl⟩

/-- A condition that says something new is written to the status of the stored gateway. -/
theorem WellKept.writeCondition_changed {memory : Memory} (wellKept : WellKept memory)
    {gateway : Gateway} {condition : Condition} {name : ObjectName}
    (found : memory.object? (.of .gateway name) = some ⟨.gateway, gateway⟩)
    (changed : conditionChanged gateway.ready? condition = true) :
    ((writeCondition gateway condition).run store memory).result = .ok true ∧
      Wrote memory (.of .gateway name)
        ⟨.gateway, memory.withStatus gateway (gateway.withCondition condition)⟩
        ((writeCondition gateway condition).run store memory).state := by
  have named : Kind.gateway.objectName? (gateway.withCondition condition) = some name :=
    (Stored.label_of_key? (wellKept.place _ _ found)).2
  obtain ⟨result, state⟩ := memory.run_writeCondition_of_changed changed
  rw [updateStatus_read named (get_found found)] at result state
  rw [state]
  exact ⟨result, wellKept.wrote_withStatus found _⟩

/-- The report of a pass that converged changes the status and the version of the stored gateway
at most, and the gateway then says what any later such report would say. -/
theorem WellKept.of_report {memory : Memory} (wellKept : WellKept memory) (now : String)
    {gateway : Gateway} {name : ObjectName}
    (found : memory.object? (.of .gateway name) = some ⟨.gateway, gateway⟩) :
    let reported := ((report now gateway (.ok .done)).run store memory).state
    ∃ current, reported.object? (.of .gateway name) = some ⟨.gateway, current⟩ ∧
      gateway.SameBut current ∧
      (∀ later, conditionChanged current.ready? (readyCondition later none) = false) ∧
      ∀ key : ObjectKey, key.label ≠ Kind.gateway.label →
        reported.object? key = memory.object? key := by
  intro reported
  have same : reported = ((writeCondition gateway (readyCondition now none)).run store
    memory).state := rfl
  cases changed : conditionChanged gateway.ready? (readyCondition now none) with
  | false =>
    rw [same, (memory.writeCondition_unchanged changed).2]
    refine ⟨gateway, found, ⟨rfl, rfl⟩, fun later => ?_, fun _ _ => rfl⟩
    rw [conditionChanged_readyCondition_congr _ later now, changed]
  | true =>
    obtain ⟨-, wrote⟩ := wellKept.writeCondition_changed found changed
    rw [same]
    exact ⟨_, wrote.object?_self, ⟨rfl, rfl⟩, conditionChanged_withCondition gateway now,
      fun key different => wrote.object?_other fun equal => different (equal ▸ rfl)⟩

end Memory

/-- A pass that converged and was reported is followed by one that reads only: on every memory
that can be reached, whatever the objects of the gateway were before, the second pass over the
gateway as it is stored now converges without a write, leaves the memory as it is, and its report
has nothing to say, at whatever time it is made. -/
theorem second_pass_writes_nothing {memory : Memory} (reachable : memory.Reachable)
    (policy : ReplicaPolicy) {gateway : Gateway} {name : ObjectName}
    (stored : memory.object? (.of .gateway name) = some ⟨.gateway, gateway⟩)
    (done : ((pass policy gateway).run Memory.store memory).result.result = .ok .done)
    (now later : String) :
    let first := (pass policy gateway).run Memory.store memory
    let reported := ((report now first.result.gateway first.result.result).run Memory.store
      first.state).state
    ∃ current, reported.object? (.of .gateway name) = some ⟨.gateway, current⟩ ∧
      let second := (pass policy current).run Memory.store reported
      let again := (report later second.result.gateway second.result.result).run Memory.store
        second.state
      second.result.result = .ok .done ∧
      (∀ exchange ∈ (pass policy current).exchanges Memory.store reported,
        exchange.call.writes = false) ∧
      second.state = reported ∧ again.result = .ok false ∧ again.state = reported := by
  intro first reported
  have ends := (pass policy gateway).ends_run Memory.store memory
  have gives := (pass policy gateway).gives_exchanges Memory.store memory
  have sameGateway : first.result.gateway = gateway := (ends_pass_done ends done).2.1
  have isReport : reported = ((report now gateway (.ok .done)).run Memory.store
      first.state).state := by
    show ((report now first.result.gateway first.result.result).run Memory.store
      first.state).state = _
    rw [sameGateway, done]
  have untouched : first.state.object? (.of .gateway name) = memory.object? (.of .gateway name) :=
    (reachable.of_run_done policy gateway done).2.2 _ fun _ child =>
      Kind.label_ne_of_isChild (show Kind.gateway.Alone by decide) rfl child
  obtain ⟨current, found, same, silent, frame⟩ :=
    (reachable.gives gives).wellKept.of_report now (untouched.trans stored)
  rw [isReport]
  refine ⟨current, found, ?_⟩
  obtain ⟨again, againEnds, reads⟩ := reachable.reads_after_done ends done gives same frame
  obtain ⟨result, state, exchanges⟩ := Program.run_eq_of_gives againEnds reads.gives
  obtain ⟨nothing, unchanged⟩ := Memory.writeCondition_unchanged
    ((pass policy current).run Memory.store (((report now gateway (.ok .done)).run Memory.store
      first.state).state)).state (silent later)
  dsimp only
  rw [result]
  exact ⟨rfl, exchanges ▸ reads.reading, state, nothing, unchanged.trans state⟩

/-- The gateway of the stray Deployment, as it is stored. -/
def storedEdgeGateway : Gateway :=
  { edgeGateway with
    metadata :=
      { edgeGateway.metadata with
        resourceVersion := some "2"
        uid := some "00000000-0000-0000-0000-000000000002" } }

/-- The second pass over the stray Deployment converges and leaves the memory as it is. -/
theorem edge_second_pass_writes_nothing :
    let first := (pass .enforce storedEdgeGateway).run Memory.store edgeMemory
    let reported := ((report "noon" first.result.gateway first.result.result).run Memory.store
      first.state).state
    ∃ current, reported.object? ⟨"APIcast", "default", "edge"⟩ = some ⟨.gateway, current⟩ ∧
      ((pass .enforce current).run Memory.store reported).result.result = .ok .done ∧
      ((pass .enforce current).run Memory.store reported).state = reported := by
  have stored : edgeMemory.object? (.of .gateway ⟨"default", "edge"⟩) =
      some ⟨.gateway, storedEdgeGateway⟩ := rfl
  obtain ⟨current, found, done, -, same, -⟩ :=
    second_pass_writes_nothing reachable_edgeMemory .enforce stored rfl "noon" "later"
  exact ⟨current, found, done, same⟩

end GatewayOperator
