/-
This file says how every stage of a pass can go, whatever the store answers: which calls it
makes, in which order, and what comes of their answers. A stage has one rule for each way it can
go, so all later statements about a pass read the rules and not the programs.
-/

import GatewayOperator.Proofs.Store.Exchange
import GatewayOperator.Reconcile.Pass

namespace GatewayOperator

/-! ### Exchanges of a pass -/

/-- Reading an object. -/
def reading (kind : Kind) (name : ObjectName) (answer : Except StoreError kind.Object) :
    Exchange :=
  ⟨.get kind name.namespaceName name.name, answer⟩

/-- Creating an object. -/
def creating (kind : Kind) (object : kind.Object) (answer : Except StoreError kind.Object) :
    Exchange :=
  ⟨.create kind object, answer⟩

/-- Writing an object back. -/
def writing (kind : Kind) (object : kind.Object) (answer : Except StoreError kind.Object) :
    Exchange :=
  ⟨.update kind object, answer⟩

/-- The name of the Secret that a reference of a gateway means. -/
def Gateway.secretName (gateway : Gateway) (reference : LocalObjectReference) : ObjectName :=
  ⟨gateway.namespaceName, reference.name⟩

/-- The Secret that the spec of a gateway refers to. -/
def Gateway.secretReference? (gateway : Gateway) : SecretRole → Option LocalObjectReference
  | .adminPortal => gateway.spec.adminPortalCredentialsRef
  | .embeddedConfig => gateway.spec.embeddedConfigurationSecretRef

/-- A pass looks for each Secret where the spec refers to it. -/
theorem SecretRole.reference?_spec (role : SecretRole) (gateway : Gateway) :
    role.reference? gateway.spec = gateway.secretReference? role := by
  cases role <;> rfl

/-! ### Resolving a Secret -/

/-- How a Secret of a gateway is read and checked. -/
inductive SecretResolution (role : SecretRole) (gateway : Gateway) :
    List Exchange → Except ReconcileError (Option Secret) → Prop
  /-- The gateway does not refer to a Secret. -/
  | unset (unset : gateway.secretReference? role = none) :
    SecretResolution role gateway [] (.ok none)
  /-- The reference has no name. -/
  | nameless {reference : LocalObjectReference}
    (refers : gateway.secretReference? role = some reference)
    (nameless : reference.name.isEmpty = true) :
    SecretResolution role gateway [] (.error (.referenceIncomplete role.field))
  /-- The Secret cannot be read. -/
  | unread {reference : LocalObjectReference} {cause : StoreError} {error : ReconcileError}
    (refers : gateway.secretReference? role = some reference)
    (named : reference.name.isEmpty = false)
    (fails : role.found gateway.namespaceName reference.name (.error cause) = .error error) :
    SecretResolution role gateway [reading .secret (gateway.secretName reference) (.error cause)]
      (.error error)
  /-- The Secret does not pass its check. -/
  | unfit {reference : LocalObjectReference} {secret : Secret} {error : ReconcileError}
    (refers : gateway.secretReference? role = some reference)
    (named : reference.name.isEmpty = false)
    (unfit : role.check secret = .error error) :
    SecretResolution role gateway [reading .secret (gateway.secretName reference) (.ok secret)]
      (.error error)
  /-- The Secret passes its check. -/
  | fit {reference : LocalObjectReference} {secret : Secret}
    (refers : gateway.secretReference? role = some reference)
    (named : reference.name.isEmpty = false)
    (fit : role.check secret = .ok ()) :
    SecretResolution role gateway [reading .secret (gateway.secretName reference) (.ok secret)]
      (.ok (some secret))

/-- A Secret that cannot be read is an error of the pass. -/
theorem SecretRole.exists_found_error (role : SecretRole) (namespaceName name : String)
    (cause : StoreError) :
    ∃ error, role.found namespaceName name (.error cause) = .error error := by
  cases cause <;> exact ⟨_, rfl⟩

theorem ends_fetchSecret_nameless (role : SecretRole) (gateway : Gateway)
    {reference : LocalObjectReference} (nameless : reference.name.isEmpty = true)
    (exchanges : List Exchange) (result : Except ReconcileError Secret) :
    (fetchSecret role gateway reference).Ends exchanges result ↔
      exchanges = [] ∧ result = .error (.referenceIncomplete role.field) := by
  unfold fetchSecret
  rw [if_pos nameless, Attempt.ends_fail]

theorem ends_fetchSecret_named (role : SecretRole) (gateway : Gateway)
    {reference : LocalObjectReference} (named : reference.name.isEmpty = false)
    (exchanges : List Exchange) (result : Except ReconcileError Secret) :
    (fetchSecret role gateway reference).Ends exchanges result ↔
      ∃ answer, exchanges = [reading .secret (gateway.secretName reference) answer] ∧
        result = role.found gateway.namespaceName reference.name answer := by
  unfold fetchSecret
  rw [if_neg (by rw [named]; exact Bool.false_ne_true), Attempt.ends_answer_bind]
  constructor
  · rintro ⟨answer, rest, rfl, rfl, rfl⟩
    exact ⟨answer, rfl, rfl⟩
  · rintro ⟨answer, rfl, rfl⟩
    exact ⟨answer, [], rfl, rfl, rfl⟩

theorem resolveSecret_of_unset {role : SecretRole} {gateway : Gateway}
    (unset : gateway.secretReference? role = none) :
    resolveSecret role gateway = pure none := by
  unfold resolveSecret
  rw [role.reference?_spec, unset]

theorem resolveSecret_of_refers {role : SecretRole} {gateway : Gateway}
    {reference : LocalObjectReference} (refers : gateway.secretReference? role = some reference) :
    resolveSecret role gateway = (fetchSecret role gateway reference >>= fun secret =>
      Attempt.ofExcept (role.check secret) >>= fun _ => pure (some secret)) := by
  unfold resolveSecret
  rw [role.reference?_spec, refers]

/-- The resolution of a Secret goes by one of the rules. -/
theorem SecretResolution.of_ends {role : SecretRole} {gateway : Gateway}
    {exchanges : List Exchange} {result : Except ReconcileError (Option Secret)}
    (ends : (resolveSecret role gateway).Ends exchanges result) :
    SecretResolution role gateway exchanges result := by
  cases refers : gateway.secretReference? role with
  | none =>
    rw [resolveSecret_of_unset refers] at ends
    obtain ⟨rfl, rfl⟩ := ends
    exact .unset refers
  | some reference =>
    rw [resolveSecret_of_refers refers, Attempt.ends_bind] at ends
    cases named : reference.name.isEmpty with
    | true =>
      simp only [ends_fetchSecret_nameless role gateway named] at ends
      obtain ⟨_, ⟨rfl, same⟩, rfl⟩ | ⟨_, _, _, _, ⟨_, impossible⟩, _⟩ := ends
      · cases same
        exact .nameless refers named
      · cases impossible
    | false =>
      simp only [ends_fetchSecret_named role gateway named] at ends
      obtain ⟨error, ⟨cause | secret, rfl, fails⟩, rfl⟩ |
        ⟨_, rest, secret, rfl, ⟨cause | found, rfl, fetched⟩, ends⟩ := ends
      · exact .unread refers named fails.symm
      · cases fails
      · obtain ⟨error, fails⟩ :=
          role.exists_found_error gateway.namespaceName reference.name cause
        rw [fails] at fetched
        cases fetched
      · cases fetched
        rw [Attempt.ends_ofExcept_bind] at ends
        obtain ⟨error, unfit, rfl, rfl⟩ | ⟨_, fit, rfl, rfl⟩ := ends
        · exact .unfit refers named unfit
        · exact .fit refers named fit

/-! ### Owning a Secret -/

/-- How a Secret of a gateway is resolved and owned. -/
inductive SecretStage (role : SecretRole) (gateway : Gateway) :
    List Exchange → Except ReconcileError OwnedSecret → Prop
  /-- The Secret could not be resolved. -/
  | unresolved {exchanges : List Exchange} {error : ReconcileError}
    (resolution : SecretResolution role gateway exchanges (.error error)) :
    SecretStage role gateway exchanges (.error error)
  /-- There is no Secret. -/
  | absent {exchanges : List Exchange}
    (resolution : SecretResolution role gateway exchanges (.ok none)) :
    SecretStage role gateway exchanges (.ok ⟨none, false⟩)
  /-- Somebody else controls the Secret. -/
  | refused {exchanges : List Exchange} {secret : Secret} {controller : OwnerReference}
    (resolution : SecretResolution role gateway exchanges (.ok (some secret)))
    (refused : secret.metadata.claim gateway.ownerReference = .refused controller) :
    SecretStage role gateway exchanges (.error (secret.alreadyOwned controller))
  /-- The Secret had a reference to the gateway. -/
  | owned {exchanges : List Exchange} {secret : Secret} {metadata : ObjectMeta}
    (resolution : SecretResolution role gateway exchanges (.ok (some secret)))
    (owned : secret.metadata.claim gateway.ownerReference = .refreshed metadata) :
    SecretStage role gateway exchanges (.ok ⟨some { secret with metadata }, false⟩)
  /-- The Secret could not be written with the reference. -/
  | unwritten {exchanges : List Exchange} {secret : Secret} {metadata : ObjectMeta}
    (resolution : SecretResolution role gateway exchanges (.ok (some secret)))
    (free : secret.metadata.claim gateway.ownerReference = .appended metadata)
    (failure : StoreError) :
    SecretStage role gateway
      (exchanges ++ [writing .secret { secret with metadata } (.error failure)])
      (.error (.store failure))
  /-- The Secret was written with the reference. -/
  | written {exchanges : List Exchange} {secret : Secret} {metadata : ObjectMeta}
    (resolution : SecretResolution role gateway exchanges (.ok (some secret)))
    (free : secret.metadata.claim gateway.ownerReference = .appended metadata)
    (updated : Secret) :
    SecretStage role gateway
      (exchanges ++ [writing .secret { secret with metadata } (.ok updated)])
      (.ok ⟨some updated, true⟩)

theorem ends_takeOwnership_refused {gateway : Gateway} {secret : Secret}
    {controller : OwnerReference}
    (refused : secret.metadata.claim gateway.ownerReference = .refused controller)
    (exchanges : List Exchange) (result : Except ReconcileError OwnedSecret) :
    (takeOwnership gateway secret).Ends exchanges result ↔
      exchanges = [] ∧ result = .error (secret.alreadyOwned controller) := by
  unfold takeOwnership
  rw [refused]
  exact Iff.rfl

theorem ends_takeOwnership_refreshed {gateway : Gateway} {secret : Secret}
    {metadata : ObjectMeta}
    (owned : secret.metadata.claim gateway.ownerReference = .refreshed metadata)
    (exchanges : List Exchange) (result : Except ReconcileError OwnedSecret) :
    (takeOwnership gateway secret).Ends exchanges result ↔
      exchanges = [] ∧ result = .ok ⟨some { secret with metadata }, false⟩ := by
  unfold takeOwnership
  rw [owned]
  exact Iff.rfl

theorem ends_takeOwnership_appended {gateway : Gateway} {secret : Secret}
    {metadata : ObjectMeta}
    (free : secret.metadata.claim gateway.ownerReference = .appended metadata)
    (exchanges : List Exchange) (result : Except ReconcileError OwnedSecret) :
    (takeOwnership gateway secret).Ends exchanges result ↔
      (∃ failure, exchanges = [writing .secret { secret with metadata } (.error failure)] ∧
        result = .error (.store failure)) ∨
      ∃ updated, exchanges = [writing .secret { secret with metadata } (.ok updated)] ∧
        result = .ok ⟨some updated, true⟩ := by
  unfold takeOwnership
  rw [free]
  refine Iff.trans (Attempt.ends_ask_bind _ _ _ _) (or_congr Iff.rfl ?_)
  constructor
  · rintro ⟨updated, rest, rfl, rfl, rfl⟩
    exact ⟨updated, rfl, rfl⟩
  · rintro ⟨updated, rfl, rfl⟩
    exact ⟨updated, [], rfl, rfl, rfl⟩

/-- A Secret is resolved and owned by one of the rules. -/
theorem SecretStage.of_ends {role : SecretRole} {gateway : Gateway} {exchanges : List Exchange}
    {result : Except ReconcileError OwnedSecret}
    (ends : (reconcileSecret role gateway).Ends exchanges result) :
    SecretStage role gateway exchanges result := by
  unfold reconcileSecret at ends
  rw [Attempt.ends_bind] at ends
  obtain ⟨error, resolved, rfl⟩ | ⟨first, rest, found, rfl, resolved, ends⟩ := ends
  · exact .unresolved (.of_ends resolved)
  have resolution := SecretResolution.of_ends resolved
  cases found with
  | none =>
    obtain ⟨rfl, rfl⟩ := ends
    rw [List.append_nil]
    exact .absent resolution
  | some secret =>
    replace ends : (takeOwnership gateway secret).Ends rest result := ends
    cases claimed : secret.metadata.claim gateway.ownerReference with
    | refused controller =>
      obtain ⟨rfl, rfl⟩ := (ends_takeOwnership_refused claimed _ _).mp ends
      rw [List.append_nil]
      exact .refused resolution claimed
    | refreshed metadata =>
      obtain ⟨rfl, rfl⟩ := (ends_takeOwnership_refreshed claimed _ _).mp ends
      rw [List.append_nil]
      exact .owned resolution claimed
    | appended metadata =>
      obtain ⟨failure, rfl, rfl⟩ | ⟨updated, rfl, rfl⟩ :=
        (ends_takeOwnership_appended claimed _ _).mp ends
      · exact .unwritten resolution claimed failure
      · exact .written resolution claimed updated

/-! ### Bringing an object about -/

/-- How an object is brought to its desired state. -/
inductive ChildStage (kind : Kind) (rules : List (FieldRule kind.Object)) (desired : kind.Object)
    (name : ObjectName) : List Exchange → Except ReconcileError ChildOutcome → Prop
  /-- It is not known whether the object is there. -/
  | unread {cause : StoreError} (unknown : cause.isNotFound = false) :
    ChildStage kind rules desired name [reading kind name (.error cause)] (.error (.store cause))
  /-- The object is missing and could not be created. -/
  | uncreated {cause : StoreError} (missing : cause.isNotFound = true) (failure : StoreError) :
    ChildStage kind rules desired name
      [reading kind name (.error cause), creating kind desired (.error failure)]
      (.error (.store failure))
  /-- The object was missing and is created. -/
  | created {cause : StoreError} (missing : cause.isNotFound = true) (object : kind.Object) :
    ChildStage kind rules desired name
      [reading kind name (.error cause), creating kind desired (.ok object)] (.ok .created)
  /-- The object is as desired. -/
  | settled {existing : kind.Object}
    (settled : (reconcileFields desired rules existing).changed = []) :
    ChildStage kind rules desired name [reading kind name (.ok existing)] (.ok .unchanged)
  /-- The object differs and could not be written. -/
  | unwritten {existing : kind.Object}
    (differs : (reconcileFields desired rules existing).changed ≠ []) (failure : StoreError) :
    ChildStage kind rules desired name
      [reading kind name (.ok existing),
        writing kind (reconcileFields desired rules existing).object (.error failure)]
      (.error (.store failure))
  /-- The object differed and is written. -/
  | written {existing : kind.Object}
    (differs : (reconcileFields desired rules existing).changed ≠ []) (updated : kind.Object) :
    ChildStage kind rules desired name
      [reading kind name (.ok existing),
        writing kind (reconcileFields desired rules existing).object (.ok updated)]
      (.ok (.updated (reconcileFields desired rules existing).changed))

theorem ends_createChild (kind : Kind) (desired : kind.Object) (exchanges : List Exchange)
    (result : Except ReconcileError ChildOutcome) :
    (createChild kind desired).Ends exchanges result ↔
      (∃ failure, exchanges = [creating kind desired (.error failure)] ∧
        result = .error (.store failure)) ∨
      ∃ object, exchanges = [creating kind desired (.ok object)] ∧ result = .ok .created := by
  refine Iff.trans (Attempt.ends_ask_bind _ _ _ _) (or_congr Iff.rfl ?_)
  constructor
  · rintro ⟨object, rest, rfl, rfl, rfl⟩
    exact ⟨object, rfl, rfl⟩
  · rintro ⟨object, rfl, rfl⟩
    exact ⟨object, [], rfl, rfl, rfl⟩

theorem ends_updateChild_settled {kind : Kind} {rules : List (FieldRule kind.Object)}
    {existing desired : kind.Object}
    (settled : (reconcileFields desired rules existing).changed = []) (exchanges : List Exchange)
    (result : Except ReconcileError ChildOutcome) :
    (updateChild kind rules existing desired).Ends exchanges result ↔
      exchanges = [] ∧ result = .ok .unchanged := by
  unfold updateChild
  simp only [settled, List.isEmpty_nil, if_true]
  exact Iff.rfl

theorem ends_updateChild_differs {kind : Kind} {rules : List (FieldRule kind.Object)}
    {existing desired : kind.Object}
    (differs : (reconcileFields desired rules existing).changed ≠ []) (exchanges : List Exchange)
    (result : Except ReconcileError ChildOutcome) :
    (updateChild kind rules existing desired).Ends exchanges result ↔
      (∃ failure, exchanges =
          [writing kind (reconcileFields desired rules existing).object (.error failure)] ∧
        result = .error (.store failure)) ∨
      ∃ updated, exchanges =
          [writing kind (reconcileFields desired rules existing).object (.ok updated)] ∧
        result = .ok (.updated (reconcileFields desired rules existing).changed) := by
  unfold updateChild
  simp only [List.isEmpty_iff, if_neg differs]
  refine Iff.trans (Attempt.ends_ask_bind _ _ _ _) (or_congr Iff.rfl ?_)
  constructor
  · rintro ⟨updated, rest, rfl, rfl, rfl⟩
    exact ⟨updated, rfl, rfl⟩
  · rintro ⟨updated, rfl, rfl⟩
    exact ⟨updated, [], rfl, rfl, rfl⟩

theorem ends_reconcileChild {kind : Kind} {rules : List (FieldRule kind.Object)}
    {desired : kind.Object} {name : ObjectName} (named : kind.objectName? desired = some name)
    (exchanges : List Exchange) (result : Except ReconcileError ChildOutcome) :
    (reconcileChild kind rules desired).Ends exchanges result ↔
      (∃ existing rest, exchanges = reading kind name (.ok existing) :: rest ∧
        (updateChild kind rules existing desired).Ends rest result) ∨
      ∃ cause rest, exchanges = reading kind name (.error cause) :: rest ∧
        Attempt.Ends (if cause.isNotFound then createChild kind desired else .fail (.store cause))
          rest result := by
  unfold reconcileChild
  rw [named]
  constructor
  · rintro ⟨cause | existing, rest, rfl, ends⟩
    · exact Or.inr ⟨cause, rest, rfl, ends⟩
    · exact Or.inl ⟨existing, rest, rfl, ends⟩
  · rintro (⟨existing, rest, rfl, ends⟩ | ⟨cause, rest, rfl, ends⟩)
    · exact ⟨.ok existing, rest, rfl, ends⟩
    · exact ⟨.error cause, rest, rfl, ends⟩

/-- An object is brought about by one of the rules. -/
theorem ChildStage.of_ends {kind : Kind} {rules : List (FieldRule kind.Object)}
    {desired : kind.Object} {name : ObjectName} (named : kind.objectName? desired = some name)
    {exchanges : List Exchange} {result : Except ReconcileError ChildOutcome}
    (ends : (reconcileChild kind rules desired).Ends exchanges result) :
    ChildStage kind rules desired name exchanges result := by
  rw [ends_reconcileChild named] at ends
  obtain ⟨existing, rest, rfl, ends⟩ | ⟨cause, rest, rfl, ends⟩ := ends
  · by_cases settled : (reconcileFields desired rules existing).changed = []
    · obtain ⟨rfl, rfl⟩ := (ends_updateChild_settled settled _ _).mp ends
      exact .settled settled
    · obtain ⟨failure, rfl, rfl⟩ | ⟨updated, rfl, rfl⟩ :=
        (ends_updateChild_differs settled _ _).mp ends
      · exact .unwritten settled failure
      · exact .written settled updated
  · cases missing : cause.isNotFound with
    | false =>
      rw [missing] at ends
      obtain ⟨rfl, rfl⟩ := ends
      exact .unread missing
    | true =>
      rw [missing] at ends
      obtain ⟨failure, rfl, rfl⟩ | ⟨object, rfl, rfl⟩ := (ends_createChild kind desired _ _).mp ends
      · exact .uncreated missing failure
      · exact .created missing object

/-- An object that is as desired is read and left alone. -/
theorem ends_reconcileChild_settled {kind : Kind} {rules : List (FieldRule kind.Object)}
    {existing desired : kind.Object} {name : ObjectName}
    (named : kind.objectName? desired = some name)
    (settled : (reconcileFields desired rules existing).changed = []) :
    (reconcileChild kind rules desired).Ends [reading kind name (.ok existing)]
      (.ok .unchanged) :=
  (ends_reconcileChild named _ _).mpr
    (Or.inl ⟨existing, [], rfl, (ends_updateChild_settled settled _ _).mpr ⟨rfl, rfl⟩⟩)

/-! ### The whole pass -/

/-- How the objects of a gateway are brought about. -/
inductive ChildrenStage (policy : ReplicaPolicy) (desired : DesiredState) :
    List Exchange → Except ReconcileError Unit → Prop
  | deploymentFails {deployment : List Exchange} {error : ReconcileError}
    (fails : (reconcileChild .deployment (Deployment.rules policy) desired.deployment).Ends
      deployment (.error error)) :
    ChildrenStage policy desired deployment (.error error)
  | serviceFails {deployment service : List Exchange} {error : ReconcileError}
    {first : ChildOutcome}
    (deploymentEnds : (reconcileChild .deployment (Deployment.rules policy)
      desired.deployment).Ends deployment (.ok first))
    (fails : (reconcileChild .service Service.rules desired.service).Ends service (.error error)) :
    ChildrenStage policy desired (deployment ++ service) (.error error)
  | unexposed {deployment service : List Exchange} {first second : ChildOutcome}
    (unexposed : desired.ingress = none)
    (deploymentEnds : (reconcileChild .deployment (Deployment.rules policy)
      desired.deployment).Ends deployment (.ok first))
    (serviceEnds : (reconcileChild .service Service.rules desired.service).Ends service
      (.ok second)) :
    ChildrenStage policy desired (deployment ++ service) (.ok ())
  | ingressFails {deployment service ingress : List Exchange} {error : ReconcileError}
    {first second : ChildOutcome} {wanted : Ingress} (exposed : desired.ingress = some wanted)
    (deploymentEnds : (reconcileChild .deployment (Deployment.rules policy)
      desired.deployment).Ends deployment (.ok first))
    (serviceEnds : (reconcileChild .service Service.rules desired.service).Ends service
      (.ok second))
    (fails : (reconcileChild .ingress Ingress.rules wanted).Ends ingress (.error error)) :
    ChildrenStage policy desired (deployment ++ service ++ ingress) (.error error)
  | exposed {deployment service ingress : List Exchange} {first second third : ChildOutcome}
    {wanted : Ingress} (exposed : desired.ingress = some wanted)
    (deploymentEnds : (reconcileChild .deployment (Deployment.rules policy)
      desired.deployment).Ends deployment (.ok first))
    (serviceEnds : (reconcileChild .service Service.rules desired.service).Ends service
      (.ok second))
    (ingressEnds : (reconcileChild .ingress Ingress.rules wanted).Ends ingress (.ok third)) :
    ChildrenStage policy desired (deployment ++ service ++ ingress) (.ok ())

theorem ChildrenStage.of_ends {policy : ReplicaPolicy} {desired : DesiredState}
    {exchanges : List Exchange} {result : Except ReconcileError Unit}
    (ends : (reconcileChildren policy desired).Ends exchanges result) :
    ChildrenStage policy desired exchanges result := by
  unfold reconcileChildren at ends
  rw [Attempt.ends_bind] at ends
  obtain ⟨error, fails, rfl⟩ | ⟨deployment, rest, first, rfl, deploymentEnds, ends⟩ := ends
  · exact .deploymentFails fails
  rw [Attempt.ends_bind] at ends
  obtain ⟨error, fails, rfl⟩ | ⟨service, rest, second, rfl, serviceEnds, ends⟩ := ends
  · exact .serviceFails deploymentEnds fails
  cases exposed : desired.ingress with
  | none =>
    rw [exposed] at ends
    obtain ⟨rfl, rfl⟩ := ends
    rw [List.append_nil]
    exact .unexposed exposed deploymentEnds serviceEnds
  | some wanted =>
    simp only [exposed, Attempt.ends_bind] at ends
    obtain ⟨error, fails, rfl⟩ | ⟨ingress, rest, third, rfl, ingressEnds, rfl, rfl⟩ := ends
    · rw [← List.append_assoc]
      exact .ingressFails exposed deploymentEnds serviceEnds fails
    · rw [List.append_nil, ← List.append_assoc]
      exact .exposed exposed deploymentEnds serviceEnds ingressEnds

/-- The objects are brought about when each of them is. -/
theorem ChildrenStage.ends {policy : ReplicaPolicy} {desired : DesiredState}
    {exchanges : List Exchange} (stage : ChildrenStage policy desired exchanges (.ok ())) :
    (reconcileChildren policy desired).Ends exchanges (.ok ()) := by
  unfold reconcileChildren
  rw [Attempt.ends_bind]
  cases stage with
  | unexposed unexposed deploymentEnds serviceEnds =>
    refine Or.inr ⟨_, _, _, rfl, deploymentEnds, (Attempt.ends_bind _ _ _ _).mpr ?_⟩
    refine Or.inr ⟨_, [], _, (List.append_nil _).symm, serviceEnds, ?_⟩
    rw [unexposed]
    exact ⟨rfl, rfl⟩
  | exposed exposed deploymentEnds serviceEnds ingressEnds =>
    refine Or.inr ⟨_, _, _, List.append_assoc _ _ _, deploymentEnds,
      (Attempt.ends_bind _ _ _ _).mpr ?_⟩
    refine Or.inr ⟨_, _, _, rfl, serviceEnds, ?_⟩
    simp only [exposed]
    exact (Attempt.ends_bind _ _ _ _).mpr
      (Or.inr ⟨_, [], _, (List.append_nil _).symm, ingressEnds, rfl, rfl⟩)

/-- The objects of a gateway, with the Secrets that were resolved for it. -/
def Gateway.desiredWith (gateway : Gateway) (adminPortal embeddedConfig : Option Secret) :
    DesiredState :=
  desiredState gateway
    { adminPortal := adminPortal.map Secret.resolved
      embeddedConfig := embeddedConfig.map Secret.resolved }

/-- How the stages behind the defaults go. -/
inductive GatewayStage (policy : ReplicaPolicy) (gateway : Gateway) :
    List Exchange → Except ReconcileError Outcome → Prop
  | adminPortalFails {adminPortal : List Exchange} {error : ReconcileError}
    (fails : (reconcileSecret .adminPortal gateway).Ends adminPortal (.error error)) :
    GatewayStage policy gateway adminPortal (.error error)
  | adminPortalOwned {adminPortal : List Exchange} {portal : Option Secret}
    (owned : (reconcileSecret .adminPortal gateway).Ends adminPortal (.ok ⟨portal, true⟩)) :
    GatewayStage policy gateway adminPortal (.ok (.requeue .adminPortalSecretOwned))
  | embeddedConfigFails {adminPortal embeddedConfig : List Exchange} {portal : Option Secret}
    {error : ReconcileError}
    (adminPortalEnds : (reconcileSecret .adminPortal gateway).Ends adminPortal
      (.ok ⟨portal, false⟩))
    (fails : (reconcileSecret .embeddedConfig gateway).Ends embeddedConfig (.error error)) :
    GatewayStage policy gateway (adminPortal ++ embeddedConfig) (.error error)
  | embeddedConfigOwned {adminPortal embeddedConfig : List Exchange}
    {portal config : Option Secret}
    (adminPortalEnds : (reconcileSecret .adminPortal gateway).Ends adminPortal
      (.ok ⟨portal, false⟩))
    (owned : (reconcileSecret .embeddedConfig gateway).Ends embeddedConfig (.ok ⟨config, true⟩)) :
    GatewayStage policy gateway (adminPortal ++ embeddedConfig)
      (.ok (.requeue .embeddedConfigSecretOwned))
  | children {adminPortal embeddedConfig children : List Exchange}
    {portal config : Option Secret} {result : Except ReconcileError Unit}
    (adminPortalEnds : (reconcileSecret .adminPortal gateway).Ends adminPortal
      (.ok ⟨portal, false⟩))
    (embeddedConfigEnds : (reconcileSecret .embeddedConfig gateway).Ends embeddedConfig
      (.ok ⟨config, false⟩))
    (childrenEnd : (reconcileChildren policy (gateway.desiredWith portal config)).Ends children
      result) :
    GatewayStage policy gateway (adminPortal ++ embeddedConfig ++ children)
      (result.map fun _ => .done)

theorem GatewayStage.of_ends {policy : ReplicaPolicy} {gateway : Gateway}
    {exchanges : List Exchange} {result : Except ReconcileError Outcome}
    (ends : (reconcileGateway policy gateway).Ends exchanges result) :
    GatewayStage policy gateway exchanges result := by
  unfold reconcileGateway at ends
  rw [Attempt.ends_bind] at ends
  obtain ⟨error, fails, rfl⟩ | ⟨adminPortal, rest, ⟨portal, _ | _⟩, rfl, first, ends⟩ := ends
  · exact .adminPortalFails fails
  · simp only [Bool.false_eq_true, if_false, Attempt.ends_bind] at ends
    obtain ⟨error, fails, rfl⟩ | ⟨embeddedConfig, rest, ⟨config, _ | _⟩, rfl, second, ends⟩ := ends
    · exact .embeddedConfigFails first fails
    · simp only [Bool.false_eq_true, if_false, Attempt.ends_bind] at ends
      rw [← List.append_assoc]
      obtain ⟨error, fails, rfl⟩ | ⟨children, rest, done, rfl, childrenEnd, rfl, rfl⟩ := ends
      · exact .children first second fails
      · rw [List.append_nil]
        exact .children first second childrenEnd
    · obtain ⟨rfl, rfl⟩ := ends
      rw [List.append_nil]
      exact .embeddedConfigOwned first second
  · obtain ⟨rfl, rfl⟩ := ends
    rw [List.append_nil]
    exact .adminPortalOwned first

/-- A pass converges when no Secret had to be written and the objects were brought about. -/
theorem ends_reconcileGateway_done {policy : ReplicaPolicy} {gateway : Gateway}
    {adminPortal embeddedConfig children : List Exchange} {portal config : Option Secret}
    (adminPortalEnds : (reconcileSecret .adminPortal gateway).Ends adminPortal
      (.ok ⟨portal, false⟩))
    (embeddedConfigEnds : (reconcileSecret .embeddedConfig gateway).Ends embeddedConfig
      (.ok ⟨config, false⟩))
    (childrenEnd : (reconcileChildren policy (gateway.desiredWith portal config)).Ends children
      (.ok ())) :
    (reconcileGateway policy gateway).Ends (adminPortal ++ (embeddedConfig ++ children))
      (.ok .done) := by
  unfold reconcileGateway
  refine (Attempt.ends_bind _ _ _ _).mpr (Or.inr ⟨_, _, _, rfl, adminPortalEnds, ?_⟩)
  simp only [Bool.false_eq_true, if_false]
  refine (Attempt.ends_bind _ _ _ _).mpr (Or.inr ⟨_, _, _, rfl, embeddedConfigEnds, ?_⟩)
  simp only [Bool.false_eq_true, if_false]
  exact (Attempt.ends_bind _ _ _ _).mpr
    (Or.inr ⟨_, [], _, (List.append_nil _).symm, childrenEnd, rfl, rfl⟩)

/-- A gateway that lacks defaults is written with them, and the pass ends. -/
theorem ends_pass_lacking {policy : ReplicaPolicy} {gateway : Gateway}
    (lacks : gateway.lacksDefaults = true) {exchanges : List Exchange} {result : PassResult}
    (ends : (pass policy gateway).Ends exchanges result) :
    (∃ failure, exchanges = [writing .gateway gateway.withDefaults (.error failure)] ∧
      result = ⟨.error (.store failure), gateway.withDefaults⟩) ∨
    ∃ updated, exchanges = [writing .gateway gateway.withDefaults (.ok updated)] ∧
      result = ⟨.ok (.requeue .defaultsApplied), updated⟩ := by
  unfold pass fillDefaults at ends
  rw [if_pos lacks] at ends
  obtain ⟨failure | updated, rest, rfl, rfl, rfl⟩ := ends
  · exact Or.inl ⟨failure, rfl, rfl⟩
  · exact Or.inr ⟨updated, rfl, rfl⟩

/-- A gateway that lacks nothing goes through the other stages as it is. -/
theorem ends_pass_complete {policy : ReplicaPolicy} {gateway : Gateway}
    (complete : gateway.lacksDefaults = false) (exchanges : List Exchange)
    (result : PassResult) :
    (pass policy gateway).Ends exchanges result ↔
      (reconcileGateway policy gateway).Ends exchanges result.result ∧
        result.gateway = gateway := by
  unfold pass fillDefaults
  rw [complete]
  simp only [Bool.false_eq_true, if_false]
  refine Iff.trans (Program.ends_bind _ _ _ _) ?_
  constructor
  · rintro ⟨_, _, _, rfl, ⟨rfl, rfl⟩, rest⟩
    obtain ⟨stages, _, value, rfl, ends, rfl, rfl⟩ := (Program.ends_bind _ _ _ _).mp rest
    rw [List.nil_append, List.append_nil]
    exact ⟨ends, rfl⟩
  · obtain ⟨result, final⟩ := result
    rintro ⟨ends, rfl⟩
    exact ⟨[], exchanges, _, rfl, ⟨rfl, rfl⟩, (Program.ends_bind _ _ _ _).mpr
      ⟨exchanges, [], _, (List.append_nil _).symm, ends, rfl, rfl⟩⟩

/-- A pass that converges wrote no Secret before it brought the objects about. -/
theorem ends_pass_done {policy : ReplicaPolicy} {gateway : Gateway} {exchanges : List Exchange}
    {result : PassResult} (ends : (pass policy gateway).Ends exchanges result)
    (done : result.result = .ok .done) :
    gateway.lacksDefaults = false ∧ result.gateway = gateway ∧
    ∃ adminPortal embeddedConfig children portal config,
      exchanges = adminPortal ++ (embeddedConfig ++ children) ∧
      (reconcileSecret .adminPortal gateway).Ends adminPortal (.ok ⟨portal, false⟩) ∧
      (reconcileSecret .embeddedConfig gateway).Ends embeddedConfig (.ok ⟨config, false⟩) ∧
      (reconcileChildren policy (gateway.desiredWith portal config)).Ends children (.ok ()) := by
  cases lacks : gateway.lacksDefaults with
  | true =>
    obtain ⟨failure, rfl, rfl⟩ | ⟨updated, rfl, rfl⟩ := ends_pass_lacking lacks ends
    · cases done
    · cases done
  | false =>
    obtain ⟨stages, same⟩ := (ends_pass_complete lacks exchanges result).mp ends
    rw [done] at stages
    refine ⟨rfl, same, ?_⟩
    generalize outcome : (Except.ok Outcome.done : Except ReconcileError Outcome) = ended at stages
    cases GatewayStage.of_ends stages with
    | adminPortalFails | adminPortalOwned | embeddedConfigFails | embeddedConfigOwned =>
      cases outcome
    | @children adminPortal embeddedConfig children portal config result first second third =>
      cases result with
      | error error => cases outcome
      | ok _ =>
        exact ⟨adminPortal, embeddedConfig, children, portal, config, List.append_assoc _ _ _,
          first, second, third⟩

end GatewayOperator
