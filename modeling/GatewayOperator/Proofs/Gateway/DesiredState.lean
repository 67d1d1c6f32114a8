/-
This file says what the objects of a gateway are known by. The variables of the gateway container
have different names, whatever the settings are, so merging them by name makes all of them as
desired; and the three objects have one name, which is that of the gateway behind a stem.
-/

import GatewayOperator.Gateway.DesiredState
import GatewayOperator.Fields.Table
import GatewayOperator.Proofs.Cluster.Kind
import Mathlib.Data.List.Forall2

namespace GatewayOperator

/-! ### Variables -/

/-- The names of all variables the gateway container may have, in their order. -/
def variableNames : List String :=
  ["THREESCALE_PORTAL_ENDPOINT", "THREESCALE_CONFIG_FILE", "THREESCALE_DEPLOYMENT_ENV",
    "RESOLVER", "APICAST_SERVICES_LIST", "APICAST_CONFIGURATION_LOADER", "APICAST_LOG_LEVEL",
    "APICAST_PATH_ROUTING", "APICAST_RESPONSE_CODES", "APICAST_CONFIGURATION_CACHE",
    "APICAST_MANAGEMENT_API", "OPENSSL_VERIFY"]

/-- The names of the variables that are there are among the names of all variables, in the same
order. -/
theorem names_sublist {entries : List (Option EnvVar)} {names : List String}
    (named : List.Forall₂ (fun entry name => ∀ present, entry = some present →
      present.name = name) entries names) :
    ((entries.filterMap id).map (·.name)).Sublist names := by
  induction named with
  | nil => exact List.Sublist.slnil
  | @cons entry name entries names sameName named inductionHypothesis =>
    cases entry with
    | none => exact inductionHypothesis.cons name
    | some present =>
      obtain rfl := sameName present rfl
      exact inductionHypothesis.cons_cons present.name

/-- A variable of an optional setting has the name of the setting's variable. -/
theorem name_of_map {Setting : Type} (setting : Option Setting) (entryOf : Setting → EnvVar)
    (name : String) (same : ∀ value, (entryOf value).name = name) (present : EnvVar)
    (found : setting.map entryOf = some present) : present.name = name := by
  cases setting with
  | none => cases found
  | some value =>
    cases found
    exact same value

/-- The variables of the settings come behind those of the Secrets. -/
theorem settings_named (spec : GatewaySpec) :
    List.Forall₂ (fun entry name => ∀ present, entry = some present → present.name = name)
      (settingVariables spec) (variableNames.drop 2) := by
  unfold settingVariables variableNames
  simp only [List.drop_succ_cons, List.drop_zero, List.forall₂_cons, List.forall₂_nil_left_iff,
    and_true]
  refine ⟨?_, ?_, ?_, ?_, ?_, ?_, ?_, ?_, ?_, ?_⟩ <;> exact name_of_map _ _ _ fun _ => rfl

/-- No two variables of the gateway container have one name. -/
theorem environment_names_nodup (spec : GatewaySpec) (secrets : ResolvedSecrets) :
    ((environment spec secrets).map (·.name)).Nodup := by
  have sublist : ((environment spec secrets).map (·.name)).Sublist variableNames :=
    names_sublist (.cons (name_of_map _ _ _ fun _ => rfl)
      (.cons (name_of_map _ _ _ fun _ => rfl) (settings_named spec)))
  exact sublist.nodup (by decide)

/-- A variable of the gateway container is that of the admin portal, which was resolved then, or
that of the configuration, likewise, or that of a setting. -/
theorem variable_cases {spec : GatewaySpec} {secrets : ResolvedSecrets} {entry : EnvVar}
    (member : entry ∈ environment spec secrets) :
    (∃ secret, secrets.adminPortal = some secret ∧ entry = portalEndpoint secret) ∨
    (∃ secret, secrets.embeddedConfig = some secret ∧ entry = configFile) ∨
    entry.name ∈ variableNames.drop 2 := by
  obtain ⟨optional, inList, isEntry⟩ := List.mem_filterMap.mp member
  obtain rfl : optional = some entry := isEntry
  rcases List.mem_cons.mp inList with isPortal | inRest
  · obtain ⟨secret, resolved, same⟩ := Option.map_eq_some_iff.mp isPortal.symm
    exact Or.inl ⟨secret, resolved, same.symm⟩
  · rcases List.mem_cons.mp inRest with isConfig | isSetting
    · obtain ⟨secret, resolved, same⟩ := Option.map_eq_some_iff.mp isConfig.symm
      exact Or.inr (Or.inl ⟨secret, resolved, same.symm⟩)
    · have inSettings : entry ∈ (settingVariables spec).filterMap id :=
        List.mem_filterMap.mpr ⟨some entry, isSetting, rfl⟩
      exact Or.inr (Or.inr ((names_sublist (settings_named spec)).subset
        (List.mem_map_of_mem inSettings)))

/-- The address of the admin portal is taken from the Secret that was resolved. -/
theorem portalEndpoint_mem_environment {spec : GatewaySpec} {secrets : ResolvedSecrets}
    {secret : ResolvedSecret} (resolved : secrets.adminPortal = some secret) :
    portalEndpoint secret ∈ environment spec secrets := by
  refine List.mem_filterMap.mpr ⟨some (portalEndpoint secret), ?_, rfl⟩
  rw [resolved]
  exact List.mem_cons_self

theorem getD_nonEmpty {Value : Type} (values : List Value) :
    (nonEmpty values).getD [] = values := by
  unfold nonEmpty
  cases values <;> rfl

/-- The first container of a desired Deployment is the gateway container. -/
theorem firstContainer?_desiredDeployment (gateway : Gateway) (secrets : ResolvedSecrets) :
    (desiredDeployment gateway secrets).firstContainer? =
      some (gatewayContainer gateway.spec secrets) := rfl

theorem desiredDeployment_names_nodup (gateway : Gateway) (secrets : ResolvedSecrets)
    (wanted : Container)
    (isFirst : (desiredDeployment gateway secrets).firstContainer? = some wanted) :
    ((wanted.env.getD []).map (·.name)).Nodup := by
  rw [firstContainer?_desiredDeployment] at isFirst
  cases isFirst
  show (((nonEmpty (environment gateway.spec secrets)).getD []).map (·.name)).Nodup
  rw [getD_nonEmpty]
  exact environment_names_nodup gateway.spec secrets

/-! ### The objects by their kinds -/

/-- The name of every object of a gateway. -/
def Gateway.childObjectName (gateway : Gateway) : ObjectName :=
  ⟨gateway.namespaceName, childName gateway.name⟩

/-- The desired object of a kind, if one is desired. -/
def DesiredState.child? (desired : DesiredState) : (kind : Kind) → Option kind.Object
  | .deployment => some desired.deployment
  | .service => some desired.service
  | .ingress => desired.ingress
  | _ => none

/-- The three objects have one name. -/
theorem objectName?_child {gateway : Gateway} {secrets : ResolvedSecrets} {kind : Kind}
    {desired : kind.Object} (child : (desiredState gateway secrets).child? kind = some desired) :
    kind.objectName? desired = some gateway.childObjectName := by
  cases kind with
  | deployment => cases child; rfl
  | service => cases child; rfl
  | ingress =>
    obtain ⟨exposedHost, _, rfl⟩ := Option.map_eq_some_iff.mp child
    rfl
  | _ => cases child

/-- Whether a pass brings objects of a kind about. -/
def Kind.isChild : Kind → Bool
  | deployment | service | ingress => true
  | gateway | secret | configMap | coreEvent | event => false

theorem Kind.alone_of_isChild {kind : Kind} (isChild : kind.isChild = true) : kind.Alone := by
  revert isChild
  cases kind <;> decide

theorem Kind.ne_secret_of_isChild {kind : Kind} (isChild : kind.isChild = true) :
    kind ≠ .secret := by
  rintro rfl
  cases isChild

/-- No object a pass brings about shares its word with an object of another kind. -/
theorem Kind.label_ne_of_isChild {kind other : Kind} (alone : other.Alone)
    (notChild : other.isChild = false) (child : kind.isChild = true) :
    other.label ≠ kind.label := by
  intro same
  rw [alone.eq_of_label same.symm, notChild] at child
  cases child

theorem DesiredState.isChild_of_child? {state : DesiredState} {kind : Kind}
    {desired : kind.Object} (child : state.child? kind = some desired) : kind.isChild = true := by
  cases kind with
  | deployment | service | ingress => rfl
  | _ => cases child

end GatewayOperator
