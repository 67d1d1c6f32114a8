/-
This file says that the environment of the gateway container keeps the settings apart. Every setting
has a variable with a name of its own, so a variable tells which setting it belongs to and a missing
one tells that its setting is absent; and each text that is written for a value is written for no
other value of its setting. The identifiers of a list stand between commas, so they are found again
when none of them is empty or has a comma in it. Of the Secrets the environment says which ones were
resolved and what that of the admin portal is called.
-/

import GatewayOperator.Proofs.Gateway.DesiredState
import GatewayOperator.Proofs.Text.Parts

namespace GatewayOperator

/-! ### Optional variables -/

/-- An optional variable has a name if it is there. -/
def Named (entry : Option EnvVar) (name : String) : Prop :=
  ∀ present, entry = some present → present.name = name

/-- Optional variables whose names differ are known from those that are there. -/
theorem eq_of_filterMap_eq {names : List String} (distinct : names.Nodup)
    {first second : List (Option EnvVar)} (firstNamed : List.Forall₂ Named first names)
    (secondNamed : List.Forall₂ Named second names)
    (same : first.filterMap id = second.filterMap id) : first = second := by
  -- A variable that is the head of one side only would have to be behind the head of the other.
  have behind : ∀ {entries : List (Option EnvVar)} {rest : List String} {present : EnvVar},
      List.Forall₂ Named entries rest → present ∈ entries.filterMap id → present.name ∈ rest :=
    fun named member => (names_sublist named).subset (List.mem_map_of_mem member)
  induction firstNamed generalizing second with
  | nil =>
    cases secondNamed
    rfl
  | @cons entry name entries names isNamed named inductionHypothesis =>
    cases secondNamed with
    | @cons other _ others _ otherNamed othersNamed =>
      obtain ⟨fresh, distinct⟩ := List.nodup_cons.mp distinct
      cases entry with
      | none =>
        cases other with
        | none => rw [inductionHypothesis distinct othersNamed same]
        | some present =>
          have member : present ∈ entries.filterMap id := by
            rw [show entries.filterMap id = present :: others.filterMap id from same]
            exact List.mem_cons_self
          rw [← otherNamed present rfl] at fresh
          exact absurd (behind named member) fresh
      | some present =>
        cases other with
        | none =>
          have member : present ∈ others.filterMap id := by
            rw [show others.filterMap id = present :: entries.filterMap id from same.symm]
            exact List.mem_cons_self
          rw [← isNamed present rfl] at fresh
          exact absurd (behind othersNamed member) fresh
        | some otherPresent =>
          injection same with sameHead sameRest
          replace sameHead : present = otherPresent := sameHead
          rw [sameHead, inductionHypothesis distinct othersNamed sameRest]

/-! ### The texts of values -/

/-- What is written for a value can be read back, so it is written for no other value. -/
theorem Codec.Lawful.write_injective {Value : Type} {codec : Codec Value} (lawful : codec.Lawful)
    {first second : Value} (same : codec.write first = codec.write second) : first = second := by
  have read := lawful.read_write first
  rw [same, lawful.read_write second] at read
  exact (Except.ok.inj read).symm

theorem LoadMode.word_injective : Function.Injective LoadMode.word := fun _ _ same =>
  LoadMode.codec_lawful.write_injective (congrArg Json.string same)

theorem LogLevel.word_injective : Function.Injective LogLevel.word := fun _ _ same =>
  LogLevel.codec_lawful.write_injective (congrArg Json.string same)

theorem ManagementScope.word_injective : Function.Injective ManagementScope.word := fun _ _ same =>
  ManagementScope.codec_lawful.write_injective (congrArg Json.string same)

theorem flagText_injective : Function.Injective flagText := by
  intro first second same
  revert same
  cases first <;> cases second <;> decide

/-- Identifiers that can stand in a list between commas. -/
def IsListed (identifiers : List String) : Prop :=
  ∀ identifier ∈ identifiers, identifier ≠ "" ∧ ',' ∉ identifier.toList

/-- Identifiers are found again between the commas. -/
theorem join_injective {first second : List String} (firstListed : IsListed first)
    (secondListed : IsListed second)
    (same : ",".intercalate first = ",".intercalate second) : first = second := by
  have free : ∀ {identifiers : List String}, IsListed identifiers →
      ∀ part ∈ identifiers.map String.toList, ∀ character ∈ part, character ≠ ',' := by
    intro identifiers listed part member character inPart isComma
    obtain ⟨identifier, inList, rfl⟩ := List.mem_map.mp member
    exact (listed identifier inList).2 (isComma ▸ inPart)
  -- The text of no identifiers is empty, which is that of one empty identifier.
  have parts : ∀ {identifiers : List String}, IsListed identifiers →
      Text.splitAt ',' (",".intercalate identifiers).toList =
        if identifiers = [] then [[]] else identifiers.map String.toList := by
    intro identifiers listed
    rw [String.toList_intercalate]
    split
    · next empty =>
      rw [empty]
      rfl
    · next nonempty =>
      exact Text.splitAt_intercalate (by simpa using nonempty) (free listed)
  have nonempty : ∀ {identifiers : List String}, IsListed identifiers →
      identifiers.map String.toList ≠ [[]] := by
    intro identifiers listed empty
    obtain ⟨identifier, rest, rfl, isEmpty, -⟩ := List.map_eq_cons_iff.mp empty
    exact (listed identifier List.mem_cons_self).1 (String.toList_injective isEmpty)
  have sameParts := congrArg (fun text => Text.splitAt ',' text.toList) same
  simp only [parts firstListed, parts secondListed] at sameParts
  split at sameParts <;> split at sameParts
  · next noneFirst noneSecond => rw [noneFirst, noneSecond]
  · exact absurd sameParts.symm (nonempty secondListed)
  · exact absurd sameParts (nonempty firstListed)
  · exact List.map_injective_iff.mpr (fun _ _ equal => String.toList_injective equal) sameParts

/-! ### Settings -/

/-- Two gateways have the same settings of the gateway container, an absent one being a setting of
its own. -/
structure GatewaySpec.SameSettings (first second : GatewaySpec) : Prop where
  deploymentEnvironment : first.deploymentEnvironment = second.deploymentEnvironment
  dnsResolverAddress : first.dnsResolverAddress = second.dnsResolverAddress
  enabledServices : first.enabledServices = second.enabledServices
  configurationLoadMode : first.configurationLoadMode = second.configurationLoadMode
  logLevel : first.logLevel = second.logLevel
  pathRoutingEnabled : first.pathRoutingEnabled = second.pathRoutingEnabled
  responseCodesIncluded : first.responseCodesIncluded = second.responseCodesIncluded
  cacheConfigurationSeconds : first.cacheConfigurationSeconds = second.cacheConfigurationSeconds
  managementApiScope : first.managementApiScope = second.managementApiScope
  opensslPeerVerificationEnabled :
    first.opensslPeerVerificationEnabled = second.opensslPeerVerificationEnabled

/-- The same Secrets were resolved, as far as the environment says: that of the admin portal by its
name, and that of the configuration or none. -/
structure ResolvedSecrets.SameInEnvironment (first second : ResolvedSecrets) : Prop where
  adminPortal : first.adminPortal.map (·.name) = second.adminPortal.map (·.name)
  embeddedConfig : first.embeddedConfig.isSome = second.embeddedConfig.isSome

/-- The services of a gateway, where it names them, can stand in a list between commas. -/
def GatewaySpec.ListsServices (spec : GatewaySpec) : Prop :=
  ∀ services, spec.enabledServices = some services → IsListed services

/-- The variables of the settings tell the settings apart. -/
theorem sameSettings_of_variables {first second : GatewaySpec} (firstLists : first.ListsServices)
    (secondLists : second.ListsServices)
    (same : settingVariables first = settingVariables second) : first.SameSettings second := by
  have value : ∀ {name text other : String}, EnvVar.ofValue name text = .ofValue name other →
      text = other := fun equal => Option.some.inj (congrArg EnvVar.value equal)
  unfold settingVariables at same
  simp only [List.cons.injEq, and_true] at same
  obtain ⟨environment, resolver, services, mode, level, routing, codes, seconds, scope, verify⟩ :=
    same
  have sameServices : first.enabledServices = second.enabledServices := by
    cases isFirst : first.enabledServices with
    | none =>
      rw [isFirst] at services
      exact (Option.map_eq_none_iff.mp services.symm).symm
    | some listed =>
      rw [isFirst] at services
      obtain ⟨others, isSecond, written⟩ := Option.map_eq_some_iff.mp services.symm
      rw [isSecond, join_injective (firstLists listed isFirst) (secondLists others isSecond)
        (value written).symm]
  exact
    { deploymentEnvironment := Option.map_injective (fun _ _ equal => value equal) environment
      dnsResolverAddress := Option.map_injective (fun _ _ equal => value equal) resolver
      enabledServices := sameServices
      configurationLoadMode :=
        Option.map_injective (fun _ _ equal => LoadMode.word_injective (value equal)) mode
      logLevel :=
        Option.map_injective (fun _ _ equal => LogLevel.word_injective (value equal)) level
      pathRoutingEnabled :=
        Option.map_injective (fun _ _ equal => flagText_injective (value equal)) routing
      responseCodesIncluded :=
        Option.map_injective (fun _ _ equal => flagText_injective (value equal)) codes
      cacheConfigurationSeconds := Option.map_injective (fun _ _ equal =>
        Int64.toInt_inj.mp (Decimal.integerText_injective (value equal))) seconds
      managementApiScope :=
        Option.map_injective (fun _ _ equal => ManagementScope.word_injective (value equal)) scope
      opensslPeerVerificationEnabled :=
        Option.map_injective (fun _ _ equal => flagText_injective (value equal)) verify }

/-- The variables of the settings are those of the same settings. -/
theorem settingVariables_congr {first second : GatewaySpec} (same : first.SameSettings second) :
    settingVariables first = settingVariables second := by
  unfold settingVariables
  rw [same.deploymentEnvironment, same.dnsResolverAddress, same.enabledServices,
    same.configurationLoadMode, same.logLevel, same.pathRoutingEnabled, same.responseCodesIncluded,
    same.cacheConfigurationSeconds, same.managementApiScope, same.opensslPeerVerificationEnabled]

/-- The variable of the admin portal tells which Secret it takes its value from. -/
theorem map_portalEndpoint_eq_iff (first second : Option ResolvedSecret) :
    first.map portalEndpoint = second.map portalEndpoint ↔
      first.map (·.name) = second.map (·.name) := by
  cases first <;> cases second <;> simp [portalEndpoint]

/-- The variable of the configuration tells only whether there is one. -/
theorem map_configFile_eq_iff (first second : Option ResolvedSecret) :
    first.map (fun _ => configFile) = second.map (fun _ => configFile) ↔
      first.isSome = second.isSome := by
  cases first <;> cases second <;> simp

/-- The environment keeps the settings apart: two gateways have the same environment exactly when
they have the same settings and the same Secrets were resolved for them. -/
theorem environment_eq_iff {first second : GatewaySpec} (firstLists : first.ListsServices)
    (secondLists : second.ListsServices) (secrets others : ResolvedSecrets) :
    environment first secrets = environment second others ↔
      first.SameSettings second ∧ secrets.SameInEnvironment others := by
  constructor
  · intro same
    have named : ∀ (spec : GatewaySpec) (secrets : ResolvedSecrets), List.Forall₂ Named
        (secrets.adminPortal.map portalEndpoint :: secrets.embeddedConfig.map (fun _ => configFile)
          :: settingVariables spec) variableNames := fun spec secrets =>
      .cons (name_of_map _ _ _ fun _ => rfl)
        (.cons (name_of_map _ _ _ fun _ => rfl) (settings_named spec))
    have entries := eq_of_filterMap_eq (by decide) (named first secrets) (named second others) same
    simp only [List.cons.injEq] at entries
    obtain ⟨portal, config, settings⟩ := entries
    exact ⟨sameSettings_of_variables firstLists secondLists settings,
      (map_portalEndpoint_eq_iff _ _).mp portal, (map_configFile_eq_iff _ _).mp config⟩
  · rintro ⟨settings, resolved⟩
    unfold environment
    rw [settingVariables_congr settings, (map_portalEndpoint_eq_iff _ _).mpr resolved.adminPortal,
      (map_configFile_eq_iff _ _).mpr resolved.embeddedConfig]

/-- A gateway that turns its settings on, with two services. -/
def tunedSpec : GatewaySpec where
  enabledServices := some ["42", "7"]
  pathRoutingEnabled := some true
  cacheConfigurationSeconds := some (-1)

/-- A gateway that serves no service and says so. -/
def closedSpec : GatewaySpec where
  enabledServices := some []

/-- No services are told from unset services, and from those of another gateway. -/
theorem tuned_environment_differs :
    tunedSpec.ListsServices ∧ closedSpec.ListsServices ∧ GatewaySpec.ListsServices {} ∧
    (environment closedSpec {} = environment {} {} ↔
      closedSpec.SameSettings {} ∧ ResolvedSecrets.SameInEnvironment {} {}) ∧
    environment tunedSpec {} ≠ environment closedSpec {} := by
  have tuned : tunedSpec.ListsServices := by
    intro services isSet
    cases isSet
    unfold IsListed
    decide
  have closed : closedSpec.ListsServices := by
    intro services isSet
    cases isSet
    exact fun _ => nofun
  have unset : GatewaySpec.ListsServices {} := fun _ => nofun
  refine ⟨tuned, closed, unset, environment_eq_iff closed unset {} {}, fun same => ?_⟩
  have services := ((environment_eq_iff tuned closed {} {}).mp same).1.enabledServices
  exact absurd services (by decide)

end GatewayOperator
