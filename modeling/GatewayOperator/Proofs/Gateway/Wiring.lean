/-
This file says how the Secrets of a gateway are wired into its Deployment. A role has one variable
of the gateway container, which is there only when the Secret of the role was resolved. The variable
of the admin portal takes its value from the Secret; that of the configuration only names a file, so
the Secret has to be a volume of the pods and to be mounted where the file is. A Deployment with its
managed fields as desired is wired for every Secret that was resolved.
-/

import GatewayOperator.Proofs.Fields.Deployment
import GatewayOperator.Proofs.Gateway.DesiredState
import GatewayOperator.Secrets.Validation

namespace GatewayOperator

/-- The variable of the gateway container that makes use of the Secret of a role. -/
def SecretRole.variableName : SecretRole → String
  | adminPortal => "THREESCALE_PORTAL_ENDPOINT"
  | embeddedConfig => "THREESCALE_CONFIG_FILE"

theorem SecretRole.variableName_injective : Function.Injective SecretRole.variableName := by
  intro first second same
  revert same
  cases first <;> cases second <;> decide

/-- The Secret that was resolved for a role. -/
def ResolvedSecrets.ofRole (secrets : ResolvedSecrets) : SecretRole → Option ResolvedSecret
  | .adminPortal => secrets.adminPortal
  | .embeddedConfig => secrets.embeddedConfig

/-- A container has a variable. -/
def Container.HasVariable (container : Container) (name : String) : Prop :=
  name ∈ (container.env.getD []).map (·.name)

/-- What the variable of a role needs leads to a Secret: every variable of that name refers to it,
or it is the one volume of the pods, and the container has mounted this volume alone. -/
def SecretRole.Wired (role : SecretRole) (deployment : Deployment) (container : Container)
    (secretName : String) : Prop :=
  match role with
  | adminPortal =>
    ∀ entry ∈ container.env.getD [], entry.name = adminPortal.variableName →
      (entry.valueFrom.bind (·.secretKeyRef)).map (·.name) = some secretName
  | embeddedConfig =>
    ∃ mount volume, container.volumeMounts.getD [] = [mount] ∧
      (deployment.pod?.bind (·.volumes)).getD [] = [volume] ∧
      mount.name = configurationVolume ∧ mount.mountPath = configurationMountPath ∧
      volume.name = configurationVolume ∧
      volume.secret.bind (·.secretName) = some secretName

/-- The variable of a role is wanted only when the Secret of the role was resolved. -/
theorem ResolvedSecrets.ofRole_ne_none {secrets : ResolvedSecrets} {spec : GatewaySpec}
    {role : SecretRole} (wanted : role.variableName ∈ (environment spec secrets).map (·.name)) :
    secrets.ofRole role ≠ none := by
  have notSetting : role.variableName ∉ variableNames.drop 2 := by
    cases role <;> decide
  obtain ⟨entry, member, named⟩ := List.mem_map.mp wanted
  rcases variable_cases member with ⟨secret, resolved, rfl⟩ | ⟨secret, resolved, rfl⟩ | isSetting
  · obtain rfl : SecretRole.adminPortal = role := SecretRole.variableName_injective named
    rw [show secrets.ofRole .adminPortal = some secret from resolved]
    exact Option.some_ne_none secret
  · obtain rfl : SecretRole.embeddedConfig = role := SecretRole.variableName_injective named
    rw [show secrets.ofRole .embeddedConfig = some secret from resolved]
    exact Option.some_ne_none secret
  · rw [named] at isSetting
    exact absurd isSetting notSetting

/-- The variables of the desired Deployment are those of the environment. -/
theorem variableNames_desiredDeployment (gateway : Gateway) (secrets : ResolvedSecrets) :
    (desiredDeployment gateway secrets).variableNames =
      (environment gateway.spec secrets).map (·.name) := by
  rw [Deployment.variableNames_of_first (firstContainer?_desiredDeployment gateway secrets)]
  show ((nonEmpty (environment gateway.spec secrets)).getD []).map (·.name) = _
  rw [getD_nonEmpty]

/-- A Deployment with its managed fields as desired is wired for every Secret that was resolved,
when no two of its variables have one name. -/
theorem wired_of_settled {policy : ReplicaPolicy} {gateway : Gateway} {secrets : ResolvedSecrets}
    {deployment : Deployment} {container : Container} {role : SecretRole} {secret : ResolvedSecret}
    (settled : Deployment.Settled policy (desiredDeployment gateway secrets) deployment)
    (isFirst : deployment.firstContainer? = some container)
    (distinct : ((container.env.getD []).map (·.name)).Nodup)
    (resolved : secrets.ofRole role = some secret) :
    role.Wired deployment container secret.name := by
  obtain ⟨current, isCurrent, containerSettled⟩ :=
    settled.container _ (firstContainer?_desiredDeployment gateway secrets)
  rw [isFirst] at isCurrent
  cases isCurrent
  cases role with
  | adminPortal =>
    intro entry member named
    have wanted : portalEndpoint secret ∈
        (gatewayContainer gateway.spec secrets).env.getD [] := by
      show _ ∈ (nonEmpty (environment gateway.spec secrets)).getD []
      rw [getD_nonEmpty]
      exact portalEndpoint_mem_environment resolved
    obtain ⟨found, isFound, value, source⟩ := containerSettled.environment _ wanted
    have same : found = entry := by
      have isEntry := find?_name_of_mem distinct member
      rw [named] at isEntry
      exact Option.some.inj (isFound.symm.trans isEntry)
    rw [← same, source]
    rfl
  | embeddedConfig =>
    have wantedMounts : configurationMounts secrets = secrets.embeddedConfig.map _ := rfl
    have wantedVolumes : configurationVolumes secrets = secrets.embeddedConfig.map _ := rfl
    rw [show secrets.embeddedConfig = some secret from resolved] at wantedMounts wantedVolumes
    have mounts : (container.volumeMounts.getD []).Perm ((configurationMounts secrets).getD []) :=
      containerSettled.volumeMounts
    have volumes : ((deployment.pod?.bind (·.volumes)).getD []).Perm
        ((configurationVolumes secrets).getD []) := settled.volumes
    rw [wantedMounts] at mounts
    rw [wantedVolumes] at volumes
    exact ⟨_, _, List.perm_singleton.mp mounts, List.perm_singleton.mp volumes, rfl, rfl, rfl, rfl⟩

end GatewayOperator
