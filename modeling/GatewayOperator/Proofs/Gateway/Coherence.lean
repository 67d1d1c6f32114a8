/-
This file says that the objects of a gateway fit together. The cluster accepts objects that do not:
a Service that selects no pods or those of another gateway, a route to a port that nobody offers, a
variable that names a file which is not mounted. So every reference from one object to another is
followed here, for every gateway and all Secrets that may have been resolved for it. The objects are
looked at as the cluster would look at them, and not by how they were built.
-/

import GatewayOperator.Ownership
import GatewayOperator.Proofs.Fields.Versions

namespace GatewayOperator

/-! ### What refers to what -/

/-- A map is part of another one when the other one has all its entries. -/
instance {Value : Type} : HasSubset (Map Value) where
  Subset first second := ∀ name value, first.get? name = some value → second.get? name = some value

namespace Deployment

/-- The labels of the pods that belong to a Deployment. -/
def selector (deployment : Deployment) : Map String :=
  (deployment.spec.bind (·.selector.matchLabels)).getD Map.empty

/-- The labels that the pods get. -/
def podLabels (deployment : Deployment) : Map String :=
  ((deployment.spec.bind (·.template.metadata)).bind (·.labels)).getD Map.empty

/-- The containers of the pods. -/
def containers (deployment : Deployment) : List Container :=
  (deployment.pod?.map (·.containers)).getD []

/-- The ports of the containers. -/
def ports (deployment : Deployment) : List Int32 :=
  deployment.containers.flatMap fun container =>
    (container.ports.getD []).map (·.containerPort)

/-- The probes of the containers. -/
def probes (deployment : Deployment) : List Probe :=
  deployment.containers.flatMap fun container =>
    container.livenessProbe.toList ++ container.readinessProbe.toList

/-- The variables of the containers. -/
def podVariables (deployment : Deployment) : List EnvVar :=
  deployment.containers.flatMap (·.env.getD [])

/-- What the containers have mounted. -/
def mounts (deployment : Deployment) : List VolumeMount :=
  deployment.containers.flatMap (·.volumeMounts.getD [])

/-- The volumes of the pods. -/
def volumes (deployment : Deployment) : List Volume :=
  (deployment.pod?.bind (·.volumes)).getD []

/-- The annotations of the pods. -/
def podAnnotations (deployment : Deployment) : Map String :=
  deployment.templateAnnotations?.getD Map.empty

end Deployment

/-- The Secret that a variable takes its value from. -/
def EnvVar.secretName? (entry : EnvVar) : Option String :=
  (entry.valueFrom.bind (·.secretKeyRef)).map (·.name)

/-- The Secret whose data a volume holds. -/
def Volume.secretName? (volume : Volume) : Option String :=
  volume.secret.bind (·.secretName)

/-- The labels of the pods behind a Service. -/
def Service.selector (service : Service) : Map String :=
  (service.spec.bind (·.selector)).getD Map.empty

/-- The ports of a Service. -/
def Service.ports (service : Service) : List ServicePort :=
  (service.spec.bind (·.ports)).getD []

/-- Where an Ingress routes to, by default or by a rule. -/
def Ingress.backends (ingress : Ingress) : List IngressBackend :=
  (ingress.spec.bind (·.defaultBackend)).toList ++
    ((ingress.spec.bind (·.rules)).getD []).flatMap fun rule =>
      ((rule.http.map (·.paths)).getD []).map (·.backend)

/-- The metadata of all objects. -/
def DesiredState.metadata (state : DesiredState) : List ObjectMeta :=
  [state.deployment.metadata, state.service.metadata] ++ state.ingress.toList.map (·.metadata)

/-- A reference names a gateway, by all that a gateway is known by, as the owner that controls. -/
structure OwnerReference.NamesController (owner : OwnerReference) (gateway : Gateway) : Prop where
  apiVersion : owner.apiVersion = "apps.3scale.net/v1alpha1"
  kind : owner.kind = "APIcast"
  /-- A gateway that has no name yet goes by the stem of the name it is going to get. -/
  name : owner.name = (gateway.metadata.name.or gateway.metadata.generateName).getD ""
  uid : owner.uid = gateway.metadata.uid.getD ""
  controller : owner.controller = some true

/-- The objects of a gateway fit together. -/
structure DesiredState.FitsTogether (gateway : Gateway) (secrets : ResolvedSecrets)
    (state : DesiredState) : Prop where
  /-- The objects have one name and one namespace, and one reference to an owner. It is the one by
  which the gateway claims objects, and it names the gateway as the owner that controls. -/
  identity : ∀ metadata ∈ state.metadata,
    metadata.name = some (childName gateway.name) ∧
    metadata.namespaceName = gateway.metadata.namespaceName ∧
    metadata.ownerReferences = some [gateway.ownerReference] ∧
    gateway.ownerReference.controls = true ∧
    gateway.ownerReference.NamesController gateway
  deploymentSelector : state.deployment.selector ⊆ state.deployment.podLabels
  serviceSelector : state.service.selector ⊆ state.deployment.podLabels
  /-- The Ingress has one backend, which is a port of the Service. -/
  backend : ∀ ingress, state.ingress = some ingress → ∃ target,
    ingress.backends = [{ service := some target }] ∧
    some target.name = state.service.metadata.name ∧
    ∃ port ∈ state.service.ports, target.port.bind (·.number) = some port.port
  /-- The ports of the Service lead to ports of the containers. -/
  targetPorts : ∀ port ∈ state.service.ports, ∃ number ∈ state.deployment.ports,
    port.targetPort = some (.number number)
  probePorts : ∀ probe ∈ state.deployment.probes, ∃ number ∈ state.deployment.ports,
    probe.httpGet.map (·.port) = some (.number number)
  variableNames : (state.deployment.podVariables.map (·.name)).Nodup
  mountNames : state.deployment.mounts.map (·.name) = state.deployment.volumes.map (·.name)
  mounts_iff : state.deployment.mounts ≠ [] ↔ secrets.embeddedConfig ≠ none
  volumes_iff : state.deployment.volumes ≠ [] ↔ secrets.embeddedConfig ≠ none
  configFile_iff : SecretRole.embeddedConfig.variableName ∈
    state.deployment.podVariables.map (·.name) ↔ secrets.embeddedConfig ≠ none
  /-- The configuration file is the item of the volume, where the volume is mounted. -/
  configFile : ∀ entry ∈ state.deployment.podVariables,
    entry.name = SecretRole.embeddedConfig.variableName →
    ∃ mount ∈ state.deployment.mounts, ∃ volume ∈ state.deployment.volumes, ∃ item,
      volume.name = mount.name ∧ volume.secret.bind (·.items) = some [item] ∧
      entry.value = some (mount.mountPath ++ "/" ++ item.path) ∧ entry.valueFrom = none
  /-- The Secrets in the variables are that of the admin portal, if it was resolved. -/
  variableSecrets : state.deployment.podVariables.filterMap (·.secretName?) =
    secrets.adminPortal.toList.map (·.name)
  /-- The Secrets in the volumes are that of the configuration, if it was resolved. -/
  volumeSecrets : state.deployment.volumes.map (·.secretName?) =
    secrets.embeddedConfig.toList.map (some ·.name)
  /-- The annotations are the versions of the Secrets that were resolved. -/
  annotations : ∀ role : SecretRole, state.deployment.podAnnotations.get? role.versionAnnotation =
    (secrets.ofRole role).map (·.resourceVersion)
  noOtherAnnotations : ∀ name, (∀ role : SecretRole, name ≠ role.versionAnnotation) →
    state.deployment.podAnnotations.get? name = none

/-! ### Labels -/

/-- The label that selects the pods of a gateway is among the labels of a gateway exactly when the
two have one name. -/
theorem selectorLabels_subset_iff (first second : String) :
    selectorLabels first ⊆ gatewayLabels second ↔ first = second := by
  have selected : (selectorLabels first).get? "deployment" = some (childName first) :=
    Map.get?_insert_self _ _ _
  have labelled : (gatewayLabels second).get? "deployment" = some (childName second) := by
    unfold gatewayLabels selectorLabels
    rw [Map.get?_insert_other _ _ (by decide), Map.get?_insert_other _ _ (by decide),
      Map.get?_insert_other _ _ (by decide), Map.get?_insert_other _ _ (by decide),
      Map.get?_insert_self]
  constructor
  · intro within
    have found := within "deployment" _ selected
    rw [labelled] at found
    exact (childName_injective (Option.some.inj found)).symm
  · rintro rfl name value found
    by_cases isDeployment : name = "deployment"
    · subst isDeployment
      rw [labelled, ← selected, found]
    · unfold selectorLabels at found
      rw [Map.get?_insert_other _ _ isDeployment] at found
      cases found

/-! ### Variables -/

theorem podVariables_desiredDeployment (gateway : Gateway) (secrets : ResolvedSecrets) :
    (desiredDeployment gateway secrets).podVariables = environment gateway.spec secrets := by
  show (nonEmpty (environment gateway.spec secrets)).getD [] ++ [] = _
  rw [getD_nonEmpty, List.append_nil]

/-- The variable of the configuration is there when its Secret was resolved. -/
theorem configFile_mem_environment {spec : GatewaySpec} {secrets : ResolvedSecrets}
    {secret : ResolvedSecret} (resolved : secrets.embeddedConfig = some secret) :
    configFile ∈ environment spec secrets := by
  refine List.mem_filterMap.mpr ⟨some configFile, ?_, rfl⟩
  rw [resolved]
  exact List.mem_cons_of_mem _ List.mem_cons_self

/-- A variable of the name of the configuration file is the one that names it. -/
theorem eq_configFile_of_name {spec : GatewaySpec} {secrets : ResolvedSecrets} {entry : EnvVar}
    (member : entry ∈ environment spec secrets)
    (named : entry.name = SecretRole.embeddedConfig.variableName) :
    ∃ secret, secrets.embeddedConfig = some secret ∧ entry = configFile := by
  rcases variable_cases member with ⟨_, _, rfl⟩ | isConfigFile | isSetting
  · have different : "THREESCALE_PORTAL_ENDPOINT" ≠ SecretRole.embeddedConfig.variableName := by
      decide
    exact absurd named different
  · exact isConfigFile
  · rw [named] at isSetting
    exact absurd isSetting (by decide)

/-- The variables of the settings have values of their own. -/
theorem secretName?_of_setting {spec : GatewaySpec} {entry : EnvVar}
    (member : some entry ∈ settingVariables spec) : entry.secretName? = none := by
  have valued : ∀ {Setting : Type} (setting : Option Setting) (name : String)
      (text : Setting → String),
      some entry = setting.map (fun value => .ofValue name (text value)) →
      entry.secretName? = none := by
    intro Setting setting name text same
    obtain ⟨value, -, rfl⟩ := Option.map_eq_some_iff.mp same.symm
    rfl
  simp only [settingVariables, List.mem_cons, List.not_mem_nil, or_false] at member
  rcases member with same | same | same | same | same | same | same | same | same | same <;>
    exact valued _ _ _ same

/-- The variables of the Secrets stand in front of those of the settings. -/
theorem environment_eq_append (spec : GatewaySpec) (secrets : ResolvedSecrets) :
    environment spec secrets = secrets.adminPortal.toList.map portalEndpoint ++
      (secrets.embeddedConfig.toList.map (fun _ => configFile) ++
        (settingVariables spec).filterMap id) := by
  obtain ⟨portal, config⟩ := secrets
  cases portal <;> cases config <;> rfl

/-- The variables take values from the Secret of the admin portal, if it was resolved, and from no
other. -/
theorem secretNames_environment (spec : GatewaySpec) (secrets : ResolvedSecrets) :
    (environment spec secrets).filterMap (·.secretName?) =
      secrets.adminPortal.toList.map (·.name) := by
  have settings : ((settingVariables spec).filterMap id).filterMap (·.secretName?) = [] := by
    rw [List.filterMap_eq_nil_iff]
    intro entry member
    obtain ⟨optional, inSettings, isEntry⟩ := List.mem_filterMap.mp member
    obtain rfl : optional = some entry := isEntry
    exact secretName?_of_setting inSettings
  rw [environment_eq_append, List.filterMap_append, List.filterMap_append, settings]
  obtain ⟨portal, config⟩ := secrets
  cases portal <;> cases config <;> rfl

/-! ### Annotations -/

/-- The pods have no annotations but the versions of the Secrets. -/
theorem get?_versionAnnotations_other (secrets : ResolvedSecrets) {name : String}
    (other : ∀ role : SecretRole, name ≠ role.versionAnnotation) :
    ((versionAnnotations secrets).getD Map.empty).get? name = none := by
  have notPortal : name ≠ adminPortalVersionAnnotation := other .adminPortal
  have notConfig : name ≠ configurationVersionAnnotation := other .embeddedConfig
  unfold versionAnnotations
  dsimp only
  rw [Map.getD_nonEmpty]
  obtain ⟨portal, config⟩ := secrets
  cases portal <;> cases config <;>
    simp [Map.get?_insert_other _ _ notPortal, Map.get?_insert_other _ _ notConfig]

/-! ### Volumes -/

section Volumes

variable (gateway : Gateway) (secrets : ResolvedSecrets)

theorem mounts_desiredDeployment :
    (desiredDeployment gateway secrets).mounts = (configurationMounts secrets).getD [] :=
  List.append_nil _

theorem volumes_desiredDeployment :
    (desiredDeployment gateway secrets).volumes = (configurationVolumes secrets).getD [] := rfl

/-- There is a mount for every volume, under its name. -/
theorem mountNames_desiredDeployment :
    (desiredDeployment gateway secrets).mounts.map (·.name) =
      (desiredDeployment gateway secrets).volumes.map (·.name) := by
  rw [mounts_desiredDeployment, volumes_desiredDeployment]
  unfold configurationMounts configurationVolumes
  cases secrets.embeddedConfig <;> rfl

/-- There are mounts, and volumes, exactly when the Secret of the configuration was resolved. -/
theorem configuration_is_mounted_iff :
    ((desiredDeployment gateway secrets).mounts ≠ [] ↔ secrets.embeddedConfig ≠ none) ∧
      ((desiredDeployment gateway secrets).volumes ≠ [] ↔ secrets.embeddedConfig ≠ none) := by
  rw [mounts_desiredDeployment, volumes_desiredDeployment]
  unfold configurationMounts configurationVolumes
  cases secrets.embeddedConfig <;> simp

/-- The volumes hold the Secret of the configuration, if it was resolved. -/
theorem volumeSecrets_desiredDeployment :
    (desiredDeployment gateway secrets).volumes.map (·.secretName?) =
      secrets.embeddedConfig.toList.map (some ·.name) := by
  rw [volumes_desiredDeployment]
  unfold configurationVolumes
  cases secrets.embeddedConfig <;> rfl

/-- The file that the variable of the configuration names is the item of the volume, where the
volume is mounted. -/
theorem configFile_is_mounted {secret : ResolvedSecret}
    (resolved : secrets.embeddedConfig = some secret) :
    ∃ mount ∈ (desiredDeployment gateway secrets).mounts,
      ∃ volume ∈ (desiredDeployment gateway secrets).volumes, ∃ item,
        volume.name = mount.name ∧ volume.secret.bind (·.items) = some [item] ∧
        configFile.value = some (mount.mountPath ++ "/" ++ item.path) := by
  rw [mounts_desiredDeployment, volumes_desiredDeployment]
  unfold configurationMounts configurationVolumes
  rw [resolved]
  exact ⟨_, List.mem_cons_self, _, List.mem_cons_self, _, rfl, rfl, rfl⟩

end Volumes

/-! ### The objects -/

section Objects

variable (gateway : Gateway) (secrets : ResolvedSecrets)

/-- The reference by which a gateway claims objects names the gateway. -/
theorem namesController_ownerReference :
    gateway.ownerReference.NamesController gateway where
  apiVersion := rfl
  kind := rfl
  name := rfl
  uid := rfl
  controller := rfl

/-- All objects have the same metadata. -/
theorem eq_childMetadata_of_mem {metadata : ObjectMeta}
    (member : metadata ∈ (desiredState gateway secrets).metadata) :
    metadata = gateway.childMetadata := by
  unfold DesiredState.metadata desiredState at member
  rw [List.mem_append, List.mem_cons, List.mem_singleton] at member
  rcases member with (rfl | rfl) | ofIngress
  · rfl
  · rfl
  · cases exposed : gateway.spec.exposedHost with
    | none =>
      rw [exposed] at ofIngress
      cases ofIngress
    | some host =>
      rw [exposed] at ofIngress
      exact List.mem_singleton.mp ofIngress

/-- The one route leads to the first port of the Service. -/
theorem backends_desiredIngress (host : ExposedHost) :
    ∃ target, (desiredIngress gateway host).backends = [{ service := some target }] ∧
      some target.name = (desiredService gateway).metadata.name ∧
      ∃ port ∈ (desiredService gateway).ports, target.port.bind (·.number) = some port.port :=
  ⟨_, rfl, rfl, _, List.mem_cons_self, rfl⟩

/-- The ports of the containers, of which the Service offers the first two. -/
theorem ports_desiredDeployment :
    (desiredDeployment gateway secrets).ports = [proxyPort, managementPort, metricsPort] := rfl

theorem targetPort_desiredService {port : ServicePort}
    (member : port ∈ (desiredService gateway).ports) :
    ∃ number ∈ (desiredDeployment gateway secrets).ports,
      port.targetPort = some (.number number) := by
  have offered : (desiredService gateway).ports =
    [gatewayServicePort "proxy" proxyPort, gatewayServicePort "management" managementPort] := rfl
  rw [offered, List.mem_cons, List.mem_singleton] at member
  rw [ports_desiredDeployment]
  rcases member with rfl | rfl
  · exact ⟨proxyPort, by decide, rfl⟩
  · exact ⟨managementPort, by decide, rfl⟩

theorem port_of_probe {probe : Probe}
    (member : probe ∈ (desiredDeployment gateway secrets).probes) :
    ∃ number ∈ (desiredDeployment gateway secrets).ports,
      probe.httpGet.map (·.port) = some (.number number) := by
  have probes : (desiredDeployment gateway secrets).probes =
    [managementProbe "/status/live" 10 10 5, managementProbe "/status/ready" 15 30 5] := rfl
  rw [probes, List.mem_cons, List.mem_singleton] at member
  rw [ports_desiredDeployment]
  rcases member with rfl | rfl <;> exact ⟨managementPort, by decide, rfl⟩

end Objects

/-- The objects of a gateway fit together, whatever is set in it and whichever Secrets were resolved
for it; and its Service selects the pods of a gateway, as far as their labels say, exactly when that
gateway has the same name. -/
theorem desired_objects_fit_together (gateway : Gateway) (secrets : ResolvedSecrets) :
    (desiredState gateway secrets).FitsTogether gateway secrets ∧
    ∀ (other : Gateway) (otherSecrets : ResolvedSecrets),
      (desiredState gateway secrets).service.selector ⊆
          (desiredState other otherSecrets).deployment.podLabels ↔
        gateway.name = other.name := by
  have podVariables : (desiredState gateway secrets).deployment.podVariables =
    environment gateway.spec secrets := podVariables_desiredDeployment gateway secrets
  obtain ⟨mounts_iff, volumes_iff⟩ := configuration_is_mounted_iff gateway secrets
  refine ⟨?_, fun other _ => selectorLabels_subset_iff gateway.name other.name⟩
  constructor
  case identity =>
    intro metadata member
    rw [eq_childMetadata_of_mem gateway secrets member]
    exact ⟨rfl, rfl, rfl, rfl, namesController_ownerReference gateway⟩
  case deploymentSelector => exact (selectorLabels_subset_iff _ _).mpr rfl
  case serviceSelector => exact (selectorLabels_subset_iff _ _).mpr rfl
  case backend =>
    intro ingress isIngress
    obtain ⟨host, -, rfl⟩ := Option.map_eq_some_iff.mp isIngress
    exact backends_desiredIngress gateway host
  case targetPorts => exact fun port => targetPort_desiredService gateway secrets
  case probePorts => exact fun probe => port_of_probe gateway secrets
  case variableNames =>
    rw [podVariables]
    exact environment_names_nodup gateway.spec secrets
  case mountNames => exact mountNames_desiredDeployment gateway secrets
  case mounts_iff => exact mounts_iff
  case volumes_iff => exact volumes_iff
  case configFile_iff =>
    rw [podVariables]
    refine ⟨ResolvedSecrets.ofRole_ne_none, fun resolved => ?_⟩
    obtain ⟨secret, resolved⟩ := Option.ne_none_iff_exists'.mp resolved
    exact List.mem_map.mpr ⟨configFile, configFile_mem_environment resolved, rfl⟩
  case configFile =>
    intro entry member named
    rw [podVariables] at member
    obtain ⟨secret, resolved, rfl⟩ := eq_configFile_of_name member named
    obtain ⟨mount, isMount, volume, isVolume, item, sameName, items, value⟩ :=
      configFile_is_mounted gateway secrets resolved
    exact ⟨mount, isMount, volume, isVolume, item, sameName, items, value, rfl⟩
  case variableSecrets =>
    rw [podVariables]
    exact secretNames_environment gateway.spec secrets
  case volumeSecrets => exact volumeSecrets_desiredDeployment gateway secrets
  case annotations => exact get?_versionAnnotations secrets
  case noOtherAnnotations => exact fun _ => get?_versionAnnotations_other secrets

end GatewayOperator
