/-
This file reads the objects of a gateway back from a cluster that drops empty lists and maps when it
stores an object, at whatever depth they stand. The tables take an absent collection and an empty
one for the same where they compare collections, but not inside the members of a collection, which
are compared as they are. The operator itself puts no empty list or map into what it desires, and
the members without a field of their own are all blank there, so the Deployment and the Service are
read back as they were written. Of the Ingress only those certificates are not that a user gave an
empty list of hosts: the table finds their list changed in every pass.
-/

import GatewayOperator.Proofs.Fields.Children

namespace GatewayOperator

/-! ### Dropping empty lists and maps -/

/-- A collection, absent when it has no members. -/
def dropEmpty {Items : Type} [Collection Items] (items : Option Items) : Option Items :=
  if isVacant items then none else items

/-- A list of records, each without its empty collections, absent when it has no members. -/
def dropEmptyIn {Item : Type} [DecidableEq Item] (compact : Item → Item)
    (items : Option (List Item)) : Option (List Item) :=
  dropEmpty (items.map (List.map compact))

/-- Metadata as the cluster keeps it. -/
def ObjectMeta.compact (metadata : ObjectMeta) : ObjectMeta :=
  { metadata with
    annotations := dropEmpty metadata.annotations
    finalizers := dropEmpty metadata.finalizers
    labels := dropEmpty metadata.labels
    managedFields := dropEmpty metadata.managedFields
    ownerReferences := dropEmpty metadata.ownerReferences }

/-- A container as the cluster keeps it. -/
def Container.compact (container : Container) : Container :=
  { container with
    args := dropEmpty container.args
    env := dropEmpty container.env
    ports := dropEmpty container.ports
    resources := container.resources.map fun resources =>
      { resources with limits := dropEmpty resources.limits }
    volumeMounts := dropEmpty container.volumeMounts }

/-- A volume as the cluster keeps it. -/
def Volume.compact (volume : Volume) : Volume :=
  { volume with
    configMap := volume.configMap.map fun source => { source with items := dropEmpty source.items }
    secret := volume.secret.map fun source => { source with items := dropEmpty source.items } }

/-- Pods as the cluster keeps them. A list that has to be there is empty when it is absent. -/
def PodSpec.compact (pod : PodSpec) : PodSpec :=
  { pod with
    containers := pod.containers.map Container.compact
    nodeSelector := dropEmpty pod.nodeSelector
    volumes := dropEmptyIn Volume.compact pod.volumes }

/-- A Deployment as the cluster keeps it. -/
def Deployment.compact (deployment : Deployment) : Deployment :=
  { deployment with
    metadata := deployment.metadata.compact
    spec := deployment.spec.map fun spec =>
      { spec with
        selector := { spec.selector with matchLabels := dropEmpty spec.selector.matchLabels }
        template :=
          { spec.template with
            metadata := spec.template.metadata.map ObjectMeta.compact
            spec := spec.template.spec.map PodSpec.compact } } }

/-- A Service as the cluster keeps it. -/
def Service.compact (service : Service) : Service :=
  { service with
    metadata := service.metadata.compact
    spec := service.spec.map fun spec =>
      { spec with ports := dropEmpty spec.ports, selector := dropEmpty spec.selector } }

/-- A certificate as the cluster keeps it. -/
def IngressTLS.compact (certificate : IngressTLS) : IngressTLS :=
  { certificate with hosts := dropEmpty certificate.hosts }

/-- An Ingress as the cluster keeps it. The paths of a rule have to be there. -/
def Ingress.compact (ingress : Ingress) : Ingress :=
  { ingress with
    metadata := ingress.metadata.compact
    spec := ingress.spec.map fun spec =>
      { spec with
        rules := dropEmpty spec.rules
        tls := dropEmptyIn IngressTLS.compact spec.tls }
    status := ingress.status.map fun status =>
      { status with
        loadBalancer := status.loadBalancer.map fun balancer =>
          { balancer with addresses := dropEmpty balancer.addresses } } }

/-- The objects of a gateway as the cluster keeps them. -/
def DesiredState.compact (desired : DesiredState) : DesiredState where
  deployment := desired.deployment.compact
  service := desired.service.compact
  ingress := desired.ingress.map Ingress.compact

/-! ### Collections that are not empty -/

/-- A collection that is left out when it is empty is not dropped. -/
theorem dropEmpty_ite {Items : Type} [Collection Items] (items : Items) :
    dropEmpty (if Collection.isEmpty items then none else some items) =
      if Collection.isEmpty items then none else some items := by
  split
  · rfl
  · next notEmpty => exact if_neg notEmpty

theorem dropEmpty_nonEmpty {Item : Type} [DecidableEq Item] (items : List Item) :
    dropEmpty (nonEmpty items) = nonEmpty items :=
  dropEmpty_ite items

theorem dropEmpty_versionAnnotations (secrets : ResolvedSecrets) :
    dropEmpty (versionAnnotations secrets) = versionAnnotations secrets :=
  dropEmpty_ite _

/-- A map with an entry is not empty. -/
theorem dropEmpty_insert {Value : Type} [DecidableEq Value] (map : Map Value) (name : String)
    (value : Value) : dropEmpty (some (map.insert name value)) = some (map.insert name value) := by
  have notEmpty : (Map.insertEntry name value map.entries).isEmpty = false := by
    cases map.entries with
    | nil => rfl
    | cons entry entries =>
      unfold Map.insertEntry
      split
      · rfl
      · split <;> rfl
  exact if_neg (Bool.eq_false_iff.mp notEmpty)

/-! ### What is desired -/

theorem dropEmpty_gatewayLabels (gatewayName : String) :
    dropEmpty (some (gatewayLabels gatewayName)) = some (gatewayLabels gatewayName) :=
  dropEmpty_insert _ _ _

theorem dropEmpty_selectorLabels (gatewayName : String) :
    dropEmpty (some (selectorLabels gatewayName)) = some (selectorLabels gatewayName) :=
  dropEmpty_insert _ _ _

theorem compact_childMetadata (gateway : Gateway) :
    gateway.childMetadata.compact = gateway.childMetadata := by
  unfold ObjectMeta.compact Gateway.childMetadata
  rw [dropEmpty_gatewayLabels]
  rfl

theorem compact_gatewayContainer (spec : GatewaySpec) (secrets : ResolvedSecrets) :
    (gatewayContainer spec secrets).compact = gatewayContainer spec secrets := by
  have mounts : dropEmpty (configurationMounts secrets) = configurationMounts secrets := by
    unfold configurationMounts
    cases secrets.embeddedConfig <;> rfl
  unfold Container.compact gatewayContainer
  rw [dropEmpty_nonEmpty, mounts]
  rfl

theorem dropEmptyIn_configurationVolumes (secrets : ResolvedSecrets) :
    dropEmptyIn Volume.compact (configurationVolumes secrets) = configurationVolumes secrets := by
  unfold configurationVolumes
  cases secrets.embeddedConfig <;> rfl

/-- The metadata of the pod template is read back as it was written. -/
theorem compact_templateMetadata (gatewayName : String) (secrets : ResolvedSecrets) :
    ObjectMeta.compact
        { labels := some (gatewayLabels gatewayName)
          annotations := versionAnnotations secrets } =
      { labels := some (gatewayLabels gatewayName)
        annotations := versionAnnotations secrets } := by
  unfold ObjectMeta.compact
  rw [dropEmpty_gatewayLabels, dropEmpty_versionAnnotations]
  rfl

/-- The desired Deployment is read back as it was written. -/
theorem compact_desiredDeployment (gateway : Gateway) (secrets : ResolvedSecrets) :
    (desiredDeployment gateway secrets).compact = desiredDeployment gateway secrets := by
  unfold Deployment.compact desiredDeployment
  simp only [Option.map_some, PodSpec.compact, List.map_cons, List.map_nil, compact_childMetadata,
    compact_templateMetadata, compact_gatewayContainer, dropEmptyIn_configurationVolumes,
    dropEmpty_selectorLabels]
  rfl

/-- The desired Service is read back as it was written. -/
theorem compact_desiredService (gateway : Gateway) :
    (desiredService gateway).compact = desiredService gateway := by
  unfold Service.compact desiredService
  simp only [Option.map_some, compact_childMetadata, dropEmpty_selectorLabels]
  rfl

/-- Of the desired Ingress only the certificates may be read back otherwise. -/
theorem compact_desiredIngress (gateway : Gateway) (exposedHost : ExposedHost) :
    (desiredIngress gateway exposedHost).compact =
      desiredIngress gateway
        { exposedHost with tls := dropEmptyIn IngressTLS.compact exposedHost.tls } := by
  unfold Ingress.compact desiredIngress
  simp only [Option.map_some, compact_childMetadata]
  rfl

/-! ### What the tables find -/

/-- A certificate is read back as it was written, unless it has an empty list of hosts. -/
theorem IngressTLS.compact_eq_self_iff (certificate : IngressTLS) :
    certificate.compact = certificate ↔ certificate.hosts ≠ some [] := by
  obtain ⟨hosts, secretName⟩ := certificate
  obtain _ | _ | ⟨host, hosts⟩ := hosts
  · exact iff_of_true rfl nofun
  · exact iff_of_false nofun (absurd rfl)
  · exact iff_of_true rfl nofun

theorem IngressTLS.hosts_compact_ne (certificate : IngressTLS) :
    certificate.compact.hosts ≠ some [] := by
  obtain ⟨_ | _ | ⟨host, hosts⟩, secretName⟩ := certificate <;> exact nofun

/-- Certificates are read back with the same members exactly when each of them is read back as it
was written: a certificate with an empty list of hosts is none of those that are read back. -/
theorem perm_map_compact_iff (certificates : List IngressTLS) :
    (certificates.map IngressTLS.compact).Perm certificates ↔
      ∀ certificate ∈ certificates, certificate.hosts ≠ some [] := by
  constructor
  · intro permuted certificate member noHosts
    obtain ⟨other, -, same⟩ := List.mem_map.mp (permuted.mem_iff.mpr member)
    rw [← same] at noHosts
    exact other.hosts_compact_ne noHosts
  · intro hosts
    have same : certificates.map IngressTLS.compact = certificates.map id :=
      List.map_congr_left fun certificate member =>
        certificate.compact_eq_self_iff.mpr (hosts certificate member)
    rw [same, List.map_id]

theorem getD_dropEmptyIn {Item : Type} [DecidableEq Item] (compact : Item → Item)
    (items : Option (List Item)) :
    (dropEmptyIn compact items).getD [] = (items.getD []).map compact := by
  obtain _ | _ | ⟨item, items⟩ := items <;> rfl

/-- Whether a user gave a certificate of a host an empty list of hosts. -/
def ExposedHost.listsNoHosts (exposedHost : ExposedHost) : Bool :=
  (exposedHost.tls.getD []).any fun certificate => certificate.hosts == some []

theorem ExposedHost.listsNoHosts_eq_false_iff (exposedHost : ExposedHost) :
    exposedHost.listsNoHosts = false ↔
      ∀ certificate ∈ exposedHost.tls.getD [], certificate.hosts ≠ some [] := by
  unfold ExposedHost.listsNoHosts
  simp only [List.any_eq_false, beq_iff_eq, ne_eq]

/-- Two Ingresses that are desired for one host differ in their certificates at most, and those are
all that the table replaces. -/
theorem reconcileFields_desiredIngress (gateway : Gateway) (exposedHost : ExposedHost)
    (tls : Option (List IngressTLS)) :
    reconcileFields (desiredIngress gateway exposedHost) Ingress.rules
        (desiredIngress gateway { exposedHost with tls }) =
      ⟨desiredIngress gateway
          { exposedHost with tls := (replaceCollection tls exposedHost.tls).value },
        if (replaceCollection tls exposedHost.tls).changed then ["spec.tls"] else []⟩ := by
  have routes : ∀ rule : IngressRule,
      appendMissingRules (some [rule]) (some [rule]) = .unchanged (some [rule]) := by
    intro rule
    simp [appendMissingRules, appendRules, appendRule, Merged.unchanged, Merged.map]
  simp only [Ingress.rules, reconcileFields, Ingress.routesRule, Ingress.certificatesRule,
    Ingress.mergeSpec, desiredIngress, Option.getD_some, Option.bind_some, routes, Merged.map,
    Merged.unchanged, Bool.false_eq_true, if_false]

/-- The table of an Ingress finds the certificates changed exactly when one of them lists no
hosts. -/
theorem changed_compact_desiredIngress (gateway : Gateway) (exposedHost : ExposedHost) :
    (reconcileFields (desiredIngress gateway exposedHost) Ingress.rules
        (desiredIngress gateway exposedHost).compact).changed =
      if exposedHost.listsNoHosts then ["spec.tls"] else [] := by
  have same : sameCollection (dropEmptyIn IngressTLS.compact exposedHost.tls) exposedHost.tls =
      !exposedHost.listsNoHosts := by
    rw [Bool.eq_iff_iff, sameCollection_iff_perm, getD_dropEmptyIn, perm_map_compact_iff,
      Bool.not_eq_true', ExposedHost.listsNoHosts_eq_false_iff]
  rw [compact_desiredIngress, reconcileFields_desiredIngress, replaceCollection_changed, same,
    Bool.not_not]

/-- What the tables find when the cluster has dropped all empty lists and maps from the objects of a
gateway, for every gateway, all Secrets and both policies: they find nothing changed, unless a user
gave a certificate an empty list of hosts. Then the table of the Ingress finds the certificates
changed. -/
theorem read_back_changes {gateway : Gateway} {secrets : ResolvedSecrets} (policy : ReplicaPolicy)
    {kind : Kind} {desired kept : kind.Object}
    (child : (desiredState gateway secrets).child? kind = some desired)
    (readBack : (desiredState gateway secrets).compact.child? kind = some kept) :
    (reconcileFields desired (kind.rules policy) kept).changed =
      if kind = .ingress ∧ gateway.spec.exposedHost.any ExposedHost.listsNoHosts = true then
        ["spec.tls"]
      else [] := by
  have unchanging : Unchanging policy kind desired desired := unchanging_self policy child
  cases kind with
  | deployment =>
    have same : kept = desiredDeployment gateway secrets :=
      (Option.some.inj readBack).symm.trans (compact_desiredDeployment gateway secrets)
    cases child
    rw [same, if_neg (fun found => nomatch found.1)]
    exact unchanging
  | service =>
    have same : kept = desiredService gateway :=
      (Option.some.inj readBack).symm.trans (compact_desiredService gateway)
    cases child
    rw [same, if_neg (fun found => nomatch found.1)]
    exact unchanging
  | ingress =>
    obtain ⟨exposedHost, exposed, rfl⟩ := Option.map_eq_some_iff.mp child
    have same : some (desiredIngress gateway exposedHost).compact = some kept := by
      rw [← readBack]
      show _ = (gateway.spec.exposedHost.map (desiredIngress gateway)).map Ingress.compact
      rw [exposed]
      rfl
    cases same
    rw [exposed]
    exact (changed_compact_desiredIngress gateway exposedHost).trans
      (if_congr (and_iff_right rfl).symm rfl rfl)
  | _ => cases child

/-- A gateway whose certificate lists some hosts. -/
def certifiedGateway (hosts : Option (List String)) : Gateway where
  metadata := { name := some "edge", namespaceName := some "default" }
  spec :=
    { replicas := some 2
      exposedHost := some
        { host := "api.example.com"
          tls := some [{ hosts, secretName := some "edge-certificate" }] } }

/-- A certificate with a host is found as it was written. -/
theorem listed_hosts_look_unchanged :
    ∃ desired kept,
      (desiredState (certifiedGateway (some ["api.example.com"])) {}).child? .ingress =
        some desired ∧
      (desiredState (certifiedGateway (some ["api.example.com"])) {}).compact.child? .ingress =
        some kept ∧
      (reconcileFields desired (Kind.ingress.rules .enforce) kept).changed = [] := by
  have child : (desiredState (certifiedGateway (some ["api.example.com"])) {}).child? .ingress =
    some _ := rfl
  have readBack :
    (desiredState (certifiedGateway (some ["api.example.com"])) {}).compact.child? .ingress =
      some _ := rfl
  have found := read_back_changes .enforce child readBack
  rw [if_neg (by decide)] at found
  exact ⟨_, _, child, readBack, found⟩

/-- A certificate with an empty list of hosts is not: the cluster drops the list, and the table
takes the certificate without it for another one. -/
theorem empty_hosts_look_changed :
    ∃ desired kept, (desiredState (certifiedGateway (some [])) {}).child? .ingress = some desired ∧
      (desiredState (certifiedGateway (some [])) {}).compact.child? .ingress = some kept ∧
      (reconcileFields desired (Kind.ingress.rules .enforce) kept).changed = ["spec.tls"] := by
  refine ⟨_, _, rfl, rfl, ?_⟩
  decide

end GatewayOperator
