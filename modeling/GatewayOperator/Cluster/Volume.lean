/-
This file holds the volumes of a pod. Those with the data of a Secret or a ConfigMap and those that
start empty have fields; the other sources of a volume are handed on as they are.
-/

import GatewayOperator.Cluster.Metadata

namespace GatewayOperator

/-- A field of the pod itself. -/
structure ObjectFieldSelector where
  apiVersion : Option String := none
  fieldPath : String := ""
  deriving DecidableEq, Inhabited

/-- The JSON form of `ObjectFieldSelector`. -/
def ObjectFieldSelector.codec : Codec ObjectFieldSelector :=
  Codec.object "ObjectFieldSelector"
    (.cons (Member.optional "apiVersion" Codec.text) <|
     .cons (Member.filled "fieldPath" Codec.text "") .nil)
    (fun record => (record.apiVersion, record.fieldPath, ()))
    (fun (apiVersion, fieldPath, ()) =>
      { apiVersion, fieldPath })

theorem ObjectFieldSelector.codec_lawful : ObjectFieldSelector.codec.Lawful :=
  Codec.object_lawful ⟨Member.optional_lawful Codec.text_lawful,
    Member.filled_lawful Codec.text_lawful, trivial⟩
    (by decide) (fun _ => rfl)

/-- A resource of a container. -/
def Format.resourceFieldSelector : Format :=
  .record "ResourceFieldSelector"
    [.optional "containerName" .text, .optional "divisor" .text, .filled "resource" .text]

/-- A key of a Secret or a ConfigMap as a file of a volume. -/
structure KeyToPath where
  key : String := ""
  mode : Option Int32 := none
  path : String := ""
  deriving DecidableEq, Inhabited

/-- The JSON form of `KeyToPath`. -/
def KeyToPath.codec : Codec KeyToPath :=
  Codec.object "KeyToPath"
    (.cons (Member.filled "key" Codec.text "") <|
     .cons (Member.optional "mode" Codec.int32) <|
     .cons (Member.filled "path" Codec.text "") .nil)
    (fun record => (record.key, record.mode, record.path, ()))
    (fun (key, mode, path, ()) =>
      { key, mode, path })

theorem KeyToPath.codec_lawful : KeyToPath.codec.Lawful :=
  Codec.object_lawful ⟨Member.filled_lawful Codec.text_lawful,
    Member.optional_lawful Codec.int32_lawful, Member.filled_lawful Codec.text_lawful, trivial⟩
    (by decide) (fun _ => rfl)

/-- A volume with the data of a Secret. -/
structure SecretVolumeSource where
  defaultMode : Option Int32 := none
  items : Option (List KeyToPath) := none
  isOptional : Option Bool := none
  secretName : Option String := none
  deriving DecidableEq, Inhabited

/-- The JSON form of `SecretVolumeSource`. -/
def SecretVolumeSource.codec : Codec SecretVolumeSource :=
  Codec.object "SecretVolumeSource"
    (.cons (Member.optional "defaultMode" Codec.int32) <|
     .cons (Member.optional "items" (Codec.list KeyToPath.codec)) <|
     .cons (Member.optional "optional" Codec.boolean) <|
     .cons (Member.optional "secretName" Codec.text) .nil)
    (fun record => (record.defaultMode, record.items, record.isOptional, record.secretName, ()))
    (fun (defaultMode, items, isOptional, secretName, ()) =>
      { defaultMode, items, isOptional, secretName })

theorem SecretVolumeSource.codec_lawful : SecretVolumeSource.codec.Lawful :=
  Codec.object_lawful ⟨Member.optional_lawful Codec.int32_lawful,
    Member.optional_lawful (Codec.list_lawful KeyToPath.codec_lawful),
    Member.optional_lawful Codec.boolean_lawful, Member.optional_lawful Codec.text_lawful,
    trivial⟩
    (by decide) (fun _ => rfl)

/-- A volume with the data of a ConfigMap. -/
structure ConfigMapVolumeSource where
  defaultMode : Option Int32 := none
  items : Option (List KeyToPath) := none
  name : String := ""
  isOptional : Option Bool := none
  deriving DecidableEq, Inhabited

/-- The JSON form of `ConfigMapVolumeSource`. -/
def ConfigMapVolumeSource.codec : Codec ConfigMapVolumeSource :=
  Codec.object "ConfigMapVolumeSource"
    (.cons (Member.optional "defaultMode" Codec.int32) <|
     .cons (Member.optional "items" (Codec.list KeyToPath.codec)) <|
     .cons (Member.filled "name" Codec.text "") <|
     .cons (Member.optional "optional" Codec.boolean) .nil)
    (fun record => (record.defaultMode, record.items, record.name, record.isOptional, ()))
    (fun (defaultMode, items, name, isOptional, ()) =>
      { defaultMode, items, name, isOptional })

theorem ConfigMapVolumeSource.codec_lawful : ConfigMapVolumeSource.codec.Lawful :=
  Codec.object_lawful ⟨Member.optional_lawful Codec.int32_lawful,
    Member.optional_lawful (Codec.list_lawful KeyToPath.codec_lawful),
    Member.filled_lawful Codec.text_lawful, Member.optional_lawful Codec.boolean_lawful, trivial⟩
    (by decide) (fun _ => rfl)

/-- A volume that starts empty. -/
structure EmptyDirVolumeSource where
  medium : Option String := none
  sizeLimit : Option String := none
  deriving DecidableEq, Inhabited

/-- The JSON form of `EmptyDirVolumeSource`. -/
def EmptyDirVolumeSource.codec : Codec EmptyDirVolumeSource :=
  Codec.object "EmptyDirVolumeSource"
    (.cons (Member.optional "medium" Codec.text) <|
     .cons (Member.optional "sizeLimit" Codec.text) .nil)
    (fun record => (record.medium, record.sizeLimit, ()))
    (fun (medium, sizeLimit, ()) =>
      { medium, sizeLimit })

theorem EmptyDirVolumeSource.codec_lawful : EmptyDirVolumeSource.codec.Lawful :=
  Codec.object_lawful ⟨Member.optional_lawful Codec.text_lawful,
    Member.optional_lawful Codec.text_lawful, trivial⟩
    (by decide) (fun _ => rfl)

/-! ### Other sources -/

namespace Format

/-- Keys as files of a volume. -/
def keysToPaths : Format := .list (.of KeyToPath.codec_lawful)

/-- A disk of a provider by its identity. -/
def disk (name identity : String)
    (distinct : (Layout.members [.optional "fsType" .text, .optional "partition" .int32,
      .filled identity .text, .optional "readOnly" .boolean]).names.Nodup := by decide) : Format :=
  .record name
    [.optional "fsType" .text, .optional "partition" .int32, .filled identity .text,
      .optional "readOnly" .boolean] distinct

/-- Fields of the pod as files of a volume. -/
def downwardAPIFiles : Format :=
  .list (.record "DownwardAPIVolumeFile"
    [.optional "fieldRef" (.of ObjectFieldSelector.codec_lawful), .optional "mode" .int32,
      .filled "path" .text, .optional "resourceFieldRef" resourceFieldSelector])

/-- What is wanted of a volume that is claimed. -/
def persistentVolumeClaimSpec : Format :=
  .record "PersistentVolumeClaimSpec"
    [.optional "accessModes" (.list .text), .optional "dataSource" typedLocalObjectReference,
      .optional "dataSourceRef" (.record "TypedObjectReference"
        [.optional "apiGroup" .text, .filled "kind" .text, .filled "name" .text,
          .optional "namespace" .text]),
      .optional "resources" (.record "VolumeResourceRequirements"
        [.optional "limits" .labels, .optional "requests" .labels]),
      .optional "selector" labelSelector, .optional "storageClassName" .text,
      .optional "volumeAttributesClassName" .text, .optional "volumeMode" .text,
      .optional "volumeName" .text]

/-- A part of a volume that is made of several. -/
def volumeProjection : Format :=
  .record "VolumeProjection"
    [.optional "clusterTrustBundle" (.record "ClusterTrustBundleProjection"
        [.optional "labelSelector" labelSelector, .optional "name" .text,
          .optional "optional" .boolean, .filled "path" .text, .optional "signerName" .text]),
      .optional "configMap" (.record "ConfigMapProjection"
        [.optional "items" keysToPaths, .filled "name" .text, .optional "optional" .boolean]),
      .optional "downwardAPI" (.record "DownwardAPIProjection"
        [.optional "items" downwardAPIFiles]),
      .optional "secret" (.record "SecretProjection"
        [.optional "items" keysToPaths, .filled "name" .text, .optional "optional" .boolean]),
      .optional "serviceAccountToken" (.record "ServiceAccountTokenProjection"
        [.optional "audience" .text, .optional "expirationSeconds" .int64,
          .filled "path" .text])]

end Format

/-- The sources of a volume that the operator does not use. -/
def Volume.layout : Layout :=
  [.optional "awsElasticBlockStore" (.disk "AWSElasticBlockStoreVolumeSource" "volumeID"),
    .optional "azureDisk" (.record "AzureDiskVolumeSource"
      [.optional "cachingMode" .text, .filled "diskName" .text, .filled "diskURI" .text,
        .optional "fsType" .text, .optional "kind" .text, .optional "readOnly" .boolean]),
    .optional "azureFile" (.record "AzureFileVolumeSource"
      [.optional "readOnly" .boolean, .filled "secretName" .text, .filled "shareName" .text]),
    .optional "cephfs" (.record "CephFSVolumeSource"
      [.filled "monitors" (.list .text), .optional "path" .text, .optional "readOnly" .boolean,
        .optional "secretFile" .text, .optional "secretRef" .localObjectReference,
        .optional "user" .text]),
    .optional "cinder" (.record "CinderVolumeSource"
      [.optional "fsType" .text, .optional "readOnly" .boolean,
        .optional "secretRef" .localObjectReference, .filled "volumeID" .text]),
    .optional "csi" (.record "CSIVolumeSource"
      [.filled "driver" .text, .optional "fsType" .text,
        .optional "nodePublishSecretRef" .localObjectReference, .optional "readOnly" .boolean,
        .optional "volumeAttributes" .labels]),
    .optional "downwardAPI" (.record "DownwardAPIVolumeSource"
      [.optional "defaultMode" .int32, .optional "items" .downwardAPIFiles]),
    .optional "ephemeral" (.record "EphemeralVolumeSource"
      [.optional "volumeClaimTemplate" (.record "PersistentVolumeClaimTemplate"
        [.optional "metadata" (.of ObjectMeta.codec_lawful),
          .filled "spec" .persistentVolumeClaimSpec])]),
    .optional "fc" (.record "FCVolumeSource"
      [.optional "fsType" .text, .optional "lun" .int32, .optional "readOnly" .boolean,
        .optional "targetWWNs" (.list .text), .optional "wwids" (.list .text)]),
    .optional "flexVolume" (.record "FlexVolumeSource"
      [.filled "driver" .text, .optional "fsType" .text, .optional "options" .labels,
        .optional "readOnly" .boolean, .optional "secretRef" .localObjectReference]),
    .optional "flocker" (.record "FlockerVolumeSource"
      [.optional "datasetName" .text, .optional "datasetUUID" .text]),
    .optional "gcePersistentDisk" (.disk "GCEPersistentDiskVolumeSource" "pdName"),
    .optional "gitRepo" (.record "GitRepoVolumeSource"
      [.optional "directory" .text, .filled "repository" .text, .optional "revision" .text]),
    .optional "glusterfs" (.record "GlusterfsVolumeSource"
      [.filled "endpoints" .text, .filled "path" .text, .optional "readOnly" .boolean]),
    .optional "hostPath" (.record "HostPathVolumeSource"
      [.filled "path" .text, .optional "type" .text]),
    .optional "image" (.record "ImageVolumeSource"
      [.optional "pullPolicy" .text, .optional "reference" .text]),
    .optional "iscsi" (.record "ISCSIVolumeSource"
      [.optional "chapAuthDiscovery" .boolean, .optional "chapAuthSession" .boolean,
        .optional "fsType" .text, .optional "initiatorName" .text, .filled "iqn" .text,
        .optional "iscsiInterface" .text, .filled "lun" .int32,
        .optional "portals" (.list .text), .optional "readOnly" .boolean,
        .optional "secretRef" .localObjectReference, .filled "targetPortal" .text]),
    .optional "nfs" (.record "NFSVolumeSource"
      [.filled "path" .text, .optional "readOnly" .boolean, .filled "server" .text]),
    .optional "persistentVolumeClaim" (.record "PersistentVolumeClaimVolumeSource"
      [.filled "claimName" .text, .optional "readOnly" .boolean]),
    .optional "photonPersistentDisk" (.record "PhotonPersistentDiskVolumeSource"
      [.optional "fsType" .text, .filled "pdID" .text]),
    .optional "portworxVolume" (.record "PortworxVolumeSource"
      [.optional "fsType" .text, .optional "readOnly" .boolean, .filled "volumeID" .text]),
    .optional "projected" (.record "ProjectedVolumeSource"
      [.optional "defaultMode" .int32, .optional "sources" (.list .volumeProjection)]),
    .optional "quobyte" (.record "QuobyteVolumeSource"
      [.optional "group" .text, .optional "readOnly" .boolean, .filled "registry" .text,
        .optional "tenant" .text, .optional "user" .text, .filled "volume" .text]),
    .optional "rbd" (.record "RBDVolumeSource"
      [.optional "fsType" .text, .filled "image" .text, .optional "keyring" .text,
        .filled "monitors" (.list .text), .optional "pool" .text, .optional "readOnly" .boolean,
        .optional "secretRef" .localObjectReference, .optional "user" .text]),
    .optional "scaleIO" (.record "ScaleIOVolumeSource"
      [.optional "fsType" .text, .filled "gateway" .text, .optional "protectionDomain" .text,
        .optional "readOnly" .boolean, .filled "secretRef" .localObjectReference,
        .optional "sslEnabled" .boolean, .optional "storageMode" .text,
        .optional "storagePool" .text, .filled "system" .text, .optional "volumeName" .text]),
    .optional "storageos" (.record "StorageOSVolumeSource"
      [.optional "fsType" .text, .optional "readOnly" .boolean,
        .optional "secretRef" .localObjectReference, .optional "volumeName" .text,
        .optional "volumeNamespace" .text]),
    .optional "vsphereVolume" (.record "VsphereVirtualDiskVolumeSource"
      [.optional "fsType" .text, .optional "storagePolicyID" .text,
        .optional "storagePolicyName" .text, .filled "volumePath" .text])]

/-- A volume of a pod. -/
structure Volume where
  configMap : Option ConfigMapVolumeSource := none
  emptyDir : Option EmptyDirVolumeSource := none
  name : String := ""
  secret : Option SecretVolumeSource := none
  others : Volume.layout.Tuple := Volume.layout.blank
  deriving DecidableEq, Inhabited

/-- The JSON form of `Volume`. -/
def Volume.codec : Codec Volume :=
  Codec.object "Volume"
    (.cons (Member.optional "configMap" ConfigMapVolumeSource.codec) <|
     .cons (Member.optional "emptyDir" EmptyDirVolumeSource.codec) <|
     .cons (Member.filled "name" Codec.text "") <|
     .cons (Member.optional "secret" SecretVolumeSource.codec) Volume.layout.members)
    (fun record => (record.configMap, record.emptyDir, record.name, record.secret, record.others))
    (fun (configMap, emptyDir, name, secret, others) =>
      { configMap, emptyDir, name, secret, others })

theorem Volume.codec_lawful : Volume.codec.Lawful :=
  Codec.object_lawful ⟨Member.optional_lawful ConfigMapVolumeSource.codec_lawful,
    Member.optional_lawful EmptyDirVolumeSource.codec_lawful,
    Member.filled_lawful Codec.text_lawful,
    Member.optional_lawful SecretVolumeSource.codec_lawful, Volume.layout.members_lawful⟩
    (by decide) (fun _ => rfl)

end GatewayOperator
