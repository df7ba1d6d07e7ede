import SessionOperator.Kubernetes.Meta

/-!
# Volumes

Schemas of volumes, of the sources that they come from, of the claims on persistent storage and of the places where
a container mounts them.
-/

namespace SessionOperator

namespace Kubernetes

open Schema (opt req quantity texts textDict)

def objectFieldSelector : Schema := .record "ObjectFieldSelector" [
  ("apiVersion", opt .text), ("fieldPath", req .text)]

def resourceFieldSelector : Schema := .record "ResourceFieldSelector" [
  ("containerName", opt .text), ("divisor", opt quantity), ("resource", req .text)]

def volumeDevice : Schema := .record "VolumeDevice" [("devicePath", req .text), ("name", req .text)]

def volumeMount : Schema := .record "VolumeMount" [
  ("mountPath", req .text), ("mountPropagation", opt .text), ("name", req .text), ("readOnly", opt .flag),
  ("recursiveReadOnly", opt .text), ("subPath", opt .text), ("subPathExpr", opt .text)]

def awsElasticBlockStoreVolumeSource : Schema := .record "AWSElasticBlockStoreVolumeSource" [
  ("fsType", opt .text), ("partition", opt .int32), ("readOnly", opt .flag), ("volumeID", req .text)]

def azureDiskVolumeSource : Schema := .record "AzureDiskVolumeSource" [
  ("cachingMode", opt .text), ("diskName", req .text), ("diskURI", req .text), ("fsType", opt .text),
  ("kind", opt .text), ("readOnly", opt .flag)]

def azureFileVolumeSource : Schema := .record "AzureFileVolumeSource" [
  ("readOnly", opt .flag), ("secretName", req .text), ("shareName", req .text)]

def cephFSVolumeSource : Schema := .record "CephFSVolumeSource" [
  ("monitors", req texts), ("path", opt .text), ("readOnly", opt .flag), ("secretFile", opt .text),
  ("secretRef", opt localObjectReference), ("user", opt .text)]

def cinderVolumeSource : Schema := .record "CinderVolumeSource" [
  ("fsType", opt .text), ("readOnly", opt .flag), ("secretRef", opt localObjectReference),
  ("volumeID", req .text)]

def keyToPath : Schema := .record "KeyToPath" [("key", req .text), ("mode", opt .int32), ("path", req .text)]

def configMapVolumeSource : Schema := .record "ConfigMapVolumeSource" [
  ("defaultMode", opt .int32), ("items", opt (.list keyToPath)), ("name", req .text), ("optional", opt .flag)]

def csiVolumeSource : Schema := .record "CSIVolumeSource" [
  ("driver", req .text), ("fsType", opt .text), ("nodePublishSecretRef", opt localObjectReference),
  ("readOnly", opt .flag), ("volumeAttributes", opt textDict)]

def downwardAPIVolumeFile : Schema := .record "DownwardAPIVolumeFile" [
  ("fieldRef", opt objectFieldSelector), ("mode", opt .int32), ("path", req .text),
  ("resourceFieldRef", opt resourceFieldSelector)]

def downwardAPIVolumeSource : Schema := .record "DownwardAPIVolumeSource" [
  ("defaultMode", opt .int32), ("items", opt (.list downwardAPIVolumeFile))]

def emptyDirVolumeSource : Schema := .record "EmptyDirVolumeSource" [
  ("medium", opt .text), ("sizeLimit", opt quantity)]

def volumeResourceRequirements : Schema := .record "VolumeResourceRequirements" [
  ("limits", opt (.dict quantity)), ("requests", opt (.dict quantity))]

def persistentVolumeClaimSpec : Schema := .record "PersistentVolumeClaimSpec" [
  ("accessModes", opt texts), ("dataSource", opt typedLocalObjectReference),
  ("dataSourceRef", opt typedObjectReference), ("resources", opt volumeResourceRequirements),
  ("selector", opt labelSelector), ("storageClassName", opt .text), ("volumeAttributesClassName", opt .text),
  ("volumeMode", opt .text), ("volumeName", opt .text)]

def persistentVolumeClaimTemplate : Schema := .record "PersistentVolumeClaimTemplate" [
  ("metadata", opt objectMeta), ("spec", req persistentVolumeClaimSpec)]

def ephemeralVolumeSource : Schema := .record "EphemeralVolumeSource" [
  ("volumeClaimTemplate", opt persistentVolumeClaimTemplate)]

def fcVolumeSource : Schema := .record "FCVolumeSource" [
  ("fsType", opt .text), ("lun", opt .int32), ("readOnly", opt .flag), ("targetWWNs", opt texts),
  ("wwids", opt texts)]

def flexVolumeSource : Schema := .record "FlexVolumeSource" [
  ("driver", req .text), ("fsType", opt .text), ("options", opt textDict), ("readOnly", opt .flag),
  ("secretRef", opt localObjectReference)]

def flockerVolumeSource : Schema := .record "FlockerVolumeSource" [
  ("datasetName", opt .text), ("datasetUUID", opt .text)]

def gcePersistentDiskVolumeSource : Schema := .record "GCEPersistentDiskVolumeSource" [
  ("fsType", opt .text), ("partition", opt .int32), ("pdName", req .text), ("readOnly", opt .flag)]

def gitRepoVolumeSource : Schema := .record "GitRepoVolumeSource" [
  ("directory", opt .text), ("repository", req .text), ("revision", opt .text)]

def glusterfsVolumeSource : Schema := .record "GlusterfsVolumeSource" [
  ("endpoints", req .text), ("path", req .text), ("readOnly", opt .flag)]

def hostPathVolumeSource : Schema := .record "HostPathVolumeSource" [("path", req .text), ("type", opt .text)]

def imageVolumeSource : Schema := .record "ImageVolumeSource" [("pullPolicy", opt .text), ("reference", opt .text)]

def iscsiVolumeSource : Schema := .record "ISCSIVolumeSource" [
  ("chapAuthDiscovery", opt .flag), ("chapAuthSession", opt .flag), ("fsType", opt .text),
  ("initiatorName", opt .text), ("iqn", req .text), ("iscsiInterface", opt .text), ("lun", req .int32),
  ("portals", opt texts), ("readOnly", opt .flag), ("secretRef", opt localObjectReference),
  ("targetPortal", req .text)]

def nfsVolumeSource : Schema := .record "NFSVolumeSource" [
  ("path", req .text), ("readOnly", opt .flag), ("server", req .text)]

def persistentVolumeClaimVolumeSource : Schema := .record "PersistentVolumeClaimVolumeSource" [
  ("claimName", req .text), ("readOnly", opt .flag)]

def photonPersistentDiskVolumeSource : Schema := .record "PhotonPersistentDiskVolumeSource" [
  ("fsType", opt .text), ("pdID", req .text)]

def portworxVolumeSource : Schema := .record "PortworxVolumeSource" [
  ("fsType", opt .text), ("readOnly", opt .flag), ("volumeID", req .text)]

def clusterTrustBundleProjection : Schema := .record "ClusterTrustBundleProjection" [
  ("labelSelector", opt labelSelector), ("name", opt .text), ("optional", opt .flag), ("path", req .text),
  ("signerName", opt .text)]

def configMapProjection : Schema := .record "ConfigMapProjection" [
  ("items", opt (.list keyToPath)), ("name", req .text), ("optional", opt .flag)]

def downwardAPIProjection : Schema := .record "DownwardAPIProjection" [("items", opt (.list downwardAPIVolumeFile))]

def secretProjection : Schema := .record "SecretProjection" [
  ("items", opt (.list keyToPath)), ("name", req .text), ("optional", opt .flag)]

def serviceAccountTokenProjection : Schema := .record "ServiceAccountTokenProjection" [
  ("audience", opt .text), ("expirationSeconds", opt .int64), ("path", req .text)]

def volumeProjection : Schema := .record "VolumeProjection" [
  ("clusterTrustBundle", opt clusterTrustBundleProjection), ("configMap", opt configMapProjection),
  ("downwardAPI", opt downwardAPIProjection), ("secret", opt secretProjection),
  ("serviceAccountToken", opt serviceAccountTokenProjection)]

def projectedVolumeSource : Schema := .record "ProjectedVolumeSource" [
  ("defaultMode", opt .int32), ("sources", opt (.list volumeProjection))]

def quobyteVolumeSource : Schema := .record "QuobyteVolumeSource" [
  ("group", opt .text), ("readOnly", opt .flag), ("registry", req .text), ("tenant", opt .text),
  ("user", opt .text), ("volume", req .text)]

def rbdVolumeSource : Schema := .record "RBDVolumeSource" [
  ("fsType", opt .text), ("image", req .text), ("keyring", opt .text), ("monitors", req texts),
  ("pool", opt .text), ("readOnly", opt .flag), ("secretRef", opt localObjectReference), ("user", opt .text)]

def scaleIOVolumeSource : Schema := .record "ScaleIOVolumeSource" [
  ("fsType", opt .text), ("gateway", req .text), ("protectionDomain", opt .text), ("readOnly", opt .flag),
  ("secretRef", req localObjectReference), ("sslEnabled", opt .flag), ("storageMode", opt .text),
  ("storagePool", opt .text), ("system", req .text), ("volumeName", opt .text)]

def secretVolumeSource : Schema := .record "SecretVolumeSource" [
  ("defaultMode", opt .int32), ("items", opt (.list keyToPath)), ("optional", opt .flag),
  ("secretName", opt .text)]

def storageOSVolumeSource : Schema := .record "StorageOSVolumeSource" [
  ("fsType", opt .text), ("readOnly", opt .flag), ("secretRef", opt localObjectReference),
  ("volumeName", opt .text), ("volumeNamespace", opt .text)]

def vsphereVirtualDiskVolumeSource : Schema := .record "VsphereVirtualDiskVolumeSource" [
  ("fsType", opt .text), ("storagePolicyID", opt .text), ("storagePolicyName", opt .text),
  ("volumePath", req .text)]

def volume : Schema := .record "Volume" [
  ("awsElasticBlockStore", opt awsElasticBlockStoreVolumeSource), ("azureDisk", opt azureDiskVolumeSource),
  ("azureFile", opt azureFileVolumeSource), ("cephfs", opt cephFSVolumeSource),
  ("cinder", opt cinderVolumeSource), ("configMap", opt configMapVolumeSource), ("csi", opt csiVolumeSource),
  ("downwardAPI", opt downwardAPIVolumeSource), ("emptyDir", opt emptyDirVolumeSource),
  ("ephemeral", opt ephemeralVolumeSource), ("fc", opt fcVolumeSource), ("flexVolume", opt flexVolumeSource),
  ("flocker", opt flockerVolumeSource), ("gcePersistentDisk", opt gcePersistentDiskVolumeSource),
  ("gitRepo", opt gitRepoVolumeSource), ("glusterfs", opt glusterfsVolumeSource),
  ("hostPath", opt hostPathVolumeSource), ("image", opt imageVolumeSource), ("iscsi", opt iscsiVolumeSource),
  ("name", req .text), ("nfs", opt nfsVolumeSource),
  ("persistentVolumeClaim", opt persistentVolumeClaimVolumeSource),
  ("photonPersistentDisk", opt photonPersistentDiskVolumeSource), ("portworxVolume", opt portworxVolumeSource),
  ("projected", opt projectedVolumeSource), ("quobyte", opt quobyteVolumeSource), ("rbd", opt rbdVolumeSource),
  ("scaleIO", opt scaleIOVolumeSource), ("secret", opt secretVolumeSource),
  ("storageos", opt storageOSVolumeSource), ("vsphereVolume", opt vsphereVirtualDiskVolumeSource)]

def persistentVolumeClaimCondition : Schema := .record "PersistentVolumeClaimCondition" [
  ("lastProbeTime", opt .time), ("lastTransitionTime", opt .time), ("message", opt .text), ("reason", opt .text),
  ("status", req .text), ("type", req .text)]

def modifyVolumeStatus : Schema := .record "ModifyVolumeStatus" [
  ("status", req .text), ("targetVolumeAttributesClassName", opt .text)]

def persistentVolumeClaimStatus : Schema := .record "PersistentVolumeClaimStatus" [
  ("accessModes", opt texts), ("allocatedResourceStatuses", opt textDict),
  ("allocatedResources", opt (.dict quantity)), ("capacity", opt (.dict quantity)),
  ("conditions", opt (.list persistentVolumeClaimCondition)), ("currentVolumeAttributesClassName", opt .text),
  ("modifyVolumeStatus", opt modifyVolumeStatus), ("phase", opt .text)]

def persistentVolumeClaim : Schema := .record "PersistentVolumeClaim" [
  ("apiVersion", req (.constant "v1")), ("kind", req (.constant "PersistentVolumeClaim")),
  ("metadata", req objectMeta), ("spec", opt persistentVolumeClaimSpec),
  ("status", opt persistentVolumeClaimStatus)]

end Kubernetes

end SessionOperator
