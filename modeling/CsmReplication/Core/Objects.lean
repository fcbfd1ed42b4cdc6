import CsmReplication.Core.Strings

/-!
# Replication groups and the objects around them

The fields of `DellCSIReplicationGroup` and of the Kubernetes objects that the controller reads
or writes, as far as the controller reads or writes them; the keys and values of the annotation
protocol; and the finalizer and annotation helpers of the `controllers` package.

The annotation keys, the `Self` sentinel and the helpers live in packages outside this
repository. Each is modelled from the spec, and only the distinctness of the keys matters to the
controller.
-/

namespace CsmReplication

/-! ## Keys of the annotation protocol -/

/-- Modelled from the spec: the `RemoteReplicationGroup` annotation key. -/
def remoteReplicationGroup : String := "RemoteReplicationGroup"

/-- Modelled from the spec: the `RGSyncComplete` annotation key. -/
def rgSyncComplete : String := "RGSyncComplete"

/-- Modelled from the spec: the `RemoteRGRetentionPolicy` annotation key. -/
def remoteRGRetentionPolicy : String := "RemoteRGRetentionPolicy"

/-- Modelled from the spec: the `DeletionRequested` annotation key. -/
def deletionRequested : String := "DeletionRequested"

/-- Modelled from the spec: the `ActionProcessedTime` annotation key. -/
def actionProcessedTime : String := "ActionProcessedTime"

/-- Modelled from the spec: the `RemoteClusterID` annotation and label key. -/
def remoteClusterID : String := "RemoteClusterID"

/-- Modelled from the spec: the `ContextPrefix` annotation key. -/
def contextPrefix : String := "ContextPrefix"

/-- Modelled from the spec: the driver-name label key. -/
def driverName : String := "DriverName"

/-- Modelled from the spec: the snapshot-class override annotation key. -/
def snapshotClass : String := "SnapshotClass"

/-- Modelled from the spec: the annotation key of the action payload (`csireplicator.Action`). -/
def action : String := "Action"

/-- Modelled from the spec: the label that ties a volume claim to its replication group. -/
def replicationGroup : String := "ReplicationGroup"

/-- Modelled from the spec: the storage-class parameter that says replication is enabled. -/
def storageClassReplicationParam : String := "StorageClassReplicationParam"

/-- Modelled from the spec: the finalizer the controller puts on a replication group. -/
def rgFinalizer : String := "RGFinalizer"

/-- Modelled from the spec: the cluster ID that means "this same cluster". -/
def self : String := "self"

/-- Modelled from the spec: the name prefix of a mirror in single-cluster mode. -/
def replicated : String := "replicated"

/-- Modelled from the spec: the retention-policy value that deletes the remote mirror. -/
def remoteRetentionValueDelete : String := "delete"

/-- Modelled from the spec: the retention-policy value that keeps it, the default. -/
def remoteRetentionValueRetain : String := "retain"

/-! ## Replication groups -/

/-- The `LastAction` of a replication group's status. Its time is kept as the text of
`Time.String()`, the only form in which the controller reads it. -/
structure LastAction where
  condition : String
  actionAttributes : StringMap
  errorMessage : String
  time : Option String
  deriving DecidableEq

structure DellCSIReplicationGroupSpec where
  driverName : String
  action : String
  remoteClusterId : String
  protectionGroupId : String
  protectionGroupAttributes : StringMap
  remoteProtectionGroupId : String
  remoteProtectionGroupAttributes : StringMap
  deriving DecidableEq

/-- The status fields the controller reads; only whether `conditions` is empty matters. -/
structure DellCSIReplicationGroupStatus where
  conditions : List String
  lastAction : LastAction
  deriving DecidableEq

/-- A `DellCSIReplicationGroup`. `deleting` says whether its deletion timestamp is set. -/
structure DellCSIReplicationGroup where
  name : String
  annotations : StringMap
  labels : StringMap
  finalizers : List String
  deleting : Bool
  spec : DellCSIReplicationGroupSpec
  status : DellCSIReplicationGroupStatus
  deriving DecidableEq

/-- The status of a freshly built replication group. -/
def DellCSIReplicationGroupStatus.empty : DellCSIReplicationGroupStatus :=
  ⟨[], ⟨"", ∅, "", none⟩⟩

namespace DellCSIReplicationGroup

/-- Modelled from the spec: `controller.AddAnnotation`. -/
def annotate (rg : DellCSIReplicationGroup) (k v : String) : DellCSIReplicationGroup :=
  { rg with annotations := rg.annotations.set k v }

/-- Modelled from the spec: `controller.AddFinalizerIfNotExist`, with whether it added it. -/
def addFinalizerIfNotExist (rg : DellCSIReplicationGroup) (f : String) :
    DellCSIReplicationGroup × Bool :=
  if f ∈ rg.finalizers then (rg, false) else ({ rg with finalizers := rg.finalizers ++ [f] }, true)

/-- Modelled from the spec: `controller.RemoveFinalizerIfExists`, with whether it removed it. -/
def removeFinalizerIfExists (rg : DellCSIReplicationGroup) (f : String) :
    DellCSIReplicationGroup × Bool :=
  if f ∈ rg.finalizers then ({ rg with finalizers := rg.finalizers.erase f }, true) else (rg, false)

@[simp] theorem annotate_name (rg : DellCSIReplicationGroup) (k v : String) :
    (rg.annotate k v).name = rg.name := rfl

@[simp] theorem annotate_spec (rg : DellCSIReplicationGroup) (k v : String) :
    (rg.annotate k v).spec = rg.spec := rfl

@[simp] theorem annotate_status (rg : DellCSIReplicationGroup) (k v : String) :
    (rg.annotate k v).status = rg.status := rfl

@[simp] theorem annotate_finalizers (rg : DellCSIReplicationGroup) (k v : String) :
    (rg.annotate k v).finalizers = rg.finalizers := rfl

@[simp] theorem annotate_deleting (rg : DellCSIReplicationGroup) (k v : String) :
    (rg.annotate k v).deleting = rg.deleting := rfl

@[simp] theorem annotate_annotations (rg : DellCSIReplicationGroup) (k v : String) :
    (rg.annotate k v).annotations = rg.annotations.set k v := rfl

theorem addFinalizerIfNotExist_of_mem {rg : DellCSIReplicationGroup} {f : String}
    (h : f ∈ rg.finalizers) : rg.addFinalizerIfNotExist f = (rg, false) := by
  simp [addFinalizerIfNotExist, h]

theorem addFinalizerIfNotExist_of_not_mem {rg : DellCSIReplicationGroup} {f : String}
    (h : f ∉ rg.finalizers) :
    rg.addFinalizerIfNotExist f = ({ rg with finalizers := rg.finalizers ++ [f] }, true) := by
  simp [addFinalizerIfNotExist, h]

theorem removeFinalizerIfExists_of_mem {rg : DellCSIReplicationGroup} {f : String}
    (h : f ∈ rg.finalizers) :
    rg.removeFinalizerIfExists f = ({ rg with finalizers := rg.finalizers.erase f }, true) := by
  simp [removeFinalizerIfExists, h]

theorem removeFinalizerIfExists_of_not_mem {rg : DellCSIReplicationGroup} {f : String}
    (h : f ∉ rg.finalizers) : rg.removeFinalizerIfExists f = (rg, false) := by
  simp [removeFinalizerIfExists, h]

end DellCSIReplicationGroup

/-! ## Objects of the snapshot workflow -/

structure Namespace where
  name : String
  deriving DecidableEq

structure VolumeSnapshotClass where
  name : String
  driver : String
  deletionPolicy : String
  deriving DecidableEq

structure ObjectReference where
  kind : String
  apiVersion : String
  name : String
  «namespace» : String
  deriving DecidableEq

structure VolumeSnapshotContent where
  name : String
  volumeSnapshotRef : ObjectReference
  snapshotHandle : String
  volumeSnapshotClassName : String
  deletionPolicy : String
  driver : String
  deriving DecidableEq

structure VolumeSnapshot where
  name : String
  «namespace» : String
  volumeSnapshotContentName : String
  volumeSnapshotClassName : String
  deriving DecidableEq

structure StorageClass where
  name : String
  parameters : StringMap
  deriving DecidableEq

structure TypedLocalObjectReference where
  apiGroup : String
  kind : String
  name : String
  deriving DecidableEq

/-- The claim fields the controller reads or copies; resource requests are kept as a map from
resource name to quantity. -/
structure PersistentVolumeClaimSpec where
  volumeName : String
  storageClassName : Option String
  accessModes : List String
  resources : StringMap
  dataSource : Option TypedLocalObjectReference
  deriving DecidableEq

structure PersistentVolumeClaim where
  name : String
  «namespace» : String
  labels : StringMap
  spec : PersistentVolumeClaimSpec
  deriving DecidableEq

structure CSIPersistentVolumeSource where
  volumeHandle : String
  deriving DecidableEq

/-- A persistent volume; `csi` is `none` when its source is not a CSI volume (a nil pointer). -/
structure PersistentVolume where
  name : String
  csi : Option CSIPersistentVolumeSource
  deriving DecidableEq

end CsmReplication
