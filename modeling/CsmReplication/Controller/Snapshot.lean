import CsmReplication.Controller.Pass

/-!
# The action processor and the snapshot materializer

`processLastActionResult` and `processSnapshotEvent` (lines 321-477), with the object builders
and `getPVCInformation` they call. The `range` over the action's volume-handle pairs visits
them in the order the oracle picks and carries the namespace from one pair to the next, as the
Go loop does; a nil CSI source met while scanning the claims is a panic, which ends the pass.
-/

namespace CsmReplication

/-! ## Object builders -/

def makeNamespaceReference (ns : String) : Namespace :=
  ⟨ns⟩

def makeSnapReference (snapName ns : String) : ObjectReference :=
  ⟨"VolumeSnapshot", "snapshot.storage.k8s.io/v1", "snapshot-" ++ snapName, ns⟩

def makeSnapshotObject (snapName contentName className ns : String) : VolumeSnapshot :=
  ⟨snapName, ns, contentName, className⟩

def makeSnapshotClassRef (driver snapClass : String) : VolumeSnapshotClass :=
  ⟨snapClass, driver, "Delete"⟩

/-- `makeVolSnapContent`, with the reading of `time.Now().Unix()` it makes passed in. -/
def makeVolSnapContent (snapName volumeName : String) (snapRef : ObjectReference)
    (sc : VolumeSnapshotClass) (now : Int) : VolumeSnapshotContent :=
  ⟨"volume-" ++ volumeName ++ "-" ++ formatInt now, snapRef, snapName, sc.name,
    sc.deletionPolicy, sc.driver⟩

def makePersistentVolumeClaimFromSnapshot (name ns snName storageClass : String)
    (pvcSpec : PersistentVolumeClaimSpec) : PersistentVolumeClaim :=
  ⟨name, ns, ∅, ⟨"", some storageClass, pvcSpec.accessModes, pvcSpec.resources,
    some ⟨"snapshot.storage.k8s.io", "VolumeSnapshot", snName⟩⟩⟩

/-- Lines 389-390: `default-<driver>-snapshotclass`, where the comment at lines 384-385 gives
`default-csi-vxflexos` for `csi-vxflexos.dellemc.com`. -/
def defaultSnapshotClassName (driverClass : String) : String :=
  "default-" ++ trimPrefix (splitFirst driverClass '.') "csi-" ++ "-snapshotclass"

example : defaultSnapshotClassName "csi-vxflexos.dellemc.com" = "default-vxflexos-snapshotclass" :=
  by decide

/-- `CreateNamespace`: creates a namespace on the remote cluster, wrapping a failure. -/
def createNamespace (rc : Nat) (ns : String) : Pass (Option Error) := do
  match ← Client.createNamespace rc (makeNamespaceReference ns) with
  | .error e => return some (.wrapped ("unable to create the desired namespace " ++ ns) (.api e))
  | .ok () => return none

/-! ## Finding the source claim of a volume -/

/-- What `getPVCInformation` ends with: a claim or nil, an error, or a nil-pointer panic. -/
inductive PVCInformation where
  | ok (pvc : Option PersistentVolumeClaim)
  | err (e : Error)
  | panic

/-- The claim `getPVCInformation` hands back; nil with an error. -/
def PVCInformation.pvc? : PVCInformation → Option PersistentVolumeClaim
  | .ok pvc => pvc
  | _ => none

/-- Lines 487-500: the first listed claim whose volume's CSI handle is `volumeHandle`. The scan
stops at the first volume it cannot get, and reads the CSI source without a nil check. -/
def scanPVCs (c : Nat) (volumeHandle : String) :
    List PersistentVolumeClaim → Pass PVCInformation
  | [] => return .ok none
  | pvc :: rest => do
    match ← Client.getPersistentVolume c pvc.spec.volumeName with
    | .error e => return .err (.wrapped ("error getting pv " ++ pvc.spec.volumeName) (.api e))
    | .ok pv =>
      match pv.csi with
      | none => return .panic
      | some csi =>
        if csi.volumeHandle = volumeHandle then return .ok (some pvc)
        else scanPVCs c volumeHandle rest

/-- `getPVCInformation`: the source-side claim of the group whose volume has `volumeHandle`. -/
def getPVCInformation (c : Nat) (group : DellCSIReplicationGroup) (volumeHandle : String) :
    Pass PVCInformation := do
  match ← Client.listPersistentVolumeClaims c replicationGroup group.name with
  | .error e => return .err (.wrapped "unable to get pvcs" (.api e))
  | .ok items => scanPVCs c volumeHandle items

/-! ## Materializing the snapshots -/

/-- What a helper that returns a Go `error` ends with: nil, an error, or a panic. -/
inductive Outcome where
  | ok
  | err (e : Error)
  | panic

/-- Lines 430-437: the namespace of a pair's objects, moved to `cloned-<ns>` (created on the
remote cluster) when the source claim lives in the current one. -/
def claimNamespace (rc : Nat) (ns : String) (pvc : Option PersistentVolumeClaim) :
    Pass (Except Error String) := do
  match pvc with
  | some p =>
    if p.«namespace» = ns then
      let cloned := "cloned-" ++ ns
      match ← createNamespace rc cloned with
      | some e => return .error e
      | none => return .ok cloned
    else return .ok ns
  | none => return .ok ns

/-- Line 459: whether a fetched storage class has replication enabled. -/
def replicationEnabled : Except ApiError StorageClass → Bool
  | .ok sc => sc.parameters.lookup storageClassReplicationParam = some "true"
  | .error _ => false

/-- Lines 440-473: the snapshot content, the snapshot and, when asked for, the claim of one
volume-handle pair. -/
def snapshotPair (rc : Nat) (shouldCreatePvc : Bool) (storageClass : String)
    (sc : VolumeSnapshotClass) (ns volumeHandle snapshotHandle : String)
    (pvc : Option PersistentVolumeClaim) : Pass (Option Error) := do
  let snapRef := makeSnapReference snapshotHandle ns
  let snapContent := makeVolSnapContent snapshotHandle volumeHandle snapRef sc (← Client.now)
  match ← Client.createSnapshotContent rc snapContent with
  | .error e => return some (.api e)
  | .ok () =>
  let snapshot := makeSnapshotObject snapRef.name snapContent.name sc.name ns
  match ← Client.createSnapshotObject rc snapshot with
  | .error e => return some (.api e)
  | .ok () =>
  match shouldCreatePvc, pvc with
  | true, some p =>
    if replicationEnabled (← Client.getStorageClass rc storageClass) then return none
    let newPVC := makePersistentVolumeClaimFromSnapshot p.name ns
      snapContent.volumeSnapshotRef.name storageClass p.spec
    match ← Client.createPersistentVolumeClaim rc newPVC with
    | .error e => return some (.api e)
    | .ok () => return none
  | _, _ => return none

/-- Lines 419-474: the loop over the action's pairs, in the order visited, carrying the
namespace from one pair to the next and stopping at the first failure. -/
def snapshotPairs (c rc : Nat) (group : DellCSIReplicationGroup) (shouldCreatePvc : Bool)
    (storageClass : String) (sc : VolumeSnapshotClass) :
    String → List (String × String) → Pass Outcome
  | _, [] => return .ok
  | ns, (volumeHandle, snapshotHandle) :: rest => do
    let info ← if shouldCreatePvc then getPVCInformation c group volumeHandle
      else pure (.ok none)
    match info with
    | .panic => return .panic
    | _ =>
    match ← claimNamespace rc ns info.pvc? with
    | .error e => return .err e
    | .ok ns =>
    match ← snapshotPair rc shouldCreatePvc storageClass sc ns volumeHandle snapshotHandle
        info.pvc? with
    | some e => return .err e
    | none => snapshotPairs c rc group shouldCreatePvc storageClass sc ns rest

/-- `processSnapshotEvent`: realizes the snapshots of a `CREATE_SNAPSHOT` action on the remote
cluster `rc`. -/
def processSnapshotEvent (cfg : Config) (o : Oracle) (c rc : Nat)
    (group : DellCSIReplicationGroup) : Pass Outcome := do
  Client.record (.snapshotEventProcessed c group.name)
  let lastAction := group.status.lastAction
  match group.annotations.lookup action with
  | none => return .ok
  | some val =>
  match cfg.unmarshalSnapshotNamespace val with
  | none => return .err .unmarshal
  | some ns =>
  if (← Client.getNamespace rc ns) matches .error _ then
    match ← createNamespace rc ns with
    | some e => return .err e
    | none => pure ()
  let snClass := group.annotations.get snapshotClass
  let driverClass := group.labels.get driverName
  if snClass ≠ "" then
    match ← Client.getSnapshotClass rc snClass with
    | .error e => return .err (.api e)
    | .ok _ => pure ()
  let snClass := if snClass = "" then defaultSnapshotClassName driverClass else snClass
  let storageClass := group.annotations.get (cfg.domain ++ "/snapshotStorageClass")
  let createPVC := group.annotations.get (cfg.domain ++ "/snapshotCreatePVC")
  let shouldCreatePvc := createPVC == "true" && storageClass != ""
  let pairs := o.order lastAction.actionAttributes
  match ← Client.getSnapshotClass rc snClass with
  | .ok sc => snapshotPairs c rc group shouldCreatePvc storageClass sc ns pairs
  | .error e =>
    if e ≠ .notFound then return .err (.wrapped "error getting snapshot class" (.api e))
    let sc := makeSnapshotClassRef driverClass snClass
    match ← Client.createSnapshotClass rc sc with
    | .error e => return .err (.wrapped "unable to create default snapshot class" (.api e))
    | .ok () => snapshotPairs c rc group shouldCreatePvc storageClass sc ns pairs

/-! ## The action processor -/

/-- `processLastActionResult`: processes the group's last action once per action time, and
stamps `ActionProcessedTime` whatever the processing ended with, ignoring the stamp's error. -/
def processLastActionResult (cfg : Config) (o : Oracle) (c rc : Nat)
    (group : DellCSIReplicationGroup) : Pass Outcome := do
  let lastAction := group.status.lastAction
  match group.status.conditions, lastAction.time with
  | [], _ => return .ok
  | _, none => return .ok
  | _ :: _, some time =>
  if lastAction.errorMessage ≠ "" then
    return .err (.message ("last action failed: " ++ lastAction.condition))
  match group.annotations.lookup actionProcessedTime with
  | none => return .ok
  | some val =>
  if val = time then return .ok
  let outcome ← if contains lastAction.condition "CREATE_SNAPSHOT" then
      processSnapshotEvent cfg o c rc group
    else pure .ok
  match outcome with
  | .panic => return .panic
  | _ =>
  let _ ← Client.update c (group.annotate actionProcessedTime time)
  return outcome

end CsmReplication
