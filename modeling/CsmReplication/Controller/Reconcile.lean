import CsmReplication.Controller.Snapshot

/-!
# The mirror synchronizer

`Reconcile` (lines 69-319) as a composition of its stages: the naming of the mirror (lines
79-105) and its construction (lines 107-144), the deletion branch (lines 160-205), the finalizer
and deletion-request checks (lines 207-220), the lookup and provenance check of the mirror
(lines 222-285), its creation (lines 287-298), the recording of the sync annotations (lines
300-309) and the action processing (lines 311-318). Each stage either ends the pass with a reply
or hands on to the next.
-/

namespace CsmReplication

def eventTypeNormal : String := "Normal"

def eventTypeWarning : String := "Warning"

def eventReasonUpdated : String := "Updated"

/-! ## The mirror -/

/-- Lines 79-105: the name the pass looks the mirror up by, whether the group is synced, and the
cluster ID the pass writes into the mirror. -/
structure MirrorNaming where
  remoteRGName : String
  rgSyncComplete : Bool
  localClusterID : String

/-- The naming of lines 79-105: a synced group's recorded name as it is; in single-cluster mode,
`replicated-<name>` for a name not starting with `replicated`, whatever it recorded. -/
def mirrorNaming (cfg : Config) (localRGName : String) (localRG : DellCSIReplicationGroup) :
    MirrorNaming :=
  let recorded := localRG.annotations.get remoteReplicationGroup
  let synced := localRG.annotations.get rgSyncComplete == "yes"
  let remoteRGName := if synced then recorded else if recorded = "" then localRGName else recorded
  if localRG.spec.remoteClusterId = self then
    ⟨if hasPrefix localRGName replicated then remoteRGName else replicated ++ "-" ++ localRGName,
      synced, self⟩
  else ⟨remoteRGName, synced, cfg.clusterId⟩

theorem mirrorNaming_rgSyncComplete (cfg : Config) (localRGName : String)
    (localRG : DellCSIReplicationGroup) :
    (mirrorNaming cfg localRGName localRG).rgSyncComplete =
      (localRG.annotations.get rgSyncComplete == "yes") := by
  unfold mirrorNaming
  split <;> rfl

theorem mirrorNaming_localClusterID (cfg : Config) (localRGName : String)
    (localRG : DellCSIReplicationGroup) :
    (mirrorNaming cfg localRGName localRG).localClusterID =
      if localRG.spec.remoteClusterId = self then self else cfg.clusterId := by
  unfold mirrorNaming
  split <;> rfl

/-- Lines 112-127: the mirror's labels. Each attribute whose key starts with the context prefix
is projected under `Domain` followed by the rest of the key, in the order the range visits. -/
def mirrorLabels (domain : String) (localRG : DellCSIReplicationGroup) (localClusterID : String)
    (attributes : List (String × String)) : StringMap :=
  let labels := ((∅ : StringMap).set driverName (localRG.labels.get driverName)).set
    remoteClusterID localClusterID
  let pre := localRG.annotations.get contextPrefix
  if pre = "" then labels
  else attributes.foldl (fun labels kv =>
    if hasPrefix kv.1 pre then labels.set (domain ++ trimPrefix kv.1 pre) kv.2 else labels) labels

/-- Lines 107-144: the mirror a pass creates, with the protection-group fields swapped. -/
def buildRemoteRG (cfg : Config) (o : Oracle) (localRGName : String)
    (localRG : DellCSIReplicationGroup) (naming : MirrorNaming) : DellCSIReplicationGroup where
  name := naming.remoteRGName
  annotations := (((∅ : StringMap).set remoteReplicationGroup localRGName).set
    remoteRGRetentionPolicy (localRG.annotations.get remoteRGRetentionPolicy)).set
    remoteClusterID naming.localClusterID
  labels := mirrorLabels cfg.domain localRG naming.localClusterID
    (o.order localRG.spec.remoteProtectionGroupAttributes)
  finalizers := []
  deleting := false
  spec :=
    { driverName := localRG.spec.driverName
      action := ""
      remoteClusterId := naming.localClusterID
      protectionGroupId := localRG.spec.remoteProtectionGroupId
      protectionGroupAttributes := localRG.spec.remoteProtectionGroupAttributes
      remoteProtectionGroupId := localRG.spec.protectionGroupId
      remoteProtectionGroupAttributes := localRG.spec.protectionGroupAttributes }
  status := .empty

/-- The name a mirror is created under when the one looked up belongs to someone else. -/
def sourceClusterName (localClusterID localRGName : String) : String :=
  "SourceClusterId-" ++ localClusterID ++ "-" ++ localRGName

/-! ## The stages -/

/-- Lines 199-204: removes the finalizer and persists the group; `none` when it had none. -/
def removeFinalizer (c : Nat) (localRG : DellCSIReplicationGroup) : Pass (Option Reply) := do
  let (localRG, finalizerRemoved) := localRG.removeFinalizerIfExists rgFinalizer
  if finalizerRemoved then return some (.ofWrite (← Client.update c localRG))
  return none

theorem removeFinalizer_of_mem {c : Nat} {localRG : DellCSIReplicationGroup}
    (h : rgFinalizer ∈ localRG.finalizers) :
    removeFinalizer c localRG = (do
      let r ← Client.update c { localRG with finalizers := localRG.finalizers.erase rgFinalizer }
      return some (.ofWrite r)) := by
  simp [removeFinalizer, DellCSIReplicationGroup.removeFinalizerIfExists_of_mem h]

theorem removeFinalizer_of_not_mem {c : Nat} {localRG : DellCSIReplicationGroup}
    (h : rgFinalizer ∉ localRG.finalizers) : removeFinalizer c localRG = pure none := by
  simp [removeFinalizer, DellCSIReplicationGroup.removeFinalizerIfExists_of_not_mem h]

/-- Lines 160-205, the deletion branch; `none` falls through to line 207. -/
def handleDeletion (c rc : Nat) (localRG : DellCSIReplicationGroup) (retentionPolicy : String) :
    Pass (Option Reply) := do
  if !localRG.annotations.has deletionRequested then
    match ← Client.getReplicationGroup rc (localRG.annotations.get remoteReplicationGroup) with
    | .error e =>
      if e ≠ .notFound then return some (.ofError (some (.api e)))
    | .ok remoteRG =>
      if toLower retentionPolicy = remoteRetentionValueDelete then
        if !remoteRG.annotations.has deletionRequested then
          match ← Client.updateReplicationGroup rc (remoteRG.annotate deletionRequested "yes") with
          | .error e => return some (.ofError (some (.api e)))
          | .ok () => return some (.ret ⟨false, 1⟩ none)
        return some (.ret ⟨true, 0⟩ none)
  removeFinalizer c localRG

/-- The deletion handshake of lines 184-191: `DeletionRequested=yes` on the remote group, then a
requeue after a millisecond. -/
def requestRemoteDeletion (rc : Nat) (remoteRG : DellCSIReplicationGroup) :
    Pass (Option Reply) := do
  match ← Client.updateReplicationGroup rc (remoteRG.annotate deletionRequested "yes") with
  | .error e => return some (.ofError (some (.api e)))
  | .ok () => return some (.ret ⟨false, 1⟩ none)

theorem handleDeletion_apply (c rc : Nat) (localRG : DellCSIReplicationGroup)
    (retentionPolicy : String) (s : PassState) :
    handleDeletion c rc localRG retentionPolicy s =
      if localRG.annotations.has deletionRequested then removeFinalizer c localRG s
      else match (if s.faults.headD false then .error .failed
          else (s.world rc).getRG (localRG.annotations.get remoteReplicationGroup)) with
        | .error e =>
          if e ≠ .notFound then (some (.ofError (some (.api e))), { s with faults := s.faults.tail })
          else removeFinalizer c localRG { s with faults := s.faults.tail }
        | .ok remoteRG =>
          if toLower retentionPolicy = remoteRetentionValueDelete then
            if remoteRG.annotations.has deletionRequested then
              (some (.ret ⟨true, 0⟩ none), { s with faults := s.faults.tail })
            else requestRemoteDeletion rc remoteRG { s with faults := s.faults.tail }
          else removeFinalizer c localRG { s with faults := s.faults.tail } := by
  cases hdr : localRG.annotations.has deletionRequested
  · simp only [handleDeletion, hdr, Pass.bind_apply, ite_apply, Bool.not_false, if_true,
      Client.getReplicationGroup_apply]
    cases (if s.faults.headD false then Except.error ApiError.failed
        else (s.world rc).getRG (localRG.annotations.get remoteReplicationGroup)) with
    | error e => by_cases he : e = .notFound <;> simp [he]
    | ok remoteRG =>
      simp only [requestRemoteDeletion, Pass.bind_apply, ite_apply, Bool.not_eq_true']
      split <;> (try split) <;> simp_all
  · simp [handleDeletion, hdr]

/-- What the lookup of the mirror decides: end the pass, or go on, creating `remoteRG` or not. -/
inductive Verdict where
  | stop (reply : Reply)
  | proceed (createRG : Bool) (remoteRG : DellCSIReplicationGroup) (rgSyncComplete : Bool)

/-- Lines 222-285: the lookup of the mirror and the check of its provenance. -/
def verifyRemoteRG (rc : Nat) (localRGName remoteClusterID : String) (naming : MirrorNaming)
    (remoteRG : DellCSIReplicationGroup) : Pass Verdict := do
  match ← Client.getReplicationGroup rc naming.remoteRGName with
  | .error .notFound =>
    if naming.rgSyncComplete then return .stop .done
    return .proceed (!contains naming.remoteRGName "replicated-replicated") remoteRG false
  | .error e => return .stop (.ret ⟨true, 0⟩ (some (.api e)))
  | .ok rgObj =>
    if rgObj.spec.remoteClusterId = naming.localClusterID then
      if rgObj.spec.driverName ≠ remoteRG.spec.driverName then
        return .proceed true
          { remoteRG with name := sourceClusterName naming.localClusterID localRGName } false
      if rgObj.spec.protectionGroupId ≠ remoteRG.spec.protectionGroupId ∨
          rgObj.spec.remoteProtectionGroupId ≠ remoteRG.spec.remoteProtectionGroupId then
        Client.event eventTypeWarning eventReasonUpdated
          ("Found conflicting RG on remote ClusterId: " ++ remoteClusterID)
        return .stop .done
      return .proceed false remoteRG naming.rgSyncComplete
    return .proceed true
      { remoteRG with name := sourceClusterName naming.localClusterID localRGName } false

/-- Lines 288-297: the creation of the mirror; `none` goes on. -/
def createRemoteRG (rc : Nat) (remoteClusterID : String) (remoteRG : DellCSIReplicationGroup) :
    Pass (Option Reply) := do
  match ← Client.createReplicationGroup rc remoteRG with
  | .error e =>
    Client.event eventTypeWarning eventReasonUpdated
      ("Failed to create remote CR for DellCSIReplicationGroup on ClusterId: " ++ remoteClusterID)
    return some (.ofError (some (.api e)))
  | .ok () =>
    Client.event eventTypeNormal eventReasonUpdated
      ("Created remote ReplicationGroup with name: " ++ remoteRG.name ++ " on cluster: " ++
        remoteClusterID)
    return none

/-- Lines 302-308: the name recorded as `RemoteReplicationGroup`. A local name containing
`replicated` records itself without a leading `replicated-`. -/
def recordedName (localRGName remoteRGName : String) : String :=
  if contains localRGName replicated then trimPrefix localRGName "replicated-" else remoteRGName

/-- Lines 302-307: the local group with its mirror's name recorded and marked synced. -/
def markSynced (localRGName : String) (localRG : DellCSIReplicationGroup)
    (remoteRGName : String) : DellCSIReplicationGroup :=
  (localRG.annotate remoteReplicationGroup
    (recordedName localRGName remoteRGName)).annotate rgSyncComplete "yes"

/-- Lines 302-308: records the mirror's name and `RGSyncComplete=yes` on the local group. -/
def recordRemoteRG (c : Nat) (localRGName : String) (localRG : DellCSIReplicationGroup)
    (remoteRGName : String) : Pass Reply := do
  return .ofWrite (← Client.update c (markSynced localRGName localRG remoteRGName))

/-- Lines 311-318: the action processing of a synced group, whose failure is only an event. -/
def processActions (cfg : Config) (o : Oracle) (c rc : Nat) (localRG : DellCSIReplicationGroup) :
    Pass Reply := do
  match ← processLastActionResult cfg o c rc localRG with
  | .panic => return .panic
  | .err _ =>
    Client.event eventTypeWarning eventReasonUpdated
      ("failed to process the last action " ++ localRG.status.lastAction.condition)
    return .done
  | .ok => return .done

/-- Lines 287-318, after the lookup: the creation of the mirror when asked for, then the
recording of the sync annotations, or the action processing of a synced group. -/
def syncRemoteRG (cfg : Config) (o : Oracle) (c rc : Nat) (localRGName : String)
    (localRG : DellCSIReplicationGroup) (createRG : Bool) (remoteRG : DellCSIReplicationGroup)
    (rgSyncComplete : Bool) : Pass Reply := do
  if createRG then
    match ← createRemoteRG rc localRG.spec.remoteClusterId remoteRG with
    | some reply => return reply
    | none => pure ()
  if !rgSyncComplete then return (← recordRemoteRG c localRGName localRG remoteRG.name)
  processActions cfg o c rc localRG

/-- Lines 207-318, the pass of a group that is not deleting, or whose deletion branch fell
through. -/
def reconcileActive (cfg : Config) (o : Oracle) (c rc : Nat) (localRGName : String)
    (localRG : DellCSIReplicationGroup) (naming : MirrorNaming)
    (remoteRG : DellCSIReplicationGroup) : Pass Reply := do
  let (rgCopy, finalizerAdded) := localRG.addFinalizerIfNotExist rgFinalizer
  if finalizerAdded then return .ofWrite (← Client.update c rgCopy)
  if rgCopy.annotations.has deletionRequested then return .ofWrite (← Client.delete c rgCopy)
  match ← verifyRemoteRG rc localRGName localRG.spec.remoteClusterId naming remoteRG with
  | .stop reply => return reply
  | .proceed createRG remoteRG rgSyncComplete =>
    syncRemoteRG cfg o c rc localRGName localRG createRG remoteRG rgSyncComplete

theorem reconcileActive_of_not_mem {cfg : Config} {o : Oracle} {c rc : Nat} {localRGName : String}
    {localRG : DellCSIReplicationGroup} {naming : MirrorNaming} {remoteRG : DellCSIReplicationGroup}
    (h : rgFinalizer ∉ localRG.finalizers) :
    reconcileActive cfg o c rc localRGName localRG naming remoteRG = (do
      let r ← Client.update c { localRG with finalizers := localRG.finalizers ++ [rgFinalizer] }
      return .ofWrite r) := by
  simp [reconcileActive, DellCSIReplicationGroup.addFinalizerIfNotExist_of_not_mem h]

theorem reconcileActive_of_mem {cfg : Config} {o : Oracle} {c rc : Nat} {localRGName : String}
    {localRG : DellCSIReplicationGroup} {naming : MirrorNaming} {remoteRG : DellCSIReplicationGroup}
    (h : rgFinalizer ∈ localRG.finalizers) :
    reconcileActive cfg o c rc localRGName localRG naming remoteRG =
      if localRG.annotations.has deletionRequested then (do
        let r ← Client.delete c localRG
        return .ofWrite r)
      else (do
        match ← verifyRemoteRG rc localRGName localRG.spec.remoteClusterId naming remoteRG with
        | .stop reply => return reply
        | .proceed createRG remoteRG rgSyncComplete =>
          syncRemoteRG cfg o c rc localRGName localRG createRG remoteRG rgSyncComplete) := by
  simp [reconcileActive, DellCSIReplicationGroup.addFinalizerIfNotExist_of_mem h]

/-- Lines 152-318, once the remote cluster is reached. -/
def reconcileConnected (cfg : Config) (o : Oracle) (c rc : Nat) (localRGName : String)
    (localRG : DellCSIReplicationGroup) (naming : MirrorNaming)
    (remoteRG : DellCSIReplicationGroup) : Pass Reply := do
  let retentionPolicy :=
    (localRG.annotations.lookup remoteRGRetentionPolicy).getD remoteRetentionValueRetain
  if localRG.deleting then
    match ← handleDeletion c rc localRG retentionPolicy with
    | some reply => return reply
    | none => pure ()
  reconcileActive cfg o c rc localRGName localRG naming remoteRG

theorem reconcileConnected_of_deleting {cfg : Config} {o : Oracle} {c rc : Nat}
    {localRGName : String} {localRG : DellCSIReplicationGroup} {naming : MirrorNaming}
    {remoteRG : DellCSIReplicationGroup} (h : localRG.deleting = true) :
    reconcileConnected cfg o c rc localRGName localRG naming remoteRG = (do
      match ← handleDeletion c rc localRG
          ((localRG.annotations.lookup remoteRGRetentionPolicy).getD remoteRetentionValueRetain) with
      | some reply => return reply
      | none => reconcileActive cfg o c rc localRGName localRG naming remoteRG) := by
  simp [reconcileConnected, h]

theorem reconcileConnected_of_not_deleting {cfg : Config} {o : Oracle} {c rc : Nat}
    {localRGName : String} {localRG : DellCSIReplicationGroup} {naming : MirrorNaming}
    {remoteRG : DellCSIReplicationGroup} (h : localRG.deleting = false) :
    reconcileConnected cfg o c rc localRGName localRG naming remoteRG =
      reconcileActive cfg o c rc localRGName localRG naming remoteRG := by
  simp [reconcileConnected, h]

/-- Lines 79-318, on the group the pass loaded. -/
def reconcileRG (cfg : Config) (o : Oracle) (c : Nat) (localRGName : String)
    (localRG : DellCSIReplicationGroup) : Pass Reply := do
  if localRG.annotations.isNil then return .done
  let naming := mirrorNaming cfg localRGName localRG
  let remoteRG := buildRemoteRG cfg o localRGName localRG naming
  match ← Client.getConnection cfg localRG.spec.remoteClusterId with
  | none => return .ofError (some (.connection localRG.spec.remoteClusterId))
  | some rc => reconcileConnected cfg o c rc localRGName localRG naming remoteRG

theorem reconcileRG_apply (cfg : Config) (o : Oracle) (c : Nat) (localRGName : String)
    (localRG : DellCSIReplicationGroup) (s : PassState) :
    reconcileRG cfg o c localRGName localRG s =
      if localRG.annotations.isNil then (.done, s)
      else match (if s.faults.headD false then none
          else cfg.connection localRG.spec.remoteClusterId) with
        | none => (.ofError (some (.connection localRG.spec.remoteClusterId)),
            { s with faults := s.faults.tail })
        | some rc => reconcileConnected cfg o c rc localRGName localRG
            (mirrorNaming cfg localRGName localRG)
            (buildRemoteRG cfg o localRGName localRG (mirrorNaming cfg localRGName localRG))
            { s with faults := s.faults.tail } := by
  cases h : localRG.annotations.isNil
  · simp only [reconcileRG, h, Pass.bind_apply, ite_apply, Bool.false_eq_true, if_false,
      Pass.pure_bind]
    simp only [Client.getConnection_apply]
    cases (if s.faults.headD false then none else cfg.connection localRG.spec.remoteClusterId) <;>
      rfl
  · simp [reconcileRG, h]

/-- `Reconcile` of the group named `name` by the controller of cluster `c`. -/
def reconcile (cfg : Config) (o : Oracle) (c : Nat) (name : String) : Pass Reply := do
  match ← Client.getReplicationGroup c name with
  | .error e => return .ofError (ignoreNotFound e)
  | .ok localRG => reconcileRG cfg o c name localRG

theorem reconcile_apply (cfg : Config) (o : Oracle) (c : Nat) (name : String) (s : PassState) :
    reconcile cfg o c name s =
      match (if s.faults.headD false then .error .failed else (s.world c).getRG name) with
      | .error e => (.ofError (ignoreNotFound e), { s with faults := s.faults.tail })
      | .ok localRG => reconcileRG cfg o c name localRG { s with faults := s.faults.tail } := by
  simp only [reconcile, Pass.bind_apply, Client.getReplicationGroup_apply]
  cases (if s.faults.headD false then Except.error ApiError.failed else (s.world c).getRG name) <;>
    rfl

/-- A pass stops before it reaches the remote cluster, having written and logged nothing, or goes
on as `reconcileConnected` on the group it loaded, from the world and the log it started with. -/
theorem reconcile_connects (cfg : Config) (o : Oracle) (c : Nat) (n : String) (s : PassState) :
    ((reconcile cfg o c n s).2.world = s.world ∧ (reconcile cfg o c n s).2.log = s.log) ∨
      ∃ L rc s₁, lookupRG (s.world c).rgs n = some L ∧
        cfg.connection L.spec.remoteClusterId = some rc ∧ s₁.world = s.world ∧ s₁.log = s.log ∧
        reconcile cfg o c n s = reconcileConnected cfg o c rc n L (mirrorNaming cfg n L)
          (buildRemoteRG cfg o n L (mirrorNaming cfg n L)) s₁ := by
  rw [reconcile_apply]
  split
  · exact .inl ⟨rfl, rfl⟩
  · rename_i L hL
    have hL' : lookupRG (s.world c).rgs n = some L := by
      split at hL
      · cases hL
      · exact Cluster.getRG_eq_ok hL
    rw [reconcileRG_apply]
    split
    · exact .inl ⟨rfl, rfl⟩
    · split
      · exact .inl ⟨rfl, rfl⟩
      · rename_i rc hrc
        refine .inr ⟨L, rc, { s with faults := s.faults.tail.tail }, hL', ?_, rfl, rfl, rfl⟩
        split at hrc
        · cases hrc
        · exact hrc

end CsmReplication
