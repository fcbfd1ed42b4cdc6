import CsmReplication.System.Run

/-!
# The name a group records

A group whose name contains `replicated` records, as its mirror's name, its own name without a
leading `replicated-` (lines 302-303), whatever the mirror is called. So in two-cluster mode the
group `replicated-x` records `x`, as the group `x` beside it does, though each has a mirror of
its own (`x_and_replicated_x_record_x`). And the mirror `replicated-x` of `replicated-x` records
`x` too: its next pass looks up `x` on the source cluster, and when a user's group `x` holds
other protection groups there, it reports a conflict (`mirror_meets_conflicting_x`).
-/

namespace CsmReplication

/-- The clusters where users created the groups `x` and `replicated-x` on cluster 0, both
replicated to cluster 1. -/
def twinWorld : World :=
  twoWorld [userGroup "x" "B" "retain" "csi-driver",
    userGroup "replicated-x" "B" "retain" "csi-driver"] []

/-- Two passes on `x`, then two on `replicated-x`. -/
def twinRun : Sys :=
  run twoClusters [.pass 0 "x" [], .pass 0 "x" [], .pass 0 "replicated-x" [],
    .pass 0 "replicated-x" []] ⟨twinWorld, []⟩

/-- The passes pair `x` with `x` and `replicated-x` with `replicated-x` on cluster 1; both
record `x`. -/
theorem x_and_replicated_x_record_x :
    (Sys.mk twinWorld []).annotationAt 0 "x" remoteReplicationGroup = none ∧
      (Sys.mk twinWorld []).annotationAt 0 "replicated-x" remoteReplicationGroup = none ∧
      (Sys.mk twinWorld []).annotationAt 0 "x" rgSyncComplete = none ∧
      (Sys.mk twinWorld []).annotationAt 0 "replicated-x" rgSyncComplete = none ∧
      twinRun.names 1 = ["x", "replicated-x"] ∧
      twinRun.annotationAt 0 "x" rgSyncComplete = some "yes" ∧
      twinRun.annotationAt 0 "replicated-x" rgSyncComplete = some "yes" ∧
      twinRun.annotationAt 0 "x" remoteReplicationGroup = some "x" ∧
      twinRun.annotationAt 0 "replicated-x" remoteReplicationGroup = some "x" ∧
      (twinRun.group 0 "x").map (·.spec.remoteClusterId) = some "B" ∧
      (twinRun.group 0 "replicated-x").map (·.spec.remoteClusterId) = some "B" := by
  decide

/-- A user's group `x` of cluster 0 with the driver of `replicated-x` but other protection
groups. -/
def otherX : DellCSIReplicationGroup :=
  { userGroup "x" "B" "retain" "csi-driver" with
    spec := { (userGroup "x" "B" "retain" "csi-driver").spec with
      protectionGroupId := "pg3", remoteProtectionGroupId := "pg4" } }

/-- `replicated-x` and its mirror paired, beside the user's `otherX`. -/
def pairedReplicatedX : Sys :=
  run twoClusters [.pass 0 "replicated-x" [], .pass 0 "replicated-x" [],
      .pass 1 "replicated-x" [], .pass 1 "replicated-x" []]
    ⟨twoWorld [userGroup "replicated-x" "B" "retain" "csi-driver", otherX] [], []⟩

/-- The mirror `replicated-x` records `x`, and its next pass meets `otherX` there and emits the
conflicting-group warning, while `replicated-x` still stands. -/
theorem mirror_meets_conflicting_x :
    (pairedReplicatedX.group 0 "replicated-x").isSome = true ∧
      pairedReplicatedX.annotationAt 0 "replicated-x" remoteReplicationGroup = some "x" ∧
      pairedReplicatedX.annotationAt 1 "replicated-x" remoteReplicationGroup = some "x" ∧
      Effect.event eventTypeWarning eventReasonUpdated
        "Found conflicting RG on remote ClusterId: A" ∉ pairedReplicatedX.log ∧
      Effect.event eventTypeWarning eventReasonUpdated "Found conflicting RG on remote ClusterId: A" ∈
        ((Step.pass 1 "replicated-x" []).apply twoClusters pairedReplicatedX).log := by
  decide

end CsmReplication
