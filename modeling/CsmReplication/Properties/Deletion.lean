import CsmReplication.System.Run

/-!
# The deletion branch

A pass on a group whose deletion timestamp is set (lines 160-205) first settles the deletion of
the group's mirror: it looks the mirror up by the group's `RemoteReplicationGroup` annotation and,
under the `delete` retention policy, asks the remote side to delete it and polls until it is
gone. Only then does it remove its finalizer, and the server removes the group.

The mirror is looked up only after the remote cluster is reached, so a pass whose connection
fails, or whose lookup fails with another error than `NotFound`, ends with that error and keeps
the finalizer, whatever the retention policy. The lookup goes by the annotation, not by the name
the mirror was created under; and a deleting group that has lost its finalizer falls through to
the steps of an active group (line 207).
-/

namespace CsmReplication

/-! ## Retained mirrors -/

/-- The group `x` of cluster 0, synced with the mirror `x`, deleting, with the finalizer and the
`retain` policy. -/
def retainedX : DellCSIReplicationGroup :=
  { userGroup "x" "B" "retain" "csi-driver" with
    annotations := (((∅ : StringMap).set remoteRGRetentionPolicy "retain").set
      remoteReplicationGroup "x").set rgSyncComplete "yes"
    finalizers := [rgFinalizer], deleting := true }

/-- Cluster 0 holds `retainedX`, and no call fails. -/
def retainedState : PassState :=
  ⟨twoWorld [retainedX] [], [], [], []⟩

/-- `replicated-x`, with the `delete` policy, is removed while its mirror `replicated-x` stays:
the mirror is recorded as `x`, and the deletion branch finds no `x`. -/
theorem finalizer_removed_while_mirror_remains :
    (run twoClusters [.pass 0 "replicated-x" [], .pass 0 "replicated-x" [],
        .delete 0 "replicated-x", .pass 0 "replicated-x" []]
      ⟨twoWorld [userGroup "replicated-x" "B" "delete" "csi-driver"] [], []⟩).names 0 = [] ∧
    (run twoClusters [.pass 0 "replicated-x" [], .pass 0 "replicated-x" [],
        .delete 0 "replicated-x", .pass 0 "replicated-x" []]
      ⟨twoWorld [userGroup "replicated-x" "B" "delete" "csi-driver"] [], []⟩).names 1 =
        ["replicated-x"] := by
  decide

end CsmReplication
