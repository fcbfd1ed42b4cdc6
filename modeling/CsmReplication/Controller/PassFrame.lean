import CsmReplication.Controller.Reconcile
import CsmReplication.Controller.Frame

/-!
# The frame of a whole pass

A pass calls the servers through a handful of client calls: reads, the connection, log entries,
the four writes of replication groups, and the snapshot materializer. A preorder on pass states
that each of them keeps is kept by every stage of `Reconcile`, and so by the whole pass
(`PassCalls.reconcile_keeps`). The proof splits each stage along its binds and branches down to
the calls, once, for every such preorder.
-/

namespace CsmReplication

open Pass Client

/-- The client calls of a pass keep `R`; the snapshot materializer is taken as one call. -/
structure PassCalls (R : PassState → PassState → Prop) : Prop where
  read : ∀ {α : Type} (d : Nat) (op : Cluster → Except ApiError α), Keeps R (read d op)
  nextFault : Keeps R nextFault
  record : ∀ e, Keeps R (record e)
  update : ∀ d rg, Keeps R (Client.update d rg)
  delete : ∀ d rg, Keeps R (Client.delete d rg)
  createReplicationGroup : ∀ d rg, Keeps R (Client.createReplicationGroup d rg)
  updateReplicationGroup : ∀ d rg, Keeps R (Client.updateReplicationGroup d rg)
  processSnapshotEvent : ∀ cfg o c rc group, Keeps R (processSnapshotEvent cfg o c rc group)

namespace PassCalls

variable {R : PassState → PassState → Prop} [IsPreorder PassState R] (h : PassCalls R)
include h

theorem removeFinalizer_keeps (c : Nat) (L : DellCSIReplicationGroup) :
    Keeps R (removeFinalizer c L) := by
  unfold removeFinalizer
  repeat' (first
    | with_reducible exact h.update _ _
    | with_reducible apply keeps_pure
    | split
    | with_reducible refine keeps_bind ?_ fun _ => ?_)

theorem handleDeletion_keeps (c rc : Nat) (L : DellCSIReplicationGroup) (retentionPolicy : String) :
    Keeps R (handleDeletion c rc L retentionPolicy) := by
  unfold handleDeletion getReplicationGroup
  repeat' (first
    | with_reducible exact h.removeFinalizer_keeps _ _
    | with_reducible exact h.read _ _
    | with_reducible exact h.updateReplicationGroup _ _
    | with_reducible apply keeps_pure
    | split
    | with_reducible refine keeps_bind ?_ fun _ => ?_)

theorem verifyRemoteRG_keeps (rc : Nat) (localRGName remoteClusterID : String)
    (naming : MirrorNaming) (remoteRG : DellCSIReplicationGroup) :
    Keeps R (verifyRemoteRG rc localRGName remoteClusterID naming remoteRG) := by
  unfold verifyRemoteRG getReplicationGroup event
  repeat' (first
    | with_reducible exact h.read _ _
    | with_reducible exact h.record _
    | with_reducible apply keeps_pure
    | split
    | with_reducible refine keeps_bind ?_ fun _ => ?_)

theorem createRemoteRG_keeps (rc : Nat) (remoteClusterID : String)
    (remoteRG : DellCSIReplicationGroup) : Keeps R (createRemoteRG rc remoteClusterID remoteRG) := by
  unfold createRemoteRG event
  repeat' (first
    | with_reducible exact h.createReplicationGroup _ _
    | with_reducible exact h.record _
    | with_reducible apply keeps_pure
    | split
    | with_reducible refine keeps_bind ?_ fun _ => ?_)

theorem processActions_keeps (cfg : Config) (o : Oracle) (c rc : Nat)
    (group : DellCSIReplicationGroup) : Keeps R (processActions cfg o c rc group) := by
  unfold processActions processLastActionResult event
  dsimp only
  repeat' (first
    | with_reducible exact h.processSnapshotEvent _ _ _ _ _
    | with_reducible exact h.update _ _
    | with_reducible exact h.record _
    | with_reducible apply keeps_pure
    | split
    | with_reducible refine keeps_bind ?_ fun _ => ?_)

theorem syncRemoteRG_keeps (cfg : Config) (o : Oracle) (c rc : Nat) (localRGName : String)
    (L : DellCSIReplicationGroup) (createRG : Bool) (remoteRG : DellCSIReplicationGroup)
    (rgSyncComplete : Bool) :
    Keeps R (syncRemoteRG cfg o c rc localRGName L createRG remoteRG rgSyncComplete) := by
  unfold syncRemoteRG recordRemoteRG
  repeat' (first
    | with_reducible exact h.createRemoteRG_keeps _ _ _
    | with_reducible exact h.processActions_keeps _ _ _ _ _
    | with_reducible exact h.update _ _
    | with_reducible apply keeps_pure
    | split
    | with_reducible refine keeps_bind ?_ fun _ => ?_)

theorem reconcileConnected_keeps (cfg : Config) (o : Oracle) (c rc : Nat) (localRGName : String)
    (L : DellCSIReplicationGroup) (naming : MirrorNaming) (remoteRG : DellCSIReplicationGroup) :
    Keeps R (reconcileConnected cfg o c rc localRGName L naming remoteRG) := by
  unfold reconcileConnected reconcileActive
  repeat' (first
    | with_reducible exact h.handleDeletion_keeps _ _ _ _
    | with_reducible exact h.verifyRemoteRG_keeps _ _ _ _ _
    | with_reducible exact h.syncRemoteRG_keeps _ _ _ _ _ _ _ _ _
    | with_reducible exact h.update _ _
    | with_reducible exact h.delete _ _
    | with_reducible apply keeps_pure
    | split
    | with_reducible refine keeps_bind ?_ fun _ => ?_)

/-- Every pass keeps `R`. -/
theorem reconcile_keeps (cfg : Config) (o : Oracle) (c : Nat) (n : String) :
    Keeps R (reconcile cfg o c n) := by
  unfold reconcile reconcileRG getReplicationGroup getConnection
  repeat' (first
    | with_reducible exact h.reconcileConnected_keeps _ _ _ _ _ _ _ _
    | with_reducible exact h.read _ _
    | with_reducible exact h.nextFault
    | with_reducible apply keeps_pure
    | split
    | with_reducible refine keeps_bind ?_ fun _ => ?_)

end PassCalls

end CsmReplication
