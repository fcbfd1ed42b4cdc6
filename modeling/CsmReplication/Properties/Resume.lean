import CsmReplication.Controller.Paths
import CsmReplication.Properties.Sync

/-!
# A pass cut off after creating the mirror

A pass on a group `L` that is not synced creates the mirror under the name it looked up and
found free, then records that name on `L` (lines 232-249 and 287-309). When the record's update
fails, or the process stops before it, the mirror stays behind unrecorded. The next pass looks the
same name up, finds the mirror it created, checks that it mirrors `L`, and records it: the two
passes leave the world the uninterrupted pass would have left, and the second creates nothing
(`resumed_pass_records_mirror`).

The other path that creates a mirror, when the name is held by a group of another cluster or
driver, creates it as `SourceClusterId-<cluster ID>-<name>` (lines 262-283), which no API server
accepts: that create never succeeds.
-/

namespace CsmReplication

/-- The renamed mirror's name starts with an upper-case letter, which no API server accepts. -/
theorem validName_sourceClusterName (localClusterID localRGName : String) :
    validName (sourceClusterName localClusterID localRGName) = false :=
  @validName_of_head _ 'S' ("ourceClusterId-" ++ localClusterID ++ "-" ++ localRGName).toList
    (by simp [sourceClusterName]) (by decide)

/-- An update the server accepts, with no call failing, is logged as accepted. -/
theorem Client.update_of_ok {d : Nat} {rg : DellCSIReplicationGroup} {w : World} {cl : Cluster}
    {clock : List Int} {log : List Effect} (h : (w d).updateRG rg = .ok cl) :
    Client.update d rg ⟨w, [], clock, log⟩ =
      (.ok (), ⟨Function.update w d cl, [], clock, log ++ [.update d rg (.ok ())]⟩) := by
  simp only [Client.update, Client.logged_apply, Client.write_apply, List.headD_nil,
    Bool.false_eq_true, if_false, h]
  rfl

section Resume

variable {cfg : Config} {o : Oracle} {c : Nat} {n : String} {L : DellCSIReplicationGroup}
  {w : World} {clock : List Int} {log : List Effect}

/-- The pass that finds the mirror in place records it, with one accepted update and nothing
else (lines 238-309). -/
theorem reconcile_adopts_mirror_result (hL : lookupRG (w c).rgs n = some L) (hn : n ≠ "")
    (hlive : L.deleting = false) (hfin : rgFinalizer ∈ L.finalizers)
    (hdr : L.annotations.has deletionRequested = false) (hnil : L.annotations.isNil = false)
    (hsync : L.annotations.get rgSyncComplete ≠ "yes") {rc : Nat} {R : DellCSIReplicationGroup}
    (hrc : cfg.connection L.spec.remoteClusterId = some rc)
    (hm : (mirrorNaming cfg n L).remoteRGName ≠ "")
    (hR : lookupRG (w rc).rgs (mirrorNaming cfg n L).remoteRGName = some R)
    (hmir : Mirrors (mirrorNaming cfg n L).localClusterID L R) :
    reconcile cfg o c n ⟨w, [], clock, log⟩ =
      (.done, ⟨(RGWrite.update c (markSynced n L (mirrorNaming cfg n L).remoteRGName)).apply w, [],
        clock, log ++ [.update c (markSynced n L (mirrorNaming cfg n L).remoteRGName) (.ok ())]⟩) := by
  have hnaming : (mirrorNaming cfg n L).rgSyncComplete = false := by
    rw [mirrorNaming_rgSyncComplete]
    simpa using hsync
  have hname : (markSynced n L (mirrorNaming cfg n L).remoteRGName).name = n :=
    (lookupBy_eq_some _ hL).2
  obtain ⟨cl, hcl⟩ : ∃ cl, (w c).updateRG (markSynced n L (mirrorNaming cfg n L).remoteRGName) =
      .ok cl := by
    simp only [Cluster.updateRG, hname, hL, hlive, Bool.false_eq_true, false_and, if_false]
    exact ⟨_, rfl⟩
  have hbuilt : (buildRemoteRG cfg o n L (mirrorNaming cfg n L)).name =
      (mirrorNaming cfg n L).remoteRGName := rfl
  simp only [reconcile_apply, List.headD_nil, Bool.false_eq_true, if_false,
    Cluster.getRG_of_lookup hn hL, reconcileRG_apply, hnil, List.tail_nil, hrc,
    reconcileConnected_of_not_deleting hlive, reconcileActive_of_mem hfin, hdr, Pass.bind_apply,
    verifyRemoteRG_of_agrees (s := ⟨w, [], clock, log⟩) (Cluster.getRG_of_lookup hm hR)
      (agrees_buildRemoteRG.2 hmir), syncRemoteRG, hnaming, Bool.not_false, if_true,
    recordRemoteRG, Pass.pure_apply, hbuilt, Client.update_of_ok hcl,
    RGWrite.apply_of_ok (x := RGWrite.update c _) hcl]
  rfl

end Resume

/-- A pass cut off after creating the mirror under its free name: the next clean pass records it,
creating nothing, as the uninterrupted pass would; a renamed mirror's name is invalid. -/
theorem resumed_pass_records_mirror (cfg : Config) (o o' : Oracle) (c : Nat) (n : String)
    (s : PassState) {L : DellCSIReplicationGroup} {rc : Nat}
    (hL : lookupRG (s.world c).rgs n = some L) (hn : n ≠ "") (hlive : L.deleting = false)
    (hfin : rgFinalizer ∈ L.finalizers) (hdr : L.annotations.has deletionRequested = false)
    (hnil : L.annotations.isNil = false) (hsync : L.annotations.get rgSyncComplete ≠ "yes")
    (hrc : cfg.connection L.spec.remoteClusterId = some rc)
    (hm : (mirrorNaming cfg n L).remoteRGName ≠ "")
    (hfree : lookupRG (s.world rc).rgs (mirrorNaming cfg n L).remoteRGName = none)
    (hrr : contains (mirrorNaming cfg n L).remoteRGName "replicated-replicated" = false)
    (hcut : (reconcile cfg o c n s).2.world =
      (RGWrite.create rc (mirrorCandidate cfg o n L false)).apply s.world)
    (clock : List Int) (log : List Effect) :
    reconcile cfg o' c n ⟨(reconcile cfg o c n s).2.world, [], clock, log⟩ =
      (.done, ⟨(reconcile cfg o c n { s with faults := [] }).2.world, [], clock,
        log ++ [.update c (markSynced n L (mirrorNaming cfg n L).remoteRGName) (.ok ())]⟩) ∧
      validName (mirrorCandidate cfg o n L true).name = false := by
  have hcreate := @Cluster.createRG_of_lookup_none _ (mirrorCandidate cfg o n L false) hfree
  refine ⟨?_, validName_sourceClusterName _ _⟩
  rw [hcut, reconcile_adopts_mirror_result (RGWrite.lookup_apply_create hL) hn hlive hfin hdr hnil
    hsync hrc hm (RGWrite.lookup_apply_create_self hcreate)
    (Mirrors.of_spec_eq rfl (mirrors_mirrorCandidate cfg o n L false)),
    reconcile_creates_mirror hL hn hlive hfin hdr hnil hsync hrc hm hfree hrr]
  rfl

/-- The second pass on `unsyncedX` creates its mirror and fails to record it; the next pass
records it. -/
theorem unsyncedX_resumes :
    reconcile configA storedOrder 0 "x" ⟨(reconcile configA storedOrder 0 "x"
        ⟨twoWorld [unsyncedX] [], [false, false, false, false, true], [], []⟩).2.world, [], [], []⟩ =
      (.done, ⟨(reconcile configA storedOrder 0 "x" ⟨twoWorld [unsyncedX] [], [], [], []⟩).2.world,
        [], [], [] ++ [.update 0 (markSynced "x" unsyncedX
          (mirrorNaming configA "x" unsyncedX).remoteRGName) (.ok ())]⟩) ∧
      validName (mirrorCandidate configA storedOrder "x" unsyncedX true).name = false :=
  resumed_pass_records_mirror configA storedOrder storedOrder 0 "x"
    ⟨twoWorld [unsyncedX] [], [false, false, false, false, true], [], []⟩ rfl (by decide) rfl
    (List.mem_singleton_self _) (by decide) (by decide) (by decide) rfl (by decide) rfl
    (by decide) rfl [] []

end CsmReplication
