import CsmReplication.Controller.Writes

/-!
# The paths of a pass

`Reconcile` (lines 66-318) takes one path through its stages on each call, chosen by the group
it loads, by what the remote cluster holds and by which calls fail. This module computes the
world a pass leaves on the paths that the pairing of a new group and the deletion handshake go
through.

The deletion branch of a group whose mirror is to be deleted is computed whatever the calls
answer (`reconcile_world_of_deletesMirror`). Every other path is computed with no call failing,
one lemma a path: the finalizer added, the mirror created, a mirror found and adopted, the mirror
asked for deletion, a group asked for deletion deleted, and a deleting group released.
-/

namespace CsmReplication

/-! ## The mirror a pass builds -/

/-- Lines 79-95 in two-cluster mode: a group that is not synced looks its mirror up under the
name it recorded, or under its own name when it recorded none. -/
theorem mirrorNaming_of_unsynced {cfg : Config} {n : String} {L : DellCSIReplicationGroup}
    (hmode : L.spec.remoteClusterId ≠ self) (hs : L.annotations.get rgSyncComplete ≠ "yes") :
    mirrorNaming cfg n L = ⟨if L.annotations.get remoteReplicationGroup = "" then n
      else L.annotations.get remoteReplicationGroup, false, cfg.clusterId⟩ := by
  simp [mirrorNaming, hmode, hs]

/-- Lines 79-102 in single-cluster mode: an unsynced group is mirrored under `replicated-<name>`,
or, when its name starts with `replicated`, under the name it recorded, or its own. -/
theorem mirrorNaming_of_unsynced_self {cfg : Config} {n : String} {L : DellCSIReplicationGroup}
    (hmode : L.spec.remoteClusterId = self) (hs : L.annotations.get rgSyncComplete ≠ "yes") :
    mirrorNaming cfg n L = ⟨if hasPrefix n replicated then
      (if L.annotations.get remoteReplicationGroup = "" then n
        else L.annotations.get remoteReplicationGroup)
      else replicated ++ "-" ++ n, false, self⟩ := by
  simp [mirrorNaming, hmode, hs]

theorem sourceClusterName_ne_empty (localClusterID localRGName : String) :
    sourceClusterName localClusterID localRGName ≠ "" := by
  intro h
  have := congrArg String.length h
  simp [sourceClusterName] at this
  exact absurd this.1.1.1 (by decide)

section Built

variable {cfg : Config} {o : Oracle} {n : String} {L : DellCSIReplicationGroup}
  {naming : MirrorNaming}

@[simp]
theorem buildRemoteRG_get_sync :
    (buildRemoteRG cfg o n L naming).annotations.get rgSyncComplete = "" := by
  simp [buildRemoteRG, StringMap.get_set_of_ne _ _ (by decide : rgSyncComplete ≠ remoteClusterID),
    StringMap.get_set_of_ne _ _ (by decide : rgSyncComplete ≠ remoteRGRetentionPolicy),
    StringMap.get_set_of_ne _ _ (by decide : rgSyncComplete ≠ remoteReplicationGroup)]

/-- The mirror points back at the group it was built from (line 110). -/
@[simp]
theorem buildRemoteRG_get_remote :
    (buildRemoteRG cfg o n L naming).annotations.get remoteReplicationGroup = n := by
  simp [buildRemoteRG,
    StringMap.get_set_of_ne _ _ (by decide : remoteReplicationGroup ≠ remoteClusterID),
    StringMap.get_set_of_ne _ _ (by decide : remoteReplicationGroup ≠ remoteRGRetentionPolicy)]

@[simp]
theorem buildRemoteRG_has_deletionRequested :
    (buildRemoteRG cfg o n L naming).annotations.has deletionRequested = false := by
  simp [buildRemoteRG,
    StringMap.has_set_of_ne _ _ (by decide : deletionRequested ≠ remoteClusterID),
    StringMap.has_set_of_ne _ _ (by decide : deletionRequested ≠ remoteRGRetentionPolicy),
    StringMap.has_set_of_ne _ _ (by decide : deletionRequested ≠ remoteReplicationGroup),
    StringMap.has_empty]

end Built

/-- A create that does not fail, of a group whose name is free, stores it. -/
theorem Client.createReplicationGroup_of_free {d : Nat} {R : DellCSIReplicationGroup} {w : World}
    {clock : List Int} {log : List Effect} (h : lookupRG (w d).rgs R.name = none) :
    Client.createReplicationGroup d R ⟨w, [], clock, log⟩ =
      (.ok (), ⟨(RGWrite.create d R).apply w, [], clock,
        log ++ [.createReplicationGroup d R (.ok ())]⟩) := by
  simp only [Client.createReplicationGroup, Client.logged_apply, Client.write_apply,
    List.headD_nil, Bool.false_eq_true, if_false, Cluster.createRG_of_lookup_none h, RGWrite.apply,
    RGWrite.result, RGWrite.cluster]
  rfl

/-- A lookup that finds a group of another cluster or driver under the mirror's name goes on to
create it renamed after the source cluster, unless the lookup fails (lines 238-245, 277-283). -/
theorem verifyRemoteRG_of_foreign {rc : Nat} {localRGName remoteClusterID : String}
    {naming : MirrorNaming} {remoteRG F : DellCSIReplicationGroup} {s : PassState}
    (hF : (s.world rc).getRG naming.remoteRGName = .ok F)
    (hforeign : ¬(F.spec.remoteClusterId = naming.localClusterID ∧
      F.spec.driverName = remoteRG.spec.driverName)) (hs : s.faults.headD false = false) :
    verifyRemoteRG rc localRGName remoteClusterID naming remoteRG s =
      (.proceed true { remoteRG with name := sourceClusterName naming.localClusterID localRGName }
        false, { s with faults := s.faults.tail }) := by
  simp only [verifyRemoteRG, Pass.bind_apply, Client.getReplicationGroup_apply, hs,
    Bool.false_eq_true, if_false, hF]
  by_cases h₁ : F.spec.remoteClusterId = naming.localClusterID
  · simp [h₁, show F.spec.driverName ≠ remoteRG.spec.driverName from fun h₂ => hforeign ⟨h₁, h₂⟩]
  · simp [h₁]

/-! ## The deletion branch of a group whose mirror goes with it -/

/-- `L`'s retention policy, `Retain` when it has none, is `Delete` whatever its case (lines
152-153 and 183). -/
def DeletesMirror (L : DellCSIReplicationGroup) : Prop :=
  toLower ((L.annotations.lookup remoteRGRetentionPolicy).getD remoteRetentionValueRetain) =
    remoteRetentionValueDelete

instance decidableDeletesMirror (L : DellCSIReplicationGroup) : Decidable (DeletesMirror L) :=
  inferInstanceAs (Decidable (_ = _))

/-- A group with a retention policy has annotations, so the pass does not skip it (line 75). -/
theorem DeletesMirror.isNil {L : DellCSIReplicationGroup} (h : DeletesMirror L) :
    L.annotations.isNil = false := by
  cases hn : L.annotations.isNil
  · rfl
  · rw [DeletesMirror, StringMap.lookup_of_isNil hn] at h
    exact absurd h (by decide)

/-- The request of the remote group's deletion is retried, after an error or a millisecond. -/
theorem requestRemoteDeletion_state (rc : Nat) (R : DellCSIReplicationGroup) (s : PassState) :
    ∃ r, r.Retries ∧ requestRemoteDeletion rc R s =
      (some r, (Client.updateReplicationGroup rc (R.annotate deletionRequested "yes") s).2) := by
  simp only [requestRemoteDeletion, Pass.bind_apply]
  cases (Client.updateReplicationGroup rc (R.annotate deletionRequested "yes") s).1 with
  | error e => exact ⟨_, by exact Or.inl rfl, rfl⟩
  | ok u => exact ⟨_, by exact Or.inr (Or.inr Nat.one_pos), rfl⟩

section Deletion

variable {cfg : Config} {o : Oracle} {c : Nat} {n : String} {L : DellCSIReplicationGroup}

/-- The world a pass leaves on a deleting group that deletes its mirror, for every answer of the
read of `L`, the connection and the lookup of the mirror's name (lines 160-205). -/
theorem reconcile_world_of_deletesMirror (s : PassState) (hL : (s.world c).getRG n = .ok L)
    (hdel : L.deleting = true) (hfin : rgFinalizer ∈ L.finalizers)
    (hdr : L.annotations.has deletionRequested = false) (hpol : DeletesMirror L) :
    (reconcile cfg o c n s).2.world =
      if s.faults.headD false then s.world
      else match (if s.faults.tail.headD false then none
          else cfg.connection L.spec.remoteClusterId) with
        | none => s.world
        | some rc =>
          match (if s.faults.tail.tail.headD false then .error .failed
              else (s.world rc).getRG (L.annotations.get remoteReplicationGroup)) with
          | .error .notFound =>
            (Client.update c { L with finalizers := L.finalizers.erase rgFinalizer }
              { s with faults := s.faults.tail.tail.tail }).2.world
          | .error _ => s.world
          | .ok R =>
            if R.annotations.has deletionRequested then s.world
            else (Client.updateReplicationGroup rc (R.annotate deletionRequested "yes")
              { s with faults := s.faults.tail.tail.tail }).2.world := by
  have hnil := hpol.isNil
  rw [DeletesMirror] at hpol
  rw [reconcile_apply]
  cases s.faults.headD false
  case true => rfl
  case false =>
    simp only [Bool.false_eq_true, if_false, hL, reconcileRG_apply, hnil]
    cases (if s.faults.tail.headD false then none else cfg.connection L.spec.remoteClusterId) with
    | none => rfl
    | some rc =>
      simp only [reconcileConnected_of_deleting hdel, Pass.bind_apply, handleDeletion_apply, hdr,
        Bool.false_eq_true, if_false, hpol, if_true, removeFinalizer_of_mem hfin]
      cases (if s.faults.tail.tail.headD false then Except.error ApiError.failed
          else (s.world rc).getRG (L.annotations.get remoteReplicationGroup)) with
      | error e => cases e <;> rfl
      | ok R =>
        cases hR : R.annotations.has deletionRequested
        · obtain ⟨r, -, hr⟩ :=
            requestRemoteDeletion_state rc R { s with faults := s.faults.tail.tail.tail }
          simp only [hR, hr, Bool.false_eq_true, if_false, Pass.pure_apply]
        · simp only [hR, if_true, Pass.pure_apply]

end Deletion

/-! ## The paths with no call failing -/

section FaultFree

variable {cfg : Config} {o : Oracle} {c : Nat} {n : String} {L : DellCSIReplicationGroup}
  {w : World} {clock : List Int} {log : List Effect}

/-- A pass on a live group without the finalizer adds it (line 211). -/
theorem reconcile_adds_finalizer (hL : lookupRG (w c).rgs n = some L) (hn : n ≠ "")
    (hlive : L.deleting = false) (hfin : rgFinalizer ∉ L.finalizers)
    (hnil : L.annotations.isNil = false) {rc : Nat}
    (hrc : cfg.connection L.spec.remoteClusterId = some rc) :
    (reconcile cfg o c n ⟨w, [], clock, log⟩).2.world =
      (RGWrite.update c { L with finalizers := L.finalizers ++ [rgFinalizer] }).apply w := by
  simp only [reconcile_apply, List.headD_nil, Bool.false_eq_true, if_false,
    Cluster.getRG_of_lookup hn hL, reconcileRG_apply, hnil, List.tail_nil, hrc,
    reconcileConnected_of_not_deleting hlive, reconcileActive_of_not_mem hfin, Pass.bind_apply,
    Pass.pure_apply, Client.update_world]

/-- A pass on a live group with the finalizer, not synced, whose mirror's name is free on the
remote cluster creates the mirror there and records its name (lines 228-308). -/
theorem reconcile_creates_mirror (hL : lookupRG (w c).rgs n = some L) (hn : n ≠ "")
    (hlive : L.deleting = false) (hfin : rgFinalizer ∈ L.finalizers)
    (hdr : L.annotations.has deletionRequested = false) (hnil : L.annotations.isNil = false)
    (hsync : L.annotations.get rgSyncComplete ≠ "yes") {rc : Nat}
    (hrc : cfg.connection L.spec.remoteClusterId = some rc)
    (hm : (mirrorNaming cfg n L).remoteRGName ≠ "")
    (hfree : lookupRG (w rc).rgs (mirrorNaming cfg n L).remoteRGName = none)
    (hrr : contains (mirrorNaming cfg n L).remoteRGName "replicated-replicated" = false) :
    (reconcile cfg o c n ⟨w, [], clock, log⟩).2.world =
      (RGWrite.update c (markSynced n L (mirrorNaming cfg n L).remoteRGName)).apply
        ((RGWrite.create rc (buildRemoteRG cfg o n L (mirrorNaming cfg n L))).apply w) := by
  have hnaming : (mirrorNaming cfg n L).rgSyncComplete = false := by
    rw [mirrorNaming_rgSyncComplete]
    simpa using hsync
  simp only [reconcile_apply, List.headD_nil, Bool.false_eq_true, if_false,
    Cluster.getRG_of_lookup hn hL, reconcileRG_apply, hnil, List.tail_nil, hrc,
    reconcileConnected_of_not_deleting hlive, reconcileActive_of_mem hfin, hdr, Pass.bind_apply,
    verifyRemoteRG, Client.getReplicationGroup_apply, Cluster.getRG_of_lookup_none hm hfree,
    hnaming, hrr, Bool.not_false, Pass.pure_apply, syncRemoteRG, if_true, createRemoteRG,
    Client.createReplicationGroup_of_free (R := buildRemoteRG cfg o n L _) hfree, recordRemoteRG,
    Client.event, Client.record_apply, Client.update_world]
  rfl

/-- Lines 238-308: a live group with the finalizer that finds a group of another cluster or driver
under its mirror's name gets the mirror created renamed, when that name is free, and recorded. -/
theorem reconcile_creates_renamed_mirror (hL : lookupRG (w c).rgs n = some L) (hn : n ≠ "")
    (hlive : L.deleting = false) (hfin : rgFinalizer ∈ L.finalizers)
    (hdr : L.annotations.has deletionRequested = false) (hnil : L.annotations.isNil = false)
    {rc : Nat} (hrc : cfg.connection L.spec.remoteClusterId = some rc)
    (hm : (mirrorNaming cfg n L).remoteRGName ≠ "") {F : DellCSIReplicationGroup}
    (hF : lookupRG (w rc).rgs (mirrorNaming cfg n L).remoteRGName = some F)
    (hforeign : ¬(F.spec.remoteClusterId = (mirrorNaming cfg n L).localClusterID ∧
      F.spec.driverName = L.spec.driverName))
    (hfree : lookupRG (w rc).rgs (mirrorCandidate cfg o n L true).name = none) :
    (reconcile cfg o c n ⟨w, [], clock, log⟩).2.world =
      (RGWrite.update c (markSynced n L (mirrorCandidate cfg o n L true).name)).apply
        ((RGWrite.create rc (mirrorCandidate cfg o n L true)).apply w) := by
  simp only [reconcile_apply, List.headD_nil, Bool.false_eq_true, if_false,
    Cluster.getRG_of_lookup hn hL, reconcileRG_apply, hnil, List.tail_nil, hrc,
    reconcileConnected_of_not_deleting hlive, reconcileActive_of_mem hfin, hdr, Pass.bind_apply,
    @verifyRemoteRG_of_foreign rc n L.spec.remoteClusterId (mirrorNaming cfg n L)
      (buildRemoteRG cfg o n L (mirrorNaming cfg n L)) F ⟨w, [], clock, log⟩
      (Cluster.getRG_of_lookup hm hF) hforeign rfl, syncRemoteRG, if_true, createRemoteRG,
    Client.createReplicationGroup_of_free (R := { buildRemoteRG cfg o n L (mirrorNaming cfg n L) with
      name := sourceClusterName (mirrorNaming cfg n L).localClusterID n }) hfree, Bool.not_false, Pass.pure_apply, recordRemoteRG, Client.event, Client.record_apply,
    Client.update_world]
  rfl

/-- The two paths that create a mirror: under the name the lookup found free, for a group not
synced, or renamed after the source cluster. -/
theorem reconcile_creates_candidate {renamed : Bool} (hL : lookupRG (w c).rgs n = some L)
    (hn : n ≠ "") (hlive : L.deleting = false) (hfin : rgFinalizer ∈ L.finalizers)
    (hdr : L.annotations.has deletionRequested = false) (hnil : L.annotations.isNil = false)
    {rc : Nat} (hrc : cfg.connection L.spec.remoteClusterId = some rc)
    (hm : (mirrorNaming cfg n L).remoteRGName ≠ "")
    (hcreate : if renamed then ∃ F, lookupRG (w rc).rgs (mirrorNaming cfg n L).remoteRGName = some F ∧
        ¬(F.spec.remoteClusterId = (mirrorNaming cfg n L).localClusterID ∧
          F.spec.driverName = L.spec.driverName)
      else L.annotations.get rgSyncComplete ≠ "yes" ∧
        contains (mirrorNaming cfg n L).remoteRGName "replicated-replicated" = false)
    (hfree : lookupRG (w rc).rgs (mirrorCandidate cfg o n L renamed).name = none) :
    (reconcile cfg o c n ⟨w, [], clock, log⟩).2.world =
      (RGWrite.update c (markSynced n L (mirrorCandidate cfg o n L renamed).name)).apply
        ((RGWrite.create rc (mirrorCandidate cfg o n L renamed)).apply w) := by
  cases renamed
  · exact reconcile_creates_mirror hL hn hlive hfin hdr hnil hcreate.1 hrc hm hfree hcreate.2
  · obtain ⟨F, hF, hforeign⟩ := hcreate
    exact reconcile_creates_renamed_mirror hL hn hlive hfin hdr hnil hrc hm hF hforeign hfree

/-- A pass on a live group with the finalizer, not synced, that finds a group mirroring it under
the mirror's name records that name (lines 238-308). -/
theorem reconcile_adopts_mirror (hL : lookupRG (w c).rgs n = some L) (hn : n ≠ "")
    (hlive : L.deleting = false) (hfin : rgFinalizer ∈ L.finalizers)
    (hdr : L.annotations.has deletionRequested = false) (hnil : L.annotations.isNil = false)
    (hsync : L.annotations.get rgSyncComplete ≠ "yes") {rc : Nat} {R : DellCSIReplicationGroup}
    (hrc : cfg.connection L.spec.remoteClusterId = some rc)
    (hm : (mirrorNaming cfg n L).remoteRGName ≠ "")
    (hR : lookupRG (w rc).rgs (mirrorNaming cfg n L).remoteRGName = some R)
    (hmir : Mirrors (mirrorNaming cfg n L).localClusterID L R) :
    (reconcile cfg o c n ⟨w, [], clock, log⟩).2.world =
      (RGWrite.update c (markSynced n L (mirrorNaming cfg n L).remoteRGName)).apply w := by
  have hnaming : (mirrorNaming cfg n L).rgSyncComplete = false := by
    rw [mirrorNaming_rgSyncComplete]
    simpa using hsync
  simp only [reconcile_apply, List.headD_nil, Bool.false_eq_true, if_false,
    Cluster.getRG_of_lookup hn hL, reconcileRG_apply, hnil, List.tail_nil, hrc,
    reconcileConnected_of_not_deleting hlive, reconcileActive_of_mem hfin, hdr, Pass.bind_apply,
    verifyRemoteRG_of_agrees (s := ⟨w, [], clock, log⟩) (Cluster.getRG_of_lookup hm hR)
      (agrees_buildRemoteRG.2 hmir), syncRemoteRG, hnaming, Bool.not_false, if_true,
    recordRemoteRG, Pass.pure_apply, Client.update_world]
  rfl

/-- A pass on a deleting group that deletes its mirror, whose mirror's name carries a group not
yet asked, asks that group for deletion (lines 184-191). -/
theorem reconcile_asks_for_mirror_deletion (hL : lookupRG (w c).rgs n = some L) (hn : n ≠ "")
    (hdel : L.deleting = true) (hfin : rgFinalizer ∈ L.finalizers)
    (hdr : L.annotations.has deletionRequested = false) (hpol : DeletesMirror L) {rc : Nat}
    (hrc : cfg.connection L.spec.remoteClusterId = some rc) {R : DellCSIReplicationGroup}
    (hR : lookupRG (w rc).rgs (L.annotations.get remoteReplicationGroup) = some R)
    (hm : L.annotations.get remoteReplicationGroup ≠ "")
    (hRdr : R.annotations.has deletionRequested = false) :
    (reconcile cfg o c n ⟨w, [], clock, log⟩).2.world =
      (RGWrite.update rc (R.annotate deletionRequested "yes")).apply w := by
  rw [reconcile_world_of_deletesMirror _ (Cluster.getRG_of_lookup hn hL) hdel hfin hdr hpol]
  simp only [List.headD_nil, List.tail_nil, Bool.false_eq_true, if_false, hrc,
    Cluster.getRG_of_lookup hm hR, hRdr, Client.updateReplicationGroup_world]

/-- A pass on a deleting group that deletes its mirror, whose mirror's name carries no group,
releases it (lines 177-179 and 199-204). -/
theorem reconcile_releases_without_mirror (hL : lookupRG (w c).rgs n = some L) (hn : n ≠ "")
    (hdel : L.deleting = true) (hfin : rgFinalizer ∈ L.finalizers)
    (hdr : L.annotations.has deletionRequested = false) (hpol : DeletesMirror L) {rc : Nat}
    (hrc : cfg.connection L.spec.remoteClusterId = some rc)
    (hnone : lookupRG (w rc).rgs (L.annotations.get remoteReplicationGroup) = none)
    (hm : L.annotations.get remoteReplicationGroup ≠ "") :
    (reconcile cfg o c n ⟨w, [], clock, log⟩).2.world =
      (RGWrite.update c { L with finalizers := L.finalizers.erase rgFinalizer }).apply w := by
  rw [reconcile_world_of_deletesMirror _ (Cluster.getRG_of_lookup hn hL) hdel hfin hdr hpol]
  simp only [List.headD_nil, List.tail_nil, Bool.false_eq_true, if_false, hrc,
    Cluster.getRG_of_lookup_none hm hnone, Client.update_world]

/-- A pass on a live group asked for deletion deletes it (lines 215-219). -/
theorem reconcile_deletes_asked_group (hL : lookupRG (w c).rgs n = some L) (hn : n ≠ "")
    (hlive : L.deleting = false) (hfin : rgFinalizer ∈ L.finalizers)
    (hdr : L.annotations.has deletionRequested = true) {rc : Nat}
    (hrc : cfg.connection L.spec.remoteClusterId = some rc) :
    (reconcile cfg o c n ⟨w, [], clock, log⟩).2.world = (RGWrite.delete c L.name).apply w := by
  simp only [reconcile_apply, List.headD_nil, Bool.false_eq_true, if_false,
    Cluster.getRG_of_lookup hn hL, reconcileRG_apply, StringMap.isNil_eq_false_of_has hdr,
    List.tail_nil, hrc, reconcileConnected_of_not_deleting hlive, reconcileActive_of_mem hfin, hdr,
    if_true, Pass.bind_apply, Pass.pure_apply, Client.delete_world]

/-- A pass on a deleting group asked for deletion releases it without looking at its mirror
(lines 168 and 199-204). -/
theorem reconcile_releases_asked_group (hL : lookupRG (w c).rgs n = some L) (hn : n ≠ "")
    (hdel : L.deleting = true) (hfin : rgFinalizer ∈ L.finalizers)
    (hdr : L.annotations.has deletionRequested = true) {rc : Nat}
    (hrc : cfg.connection L.spec.remoteClusterId = some rc) :
    (reconcile cfg o c n ⟨w, [], clock, log⟩).2.world =
      (RGWrite.update c { L with finalizers := L.finalizers.erase rgFinalizer }).apply w := by
  simp only [reconcile_apply, List.headD_nil, Bool.false_eq_true, if_false,
    Cluster.getRG_of_lookup hn hL, reconcileRG_apply, StringMap.isNil_eq_false_of_has hdr,
    List.tail_nil, hrc, reconcileConnected_of_deleting hdel, Pass.bind_apply, handleDeletion_apply,
    hdr, if_true, removeFinalizer_of_mem hfin, Pass.pure_apply, Client.update_world]

end FaultFree

end CsmReplication
