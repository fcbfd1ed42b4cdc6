import CsmReplication.Properties.OtherGroups

/-!
# What a group marked synced points at

A pass records the mirror's name on the local group `L` and marks it `RGSyncComplete=yes` only
after it has created the mirror or found and checked it (lines 222-309), while `L` is stored as
the pass loaded it. So a pass that changes what `L` points at, or marks it synced, leaves `L`
pointing at a group on the remote cluster that mirrors `L`: it names the cluster ID the pass
writes into mirrors, carries `L`'s driver and `L`'s protection groups swapped.

Two names escape this. A name containing `replicated-replicated` is recorded without being
created (line 287), by design. A local name containing `replicated` records itself without its
leading `replicated-` (lines 302-303), whatever name the mirror was created under; the theorem
below leaves such names out.
-/

namespace CsmReplication

/-! ## The annotations the pass writes -/

theorem recordedName_of_not_contains {localRGName : String} (remoteRGName : String)
    (h : contains localRGName replicated = false) :
    recordedName localRGName remoteRGName = remoteRGName := by
  simp [recordedName, h]

@[simp]
theorem markSynced_sync (localRGName : String) (localRG : DellCSIReplicationGroup)
    (remoteRGName : String) :
    (markSynced localRGName localRG remoteRGName).annotations.get rgSyncComplete = "yes" := by
  simp [markSynced]

@[simp]
theorem markSynced_remote (localRGName : String) (localRG : DellCSIReplicationGroup)
    (remoteRGName : String) :
    (markSynced localRGName localRG remoteRGName).annotations.get remoteReplicationGroup =
      recordedName localRGName remoteRGName := by
  simp [markSynced,
    StringMap.get_set_of_ne _ _ (by decide : remoteReplicationGroup ≠ rgSyncComplete)]

@[simp]
theorem markSynced_spec (localRGName : String) (localRG : DellCSIReplicationGroup)
    (remoteRGName : String) : (markSynced localRGName localRG remoteRGName).spec = localRG.spec :=
  rfl

/-- A mirror the pass builds is not marked synced. -/
theorem mirrorCandidate_sync (cfg : Config) (o : Oracle) (n : String)
    (L : DellCSIReplicationGroup) (renamed : Bool) :
    (mirrorCandidate cfg o n L renamed).annotations.get rgSyncComplete = "" := by
  cases renamed <;> simp [mirrorCandidate, buildRemoteRG,
    StringMap.get_set_of_ne _ _ (by decide : rgSyncComplete ≠ remoteClusterID),
    StringMap.get_set_of_ne _ _ (by decide : rgSyncComplete ≠ remoteRGRetentionPolicy),
    StringMap.get_set_of_ne _ _ (by decide : rgSyncComplete ≠ remoteReplicationGroup)]

/-! ## The invariant of one pass -/

/-- The group `n` of `c`, once synced, points where the synced `L` pointed, at a name never
created, or at a group on `rc` mirroring `L` for `localClusterID`. -/
def PointsAtMirror (c rc : Nat) (n localClusterID : String) (L : DellCSIReplicationGroup)
    (w : World) : Prop :=
  ∀ L', lookupRG (w c).rgs n = some L' → L'.annotations.get rgSyncComplete = "yes" →
    (L.annotations.get rgSyncComplete = "yes" ∧
        L'.annotations.get remoteReplicationGroup = L.annotations.get remoteReplicationGroup) ∨
      contains (L'.annotations.get remoteReplicationGroup) "replicated-replicated" = true ∨
      ∃ M, lookupRG (w rc).rgs (L'.annotations.get remoteReplicationGroup) = some M ∧
        Mirrors localClusterID L M

section Step

variable {c rc : Nat} {n localClusterID : String} {L : DellCSIReplicationGroup}

theorem PointsAtMirror.of_sameRGs {w w' : World} (hs : SameRGs w w')
    (h : PointsAtMirror c rc n localClusterID L w) : PointsAtMirror c rc n localClusterID L w' := by
  unfold PointsAtMirror at *
  rwa [hs c, hs rc]

theorem PointsAtMirror.of_loaded {w : World} (hL : lookupRG (w c).rgs n = some L) :
    PointsAtMirror c rc n localClusterID L w := by
  intro L' hL' hs
  obtain rfl : L = L' := Option.some.inj (hL.symm.trans hL')
  exact .inl ⟨hs, rfl⟩

/-- An update of the group that keeps `L`'s sync annotations. -/
theorem PointsAtMirror.update_loaded {w : World} {X : DellCSIReplicationGroup} (hX : X.name = n)
    (hsync : X.annotations.get rgSyncComplete = L.annotations.get rgSyncComplete)
    (hrrg : X.annotations.get remoteReplicationGroup = L.annotations.get remoteReplicationGroup)
    (h : PointsAtMirror c rc n localClusterID L w) :
    PointsAtMirror c rc n localClusterID L ((RGWrite.update c X).apply w) := by
  rcases RGWrite.lookup_apply_update w c X with heq | hnew
  · rwa [heq]
  · intro L' hL' hs
    obtain ⟨hann, -⟩ := hnew L' (hX ▸ hL')
    rw [hann, hsync] at hs
    exact .inl ⟨hs, by rw [hann, hrrg]⟩

/-- The record of the mirror's name, made while `L` is stored as loaded and the mirror is in
place. -/
theorem PointsAtMirror.update_record {w : World} {R : DellCSIReplicationGroup}
    (hn : contains n replicated = false) (hL : lookupRG (w c).rgs n = some L)
    (hM : (∃ M, lookupRG (w rc).rgs R.name = some M ∧ Mirrors localClusterID L M) ∨
      contains R.name "replicated-replicated" = true)
    (h : PointsAtMirror c rc n localClusterID L w) :
    PointsAtMirror c rc n localClusterID L ((RGWrite.update c (markSynced n L R.name)).apply w) := by
  have hLn : L.name = n := (lookupBy_eq_some _ hL).2
  rcases RGWrite.lookup_apply_update w c (markSynced n L R.name) with heq | hnew
  · rwa [heq]
  · intro L' hL' _
    obtain ⟨hann, hspec, -⟩ := hnew L' (by rwa [show (markSynced n L R.name).name = n from hLn])
    have hrrg : L'.annotations.get remoteReplicationGroup = R.name := by
      rw [hann, markSynced_remote, recordedName_of_not_contains _ hn]
    rw [hrrg]
    rcases hM with ⟨M, hM, hmir⟩ | hrr
    · right; right
      by_cases hcn : rc = c ∧ R.name = n
      · obtain ⟨rfl, hRn⟩ := hcn
        obtain rfl : L = M := Option.some.inj (hL.symm.trans (hRn ▸ hM))
        exact ⟨L', hRn ▸ hL', hmir.of_spec_eq hspec⟩
      · refine ⟨M, ?_, hmir⟩
        rwa [RGWrite.lookup_apply_of_ne (.update c (markSynced n L R.name)) w
          fun h₁ h₂ => hcn ⟨h₁.symm, hLn ▸ h₂.symm⟩]
    · exact .inr (.inl hrr)

/-- The deletion of the group keeps its annotations and spec. -/
theorem PointsAtMirror.delete {w : World} (h : PointsAtMirror c rc n localClusterID L w) :
    PointsAtMirror c rc n localClusterID L ((RGWrite.delete c n).apply w) := by
  intro L' hL' hs
  obtain ⟨R₀, hR₀, hL'₀⟩ := RGWrite.lookup_apply_delete w c n hL'
  have hann : L'.annotations = R₀.annotations := by rcases hL'₀ with rfl | rfl <;> rfl
  have hspec : L'.spec = R₀.spec := by rcases hL'₀ with rfl | rfl <;> rfl
  rw [hann] at hs ⊢
  rcases h R₀ hR₀ hs with h | h | ⟨M, hM, hmir⟩
  · exact .inl h
  · exact .inr (.inl h)
  · right; right
    by_cases hcn : rc = c ∧ R₀.annotations.get remoteReplicationGroup = n
    · obtain ⟨rfl, hRn⟩ := hcn
      rw [hRn] at hM ⊢
      obtain rfl : R₀ = M := Option.some.inj (hR₀.symm.trans hM)
      exact ⟨L', hL', hmir.of_spec_eq hspec⟩
    · refine ⟨M, ?_, hmir⟩
      rwa [RGWrite.lookup_apply_of_ne (.delete c n) w fun h₁ h₂ => hcn ⟨h₁.symm, h₂.symm⟩]

/-- A create adds no synced group and replaces none. -/
theorem PointsAtMirror.create {w : World} {d : Nat} {rg : DellCSIReplicationGroup}
    (hrg : rg.annotations.get rgSyncComplete ≠ "yes")
    (h : PointsAtMirror c rc n localClusterID L w) :
    PointsAtMirror c rc n localClusterID L ((RGWrite.create d rg).apply w) := by
  intro L' hL' hs
  rcases RGWrite.lookup_apply_create_cases hL' with hL' | rfl
  · rcases h L' hL' hs with h | h | ⟨M, hM, hmir⟩
    · exact .inl h
    · exact .inr (.inl h)
    · exact .inr (.inr ⟨M, RGWrite.lookup_apply_create hM, hmir⟩)
  · exact absurd hs hrg

end Step

/-- Every write a pass on the active group `L`, named `n` without `replicated` in it, may make
keeps `PointsAtMirror`. -/
theorem PointsAtMirror.step {cfg : Config} {o : Oracle} {c rc : Nat} {n : String}
    {L : DellCSIReplicationGroup} (hL : L.name = n) (hact : L.deleting = false)
    (hn : contains n replicated = false) {w : World} {x : RGWrite}
    (hx : AllowedWrite cfg o c rc n L w x)
    (h : PointsAtMirror c rc n (mirrorNaming cfg n L).localClusterID L w) :
    PointsAtMirror c rc n (mirrorNaming cfg n L).localClusterID L (x.apply w) := by
  cases hx with
  | addFinalizer => exact h.update_loaded hL rfl rfl
  | removeFinalizer => exact h.update_loaded hL rfl rfl
  | stamp t _ =>
    exact h.update_loaded hL
      (StringMap.get_set_of_ne _ _ (by decide : rgSyncComplete ≠ actionProcessedTime))
      (StringMap.get_set_of_ne _ _ (by decide : remoteReplicationGroup ≠ actionProcessedTime))
  | record renamed hL' hM => exact h.update_record hn hL' hM
  | delete _ => exact hL ▸ h.delete
  | create renamed => exact h.create (by rw [mirrorCandidate_sync]; decide)
  | requestDeletion _ hdel => exact absurd (hact ▸ hdel) (by decide)

/-- A pass that leaves the group `n` synced and pointing anew points it at a group mirroring `L`
on its remote cluster, unless the name contains `replicated-replicated`. -/
theorem reconcile_synced_points_at_mirror (cfg : Config) (o : Oracle) (c : Nat) (n : String)
    (s : PassState) {L : DellCSIReplicationGroup} (hL : lookupRG (s.world c).rgs n = some L)
    (hact : L.deleting = false) (hn : contains n replicated = false)
    {L' : DellCSIReplicationGroup} (hL' : lookupRG ((reconcile cfg o c n s).2.world c).rgs n = some L')
    (hsync : L'.annotations.get rgSyncComplete = "yes")
    (hnew : ¬(L.annotations.get rgSyncComplete = "yes" ∧
      L'.annotations.get remoteReplicationGroup = L.annotations.get remoteReplicationGroup))
    (hrr : contains (L'.annotations.get remoteReplicationGroup) "replicated-replicated" = false) :
    ∃ rc, cfg.connection L.spec.remoteClusterId = some rc ∧
      ∃ M, lookupRG ((reconcile cfg o c n s).2.world rc).rgs
          (L'.annotations.get remoteReplicationGroup) = some M ∧
        Mirrors (mirrorNaming cfg n L).localClusterID L M := by
  rcases reconcile_moves cfg o c n s with hfix | ⟨L₀, rc, hL₀, hrc, hm⟩
  · rw [hfix c, hL] at hL'
    obtain rfl := Option.some.inj hL'
    exact absurd ⟨hsync, rfl⟩ hnew
  · obtain rfl : L₀ = L := Option.some.inj (hL₀.symm.trans hL)
    have hinv := Moves.keeps (P := PointsAtMirror c rc n (mirrorNaming cfg n L₀).localClusterID L₀)
      (fun _ _ hs h => h.of_sameRGs hs)
      (fun _ _ hx h => h.step (lookupBy_eq_some _ hL).2 hact hn hx) hm (.of_loaded hL)
    rcases hinv L' hL' hsync with h | h | h
    · exact absurd h hnew
    · simp [h] at hrr
    · exact ⟨rc, hrc, h⟩

/-- `x` of cluster 0 with the finalizer, not yet mirrored. -/
def unsyncedX : DellCSIReplicationGroup :=
  { userGroup "x" "B" "retain" "csi-driver" with finalizers := [rgFinalizer] }

theorem unsyncedX_points_at_mirror :
    ∃ rc, configA.connection unsyncedX.spec.remoteClusterId = some rc ∧
      ∃ M, lookupRG ((reconcile configA storedOrder 0 "x"
          ⟨twoWorld [unsyncedX] [], [], [], []⟩).2.world rc).rgs
          ((markSynced "x" unsyncedX "x").annotations.get remoteReplicationGroup) = some M ∧
        Mirrors (mirrorNaming configA "x" unsyncedX).localClusterID unsyncedX M :=
  @reconcile_synced_points_at_mirror configA storedOrder 0 "x" ⟨twoWorld [unsyncedX] [], [], [], []⟩
    unsyncedX rfl rfl rfl (markSynced "x" unsyncedX "x") rfl (by decide) (by decide) (by decide)

/-- `unsyncedX` with a recorded name that contains `replicated-replicated`. -/
def doublyReplicatedX : DellCSIReplicationGroup :=
  { unsyncedX with
    annotations := unsyncedX.annotations.set remoteReplicationGroup "replicated-replicated-x" }

/-- A group whose recorded name contains `replicated-replicated` is marked synced with no group
of that name on the remote cluster. -/
theorem synced_without_mirror :
    let σ := (Step.pass 0 "x" []).apply twoClusters ⟨twoWorld [doublyReplicatedX] [], []⟩
    σ.annotationAt 0 "x" rgSyncComplete = some "yes" ∧
      σ.annotationAt 0 "x" remoteReplicationGroup = some "replicated-replicated-x" ∧
      σ.names 1 = [] := by
  decide

end CsmReplication
