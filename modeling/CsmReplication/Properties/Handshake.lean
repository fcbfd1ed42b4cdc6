import CsmReplication.Controller.Paths
import CsmReplication.Properties.OtherGroups

/-!
# The deletion handshake

A group `L` whose retention policy is `delete` takes its mirror with it (lines 160-205). A pass
on the deleting `L` asks the group under `L`'s `RemoteReplicationGroup` name on the remote
cluster for deletion and polls; that group's own controller deletes it once asked (lines
215-219) and, once it is deleting, releases it without looking back (line 168); `L`'s next pass
finds nothing under the name and releases `L`, which the server then removes.

Whatever its calls answer, a pass on `L` changes nothing, asks the group found under the name,
or releases `L`, and releases it only when no group carries the name
(`reconcile_of_deleting_with_mirror_policy`). The other steps of the clusters, passes of any
controller on other groups and users' creates and deletes, never remove `L`: so no step removes
`L` while a group carries that name on its remote cluster
(`step_removes_deleting_group_only_without_mirror`). With no call failing, the four passes of the
handshake remove both groups (`deletion_handshake_completes`).

The name is the one `L` recorded; that the group under it is the mirror `L` created is not shown
here, and fails for a local name containing `replicated`, which records another name (lines
302-303).
-/

namespace CsmReplication

/-! ## One pass on the deleting group -/

section Release

variable {c : Nat} {n : String} {L : DellCSIReplicationGroup}

/-- A pass on a deleting group that deletes its mirror changes nothing, asks the group under the
mirror's name for deletion, or releases the group, only when no group holds that name. -/
theorem reconcile_of_deleting_with_mirror_policy (cfg : Config) (o : Oracle) (s : PassState)
    (hL : (s.world c).getRG n = .ok L) (hdel : L.deleting = true)
    (hfin : rgFinalizer ∈ L.finalizers) (hdr : L.annotations.has deletionRequested = false)
    (hpol : DeletesMirror L) :
    (reconcile cfg o c n s).2.world = s.world ∨
      ∃ rc, cfg.connection L.spec.remoteClusterId = some rc ∧
        ((∃ R, lookupRG (s.world rc).rgs (L.annotations.get remoteReplicationGroup) = some R ∧
            R.annotations.has deletionRequested = false ∧
            (reconcile cfg o c n s).2.world =
              (RGWrite.update rc (R.annotate deletionRequested "yes")).apply s.world) ∨
          (lookupRG (s.world rc).rgs (L.annotations.get remoteReplicationGroup) = none ∧
            (reconcile cfg o c n s).2.world =
              (RGWrite.update c { L with finalizers := L.finalizers.erase rgFinalizer }).apply
                s.world)) := by
  rw [reconcile_world_of_deletesMirror s hL hdel hfin hdr hpol]
  split
  · exact .inl rfl
  split
  · exact .inl rfl
  rename_i rc hrc
  have hrc' : cfg.connection L.spec.remoteClusterId = some rc := by
    split at hrc
    · cases hrc
    · exact hrc
  split
  case h_1 hget =>
    have hnone : lookupRG (s.world rc).rgs (L.annotations.get remoteReplicationGroup) = none := by
      split at hget
      · cases hget
      · exact Cluster.getRG_eq_notFound hget
    rw [Client.update_world]
    split
    · exact .inl rfl
    · exact .inr ⟨rc, hrc', .inr ⟨hnone, rfl⟩⟩
  case h_2 => exact .inl rfl
  case h_3 R hget =>
    have hR : lookupRG (s.world rc).rgs (L.annotations.get remoteReplicationGroup) = some R := by
      split at hget
      · cases hget
      · exact Cluster.getRG_eq_ok hget
    split
    · exact .inl rfl
    · rename_i hRdr
      rw [Client.updateReplicationGroup_world]
      split
      · exact .inl rfl
      · exact .inr ⟨rc, hrc', .inl ⟨R, hR, by simpa using hRdr, rfl⟩⟩

end Release

/-! ## Every step of the clusters -/

/-- A pass whose read of the group fails, as the read of the empty name does, changes nothing. -/
theorem reconcile_world_of_empty_name (cfg : Config) (o : Oracle) (c : Nat) (s : PassState) :
    (reconcile cfg o c "" s).2.world = s.world := by
  rw [reconcile_apply]
  split
  · rfl
  · rename_i L hL
    split at hL <;> simp [Cluster.getRG] at hL

/-- No step, of a controller or of a user, removes a deleting group that deletes its mirror while
a group holds its mirror's name on its remote cluster. -/
theorem step_removes_deleting_group_only_without_mirror (cfgs : Nat → Config) (st : Step)
    (σ : Sys) {c rc : Nat} {n : String} {L : DellCSIReplicationGroup}
    (hL : lookupRG (σ.world c).rgs n = some L) (hdel : L.deleting = true)
    (hfin : rgFinalizer ∈ L.finalizers) (hdr : L.annotations.has deletionRequested = false)
    (hpol : DeletesMirror L) (hrc : (cfgs c).connection L.spec.remoteClusterId = some rc)
    (hgone : lookupRG ((st.apply cfgs σ).world c).rgs n = none) :
    lookupRG (σ.world rc).rgs (L.annotations.get remoteReplicationGroup) = none := by
  have hLn : L.name = n := (lookupBy_eq_some _ hL).2
  have hwf : L.deleting = true → L.finalizers ≠ [] := fun _ => List.ne_nil_of_mem hfin
  -- Every step but the release leaves a group under `n`.
  have kept : ∀ X, lookupRG ((st.apply cfgs σ).world c).rgs n = some X → False := fun _ h =>
    Option.noConfusion (hgone.symm.trans h)
  cases st with
  | create d rg => exact (kept L (RGWrite.lookup_apply_create hL)).elim
  | delete d m =>
    by_cases h : d = c ∧ m = n
    · obtain ⟨rfl, rfl⟩ := h
      exact (kept _ (hLn ▸ RGWrite.lookup_apply_delete_of_finalizers (hLn ▸ hL) (hwf hdel))).elim
    · exact (kept L ((RGWrite.lookup_apply_of_ne (.delete d m) _ fun hd hm => h ⟨hd, hm⟩).trans
        hL)).elim
  | reconcile d m faults clock o =>
    change ∀ X, lookupRG ((reconcile (cfgs d) o d m ⟨σ.world, faults, clock, σ.log⟩).2.world
      c).rgs n = some X → False at kept
    by_cases h : d = c ∧ m = n
    case neg =>
      -- A pass on another group leaves `L` as it is, or asks it for deletion.
      rcases reconcile_moves (cfgs d) o d m ⟨σ.world, faults, clock, σ.log⟩ with
        hs | ⟨L', rc', hL', -, hmv⟩
      · exact (kept L (by rw [hs c]; exact hL)).elim
      · rcases StandsAs.of_moves (lookupBy_eq_some _ hL').2 (fun hc hn => h ⟨hc.symm, hn.symm⟩)
          hwf hmv (.inl hL) with h' | ⟨-, h'⟩ <;> exact (kept _ h').elim
    case pos =>
      -- The pass on `L` itself.
      obtain ⟨rfl, rfl⟩ := h
      by_cases hn : m = ""
      · subst hn
        exact (kept L (by rw [reconcile_world_of_empty_name]; exact hL)).elim
      rcases reconcile_of_deleting_with_mirror_policy (cfgs d) o ⟨σ.world, faults, clock, σ.log⟩ (Cluster.getRG_of_lookup hn hL) hdel hfin hdr hpol with
        hw | ⟨rc', hrc', ⟨R, hR, -, hw⟩ | ⟨hnone, -⟩⟩
      · exact (kept L (by rw [hw]; exact hL)).elim
      · have hRn : R.name = L.annotations.get remoteReplicationGroup := (lookupBy_eq_some _ hR).2
        by_cases hRL : rc' = d ∧ R.name = m
        · -- `L` names itself: it is asked for deletion, and stays.
          obtain ⟨rfl, hRm⟩ := hRL
          rw [← hRn, hRm] at hR
          obtain rfl : R = L := Option.some.inj (hR.symm.trans hL)
          refine (kept (R.annotate deletionRequested "yes") ?_).elim
          rw [hw, ← hLn]
          exact RGWrite.lookup_apply_update_self (X := R.annotate deletionRequested "yes") (R := R)
            (by rw [DellCSIReplicationGroup.annotate_name, hLn]; exact hL) rfl rfl hwf
        · refine (kept L ?_).elim
          rw [hw, RGWrite.lookup_apply_of_ne (.update rc' (R.annotate deletionRequested "yes")) _
            fun hc ht => hRL ⟨hc, ht⟩]
          exact hL
      · -- `L` is released: no group carries the name.
        rw [← Option.some.inj (hrc'.symm.trans hrc)]
        exact hnone

/-- The group `x` of cluster 0, synced to `x` on cluster 1, deleting, with the `delete` retention
policy. -/
def condemnedX : DellCSIReplicationGroup :=
  { userGroup "x" "B" "delete" "csi-driver" with
    annotations := (((∅ : StringMap).set remoteRGRetentionPolicy "delete").set
      remoteReplicationGroup "x").set rgSyncComplete "yes"
    finalizers := [rgFinalizer], deleting := true }

/-- Its mirror on cluster 1, synced back to it. -/
def mirrorOfX : DellCSIReplicationGroup :=
  { userGroup "x" "A" "delete" "csi-driver" with
    annotations := (((∅ : StringMap).set remoteRGRetentionPolicy "delete").set
      remoteReplicationGroup "x").set rgSyncComplete "yes"
    finalizers := [rgFinalizer] }

/-- The two clusters holding `condemnedX` and its mirror. -/
def handshakeWorld : World :=
  twoWorld [condemnedX] [mirrorOfX]

/-- The pass on `condemnedX` whose mirror is gone removes it. -/
theorem condemnedX_removed_without_mirror :
    lookupRG ((twoWorld [condemnedX] []) 1).rgs (condemnedX.annotations.get remoteReplicationGroup) =
      none :=
  step_removes_deleting_group_only_without_mirror twoClusters (.pass 0 "x" [])
    ⟨twoWorld [condemnedX] [], []⟩ (c := 0) (n := "x") rfl rfl (List.mem_singleton_self _)
    (by decide) (by decide) rfl rfl

/-! ## The handshake -/

/-- With no call failing, four passes remove both groups: `L` asks `M` for deletion, `M` is
deleted and released, and `L`, finding no group under the mirror's name, is released. -/
theorem deletion_handshake_completes (cfgs : Nat → Config) (σ : Sys) {c rc c' : Nat}
    {L M : DellCSIReplicationGroup} (hL : lookupRG (σ.world c).rgs L.name = some L)
    (hLn : L.name ≠ "") (hdel : L.deleting = true) (hfin : L.finalizers = [rgFinalizer])
    (hdr : L.annotations.has deletionRequested = false) (hpol : DeletesMirror L)
    (hrc : (cfgs c).connection L.spec.remoteClusterId = some rc)
    (hM : lookupRG (σ.world rc).rgs (L.annotations.get remoteReplicationGroup) = some M)
    (hMn : M.name ≠ "") (hMlive : M.deleting = false) (hMfin : M.finalizers = [rgFinalizer])
    (hMdr : M.annotations.has deletionRequested = false)
    (hc' : (cfgs rc).connection M.spec.remoteClusterId = some c') :
    (run cfgs [.pass c L.name [], .pass rc M.name [], .pass rc M.name [], .pass c L.name []]
        σ).group c L.name = none ∧
      (run cfgs [.pass c L.name [], .pass rc M.name [], .pass rc M.name [], .pass c L.name []]
        σ).group rc M.name = none := by
  have hm : L.annotations.get remoteReplicationGroup = M.name := (lookupBy_eq_some _ hM).2.symm
  have hM' : lookupRG (σ.world rc).rgs M.name = some M := hm ▸ hM
  have hne : rc = c → M.name ≠ L.name := by
    rintro rfl heq
    obtain rfl : L = M := Option.some.inj (hL.symm.trans (heq ▸ hM'))
    exact Bool.noConfusion (hdel.symm.trans hMlive)
  have hmem : rgFinalizer ∈ [rgFinalizer] := List.mem_singleton_self _
  set M₁ := M.annotate deletionRequested "yes"
  set σ₁ := (Step.pass c L.name []).apply cfgs σ
  set σ₂ := (Step.pass rc M.name []).apply cfgs σ₁
  set σ₃ := (Step.pass rc M.name []).apply cfgs σ₂
  set σ₄ := (Step.pass c L.name []).apply cfgs σ₃
  -- `L`'s controller asks `M` for deletion.
  have hw₁ : σ₁.world = (RGWrite.update rc M₁).apply σ.world :=
    reconcile_asks_for_mirror_deletion hL hLn hdel (hfin ▸ hmem) hdr hpol hrc hM (hm ▸ hMn) hMdr
  have hM₁ : lookupRG (σ₁.world rc).rgs M.name = some M₁ := by
    rw [hw₁]
    exact RGWrite.lookup_apply_update_live (X := M₁) hM' hMlive hMlive
  have hL₁ : lookupRG (σ₁.world c).rgs L.name = some L := by
    rw [hw₁, RGWrite.lookup_apply_of_ne (.update rc M₁) _ hne]
    exact hL
  -- `M`'s controller deletes `M`, which keeps its finalizer and is marked deleting.
  have hw₂ : σ₂.world = (RGWrite.delete rc M.name).apply σ₁.world :=
    reconcile_deletes_asked_group (L := M₁) hM₁ hMn hMlive (hMfin ▸ hmem)
      (StringMap.has_set_self _ _ _) hc'
  have hM₂ : lookupRG (σ₂.world rc).rgs M.name = some { M₁ with deleting := true } := by
    rw [hw₂]
    exact RGWrite.lookup_apply_delete_of_finalizers (R := M₁) hM₁ (by simp [M₁, hMfin])
  have hL₂ : lookupRG (σ₂.world c).rgs L.name = some L := by
    rw [hw₂, RGWrite.lookup_apply_of_ne (.delete rc M.name) _ hne]
    exact hL₁
  -- `M`'s controller releases `M`, which the server then removes.
  have hw₃ : σ₃.world =
      (RGWrite.update rc { M₁ with deleting := true, finalizers := [] }).apply σ₂.world :=
    (reconcile_releases_asked_group (o := storedOrder) (L := { M₁ with deleting := true }) hM₂ hMn
      rfl (hMfin ▸ hmem) (StringMap.has_set_self _ _ _) hc').trans (by simp [M₁, hMfin])
  have hM₃ : lookupRG (σ₃.world rc).rgs M.name = none := by
    rw [hw₃]
    exact RGWrite.lookup_apply_update_release hM₂ rfl rfl
  have hL₃ : lookupRG (σ₃.world c).rgs L.name = some L := by
    rw [hw₃, RGWrite.lookup_apply_of_ne (.update rc { M₁ with deleting := true, finalizers := [] })
      _ hne]
    exact hL₂
  -- `L`'s controller finds no group under `M`'s name and releases `L`.
  have hw₄ : σ₄.world = (RGWrite.update c { L with finalizers := [] }).apply σ₃.world :=
    (reconcile_releases_without_mirror (o := storedOrder) hL₃ hLn hdel (hfin ▸ hmem) hdr hpol hrc
      (hm ▸ hM₃) (hm ▸ hMn)).trans (by simp [hfin])
  constructor
  · show lookupRG (σ₄.world c).rgs L.name = none
    rw [hw₄]
    exact RGWrite.lookup_apply_update_release hL₃ hdel rfl
  · show lookupRG (σ₄.world rc).rgs M.name = none
    rw [hw₄, RGWrite.lookup_apply_of_ne (.update c { L with finalizers := [] }) _
      fun h => (hne h.symm).symm]
    exact hM₃

/-- The handshake removes `condemnedX` and its mirror. -/
theorem condemnedX_handshake :
    (run twoClusters [.pass 0 "x" [], .pass 1 "x" [], .pass 1 "x" [], .pass 0 "x" []]
        ⟨handshakeWorld, []⟩).group 0 "x" = none ∧
      (run twoClusters [.pass 0 "x" [], .pass 1 "x" [], .pass 1 "x" [], .pass 0 "x" []]
        ⟨handshakeWorld, []⟩).group 1 "x" = none :=
  deletion_handshake_completes twoClusters ⟨handshakeWorld, []⟩ (L := condemnedX) (M := mirrorOfX)
    rfl (by decide) rfl rfl (by decide) (by decide) rfl rfl (by decide) rfl rfl (by decide) rfl

end CsmReplication
