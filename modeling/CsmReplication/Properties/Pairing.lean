import CsmReplication.Controller.Paths
import CsmReplication.Properties.Sync

/-!
# Pairing a new group with its mirror

A user creates a group `L` on cluster `c`, naming in its spec the cluster ID of its peer `rc`.
The controllers pair it with a mirror in four passes (lines 79-309): `c`'s controller adds its
finalizer to `L`, then creates the mirror `M` on `rc` and marks `L` synced to it; `rc`'s
controller adds its finalizer to `M`, then finds `L` under the name `M` records, checks that it
mirrors `M`, and marks `M` synced to it.

The four passes are computed once, for either mirror the second pass may create
(`pairing_of_candidate`): the one under the name the lookup found free, or the one renamed after
the source cluster when a group of another cluster or driver holds that name. The renamed one,
`SourceClusterId-<ID>-<name>`, is not a name an API server accepts, so only the first pairs. With
no call failing, the passes leave `L` and its mirror synced to each other, each carrying the
finalizer and each mirroring the other for its controller's cluster ID, in both modes:

* two-cluster mode, the mirror under `L`'s name or the one it recorded (`pairing_completes`);
* single-cluster mode, the mirror `replicated-<name>` on `L`'s own cluster, which records `L`'s
  name by trimming its own `replicated-` (`self_pairing_completes`).

From there, the passes on either group go straight to the action processing. The module assumes
that no call fails; a failed call ends a pass early, and the schedule is then longer.
-/

namespace CsmReplication

/-- A name without `replicated` is not one the pass refuses to create (line 287). -/
theorem contains_double_eq_false {s : String} (h : contains s replicated = false) :
    contains s "replicated-replicated" = false :=
  Bool.eq_false_iff.2 fun h' => Bool.noConfusion <| h.symm.trans <|
    contains_of_append (t := "-replicated") h'

/-- A self-mirror's name `replicated-<n>` is not one the pass refuses to create, when `n` does not
contain `replicated` (line 287). -/
theorem contains_selfMirror_eq_false {n : String} (h : contains n replicated = false) :
    contains (replicated ++ "-" ++ n) "replicated-replicated" = false := by
  have hp : hasPrefix n replicated = false :=
    Bool.eq_false_iff.2 fun h' => Bool.noConfusion (h.symm.trans (contains_of_hasPrefix h'))
  have hd := contains_double_eq_false h
  show occursIn _ (['r', 'e', 'p', 'l', 'i', 'c', 'a', 't', 'e', 'd', '-'] ++ n.data) = false
  simp [occursIn, List.isPrefixOf]
  exact ⟨hp, hd⟩

/-! ## The four passes -/

section FourPasses

variable (cfgs : Nat → Config) (σ : Sys) {c rc : Nat} {m id' : String} (renamed : Bool)
  {L : DellCSIReplicationGroup}

/-- The four passes of the pairing, for either mirror the second pass creates; the peer must find
`L` under the name the mirror records, and `L` must mirror the mirror. -/
theorem pairing_of_candidate (hL : lookupRG (σ.world c).rgs L.name = some L) (hLn : L.name ≠ "")
    (hlive : L.deleting = false) (hfin : rgFinalizer ∉ L.finalizers)
    (hdr : L.annotations.has deletionRequested = false) (hnil : L.annotations.isNil = false)
    (hrc : (cfgs c).connection L.spec.remoteClusterId = some rc)
    (hk : (mirrorNaming (cfgs c) L.name L).remoteRGName ≠ "")
    (hcreate : if renamed then ∃ F, lookupRG (σ.world rc).rgs
        (mirrorNaming (cfgs c) L.name L).remoteRGName = some F ∧
        ¬(F.spec.remoteClusterId = (mirrorNaming (cfgs c) L.name L).localClusterID ∧
          F.spec.driverName = L.spec.driverName)
      else L.annotations.get rgSyncComplete ≠ "yes" ∧
        contains (mirrorNaming (cfgs c) L.name L).remoteRGName "replicated-replicated" = false)
    (hm : (mirrorCandidate (cfgs c) storedOrder L.name L renamed).name = m)
    (hfree : lookupRG (σ.world rc).rgs m = none)
    (hback : (cfgs rc).connection (mirrorNaming (cfgs c) L.name L).localClusterID = some c)
    (hpeer : mirrorNaming (cfgs rc) m (mirrorCandidate (cfgs c) storedOrder L.name L renamed) =
      ⟨L.name, false, id'⟩)
    (hid : L.spec.remoteClusterId = id') :
    ∃ L' M', (run cfgs [.pass c L.name [], .pass c L.name [], .pass rc m [], .pass rc m []]
        σ).group c L.name = some L' ∧
      (run cfgs [.pass c L.name [], .pass c L.name [], .pass rc m [], .pass rc m []]
        σ).group rc m = some M' ∧
      L'.spec = L.spec ∧ rgFinalizer ∈ L'.finalizers ∧ rgFinalizer ∈ M'.finalizers ∧
      L'.annotations.get rgSyncComplete = "yes" ∧ M'.annotations.get rgSyncComplete = "yes" ∧
      L'.annotations.get remoteReplicationGroup = recordedName L.name m ∧
      M'.annotations.get remoteReplicationGroup = recordedName m L.name ∧
      Mirrors (mirrorNaming (cfgs c) L.name L).localClusterID L' M' ∧ Mirrors id' M' L' := by
  subst hm
  set m := (mirrorCandidate (cfgs c) storedOrder L.name L renamed).name
  have hne : rc = c → m ≠ L.name := by
    rintro rfl h
    have hnone : lookupRG (σ.world rc).rgs L.name = none := h ▸ hfree
    exact Option.noConfusion (hL.symm.trans hnone)
  have hmn : m ≠ "" := by
    cases renamed
    · exact hk
    · exact sourceClusterName_ne_empty _ _
  set L₁ : DellCSIReplicationGroup := { L with finalizers := L.finalizers ++ [rgFinalizer] }
  set σ₁ := (Step.pass c L.name []).apply cfgs σ
  -- `L`'s controller adds its finalizer to `L`.
  have hw₁ : σ₁.world = (RGWrite.update c L₁).apply σ.world :=
    reconcile_adds_finalizer hL hLn hlive hfin hnil hrc
  have hL₁ : lookupRG (σ₁.world c).rgs L.name = some L₁ := by
    rw [hw₁]
    exact RGWrite.lookup_apply_update_live (X := L₁) hL hlive hlive
  have hfree₁ : lookupRG (σ₁.world rc).rgs m = none := by
    rw [hw₁, RGWrite.lookup_apply_of_ne (.update c L₁) _ fun h => (hne h.symm).symm]
    exact hfree
  -- The group found under the mirror's name is still another cluster's or driver's.
  have hcreate₁ : if renamed then ∃ F, lookupRG (σ₁.world rc).rgs
        (mirrorNaming (cfgs c) L.name L).remoteRGName = some F ∧
        ¬(F.spec.remoteClusterId = (mirrorNaming (cfgs c) L.name L).localClusterID ∧
          F.spec.driverName = L.spec.driverName)
      else L.annotations.get rgSyncComplete ≠ "yes" ∧
        contains (mirrorNaming (cfgs c) L.name L).remoteRGName "replicated-replicated" = false := by
    cases renamed
    · exact hcreate
    · obtain ⟨F, hF, hforeign⟩ := hcreate
      by_cases hself : rc = c ∧ (mirrorNaming (cfgs c) L.name L).remoteRGName = L.name
      · obtain ⟨rfl, hname⟩ := hself
        rw [hname, hL] at hF
        cases hF
        exact ⟨L₁, by rw [hname]; exact hL₁, hforeign⟩
      · refine ⟨F, ?_, hforeign⟩
        rw [hw₁, RGWrite.lookup_apply_of_ne (.update c L₁) _ fun h₁ h₂ => hself ⟨h₁.symm, h₂.symm⟩]
        exact hF
  -- `L`'s controller creates the mirror `M₀` and records its name on `L`.
  set M₀ := mirrorCandidate (cfgs c) storedOrder L.name L renamed
  set L₂ := markSynced L.name L₁ m
  set σ₂ := (Step.pass c L.name []).apply cfgs σ₁
  have hw₂ : σ₂.world = (RGWrite.update c L₂).apply ((RGWrite.create rc M₀).apply σ₁.world) :=
    reconcile_creates_candidate hL₁ hLn hlive (List.mem_append_right _ (List.mem_singleton_self _))
      hdr hnil hrc hk hcreate₁ hfree₁
  have hL₂ : lookupRG (σ₂.world c).rgs L.name = some L₂ := by
    rw [hw₂]
    exact RGWrite.lookup_apply_update_live (X := L₂) (RGWrite.lookup_apply_create hL₁) hlive hlive
  have hM₀ : lookupRG (σ₂.world rc).rgs m = some M₀ := by
    rw [hw₂, RGWrite.lookup_apply_of_ne (.update c L₂) _ fun h => (hne h.symm).symm]
    have h := RGWrite.lookup_apply_create_self
      (Cluster.createRG_of_lookup_none (show lookupRG (σ₁.world rc).rgs M₀.name = none from hfree₁))
    rwa [show ({ M₀ with deleting := false } : DellCSIReplicationGroup) = M₀ from
      mirrorCandidate_live] at h
  -- The peer's controller adds its finalizer to `M₀`.
  set M₁ : DellCSIReplicationGroup := { M₀ with finalizers := M₀.finalizers ++ [rgFinalizer] }
  set σ₃ := (Step.pass rc m []).apply cfgs σ₂
  have hback' : (cfgs rc).connection M₀.spec.remoteClusterId = some c := by
    simpa [M₀, buildRemoteRG] using hback
  have hw₃ : σ₃.world = (RGWrite.update rc M₁).apply σ₂.world :=
    reconcile_adds_finalizer hM₀ hmn (mirrorCandidate_deleting) (by simp [M₀])
      (by simp [M₀, buildRemoteRG, StringMap.isNil_set]) hback'
  have hM₁ : lookupRG (σ₃.world rc).rgs m = some M₁ := by
    rw [hw₃]
    exact RGWrite.lookup_apply_update_live (X := M₁) hM₀ mirrorCandidate_deleting
      mirrorCandidate_deleting
  have hL₃ : lookupRG (σ₃.world c).rgs L.name = some L₂ := by
    rw [hw₃, RGWrite.lookup_apply_of_ne (.update rc M₁) _ hne]
    exact hL₂
  -- The peer's controller finds `L₂` mirroring `M₁` and records its name on `M₁`.
  have hmir : Mirrors id' M₁ L₂ := by
    simpa [Mirrors, M₁, M₀, L₂, L₁, buildRemoteRG] using hid
  have hN' : mirrorNaming (cfgs rc) m M₁ = ⟨L.name, false, id'⟩ := hpeer
  set σ₄ := (Step.pass rc m []).apply cfgs σ₃
  have hw₄ : σ₄.world = (RGWrite.update rc (markSynced m M₁ L.name)).apply σ₃.world :=
    (reconcile_adopts_mirror hM₁ hmn mirrorCandidate_deleting
      (List.mem_append_right _ (List.mem_singleton_self _)) (by simp [M₁, M₀])
      (by simp [M₁, M₀, buildRemoteRG, StringMap.isNil_set]) (by simp [M₁, M₀]) hback'
      (by rw [hN']; exact hLn) (by rw [hN']; exact hL₃) (by rw [hN']; exact hmir)).trans
      (by rw [hN'])
  refine ⟨L₂, markSynced m M₁ L.name, ?_, ?_, rfl,
    List.mem_append_right _ (List.mem_singleton_self _),
    List.mem_append_right _ (List.mem_singleton_self _), markSynced_sync _ _ _,
    markSynced_sync _ _ _, markSynced_remote _ _ _, markSynced_remote _ _ _,
    mirrors_mirrorCandidate _ _ _ _ _, hmir⟩
  · show lookupRG (σ₄.world c).rgs L.name = some L₂
    rw [hw₄, RGWrite.lookup_apply_of_ne (.update rc (markSynced m M₁ L.name)) _ hne]
    exact hL₃
  · show lookupRG (σ₄.world rc).rgs m = some (markSynced m M₁ L.name)
    rw [hw₄]
    exact RGWrite.lookup_apply_update_live (X := markSynced m M₁ L.name) hM₁
      mirrorCandidate_deleting mirrorCandidate_deleting

end FourPasses

/-- With no call failing, two passes on a new group `L` and two on its mirror's name `m` pair them:
both synced, recording and mirroring each other, with the finalizer, `L`'s spec unchanged. -/
theorem pairing_completes (cfgs : Nat → Config) (σ : Sys) {c rc : Nat} {m : String}
    {L : DellCSIReplicationGroup} (hL : lookupRG (σ.world c).rgs L.name = some L)
    (hLn : L.name ≠ "") (hlive : L.deleting = false) (hfin : rgFinalizer ∉ L.finalizers)
    (hdr : L.annotations.has deletionRequested = false) (hnil : L.annotations.isNil = false)
    (hsync : L.annotations.get rgSyncComplete ≠ "yes") (hmode : L.spec.remoteClusterId ≠ self)
    (hself : (cfgs c).clusterId ≠ self) (hid : L.spec.remoteClusterId = (cfgs rc).clusterId)
    (hrc : (cfgs c).connection L.spec.remoteClusterId = some rc)
    (hback : (cfgs rc).connection (cfgs c).clusterId = some c)
    (hm : (mirrorNaming (cfgs c) L.name L).remoteRGName = m)
    (hfree : lookupRG (σ.world rc).rgs m = none)
    (hnr : contains L.name replicated = false) (hmr : contains m replicated = false) :
    ∃ L' M', (run cfgs [.pass c L.name [], .pass c L.name [], .pass rc m [], .pass rc m []]
        σ).group c L.name = some L' ∧
      (run cfgs [.pass c L.name [], .pass c L.name [], .pass rc m [], .pass rc m []]
        σ).group rc m = some M' ∧
      L'.spec = L.spec ∧ rgFinalizer ∈ L'.finalizers ∧ rgFinalizer ∈ M'.finalizers ∧
      L'.annotations.get rgSyncComplete = "yes" ∧ M'.annotations.get rgSyncComplete = "yes" ∧
      L'.annotations.get remoteReplicationGroup = m ∧
      M'.annotations.get remoteReplicationGroup = L.name ∧
      Mirrors (cfgs c).clusterId L' M' ∧ Mirrors (cfgs rc).clusterId M' L' := by
  have hN := @mirrorNaming_of_unsynced (cfgs c) L.name L hmode hsync
  have hid₀ : (mirrorNaming (cfgs c) L.name L).localClusterID = (cfgs c).clusterId := by rw [hN]
  have hpeer : mirrorNaming (cfgs rc) m (mirrorCandidate (cfgs c) storedOrder L.name L false) =
      ⟨L.name, false, (cfgs rc).clusterId⟩ := by
    rw [mirrorNaming_of_unsynced (by simpa [buildRemoteRG, hid₀] using hself) (by simp)]
    simp [hLn]
  obtain ⟨L', M', h₁, h₂, h₃, h₄, h₅, h₆, h₇, h₈, h₉, h₁₀, h₁₁⟩ :=
    pairing_of_candidate cfgs σ false hL hLn hlive hfin hdr hnil hrc
      (by rw [hN]; split <;> assumption) ⟨hsync, hm ▸ contains_double_eq_false hmr⟩ hm hfree
      (hid₀ ▸ hback) hpeer hid
  exact ⟨L', M', h₁, h₂, h₃, h₄, h₅, h₆, h₇, h₈.trans (recordedName_of_not_contains _ hnr),
    h₉.trans (recordedName_of_not_contains _ hmr), hid₀ ▸ h₁₀, h₁₁⟩

/-- The group `x` a user creates on cluster 0, for the cluster `B`, is paired with a mirror `x` on
cluster 1. -/
theorem userGroup_x_pairs :
    ∃ L' M', (run twoClusters [.pass 0 "x" [], .pass 0 "x" [], .pass 1 "x" [], .pass 1 "x" []]
        ⟨twoWorld [userGroup "x" "B" "retain" "csi-driver"] [], []⟩).group 0 "x" = some L' ∧
      (run twoClusters [.pass 0 "x" [], .pass 0 "x" [], .pass 1 "x" [], .pass 1 "x" []]
        ⟨twoWorld [userGroup "x" "B" "retain" "csi-driver"] [], []⟩).group 1 "x" = some M' ∧
      L'.spec = (userGroup "x" "B" "retain" "csi-driver").spec ∧ rgFinalizer ∈ L'.finalizers ∧
      rgFinalizer ∈ M'.finalizers ∧
      L'.annotations.get rgSyncComplete = "yes" ∧ M'.annotations.get rgSyncComplete = "yes" ∧
      L'.annotations.get remoteReplicationGroup = "x" ∧
      M'.annotations.get remoteReplicationGroup = "x" ∧
      Mirrors "A" L' M' ∧ Mirrors "B" M' L' :=
  pairing_completes twoClusters ⟨twoWorld [userGroup "x" "B" "retain" "csi-driver"] [], []⟩
    (c := 0) (L := userGroup "x" "B" "retain" "csi-driver") rfl (by decide) rfl
    (List.not_mem_nil _) (by decide) rfl (by decide) (by decide) (by decide) rfl rfl rfl rfl rfl
    (by decide) (by decide)

/-- In single-cluster mode, with no call failing, two passes on a new `L` and two on
`replicated-<L's name>` pair them for the ID `self`, `L`'s spec unchanged. -/
theorem self_pairing_completes (cfgs : Nat → Config) (σ : Sys) {c : Nat} {m : String}
    {L : DellCSIReplicationGroup} (hL : lookupRG (σ.world c).rgs L.name = some L)
    (hLn : L.name ≠ "") (hlive : L.deleting = false) (hfin : rgFinalizer ∉ L.finalizers)
    (hdr : L.annotations.has deletionRequested = false) (hnil : L.annotations.isNil = false)
    (hsync : L.annotations.get rgSyncComplete ≠ "yes") (hmode : L.spec.remoteClusterId = self)
    (hrc : (cfgs c).connection self = some c) (hm : replicated ++ "-" ++ L.name = m)
    (hfree : lookupRG (σ.world c).rgs m = none) (hnr : contains L.name replicated = false) :
    ∃ L' M', (run cfgs [.pass c L.name [], .pass c L.name [], .pass c m [], .pass c m []]
        σ).group c L.name = some L' ∧
      (run cfgs [.pass c L.name [], .pass c L.name [], .pass c m [], .pass c m []]
        σ).group c m = some M' ∧
      L'.spec = L.spec ∧ rgFinalizer ∈ L'.finalizers ∧ rgFinalizer ∈ M'.finalizers ∧
      L'.annotations.get rgSyncComplete = "yes" ∧ M'.annotations.get rgSyncComplete = "yes" ∧
      L'.annotations.get remoteReplicationGroup = m ∧
      M'.annotations.get remoteReplicationGroup = L.name ∧
      Mirrors self L' M' ∧ Mirrors self M' L' := by
  subst hm
  have hp : hasPrefix L.name replicated = false :=
    Bool.eq_false_iff.2 fun h => Bool.noConfusion (hnr.symm.trans (contains_of_hasPrefix h))
  have hN : mirrorNaming (cfgs c) L.name L = ⟨replicated ++ "-" ++ L.name, false, self⟩ := by
    rw [mirrorNaming_of_unsynced_self hmode hsync, hp]
    rfl
  have hmp : hasPrefix (replicated ++ "-" ++ L.name) replicated = true := by
    rw [String.append_assoc]
    exact hasPrefix_append _ _
  have hpeer : mirrorNaming (cfgs c) (replicated ++ "-" ++ L.name)
      (mirrorCandidate (cfgs c) storedOrder L.name L false) = ⟨L.name, false, self⟩ := by
    rw [mirrorNaming_of_unsynced_self (by simp [buildRemoteRG, hN]) (by simp), hmp]
    simp [hLn]
  obtain ⟨L', M', h₁, h₂, h₃, h₄, h₅, h₆, h₇, h₈, h₉, h₁₀, h₁₁⟩ :=
    pairing_of_candidate cfgs σ false hL hLn hlive hfin hdr hnil (hmode ▸ hrc)
      (by rw [hN]; intro h; rw [show replicated ++ "-" ++ L.name = "" from h] at hmp; cases hmp)
      (by rw [hN]; exact ⟨hsync, contains_selfMirror_eq_false hnr⟩)
      (by show (mirrorNaming (cfgs c) L.name L).remoteRGName = _; rw [hN]) hfree
      (by rw [hN]; exact hrc) hpeer hmode
  refine ⟨L', M', h₁, h₂, h₃, h₄, h₅, h₆, h₇, h₈.trans (recordedName_of_not_contains _ hnr),
    h₉.trans ?_, by rwa [hN] at h₁₀, h₁₁⟩
  rw [recordedName, if_pos (contains_of_hasPrefix hmp)]
  exact trimPrefix_append _ _

/-- The group `x` a user creates on cluster 0 for the cluster `self` is paired with a mirror
`replicated-x` on cluster 0. -/
theorem selfGroup_x_pairs :
    ∃ L' M', (run twoClusters [.pass 0 "x" [], .pass 0 "x" [], .pass 0 "replicated-x" [],
        .pass 0 "replicated-x" []]
        ⟨twoWorld [userGroup "x" self "retain" "csi-driver"] [], []⟩).group 0 "x" = some L' ∧
      (run twoClusters [.pass 0 "x" [], .pass 0 "x" [], .pass 0 "replicated-x" [],
        .pass 0 "replicated-x" []]
        ⟨twoWorld [userGroup "x" self "retain" "csi-driver"] [], []⟩).group 0 "replicated-x" =
          some M' ∧
      L'.spec = (userGroup "x" self "retain" "csi-driver").spec ∧ rgFinalizer ∈ L'.finalizers ∧
      rgFinalizer ∈ M'.finalizers ∧
      L'.annotations.get rgSyncComplete = "yes" ∧ M'.annotations.get rgSyncComplete = "yes" ∧
      L'.annotations.get remoteReplicationGroup = "replicated-x" ∧
      M'.annotations.get remoteReplicationGroup = "x" ∧
      Mirrors self L' M' ∧ Mirrors self M' L' :=
  self_pairing_completes twoClusters ⟨twoWorld [userGroup "x" self "retain" "csi-driver"] [], []⟩
    (c := 0) (L := userGroup "x" self "retain" "csi-driver") rfl (by decide) rfl
    (List.not_mem_nil _) (by decide) rfl (by decide) rfl rfl rfl rfl (by decide)

end CsmReplication
