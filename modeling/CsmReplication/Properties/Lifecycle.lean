import CsmReplication.Properties.Recovery
import CsmReplication.Properties.Teardown

/-!
# The life of a replicated group

A group a user creates is paired with its mirror, and when the user deletes it, the handshake
removes both. The two protocols fit together: the pairing leaves the groups exactly where the
handshake starts, `L` with `RGFinalizer` alone and recording its mirror's name, the mirror paired
with `L`; the user's delete marks `L` deleting and leaves the mirror as it is.

So a group created without finalizers and with the `delete` retention policy goes through its
whole life whatever fails on the way (`group_life_under_failures`): any passes on the two groups,
with any failures, then four passes with no failure pair them; the user deletes `L`; any passes
again, then the four passes of the handshake with no failure remove both.
-/

namespace CsmReplication

/-- Recording the mirror keeps the retention policy. -/
theorem deletesMirror_markSynced {X : DellCSIReplicationGroup} {n name : String}
    (h : DeletesMirror X) : DeletesMirror (markSynced n X name) := by
  simpa [DeletesMirror, markSynced, DellCSIReplicationGroup.annotate,
    StringMap.lookup_set_of_ne _ _ (by decide : remoteRGRetentionPolicy ≠ rgSyncComplete),
    StringMap.lookup_set_of_ne _ _ (by decide : remoteRGRetentionPolicy ≠ remoteReplicationGroup)]
    using h

/-- A group's whole life under failed calls: any passes, a clean pairing, the user's delete, any
passes, a clean handshake; both groups are then removed. -/
theorem group_life_under_failures (cfgs : Nat → Config) (σ : Sys) {c rc : Nat} {m : String}
    {L : DellCSIReplicationGroup} (h : PairingSetup cfgs c rc m L) (hfin : L.finalizers = [])
    (hpol : DeletesMirror L) (hL : lookupRG (σ.world c).rgs L.name = some L)
    (hfree : lookupRG (σ.world rc).rgs m = none) (steps₁ steps₂ : List Step)
    (hsteps₁ : ∀ st ∈ steps₁, ∃ faults clock o,
      st = .reconcile c L.name faults clock o ∨ st = .reconcile rc m faults clock o)
    (hsteps₂ : ∀ st ∈ steps₂, ∃ faults clock o,
      st = .reconcile c L.name faults clock o ∨ st = .reconcile rc m faults clock o) :
    (run cfgs (steps₁ ++ [.pass c L.name [], .pass c L.name [], .pass rc m [], .pass rc m []] ++
        [.delete c L.name] ++ steps₂ ++
        [.pass c L.name [], .pass rc m [], .pass rc m [], .pass c L.name []]) σ).group c L.name =
        none ∧
      (run cfgs (steps₁ ++ [.pass c L.name [], .pass c L.name [], .pass rc m [], .pass rc m []] ++
        [.delete c L.name] ++ steps₂ ++
        [.pass c L.name [], .pass rc m [], .pass rc m [], .pass c L.name []]) σ).group rc m =
        none := by
  have hne := mirror_apart hL hfree
  have hf := h.facts
  rw [run_append, run_append, run_append, run_append]
  -- The pairing, whatever fails, then four passes with no failure.
  obtain ⟨o, s, hv, hs⟩ := hf.pairingAt_run hne steps₁ hsteps₁ (pairingAt_start cfgs hL hfree)
  obtain ⟨o', hs'⟩ := hf.run_pairs hne hv hs
  set σ₁ := run cfgs [.pass c L.name [], .pass c L.name [], .pass rc m [], .pass rc m []]
    (run cfgs steps₁ σ)
  set L₂ := markSynced L.name { L with finalizers := L.finalizers ++ [rgFinalizer] } m
  set M₂ := markSynced m { mirrorCandidate (cfgs c) o' L.name L false with
    finalizers := (mirrorCandidate (cfgs c) o' L.name L false).finalizers ++ [rgFinalizer] } L.name
  have hMn : M₂.name = m := hf.candidate_name o'
  have hpaired : PairedAt (cfgs rc) σ₁.world rc m M₂ c L₂ := hf.pairedAt_mirror hs' rfl
  -- The user deletes `L`, which its finalizer holds; the mirror stays as it is.
  set σ₂ := run cfgs [.delete c L.name] σ₁
  have hL₃ : lookupRG (σ₂.world c).rgs L.name = some { L₂ with deleting := true } :=
    RGWrite.lookup_apply_delete_of_finalizers (R := L₂) hs'.1 (by simp [L₂, markSynced, hfin])
  have hM₃ : lookupRG (σ₂.world rc).rgs M₂.name = some M₂ := by
    rw [hMn]
    exact (RGWrite.lookup_apply_of_ne (.delete c L.name) σ₁.world
      fun h₁ h₂ => hne h₁.symm h₂.symm).trans hs'.2
  -- The deleted `L` and its mirror are where the handshake starts.
  have ht : TeardownSetup cfgs c rc { L₂ with deleting := true } M₂ :=
    ⟨h.name_ne, rfl, by simp [L₂, markSynced, hfin],
      (markSynced_has_deletionRequested _ _ _).trans h.not_requested, deletesMirror_markSynced hpol,
      h.connection,
      (markSynced_remote _ _ _).trans ((recordedName_of_not_contains _ h.name_plain).trans hMn.symm),
      by simp [M₂, markSynced]⟩
  have hM : PairedAt (cfgs rc) σ₂.world rc M₂.name M₂ c { L₂ with deleting := true } :=
    hMn ▸ { hpaired with
      lookup := hMn ▸ hM₃
      mirror_lookup := by rw [hf.peer_naming_synced]; exact hL₃ }
  have hne' : rc = c → M₂.name ≠ L.name := fun h₁ h₂ => hne h₁ (hMn.symm.trans h₂)
  -- The handshake, whatever fails, then its four passes with no failure.
  obtain ⟨s₂, hv₂, hs₂⟩ := ht.teardownAt_run hM hne' steps₂ (hMn ▸ hsteps₂) (σ := σ₂)
    ⟨(true, .live), trivial, hL₃, hM₃⟩
  rw [← hMn]
  exact ht.run_removes hM hne' hv₂ hs₂

/-- The user's group `x`, with the `delete` retention policy, meets what the pairing assumes. -/
theorem condemnableX_setup :
    PairingSetup twoClusters 0 1 "x" (userGroup "x" "B" "delete" "csi-driver") :=
  ⟨by decide, rfl, List.not_mem_nil _, by decide, rfl, by decide, by decide, by decide, by decide,
    rfl, rfl, rfl, rfl, by decide, by decide⟩

/-- The group `x` is paired after the failing passes, deleted by its user, and removed with its
mirror after the failing passes of the handshake. -/
theorem condemnableX_life :
    (run twoClusters (failingPasses ++ [.pass 0 "x" [], .pass 0 "x" [], .pass 1 "x" [],
        .pass 1 "x" []] ++ [.delete 0 "x"] ++ failingTeardown ++
        [.pass 0 "x" [], .pass 1 "x" [], .pass 1 "x" [], .pass 0 "x" []])
        ⟨twoWorld [userGroup "x" "B" "delete" "csi-driver"] [], []⟩).group 0 "x" = none ∧
      (run twoClusters (failingPasses ++ [.pass 0 "x" [], .pass 0 "x" [], .pass 1 "x" [],
        .pass 1 "x" []] ++ [.delete 0 "x"] ++ failingTeardown ++
        [.pass 0 "x" [], .pass 1 "x" [], .pass 1 "x" [], .pass 0 "x" []])
        ⟨twoWorld [userGroup "x" "B" "delete" "csi-driver"] [], []⟩).group 1 "x" = none :=
  @group_life_under_failures twoClusters
    ⟨twoWorld [userGroup "x" "B" "delete" "csi-driver"] [], []⟩ 0 1 "x"
    (userGroup "x" "B" "delete" "csi-driver") condemnableX_setup rfl (by decide) rfl rfl
    failingPasses failingTeardown (by simp [failingPasses, userGroup])
    (by simp [failingTeardown, userGroup])

end CsmReplication
