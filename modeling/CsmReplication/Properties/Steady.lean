import CsmReplication.Controller.Log
import CsmReplication.Properties.Sync

/-!
# A synced group whose mirror is in place

A pass on an active group `L` that carries the finalizer and `RGSyncComplete=yes`, has not been
asked for deletion, and finds the group it looks up on the remote cluster mirroring it, goes
straight to the action processing (lines 222-318): it creates, updates and deletes no
replication group, and changes `L` at most by stamping its action time. On an idle group (no
condition, a failed last action, or a stamp equal to the action's time) it writes nothing at all,
so once a pass has stamped `L`, the next pass from the world it left writes nothing.

The name looked up is the recorded one in two-cluster mode; in single-cluster mode it is
`replicated-<name>` whatever `L` recorded, unless `L`'s name starts with `replicated` (lines
96-104). A group asked for deletion is deleted (lines 215-218).
-/

namespace CsmReplication

/-- The entries a pass may log on a synced group whose mirror is in place: no write to a
replication group but the stamp of `L`'s action time. -/
def StampOnly (c : Nat) (L : DellCSIReplicationGroup) : Effect → Prop
  | .update d X _ =>
    d = c ∧ ∃ t, L.status.lastAction.time = some t ∧ X = L.annotate actionProcessedTime t
  | .delete .. | .createReplicationGroup .. | .updateReplicationGroup .. => False
  | _ => True

/-- The writes of the action processing on `L`: its action time stamped. -/
def StampWrite (c : Nat) (L : DellCSIReplicationGroup) (_ : World) (x : RGWrite) : Prop :=
  ∃ t, L.status.lastAction.time = some t ∧ x = .update c (L.annotate actionProcessedTime t)

/-- The stamp changes nothing the naming of the mirror reads. -/
theorem mirrorNaming_annotate_stamp (cfg : Config) (n : String) (L : DellCSIReplicationGroup)
    (t : String) :
    mirrorNaming cfg n (L.annotate actionProcessedTime t) = mirrorNaming cfg n L := by
  simp only [mirrorNaming, DellCSIReplicationGroup.annotate_annotations,
    DellCSIReplicationGroup.annotate_spec,
    StringMap.get_set_of_ne _ _ (by decide : remoteReplicationGroup ≠ actionProcessedTime),
    StringMap.get_set_of_ne _ _ (by decide : rgSyncComplete ≠ actionProcessedTime)]

section Steady

variable {cfg : Config} {o : Oracle} {c rc : Nat} {n : String} {L M : DellCSIReplicationGroup}

/-- The pass on a synced group whose mirror is in place, up to the action processing: it ends
early only on a failed read or connection. -/
theorem reconcile_of_synced (s : PassState) (hL : (s.world c).getRG n = .ok L)
    (hact : L.deleting = false) (hfin : rgFinalizer ∈ L.finalizers)
    (hdr : L.annotations.has deletionRequested = false)
    (hsync : L.annotations.get rgSyncComplete = "yes")
    (hrc : cfg.connection L.spec.remoteClusterId = some rc)
    (hM : (s.world rc).getRG (mirrorNaming cfg n L).remoteRGName = .ok M)
    (hmir : Mirrors (mirrorNaming cfg n L).localClusterID L M) :
    reconcile cfg o c n s =
      if s.faults.headD false then
        (.ofError (some (.api .failed)), { s with faults := s.faults.tail })
      else if s.faults.tail.headD false then
        (.ofError (some (.connection L.spec.remoteClusterId)),
          { s with faults := s.faults.tail.tail })
      else if s.faults.tail.tail.headD false then
        (.ret ⟨true, 0⟩ (some (.api .failed)), { s with faults := s.faults.tail.tail.tail })
      else processActions cfg o c rc L { s with faults := s.faults.tail.tail.tail } := by
  have hnil : L.annotations.isNil = false :=
    StringMap.isNil_eq_false_of_get (by rw [hsync]; decide)
  have hnaming : (mirrorNaming cfg n L).rgSyncComplete = true := by
    rw [mirrorNaming_rgSyncComplete, hsync]
    rfl
  rw [reconcile_apply]
  cases s.faults.headD false
  · simp only [Bool.false_eq_true, if_false, hL, reconcileRG_apply, hnil]
    cases s.faults.tail.headD false
    · simp only [Bool.false_eq_true, if_false, hrc, reconcileConnected_of_not_deleting hact,
        reconcileActive_of_mem hfin, hdr, Pass.bind_apply,
        verifyRemoteRG_of_agrees (s := { s with faults := s.faults.tail.tail }) hM
          (agrees_buildRemoteRG.2 hmir)]
      cases s.faults.tail.tail.headD false
      · simp [syncRemoteRG, hnaming]
      · rfl
    · rfl
  · rfl

/-- Action processing on `L` writes only the stamp, and logs only what `StampOnly` allows. -/
theorem processActions_stamps (s : PassState) :
    LogsOnly (StampOnly c L) s (processActions cfg o c rc L s).2 ∧
      Moves (StampWrite c L) s (processActions cfg o c rc L s).2 :=
  ⟨processActions_logs (fun e hw _ => by cases e <;> simp_all [StampOnly, Effect.writesRG]) cfg o
      c rc L trivial (fun t _ ht => ⟨rfl, t, ht, rfl⟩) s,
    processActions_moves (fun _ t ht => ⟨t, ht, rfl⟩) s⟩

/-- The stamp keeps every other group, and leaves `L` as it was or stamped. -/
theorem stamped_of_moves {s s' : PassState} (hL : lookupRG (s.world c).rgs n = some L)
    (hact : L.deleting = false) (hm : Moves (StampWrite c L) s s') :
    (∀ d m, (d = c → m ≠ n) → lookupRG (s'.world d).rgs m = lookupRG (s.world d).rgs m) ∧
      (lookupRG (s'.world c).rgs n = some L ∨ ∃ t, L.status.lastAction.time = some t ∧
        lookupRG (s'.world c).rgs n = some (L.annotate actionProcessedTime t)) := by
  have hLn : L.name = n := (lookupBy_eq_some _ hL).2
  refine Moves.keeps (P := fun w =>
      (∀ d m, (d = c → m ≠ n) → lookupRG (w d).rgs m = lookupRG (s.world d).rgs m) ∧
      (lookupRG (w c).rgs n = some L ∨ ∃ t, L.status.lastAction.time = some t ∧
        lookupRG (w c).rgs n = some (L.annotate actionProcessedTime t)))
    (fun w w' hs h => ⟨fun d m hdm => by rw [hs d]; exact h.1 d m hdm, by rw [hs c]; exact h.2⟩)
    (fun w x hx h => ?_) hm ⟨fun _ _ _ => rfl, .inl hL⟩
  obtain ⟨t, ht, rfl⟩ := hx
  have hX : (L.annotate actionProcessedTime t).name = n := hLn
  refine ⟨fun d m hdm => ?_, .inr ⟨t, ht, ?_⟩⟩
  · rw [RGWrite.lookup_apply_of_ne (.update c (L.annotate actionProcessedTime t)) w
      fun hd ht' => hdm hd.symm (ht'.symm.trans hX)]
    exact h.1 d m hdm
  · rw [← hX]
    rcases h.2 with hR | ⟨t', ht', hR⟩
    · exact RGWrite.lookup_apply_update_self (R := L) (hX ▸ hR) rfl rfl (by simp [hact])
    · exact RGWrite.lookup_apply_update_self (R := L.annotate actionProcessedTime t') (hX ▸ hR)
        rfl rfl (by simp [hact])

/-- A world that keeps every group but `L`, and holds `L` with its spec, still holds under the
mirror's name a group with the mirror's spec: the mirror itself, or `L` when `L` was its own. -/
theorem mirror_kept {w w' : World} {m : String} (hL : lookupRG (w c).rgs n = some L)
    (hM : lookupRG (w rc).rgs m = some M)
    (hothers : ∀ d m', (d = c → m' ≠ n) → lookupRG (w' d).rgs m' = lookupRG (w d).rgs m')
    {L' : DellCSIReplicationGroup} (hL' : lookupRG (w' c).rgs n = some L')
    (hspec : L'.spec = L.spec) : ∃ M', lookupRG (w' rc).rgs m = some M' ∧ M'.spec = M.spec := by
  by_cases h : rc = c ∧ m = n
  · obtain ⟨rfl, rfl⟩ := h
    obtain rfl := Option.some.inj (hL.symm.trans hM)
    exact ⟨L', hL', hspec⟩
  · exact ⟨M, (hothers rc m fun h₁ h₂ => h ⟨h₁, h₂⟩).trans hM, rfl⟩

end Steady

/-- The pass on a synced group whose mirror is in place writes only the stamp, keeps every other
group, and changes nothing on an idle group. -/
theorem reconcile_synced_stamps (cfg : Config) (o : Oracle) (c : Nat) (n : String)
    (s : PassState) {L M : DellCSIReplicationGroup} {rc : Nat}
    (hL : (s.world c).getRG n = .ok L) (hact : L.deleting = false)
    (hfin : rgFinalizer ∈ L.finalizers) (hdr : L.annotations.has deletionRequested = false)
    (hsync : L.annotations.get rgSyncComplete = "yes")
    (hrc : cfg.connection L.spec.remoteClusterId = some rc)
    (hM : (s.world rc).getRG (mirrorNaming cfg n L).remoteRGName = .ok M)
    (hmir : Mirrors (mirrorNaming cfg n L).localClusterID L M) :
    LogsOnly (StampOnly c L) s (reconcile cfg o c n s).2 ∧
      (∀ d m, (d = c → m ≠ n) →
        lookupRG ((reconcile cfg o c n s).2.world d).rgs m = lookupRG (s.world d).rgs m) ∧
      (lookupRG ((reconcile cfg o c n s).2.world c).rgs n = some L ∨
        ∃ t, L.status.lastAction.time = some t ∧
          lookupRG ((reconcile cfg o c n s).2.world c).rgs n =
            some (L.annotate actionProcessedTime t)) ∧
      (Idle L → (reconcile cfg o c n s).2.world = s.world ∧
        LogsOnly (fun e => e.isEvent = true) s (reconcile cfg o c n s).2) := by
  have hL' := Cluster.getRG_eq_ok hL
  have hfixed : ∀ s', s'.world = s.world → s'.log = s.log →
      LogsOnly (StampOnly c L) s s' ∧
      (∀ d m, (d = c → m ≠ n) → lookupRG (s'.world d).rgs m = lookupRG (s.world d).rgs m) ∧
      (lookupRG (s'.world c).rgs n = some L ∨ ∃ t, L.status.lastAction.time = some t ∧
        lookupRG (s'.world c).rgs n = some (L.annotate actionProcessedTime t)) ∧
      (Idle L → s'.world = s.world ∧ LogsOnly (fun e => e.isEvent = true) s s') :=
    fun s' hw hl => ⟨LogsOnly.of_log_eq hl, fun _ _ _ => by rw [hw], .inl (hw ▸ hL'),
      fun _ => ⟨hw, LogsOnly.of_log_eq hl⟩⟩
  rw [reconcile_of_synced s hL hact hfin hdr hsync hrc hM hmir]
  split_ifs
  · exact hfixed _ rfl rfl
  · exact hfixed _ rfl rfl
  · exact hfixed _ rfl rfl
  · obtain ⟨hlog, hm⟩ := @processActions_stamps cfg o c rc L
      { s with faults := s.faults.tail.tail.tail }
    obtain ⟨hothers, hself⟩ := stamped_of_moves hL' hact hm
    exact ⟨hlog, hothers, hself, fun hi => processActions_of_idle cfg o c rc hi _⟩

/-- A pass on a synced group whose mirror stands writes nothing but its stamp, and nothing on an
idle group; after a pass that stamped it, or on an idle group, the next pass writes nothing. -/
theorem reconcile_synced_stamps_only (cfg : Config) (o : Oracle) (c : Nat) (n : String)
    (s : PassState) {L M : DellCSIReplicationGroup} {rc : Nat}
    (hL : (s.world c).getRG n = .ok L) (hact : L.deleting = false)
    (hfin : rgFinalizer ∈ L.finalizers) (hdr : L.annotations.has deletionRequested = false)
    (hsync : L.annotations.get rgSyncComplete = "yes")
    (hrc : cfg.connection L.spec.remoteClusterId = some rc)
    (hM : (s.world rc).getRG (mirrorNaming cfg n L).remoteRGName = .ok M)
    (hmir : Mirrors (mirrorNaming cfg n L).localClusterID L M) :
    LogsOnly (StampOnly c L) s (reconcile cfg o c n s).2 ∧
      (∀ d m, (d = c → m ≠ n) →
        lookupRG ((reconcile cfg o c n s).2.world d).rgs m = lookupRG (s.world d).rgs m) ∧
      (lookupRG ((reconcile cfg o c n s).2.world c).rgs n = some L ∨
        ∃ t, L.status.lastAction.time = some t ∧
          lookupRG ((reconcile cfg o c n s).2.world c).rgs n =
            some (L.annotate actionProcessedTime t)) ∧
      (Idle L → (reconcile cfg o c n s).2.world = s.world ∧
        LogsOnly (fun e => e.isEvent = true) s (reconcile cfg o c n s).2) ∧
      ∀ L', lookupRG ((reconcile cfg o c n s).2.world c).rgs n = some L' → (Idle L ∨ L' ≠ L) →
        ∀ (o' : Oracle) (s' : PassState), s'.world = (reconcile cfg o c n s).2.world →
          (reconcile cfg o' c n s').2.world = s'.world ∧
          LogsOnly (fun e => e.isEvent = true) s' (reconcile cfg o' c n s').2 := by
  obtain ⟨hlog, hothers, hself, hidle⟩ :=
    reconcile_synced_stamps cfg o c n s hL hact hfin hdr hsync hrc hM hmir
  refine ⟨hlog, hothers, hself, hidle, fun L' hL₁ hwrote o' s' hw => ?_⟩
  have hn := Cluster.ne_empty_of_getRG_eq_ok hL
  have hm := Cluster.ne_empty_of_getRG_eq_ok hM
  have hlast : ∀ t, (L.annotate actionProcessedTime t).annotations.get rgSyncComplete = "yes" ∧
      (L.annotate actionProcessedTime t).annotations.has deletionRequested = false := fun t => by
    rw [DellCSIReplicationGroup.annotate_annotations,
      StringMap.get_set_of_ne _ _ (by decide : rgSyncComplete ≠ actionProcessedTime),
      StringMap.has_set_of_ne _ _ (by decide : deletionRequested ≠ actionProcessedTime)]
    exact ⟨hsync, hdr⟩
  rw [← hw] at hL₁ hothers
  have hkept := mirror_kept (Cluster.getRG_eq_ok hL) (Cluster.getRG_eq_ok hM) hothers hL₁
  rcases hself with hL₂ | ⟨t, ht, hL₂⟩ <;> rw [← hw] at hL₂ <;>
    obtain rfl := Option.some.inj (hL₂.symm.trans hL₁) <;> obtain ⟨M', hM', hspec⟩ := hkept rfl
  · exact (reconcile_synced_stamps cfg o' c n s' (Cluster.getRG_of_lookup hn hL₁) hact hfin hdr
      hsync hrc (Cluster.getRG_of_lookup hm hM') (hmir.of_spec_eq hspec)).2.2.2
      (hwrote.resolve_right (not_not.2 rfl))
  · rw [← mirrorNaming_annotate_stamp cfg n L t] at hm hM' hmir
    exact (reconcile_synced_stamps cfg o' c n s' (M := M') (Cluster.getRG_of_lookup hn hL₁) hact
      hfin (hlast t).2 (hlast t).1 hrc (Cluster.getRG_of_lookup hm hM') (hmir.of_spec_eq hspec)).2.2.2
      (quiet_stamp ht).idle

/-- `x` of cluster 0, synced with its mirror `x` on cluster 1. -/
def syncedX : DellCSIReplicationGroup :=
  markSynced "x" unsyncedX "x"

/-- The mirror of `syncedX` on cluster 1. -/
def mirrorX : DellCSIReplicationGroup :=
  mirrorCandidate configA storedOrder "x" unsyncedX false

theorem syncedX_stamps_only :
    let s : PassState := ⟨twoWorld [syncedX] [mirrorX], [], [], []⟩
    let s₁ := (reconcile configA storedOrder 0 "x" s).2
    LogsOnly (StampOnly 0 syncedX) s s₁ ∧
      (∀ d m, (d = 0 → m ≠ "x") → lookupRG (s₁.world d).rgs m = lookupRG (s.world d).rgs m) ∧
      (lookupRG (s₁.world 0).rgs "x" = some syncedX ∨ ∃ t, syncedX.status.lastAction.time = some t ∧
        lookupRG (s₁.world 0).rgs "x" = some (syncedX.annotate actionProcessedTime t)) ∧
      (Idle syncedX → s₁.world = s.world ∧ LogsOnly (fun e => e.isEvent = true) s s₁) ∧
      ∀ L', lookupRG (s₁.world 0).rgs "x" = some L' → (Idle syncedX ∨ L' ≠ syncedX) →
        ∀ (o' : Oracle) (s' : PassState), s'.world = s₁.world →
          (reconcile configA o' 0 "x" s').2.world = s'.world ∧
          LogsOnly (fun e => e.isEvent = true) s' (reconcile configA o' 0 "x" s').2 :=
  reconcile_synced_stamps_only configA storedOrder 0 "x" ⟨twoWorld [syncedX] [mirrorX], [], [], []⟩
    (M := mirrorX) rfl rfl (by decide) (by decide) (by decide) rfl rfl (by decide)

/-- A synced group whose mirror is in place but that the remote side asked to delete is deleted:
the pass issues a `Delete`. -/
theorem synced_group_deleted_on_request :
    (((Step.pass 0 "x" []).apply twoClusters
      ⟨twoWorld [syncedX.annotate deletionRequested "yes"] [mirrorX], []⟩).group 0 "x").map
        (·.deleting) = some true := by
  decide

end CsmReplication
