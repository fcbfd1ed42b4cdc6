import CsmReplication.Controller.Paths

/-!
# The paths of a pass when calls fail

A call of a pass fails before it reaches the server, or goes through. On the paths the pairing of
a new group takes, a pass that meets a failure returns at once, so it leaves the world as the pass
with no failure would, cut short before one of its writes. This module computes those worlds for
every answer of the calls: on a name no group has, on a group without the finalizer, on a group
that creates its mirror and records it, on a group that finds its mirror and adopts it, and on a
group asked for deletion, live or deleting.

None of these failures is silent: a pass cut short returns the error, or asks to be requeued, so
controller-runtime runs it again (`Reply.Retries`). A deleting group whose mirror goes with it
asks to be run again on every pass until it is released (`reconcile_polls_mirror`).
-/

namespace CsmReplication

section Failures

variable {cfg : Config} {o : Oracle} {c : Nat} {n : String} {L : DellCSIReplicationGroup}

/-- A write whose call fails answers with an error, which the pass returns. -/
theorem Client.write_of_fault {d : Nat} {op : Cluster → Except ApiError Cluster} {s : PassState}
    (h : s.faults.headD false = true) : (Client.write d op s).1 = .error .failed := by
  rw [Client.write_apply, if_pos h]

theorem Client.update_retries {d : Nat} {rg : DellCSIReplicationGroup} {s : PassState}
    (h : s.faults.headD false = true) : (Reply.ofWrite (Client.update d rg s).1).Retries := by
  rw [show (Client.update d rg s).1 = .error .failed from
    @Client.write_of_fault d (·.updateRG rg) s h]
  exact Reply.ofWrite_retries _

theorem Client.delete_retries {d : Nat} {rg : DellCSIReplicationGroup} {s : PassState}
    (h : s.faults.headD false = true) : (Reply.ofWrite (Client.delete d rg s).1).Retries := by
  rw [show (Client.delete d rg s).1 = .error .failed from
    @Client.write_of_fault d (·.deleteRG rg.name) s h]
  exact Reply.ofWrite_retries _

/-- A pass on a name no group has changes nothing (lines 70-77). -/
theorem reconcile_world_of_absent (s : PassState) (h : lookupRG (s.world c).rgs n = none) :
    (reconcile cfg o c n s).2.world = s.world := by
  rw [reconcile_apply]
  split
  · rfl
  · rename_i R hR
    split at hR
    · cases hR
    · exact absurd (Cluster.getRG_eq_ok hR) (by simp [h])

/-- A pass on a live group without the finalizer adds it, unless a call fails first and the pass
asks to be run again (line 211). -/
theorem reconcile_adds_finalizer_or_fails (s : PassState) (hL : lookupRG (s.world c).rgs n = some L)
    (hn : n ≠ "") (hlive : L.deleting = false) (hfin : rgFinalizer ∉ L.finalizers)
    (hnil : L.annotations.isNil = false) :
    (reconcile cfg o c n s).2.world = s.world ∧ (reconcile cfg o c n s).1.Retries ∨
      (reconcile cfg o c n s).2.world =
        (RGWrite.update c { L with finalizers := L.finalizers ++ [rgFinalizer] }).apply
          s.world := by
  rw [reconcile_apply]
  cases s.faults.headD false
  case true => exact .inl ⟨rfl, Or.inl rfl⟩
  case false =>
    simp only [Bool.false_eq_true, if_false, Cluster.getRG_of_lookup hn hL, reconcileRG_apply, hnil]
    cases (if s.faults.tail.headD false then none else cfg.connection L.spec.remoteClusterId) with
    | none => exact .inl ⟨rfl, Or.inl rfl⟩
    | some rc =>
      simp only [reconcileConnected_of_not_deleting hlive, reconcileActive_of_not_mem hfin,
        Pass.bind_apply, Pass.pure_apply, Client.update_world]
      split_ifs with hf
      · exact .inl ⟨rfl, Client.update_retries hf⟩
      · exact .inr rfl

/-- A live, unsynced group with the finalizer whose mirror is in place gets the mirror's name
recorded, unless a call fails first and the pass asks to be rerun (lines 228-308). -/
theorem reconcile_adopts_mirror_or_fails (s : PassState) (hL : lookupRG (s.world c).rgs n = some L)
    (hn : n ≠ "") (hlive : L.deleting = false) (hfin : rgFinalizer ∈ L.finalizers)
    (hdr : L.annotations.has deletionRequested = false) (hnil : L.annotations.isNil = false)
    (hsync : L.annotations.get rgSyncComplete ≠ "yes") {rc : Nat} {R : DellCSIReplicationGroup}
    (hrc : cfg.connection L.spec.remoteClusterId = some rc)
    (hm : (mirrorNaming cfg n L).remoteRGName ≠ "")
    (hR : lookupRG (s.world rc).rgs (mirrorNaming cfg n L).remoteRGName = some R)
    (hmir : Mirrors (mirrorNaming cfg n L).localClusterID L R) :
    (reconcile cfg o c n s).2.world = s.world ∧ (reconcile cfg o c n s).1.Retries ∨
      (reconcile cfg o c n s).2.world =
        (RGWrite.update c (markSynced n L (mirrorNaming cfg n L).remoteRGName)).apply s.world := by
  have hnaming : (mirrorNaming cfg n L).rgSyncComplete = false := by
    rw [mirrorNaming_rgSyncComplete]
    simpa using hsync
  rw [reconcile_apply]
  cases s.faults.headD false
  case true => exact .inl ⟨rfl, Or.inl rfl⟩
  case false =>
    simp only [Bool.false_eq_true, if_false, Cluster.getRG_of_lookup hn hL, reconcileRG_apply, hnil]
    cases s.faults.tail.headD false
    case true => exact .inl ⟨rfl, Or.inl rfl⟩
    case false =>
      simp only [Bool.false_eq_true, if_false, hrc, reconcileConnected_of_not_deleting hlive,
        reconcileActive_of_mem hfin, hdr, Pass.bind_apply,
        verifyRemoteRG_of_agrees (s := ⟨s.world, s.faults.tail.tail, s.clock, s.log⟩)
          (Cluster.getRG_of_lookup hm hR) (agrees_buildRemoteRG.2 hmir)]
      cases s.faults.tail.tail.headD false
      case true => exact .inl ⟨rfl, Or.inl rfl⟩
      case false =>
        simp only [Bool.false_eq_true, if_false, syncRemoteRG, hnaming, Bool.not_false, if_true,
          recordRemoteRG, Pass.bind_apply, Pass.pure_apply, Client.update_world]
        split_ifs with hf
        · exact .inl ⟨rfl, Client.update_retries hf⟩
        · exact .inr rfl

/-- A live, unsynced group with the finalizer whose mirror's name is free gets the mirror created
and recorded, unless a failed call stops the pass, which then asks to be rerun (lines 228-308). -/
theorem reconcile_creates_mirror_or_fails (s : PassState)
    (hL : lookupRG (s.world c).rgs n = some L) (hn : n ≠ "") (hlive : L.deleting = false)
    (hfin : rgFinalizer ∈ L.finalizers) (hdr : L.annotations.has deletionRequested = false)
    (hnil : L.annotations.isNil = false) (hsync : L.annotations.get rgSyncComplete ≠ "yes")
    {rc : Nat} (hrc : cfg.connection L.spec.remoteClusterId = some rc)
    (hm : (mirrorNaming cfg n L).remoteRGName ≠ "")
    (hfree : lookupRG (s.world rc).rgs (mirrorNaming cfg n L).remoteRGName = none)
    (hrr : contains (mirrorNaming cfg n L).remoteRGName "replicated-replicated" = false) :
    (reconcile cfg o c n s).2.world = s.world ∧ (reconcile cfg o c n s).1.Retries ∨
      (reconcile cfg o c n s).2.world =
        (RGWrite.create rc (buildRemoteRG cfg o n L (mirrorNaming cfg n L))).apply s.world ∧
        (reconcile cfg o c n s).1.Retries ∨
      (reconcile cfg o c n s).2.world =
        (RGWrite.update c (markSynced n L (mirrorNaming cfg n L).remoteRGName)).apply
          ((RGWrite.create rc (buildRemoteRG cfg o n L (mirrorNaming cfg n L))).apply s.world) := by
  have hnaming : (mirrorNaming cfg n L).rgSyncComplete = false := by
    rw [mirrorNaming_rgSyncComplete]
    simpa using hsync
  have hcreate :
      (RGWrite.create rc (buildRemoteRG cfg o n L (mirrorNaming cfg n L))).apply s.world =
      Function.update s.world rc { s.world rc with
        rgs := (s.world rc).rgs ++ [{ buildRemoteRG cfg o n L (mirrorNaming cfg n L) with
          deleting := false }] } :=
    RGWrite.apply_of_ok (Cluster.createRG_of_lookup_none hfree)
  rw [reconcile_apply]
  cases s.faults.headD false
  case true => exact .inl ⟨rfl, Or.inl rfl⟩
  case false =>
    simp only [Bool.false_eq_true, if_false, Cluster.getRG_of_lookup hn hL, reconcileRG_apply, hnil]
    cases s.faults.tail.headD false
    case true => exact .inl ⟨rfl, Or.inl rfl⟩
    case false =>
      simp only [Bool.false_eq_true, if_false, hrc, reconcileConnected_of_not_deleting hlive,
        reconcileActive_of_mem hfin, hdr, Pass.bind_apply, verifyRemoteRG,
        Client.getReplicationGroup_apply]
      cases s.faults.tail.tail.headD false
      case true => exact .inl ⟨rfl, Or.inl rfl⟩
      case false =>
        simp only [Bool.false_eq_true, if_false, Cluster.getRG_of_lookup_none hm hfree, hnaming,
          hrr, Bool.not_false, Pass.pure_apply, Pass.pure_bind, Pass.bind_apply, syncRemoteRG,
          if_true, createRemoteRG, Client.createReplicationGroup, Client.logged_apply,
          Client.write_apply]
        cases s.faults.tail.tail.tail.headD false
        case true => exact .inl ⟨rfl, Or.inl rfl⟩
        case false =>
          simp only [Bool.false_eq_true, if_false,
            @Cluster.createRG_of_lookup_none (s.world rc) (buildRemoteRG cfg o n L _) hfree,
            Client.event, Client.record_apply, Pass.bind_apply, Pass.pure_apply, recordRemoteRG,
            Client.update_world, hcreate]
          split_ifs with hf
          · exact .inr (.inl ⟨rfl, Client.update_retries hf⟩)
          · exact .inr (.inr rfl)

/-- A pass on a live group asked for deletion deletes it, unless a call fails first and the pass
asks to be run again (lines 215-219). -/
theorem reconcile_deletes_asked_group_or_fails (s : PassState)
    (hL : lookupRG (s.world c).rgs n = some L) (hn : n ≠ "") (hlive : L.deleting = false)
    (hfin : rgFinalizer ∈ L.finalizers) (hdr : L.annotations.has deletionRequested = true) :
    (reconcile cfg o c n s).2.world = s.world ∧ (reconcile cfg o c n s).1.Retries ∨
      (reconcile cfg o c n s).2.world = (RGWrite.delete c L.name).apply s.world := by
  rw [reconcile_apply]
  cases s.faults.headD false
  case true => exact .inl ⟨rfl, Or.inl rfl⟩
  case false =>
    simp only [Bool.false_eq_true, if_false, Cluster.getRG_of_lookup hn hL, reconcileRG_apply,
      StringMap.isNil_eq_false_of_has hdr]
    cases (if s.faults.tail.headD false then none else cfg.connection L.spec.remoteClusterId) with
    | none => exact .inl ⟨rfl, Or.inl rfl⟩
    | some rc =>
      simp only [reconcileConnected_of_not_deleting hlive, reconcileActive_of_mem hfin, hdr,
        if_true, Pass.bind_apply, Pass.pure_apply, Client.delete_world]
      split_ifs with hf
      · exact .inl ⟨rfl, Client.delete_retries hf⟩
      · exact .inr rfl

/-- A pass on a deleting group asked for deletion releases it, unless a call fails first and the
pass asks to be run again (lines 168 and 199-204). -/
theorem reconcile_releases_asked_group_or_fails (s : PassState)
    (hL : lookupRG (s.world c).rgs n = some L) (hn : n ≠ "") (hdel : L.deleting = true)
    (hfin : rgFinalizer ∈ L.finalizers) (hdr : L.annotations.has deletionRequested = true) :
    (reconcile cfg o c n s).2.world = s.world ∧ (reconcile cfg o c n s).1.Retries ∨
      (reconcile cfg o c n s).2.world =
        (RGWrite.update c { L with finalizers := L.finalizers.erase rgFinalizer }).apply
          s.world := by
  rw [reconcile_apply]
  cases s.faults.headD false
  case true => exact .inl ⟨rfl, Or.inl rfl⟩
  case false =>
    simp only [Bool.false_eq_true, if_false, Cluster.getRG_of_lookup hn hL, reconcileRG_apply,
      StringMap.isNil_eq_false_of_has hdr]
    cases (if s.faults.tail.headD false then none else cfg.connection L.spec.remoteClusterId) with
    | none => exact .inl ⟨rfl, Or.inl rfl⟩
    | some rc =>
      simp only [reconcileConnected_of_deleting hdel, Pass.bind_apply, handleDeletion_apply, hdr,
        if_true, removeFinalizer_of_mem hfin, Pass.pure_apply, Client.update_world]
      split_ifs with hf
      · exact .inl ⟨rfl, Client.update_retries hf⟩
      · exact .inr rfl

/-- A pass on a deleting group that deletes its mirror asks to be rerun unless it releases the
group, which it does only when no group holds the mirror's name (lines 160-204). -/
theorem reconcile_polls_mirror (s : PassState) (hL : (s.world c).getRG n = .ok L)
    (hdel : L.deleting = true) (hfin : rgFinalizer ∈ L.finalizers)
    (hdr : L.annotations.has deletionRequested = false) (hpol : DeletesMirror L) :
    (reconcile cfg o c n s).1.Retries ∨
      ∃ rc, cfg.connection L.spec.remoteClusterId = some rc ∧
        lookupRG (s.world rc).rgs (L.annotations.get remoteReplicationGroup) = none ∧
        (reconcile cfg o c n s).2.world =
          (RGWrite.update c { L with finalizers := L.finalizers.erase rgFinalizer }).apply
            s.world := by
  have hnil := hpol.isNil
  rw [DeletesMirror] at hpol
  rw [reconcile_apply]
  cases s.faults.headD false
  case true => exact .inl (Or.inl rfl)
  case false =>
    simp only [Bool.false_eq_true, if_false, hL, reconcileRG_apply, hnil]
    split
    · exact .inl (Or.inl rfl)
    rename_i rc hrc
    have hrc' : cfg.connection L.spec.remoteClusterId = some rc := by
      split at hrc
      · cases hrc
      · exact hrc
    simp only [reconcileConnected_of_deleting hdel, Pass.bind_apply, handleDeletion_apply, hdr,
      Bool.false_eq_true, if_false, hpol, if_true, removeFinalizer_of_mem hfin]
    split
    case h_1 e hget =>
      -- The lookup of the mirror failed: an error, or no group under the name.
      split
      · exact .inl (Or.inl rfl)
      rename_i he
      have hnone : lookupRG (s.world rc).rgs (L.annotations.get remoteReplicationGroup) = none := by
        split at hget
        · cases hget
          exact absurd (by decide) he
        · exact Cluster.getRG_eq_notFound (not_not.1 he ▸ hget)
      simp only [Pass.pure_apply, Client.update_world]
      split_ifs with hf
      · exact .inl (Client.update_retries hf)
      · exact .inr ⟨rc, hrc', hnone, rfl⟩
    case h_2 R _ =>
      -- The mirror is there: the pass requeues, or asks the mirror for deletion.
      split
      · exact .inl (Or.inr (Or.inl rfl))
      · obtain ⟨r, hret, hr⟩ :=
          requestRemoteDeletion_state rc R { s with faults := s.faults.tail.tail.tail }
        simp only [hr, Pass.pure_apply]
        exact .inl hret

end Failures

end CsmReplication
