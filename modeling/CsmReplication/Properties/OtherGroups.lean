import CsmReplication.System.Run

/-!
# What a pass does to the other groups

A pass on the group `L` (named `n`, of cluster `c`) writes `L` itself, creates its mirror, and in
the deletion branch marks one group for deletion: the one `L`'s `RemoteReplicationGroup`
annotation names on `L`'s remote cluster, as that group stands (lines 170-186). The create never
replaces an existing group, so every group other than `L` that exists before the pass is, after
it, exactly as it was, or that annotated group with `DeletionRequested=yes` added.

Nothing checks that the annotated group is `L`'s mirror: a user may delete the mirror and create
an unrelated group under its name, and the deletion of `L` then marks that group.

The update that marks the group keeps its finalizers; it would remove a deleting group without
finalizers, but the server never holds one (`Cluster.Wf`, kept by every write and every step).
-/

namespace CsmReplication

/-! ## The server's invariant -/

/-- The server removes a deleting group once it has no finalizers, so none is ever stored. -/
def Cluster.Wf (cl : Cluster) : Prop :=
  ∀ R ∈ cl.rgs, R.deleting = true → R.finalizers ≠ []

instance : DecidablePred Cluster.Wf :=
  fun cl => inferInstanceAs (Decidable (∀ R ∈ cl.rgs, R.deleting = true → R.finalizers ≠ []))

/-- Every server holds only what a server can hold. -/
def WorldWf (w : World) : Prop :=
  ∀ d, (w d).Wf

namespace Cluster

theorem updateRG_wf {cl cl' : Cluster} {rg : DellCSIReplicationGroup} (h : cl.Wf)
    (hu : cl.updateRG rg = .ok cl') : cl'.Wf := by
  obtain ⟨old, -, -, ⟨-, -, hrgs⟩ | ⟨hkept, hrgs⟩⟩ := updateRG_eq_ok hu <;> rw [Wf, hrgs]
  · exact fun R hR => h R (mem_of_mem_removeRG hR)
  · intro R hR hdel
    rcases mem_of_mem_replaceRG hR with hR | rfl
    · exact h R hR hdel
    · exact fun hnil => hkept ⟨hdel, hnil⟩

theorem createRG_wf {cl cl' : Cluster} {rg : DellCSIReplicationGroup} (h : cl.Wf)
    (hc : cl.createRG rg = .ok cl') : cl'.Wf := by
  unfold createRG at hc
  cases hb : createBy DellCSIReplicationGroup.name cl.rgs { rg with deleting := false } <;>
    rw [hb] at hc <;> cases hc
  intro R hR hdel
  rcases List.mem_append.1 ((createBy_eq_ok _ hb).2 ▸ hR) with hR | hR
  · exact h R hR hdel
  · simp only [List.mem_singleton] at hR
    subst hR
    cases hdel

theorem deleteRG_wf {cl cl' : Cluster} {n : String} (h : cl.Wf) (hd : cl.deleteRG n = .ok cl') :
    cl'.Wf := by
  obtain ⟨x, -, ⟨-, hrgs⟩ | ⟨hfin, hrgs⟩⟩ := deleteRG_eq_ok hd <;> rw [Wf, hrgs]
  · exact fun R hR => h R (mem_of_mem_removeRG hR)
  · intro R hR hdel
    rcases mem_of_mem_replaceRG hR with hR | rfl
    · exact h R hR hdel
    · exact hfin

end Cluster

theorem RGWrite.apply_wf (x : RGWrite) {w : World} (h : WorldWf w) : WorldWf (x.apply w) := by
  intro d
  cases hcl : x.result (w x.cluster) with
  | error e => rw [apply_of_error hcl]; exact h d
  | ok cl =>
    rw [apply_of_ok hcl]
    by_cases hd : d = x.cluster
    · subst hd
      rw [Function.update_same]
      cases x with
      | update _ rg => exact Cluster.updateRG_wf (h _) hcl
      | create _ rg => exact Cluster.createRG_wf (h _) hcl
      | delete _ n => exact Cluster.deleteRG_wf (h _) hcl
    · rw [Function.update_noteq hd]
      exact h d

theorem WorldWf.of_sameRGs {w w' : World} (hs : SameRGs w w') (h : WorldWf w) : WorldWf w' :=
  fun d R hR => h d R (hs d ▸ hR)

theorem WorldWf.of_moves {cfg : Config} {o : Oracle} {c rc : Nat} {n : String}
    {L : DellCSIReplicationGroup} {s s' : PassState} (hm : Moves (AllowedWrite cfg o c rc n L) s s')
    (h : WorldWf s.world) : WorldWf s'.world :=
  Moves.keeps (fun _ _ hs h => h.of_sameRGs hs) (fun _ x _ h => x.apply_wf h) hm h

/-- Every pass keeps the server's invariant. -/
theorem reconcile_wf (cfg : Config) (o : Oracle) (c : Nat) (n : String) (s : PassState)
    (h : WorldWf s.world) : WorldWf (reconcile cfg o c n s).2.world := by
  rcases reconcile_moves cfg o c n s with hs | ⟨L, rc, -, -, hm⟩
  · exact h.of_sameRGs hs
  · exact h.of_moves hm

/-- Every step, of a controller or of a user, keeps the server's invariant. -/
theorem Step.apply_wf (cfgs : Nat → Config) (st : Step) {σ : Sys} (h : WorldWf σ.world) :
    WorldWf (st.apply cfgs σ).world := by
  cases st with
  | reconcile c n faults clock o => exact reconcile_wf _ _ _ _ _ h
  | create c rg => exact RGWrite.apply_wf _ h
  | delete c n => exact RGWrite.apply_wf _ h

/-! ## The groups a pass leaves alone -/

/-- The pass on `L`, whose remote cluster is `rc`, asks for the deletion of `R`, named `m` on
`d` (lines 170-186). -/
structure AsksDeletion (L : DellCSIReplicationGroup) (rc d : Nat) (m : String)
    (R : DellCSIReplicationGroup) : Prop where
  cluster : d = rc
  deleting : L.deleting = true
  not_asked : L.annotations.has deletionRequested = false
  policy : toLower ((L.annotations.lookup remoteRGRetentionPolicy).getD
    remoteRetentionValueRetain) = remoteRetentionValueDelete
  target : L.annotations.get remoteReplicationGroup = m
  target_not_asked : R.annotations.has deletionRequested = false

/-- Where the group `R`, named `m` on cluster `d`, stands while a pass on `L` writes: as it was,
or marked for deletion when the pass asks for it. -/
def StandsAs (L : DellCSIReplicationGroup) (rc d : Nat) (m : String) (R : DellCSIReplicationGroup)
    (w : World) : Prop :=
  lookupRG (w d).rgs m = some R ∨
    AsksDeletion L rc d m R ∧ lookupRG (w d).rgs m = some (R.annotate deletionRequested "yes")

theorem StandsAs.of_sameRGs {L R : DellCSIReplicationGroup} {rc d : Nat} {m : String}
    {w w' : World} (hs : SameRGs w w') (h : StandsAs L rc d m R w) : StandsAs L rc d m R w' := by
  unfold StandsAs at *
  rwa [hs d]

section Step

variable {cfg : Config} {o : Oracle} {c rc : Nat} {n : String} {L : DellCSIReplicationGroup}
  {d : Nat} {m : String} {R : DellCSIReplicationGroup}

/-- A write of the pass on `L` about another group than `L` and than the one `L` names is
no write to `m`. -/
theorem StandsAs.of_ne {w : World} {x : RGWrite} (h : StandsAs L rc d m R w)
    (hx : x.cluster = d → x.target ≠ m) : StandsAs L rc d m R (x.apply w) := by
  unfold StandsAs
  rwa [RGWrite.lookup_apply_of_ne x w hx]

/-- One allowed write keeps `R` where it stands. -/
theorem StandsAs.step (hL : L.name = n) (hne : d = c → m ≠ n)
    (hwf : R.deleting = true → R.finalizers ≠ []) {w : World} {x : RGWrite}
    (hx : AllowedWrite cfg o c rc n L w x) (h : StandsAs L rc d m R w) :
    StandsAs L rc d m R (x.apply w) := by
  have hself : ∀ X : DellCSIReplicationGroup, X.name = n →
      StandsAs L rc d m R ((RGWrite.update c X).apply w) := fun X hX =>
    h.of_ne fun hd => by rw [RGWrite.target, hX]; exact (hne hd.symm).symm
  cases hx with
  | addFinalizer => exact hself _ hL
  | removeFinalizer => exact hself _ hL
  | record => exact hself _ (by simpa [markSynced] using hL)
  | stamp => exact hself _ (by simpa using hL)
  | delete _ => exact h.of_ne fun hd => by rw [RGWrite.target, hL]; exact (hne hd.symm).symm
  | create =>
    rcases h with h | ⟨hask, h⟩
    · exact .inl (RGWrite.lookup_apply_create h)
    · exact .inr ⟨hask, RGWrite.lookup_apply_create h⟩
  | requestDeletion R' hdel hdr hpol hR' hR'dr =>
    have hname : R'.name = L.annotations.get remoteReplicationGroup := (lookupBy_eq_some _ hR').2
    by_cases hdm : rc = d ∧ L.annotations.get remoteReplicationGroup = m
    · obtain ⟨rfl, rfl⟩ := hdm
      rcases h with h | ⟨-, h⟩
      · obtain rfl : R' = R := Option.some.inj (hR'.symm.trans h)
        refine .inr ⟨⟨rfl, hdel, hdr, hpol, rfl, hR'dr⟩, ?_⟩
        have := RGWrite.lookup_apply_update_self (X := R'.annotate deletionRequested "yes")
          (R := R') (by rw [DellCSIReplicationGroup.annotate_name, hname]; exact hR') rfl rfl hwf
        rwa [DellCSIReplicationGroup.annotate_name, hname] at this
      · obtain rfl : R' = R.annotate deletionRequested "yes" := Option.some.inj (hR'.symm.trans h)
        simp [StringMap.has_set_self] at hR'dr
    · exact h.of_ne fun hd ht =>
        hdm ⟨hd, by rw [← ht, RGWrite.target, DellCSIReplicationGroup.annotate_name, hname]⟩

/-- A whole pass keeps `R` where it stands. -/
theorem StandsAs.of_moves (hL : L.name = n) (hne : d = c → m ≠ n)
    (hwf : R.deleting = true → R.finalizers ≠ []) {s s' : PassState}
    (hm : Moves (AllowedWrite cfg o c rc n L) s s') (h : StandsAs L rc d m R s.world) :
    StandsAs L rc d m R s'.world :=
  Moves.keeps (fun _ _ hs h => h.of_sameRGs hs) (fun _ _ hx h => h.step hL hne hwf hx) hm h

end Step

/-- A pass leaves every other existing group as it was, except that a deleting group not retaining
its mirror may mark the group its annotation names with `DeletionRequested=yes`. -/
theorem reconcile_leaves_other_groups (cfg : Config) (o : Oracle) (c : Nat) (n : String)
    (s : PassState) (hwf : WorldWf s.world) {d : Nat} {m : String} {R : DellCSIReplicationGroup}
    (hR : lookupRG (s.world d).rgs m = some R) (hne : d = c → m ≠ n) :
    lookupRG ((reconcile cfg o c n s).2.world d).rgs m = some R ∨
      ∃ L rc, lookupRG (s.world c).rgs n = some L ∧
        cfg.connection L.spec.remoteClusterId = some rc ∧ AsksDeletion L rc d m R ∧
        lookupRG ((reconcile cfg o c n s).2.world d).rgs m =
          some (R.annotate deletionRequested "yes") := by
  rcases reconcile_moves cfg o c n s with hs | ⟨L, rc, hL, hrc, hm⟩
  · exact .inl (by rw [hs d]; exact hR)
  · have hRwf := hwf d R (lookupBy_eq_some _ hR).1
    rcases StandsAs.of_moves (lookupBy_eq_some _ hL).2 hne hRwf hm (.inl hR) with h | ⟨hask, h⟩
    · exact .inl h
    · exact .inr ⟨L, rc, hL, hrc, hask, h⟩

/-- `x` of cluster 0, synced with its mirror `x` and deleting, under the `delete` policy. -/
def deletingX : DellCSIReplicationGroup :=
  { userGroup "x" "B" "delete" "csi-driver" with
    annotations := (((∅ : StringMap).set remoteRGRetentionPolicy "delete").set
      remoteReplicationGroup "x").set rgSyncComplete "yes"
    finalizers := [rgFinalizer], deleting := true }

/-- A group `x` of cluster 1 that is not the mirror of cluster 0's `x`. -/
def unrelatedX : DellCSIReplicationGroup :=
  userGroup "x" "C" "retain" "other-driver"

theorem wf_twoWorld_deletingX : WorldWf (twoWorld [deletingX] [unrelatedX]) := by
  intro d
  unfold twoWorld
  split_ifs <;> decide

theorem unrelated_group_marked :
    lookupRG ((reconcile configA storedOrder 0 "x"
        ⟨twoWorld [deletingX] [unrelatedX], [], [], []⟩).2.world 1).rgs "x" = some unrelatedX ∨
      ∃ L rc, lookupRG ((twoWorld [deletingX] [unrelatedX]) 0).rgs "x" = some L ∧
        configA.connection L.spec.remoteClusterId = some rc ∧ AsksDeletion L rc 1 "x" unrelatedX ∧
        lookupRG ((reconcile configA storedOrder 0 "x"
          ⟨twoWorld [deletingX] [unrelatedX], [], [], []⟩).2.world 1).rgs "x" =
            some (unrelatedX.annotate deletionRequested "yes") :=
  reconcile_leaves_other_groups configA storedOrder 0 "x" _ wf_twoWorld_deletingX rfl (by decide)

/-- Users delete the mirror of cluster 0's `x`, create an unrelated group `x` on cluster 1 and
then delete `x` on cluster 0: the next pass on `x` marks the unrelated group for deletion. -/
theorem deletion_requested_of_unrelated_group :
    let σ := run twoClusters [.pass 0 "x" [], .pass 0 "x" [], .delete 1 "x", .create 1 unrelatedX,
      .delete 0 "x"] ⟨twoWorld [userGroup "x" "B" "delete" "csi-driver"] [], []⟩
    (σ.group 1 "x").map (·.spec.remoteClusterId) = some "C" ∧
      σ.annotationAt 1 "x" deletionRequested = none ∧
      ((Step.pass 0 "x" []).apply twoClusters σ).annotationAt 1 "x" deletionRequested =
        some "yes" := by
  decide

end CsmReplication
