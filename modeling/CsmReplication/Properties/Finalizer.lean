import CsmReplication.Controller.Log
import CsmReplication.Properties.Deletion
import CsmReplication.Properties.OtherGroups
import CsmReplication.System.Schedule

/-!
# A deleting group does not get its finalizer back

A pass on a group `L` whose deletion timestamp is set runs the deletion branch (lines 160-205):
it may mark for deletion the group `L`'s `RemoteReplicationGroup` annotation names on the remote
cluster, and it removes `RGFinalizer` from `L`. When `L` has lost the finalizer already, the
branch falls through to line 211, which sends `L` back with `RGFinalizer` added; the server
refuses a new finalizer on a deleting group, so that update changes nothing. The pass creates
nothing, deletes nothing and updates `L` only with the annotations it loaded, and `L`, if it still
stands, is deleting and carries `RGFinalizer` only if it did before
(`deleting_group_regains_no_finalizer`). Over every run of the controllers and the users, a
deleting group without `RGFinalizer` stays so until the server removes it.
-/

namespace CsmReplication

/-! ## What a pass on a deleting group does -/

/-- What a pass on the deleting group `L` of cluster `c` may log: updates of `L` with the
annotations it loaded, and remote updates that add `DeletionRequested`. -/
def DeletingEntry (c : Nat) (L : DellCSIReplicationGroup) : Effect → Prop
  | .update d X _ => d = c ∧ X.annotations = L.annotations
  | .updateReplicationGroup _ X _ => ∃ R : DellCSIReplicationGroup,
    X = R.annotate deletionRequested "yes"
  | _ => False

/-- The writes of a pass on the deleting `L` of `c`: the finalizer removed (line 202), a stored
group marked for deletion (lines 184-186), the finalizer added back when `L` lacks it (line 211). -/
inductive DeletingWrite (c : Nat) (L : DellCSIReplicationGroup) (w : World) : RGWrite → Prop
  | removeFinalizer :
    DeletingWrite c L w (.update c { L with finalizers := L.finalizers.erase rgFinalizer })
  | requestDeletion (rc : Nat) (R : DellCSIReplicationGroup) : lookupRG (w rc).rgs R.name = some R →
    DeletingWrite c L w (.update rc (R.annotate deletionRequested "yes"))
  | addFinalizer : rgFinalizer ∉ L.finalizers →
    DeletingWrite c L w (.update c { L with finalizers := L.finalizers ++ [rgFinalizer] })

/-- A pass on a deleting group logs only what `DeletingEntry` allows and writes only what
`DeletingWrite` allows. -/
theorem reconcile_of_deleting (cfg : Config) (o : Oracle) {c : Nat} {n : String} {s : PassState}
    {L : DellCSIReplicationGroup} (hL : lookupRG (s.world c).rgs n = some L)
    (hdel : L.deleting = true) :
    LogsOnly (DeletingEntry c L) s (reconcile cfg o c n s).2 ∧
      Moves (DeletingWrite c L) s (reconcile cfg o c n s).2 :=
  ⟨reconcile_keeps_of_connected (fun _ _ _ hl => LogsOnly.of_log_eq hl) hL fun rc =>
      reconcileConnected_deleting_keeps hdel
        (handleDeletion_logs c rc L _ (fun _ => ⟨rfl, rfl⟩) fun R _ => ⟨R, rfl⟩)
        (fun _ => Client.update_logs fun _ => ⟨rfl, rfl⟩),
    reconcile_keeps_of_connected (fun _ _ hw _ => Moves.of_world_eq hw (refl_of _ _)) hL fun rc =>
      reconcileConnected_deleting_keeps hdel
        (handleDeletion_moves (fun _ => .removeFinalizer) fun _ R _ _ hR _ =>
          .requestDeletion rc R (by rwa [(lookupBy_eq_some _ hR).2]))
        (fun hf => update_moves fun _ => .addFinalizer hf)⟩

/-- The group stored under `L`'s name on cluster `c`, if any, is deleting, and carries
`RGFinalizer` only if `L` does. -/
def NoNewFinalizer (c : Nat) (L : DellCSIReplicationGroup) (w : World) : Prop :=
  ∀ X, lookupRG (w c).rgs L.name = some X →
    X.deleting = true ∧ (rgFinalizer ∈ X.finalizers → rgFinalizer ∈ L.finalizers)

namespace NoNewFinalizer

variable {c : Nat} {L : DellCSIReplicationGroup}

theorem of_sameRGs {w w' : World} (hs : SameRGs w w') (h : NoNewFinalizer c L w) :
    NoNewFinalizer c L w' :=
  fun X hX => h X (hs c ▸ hX)

/-- Each write of the pass keeps the invariant: the finalizer it adds back is refused. -/
theorem step {w : World} {x : RGWrite} (hx : DeletingWrite c L w x) (h : NoNewFinalizer c L w) :
    NoNewFinalizer c L (x.apply w) := by
  intro X hX
  by_cases hne : x.cluster = c ∧ x.target = L.name
  swap
  · exact h X (by rwa [RGWrite.lookup_apply_of_ne x w fun h₁ h₂ => hne ⟨h₁, h₂⟩] at hX)
  obtain ⟨hc, ht⟩ := hne
  cases hx with
  | removeFinalizer =>
    rcases RGWrite.lookup_apply_update_eq_some hX with hX | ⟨R₀, hR₀, -, rfl⟩
    · exact h X hX
    · exact ⟨(h R₀ hR₀).1, List.mem_of_mem_erase⟩
  | requestDeletion rc R hR =>
    obtain rfl : rc = c := hc
    have hname : R.name = L.name := ht
    rw [← hname] at hX
    rcases RGWrite.lookup_apply_update_eq_some hX with hX | ⟨R₀, hR₀, -, rfl⟩
    · exact h X (hname ▸ hX)
    · obtain rfl := Option.some.inj (hR₀.symm.trans hR)
      simpa using h _ (hname ▸ hR)
  | addFinalizer hf =>
    rcases RGWrite.lookup_apply_update_eq_some hX with hX | ⟨R₀, hR₀, hadd, rfl⟩
    · exact h X hX
    · obtain ⟨hdel, hfin⟩ := h R₀ hR₀
      exact absurd ⟨hdel, List.any_eq_true.2 ⟨rgFinalizer, by simp,
        by simpa using fun hm => hf (hfin hm)⟩⟩ hadd

end NoNewFinalizer

/-- After a pass on the deleting `L`, the group under its name is deleting, and carries
`RGFinalizer` only if `L` did. -/
theorem reconcile_no_new_finalizer (cfg : Config) (o : Oracle) {c : Nat} {n : String}
    {s : PassState} {L : DellCSIReplicationGroup} (hL : lookupRG (s.world c).rgs n = some L)
    (hdel : L.deleting = true) : NoNewFinalizer c L (reconcile cfg o c n s).2.world := by
  obtain rfl : L.name = n := (lookupBy_eq_some _ hL).2
  refine Moves.keeps (fun _ _ => NoNewFinalizer.of_sameRGs) (fun _ _ => NoNewFinalizer.step)
    (reconcile_of_deleting cfg o hL hdel).2 fun Y hY => ?_
  obtain rfl := Option.some.inj (hL.symm.trans hY)
  exact ⟨hdel, id⟩

/-! ## Along a run -/

/-- Every moment of a run starting from what a server can hold holds only that. -/
theorem after_wf (cfgs : Nat → Config) (sched : Nat → Step) {σ : Sys} (h : WorldWf σ.world)
    (t : Nat) : WorldWf (after cfgs sched σ t).world :=
  after_keeps (P := WorldWf) (fun u hu => Step.apply_wf cfgs (sched u) hu) (t := 0) h t
    (Nat.zero_le t)

/-- One step of a controller or a user leaves a deleting group without `RGFinalizer` so, or
removes it. -/
theorem Step.apply_keeps_released (cfgs : Nat → Config) (st : Step) {σ : Sys}
    (hwf : WorldWf σ.world) {c : Nat} {n : String} {X : DellCSIReplicationGroup}
    (hX : lookupRG (σ.world c).rgs n = some X) (hdel : X.deleting = true)
    (hfin : rgFinalizer ∉ X.finalizers) (X' : DellCSIReplicationGroup)
    (hX' : lookupRG ((st.apply cfgs σ).world c).rgs n = some X') :
    X'.deleting = true ∧ rgFinalizer ∉ X'.finalizers := by
  cases st with
  | reconcile d m faults clock o =>
    by_cases hdm : d = c ∧ m = n
    · obtain ⟨rfl, rfl⟩ := hdm
      have hname : X.name = m := (lookupBy_eq_some _ hX).2
      obtain ⟨hd', hf'⟩ := reconcile_no_new_finalizer (cfgs d) o
        (s := ⟨σ.world, faults, clock, σ.log⟩) hX hdel X' (hname ▸ hX')
      exact ⟨hd', fun h => hfin (hf' h)⟩
    · rcases reconcile_leaves_other_groups (cfgs d) o d m ⟨σ.world, faults, clock, σ.log⟩ hwf hX
        (fun h₁ h₂ => hdm ⟨h₁.symm, h₂.symm⟩) with h | ⟨-, -, -, -, -, h⟩ <;>
        obtain rfl := Option.some.inj (h.symm.trans hX')
      · exact ⟨hdel, hfin⟩
      · simpa using And.intro hdel hfin
  | create d rg =>
    obtain rfl := Option.some.inj ((RGWrite.lookup_apply_create hX).symm.trans hX')
    exact ⟨hdel, hfin⟩
  | delete d m =>
    by_cases hdm : d = c ∧ m = n
    · obtain ⟨rfl, rfl⟩ := hdm
      obtain ⟨R₀, hR₀, rfl | rfl⟩ := RGWrite.lookup_apply_delete σ.world d m hX' <;>
        obtain rfl := Option.some.inj (hR₀.symm.trans hX)
      exacts [⟨hdel, hfin⟩, ⟨rfl, hfin⟩]
    · obtain rfl := Option.some.inj (hX'.symm.trans ((RGWrite.lookup_apply_of_ne
        (.delete d m) σ.world fun h₁ h₂ => hdm ⟨h₁, h₂⟩).trans hX))
      exact ⟨hdel, hfin⟩

/-- A pass on a deleting group creates and deletes nothing and gives it no `RGFinalizer`; so along
every run, a deleting group without `RGFinalizer` stays so until it is removed. -/
theorem deleting_group_regains_no_finalizer :
    (∀ (cfg : Config) (o : Oracle) (c : Nat) (n : String) (s : PassState)
      (L : DellCSIReplicationGroup), lookupRG (s.world c).rgs n = some L → L.deleting = true →
      LogsOnly (DeletingEntry c L) s (reconcile cfg o c n s).2 ∧
        ∀ X, lookupRG ((reconcile cfg o c n s).2.world c).rgs n = some X →
          X.deleting = true ∧ (rgFinalizer ∈ X.finalizers → rgFinalizer ∈ L.finalizers)) ∧
    ∀ (cfgs : Nat → Config) (sched : Nat → Step) (σ : Sys), WorldWf σ.world →
      ∀ c n t X, lookupRG ((after cfgs sched σ t).world c).rgs n = some X → X.deleting = true →
        rgFinalizer ∉ X.finalizers → ∀ u, t ≤ u →
          (∃ v, t < v ∧ v ≤ u ∧ lookupRG ((after cfgs sched σ v).world c).rgs n = none) ∨
          ∃ X', lookupRG ((after cfgs sched σ u).world c).rgs n = some X' ∧
            X'.deleting = true ∧ rgFinalizer ∉ X'.finalizers := by
  refine ⟨fun cfg o c n s L hL hdel => ?pass, fun cfgs sched σ hwf c n t X hX hdel hfin => ?run⟩
  case pass =>
    obtain rfl : L.name = n := (lookupBy_eq_some _ hL).2
    exact ⟨(reconcile_of_deleting cfg o hL hdel).1, reconcile_no_new_finalizer cfg o hL hdel⟩
  case run =>
    intro u htu
    induction u, htu using Nat.le_induction with
    | base => exact .inr ⟨X, hX, hdel, hfin⟩
    | succ u htu ih =>
      rcases ih with ⟨v, h₁, h₂, h₃⟩ | ⟨X', hX', hd', hf'⟩
      · exact .inl ⟨v, h₁, by omega, h₃⟩
      · cases hnext : lookupRG ((after cfgs sched σ (u + 1)).world c).rgs n with
        | none => exact .inl ⟨u + 1, by omega, le_rfl, hnext⟩
        | some X'' =>
          exact .inr ⟨X'', rfl, Step.apply_keeps_released cfgs (sched u)
            (after_wf cfgs sched hwf u) hX' hd' hf' X'' hnext⟩

/-- `retainedX` without the controller's finalizer, kept by another one. -/
def heldX : DellCSIReplicationGroup :=
  { retainedX with finalizers := ["other"] }

/-- A pass on `heldX` and a schedule of passes on it from then on. -/
theorem heldX_regains_no_finalizer :
    let s : PassState := ⟨twoWorld [heldX] [], [], [], []⟩
    let sched : Nat → Step := fun _ => .pass 0 "x" []
    (LogsOnly (DeletingEntry 0 heldX) s (reconcile configA storedOrder 0 "x" s).2 ∧
      ∀ X, lookupRG ((reconcile configA storedOrder 0 "x" s).2.world 0).rgs "x" = some X →
        X.deleting = true ∧ (rgFinalizer ∈ X.finalizers → rgFinalizer ∈ heldX.finalizers)) ∧
    ∀ u, 0 ≤ u →
      (∃ v, 0 < v ∧ v ≤ u ∧
        lookupRG ((after twoClusters sched ⟨s.world, []⟩ v).world 0).rgs "x" = none) ∨
      ∃ X', lookupRG ((after twoClusters sched ⟨s.world, []⟩ u).world 0).rgs "x" = some X' ∧
        X'.deleting = true ∧ rgFinalizer ∉ X'.finalizers :=
  ⟨deleting_group_regains_no_finalizer.1 configA storedOrder 0 "x" _ heldX rfl rfl,
    deleting_group_regains_no_finalizer.2 twoClusters _ _
      (fun d => by dsimp only [twoWorld]; split_ifs <;> decide) 0 "x" 0 heldX rfl rfl (by decide)⟩

/-- The pass finds no finalizer to remove and sends `heldX` back with `RGFinalizer` added, which
the server refuses. -/
example :
    reconcile configA storedOrder 0 "x" ⟨twoWorld [heldX] [], [], [], []⟩ =
      (.ofError (some (.api .invalid)),
        ⟨twoWorld [heldX] [], [], [],
          [.update 0 { heldX with finalizers := ["other", rgFinalizer] } (.error .invalid)]⟩) := by
  rfl

end CsmReplication
