import CsmReplication.Properties.Recovery
import CsmReplication.Properties.Teardown
import CsmReplication.System.Schedule

/-!
# The pairing and the handshake converge on fair schedules

On a schedule that controller-runtime allows (`Fair`), and once calls stop failing, the pairing of
a new group completes and stays complete (`pairing_converges`, `self_pairing_converges`), and the
deletion handshake removes both groups for good (`teardown_converges`).

What makes this work is that no pass gives up silently. A pass whose calls fail returns the error
or asks to be requeued, so controller-runtime runs it again; a pass that moves a group writes it,
which the watch sees; and while the handshake waits for the mirror to go, the deleting group asks
to be requeued on every pass (`reconcile_polls_mirror`). So every group that a pass would move
always has a pass coming, an invariant of every moment of the schedule (`PairingLive`,
`TeardownLive`). Each pass is a move of the stage machine, which never goes back; once calls stop
failing, the pass that is coming on a group it would move moves it. The stages climb to the top
(`eventually_top`), where every pass leaves the groups alone.

The schedules are of the two controllers' passes on the two groups alone.
-/

namespace CsmReplication

/-! ## The pairing's stages climb -/

namespace Stage

/-- How far one group of the pair has come. -/
def level : Stage → Nat
  | .absent => 0
  | .created => 1
  | .finalized => 2
  | .synced => 3

/-- How far the pairing has come. -/
def rank (s : Stage × Stage) : Nat :=
  s.1.level + s.2.level

theorem passLocal_climbs : ∀ s, passLocal s = s ∨ rank s < rank (passLocal s) := by
  decide

theorem passMirror_climbs : ∀ s, passMirror s = s ∨ rank s < rank (passMirror s) := by
  decide

theorem LocalMove.climbs {s s' : Stage × Stage} (h : LocalMove s s') :
    s' = s ∨ rank s < rank s' := by
  rcases h with rfl | rfl | ⟨rfl, rfl⟩
  · exact .inl rfl
  · exact passLocal_climbs s
  · exact .inr (by decide)

theorem MirrorMove.climbs {s s' : Stage × Stage} (h : MirrorMove s s') :
    s' = s ∨ rank s < rank s' := by
  rcases h with rfl | rfl
  · exact .inl rfl
  · exact passMirror_climbs s

theorem rank_lt_top : ∀ s, s ≠ (.synced, .synced) → rank s < rank (.synced, .synced) := by
  decide

/-- Short of both groups synced, a pass on one of them would move the pairing. -/
theorem due_of_valid :
    ∀ s, Valid s → s ≠ (.synced, .synced) → passLocal s ≠ s ∨ passMirror s ≠ s := by
  decide

/-- Whether a pass on a group would move the pairing depends on that group's stage alone. -/
theorem local_due_of_fst :
    ∀ s s' : Stage × Stage, s'.1 = s.1 → passLocal s' ≠ s' → passLocal s ≠ s := by
  decide

theorem mirror_due_of_snd :
    ∀ s s' : Stage × Stage, s'.2 = s.2 → passMirror s' ≠ s' → passMirror s ≠ s := by
  decide

/-- A move after which a pass on the same group would move the pairing again moves that group. -/
theorem passLocal_fst_ne : ∀ s, passLocal (passLocal s) ≠ passLocal s → (passLocal s).1 ≠ s.1 := by
  decide

theorem passMirror_snd_ne :
    ∀ s, passMirror (passMirror s) ≠ passMirror s → (passMirror s).2 ≠ s.2 := by
  decide

theorem MirrorMove.fst {s s' : Stage × Stage} (h : MirrorMove s s') : s'.1 = s.1 := by
  rcases h with rfl | rfl
  · rfl
  · revert s
    decide

end Stage

/-! ## A world shows one stage -/

section Unique

variable {L : DellCSIReplicationGroup} {m n : String}

/-- The local group's stages are told apart by its finalizers and its sync annotation. -/
theorem localGroup_inj (hu : L.annotations.get rgSyncComplete ≠ "yes") {x x' : Stage}
    (h : localGroup L m x = localGroup L m x') : x = x' := by
  have hlen := congrArg (Option.map (·.finalizers.length)) h
  have hsync := congrArg (Option.map (·.annotations.get rgSyncComplete)) h
  cases x <;> cases x' <;>
    first | rfl | simp [localGroup, markSynced_sync, hu, Ne.symm hu] at hlen hsync

/-- So are the mirror's, whichever map order built it. -/
theorem mirrorGroup_candidate_inj {cfg : Config} {o₁ o₂ : Oracle} {y y' : Stage}
    (h : mirrorGroup (mirrorCandidate cfg o₁ L.name L false) m n y =
      mirrorGroup (mirrorCandidate cfg o₂ L.name L false) m n y') : y = y' := by
  have hlen := congrArg (Option.map (·.finalizers.length)) h
  have hsync := congrArg (Option.map (·.annotations.get rgSyncComplete)) h
  cases y <;> cases y' <;>
    first | rfl | simp [mirrorGroup, markSynced_sync, mirrorCandidate_sync] at hlen hsync

variable {w w' : World} {c rc : Nat} {cfg : Config} {o₁ o₂ : Oracle} {s s' : Stage × Stage}
  (hs : Shows w c rc L (mirrorCandidate cfg o₁ L.name L false) m s)
include hs

theorem Shows.unique (hu : L.annotations.get rgSyncComplete ≠ "yes")
    (hs' : Shows w c rc L (mirrorCandidate cfg o₂ L.name L false) m s') : s = s' :=
  Prod.ext (localGroup_inj hu (hs.1.symm.trans hs'.1))
    (mirrorGroup_candidate_inj (hs.2.symm.trans hs'.2))

/-- A group whose stage moved was written. -/
theorem Shows.local_changed (hu : L.annotations.get rgSyncComplete ≠ "yes")
    (hs' : Shows w' c rc L (mirrorCandidate cfg o₂ L.name L false) m s') (hne : s'.1 ≠ s.1) :
    lookupRG (w' c).rgs L.name ≠ lookupRG (w c).rgs L.name :=
  fun heq => hne (localGroup_inj hu (hs'.1.symm.trans (heq.trans hs.1)))

theorem Shows.mirror_changed (hs' : Shows w' c rc L (mirrorCandidate cfg o₂ L.name L false) m s')
    (hne : s'.2 ≠ s.2) : lookupRG (w' rc).rgs m ≠ lookupRG (w rc).rgs m :=
  fun heq => hne (mirrorGroup_candidate_inj (hs'.2.symm.trans (heq.trans hs.2)))

end Unique

/-! ## Every moment of a fair schedule -/

/-- At the moment `t` of the schedule the world shows the pairing at the stage `s`, and each group
that a pass would move has a pass coming. -/
structure PairingLive (cfgs : Nat → Config) (sched : Nat → Step) (σ : Sys) (c rc : Nat)
    (m : String) (L : DellCSIReplicationGroup) (t : Nat) (s : Stage × Stage) : Prop where
  valid : Stage.Valid s
  shows : ∃ o, Shows (after cfgs sched σ t).world c rc L
    (mirrorCandidate (cfgs c) o L.name L false) m s
  local_pending : Stage.passLocal s ≠ s → Pending sched c L.name t
  mirror_pending : Stage.passMirror s ≠ s → Pending sched rc m t

namespace PairingFacts

variable {cfgs : Nat → Config} {c rc : Nat} {m : String} {L : DellCSIReplicationGroup}
  {lid rid : String} (h : PairingFacts cfgs c rc m L lid rid) (hne : rc = c → m ≠ L.name)
  {sched : Nat → Step} {σ : Sys}
  (hsched : ∀ t, ∃ faults clock o,
    sched t = .reconcile c L.name faults clock o ∨ sched t = .reconcile rc m faults clock o)
  (hfairL : Fair cfgs sched σ c L.name) (hfairM : Fair cfgs sched σ rc m)
include h hne hsched hfairL hfairM

/-- Every step keeps the invariant, at a stage that is the same or higher. -/
theorem live_step {t : Nat} {s : Stage × Stage} (hl : PairingLive cfgs sched σ c rc m L t s) :
    ∃ s', PairingLive cfgs sched σ c rc m L (t + 1) s' ∧
      (s' = s ∨ Stage.rank s < Stage.rank s') := by
  obtain ⟨o, hs⟩ := hl.shows
  obtain ⟨faults, clock, o₁, hst | hst⟩ := hsched t
  · -- A pass on `L`.
    obtain ⟨s', hmove, hloud, o', hs'⟩ :=
      h.reconcile_local_refines hne hl.valid hs o₁ faults clock (after cfgs sched σ t).log
    have hon : (sched t).On c L.name := by rw [hst]; exact ⟨rfl, rfl⟩
    refine ⟨s', ⟨hmove.valid hl.valid, ⟨o', by rwa [after_succ, hst]⟩, fun hdue => ?_,
      fun hdue => ?_⟩, hmove.climbs⟩
    · rcases hloud with hr | rfl
      · exact hfairL.retried t _ hon (by rw [hst]; rfl) hr
      · exact hfairL.watched t (hs.local_changed h.unsynced (by rwa [after_succ, hst])
          (Stage.passLocal_fst_ne s hdue))
    · by_cases h2 : s'.2 = s.2
      · exact (hl.mirror_pending (Stage.mirror_due_of_snd s s' h2 hdue)).succ
          (by rw [hst]; exact fun h' => hne h'.1.symm h'.2.symm)
      · exact hfairM.watched t (hs.mirror_changed (by rwa [after_succ, hst]) h2)
  · -- A pass on the mirror.
    obtain ⟨s', hmove, hloud, hs'⟩ :=
      h.reconcile_mirror_refines hne hl.valid hs o₁ faults clock (after cfgs sched σ t).log
    have hon : (sched t).On rc m := by rw [hst]; exact ⟨rfl, rfl⟩
    refine ⟨s', ⟨hmove.valid hl.valid, ⟨o, by rwa [after_succ, hst]⟩, fun hdue => ?_,
      fun hdue => ?_⟩, hmove.climbs⟩
    · exact (hl.local_pending (Stage.local_due_of_fst s s' hmove.fst hdue)).succ
        (by rw [hst]; exact fun h' => hne h'.1 h'.2)
    · rcases hloud with hr | rfl
      · exact hfairM.retried t _ hon (by rw [hst]; rfl) hr
      · exact hfairM.watched t (hs.mirror_changed (by rwa [after_succ, hst])
          (Stage.passMirror_snd_ne s hdue))

/-- A step to a stage the world shows keeps the invariant there. -/
theorem live_step_to {t : Nat} {s s' : Stage × Stage} (hl : PairingLive cfgs sched σ c rc m L t s)
    (hs' : ∃ o, Shows (after cfgs sched σ (t + 1)).world c rc L
      (mirrorCandidate (cfgs c) o L.name L false) m s') :
    PairingLive cfgs sched σ c rc m L (t + 1) s' := by
  obtain ⟨s'', hl', -⟩ := h.live_step hne hsched hfairL hfairM hl
  obtain ⟨o'', hs''⟩ := hl'.shows
  obtain ⟨o', hs'⟩ := hs'
  obtain rfl := hs''.unique h.unsynced hs'
  exact hl'

/-- Once calls stop failing, the pass coming on a group that a pass would move moves it, unless the
stages rose before it. -/
theorem live_advance {T : Nat} (hclean : ∀ t, T ≤ t → (sched t).Clean) {t : Nat}
    {s : Stage × Stage} (ht : T ≤ t) (hl : PairingLive cfgs sched σ c rc m L t s)
    (htop : s ≠ (.synced, .synced)) :
    ∃ u, t ≤ u ∧ (PairingLive cfgs sched σ c rc m L u s →
      ∃ s', PairingLive cfgs sched σ c rc m L (u + 1) s' ∧ Stage.rank s < Stage.rank s') := by
  rcases Stage.due_of_valid s hl.valid htop with hdue | hdue
  · obtain ⟨u, htu, hon⟩ := hl.local_pending hdue
    obtain ⟨clock, o₁, hst⟩ := hon.clean (hclean u (ht.trans htu))
    refine ⟨u, htu, fun hlu => ?_⟩
    obtain ⟨o, hs⟩ := hlu.shows
    obtain ⟨o', hpass⟩ :=
      h.reconcile_local_passes hne hlu.valid hs o₁ clock (after cfgs sched σ u).log
    exact ⟨_, h.live_step_to hne hsched hfairL hfairM hlu ⟨o', by rwa [after_succ, hst]⟩,
      (Stage.passLocal_climbs s).resolve_left hdue⟩
  · obtain ⟨u, htu, hon⟩ := hl.mirror_pending hdue
    obtain ⟨clock, o₁, hst⟩ := hon.clean (hclean u (ht.trans htu))
    refine ⟨u, htu, fun hlu => ?_⟩
    obtain ⟨o, hs⟩ := hlu.shows
    have hpass := h.reconcile_mirror_passes hne hlu.valid hs o₁ clock (after cfgs sched σ u).log
    exact ⟨_, h.live_step_to hne hsched hfairL hfairM hlu ⟨o, by rwa [after_succ, hst]⟩,
      (Stage.passMirror_climbs s).resolve_left hdue⟩

end PairingFacts

/-- In either mode, on a fair schedule of the two controllers' passes on `L` and on its mirror's
name, the pairing completes once calls stop failing, and stays complete. -/
theorem PairingFacts.converges {cfgs : Nat → Config} {σ : Sys} {c rc : Nat} {m : String}
    {L : DellCSIReplicationGroup} {lid rid : String} (h : PairingFacts cfgs c rc m L lid rid)
    (hL : lookupRG (σ.world c).rgs L.name = some L) (hfree : lookupRG (σ.world rc).rgs m = none)
    (sched : Nat → Step)
    (hsched : ∀ t, ∃ faults clock o,
      sched t = .reconcile c L.name faults clock o ∨ sched t = .reconcile rc m faults clock o)
    (hfairL : Fair cfgs sched σ c L.name) (hfairM : Fair cfgs sched σ rc m)
    (hstart : Pending sched c L.name 0) (hstop : FailuresStop sched) :
    ∃ t M, ∀ u, t ≤ u →
      PairedAt (cfgs c) (after cfgs sched σ u).world c L.name
        (markSynced L.name { L with finalizers := L.finalizers ++ [rgFinalizer] } m) rc M ∧
      PairedAt (cfgs rc) (after cfgs sched σ u).world rc m M c
        (markSynced L.name { L with finalizers := L.finalizers ++ [rgFinalizer] } m) := by
  have hne := mirror_apart hL hfree
  obtain ⟨T, hT⟩ := hstop
  obtain ⟨t, ht⟩ := eventually_top (fun _ _ hl => h.live_step hne hsched hfairL hfairM hl) T
    (fun _ _ hTt hl htop => h.live_advance hne hsched hfairL hfairM hT hTt hl htop)
    Stage.rank_lt_top
    (⟨rfl, ⟨storedOrder, hL, hfree⟩, fun _ => hstart, fun hdue => absurd rfl hdue⟩ :
      PairingLive cfgs sched σ c rc m L 0 (.created, .absent))
  obtain ⟨o, hs⟩ := ht.shows
  -- From then on, every pass leaves the paired groups alone.
  have hkeep : ∀ u, t ≤ u → (after cfgs sched σ u).world = (after cfgs sched σ t).world :=
    after_keeps (P := fun w => w = (after cfgs sched σ t).world) (fun u hu => by
      obtain ⟨faults, clock, o₁, hst | hst⟩ := hsched u <;> rw [after_succ, hst]
      · show (reconcile (cfgs c) o₁ c L.name ⟨(after cfgs sched σ u).world, faults, clock,
          (after cfgs sched σ u).log⟩).2.world = _
        rw [hu]
        exact reconcile_of_paired (h.pairedAt_local hs rfl) o₁ faults clock _
      · show (reconcile (cfgs rc) o₁ rc m ⟨(after cfgs sched σ u).world, faults, clock,
          (after cfgs sched σ u).log⟩).2.world = _
        rw [hu]
        exact reconcile_of_paired (h.pairedAt_mirror hs rfl) o₁ faults clock _) rfl
  exact ⟨t, _, fun u htu => by
    rw [hkeep u htu]
    exact ⟨h.pairedAt_local hs rfl, h.pairedAt_mirror hs rfl⟩⟩

/-- On every schedule controller-runtime allows, with calls failing only up to some moment, the
new group `L` ends paired with its mirror `m`: from some moment on they are paired for good. -/
theorem pairing_converges (cfgs : Nat → Config) (σ : Sys) {c rc : Nat} {m : String}
    {L : DellCSIReplicationGroup} (h : PairingSetup cfgs c rc m L)
    (hL : lookupRG (σ.world c).rgs L.name = some L) (hfree : lookupRG (σ.world rc).rgs m = none)
    (sched : Nat → Step)
    (hsched : ∀ t, ∃ faults clock o,
      sched t = .reconcile c L.name faults clock o ∨ sched t = .reconcile rc m faults clock o)
    (hfairL : Fair cfgs sched σ c L.name) (hfairM : Fair cfgs sched σ rc m)
    (hstart : Pending sched c L.name 0) (hstop : FailuresStop sched) :
    ∃ t M, ∀ u, t ≤ u →
      PairedAt (cfgs c) (after cfgs sched σ u).world c L.name
        (markSynced L.name { L with finalizers := L.finalizers ++ [rgFinalizer] } m) rc M ∧
      PairedAt (cfgs rc) (after cfgs sched σ u).world rc m M c
        (markSynced L.name { L with finalizers := L.finalizers ++ [rgFinalizer] } m) :=
  h.facts.converges hL hfree sched hsched hfairL hfairM hstart hstop

/-- The single-cluster pairing of a new group with `replicated-<L's name>` on its own cluster
converges on the same schedules. -/
theorem self_pairing_converges (cfgs : Nat → Config) (σ : Sys) {c : Nat}
    {L : DellCSIReplicationGroup} (h : SelfPairingSetup cfgs c L)
    (hL : lookupRG (σ.world c).rgs L.name = some L)
    (hfree : lookupRG (σ.world c).rgs (replicated ++ "-" ++ L.name) = none) (sched : Nat → Step)
    (hsched : ∀ t, ∃ faults clock o, sched t = .reconcile c L.name faults clock o ∨
      sched t = .reconcile c (replicated ++ "-" ++ L.name) faults clock o)
    (hfairL : Fair cfgs sched σ c L.name)
    (hfairM : Fair cfgs sched σ c (replicated ++ "-" ++ L.name))
    (hstart : Pending sched c L.name 0) (hstop : FailuresStop sched) :
    ∃ t M, ∀ u, t ≤ u →
      PairedAt (cfgs c) (after cfgs sched σ u).world c L.name (markSynced L.name
        { L with finalizers := L.finalizers ++ [rgFinalizer] } (replicated ++ "-" ++ L.name)) c M ∧
      PairedAt (cfgs c) (after cfgs sched σ u).world c (replicated ++ "-" ++ L.name) M c
        (markSynced L.name { L with finalizers := L.finalizers ++ [rgFinalizer] }
          (replicated ++ "-" ++ L.name)) :=
  h.facts.converges hL hfree sched hsched hfairL hfairM hstart hstop

/-! ### Schedules that take turns -/

/-- Passes on the group `n` of cluster `c` and on the group `m` of cluster `rc` in turn, the first
`k` failing at their first call. -/
def inTurns (c rc : Nat) (n m : String) (k t : Nat) : Step :=
  if t % 2 = 0 then .reconcile c n (if t < k then [true] else []) [] storedOrder
  else .reconcile rc m (if t < k then [true] else []) [] storedOrder

section InTurns

variable {c rc : Nat} {n m : String} {k : Nat}

theorem inTurns_first (t : Nat) : Pending (inTurns c rc n m k) c n t :=
  ⟨t + t % 2, by omega, by rw [inTurns, if_pos (by omega)]; exact ⟨rfl, rfl⟩⟩

theorem inTurns_second (t : Nat) : Pending (inTurns c rc n m k) rc m t :=
  ⟨t + 1 - t % 2, by omega, by rw [inTurns, if_neg (by omega)]; exact ⟨rfl, rfl⟩⟩

/-- Every group of the two has a pass coming at every moment, so every schedule in turns is fair
to both. -/
theorem inTurns_fair_first (cfgs : Nat → Config) (σ : Sys) :
    Fair cfgs (inTurns c rc n m k) σ c n :=
  ⟨fun _ _ _ _ _ => inTurns_first _, fun _ _ => inTurns_first _⟩

theorem inTurns_fair_second (cfgs : Nat → Config) (σ : Sys) :
    Fair cfgs (inTurns c rc n m k) σ rc m :=
  ⟨fun _ _ _ _ _ => inTurns_second _, fun _ _ => inTurns_second _⟩

theorem inTurns_passes (t : Nat) : ∃ faults clock o,
    inTurns c rc n m k t = .reconcile c n faults clock o ∨
      inTurns c rc n m k t = .reconcile rc m faults clock o :=
  ⟨_, [], storedOrder, by unfold inTurns; split; exacts [.inl rfl, .inr rfl]⟩

theorem inTurns_stop : FailuresStop (inTurns c rc n m k) :=
  ⟨k, fun t ht => by unfold inTurns; split <;> simp [Step.Clean, show ¬t < k by omega]⟩

end InTurns

/-- On the schedule of passes on `x` on clusters 0 and 1 in turn, the first four failing, the user's
group `x` ends paired with its mirror. -/
theorem userGroup_x_converges :
    ∃ t M, ∀ u, t ≤ u →
      PairedAt (twoClusters 0) (after twoClusters (inTurns 0 1 "x" "x" 4)
        ⟨twoWorld [userGroup "x" "B" "retain" "csi-driver"] [], []⟩ u).world 0 "x"
        (markSynced "x" { userGroup "x" "B" "retain" "csi-driver" with
          finalizers := [rgFinalizer] } "x") 1 M ∧
      PairedAt (twoClusters 1) (after twoClusters (inTurns 0 1 "x" "x" 4)
        ⟨twoWorld [userGroup "x" "B" "retain" "csi-driver"] [], []⟩ u).world 1 "x" M 0
        (markSynced "x" { userGroup "x" "B" "retain" "csi-driver" with
          finalizers := [rgFinalizer] } "x") :=
  @pairing_converges twoClusters ⟨twoWorld [userGroup "x" "B" "retain" "csi-driver"] [], []⟩ 0 1
    "x" (userGroup "x" "B" "retain" "csi-driver") userGroup_x_setup rfl (by decide)
    (inTurns 0 1 "x" "x" 4) inTurns_passes (inTurns_fair_first _ _) (inTurns_fair_second _ _)
    (inTurns_first 0) inTurns_stop

/-- In single-cluster mode, `x` ends paired with `replicated-x`. -/
theorem selfGroup_x_converges :
    ∃ t M, ∀ u, t ≤ u →
      PairedAt (twoClusters 0) (after twoClusters (inTurns 0 0 "x" "replicated-x" 4)
        ⟨twoWorld [userGroup "x" self "retain" "csi-driver"] [], []⟩ u).world 0 "x"
        (markSynced "x" { userGroup "x" self "retain" "csi-driver" with
          finalizers := [rgFinalizer] } "replicated-x") 0 M ∧
      PairedAt (twoClusters 0) (after twoClusters (inTurns 0 0 "x" "replicated-x" 4)
        ⟨twoWorld [userGroup "x" self "retain" "csi-driver"] [], []⟩ u).world 0 "replicated-x" M 0
        (markSynced "x" { userGroup "x" self "retain" "csi-driver" with
          finalizers := [rgFinalizer] } "replicated-x") :=
  @self_pairing_converges twoClusters ⟨twoWorld [userGroup "x" self "retain" "csi-driver"] [], []⟩
    0 (userGroup "x" self "retain" "csi-driver")
    ⟨by decide, rfl, List.not_mem_nil _, by decide, rfl, by decide, by decide, rfl, rfl,
      by decide⟩
    rfl rfl (inTurns 0 0 "x" "replicated-x" 4) inTurns_passes (inTurns_fair_first _ _)
    (inTurns_fair_second _ _) (inTurns_first 0) inTurns_stop

/-! ## The handshake's phases climb -/

namespace Phase

/-- How far the mirror has gone. -/
def level : Phase → Nat
  | .live => 0
  | .asked => 1
  | .deleting => 2
  | .removed => 3

/-- How far the handshake has come. -/
def rank (s : Bool × Phase) : Nat :=
  s.2.level + if s.1 then 0 else 1

theorem passLocal_climbs : ∀ s, passLocal s = s ∨ rank s < rank (passLocal s) := by
  decide

theorem passMirror_climbs : ∀ s, passMirror s = s ∨ rank s < rank (passMirror s) := by
  decide

theorem rank_lt_top : ∀ s, s ≠ (false, .removed) → rank s < rank (false, .removed) := by
  decide

/-- Short of both groups removed, a pass on one of them would move the handshake; on `L`, only
while it is stored. -/
theorem due_of_valid :
    ∀ s, Valid s → s ≠ (false, .removed) → passLocal s ≠ s ∨ passMirror s ≠ s := by
  decide

theorem stored_of_due : ∀ s, passLocal s ≠ s → s.1 = true := by
  decide

theorem mirror_due_of_snd :
    ∀ s s' : Bool × Phase, s'.2 = s.2 → passMirror s' ≠ s' → passMirror s ≠ s := by
  decide

theorem passMirror_snd_ne :
    ∀ s, passMirror (passMirror s) ≠ passMirror s → (passMirror s).2 ≠ s.2 := by
  decide

theorem passMirror_fst : ∀ s, (passMirror s).1 = s.1 := by
  decide

/-- While the mirror is there, `L` is stored, and a pass on `L` leaves it stored. -/
theorem stored_of_mirror :
    ∀ s, Valid s → s.2 ≠ .removed → s.1 = true ∧ (passLocal s).1 = true := by
  decide

end Phase

/-! ## A world shows one point of the handshake -/

section UniqueTeardown

variable {L M : DellCSIReplicationGroup}

theorem localAt_inj {b b' : Bool} (h : localAt L b = localAt L b') : b = b' := by
  cases b <;> cases b' <;> first | rfl | cases h

/-- The mirror's phases are told apart by its `DeletionRequested` annotation and its deletion
mark. -/
theorem mirrorAt_inj (hdr : M.annotations.has deletionRequested = false)
    (hlive : M.deleting = false) {p p' : Phase} (h : mirrorAt M p = mirrorAt M p') : p = p' := by
  have hasked := congrArg (Option.map (·.annotations.has deletionRequested)) h
  have hdel := congrArg (Option.map (·.deleting)) h
  cases p <;> cases p' <;> first | rfl | simp [mirrorAt, hdr, hlive] at hasked hdel

variable {w w' : World} {c rc : Nat} {s s' : Bool × Phase} (hs : ShowsTeardown w c rc L M s)
include hs

theorem ShowsTeardown.unique (hdr : M.annotations.has deletionRequested = false)
    (hlive : M.deleting = false) (hs' : ShowsTeardown w c rc L M s') : s = s' :=
  Prod.ext (localAt_inj (hs.1.symm.trans hs'.1)) (mirrorAt_inj hdr hlive (hs.2.symm.trans hs'.2))

/-- A mirror whose phase moved was written. -/
theorem ShowsTeardown.mirror_changed (hdr : M.annotations.has deletionRequested = false)
    (hlive : M.deleting = false) (hs' : ShowsTeardown w' c rc L M s') (hne : s'.2 ≠ s.2) :
    lookupRG (w' rc).rgs M.name ≠ lookupRG (w rc).rgs M.name :=
  fun heq => hne (mirrorAt_inj hdr hlive (hs'.2.symm.trans (heq.trans hs.2)))

end UniqueTeardown

/-! ## Every moment of a fair schedule of the handshake -/

/-- At the moment `t` of the schedule the world shows the handshake at the point `s`; while `L` is
stored it has a pass coming, and so has `M` while a pass would move it. -/
structure TeardownLive (cfgs : Nat → Config) (sched : Nat → Step) (σ : Sys) (c rc : Nat)
    (L M : DellCSIReplicationGroup) (t : Nat) (s : Bool × Phase) : Prop where
  valid : Phase.Valid s
  shows : ShowsTeardown (after cfgs sched σ t).world c rc L M s
  local_pending : s.1 = true → Pending sched c L.name t
  mirror_pending : Phase.passMirror s ≠ s → Pending sched rc M.name t

namespace TeardownSetup

variable {cfgs : Nat → Config} {c rc : Nat} {L M : DellCSIReplicationGroup} {w₀ : World}
  (hM : PairedAt (cfgs rc) w₀ rc M.name M c L) (h : TeardownSetup cfgs c rc L M)
  (hne : rc = c → M.name ≠ L.name) {sched : Nat → Step} {σ : Sys}
  (hsched : ∀ t, ∃ faults clock o,
    sched t = .reconcile c L.name faults clock o ∨ sched t = .reconcile rc M.name faults clock o)
  (hfairL : Fair cfgs sched σ c L.name) (hfairM : Fair cfgs sched σ rc M.name)
include hM h hne hsched hfairL hfairM

/-- Every step keeps the invariant, at a point that is the same or higher. -/
theorem live_step {t : Nat} {s : Bool × Phase} (hl : TeardownLive cfgs sched σ c rc L M t s) :
    ∃ s', TeardownLive cfgs sched σ c rc L M (t + 1) s' ∧
      (s' = s ∨ Phase.rank s < Phase.rank s') := by
  obtain ⟨faults, clock, o₁, hst | hst⟩ := hsched t
  · -- A pass on `L`: it asks to be run again while `L` stays.
    obtain ⟨s', hmove, hloud, hs'⟩ :=
      h.reconcile_local_teardown hM hne hl.valid hl.shows o₁ faults clock (after cfgs sched σ t).log
    have hon : (sched t).On c L.name := by rw [hst]; exact ⟨rfl, rfl⟩
    refine ⟨s', ⟨?_, by rwa [after_succ, hst], fun hb => ?_, fun hdue => ?_⟩, ?_⟩
    · rcases hmove with rfl | rfl
      exacts [hl.valid, Phase.valid_passLocal _ hl.valid]
    · rcases hloud with hr | hb'
      · exact hfairL.retried t _ hon (by rw [hst]; rfl) hr
      · exact absurd (hb'.symm.trans hb) Bool.false_ne_true
    · by_cases h2 : s'.2 = s.2
      · exact (hl.mirror_pending (Phase.mirror_due_of_snd s s' h2 hdue)).succ
          (by rw [hst]; exact fun h' => hne h'.1.symm h'.2.symm)
      · exact hfairM.watched t (hl.shows.mirror_changed hM.not_requested hM.live
          (by rwa [after_succ, hst]) h2)
    · rcases hmove with rfl | rfl
      exacts [.inl rfl, Phase.passLocal_climbs _]
  · -- A pass on `M`.
    have hon : (sched t).On rc M.name := by rw [hst]; exact ⟨rfl, rfl⟩
    have hstays : ¬(sched t).On c L.name := by rw [hst]; exact fun h' => hne h'.1 h'.2
    rcases h.reconcile_mirror_teardown hM hne hl.valid hl.shows o₁ faults clock
      (after cfgs sched σ t).log with hs' | ⟨hr, hs'⟩
    · refine ⟨_, ⟨Phase.valid_passMirror s hl.valid, by rwa [after_succ, hst],
        fun hb => (hl.local_pending ((Phase.passMirror_fst s).symm.trans hb)).succ hstays,
        fun hdue => hfairM.watched t (hl.shows.mirror_changed hM.not_requested hM.live
          (by rwa [after_succ, hst]) (Phase.passMirror_snd_ne s hdue))⟩,
        Phase.passMirror_climbs s⟩
    · exact ⟨s, ⟨hl.valid, by rwa [after_succ, hst], fun hb => (hl.local_pending hb).succ hstays,
        fun _ => hfairM.retried t _ hon (by rw [hst]; rfl) hr⟩, .inl rfl⟩

/-- A step to a point the world shows keeps the invariant there. -/
theorem live_step_to {t : Nat} {s s' : Bool × Phase} (hl : TeardownLive cfgs sched σ c rc L M t s)
    (hs' : ShowsTeardown (after cfgs sched σ (t + 1)).world c rc L M s') :
    TeardownLive cfgs sched σ c rc L M (t + 1) s' := by
  obtain ⟨s'', hl', -⟩ := h.live_step hM hne hsched hfairL hfairM hl
  obtain rfl := hl'.shows.unique hM.not_requested hM.live hs'
  exact hl'

/-- Once calls stop failing, the pass coming on a group that a pass would move moves it, unless the
handshake moved before it. -/
theorem live_advance {T : Nat} (hclean : ∀ t, T ≤ t → (sched t).Clean) {t : Nat}
    {s : Bool × Phase} (ht : T ≤ t) (hl : TeardownLive cfgs sched σ c rc L M t s)
    (htop : s ≠ (false, .removed)) :
    ∃ u, t ≤ u ∧ (TeardownLive cfgs sched σ c rc L M u s →
      ∃ s', TeardownLive cfgs sched σ c rc L M (u + 1) s' ∧ Phase.rank s < Phase.rank s') := by
  rcases Phase.due_of_valid s hl.valid htop with hdue | hdue
  · obtain ⟨u, htu, hon⟩ := hl.local_pending (Phase.stored_of_due s hdue)
    obtain ⟨clock, o₁, hst⟩ := hon.clean (hclean u (ht.trans htu))
    refine ⟨u, htu, fun hlu => ?_⟩
    have hpass := h.reconcile_local_teardown_passes hM hne hlu.valid hlu.shows o₁ clock
      (after cfgs sched σ u).log
    exact ⟨_, h.live_step_to hM hne hsched hfairL hfairM hlu (by rwa [after_succ, hst]),
      (Phase.passLocal_climbs s).resolve_left hdue⟩
  · obtain ⟨u, htu, hon⟩ := hl.mirror_pending hdue
    obtain ⟨clock, o₁, hst⟩ := hon.clean (hclean u (ht.trans htu))
    refine ⟨u, htu, fun hlu => ?_⟩
    have hpass := h.reconcile_mirror_teardown_passes hM hne hlu.valid hlu.shows o₁ clock
      (after cfgs sched σ u).log
    exact ⟨_, h.live_step_to hM hne hsched hfairL hfairM hlu (by rwa [after_succ, hst]),
      (Phase.passMirror_climbs s).resolve_left hdue⟩

end TeardownSetup

/-- While `M` is there, every pass on `L` asks to be run again. -/
theorem TeardownSetup.pass_polls {cfgs : Nat → Config} {c rc : Nat}
    {L M : DellCSIReplicationGroup} {w₀ : World} (hM : PairedAt (cfgs rc) w₀ rc M.name M c L) (h : TeardownSetup cfgs c rc L M)
    (hne : rc = c → M.name ≠ L.name) {sched : Nat → Step} {σ : Sys} {t : Nat}
    {s : Bool × Phase} (hl : TeardownLive cfgs sched σ c rc L M t s) {r : Reply}
    (hon : (sched t).On c L.name) (hr : (sched t).reply cfgs (after cfgs sched σ t) = some r)
    (hmirror : (after cfgs sched σ t).group rc M.name ≠ none) : r.Retries := by
  obtain ⟨faults, clock, o, hst⟩ := hon.eq
  rw [hst] at hr
  obtain rfl := Option.some.inj hr
  have h2 : s.2 ≠ .removed := fun h2 => hmirror (by rw [Sys.group, hl.shows.2, h2]; rfl)
  obtain ⟨hb, hb'⟩ := Phase.stored_of_mirror s hl.valid h2
  obtain ⟨s', hmove, hloud, -⟩ :=
    h.reconcile_local_teardown hM hne hl.valid hl.shows o faults clock (after cfgs sched σ t).log
  refine hloud.resolve_right fun hrel => ?_
  rcases hmove with rfl | rfl
  exacts [Bool.false_ne_true (hrel.symm.trans hb), Bool.false_ne_true (hrel.symm.trans hb')]

/-- On every schedule controller-runtime allows, with calls failing only up to some moment, the
handshake removes `L` and `M` for good, and every pass on `L` asks to be rerun while `M` stands. -/
theorem teardown_converges (cfgs : Nat → Config) (σ : Sys) {c rc : Nat}
    {L M : DellCSIReplicationGroup} (h : TeardownSetup cfgs c rc L M)
    (hM : PairedAt (cfgs rc) σ.world rc M.name M c L) (sched : Nat → Step)
    (hsched : ∀ t, ∃ faults clock o,
      sched t = .reconcile c L.name faults clock o ∨ sched t = .reconcile rc M.name faults clock o)
    (hfairL : Fair cfgs sched σ c L.name) (hfairM : Fair cfgs sched σ rc M.name)
    (hstart : Pending sched c L.name 0) (hstop : FailuresStop sched) :
    (∃ t, ∀ u, t ≤ u →
      (after cfgs sched σ u).group c L.name = none ∧
        (after cfgs sched σ u).group rc M.name = none) ∧
      ∀ t r, (sched t).On c L.name → (sched t).reply cfgs (after cfgs sched σ t) = some r →
        (after cfgs sched σ t).group rc M.name ≠ none → r.Retries := by
  have hne := TeardownSetup.apart hM h
  obtain ⟨T, hT⟩ := hstop
  have step := fun (t : Nat) s (hl : TeardownLive cfgs sched σ c rc L M t s) =>
    h.live_step hM hne hsched hfairL hfairM hl
  have h₀ : TeardownLive cfgs sched σ c rc L M 0 (true, .live) :=
    ⟨trivial, ⟨TeardownSetup.local_lookup hM, hM.lookup⟩, fun _ => hstart,
      fun hdue => absurd rfl hdue⟩
  refine ⟨?_, fun t r hon hr hmirror => ?polls⟩
  case polls =>
    -- Every moment shows a point of the handshake, where `L` polls while `M` is there.
    obtain ⟨s, hs, -⟩ := walk step h₀ t
    rw [Nat.zero_add] at hs
    exact TeardownSetup.pass_polls hM h hne hs hon hr hmirror
  obtain ⟨t, ht⟩ := eventually_top step T
    (fun _ _ hTt hl htop => h.live_advance hM hne hsched hfairL hfairM hT hTt hl htop)
    Phase.rank_lt_top h₀
  -- From then on, every pass is on a name no group has.
  have hkeep : ∀ u, t ≤ u → (after cfgs sched σ u).world = (after cfgs sched σ t).world :=
    after_keeps (P := fun w => w = (after cfgs sched σ t).world) (fun u hu => by
      obtain ⟨faults, clock, o₁, hst | hst⟩ := hsched u <;> rw [after_succ, hst]
      · show (reconcile (cfgs c) o₁ c L.name ⟨(after cfgs sched σ u).world, faults, clock,
          (after cfgs sched σ u).log⟩).2.world = _
        rw [reconcile_world_of_absent _ (by rw [hu]; exact ht.shows.1)]
        exact hu
      · show (reconcile (cfgs rc) o₁ rc M.name ⟨(after cfgs sched σ u).world, faults, clock,
          (after cfgs sched σ u).log⟩).2.world = _
        rw [reconcile_world_of_absent _ (by rw [hu]; exact ht.shows.2)]
        exact hu) rfl
  refine ⟨t, fun u htu => ?_⟩
  rw [Sys.group, Sys.group, hkeep u htu]
  exact ht.shows

/-- Passes on `condemnedX` and on its mirror in turn, the first four failing, remove both. -/
theorem condemnedX_converges :
    (∃ t, ∀ u, t ≤ u →
      (after twoClusters (inTurns 0 1 "x" "x" 4) ⟨twoWorld [condemnedX] [pairedMirrorOfX], []⟩
        u).group 0 "x" = none ∧
      (after twoClusters (inTurns 0 1 "x" "x" 4) ⟨twoWorld [condemnedX] [pairedMirrorOfX], []⟩
        u).group 1 "x" = none) ∧
      ∀ t r, (inTurns 0 1 "x" "x" 4 t).On 0 "x" →
        (inTurns 0 1 "x" "x" 4 t).reply twoClusters (after twoClusters (inTurns 0 1 "x" "x" 4)
          ⟨twoWorld [condemnedX] [pairedMirrorOfX], []⟩ t) = some r →
        (after twoClusters (inTurns 0 1 "x" "x" 4) ⟨twoWorld [condemnedX] [pairedMirrorOfX], []⟩
          t).group 1 "x" ≠ none → r.Retries :=
  @teardown_converges twoClusters ⟨twoWorld [condemnedX] [pairedMirrorOfX], []⟩ 0 1
    condemnedX pairedMirrorOfX
    ⟨by decide, rfl, rfl, by decide, by decide, rfl, by decide, rfl⟩
    ⟨rfl, by decide, rfl, by decide, by decide, by decide, rfl, rfl, by decide, by decide,
      by decide⟩
    (inTurns 0 1 "x" "x" 4) inTurns_passes (inTurns_fair_first _ _) (inTurns_fair_second _ _)
    (inTurns_first 0) inTurns_stop

end CsmReplication
