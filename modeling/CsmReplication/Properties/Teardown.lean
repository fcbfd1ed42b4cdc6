import CsmReplication.Controller.Failures
import CsmReplication.Properties.Handshake
import CsmReplication.Properties.Paired
import Mathlib.Data.Fintype.Prod
import Mathlib.Tactic.DeriveFintype

/-!
# The deletion handshake survives failed calls

A deleting group `L` whose retention policy is `delete` goes with its mirror `M` in four passes
(`deletion_handshake_completes`): `L`'s controller asks `M` for deletion, `M`'s controller deletes
`M` and then releases it, and `L`'s controller, finding no group under `M`'s name, releases `L`.
Where the handshake stands is a small machine: `L` stored or released, and `M` live, asked,
deleting or removed (`Phase`); two passes on `M` between two passes on `L`, with no call failing,
take it from every point it can be at to both groups removed (`Phase.four_passes_remove`).

The controllers refine that machine: a pass on either group, whatever its calls answer, leaves
the handshake where it is or moves it as a pass with no failure would
(`reconcile_local_teardown`, `reconcile_mirror_teardown`). The mirror's controller leaves a live
mirror alone because it is paired with `L`, and `L`'s leaves an asked mirror alone because it is
asked. So whatever failed in earlier passes, in any order, the four passes of the handshake with
no failure remove both groups (`teardown_survives_failures`). The runs are of the two controllers'
passes on the two groups alone.
-/

namespace CsmReplication

/-! ## The phases of the handshake -/

/-- How far the mirror of a deleting group has come. -/
inductive Phase where
  /-- Live, not asked for deletion. -/
  | live
  /-- Live, annotated `DeletionRequested`. -/
  | asked
  /-- Deleting: the server holds it for its finalizer. -/
  | deleting
  /-- Removed from the server. -/
  | removed
  deriving DecidableEq, Fintype

namespace Phase

/-- The points the handshake reaches, `L` stored or not and the phase of `M`: `L` is released only
once `M` is removed. -/
def Valid : Bool × Phase → Prop
  | (true, _) => True
  | (false, p) => p = .removed

instance decidableValid : DecidablePred Valid
  | (true, _) => isTrue trivial
  | (false, p) => inferInstanceAs (Decidable (p = .removed))

/-- A pass on `L` with no call failing: it asks a live mirror for deletion (lines 184-191) and
releases `L` once no group carries the mirror's name (lines 177-179 and 199-204). -/
def passLocal : Bool × Phase → Bool × Phase
  | (true, .live) => (true, .asked)
  | (true, .removed) => (false, .removed)
  | s => s

/-- A pass on `M` with no call failing: it deletes `M` once asked (lines 215-219) and releases it
once deleting (lines 168 and 199-204). -/
def passMirror : Bool × Phase → Bool × Phase
  | (b, .asked) => (b, .deleting)
  | (b, .deleting) => (b, .removed)
  | s => s

theorem valid_passLocal : ∀ s, Valid s → Valid (passLocal s) := by
  decide

theorem valid_passMirror : ∀ s, Valid s → Valid (passMirror s) := by
  decide

/-- The four passes of the handshake with no call failing take every point it can be at to both
groups removed. -/
theorem four_passes_remove :
    ∀ s, Valid s → passLocal (passMirror (passMirror (passLocal s))) = (false, .removed) := by
  decide

end Phase

/-! ## The points a world shows -/

/-- `L`, stored or released. -/
def localAt (L : DellCSIReplicationGroup) : Bool → Option DellCSIReplicationGroup
  | true => some L
  | false => none

/-- The mirror `M` at each phase. -/
def mirrorAt (M : DellCSIReplicationGroup) : Phase → Option DellCSIReplicationGroup
  | .live => some M
  | .asked => some (M.annotate deletionRequested "yes")
  | .deleting => some { M.annotate deletionRequested "yes" with deleting := true }
  | .removed => none

/-- The world shows `L` on cluster `c` and `M` on cluster `rc` at the point `s`. -/
def ShowsTeardown (w : World) (c rc : Nat) (L M : DellCSIReplicationGroup) (s : Bool × Phase) :
    Prop :=
  lookupRG (w c).rgs L.name = localAt L s.1 ∧ lookupRG (w rc).rgs M.name = mirrorAt M s.2

/-- What the handshake assumes of `L` on `c`, deleting its mirror, and `M`, the group under the
name `L` recorded on `rc`: both carry `RGFinalizer` alone. -/
structure TeardownSetup (cfgs : Nat → Config) (c rc : Nat) (L M : DellCSIReplicationGroup) :
    Prop where
  name_ne : L.name ≠ ""
  deleting : L.deleting = true
  finalizers : L.finalizers = [rgFinalizer]
  not_requested : L.annotations.has deletionRequested = false
  deletes_mirror : DeletesMirror L
  connection : (cfgs c).connection L.spec.remoteClusterId = some rc
  mirror_name : L.annotations.get remoteReplicationGroup = M.name
  mirror_finalizers : M.finalizers = [rgFinalizer]

/-! ## Writes move the handshake -/

section Writes

variable {w : World} {c rc : Nat} {L M : DellCSIReplicationGroup} (hne : rc = c → M.name ≠ L.name)
include hne

/-- Asking the live mirror for deletion (lines 184-191). -/
theorem ShowsTeardown.ask (hs : ShowsTeardown w c rc L M (true, .live))
    (hlive : M.deleting = false) :
    ShowsTeardown ((RGWrite.update rc (M.annotate deletionRequested "yes")).apply w) c rc L M
      (true, .asked) :=
  ⟨(RGWrite.lookup_apply_of_ne (.update rc (M.annotate deletionRequested "yes")) w
      fun h₁ h₂ => hne h₁ h₂).trans hs.1,
    RGWrite.lookup_apply_update_live (X := M.annotate deletionRequested "yes") hs.2 hlive hlive⟩

/-- Releasing `L` once its mirror is removed (lines 199-204). -/
theorem ShowsTeardown.release (hs : ShowsTeardown w c rc L M (true, .removed))
    (hdel : L.deleting = true) (hfin : L.finalizers = [rgFinalizer]) :
    ShowsTeardown ((RGWrite.update c { L with
      finalizers := L.finalizers.erase rgFinalizer }).apply w) c rc L M (false, .removed) :=
  ⟨RGWrite.lookup_apply_update_release hs.1 hdel (by simp [hfin]),
    (RGWrite.lookup_apply_of_ne (.update c { L with
      finalizers := L.finalizers.erase rgFinalizer }) w
      fun h₁ h₂ => hne h₁.symm h₂.symm).trans hs.2⟩

/-- Deleting the asked mirror, which its finalizer holds (lines 215-219). -/
theorem ShowsTeardown.delete_mirror {b : Bool} (hs : ShowsTeardown w c rc L M (b, .asked))
    (hfin : M.finalizers = [rgFinalizer]) :
    ShowsTeardown ((RGWrite.delete rc M.name).apply w) c rc L M (b, .deleting) :=
  ⟨(RGWrite.lookup_apply_of_ne (.delete rc M.name) w fun h₁ h₂ => hne h₁ h₂).trans hs.1,
    RGWrite.lookup_apply_delete_of_finalizers (R := M.annotate deletionRequested "yes") hs.2
      (by simp [hfin])⟩

/-- Releasing the deleting mirror, which the server then removes (lines 168 and 199-204). -/
theorem ShowsTeardown.release_mirror {b : Bool} (hs : ShowsTeardown w c rc L M (b, .deleting))
    (hfin : M.finalizers = [rgFinalizer]) :
    ShowsTeardown ((RGWrite.update rc { M.annotate deletionRequested "yes" with
      deleting := true, finalizers := (M.annotate deletionRequested "yes").finalizers.erase
        rgFinalizer }).apply w) c rc L M (b, .removed) :=
  ⟨(RGWrite.lookup_apply_of_ne _ w (by exact fun h₁ h₂ => hne h₁ h₂)).trans hs.1,
    RGWrite.lookup_apply_update_release hs.2 rfl (by simp [hfin])⟩

end Writes

/-! ## The passes refine the machine -/

namespace TeardownSetup

variable {cfgs : Nat → Config} {c rc : Nat} {L M : DellCSIReplicationGroup} {w₀ w : World}
  (hM : PairedAt (cfgs rc) w₀ rc M.name M c L)
include hM

/-- What `M` records is `L`'s name. -/
theorem peer_name : (mirrorNaming (cfgs rc) M.name M).remoteRGName = L.name :=
  (lookupBy_eq_some _ hM.mirror_lookup).2.symm

/-- `L` is stored under its name. -/
theorem local_lookup : lookupRG (w₀ c).rgs L.name = some L :=
  peer_name hM ▸ hM.mirror_lookup

/-- The deleting `L` and the live `M` are two groups. -/
theorem apart (h : TeardownSetup cfgs c rc L M) : rc = c → M.name ≠ L.name := by
  rintro rfl heq
  obtain rfl : L = M := Option.some.inj ((local_lookup hM).symm.trans (heq ▸ hM.lookup))
  exact Bool.noConfusion (h.deleting.symm.trans hM.live)

variable (h : TeardownSetup cfgs c rc L M) (hne : rc = c → M.name ≠ L.name)
include h hne

/-- A pass on `L`, whatever its calls answer, leaves the handshake where it is or moves it as a
pass with no failure would; while `L` stays stored, the pass asks to be run again. -/
theorem reconcile_local_teardown {s : Bool × Phase} (hv : Phase.Valid s)
    (hs : ShowsTeardown w c rc L M s) (o : Oracle) (faults : List Bool) (clock : List Int)
    (log : List Effect) :
    ∃ s', (s' = s ∨ s' = Phase.passLocal s) ∧
      ((reconcile (cfgs c) o c L.name ⟨w, faults, clock, log⟩).1.Retries ∨ s'.1 = false) ∧
      ShowsTeardown (reconcile (cfgs c) o c L.name ⟨w, faults, clock, log⟩).2.world c rc L M
        s' := by
  obtain ⟨b, p⟩ := s
  cases b with
  | false =>
    rw [reconcile_world_of_absent _ hs.1]
    exact ⟨_, .inl rfl, .inr rfl, hs⟩
  | true =>
    have hL := Cluster.getRG_of_lookup h.name_ne hs.1
    have hfin : rgFinalizer ∈ L.finalizers := h.finalizers ▸ List.mem_singleton_self _
    -- No group carries `M`'s name only once `M` is removed.
    have hremoved : ∀ {rc'}, (cfgs c).connection L.spec.remoteClusterId = some rc' →
        lookupRG (w rc').rgs (L.annotations.get remoteReplicationGroup) = none →
        p = .removed := fun hrc' hnone => by
      obtain rfl := Option.some.inj (hrc'.symm.trans h.connection)
      rw [h.mirror_name, hs.2] at hnone
      cases p <;> first | rfl | cases hnone
    rcases @reconcile_polls_mirror (cfgs c) o c L.name L ⟨w, faults, clock, log⟩ hL h.deleting hfin
      h.not_requested h.deletes_mirror with hr | ⟨rc', hrc', hnone, hw⟩
    · rcases reconcile_of_deleting_with_mirror_policy (cfgs c) o ⟨w, faults, clock, log⟩ hL
        h.deleting hfin h.not_requested h.deletes_mirror
        with hw | ⟨rc', hrc', ⟨R, hR, hRdr, hw⟩ | ⟨hnone, hw⟩⟩ <;> rw [hw]
      · exact ⟨_, .inl rfl, .inl hr, hs⟩
      · -- `L`'s controller asks the group under `M`'s name: `M` is live.
        obtain rfl := Option.some.inj (hrc'.symm.trans h.connection)
        rw [h.mirror_name, hs.2] at hR
        cases p with
        | live =>
          cases hR
          exact ⟨_, .inr rfl, .inl hr, hs.ask hne hM.live⟩
        | asked | deleting =>
          cases hR
          exact absurd hRdr (by simp)
        | removed => cases hR
      · obtain rfl := hremoved hrc' hnone
        exact ⟨_, .inr rfl, .inl hr, hs.release hne h.deleting h.finalizers⟩
    · -- `L` is released.
      obtain rfl := hremoved hrc' hnone
      rw [hw]
      exact ⟨_, .inr rfl, .inr rfl, hs.release hne h.deleting h.finalizers⟩

/-- A pass on `M`, whatever its calls answer, moves the handshake as a pass with no failure would,
or leaves it where it is and asks to be run again. -/
theorem reconcile_mirror_teardown {s : Bool × Phase} (hv : Phase.Valid s)
    (hs : ShowsTeardown w c rc L M s) (o : Oracle) (faults : List Bool) (clock : List Int)
    (log : List Effect) :
    ShowsTeardown (reconcile (cfgs rc) o rc M.name ⟨w, faults, clock, log⟩).2.world c rc L M
        (Phase.passMirror s) ∨
      (reconcile (cfgs rc) o rc M.name ⟨w, faults, clock, log⟩).1.Retries ∧
      ShowsTeardown (reconcile (cfgs rc) o rc M.name ⟨w, faults, clock, log⟩).2.world c rc L M
        s := by
  obtain ⟨b, p⟩ := s
  cases p with
  | live =>
    -- A live mirror is paired with `L`, which is stored.
    cases b with
    | false => cases hv
    | true =>
      left
      rw [reconcile_of_paired (hM.of_lookups hs.2 (peer_name hM ▸ hs.1))]
      exact hs
  | asked =>
    rcases @reconcile_deletes_asked_group_or_fails (cfgs rc) o rc M.name _ ⟨w, faults, clock, log⟩
      hs.2 hM.name_ne hM.live hM.finalizer (StringMap.has_set_self _ _ _)
      with ⟨hw, hr⟩ | hw <;> rw [hw]
    · exact .inr ⟨hr, hs⟩
    · exact .inl (hs.delete_mirror hne h.mirror_finalizers)
  | deleting =>
    rcases @reconcile_releases_asked_group_or_fails (cfgs rc) o rc M.name _ ⟨w, faults, clock, log⟩
      hs.2 hM.name_ne rfl hM.finalizer (StringMap.has_set_self _ _ _) with ⟨hw, hr⟩ | hw <;> rw [hw]
    · exact .inr ⟨hr, hs⟩
    · exact .inl (hs.release_mirror hne h.mirror_finalizers)
  | removed =>
    left
    rw [reconcile_world_of_absent _ hs.2]
    exact hs

/-- With no call failing, a pass on `L` moves the handshake as the machine does. -/
theorem reconcile_local_teardown_passes {s : Bool × Phase} (hv : Phase.Valid s)
    (hs : ShowsTeardown w c rc L M s) (o : Oracle) (clock : List Int) (log : List Effect) :
    ShowsTeardown (reconcile (cfgs c) o c L.name ⟨w, [], clock, log⟩).2.world c rc L M
      (Phase.passLocal s) := by
  obtain ⟨b, p⟩ := s
  have hfin : rgFinalizer ∈ L.finalizers := h.finalizers ▸ List.mem_singleton_self _
  cases b
  case false =>
    obtain ⟨s', rfl | rfl, -, hs'⟩ := h.reconcile_local_teardown hM hne hv hs o [] clock log
    exacts [hs', hs']
  cases p with
  | live =>
    rw [reconcile_asks_for_mirror_deletion hs.1 h.name_ne h.deleting hfin h.not_requested
      h.deletes_mirror h.connection (h.mirror_name ▸ hs.2) (h.mirror_name ▸ hM.name_ne)
      hM.not_requested]
    exact hs.ask hne hM.live
  | asked | deleting =>
    obtain ⟨s', rfl | rfl, -, hs'⟩ := h.reconcile_local_teardown hM hne hv hs o [] clock log
    exacts [hs', hs']
  | removed =>
    rw [reconcile_releases_without_mirror hs.1 h.name_ne h.deleting hfin h.not_requested
      h.deletes_mirror h.connection (h.mirror_name ▸ hs.2) (h.mirror_name ▸ hM.name_ne)]
    exact hs.release hne h.deleting h.finalizers

/-- With no call failing, a pass on `M` moves the handshake as the machine does. -/
theorem reconcile_mirror_teardown_passes {s : Bool × Phase} (hv : Phase.Valid s)
    (hs : ShowsTeardown w c rc L M s) (o : Oracle) (clock : List Int) (log : List Effect) :
    ShowsTeardown (reconcile (cfgs rc) o rc M.name ⟨w, [], clock, log⟩).2.world c rc L M
      (Phase.passMirror s) := by
  obtain ⟨b, p⟩ := s
  cases p with
  | live | removed =>
    exact (h.reconcile_mirror_teardown hM hne hv hs o [] clock log).elim id (·.2)
  | asked =>
    rw [reconcile_deletes_asked_group hs.2 hM.name_ne hM.live hM.finalizer
      (StringMap.has_set_self _ _ _) hM.connection]
    exact hs.delete_mirror hne h.mirror_finalizers
  | deleting =>
    rw [reconcile_releases_asked_group hs.2 hM.name_ne rfl hM.finalizer
      (StringMap.has_set_self _ _ _) hM.connection]
    exact hs.release_mirror hne h.mirror_finalizers

/-- Along any run of passes on the two groups, whatever their calls answer, the world shows the
handshake at a point it can be at. -/
theorem teardownAt_run (steps : List Step)
    (hsteps : ∀ st ∈ steps, ∃ faults clock o,
      st = .reconcile c L.name faults clock o ∨ st = .reconcile rc M.name faults clock o)
    {σ : Sys} (hσ : ∃ s, Phase.Valid s ∧ ShowsTeardown σ.world c rc L M s) :
    ∃ s, Phase.Valid s ∧ ShowsTeardown (run cfgs steps σ).world c rc L M s :=
  run_keeps (P := fun w => ∃ s, Phase.Valid s ∧ ShowsTeardown w c rc L M s)
    (fun st hst σ' ⟨s, hv, hs⟩ => by
      obtain ⟨faults, clock, o, rfl | rfl⟩ := hsteps st hst
      · obtain ⟨s', rfl | rfl, -, hs'⟩ :=
          h.reconcile_local_teardown hM hne hv hs o faults clock σ'.log
        exacts [⟨_, hv, hs'⟩, ⟨_, Phase.valid_passLocal _ hv, hs'⟩]
      · rcases h.reconcile_mirror_teardown hM hne hv hs o faults clock σ'.log with hs' | ⟨-, hs'⟩
        exacts [⟨_, Phase.valid_passMirror s hv, hs'⟩, ⟨s, hv, hs'⟩]) hσ

theorem pass_local {σ : Sys} {s : Bool × Phase} (hv : Phase.Valid s)
    (hs : ShowsTeardown σ.world c rc L M s) :
    ShowsTeardown ((Step.pass c L.name []).apply cfgs σ).world c rc L M (Phase.passLocal s) :=
  h.reconcile_local_teardown_passes hM hne hv hs storedOrder [] σ.log

theorem pass_mirror {σ : Sys} {s : Bool × Phase} (hv : Phase.Valid s)
    (hs : ShowsTeardown σ.world c rc L M s) :
    ShowsTeardown ((Step.pass rc M.name []).apply cfgs σ).world c rc L M (Phase.passMirror s) :=
  h.reconcile_mirror_teardown_passes hM hne hv hs storedOrder [] σ.log

/-- The four passes of the handshake, with no call failing, remove both groups from every point
the handshake can be at. -/
theorem run_removes {σ : Sys} {s : Bool × Phase} (hv : Phase.Valid s)
    (hs : ShowsTeardown σ.world c rc L M s) :
    ShowsTeardown (run cfgs [.pass c L.name [], .pass rc M.name [], .pass rc M.name [],
      .pass c L.name []] σ).world c rc L M (false, .removed) := by
  have hv₁ := Phase.valid_passLocal s hv
  have hv₂ := Phase.valid_passMirror _ hv₁
  have hs₄ := h.pass_local hM hne (Phase.valid_passMirror _ hv₂)
    (h.pass_mirror hM hne hv₂ (h.pass_mirror hM hne hv₁ (h.pass_local hM hne hv hs)))
  rwa [Phase.four_passes_remove s hv] at hs₄

end TeardownSetup

/-- After any passes on `L` and `M` with any failures, the four clean passes of the handshake
remove both groups. -/
theorem teardown_survives_failures (cfgs : Nat → Config) (σ : Sys) {c rc : Nat}
    {L M : DellCSIReplicationGroup} (h : TeardownSetup cfgs c rc L M)
    (hM : PairedAt (cfgs rc) σ.world rc M.name M c L) (steps : List Step)
    (hsteps : ∀ st ∈ steps, ∃ faults clock o,
      st = .reconcile c L.name faults clock o ∨ st = .reconcile rc M.name faults clock o) :
    (run cfgs (steps ++ [.pass c L.name [], .pass rc M.name [], .pass rc M.name [],
        .pass c L.name []]) σ).group c L.name = none ∧
      (run cfgs (steps ++ [.pass c L.name [], .pass rc M.name [], .pass rc M.name [],
        .pass c L.name []]) σ).group rc M.name = none := by
  have hne := TeardownSetup.apart hM h
  obtain ⟨s, hv, hs⟩ := h.teardownAt_run hM hne steps hsteps
    ⟨(true, .live), trivial, TeardownSetup.local_lookup hM, hM.lookup⟩
  rw [run_append]
  exact h.run_removes hM hne hv hs

/-- The mirror that cluster 0's controller builds for `condemnedX`, with the finalizer and synced
back to it. -/
def pairedMirrorOfX : DellCSIReplicationGroup :=
  markSynced "x" { mirrorCandidate configA storedOrder "x" condemnedX false with
    finalizers := [rgFinalizer] } "x"

/-- A pass on the live mirror, a pass on `condemnedX` whose read of the mirror fails, one that
asks the mirror for deletion, and a pass on the mirror whose delete fails. -/
def failingTeardown : List Step :=
  [.reconcile 1 "x" [] [] storedOrder, .reconcile 0 "x" [false, false, true] [] storedOrder,
    .reconcile 0 "x" [] [] storedOrder, .reconcile 1 "x" [false, false, true] [] storedOrder]

/-- After the failing passes, the handshake removes `condemnedX` and its mirror. -/
theorem condemnedX_removed_after_failures :
    (run twoClusters (failingTeardown ++ [.pass 0 "x" [], .pass 1 "x" [], .pass 1 "x" [],
        .pass 0 "x" []]) ⟨twoWorld [condemnedX] [pairedMirrorOfX], []⟩).group 0 "x" = none ∧
      (run twoClusters (failingTeardown ++ [.pass 0 "x" [], .pass 1 "x" [], .pass 1 "x" [],
        .pass 0 "x" []]) ⟨twoWorld [condemnedX] [pairedMirrorOfX], []⟩).group 1 "x" = none :=
  @teardown_survives_failures twoClusters ⟨twoWorld [condemnedX] [pairedMirrorOfX], []⟩ 0 1
    condemnedX pairedMirrorOfX
    ⟨by decide, rfl, rfl, by decide, by decide, rfl, by decide, rfl⟩
    ⟨rfl, by decide, rfl, by decide, by decide, by decide, rfl, rfl, by decide, by decide,
      by decide⟩
    failingTeardown
    (by simp [failingTeardown, show condemnedX.name = "x" from rfl,
      show pairedMirrorOfX.name = "x" from rfl])

end CsmReplication
