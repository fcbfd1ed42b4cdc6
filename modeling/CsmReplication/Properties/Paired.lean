import CsmReplication.Properties.Steady

/-!
# A paired group is left alone

Once the group `n` of cluster `c` and the group `m` of cluster `rc` are paired, each the mirror
of the other, and the last action of each is processed, a pass of either controller on either
group only reads and logs, whatever fails, whatever the clock reads and in whatever order the
maps are visited (`reconcile_of_paired`). A run made of such passes therefore stays in the state
it starts in (`paired_runs_change_nothing`): the pairing ends in a fixpoint, and no further
mirror is created, in single-cluster mode no `replicated-replicated-` group either.
-/

namespace CsmReplication

/-- `L`, the group `n` of `c`, is paired with `M` on `rc` for `cfg`: live, with the finalizer,
synced, idle, and looking up `M`, which mirrors it. -/
structure PairedAt (cfg : Config) (w : World) (c : Nat) (n : String)
    (L : DellCSIReplicationGroup) (rc : Nat) (M : DellCSIReplicationGroup) : Prop where
  lookup : lookupRG (w c).rgs n = some L
  name_ne : n ≠ ""
  live : L.deleting = false
  finalizer : rgFinalizer ∈ L.finalizers
  not_requested : L.annotations.has deletionRequested = false
  synced : L.annotations.get rgSyncComplete = "yes"
  connection : cfg.connection L.spec.remoteClusterId = some rc
  mirror_lookup : lookupRG (w rc).rgs (mirrorNaming cfg n L).remoteRGName = some M
  mirror_name_ne : (mirrorNaming cfg n L).remoteRGName ≠ ""
  mirrors : Mirrors (mirrorNaming cfg n L).localClusterID L M
  idle : Idle L

/-- Pairing depends on the world only through the two lookups. -/
theorem PairedAt.of_lookups {cfg : Config} {w w' : World} {c rc : Nat} {n : String}
    {L M : DellCSIReplicationGroup} (h : PairedAt cfg w c n L rc M)
    (hL : lookupRG (w' c).rgs n = some L)
    (hM : lookupRG (w' rc).rgs (mirrorNaming cfg n L).remoteRGName = some M) :
    PairedAt cfg w' c n L rc M :=
  { h with lookup := hL, mirror_lookup := hM }

/-- A pass on a paired group whose last action is processed writes nothing, whatever fails. -/
theorem reconcile_of_paired {cfg : Config} {w : World} {c rc : Nat} {n : String}
    {L M : DellCSIReplicationGroup} (h : PairedAt cfg w c n L rc M) (o : Oracle)
    (faults : List Bool) (clock : List Int) (log : List Effect) :
    (reconcile cfg o c n ⟨w, faults, clock, log⟩).2.world = w := by
  rw [reconcile_of_synced (o := o) _ (Cluster.getRG_of_lookup h.name_ne h.lookup) h.live
    h.finalizer h.not_requested h.synced h.connection
    (Cluster.getRG_of_lookup h.mirror_name_ne h.mirror_lookup) h.mirrors]
  split_ifs
  · rfl
  · rfl
  · rfl
  · exact (processActions_of_idle cfg o c rc h.idle _).1

/-- Any run of passes, by either controller, on two groups paired with each other, with any
failures, clock readings and map orders, leaves every cluster as it is. -/
theorem paired_runs_change_nothing (cfgs : Nat → Config) (σ : Sys) {c rc : Nat} {n m : String}
    {L M : DellCSIReplicationGroup} (hL : PairedAt (cfgs c) σ.world c n L rc M)
    (hM : PairedAt (cfgs rc) σ.world rc m M c L) (steps : List Step)
    (hsteps : ∀ st ∈ steps, ∃ faults clock o,
      st = .reconcile c n faults clock o ∨ st = .reconcile rc m faults clock o) :
    (run cfgs steps σ).world = σ.world :=
  run_keeps (P := fun w => w = σ.world) (fun st hst σ' hσ' => by
    obtain ⟨faults, clock, o, rfl | rfl⟩ := hsteps st hst
    · show (reconcile (cfgs c) o c n ⟨σ'.world, faults, clock, σ'.log⟩).2.world = σ.world
      rw [hσ']
      exact reconcile_of_paired hL o faults clock σ'.log
    · show (reconcile (cfgs rc) o rc m ⟨σ'.world, faults, clock, σ'.log⟩).2.world = σ.world
      rw [hσ']
      exact reconcile_of_paired hM o faults clock σ'.log) rfl

/-- `mirrorX` with the finalizer, synced with `syncedX`. -/
def pairedMirrorX : DellCSIReplicationGroup :=
  markSynced "x" { mirrorX with finalizers := [rgFinalizer] } "x"

/-- Passes of both controllers on `x`, the first with a failed read and the third with a failed
lookup of the mirror, leave the paired groups `x` as they are. -/
theorem pairedX_left_alone :
    (run twoClusters [.reconcile 0 "x" [true] [] storedOrder, .reconcile 1 "x" [] [5] storedOrder,
        .reconcile 0 "x" [false, false, true] [] storedOrder, .reconcile 0 "x" [] [] storedOrder]
      ⟨twoWorld [syncedX] [pairedMirrorX], []⟩).world = twoWorld [syncedX] [pairedMirrorX] :=
  @paired_runs_change_nothing twoClusters ⟨twoWorld [syncedX] [pairedMirrorX], []⟩ 0 1 "x" "x"
    syncedX pairedMirrorX
    ⟨rfl, by decide, rfl, by decide, by decide, by decide, rfl, rfl, by decide, by decide,
      by decide⟩
    ⟨rfl, by decide, rfl, by decide, by decide, by decide, rfl, rfl, by decide, by decide,
      by decide⟩
    _ (by simp)

end CsmReplication
