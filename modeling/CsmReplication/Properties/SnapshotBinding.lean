import CsmReplication.Controller.PassFrame
import CsmReplication.System.Run

/-!
# Snapshots and restored claims resolve

`processSnapshotEvent` materializes each pair of a `CREATE_SNAPSHOT` action on the remote cluster
in three creations (lines 440-473 and 505-583): a `VolumeSnapshotContent` that names the snapshot
it is for, then that `VolumeSnapshot`, naming the content, then, when asked, a claim restored from
the snapshot. Each creation is made only after the one before it was accepted.

So every snapshot on a cluster has its content there, naming it back, and every claim restored
from a snapshot finds that snapshot in its namespace: from any world where this holds, it holds
all along every run, whatever the interleaving of the controllers' passes and the users' steps and
whichever calls fail (`snapshots_stay_resolved`). Nothing removes a content, a snapshot or a
claim, and no other write touches them.

The converse does not hold: when the creation of a snapshot fails, the content created for it
stays, naming a snapshot that does not exist.
-/

namespace CsmReplication

open Pass Client

/-! ## Resolving references -/

/-- The content `C` and the snapshot `S` name each other (lines 505-541). -/
def Binds (C : VolumeSnapshotContent) (S : VolumeSnapshot) : Prop :=
  C.volumeSnapshotRef.name = S.name ∧ C.volumeSnapshotRef.«namespace» = S.«namespace» ∧
    S.volumeSnapshotContentName = C.name

/-- The claim `P`, when restored from a snapshot, finds it among `snapshots`, in its own
namespace (lines 553-558). -/
def Restores (snapshots : List VolumeSnapshot) (P : PersistentVolumeClaim) : Prop :=
  ∀ x, P.spec.dataSource = some ⟨"snapshot.storage.k8s.io", "VolumeSnapshot", x⟩ →
    ∃ S ∈ snapshots, S.name = x ∧ S.«namespace» = P.«namespace»

/-- Every snapshot of the cluster has its content there, and every claim restored from a
snapshot has that snapshot there. -/
def Cluster.SnapshotsResolve (cl : Cluster) : Prop :=
  (∀ S ∈ cl.snapshots, ∃ C ∈ cl.snapshotContents, Binds C S) ∧
    ∀ P ∈ cl.pvcs, Restores cl.snapshots P

/-- The snapshots and restored claims of every cluster resolve. -/
def SnapshotsResolve (w : World) : Prop :=
  ∀ d, (w d).SnapshotsResolve

namespace Cluster.SnapshotsResolve

variable {cl : Cluster}

theorem addContent (h : cl.SnapshotsResolve) (C : VolumeSnapshotContent) :
    { cl with snapshotContents := cl.snapshotContents ++ [C] }.SnapshotsResolve :=
  ⟨fun S hS => (h.1 S hS).imp fun _ hC => ⟨List.mem_append_left _ hC.1, hC.2⟩, h.2⟩

theorem addSnapshot (h : cl.SnapshotsResolve) {S : VolumeSnapshot}
    (hS : ∃ C ∈ cl.snapshotContents, Binds C S) :
    { cl with snapshots := cl.snapshots ++ [S] }.SnapshotsResolve := by
  refine ⟨fun S' hS' => ?_, fun P hP x hx => ?_⟩
  · rcases List.mem_append.1 hS' with hS' | hS'
    · exact h.1 S' hS'
    · rw [List.mem_singleton.1 hS']
      exact hS
  · obtain ⟨S', hS', hx'⟩ := h.2 P hP x hx
    exact ⟨S', List.mem_append_left _ hS', hx'⟩

theorem addClaim (h : cl.SnapshotsResolve) {P : PersistentVolumeClaim}
    (hP : Restores cl.snapshots P) : { cl with pvcs := cl.pvcs ++ [P] }.SnapshotsResolve := by
  refine ⟨h.1, fun P' hP' => ?_⟩
  rcases List.mem_append.1 hP' with hP' | hP'
  · exact h.2 P' hP'
  · rw [List.mem_singleton.1 hP']
    exact hP

end Cluster.SnapshotsResolve

theorem SnapshotsResolve.update {w : World} (h : SnapshotsResolve w) {d : Nat} {cl : Cluster}
    (hcl : cl.SnapshotsResolve) : SnapshotsResolve (Function.update w d cl) := by
  intro d'
  by_cases hd : d' = d
  · subst hd
    rw [Function.update_same]
    exact hcl
  · rw [Function.update_noteq hd]
    exact h d'

/-- A world whose clusters hold no snapshot and no claim. -/
theorem snapshotsResolve_twoWorld (a b : List DellCSIReplicationGroup) :
    SnapshotsResolve (twoWorld a b) := by
  intro d
  unfold twoWorld
  split_ifs <;> exact ⟨fun _ h => (nomatch h), fun _ h => (nomatch h)⟩

/-! ## One call at a time -/

/-- The references resolve after a step if they did before it. -/
def ResolveKept (s s' : PassState) : Prop :=
  SnapshotsResolve s.world → SnapshotsResolve s'.world

instance isPreorderResolveKept : IsPreorder PassState ResolveKept where
  refl _ := id
  trans _ _ _ h₁ h₂ := h₂ ∘ h₁

/-- A write keeps the references resolved when the operation it makes does. -/
theorem write_keeps_resolve {d : Nat} {op : Cluster → Except ApiError Cluster} {s : PassState}
    (hop : ∀ cl, op (s.world d) = .ok cl → (s.world d).SnapshotsResolve → cl.SnapshotsResolve) :
    ResolveKept s (write d op s).2 := by
  intro hs
  rcases write_world d op s with ⟨-, hw⟩ | ⟨cl, hcl, hw⟩
  · rw [hw]
    exact hs
  · rw [hw]
    exact hs.update (hop cl hcl (hs d))

theorem logged_keeps_resolve {w : Pass (Except ApiError Unit)} {e : Except ApiError Unit → Effect}
    (hw : Keeps ResolveKept w) : Keeps ResolveKept (do let r ← w; record (e r); return r) :=
  fun s => by
    rw [logged_apply]
    exact hw s

/-- A write of replication groups. -/
theorem write_keeps_resolve_of_rgs {d : Nat} {op : Cluster → Except ApiError Cluster}
    (hop : ∀ cl cl', op cl = .ok cl' → cl' = { cl with rgs := cl'.rgs }) :
    Keeps ResolveKept (write d op) := fun _ =>
  write_keeps_resolve fun cl hcl h => by
    rw [hop _ _ hcl]
    exact h

theorem createSnapshotContent_resolves (d : Nat) (C : VolumeSnapshotContent) :
    Keeps ResolveKept (createSnapshotContent d C) := fun s => by
  unfold createSnapshotContent
  rw [logged_apply]
  exact write_keeps_resolve fun cl hcl h => by
    obtain ⟨l, hl, rfl⟩ := map_eq_ok hcl
    rw [(createBy_eq_ok _ hl).2]
    exact h.addContent C

/-- A snapshot is created resolved when its content is there. -/
theorem createSnapshotObject_resolves {d : Nat} {S : VolumeSnapshot} {s : PassState}
    (hS : ∃ C ∈ (s.world d).snapshotContents, Binds C S) :
    ResolveKept s (createSnapshotObject d S s).2 := by
  unfold createSnapshotObject
  rw [logged_apply]
  exact write_keeps_resolve fun cl hcl h => by
    obtain ⟨l, hl, rfl⟩ := map_eq_ok hcl
    rw [(createBy_eq_ok _ hl).2]
    exact h.addSnapshot hS

/-- A claim is created resolved when the snapshot it is restored from is there. -/
theorem createPersistentVolumeClaim_resolves {d : Nat} {P : PersistentVolumeClaim}
    {s : PassState} (hP : Restores (s.world d).snapshots P) :
    ResolveKept s (createPersistentVolumeClaim d P s).2 := by
  unfold createPersistentVolumeClaim
  rw [logged_apply]
  exact write_keeps_resolve fun cl hcl h => by
    obtain ⟨l, hl, rfl⟩ := map_eq_ok hcl
    rw [(createBy_eq_ok _ hl).2]
    exact h.addClaim hP

theorem createSnapshotContent_mem {d : Nat} {C : VolumeSnapshotContent} {s : PassState}
    (h : (createSnapshotContent d C s).1 = .ok ()) :
    C ∈ ((createSnapshotContent d C s).2.world d).snapshotContents := by
  unfold createSnapshotContent at h ⊢
  rw [logged_apply] at h ⊢
  obtain ⟨cl, hcl, hw⟩ := write_ok_world h
  obtain ⟨l, hl, rfl⟩ := map_eq_ok hcl
  rw [hw, Function.update_same, (createBy_eq_ok _ hl).2]
  exact List.mem_append_right _ (List.mem_singleton_self _)

theorem createSnapshotObject_mem {d : Nat} {S : VolumeSnapshot} {s : PassState}
    (h : (createSnapshotObject d S s).1 = .ok ()) :
    S ∈ ((createSnapshotObject d S s).2.world d).snapshots := by
  unfold createSnapshotObject at h ⊢
  rw [logged_apply] at h ⊢
  obtain ⟨cl, hcl, hw⟩ := write_ok_world h
  obtain ⟨l, hl, rfl⟩ := map_eq_ok hcl
  rw [hw, Function.update_same, (createBy_eq_ok _ hl).2]
  exact List.mem_append_right _ (List.mem_singleton_self _)

theorem setupCalls_resolveKept : SetupCalls ResolveKept where
  read d op s := by
    rw [read_apply]
    exact id
  createNamespace _ _ := logged_keeps_resolve fun _ => write_keeps_resolve fun _ hcl h => by
    obtain ⟨_, -, rfl⟩ := map_eq_ok hcl
    exact h
  createSnapshotClass _ _ := logged_keeps_resolve fun _ => write_keeps_resolve fun _ hcl h => by
    obtain ⟨_, -, rfl⟩ := map_eq_ok hcl
    exact h

/-! ## The snapshot materializer -/

/-- One pair's objects: the content, then the snapshot once the content is accepted, then the
claim once the snapshot is accepted. -/
theorem snapshotPair_keeps_resolve (rc : Nat) (shouldCreatePvc : Bool) (storageClass : String)
    (sc : VolumeSnapshotClass) (ns volumeHandle snapshotHandle : String)
    (pvc : Option PersistentVolumeClaim) :
    Keeps ResolveKept
      (snapshotPair rc shouldCreatePvc storageClass sc ns volumeHandle snapshotHandle pvc) := by
  intro s hs
  simp only [snapshotPair, Pass.bind_apply, now_apply]
  set C := makeVolSnapContent snapshotHandle volumeHandle (makeSnapReference snapshotHandle ns) sc
    (s.clock.headD 0)
  have h₂ := createSnapshotContent_resolves rc C ⟨s.world, s.faults, s.clock.tail, s.log⟩ hs
  have hC := @createSnapshotContent_mem rc C ⟨s.world, s.faults, s.clock.tail, s.log⟩
  generalize createSnapshotContent rc C ⟨s.world, s.faults, s.clock.tail, s.log⟩ = p at h₂ hC
  obtain ⟨r, s₂⟩ := p
  cases r with
  | error e => exact h₂
  | ok u =>
    -- The content is accepted: the snapshot is created bound to it.
    set S := makeSnapshotObject (makeSnapReference snapshotHandle ns).name C.name sc.name ns
    simp only [Pass.bind_apply]
    have h₃ := createSnapshotObject_resolves (S := S) ⟨C, hC rfl, rfl, rfl, rfl⟩ h₂
    have hS := @createSnapshotObject_mem rc S s₂
    generalize createSnapshotObject rc S s₂ = q at h₃ hS
    obtain ⟨r', s₃⟩ := q
    cases r' with
    | error e => exact h₃
    | ok u' =>
      -- The snapshot is accepted: the claim is restored from it.
      split
      · simp only [Pass.bind_apply]
        have hw : (getStorageClass rc storageClass s₃).2.world = s₃.world := by
          rw [getStorageClass, read_apply]
        generalize getStorageClass rc storageClass s₃ = t at hw
        obtain ⟨a, s₄⟩ := t
        split
        · exact hw ▸ h₃
        · rename_i p _
          simp only [Pass.bind_apply, Pass.pure_apply]
          set P := makePersistentVolumeClaimFromSnapshot p.name ns C.volumeSnapshotRef.name
            storageClass p.spec
          have h₅ := createPersistentVolumeClaim_resolves (d := rc) (P := P) (s := s₄)
            fun x hx => ⟨S, hw ▸ hS rfl, by cases hx; rfl, rfl⟩
          generalize createPersistentVolumeClaim rc P s₄ = v at h₅
          obtain ⟨r'', s₅⟩ := v
          cases r'' <;> exact h₅ (hw ▸ h₃)
      · exact h₃

theorem snapshotPairs_keeps_resolve (c rc : Nat) (group : DellCSIReplicationGroup)
    (shouldCreatePvc : Bool) (storageClass : String) (sc : VolumeSnapshotClass) (ns : String)
    (pairs : List (String × String)) :
    Keeps ResolveKept (snapshotPairs c rc group shouldCreatePvc storageClass sc ns pairs) := by
  induction pairs generalizing ns with
  | nil => exact keeps_pure _
  | cons pair rest ih =>
    unfold snapshotPairs
    repeat' (first
      | with_reducible exact ih _
      | with_reducible exact setupCalls_resolveKept.getPVCInformation_keeps _ _ _
      | with_reducible exact setupCalls_resolveKept.claimNamespace_keeps _ _ _
      | with_reducible exact snapshotPair_keeps_resolve _ _ _ _ _ _ _ _
      | with_reducible apply keeps_pure
      | split
      | with_reducible refine keeps_bind ?_ fun _ => ?_
      | dsimp only)

theorem processSnapshotEvent_keeps_resolve (cfg : Config) (o : Oracle) (c rc : Nat)
    (group : DellCSIReplicationGroup) :
    Keeps ResolveKept (processSnapshotEvent cfg o c rc group) := by
  obtain ⟨body, heq, hbody⟩ := setupCalls_resolveKept.processSnapshotEvent_handsOver cfg o c rc group
  rw [heq]
  refine keeps_bind (fun _ => id) fun u s => ?_
  rcases hbody u s with hs | ⟨b, st, sc, ns, s₁, hs₁, hrun⟩
  · exact hs
  · rw [hrun]
    exact trans_of ResolveKept hs₁ (snapshotPairs_keeps_resolve c rc group b st sc ns _ s₁)

/-! ## Whole runs -/

/-- Every client call of a pass keeps the references resolved. -/
theorem passCalls_resolveKept : PassCalls ResolveKept where
  read := setupCalls_resolveKept.read
  nextFault _ := id
  record _ _ := id
  update _ rg := logged_keeps_resolve (write_keeps_resolve_of_rgs fun _ _ h =>
    RGWrite.result_others (x := .update 0 rg) h)
  delete _ rg := logged_keeps_resolve (write_keeps_resolve_of_rgs fun _ _ h =>
    RGWrite.result_others (x := .delete 0 rg.name) h)
  createReplicationGroup _ rg := logged_keeps_resolve (write_keeps_resolve_of_rgs fun _ _ h =>
    RGWrite.result_others (x := .create 0 rg) h)
  updateReplicationGroup _ rg := logged_keeps_resolve (write_keeps_resolve_of_rgs fun _ _ h =>
    RGWrite.result_others (x := .update 0 rg) h)
  processSnapshotEvent := processSnapshotEvent_keeps_resolve

theorem RGWrite.apply_resolves (x : RGWrite) {w : World} (h : SnapshotsResolve w) :
    SnapshotsResolve (x.apply w) := by
  unfold RGWrite.apply
  split
  · rename_i cl hcl
    refine h.update ?_
    rw [RGWrite.result_others hcl]
    exact h _
  · exact h

theorem step_keeps_resolve (cfgs : Nat → Config) (st : Step) {σ : Sys}
    (h : SnapshotsResolve σ.world) : SnapshotsResolve (st.apply cfgs σ).world := by
  cases st with
  | reconcile c name faults clock o =>
    exact passCalls_resolveKept.reconcile_keeps (cfgs c) o c name ⟨σ.world, faults, clock, σ.log⟩ h
  | create c rg => exact RGWrite.apply_resolves (.create c rg) h
  | delete c name => exact RGWrite.apply_resolves (.delete c name) h

/-- From a world where every snapshot has its content, naming it back, and every claim restored
from a snapshot has it, every run keeps it so, whatever the passes, users' steps and failures. -/
theorem snapshots_stay_resolved (cfgs : Nat → Config) (steps : List Step) (σ : Sys)
    (h : SnapshotsResolve σ.world) : SnapshotsResolve (run cfgs steps σ).world :=
  run_keeps (fun st _ _ => step_keeps_resolve cfgs st) h

end CsmReplication
