import CsmReplication.Controller.Snapshot

/-!
# Frame rules

`Pass.Keeps R m` says that every run of `m` relates the state it starts in to the state it ends
in by `R`. For a preorder `R` this is closed under `pure` and `>>=`, and a `match` or an `if`
keeps `R` when each branch does, so a stage keeps `R` as soon as each client call in it does:
its proof splits the stage along its own binds and branches and stops at the client calls. Three
relations are used: `RGsFixed`, no replication group of any cluster changes; `LogsOnly E`, every
entry appended to the log satisfies `E`; and `ClockKept`, no clock reading is consumed.

The snapshot materializer writes namespaces, snapshot classes, contents, snapshots and claims on
the remote cluster, and never a replication group. Its frame is proved once, for every relation
its client calls keep (`SnapshotCalls`), and up to the pair loop for the relations that only its
set-up calls keep (`SetupCalls`).
-/

namespace CsmReplication

namespace Pass

/-- Every run of `m` relates the state it starts in to the state it ends in by `R`. -/
def Keeps (R : PassState → PassState → Prop) {α : Type} (m : Pass α) : Prop :=
  ∀ s, R s (m s).2

section Rules

variable {R : PassState → PassState → Prop} [IsPreorder PassState R] {α β : Type}

theorem keeps_pure (a : α) : Keeps R (pure a : Pass α) :=
  fun s => refl_of R s

theorem keeps_bind {x : Pass α} {f : α → Pass β} (hx : Keeps R x) (hf : ∀ a, Keeps R (f a)) :
    Keeps R (x >>= f) :=
  fun s => trans_of R (hx s) (hf _ _)

end Rules

end Pass

/-! ## The two relations -/

/-- Every cluster of `w'` holds the replication groups it holds in `w`. -/
def SameRGs (w w' : World) : Prop :=
  ∀ d, (w' d).rgs = (w d).rgs

theorem SameRGs.refl (w : World) : SameRGs w w := fun _ => rfl

theorem SameRGs.trans {w₁ w₂ w₃ : World} (h₁ : SameRGs w₁ w₂) (h₂ : SameRGs w₂ w₃) :
    SameRGs w₁ w₃ :=
  fun d => (h₂ d).trans (h₁ d)

theorem SameRGs.symm {w₁ w₂ : World} (h : SameRGs w₁ w₂) : SameRGs w₂ w₁ :=
  fun d => (h d).symm

/-- No replication group of any cluster changes. -/
def RGsFixed (s s' : PassState) : Prop :=
  SameRGs s.world s'.world

instance : IsPreorder PassState RGsFixed where
  refl s := SameRGs.refl s.world
  trans _ _ _ := SameRGs.trans

/-- Every entry appended to the log satisfies `E`. -/
def LogsOnly (E : Effect → Prop) (s s' : PassState) : Prop :=
  ∃ es, s'.log = s.log ++ es ∧ ∀ e ∈ es, E e

instance (E : Effect → Prop) : IsPreorder PassState (LogsOnly E) where
  refl _ := ⟨[], by simp, by simp⟩
  trans _ _ _ := by
    rintro ⟨es₁, h₁, hE₁⟩ ⟨es₂, h₂, hE₂⟩
    refine ⟨es₁ ++ es₂, by simp [h₂, h₁], fun e he => ?_⟩
    rcases List.mem_append.mp he with h | h
    exacts [hE₁ e h, hE₂ e h]

theorem LogsOnly.of_log_eq {E : Effect → Prop} {s s' : PassState} (h : s'.log = s.log) :
    LogsOnly E s s' :=
  ⟨[], by simp [h], by simp⟩

/-- The clock is not read. -/
def ClockKept (s s' : PassState) : Prop :=
  s'.clock = s.clock

instance : IsPreorder PassState ClockKept where
  refl _ := rfl
  trans _ _ _ h₁ h₂ := h₂.trans h₁

/-- A write whose operation keeps the cluster's replication groups. -/
theorem rgs_of_map_ok {α : Type} {e : Except ApiError α} {g : α → Cluster} {cl cl' : Cluster}
    (hg : ∀ y, (g y).rgs = cl.rgs) (h : e.map g = .ok cl') : cl'.rgs = cl.rgs := by
  cases e with
  | error => cases h
  | ok y => cases h; exact hg y

namespace Client

open Pass

/-! ## Client calls and `RGsFixed` -/

theorem read_keeps_rgs {α : Type} (d : Nat) (op : Cluster → Except ApiError α) :
    Keeps RGsFixed (read d op) := by
  intro s _
  rw [read_apply]

theorem now_keeps_rgs : Keeps RGsFixed now := fun _ _ => rfl

theorem record_keeps_rgs (e : Effect) : Keeps RGsFixed (record e) := fun _ _ => rfl

theorem write_keeps_rgs (d : Nat) (op : Cluster → Except ApiError Cluster)
    (h : ∀ cl cl', op cl = .ok cl' → cl'.rgs = cl.rgs) : Keeps RGsFixed (write d op) := by
  intro s d'
  rw [write_apply]
  split
  · rfl
  · split
    · rfl
    · rename_i cl hcl
      by_cases hd : d' = d
      · subst hd
        simp [h _ _ hcl]
      · simp [Function.update_noteq hd]

theorem createNamespace_keeps_rgs (d : Nat) (ns : Namespace) :
    Keeps RGsFixed (createNamespace d ns) :=
  keeps_bind (write_keeps_rgs _ _ fun _ _ => rgs_of_map_ok fun _ => rfl) fun _ =>
    keeps_bind (record_keeps_rgs _) fun _ => keeps_pure _

theorem createSnapshotClass_keeps_rgs (d : Nat) (sc : VolumeSnapshotClass) :
    Keeps RGsFixed (createSnapshotClass d sc) :=
  keeps_bind (write_keeps_rgs _ _ fun _ _ => rgs_of_map_ok fun _ => rfl) fun _ =>
    keeps_bind (record_keeps_rgs _) fun _ => keeps_pure _

theorem createSnapshotContent_keeps_rgs (d : Nat) (content : VolumeSnapshotContent) :
    Keeps RGsFixed (createSnapshotContent d content) :=
  keeps_bind (write_keeps_rgs _ _ fun _ _ => rgs_of_map_ok fun _ => rfl) fun _ =>
    keeps_bind (record_keeps_rgs _) fun _ => keeps_pure _

theorem createSnapshotObject_keeps_rgs (d : Nat) (snapshot : VolumeSnapshot) :
    Keeps RGsFixed (createSnapshotObject d snapshot) :=
  keeps_bind (write_keeps_rgs _ _ fun _ _ => rgs_of_map_ok fun _ => rfl) fun _ =>
    keeps_bind (record_keeps_rgs _) fun _ => keeps_pure _

theorem createPersistentVolumeClaim_keeps_rgs (d : Nat) (pvc : PersistentVolumeClaim) :
    Keeps RGsFixed (createPersistentVolumeClaim d pvc) :=
  keeps_bind (write_keeps_rgs _ _ fun _ _ => rgs_of_map_ok fun _ => rfl) fun _ =>
    keeps_bind (record_keeps_rgs _) fun _ => keeps_pure _

/-! ## Client calls and `LogsOnly` -/

section Log

variable {E : Effect → Prop}

theorem read_keeps_log {α : Type} (d : Nat) (op : Cluster → Except ApiError α) :
    Keeps (LogsOnly E) (read d op) := by
  intro s
  rw [read_apply]
  exact refl_of (LogsOnly E) s

theorem write_keeps_log (d : Nat) (op : Cluster → Except ApiError Cluster) :
    Keeps (LogsOnly E) (write d op) := by
  intro s
  rw [write_apply]
  split
  · exact refl_of (LogsOnly E) s
  · split <;> exact refl_of (LogsOnly E) s

theorem record_keeps_log {e : Effect} (h : E e) : Keeps (LogsOnly E) (record e) :=
  fun _ => ⟨[e], rfl, by simpa using h⟩

end Log

/-! ## Client calls and `ClockKept` -/

theorem read_keeps_clock {α : Type} (d : Nat) (op : Cluster → Except ApiError α) :
    Keeps ClockKept (read d op) := fun s => by
  rw [ClockKept, read_apply]

theorem write_keeps_clock (d : Nat) (op : Cluster → Except ApiError Cluster) :
    Keeps ClockKept (write d op) := fun s => by
  rw [ClockKept, write_apply]
  split
  · rfl
  · split <;> rfl

/-- A write leaves the log to the entry that records it. -/
theorem write_log (d : Nat) (op : Cluster → Except ApiError Cluster) (s : PassState) :
    (write d op s).2.log = s.log := by
  rw [write_apply]
  split
  · rfl
  · split <;> rfl

/-- A logged write appends its one entry to the log. -/
theorem logged_log (d : Nat) (op : Cluster → Except ApiError Cluster)
    (e : Except ApiError Unit → Effect) (s : PassState) :
    ((do let r ← write d op; record (e r); return r) s).2.log = s.log ++ [e (write d op s).1] := by
  rw [logged_apply, write_log]

theorem logged_keeps_clock {w : Pass (Except ApiError Unit)} {e : Except ApiError Unit → Effect}
    (hw : Keeps ClockKept w) : Keeps ClockKept (do let r ← w; record (e r); return r) :=
  keeps_bind hw fun _ => keeps_bind (fun _ => rfl) fun _ => keeps_pure _

end Client

/-! ## The snapshot materializer

The snapshot materializer reads the servers and the clock, records events, and creates
namespaces, snapshot classes, contents, snapshots and claims. Its frame lemmas are proved once,
for every preorder that the calls they make keep: the calls that set up a pair's namespace and
find its claim (`SetupCalls`), and those that make the pair's objects (`SnapshotCalls`). -/

open Pass Client

/-- The calls that set up the snapshot materializer keep `R`: the reads, and the creations of
namespaces and snapshot classes. -/
structure SetupCalls (R : PassState → PassState → Prop) : Prop where
  read : ∀ {α : Type} (d : Nat) (op : Cluster → Except ApiError α), Keeps R (read d op)
  createNamespace : ∀ d ns, Keeps R (Client.createNamespace d ns)
  createSnapshotClass : ∀ d sc, Keeps R (Client.createSnapshotClass d sc)

/-- Each client call of the snapshot materializer keeps `R`. -/
structure SnapshotCalls (R : PassState → PassState → Prop) extends SetupCalls R : Prop where
  now : Keeps R now
  createSnapshotContent : ∀ d content, Keeps R (Client.createSnapshotContent d content)
  createSnapshotObject : ∀ d snapshot, Keeps R (Client.createSnapshotObject d snapshot)
  createPersistentVolumeClaim : ∀ d pvc, Keeps R (Client.createPersistentVolumeClaim d pvc)

/-- Every run of `m` keeps `R`, or keeps it up to the state from which `m` runs the loop over the
pairs `pairs`. -/
def KeepsUntilPairs (R : PassState → PassState → Prop) (c rc : Nat)
    (group : DellCSIReplicationGroup) (pairs : List (String × String)) (m : Pass Outcome) : Prop :=
  ∀ s, R s (m s).2 ∨ ∃ shouldCreatePvc storageClass sc ns s₁, R s s₁ ∧
    m s = snapshotPairs c rc group shouldCreatePvc storageClass sc ns pairs s₁

section KeepsUntilPairs

variable {R : PassState → PassState → Prop} [IsPreorder PassState R] {c rc : Nat}
  {group : DellCSIReplicationGroup} {pairs : List (String × String)}

theorem keepsUntilPairs_pure (a : Outcome) : KeepsUntilPairs R c rc group pairs (pure a) :=
  fun s => .inl (refl_of R s)

theorem keepsUntilPairs_bind {α : Type} {x : Pass α} {f : α → Pass Outcome} (hx : Keeps R x)
    (hf : ∀ a, KeepsUntilPairs R c rc group pairs (f a)) :
    KeepsUntilPairs R c rc group pairs (x >>= f) := fun s => by
  rcases hf (x s).1 (x s).2 with h | ⟨b, st, sc, ns, s₁, hs₁, heq⟩
  · exact .inl (trans_of R (hx s) h)
  · exact .inr ⟨b, st, sc, ns, s₁, trans_of R (hx s) hs₁, heq⟩

theorem keepsUntilPairs_snapshotPairs (shouldCreatePvc : Bool) (storageClass : String)
    (sc : VolumeSnapshotClass) (ns : String) :
    KeepsUntilPairs R c rc group pairs
      (snapshotPairs c rc group shouldCreatePvc storageClass sc ns pairs) :=
  fun s => .inr ⟨shouldCreatePvc, storageClass, sc, ns, s, refl_of R s, rfl⟩

end KeepsUntilPairs

namespace SetupCalls

variable {R : PassState → PassState → Prop} [IsPreorder PassState R] (h : SetupCalls R)
include h

theorem scanPVCs_keeps (c : Nat) (volumeHandle : String) (pvcs : List PersistentVolumeClaim) :
    Keeps R (scanPVCs c volumeHandle pvcs) := by
  induction pvcs with
  | nil => exact keeps_pure _
  | cons pvc rest ih =>
    unfold scanPVCs getPersistentVolume
    repeat' (first
      | with_reducible exact ih
      | with_reducible exact h.read _ _
      | with_reducible apply keeps_pure
      | split
      | with_reducible refine keeps_bind ?_ fun _ => ?_)

theorem getPVCInformation_keeps (c : Nat) (group : DellCSIReplicationGroup)
    (volumeHandle : String) : Keeps R (getPVCInformation c group volumeHandle) :=
  keeps_bind (h.read _ _) fun r => by
    cases r
    exacts [keeps_pure _, h.scanPVCs_keeps _ _ _]

theorem createNamespace_keeps (rc : Nat) (ns : String) :
    Keeps R (CsmReplication.createNamespace rc ns) :=
  keeps_bind (h.createNamespace _ _) fun r => by
    cases r <;> exact keeps_pure _

theorem claimNamespace_keeps (rc : Nat) (ns : String) (pvc : Option PersistentVolumeClaim) :
    Keeps R (claimNamespace rc ns pvc) := by
  unfold claimNamespace
  repeat' (first
    | with_reducible exact h.createNamespace_keeps _ _
    | with_reducible apply keeps_pure
    | split
    | with_reducible refine keeps_bind ?_ fun _ => ?_)

/-- `processSnapshotEvent` records its marker, and then keeps `R` until it runs the loop over
the action's pairs in the order the oracle visits them, if it does. -/
theorem processSnapshotEvent_handsOver (cfg : Config) (o : Oracle) (c rc : Nat)
    (group : DellCSIReplicationGroup) :
    ∃ body : Unit → Pass Outcome, processSnapshotEvent cfg o c rc group =
      record (.snapshotEventProcessed c group.name) >>= body ∧
      ∀ u, KeepsUntilPairs R c rc group (o.order group.status.lastAction.actionAttributes)
        (body u) := by
  refine ⟨_, rfl, fun _ => ?_⟩
  unfold getNamespace getSnapshotClass
  dsimp only
  repeat' (first
    | with_reducible exact keepsUntilPairs_snapshotPairs _ _ _ _
    | with_reducible exact h.read _ _
    | with_reducible exact h.createNamespace_keeps _ _
    | with_reducible exact h.createSnapshotClass _ _
    | with_reducible apply keepsUntilPairs_pure
    | with_reducible apply keeps_pure
    | split
    | with_reducible refine keepsUntilPairs_bind ?_ fun _ => ?_)

end SetupCalls

namespace SnapshotCalls

variable {R : PassState → PassState → Prop} [IsPreorder PassState R] (h : SnapshotCalls R)
include h

theorem snapshotPair_keeps (rc : Nat) (shouldCreatePvc : Bool) (storageClass : String)
    (sc : VolumeSnapshotClass) (ns volumeHandle snapshotHandle : String)
    (pvc : Option PersistentVolumeClaim) :
    Keeps R (snapshotPair rc shouldCreatePvc storageClass sc ns volumeHandle snapshotHandle
      pvc) := by
  unfold snapshotPair getStorageClass
  repeat' (first
    | with_reducible exact h.now
    | with_reducible exact h.read _ _
    | with_reducible exact h.createSnapshotContent _ _
    | with_reducible exact h.createSnapshotObject _ _
    | with_reducible exact h.createPersistentVolumeClaim _ _
    | with_reducible apply keeps_pure
    | split
    | with_reducible refine keeps_bind ?_ fun _ => ?_)

theorem snapshotPairs_keeps (c rc : Nat) (group : DellCSIReplicationGroup)
    (shouldCreatePvc : Bool) (storageClass : String) (sc : VolumeSnapshotClass) (ns : String)
    (pairs : List (String × String)) :
    Keeps R (snapshotPairs c rc group shouldCreatePvc storageClass sc ns pairs) := by
  induction pairs generalizing ns with
  | nil => exact keeps_pure _
  | cons pair rest ih =>
    unfold snapshotPairs
    repeat' (first
      | with_reducible exact ih _
      | with_reducible exact h.getPVCInformation_keeps _ _ _
      | with_reducible exact h.claimNamespace_keeps _ _ _
      | with_reducible exact h.snapshotPair_keeps _ _ _ _ _ _ _ _
      | with_reducible apply keeps_pure
      | split
      | with_reducible refine keeps_bind ?_ fun _ => ?_
      | dsimp only)

/-- `processSnapshotEvent` records its marker, and everything after the marker keeps `R`. -/
theorem processSnapshotEvent_shape (cfg : Config) (o : Oracle) (c rc : Nat)
    (group : DellCSIReplicationGroup) :
    ∃ body : Unit → Pass Outcome, processSnapshotEvent cfg o c rc group =
      record (.snapshotEventProcessed c group.name) >>= body ∧ ∀ u, Keeps R (body u) := by
  obtain ⟨body, heq, hbody⟩ := h.processSnapshotEvent_handsOver cfg o c rc group
  refine ⟨body, heq, fun u s => ?_⟩
  rcases hbody u s with hs | ⟨b, st, sc, ns, s₁, hs₁, hrun⟩
  · exact hs
  · rw [hrun]
    exact trans_of R hs₁ (h.snapshotPairs_keeps c rc group b st sc ns _ s₁)

end SnapshotCalls

/-! ## The snapshot materializer keeps every replication group -/

theorem snapshotCalls_rgsFixed : SnapshotCalls RGsFixed where
  read := read_keeps_rgs
  now := now_keeps_rgs
  createNamespace := createNamespace_keeps_rgs
  createSnapshotClass := createSnapshotClass_keeps_rgs
  createSnapshotContent := createSnapshotContent_keeps_rgs
  createSnapshotObject := createSnapshotObject_keeps_rgs
  createPersistentVolumeClaim := createPersistentVolumeClaim_keeps_rgs

/-- `processSnapshotEvent` writes no replication group of any cluster. -/
theorem processSnapshotEvent_keeps_rgs (cfg : Config) (o : Oracle) (c rc : Nat)
    (group : DellCSIReplicationGroup) : Keeps RGsFixed (processSnapshotEvent cfg o c rc group) := by
  obtain ⟨body, heq, hbody⟩ := snapshotCalls_rgsFixed.processSnapshotEvent_shape cfg o c rc group
  rw [heq]
  exact keeps_bind (record_keeps_rgs _) hbody

end CsmReplication
