import CsmReplication.Core.Store

/-!
# One reconcile pass and its surroundings

A pass of the controller runs against every cluster's server at once and is atomic: no other
actor moves between its calls (a write of the controller is checked against what it read, by
the API server's optimistic concurrency, so a stale pass is one whose writes fail). What the
surroundings decide is explicit: for each call in order, whether it fails with a transient
error (`PassState.faults`), what the clock reads (`PassState.clock`), and in what order a `range`
over a map visits its pairs (`Oracle.order`). Every write and event goes to the pass's log, with
what the server answered.

The calls are the methods of the controller-runtime client (`r.Get`, `r.Update`, ...) and of
`connection.RemoteClusterClient`, on the cluster the client reaches.
-/

namespace CsmReplication

/-- A Go `error` as the controller builds it. `wrapped text e` is `fmt.Errorf("text: %s", e)`. -/
inductive Error where
  | api (e : ApiError)
  | connection (clusterId : String)
  | unmarshal
  | message (text : String)
  | wrapped (text : String) (cause : Error)
  deriving DecidableEq

/-- Go's `errors.IsNotFound`. -/
def Error.isNotFound : Error → Bool
  | .api .notFound => true
  | _ => false

/-- `client.IgnoreNotFound`. -/
def ignoreNotFound : ApiError → Option Error
  | .notFound => none
  | e => some (.api e)

/-- `ctrl.Result`. -/
structure Result where
  requeue : Bool
  requeueAfterMs : Nat
  deriving DecidableEq

/-- What a pass hands back to controller-runtime, or that it panicked. -/
inductive Reply where
  | ret (result : Result) (err : Option Error)
  | panic
  deriving DecidableEq

namespace Reply

/-- `return ctrl.Result{}, err`. -/
def ofError (err : Option Error) : Reply := .ret ⟨false, 0⟩ err

/-- `return ctrl.Result{}, nil`. -/
def done : Reply := ofError none

/-- `return ctrl.Result{}, err` for the answer of a write. -/
def ofWrite : Except ApiError Unit → Reply
  | .ok () => done
  | .error e => ofError (some (.api e))

/-- controller-runtime queues the group for another pass: the pass returned an error, or asked to
be requeued, at once (`Requeue`) or after a delay (`RequeueAfter`). A panic is not counted. -/
def Retries : Reply → Prop
  | .ret result err => err.isSome = true ∨ result.requeue = true ∨ 0 < result.requeueAfterMs
  | .panic => False

instance decidableRetries : DecidablePred Retries
  | .ret _ _ => inferInstanceAs (Decidable (_ ∨ _ ∨ _))
  | .panic => inferInstanceAs (Decidable False)

@[simp] theorem ofError_retries (e : Error) : (ofError (some e)).Retries :=
  Or.inl rfl

theorem ofWrite_retries (e : ApiError) : (ofWrite (.error e)).Retries :=
  Or.inl rfl

end Reply

/-- The servers' answers are compared when the log is searched for an entry. -/
instance decidableEqExcept {ε α : Type} [DecidableEq ε] [DecidableEq α] :
    DecidableEq (Except ε α)
  | .error a, .error b => decidable_of_iff (a = b) ⟨congrArg _, fun h => Except.noConfusion h id⟩
  | .ok a, .ok b => decidable_of_iff (a = b) ⟨congrArg _, fun h => Except.noConfusion h id⟩
  | .error _, .ok _ => isFalse Except.noConfusion
  | .ok _, .error _ => isFalse Except.noConfusion

/-- A write or an event of a pass, with the server's answer; `snapshotEventProcessed c n` marks an
entry into `processSnapshotEvent` for the group `n` of cluster `c`. -/
inductive Effect where
  | update (cluster : Nat) (rg : DellCSIReplicationGroup) (result : Except ApiError Unit)
  | delete (cluster : Nat) (name : String) (result : Except ApiError Unit)
  | createReplicationGroup (cluster : Nat) (rg : DellCSIReplicationGroup)
      (result : Except ApiError Unit)
  | updateReplicationGroup (cluster : Nat) (rg : DellCSIReplicationGroup)
      (result : Except ApiError Unit)
  | createNamespace (cluster : Nat) (name : String) (result : Except ApiError Unit)
  | createSnapshotClass (cluster : Nat) (sc : VolumeSnapshotClass) (result : Except ApiError Unit)
  | createSnapshotContent (cluster : Nat) (content : VolumeSnapshotContent)
      (result : Except ApiError Unit)
  | createSnapshotObject (cluster : Nat) (snapshot : VolumeSnapshot)
      (result : Except ApiError Unit)
  | createPersistentVolumeClaim (cluster : Nat) (pvc : PersistentVolumeClaim)
      (result : Except ApiError Unit)
  | event (eventType reason message : String)
  | snapshotEventProcessed (cluster : Nat) (group : String)
  deriving DecidableEq

/-- A controller's configuration: its cluster ID, the cluster each remote cluster ID reaches, its
domain, and the snapshot namespace `json.Unmarshal` reads from an action payload, if any. -/
structure Config where
  clusterId : String
  connection : String → Option Nat
  domain : String
  unmarshalSnapshotNamespace : String → Option String

/-- The order in which the Go runtime visits the pairs of each map a pass ranges over. -/
structure Oracle where
  order : StringMap → List (String × String)
  order_perm : ∀ m, (order m).Perm m.pairs

/-- The map order visits each key once. -/
theorem Oracle.order_keys_nodup (o : Oracle) (m : StringMap) :
    ((o.order m).map Prod.fst).Nodup :=
  ((o.order_perm m).map Prod.fst).nodup_iff.2 (m.map_fst_pairs ▸ m.keys_nodup)

/-- The state a pass runs in: the servers, whether each next call fails, the next clock
readings, and the log of writes and events so far. -/
structure PassState where
  world : World
  faults : List Bool
  clock : List Int
  log : List Effect

/-- A computation of a pass. -/
def Pass (α : Type) : Type := PassState → α × PassState

instance : Monad Pass where
  pure a s := (a, s)
  bind x f s := match x s with
    | (a, s') => f a s'

namespace Pass

@[simp] theorem pure_apply {α : Type} (a : α) (s : PassState) : (pure a : Pass α) s = (a, s) :=
  rfl

@[simp] theorem bind_apply {α β : Type} (x : Pass α) (f : α → Pass β) (s : PassState) :
    (x >>= f) s = f (x s).1 (x s).2 :=
  rfl

@[simp] theorem pure_bind {α β : Type} (a : α) (f : α → Pass β) : (pure a >>= f) = f a :=
  rfl

@[simp] theorem bind_pure {α : Type} (x : Pass α) : (x >>= pure) = x :=
  rfl

end Pass

namespace Client

/-- Whether the next call fails with a transient error; once the list runs out, calls succeed. -/
def nextFault : Pass Bool := fun s =>
  (s.faults.headD false, { s with faults := s.faults.tail })

/-- `time.Now().Unix()`. -/
def now : Pass Int := fun s =>
  (s.clock.headD 0, { s with clock := s.clock.tail })

/-- The servers as they are now. -/
def servers : Pass World := fun s => (s.world, s)

/-- Appends to the log. -/
def record (e : Effect) : Pass Unit := fun s => ((), { s with log := s.log ++ [e] })

/-- Replaces cluster `d`'s server. -/
def setCluster (d : Nat) (cl : Cluster) : Pass Unit := fun s =>
  ((), { s with world := Function.update s.world d cl })

/-- A read on cluster `d`, unless it fails. -/
def read {α : Type} (d : Nat) (op : Cluster → Except ApiError α) : Pass (Except ApiError α) := do
  if ← nextFault then return .error .failed
  return op ((← servers) d)

/-- A write on cluster `d`, unless it fails; the server's new state when it accepts it. -/
def write (d : Nat) (op : Cluster → Except ApiError Cluster) : Pass (Except ApiError Unit) := do
  if ← nextFault then return .error .failed
  match op ((← servers) d) with
  | .error e => return .error e
  | .ok cl =>
    setCluster d cl
    return .ok ()

/-- `r.Get` of a replication group, and the remote `GetReplicationGroup`. -/
def getReplicationGroup (d : Nat) (n : String) : Pass (Except ApiError DellCSIReplicationGroup) :=
  read d (·.getRG n)

/-- `r.Update` of a replication group. -/
def update (d : Nat) (rg : DellCSIReplicationGroup) : Pass (Except ApiError Unit) := do
  let r ← write d (·.updateRG rg)
  record (.update d rg r)
  return r

/-- `r.Delete` of a replication group. -/
def delete (d : Nat) (rg : DellCSIReplicationGroup) : Pass (Except ApiError Unit) := do
  let r ← write d (·.deleteRG rg.name)
  record (.delete d rg.name r)
  return r

/-- The remote `CreateReplicationGroup`. -/
def createReplicationGroup (d : Nat) (rg : DellCSIReplicationGroup) :
    Pass (Except ApiError Unit) := do
  let r ← write d (·.createRG rg)
  record (.createReplicationGroup d rg r)
  return r

/-- The remote `UpdateReplicationGroup`. -/
def updateReplicationGroup (d : Nat) (rg : DellCSIReplicationGroup) :
    Pass (Except ApiError Unit) := do
  let r ← write d (·.updateRG rg)
  record (.updateReplicationGroup d rg r)
  return r

/-- `r.Config.GetConnection`: the cluster a remote cluster ID reaches. -/
def getConnection (cfg : Config) (clusterId : String) : Pass (Option Nat) := do
  if ← nextFault then return none
  return cfg.connection clusterId

/-- `r.EventRecorder.Eventf` on the local replication group. -/
def event (eventType reason message : String) : Pass Unit :=
  record (.event eventType reason message)

/-- The remote `GetNamespace`. -/
def getNamespace (d : Nat) (n : String) : Pass (Except ApiError Namespace) :=
  read d fun cl => getBy Namespace.name cl.namespaces n

/-- The remote `CreateNamespace`. -/
def createNamespace (d : Nat) (ns : Namespace) : Pass (Except ApiError Unit) := do
  let r ← write d fun cl =>
    (createBy Namespace.name cl.namespaces ns).map fun namespaces => { cl with namespaces }
  record (.createNamespace d ns.name r)
  return r

/-- The remote `GetSnapshotClass`. -/
def getSnapshotClass (d : Nat) (n : String) : Pass (Except ApiError VolumeSnapshotClass) :=
  read d fun cl => getBy VolumeSnapshotClass.name cl.snapshotClasses n

/-- The remote `CreateSnapshotClass`. -/
def createSnapshotClass (d : Nat) (sc : VolumeSnapshotClass) : Pass (Except ApiError Unit) := do
  let r ← write d fun cl =>
    (createBy VolumeSnapshotClass.name cl.snapshotClasses sc).map
      fun snapshotClasses => { cl with snapshotClasses }
  record (.createSnapshotClass d sc r)
  return r

/-- The remote `CreateSnapshotContent`. -/
def createSnapshotContent (d : Nat) (content : VolumeSnapshotContent) :
    Pass (Except ApiError Unit) := do
  let r ← write d fun cl =>
    (createBy VolumeSnapshotContent.name cl.snapshotContents content).map
      fun snapshotContents => { cl with snapshotContents }
  record (.createSnapshotContent d content r)
  return r

/-- The remote `CreateSnapshotObject`; snapshots are keyed by namespace and name. -/
def createSnapshotObject (d : Nat) (snapshot : VolumeSnapshot) : Pass (Except ApiError Unit) := do
  let r ← write d fun cl =>
    (createBy (fun v : VolumeSnapshot => (v.«namespace», v.name)) cl.snapshots snapshot).map
      fun snapshots => { cl with snapshots }
  record (.createSnapshotObject d snapshot r)
  return r

/-- The remote `GetStorageClass`. -/
def getStorageClass (d : Nat) (n : String) : Pass (Except ApiError StorageClass) :=
  read d fun cl => getBy StorageClass.name cl.storageClasses n

/-- The remote `CreatePersistentVolumeClaim`; claims are keyed by namespace and name. -/
def createPersistentVolumeClaim (d : Nat) (pvc : PersistentVolumeClaim) :
    Pass (Except ApiError Unit) := do
  let r ← write d fun cl =>
    (createBy (fun p : PersistentVolumeClaim => (p.«namespace», p.name)) cl.pvcs pvc).map
      fun pvcs => { cl with pvcs }
  record (.createPersistentVolumeClaim d pvc r)
  return r

/-- `r.List` of the volume claims whose label `k` is `v`, in the server's order. -/
def listPersistentVolumeClaims (d : Nat) (k v : String) :
    Pass (Except ApiError (List PersistentVolumeClaim)) :=
  read d fun cl => .ok (cl.pvcs.filter fun p => p.labels.lookup k = some v)

/-- `r.Get` of a persistent volume. -/
def getPersistentVolume (d : Nat) (n : String) : Pass (Except ApiError PersistentVolume) :=
  read d fun cl => getBy PersistentVolume.name cl.pvs n

/-! ### What each call does to the state -/

theorem read_apply {α : Type} (d : Nat) (op : Cluster → Except ApiError α) (s : PassState) :
    read d op s = (if s.faults.headD false then .error .failed else op (s.world d),
      { s with faults := s.faults.tail }) := by
  simp only [read, Pass.bind_apply, Pass.pure_apply, nextFault, servers, ite_apply]
  split <;> rfl

theorem write_apply (d : Nat) (op : Cluster → Except ApiError Cluster) (s : PassState) :
    write d op s =
      if s.faults.headD false then (.error .failed, { s with faults := s.faults.tail })
      else match op (s.world d) with
        | .error e => (.error e, { s with faults := s.faults.tail })
        | .ok cl =>
          (.ok (), { s with faults := s.faults.tail, world := Function.update s.world d cl }) := by
  simp only [write, Pass.bind_apply, Pass.pure_apply, nextFault, servers, setCluster, ite_apply]
  split
  · rfl
  · simp only [Pass.bind_apply, Pass.pure_apply, servers, setCluster]
    split <;> rename_i h <;> simp only [h] <;> rfl

/-- A write changes nothing, or gives the cluster written what the operation accepted. -/
theorem write_world (d : Nat) (op : Cluster → Except ApiError Cluster) (s : PassState) :
    ((write d op s).1 ≠ .ok () ∧ (write d op s).2.world = s.world) ∨
      ∃ cl, op (s.world d) = .ok cl ∧ (write d op s).2.world = Function.update s.world d cl := by
  rw [write_apply]
  split
  · exact .inl ⟨nofun, rfl⟩
  · split
    · exact .inl ⟨nofun, rfl⟩
    · exact .inr ⟨_, ‹_›, rfl⟩

theorem write_ok_world {d : Nat} {op : Cluster → Except ApiError Cluster} {s : PassState}
    (h : (write d op s).1 = .ok ()) :
    ∃ cl, op (s.world d) = .ok cl ∧ (write d op s).2.world = Function.update s.world d cl :=
  (write_world d op s).resolve_left fun h' => h'.1 h

theorem record_apply (e : Effect) (s : PassState) :
    record e s = ((), { s with log := s.log ++ [e] }) := rfl

theorem now_apply (s : PassState) : now s = (s.clock.headD 0, { s with clock := s.clock.tail }) :=
  rfl

theorem getReplicationGroup_apply (d : Nat) (n : String) (s : PassState) :
    getReplicationGroup d n s = (if s.faults.headD false then .error .failed else (s.world d).getRG n,
      { s with faults := s.faults.tail }) :=
  read_apply _ _ _

theorem getReplicationGroup_ok {d : Nat} {n : String} {s : PassState}
    {rg : DellCSIReplicationGroup} (h : (getReplicationGroup d n s).1 = .ok rg) :
    lookupRG (s.world d).rgs n = some rg := by
  rw [getReplicationGroup_apply] at h
  split at h
  · cases h
  · exact Cluster.getRG_eq_ok h

theorem getReplicationGroup_notFound {d : Nat} {n : String} {s : PassState}
    (h : (getReplicationGroup d n s).1 = .error .notFound) : lookupRG (s.world d).rgs n = none := by
  rw [getReplicationGroup_apply] at h
  split at h
  · cases h
  · exact Cluster.getRG_eq_notFound h

theorem getConnection_apply (cfg : Config) (clusterId : String) (s : PassState) :
    getConnection cfg clusterId s =
      (if s.faults.headD false then none else cfg.connection clusterId,
        { s with faults := s.faults.tail }) := by
  simp only [getConnection, Pass.bind_apply, Pass.pure_apply, nextFault, ite_apply]
  split <;> rfl

/-- A logged write: the write, then its entry in the log. -/
theorem logged_apply (w : Pass (Except ApiError Unit)) (e : Except ApiError Unit → Effect)
    (s : PassState) :
    (do let r ← w; record (e r); return r) s =
      ((w s).1, { (w s).2 with log := (w s).2.log ++ [e (w s).1] }) :=
  rfl

end Client

end CsmReplication
