import CsmReplication.System.Run

/-!
# Where the snapshots of an action land

`processSnapshotEvent` (lines 357-477) puts the snapshots of a `CREATE_SNAPSHOT` action in the
payload's namespace. When claims are asked for, it looks up each volume's source claim
(`getPVCInformation`, lines 479-503) and, when that claim lives in the current namespace,
moves the pair to `cloned-<namespace>`, which it creates (lines 424-438).

Three things in that loop make the result depend on more than the pair itself. The namespace is
one variable of the loop, reassigned by a move, so every pair visited after a moved one lands in
`cloned-<namespace>` too, and the visiting order of the payload's map decides which pairs those
are. The move creates `cloned-<namespace>` without looking it up first, unlike the creation of
the payload's namespace (lines 376-381), so an action after one that moved fails on the
namespace the first one created. And
the claim lookup stops at the first volume it cannot get, and reads the volume's CSI source
without a nil check.

What the lookup does guarantee is proved first: with no failing call, a scan whose claims before
the match are bound to CSI volumes returns the first claim of the volume handle.
-/

namespace CsmReplication

/-! ## The claim lookup -/

section Scan

variable {c : Nat} {volumeHandle : String} {s : PassState}

/-- A claim whose volume the server holds, with a CSI source of handle `h` satisfying `P`. -/
def BoundTo (pvs : List PersistentVolume) (P : String → Prop) (pvc : PersistentVolumeClaim) :
    Prop :=
  ∃ pv, lookupBy PersistentVolume.name pvs pvc.spec.volumeName = some pv ∧
    ∃ csi, pv.csi = some csi ∧ P csi.volumeHandle

/-- With no failing call, a read leaves the pass as it was and answers from the server. -/
theorem read_of_no_faults {α : Type} (hs : s.faults = []) (d : Nat)
    (op : Cluster → Except ApiError α) : Client.read d op s = (op (s.world d), s) := by
  obtain ⟨w, f, cl, l⟩ := s
  change f = [] at hs
  subst hs
  rfl

/-- The scan returns the first claim bound to a CSI volume of handle `volumeHandle`, when every
claim before it is bound to a CSI volume and no call fails. -/
theorem scanPVCs_of_first_match (hs : s.faults = []) :
    ∀ {pre : List PersistentVolumeClaim} {pvc : PersistentVolumeClaim}
      (post : List PersistentVolumeClaim),
      (∀ q ∈ pre, BoundTo (s.world c).pvs (· ≠ volumeHandle) q) →
      BoundTo (s.world c).pvs (· = volumeHandle) pvc →
      scanPVCs c volumeHandle (pre ++ pvc :: post) s = (.ok (some pvc), s)
  | [], pvc, post, _, ⟨pv, hpv, csi, hcsi, hv⟩ => by
    simp only [List.nil_append, scanPVCs, Client.getPersistentVolume, Pass.bind_apply,
      read_of_no_faults hs, getBy, hpv, hcsi, hv, if_true]
    rfl
  | q :: pre, pvc, post, hpre, hpvc => by
    obtain ⟨pv, hpv, csi, hcsi, hv⟩ := hpre q (List.mem_cons_self _ _)
    simp only [List.cons_append, scanPVCs, Client.getPersistentVolume, Pass.bind_apply,
      read_of_no_faults hs, getBy, hpv, hcsi, hv, if_false]
    exact scanPVCs_of_first_match hs post (fun q' h => hpre q' (List.mem_cons_of_mem _ h)) hpvc

end Scan

/-! ## Runs of the snapshot materializer

Cluster 0 is the source and cluster 1 the target. The group `x` of cluster 0 asks for snapshots
in the namespace `apps`, with claims of the storage class `sc1`. -/

/-- Cluster 0's controller, reading an action payload as the namespace it names. -/
def snapshotConfig : Config :=
  { configA with unmarshalSnapshotNamespace := some }

/-- The map order that visits the pairs in the reverse of the stored order. -/
def reversedOrder : Oracle :=
  ⟨fun m => m.pairs.reverse, fun _ => List.reverse_perm _⟩

/-- A claim of the group `x` in the namespace `ns`, bound to the volume `volume`. -/
def sourceClaim (name ns volume : String) : PersistentVolumeClaim :=
  ⟨name, ns, (∅ : StringMap).set replicationGroup "x",
    ⟨volume, some "sc0", ["ReadWriteOnce"], ∅, none⟩⟩

/-- The group `x`, whose last action `CREATE_SNAPSHOT` has the volume-handle pairs `attributes`,
in the namespace `apps`, with claims of the storage class `sc1`. -/
def snapshotGroup (attributes : StringMap) : DellCSIReplicationGroup :=
  ⟨"x", (((∅ : StringMap).set action "apps").set
      "replication.storage.dell.com/snapshotCreatePVC" "true").set
      "replication.storage.dell.com/snapshotStorageClass" "sc1",
    ∅, [rgFinalizer], false, ⟨"csi-driver", "", "B", "pg1", ∅, "pg2", ∅⟩,
    ⟨["Ready"], ⟨"CREATE_SNAPSHOT", attributes, "", some "t1"⟩⟩⟩

/-- Cluster 0 holds the claims `pa`, in `apps`, of the volume `a`, and `pb`, in `db`, of the volume
`b`; cluster 1 holds the namespace `apps`. -/
def snapshotWorld : World := fun d =>
  if d = 0 then
    { emptyCluster with
      pvcs := [sourceClaim "pa" "apps" "pv-a", sourceClaim "pb" "db" "pv-b"]
      pvs := [⟨"pv-a", some ⟨"a"⟩⟩, ⟨"pv-b", some ⟨"b"⟩⟩] }
  else if d = 1 then { emptyCluster with namespaces := [⟨"apps"⟩] } else emptyCluster

/-- The snapshots of cluster `d`, by namespace and name. -/
def PassState.snapshotsAt (s : PassState) (d : Nat) : List (String × String) :=
  (s.world d).snapshots.map fun v => (v.«namespace», v.name)

/-- The claims of cluster `d`, by namespace and name. -/
def PassState.claimsAt (s : PassState) (d : Nat) : List (String × String) :=
  (s.world d).pvcs.map fun p => (p.«namespace», p.name)

/-! ## The visiting order decides the namespaces -/

/-- An action on the volumes `a` and `b`, whose pairs the map stores in that order, processed
in the order `o`. -/
def pairsRun (o : Oracle) : Outcome × PassState :=
  processSnapshotEvent snapshotConfig o 0 1
    (snapshotGroup (((∅ : StringMap).set "b" "sb").set "a" "sa")) ⟨snapshotWorld, [], [], []⟩

set_option smartUnfolding false in
/-- Visiting `a` first moves it to `cloned-apps`, and `b`, whose claim lives in `db`, follows it
there; visiting `b` first leaves `b` in `apps`. Both runs succeed. -/
theorem snapshot_namespace_depends_on_order :
    (pairsRun storedOrder).1 matches .ok ∧ (pairsRun reversedOrder).1 matches .ok ∧
      (pairsRun storedOrder).2.snapshotsAt 1 =
        [("cloned-apps", "snapshot-sa"), ("cloned-apps", "snapshot-sb")] ∧
      (pairsRun reversedOrder).2.snapshotsAt 1 =
        [("apps", "snapshot-sb"), ("cloned-apps", "snapshot-sa")] ∧
      (pairsRun storedOrder).2.claimsAt 1 = [("cloned-apps", "pa"), ("cloned-apps", "pb")] ∧
      (pairsRun reversedOrder).2.claimsAt 1 = [("apps", "pb"), ("cloned-apps", "pa")] := by
  decide

/-! ## The moved namespace is created again -/

/-- A first action on `a`: its claim lives in `apps`, so its snapshot goes to `cloned-apps`,
which the action creates. -/
def firstAction : Outcome × PassState :=
  processSnapshotEvent snapshotConfig storedOrder 0 1
    (snapshotGroup ((∅ : StringMap).set "a" "sa")) ⟨snapshotWorld, [], [], []⟩

/-- A later action on `a`, on the servers the first one left. -/
def laterAction : Outcome × PassState :=
  processSnapshotEvent snapshotConfig storedOrder 0 1
    (snapshotGroup ((∅ : StringMap).set "a" "sa2")) ⟨firstAction.2.world, [], [], []⟩

set_option smartUnfolding false in
/-- The later action creates `cloned-apps` again, is refused, and ends with that error before it
makes a snapshot. -/
theorem cloned_namespace_created_again :
    firstAction.1 matches .ok ∧
      (firstAction.2.world 1).namespaces.map (·.name) = ["apps", "cloned-apps"] ∧
      laterAction.1 matches .err _ ∧
      laterAction.2.log.any
        (fun | .createNamespace 1 n (.error .alreadyExists) => n == "cloned-apps" | _ => false) ∧
      laterAction.2.snapshotsAt 1 = firstAction.2.snapshotsAt 1 := by
  decide

/-! ## The claim lookup stops early -/

/-- Cluster 0 holds two claims of the group `x`, `first` and then `pb`, bound to the CSI volume
`b`, and the volume `pv-n`, which has no CSI source. -/
def scanWorld (first : PersistentVolumeClaim) : World := fun d =>
  if d = 0 then
    { emptyCluster with
      pvcs := [first, sourceClaim "pb" "db" "pv-b"]
      pvs := [⟨"pv-n", none⟩, ⟨"pv-b", some ⟨"b"⟩⟩] }
  else emptyCluster

/-- The lookup of the volume `b` ends with an error instead of `pb` when the claim before `pb` is
bound to no volume, and panics when that claim's volume has no CSI source. -/
theorem claim_lookup_stops_before_match :
    (getPVCInformation 0 (snapshotGroup ∅) "b"
        ⟨scanWorld (sourceClaim "pu" "db" ""), [], [], []⟩).1 matches .err _ ∧
      (getPVCInformation 0 (snapshotGroup ∅) "b"
        ⟨scanWorld (sourceClaim "pn" "db" "pv-n"), [], [], []⟩).1 matches .panic := by
  decide

end CsmReplication
