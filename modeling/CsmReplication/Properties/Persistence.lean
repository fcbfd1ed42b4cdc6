import CsmReplication.Properties.Materialize

/-!
# What is created stays

The controllers write replication groups, and create namespaces, snapshot classes, snapshot
contents, snapshots and claims; they never update or delete anything but a replication group,
and users only create and delete groups. So along every run, whatever the passes, the users'
steps and the failures, every cluster keeps every object it holds but its groups, each in its
place: the lists of the other kinds are only appended to (`objects_persist`).

The proof instantiates the frame of the snapshot materializer and of the whole pass once, for
the relation `Grows` of pass states, from one lemma per client call.
-/

namespace CsmReplication

open Pass Client

/-! ## Clusters that keep their objects -/

/-- `cl'` keeps every object of `cl` but its replication groups: the lists of other objects are
only appended to, and the storage classes and volumes are unchanged. -/
structure Cluster.Extends (cl cl' : Cluster) : Prop where
  namespaces : cl.namespaces <+: cl'.namespaces
  snapshotClasses : cl.snapshotClasses <+: cl'.snapshotClasses
  snapshotContents : cl.snapshotContents <+: cl'.snapshotContents
  snapshots : cl.snapshots <+: cl'.snapshots
  pvcs : cl.pvcs <+: cl'.pvcs
  storageClasses : cl'.storageClasses = cl.storageClasses
  pvs : cl'.pvs = cl.pvs

namespace Cluster.Extends

variable {cl cl₁ cl₂ : Cluster}

/-- A cluster whose groups alone changed keeps its other objects. -/
theorem of_rgs (h : cl₁ = { cl with rgs := cl₁.rgs }) : cl.Extends cl₁ := by
  rw [h]
  exact ⟨List.prefix_refl _, List.prefix_refl _, List.prefix_refl _, List.prefix_refl _,
    List.prefix_refl _, rfl, rfl⟩

theorem refl (cl : Cluster) : cl.Extends cl :=
  of_rgs rfl

theorem trans (h₁ : cl.Extends cl₁) (h₂ : cl₁.Extends cl₂) : cl.Extends cl₂ :=
  ⟨h₁.namespaces.trans h₂.namespaces, h₁.snapshotClasses.trans h₂.snapshotClasses,
    h₁.snapshotContents.trans h₂.snapshotContents, h₁.snapshots.trans h₂.snapshots,
    h₁.pvcs.trans h₂.pvcs, h₂.storageClasses.trans h₁.storageClasses, h₂.pvs.trans h₁.pvs⟩

end Cluster.Extends

/-! ## The client calls -/

/-- Every cluster keeps its objects from one pass state to the next. -/
def Grows (s s' : PassState) : Prop :=
  ∀ d, (s.world d).Extends (s'.world d)

instance isPreorderGrows : IsPreorder PassState Grows where
  refl _ _ := Cluster.Extends.refl _
  trans _ _ _ h₁ h₂ d := (h₁ d).trans (h₂ d)

/-- A write keeps the objects when the operation it makes does. -/
theorem write_grows {d : Nat} {op : Cluster → Except ApiError Cluster}
    (hop : ∀ cl cl', op cl = .ok cl' → cl.Extends cl') : Keeps Grows (write d op) := by
  intro s d'
  rcases write_world d op s with ⟨-, hw⟩ | ⟨cl, hcl, hw⟩
  · rw [hw]
    exact Cluster.Extends.refl _
  · rw [hw]
    by_cases hd : d' = d
    · subst hd
      rw [Function.update_same]
      exact hop _ _ hcl
    · rw [Function.update_noteq hd]
      exact Cluster.Extends.refl _

theorem logged_grows {w : Pass (Except ApiError Unit)} {e : Except ApiError Unit → Effect}
    (hw : Keeps Grows w) : Keeps Grows (do let r ← w; record (e r); return r) :=
  fun s => by
    rw [logged_apply]
    exact hw s

/-- A write of replication groups. -/
theorem write_grows_of_rgs {d : Nat} {op : Cluster → Except ApiError Cluster}
    (hop : ∀ cl cl', op cl = .ok cl' → cl' = { cl with rgs := cl'.rgs }) :
    Keeps Grows (write d op) :=
  write_grows fun _ _ hcl => .of_rgs (hop _ _ hcl)

/-- A create appends the new object to the list of its kind. -/
theorem createBy_map_eq_ok {α κ : Type} [DecidableEq κ] {key : α → κ} {xs : List α} {x : α}
    {g : List α → Cluster} {cl' : Cluster} (h : (createBy key xs x).map g = .ok cl') :
    cl' = g (xs ++ [x]) := by
  obtain ⟨l, hl, rfl⟩ := map_eq_ok h
  rw [(createBy_eq_ok _ hl).2]

theorem snapshotCalls_grows : SnapshotCalls Grows where
  read d op s := by
    rw [read_apply]
    exact fun _ => Cluster.Extends.refl _
  now _ _ := Cluster.Extends.refl _
  createNamespace _ _ := logged_grows (write_grows fun _ _ hcl => by
    rw [createBy_map_eq_ok hcl]
    exact ⟨List.prefix_append _ _, List.prefix_refl _, List.prefix_refl _, List.prefix_refl _,
      List.prefix_refl _, rfl, rfl⟩)
  createSnapshotClass _ _ := logged_grows (write_grows fun _ _ hcl => by
    rw [createBy_map_eq_ok hcl]
    exact ⟨List.prefix_refl _, List.prefix_append _ _, List.prefix_refl _, List.prefix_refl _,
      List.prefix_refl _, rfl, rfl⟩)
  createSnapshotContent _ _ := logged_grows (write_grows fun _ _ hcl => by
    rw [createBy_map_eq_ok hcl]
    exact ⟨List.prefix_refl _, List.prefix_refl _, List.prefix_append _ _, List.prefix_refl _,
      List.prefix_refl _, rfl, rfl⟩)
  createSnapshotObject _ _ := logged_grows (write_grows fun _ _ hcl => by
    rw [createBy_map_eq_ok hcl]
    exact ⟨List.prefix_refl _, List.prefix_refl _, List.prefix_refl _, List.prefix_append _ _,
      List.prefix_refl _, rfl, rfl⟩)
  createPersistentVolumeClaim _ _ := logged_grows (write_grows fun _ _ hcl => by
    rw [createBy_map_eq_ok hcl]
    exact ⟨List.prefix_refl _, List.prefix_refl _, List.prefix_refl _, List.prefix_refl _,
      List.prefix_append _ _, rfl, rfl⟩)

theorem processSnapshotEvent_grows (cfg : Config) (o : Oracle) (c rc : Nat)
    (group : DellCSIReplicationGroup) : Keeps Grows (processSnapshotEvent cfg o c rc group) := by
  obtain ⟨body, heq, hbody⟩ := snapshotCalls_grows.processSnapshotEvent_shape cfg o c rc group
  rw [heq]
  exact keeps_bind (fun _ _ => Cluster.Extends.refl _) hbody

theorem passCalls_grows : PassCalls Grows where
  read := snapshotCalls_grows.read
  nextFault _ _ := Cluster.Extends.refl _
  record _ _ _ := Cluster.Extends.refl _
  update _ rg := logged_grows (write_grows_of_rgs fun _ _ h =>
    RGWrite.result_others (x := .update 0 rg) h)
  delete _ rg := logged_grows (write_grows_of_rgs fun _ _ h =>
    RGWrite.result_others (x := .delete 0 rg.name) h)
  createReplicationGroup _ rg := logged_grows (write_grows_of_rgs fun _ _ h =>
    RGWrite.result_others (x := .create 0 rg) h)
  updateReplicationGroup _ rg := logged_grows (write_grows_of_rgs fun _ _ h =>
    RGWrite.result_others (x := .update 0 rg) h)
  processSnapshotEvent := processSnapshotEvent_grows

/-! ## Whole runs -/

/-- One step, of a controller or of a user, keeps every cluster's objects. -/
theorem step_grows (cfgs : Nat → Config) (st : Step) (σ : Sys) (d : Nat) :
    (σ.world d).Extends ((st.apply cfgs σ).world d) := by
  cases st with
  | reconcile c name faults clock o =>
    exact passCalls_grows.reconcile_keeps (cfgs c) o c name ⟨σ.world, faults, clock, σ.log⟩ d
  | create c rg => exact .of_rgs (RGWrite.apply_eq_with_rgs (.create c rg) σ.world d)
  | delete c name => exact .of_rgs (RGWrite.apply_eq_with_rgs (.delete c name) σ.world d)

/-- Along every run, every cluster keeps every object but its replication groups in its place:
lists are only appended to, and the storage classes and volumes never change. -/
theorem objects_persist (cfgs : Nat → Config) (steps : List Step) (σ : Sys) (d : Nat) :
    (σ.world d).Extends ((run cfgs steps σ).world d) :=
  run_keeps (P := fun w => ∀ d, (σ.world d).Extends (w d))
    (fun st _ σ' h d => (h d).trans (step_grows cfgs st σ' d)) (fun _ => .refl _) d

end CsmReplication
