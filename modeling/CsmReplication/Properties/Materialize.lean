import CsmReplication.Properties.SnapshotBinding
import CsmReplication.Properties.SnapshotContents
import CsmReplication.Properties.Steady

/-!
# Every pair of a snapshot action is materialized

A `CREATE_SNAPSHOT` action lists volume-handle pairs; `processSnapshotEvent` (lines 357-477) is
to turn each pair into a snapshot content on the remote cluster and a snapshot that names it.
This module shows that it does so when no call fails: the namespace and the default snapshot class
are created when missing, the loop over the pairs adds exactly the content and the snapshot of
each pair (`snapshotPair_of_free`, `snapshotPairs_materializes`), and a pass on a synced group whose
due action it is runs the materializer and then stamps the action's time
(`snapshot_action_materialized`). On the remote cluster nothing is changed or removed; objects are
only added (`AddsObjects`).

The pairs need distinct snapshots (the action's map gives them distinct volumes) and names free on
the remote cluster, and the clock must not read a negative time. The claims a `snapshotCreatePVC`
action restores take the other branch of the loop and are not covered here.
-/

namespace CsmReplication

open Pass Client

/-! ## Creations that do not fail -/

section Free

variable {d : Nat} {w : World} {clock : List Int} {log : List Effect}

/-- A content creation that does not fail, of a name no content has, stores the content. -/
theorem Client.createSnapshotContent_of_free {C : VolumeSnapshotContent}
    (h : ∀ C' ∈ (w d).snapshotContents, C'.name ≠ C.name) :
    Client.createSnapshotContent d C ⟨w, [], clock, log⟩ =
      (.ok (), ⟨Function.update w d
        { w d with snapshotContents := (w d).snapshotContents ++ [C] }, [], clock,
        log ++ [.createSnapshotContent d C (.ok ())]⟩) := by
  simp only [Client.createSnapshotContent, Client.logged_apply, Client.write_apply, List.headD_nil,
    Bool.false_eq_true, if_false, createBy, lookupBy_eq_none _ h]
  rfl

/-- A snapshot creation that does not fail, of a name free in its namespace, stores the
snapshot. -/
theorem Client.createSnapshotObject_of_free {S : VolumeSnapshot}
    (h : ∀ T ∈ (w d).snapshots, (T.«namespace», T.name) ≠ (S.«namespace», S.name)) :
    Client.createSnapshotObject d S ⟨w, [], clock, log⟩ =
      (.ok (), ⟨Function.update w d { w d with snapshots := (w d).snapshots ++ [S] },
        [], clock, log ++ [.createSnapshotObject d S (.ok ())]⟩) := by
  simp only [Client.createSnapshotObject, Client.logged_apply, Client.write_apply, List.headD_nil,
    Bool.false_eq_true, if_false, createBy, lookupBy_eq_none _ h]
  rfl

/-- A namespace creation that does not fail, of a namespace the cluster lacks, stores it. -/
theorem createNamespace_of_free {ns : String}
    (h : lookupBy Namespace.name (w d).namespaces ns = none) :
    createNamespace d ns ⟨w, [], clock, log⟩ =
      (none, ⟨Function.update w d { w d with namespaces := (w d).namespaces ++ [⟨ns⟩] }, [],
        clock, log ++ [.createNamespace d ns (.ok ())]⟩) := by
  simp only [createNamespace, Client.createNamespace, Pass.bind_apply, Client.logged_apply,
    Client.write_apply, List.headD_nil, Bool.false_eq_true, if_false, createBy,
    makeNamespaceReference, h]
  rfl

end Free

/-! ## One pair -/

/-- `cl` with the pair `(v, h)` made at time `t` added: the content of `v` for the array snapshot
`h`, then the snapshot naming it, in `ns` (lines 440-452). -/
def Cluster.addPair (cl : Cluster) (sc : VolumeSnapshotClass) (ns v h : String) (t : Int) :
    Cluster :=
  let C := makeVolSnapContent h v (makeSnapReference h ns) sc t
  { cl with
    snapshotContents := cl.snapshotContents ++ [C]
    snapshots :=
      cl.snapshots ++ [makeSnapshotObject (makeSnapReference h ns).name C.name sc.name ns] }

/-- With no call failing and no claim asked for, a pair whose content and snapshot names are free
adds its two objects and reads the clock once. -/
theorem snapshotPair_of_free {rc : Nat} {storageClass : String} {sc : VolumeSnapshotClass}
    {ns v h : String} {w : World} {clock : List Int} {log : List Effect}
    (hC : ∀ C ∈ (w rc).snapshotContents,
      C.name ≠ "volume-" ++ v ++ "-" ++ formatInt (clock.headD 0))
    (hS : ∀ S ∈ (w rc).snapshots, (S.«namespace», S.name) ≠ (ns, "snapshot-" ++ h)) :
    ∃ log', snapshotPair rc false storageClass sc ns v h none ⟨w, [], clock, log⟩ =
      (none, ⟨Function.update w rc ((w rc).addPair sc ns v h (clock.headD 0)), [], clock.tail,
        log'⟩) := by
  simp only [snapshotPair, Pass.bind_apply, Client.now_apply]
  rw [Client.createSnapshotContent_of_free hC]
  simp only [Pass.bind_apply]
  rw [Client.createSnapshotObject_of_free (by simpa using hS)]
  simp only [Pass.pure_apply, Function.update_same, Function.update_idem]
  exact ⟨_, rfl⟩

/-! ## The loop over the pairs -/

/-- `cl` holds, for the pair `(v, h)`, the snapshot `snapshot-<h>` in `ns` and a content of `v`
for the array snapshot `h`, the two naming each other. -/
def Materialized (cl : Cluster) (ns : String) (p : String × String) : Prop :=
  ∃ S ∈ cl.snapshots, ∃ C ∈ cl.snapshotContents, S.name = "snapshot-" ++ p.2 ∧
    S.«namespace» = ns ∧ Binds C S ∧ C.snapshotHandle = p.2 ∧
    ∃ t, 0 ≤ t ∧ C.name = "volume-" ++ p.1 ++ "-" ++ formatInt t

/-- No content of `cl` is named after a volume of `pairs`, at any time, and no snapshot of `pairs`
is in the namespace `ns`. -/
def Unmaterialized (cl : Cluster) (ns : String) (pairs : List (String × String)) : Prop :=
  (∀ C ∈ cl.snapshotContents, ∀ p ∈ pairs, ∀ t, 0 ≤ t →
      C.name ≠ "volume-" ++ p.1 ++ "-" ++ formatInt t) ∧
    ∀ S ∈ cl.snapshots, ∀ p ∈ pairs, (S.«namespace», S.name) ≠ (ns, "snapshot-" ++ p.2)

/-- `cl'` is `cl` with contents and snapshots added. -/
def AddsSnapshots (cl cl' : Cluster) : Prop :=
  ∃ Cs Ss, cl' = { cl with
    snapshotContents := cl.snapshotContents ++ Cs
    snapshots := cl.snapshots ++ Ss }

namespace AddsSnapshots

variable {cl cl₁ cl₂ : Cluster}

theorem refl (cl : Cluster) : AddsSnapshots cl cl :=
  ⟨[], [], by simp⟩

theorem trans (h₁ : AddsSnapshots cl cl₁) (h₂ : AddsSnapshots cl₁ cl₂) :
    AddsSnapshots cl cl₂ := by
  obtain ⟨Cs₁, Ss₁, rfl⟩ := h₁
  obtain ⟨Cs₂, Ss₂, rfl⟩ := h₂
  exact ⟨Cs₁ ++ Cs₂, Ss₁ ++ Ss₂, by simp⟩

theorem addPair (cl : Cluster) (sc : VolumeSnapshotClass) (ns v h : String) (t : Int) :
    AddsSnapshots cl (cl.addPair sc ns v h t) :=
  ⟨_, _, rfl⟩

/-- What is materialized stays so. -/
theorem materialized (h : AddsSnapshots cl cl') {ns : String} {p : String × String}
    (hp : Materialized cl ns p) : Materialized cl' ns p := by
  obtain ⟨Cs, Ss, rfl⟩ := h
  obtain ⟨S, hS, C, hC, hrest⟩ := hp
  exact ⟨S, List.mem_append_left _ hS, C, List.mem_append_left _ hC, hrest⟩

end AddsSnapshots

theorem materialized_addPair (cl : Cluster) (sc : VolumeSnapshotClass) (ns v h : String) {t : Int}
    (ht : 0 ≤ t) : Materialized (cl.addPair sc ns v h t) ns (v, h) :=
  ⟨_, List.mem_append_right _ (List.mem_singleton_self _), _,
    List.mem_append_right _ (List.mem_singleton_self _), rfl, rfl, ⟨rfl, rfl, rfl⟩, rfl, t, ht,
    rfl⟩

/-- The objects of the pair `(v, h)` leave the names of the other pairs free, when no other pair
has the volume `v` or the snapshot `h`. -/
theorem Unmaterialized.addPair {cl : Cluster} {ns v h : String} {rest : List (String × String)}
    {sc : VolumeSnapshotClass} {t : Int} (hu : Unmaterialized cl ns ((v, h) :: rest))
    (hv : v ∉ rest.map Prod.fst) (hh : h ∉ rest.map Prod.snd) (ht : 0 ≤ t) :
    Unmaterialized (cl.addPair sc ns v h t) ns rest := by
  refine ⟨fun C hC p hp t' ht' => ?_, fun S hS p hp => ?_⟩
  · rcases List.mem_append.1 hC with hC | hC
    · exact hu.1 C hC p (List.mem_cons_of_mem _ hp) t' ht'
    · rw [List.mem_singleton.1 hC]
      exact fun heq => hv ((contentName_inj ht ht' heq).1 ▸ List.mem_map_of_mem _ hp)
  · rcases List.mem_append.1 hS with hS | hS
    · exact hu.2 S hS p (List.mem_cons_of_mem _ hp)
    · rw [List.mem_singleton.1 hS]
      intro heq
      exact hh (append_cancel_left (Prod.mk.inj heq).2 ▸ List.mem_map_of_mem _ hp)

/-- With no call failing and no claim asked for, the loop over pairs of distinct, free volumes and
snapshots materializes each pair and only adds contents and snapshots. -/
theorem snapshotPairs_materializes (c rc : Nat) (group : DellCSIReplicationGroup)
    (storageClass : String) (sc : VolumeSnapshotClass) (ns : String) :
    ∀ (pairs : List (String × String)) (w : World) (clock : List Int) (log : List Effect),
      (pairs.map Prod.fst).Nodup → (pairs.map Prod.snd).Nodup → (∀ t ∈ clock, 0 ≤ t) →
      Unmaterialized (w rc) ns pairs →
      ∃ w' clock' log', snapshotPairs c rc group false storageClass sc ns pairs
          ⟨w, [], clock, log⟩ = (.ok, ⟨w', [], clock', log'⟩) ∧
        AddsSnapshots (w rc) (w' rc) ∧ (∀ d, d ≠ rc → w' d = w d) ∧
        ∀ p ∈ pairs, Materialized (w' rc) ns p
  | [], w, clock, log, _, _, _, _ =>
    ⟨w, clock, log, rfl, AddsSnapshots.refl _, fun _ _ => rfl,
      fun _ h => absurd h (List.not_mem_nil _)⟩
  | (v, h) :: rest, w, clock, log, hv, hh, hclock, hu => by
    have ht := headD_nonneg hclock
    obtain ⟨log', hpair⟩ := @snapshotPair_of_free rc storageClass sc ns v h w clock log
      (fun C hC => hu.1 C hC _ (List.mem_cons_self _ _) _ ht)
      (fun S hS => hu.2 S hS _ (List.mem_cons_self _ _))
    simp only [List.map_cons, List.nodup_cons] at hv hh
    set w₁ := Function.update w rc ((w rc).addPair sc ns v h (clock.headD 0))
    have hw₁ : w₁ rc = (w rc).addPair sc ns v h (clock.headD 0) := Function.update_same _ _ _
    have hu₁ : Unmaterialized (w₁ rc) ns rest := hw₁ ▸ hu.addPair hv.1 hh.1 ht
    obtain ⟨w', clock', log'', hrun, hadds, hothers, hmat⟩ :=
      snapshotPairs_materializes c rc group storageClass sc ns rest w₁ clock.tail log' hv.2 hh.2
        (fun t ht' => hclock t (List.mem_of_mem_tail ht')) hu₁
    simp only [snapshotPairs, Bool.false_eq_true, if_false, Pass.pure_bind, claimNamespace,
      PVCInformation.pvc?, Pass.bind_apply, hpair]
    refine ⟨w', clock', log'', hrun, (hw₁ ▸ AddsSnapshots.addPair _ _ _ _ _ _).trans hadds,
      fun d hd => (hothers d hd).trans (Function.update_noteq hd _ _), ?_⟩
    rintro p (_ | ⟨_, hp⟩)
    · exact hadds.materialized (hw₁ ▸ materialized_addPair _ _ _ _ _ ht)
    · exact hmat p hp

/-! ## The materializer -/

attribute [ext] Cluster

/-- `cl'` is `cl` with namespaces and snapshot classes added. -/
def AddsSetup (cl cl' : Cluster) : Prop :=
  ∃ Ns Ks, cl' = { cl with
    namespaces := cl.namespaces ++ Ns
    snapshotClasses := cl.snapshotClasses ++ Ks }

/-- `cl'` is `cl` with namespaces, snapshot classes, contents and snapshots added: no object is
changed or removed. -/
def AddsObjects (cl cl' : Cluster) : Prop :=
  ∃ Ns Ks Cs Ss, cl' = { cl with
    namespaces := cl.namespaces ++ Ns
    snapshotClasses := cl.snapshotClasses ++ Ks
    snapshotContents := cl.snapshotContents ++ Cs
    snapshots := cl.snapshots ++ Ss }

theorem AddsSetup.trans {cl cl₁ cl₂ : Cluster} (h₁ : AddsSetup cl cl₁)
    (h₂ : AddsSnapshots cl₁ cl₂) : AddsObjects cl cl₂ := by
  obtain ⟨Ns, Ks, rfl⟩ := h₁
  obtain ⟨Cs, Ss, rfl⟩ := h₂
  exact ⟨Ns, Ks, Cs, Ss, rfl⟩

/-- What is unmaterialized stays so when only namespaces and classes are added, and for fewer
pairs. -/
theorem Unmaterialized.addsSetup {cl cl' : Cluster} {ns : String}
    {pairs pairs' : List (String × String)} (hu : Unmaterialized cl ns pairs)
    (h : AddsSetup cl cl') (hsub : pairs' ⊆ pairs) : Unmaterialized cl' ns pairs' := by
  obtain ⟨Ns, Ks, rfl⟩ := h
  exact ⟨fun C hC p hp => hu.1 C hC p (hsub hp), fun S hS p hp => hu.2 S hS p (hsub hp)⟩

/-- With no call failing and no claim asked for, the materializer creates the missing namespace and
default snapshot class, then runs the loop over the action's pairs (lines 357-419). -/
theorem processSnapshotEvent_setup (cfg : Config) (o : Oracle) (c rc : Nat)
    (group : DellCSIReplicationGroup) (w : World) (clock : List Int) (log : List Effect)
    {val ns : String} (hact : group.annotations.lookup action = some val)
    (hns : cfg.unmarshalSnapshotNamespace val = some ns)
    (hclass : group.annotations.get snapshotClass ≠ "" →
      ∃ sc ∈ (w rc).snapshotClasses, sc.name = group.annotations.get snapshotClass)
    (hpvc : group.annotations.get (cfg.domain ++ "/snapshotCreatePVC") = "true" →
      group.annotations.get (cfg.domain ++ "/snapshotStorageClass") = "") :
    ∃ sc w' log', processSnapshotEvent cfg o c rc group ⟨w, [], clock, log⟩ =
      snapshotPairs c rc group false (group.annotations.get (cfg.domain ++ "/snapshotStorageClass"))
        sc ns (o.order group.status.lastAction.actionAttributes) ⟨w', [], clock, log'⟩ ∧
      AddsSetup (w rc) (w' rc) ∧ ∀ d, d ≠ rc → w' d = w d := by
  have hb : (group.annotations.get (cfg.domain ++ "/snapshotCreatePVC") == "true" &&
      group.annotations.get (cfg.domain ++ "/snapshotStorageClass") != "") = false := by
    by_cases h : group.annotations.get (cfg.domain ++ "/snapshotCreatePVC") = "true"
    · simp [hpvc h]
    · simp [h]
  simp only [processSnapshotEvent, Pass.bind_apply, Client.record_apply, hact, hns,
    Client.getNamespace, Client.read_apply, List.headD_nil, Bool.false_eq_true, if_false,
    List.tail_nil, hb]
  split
  on_goal 1 =>
    -- The namespace is missing: it is created.
    rename_i hmiss
    have hnone : lookupBy Namespace.name (w rc).namespaces ns = none := by
      cases hg : getBy Namespace.name (w rc).namespaces ns with
      | error e => exact (getBy_eq_error _ hg).2
      | ok _ => rw [hg] at hmiss; cases hmiss
    simp only [Pass.bind_apply, createNamespace_of_free hnone, Pass.pure_apply,
      Function.update_same]
  all_goals
    by_cases hsn : group.annotations.get snapshotClass = ""
    · -- No class is named: the default one is used, created when missing.
      simp only [hsn, ne_eq, not_true_eq_false, if_false, if_true, Pass.bind_apply, Pass.pure_apply,
        Client.getSnapshotClass, Client.read_apply, List.headD_nil, Bool.false_eq_true,
        Function.update_same, List.tail_nil]
      cases hg : getBy VolumeSnapshotClass.name (w rc).snapshotClasses
          (defaultSnapshotClassName (group.labels.get driverName)) with
      | ok sc₀ =>
        exact ⟨sc₀, _, _, rfl, by simp [AddsSetup, Cluster.ext_iff],
          fun d hd => by simp [Function.update_noteq hd]⟩
      | error e =>
        obtain ⟨rfl, hnone⟩ := getBy_eq_error _ hg
        simp only [ne_eq, not_true_eq_false, if_false, Pass.bind_apply, Pass.pure_apply,
          Client.createSnapshotClass, Client.logged_apply, Client.write_apply, List.headD_nil,
          Bool.false_eq_true, createBy, Function.update_same, makeSnapshotClassRef, hnone,
          Option.isSome_none, Except.map]
        exact ⟨_, _, _, rfl, by simp [AddsSetup, Cluster.ext_iff],
          fun d hd => by simp [Function.update_noteq hd]⟩
    · -- The class named is there.
      obtain ⟨sc₀, hmem, hname⟩ := hclass hsn
      obtain ⟨sc₁, hg⟩ := hname ▸ getBy_of_mem VolumeSnapshotClass.name hmem
      simp only [hsn, ne_eq, not_false_eq_true, if_false, if_true, Pass.bind_apply, Pass.pure_apply,
        Client.getSnapshotClass, Client.read_apply, List.headD_nil, Bool.false_eq_true,
        Function.update_same, List.tail_nil, hg]
      exact ⟨sc₁, _, _, rfl, by simp [AddsSetup, Cluster.ext_iff],
        fun d hd => by simp [Function.update_noteq hd]⟩

/-- With no call failing and no claim asked for, the materializer makes every pair of the action in
`ns`, only adds objects to the remote cluster and leaves every other cluster as it is. -/
theorem processSnapshotEvent_materializes (cfg : Config) (o : Oracle) (c rc : Nat)
    (group : DellCSIReplicationGroup) (w : World) (clock : List Int) (log : List Effect)
    {val ns : String} (hact : group.annotations.lookup action = some val)
    (hns : cfg.unmarshalSnapshotNamespace val = some ns)
    (hclass : group.annotations.get snapshotClass ≠ "" →
      ∃ sc ∈ (w rc).snapshotClasses, sc.name = group.annotations.get snapshotClass)
    (hpvc : group.annotations.get (cfg.domain ++ "/snapshotCreatePVC") = "true" →
      group.annotations.get (cfg.domain ++ "/snapshotStorageClass") = "")
    (hh : (group.status.lastAction.actionAttributes.pairs.map Prod.snd).Nodup)
    (hfresh : Unmaterialized (w rc) ns group.status.lastAction.actionAttributes.pairs)
    (hclock : ∀ t ∈ clock, 0 ≤ t) :
    ∃ w' clock' log', processSnapshotEvent cfg o c rc group ⟨w, [], clock, log⟩ =
        (.ok, ⟨w', [], clock', log'⟩) ∧
      AddsObjects (w rc) (w' rc) ∧ (∀ d, d ≠ rc → w' d = w d) ∧
      ∀ p ∈ group.status.lastAction.actionAttributes.pairs, Materialized (w' rc) ns p := by
  obtain ⟨sc, w₁, log₁, hsetup, hadds₁, hothers₁⟩ :=
    processSnapshotEvent_setup cfg o c rc group w clock log hact hns hclass hpvc
  have hperm := o.order_perm group.status.lastAction.actionAttributes
  obtain ⟨w', clock', log', hrun, hadds, hothers, hmat⟩ :=
    snapshotPairs_materializes c rc group _ sc ns _ w₁ clock log₁ (o.order_keys_nodup _)
      ((hperm.map Prod.snd).nodup_iff.2 hh) hclock (hfresh.addsSetup hadds₁ hperm.subset)
  exact ⟨w', clock', log', hsetup.trans hrun, hadds₁.trans hadds,
    fun d hd => (hothers d hd).trans (hothers₁ d hd), fun p hp => hmat p (hperm.mem_iff.2 hp)⟩

/-! ## The pass -/

/-- A write to replication groups leaves every other cluster as it is. -/
theorem RGWrite.apply_of_ne_cluster (x : RGWrite) (w : World) {d : Nat} (hd : d ≠ x.cluster) :
    x.apply w d = w d := by
  cases h : x.result (w x.cluster) with
  | error e => rw [apply_of_error h]
  | ok cl => rw [apply_of_ok h, Function.update_noteq hd]

/-- A write to replication groups leaves every object of the cluster but its groups as it is. -/
theorem RGWrite.apply_eq_with_rgs (x : RGWrite) (w : World) (d : Nat) :
    x.apply w d = { w d with rgs := (x.apply w d).rgs } := by
  by_cases hd : d = x.cluster
  · subst hd
    cases h : x.result (w x.cluster) with
    | error e => rw [apply_of_error h]
    | ok cl =>
      rw [apply_of_ok h, Function.update_same]
      exact result_others h
  · rw [x.apply_of_ne_cluster w hd]

/-- On a due action, the action processor runs the materializer of a `CREATE_SNAPSHOT` and then
stamps the action's time, unless the materializer panicked (lines 321-355). -/
theorem processLastActionResult_of_due (cfg : Config) (o : Oracle) (c rc : Nat)
    {group : DellCSIReplicationGroup} {time : String} (h : Due group time) :
    processLastActionResult cfg o c rc group =
      (if contains group.status.lastAction.condition "CREATE_SNAPSHOT" then
          processSnapshotEvent cfg o c rc group else pure .ok) >>= fun outcome =>
        match outcome with
        | .panic => pure .panic
        | _ =>
          Client.update c (group.annotate actionProcessedTime time) >>= fun _ => pure outcome := by
  obtain ⟨hcond, htime, herr, val, hval, hne⟩ := h
  obtain ⟨a, as, hcons⟩ := List.exists_cons_of_ne_nil hcond
  unfold processLastActionResult
  simp only [hcons, htime, herr, ne_eq, not_true_eq_false, if_false, hval, hne]
  split <;> rfl

/-- With no call failing, a pass on a synced group with a due `CREATE_SNAPSHOT` materializes every
pair on the remote cluster, stamps the group, and otherwise only adds objects. -/
theorem snapshot_action_materialized (cfgs : Nat → Config) (σ : Sys) (c : Nat) (n : String)
    (clock : List Int) (o : Oracle) {rc : Nat} {L M : DellCSIReplicationGroup}
    {time val ns : String} (hL : lookupRG (σ.world c).rgs n = some L) (hn : n ≠ "")
    (hlive : L.deleting = false) (hfin : rgFinalizer ∈ L.finalizers)
    (hdr : L.annotations.has deletionRequested = false)
    (hsync : L.annotations.get rgSyncComplete = "yes")
    (hrc : (cfgs c).connection L.spec.remoteClusterId = some rc)
    (hM : lookupRG (σ.world rc).rgs (mirrorNaming (cfgs c) n L).remoteRGName = some M)
    (hm : (mirrorNaming (cfgs c) n L).remoteRGName ≠ "")
    (hmir : Mirrors (mirrorNaming (cfgs c) n L).localClusterID L M) (hdue : Due L time)
    (hsnap : contains L.status.lastAction.condition "CREATE_SNAPSHOT" = true)
    (hact : L.annotations.lookup action = some val)
    (hns : (cfgs c).unmarshalSnapshotNamespace val = some ns)
    (hclass : L.annotations.get snapshotClass ≠ "" →
      ∃ sc ∈ (σ.world rc).snapshotClasses, sc.name = L.annotations.get snapshotClass)
    (hpvc : L.annotations.get ((cfgs c).domain ++ "/snapshotCreatePVC") = "true" →
      L.annotations.get ((cfgs c).domain ++ "/snapshotStorageClass") = "")
    (hh : (L.status.lastAction.actionAttributes.pairs.map Prod.snd).Nodup)
    (hfresh : Unmaterialized (σ.world rc) ns L.status.lastAction.actionAttributes.pairs)
    (hclock : ∀ t ∈ clock, 0 ≤ t) :
    (Step.reconcile c n [] clock o).reply cfgs σ = some .done ∧
      (∀ p ∈ L.status.lastAction.actionAttributes.pairs,
        Materialized (((Step.reconcile c n [] clock o).apply cfgs σ).world rc) ns p) ∧
      lookupRG (((Step.reconcile c n [] clock o).apply cfgs σ).world c).rgs n =
        some (L.annotate actionProcessedTime time) ∧
      AddsObjects (σ.world rc)
        { ((Step.reconcile c n [] clock o).apply cfgs σ).world rc with
          rgs := (σ.world rc).rgs } ∧
      ∀ d, d ≠ c → d ≠ rc →
        ((Step.reconcile c n [] clock o).apply cfgs σ).world d = σ.world d := by
  obtain ⟨w', clock', log', hrun, hadds, hothers, hmat⟩ :=
    processSnapshotEvent_materializes (cfgs c) o c rc L σ.world clock σ.log hact hns hclass hpvc
      hh hfresh hclock
  have hrgs : (w' c).rgs = (σ.world c).rgs := by
    simpa only [hrun] using
      processSnapshotEvent_keeps_rgs (cfgs c) o c rc L ⟨σ.world, [], clock, σ.log⟩ c
  have hpass : reconcile (cfgs c) o c n ⟨σ.world, [], clock, σ.log⟩ =
      (.done,
        (Client.update c (L.annotate actionProcessedTime time) ⟨w', [], clock', log'⟩).2) := by
    rw [reconcile_of_synced _ (Cluster.getRG_of_lookup hn hL) hlive hfin hdr hsync hrc
      (Cluster.getRG_of_lookup hm hM) hmir]
    simp only [List.headD_nil, Bool.false_eq_true, if_false, List.tail_nil, processActions,
      Pass.bind_apply, processLastActionResult_of_due (cfgs c) o c rc hdue, hsnap, if_true, hrun]
    rfl
  have hworld : ((Step.reconcile c n [] clock o).apply cfgs σ).world =
      (RGWrite.update c (L.annotate actionProcessedTime time)).apply w' := by
    simp only [Step.apply, hpass, Client.update_world, List.headD_nil, Bool.false_eq_true, if_false]
  obtain ⟨Ns, Ks, Cs, Ss, hw'⟩ := hadds
  refine ⟨by simp only [Step.reply, hpass], fun p hp => ?_, ?_, ⟨Ns, Ks, Cs, Ss, ?_⟩,
    fun d hdc hdrc => ?_⟩
  · rw [hworld, RGWrite.apply_eq_with_rgs]
    exact hmat p hp
  · have hLn := (lookupBy_eq_some _ hL).2
    rw [hworld, ← hLn]
    exact RGWrite.lookup_apply_update_live (hrgs ▸ hLn ▸ hL) hlive hlive
  · rw [hworld, RGWrite.apply_eq_with_rgs, hw']
  · rw [hworld, RGWrite.apply_of_ne_cluster _ _ hdc, hothers d hdrc]

/-- `syncedX` with a due `CREATE_SNAPSHOT` action of the volume-handle pairs `(a, h1)` and
`(b, h2)`, whose `Action` annotation names the namespace `apps`. -/
def snapshotX : DellCSIReplicationGroup :=
  { syncedX with
    annotations := syncedX.annotations.set action "apps"
    status := ⟨["Ready"], ⟨"CREATE_SNAPSHOT", ((∅ : StringMap).set "a" "h1").set "b" "h2", "",
      some "t1"⟩⟩ }.annotate actionProcessedTime "t0"

/-- The pass of cluster 0 on `snapshotX` materializes both pairs on cluster 1 in `apps`. -/
theorem snapshotX_materialized :
    (Step.reconcile 0 "x" [] [7] storedOrder).reply (fun _ => snapshotConfig)
        ⟨twoWorld [snapshotX] [mirrorX], []⟩ = some .done ∧
      (∀ p ∈ snapshotX.status.lastAction.actionAttributes.pairs,
        Materialized (((Step.reconcile 0 "x" [] [7] storedOrder).apply (fun _ => snapshotConfig)
          ⟨twoWorld [snapshotX] [mirrorX], []⟩).world 1) "apps" p) ∧
      lookupRG (((Step.reconcile 0 "x" [] [7] storedOrder).apply (fun _ => snapshotConfig)
          ⟨twoWorld [snapshotX] [mirrorX], []⟩).world 0).rgs "x" =
        some (snapshotX.annotate actionProcessedTime "t1") ∧
      AddsObjects (twoWorld [snapshotX] [mirrorX] 1)
        { ((Step.reconcile 0 "x" [] [7] storedOrder).apply (fun _ => snapshotConfig)
            ⟨twoWorld [snapshotX] [mirrorX], []⟩).world 1 with
          rgs := (twoWorld [snapshotX] [mirrorX] 1).rgs } ∧
      ∀ d, d ≠ 0 → d ≠ 1 → ((Step.reconcile 0 "x" [] [7] storedOrder).apply
        (fun _ => snapshotConfig) ⟨twoWorld [snapshotX] [mirrorX], []⟩).world d =
          twoWorld [snapshotX] [mirrorX] d :=
  @snapshot_action_materialized (fun _ => snapshotConfig) ⟨twoWorld [snapshotX] [mirrorX], []⟩ 0
    "x" [7] storedOrder 1 snapshotX mirrorX "t1" "apps" "apps" rfl (by decide) rfl (by decide)
    (by decide) (by decide) rfl rfl (by decide) (by decide)
    ⟨List.cons_ne_nil _ _, rfl, rfl, "t0", rfl, by decide⟩ (by decide) rfl rfl
    (fun h => absurd (by decide) h) (fun h => absurd h (by decide)) (by decide)
    ⟨fun _ h => absurd h (List.not_mem_nil _), fun _ h => absurd h (List.not_mem_nil _)⟩
    (by decide)

/-- The run of that pass, which creates the contents, snapshots and claims of both pairs, leaves
every snapshot and claim resolved. -/
theorem snapshotX_run_resolves :
    SnapshotsResolve (run (fun _ => snapshotConfig) [.reconcile 0 "x" [] [7] storedOrder]
      ⟨twoWorld [snapshotX] [mirrorX], []⟩).world :=
  snapshots_stay_resolved _ _ _ (snapshotsResolve_twoWorld _ _)

end CsmReplication
