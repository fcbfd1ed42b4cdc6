import CsmReplication.System.Run

/-!
# The labels of a mirror

`buildRemoteRG` (lines 107-144) labels the mirror with the identity of its local group: the
group's driver-name label and the local cluster's ID (lines 112-115). When the group names a
context prefix `p`, it then projects every attribute `k` of the remote protection group that
starts with `p` onto the label `Domain + (k without p)`, with the attribute's value (lines
117-126).

The projection writes into the map that holds the identity labels, after them, and checks
nothing. Every projected attribute labels the mirror, whatever order the map is visited in; an
identity label holds whenever no attribute is projected onto its key, and otherwise the
attribute's value replaces it, as a pass that labels a mirror with another driver's name shows.
-/

namespace CsmReplication

/-! ## The projection loop -/

section Projection

variable {domain pre : String}

/-- One iteration of the projection loop (lines 120-124). -/
def projectLabel (domain pre : String) (labels : StringMap) (kv : String × String) : StringMap :=
  if hasPrefix kv.1 pre then labels.set (domain ++ trimPrefix kv.1 pre) kv.2 else labels

/-- The loop leaves alone a key no pair is projected onto. -/
theorem foldl_projectLabel_of_unprojected {K : String} :
    ∀ (l : List (String × String)) (m : StringMap),
      (∀ kv ∈ l, hasPrefix kv.1 pre = true → domain ++ trimPrefix kv.1 pre ≠ K) →
      (l.foldl (projectLabel domain pre) m).lookup K = m.lookup K
  | [], _, _ => rfl
  | kv :: l, m, h => by
    rw [List.foldl_cons, foldl_projectLabel_of_unprojected l _
      fun kv' hkv' => h kv' (List.mem_cons_of_mem _ hkv')]
    unfold projectLabel
    split
    · exact StringMap.lookup_set_of_ne _ _ (h kv (List.mem_cons_self _ _) ‹_›).symm
    · rfl

/-- Over pairs of distinct keys, the loop writes each pair that starts with `pre` at its
projected key: no other pair is projected there. -/
theorem foldl_projectLabel_of_mem {k v : String} (hk : hasPrefix k pre = true) :
    ∀ (l : List (String × String)) (m : StringMap), (l.map Prod.fst).Nodup → (k, v) ∈ l →
      (l.foldl (projectLabel domain pre) m).lookup (domain ++ trimPrefix k pre) = some v
  | [], _, _, h => absurd h (List.not_mem_nil _)
  | kv :: l, m, hnd, hmem => by
    rw [List.map_cons, List.nodup_cons] at hnd
    rw [List.foldl_cons]
    rcases List.mem_cons.1 hmem with rfl | hmem
    · rw [foldl_projectLabel_of_unprojected l _ fun kv' hkv' hp heq => hnd.1 <| by
        rw [← append_trimPrefix_inj hp hk heq]
        exact (List.mem_map_of_mem Prod.fst hkv' : kv'.1 ∈ _)]
      simp only [projectLabel, hk, if_true, StringMap.lookup_set_self]
    · exact foldl_projectLabel_of_mem hk l _ hnd.2 hmem

end Projection

/-! ## The labels of the mirror -/

section Labels

variable {domain localClusterID : String} {L : DellCSIReplicationGroup}
  {attributes : List (String × String)}

/-- The identity labels (lines 112-115). -/
def identityLabels (L : DellCSIReplicationGroup) (localClusterID : String) : StringMap :=
  ((∅ : StringMap).set driverName (L.labels.get driverName)).set remoteClusterID localClusterID

theorem mirrorLabels_eq :
    mirrorLabels domain L localClusterID attributes =
      if L.annotations.get contextPrefix = "" then identityLabels L localClusterID
      else attributes.foldl (projectLabel domain (L.annotations.get contextPrefix))
        (identityLabels L localClusterID) :=
  rfl

@[simp]
theorem identityLabels_driverName :
    (identityLabels L localClusterID).lookup driverName = some (L.labels.get driverName) := by
  rw [identityLabels, StringMap.lookup_set_of_ne _ _ (by decide), StringMap.lookup_set_self]

@[simp]
theorem identityLabels_remoteClusterID :
    (identityLabels L localClusterID).lookup remoteClusterID = some localClusterID :=
  StringMap.lookup_set_self _ _ _

/-- With a non-empty context prefix, every attribute that starts with it labels the mirror. -/
theorem mirrorLabels_projected (hpre : L.annotations.get contextPrefix ≠ "")
    (hnd : (attributes.map Prod.fst).Nodup) {k v : String}
    (hk : hasPrefix k (L.annotations.get contextPrefix) = true) (hmem : (k, v) ∈ attributes) :
    (mirrorLabels domain L localClusterID attributes).lookup
      (domain ++ trimPrefix k (L.annotations.get contextPrefix)) = some v := by
  rw [mirrorLabels_eq, if_neg hpre]
  exact foldl_projectLabel_of_mem hk _ _ hnd hmem

/-- A key no attribute is projected onto keeps its identity label. -/
theorem mirrorLabels_unprojected {K : String}
    (h : L.annotations.get contextPrefix = "" ∨ ∀ kv ∈ attributes,
      hasPrefix kv.1 (L.annotations.get contextPrefix) = true →
        domain ++ trimPrefix kv.1 (L.annotations.get contextPrefix) ≠ K) :
    (mirrorLabels domain L localClusterID attributes).lookup K =
      (identityLabels L localClusterID).lookup K := by
  rw [mirrorLabels_eq]
  split
  · rfl
  · exact foldl_projectLabel_of_unprojected _ _ (h.resolve_left ‹_›)

end Labels

/-- No attribute of the remote protection group of `L` is projected onto the label key `K` under
`domain`: `L` names no context prefix, or no attribute that starts with it becomes `K`. -/
def Unprojected (domain : String) (L : DellCSIReplicationGroup) (K : String) : Prop :=
  L.annotations.get contextPrefix = "" ∨
    ∀ k ∈ L.spec.remoteProtectionGroupAttributes.keys,
      hasPrefix k (L.annotations.get contextPrefix) = true →
        domain ++ trimPrefix k (L.annotations.get contextPrefix) ≠ K

instance (domain : String) (L : DellCSIReplicationGroup) (K : String) :
    Decidable (Unprojected domain L K) :=
  inferInstanceAs (Decidable (_ ∨ ∀ k ∈ L.spec.remoteProtectionGroupAttributes.keys, _ → _))

/-- The map order visits only the attributes' pairs, so what holds of every key holds of every
pair the loop visits. -/
theorem Unprojected.of_order {domain K : String} {L : DellCSIReplicationGroup} (o : Oracle)
    (h : Unprojected domain L K) :
    L.annotations.get contextPrefix = "" ∨
      ∀ kv ∈ o.order L.spec.remoteProtectionGroupAttributes,
        hasPrefix kv.1 (L.annotations.get contextPrefix) = true →
          domain ++ trimPrefix kv.1 (L.annotations.get contextPrefix) ≠ K :=
  h.imp_right fun h kv hkv =>
    h kv.1 (StringMap.fst_mem_keys_of_mem_pairs ((o.order_perm _).subset hkv))

/-- The mirror a pass builds carries every projected attribute, whatever the map order, and the
local driver-name and cluster-ID labels unless an attribute is projected onto their keys. -/
theorem mirror_labels (cfg : Config) (o : Oracle) (localRGName : String)
    (L : DellCSIReplicationGroup) (naming : MirrorNaming) :
    (L.annotations.get contextPrefix ≠ "" →
      ∀ k v, hasPrefix k (L.annotations.get contextPrefix) = true →
        L.spec.remoteProtectionGroupAttributes.lookup k = some v →
          (buildRemoteRG cfg o localRGName L naming).labels.lookup
            (cfg.domain ++ trimPrefix k (L.annotations.get contextPrefix)) = some v) ∧
      (Unprojected cfg.domain L driverName →
        (buildRemoteRG cfg o localRGName L naming).labels.lookup driverName =
          some (L.labels.get driverName)) ∧
      (Unprojected cfg.domain L remoteClusterID →
        (buildRemoteRG cfg o localRGName L naming).labels.lookup remoteClusterID =
          some naming.localClusterID) :=
  ⟨fun hpre _ _ hk hv => mirrorLabels_projected hpre (o.order_keys_nodup _) hk
      ((o.order_perm _).mem_iff.2 (StringMap.mem_pairs_of_lookup hv)),
    fun h => (mirrorLabels_unprojected (h.of_order o)).trans identityLabels_driverName,
    fun h => (mirrorLabels_unprojected (h.of_order o)).trans identityLabels_remoteClusterID⟩

/-- The group `x` of cluster 0, labelled with the driver `csi-driver`, with the context prefix
`ctx/` and the remote protection-group attributes `attributes`. -/
def prefixedGroup (attributes : StringMap) : DellCSIReplicationGroup :=
  ⟨"x", ((∅ : StringMap).set remoteRGRetentionPolicy "retain").set contextPrefix "ctx/",
    (∅ : StringMap).set driverName "csi-driver", [], false,
    ⟨"csi-driver", "", "B", "pg1", ∅, "pg2", attributes⟩, .empty⟩

/-- The mirror of a group with the attribute `ctx/tier` is labelled `<Domain>tier`, and keeps
its identity labels. -/
theorem mirror_labels_of_tier :
    (buildRemoteRG configA storedOrder "x" (prefixedGroup ((∅ : StringMap).set "ctx/tier" "gold"))
        ⟨"x", false, "A"⟩).labels.lookup "replication.storage.dell.comtier" = some "gold" ∧
      (buildRemoteRG configA storedOrder "x"
        (prefixedGroup ((∅ : StringMap).set "ctx/tier" "gold")) ⟨"x", false, "A"⟩).labels.lookup
        driverName = some "csi-driver" ∧
      (buildRemoteRG configA storedOrder "x"
        (prefixedGroup ((∅ : StringMap).set "ctx/tier" "gold")) ⟨"x", false, "A"⟩).labels.lookup
        remoteClusterID = some "A" :=
  have h := mirror_labels configA storedOrder "x"
    (prefixedGroup ((∅ : StringMap).set "ctx/tier" "gold")) ⟨"x", false, "A"⟩
  ⟨h.1 (by decide) "ctx/tier" "gold" (by decide) (by decide), h.2.1 (by decide),
    h.2.2 (by decide)⟩

/-- Cluster 0's controller with the empty label domain, and cluster 1's. -/
def bareDomainClusters (c : Nat) : Config :=
  if c = 0 then { configA with domain := "" } else configB

/-- Two passes on a group with the attribute `ctx/DriverName`: the first adds the finalizer, the
second creates the mirror. -/
def driverLabelRun : Sys :=
  run bareDomainClusters [.pass 0 "x" [], .pass 0 "x" []]
    ⟨twoWorld [prefixedGroup ((∅ : StringMap).set "ctx/DriverName" "other-driver")] [], []⟩

/-- The mirror is labelled with the attribute's driver, not with the group's. -/
theorem projected_attribute_replaces_driver_label :
    (driverLabelRun.group 0 "x").map (·.labels.get driverName) = some "csi-driver" ∧
      (driverLabelRun.group 1 "x").map (·.labels.lookup driverName) = some (some "other-driver") := by
  decide

end CsmReplication
