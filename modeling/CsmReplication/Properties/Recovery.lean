import CsmReplication.Controller.Failures
import CsmReplication.Properties.Actions
import CsmReplication.Properties.Paired
import CsmReplication.Properties.Pairing
import CsmReplication.Properties.SharedMirror
import Mathlib.Data.Fintype.Prod
import Mathlib.Tactic.DeriveFintype

/-!
# Pairing survives failed calls

The pairing of a new group `L` with its mirror goes through stages, of `L` and of the mirror
each: created, with the finalizer, synced. The stages the pairing can be in, and what a pass of
either controller does to them, form a small machine (`Stage`, `Stage.passLocal`,
`Stage.passMirror`); two passes on `L` and then two on the mirror, with no call failing, take it
from every stage it can be in to both groups synced (`Stage.four_passes_pair`).

The controllers refine that machine. In a world that shows the two groups at some stages, a pass
on either group, whatever its calls answer, leaves the stages as they are, moves them as a pass
with no failure would, or, when it fails between creating the mirror and recording its name,
leaves the mirror created and `L` not synced (`reconcile_local_refines`,
`reconcile_mirror_refines`); with no failure it moves them as the machine does. So along every
run of passes on the two groups, `L` is marked synced only once its mirror is stored, and what is
stored under the mirror's name mirrors `L` (`pairing_safe_under_failures`); and whatever failed in
earlier passes, four passes with no failure pair the groups (`pairing_survives_failures`), after
which every pass leaves them alone (`paired_runs_change_nothing`).

The refinement reads of the two modes only the names and IDs each side looks the other up under
(`PairingFacts`); two-cluster mode (`PairingSetup.facts`) and single-cluster mode, the mirror
being `replicated-<L's name>` on `L`'s own cluster (`SelfPairingSetup.facts`,
`self_pairing_survives_failures`), both provide them. The module covers the mirror under the
name the lookup found free, and runs of the controllers' passes on the two groups alone: no user
deletes either group meanwhile.
-/

namespace CsmReplication

/-! ## The stages of a pairing -/

/-- How far one group of the pair has come. -/
inductive Stage where
  /-- Not stored. -/
  | absent
  /-- Stored as it was created: by the user for the local group, by the pass for the mirror. -/
  | created
  /-- With the finalizer. -/
  | finalized
  /-- With the finalizer, synced to the other group. -/
  | synced
  deriving DecidableEq, Fintype

namespace Stage

/-- The stage pairs the pairing reaches: the local group stands, the mirror is created only after
the finalizer, and the local group is synced only once its mirror stands. -/
def Valid : Stage × Stage → Prop
  | (.absent, _) => False
  | (.created, m) => m = .absent
  | (.finalized, _) => True
  | (.synced, m) => m ≠ .absent

instance decidableValid : DecidablePred Valid
  | (.absent, _) => isFalse id
  | (.created, m) => inferInstanceAs (Decidable (m = .absent))
  | (.finalized, _) => isTrue trivial
  | (.synced, m) => inferInstanceAs (Decidable (m ≠ .absent))

/-- A pass on the local group with no call failing: the finalizer added, the mirror created and
recorded, or a mirror found and recorded (lines 207-309). -/
def passLocal : Stage × Stage → Stage × Stage
  | (.created, m) => (.finalized, m)
  | (.finalized, .absent) => (.synced, .created)
  | (.finalized, m) => (.synced, m)
  | s => s

/-- A pass on the mirror with no call failing: the finalizer added, or the local group found and
recorded. -/
def passMirror : Stage × Stage → Stage × Stage
  | (l, .created) => (l, .finalized)
  | (l, .finalized) => (l, .synced)
  | s => s

/-- What a pass on the local group may do when calls fail: nothing, what it does with no failure,
or, on the pass that creates the mirror, the creation alone. -/
def LocalMove (s s' : Stage × Stage) : Prop :=
  s' = s ∨ s' = passLocal s ∨ s = (.finalized, .absent) ∧ s' = (.finalized, .created)

/-- What a pass on the mirror may do when calls fail: nothing, or what it does with no failure. -/
def MirrorMove (s s' : Stage × Stage) : Prop :=
  s' = s ∨ s' = passMirror s

theorem valid_passLocal : ∀ s, Valid s → Valid (passLocal s) := by
  decide

theorem valid_passMirror : ∀ s, Valid s → Valid (passMirror s) := by
  decide

theorem LocalMove.valid {s s' : Stage × Stage} (h : LocalMove s s') (hv : Valid s) : Valid s' := by
  rcases h with rfl | rfl | ⟨rfl, rfl⟩
  · exact hv
  · exact valid_passLocal s hv
  · trivial

theorem MirrorMove.valid {s s' : Stage × Stage} (h : MirrorMove s s') (hv : Valid s) :
    Valid s' := by
  rcases h with rfl | rfl
  · exact hv
  · exact valid_passMirror s hv

/-- Two passes on the local group and then two on the mirror, with no call failing, take every
stage the pairing can be in to both groups synced. -/
theorem passLocal_finalized {y : Stage} (hy : y ≠ .absent) :
    passLocal (.finalized, y) = (.synced, y) := by
  cases y
  exacts [absurd rfl hy, rfl, rfl, rfl]

theorem four_passes_pair :
    ∀ s, Valid s → passMirror (passMirror (passLocal (passLocal s))) = (.synced, .synced) := by
  decide

end Stage

/-! ## The stages a world shows -/

/-- The local group `L` at each stage; `m` is its mirror's name. -/
def localGroup (L : DellCSIReplicationGroup) (m : String) : Stage → Option DellCSIReplicationGroup
  | .absent => none
  | .created => some L
  | .finalized => some { L with finalizers := L.finalizers ++ [rgFinalizer] }
  | .synced => some (markSynced L.name { L with finalizers := L.finalizers ++ [rgFinalizer] } m)

/-- The mirror `M`, named `m`, of the group named `n`, at each stage. -/
def mirrorGroup (M : DellCSIReplicationGroup) (m n : String) :
    Stage → Option DellCSIReplicationGroup
  | .absent => none
  | .created => some M
  | .finalized => some { M with finalizers := M.finalizers ++ [rgFinalizer] }
  | .synced => some (markSynced m { M with finalizers := M.finalizers ++ [rgFinalizer] } n)

/-- The world `w` shows `L` on cluster `c`, and its mirror `M`, named `m`, on cluster `rc`, at the
stages `s`. -/
def Shows (w : World) (c rc : Nat) (L M : DellCSIReplicationGroup) (m : String)
    (s : Stage × Stage) : Prop :=
  lookupRG (w c).rgs L.name = localGroup L m s.1 ∧ lookupRG (w rc).rgs m = mirrorGroup M m L.name s.2

/-- What the refinement uses of the pairing of `L` on `c` with `m` on `rc`, in either mode: the
state of `L`, the connections, and the names and IDs each side looks the other up under. -/
structure PairingFacts (cfgs : Nat → Config) (c rc : Nat) (m : String)
    (L : DellCSIReplicationGroup) (lid rid : String) : Prop where
  name_ne : L.name ≠ ""
  live : L.deleting = false
  no_finalizer : rgFinalizer ∉ L.finalizers
  not_requested : L.annotations.has deletionRequested = false
  annotated : L.annotations.isNil = false
  unsynced : L.annotations.get rgSyncComplete ≠ "yes"
  idle : Idle L
  connection : (cfgs c).connection L.spec.remoteClusterId = some rc
  back : (cfgs rc).connection lid = some c
  peer_id : L.spec.remoteClusterId = rid
  mirror_ne : m ≠ ""
  mirror_plain : contains m "replicated-replicated" = false
  naming : mirrorNaming (cfgs c) L.name L = ⟨m, false, lid⟩
  naming_synced : mirrorNaming (cfgs c) L.name
    (markSynced L.name { L with finalizers := L.finalizers ++ [rgFinalizer] } m) = ⟨m, true, lid⟩
  peer_naming (o : Oracle) :
    mirrorNaming (cfgs rc) m (mirrorCandidate (cfgs c) o L.name L false) = ⟨L.name, false, rid⟩
  peer_naming_synced (o : Oracle) :
    mirrorNaming (cfgs rc) m (markSynced m { mirrorCandidate (cfgs c) o L.name L false with
      finalizers := (mirrorCandidate (cfgs c) o L.name L false).finalizers ++ [rgFinalizer] }
      L.name) = ⟨L.name, true, rid⟩

namespace PairingFacts

variable {cfgs : Nat → Config} {c rc : Nat} {m : String} {L : DellCSIReplicationGroup}
  {lid rid : String} (h : PairingFacts cfgs c rc m L lid rid)
include h

theorem mirror_name : (mirrorNaming (cfgs c) L.name L).remoteRGName = m := by
  rw [h.naming]

theorem candidate_name (o : Oracle) : (mirrorCandidate (cfgs c) o L.name L false).name = m :=
  h.mirror_name

theorem candidate_remote (o : Oracle) :
    (mirrorCandidate (cfgs c) o L.name L false).spec.remoteClusterId = lid := by
  show (mirrorNaming (cfgs c) L.name L).localClusterID = lid
  rw [h.naming]

/-- The two groups mirror each other at every stage, for the ID each side looks the other up
for. -/
theorem mirrors_pair (o : Oracle) {X Y : DellCSIReplicationGroup} (hX : X.spec = L.spec)
    (hY : Y.spec = (mirrorCandidate (cfgs c) o L.name L false).spec) :
    Mirrors lid X Y ∧ Mirrors rid Y X := by
  rw [Mirrors, Mirrors, hX, hY]
  exact ⟨⟨h.candidate_remote o, rfl, rfl, rfl⟩, ⟨h.peer_id, rfl, rfl, rfl⟩⟩

/-- The naming reads no finalizers: `L` with the finalizer is looked up as `L` is. -/
theorem finalized_naming :
    mirrorNaming (cfgs c) L.name { L with finalizers := L.finalizers ++ [rgFinalizer] } =
      ⟨m, false, lid⟩ :=
  h.naming

theorem peer_finalized_naming (o : Oracle) :
    mirrorNaming (cfgs rc) m { mirrorCandidate (cfgs c) o L.name L false with
      finalizers := (mirrorCandidate (cfgs c) o L.name L false).finalizers ++ [rgFinalizer] } =
      ⟨L.name, false, rid⟩ :=
  h.peer_naming o

end PairingFacts

/-- What the two-cluster pairing of `L`, created by a user on `c`, with `m` on `rc` assumes. -/
structure PairingSetup (cfgs : Nat → Config) (c rc : Nat) (m : String)
    (L : DellCSIReplicationGroup) : Prop where
  name_ne : L.name ≠ ""
  live : L.deleting = false
  no_finalizer : rgFinalizer ∉ L.finalizers
  not_requested : L.annotations.has deletionRequested = false
  annotated : L.annotations.isNil = false
  unsynced : L.annotations.get rgSyncComplete ≠ "yes"
  idle : Idle L
  two_cluster : L.spec.remoteClusterId ≠ self
  local_id : (cfgs c).clusterId ≠ self
  peer_id : L.spec.remoteClusterId = (cfgs rc).clusterId
  connection : (cfgs c).connection L.spec.remoteClusterId = some rc
  back : (cfgs rc).connection (cfgs c).clusterId = some c
  mirror_name : (mirrorNaming (cfgs c) L.name L).remoteRGName = m
  name_plain : contains L.name replicated = false
  mirror_plain : contains m replicated = false

/-- Lines 79-95 in two-cluster mode: a synced group looks its mirror up under the name it
recorded. -/
theorem mirrorNaming_of_synced {cfg : Config} {n : String} {X : DellCSIReplicationGroup}
    (hmode : X.spec.remoteClusterId ≠ self) (hs : X.annotations.get rgSyncComplete = "yes") :
    mirrorNaming cfg n X = ⟨X.annotations.get remoteReplicationGroup, true, cfg.clusterId⟩ := by
  simp [mirrorNaming, hmode, hs]

/-- Lines 79-105 in single-cluster mode: a synced group looks its mirror up under the name it
recorded when its own name starts with `replicated`, and under `replicated-<name>` otherwise. -/
theorem mirrorNaming_of_synced_self {cfg : Config} {n : String} {X : DellCSIReplicationGroup}
    (hmode : X.spec.remoteClusterId = self) (hs : X.annotations.get rgSyncComplete = "yes") :
    mirrorNaming cfg n X = ⟨if hasPrefix n replicated then X.annotations.get remoteReplicationGroup
      else replicated ++ "-" ++ n, true, self⟩ := by
  simp [mirrorNaming, hmode, hs]

/-- In two-cluster mode the groups look each other up under their names, for the two controllers'
cluster IDs. -/
theorem PairingSetup.facts {cfgs : Nat → Config} {c rc : Nat} {m : String}
    {L : DellCSIReplicationGroup} (h : PairingSetup cfgs c rc m L) :
    PairingFacts cfgs c rc m L (cfgs c).clusterId (cfgs rc).clusterId := by
  have hm := h.mirror_name
  rw [mirrorNaming_of_unsynced h.two_cluster h.unsynced] at hm
  dsimp only at hm
  have naming : mirrorNaming (cfgs c) L.name L = ⟨m, false, (cfgs c).clusterId⟩ := by
    rw [mirrorNaming_of_unsynced h.two_cluster h.unsynced, hm]
  have remote (o : Oracle) :
      (mirrorCandidate (cfgs c) o L.name L false).spec.remoteClusterId ≠ self := by
    show (mirrorNaming (cfgs c) L.name L).localClusterID ≠ self
    rw [naming]
    exact h.local_id
  refine ⟨h.name_ne, h.live, h.no_finalizer, h.not_requested, h.annotated, h.unsynced, h.idle,
    h.connection, h.back, h.peer_id, ?_, contains_double_eq_false h.mirror_plain, naming, ?_,
    fun o => ?_, fun o => ?_⟩
  · split at hm
    · exact hm ▸ h.name_ne
    · exact hm ▸ ‹_›
  · rw [mirrorNaming_of_synced (X := markSynced L.name { L with
      finalizers := L.finalizers ++ [rgFinalizer] } m) h.two_cluster (markSynced_sync _ _ _),
      markSynced_remote, recordedName_of_not_contains _ h.name_plain]
  · rw [mirrorNaming_of_unsynced (remote o) (by simp)]
    simp [h.name_ne]
  · rw [mirrorNaming_of_synced (by exact remote o) (markSynced_sync _ _ _), markSynced_remote,
      recordedName_of_not_contains _ h.mirror_plain]

/-- Recording a mirror's name asks for no deletion. -/
theorem markSynced_has_deletionRequested (n name : String) (X : DellCSIReplicationGroup) :
    (markSynced n X name).annotations.has deletionRequested =
      X.annotations.has deletionRequested := by
  simp [markSynced, DellCSIReplicationGroup.annotate,
    StringMap.has_set_of_ne _ _ (by decide : deletionRequested ≠ rgSyncComplete),
    StringMap.has_set_of_ne _ _ (by decide : deletionRequested ≠ remoteReplicationGroup)]

/-- The naming of lines 79-105 does not read the finalizers. -/
@[simp]
theorem mirrorNaming_finalizers (cfg : Config) (n : String) (X : DellCSIReplicationGroup)
    (fs : List String) : mirrorNaming cfg n { X with finalizers := fs } = mirrorNaming cfg n X :=
  rfl

/-- Nor does the mirror of lines 107-144. -/
@[simp]
theorem buildRemoteRG_finalizers (cfg : Config) (o : Oracle) (n : String)
    (X : DellCSIReplicationGroup) (fs : List String) (naming : MirrorNaming) :
    buildRemoteRG cfg o n { X with finalizers := fs } naming = buildRemoteRG cfg o n X naming :=
  rfl

theorem mirrorCandidate_isNil (cfg : Config) (o : Oracle) (n : String)
    (X : DellCSIReplicationGroup) (renamed : Bool) :
    (mirrorCandidate cfg o n X renamed).annotations.isNil = false := by
  simp [buildRemoteRG]

/-! ## Writes move the stages -/

section Stages

variable {L M X : DellCSIReplicationGroup} {m n : String}

/-- The local group keeps its name, liveness and spec at every stage. -/
theorem localGroup_fields {x : Stage} (h : localGroup L m x = some X) :
    X.name = L.name ∧ X.deleting = L.deleting ∧ X.spec = L.spec := by
  cases x <;> cases h <;> exact ⟨rfl, rfl, rfl⟩

theorem mirrorGroup_fields {y : Stage} (h : mirrorGroup M m n y = some X) :
    X.name = M.name ∧ X.deleting = M.deleting ∧ X.spec = M.spec := by
  cases y <;> cases h <;> exact ⟨rfl, rfl, rfl⟩

/-- In every stage the pairing can be in, the local group is stored. -/
theorem localGroup_of_valid {x y : Stage} (hv : Stage.Valid (x, y)) (L : DellCSIReplicationGroup)
    (m : String) : ∃ X, localGroup L m x = some X := by
  cases x
  exacts [hv.elim, ⟨_, rfl⟩, ⟨_, rfl⟩, ⟨_, rfl⟩]

theorem mirrorGroup_of_ne_absent {y : Stage} (hy : y ≠ .absent) (M : DellCSIReplicationGroup)
    (m n : String) : ∃ Y, mirrorGroup M m n y = some Y := by
  cases y
  exacts [absurd rfl hy, ⟨_, rfl⟩, ⟨_, rfl⟩, ⟨_, rfl⟩]

variable {w : World} {c rc : Nat}

/-- An update of the local group to its group at another stage moves its stage alone. -/
theorem Shows.update_local {x y x' : Stage} {R : DellCSIReplicationGroup}
    (hs : Shows w c rc L M m (x, y)) (hne : rc = c → m ≠ L.name) (hlive : L.deleting = false)
    (hR : localGroup L m x = some R) (hX : localGroup L m x' = some X) :
    Shows ((RGWrite.update c X).apply w) c rc L M m (x', y) := by
  obtain ⟨hXn, hXd, -⟩ := localGroup_fields hX
  refine ⟨?_, (RGWrite.lookup_apply_of_ne (.update c X) w
    fun h₁ h₂ => hne h₁.symm (h₂.symm.trans hXn)).trans hs.2⟩
  have h := RGWrite.lookup_apply_update_live (w := w) (d := c) (X := X) (R := R)
    (hXn ▸ hs.1.trans hR) ((localGroup_fields hR).2.1.trans hlive) (hXd.trans hlive)
  rw [hXn] at h
  exact h.trans hX.symm

/-- An update of the mirror to its group at another stage moves its stage alone. -/
theorem Shows.update_mirror {x y y' : Stage} {R : DellCSIReplicationGroup}
    (hs : Shows w c rc L M m (x, y)) (hne : rc = c → m ≠ L.name) (hMn : M.name = m)
    (hlive : M.deleting = false) (hR : mirrorGroup M m L.name y = some R)
    (hY : mirrorGroup M m L.name y' = some X) :
    Shows ((RGWrite.update rc X).apply w) c rc L M m (x, y') := by
  obtain ⟨hYn, hYd, -⟩ := mirrorGroup_fields hY
  refine ⟨(RGWrite.lookup_apply_of_ne (.update rc X) w
    fun h₁ h₂ => hne h₁ ((hYn.trans hMn).symm.trans h₂)).trans hs.1, ?_⟩
  have h := RGWrite.lookup_apply_update_live (w := w) (d := rc) (X := X) (R := R)
    ((hYn.trans hMn) ▸ hs.2.trans hR) ((mirrorGroup_fields hR).2.1.trans hlive) (hYd.trans hlive)
  rw [hYn, hMn] at h
  exact h.trans hY.symm

/-- Creating the mirror where none is stored moves the mirror to created. -/
theorem Shows.create_mirror {x : Stage} (hs : Shows w c rc L M m (x, .absent))
    (hne : rc = c → m ≠ L.name) (hMn : M.name = m) (hlive : { M with deleting := false } = M) :
    Shows ((RGWrite.create rc M).apply w) c rc L M m (x, .created) := by
  refine ⟨(RGWrite.lookup_apply_of_ne (.create rc M) w
    fun h₁ h₂ => hne h₁ (hMn.symm.trans h₂)).trans hs.1, ?_⟩
  have h := RGWrite.lookup_apply_create_self
    (@Cluster.createRG_of_lookup_none (w rc) M (hMn ▸ hs.2))
  rw [hlive, hMn] at h
  exact h

/-- While the mirror is absent, which mirror the world is compared with does not matter. -/
theorem Shows.of_absent {x : Stage} {N : DellCSIReplicationGroup}
    (hs : Shows w c rc L M m (x, .absent)) : Shows w c rc L N m (x, .absent) :=
  hs

end Stages

/-! ## The passes refine the stage machine -/

namespace PairingFacts

variable {cfgs : Nat → Config} {c rc : Nat} {m : String} {L : DellCSIReplicationGroup}
  {lid rid : String} (h : PairingFacts cfgs c rc m L lid rid) {w : World} {o : Oracle}
include h

/-- A synced local group whose mirror is stored is paired with it. -/
theorem pairedAt_local {y : Stage} {Y : DellCSIReplicationGroup}
    (hs : Shows w c rc L (mirrorCandidate (cfgs c) o L.name L false) m (.synced, y))
    (hY : mirrorGroup (mirrorCandidate (cfgs c) o L.name L false) m L.name y = some Y) :
    PairedAt (cfgs c) w c L.name
      (markSynced L.name { L with finalizers := L.finalizers ++ [rgFinalizer] } m) rc Y where
  lookup := hs.1
  name_ne := h.name_ne
  live := h.live
  finalizer := List.mem_append_right _ (List.mem_singleton_self _)
  not_requested := (markSynced_has_deletionRequested _ _ _).trans h.not_requested
  synced := markSynced_sync _ _ _
  connection := h.connection
  mirror_lookup := by rw [h.naming_synced]; exact hs.2.trans hY
  mirror_name_ne := by rw [h.naming_synced]; exact h.mirror_ne
  mirrors := by rw [h.naming_synced]; exact (h.mirrors_pair o rfl (mirrorGroup_fields hY).2.2).1
  idle := (h.idle.of_eq rfl rfl).markSynced

/-- A synced mirror is paired with the local group, whatever its stage. -/
theorem pairedAt_mirror {x : Stage} {X : DellCSIReplicationGroup}
    (hs : Shows w c rc L (mirrorCandidate (cfgs c) o L.name L false) m (x, .synced))
    (hX : localGroup L m x = some X) :
    PairedAt (cfgs rc) w rc m (markSynced m { mirrorCandidate (cfgs c) o L.name L false with
      finalizers := (mirrorCandidate (cfgs c) o L.name L false).finalizers ++ [rgFinalizer] }
      L.name) c X where
  lookup := hs.2
  name_ne := h.mirror_ne
  live := mirrorCandidate_deleting
  finalizer := List.mem_append_right _ (List.mem_singleton_self _)
  not_requested := (markSynced_has_deletionRequested _ _ _).trans
    (mirrorCandidate_deletionRequested _ _ _ _ _)
  synced := markSynced_sync _ _ _
  connection := (congrArg (cfgs rc).connection (h.candidate_remote o)).trans h.back
  mirror_lookup := by rw [h.peer_naming_synced]; exact hs.1.trans hX
  mirror_name_ne := by rw [h.peer_naming_synced]; exact h.name_ne
  mirrors := by
    rw [h.peer_naming_synced]
    exact (h.mirrors_pair o (localGroup_fields hX).2.2 rfl).2
  idle := ((quiet_mirrorCandidate _ _ _ _ _).of_eq rfl rfl).idle.markSynced

variable (hne : rc = c → m ≠ L.name)
include hne

/-- The world after the pass that creates the mirror and records its name (lines 287-308). -/
theorem shows_recorded {o' : Oracle}
    (hs : Shows w c rc L (mirrorCandidate (cfgs c) o L.name L false) m (.finalized, .absent)) :
    Shows ((RGWrite.update c (markSynced L.name { L with
        finalizers := L.finalizers ++ [rgFinalizer] } (mirrorNaming (cfgs c) L.name { L with
          finalizers := L.finalizers ++ [rgFinalizer] }).remoteRGName)).apply
        ((RGWrite.create rc (buildRemoteRG (cfgs c) o' L.name
          { L with finalizers := L.finalizers ++ [rgFinalizer] } (mirrorNaming (cfgs c) L.name
            { L with finalizers := L.finalizers ++ [rgFinalizer] }))).apply w))
      c rc L (mirrorCandidate (cfgs c) o' L.name L false) m (.synced, .created) := by
  rw [mirrorNaming_finalizers, buildRemoteRG_finalizers, h.mirror_name]
  exact (hs.of_absent.create_mirror hne (h.candidate_name o') mirrorCandidate_live).update_local
    hne h.live rfl rfl

/-- The world after the pass that finds the mirror and records its name (lines 238-308). -/
theorem shows_adopted {y : Stage}
    (hs : Shows w c rc L (mirrorCandidate (cfgs c) o L.name L false) m (.finalized, y)) :
    Shows ((RGWrite.update c (markSynced L.name { L with
        finalizers := L.finalizers ++ [rgFinalizer] } (mirrorNaming (cfgs c) L.name { L with
          finalizers := L.finalizers ++ [rgFinalizer] }).remoteRGName)).apply w)
      c rc L (mirrorCandidate (cfgs c) o L.name L false) m (.synced, y) := by
  rw [mirrorNaming_finalizers, h.mirror_name]
  exact hs.update_local hne h.live rfl rfl

/-- The world after the peer's pass that finds the local group and records its name. -/
theorem shows_mirror_adopted {x : Stage}
    (hs : Shows w c rc L (mirrorCandidate (cfgs c) o L.name L false) m (x, .finalized)) :
    Shows ((RGWrite.update rc (markSynced m { mirrorCandidate (cfgs c) o L.name L false with
        finalizers := (mirrorCandidate (cfgs c) o L.name L false).finalizers ++ [rgFinalizer] }
        (mirrorNaming (cfgs rc) m { mirrorCandidate (cfgs c) o L.name L false with
          finalizers := (mirrorCandidate (cfgs c) o L.name L false).finalizers ++
            [rgFinalizer] }).remoteRGName)).apply w)
      c rc L (mirrorCandidate (cfgs c) o L.name L false) m (x, .synced) := by
  rw [mirrorNaming_finalizers, h.peer_naming]
  exact hs.update_mirror hne (h.candidate_name o) mirrorCandidate_deleting rfl rfl

/-- A pass on the local group, whatever its calls answer, is a move of the stage machine, and asks
to be rerun unless it moves the stages as a pass with no failure would. -/
theorem reconcile_local_refines {s : Stage × Stage} (hv : Stage.Valid s)
    (hs : Shows w c rc L (mirrorCandidate (cfgs c) o L.name L false) m s) (o' : Oracle)
    (faults : List Bool) (clock : List Int) (log : List Effect) :
    ∃ s', Stage.LocalMove s s' ∧
      ((reconcile (cfgs c) o' c L.name ⟨w, faults, clock, log⟩).1.Retries ∨
        s' = Stage.passLocal s) ∧
      ∃ o'', Shows (reconcile (cfgs c) o' c L.name ⟨w, faults, clock, log⟩).2.world c rc L
        (mirrorCandidate (cfgs c) o'' L.name L false) m s' := by
  obtain ⟨x, y⟩ := s
  have hfin : rgFinalizer ∈ L.finalizers ++ [rgFinalizer] :=
    List.mem_append_right _ (List.mem_singleton_self _)
  cases x with
  | absent => exact hv.elim
  | created =>
    rcases @reconcile_adds_finalizer_or_fails (cfgs c) o' c L.name L ⟨w, faults, clock, log⟩ hs.1
      h.name_ne h.live h.no_finalizer h.annotated with ⟨hw, hr⟩ | hw <;> rw [hw]
    · exact ⟨_, .inl rfl, .inl hr, o, hs⟩
    · exact ⟨(.finalized, y), .inr (.inl rfl), .inr rfl, o, hs.update_local hne h.live rfl rfl⟩
  | finalized =>
    by_cases hy : y = .absent
    · subst hy
      have hs' := hs.of_absent (N := mirrorCandidate (cfgs c) o' L.name L false)
      rcases @reconcile_creates_mirror_or_fails (cfgs c) o' c L.name _ ⟨w, faults, clock, log⟩ hs.1
        h.name_ne h.live hfin h.not_requested h.annotated h.unsynced rc h.connection
        (h.finalized_naming ▸ h.mirror_ne)
        (h.finalized_naming ▸ hs.2)
        (h.finalized_naming ▸ h.mirror_plain)
        with ⟨hw, hr⟩ | ⟨hw, hr⟩ | hw <;> rw [hw]
      · exact ⟨_, .inl rfl, .inl hr, o', hs'⟩
      · rw [mirrorNaming_finalizers, buildRemoteRG_finalizers]
        exact ⟨_, .inr (.inr ⟨rfl, rfl⟩), .inl hr, o',
          hs'.create_mirror hne (h.candidate_name o') mirrorCandidate_live⟩
      · exact ⟨_, .inr (.inl rfl), .inr rfl, o', h.shows_recorded hne hs⟩
    · obtain ⟨Y, hY⟩ := mirrorGroup_of_ne_absent hy (mirrorCandidate (cfgs c) o L.name L false) m
        L.name
      rcases @reconcile_adopts_mirror_or_fails (cfgs c) o' c L.name _ ⟨w, faults, clock, log⟩ hs.1
        h.name_ne h.live hfin h.not_requested h.annotated h.unsynced rc Y h.connection
        (h.finalized_naming ▸ h.mirror_ne)
        (h.finalized_naming ▸ hs.2.trans hY)
        (h.finalized_naming ▸ (h.mirrors_pair o rfl (mirrorGroup_fields hY).2.2).1)
        with ⟨hw, hr⟩ | hw <;> rw [hw]
      · exact ⟨_, .inl rfl, .inl hr, o, hs⟩
      · exact ⟨_, .inr (.inl (Stage.passLocal_finalized hy).symm),
          .inr (Stage.passLocal_finalized hy).symm, o, h.shows_adopted hne hs⟩
  | synced =>
    obtain ⟨Y, hY⟩ := mirrorGroup_of_ne_absent hv (mirrorCandidate (cfgs c) o L.name L false) m
      L.name
    rw [reconcile_of_paired (h.pairedAt_local hs hY)]
    exact ⟨_, .inl rfl, .inr rfl, o, hs⟩

/-- A pass on the mirror, whatever its calls answer, is a move of the stage machine; unless it
moves the stages as a pass with no failure would, it asks to be run again. -/
theorem reconcile_mirror_refines {s : Stage × Stage} (hv : Stage.Valid s)
    (hs : Shows w c rc L (mirrorCandidate (cfgs c) o L.name L false) m s) (o' : Oracle)
    (faults : List Bool) (clock : List Int) (log : List Effect) :
    ∃ s', Stage.MirrorMove s s' ∧
      ((reconcile (cfgs rc) o' rc m ⟨w, faults, clock, log⟩).1.Retries ∨
        s' = Stage.passMirror s) ∧
      Shows (reconcile (cfgs rc) o' rc m ⟨w, faults, clock, log⟩).2.world c rc L
        (mirrorCandidate (cfgs c) o L.name L false) m s' := by
  obtain ⟨x, y⟩ := s
  obtain ⟨X, hX⟩ := localGroup_of_valid hv L m
  cases y with
  | absent =>
    rw [reconcile_world_of_absent _ hs.2]
    exact ⟨_, .inl rfl, .inr rfl, hs⟩
  | created =>
    rcases @reconcile_adds_finalizer_or_fails (cfgs rc) o' rc m _ ⟨w, faults, clock, log⟩ hs.2
      h.mirror_ne mirrorCandidate_deleting (by simp) (mirrorCandidate_isNil _ _ _ _ _)
      with ⟨hw, hr⟩ | hw <;> rw [hw]
    · exact ⟨_, .inl rfl, .inl hr, hs⟩
    · exact ⟨(x, .finalized), .inr rfl, .inr rfl,
        hs.update_mirror hne (h.candidate_name o) mirrorCandidate_deleting rfl rfl⟩
  | finalized =>
    rcases @reconcile_adopts_mirror_or_fails (cfgs rc) o' rc m _ ⟨w, faults, clock, log⟩ hs.2
      h.mirror_ne mirrorCandidate_deleting (List.mem_append_right _ (List.mem_singleton_self _))
      (mirrorCandidate_deletionRequested _ _ _ _ _) (mirrorCandidate_isNil _ _ _ _ _)
      ((mirrorCandidate_sync _ _ _ _ _).trans_ne (by decide)) c X
      ((congrArg (cfgs rc).connection (h.candidate_remote o)).trans h.back)
      (h.peer_finalized_naming o ▸ h.name_ne)
      (h.peer_finalized_naming o ▸ hs.1.trans hX)
      (h.peer_finalized_naming o ▸ (h.mirrors_pair o (localGroup_fields hX).2.2 rfl).2)
      with ⟨hw, hr⟩ | hw <;> rw [hw]
    · exact ⟨_, .inl rfl, .inl hr, hs⟩
    · exact ⟨(x, .synced), .inr rfl, .inr rfl, h.shows_mirror_adopted hne hs⟩
  | synced =>
    rw [reconcile_of_paired (h.pairedAt_mirror hs hX)]
    exact ⟨_, .inl rfl, .inr rfl, hs⟩

/-- With no call failing, a pass on the local group moves the stages as the machine does. -/
theorem reconcile_local_passes {s : Stage × Stage} (hv : Stage.Valid s)
    (hs : Shows w c rc L (mirrorCandidate (cfgs c) o L.name L false) m s) (o' : Oracle)
    (clock : List Int) (log : List Effect) :
    ∃ o'', Shows (reconcile (cfgs c) o' c L.name ⟨w, [], clock, log⟩).2.world c rc L
      (mirrorCandidate (cfgs c) o'' L.name L false) m (Stage.passLocal s) := by
  obtain ⟨x, y⟩ := s
  have hfin : rgFinalizer ∈ L.finalizers ++ [rgFinalizer] :=
    List.mem_append_right _ (List.mem_singleton_self _)
  cases x with
  | absent => exact hv.elim
  | created =>
    rw [reconcile_adds_finalizer hs.1 h.name_ne h.live h.no_finalizer h.annotated h.connection]
    exact ⟨o, hs.update_local hne h.live rfl rfl⟩
  | finalized =>
    by_cases hy : y = .absent
    · subst hy
      rw [reconcile_creates_mirror hs.1 h.name_ne h.live hfin h.not_requested h.annotated
        h.unsynced h.connection
        (h.finalized_naming ▸ h.mirror_ne) (h.finalized_naming ▸ hs.2)
        (h.finalized_naming ▸ h.mirror_plain)]
      exact ⟨o', h.shows_recorded hne hs⟩
    · obtain ⟨Y, hY⟩ := mirrorGroup_of_ne_absent hy (mirrorCandidate (cfgs c) o L.name L false) m
        L.name
      rw [reconcile_adopts_mirror (R := Y) hs.1 h.name_ne h.live hfin h.not_requested h.annotated
        h.unsynced h.connection (h.finalized_naming ▸ h.mirror_ne)
        (h.finalized_naming ▸ hs.2.trans hY)
        (h.finalized_naming ▸ (h.mirrors_pair o rfl (mirrorGroup_fields hY).2.2).1),
        Stage.passLocal_finalized hy]
      exact ⟨o, h.shows_adopted hne hs⟩
  | synced =>
    obtain ⟨Y, hY⟩ := mirrorGroup_of_ne_absent hv (mirrorCandidate (cfgs c) o L.name L false) m
      L.name
    rw [reconcile_of_paired (h.pairedAt_local hs hY)]
    exact ⟨o, hs⟩

/-- With no call failing, a pass on the mirror moves the stages as the machine does. -/
theorem reconcile_mirror_passes {s : Stage × Stage} (hv : Stage.Valid s)
    (hs : Shows w c rc L (mirrorCandidate (cfgs c) o L.name L false) m s) (o' : Oracle)
    (clock : List Int) (log : List Effect) :
    Shows (reconcile (cfgs rc) o' rc m ⟨w, [], clock, log⟩).2.world c rc L
      (mirrorCandidate (cfgs c) o L.name L false) m (Stage.passMirror s) := by
  obtain ⟨x, y⟩ := s
  obtain ⟨X, hX⟩ := localGroup_of_valid hv L m
  cases y with
  | absent =>
    rw [reconcile_world_of_absent _ hs.2]
    exact hs
  | created =>
    rw [reconcile_adds_finalizer hs.2 h.mirror_ne mirrorCandidate_deleting (by simp)
      (mirrorCandidate_isNil _ _ _ _ _)
      ((congrArg (cfgs rc).connection (h.candidate_remote o)).trans h.back)]
    exact hs.update_mirror hne (h.candidate_name o) mirrorCandidate_deleting rfl rfl
  | finalized =>
    rw [reconcile_adopts_mirror (R := X) hs.2 h.mirror_ne mirrorCandidate_deleting
      (List.mem_append_right _ (List.mem_singleton_self _))
      (mirrorCandidate_deletionRequested _ _ _ _ _) (mirrorCandidate_isNil _ _ _ _ _)
      ((mirrorCandidate_sync _ _ _ _ _).trans_ne (by decide))
      ((congrArg (cfgs rc).connection (h.candidate_remote o)).trans h.back)
      (h.peer_finalized_naming o ▸ h.name_ne) (h.peer_finalized_naming o ▸ hs.1.trans hX)
      (h.peer_finalized_naming o ▸ (h.mirrors_pair o (localGroup_fields hX).2.2 rfl).2)]
    exact h.shows_mirror_adopted hne hs
  | synced =>
    rw [reconcile_of_paired (h.pairedAt_mirror hs hX)]
    exact hs

end PairingFacts

/-! ## Whole runs -/

/-- The world shows `L` on cluster `c` and its mirror `m` on `rc` at stages the machine can be in,
the mirror being one that a pass on `L` builds. -/
def PairingAt (cfgs : Nat → Config) (c rc : Nat) (m : String) (L : DellCSIReplicationGroup)
    (w : World) : Prop :=
  ∃ o s, Stage.Valid s ∧ Shows w c rc L (mirrorCandidate (cfgs c) o L.name L false) m s

/-- The mirror's name on `rc` is not `L`'s name on `c` when `L` is stored and the mirror's name
is free. -/
theorem mirror_apart {w : World} {c rc : Nat} {m : String} {L : DellCSIReplicationGroup}
    (hL : lookupRG (w c).rgs L.name = some L) (hfree : lookupRG (w rc).rgs m = none) :
    rc = c → m ≠ L.name := by
  rintro rfl rfl
  exact Option.noConfusion (hL.symm.trans hfree)

/-- The pairing starts with `L` created and no mirror. -/
theorem pairingAt_start (cfgs : Nat → Config) {w : World} {c rc : Nat} {m : String}
    {L : DellCSIReplicationGroup} (hL : lookupRG (w c).rgs L.name = some L)
    (hfree : lookupRG (w rc).rgs m = none) : PairingAt cfgs c rc m L w :=
  ⟨storedOrder, (.created, .absent), rfl, hL, hfree⟩

namespace PairingFacts

variable {cfgs : Nat → Config} {c rc : Nat} {m : String} {L : DellCSIReplicationGroup}
  {lid rid : String} (h : PairingFacts cfgs c rc m L lid rid) (hne : rc = c → m ≠ L.name)
include h hne

/-- Along any run of passes on the two groups, whatever their calls answer, the world shows the
pairing at stages the machine can be in. -/
theorem pairingAt_run (steps : List Step)
    (hsteps : ∀ st ∈ steps, ∃ faults clock o,
      st = .reconcile c L.name faults clock o ∨ st = .reconcile rc m faults clock o) {σ : Sys}
    (hσ : PairingAt cfgs c rc m L σ.world) : PairingAt cfgs c rc m L (run cfgs steps σ).world :=
  run_keeps (fun st hst σ' ⟨o, s, hv, hs⟩ => by
    obtain ⟨faults, clock, o', rfl | rfl⟩ := hsteps st hst
    · obtain ⟨s', hmove, -, o'', hs'⟩ := h.reconcile_local_refines hne hv hs o' faults clock σ'.log
      exact ⟨o'', s', hmove.valid hv, hs'⟩
    · obtain ⟨s', hmove, -, hs'⟩ := h.reconcile_mirror_refines hne hv hs o' faults clock σ'.log
      exact ⟨o, s', hmove.valid hv, hs'⟩) hσ

theorem pass_local {σ : Sys} {o : Oracle} {s : Stage × Stage} (hv : Stage.Valid s)
    (hs : Shows σ.world c rc L (mirrorCandidate (cfgs c) o L.name L false) m s) :
    ∃ o', Shows ((Step.pass c L.name []).apply cfgs σ).world c rc L
      (mirrorCandidate (cfgs c) o' L.name L false) m (Stage.passLocal s) :=
  h.reconcile_local_passes hne hv hs storedOrder [] σ.log

theorem pass_mirror {σ : Sys} {o : Oracle} {s : Stage × Stage} (hv : Stage.Valid s)
    (hs : Shows σ.world c rc L (mirrorCandidate (cfgs c) o L.name L false) m s) :
    Shows ((Step.pass rc m []).apply cfgs σ).world c rc L
      (mirrorCandidate (cfgs c) o L.name L false) m (Stage.passMirror s) :=
  h.reconcile_mirror_passes hne hv hs storedOrder [] σ.log

/-- Two passes on `L` and two on the mirror, with no call failing, take the pairing from every
stage it can be at to both groups synced. -/
theorem run_pairs {σ : Sys} {o : Oracle} {s : Stage × Stage} (hv : Stage.Valid s)
    (hs : Shows σ.world c rc L (mirrorCandidate (cfgs c) o L.name L false) m s) :
    ∃ o', Shows (run cfgs [.pass c L.name [], .pass c L.name [], .pass rc m [], .pass rc m []]
      σ).world c rc L (mirrorCandidate (cfgs c) o' L.name L false) m (.synced, .synced) := by
  have hv₁ := Stage.valid_passLocal s hv
  have hv₂ := Stage.valid_passLocal _ hv₁
  obtain ⟨o₁, hs₁⟩ := h.pass_local hne hv hs
  obtain ⟨o₂, hs₂⟩ := h.pass_local hne hv₁ hs₁
  have hs₄ := h.pass_mirror hne (Stage.valid_passMirror _ hv₂) (h.pass_mirror hne hv₂ hs₂)
  rw [Stage.four_passes_pair s hv] at hs₄
  exact ⟨o₂, hs₄⟩

end PairingFacts

/-- In either mode, whatever failed in earlier passes on the two groups, four passes with no
failure pair them. -/
theorem PairingFacts.pairs_after_failures {cfgs : Nat → Config} {σ : Sys} {c rc : Nat}
    {m : String} {L : DellCSIReplicationGroup} {lid rid : String}
    (h : PairingFacts cfgs c rc m L lid rid) (hL : lookupRG (σ.world c).rgs L.name = some L)
    (hfree : lookupRG (σ.world rc).rgs m = none) (steps : List Step)
    (hsteps : ∀ st ∈ steps, ∃ faults clock o,
      st = .reconcile c L.name faults clock o ∨ st = .reconcile rc m faults clock o) :
    ∃ M, PairedAt (cfgs c) (run cfgs (steps ++ [.pass c L.name [], .pass c L.name [],
        .pass rc m [], .pass rc m []]) σ).world c L.name
        (markSynced L.name { L with finalizers := L.finalizers ++ [rgFinalizer] } m) rc M ∧
      PairedAt (cfgs rc) (run cfgs (steps ++ [.pass c L.name [], .pass c L.name [],
        .pass rc m [], .pass rc m []]) σ).world rc m M c
        (markSynced L.name { L with finalizers := L.finalizers ++ [rgFinalizer] } m) := by
  have hne := mirror_apart hL hfree
  obtain ⟨o, s, hv, hs⟩ := h.pairingAt_run hne steps hsteps (pairingAt_start cfgs hL hfree)
  obtain ⟨o', hs'⟩ := h.run_pairs hne hv hs
  rw [run_append]
  exact ⟨_, h.pairedAt_local hs' rfl, h.pairedAt_mirror hs' rfl⟩

/-- After any passes on `L` and `m` with any failures, two clean passes on each pair them, so that
every later pass leaves them alone. -/
theorem pairing_survives_failures (cfgs : Nat → Config) (σ : Sys) {c rc : Nat} {m : String}
    {L : DellCSIReplicationGroup} (h : PairingSetup cfgs c rc m L)
    (hL : lookupRG (σ.world c).rgs L.name = some L) (hfree : lookupRG (σ.world rc).rgs m = none)
    (steps : List Step)
    (hsteps : ∀ st ∈ steps, ∃ faults clock o,
      st = .reconcile c L.name faults clock o ∨ st = .reconcile rc m faults clock o) :
    ∃ M, PairedAt (cfgs c) (run cfgs (steps ++ [.pass c L.name [], .pass c L.name [],
        .pass rc m [], .pass rc m []]) σ).world c L.name
        (markSynced L.name { L with finalizers := L.finalizers ++ [rgFinalizer] } m) rc M ∧
      PairedAt (cfgs rc) (run cfgs (steps ++ [.pass c L.name [], .pass c L.name [],
        .pass rc m [], .pass rc m []]) σ).world rc m M c
        (markSynced L.name { L with finalizers := L.finalizers ++ [rgFinalizer] } m) :=
  h.facts.pairs_after_failures hL hfree steps hsteps

/-- Whatever the passes meet: `L` stays stored, live and with its spec, what stands under `m`
mirrors it, and `L` is marked synced only once its mirror stands. -/
theorem pairing_safe_under_failures (cfgs : Nat → Config) (σ : Sys) {c rc : Nat} {m : String}
    {L : DellCSIReplicationGroup} (h : PairingSetup cfgs c rc m L)
    (hL : lookupRG (σ.world c).rgs L.name = some L) (hfree : lookupRG (σ.world rc).rgs m = none)
    (steps : List Step)
    (hsteps : ∀ st ∈ steps, ∃ faults clock o,
      st = .reconcile c L.name faults clock o ∨ st = .reconcile rc m faults clock o) :
    ∃ X, lookupRG ((run cfgs steps σ).world c).rgs L.name = some X ∧ X.deleting = false ∧
      X.spec = L.spec ∧
      (∀ M, lookupRG ((run cfgs steps σ).world rc).rgs m = some M →
        Mirrors (cfgs c).clusterId X M ∧ Mirrors (cfgs rc).clusterId M X) ∧
      (X.annotations.get rgSyncComplete = "yes" →
        lookupRG ((run cfgs steps σ).world rc).rgs m ≠ none) := by
  obtain ⟨o, ⟨x, y⟩, hv, hs⟩ :=
    h.facts.pairingAt_run (mirror_apart hL hfree) steps hsteps (pairingAt_start cfgs hL hfree)
  obtain ⟨X, hX⟩ := localGroup_of_valid hv L m
  obtain ⟨-, hXd, hXs⟩ := localGroup_fields hX
  refine ⟨X, hs.1.trans hX, hXd.trans h.live, hXs,
    fun M hM => h.facts.mirrors_pair o hXs (mirrorGroup_fields (hs.2.symm.trans hM)).2.2,
    fun hsync hnone => ?_⟩
  cases x with
  | absent => exact hv
  | created => cases hX; exact h.unsynced hsync
  | finalized => cases hX; exact h.unsynced hsync
  | synced =>
    obtain ⟨Y, hY⟩ := mirrorGroup_of_ne_absent hv (mirrorCandidate (cfgs c) o L.name L false) m
      L.name
    exact Option.noConfusion (hnone.symm.trans (hs.2.trans hY))

/-! ## Single-cluster mode -/

/-- What the single-cluster pairing of `L`, created by a user on `c`, with
`replicated-<L's name>` assumes. -/
structure SelfPairingSetup (cfgs : Nat → Config) (c : Nat) (L : DellCSIReplicationGroup) :
    Prop where
  name_ne : L.name ≠ ""
  live : L.deleting = false
  no_finalizer : rgFinalizer ∉ L.finalizers
  not_requested : L.annotations.has deletionRequested = false
  annotated : L.annotations.isNil = false
  unsynced : L.annotations.get rgSyncComplete ≠ "yes"
  idle : Idle L
  self_mode : L.spec.remoteClusterId = self
  connection : (cfgs c).connection self = some c
  name_plain : contains L.name replicated = false

/-- In single-cluster mode `L` looks its mirror up under `replicated-<L's name>`, and the mirror,
trimming its own `replicated-`, looks `L` up under `L`'s name, both for the ID `self`. -/
theorem SelfPairingSetup.facts {cfgs : Nat → Config} {c : Nat} {L : DellCSIReplicationGroup}
    (h : SelfPairingSetup cfgs c L) :
    PairingFacts cfgs c c (replicated ++ "-" ++ L.name) L self self := by
  have hp : hasPrefix L.name replicated = false :=
    Bool.eq_false_iff.2 fun h' => Bool.noConfusion (h.name_plain.symm.trans (contains_of_hasPrefix h'))
  have hmp : hasPrefix (replicated ++ "-" ++ L.name) replicated = true := by
    rw [String.append_assoc]
    exact hasPrefix_append _ _
  have hrec : recordedName (replicated ++ "-" ++ L.name) L.name = L.name := by
    rw [recordedName, if_pos (contains_of_hasPrefix hmp)]
    exact trimPrefix_append _ _
  have naming : mirrorNaming (cfgs c) L.name L = ⟨replicated ++ "-" ++ L.name, false, self⟩ := by
    rw [mirrorNaming_of_unsynced_self h.self_mode h.unsynced, hp]
    rfl
  have remote (o : Oracle) : (mirrorCandidate (cfgs c) o L.name L false).spec.remoteClusterId = self := by
    show (mirrorNaming (cfgs c) L.name L).localClusterID = self
    rw [naming]
  refine ⟨h.name_ne, h.live, h.no_finalizer, h.not_requested, h.annotated, h.unsynced, h.idle,
    h.self_mode ▸ h.connection, h.connection, h.self_mode, fun he => ?_,
    contains_selfMirror_eq_false h.name_plain, naming, ?_, fun o => ?_, fun o => ?_⟩
  · rw [he] at hmp
    cases hmp
  · rw [mirrorNaming_of_synced_self (by exact h.self_mode) (markSynced_sync _ _ _), hp]
    rfl
  · rw [mirrorNaming_of_unsynced_self (remote o) (by simp), hmp]
    simp [h.name_ne]
  · rw [mirrorNaming_of_synced_self (by exact remote o) (markSynced_sync _ _ _), if_pos hmp,
      markSynced_remote, hrec]

/-- In single-cluster mode, after any passes on the two names with any failures, two clean passes
on each pair `L` with `replicated-<L's name>`. -/
theorem self_pairing_survives_failures (cfgs : Nat → Config) (σ : Sys) {c : Nat}
    {L : DellCSIReplicationGroup} (h : SelfPairingSetup cfgs c L)
    (hL : lookupRG (σ.world c).rgs L.name = some L)
    (hfree : lookupRG (σ.world c).rgs (replicated ++ "-" ++ L.name) = none) (steps : List Step)
    (hsteps : ∀ st ∈ steps, ∃ faults clock o, st = .reconcile c L.name faults clock o ∨
      st = .reconcile c (replicated ++ "-" ++ L.name) faults clock o) :
    ∃ M, PairedAt (cfgs c) (run cfgs (steps ++ [.pass c L.name [], .pass c L.name [],
        .pass c (replicated ++ "-" ++ L.name) [], .pass c (replicated ++ "-" ++ L.name) []])
        σ).world c L.name (markSynced L.name { L with finalizers := L.finalizers ++ [rgFinalizer] }
          (replicated ++ "-" ++ L.name)) c M ∧
      PairedAt (cfgs c) (run cfgs (steps ++ [.pass c L.name [], .pass c L.name [],
        .pass c (replicated ++ "-" ++ L.name) [], .pass c (replicated ++ "-" ++ L.name) []])
        σ).world c (replicated ++ "-" ++ L.name) M c (markSynced L.name
          { L with finalizers := L.finalizers ++ [rgFinalizer] } (replicated ++ "-" ++ L.name)) :=
  h.facts.pairs_after_failures hL hfree steps hsteps

/-- Two passes on the user's group `x` that fail, one after creating the mirror and before
recording it, and two on the mirror, the first failing at once. -/
def failingPasses : List Step :=
  [.reconcile 0 "x" [] [] storedOrder, .reconcile 0 "x" [false, false, false, false, true] []
    storedOrder, .reconcile 1 "x" [true] [] storedOrder, .reconcile 1 "x" [] [] storedOrder]

/-- The user's group `x` on cluster 0, for the cluster `B`, meets what the pairing assumes, its
mirror named `x` on cluster 1. -/
theorem userGroup_x_setup :
    PairingSetup twoClusters 0 1 "x" (userGroup "x" "B" "retain" "csi-driver") :=
  ⟨by decide, rfl, List.not_mem_nil _, by decide, rfl, by decide, by decide, by decide, by decide,
    rfl, rfl, rfl, rfl, by decide, by decide⟩

/-- After the failing passes, four passes with no failure pair `x` with its mirror. -/
theorem userGroup_x_pairs_after_failures :
    ∃ M, PairedAt (twoClusters 0) (run twoClusters (failingPasses ++ [.pass 0 "x" [],
        .pass 0 "x" [], .pass 1 "x" [], .pass 1 "x" []])
        ⟨twoWorld [userGroup "x" "B" "retain" "csi-driver"] [], []⟩).world 0 "x"
        (markSynced "x" { userGroup "x" "B" "retain" "csi-driver" with
          finalizers := [rgFinalizer] } "x") 1 M ∧
      PairedAt (twoClusters 1) (run twoClusters (failingPasses ++ [.pass 0 "x" [],
        .pass 0 "x" [], .pass 1 "x" [], .pass 1 "x" []])
        ⟨twoWorld [userGroup "x" "B" "retain" "csi-driver"] [], []⟩).world 1 "x" M 0
        (markSynced "x" { userGroup "x" "B" "retain" "csi-driver" with
          finalizers := [rgFinalizer] } "x") :=
  @pairing_survives_failures twoClusters ⟨twoWorld [userGroup "x" "B" "retain" "csi-driver"] [], []⟩
    0 1 "x" (userGroup "x" "B" "retain" "csi-driver")
    userGroup_x_setup
    rfl rfl failingPasses (by simp [failingPasses, userGroup])

/-- After the failing passes, `x` is live with its spec, and the mirror created on cluster 1
mirrors it. -/
theorem userGroup_x_safe_after_failures :
    ∃ X, lookupRG ((run twoClusters failingPasses
        ⟨twoWorld [userGroup "x" "B" "retain" "csi-driver"] [], []⟩).world 0).rgs "x" = some X ∧
      X.deleting = false ∧ X.spec = (userGroup "x" "B" "retain" "csi-driver").spec ∧
      (∀ M, lookupRG ((run twoClusters failingPasses
          ⟨twoWorld [userGroup "x" "B" "retain" "csi-driver"] [], []⟩).world 1).rgs "x" = some M →
        Mirrors "A" X M ∧ Mirrors "B" M X) ∧
      (X.annotations.get rgSyncComplete = "yes" → lookupRG ((run twoClusters failingPasses
        ⟨twoWorld [userGroup "x" "B" "retain" "csi-driver"] [], []⟩).world 1).rgs "x" ≠ none) :=
  @pairing_safe_under_failures twoClusters
    ⟨twoWorld [userGroup "x" "B" "retain" "csi-driver"] [], []⟩ 0 1 "x"
    (userGroup "x" "B" "retain" "csi-driver")
    userGroup_x_setup
    rfl rfl failingPasses (by simp [failingPasses, userGroup])

/-- Passes on `x` and on `replicated-x` of cluster 0 that fail as `failingPasses` do. -/
def failingSelfPasses : List Step :=
  [.reconcile 0 "x" [] [] storedOrder, .reconcile 0 "x" [false, false, false, false, true] []
    storedOrder, .reconcile 0 "replicated-x" [true] [] storedOrder,
    .reconcile 0 "replicated-x" [] [] storedOrder]

/-- After the failing passes, four passes with no failure pair `x` with `replicated-x` on
cluster 0. -/
theorem selfGroup_x_pairs_after_failures :
    ∃ M, PairedAt (twoClusters 0) (run twoClusters (failingSelfPasses ++ [.pass 0 "x" [],
        .pass 0 "x" [], .pass 0 "replicated-x" [], .pass 0 "replicated-x" []])
        ⟨twoWorld [userGroup "x" self "retain" "csi-driver"] [], []⟩).world 0 "x"
        (markSynced "x" { userGroup "x" self "retain" "csi-driver" with
          finalizers := [rgFinalizer] } "replicated-x") 0 M ∧
      PairedAt (twoClusters 0) (run twoClusters (failingSelfPasses ++ [.pass 0 "x" [],
        .pass 0 "x" [], .pass 0 "replicated-x" [], .pass 0 "replicated-x" []])
        ⟨twoWorld [userGroup "x" self "retain" "csi-driver"] [], []⟩).world 0 "replicated-x" M 0
        (markSynced "x" { userGroup "x" self "retain" "csi-driver" with
          finalizers := [rgFinalizer] } "replicated-x") :=
  @self_pairing_survives_failures twoClusters
    ⟨twoWorld [userGroup "x" self "retain" "csi-driver"] [], []⟩ 0
    (userGroup "x" self "retain" "csi-driver")
    ⟨by decide, rfl, List.not_mem_nil _, by decide, rfl, by decide, by decide, rfl, rfl,
      by decide⟩
    rfl rfl failingSelfPasses (by simp [failingSelfPasses, userGroup,
      show replicated ++ "-" ++ "x" = "replicated-x" from rfl])

end CsmReplication
