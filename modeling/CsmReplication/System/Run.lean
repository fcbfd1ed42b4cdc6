import CsmReplication.Controller.Writes

/-!
# Runs of the controllers

Every cluster runs a controller. The controllers' passes interleave with one another and with
users, who create replication groups and request their deletion; each pass is atomic and meets
its own failures, clock readings and map orders. What persists from one step to the next is the
servers and the log.

A predicate of the world that every step keeps holds all along a run (`run_keeps`); the
properties of whole runs are proved that way, from what one pass may write (`reconcile_moves`).
-/

namespace CsmReplication

/-- What persists between steps: every cluster's server, and the log of writes and events. -/
structure Sys where
  world : World
  log : List Effect

/-- One step of the clusters. -/
inductive Step where
  /-- Cluster `c`'s controller reconciles its group `name`, meeting the call failures `faults`,
  the clock readings `clock` and the map orders of `o`. -/
  | reconcile (c : Nat) (name : String) (faults : List Bool) (clock : List Int) (o : Oracle)
  /-- A user creates a group on cluster `c`. -/
  | create (c : Nat) (rg : DellCSIReplicationGroup)
  /-- A user requests the deletion of the group `name` of cluster `c`. -/
  | delete (c : Nat) (name : String)

/-- The state after a step; cluster `c`'s controller is configured with `cfgs c`. -/
def Step.apply (cfgs : Nat → Config) : Step → Sys → Sys
  | .reconcile c name faults clock o, σ =>
    let s := (CsmReplication.reconcile (cfgs c) o c name ⟨σ.world, faults, clock, σ.log⟩).2
    ⟨s.world, s.log⟩
  | .create c rg, σ => ⟨(RGWrite.create c rg).apply σ.world, σ.log⟩
  | .delete c name, σ => ⟨(RGWrite.delete c name).apply σ.world, σ.log⟩

/-- What a step hands back to controller-runtime: a pass's reply; a user's step hands back none. -/
def Step.reply (cfgs : Nat → Config) : Step → Sys → Option Reply
  | .reconcile c name faults clock o, σ =>
    some (CsmReplication.reconcile (cfgs c) o c name ⟨σ.world, faults, clock, σ.log⟩).1
  | .create .., _ | .delete .., _ => none

/-- A step of a controller, not of a user. -/
def Step.isPass : Step → Bool
  | .reconcile .. => true
  | .create .. | .delete .. => false

/-- The state after the steps, in order. -/
def run (cfgs : Nat → Config) : List Step → Sys → Sys
  | [], σ => σ
  | st :: rest, σ => run cfgs rest (st.apply cfgs σ)

/-- The replies of the passes of the steps, in order. -/
def replies (cfgs : Nat → Config) : List Step → Sys → List Reply
  | [], _ => []
  | st :: rest, σ => (st.reply cfgs σ).toList ++ replies cfgs rest (st.apply cfgs σ)

@[simp] theorem run_nil (cfgs : Nat → Config) (σ : Sys) : run cfgs [] σ = σ :=
  rfl

@[simp] theorem run_cons (cfgs : Nat → Config) (st : Step) (rest : List Step) (σ : Sys) :
    run cfgs (st :: rest) σ = run cfgs rest (st.apply cfgs σ) :=
  rfl

theorem run_append (cfgs : Nat → Config) (steps₁ steps₂ : List Step) (σ : Sys) :
    run cfgs (steps₁ ++ steps₂) σ = run cfgs steps₂ (run cfgs steps₁ σ) := by
  induction steps₁ generalizing σ with
  | nil => rfl
  | cons st rest ih => exact ih _

/-- A predicate of the world that every step of a run keeps holds after the run. -/
theorem run_keeps {cfgs : Nat → Config} {P : World → Prop} {steps : List Step} {σ : Sys}
    (hstep : ∀ st ∈ steps, ∀ σ', P σ'.world → P (st.apply cfgs σ').world) (h : P σ.world) :
    P (run cfgs steps σ).world := by
  induction steps generalizing σ with
  | nil => exact h
  | cons st rest ih =>
    exact ih (fun st' h' => hstep st' (List.mem_cons_of_mem _ h'))
      (hstep st (List.mem_cons_self _ _) σ h)

/-! ## A two-cluster installation

The runs that exhibit the properties below use two clusters. Cluster 0 reports the ID `A` and
reaches `B` as cluster 1; cluster 1 reports `B` and reaches `A` as cluster 0; each reaches itself
under `self`. -/

/-- The map order that visits the pairs as they are stored. -/
def storedOrder : Oracle :=
  ⟨StringMap.pairs, fun _ => List.Perm.refl _⟩

/-- Cluster 0's controller. -/
def configA : Config :=
  ⟨"A", fun id => if id = "B" then some 1 else if id = self then some 0 else none,
    "replication.storage.dell.com", fun _ => none⟩

/-- Cluster 1's controller. -/
def configB : Config :=
  ⟨"B", fun id => if id = "A" then some 0 else if id = self then some 1 else none,
    "replication.storage.dell.com", fun _ => none⟩

/-- The controllers of the two clusters. -/
def twoClusters (c : Nat) : Config :=
  if c = 0 then configA else configB

/-- A server with no objects. -/
def emptyCluster : Cluster :=
  ⟨[], [], [], [], [], [], [], []⟩

/-- Cluster 0 holds the groups `a` and cluster 1 the groups `b`. -/
def twoWorld (a b : List DellCSIReplicationGroup) : World :=
  fun d => if d = 0 then { emptyCluster with rgs := a }
    else if d = 1 then { emptyCluster with rgs := b } else emptyCluster

/-- A group as a user creates it: its retention policy as its only annotation, no finalizer, and
the protection group `pg1` replicated to `pg2` on the cluster `remote`. -/
def userGroup (name remote policy driver : String) : DellCSIReplicationGroup :=
  ⟨name, (∅ : StringMap).set remoteRGRetentionPolicy policy, ∅, [], false,
    ⟨driver, "", remote, "pg1", ∅, "pg2", ∅⟩, .empty⟩

/-- A pass of cluster `c`'s controller on its group `name`, the calls failing as `faults` says. -/
def Step.pass (c : Nat) (name : String) (faults : List Bool) : Step :=
  .reconcile c name faults [] storedOrder

/-- The group named `n` on cluster `d`. -/
def Sys.group (σ : Sys) (d : Nat) (n : String) : Option DellCSIReplicationGroup :=
  lookupRG (σ.world d).rgs n

/-- The names of the groups on cluster `d`. -/
def Sys.names (σ : Sys) (d : Nat) : List String :=
  (σ.world d).rgs.map (·.name)

/-- The finalizers of the group named `n` on cluster `d`. -/
def Sys.finalizers (σ : Sys) (d : Nat) (n : String) : Option (List String) :=
  (σ.group d n).map (·.finalizers)

/-- The annotation `k` of the group named `n` on cluster `d`. -/
def Sys.annotationAt (σ : Sys) (d : Nat) (n k : String) : Option String :=
  (σ.group d n).bind (·.annotations.lookup k)

end CsmReplication
