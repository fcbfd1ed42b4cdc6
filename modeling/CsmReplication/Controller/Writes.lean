import CsmReplication.Controller.Reconcile
import CsmReplication.Controller.Frame

/-!
# What a pass writes to the replication groups

The replication groups a pass on the group `L` (named `n`, of cluster `c`, whose remote cluster
ID reaches cluster `rc`) may write, and how: `AllowedWrite` lists them, each as the server
applies it (`RGWrite.apply`, a refused write changing nothing). The pass adds or removes its
finalizer on `L`, deletes `L`, records the mirror's name on `L` or stamps its action time,
creates the mirror it built on `rc`, and asks for the deletion of the group `L`'s
`RemoteReplicationGroup` annotation names on `rc`, as that group stands when it is written. The
snapshot workflow writes other objects only.

`reconcile_moves` shows that every pass goes from the world it starts in to the world it ends in
by such writes, whatever the servers answer and whichever calls fail.
-/

namespace CsmReplication

/-! ## Writes to replication groups -/

/-- A write to the replication groups of cluster `d`. -/
inductive RGWrite where
  | update (d : Nat) (rg : DellCSIReplicationGroup)
  | create (d : Nat) (rg : DellCSIReplicationGroup)
  | delete (d : Nat) (name : String)

namespace RGWrite

/-- The cluster written. -/
def cluster : RGWrite → Nat
  | update d _ | create d _ | delete d _ => d

/-- The server's answer to the write on the cluster it holds. -/
def result : RGWrite → Cluster → Except ApiError Cluster
  | update _ rg, cl => cl.updateRG rg
  | create _ rg, cl => cl.createRG rg
  | delete _ n, cl => cl.deleteRG n

/-- The world after the write; a refused write changes nothing. -/
def apply (x : RGWrite) (w : World) : World :=
  match x.result (w x.cluster) with
  | .ok cl => Function.update w x.cluster cl
  | .error _ => w

theorem apply_of_ok {x : RGWrite} {w : World} {cl : Cluster} (h : x.result (w x.cluster) = .ok cl) :
    x.apply w = Function.update w x.cluster cl := by
  simp only [apply, h]

theorem apply_of_error {x : RGWrite} {w : World} {e : ApiError}
    (h : x.result (w x.cluster) = .error e) : x.apply w = w := by
  simp only [apply, h]

/-- The server's answer to a write depends on the cluster's replication groups only. -/
theorem result_rgs (x : RGWrite) {cl₁ cl₂ : Cluster} (h : cl₁.rgs = cl₂.rgs) :
    (x.result cl₁).map Cluster.rgs = (x.result cl₂).map Cluster.rgs := by
  cases x <;> simp only [result, Cluster.updateRG, Cluster.createRG, Cluster.deleteRG, createBy, h]
  all_goals repeat' split
  all_goals rfl

/-- A write to replication groups leaves every other object of the cluster as it is. -/
theorem result_others {x : RGWrite} {cl cl' : Cluster} (h : x.result cl = .ok cl') :
    cl' = { cl with rgs := cl'.rgs } := by
  cases x <;> simp only [result, Cluster.updateRG, Cluster.createRG, Cluster.deleteRG, createBy] at h
  all_goals (repeat' split at h) <;> cases h <;> rfl

theorem apply_congr (x : RGWrite) {w₁ w₂ : World} (h : SameRGs w₁ w₂) :
    SameRGs (x.apply w₁) (x.apply w₂) := by
  intro d
  have hr := x.result_rgs (h x.cluster).symm
  unfold apply
  cases h₁ : x.result (w₁ x.cluster) <;> cases h₂ : x.result (w₂ x.cluster) <;>
    simp only [h₁, h₂, Except.map] at hr
  · exact h d
  · cases hr
  · cases hr
  · by_cases hd : d = x.cluster
    · subst hd
      simpa using hr.symm
    · simp [Function.update_noteq hd, h d]

end RGWrite

/-! ## The client calls that write replication groups -/

namespace Client

theorem update_world (d : Nat) (rg : DellCSIReplicationGroup) (s : PassState) :
    (update d rg s).2.world =
      if s.faults.headD false then s.world else (RGWrite.update d rg).apply s.world := by
  simp only [update, logged_apply, write_apply, RGWrite.apply, RGWrite.result, RGWrite.cluster]
  split
  · rfl
  · split <;> rename_i h <;> simp only [h]

theorem updateReplicationGroup_world (d : Nat) (rg : DellCSIReplicationGroup) (s : PassState) :
    (updateReplicationGroup d rg s).2.world =
      if s.faults.headD false then s.world else (RGWrite.update d rg).apply s.world :=
  update_world d rg s

theorem createReplicationGroup_world (d : Nat) (rg : DellCSIReplicationGroup) (s : PassState) :
    (createReplicationGroup d rg s).2.world =
      if s.faults.headD false then s.world else (RGWrite.create d rg).apply s.world := by
  simp only [createReplicationGroup, logged_apply, write_apply, RGWrite.apply, RGWrite.result,
    RGWrite.cluster]
  split
  · rfl
  · split <;> rename_i h <;> simp only [h]

theorem delete_world (d : Nat) (rg : DellCSIReplicationGroup) (s : PassState) :
    (delete d rg s).2.world =
      if s.faults.headD false then s.world else (RGWrite.delete d rg.name).apply s.world := by
  simp only [delete, logged_apply, write_apply, RGWrite.apply, RGWrite.result, RGWrite.cluster]
  split
  · rfl
  · split <;> rename_i h <;> simp only [h]

theorem update_log (d : Nat) (rg : DellCSIReplicationGroup) (s : PassState) :
    (update d rg s).2.log = s.log ++ [.update d rg (update d rg s).1] := by
  simp only [update, logged_apply, write_apply]
  split
  · rfl
  · split <;> rfl

theorem update_ok {d : Nat} {rg : DellCSIReplicationGroup} {s : PassState}
    (h : (update d rg s).1 = .ok ()) :
    s.faults.headD false = false ∧ ∃ cl, (RGWrite.update d rg).result (s.world d) = .ok cl := by
  simp only [update, logged_apply, write_apply] at h
  split at h
  · cases h
  · rename_i hf
    refine ⟨by simpa using hf, ?_⟩
    split at h
    · cases h
    · exact ⟨_, ‹_›⟩

theorem createReplicationGroup_ok {d : Nat} {rg : DellCSIReplicationGroup} {s : PassState}
    (h : (createReplicationGroup d rg s).1 = .ok ()) :
    s.faults.headD false = false ∧ ∃ cl, (s.world d).createRG rg = .ok cl := by
  simp only [createReplicationGroup, logged_apply, write_apply] at h
  split at h
  · cases h
  · rename_i hf
    refine ⟨by simpa using hf, ?_⟩
    split at h
    · cases h
    · exact ⟨_, ‹_›⟩

end Client

/-! ## What one write does to one group -/

namespace RGWrite

/-- The name of the group the write is about. -/
def target : RGWrite → String
  | update _ rg | create _ rg => rg.name
  | delete _ n => n

/-- A write leaves every group it is not about as it was. -/
theorem lookup_apply_of_ne (x : RGWrite) (w : World) {d : Nat} {m : String}
    (h : x.cluster = d → x.target ≠ m) :
    lookupRG ((x.apply w) d).rgs m = lookupRG (w d).rgs m := by
  cases hcl : x.result (w x.cluster) with
  | error e => rw [apply_of_error hcl]
  | ok cl =>
    rw [apply_of_ok hcl]
    by_cases hd : d = x.cluster
    · subst hd
      have hm := h rfl
      rw [Function.update_same]
      cases x with
      | update _ rg =>
        obtain ⟨old, -, -, ⟨-, -, hrgs⟩ | ⟨-, hrgs⟩⟩ := Cluster.updateRG_eq_ok hcl <;> rw [hrgs]
        · exact lookupRG_removeRG_of_ne _ (Ne.symm hm)
        · exact lookupRG_replaceRG_of_ne _ _ (Ne.symm hm)
      | create _ rg =>
        have hm' : rg.name ≠ m := hm
        simp only [result] at hcl
        simp only [(Cluster.createRG_eq_ok hcl).2, lookupRG, lookupBy_append_singleton, hm',
          if_false, Option.or_none]
      | delete _ n =>
        obtain ⟨old, hold, ⟨-, hrgs⟩ | ⟨-, hrgs⟩⟩ := Cluster.deleteRG_eq_ok hcl <;> rw [hrgs]
        · exact lookupRG_removeRG_of_ne _ (Ne.symm hm)
        · exact lookupRG_replaceRG_of_ne _ _ ((lookupBy_eq_some _ hold).2 ▸ Ne.symm hm)
    · rw [Function.update_noteq hd]

/-- A create never replaces a group. -/
theorem lookup_apply_create {w : World} {d d' : Nat} {m : String}
    {rg R : DellCSIReplicationGroup} (h : lookupRG (w d).rgs m = some R) :
    lookupRG (((create d' rg).apply w) d).rgs m = some R := by
  by_cases hd : d' = d
  · subst hd
    cases hcl : (create d' rg).result (w d') with
    | error e => rw [apply_of_error hcl]; exact h
    | ok cl =>
      simp only [apply_of_ok hcl, cluster, Function.update_same]
      simp only [result] at hcl
      simp only [(Cluster.createRG_eq_ok hcl).2]
      unfold lookupRG at h ⊢
      rw [lookupBy_append_singleton, h]
      rfl
  · rw [lookup_apply_of_ne (create d' rg) w fun h' => absurd h' hd]
    exact h

/-- After a create, a group is the one there before or the one created. -/
theorem lookup_apply_create_cases {w : World} {d d' : Nat} {m : String}
    {rg R : DellCSIReplicationGroup} (h : lookupRG (((create d' rg).apply w) d).rgs m = some R) :
    lookupRG (w d).rgs m = some R ∨ R = { rg with deleting := false } := by
  by_cases hd : d' = d ∧ rg.name = m
  · obtain ⟨rfl, rfl⟩ := hd
    cases hcl : (create d' rg).result (w d') with
    | error e => rw [apply_of_error hcl] at h; exact .inl h
    | ok cl =>
      simp only [apply_of_ok hcl, cluster, Function.update_same] at h
      simp only [result] at hcl
      obtain ⟨hnone, hrgs⟩ := Cluster.createRG_eq_ok hcl
      rw [hrgs] at h
      unfold lookupRG at hnone h
      rw [lookupBy_append_singleton, hnone] at h
      simp only [Option.none_or, if_true, Option.some.injEq] at h
      exact .inr h.symm
  · left
    rwa [lookup_apply_of_ne (create d' rg) w fun h₁ h₂ => hd ⟨h₁, h₂⟩] at h

/-- An accepted create stores the group under its name. -/
theorem lookup_apply_create_self {w : World} {d : Nat} {rg : DellCSIReplicationGroup} {cl : Cluster}
    (h : (w d).createRG rg = .ok cl) :
    lookupRG (((create d rg).apply w) d).rgs rg.name = some { rg with deleting := false } := by
  obtain ⟨hnone, hcl⟩ := Cluster.createRG_eq_ok h
  simp only [apply_of_ok (x := create d rg) h, cluster, Function.update_same, hcl]
  unfold lookupRG at hnone ⊢
  rw [lookupBy_append_singleton, hnone]
  simp

/-- An update that keeps a group's finalizers and deletion timestamp is stored as it is, unless
it is a deleting group without finalizers. -/
theorem lookup_apply_update_self {w : World} {d : Nat} {X R : DellCSIReplicationGroup}
    (hR : lookupRG (w d).rgs X.name = some R) (hfin : X.finalizers = R.finalizers)
    (hdel : X.deleting = R.deleting) (hwf : R.deleting = true → R.finalizers ≠ []) :
    lookupRG (((update d X).apply w) d).rgs X.name = some X := by
  have h₁ : ¬(R.deleting = true ∧ (X.finalizers.any fun f => f ∉ R.finalizers) = true) := by
    simp [hfin]
  have h₂ : ¬(R.deleting = true ∧ X.finalizers = []) := fun h => hwf h.1 (hfin ▸ h.2)
  simp only [apply, result, cluster, Cluster.updateRG, hR, h₁, h₂, if_false,
    Function.update_same, lookupRG_replaceRG_self]
  rw [← hdel]
  rfl

/-- An update of a group that is not being deleted replaces it. -/
theorem lookup_apply_update_of_live {w : World} {d : Nat} {X R : DellCSIReplicationGroup}
    (hR : lookupRG (w d).rgs X.name = some R) (hdel : R.deleting = false) :
    lookupRG (((update d X).apply w) d).rgs X.name = some { X with deleting := false } := by
  simp only [apply, result, cluster, Cluster.updateRG, hR, hdel, Bool.false_eq_true, false_and,
    if_false, Function.update_same, lookupRG_replaceRG_self, Option.map_some']

/-- An update of a live group that leaves it live is stored as it is. -/
theorem lookup_apply_update_live {w : World} {d : Nat} {X R : DellCSIReplicationGroup}
    (hR : lookupRG (w d).rgs X.name = some R) (hdel : R.deleting = false)
    (hX : X.deleting = false) : lookupRG (((update d X).apply w) d).rgs X.name = some X := by
  rw [lookup_apply_update_of_live hR hdel]
  cases X
  subst hX
  rfl

/-- An update that leaves a deleting group without finalizers removes it. -/
theorem lookup_apply_update_release {w : World} {d : Nat} {X R : DellCSIReplicationGroup}
    (hR : lookupRG (w d).rgs X.name = some R) (hdel : R.deleting = true) (hX : X.finalizers = []) :
    lookupRG (((update d X).apply w) d).rgs X.name = none := by
  simp only [apply, result, cluster, Cluster.updateRG, hR, hdel, hX, List.any_nil, and_false,
    and_self, if_false, if_true, Bool.false_eq_true, Function.update_same, lookupRG_removeRG_self]

/-- A delete of a group that still has finalizers marks it deleting. -/
theorem lookup_apply_delete_of_finalizers {w : World} {d : Nat} {R : DellCSIReplicationGroup}
    (hR : lookupRG (w d).rgs R.name = some R) (hfin : R.finalizers ≠ []) :
    lookupRG (((delete d R.name).apply w) d).rgs R.name = some { R with deleting := true } := by
  simp only [apply, result, cluster, Cluster.deleteRG, hR, hfin, if_false, Function.update_same]
  exact (lookupRG_replaceRG_self _ { R with deleting := true }).trans (by rw [hR]; rfl)

/-- After an accepted update, the group under its name is gone, or is the update's group with
the stored deletion timestamp. -/
theorem lookup_apply_update_of_ok {w : World} {d : Nat} {X : DellCSIReplicationGroup} {cl : Cluster}
    (hcl : (update d X).result (w d) = .ok cl) {R : DellCSIReplicationGroup}
    (hR : lookupRG (((update d X).apply w) d).rgs X.name = some R) :
    R.annotations = X.annotations ∧ R.spec = X.spec ∧ R.status = X.status := by
  simp only [apply_of_ok hcl, cluster, Function.update_same] at hR
  obtain ⟨old, hold, -, ⟨-, -, hrgs⟩ | ⟨-, hrgs⟩⟩ := Cluster.updateRG_eq_ok hcl <;>
    rw [hrgs] at hR
  · simp [lookupRG_removeRG_self] at hR
  · simp only [lookupRG_replaceRG_self, hold, Option.map_some', Option.some.injEq] at hR
    subst hR
    exact ⟨rfl, rfl, rfl⟩

/-- After an update, the group under its name is gone, or carries the update's annotations, spec
and status; or the update was refused and changed nothing. -/
theorem lookup_apply_update (w : World) (d : Nat) (X : DellCSIReplicationGroup) :
    (update d X).apply w = w ∨ ∀ R, lookupRG (((update d X).apply w) d).rgs X.name = some R →
      R.annotations = X.annotations ∧ R.spec = X.spec ∧ R.status = X.status := by
  cases hcl : (update d X).result (w d) with
  | error e => exact .inl (apply_of_error hcl)
  | ok cl => exact .inr fun _ => lookup_apply_update_of_ok hcl

/-- After an update, the group under its name is the one there before, or the update's group
with the stored deletion timestamp, which adds no finalizer to a deleting group. -/
theorem lookup_apply_update_eq_some {w : World} {d : Nat} {X R : DellCSIReplicationGroup}
    (h : lookupRG (((update d X).apply w) d).rgs X.name = some R) :
    lookupRG (w d).rgs X.name = some R ∨ ∃ R₀, lookupRG (w d).rgs X.name = some R₀ ∧
      ¬(R₀.deleting ∧ X.finalizers.any (· ∉ R₀.finalizers)) ∧
      R = { X with deleting := R₀.deleting } := by
  cases hcl : (update d X).result (w d) with
  | error e => rw [apply_of_error hcl] at h; exact .inl h
  | ok cl =>
    simp only [apply_of_ok hcl, cluster, Function.update_same] at h
    obtain ⟨R₀, hR₀, hadd, ⟨-, -, hrgs⟩ | ⟨-, hrgs⟩⟩ := Cluster.updateRG_eq_ok hcl <;>
      rw [hrgs] at h
    · simp [lookupRG_removeRG_self] at h
    · simp only [lookupRG_replaceRG_self, hR₀, Option.map_some', Option.some.injEq] at h
      exact .inr ⟨R₀, hR₀, hadd, h.symm⟩

/-- After a delete, the group under its name is gone, or is the one it replaced, marked
deleting. -/
theorem lookup_apply_delete (w : World) (d : Nat) (m : String) {R : DellCSIReplicationGroup}
    (h : lookupRG (((delete d m).apply w) d).rgs m = some R) :
    ∃ R₀, lookupRG (w d).rgs m = some R₀ ∧ (R = R₀ ∨ R = { R₀ with deleting := true }) := by
  cases hcl : (delete d m).result (w d) with
  | error e =>
    rw [apply_of_error hcl] at h
    exact ⟨R, h, .inl rfl⟩
  | ok cl =>
    simp only [apply_of_ok hcl, cluster, Function.update_same] at h
    obtain ⟨R₀, hR₀, ⟨-, hrgs⟩ | ⟨-, hrgs⟩⟩ := Cluster.deleteRG_eq_ok hcl <;> rw [hrgs] at h
    · simp [lookupRG_removeRG_self] at h
    · obtain rfl : R₀.name = m := (lookupBy_eq_some _ hR₀).2
      have := lookupRG_replaceRG_self (w d).rgs { R₀ with deleting := true }
      rw [show ({ R₀ with deleting := true } : DellCSIReplicationGroup).name = R₀.name from rfl,
        hR₀, h] at this
      exact ⟨R₀, hR₀, .inr (Option.some.inj this)⟩

end RGWrite

/-! ## The mirror and the lookup's verdict -/

/-- `M` mirrors `L` for a controller writing `localClusterID`: `M` names that ID as its remote
cluster, has `L`'s driver and `L`'s protection groups swapped (lines 128-143). -/
def Mirrors (localClusterID : String) (L M : DellCSIReplicationGroup) : Prop :=
  M.spec.remoteClusterId = localClusterID ∧ M.spec.driverName = L.spec.driverName ∧
    M.spec.protectionGroupId = L.spec.remoteProtectionGroupId ∧
    M.spec.remoteProtectionGroupId = L.spec.protectionGroupId

instance (localClusterID : String) (L M : DellCSIReplicationGroup) :
    Decidable (Mirrors localClusterID L M) :=
  inferInstanceAs (Decidable (_ ∧ _ ∧ _ ∧ _))

theorem Mirrors.of_spec_eq {localClusterID : String} {L M M' : DellCSIReplicationGroup}
    (h : M'.spec = M.spec) (hm : Mirrors localClusterID L M) : Mirrors localClusterID L M' := by
  unfold Mirrors at *
  rwa [h]

/-- The fields of `M` that lines 238-260 compare with those of the mirror `remoteRG` the pass
built. -/
def Agrees (localClusterID : String) (remoteRG M : DellCSIReplicationGroup) : Prop :=
  M.spec.remoteClusterId = localClusterID ∧ M.spec.driverName = remoteRG.spec.driverName ∧
    M.spec.protectionGroupId = remoteRG.spec.protectionGroupId ∧
    M.spec.remoteProtectionGroupId = remoteRG.spec.remoteProtectionGroupId

theorem agrees_buildRemoteRG {cfg : Config} {o : Oracle} {n : String}
    {L M : DellCSIReplicationGroup} {naming : MirrorNaming} :
    Agrees naming.localClusterID (buildRemoteRG cfg o n L naming) M ↔
      Mirrors naming.localClusterID L M :=
  Iff.rfl

/-- The lookup's verdict on `rc` (lines 222-285): create when an unsynced group finds nothing, or
renamed past another cluster's or driver's group; else an agreeing group or a name never made. -/
def Verdict.Spec (w : World) (rc : Nat) (localRGName : String) (naming : MirrorNaming)
    (remoteRG : DellCSIReplicationGroup) : Verdict → Prop
  | .stop _ => True
  | .proceed true R rgSyncComplete => rgSyncComplete = false ∧
    ((naming.rgSyncComplete = false ∧ lookupRG (w rc).rgs naming.remoteRGName = none ∧
        R = remoteRG) ∨
      (∃ M, lookupRG (w rc).rgs naming.remoteRGName = some M ∧
        ¬(M.spec.remoteClusterId = naming.localClusterID ∧
          M.spec.driverName = remoteRG.spec.driverName) ∧
        R = { remoteRG with name := sourceClusterName naming.localClusterID localRGName }))
  | .proceed false R rgSyncComplete => R = remoteRG ∧ rgSyncComplete = naming.rgSyncComplete ∧
    ((∃ M, lookupRG (w rc).rgs naming.remoteRGName = some M ∧
        Agrees naming.localClusterID remoteRG M) ∨
      (naming.rgSyncComplete = false ∧ lookupRG (w rc).rgs naming.remoteRGName = none ∧
        contains naming.remoteRGName "replicated-replicated" = true))

open Pass in
theorem verifyRemoteRG_keeps_rgs (rc : Nat) (localRGName remoteClusterID : String)
    (naming : MirrorNaming) (remoteRG : DellCSIReplicationGroup) :
    Keeps RGsFixed (verifyRemoteRG rc localRGName remoteClusterID naming remoteRG) := by
  unfold verifyRemoteRG Client.getReplicationGroup Client.event
  repeat' (first
    | with_reducible exact Client.read_keeps_rgs _ _
    | with_reducible exact Client.record_keeps_rgs _
    | with_reducible apply keeps_pure
    | split
    | with_reducible refine keeps_bind ?_ fun _ => ?_)

theorem verifyRemoteRG_spec (rc : Nat) (localRGName remoteClusterID : String)
    (naming : MirrorNaming) (remoteRG : DellCSIReplicationGroup) (s : PassState) :
    (verifyRemoteRG rc localRGName remoteClusterID naming remoteRG s).1.Spec s.world rc
      localRGName naming remoteRG := by
  simp only [verifyRemoteRG, Pass.bind_apply]
  cases hr : (Client.getReplicationGroup rc naming.remoteRGName s).1 with
  | error e =>
    cases e
    case notFound =>
      have hnone := Client.getReplicationGroup_notFound hr
      cases hs : naming.rgSyncComplete
      · cases hrr : contains naming.remoteRGName "replicated-replicated"
        · exact ⟨rfl, .inl ⟨hs, hnone, rfl⟩⟩
        · exact ⟨rfl, hs.symm, .inr ⟨hs, hnone, hrr⟩⟩
      · simp only [hs, if_true, Pass.pure_apply]
        trivial
    all_goals trivial
  | ok M =>
    have hM := Client.getReplicationGroup_ok hr
    dsimp only
    split_ifs with h₁ h₂ h₃
    · exact ⟨rfl, .inr ⟨M, hM, fun h => h₂ h.2, rfl⟩⟩
    · trivial
    · refine ⟨rfl, rfl, .inl ⟨M, hM, h₁, ?_⟩⟩
      push_neg at h₂ h₃
      exact ⟨h₂, h₃⟩
    · exact ⟨rfl, .inr ⟨M, hM, fun h => h₁ h.1, rfl⟩⟩

/-- The lookup of a mirror that is there and agrees goes on without creating, unless the
lookup fails. -/
theorem verifyRemoteRG_of_agrees {rc : Nat} {localRGName remoteClusterID : String}
    {naming : MirrorNaming} {remoteRG M : DellCSIReplicationGroup} {s : PassState}
    (hM : (s.world rc).getRG naming.remoteRGName = .ok M)
    (hag : Agrees naming.localClusterID remoteRG M) :
    verifyRemoteRG rc localRGName remoteClusterID naming remoteRG s =
      if s.faults.headD false then
        (.stop (.ret ⟨true, 0⟩ (some (.api .failed))), { s with faults := s.faults.tail })
      else (.proceed false remoteRG naming.rgSyncComplete, { s with faults := s.faults.tail }) := by
  obtain ⟨h₁, h₂, h₃, h₄⟩ := hag
  simp only [verifyRemoteRG, Pass.bind_apply, Client.getReplicationGroup_apply]
  cases s.faults.headD false
  · simp [hM, h₁, h₂, h₃, h₄]
  · rfl

/-! ## What a pass on a group may write -/

/-- The mirror a pass on `L` creates: the one it built (lines 107-144), or the same renamed after
the source cluster (lines 266-268 and 277-279). -/
def mirrorCandidate (cfg : Config) (o : Oracle) (n : String) (L : DellCSIReplicationGroup)
    (renamed : Bool) : DellCSIReplicationGroup :=
  let naming := mirrorNaming cfg n L
  let remoteRG := buildRemoteRG cfg o n L naming
  if renamed then { remoteRG with name := sourceClusterName naming.localClusterID n } else remoteRG

theorem mirrors_mirrorCandidate (cfg : Config) (o : Oracle) (n : String)
    (L : DellCSIReplicationGroup) (renamed : Bool) :
    Mirrors (mirrorNaming cfg n L).localClusterID L (mirrorCandidate cfg o n L renamed) := by
  cases renamed <;> exact ⟨rfl, rfl, rfl, rfl⟩

section Candidate

variable {cfg : Config} {o : Oracle} {n : String} {L : DellCSIReplicationGroup} {renamed : Bool}

@[simp]
theorem mirrorCandidate_annotations :
    (mirrorCandidate cfg o n L renamed).annotations =
      (buildRemoteRG cfg o n L (mirrorNaming cfg n L)).annotations := by
  cases renamed <;> rfl

@[simp]
theorem mirrorCandidate_spec :
    (mirrorCandidate cfg o n L renamed).spec =
      (buildRemoteRG cfg o n L (mirrorNaming cfg n L)).spec := by
  cases renamed <;> rfl

@[simp]
theorem mirrorCandidate_finalizers : (mirrorCandidate cfg o n L renamed).finalizers = [] := by
  cases renamed <;> rfl

@[simp]
theorem mirrorCandidate_deleting : (mirrorCandidate cfg o n L renamed).deleting = false := by
  cases renamed <;> rfl

/-- The server stores a created mirror as it was built. -/
theorem mirrorCandidate_live :
    { mirrorCandidate cfg o n L renamed with deleting := false } =
      mirrorCandidate cfg o n L renamed := by
  cases renamed <;> rfl

end Candidate

/-- One write that `A` allows in the world it is made in, or a change that leaves every
replication group as it is. -/
def MoveStep (A : World → RGWrite → Prop) (w w' : World) : Prop :=
  SameRGs w w' ∨ ∃ x, A w x ∧ SameRGs (x.apply w) w'

/-- The worlds of two states are joined by writes that `A` allows. -/
def Moves (A : World → RGWrite → Prop) (s s' : PassState) : Prop :=
  Relation.ReflTransGen (MoveStep A) s.world s'.world

instance (A : World → RGWrite → Prop) : IsPreorder PassState (Moves A) where
  refl _ := Relation.ReflTransGen.refl
  trans _ _ _ := Relation.ReflTransGen.trans

section Generic

variable {A : World → RGWrite → Prop}

open Pass

theorem Moves.of_rgsFixed {s s' : PassState} (h : RGsFixed s s') : Moves A s s' :=
  Relation.ReflTransGen.single (.inl h)

theorem Moves.of_world_eq {s₀ s s' : PassState} (h : s₀.world = s.world) (hm : Moves A s₀ s') :
    Moves A s s' := by
  unfold Moves at *
  rwa [← h]

theorem keeps_moves_of_rgsFixed {α : Type} {m : Pass α} (h : Keeps RGsFixed m) :
    Keeps (Moves A) m :=
  fun s => Moves.of_rgsFixed (h s)

/-- A write call: the allowed write, unless the call fails before reaching the server. -/
theorem Moves.of_write {s s' : PassState} {x : RGWrite} (hx : A s.world x)
    (h : s'.world = if s.faults.headD false then s.world else x.apply s.world) : Moves A s s' := by
  unfold Moves
  rw [h]
  split
  · exact Relation.ReflTransGen.refl
  · exact Relation.ReflTransGen.single (.inr ⟨x, hx, SameRGs.refl _⟩)

/-- A property of the replication groups that every allowed write keeps holds all along the
writes. -/
theorem Moves.keeps {P : World → Prop} (hsame : ∀ w w', SameRGs w w' → P w → P w')
    (hstep : ∀ w x, A w x → P w → P (x.apply w)) {s s' : PassState} (hm : Moves A s s')
    (h : P s.world) : P s'.world := by
  unfold Moves at hm
  generalize s'.world = w' at hm
  induction hm with
  | refl => exact h
  | tail _ hs ih =>
    rcases hs with hs | ⟨x, hx, hs⟩
    · exact hsame _ _ hs ih
    · exact hsame _ _ hs (hstep _ x hx ih)

theorem update_moves {c : Nat} {rg : DellCSIReplicationGroup} (h : ∀ w, A w (.update c rg)) :
    Keeps (Moves A) (Client.update c rg) :=
  fun s => Moves.of_write (h _) (Client.update_world c rg s)

theorem record_moves (e : Effect) : Keeps (Moves A) (Client.record e) :=
  keeps_moves_of_rgsFixed (Client.record_keeps_rgs e)

/-- Action processing writes no replication group but the stamp of the group's action time. -/
theorem processLastActionResult_moves {cfg : Config} {o : Oracle} {c rc : Nat}
    {L : DellCSIReplicationGroup}
    (hstamp : ∀ w t, L.status.lastAction.time = some t →
      A w (.update c (L.annotate actionProcessedTime t))) :
    Keeps (Moves A) (processLastActionResult cfg o c rc L) := by
  unfold processLastActionResult
  dsimp only
  repeat' (first
    | with_reducible exact keeps_moves_of_rgsFixed (processSnapshotEvent_keeps_rgs _ _ _ _ _)
    | with_reducible exact update_moves fun _ => hstamp _ _ ‹_›
    | with_reducible apply keeps_pure
    | split
    | with_reducible refine keeps_bind ?_ fun _ => ?_)

theorem processActions_moves {cfg : Config} {o : Oracle} {c rc : Nat}
    {L : DellCSIReplicationGroup}
    (hstamp : ∀ w t, L.status.lastAction.time = some t →
      A w (.update c (L.annotate actionProcessedTime t))) :
    Keeps (Moves A) (processActions cfg o c rc L) := by
  unfold processActions Client.event
  repeat' (first
    | with_reducible exact processLastActionResult_moves hstamp
    | with_reducible exact record_moves _
    | with_reducible apply keeps_pure
    | split
    | with_reducible refine keeps_bind ?_ fun _ => ?_)

/-! ### The deletion branch -/

theorem removeFinalizer_moves {c : Nat} {L : DellCSIReplicationGroup}
    (h : ∀ w, A w (.update c { L with finalizers := L.finalizers.erase rgFinalizer })) :
    Keeps (Moves A) (removeFinalizer c L) := by
  by_cases hf : rgFinalizer ∈ L.finalizers
  · rw [removeFinalizer_of_mem hf]
    exact keeps_bind (update_moves h) fun _ => keeps_pure _
  · rw [removeFinalizer_of_not_mem hf]
    exact keeps_pure _

theorem requestRemoteDeletion_moves {rc : Nat} {R : DellCSIReplicationGroup} {s : PassState}
    (hR : A s.world (.update rc (R.annotate deletionRequested "yes"))) :
    Moves A s (requestRemoteDeletion rc R s).2 := by
  have h : Moves A s _ := Moves.of_write hR (Client.updateReplicationGroup_world rc _ s)
  simp only [requestRemoteDeletion, Pass.bind_apply]
  cases (Client.updateReplicationGroup rc (R.annotate deletionRequested "yes") s).1 with
  | error => exact h
  | ok u => cases u; exact h

/-- The deletion branch removes `L`'s finalizer, and marks the group `L`'s annotation names on
`rc`, as it stands, when neither has been asked for deletion and `L` does not retain it. -/
theorem handleDeletion_moves {c rc : Nat} {L : DellCSIReplicationGroup} {retentionPolicy : String}
    (hremove : ∀ w, A w (.update c { L with finalizers := L.finalizers.erase rgFinalizer }))
    (hrequest : ∀ w R, L.annotations.has deletionRequested = false →
      toLower retentionPolicy = remoteRetentionValueDelete →
      lookupRG (w rc).rgs (L.annotations.get remoteReplicationGroup) = some R →
      R.annotations.has deletionRequested = false →
      A w (.update rc (R.annotate deletionRequested "yes"))) :
    Keeps (Moves A) (handleDeletion c rc L retentionPolicy) := by
  intro s
  have hrest : ∀ s' : PassState, s'.world = s.world → Moves A s (removeFinalizer c L s').2 :=
    fun s' h => Moves.of_world_eq h (removeFinalizer_moves hremove s')
  rw [handleDeletion_apply]
  split
  · exact removeFinalizer_moves hremove s
  · rename_i hdr
    split
    · split
      · exact refl_of (Moves A) s
      · exact hrest _ rfl
    · rename_i R hR
      have hR' : lookupRG (s.world rc).rgs (L.annotations.get remoteReplicationGroup) = some R := by
        split at hR
        · cases hR
        · exact Cluster.getRG_eq_ok hR
      split
      · rename_i hpol
        split
        · exact refl_of (Moves A) s
        · rename_i hrr
          exact requestRemoteDeletion_moves (s := { s with faults := s.faults.tail })
            (hrequest _ R (by simpa using hdr) hpol hR' (by simpa using hrr))
      · exact hrest _ rfl

end Generic

section Moves

variable (cfg : Config) (o : Oracle) (c rc : Nat) (n : String) (L : DellCSIReplicationGroup)

/-- The writes a pass of cluster `c`'s controller on its group `L`, named `n`, may make when the
world is `w`; `rc` is the cluster `L`'s remote cluster ID reaches. -/
inductive AllowedWrite (w : World) : RGWrite → Prop
  /-- Line 211: the finalizer added to `L`. -/
  | addFinalizer :
    AllowedWrite w (.update c { L with finalizers := L.finalizers ++ [rgFinalizer] })
  /-- Line 202: the finalizer removed from `L`. -/
  | removeFinalizer :
    AllowedWrite w (.update c { L with finalizers := L.finalizers.erase rgFinalizer })
  /-- Lines 184-186: the group `L`'s annotation names on `rc`, marked `DeletionRequested` when
  neither has been asked and `L`, deleting, does not retain its mirror. -/
  | requestDeletion (R : DellCSIReplicationGroup) : L.deleting = true →
    L.annotations.has deletionRequested = false →
    toLower ((L.annotations.lookup remoteRGRetentionPolicy).getD remoteRetentionValueRetain) =
      remoteRetentionValueDelete →
    lookupRG (w rc).rgs (L.annotations.get remoteReplicationGroup) = some R →
    R.annotations.has deletionRequested = false →
    AllowedWrite w (.update rc (R.annotate deletionRequested "yes"))
  /-- Lines 215-218: `L` deleted, once it has been asked for deletion. -/
  | delete : L.annotations.has deletionRequested = true → AllowedWrite w (.delete c L.name)
  /-- Line 288: the mirror created on `rc`. -/
  | create (renamed : Bool) : AllowedWrite w (.create rc (mirrorCandidate cfg o n L renamed))
  /-- Lines 302-307: the mirror's name recorded on `L`, stored as loaded, when a group mirroring
  `L` stands under that name on `rc` or the name is one the pass never creates. -/
  | record (renamed : Bool) : lookupRG (w c).rgs n = some L →
    (∃ M, lookupRG (w rc).rgs (mirrorCandidate cfg o n L renamed).name = some M ∧
        Mirrors (mirrorNaming cfg n L).localClusterID L M) ∨
      contains (mirrorCandidate cfg o n L renamed).name "replicated-replicated" = true →
    AllowedWrite w (.update c (markSynced n L (mirrorCandidate cfg o n L renamed).name))
  /-- Lines 353-354: the last action's time stamped on `L`. -/
  | stamp (time : String) : L.status.lastAction.time = some time →
    AllowedWrite w (.update c (L.annotate actionProcessedTime time))

variable {cfg o c rc n L}

open Pass

theorem delete_moves (h : L.annotations.has deletionRequested = true) :
    Keeps (Moves (AllowedWrite cfg o c rc n L)) (Client.delete c L) :=
  fun s => Moves.of_write (.delete h) (Client.delete_world c L s)

theorem createReplicationGroup_moves (renamed : Bool) :
    Keeps (Moves (AllowedWrite cfg o c rc n L))
      (Client.createReplicationGroup rc (mirrorCandidate cfg o n L renamed)) :=
  fun s => Moves.of_write (.create renamed) (Client.createReplicationGroup_world rc _ s)

/-! ## Each stage writes only what it may -/

theorem removeFinalizer_ne_none (h : rgFinalizer ∈ L.finalizers) (s : PassState) :
    (removeFinalizer c L s).1 ≠ none := by
  rw [removeFinalizer_of_mem h]
  simp

theorem requestRemoteDeletion_ne_none (R : DellCSIReplicationGroup) (s : PassState) :
    (requestRemoteDeletion rc R s).1 ≠ none := by
  simp only [requestRemoteDeletion, Pass.bind_apply]
  obtain ⟨_ | ⟨⟩, _⟩ := Client.updateReplicationGroup rc (R.annotate deletionRequested "yes") s <;>
    simp

/-- The deletion branch falls through only for a group without the finalizer. -/
theorem handleDeletion_none {retentionPolicy : String} {s : PassState}
    (h : (handleDeletion c rc L retentionPolicy s).1 = none) : rgFinalizer ∉ L.finalizers := by
  intro hfin
  rw [handleDeletion_apply] at h
  split at h
  · exact removeFinalizer_ne_none hfin _ h
  · split at h
    · split at h
      · cases h
      · exact removeFinalizer_ne_none hfin _ h
    · split at h
      · split at h
        · cases h
        · exact requestRemoteDeletion_ne_none _ _ h
      · exact removeFinalizer_ne_none hfin _ h

/-- A relation kept by the deletion branch, and by the update that adds the finalizer back when
the branch falls through (line 211), is kept by a pass on a deleting group. -/
theorem reconcileConnected_deleting_keeps {R : PassState → PassState → Prop}
    [IsPreorder PassState R] {naming : MirrorNaming} {remoteRG : DellCSIReplicationGroup}
    (hdel : L.deleting = true) (hd : Keeps R (handleDeletion c rc L
      ((L.annotations.lookup remoteRGRetentionPolicy).getD remoteRetentionValueRetain)))
    (hadd : rgFinalizer ∉ L.finalizers →
      Keeps R (Client.update c { L with finalizers := L.finalizers ++ [rgFinalizer] })) :
    Keeps R (reconcileConnected cfg o c rc n L naming remoteRG) := by
  intro s
  rw [reconcileConnected_of_deleting hdel]
  simp only [Pass.bind_apply]
  have hs := hd s
  have hnone := @handleDeletion_none c rc L
    ((L.annotations.lookup remoteRGRetentionPolicy).getD remoteRetentionValueRetain) s
  generalize handleDeletion c rc L ((L.annotations.lookup remoteRGRetentionPolicy).getD
    remoteRetentionValueRetain) s = p at hs hnone
  obtain ⟨r, s₁⟩ := p
  cases r with
  | some reply => exact hs
  | none =>
    rw [reconcileActive_of_not_mem (hnone rfl)]
    exact trans_of R hs (keeps_bind (hadd (hnone rfl)) (fun _ => keeps_pure _) s₁)

theorem createRemoteRG_moves (remoteClusterID : String) (renamed : Bool) :
    Keeps (Moves (AllowedWrite cfg o c rc n L))
      (createRemoteRG rc remoteClusterID (mirrorCandidate cfg o n L renamed)) := by
  unfold createRemoteRG Client.event
  repeat' (first
    | with_reducible exact createReplicationGroup_moves renamed
    | with_reducible exact record_moves _
    | with_reducible apply keeps_pure
    | split
    | with_reducible refine keeps_bind ?_ fun _ => ?_)

/-- The creation goes on only when the server accepted the mirror, which is then stored under
its name. -/
theorem createRemoteRG_none {remoteClusterID : String} {R : DellCSIReplicationGroup}
    {s : PassState} (h : (createRemoteRG rc remoteClusterID R s).1 = none) :
    ∃ cl, (s.world rc).createRG R = .ok cl ∧
      (createRemoteRG rc remoteClusterID R s).2.world = (RGWrite.create rc R).apply s.world := by
  simp only [createRemoteRG, Pass.bind_apply] at h ⊢
  cases hr : (Client.createReplicationGroup rc R s).1 with
  | error e => simp [hr, Client.event, Client.record] at h
  | ok u =>
    obtain ⟨hf, cl, hcl⟩ := Client.createReplicationGroup_ok hr
    refine ⟨cl, hcl, ?_⟩
    simp only [Client.event, Client.record, Pass.bind_apply, Pass.pure_apply]
    rw [Client.createReplicationGroup_world, hf]
    rfl

theorem recordRemoteRG_moves (renamed : Bool) {s : PassState}
    (hL : lookupRG (s.world c).rgs n = some L)
    (hM : (∃ M, lookupRG (s.world rc).rgs (mirrorCandidate cfg o n L renamed).name = some M ∧
        Mirrors (mirrorNaming cfg n L).localClusterID L M) ∨
      contains (mirrorCandidate cfg o n L renamed).name "replicated-replicated" = true) :
    Moves (AllowedWrite cfg o c rc n L) s
      (recordRemoteRG c n L (mirrorCandidate cfg o n L renamed).name s).2 :=
  Moves.of_write (.record renamed hL hM) (Client.update_world c _ s)

/-- The stage after the lookup, on the verdict it gave for the world it starts in, and with `L`
stored as loaded. -/
theorem syncRemoteRG_moves {createRG rgSyncComplete : Bool} {R : DellCSIReplicationGroup}
    {s : PassState} (hL : lookupRG (s.world c).rgs n = some L)
    (hv : (Verdict.proceed createRG R rgSyncComplete).Spec s.world rc n (mirrorNaming cfg n L)
      (buildRemoteRG cfg o n L (mirrorNaming cfg n L))) :
    Moves (AllowedWrite cfg o c rc n L) s
      (syncRemoteRG cfg o c rc n L createRG R rgSyncComplete s).2 := by
  cases createRG with
  | true =>
    obtain ⟨rfl, hR⟩ := hv
    obtain ⟨renamed, rfl⟩ : ∃ renamed, R = mirrorCandidate cfg o n L renamed :=
      hR.elim (fun h => ⟨false, h.2.2⟩) fun ⟨_, _, _, h⟩ => ⟨true, h⟩
    simp only [syncRemoteRG, if_true, Pass.bind_apply]
    have hc := @createRemoteRG_moves cfg o c rc n L L.spec.remoteClusterId renamed s
    cases hr : (createRemoteRG rc L.spec.remoteClusterId (mirrorCandidate cfg o n L renamed) s).1
    · obtain ⟨cl, hcl, hw⟩ := createRemoteRG_none hr
      refine trans_of (Moves (AllowedWrite cfg o c rc n L)) hc (recordRemoteRG_moves renamed ?_ ?_)
      · rw [hw]
        exact RGWrite.lookup_apply_create hL
      · rw [hw, RGWrite.lookup_apply_create_self hcl]
        exact .inl ⟨_, rfl, (mirrors_mirrorCandidate cfg o n L renamed).of_spec_eq rfl⟩
    · exact hc
  | false =>
    obtain ⟨rfl, rfl, hM⟩ := hv
    simp only [syncRemoteRG, Bool.false_eq_true, if_false, Pass.bind_apply]
    cases hs : (mirrorNaming cfg n L).rgSyncComplete
    · refine recordRemoteRG_moves false hL ?_
      rcases hM with ⟨M, hM, hag⟩ | ⟨-, -, hrr⟩
      · exact .inl ⟨M, hM, hag⟩
      · exact .inr hrr
    · exact processActions_moves (fun _ t ht => .stamp t ht) s

theorem reconcileActive_moves {s : PassState}
    (hL : rgFinalizer ∈ L.finalizers → lookupRG (s.world c).rgs n = some L) :
    Moves (AllowedWrite cfg o c rc n L) s (reconcileActive cfg o c rc n L (mirrorNaming cfg n L)
      (buildRemoteRG cfg o n L (mirrorNaming cfg n L)) s).2 := by
  by_cases h : rgFinalizer ∈ L.finalizers
  · rw [reconcileActive_of_mem h]
    split
    · exact keeps_bind (delete_moves ‹_›) (fun _ => keeps_pure _) s
    · simp only [Pass.bind_apply]
      have hspec := verifyRemoteRG_spec rc n L.spec.remoteClusterId (mirrorNaming cfg n L)
        (buildRemoteRG cfg o n L (mirrorNaming cfg n L)) s
      have hfix := verifyRemoteRG_keeps_rgs rc n L.spec.remoteClusterId (mirrorNaming cfg n L)
        (buildRemoteRG cfg o n L (mirrorNaming cfg n L)) s
      generalize verifyRemoteRG rc n L.spec.remoteClusterId (mirrorNaming cfg n L)
        (buildRemoteRG cfg o n L (mirrorNaming cfg n L)) s = p at hspec hfix
      obtain ⟨v, s₁⟩ := p
      have hfix' : ∀ d, (s₁.world d).rgs = (s.world d).rgs := hfix
      cases v with
      | stop => exact Moves.of_rgsFixed hfix
      | proceed createRG R rgSyncComplete =>
        refine trans_of (Moves (AllowedWrite cfg o c rc n L)) (Moves.of_rgsFixed hfix)
          (syncRemoteRG_moves (by rw [hfix']; exact hL h) ?_)
        simpa only [Verdict.Spec, hfix'] using hspec
  · rw [reconcileActive_of_not_mem h]
    exact keeps_bind (update_moves fun _ => .addFinalizer) (fun _ => keeps_pure _) s

theorem reconcileConnected_moves {s : PassState} (hL : lookupRG (s.world c).rgs n = some L) :
    Moves (AllowedWrite cfg o c rc n L) s (reconcileConnected cfg o c rc n L
      (mirrorNaming cfg n L) (buildRemoteRG cfg o n L (mirrorNaming cfg n L)) s).2 := by
  cases hdel : L.deleting
  · rw [reconcileConnected_of_not_deleting hdel]
    exact reconcileActive_moves fun _ => hL
  · exact reconcileConnected_deleting_keeps hdel
      (handleDeletion_moves (fun _ => .removeFinalizer)
        fun _ R hdr hpol hR hRdr => .requestDeletion R hdel hdr hpol hR hRdr)
      (fun _ => update_moves fun _ => .addFinalizer) s

end Moves

/-- Every pass either writes no replication group, or loads a group `L` whose remote cluster ID
reaches some cluster `rc` and writes only what a pass on `L` may. -/
theorem reconcile_moves (cfg : Config) (o : Oracle) (c : Nat) (n : String) (s : PassState) :
    RGsFixed s (reconcile cfg o c n s).2 ∨
      ∃ L rc, lookupRG (s.world c).rgs n = some L ∧
        cfg.connection L.spec.remoteClusterId = some rc ∧
        Moves (AllowedWrite cfg o c rc n L) s (reconcile cfg o c n s).2 := by
  rcases reconcile_connects cfg o c n s with ⟨hw, -⟩ | ⟨L, rc, s₁, hL, hrc, hw, -, heq⟩
  · exact .inl fun d => by rw [hw]
  · rw [heq]
    exact .inr ⟨L, rc, hL, hrc, Moves.of_world_eq hw (reconcileConnected_moves (hw ▸ hL))⟩

/-- A relation that holds across a pass that writes and logs nothing, and across each pass on
the group `L` once its remote cluster is reached, holds across every pass on `L`. -/
theorem reconcile_keeps_of_connected {R : PassState → PassState → Prop} [IsPreorder PassState R]
    (hread : ∀ s s' : PassState, s'.world = s.world → s'.log = s.log → R s s') {cfg : Config}
    {o : Oracle} {c : Nat} {n : String} {s : PassState} {L : DellCSIReplicationGroup}
    (hL : lookupRG (s.world c).rgs n = some L)
    (hconn : ∀ rc, Pass.Keeps R (reconcileConnected cfg o c rc n L (mirrorNaming cfg n L)
      (buildRemoteRG cfg o n L (mirrorNaming cfg n L)))) :
    R s (reconcile cfg o c n s).2 := by
  rcases reconcile_connects cfg o c n s with ⟨hw, hl⟩ | ⟨L', rc, s₁, hL', -, hw, hl, heq⟩
  · exact hread _ _ hw hl
  · obtain rfl : L' = L := Option.some.inj (hL'.symm.trans hL)
    rw [heq]
    exact trans_of R (hread _ _ hw hl) (hconn rc s₁)

end CsmReplication
