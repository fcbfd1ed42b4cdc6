import CsmReplication.Controller.Writes

/-!
# What a pass logs

The log records every write with the server's answer, every event, and each entry into
`processSnapshotEvent` with the group it processes. `LogsOnly E` (the frame relation of
`Controller.Frame`) bounds what a stage appends; a stage appends what its client calls append, so
each stage is split along its binds and branches down to the calls, as for `RGsFixed`.

The action processor enters `processSnapshotEvent` only for a group whose `ActionProcessedTime`
annotation is set and differs from its last action's time (lines 321-355): a group whose
annotation is absent or equal to that time is `Quiet`; one with no condition or a failed last
action, or a quiet one, is `Idle`, and processing it is pure. Every other
stage logs writes and events only, so the entries a pass on the group `n` of cluster `c` makes
into the snapshot workflow are all for `(c, n)`.
-/

namespace CsmReplication

/-! ## Kinds of entries -/

namespace Effect

/-- A write to a replication group. -/
def writesRG : Effect → Bool
  | .update .. | .delete .. | .createReplicationGroup .. | .updateReplicationGroup .. => true
  | _ => false

/-- An entry into `processSnapshotEvent`. -/
def isMarker : Effect → Bool
  | .snapshotEventProcessed .. => true
  | _ => false

/-- An event on the local group. -/
def isEvent : Effect → Bool
  | .event .. => true
  | _ => false

end Effect

/-! ## Client calls -/

namespace Client

open Pass

variable {E : Effect → Prop}

theorem logged_keeps_log {w : Pass (Except ApiError Unit)} {e : Except ApiError Unit → Effect}
    (hw : Keeps (LogsOnly E) w) (he : ∀ r, E (e r)) :
    Keeps (LogsOnly E) (do let r ← w; record (e r); return r) :=
  keeps_bind hw fun r => keeps_bind (record_keeps_log (he r)) fun _ => keeps_pure _

theorem update_logs {d : Nat} {rg : DellCSIReplicationGroup} (h : ∀ r, E (.update d rg r)) :
    Keeps (LogsOnly E) (update d rg) :=
  logged_keeps_log (write_keeps_log _ _) h

theorem delete_logs {d : Nat} {rg : DellCSIReplicationGroup}
    (h : ∀ r, E (.delete d rg.name r)) : Keeps (LogsOnly E) (delete d rg) :=
  logged_keeps_log (write_keeps_log _ _) h

theorem createReplicationGroup_logs {d : Nat} {rg : DellCSIReplicationGroup}
    (h : ∀ r, E (.createReplicationGroup d rg r)) :
    Keeps (LogsOnly E) (createReplicationGroup d rg) :=
  logged_keeps_log (write_keeps_log _ _) h

theorem updateReplicationGroup_logs {d : Nat} {rg : DellCSIReplicationGroup}
    (h : ∀ r, E (.updateReplicationGroup d rg r)) :
    Keeps (LogsOnly E) (updateReplicationGroup d rg) :=
  logged_keeps_log (write_keeps_log _ _) h

theorem now_keeps_log : Keeps (LogsOnly E) now := by
  intro s
  exact refl_of (LogsOnly E) s

section Snapshot

-- `hE`: `E` takes every entry but the writes to replication groups and the markers.
variable (hE : ∀ e, e.writesRG = false → e.isMarker = false → E e)
include hE

theorem event_logs (eventType reason message : String) :
    Keeps (LogsOnly E) (event eventType reason message) :=
  record_keeps_log (hE _ rfl rfl)

theorem createNamespace_logs (d : Nat) (ns : Namespace) :
    Keeps (LogsOnly E) (createNamespace d ns) :=
  logged_keeps_log (write_keeps_log _ _) fun _ => hE _ rfl rfl

theorem createSnapshotClass_logs (d : Nat) (sc : VolumeSnapshotClass) :
    Keeps (LogsOnly E) (createSnapshotClass d sc) :=
  logged_keeps_log (write_keeps_log _ _) fun _ => hE _ rfl rfl

theorem createSnapshotContent_logs (d : Nat) (content : VolumeSnapshotContent) :
    Keeps (LogsOnly E) (createSnapshotContent d content) :=
  logged_keeps_log (write_keeps_log _ _) fun _ => hE _ rfl rfl

theorem createSnapshotObject_logs (d : Nat) (snapshot : VolumeSnapshot) :
    Keeps (LogsOnly E) (createSnapshotObject d snapshot) :=
  logged_keeps_log (write_keeps_log _ _) fun _ => hE _ rfl rfl

theorem createPersistentVolumeClaim_logs (d : Nat) (pvc : PersistentVolumeClaim) :
    Keeps (LogsOnly E) (createPersistentVolumeClaim d pvc) :=
  logged_keeps_log (write_keeps_log _ _) fun _ => hE _ rfl rfl

end Snapshot

end Client

/-! ## The snapshot materializer -/

open Pass Client

section Snapshot

variable {E : Effect → Prop}

-- `hE`: `E` takes every entry but the writes to replication groups and the markers.
variable (hE : ∀ e, e.writesRG = false → e.isMarker = false → E e)
include hE

theorem snapshotCalls_logsOnly : SnapshotCalls (LogsOnly E) where
  read := read_keeps_log
  now := now_keeps_log
  createNamespace := Client.createNamespace_logs hE
  createSnapshotClass := Client.createSnapshotClass_logs hE
  createSnapshotContent := Client.createSnapshotContent_logs hE
  createSnapshotObject := Client.createSnapshotObject_logs hE
  createPersistentVolumeClaim := Client.createPersistentVolumeClaim_logs hE

/-- `processSnapshotEvent` logs its marker, then only the remote cluster's snapshot objects. -/
theorem processSnapshotEvent_body (cfg : Config) (o : Oracle) (c rc : Nat)
    (group : DellCSIReplicationGroup) :
    ∃ body : Unit → Pass Outcome, processSnapshotEvent cfg o c rc group =
      record (.snapshotEventProcessed c group.name) >>= body ∧ ∀ u, Keeps (LogsOnly E) (body u) :=
  (snapshotCalls_logsOnly hE).processSnapshotEvent_shape cfg o c rc group

theorem processSnapshotEvent_logs (cfg : Config) (o : Oracle) (c rc : Nat)
    (group : DellCSIReplicationGroup) (hm : E (.snapshotEventProcessed c group.name)) :
    Keeps (LogsOnly E) (processSnapshotEvent cfg o c rc group) := by
  obtain ⟨body, heq, hbody⟩ := processSnapshotEvent_body hE cfg o c rc group
  rw [heq]
  exact keeps_bind (record_keeps_log hm) hbody

/-- Action processing logs the snapshot workflow's entries, events and the stamp of the action
time on the group. -/
theorem processActions_logs (cfg : Config) (o : Oracle) (c rc : Nat)
    (group : DellCSIReplicationGroup) (hm : E (.snapshotEventProcessed c group.name))
    (hstamp : ∀ t r, group.status.lastAction.time = some t →
      E (.update c (group.annotate actionProcessedTime t) r)) :
    Keeps (LogsOnly E) (processActions cfg o c rc group) := by
  unfold processActions processLastActionResult
  dsimp only
  repeat' (first
    | with_reducible exact processSnapshotEvent_logs hE _ _ _ _ _ hm
    | with_reducible exact update_logs fun r => hstamp _ r ‹_›
    | with_reducible exact event_logs hE _ _ _
    | with_reducible apply keeps_pure
    | split
    | with_reducible refine keeps_bind ?_ fun _ => ?_)

end Snapshot

/-! ## Where a pass enters the snapshot workflow -/

/-- An entry other than a marker. -/
def NoMarker (e : Effect) : Prop :=
  e.isMarker = false

/-- `processSnapshotEvent` logs its marker first, and no marker after it. -/
theorem processSnapshotEvent_enters (cfg : Config) (o : Oracle) (c rc : Nat)
    (group : DellCSIReplicationGroup) (s : PassState) :
    ∃ es, (processSnapshotEvent cfg o c rc group s).2.log =
      s.log ++ .snapshotEventProcessed c group.name :: es ∧ ∀ e ∈ es, NoMarker e := by
  obtain ⟨body, heq, hbody⟩ :=
    processSnapshotEvent_body (E := NoMarker) (fun _ _ h => h) cfg o c rc group
  obtain ⟨es, hes, hno⟩ := hbody () (record (.snapshotEventProcessed c group.name) s).2
  refine ⟨es, ?_, hno⟩
  rw [heq, Pass.bind_apply, hes]
  simp [record_apply]

section Deletion

variable {E : Effect → Prop}

theorem removeFinalizer_logs (c : Nat) (L : DellCSIReplicationGroup)
    (h : ∀ r, E (.update c { L with finalizers := L.finalizers.erase rgFinalizer } r)) :
    Keeps (LogsOnly E) (removeFinalizer c L) := by
  by_cases hf : rgFinalizer ∈ L.finalizers
  · rw [removeFinalizer_of_mem hf]
    exact keeps_bind (update_logs h) fun _ => keeps_pure _
  · rw [removeFinalizer_of_not_mem hf]
    exact keeps_pure _

/-- The deletion branch logs the removal of the finalizer and the remote group's update. -/
theorem handleDeletion_logs (c rc : Nat) (L : DellCSIReplicationGroup) (retentionPolicy : String)
    (hupd : ∀ r, E (.update c { L with finalizers := L.finalizers.erase rgFinalizer } r))
    (hreq : ∀ (R : DellCSIReplicationGroup) r,
      E (.updateReplicationGroup rc (R.annotate deletionRequested "yes") r)) :
    Keeps (LogsOnly E) (handleDeletion c rc L retentionPolicy) := by
  unfold handleDeletion getReplicationGroup
  repeat' (first
    | with_reducible exact removeFinalizer_logs _ _ hupd
    | with_reducible exact read_keeps_log _ _
    | with_reducible exact updateReplicationGroup_logs (hreq _)
    | with_reducible apply keeps_pure
    | split
    | with_reducible refine keeps_bind ?_ fun _ => ?_)

end Deletion

section Stages

variable {E : Effect → Prop}

-- `hE`: `E` takes every entry but the markers.
variable (hE : ∀ e, e.isMarker = false → E e)
include hE

theorem verifyRemoteRG_logs (rc : Nat) (localRGName remoteClusterID : String)
    (naming : MirrorNaming) (remoteRG : DellCSIReplicationGroup) :
    Keeps (LogsOnly E) (verifyRemoteRG rc localRGName remoteClusterID naming remoteRG) := by
  unfold verifyRemoteRG getReplicationGroup
  repeat' (first
    | with_reducible exact read_keeps_log _ _
    | with_reducible exact event_logs (fun e _ => hE e) _ _ _
    | with_reducible apply keeps_pure
    | split
    | with_reducible refine keeps_bind ?_ fun _ => ?_)

theorem createRemoteRG_logs (rc : Nat) (remoteClusterID : String)
    (remoteRG : DellCSIReplicationGroup) :
    Keeps (LogsOnly E) (createRemoteRG rc remoteClusterID remoteRG) := by
  have hcreate : Keeps (LogsOnly E) (createReplicationGroup rc remoteRG) :=
    createReplicationGroup_logs fun _ => hE _ rfl
  unfold createRemoteRG
  repeat' (first
    | with_reducible exact hcreate
    | with_reducible exact event_logs (fun e _ => hE e) _ _ _
    | with_reducible apply keeps_pure
    | split
    | with_reducible refine keeps_bind ?_ fun _ => ?_)

theorem recordRemoteRG_logs (c : Nat) (localRGName : String) (L : DellCSIReplicationGroup)
    (remoteRGName : String) : Keeps (LogsOnly E) (recordRemoteRG c localRGName L remoteRGName) :=
  keeps_bind (update_logs fun _ => hE _ rfl) fun _ => keeps_pure _

end Stages

section HandsOver

variable {cfg : Config} {o : Oracle} {c rc : Nat} {n : String} {L : DellCSIReplicationGroup}

/-- The pass from `s` ending as `p` entered no snapshot workflow, or handed over to the action
processing of `L`, still stored under `n` on `c`, from a state reached without entering one. -/
def HandsOver (cfg : Config) (o : Oracle) (c rc : Nat) (n : String) (L : DellCSIReplicationGroup)
    (s : PassState) (p : Reply × PassState) : Prop :=
  LogsOnly NoMarker s p.2 ∨ ∃ s₁, LogsOnly NoMarker s s₁ ∧ lookupRG (s₁.world c).rgs n = some L ∧
    p = processActions cfg o c rc L s₁

theorem HandsOver.of_prefix {s s' : PassState} {p : Reply × PassState}
    (h₁ : LogsOnly NoMarker s s') (h₂ : HandsOver cfg o c rc n L s' p) :
    HandsOver cfg o c rc n L s p := by
  rcases h₂ with h | ⟨s₁, h, hL, rfl⟩
  · exact .inl (trans_of (LogsOnly NoMarker) h₁ h)
  · exact .inr ⟨s₁, trans_of (LogsOnly NoMarker) h₁ h, hL, rfl⟩

theorem syncRemoteRG_handsOver {createRG rgSyncComplete : Bool} {R : DellCSIReplicationGroup}
    {s : PassState} (hL : lookupRG (s.world c).rgs n = some L) :
    HandsOver cfg o c rc n L s (syncRemoteRG cfg o c rc n L createRG R rgSyncComplete s) := by
  have hrest : ∀ s', lookupRG (s'.world c).rgs n = some L →
      HandsOver cfg o c rc n L s' (syncRemoteRG cfg o c rc n L false R rgSyncComplete s') := by
    intro s' hL'
    cases rgSyncComplete
    · exact .inl (recordRemoteRG_logs (fun _ h => h) c n L R.name s')
    · exact .inr ⟨s', refl_of (LogsOnly NoMarker) s', hL', rfl⟩
  cases createRG with
  | false => exact hrest s hL
  | true =>
    simp only [syncRemoteRG, if_true, Pass.bind_apply]
    have hlog := createRemoteRG_logs (fun _ h => h) rc L.spec.remoteClusterId R s
    cases hr : (createRemoteRG rc L.spec.remoteClusterId R s).1 with
    | some reply => exact .inl hlog
    | none =>
      obtain ⟨-, -, hw⟩ := createRemoteRG_none hr
      refine HandsOver.of_prefix hlog (hrest _ ?_)
      rw [hw]
      exact RGWrite.lookup_apply_create hL

theorem reconcileActive_handsOver {naming : MirrorNaming} {remoteRG : DellCSIReplicationGroup}
    {s : PassState} (hL : lookupRG (s.world c).rgs n = some L) :
    HandsOver cfg o c rc n L s (reconcileActive cfg o c rc n L naming remoteRG s) := by
  by_cases h : rgFinalizer ∈ L.finalizers
  · rw [reconcileActive_of_mem h]
    split
    · exact .inl (keeps_bind (delete_logs (E := NoMarker) fun _ => rfl) (fun _ => keeps_pure _) s)
    · simp only [Pass.bind_apply]
      have hfix := verifyRemoteRG_keeps_rgs rc n L.spec.remoteClusterId naming remoteRG s
      have hlog := verifyRemoteRG_logs (fun _ h => h) rc n L.spec.remoteClusterId naming remoteRG s
      generalize verifyRemoteRG rc n L.spec.remoteClusterId naming remoteRG s = p at hfix hlog
      obtain ⟨v, s₁⟩ := p
      have hfix' : ∀ d, (s₁.world d).rgs = (s.world d).rgs := hfix
      cases v with
      | stop => exact .inl hlog
      | proceed createRG R rgSyncComplete =>
        exact HandsOver.of_prefix hlog (syncRemoteRG_handsOver (by rw [hfix']; exact hL))
  · rw [reconcileActive_of_not_mem h]
    exact .inl (keeps_bind (update_logs (E := NoMarker) fun _ => rfl) (fun _ => keeps_pure _) s)

theorem reconcileConnected_handsOver {naming : MirrorNaming} {remoteRG : DellCSIReplicationGroup}
    {s : PassState} (hL : lookupRG (s.world c).rgs n = some L) :
    HandsOver cfg o c rc n L s (reconcileConnected cfg o c rc n L naming remoteRG s) := by
  cases hdel : L.deleting
  · rw [reconcileConnected_of_not_deleting hdel]
    exact reconcileActive_handsOver hL
  · exact .inl (reconcileConnected_deleting_keeps hdel
      (handleDeletion_logs c rc L _ (E := NoMarker) (fun _ => rfl) fun _ _ => rfl)
      (fun _ => update_logs (E := NoMarker) fun _ => rfl) s)

/-- A pass enters no snapshot workflow, or ends as the action processing of the group it loaded,
entered while that group is stored as loaded. -/
theorem reconcile_handsOver (cfg : Config) (o : Oracle) (c : Nat) (n : String) (s : PassState) :
    LogsOnly NoMarker s (reconcile cfg o c n s).2 ∨
      ∃ L rc s₁, lookupRG (s.world c).rgs n = some L ∧ LogsOnly NoMarker s s₁ ∧
        lookupRG (s₁.world c).rgs n = some L ∧
        reconcile cfg o c n s = processActions cfg o c rc L s₁ := by
  rcases reconcile_connects cfg o c n s with ⟨-, hl⟩ | ⟨L, rc, s₁, hL, -, hw, hl, heq⟩
  · exact .inl (LogsOnly.of_log_eq hl)
  · rw [heq]
    rcases reconcileConnected_handsOver (s := s₁) (hw ▸ hL) with h | ⟨s₂, h, hL₂, heq₂⟩
    · exact .inl (trans_of (LogsOnly NoMarker) (LogsOnly.of_log_eq hl) h)
    · exact .inr ⟨L, rc, s₂, hL, trans_of (LogsOnly NoMarker) (LogsOnly.of_log_eq hl) h, hL₂, heq₂⟩

end HandsOver

/-! ## Quiet groups -/

/-- The guard of lines 337-345: the group's action has been processed, or there is none to
process. -/
def Quiet (group : DellCSIReplicationGroup) : Prop :=
  group.status.lastAction.time = none ∨ group.annotations.lookup actionProcessedTime = none ∨
    group.annotations.lookup actionProcessedTime = group.status.lastAction.time

instance (group : DellCSIReplicationGroup) : Decidable (Quiet group) :=
  inferInstanceAs (Decidable (_ ∨ _ ∨ _))

/-- Lines 325-345: the group's last action is due: there is one, it did not fail, and the group
was stamped before, with another time. -/
def Due (group : DellCSIReplicationGroup) (time : String) : Prop :=
  group.status.conditions ≠ [] ∧ group.status.lastAction.time = some time ∧
    group.status.lastAction.errorMessage = "" ∧
    ∃ val, group.annotations.lookup actionProcessedTime = some val ∧ val ≠ time

theorem Due.not_quiet {group : DellCSIReplicationGroup} {time : String} (h : Due group time) :
    ¬Quiet group := by
  obtain ⟨-, ht, -, val, hv, hne⟩ := h
  rintro (h | h | h)
  · simp [ht] at h
  · simp [hv] at h
  · simp [hv, ht] at h
    exact hne h

/-- The guards of lines 325-345 return at once: there is no condition, the last action failed,
or the group is quiet. -/
def Idle (group : DellCSIReplicationGroup) : Prop :=
  group.status.conditions = [] ∨ group.status.lastAction.errorMessage ≠ "" ∨ Quiet group

instance (group : DellCSIReplicationGroup) : Decidable (Idle group) :=
  inferInstanceAs (Decidable (_ ∨ _ ∨ _))

theorem Quiet.idle {group : DellCSIReplicationGroup} (h : Quiet group) : Idle group :=
  .inr (.inr h)

/-- The stamp of the action's time processes it. -/
theorem quiet_stamp {group : DellCSIReplicationGroup} {t : String}
    (ht : group.status.lastAction.time = some t) : Quiet (group.annotate actionProcessedTime t) :=
  .inr (.inr (by simp [ht]))

/-- A group is idle exactly when its last action is due for no time. -/
theorem idle_iff_not_due {group : DellCSIReplicationGroup} :
    Idle group ↔ ∀ time, ¬Due group time := by
  constructor
  · rintro (h | h | h) time ⟨hc, ht, he, hdue⟩
    · exact hc h
    · exact h he
    · exact Due.not_quiet ⟨hc, ht, he, hdue⟩ h
  · intro h
    by_contra hidle
    simp only [Idle, Quiet, not_or, ne_eq, not_not] at hidle
    obtain ⟨hc, he, ht, hv, hvt⟩ := hidle
    obtain ⟨time, ht'⟩ := Option.ne_none_iff_exists'.1 ht
    obtain ⟨val, hv'⟩ := Option.ne_none_iff_exists'.1 hv
    exact h time ⟨hc, ht', he, val, hv', fun hval => hvt (by rw [hv', ht', hval])⟩

/-- The action processor returns at once, or processes a due action and then stamps its time,
unless the processing panicked. -/
theorem processLastActionResult_cases (cfg : Config) (o : Oracle) (c rc : Nat)
    (group : DellCSIReplicationGroup) :
    (∃ r, processLastActionResult cfg o c rc group = pure r) ∨
      ∃ time, Due group time ∧ processLastActionResult cfg o c rc group =
        (if contains group.status.lastAction.condition "CREATE_SNAPSHOT" then
          processSnapshotEvent cfg o c rc group else pure .ok) >>= fun outcome =>
        match outcome with
        | .panic => pure .panic
        | _ =>
          Client.update c (group.annotate actionProcessedTime time) >>= fun _ => pure outcome := by
  unfold processLastActionResult
  dsimp only
  split
  · exact .inl ⟨_, rfl⟩
  · exact .inl ⟨_, rfl⟩
  · rename_i time hcond htime
    by_cases herr : group.status.lastAction.errorMessage ≠ ""
    · exact .inl ⟨_, if_pos herr⟩
    · rw [if_neg herr]
      split
      · exact .inl ⟨_, rfl⟩
      · rename_i val hval
        by_cases hvt : val = time
        · exact .inl ⟨_, if_pos hvt⟩
        · refine .inr ⟨time, ⟨by simp [hcond], htime, not_not.1 herr, val, hval, hvt⟩, ?_⟩
          rw [if_neg hvt]
          split <;> rfl

/-- On an idle group the action processor returns at once. -/
theorem processLastActionResult_of_idle (cfg : Config) (o : Oracle) (c rc : Nat)
    {group : DellCSIReplicationGroup} (hi : Idle group) :
    ∃ r, processLastActionResult cfg o c rc group = pure r :=
  (processLastActionResult_cases cfg o c rc group).resolve_right
    fun ⟨time, hdue, _⟩ => idle_iff_not_due.1 hi time hdue

/-- On an idle group, action processing logs at most an event and changes nothing else. -/
theorem processActions_of_idle (cfg : Config) (o : Oracle) (c rc : Nat)
    {group : DellCSIReplicationGroup} (hi : Idle group) (s : PassState) :
    (processActions cfg o c rc group s).2.world = s.world ∧
      LogsOnly (fun e => e.isEvent = true) s (processActions cfg o c rc group s).2 := by
  obtain ⟨r, hr⟩ := processLastActionResult_of_idle cfg o c rc hi
  simp only [processActions, hr, Pass.pure_bind]
  cases r
  · exact ⟨rfl, refl_of (LogsOnly _) s⟩
  · exact ⟨rfl, record_keeps_log (E := fun e => e.isEvent = true) (e := .event _ _ _) rfl s⟩
  · exact ⟨rfl, refl_of (LogsOnly _) s⟩

end CsmReplication
