import CsmReplication.Controller.Log
import CsmReplication.Properties.Snapshots

/-!
# Snapshot contents are named apart

`makeVolSnapContent` (lines 548-564) names a snapshot content `volume-<volume handle>-<time>`,
the time being the clock's Unix reading in decimal. A non-negative reading has no `-`, so the
last `-` of the name ends the volume handle, and the name gives back both the handle and the
reading.

One invocation of `processSnapshotEvent` creates at most one content per pair of the action
(lines 440-447), and the pairs' volume handles are the distinct keys of a map. So whatever
non-negative readings the clock gives, equal ones included, no two contents an invocation creates
share a name. A negative reading, of a clock set before 1970, would start with a `-` of its
own.
-/

namespace CsmReplication

open Pass

/-! ## The name of a content -/

theorem makeVolSnapContent_name (snapName volumeName : String) (snapRef : ObjectReference)
    (sc : VolumeSnapshotClass) (now : Int) :
    (makeVolSnapContent snapName volumeName snapRef sc now).name =
      "volume-" ++ volumeName ++ "-" ++ formatInt now :=
  rfl

/-- A content's name, as text: the handle, then a `-`, then the reading. -/
theorem contentName_data (volumeName : String) (now : Int) :
    ("volume-" ++ volumeName ++ "-" ++ formatInt now).data =
      ("volume-".data ++ volumeName.data) ++ '-' :: (formatInt now).data := by
  simp only [String.data_append, List.append_assoc]
  rfl

/-- The name of a content made at a non-negative reading gives back its handle and the
reading. -/
theorem contentName_inj {v₁ v₂ : String} {t₁ t₂ : Int} (h₁ : 0 ≤ t₁) (h₂ : 0 ≤ t₂)
    (h : "volume-" ++ v₁ ++ "-" ++ formatInt t₁ = "volume-" ++ v₂ ++ "-" ++ formatInt t₂) :
    v₁ = v₂ ∧ t₁ = t₂ := by
  have hdata := congrArg String.data h
  rw [contentName_data, contentName_data] at hdata
  obtain ⟨hv, ht⟩ :=
    append_cons_inj_of_not_mem (dash_not_mem_formatInt h₁) (dash_not_mem_formatInt h₂) hdata
  exact ⟨String.ext (List.append_cancel_left hv), formatInt_inj h₁ h₂ ht⟩

/-! ## The log of contents -/

/-- The name of the snapshot content a log entry creates, if it creates one. -/
def Effect.contentName : Effect → Option String
  | .createSnapshotContent _ content _ => some content.name
  | _ => none

/-- The names of the snapshot contents whose creation the entries `es` record, in order. -/
def contentNames (es : List Effect) : List String :=
  es.filterMap Effect.contentName

theorem contentNames_append (es₁ es₂ : List Effect) :
    contentNames (es₁ ++ es₂) = contentNames es₁ ++ contentNames es₂ :=
  List.filterMap_append _ _ _

/-- A stage that creates no snapshot content and does not read the clock. -/
def NoContent (s s' : PassState) : Prop :=
  LogsOnly (fun e => e.contentName = none) s s' ∧ ClockKept s s'

instance : IsPreorder PassState NoContent where
  refl s := ⟨refl_of (LogsOnly _) s, refl_of ClockKept s⟩
  trans _ _ _ h₁ h₂ := ⟨trans_of (LogsOnly _) h₁.1 h₂.1, trans_of ClockKept h₁.2 h₂.2⟩

theorem NoContent.contentNames {s s' : PassState} (h : NoContent s s') :
    ∃ es, s'.log = s.log ++ es ∧ contentNames es = [] := by
  obtain ⟨⟨es, hes, hno⟩, -⟩ := h
  exact ⟨es, hes, List.filterMap_eq_nil_iff.2 hno⟩

theorem keeps_noContent {α : Type} {m : Pass α}
    (hl : Keeps (LogsOnly fun e => e.contentName = none) m) (hc : Keeps ClockKept m) :
    Keeps NoContent m :=
  fun s => ⟨hl s, hc s⟩

/-- A logged write that creates no content. -/
theorem logged_keeps_noContent {d : Nat} {op : Cluster → Except ApiError Cluster}
    {e : Except ApiError Unit → Effect} (he : ∀ r, (e r).contentName = none) :
    Keeps NoContent (do let r ← Client.write d op; Client.record (e r); return r) :=
  keeps_noContent (Client.logged_keeps_log (Client.write_keeps_log _ _) he)
    (Client.logged_keeps_clock (Client.write_keeps_clock _ _))

/-- Setting up the snapshots creates no content and does not read the clock. -/
theorem setupCalls_noContent : SetupCalls NoContent where
  read d op := keeps_noContent (Client.read_keeps_log d op) (Client.read_keeps_clock d op)
  createNamespace _ _ := logged_keeps_noContent fun _ => rfl
  createSnapshotClass _ _ := logged_keeps_noContent fun _ => rfl

/-! ## One pair -/

/-- One pair's iteration reads the clock once and creates one content, named from the pair's
volume handle and that reading. -/
theorem snapshotPair_contents (rc : Nat) (shouldCreatePvc : Bool) (storageClass : String)
    (sc : VolumeSnapshotClass) (ns volumeHandle snapshotHandle : String)
    (pvc : Option PersistentVolumeClaim) (s : PassState) :
    ∃ es, (snapshotPair rc shouldCreatePvc storageClass sc ns volumeHandle snapshotHandle pvc
        s).2.log = s.log ++ es ∧
      contentNames es = ["volume-" ++ volumeHandle ++ "-" ++ formatInt (s.clock.headD 0)] ∧
      (snapshotPair rc shouldCreatePvc storageClass sc ns volumeHandle snapshotHandle pvc
        s).2.clock = s.clock.tail := by
  obtain ⟨rest, heq, hrest⟩ : ∃ rest : Int → Except ApiError Unit → Pass (Option Error),
      snapshotPair rc shouldCreatePvc storageClass sc ns volumeHandle snapshotHandle pvc =
        (Client.now >>= fun t => Client.createSnapshotContent rc
          (makeVolSnapContent snapshotHandle volumeHandle (makeSnapReference snapshotHandle ns)
            sc t) >>= rest t) ∧
      ∀ t r, Keeps NoContent (rest t r) := by
    have hsnapshot : ∀ d snapshot, Keeps NoContent (Client.createSnapshotObject d snapshot) :=
      fun _ _ => logged_keeps_noContent fun _ => rfl
    have hclaim : ∀ d pvc, Keeps NoContent (Client.createPersistentVolumeClaim d pvc) :=
      fun _ _ => logged_keeps_noContent fun _ => rfl
    refine ⟨_, rfl, fun _ _ => ?_⟩
    unfold Client.getStorageClass
    repeat' (first
      | with_reducible exact setupCalls_noContent.read _ _
      | with_reducible exact hsnapshot _ _
      | with_reducible exact hclaim _ _
      | with_reducible apply keeps_pure
      | split
      | with_reducible refine keeps_bind ?_ fun _ => ?_)
  set content := makeVolSnapContent snapshotHandle volumeHandle
    (makeSnapReference snapshotHandle ns) sc (s.clock.headD 0)
  set p := Client.createSnapshotContent rc content { s with clock := s.clock.tail }
  have hrun : snapshotPair rc shouldCreatePvc storageClass sc ns volumeHandle snapshotHandle pvc s =
      rest (s.clock.headD 0) p.1 p.2 := by
    rw [heq]
    rfl
  have hp : p.2.log = s.log ++ [.createSnapshotContent rc content p.1] :=
    Client.logged_log _ _ _ _
  obtain ⟨⟨es, hes, hno⟩, hclock⟩ := hrest (s.clock.headD 0) p.1 p.2
  refine ⟨.createSnapshotContent rc content p.1 :: es, ?_, ?_, ?_⟩
  · rw [hrun, hes, hp, List.append_assoc]
    rfl
  · simp only [contentNames, List.filterMap_cons, Effect.contentName,
      List.filterMap_eq_nil_iff.2 hno]
    rfl
  · rw [hrun, hclock]
    exact Client.logged_keeps_clock (Client.write_keeps_clock _ _) _

/-! ## The loop over the pairs -/

theorem headD_nonneg {l : List Int} (h : ∀ t ∈ l, 0 ≤ t) : 0 ≤ l.headD 0 := by
  cases l with
  | nil => exact le_refl 0
  | cons t _ => exact h t (List.mem_cons_self _ _)

/-- From non-negative clock readings, `m` logs distinct content names, each from a handle of
`handles` and a non-negative reading, and leaves non-negative readings. -/
def NamesApart (handles : List String) {α : Type} (m : Pass α) : Prop :=
  ∀ s : PassState, (∀ t ∈ s.clock, 0 ≤ t) → ∃ es, (m s).2.log = s.log ++ es ∧
    (contentNames es).Nodup ∧
    (∀ n ∈ contentNames es, ∃ v ∈ handles, ∃ t, 0 ≤ t ∧ n = "volume-" ++ v ++ "-" ++ formatInt t) ∧
    ∀ t ∈ (m s).2.clock, 0 ≤ t

section NamesApart

variable {handles : List String} {α β : Type}

theorem namesApart_pure (a : α) : NamesApart handles (pure a : Pass α) :=
  fun _ hs => ⟨[], (List.append_nil _).symm, List.nodup_nil,
    fun _ h => absurd h (List.not_mem_nil _), hs⟩

/-- A stage without contents, then runs that name their contents apart. -/
theorem namesApart_bind {x : Pass α} {f : α → Pass β} (hx : Keeps NoContent x)
    (hf : ∀ a, NamesApart handles (f a)) : NamesApart handles (x >>= f) := fun s hs => by
  obtain ⟨⟨es₁, hes₁, hno₁⟩, hclock₁⟩ := hx s
  have hs₁ : ∀ t ∈ (x s).2.clock, 0 ≤ t := by
    rw [show (x s).2.clock = s.clock from hclock₁]
    exact hs
  obtain ⟨es₂, hes₂, hnd, hfrom, hleft⟩ := hf (x s).1 (x s).2 hs₁
  have hnil : contentNames es₁ = [] := List.filterMap_eq_nil_iff.2 hno₁
  have hnames : contentNames (es₁ ++ es₂) = contentNames es₂ := by
    rw [contentNames_append, hnil, List.nil_append]
  refine ⟨es₁ ++ es₂, by rw [bind_apply, hes₂, hes₁, List.append_assoc], ?_, ?_, hleft⟩
  · rwa [hnames]
  · rwa [hnames]

/-- A pair's iteration, then runs that name their contents apart from handles other than the
pair's. -/
theorem namesApart_snapshotPair {rc : Nat} {shouldCreatePvc : Bool} {storageClass : String}
    {sc : VolumeSnapshotClass} {ns volumeHandle snapshotHandle : String}
    {pvc : Option PersistentVolumeClaim} {f : Option Error → Pass β}
    (hvh : volumeHandle ∉ handles) (hf : ∀ a, NamesApart handles (f a)) :
    NamesApart (volumeHandle :: handles)
      (snapshotPair rc shouldCreatePvc storageClass sc ns volumeHandle snapshotHandle pvc >>= f) :=
  fun s hs => by
  obtain ⟨es₁, hes₁, hnames₁, hclock₁⟩ :=
    snapshotPair_contents rc shouldCreatePvc storageClass sc ns volumeHandle snapshotHandle pvc s
  have ht := headD_nonneg hs
  have hs₁ : ∀ t ∈ (snapshotPair rc shouldCreatePvc storageClass sc ns volumeHandle
      snapshotHandle pvc s).2.clock, 0 ≤ t := by
    rw [hclock₁]
    exact fun t h => hs t (List.mem_of_mem_tail h)
  obtain ⟨es₂, hes₂, hnd, hfrom, hleft⟩ := hf (snapshotPair rc shouldCreatePvc storageClass sc
    ns volumeHandle snapshotHandle pvc s).1 _ hs₁
  refine ⟨es₁ ++ es₂, by rw [bind_apply, hes₂, hes₁, List.append_assoc], ?_, ?_, hleft⟩
  · rw [contentNames_append, hnames₁, List.singleton_append, List.nodup_cons]
    refine ⟨fun hmem => ?_, hnd⟩
    obtain ⟨v, hv, t, ht', heq⟩ := hfrom _ hmem
    exact hvh ((contentName_inj ht ht' heq).1 ▸ hv)
  · rw [contentNames_append, hnames₁, List.singleton_append]
    intro n hn
    rcases List.mem_cons.1 hn with rfl | hn
    · exact ⟨volumeHandle, List.mem_cons_self _ _, _, ht, rfl⟩
    · obtain ⟨v, hv, t, ht', rfl⟩ := hfrom n hn
      exact ⟨v, List.mem_cons_of_mem _ hv, t, ht', rfl⟩

end NamesApart

/-- The loop over pairs of distinct volume handles names its contents apart. -/
theorem snapshotPairs_namesApart (c rc : Nat) (group : DellCSIReplicationGroup)
    (shouldCreatePvc : Bool) (storageClass : String) (sc : VolumeSnapshotClass) :
    ∀ (pairs : List (String × String)) (ns : String), (pairs.map Prod.fst).Nodup →
      NamesApart (pairs.map Prod.fst)
        (snapshotPairs c rc group shouldCreatePvc storageClass sc ns pairs)
  | [], _, _ => namesApart_pure _
  | (volumeHandle, _) :: rest, ns, hnd => by
    rw [List.map_cons, List.nodup_cons] at hnd
    have ih := snapshotPairs_namesApart c rc group shouldCreatePvc storageClass sc rest
    rw [List.map_cons, snapshotPairs]
    repeat' (first
      | with_reducible exact ih _ hnd.2
      | with_reducible exact setupCalls_noContent.getPVCInformation_keeps _ _ _
      | with_reducible exact setupCalls_noContent.claimNamespace_keeps _ _ _
      | with_reducible apply keeps_pure
      | with_reducible apply namesApart_pure
      | split
      | with_reducible refine namesApart_snapshotPair hnd.1 fun _ => ?_
      | with_reducible refine namesApart_bind ?_ fun _ => ?_
      | dsimp only)

/-! ## One invocation -/

/-- The contents that one invocation of `processSnapshotEvent` creates from non-negative clock
readings have distinct names. -/
theorem processSnapshotEvent_contents_apart (cfg : Config) (o : Oracle) (c rc : Nat)
    (group : DellCSIReplicationGroup) (s : PassState) (hclock : ∀ t ∈ s.clock, 0 ≤ t) :
    ∃ es, (processSnapshotEvent cfg o c rc group s).2.log = s.log ++ es ∧
      (contentNames es).Nodup := by
  obtain ⟨body, heq, hbody⟩ := setupCalls_noContent.processSnapshotEvent_handsOver cfg o c rc group
  set s₁ := (Client.record (.snapshotEventProcessed c group.name) s).2
  have hrun : processSnapshotEvent cfg o c rc group s = body () s₁ := by
    rw [heq]
    rfl
  have hs₁ : s₁.log = s.log ++ [.snapshotEventProcessed c group.name] := rfl
  rw [hrun]
  rcases hbody () s₁ with h | ⟨b, st, sc, ns, s₂, h₂, hpairs⟩
  · obtain ⟨es, hes, hno⟩ := h.contentNames
    refine ⟨_ :: es, by rw [hes, hs₁, List.append_assoc]; rfl, ?_⟩
    show (contentNames es).Nodup
    rw [hno]
    exact List.nodup_nil
  · obtain ⟨es₂, hes₂, hno₂⟩ := h₂.contentNames
    have hclock₂ : ∀ t ∈ s₂.clock, 0 ≤ t := by
      rw [show s₂.clock = s₁.clock from h₂.2]
      exact hclock
    obtain ⟨es₃, hes₃, hnd, -, -⟩ := snapshotPairs_namesApart c rc group b st sc _ ns
      (o.order_keys_nodup _) s₂ hclock₂
    refine ⟨.snapshotEventProcessed c group.name :: (es₂ ++ es₃),
      by rw [hpairs, hes₃, hes₂, hs₁]; simp, ?_⟩
    show (contentNames (es₂ ++ es₃)).Nodup
    rwa [contentNames_append, hno₂, List.nil_append]

/-- A content's name gives back its volume handle and non-negative reading; so one invocation with
non-negative readings creates no two contents of one name. -/
theorem content_names_apart :
    (∀ (snapName₁ snapName₂ v₁ v₂ : String) (snapRef₁ snapRef₂ : ObjectReference)
      (sc₁ sc₂ : VolumeSnapshotClass) (t₁ t₂ : Int), 0 ≤ t₁ → 0 ≤ t₂ →
      (makeVolSnapContent snapName₁ v₁ snapRef₁ sc₁ t₁).name =
        (makeVolSnapContent snapName₂ v₂ snapRef₂ sc₂ t₂).name → v₁ = v₂ ∧ t₁ = t₂) ∧
    ∀ (cfg : Config) (o : Oracle) (c rc : Nat) (group : DellCSIReplicationGroup)
      (s : PassState), (∀ t ∈ s.clock, 0 ≤ t) →
      ∃ es, (processSnapshotEvent cfg o c rc group s).2.log = s.log ++ es ∧
        (contentNames es).Nodup :=
  ⟨fun _ _ _ _ _ _ _ _ _ _ h₁ h₂ h => contentName_inj h₁ h₂ h,
    processSnapshotEvent_contents_apart⟩

/-- The action of `pairsRun`, with both volumes read at the same second. -/
theorem content_names_apart_at_one_second :
    ("a" = "a" ∧ (1700000000 : Int) = 1700000000) ∧
      ∃ es, (processSnapshotEvent snapshotConfig storedOrder 0 1
          (snapshotGroup (((∅ : StringMap).set "b" "sb").set "a" "sa"))
          ⟨snapshotWorld, [], [1700000000, 1700000000], []⟩).2.log = [] ++ es ∧
        (contentNames es).Nodup :=
  ⟨content_names_apart.1 "sa" "sb" "a" "a" (makeSnapReference "sa" "apps")
      (makeSnapReference "sb" "apps") ⟨"c", "d", "Delete"⟩ ⟨"c", "d", "Delete"⟩ 1700000000 1700000000
      (by decide) (by decide) rfl,
    content_names_apart.2 _ _ _ _ _ _ (by decide)⟩

end CsmReplication
