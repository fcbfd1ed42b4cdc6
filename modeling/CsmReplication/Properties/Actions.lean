import CsmReplication.Properties.Steady

/-!
# Processing an action once

`processLastActionResult` processes a group's last action while it is due, that is while the
group's `ActionProcessedTime` stamp is set and differs from the action's time (lines 321-345),
and then stamps that time by an update whose error it ignores (lines 352-354). A group whose
action is processed, or that has none to process, is `Quiet`; `QuietAt c n` says so of the group
stored under `n` on cluster `c`.

Every pass, of any controller and on any group, keeps `QuietAt c n`: the group is written only as
its own pass loaded it, stamped, or marked for deletion. A pass that starts where it holds does
not enter `processSnapshotEvent` for the group, and a pass that enters it ends where it holds
unless the stamp was refused or the processing panicked. So over a run of passes in which no
stamp of the group's due action is refused and no pass panics, `processSnapshotEvent` is entered
at most once for it. A refused stamp lets the next pass process the action again.
-/

namespace CsmReplication

/-- The group stored under `n` on cluster `c`, if any, has its action processed or none to
process. -/
def QuietAt (c : Nat) (n : String) (w : World) : Prop :=
  ∀ L, lookupRG (w c).rgs n = some L → Quiet L

/-! ## Quiet groups -/

section Quiet

variable {X Y : DellCSIReplicationGroup}

/-- Whether a group is quiet depends on its status and its stamp only. -/
theorem Quiet.of_eq (h : Quiet X) (hs : Y.status = X.status)
    (ha : Y.annotations.lookup actionProcessedTime = X.annotations.lookup actionProcessedTime) :
    Quiet Y := by
  unfold Quiet
  rw [hs, ha]
  exact h

theorem Quiet.annotate {k v : String} (hk : k ≠ actionProcessedTime) (h : Quiet X) :
    Quiet (X.annotate k v) :=
  h.of_eq rfl (StringMap.lookup_set_of_ne _ _ hk.symm)

theorem Quiet.markSynced {n name : String} (h : Quiet X) : Quiet (markSynced n X name) :=
  (h.annotate (by decide)).annotate (by decide)

/-- Whether a group is idle depends on its status and its stamp only. -/
theorem Idle.of_eq (h : Idle X) (hs : Y.status = X.status)
    (ha : Y.annotations.lookup actionProcessedTime = X.annotations.lookup actionProcessedTime) :
    Idle Y := by
  rcases h with h | h | h
  · exact .inl (hs ▸ h)
  · exact .inr (.inl (hs ▸ h))
  · exact (h.of_eq hs ha).idle

theorem Idle.markSynced {n name : String} (h : Idle X) : Idle (markSynced n X name) :=
  h.of_eq rfl ((StringMap.lookup_set_of_ne _ _ (by decide)).trans
    (StringMap.lookup_set_of_ne _ _ (by decide)))

/-- A mirror is built without an action. -/
theorem quiet_mirrorCandidate (cfg : Config) (o : Oracle) (n : String)
    (L : DellCSIReplicationGroup) (renamed : Bool) : Quiet (mirrorCandidate cfg o n L renamed) :=
  .inl (by cases renamed <;> rfl)

end Quiet

/-! ## Every pass keeps a processed group processed -/

section Keep

variable {c : Nat} {n : String} {w : World}

theorem QuietAt.of_sameRGs {w' : World} (h : QuietAt c n w) (hs : SameRGs w w') :
    QuietAt c n w' := by
  intro L hL
  exact h L (by rwa [← hs c])

/-- An update keeps the group processed when what it writes in its place is quiet. -/
theorem QuietAt.update {d : Nat} {X : DellCSIReplicationGroup}
    (hX : d = c → X.name = n → Quiet X) (h : QuietAt c n w) :
    QuietAt c n ((RGWrite.update d X).apply w) := by
  by_cases hdn : d = c ∧ X.name = n
  · obtain ⟨rfl, rfl⟩ := hdn
    rcases RGWrite.lookup_apply_update w d X with heq | hnew
    · rwa [heq]
    · intro R hR
      obtain ⟨ha, -, hs⟩ := hnew R hR
      exact (hX rfl rfl).of_eq hs (by rw [ha])
  · intro R hR
    rw [RGWrite.lookup_apply_of_ne (.update d X) w fun h₁ h₂ => hdn ⟨h₁, h₂⟩] at hR
    exact h R hR

theorem QuietAt.delete (d : Nat) (m : String) (h : QuietAt c n w) :
    QuietAt c n ((RGWrite.delete d m).apply w) := by
  by_cases hdm : d = c ∧ m = n
  · obtain ⟨rfl, rfl⟩ := hdm
    intro R hR
    obtain ⟨R₀, hR₀, rfl | rfl⟩ := RGWrite.lookup_apply_delete w d m hR
    · exact h _ hR₀
    · exact (h _ hR₀).of_eq rfl rfl
  · intro R hR
    rw [RGWrite.lookup_apply_of_ne (.delete d m) w fun h₁ h₂ => hdm ⟨h₁, h₂⟩] at hR
    exact h R hR

theorem QuietAt.create {d : Nat} {X : DellCSIReplicationGroup} (hX : Quiet X)
    (h : QuietAt c n w) : QuietAt c n ((RGWrite.create d X).apply w) := by
  intro R hR
  rcases RGWrite.lookup_apply_create_cases hR with hR | rfl
  · exact h R hR
  · exact hX.of_eq rfl rfl

/-- A write of a pass on the group `n'` of cluster `c'`, which loaded `L'`, keeps the group `n` of
cluster `c` processed, when `L'` is processed in case it is that group. -/
theorem QuietAt.allowedWrite {cfg : Config} {o : Oracle} {c' rc : Nat} {n' : String}
    {L' : DellCSIReplicationGroup} {x : RGWrite} (hx : AllowedWrite cfg o c' rc n' L' w x)
    (hLn : L'.name = n') (hq : c' = c → n' = n → Quiet L') (h : QuietAt c n w) :
    QuietAt c n (x.apply w) := by
  have hL' : c' = c → L'.name = n → Quiet L' := fun hc hn => hq hc (hLn ▸ hn)
  cases hx with
  | addFinalizer => exact h.update fun hc hn => (hL' hc hn).of_eq rfl rfl
  | removeFinalizer => exact h.update fun hc hn => (hL' hc hn).of_eq rfl rfl
  | requestDeletion R _ _ _ hR _ =>
    refine h.update fun hc hn => (h R ?_).annotate (by decide)
    subst hc hn
    rw [DellCSIReplicationGroup.annotate_name, (lookupBy_eq_some _ hR).2]
    exact hR
  | delete _ => exact h.delete _ _
  | create renamed => exact h.create (quiet_mirrorCandidate _ _ _ _ _)
  | record renamed _ _ =>
    exact h.update fun hc hn => (hL' hc (by simpa [markSynced] using hn)).markSynced
  | stamp t ht => exact h.update fun _ _ => quiet_stamp ht

/-- Every pass keeps the group `n` of cluster `c` processed. -/
theorem reconcile_keeps_quietAt (cfg : Config) (o : Oracle) (c' : Nat) (n' : String)
    (s : PassState) (h : QuietAt c n s.world) : QuietAt c n (reconcile cfg o c' n' s).2.world := by
  rcases reconcile_moves cfg o c' n' s with hfix | ⟨L', rc, hL', -, hm⟩
  · exact h.of_sameRGs hfix
  · have hq : c' = c → n' = n → Quiet L' := by
      rintro rfl rfl
      exact h L' hL'
    exact Moves.keeps (fun _ _ hs hw => hw.of_sameRGs hs)
      (fun _ _ hx hw => hw.allowedWrite hx (lookupBy_eq_some _ hL').2 hq) hm h

end Keep

/-! ## What one pass enters -/

/-- An accepted update leaves the group it wrote processed, when it wrote a quiet group. -/
theorem quietAt_of_update_ok {c : Nat} {X : DellCSIReplicationGroup} {s : PassState}
    (hX : Quiet X) (h : (Client.update c X s).1 = .ok ()) :
    QuietAt c X.name (Client.update c X s).2.world := by
  obtain ⟨hf, cl, hcl⟩ := Client.update_ok h
  simp only [Client.update_world, hf, Bool.false_eq_true, if_false]
  intro R hR
  obtain ⟨ha, -, hs⟩ := RGWrite.lookup_apply_update_of_ok hcl hR
  exact hX.of_eq hs (by rw [ha])

theorem not_mem_of_noMarker {es : List Effect} (h : ∀ e ∈ es, NoMarker e) (c : Nat) (n : String) :
    Effect.snapshotEventProcessed c n ∉ es :=
  fun hm => by simpa [NoMarker, Effect.isMarker] using h _ hm

/-- The log `es` enters `processSnapshotEvent` at most once, and only for the group `n` of
cluster `c`. -/
def EntersOnce (c : Nat) (n : String) (es : List Effect) : Prop :=
  (∀ e ∈ es, e.isMarker = true → e = .snapshotEventProcessed c n) ∧
    es.count (.snapshotEventProcessed c n) ≤ 1

section EntersOnce

variable {c : Nat} {n : String} {es es₀ : List Effect}

theorem EntersOnce.of_noMarker (h : ∀ e ∈ es, NoMarker e) : EntersOnce c n es := by
  refine ⟨fun e he hm => absurd hm (Bool.eq_false_iff.1 (h e he)), ?_⟩
  rw [List.count_eq_zero_of_not_mem (not_mem_of_noMarker h c n)]
  exact Nat.zero_le 1

/-- The log of `processSnapshotEvent`: its marker, then no marker. -/
theorem EntersOnce.marker_cons (h : ∀ e ∈ es, NoMarker e) :
    EntersOnce c n (.snapshotEventProcessed c n :: es) := by
  refine ⟨fun e he hm => ?_, ?_⟩
  · rcases List.mem_cons.1 he with rfl | he
    · rfl
    · exact absurd hm (Bool.eq_false_iff.1 (h e he))
  · rw [List.count_cons_self, List.count_eq_zero_of_not_mem (not_mem_of_noMarker h _ _)]

theorem EntersOnce.append (h₀ : EntersOnce c n es₀) (h : ∀ e ∈ es, NoMarker e) :
    EntersOnce c n (es₀ ++ es) := by
  refine ⟨fun e he hm => ?_, ?_⟩
  · rcases List.mem_append.1 he with he | he
    · exact h₀.1 e he hm
    · exact absurd hm (Bool.eq_false_iff.1 (h e he))
  · rw [List.count_append, List.count_eq_zero_of_not_mem (not_mem_of_noMarker h _ _)]
    exact h₀.2

theorem EntersOnce.noMarker_append (h₀ : ∀ e ∈ es₀, NoMarker e) (h : EntersOnce c n es) :
    EntersOnce c n (es₀ ++ es) := by
  refine ⟨fun e he hm => ?_, ?_⟩
  · rcases List.mem_append.1 he with he | he
    · exact absurd hm (Bool.eq_false_iff.1 (h₀ e he))
    · exact h.1 e he hm
  · rw [List.count_append, List.count_eq_zero_of_not_mem (not_mem_of_noMarker h₀ _ _),
      Nat.zero_add]
    exact h.2

end EntersOnce

/-- No stamp of a due action of the group `n` of cluster `c` is refused in the log `es`. -/
def NoStampRefused (c : Nat) (n : String) (es : List Effect) : Prop :=
  ∀ (L : DellCSIReplicationGroup) t e,
    Effect.update c (L.annotate actionProcessedTime t) (.error e) ∈ es → L.name = n → ¬Due L t

theorem NoStampRefused.left {c : Nat} {n : String} {es₁ es₂ : List Effect}
    (h : NoStampRefused c n (es₁ ++ es₂)) : NoStampRefused c n es₁ :=
  fun L t e hm => h L t e (List.mem_append_left _ hm)

theorem NoStampRefused.right {c : Nat} {n : String} {es₁ es₂ : List Effect}
    (h : NoStampRefused c n (es₁ ++ es₂)) : NoStampRefused c n es₂ :=
  fun L t e hm => h L t e (List.mem_append_right _ hm)

/-- The stamp that follows a processing which logged `es₀`, and then entries `after` without
markers: the markers are those of `es₀`, and an accepted stamp leaves `L` processed. -/
theorem stamp_enters_once {c : Nat} {L : DellCSIReplicationGroup} {t : String} (hdue : Due L t)
    {s s₁ : PassState} {es₀ : List Effect} (hes₀ : s₁.log = s.log ++ es₀)
    (h₀ : EntersOnce c L.name es₀) (after : List Effect) (hafter : ∀ e ∈ after, NoMarker e) :
    ∃ es, (Client.update c (L.annotate actionProcessedTime t) s₁).2.log ++ after = s.log ++ es ∧
      EntersOnce c L.name es ∧
      (.snapshotEventProcessed c L.name ∈ es → ¬Quiet L ∧
        (NoStampRefused c L.name es →
          QuietAt c L.name (Client.update c (L.annotate actionProcessedTime t) s₁).2.world)) := by
  set X := L.annotate actionProcessedTime t
  refine ⟨es₀ ++ .update c X (Client.update c X s₁).1 :: after, by
    rw [Client.update_log, hes₀]; simp, h₀.append (List.forall_mem_cons.2 ⟨rfl, hafter⟩),
    fun _ => ⟨hdue.not_quiet, fun hupd => ?_⟩⟩
  cases hu : (Client.update c X s₁).1 with
  | ok => exact quietAt_of_update_ok (quiet_stamp hdue.2.1) hu
  | error e => exact absurd hdue (hupd L t e (by simp [X, hu]) rfl)

/-- Action processing enters `processSnapshotEvent` at most once, for `L` and only if `L` is not
quiet, and then leaves `L` processed unless it panicked or its stamp was refused. -/
theorem processActions_enters_once (cfg : Config) (o : Oracle) (c rc : Nat)
    (L : DellCSIReplicationGroup) (s : PassState) :
    ∃ es, (processActions cfg o c rc L s).2.log = s.log ++ es ∧ EntersOnce c L.name es ∧
      (.snapshotEventProcessed c L.name ∈ es → ¬Quiet L ∧
        ((processActions cfg o c rc L s).1 ≠ .panic →
          NoStampRefused c L.name es → QuietAt c L.name (processActions cfg o c rc L s).2.world)) := by
  rcases processLastActionResult_cases cfg o c rc L with ⟨r, hr⟩ | ⟨t, hdue, hr⟩
  · have hlog : LogsOnly NoMarker s (processActions cfg o c rc L s).2 := by
      simp only [processActions, hr, Pass.pure_bind]
      cases r
      · exact refl_of (LogsOnly NoMarker) s
      · exact Client.record_keeps_log (E := NoMarker) (e := .event _ _ _) rfl s
      · exact refl_of (LogsOnly NoMarker) s
    obtain ⟨es, hes, hno⟩ := hlog
    exact ⟨es, hes, .of_noMarker hno, fun h => absurd h (not_mem_of_noMarker hno _ _)⟩
  · have hstage : ∃ es₀, ((if contains L.status.lastAction.condition "CREATE_SNAPSHOT" then
          processSnapshotEvent cfg o c rc L else pure .ok) s).2.log = s.log ++ es₀ ∧
        EntersOnce c L.name es₀ := by
      split
      · obtain ⟨es₀, hes₀, hno⟩ := processSnapshotEvent_enters cfg o c rc L s
        exact ⟨_, hes₀, .marker_cons hno⟩
      · exact ⟨[], by simp, .of_noMarker fun _ h => nomatch h⟩
    obtain ⟨es₀, hes₀, h₀⟩ := hstage
    simp only [processActions, hr, Pass.bind_apply]
    generalize (if contains L.status.lastAction.condition "CREATE_SNAPSHOT" then
      processSnapshotEvent cfg o c rc L else pure .ok) s = p at hes₀
    obtain ⟨outcome, s₁⟩ := p
    cases outcome with
    | panic => exact ⟨es₀, hes₀, h₀, fun _ => ⟨hdue.not_quiet, fun h => absurd rfl h⟩⟩
    | ok =>
      simp only [Pass.bind_apply, Pass.pure_apply]
      obtain ⟨es, hes, h, henter⟩ := stamp_enters_once hdue hes₀ h₀ [] fun _ h => nomatch h
      exact ⟨es, by simpa using hes, h, fun hm => ⟨(henter hm).1, fun _ => (henter hm).2⟩⟩
    | err e =>
      simp only [Pass.bind_apply, Pass.pure_apply, Client.event, Client.record_apply]
      obtain ⟨es, hes, h, henter⟩ := stamp_enters_once hdue hes₀ h₀ [.event _ _ _]
        (by simp [NoMarker, Effect.isMarker])
      exact ⟨es, hes, h, fun hm => ⟨(henter hm).1, fun _ => (henter hm).2⟩⟩

/-- One pass enters `processSnapshotEvent` at most once for the group `n` of `c`, never when it is
processed, and when it does, leaves it processed unless it panicked or its stamp was refused. -/
theorem reconcile_enters_once (cfg : Config) (o : Oracle) (c' : Nat) (n' : String)
    (s : PassState) (c : Nat) (n : String) :
    ∃ es, (reconcile cfg o c' n' s).2.log = s.log ++ es ∧
      es.count (.snapshotEventProcessed c n) ≤ 1 ∧
      (QuietAt c n s.world → .snapshotEventProcessed c n ∉ es) ∧
      (.snapshotEventProcessed c n ∈ es → (reconcile cfg o c' n' s).1 ≠ .panic →
        NoStampRefused c n es → QuietAt c n (reconcile cfg o c' n' s).2.world) := by
  rcases reconcile_handsOver cfg o c' n' s with ⟨es, hes, hno⟩ |
    ⟨L, rc, s₁, hL, ⟨es₁, hes₁, hno₁⟩, -, heq⟩
  · have hm := not_mem_of_noMarker hno c n
    exact ⟨es, hes, (EntersOnce.of_noMarker (c := c) (n := n) hno).2, fun _ => hm,
      fun h => absurd h hm⟩
  · obtain ⟨es₂, hes₂, h₂, henter⟩ := processActions_enters_once cfg o c' rc L s₁
    have hlog : (processActions cfg o c' rc L s₁).2.log = s.log ++ (es₁ ++ es₂) := by
      rw [hes₂, hes₁, List.append_assoc]
    have hmem : Effect.snapshotEventProcessed c n ∈ es₁ ++ es₂ →
        Effect.snapshotEventProcessed c n ∈ es₂ :=
      fun h => (List.mem_append.1 h).resolve_left (not_mem_of_noMarker hno₁ c n)
    rw [heq]
    by_cases hcn : c = c' ∧ n = L.name
    · obtain ⟨rfl, rfl⟩ := hcn
      have hL' : lookupRG (s.world c).rgs L.name = some L := by rwa [(lookupBy_eq_some _ hL).2]
      exact ⟨es₁ ++ es₂, hlog, (h₂.noMarker_append hno₁).2,
        fun hq h => (henter (hmem h)).1 (hq L hL'),
        fun h hp hupd => (henter (hmem h)).2 hp hupd.right⟩
    · have hm : Effect.snapshotEventProcessed c n ∉ es₁ ++ es₂ := fun h => by
        cases h₂.1 _ (hmem h) rfl
        exact hcn ⟨rfl, rfl⟩
      refine ⟨es₁ ++ es₂, hlog, ?_, fun _ => hm, fun h => absurd h hm⟩
      rw [List.count_eq_zero_of_not_mem hm]
      exact Nat.zero_le 1

/-! ## Runs of passes -/

/-- A run of passes with no panic and no refused stamp of `n` on `c` enters `processSnapshotEvent`
for it at most once, and never when it starts processed. -/
theorem run_enters_once (cfgs : Nat → Config) (c : Nat) (n : String) :
    ∀ (steps : List Step) (σ : Sys), (∀ st ∈ steps, st.isPass = true) →
      Reply.panic ∉ replies cfgs steps σ →
      ∃ es, (run cfgs steps σ).log = σ.log ++ es ∧
        (NoStampRefused c n es →
          es.count (.snapshotEventProcessed c n) ≤ 1 ∧
          (QuietAt c n σ.world → .snapshotEventProcessed c n ∉ es))
  | [], σ, _, _ => ⟨[], by simp, fun _ => ⟨by simp, fun _ => by simp⟩⟩
  | .create .. :: _, _, hpass, _ => absurd (hpass _ (List.mem_cons_self _ _)) Bool.false_ne_true
  | .delete .. :: _, _, hpass, _ => absurd (hpass _ (List.mem_cons_self _ _)) Bool.false_ne_true
  | .reconcile c' n' faults clock o :: rest, σ, hpass, hpanic => by
    obtain ⟨es₀, hes₀, hcount₀, hquiet₀, henter₀⟩ :=
      reconcile_enters_once (cfgs c') o c' n' ⟨σ.world, faults, clock, σ.log⟩ c n
    have hreply : (reconcile (cfgs c') o c' n' ⟨σ.world, faults, clock, σ.log⟩).1 ≠ .panic :=
      fun h => hpanic (List.mem_append_left _ (by simp [Step.reply, h]))
    obtain ⟨es', hes', ih⟩ := run_enters_once cfgs c n rest _
      (fun st h => hpass st (List.mem_cons_of_mem _ h)) fun h => hpanic (List.mem_append_right _ h)
    refine ⟨es₀ ++ es', by rw [run_cons, hes', ← List.append_assoc, ← hes₀]; rfl, fun hupd => ?_⟩
    have hupd₀ := hupd.left
    obtain ⟨hcount', hquiet'⟩ := ih hupd.right
    refine ⟨?_, fun hq => ?_⟩
    · rw [List.count_append]
      by_cases hm₀ : Effect.snapshotEventProcessed c n ∈ es₀
      · rw [List.count_eq_zero_of_not_mem (hquiet' (henter₀ hm₀ hreply hupd₀))]
        exact hcount₀
      · rw [List.count_eq_zero_of_not_mem hm₀, Nat.zero_add]
        exact hcount'
    · have hq' := hquiet' (reconcile_keeps_quietAt (cfgs c') o c' n' _ hq)
      exact fun h => (List.mem_append.1 h).elim (hquiet₀ hq) hq'

/-- `syncedX` with a `CREATE_SNAPSHOT` action at `t1`, after an action processed at `t0`. -/
def actionX : DellCSIReplicationGroup :=
  { syncedX with status := ⟨["Ready"], ⟨"CREATE_SNAPSHOT", ∅, "", some "t1"⟩⟩ }.annotate
    actionProcessedTime "t0"

end CsmReplication
