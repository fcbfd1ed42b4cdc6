import CsmReplication.System.Run

/-!
# Fair schedules

The controllers run forever. A schedule says which step comes at each moment; what the clusters
hold after the first `t` steps is `after cfgs sched σ t`. Which schedules are possible is decided
by controller-runtime, as `SetupWithManager` wires each controller (lines 595-604): the manager
watches the replication groups of its cluster, so every change of a group is an event that queues
a pass on it; and a pass that returns an error or asks to be requeued (`Reply.Retries`) is queued
again, after the rate limiter's delay. A queued pass runs at some later moment (`Fair`). Failed
calls are transient: from some moment on, no call fails (`FailuresStop`).

Whether a protocol of the controllers converges on such a schedule is argued once, over any
property `At` of the moments and the stages of an abstract machine whose steps never lower a rank
(`eventually_top`): if from every stage but the top one, from some moment on, a step that is sure
to come raises the rank, the top stage is reached.
-/

namespace CsmReplication

/-- The clusters after the first `t` steps of the schedule `sched`. -/
def after (cfgs : Nat → Config) (sched : Nat → Step) (σ : Sys) : Nat → Sys
  | 0 => σ
  | t + 1 => (sched t).apply cfgs (after cfgs sched σ t)

@[simp] theorem after_zero (cfgs : Nat → Config) (sched : Nat → Step) (σ : Sys) :
    after cfgs sched σ 0 = σ :=
  rfl

theorem after_succ (cfgs : Nat → Config) (sched : Nat → Step) (σ : Sys) (t : Nat) :
    after cfgs sched σ (t + 1) = (sched t).apply cfgs (after cfgs sched σ t) :=
  rfl

/-- The step is a pass of cluster `d`'s controller on its group `n`. -/
def Step.On (d : Nat) (n : String) : Step → Prop
  | .reconcile c name _ _ _ => c = d ∧ name = n
  | .create .. | .delete .. => False

/-- The step meets no failure: a user's step, or a pass none of whose calls fails. -/
def Step.Clean : Step → Prop
  | .reconcile _ _ faults _ _ => faults = []
  | .create .. | .delete .. => True

/-- A pass on the group `n` of cluster `d` comes at the moment `t` or later. -/
def Pending (sched : Nat → Step) (d : Nat) (n : String) (t : Nat) : Prop :=
  ∃ u, t ≤ u ∧ (sched u).On d n

/-- What controller-runtime guarantees `n` on `d`: a pass that errs or asks to be requeued, and
every change of the group, is followed by another pass on it. -/
structure Fair (cfgs : Nat → Config) (sched : Nat → Step) (σ : Sys) (d : Nat) (n : String) :
    Prop where
  retried : ∀ t r, (sched t).On d n → (sched t).reply cfgs (after cfgs sched σ t) = some r →
    r.Retries → Pending sched d n (t + 1)
  watched : ∀ t, lookupRG ((after cfgs sched σ (t + 1)).world d).rgs n ≠
    lookupRG ((after cfgs sched σ t).world d).rgs n → Pending sched d n (t + 1)

/-- From some moment on, no call fails. -/
def FailuresStop (sched : Nat → Step) : Prop :=
  ∃ T, ∀ t, T ≤ t → (sched t).Clean

/-- A step on a group is a pass on it. -/
theorem Step.On.eq {st : Step} {d : Nat} {n : String} (h : st.On d n) :
    ∃ faults clock o, st = .reconcile d n faults clock o := by
  cases st with
  | reconcile c name faults clock o =>
    obtain ⟨rfl, rfl⟩ := h
    exact ⟨faults, clock, o, rfl⟩
  | create | delete => exact h.elim

/-- A pass on a group once failures have stopped is a pass with no failure. -/
theorem Step.On.clean {st : Step} {d : Nat} {n : String} (h : st.On d n) (hc : st.Clean) :
    ∃ clock o, st = .reconcile d n [] clock o := by
  obtain ⟨faults, clock, o, rfl⟩ := h.eq
  exact ⟨clock, o, by rw [show faults = [] from hc]⟩

/-- A pass that is still to come after a step on another group is still to come. -/
theorem Pending.succ {sched : Nat → Step} {d : Nat} {n : String} {t : Nat}
    (h : Pending sched d n t) (hne : ¬(sched t).On d n) : Pending sched d n (t + 1) := by
  obtain ⟨u, htu, hu⟩ := h
  rcases Nat.lt_or_eq_of_le htu with hlt | rfl
  · exact ⟨u, hlt, hu⟩
  · exact absurd hu hne

/-- A predicate of the world that every step of the schedule keeps holds from the moment it
holds on. -/
theorem after_keeps {cfgs : Nat → Config} {sched : Nat → Step} {σ : Sys} {P : World → Prop}
    (hstep : ∀ t, P (after cfgs sched σ t).world → P (after cfgs sched σ (t + 1)).world)
    {t : Nat} (h : P (after cfgs sched σ t).world) :
    ∀ u, t ≤ u → P (after cfgs sched σ u).world := by
  intro u htu
  induction u, htu using Nat.le_induction with
  | base => exact h
  | succ u _ ih => exact hstep u ih

/-! ## Convergence of a machine that only climbs -/

section Convergence

variable {S : Type} {At : Nat → S → Prop} {rank : S → Nat}
  (step : ∀ t s, At t s → ∃ s', At (t + 1) s' ∧ (s' = s ∨ rank s < rank s'))
include step

/-- From a stage at one moment, at every later moment a stage that is the same or of a higher
rank. -/
theorem walk {t : Nat} {s : S} (h : At t s) (k : Nat) :
    ∃ s', At (t + k) s' ∧ (s' = s ∨ rank s < rank s') := by
  induction k with
  | zero => exact ⟨s, h, .inl rfl⟩
  | succ k ih =>
    obtain ⟨s₁, h₁, e₁⟩ := ih
    obtain ⟨s₂, h₂, e₂⟩ := step _ _ h₁
    refine ⟨s₂, h₂, ?_⟩
    rcases e₁ with rfl | e₁
    · exact e₂
    · rcases e₂ with rfl | e₂
      exacts [.inr e₁, .inr (e₁.trans e₂)]

/-- If, from every stage but `top` at a moment from `T` on, some later moment is sure to raise the
rank when the stage is still the same, and `top` has the highest rank, then `top` is reached. -/
theorem eventually_top {top : S} (T : Nat)
    (advance : ∀ t s, T ≤ t → At t s → s ≠ top →
      ∃ u, t ≤ u ∧ (At u s → ∃ s', At (u + 1) s' ∧ rank s < rank s'))
    (hmax : ∀ s, s ≠ top → rank s < rank top) {s₀ : S} (h₀ : At 0 s₀) : ∃ t, At t top := by
  -- Climbing from a stage at a moment from `T` on, by the distance to the top rank.
  have climb : ∀ k t s, T ≤ t → At t s → rank top - rank s ≤ k → ∃ t', At t' top := by
    intro k
    induction k with
    | zero =>
      intro t s _ hs hk
      by_cases htop : s = top
      · exact ⟨t, htop ▸ hs⟩
      · exact absurd hk (by have := hmax s htop; omega)
    | succ k ih =>
      intro t s hT hs hk
      by_cases htop : s = top
      · exact ⟨t, htop ▸ hs⟩
      obtain ⟨u, htu, hu⟩ := advance t s hT hs htop
      obtain ⟨s₁, hs₁, e₁⟩ := walk step hs (u - t)
      rw [Nat.add_sub_cancel' htu] at hs₁
      -- The rank rises by the moment `u + 1`.
      obtain ⟨t', s', hT', hs', hlt⟩ : ∃ t' s', T ≤ t' ∧ At t' s' ∧ rank s < rank s' := by
        rcases e₁ with rfl | e₁
        · obtain ⟨s', hs', hlt⟩ := hu hs₁
          exact ⟨u + 1, s', by omega, hs', hlt⟩
        · exact ⟨u, s₁, by omega, hs₁, e₁⟩
      by_cases htop' : s' = top
      · exact ⟨t', htop' ▸ hs'⟩
      · exact ih t' s' hT' hs' (by have := hmax s' htop'; omega)
  obtain ⟨s, hs, -⟩ := walk step h₀ T
  rw [Nat.zero_add] at hs
  exact climb _ T s le_rfl hs le_rfl

end Convergence

end CsmReplication
