import CsmReplication.Properties.Sync

/-!
# Synced groups keep their mirrors

A pass marks a group synced, with its mirror's name, only after it has created that mirror or
found a group under the name whose spec agrees with the group's (lines 222-309). Users create
groups and never change one, and a group goes away only through a deletion. So along any run of
passes and users' creations, from a state where no group is synced, being deleted or asked for
deletion, every synced group has its mirror in place: on the cluster its remote cluster ID
reaches, under the name it recorded, a group that mirrors it (`synced_mirrors_stand`). The check
compares specs and does not ask whose mirror the group found is. Names with `replicated` in them
are left out, as in `Properties.Sync`.
-/

namespace CsmReplication

/-- A synced group under a name without `replicated`, whose recorded name is not one the
controller never creates. -/
def Tracked (n : String) (X : DellCSIReplicationGroup) : Prop :=
  X.annotations.get rgSyncComplete = "yes" ∧ contains n replicated = false ∧
    contains (X.annotations.get remoteReplicationGroup) "replicated-replicated" = false

/-- The group `X` stored under `n` has its mirror on the cluster its remote cluster ID reaches,
under its recorded name. -/
def HasMirror (cfg : Config) (n : String) (X : DellCSIReplicationGroup) (w : World) : Prop :=
  ∃ rc, cfg.connection X.spec.remoteClusterId = some rc ∧
    ∃ M, lookupRG (w rc).rgs (X.annotations.get remoteReplicationGroup) = some M ∧
      Mirrors (mirrorNaming cfg n X).localClusterID X M

/-- No group is being deleted or asked for deletion. -/
def Live (w : World) : Prop :=
  ∀ d m X, lookupRG (w d).rgs m = some X →
    X.deleting = false ∧ X.annotations.has deletionRequested = false

/-- The invariant of the runs below. -/
structure MirrorsStand (cfgs : Nat → Config) (w : World) : Prop where
  /-- No group is being deleted or asked for deletion, so none goes away. -/
  live : Live w
  /-- Every tracked group has its mirror in place. -/
  mirrored : ∀ d m X, lookupRG (w d).rgs m = some X → Tracked m X → HasMirror (cfgs d) m X w

/-- Every group stays in place with its spec. -/
def Persists (w w' : World) : Prop :=
  ∀ d m M, lookupRG (w d).rgs m = some M → ∃ M', lookupRG (w' d).rgs m = some M' ∧ M'.spec = M.spec

/-! ## Mirrors -/

section HasMirror

variable {cfg : Config} {w w' : World} {n m : String} {X Y M : DellCSIReplicationGroup}

/-- Whether `M` mirrors a group depends on the group's spec only. -/
theorem Mirrors.of_local_spec (hs : X.spec = Y.spec)
    (h : Mirrors (mirrorNaming cfg m Y).localClusterID Y M) :
    Mirrors (mirrorNaming cfg n X).localClusterID X M := by
  unfold Mirrors at h ⊢
  rwa [mirrorNaming_localClusterID, hs, ← mirrorNaming_localClusterID cfg m Y]

theorem HasMirror.persist (h : HasMirror cfg n X w) (hp : Persists w w') :
    HasMirror cfg n X w' := by
  obtain ⟨rc, hrc, M, hM, hmir⟩ := h
  obtain ⟨M', hM', hs⟩ := hp rc _ M hM
  exact ⟨rc, hrc, M', hM', hmir.of_spec_eq hs⟩

/-- A group with `Y`'s spec and recorded name has `Y`'s mirror. -/
theorem HasMirror.of_spec (h : HasMirror cfg m Y w) (hs : X.spec = Y.spec)
    (hr : X.annotations.get remoteReplicationGroup = Y.annotations.get remoteReplicationGroup) :
    HasMirror cfg n X w := by
  obtain ⟨rc, hrc, M, hM, hmir⟩ := h
  exact ⟨rc, by rwa [hs], M, by rwa [hr], hmir.of_local_spec hs⟩

theorem HasMirror.of_sameRGs (h : HasMirror cfg n X w) (hs : SameRGs w w') :
    HasMirror cfg n X w' := by
  obtain ⟨rc, hrc, M, hM, hmir⟩ := h
  exact ⟨rc, hrc, M, by rwa [hs rc], hmir⟩

end HasMirror

theorem MirrorsStand.of_sameRGs {cfgs : Nat → Config} {w w' : World} (h : MirrorsStand cfgs w)
    (hs : SameRGs w w') : MirrorsStand cfgs w' where
  live d m X hX := h.live d m X (by rwa [hs d] at hX)
  mirrored d m X hX ht := (h.mirrored d m X (by rwa [hs d] at hX) ht).of_sameRGs hs

/-! ## The writes -/

section Writes

variable {cfgs : Nat → Config} {w : World}

theorem persists_create (d : Nat) (X : DellCSIReplicationGroup) :
    Persists w ((RGWrite.create d X).apply w) :=
  fun _ _ M hM => ⟨M, RGWrite.lookup_apply_create hM, rfl⟩

/-- Creating a group that is neither synced nor asked for deletion keeps the invariant. -/
theorem MirrorsStand.create {d : Nat} {X : DellCSIReplicationGroup}
    (hdr : X.annotations.has deletionRequested = false)
    (hs : X.annotations.get rgSyncComplete ≠ "yes") (h : MirrorsStand cfgs w) :
    MirrorsStand cfgs ((RGWrite.create d X).apply w) where
  live d' m Z hZ := by
    rcases RGWrite.lookup_apply_create_cases hZ with hZ | rfl
    · exact h.live d' m Z hZ
    · exact ⟨rfl, hdr⟩
  mirrored d' m Z hZ ht := by
    rcases RGWrite.lookup_apply_create_cases hZ with hZ | rfl
    · exact (h.mirrored d' m Z hZ ht).persist (persists_create d X)
    · exact absurd ht.1 hs

/-- An update of a group that is not being deleted puts the update's group in its place and
leaves every other group. -/
theorem update_of_live {d : Nat} {X Y : DellCSIReplicationGroup} (hlive : Live w)
    (hY : lookupRG (w d).rgs X.name = some Y) :
    lookupRG (((RGWrite.update d X).apply w) d).rgs X.name = some { X with deleting := false } ∧
      ∀ d' m, ¬(d' = d ∧ m = X.name) →
        lookupRG (((RGWrite.update d X).apply w) d').rgs m = lookupRG (w d').rgs m :=
  ⟨RGWrite.lookup_apply_update_of_live hY (hlive d _ Y hY).1, fun _ _ h =>
    RGWrite.lookup_apply_of_ne (.update d X) w fun h₁ h₂ => h ⟨h₁.symm, h₂.symm⟩⟩

end Writes

/-! ## One pass -/

section Pass

variable {cfgs : Nat → Config} {o : Oracle} {c rc : Nat} {n : String}
  {L : DellCSIReplicationGroup} {w : World}

/-- What a pass on the group `L`, loaded from `n` on cluster `c`, keeps along its writes: the
invariant, a group of `L`'s spec under `n`, and the mirror `L` had when loaded. -/
structure PassStands (cfgs : Nat → Config) (c : Nat) (n : String) (L : DellCSIReplicationGroup)
    (w : World) : Prop where
  stands : MirrorsStand cfgs w
  own : ∃ Y, lookupRG (w c).rgs n = some Y ∧ Y.spec = L.spec
  loaded : Tracked n L → HasMirror (cfgs c) n L w

theorem PassStands.of_sameRGs {w' : World} (h : PassStands cfgs c n L w) (hs : SameRGs w w') :
    PassStands cfgs c n L w' where
  stands := h.stands.of_sameRGs hs
  own := by rw [hs c]; exact h.own
  loaded ht := (h.loaded ht).of_sameRGs hs

/-- An update of the group under `n` with a group of `L`'s spec, not asked for deletion, and with
its mirror in place when tracked. -/
theorem PassStands.update {X : DellCSIReplicationGroup} (hn : X.name = n) (hs : X.spec = L.spec)
    (hdr : X.annotations.has deletionRequested = false)
    (hm : Tracked n X → HasMirror (cfgs c) n X w) (h : PassStands cfgs c n L w) :
    PassStands cfgs c n L ((RGWrite.update c X).apply w) := by
  subst hn
  obtain ⟨Y, hY, hYs⟩ := h.own
  obtain ⟨hnew, hother⟩ := update_of_live h.stands.live hY
  have hp : Persists w ((RGWrite.update c X).apply w) := by
    intro d m M hM
    by_cases hdm : d = c ∧ m = X.name
    · obtain ⟨rfl, rfl⟩ := hdm
      obtain rfl : M = Y := Option.some.inj (hM.symm.trans hY)
      exact ⟨_, hnew, hs.trans hYs.symm⟩
    · exact ⟨M, (hother d m hdm).trans hM, rfl⟩
  refine ⟨⟨fun d m Z hZ => ?_, fun d m Z hZ ht => ?_⟩, ⟨_, hnew, hs⟩,
    fun ht => (h.loaded ht).persist hp⟩
  · by_cases hdm : d = c ∧ m = X.name
    · obtain ⟨rfl, rfl⟩ := hdm
      obtain rfl := Option.some.inj (hZ.symm.trans hnew)
      exact ⟨rfl, hdr⟩
    · exact h.stands.live d m Z ((hother d m hdm).symm.trans hZ)
  · by_cases hdm : d = c ∧ m = X.name
    · obtain ⟨rfl, rfl⟩ := hdm
      obtain rfl := Option.some.inj (hZ.symm.trans hnew)
      exact ((hm ht).persist hp).of_spec rfl rfl
    · exact (h.stands.mirrored d m Z ((hother d m hdm).symm.trans hZ) ht).persist hp

theorem PassStands.create {d : Nat} {X : DellCSIReplicationGroup}
    (hdr : X.annotations.has deletionRequested = false)
    (hs : X.annotations.get rgSyncComplete ≠ "yes") (h : PassStands cfgs c n L w) :
    PassStands cfgs c n L ((RGWrite.create d X).apply w) := by
  obtain ⟨Y, hY, hYs⟩ := h.own
  exact ⟨h.stands.create hdr hs, ⟨Y, RGWrite.lookup_apply_create hY, hYs⟩,
    fun ht => (h.loaded ht).persist (persists_create d X)⟩

theorem mirrorCandidate_deletionRequested (cfg : Config) (o : Oracle) (n : String)
    (L : DellCSIReplicationGroup) (renamed : Bool) :
    (mirrorCandidate cfg o n L renamed).annotations.has deletionRequested = false := by
  cases renamed <;> simp [mirrorCandidate, buildRemoteRG,
    StringMap.has_set_of_ne _ _ (by decide : deletionRequested ≠ remoteClusterID),
    StringMap.has_set_of_ne _ _ (by decide : deletionRequested ≠ remoteRGRetentionPolicy),
    StringMap.has_set_of_ne _ _ (by decide : deletionRequested ≠ remoteReplicationGroup)]

/-- Every write a pass on a live `L` may make keeps what the pass keeps. -/
theorem PassStands.step (hLn : L.name = n)
    (hlive : L.deleting = false ∧ L.annotations.has deletionRequested = false)
    (hrc : (cfgs c).connection L.spec.remoteClusterId = some rc) {x : RGWrite}
    (hx : AllowedWrite (cfgs c) o c rc n L w x) (h : PassStands cfgs c n L w) :
    PassStands cfgs c n L (x.apply w) := by
  have hloaded : ∀ X : DellCSIReplicationGroup,
      X.annotations.get rgSyncComplete = L.annotations.get rgSyncComplete →
      X.annotations.get remoteReplicationGroup = L.annotations.get remoteReplicationGroup →
      X.spec = L.spec → Tracked n X → HasMirror (cfgs c) n X w := fun X hs hr hsp ht =>
    (h.loaded ⟨hs ▸ ht.1, ht.2.1, hr ▸ ht.2.2⟩).of_spec hsp hr
  cases hx with
  | addFinalizer => exact h.update hLn rfl hlive.2 (hloaded _ rfl rfl rfl)
  | removeFinalizer => exact h.update hLn rfl hlive.2 (hloaded _ rfl rfl rfl)
  | requestDeletion _ hdel _ _ _ _ => exact absurd hdel (by rw [hlive.1]; decide)
  | delete hdr => exact absurd hdr (by rw [hlive.2]; decide)
  | create renamed =>
    exact h.create (mirrorCandidate_deletionRequested _ _ _ _ _)
      (by rw [mirrorCandidate_sync]; decide)
  | record renamed _ hM =>
    refine h.update (n := n) (by simpa [markSynced] using hLn) rfl ?_ fun ht => ?_
    · simpa [markSynced,
        StringMap.has_set_of_ne _ _ (by decide : deletionRequested ≠ rgSyncComplete),
        StringMap.has_set_of_ne _ _ (by decide : deletionRequested ≠ remoteReplicationGroup)]
        using hlive.2
    · have hr := (markSynced_remote n L (mirrorCandidate (cfgs c) o n L renamed).name).trans
        (recordedName_of_not_contains _ ht.2.1)
      rcases hM with ⟨M, hM, hmir⟩ | hrr
      · exact ⟨rc, hrc, M, by rwa [hr], Mirrors.of_local_spec (m := n) (Y := L) rfl hmir⟩
      · exact absurd ht.2.2 (by rw [hr, hrr]; decide)
  | stamp t _ =>
    exact h.update hLn rfl
      (by simpa [StringMap.has_set_of_ne _ _ (by decide : deletionRequested ≠ actionProcessedTime)]
        using hlive.2)
      (hloaded _ (StringMap.get_set_of_ne _ _ (by decide))
        (StringMap.get_set_of_ne _ _ (by decide)) rfl)

/-- Every pass keeps the invariant. -/
theorem reconcile_keeps_mirrorsStand (cfgs : Nat → Config) (o : Oracle) (c : Nat) (n : String)
    (s : PassState) (h : MirrorsStand cfgs s.world) :
    MirrorsStand cfgs (reconcile (cfgs c) o c n s).2.world := by
  rcases reconcile_moves (cfgs c) o c n s with hfix | ⟨L, rc, hL, hrc, hm⟩
  · exact h.of_sameRGs hfix
  · have hstart : PassStands cfgs c n L s.world := ⟨h, ⟨L, hL, rfl⟩, h.mirrored c n L hL⟩
    exact (Moves.keeps (fun _ _ hs hp => hp.of_sameRGs hs)
      (fun _ _ hx hp => hp.step (lookupBy_eq_some _ hL).2 (h.live c n L hL) hrc hx) hm
      hstart).stands

end Pass

/-! ## Runs -/

/-- The steps of the runs below: passes, and users' creations of groups neither synced nor
asked for deletion. -/
def Step.isPlain : Step → Bool
  | .reconcile .. => true
  | .create _ rg =>
    !rg.annotations.has deletionRequested && rg.annotations.get rgSyncComplete != "yes"
  | .delete .. => false

/-- The initial states: no group synced, being deleted or asked for deletion. -/
def Fresh (w : World) : Prop :=
  ∀ d, ∀ X ∈ (w d).rgs, X.deleting = false ∧ X.annotations.has deletionRequested = false ∧
    X.annotations.get rgSyncComplete ≠ "yes"

theorem MirrorsStand.of_fresh {cfgs : Nat → Config} {w : World} (h : Fresh w) :
    MirrorsStand cfgs w where
  live d _ X hX := let h := h d X (lookupBy_eq_some _ hX).1; ⟨h.1, h.2.1⟩
  mirrored d _ X hX ht := absurd ht.1 (h d X (lookupBy_eq_some _ hX).1).2.2

theorem run_mirrorsStand (cfgs : Nat → Config) {steps : List Step} {σ : Sys}
    (hsteps : ∀ st ∈ steps, st.isPlain = true) (h : MirrorsStand cfgs σ.world) :
    MirrorsStand cfgs (run cfgs steps σ).world := by
  refine run_keeps (fun st hst σ' hσ => ?_) h
  have hplain := hsteps st hst
  cases st with
  | reconcile c n faults clock o => exact reconcile_keeps_mirrorsStand cfgs o c n _ hσ
  | create d X =>
    simp only [Step.isPlain, Bool.and_eq_true, Bool.not_eq_true', bne_iff_ne, ne_eq] at hplain
    exact hσ.create hplain.1 hplain.2
  | delete => cases hplain

/-- Along any run from a state with no synced or deleting group, a synced group whose name lacks
`replicated` has its mirror on its remote cluster under the name it recorded. -/
theorem synced_mirrors_stand (cfgs : Nat → Config) (steps : List Step) (σ : Sys)
    (hinit : Fresh σ.world) (hsteps : ∀ st ∈ steps, st.isPlain = true) {c : Nat} {n : String}
    {L : DellCSIReplicationGroup} (hL : (run cfgs steps σ).group c n = some L)
    (hs : L.annotations.get rgSyncComplete = "yes") (hn : contains n replicated = false)
    (hrr : contains (L.annotations.get remoteReplicationGroup) "replicated-replicated" = false) :
    ∃ rc, (cfgs c).connection L.spec.remoteClusterId = some rc ∧
      ∃ M, (run cfgs steps σ).group rc (L.annotations.get remoteReplicationGroup) = some M ∧
        Mirrors (mirrorNaming (cfgs c) n L).localClusterID L M :=
  (run_mirrorsStand cfgs hsteps (MirrorsStand.of_fresh hinit)).mirrored c n L hL ⟨hs, hn, hrr⟩

/-- The user's `x`, paired with its mirror by two passes on each side. -/
def pairedXRun : Sys :=
  run twoClusters [.pass 0 "x" [], .pass 0 "x" [], .pass 1 "x" [], .pass 1 "x" []]
    ⟨twoWorld [userGroup "x" "B" "retain" "csi-driver"] [], []⟩

theorem pairedX_mirror_stands :
    ∃ rc, (twoClusters 0).connection
        ((pairedXRun.group 0 "x").get (by decide)).spec.remoteClusterId = some rc ∧
      ∃ M, pairedXRun.group rc
          (((pairedXRun.group 0 "x").get (by decide)).annotations.get remoteReplicationGroup) =
          some M ∧
        Mirrors (mirrorNaming (twoClusters 0) "x" ((pairedXRun.group 0 "x").get (by decide))
          ).localClusterID ((pairedXRun.group 0 "x").get (by decide)) M := by
  refine synced_mirrors_stand twoClusters _ _ (fun d => ?_) (by decide)
    (Option.some_get (by decide)).symm (by decide) (by decide) (by decide)
  dsimp only [twoWorld]
  split_ifs <;> decide

end CsmReplication
