import CsmReplication.Core.Objects

/-!
# The API servers

Each cluster's API server as the controller sees it: lists of objects keyed by name (or by
namespace and name), with the `Get`, `List`, `Create`, `Update` and `Delete` of the Kubernetes
API. A `Create` under a taken key is refused with `AlreadyExists`; an `Update` cannot add a
finalizer to a deleting object, and one that leaves it without finalizers removes it; a `Delete`
of an object that still has finalizers only sets its deletion timestamp. A world is every
cluster's server at one moment.
-/

namespace CsmReplication

/-- The errors of the Kubernetes API the controller tells apart (`errors.IsNotFound`). -/
inductive ApiError where
  | notFound
  | alreadyExists
  | invalid
  | failed
  deriving DecidableEq

theorem map_eq_ok {α β : Type} {e : Except ApiError α} {g : α → β} {y : β}
    (h : e.map g = .ok y) : ∃ x, e = .ok x ∧ y = g x := by
  cases e with
  | error => cases h
  | ok x => cases h; exact ⟨x, rfl, rfl⟩

/-! ## Keyed lists -/

section Keyed

variable {α κ : Type} [DecidableEq κ] (key : α → κ)

/-- The object stored under key `k`. -/
def lookupBy (xs : List α) (k : κ) : Option α :=
  xs.find? fun x => key x = k

/-- A `Get`: the object under `k`, or `NotFound`. -/
def getBy (xs : List α) (k : κ) : Except ApiError α :=
  match lookupBy key xs k with
  | some x => .ok x
  | none => .error .notFound

/-- A `Create`: refused with `AlreadyExists` when the key of `x` is taken. -/
def createBy (xs : List α) (x : α) : Except ApiError (List α) :=
  if (lookupBy key xs (key x)).isSome then .error .alreadyExists else .ok (xs ++ [x])

theorem lookupBy_append_singleton (xs : List α) (x : α) (k : κ) :
    lookupBy key (xs ++ [x]) k = (lookupBy key xs k).or (if key x = k then some x else none) := by
  simp only [lookupBy, List.find?_append, List.find?_cons, List.find?_nil]
  split_ifs <;> simp_all

theorem lookupBy_eq_some {xs : List α} {k : κ} {x : α} (h : lookupBy key xs k = some x) :
    x ∈ xs ∧ key x = k := by
  have := List.find?_some h
  exact ⟨List.mem_of_find?_eq_some h, by simpa using this⟩

theorem lookupBy_eq_none {xs : List α} {k : κ} (h : ∀ x ∈ xs, key x ≠ k) :
    lookupBy key xs k = none :=
  List.find?_eq_none.2 fun x hx => by simpa using h x hx

/-- A key some object has is found. -/
theorem getBy_of_mem {xs : List α} {x : α} (hx : x ∈ xs) : ∃ y, getBy key xs (key x) = .ok y := by
  cases h : lookupBy key xs (key x) with
  | none => exact absurd (List.find?_eq_none.1 h x hx) (by simp)
  | some y => exact ⟨y, by rw [getBy, h]⟩

theorem getBy_eq_ok {xs : List α} {k : κ} {x : α} (h : getBy key xs k = .ok x) :
    lookupBy key xs k = some x := by
  unfold getBy at h
  split at h <;> simp_all

theorem getBy_eq_error {xs : List α} {k : κ} {e : ApiError} (h : getBy key xs k = .error e) :
    e = .notFound ∧ lookupBy key xs k = none := by
  unfold getBy at h
  split at h <;> simp_all

theorem createBy_eq_ok {xs ys : List α} {x : α} (h : createBy key xs x = .ok ys) :
    lookupBy key xs (key x) = none ∧ ys = xs ++ [x] := by
  unfold createBy at h
  split at h <;> simp_all

theorem createBy_eq_error {xs : List α} {x : α} {e : ApiError} (h : createBy key xs x = .error e) :
    e = .alreadyExists ∧ (lookupBy key xs (key x)).isSome := by
  unfold createBy at h
  split at h <;> simp_all

end Keyed

/-! ## Replication groups in one server -/

/-- The replication group named `n`. -/
def lookupRG (rgs : List DellCSIReplicationGroup) (n : String) : Option DellCSIReplicationGroup :=
  lookupBy DellCSIReplicationGroup.name rgs n

/-- `rgs` with the group named like `rg` replaced by `rg`. -/
def replaceRG (rgs : List DellCSIReplicationGroup) (rg : DellCSIReplicationGroup) :
    List DellCSIReplicationGroup :=
  rgs.map fun x => if x.name = rg.name then rg else x

/-- `rgs` without the group named `n`. -/
def removeRG (rgs : List DellCSIReplicationGroup) (n : String) : List DellCSIReplicationGroup :=
  rgs.filter fun x => x.name ≠ n

theorem lookupRG_replaceRG_of_ne (rgs : List DellCSIReplicationGroup)
    (rg : DellCSIReplicationGroup) {n : String} (h : n ≠ rg.name) :
    lookupRG (replaceRG rgs rg) n = lookupRG rgs n := by
  induction rgs with
  | nil => rfl
  | cons x xs ih =>
    by_cases hx : x.name = rg.name
    · have : x.name ≠ n := fun e => h (e ▸ hx)
      simp_all [lookupRG, lookupBy, replaceRG, List.find?_cons]
    · simp_all [lookupRG, lookupBy, replaceRG, List.find?_cons]

theorem lookupRG_replaceRG_self (rgs : List DellCSIReplicationGroup)
    (rg : DellCSIReplicationGroup) :
    lookupRG (replaceRG rgs rg) rg.name = (lookupRG rgs rg.name).map fun _ => rg := by
  induction rgs with
  | nil => rfl
  | cons x xs ih =>
    by_cases hx : x.name = rg.name <;> simp_all [lookupRG, lookupBy, replaceRG, List.find?_cons]

theorem lookupRG_removeRG_of_ne (rgs : List DellCSIReplicationGroup) {n m : String}
    (h : m ≠ n) : lookupRG (removeRG rgs n) m = lookupRG rgs m := by
  induction rgs with
  | nil => rfl
  | cons x xs ih =>
    by_cases hx : x.name = n
    · have : x.name ≠ m := fun e => h (e ▸ hx)
      simp_all [lookupRG, lookupBy, removeRG, List.find?_cons, List.filter_cons]
    · by_cases hm : x.name = m <;>
        simp_all [lookupRG, lookupBy, removeRG, List.find?_cons, List.filter_cons]

theorem lookupRG_removeRG_self (rgs : List DellCSIReplicationGroup) (n : String) :
    lookupRG (removeRG rgs n) n = none := by
  simp [lookupRG, lookupBy, removeRG, List.find?_eq_none]

theorem mem_of_mem_replaceRG {rgs : List DellCSIReplicationGroup} {rg x : DellCSIReplicationGroup}
    (h : x ∈ replaceRG rgs rg) : x ∈ rgs ∨ x = rg := by
  obtain ⟨y, hy, rfl⟩ := List.mem_map.1 h
  split
  · exact .inr rfl
  · exact .inl hy

theorem mem_of_mem_removeRG {rgs : List DellCSIReplicationGroup} {n : String}
    {x : DellCSIReplicationGroup} (h : x ∈ removeRG rgs n) : x ∈ rgs :=
  List.mem_of_mem_filter h

/-! ## A cluster's server -/

/-- The objects of one cluster that the controller reads or writes. -/
structure Cluster where
  rgs : List DellCSIReplicationGroup
  namespaces : List Namespace
  snapshotClasses : List VolumeSnapshotClass
  snapshotContents : List VolumeSnapshotContent
  snapshots : List VolumeSnapshot
  storageClasses : List StorageClass
  pvcs : List PersistentVolumeClaim
  pvs : List PersistentVolume

/-- Every cluster's server, by cluster index. -/
abbrev World := Nat → Cluster

/-! ## Names -/

/-- A lowercase letter or a digit: what a label of a name starts and ends with. -/
def alnumLower (ch : Char) : Bool :=
  ch.isLower || ch.isDigit

/-- Reads the rest of a name: `none` at the start of a label, `some b` inside one, `b` telling
whether its last character is a letter or digit. -/
def subdomainChars : Option Bool → List Char → Bool
  | none, [] => false
  | none, ch :: rest => alnumLower ch && subdomainChars (some true) rest
  | some last, [] => last
  | some last, ch :: rest =>
    if alnumLower ch then subdomainChars (some true) rest
    else if ch = '-' then subdomainChars (some false) rest
    else if ch = '.' then last && subdomainChars none rest
    else false

/-- The names an API server accepts: lowercase RFC 1123 subdomains of at most 253 characters.
`createRG` does not check them; a create refused for its name is a failing call. -/
def validName (n : String) : Bool :=
  decide (n.length ≤ 253) && subdomainChars none n.toList

/-- A name that starts with anything but a lowercase letter or a digit is refused. -/
theorem validName_of_head {n : String} {ch : Char} {rest : List Char} (h : n.toList = ch :: rest)
    (hch : alnumLower ch = false) : validName n = false := by
  rw [validName, h, subdomainChars, hch, Bool.false_and, Bool.and_false]

/-! ## Replication groups -/

namespace Cluster

/-- `Get` of a replication group. The client refuses the empty name before it asks the server
("resource name may not be empty"), with an error that is not `NotFound`. -/
def getRG (cl : Cluster) (n : String) : Except ApiError DellCSIReplicationGroup :=
  if n = "" then .error .invalid
  else match lookupRG cl.rgs n with
    | some rg => .ok rg
    | none => .error .notFound

theorem getRG_eq_ok {cl : Cluster} {n : String} {rg : DellCSIReplicationGroup}
    (h : cl.getRG n = .ok rg) : lookupRG cl.rgs n = some rg := by
  unfold getRG at h
  split at h
  · cases h
  · split at h <;> simp_all

theorem ne_empty_of_getRG_eq_ok {cl : Cluster} {n : String} {rg : DellCSIReplicationGroup}
    (h : cl.getRG n = .ok rg) : n ≠ "" := by
  rintro rfl
  simp [getRG] at h

theorem getRG_eq_notFound {cl : Cluster} {n : String} (h : cl.getRG n = .error .notFound) :
    lookupRG cl.rgs n = none := by
  unfold getRG at h
  split at h
  · cases h
  · split at h <;> simp_all

theorem getRG_of_lookup {cl : Cluster} {n : String} {rg : DellCSIReplicationGroup} (hn : n ≠ "")
    (h : lookupRG cl.rgs n = some rg) : cl.getRG n = .ok rg := by
  simp [getRG, hn, h]

theorem getRG_of_lookup_none {cl : Cluster} {n : String} (hn : n ≠ "")
    (h : lookupRG cl.rgs n = none) : cl.getRG n = .error .notFound := by
  simp [getRG, hn, h]

/-- `Create` of a replication group; the server ignores a deletion timestamp on a new object. The
name is not checked against `validName`. -/
def createRG (cl : Cluster) (rg : DellCSIReplicationGroup) : Except ApiError Cluster :=
  (createBy DellCSIReplicationGroup.name cl.rgs { rg with deleting := false }).map
    fun rgs => { cl with rgs }

theorem createRG_eq_ok {cl cl' : Cluster} {rg : DellCSIReplicationGroup}
    (h : cl.createRG rg = .ok cl') :
    lookupRG cl.rgs rg.name = none ∧ cl'.rgs = cl.rgs ++ [{ rg with deleting := false }] := by
  unfold createRG at h
  cases hb : createBy DellCSIReplicationGroup.name cl.rgs { rg with deleting := false } <;>
    rw [hb] at h <;> cases h
  exact createBy_eq_ok _ hb

theorem createRG_of_lookup_none {cl : Cluster} {rg : DellCSIReplicationGroup}
    (h : lookupRG cl.rgs rg.name = none) :
    cl.createRG rg = .ok { cl with rgs := cl.rgs ++ [{ rg with deleting := false }] } := by
  simp only [createRG, createBy]
  rw [show lookupBy DellCSIReplicationGroup.name cl.rgs rg.name = none from h]
  rfl

/-- `Update`: the server keeps the stored deletion timestamp, refuses a new finalizer on a
deleting group, and removes a deleting group left without finalizers. -/
def updateRG (cl : Cluster) (rg : DellCSIReplicationGroup) : Except ApiError Cluster :=
  match lookupRG cl.rgs rg.name with
  | none => .error .notFound
  | some old =>
    if old.deleting ∧ rg.finalizers.any (· ∉ old.finalizers) then .error .invalid
    else if old.deleting ∧ rg.finalizers = [] then .ok { cl with rgs := removeRG cl.rgs rg.name }
    else .ok { cl with rgs := replaceRG cl.rgs { rg with deleting := old.deleting } }

/-- An accepted update found the group, added no finalizer to a deleting one, and removed it (if
deleting and left without finalizers) or replaced it with the stored deletion timestamp. -/
theorem updateRG_eq_ok {cl cl' : Cluster} {rg : DellCSIReplicationGroup}
    (h : cl.updateRG rg = .ok cl') :
    ∃ old, lookupRG cl.rgs rg.name = some old ∧
      ¬(old.deleting ∧ rg.finalizers.any (· ∉ old.finalizers)) ∧
      (old.deleting ∧ rg.finalizers = [] ∧ cl'.rgs = removeRG cl.rgs rg.name ∨
        ¬(old.deleting ∧ rg.finalizers = []) ∧
          cl'.rgs = replaceRG cl.rgs { rg with deleting := old.deleting }) := by
  unfold updateRG at h
  split at h
  · cases h
  · rename_i old hold
    split_ifs at h with h₁ h₂ <;> cases h
    · exact ⟨old, hold, h₁, .inl ⟨h₂.1, h₂.2, rfl⟩⟩
    · exact ⟨old, hold, h₁, .inr ⟨h₂, rfl⟩⟩

/-- `Delete` of a replication group: removed at once without finalizers, otherwise marked as
deleting until its finalizers are gone. -/
def deleteRG (cl : Cluster) (n : String) : Except ApiError Cluster :=
  match lookupRG cl.rgs n with
  | none => .error .notFound
  | some x =>
    if x.finalizers = [] then .ok { cl with rgs := removeRG cl.rgs n }
    else .ok { cl with rgs := replaceRG cl.rgs { x with deleting := true } }

/-- An accepted delete found the group and either removed it, when it had no finalizer, or
marked it deleting. -/
theorem deleteRG_eq_ok {cl cl' : Cluster} {n : String} (h : cl.deleteRG n = .ok cl') :
    ∃ x, lookupRG cl.rgs n = some x ∧
      (x.finalizers = [] ∧ cl'.rgs = removeRG cl.rgs n ∨
        x.finalizers ≠ [] ∧ cl'.rgs = replaceRG cl.rgs { x with deleting := true }) := by
  unfold deleteRG at h
  split at h
  · cases h
  · rename_i x hx
    split_ifs at h with h₁ <;> cases h
    · exact ⟨x, hx, .inl ⟨h₁, rfl⟩⟩
    · exact ⟨x, hx, .inr ⟨h₁, rfl⟩⟩

end Cluster

end CsmReplication
