import Mathlib.Data.List.AList

/-!
# Go strings and maps

The functions of Go's `strings` and `strconv` packages that the replication-group controller
calls, written over the character list of a `String` so that they reduce by `decide`, and Go's
`map[string]string` as an association list with distinct keys.

A Go map is unordered; a `range` over one visits its pairs in an order the runtime picks, which
the controller model takes from an oracle (`Oracle.order`).
-/

namespace CsmReplication

/-! ## Strings -/

/-- Go's `strings.HasPrefix`. -/
def hasPrefix (s pre : String) : Bool :=
  pre.data.isPrefixOf s.data

/-- Go's `strings.TrimPrefix`: `s` without a leading `pre`, or `s` itself. -/
def trimPrefix (s pre : String) : String :=
  if hasPrefix s pre then ⟨s.data.drop pre.length⟩ else s

/-- Whether `sub` occurs in a character list at some position. -/
def occursIn (sub : List Char) : List Char → Bool
  | [] => sub.isEmpty
  | c :: cs => sub.isPrefixOf (c :: cs) || occursIn sub cs

/-- Go's `strings.Contains`. -/
def contains (s sub : String) : Bool :=
  occursIn sub.data s.data

/-- Go's `strings.ToLower`, on the letters `Char.toLower` maps. -/
def toLower (s : String) : String :=
  ⟨s.data.map Char.toLower⟩

/-- Go's `strings.Split(s, sep)[0]` for a one-character separator: the text before the first
`sep`, or all of `s`. -/
def splitFirst (s : String) (sep : Char) : String :=
  ⟨s.data.takeWhile (· != sep)⟩

/-- Go's `strconv.FormatInt(n, 10)`. -/
def formatInt (n : Int) : String :=
  toString n

theorem hasPrefix_append (pre s : String) : hasPrefix (pre ++ s) pre = true := by
  simp [hasPrefix, List.isPrefixOf_iff_prefix]

theorem trimPrefix_append (pre s : String) : trimPrefix (pre ++ s) pre = s := by
  simp only [trimPrefix, hasPrefix_append, if_true]
  show String.mk ((pre.data ++ s.data).drop pre.data.length) = s
  simp

theorem append_cancel_left {pre s t : String} (h : pre ++ s = pre ++ t) : s = t :=
  String.ext (by simpa using congrArg String.data h)

theorem trimPrefix_of_not_hasPrefix {s pre : String} (h : hasPrefix s pre = false) :
    trimPrefix s pre = s := by
  simp [trimPrefix, h]

/-- Trimming a prefix `s` starts with and putting it back gives `s`. -/
theorem append_trimPrefix {s pre : String} (h : hasPrefix s pre = true) :
    pre ++ trimPrefix s pre = s := by
  obtain ⟨t, ht⟩ := List.isPrefixOf_iff_prefix.1 h
  rw [trimPrefix, if_pos h]
  apply String.ext
  rw [String.data_append, ← ht, String.length, List.drop_left]

/-- Keys that start with `pre` and differ stay apart when `pre` is replaced by `domain`. -/
theorem append_trimPrefix_inj {domain pre s₁ s₂ : String} (h₁ : hasPrefix s₁ pre = true)
    (h₂ : hasPrefix s₂ pre = true) (h : domain ++ trimPrefix s₁ pre = domain ++ trimPrefix s₂ pre) :
    s₁ = s₂ := by
  have htrim : trimPrefix s₁ pre = trimPrefix s₂ pre :=
    String.ext (List.append_cancel_left (congrArg String.data h))
  rw [← append_trimPrefix h₁, ← append_trimPrefix h₂, htrim]

theorem occursIn_of_isPrefixOf {sub : List Char} :
    ∀ {l : List Char}, sub.isPrefixOf l = true → occursIn sub l = true
  | [], h => by cases sub <;> simp_all [occursIn]
  | _ :: _, h => by simp [occursIn, h]

theorem occursIn_append_left (sub pre : List Char) :
    ∀ {l : List Char}, occursIn sub l = true → occursIn sub (pre ++ l) = true := by
  induction pre with
  | nil => exact id
  | cons c cs ih => exact fun h => by simp [occursIn, ih h]

/-- A string contains each of its prefixes. -/
theorem contains_of_hasPrefix {s pre : String} (h : hasPrefix s pre = true) :
    contains s pre = true :=
  occursIn_of_isPrefixOf h

theorem occursIn_of_append {sub t : List Char} :
    ∀ {l : List Char}, occursIn (sub ++ t) l = true → occursIn sub l = true
  | [], h => by cases sub <;> simp_all [occursIn]
  | _ :: _, h => by
    simp only [occursIn, Bool.or_eq_true] at h ⊢
    exact h.imp (fun h => List.isPrefixOf_iff_prefix.2
      ((List.prefix_append _ _).trans (List.isPrefixOf_iff_prefix.1 h))) occursIn_of_append

/-- A string that contains `pre ++ t` contains `pre`. -/
theorem contains_of_append {s pre t : String} (h : contains s (pre ++ t) = true) :
    contains s pre = true :=
  occursIn_of_append (t := t.data) (by rw [← String.data_append]; exact h)

/-! ## Decimal renderings

`formatInt` of a non-negative number is its decimal digits, with no sign: it can be read back,
and a `-` placed before it marks where it starts. -/

/-- One step of reading decimal digits back: the value so far, then one more digit. -/
def digitStep (n : Nat) (d : Char) : Nat :=
  10 * n + (d.toNat - '0'.toNat)

theorem digitStep_digitChar {k : Nat} (hk : k < 10) (n : Nat) :
    digitStep n (Nat.digitChar k) = 10 * n + k := by
  have : ∀ k < 10, (Nat.digitChar k).toNat - '0'.toNat = k := by decide
  rw [digitStep, this k hk]

/-- One digit of `Nat.toDigitsCore` in base ten. -/
theorem toDigitsCore_succ (fuel n : Nat) (ds : List Char) :
    Nat.toDigitsCore 10 (fuel + 1) n ds =
      if n / 10 = 0 then Nat.digitChar (n % 10) :: ds
      else Nat.toDigitsCore 10 fuel (n / 10) (Nat.digitChar (n % 10) :: ds) :=
  rfl

/-- Reading back the digits that `Nat.toDigitsCore` puts before `ds`, given fuel enough. -/
theorem foldl_digitStep_toDigitsCore :
    ∀ (fuel n : Nat) (ds : List Char), n < fuel →
      (Nat.toDigitsCore 10 fuel n ds).foldl digitStep 0 = ds.foldl digitStep n
  | 0, _, _, h => absurd h (Nat.not_lt_zero _)
  | fuel + 1, n, ds, h => by
    have hd : digitStep 0 (Nat.digitChar (n % 10)) = n % 10 := by
      rw [digitStep_digitChar (Nat.mod_lt _ (by decide))]; omega
    have hstep : digitStep (n / 10) (Nat.digitChar (n % 10)) = n := by
      rw [digitStep_digitChar (Nat.mod_lt _ (by decide))]; omega
    rw [toDigitsCore_succ]
    split
    · rw [List.foldl_cons, hd, Nat.mod_eq_of_lt (by omega)]
    · rw [foldl_digitStep_toDigitsCore fuel (n / 10) _ (by omega), List.foldl_cons, hstep]

theorem foldl_digitStep_toDigits (n : Nat) : (Nat.toDigits 10 n).foldl digitStep 0 = n :=
  foldl_digitStep_toDigitsCore (n + 1) n [] (Nat.lt_succ_self n)

theorem dash_not_mem_toDigitsCore :
    ∀ (fuel n : Nat) (ds : List Char), '-' ∉ ds → '-' ∉ Nat.toDigitsCore 10 fuel n ds
  | 0, _, _, h => h
  | fuel + 1, n, ds, h => by
    have hd : Nat.digitChar (n % 10) ≠ '-' := by
      have : ∀ k < 10, Nat.digitChar k ≠ '-' := by decide
      exact this _ (Nat.mod_lt _ (by decide))
    have hcons : '-' ∉ Nat.digitChar (n % 10) :: ds :=
      List.not_mem_cons_of_ne_of_not_mem (Ne.symm hd) h
    rw [toDigitsCore_succ]
    split
    · exact hcons
    · exact dash_not_mem_toDigitsCore fuel _ _ hcons

theorem formatInt_of_nonneg {t : Int} (ht : 0 ≤ t) :
    (formatInt t).data = Nat.toDigits 10 t.toNat := by
  obtain ⟨m, rfl⟩ := Int.eq_ofNat_of_zero_le ht
  rfl

/-- The decimal rendering of a non-negative number has no `-`. -/
theorem dash_not_mem_formatInt {t : Int} (ht : 0 ≤ t) : '-' ∉ (formatInt t).data := by
  rw [formatInt_of_nonneg ht]
  exact dash_not_mem_toDigitsCore _ _ _ (List.not_mem_nil _)

/-- Non-negative numbers have distinct decimal renderings. -/
theorem formatInt_inj {t₁ t₂ : Int} (h₁ : 0 ≤ t₁) (h₂ : 0 ≤ t₂)
    (h : (formatInt t₁).data = (formatInt t₂).data) : t₁ = t₂ := by
  rw [formatInt_of_nonneg h₁, formatInt_of_nonneg h₂] at h
  have := congrArg (List.foldl digitStep 0) h
  rw [foldl_digitStep_toDigits, foldl_digitStep_toDigits] at this
  omega

/-- Two texts that end in a separator followed by a part without it are equal only part by
part. -/
theorem append_cons_inj_of_not_mem {α : Type} {c : α} {d₁ d₂ : List α} (h₁ : c ∉ d₁)
    (h₂ : c ∉ d₂) : ∀ {l₁ l₂ : List α}, l₁ ++ c :: d₁ = l₂ ++ c :: d₂ → l₁ = l₂ ∧ d₁ = d₂
  | [], [], h => ⟨rfl, (List.cons.inj h).2⟩
  | [], _ :: l₂, h =>
    absurd ((List.cons.inj h).2 ▸ List.mem_append_right l₂ (List.mem_cons_self c d₂)) h₁
  | _ :: l₁, [], h =>
    absurd ((List.cons.inj h).2 ▸ List.mem_append_right l₁ (List.mem_cons_self c d₁)) h₂
  | _ :: _, _ :: _, h => by
    rw [List.cons_append, List.cons_append] at h
    obtain ⟨rfl, htail⟩ := List.cons.inj h
    obtain ⟨rfl, rfl⟩ := append_cons_inj_of_not_mem h₁ h₂ htail
    exact ⟨rfl, rfl⟩

/-! ## Maps -/

/-- A Go `map[string]string`: an association list whose keys are distinct. -/
abbrev StringMap := AList (fun _ : String => String)

namespace StringMap

/-- Go's `m[k]`: the value at `k`, or the zero value `""`. -/
def get (m : StringMap) (k : String) : String :=
  (m.lookup k).getD ""

/-- Go's `_, ok := m[k]`. -/
def has (m : StringMap) (k : String) : Bool :=
  (m.lookup k).isSome

/-- Go's `m[k] = v`. -/
def set (m : StringMap) (k v : String) : StringMap :=
  m.insert k v

/-- Go's `m == nil` for a map read back from the API server, which leaves out an empty map. -/
def isNil (m : StringMap) : Bool :=
  m.entries.isEmpty

/-- The pairs of `m` in the order they are stored. -/
def pairs (m : StringMap) : List (String × String) :=
  m.entries.map fun e => (e.1, e.2)

@[simp]
theorem get_empty (k : String) : (∅ : StringMap).get k = "" :=
  rfl

@[simp]
theorem has_empty (k : String) : (∅ : StringMap).has k = false :=
  rfl

@[simp]
theorem get_set_self (m : StringMap) (k v : String) : (m.set k v).get k = v := by
  simp [get, set, AList.lookup_insert]

@[simp]
theorem get_set_of_ne (m : StringMap) {k k' : String} (v : String) (h : k' ≠ k) :
    (m.set k v).get k' = m.get k' := by
  simp [get, set, AList.lookup_insert_ne h]

@[simp]
theorem has_set_self (m : StringMap) (k v : String) : (m.set k v).has k = true := by
  simp [has, set, AList.lookup_insert]

@[simp]
theorem has_set_of_ne (m : StringMap) {k k' : String} (v : String) (h : k' ≠ k) :
    (m.set k v).has k' = m.has k' := by
  simp [has, set, AList.lookup_insert_ne h]

@[simp]
theorem lookup_set_self (m : StringMap) (k v : String) : (m.set k v).lookup k = some v :=
  AList.lookup_insert m

@[simp]
theorem lookup_set_of_ne (m : StringMap) {k k' : String} (v : String) (h : k' ≠ k) :
    (m.set k v).lookup k' = m.lookup k' :=
  AList.lookup_insert_ne h

@[simp]
theorem isNil_set (m : StringMap) (k v : String) : (m.set k v).isNil = false := by
  simp [isNil, set, AList.insert_entries]

theorem lookup_of_isNil {m : StringMap} (h : m.isNil = true) (k : String) : m.lookup k = none := by
  rcases m with ⟨_ | _, _⟩
  · rfl
  · cases h

theorem isNil_eq_false_of_get {m : StringMap} {k : String} (h : m.get k ≠ "") :
    m.isNil = false := by
  rcases m with ⟨_ | _, _⟩
  · exact absurd rfl h
  · rfl

theorem isNil_eq_false_of_has {m : StringMap} {k : String} (h : m.has k = true) :
    m.isNil = false := by
  rcases m with ⟨_ | _, _⟩
  · cases h
  · rfl

theorem get_eq_of_lookup {m : StringMap} {k v : String} (h : m.lookup k = some v) :
    m.get k = v := by
  simp [get, h]

theorem get_of_has_false {m : StringMap} {k : String} (h : m.has k = false) : m.get k = "" := by
  simp_all [get, has]

theorem map_fst_pairs (m : StringMap) : m.pairs.map Prod.fst = m.keys := by
  simp [pairs, AList.keys, List.keys]

theorem mem_pairs_of_lookup {m : StringMap} {k v : String} (h : m.lookup k = some v) :
    (k, v) ∈ m.pairs :=
  List.mem_map_of_mem _ (AList.mem_lookup_iff.1 h)

theorem fst_mem_keys_of_mem_pairs {m : StringMap} {kv : String × String} (h : kv ∈ m.pairs) :
    kv.1 ∈ m.keys :=
  m.map_fst_pairs ▸ List.mem_map_of_mem _ h

end StringMap

end CsmReplication
