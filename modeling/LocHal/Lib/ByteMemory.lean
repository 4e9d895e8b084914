import Mathlib.Data.List.Basic
import Mathlib.Data.List.TakeWhile
import Mathlib.Data.Nat.Init

/-!
# Strings in byte memory

A memory gives the byte at every address, and an array is a range of addresses.  `strlcpy` copies a
string and its end character, cut off at the size that it is given: what it leaves of the memory
around the array, and whether the array still ends the string, depends on how this size compares
with the size of the array (`strlcpy_inside`, `strlcpy_outside`).
-/

namespace LocHal

/-- The bytes at all addresses. -/
abbrev Memory := ℕ → UInt8

namespace Memory

variable {m m' : Memory} {a b n i : ℕ} {bytes s : List UInt8}

/-- The bytes are written from address `a` on. -/
def store (m : Memory) (a : ℕ) (bytes : List UInt8) : Memory := fun i =>
  if a ≤ i then (bytes[i - a]?).getD (m i) else m i

/-- `strlcpy` of a string without end characters. -/
def strlcpy (m : Memory) (a : ℕ) (s : List UInt8) (size : ℕ) : Memory :=
  if size = 0 then m else m.store a (s.take (size - 1) ++ [0])

/-- `strlen`; `none` when the fuel does not reach the end character. -/
def strlen (m : Memory) : ℕ → ℕ → Option ℕ
  | 0, _ => none
  | fuel + 1, a => if m a = 0 then some 0 else (strlen m fuel (a + 1)).map (· + 1)

/-- The `n` bytes from address `a` on. -/
def bytesAt (m : Memory) (a n : ℕ) : List UInt8 := (List.range n).map fun i => m (a + i)

/-- What stands in an array before its first end character. -/
def cString (m : Memory) (a n : ℕ) : List UInt8 := (m.bytesAt a n).takeWhile (· != 0)

/-- The memories have the same bytes at all addresses but `n` from `a` on. -/
def SameOutside (m m' : Memory) (a n : ℕ) : Prop := ∀ i, ¬ (a ≤ i ∧ i < a + n) → m' i = m i

/-- The array has an end character. -/
def Terminated (m : Memory) (a n : ℕ) : Prop := ∃ i, (a ≤ i ∧ i < a + n) ∧ m i = 0

lemma store_of_not_inside (h : ¬ (a ≤ i ∧ i < a + bytes.length)) : m.store a bytes i = m i := by
  rw [store]
  split
  · rename_i hle
    rw [List.getElem?_eq_none (by omega), Option.getD_none]
  · rfl

lemma store_add (h : i < bytes.length) : m.store a bytes (a + i) = bytes[i] := by
  rw [store, if_pos (Nat.le_add_right a i), Nat.add_sub_cancel_left, List.getElem?_eq_getElem h,
    Option.getD_some]

lemma sameOutside_store (h : bytes.length ≤ n) : SameOutside m (m.store a bytes) a n :=
  fun _ hi => store_of_not_inside fun hin => hi ⟨hin.1, by omega⟩

lemma SameOutside.mono {k : ℕ} (h : SameOutside m m' b k) (hle : a ≤ b) (hend : b + k ≤ a + n) :
    SameOutside m m' a n :=
  fun i hi => h i fun hin => hi ⟨by omega, by omega⟩

/-- A string that leaves room for its end character stays inside the array and ends there. -/
theorem strlcpy_inside {size : ℕ} (hs : s.length < n) (hsize : 0 < size) :
    SameOutside m (m.strlcpy a s size) a n ∧ Terminated (m.strlcpy a s size) a n := by
  have hlength : (s.take (size - 1) ++ [0]).length = min (size - 1) s.length + 1 := by
    rw [List.length_append, List.length_take, List.length_singleton]
  rw [strlcpy, if_neg hsize.ne']
  refine ⟨sameOutside_store (by omega), a + (s.take (size - 1)).length, ?_, ?_⟩
  · rw [List.length_take]
    omega
  · have hlt : (s.take (size - 1)).length < (s.take (size - 1) ++ [0]).length := by
      rw [List.length_append, List.length_singleton]
      exact Nat.lt_succ_self _
    rw [store_add hlt, List.getElem_append_right (Nat.le_refl _)]
    simp

/-- A string that does not leave room is copied over the end of the array when the size is larger
than the array, and the array has no end character. -/
theorem strlcpy_outside {size : ℕ} (hnul : 0 ∉ s) (hs : n ≤ s.length) (hsize : n < size) :
    ¬ Terminated (m.strlcpy a s size) a n := by
  rintro ⟨i, ⟨hle, hlt⟩, hzero⟩
  obtain ⟨k, rfl⟩ := Nat.exists_eq_add_of_le hle
  have htake : k < (s.take (size - 1)).length := by
    rw [List.length_take]
    omega
  have hk : k < (s.take (size - 1) ++ [0]).length := by
    rw [List.length_append]
    omega
  rw [strlcpy, if_neg (by omega), store_add hk, List.getElem_append_left htake] at hzero
  exact hnul (hzero ▸ List.mem_of_mem_take (List.getElem_mem htake))

/-- An array that nothing is written into has the same bytes. -/
lemma bytesAt_of_sameOutside (h : SameOutside m m' a n) {size : ℕ}
    (hdisjoint : b + size ≤ a ∨ a + n ≤ b) : m'.bytesAt b size = m.bytesAt b size :=
  List.map_congr_left fun i hi => h (b + i) fun hin => by
    have := List.mem_range.mp hi
    omega

lemma cString_of_sameOutside (h : SameOutside m m' a n) {size : ℕ}
    (hdisjoint : b + size ≤ a ∨ a + n ≤ b) : m'.cString b size = m.cString b size := by
  rw [cString, cString, bytesAt_of_sameOutside h hdisjoint]

lemma length_bytesAt (m : Memory) (a n : ℕ) : (m.bytesAt a n).length = n := by
  rw [bytesAt, List.length_map, List.length_range]

lemma take_bytesAt (m : Memory) (a : ℕ) (hle : i ≤ n) : (m.bytesAt a n).take i = m.bytesAt a i := by
  rw [bytesAt, bytesAt, ← List.map_take, List.take_range, Nat.min_eq_left hle]

lemma bytesAt_add (m : Memory) (a n k : ℕ) :
    m.bytesAt a (n + k) = m.bytesAt a n ++ m.bytesAt (a + n) k := by
  rw [bytesAt, bytesAt, bytesAt, List.range_add, List.map_append, List.map_map]
  refine congrArg _ (List.map_congr_left fun i _ => ?_)
  rw [Function.comp_apply, Nat.add_assoc]

lemma bytesAt_store (m : Memory) (a : ℕ) (bytes : List UInt8) :
    (m.store a bytes).bytesAt a bytes.length = bytes := by
  refine List.ext_getElem (by rw [bytesAt, List.length_map, List.length_range]) fun i _ hi => ?_
  simp only [bytesAt, List.getElem_map, List.getElem_range, store_add hi]

/-- An end character is written to the beginning of an array. -/
lemma cString_store_zero (m : Memory) (a n : ℕ) : (m.store a [0]).cString a (n + 1) = [] := by
  have hend : ¬ ((0 : UInt8) != 0) = true := by simp
  have hsplit : (m.store a [0]).bytesAt a (n + 1) = [0] ++ (m.store a [0]).bytesAt (a + 1) n := by
    have hadd := bytesAt_add (m.store a [0]) a 1 n
    rw [Nat.add_comm 1 n] at hadd
    exact hadd.trans (congrArg (· ++ _) (bytesAt_store m a [0]))
  rw [cString, hsplit, List.singleton_append, List.takeWhile_cons_of_neg (p := (· != 0)) hend]

/-- The array holds the string that has been copied into it. -/
theorem cString_strlcpy {size : ℕ} (hnul : 0 ∉ s) (hs : s.length < n) (hsize : s.length < size) :
    (m.strlcpy a s size).cString a n = s := by
  have htake : s.take (size - 1) = s := List.take_of_length_le (by omega)
  have hn : n = (s ++ [0]).length + (n - (s.length + 1)) := by
    rw [List.length_append, List.length_singleton]
    omega
  have hbefore : ∀ c ∈ s, (c != 0) = true := fun c hc =>
    bne_iff_ne.mpr fun heq => hnul (heq ▸ hc)
  have hend : ¬ ((0 : UInt8) != 0) = true := by simp
  rw [strlcpy, if_neg (by omega), htake, cString, hn, bytesAt_add, bytesAt_store, List.append_assoc,
    List.takeWhile_append_of_pos hbefore, List.singleton_append,
    List.takeWhile_cons_of_neg (p := (· != 0)) hend, List.append_nil]

/-! ### Strings that stand in memory -/

/-- The string stands from address `a` on, with an end character behind it and none in it. -/
def HoldsString (m : Memory) (a : ℕ) (s : List UInt8) : Prop :=
  0 ∉ s ∧ m.bytesAt a (s.length + 1) = s ++ [0]

lemma bytesAt_succ (m : Memory) (a n : ℕ) :
    m.bytesAt a (n + 1) = m a :: m.bytesAt (a + 1) n := by
  rw [Nat.add_comm n 1, bytesAt_add]
  rfl

lemma holdsString_cons {c : UInt8} :
    HoldsString m a (c :: s) ↔ m a = c ∧ c ≠ 0 ∧ HoldsString m (a + 1) s := by
  rw [HoldsString, HoldsString, List.length_cons, bytesAt_succ, List.cons_append, List.cons.injEq,
    List.mem_cons, not_or, ne_comm]
  constructor
  · rintro ⟨⟨hc, hs⟩, ha, hbytes⟩
    exact ⟨ha, hc, hs, hbytes⟩
  · rintro ⟨ha, hc, hs, hbytes⟩
    exact ⟨⟨hc, hs⟩, ha, hbytes⟩

lemma HoldsString.of_nil (h : HoldsString m a []) : m a = 0 :=
  (List.cons.inj ((bytesAt_succ m a 0).symm.trans h.2)).1

/-- The parts of a string. -/
lemma HoldsString.of_append {t : List UInt8} (h : HoldsString m a (s ++ t)) :
    0 ∉ s ∧ m.bytesAt a s.length = s ∧ HoldsString m (a + s.length) t := by
  obtain ⟨hnul, hbytes⟩ := h
  rw [List.mem_append, not_or] at hnul
  rw [List.length_append, Nat.add_assoc, bytesAt_add, List.append_assoc] at hbytes
  obtain ⟨hs, ht⟩ := List.append_inj hbytes (length_bytesAt m a s.length)
  exact ⟨hnul.1, hs, hnul.2, ht⟩

/-- A string that nothing is written to. -/
lemma HoldsString.of_sameOutside (hs : HoldsString m b s) (h : SameOutside m m' a n)
    (hdisjoint : b + (s.length + 1) ≤ a ∨ a + n ≤ b) : HoldsString m' b s :=
  ⟨hs.1, (bytesAt_of_sameOutside h hdisjoint).trans hs.2⟩

lemma holdsString_store (hnul : 0 ∉ s) : HoldsString (m.store a (s ++ [0])) a s := by
  refine ⟨hnul, ?_⟩
  have hbytes := bytesAt_store m a (s ++ [0])
  rwa [List.length_append, List.length_singleton] at hbytes

lemma strlen_of_holdsString {fuel : ℕ} (hs : HoldsString m a s) (hfuel : s.length < fuel) :
    m.strlen fuel a = some s.length := by
  induction s generalizing a fuel with
  | nil =>
      obtain ⟨fuel, rfl⟩ := Nat.exists_eq_succ_of_ne_zero (Nat.ne_of_gt hfuel)
      exact if_pos hs.of_nil
  | cons b s ih =>
      obtain ⟨fuel, rfl⟩ := Nat.exists_eq_succ_of_ne_zero (Nat.ne_of_gt (Nat.zero_lt_of_lt hfuel))
      obtain ⟨hb, hne, hrest⟩ := holdsString_cons.mp hs
      rw [strlen, if_neg (hb ▸ hne), ih hrest (Nat.lt_of_succ_lt_succ hfuel)]
      rfl

@[simp] lemma store_nil (m : Memory) (a : ℕ) : m.store a [] = m := by
  funext i
  rw [store_of_not_inside]
  rw [List.length_nil]
  omega

/-- Two pieces written one behind the other. -/
lemma store_append (m : Memory) (a : ℕ) (s t : List UInt8) :
    (m.store a s).store (a + s.length) t = m.store a (s ++ t) := by
  funext i
  simp only [store]
  by_cases hs : a + s.length ≤ i
  · rw [if_pos hs, if_pos (by omega), if_pos (by omega), List.getElem?_append_right (by omega),
      List.getElem?_eq_none (l := s) (by omega), Option.getD_none, Nat.sub_sub]
  · rw [if_neg hs]
    split
    · rw [List.getElem?_append_left (by omega)]
    · rfl

/-- What stands there already. -/
lemma store_of_bytesAt (h : m.bytesAt a s.length = s) : m.store a s = m := by
  funext i
  by_cases hi : a ≤ i ∧ i < a + s.length
  · obtain ⟨k, rfl⟩ := Nat.exists_eq_add_of_le hi.1
    have hk : k < s.length := by omega
    rw [store_add hk, List.getElem_of_eq h.symm hk]
    simp only [bytesAt, List.getElem_map, List.getElem_range]
  · exact store_of_not_inside hi

/-- A string that is written once more over itself. -/
lemma HoldsString.store (h : HoldsString m a s) : m.store a (s ++ [0]) = m :=
  store_of_bytesAt (by rw [List.length_append, List.length_singleton]; exact h.2)

/-- There is one string at an address. -/
lemma HoldsString.unique (hs : HoldsString m a s) (ht : HoldsString m a bytes) : s = bytes := by
  induction s generalizing a bytes with
  | nil =>
      cases bytes with
      | nil => rfl
      | cons c bytes =>
          obtain ⟨hc, hne, -⟩ := holdsString_cons.mp ht
          exact absurd (hc.symm.trans hs.of_nil) hne
  | cons b s ih =>
      obtain ⟨hb, hne, hrest⟩ := holdsString_cons.mp hs
      cases bytes with
      | nil => exact absurd (hb.symm.trans ht.of_nil) hne
      | cons c bytes =>
          obtain ⟨hc, -, hrest'⟩ := holdsString_cons.mp ht
          rw [ih hrest hrest', hb.symm.trans hc]

lemma bytesAt_store_of_le (hle : n ≤ s.length) : (m.store a s).bytesAt a n = s.take n := by
  rw [← take_bytesAt (m.store a s) a hle, bytesAt_store]

/-- An end character is written behind a string. -/
lemma holdsString_store_zero (hnul : 0 ∉ s) (hbytes : m.bytesAt a s.length = s) :
    HoldsString (m.store (a + s.length) [0]) a s := by
  have hsame : SameOutside m (m.store (a + s.length) [0]) (a + s.length) 1 :=
    sameOutside_store (Nat.le_refl 1)
  refine ⟨hnul, ?_⟩
  rw [bytesAt_add, bytesAt_of_sameOutside hsame (.inl (Nat.le_refl _)), hbytes]
  exact congrArg _ (bytesAt_store m (a + s.length) [0])

/-- The end character cuts off what stands behind it. -/
lemma holdsString_cut (hnul : 0 ∉ s) (hle : n ≤ s.length) :
    HoldsString ((m.store a s).store (a + n) [0]) a (s.take n) := by
  have hlength : (s.take n).length = n := List.length_take_of_le hle
  have hbytes : (m.store a s).bytesAt a (s.take n).length = s.take n := by
    rw [hlength, bytesAt_store_of_le hle]
  have hends := holdsString_store_zero (fun h => hnul (List.mem_of_mem_take h)) hbytes
  rwa [hlength] at hends

end Memory

end LocHal
