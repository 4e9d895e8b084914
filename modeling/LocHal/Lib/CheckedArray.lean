import Mathlib.Algebra.Ring.Int.Defs
import Mathlib.Algebra.Ring.Nat
import Mathlib.Data.List.Basic

/-!
# Arrays with checked accesses

A program on arrays whose accesses give nothing where the language leaves them open: at an index
outside the array, of an element that was never written, with a value that the type of the elements
does not have.  That such a program gives something is that it makes no such access.

`exists_foldlM_range`: an invariant of a counting loop whose body gives something.
-/

namespace LocHal

variable {α : Type*}

/-- The element at an index inside the array. -/
def readAt (a : List α) (i : ℤ) : Option α := if 0 ≤ i then a[i.toNat]? else none

/-- An integer that an `int` has. -/
def checkedInt (n : ℤ) : Option ℤ := if -2 ^ 31 ≤ n ∧ n < 2 ^ 31 then some n else none

/-- An array of `int`, some of them not written yet. -/
abbrev IntTable := List (Option ℤ)

namespace IntTable

def uninitialized (n : ℕ) : IntTable := List.replicate n none

def read (t : IntTable) (i : ℤ) : Option ℤ := (readAt t i).join

def write (t : IntTable) (i v : ℤ) : Option IntTable := do
  let v ← checkedInt v
  if 0 ≤ i ∧ i < t.length then some (t.set i.toNat (some v)) else none

end IntTable

section Accesses

variable {a : List α} {t : IntTable} {n k : ℕ} {v : ℤ}

lemma readAt_natCast (a : List α) (n : ℕ) : readAt a n = a[n]? := by
  rw [readAt, if_pos (Int.natCast_nonneg n), Int.toNat_natCast]

/-- An index that is a natural number below the length. -/
lemma readAt_of_lt {i : ℤ} (hi : i = n) (h : n < a.length) : readAt a i = some a[n] := by
  rw [hi, readAt_natCast, List.getElem?_eq_getElem h]

lemma getElem?_eq_getElem?_iff {b : List α} (hn : n < a.length) (hk : k < b.length) :
    a[n]? = b[k]? ↔ a[n] = b[k] := by
  rw [List.getElem?_eq_getElem hn, List.getElem?_eq_getElem hk, Option.some_inj]

lemma checkedInt_of_mem (hlow : -2 ^ 31 ≤ v) (hhigh : v < 2 ^ 31) : checkedInt v = some v :=
  if_pos ⟨hlow, hhigh⟩

namespace IntTable

lemma read_natCast (t : IntTable) (n : ℕ) : t.read n = (t[n]?).join := by
  rw [read, readAt_natCast]

lemma write_of_lt {i : ℤ} (hi : i = n) (h : n < t.length) (hlow : -2 ^ 31 ≤ v)
    (hhigh : v < 2 ^ 31) : t.write i v = some (t.set n (some v)) := by
  have hinside : (0 : ℤ) ≤ i ∧ i < t.length := by omega
  rw [write, checkedInt_of_mem hlow hhigh]
  show (if 0 ≤ i ∧ i < t.length then some (t.set i.toNat (some v)) else none) = _
  rw [if_pos hinside, hi, Int.toNat_natCast]

lemma read_set_self (h : n < t.length) : IntTable.read (t.set n (some v)) n = some v := by
  rw [read_natCast, List.getElem?_set_self h, Option.join_some]

lemma read_set_of_ne (h : n ≠ k) : IntTable.read (t.set n (some v)) k = t.read k := by
  rw [read_natCast, read_natCast, List.getElem?_set_ne h]

end IntTable

end Accesses

/-- A counting loop keeps an invariant, and gives something, when its body does. -/
theorem exists_foldlM_range {σ : Type*} {f : σ → ℕ → Option σ} {motive : ℕ → σ → Prop} {n : ℕ}
    {s : σ} (hstart : motive 0 s)
    (hstep : ∀ i < n, ∀ s, motive i s → ∃ s', f s i = some s' ∧ motive (i + 1) s') :
    ∃ s', (List.range n).foldlM f s = some s' ∧ motive n s' := by
  induction n with
  | zero => exact ⟨s, rfl, hstart⟩
  | succ n ih =>
      obtain ⟨s', hrun, hs'⟩ := ih fun i hi => hstep i (by omega)
      obtain ⟨s'', hbody, hs''⟩ := hstep n (by omega) s' hs'
      refine ⟨s'', ?_, hs''⟩
      rw [List.range_succ, List.foldlM_append, hrun]
      simp [hbody]

end LocHal
