import Mathlib.Data.Fintype.Basic
import Mathlib.Data.Finset.Card
import Mathlib.Data.Int.Notation
import Mathlib.Algebra.Group.Int.Defs
import Mathlib.Tactic.Push

/-!
# Objects that are deleted by the last of their owners

An object is shared by finitely many owners.  Each of them gives up its share once, by counting down
the number of shares, and the one who counts from one to zero deletes the object.  `Counted` says
that the count tells the truth about the owners; `Counted.release` and `Counted.delete` are the two
moves that keep it, and what an owner may rely on is `Counted.alive` (the object is there as long as
somebody holds it or is about to delete it) and `Counted.pos`.
-/

namespace LocHal

/-- What an owner has to do with the object: it has its share, it has counted down to zero and is
about to delete the object, or it is done with it. -/
inductive Share where
  | holding
  | deleting
  | free
deriving DecidableEq, Repr

namespace Share

variable {ι : Type*} [Fintype ι]

/-- The owners that have their share. -/
def holders (share : ι → Share) : Finset ι := {i | share i = .holding}

/-- The count, `none` when the object is deleted, agrees with the owners: it is the number of those
that have their share, and when somebody is about to delete the object nobody else is left. -/
structure Counted (count : Option ℤ) (share : ι → Share) : Prop where
  count_eq : ∀ n, count = some n → n = (holders share).card
  alone : ∀ i, share i = .deleting → ∀ j, j ≠ i → share j = .free
  deleted_iff : count = none ↔ ∀ i, share i = .free

variable {count : Option ℤ} {share : ι → Share} {i : ι} {n : ℤ}

lemma mem_holders : i ∈ holders share ↔ share i = .holding := by
  simp [holders]

/-- All have their share at first, or all but some that never had one. -/
lemma counted_of_holding (hshare : ∀ i, share i = .holding ∨ share i = .free)
    (hi : share i = .holding) : Counted (some ((holders share).card : ℤ)) share where
  count_eq n hn := (Option.some.inj hn).symm
  alone j hj := by
    rcases hshare j with h | h
    · rw [h] at hj
      cases hj
    · rw [h] at hj
      cases hj
  deleted_iff := by
    refine iff_of_false (Option.some_ne_none _) fun h => ?_
    rw [h i] at hi
    cases hi

namespace Counted

/-- Nobody uses the object after it has been deleted. -/
lemma alive (h : Counted count share) (hi : share i ≠ .free) : ∃ n, count = some n := by
  rw [← Option.ne_none_iff_exists']
  exact fun hnone => hi (h.deleted_iff.mp hnone i)

/-- An owner with its share finds a positive count. -/
lemma pos (h : Counted (some n) share) (hi : share i = .holding) : 0 < n := by
  rw [h.count_eq n rfl, Int.natCast_pos, Finset.card_pos]
  exact ⟨i, mem_holders.mpr hi⟩

lemma holders_update [DecidableEq ι] (hi : share i = .holding) {x : Share} (hx : x ≠ .holding) :
    holders (Function.update share i x) = (holders share).erase i := by
  ext j
  rw [mem_holders, Finset.mem_erase, mem_holders]
  by_cases hj : j = i
  · subst hj
    simp [hx]
  · simp [hj]

/-- **Counting down.**  The owner deletes the object if it has counted from one. -/
theorem release [DecidableEq ι] (h : Counted (some n) share) (hi : share i = .holding) :
    Counted (some (n - 1)) (Function.update share i (if n = 1 then .deleting else .free)) := by
  have hcard := h.count_eq n rfl
  have hmem : i ∈ holders share := mem_holders.mpr hi
  have hx : (if n = 1 then Share.deleting else .free) ≠ .holding := by
    split
    · exact nofun
    · exact nofun
  have hnotDeleting : ∀ j, share j ≠ .deleting := by
    intro j hj
    have hji : i ≠ j := by
      rintro rfl
      rw [hi] at hj
      cases hj
    rw [h.alone j hj i hji] at hi
    cases hi
  -- when the count is one, no other owner has its share
  have hlast : n = 1 → ∀ j, j ≠ i → share j = .free := by
    intro hn j hj
    have hone : (holders share).card = 1 := by omega
    obtain ⟨k, hk⟩ := Finset.card_eq_one.mp hone
    cases hshare : share j with
    | free => rfl
    | deleting => exact absurd hshare (hnotDeleting j)
    | holding =>
        have hjk : j ∈ holders share := mem_holders.mpr hshare
        rw [hk, Finset.mem_singleton] at hjk hmem
        exact absurd (hjk.trans hmem.symm) hj
  refine ⟨?_, ?_, iff_of_false (Option.some_ne_none _) ?_⟩
  · intro m hm
    have hpos : 0 < (holders share).card := Finset.card_pos.mpr ⟨i, hmem⟩
    rw [holders_update hi hx, Finset.card_erase_of_mem hmem, ← Option.some.inj hm]
    omega
  · intro j hj k hk
    by_cases hji : j = i
    · subst hji
      rw [Function.update_self] at hj
      have hn : n = 1 := by
        by_contra hne
        rw [if_neg hne] at hj
        cases hj
      rw [Function.update_of_ne hk]
      exact hlast hn k hk
    · rw [Function.update_of_ne hji] at hj
      exact absurd hj (hnotDeleting j)
  · intro hall
    by_cases hn : n = 1
    · have hfree := hall i
      rw [Function.update_self, if_pos hn] at hfree
      cases hfree
    · have herase : (holders share).erase i ≠ ∅ := by
        have hpos : 0 < (holders share).card := Finset.card_pos.mpr ⟨i, hmem⟩
        rw [← Finset.card_pos.trans Finset.nonempty_iff_ne_empty, Finset.card_erase_of_mem hmem]
        omega
      obtain ⟨j, hj⟩ := Finset.nonempty_iff_ne_empty.mpr herase
      rw [Finset.mem_erase, mem_holders] at hj
      have hfree := hall j
      rw [Function.update_of_ne hj.1, hj.2] at hfree
      cases hfree

/-- **Deletion.** -/
theorem delete [DecidableEq ι] (h : Counted count share) (hi : share i = .deleting) :
    Counted none (Function.update share i .free) := by
  have hall : ∀ j, Function.update share i .free j = .free := by
    intro j
    by_cases hj : j = i
    · rw [hj, Function.update_self]
    · rw [Function.update_of_ne hj]
      exact h.alone i hi j hj
  refine ⟨nofun, fun j hj => ?_, iff_of_true rfl hall⟩
  rw [hall j] at hj
  cases hj

end Counted

end Share

end LocHal
