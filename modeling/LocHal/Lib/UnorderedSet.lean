import Mathlib.Data.List.AList
import Mathlib.Tactic.SplitIfs

/-!
# Unordered sets with an iteration order

The unordered set of a standard library: a duplicate-free collection that is iterated in some
order which its users may not rely on.  The elements are kept in the order in which a loop visits
them; everything proved about a set is proved of its membership, so it holds for every order.
-/

namespace LocHal

/-- An unordered set, listed in the order in which it is iterated. -/
structure UnorderedSet (α : Type*) where
  elems : List α
  nodup : elems.Nodup
deriving DecidableEq, Repr

namespace UnorderedSet

variable {α : Type*}

instance : Membership α (UnorderedSet α) := ⟨fun s a => a ∈ s.elems⟩

instance : EmptyCollection (UnorderedSet α) := ⟨⟨[], List.nodup_nil⟩⟩

@[simp] lemma mem_elems {s : UnorderedSet α} {a : α} : a ∈ s.elems ↔ a ∈ s := Iff.rfl

@[simp] lemma notMem_empty (a : α) : a ∉ (∅ : UnorderedSet α) := List.not_mem_nil

/-- `empty()`. -/
def isEmpty (s : UnorderedSet α) : Bool := s.elems.isEmpty

lemma isEmpty_iff {s : UnorderedSet α} : s.isEmpty = true ↔ ∀ a, a ∉ s := by
  rw [isEmpty, List.isEmpty_iff, List.eq_nil_iff_forall_not_mem]
  rfl

lemma isEmpty_eq_false_iff {s : UnorderedSet α} : s.isEmpty = false ↔ ∃ a, a ∈ s := by
  rw [← Bool.not_eq_true, isEmpty_iff]
  exact not_forall_not

/-- The one-element set `{a}`. -/
def singleton (a : α) : UnorderedSet α := ⟨[a], List.nodup_singleton a⟩

@[simp] lemma mem_singleton {a b : α} : b ∈ singleton a ↔ b = a := List.mem_singleton

variable [DecidableEq α]

instance (a : α) (s : UnorderedSet α) : Decidable (a ∈ s) :=
  inferInstanceAs (Decidable (a ∈ s.elems))

/-- `insert(a)`. -/
def insert (a : α) (s : UnorderedSet α) : UnorderedSet α :=
  ⟨s.elems.insert a, s.nodup.insert⟩

@[simp] lemma mem_insert {a b : α} {s : UnorderedSet α} : b ∈ s.insert a ↔ b = a ∨ b ∈ s :=
  List.mem_insert_iff

/-- `erase(a)`. -/
def erase (s : UnorderedSet α) (a : α) : UnorderedSet α := ⟨s.elems.erase a, s.nodup.erase a⟩

@[simp] lemma mem_erase {a b : α} {s : UnorderedSet α} : b ∈ s.erase a ↔ b ≠ a ∧ b ∈ s :=
  s.nodup.mem_erase_iff

/-- `insert(first, last)`: the elements of a range one after the other. -/
def insertAll (s : UnorderedSet α) (l : List α) : UnorderedSet α :=
  l.foldl (fun s a => s.insert a) s

@[simp] lemma mem_insertAll {l : List α} {s : UnorderedSet α} {b : α} :
    b ∈ s.insertAll l ↔ b ∈ s ∨ b ∈ l := by
  induction l generalizing s with
  | nil => simp [insertAll]
  | cons a l ih =>
      rw [insertAll, List.foldl_cons, ← insertAll, ih, mem_insert, List.mem_cons]
      tauto

end UnorderedSet

end LocHal
