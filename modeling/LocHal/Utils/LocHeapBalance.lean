import LocHal.Utils.LocHeap
import Mathlib.Data.Nat.Log

/-!
# The shape of a heap that is only pushed to (`gps/utils/LocHeap.cpp`)

`LocHeapNode::push` sends the new object into the smaller of the two subtrees, the left one on a
tie; an absent child is filled before any sizes are compared.  The sizes it reads are those from
before the insertion, so the invariant is about every node of the old tree: the left subtree has as
many nodes as the right one, or one more.  `pop` and `remove` keep no such balance.
-/

namespace LocHal

namespace LocHeapNode

variable {α : Type*}

/-- At every node the left subtree has as many nodes as the right one, or one more. -/
def Balanced : LocHeapNode α → Prop
  | null => True
  | node _ l r _ =>
      ((l.numNodes : ℤ) - r.numNodes = 0 ∨ (l.numNodes : ℤ) - r.numNodes = 1) ∧
        l.Balanced ∧ r.Balanced

/-- The number of nodes on a longest path down. -/
def height : LocHeapNode α → ℕ
  | null => 0
  | node _ l r _ => 1 + max l.height r.height

@[simp] lemma numNodes_null : (null : LocHeapNode α).numNodes = 0 := rfl

lemma numNodes_eq_zero {t : LocHeapNode α} : t.numNodes = 0 ↔ t = null := by
  cases t with
  | null => exact ⟨fun _ => rfl, fun _ => rfl⟩
  | node s l r d =>
      constructor
      · intro h
        simp only [numNodes] at h
        omega
      · intro h
        cases h

section Ranked

variable [LocRankable α]

/-- The insertion goes to the smaller subtree, the left one on a tie: a missing left child is not
larger than anything, and a missing right child is smaller than the left one. -/
lemma push_node_cases (s : ℤ) {l r : LocHeapNode α} (d x : α) (hl : l.Sized) (hr : r.Sized) :
    ∃ top low, (l.numNodes ≤ r.numNodes ∧
        (node s l r d).push x = node (s + 1) (l.push low) r top) ∨
      (r.numNodes < l.numNodes ∧ (node s l r d).push x = node (s + 1) l (r.push low) top) := by
  refine ⟨if outRanks x d then x else d, if outRanks x d then d else x, ?_⟩
  simp only [push, data?_eq_none, hl.getSize_eq, hr.getSize_eq]
  by_cases hl0 : l = null
  · left
    subst hl0
    exact ⟨Nat.zero_le _, by simp⟩
  · by_cases hr0 : r = null
    · right
      subst hr0
      have hpos : 0 < l.numNodes := Nat.pos_of_ne_zero (mt numNodes_eq_zero.1 hl0)
      exact ⟨hpos, by simp [hl0]⟩
    · by_cases hle : l.numNodes ≤ r.numNodes
      · left
        exact ⟨hle, by simp [hl0, hr0, hle]⟩
      · right
        exact ⟨by omega, by simp [hl0, hr0, hle]⟩

lemma Balanced.push {t : LocHeapNode α} (ht : t.Sized) (h : t.Balanced) (x : α) :
    (t.push x).Balanced := by
  induction t generalizing x with
  | null => exact ⟨Or.inl rfl, trivial, trivial⟩
  | node s l r d ihl ihr =>
      obtain ⟨-, hsl, hsr⟩ := ht
      obtain ⟨hlr, hl, hr⟩ := h
      obtain ⟨top, low, ⟨hle, heq⟩ | ⟨hlt, heq⟩⟩ := push_node_cases s d x hsl hsr
      · rw [heq]
        refine ⟨?_, ihl hsl hl low, hr⟩
        rw [numNodes_push]
        omega
      · rw [heq]
        refine ⟨?_, hl, ihr hsr hr low⟩
        rw [numNodes_push]
        omega

end Ranked

lemma Balanced.le_of_node {s : ℤ} {l r : LocHeapNode α} {d : α} (h : (node s l r d).Balanced) :
    r.numNodes ≤ l.numNodes ∧ l.numNodes ≤ r.numNodes + 1 := by
  obtain ⟨hlr, -, -⟩ := h
  constructor <;> omega

/-- The bound for a subtree, read off for the node above it. -/
lemma two_pow_height_le_of_ne {l r u : LocHeapNode α}
    (hu : u ≠ null → 2 ^ u.height ≤ 2 * u.numNodes) (hul : u.numNodes ≤ l.numNodes)
    (hlr : l.numNodes ≤ r.numNodes + 1) : 2 ^ u.height ≤ 1 + (l.numNodes + r.numNodes) := by
  by_cases hu0 : u = null
  · subst hu0
    simp only [height, Nat.pow_zero]
    omega
  · have hpow := hu hu0
    omega

/-- One more level takes twice as many nodes. -/
lemma Balanced.two_pow_height_le {t : LocHeapNode α} (h : t.Balanced) (ht : t ≠ null) :
    2 ^ t.height ≤ 2 * t.numNodes := by
  induction t with
  | null => exact absurd rfl ht
  | node s l r d ihl ihr =>
      obtain ⟨hrl, hlr⟩ := h.le_of_node
      have hl := two_pow_height_le_of_ne (ihl h.2.1) le_rfl hlr
      have hr := two_pow_height_le_of_ne (ihr h.2.2) hrl hlr
      have hmax : 2 ^ max l.height r.height ≤ 1 + (l.numNodes + r.numNodes) := by
        rcases Nat.le_total l.height r.height with hm | hm
        · rw [Nat.max_eq_right hm]
          exact hr
        · rw [Nat.max_eq_left hm]
          exact hl
      calc 2 ^ (1 + max l.height r.height) = 2 * 2 ^ max l.height r.height := by
            rw [Nat.pow_add, Nat.pow_one]
        _ ≤ 2 * (1 + (l.numNodes + r.numNodes)) := Nat.mul_le_mul_left 2 hmax
        _ = 2 * (1 + l.numNodes + r.numNodes) := by omega

lemma Balanced.height_le {t : LocHeapNode α} (h : t.Balanced) :
    t.height ≤ Nat.log 2 t.numNodes + 1 := by
  by_cases ht : t = null
  · subst ht
    exact Nat.zero_le _
  · have hn : t.numNodes ≠ 0 := mt numNodes_eq_zero.1 ht
    have hpow := h.two_pow_height_le ht
    have hlt : t.numNodes < 2 ^ (Nat.log 2 t.numNodes + 1) :=
      Nat.lt_pow_succ_log_self (by omega) _
    have hle : 2 ^ t.height < 2 ^ (Nat.log 2 t.numNodes + 2) := by
      rw [Nat.pow_succ 2 (Nat.log 2 t.numNodes + 1)]
      omega
    have hlt' := (Nat.pow_lt_pow_iff_right (by omega : 1 < 2)).1 hle
    omega

end LocHeapNode

namespace LocHeap

variable {α : Type*} [LocRankable α]

/-- What pushes leave behind: sizes are counts, and the tree is balanced. -/
lemma pushes_shape (xs : List α) (h : LocHeap α) (hs : h.mTree.Sized) (hb : h.mTree.Balanced) :
    (xs.foldl push h).mTree.Sized ∧ (xs.foldl push h).mTree.Balanced ∧
      (xs.foldl push h).mTree.numNodes = h.mTree.numNodes + xs.length := by
  induction xs generalizing h with
  | nil => exact ⟨hs, hb, rfl⟩
  | cons x xs ih =>
      obtain ⟨hs', hb', hn⟩ := ih (h.push x) (hs.push x) (hb.push hs x)
      refine ⟨hs', hb', ?_⟩
      rw [List.foldl_cons, hn, push, LocHeapNode.numNodes_push, List.length_cons]
      omega

/-- However the objects rank, a heap made by pushes alone is balanced at every node, and its height
is logarithmic in the number of pushes. -/
theorem pushes_balanced (xs : List α) :
    (xs.foldl push empty).mTree.Sized ∧ (xs.foldl push empty).mTree.Balanced ∧
      (xs.foldl push empty).mTree.height ≤ Nat.log 2 xs.length + 1 := by
  obtain ⟨hs, hb, hn⟩ := pushes_shape xs empty trivial trivial
  refine ⟨hs, hb, ?_⟩
  have hlen : (xs.foldl push empty).mTree.numNodes = xs.length := by
    rw [hn]
    exact Nat.zero_add _
  rw [← hlen]
  exact hb.height_le

end LocHeap

end LocHal
