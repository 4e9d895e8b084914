import LocHal.Lib.Machine
import LocHal.Lib.PriorityQueue
import Mathlib.Algebra.Ring.Int.Defs
import Mathlib.Algebra.Ring.Nat
import Mathlib.Tactic.SplitIfs

/-!
# The priority heap (`gps/utils/LocHeap.cpp`)

`LocHeap` is a binary tree of nodes, each holding a pointer to a client object and the size of its
subtree.  `push` walks down the smaller subtree, swapping data so that the better ranked object
stays above; `pop` pulls the better ranked child up at each level and drops the leaf it ends in;
`remove` searches for an object by address, cutting off every subtree whose top the object
outranks.

The elements `α` are the addresses of the client objects, so equality of elements is identity, and
two different elements may rank the same.  A `NULL` node pointer is `LocHeapNode.null`.
-/

namespace LocHal

/-- `LocRankable`: the virtual `ranks`, positive when the first argument ranks higher. -/
class LocRankable (α : Type*) where
  ranks : α → α → ℤ

/-- `LocRankable::outRanks`. -/
def outRanks {α : Type*} [LocRankable α] (a b : α) : Prop := LocRankable.ranks a b > 0

instance {α : Type*} [LocRankable α] (a b : α) : Decidable (outRanks a b) :=
  inferInstanceAs (Decidable (_ > _))

/-- The relation "does not rank above" is a total preorder. -/
class RankPreorder (α : Type*) [LocRankable α] : Prop where
  total : ∀ a b : α, ¬ outRanks a b ∨ ¬ outRanks b a
  trans : ∀ a b c : α, ¬ outRanks a b → ¬ outRanks b c → ¬ outRanks a c

lemma not_outRanks_self {α : Type*} [LocRankable α] [RankPreorder α] (a : α) :
    ¬ outRanks a a := by
  rcases RankPreorder.total a a with h | h <;> exact h

lemma outRanks.not_outRanks {α : Type*} [LocRankable α] [RankPreorder α] {a b : α}
    (h : outRanks a b) : ¬ outRanks b a := by
  rcases RankPreorder.total a b with h' | h'
  · exact absurd h h'
  · exact h'

/-- `LocHeapDebugData` of the heap's own test, with the address the object is known by. -/
structure LocHeapDebugData where
  address : ℕ
  mID : ℤ
deriving DecidableEq, Repr

namespace LocHeapDebugData

/-- `LocHeapDebugData::ranks`: the smaller `mID` ranks higher. -/
instance : LocRankable LocHeapDebugData := ⟨fun a b => b.mID - a.mID⟩

lemma outRanks_iff (a b : LocHeapDebugData) : outRanks a b ↔ a.mID < b.mID := by
  simp only [outRanks, LocRankable.ranks]
  omega

instance : RankPreorder LocHeapDebugData where
  total a b := by
    simp only [outRanks_iff]
    omega
  trans a b c := by
    simp only [outRanks_iff]
    omega

end LocHeapDebugData

/-- `LocHeapNode`, with `null` for a `NULL` pointer. -/
inductive LocHeapNode (α : Type*) where
  | null
  | node (mSize : ℤ) (mLeft mRight : LocHeapNode α) (mData : α)
deriving DecidableEq, Repr

namespace LocHeapNode

variable {α : Type*}

/-- `mData` of a node; nothing for `NULL`. -/
def data? : LocHeapNode α → Option α
  | null => none
  | node _ _ _ d => some d

/-- `getSize`, only read behind a `NULL` test. -/
def getSize : LocHeapNode α → ℤ
  | null => 0
  | node s _ _ _ => s

section Operations

variable [LocRankable α]

/-- `LocHeapNode::push`.  On `null` this is the fresh node itself, hung where the pointer was.
The swap leaves the better ranked of the two objects in the node and sends the other one down. -/
def push : LocHeapNode α → α → LocHeapNode α
  | null, x => node 1 null null x
  | node s l r d, x =>
      let top := if outRanks x d then x else d
      let low := if outRanks x d then d else x
      if l.data? = none then node (s + 1) (push l low) r top
      else if r.data? = none then node (s + 1) l (push r low) top
      else if l.getSize ≤ r.getSize then node (s + 1) (push l low) r top
      else node (s + 1) l (push r low) top

/-- The recursion of `LocHeapNode::pop`.  Each level swaps the data of `top` and `subTop` before
it descends, so the node popped at the leaf carries the data the first level was to give up:
`carried` is that data, and stands in for the node's own. -/
def popCarrying (carried : α) : LocHeapNode α → LocHeapNode α × α
  | null => (null, carried)
  | node s l r _ =>
      match l.data?, r.data? with
      | none, none => (null, carried)
      | none, some rd => (node (s - 1) l (popCarrying carried r).1 rd, (popCarrying carried r).2)
      | some ld, none => (node (s - 1) (popCarrying carried l).1 r ld, (popCarrying carried l).2)
      | some ld, some rd =>
          if outRanks ld rd then
            (node (s - 1) (popCarrying carried l).1 r ld, (popCarrying carried l).2)
          else
            (node (s - 1) l (popCarrying carried r).1 rd, (popCarrying carried r).2)

/-- `LocHeapNode::pop`: the tree without its top, and the popped data. -/
def pop : LocHeapNode α → LocHeapNode α × Option α
  | null => (null, none)
  | node s l r d => ((popCarrying d (node s l r d)).1, some (popCarrying d (node s l r d)).2)

/-- `LocHeapNode::remove`: look for the object with this address, the left subtree first. -/
def remove [DecidableEq α] (data : α) : LocHeapNode α → LocHeapNode α × Option α
  | null => (null, none)
  | node s l r d =>
      if data = d then pop (node s l r d)
      else if ¬ outRanks data d then
        match remove data l with
        | (l', some y) => (node (s - 1) l' r d, some y)
        | (l', none) =>
            match remove data r with
            | (r', some y) => (node (s - 1) l' r' d, some y)
            | (r', none) => (node s l' r' d, none)
      else (node s l r d, none)

/-- `LocHeapNode::checkNodes`: no child outranks its parent, and what is left of `mSize` after
both subtrees are taken off is one. -/
def checkNodes : LocHeapNode α → Bool
  | null => true
  | node s l r d =>
      (match l.data? with
        | some ld => !(decide (outRanks ld d)) && checkNodes l
        | none => true) &&
      (match r.data? with
        | some rd => !(decide (outRanks rd d)) && checkNodes r
        | none => true) &&
      decide (s - l.getSize - r.getSize = 1)

end Operations

end LocHeapNode

/-- `LocHeap`. -/
structure LocHeap (α : Type*) where
  mTree : LocHeapNode α
deriving DecidableEq, Repr

namespace LocHeap

variable {α : Type*}

/-- `LocHeap()`. -/
def empty : LocHeap α := ⟨.null⟩

/-- `LocHeap::peek`. -/
def peek (h : LocHeap α) : Option α := h.mTree.data?

/-- `LocHeap::getTreeSize`. -/
def getTreeSize (h : LocHeap α) : ℤ := h.mTree.getSize

variable [LocRankable α]

/-- `LocHeap::push`. -/
def push (h : LocHeap α) (x : α) : LocHeap α := ⟨h.mTree.push x⟩

/-- `LocHeap::pop`: the heap left and the object popped, `none` for `NULL`. -/
def pop (h : LocHeap α) : LocHeap α × Option α := (⟨h.mTree.pop.1⟩, h.mTree.pop.2)

/-- `LocHeap::remove`: the heap left and the object removed, `none` for `NULL`. -/
def remove [DecidableEq α] (h : LocHeap α) (x : α) : LocHeap α × Option α :=
  (⟨(h.mTree.remove x).1⟩, (h.mTree.remove x).2)

/-- `LocHeap::checkTree`. -/
def checkTree (h : LocHeap α) : Bool := h.mTree.checkNodes

/-- One call on the heap: the heap left and the object handed out. -/
def call [DecidableEq α] (h : LocHeap α) : PriorityQueue.Op α → LocHeap α × Option α
  | .push x => (h.push x, none)
  | .pop => h.pop
  | .remove x => h.remove x

/-- The heap as a machine over its calls; the outputs are the objects handed out. -/
def machine (α : Type*) [LocRankable α] [DecidableEq α] :
    Machine (LocHeap α) (PriorityQueue.Op α) α where
  step h op := ((h.call op).1, (h.call op).2.toList)

end LocHeap

/-! ## The stored objects, and the shape of a heap -/

namespace LocHeapNode

variable {α : Type*}

/-- The objects stored in a tree. -/
def elements : LocHeapNode α → Multiset α
  | null => 0
  | node _ l r d => d ::ₘ (elements l + elements r)

/-- The objects stored below the top of a tree. -/
def descendants : LocHeapNode α → Multiset α
  | null => 0
  | node _ l r _ => elements l + elements r

/-- The number of nodes of a tree. -/
def numNodes : LocHeapNode α → ℕ
  | null => 0
  | node _ l r _ => 1 + numNodes l + numNodes r

/-- Every `mSize` is the number of nodes of its own subtree. -/
def Sized : LocHeapNode α → Prop
  | null => True
  | node s l r d => s = numNodes (node s l r d) ∧ Sized l ∧ Sized r

@[simp] lemma elements_null : (null : LocHeapNode α).elements = 0 := rfl

@[simp] lemma elements_node (s : ℤ) (l r : LocHeapNode α) (d : α) :
    (node s l r d).elements = d ::ₘ (l.elements + r.elements) := rfl

@[simp] lemma data?_null : (null : LocHeapNode α).data? = none := rfl

@[simp] lemma data?_node (s : ℤ) (l r : LocHeapNode α) (d : α) :
    (node s l r d).data? = some d := rfl

@[simp] lemma data?_eq_none {t : LocHeapNode α} : t.data? = none ↔ t = null := by
  cases t <;> simp

lemma card_elements (t : LocHeapNode α) : t.elements.card = t.numNodes := by
  induction t with
  | null => rfl
  | node s l r d ihl ihr =>
      simp only [elements_node, Multiset.card_cons, Multiset.card_add, ihl, ihr, numNodes]
      omega

lemma Sized.getSize_eq {t : LocHeapNode α} (h : t.Sized) : t.getSize = t.numNodes := by
  cases t with
  | null => rfl
  | node s l r d => exact h.1

/-- A top and what is below it make up the tree. -/
lemma elements_eq_cons {t : LocHeapNode α} {d : α} (h : t.data? = some d) :
    t.elements = d ::ₘ t.descendants := by
  cases t with
  | null => cases h
  | node s l r d' => cases h; rfl

lemma data?_mem_elements {t : LocHeapNode α} {d : α} (h : t.data? = some d) : d ∈ t.elements := by
  rw [elements_eq_cons h]
  exact Multiset.mem_cons_self _ _

section Ranked

variable [LocRankable α]

/-- The top of `t`, if there is one, does not outrank `d`. -/
def TopBelow (t : LocHeapNode α) (d : α) : Prop := ∀ c ∈ t.data?, ¬ outRanks c d

/-- No child outranks its parent. -/
def Ordered : LocHeapNode α → Prop
  | null => True
  | node _ l r d => TopBelow l d ∧ TopBelow r d ∧ Ordered l ∧ Ordered r

@[simp] lemma topBelow_null (d : α) : (null : LocHeapNode α).TopBelow d := by
  intro c hc
  cases hc

@[simp] lemma topBelow_node (s : ℤ) (l r : LocHeapNode α) (c d : α) :
    (node s l r c).TopBelow d ↔ ¬ outRanks c d := by
  simp [TopBelow]

lemma topBelow_of_data?_eq {t : LocHeapNode α} {c d : α} (h : t.data? = some c)
    (hcd : ¬ outRanks c d) : t.TopBelow d := by
  intro y hy
  rw [h] at hy
  cases hy
  exact hcd

/-! ### `push` -/

lemma elements_push (t : LocHeapNode α) (x : α) : (t.push x).elements = x ::ₘ t.elements := by
  induction t generalizing x with
  | null => simp [push]
  | node s l r d ihl ihr =>
      simp only [push]
      split_ifs <;>
        simp only [elements_node, ihl, ihr, Multiset.cons_add, Multiset.add_cons] <;>
        first | rfl | exact Multiset.cons_swap _ _ _

lemma numNodes_push (t : LocHeapNode α) (x : α) : (t.push x).numNodes = t.numNodes + 1 := by
  simp only [← card_elements, elements_push, Multiset.card_cons]

lemma Sized.push {t : LocHeapNode α} (h : t.Sized) (x : α) : (t.push x).Sized := by
  induction t generalizing x with
  | null => exact ⟨by simp [numNodes], trivial, trivial⟩
  | node s l r d ihl ihr =>
      obtain ⟨hs, hl, hr⟩ := h
      simp only [numNodes] at hs
      simp only [LocHeapNode.push]
      split_ifs <;>
        refine ⟨?_, ?_, ?_⟩ <;>
        first
          | exact ihl hl _
          | exact ihr hr _
          | assumption
          | (simp only [numNodes, numNodes_push]; push_cast at hs ⊢; omega)

/-- After a push the top is the better ranked of the old top and the new object. -/
lemma data?_push (t : LocHeapNode α) (x : α) :
    (t.push x).data? = some (t.data?.elim x fun d => if outRanks x d then x else d) := by
  cases t with
  | null => rfl
  | node s l r d =>
      simp only [push, data?_node, Option.elim]
      split_ifs <;> rfl

lemma TopBelow.push {t : LocHeapNode α} {x d : α} (h : t.TopBelow d) (hx : ¬ outRanks x d) :
    (t.push x).TopBelow d := by
  intro c hc
  rw [data?_push] at hc
  cases hc
  cases ht : t.data? with
  | none => exact hx
  | some e =>
      simp only [Option.elim]
      split_ifs
      · exact hx
      · exact h e ht

/-! ### `pop` -/

@[simp] lemma popCarrying_snd (x : α) (t : LocHeapNode α) : (popCarrying x t).2 = x := by
  induction t with
  | null => rfl
  | node s l r d ihl ihr =>
      simp only [popCarrying]
      split
      · rfl
      · exact ihr
      · exact ihl
      · split_ifs
        · exact ihl
        · exact ihr

/-- Popping a tree leaves exactly what was stored below its top. -/
lemma elements_popCarrying (x : α) (t : LocHeapNode α) :
    (popCarrying x t).1.elements = t.descendants := by
  induction t with
  | null => rfl
  | node s l r d ihl ihr =>
      simp only [popCarrying, descendants]
      split
      · rename_i hl hr
        rw [data?_eq_none] at hl hr
        subst hl hr
        rfl
      · rename_i rd hl hr
        rw [elements_node, ihr, elements_eq_cons hr, Multiset.add_cons]
      · rename_i ld hl hr
        rw [elements_node, ihl, elements_eq_cons hl, Multiset.cons_add]
      · rename_i ld rd hl hr
        split_ifs
        · rw [elements_node, ihl, elements_eq_cons hl, Multiset.cons_add]
        · rw [elements_node, ihr, elements_eq_cons hr, Multiset.add_cons]

lemma numNodes_popCarrying {x d : α} {t : LocHeapNode α} (h : t.data? = some d) :
    (popCarrying x t).1.numNodes + 1 = t.numNodes := by
  rw [← card_elements, ← card_elements, elements_popCarrying, elements_eq_cons h,
    Multiset.card_cons]

lemma Sized.popCarrying {t : LocHeapNode α} (h : t.Sized) (x : α) : (popCarrying x t).1.Sized := by
  induction t with
  | null => trivial
  | node s l r d ihl ihr =>
      obtain ⟨hs, hl, hr⟩ := h
      simp only [numNodes] at hs
      simp only [LocHeapNode.popCarrying]
      split
      · trivial
      · rename_i hrd
        have := numNodes_popCarrying (x := x) hrd
        exact ⟨by simp only [numNodes]; omega, hl, ihr hr⟩
      · rename_i hld _
        have := numNodes_popCarrying (x := x) hld
        exact ⟨by simp only [numNodes]; omega, ihl hl, hr⟩
      · rename_i hld hrd
        have hnl := numNodes_popCarrying (x := x) hld
        have hnr := numNodes_popCarrying (x := x) hrd
        split_ifs
        · exact ⟨by simp only [numNodes]; omega, ihl hl, hr⟩
        · exact ⟨by simp only [numNodes]; omega, hl, ihr hr⟩

lemma pop_snd (t : LocHeapNode α) : t.pop.2 = t.data? := by
  cases t with
  | null => rfl
  | node s l r d => simp [pop]

lemma elements_pop (t : LocHeapNode α) : t.pop.1.elements = t.descendants := by
  cases t with
  | null => rfl
  | node s l r d => exact elements_popCarrying d _

lemma Sized.pop {t : LocHeapNode α} (h : t.Sized) : t.pop.1.Sized := by
  cases t with
  | null => trivial
  | node s l r d => exact h.popCarrying d

/-! ### `remove` -/

section Remove

variable [DecidableEq α]

/-- What `remove` does at a node: pop it, cut the search off, or take the answer of the left and
then of the right subtree. -/
lemma remove_node_cases (x : α) (s : ℤ) (l r : LocHeapNode α) (d : α) :
    (x = d ∧ (node s l r d).remove x = (node s l r d).pop) ∨
    (x ≠ d ∧ outRanks x d ∧ (node s l r d).remove x = (node s l r d, none)) ∨
    (x ≠ d ∧ ¬ outRanks x d ∧ ∃ y, (l.remove x).2 = some y ∧
      (node s l r d).remove x = (node (s - 1) (l.remove x).1 r d, some y)) ∨
    (x ≠ d ∧ ¬ outRanks x d ∧ (l.remove x).2 = none ∧ ∃ y, (r.remove x).2 = some y ∧
      (node s l r d).remove x = (node (s - 1) (l.remove x).1 (r.remove x).1 d, some y)) ∨
    (x ≠ d ∧ ¬ outRanks x d ∧ (l.remove x).2 = none ∧ (r.remove x).2 = none ∧
      (node s l r d).remove x = (node s (l.remove x).1 (r.remove x).1 d, none)) := by
  by_cases hx : x = d
  · exact .inl ⟨hx, by rw [remove, if_pos hx]⟩
  by_cases hr : outRanks x d
  · exact .inr (.inl ⟨hx, hr, by rw [remove, if_neg hx, if_neg (not_not.mpr hr)]⟩)
  · refine .inr (.inr ?_)
    have hunfold : (node s l r d).remove x = match l.remove x with
        | (l', some y) => (node (s - 1) l' r d, some y)
        | (l', none) =>
            match r.remove x with
            | (r', some y) => (node (s - 1) l' r' d, some y)
            | (r', none) => (node s l' r' d, none) := by
      rw [remove, if_neg hx, if_pos hr]
    rcases hl : l.remove x with ⟨l', _ | y⟩
    · rcases hr' : r.remove x with ⟨r', _ | y⟩
      · exact .inr (.inr ⟨hx, hr, rfl, rfl, by rw [hunfold, hl, hr']⟩)
      · exact .inr (.inl ⟨hx, hr, rfl, y, rfl, by rw [hunfold, hl, hr']⟩)
    · exact .inl ⟨hx, hr, y, rfl, by rw [hunfold, hl]⟩

/-- A failed removal changes nothing. -/
lemma remove_eq_none {x : α} {t : LocHeapNode α} (h : (t.remove x).2 = none) :
    (t.remove x).1 = t := by
  induction t with
  | null => rfl
  | node s l r d ihl ihr =>
      rcases remove_node_cases x s l r d with ⟨-, e⟩ | ⟨-, -, e⟩ | ⟨-, -, y, -, e⟩ |
        ⟨-, -, -, y, -, e⟩ | ⟨-, -, hl, hr, e⟩
      · rw [e, pop_snd] at h
        cases h
      · rw [e]
      · rw [e] at h
        cases h
      · rw [e] at h
        cases h
      · rw [e, ihl hl, ihr hr]

/-- A successful removal takes out the object asked for, once. -/
lemma remove_eq_some {x y : α} {t : LocHeapNode α} (h : (t.remove x).2 = some y) :
    y = x ∧ t.elements = x ::ₘ (t.remove x).1.elements := by
  induction t generalizing y with
  | null => cases h
  | node s l r d ihl ihr =>
      rcases remove_node_cases x s l r d with ⟨rfl, e⟩ | ⟨-, -, e⟩ | ⟨-, -, z, hz, e⟩ |
        ⟨-, -, hl, z, hz, e⟩ | ⟨-, -, hl, hr, e⟩
      · rw [e, pop_snd] at h
        cases h
        exact ⟨rfl, by rw [e, elements_pop]; rfl⟩
      · rw [e] at h
        cases h
      · rw [e] at h ⊢
        cases h
        obtain ⟨rfl, hel⟩ := ihl hz
        refine ⟨rfl, ?_⟩
        rw [elements_node, elements_node, hel, Multiset.cons_add, Multiset.cons_swap]
      · rw [e] at h ⊢
        cases h
        obtain ⟨rfl, her⟩ := ihr hz
        refine ⟨rfl, ?_⟩
        rw [elements_node, elements_node, remove_eq_none hl, her, Multiset.add_cons,
          Multiset.cons_swap]
      · rw [e] at h
        cases h

lemma numNodes_remove {x y : α} {t : LocHeapNode α} (h : (t.remove x).2 = some y) :
    (t.remove x).1.numNodes + 1 = t.numNodes := by
  rw [← card_elements, ← card_elements, (remove_eq_some h).2, Multiset.card_cons]

lemma Sized.remove {t : LocHeapNode α} (h : t.Sized) (x : α) : (t.remove x).1.Sized := by
  induction t with
  | null => trivial
  | node s l r d ihl ihr =>
      have hnode := h
      obtain ⟨hs, hl, hr⟩ := h
      simp only [numNodes] at hs
      rcases remove_node_cases x s l r d with ⟨-, e⟩ | ⟨-, -, e⟩ | ⟨-, -, y, hy, e⟩ |
        ⟨-, -, hly, y, hy, e⟩ | ⟨-, -, hly, hry, e⟩
      · rw [e]
        exact hnode.pop
      · rw [e]
        exact hnode
      · rw [e]
        have := numNodes_remove hy
        exact ⟨by simp only [numNodes]; omega, ihl hl, hr⟩
      · rw [e, remove_eq_none hly]
        have := numNodes_remove hy
        exact ⟨by simp only [numNodes]; omega, hl, ihr hr⟩
      · rw [e, remove_eq_none hly, remove_eq_none hry]
        exact hnode

/-- Removing an object other than the top leaves the top where it is. -/
lemma data?_remove {x d : α} {t : LocHeapNode α} (h : t.data? = some d) (hx : x ≠ d) :
    (t.remove x).1.data? = some d := by
  cases t with
  | null => cases h
  | node s l r e =>
      cases h
      rcases remove_node_cases x s l r d with ⟨rfl, -⟩ | ⟨-, -, e⟩ | ⟨-, -, y, -, e⟩ |
        ⟨-, -, -, y, -, e⟩ | ⟨-, -, -, -, e⟩
      · exact absurd rfl hx
      all_goals rw [e]; rfl

end Remove

/-! ### `checkNodes` -/

lemma checkNodes_of_sized {t : LocHeapNode α} (hs : t.Sized) (ho : t.Ordered) :
    t.checkNodes = true := by
  induction t with
  | null => rfl
  | node s l r d ihl ihr =>
      obtain ⟨hs, hsl, hsr⟩ := hs
      obtain ⟨hld, hrd, hl, hr⟩ := ho
      have hsize : s - l.getSize - r.getSize = 1 := by
        rw [hsl.getSize_eq, hsr.getSize_eq, hs]
        simp only [numNodes]
        push_cast
        omega
      have hleft : (match l.data? with
          | some ld => !(decide (outRanks ld d)) && l.checkNodes
          | none => true) = true := by
        split
        · rename_i ld hdata
          simp [hld ld hdata, ihl hsl hl]
        · rfl
      have hright : (match r.data? with
          | some rd => !(decide (outRanks rd d)) && r.checkNodes
          | none => true) = true := by
        split
        · rename_i rd hdata
          simp [hrd rd hdata, ihr hsr hr]
        · rfl
      simp only [checkNodes, hleft, hright, hsize, decide_true, Bool.and_true]

variable [RankPreorder α]

lemma TopBelow.trans {t : LocHeapNode α} {c d : α} (h : t.TopBelow c) (hcd : ¬ outRanks c d) :
    t.TopBelow d := fun y hy => RankPreorder.trans y c d (h y hy) hcd

lemma Ordered.push {t : LocHeapNode α} (h : t.Ordered) (x : α) : (t.push x).Ordered := by
  induction t generalizing x with
  | null => exact ⟨topBelow_null _, topBelow_null _, trivial, trivial⟩
  | node s l r d ihl ihr =>
      obtain ⟨hld, hrd, hl, hr⟩ := h
      -- the object kept is `top`, the one sent down is `low`, and nothing below outranks `top`
      simp only [LocHeapNode.push]
      generalize htop : (if outRanks x d then x else d) = top
      generalize hlow : (if outRanks x d then d else x) = low
      have hdtop : ¬ outRanks d top := by
        subst htop
        split_ifs with hx
        · exact hx.not_outRanks
        · exact not_outRanks_self d
      have hlowtop : ¬ outRanks low top := by
        subst htop hlow
        split_ifs with hx
        · exact hx.not_outRanks
        · exact hx
      have hl' := hld.trans hdtop
      have hr' := hrd.trans hdtop
      split_ifs
      · exact ⟨hl'.push hlowtop, hr', ihl hl low, hr⟩
      · exact ⟨hl', hr'.push hlowtop, hl, ihr hr low⟩
      · exact ⟨hl'.push hlowtop, hr', ihl hl low, hr⟩
      · exact ⟨hl', hr'.push hlowtop, hl, ihr hr low⟩

/-- The new top of a popped tree is a child of the old one, or there is none left. -/
lemma Ordered.topBelow_popCarrying {t : LocHeapNode α} (h : t.Ordered) {d : α}
    (hd : t.TopBelow d) (x : α) : (LocHeapNode.popCarrying x t).1.TopBelow d := by
  cases t with
  | null => exact topBelow_null d
  | node s l r e =>
      obtain ⟨hle, hre, -, -⟩ := h
      have hed : ¬ outRanks e d := (topBelow_node s l r e d).mp hd
      simp only [LocHeapNode.popCarrying]
      split
      · exact topBelow_null d
      · rename_i rd _ hr
        exact (topBelow_node _ _ _ _ _).mpr (hre.trans hed rd hr)
      · rename_i ld hl _
        exact (topBelow_node _ _ _ _ _).mpr (hle.trans hed ld hl)
      · rename_i ld rd hl hr
        split_ifs
        · exact (topBelow_node _ _ _ _ _).mpr (hle.trans hed ld hl)
        · exact (topBelow_node _ _ _ _ _).mpr (hre.trans hed rd hr)

lemma Ordered.popCarrying {t : LocHeapNode α} (h : t.Ordered) (x : α) :
    (LocHeapNode.popCarrying x t).1.Ordered := by
  induction t with
  | null => trivial
  | node s l r d ihl ihr =>
      obtain ⟨hld, hrd, hl, hr⟩ := h
      simp only [LocHeapNode.popCarrying]
      split
      · trivial
      · rename_i rd hl0 hr0
        rw [data?_eq_none] at hl0
        subst hl0
        exact ⟨topBelow_null rd,
          hr.topBelow_popCarrying (topBelow_of_data?_eq hr0 (not_outRanks_self rd)) x, hl, ihr hr⟩
      · rename_i ld hl0 hr0
        rw [data?_eq_none] at hr0
        subst hr0
        exact ⟨hl.topBelow_popCarrying (topBelow_of_data?_eq hl0 (not_outRanks_self ld)) x,
          topBelow_null ld, ihl hl, hr⟩
      · rename_i ld rd hl0 hr0
        -- the better ranked child comes up, so the other child may stay below it
        split_ifs with hlr
        · exact ⟨hl.topBelow_popCarrying (topBelow_of_data?_eq hl0 (not_outRanks_self ld)) x,
            topBelow_of_data?_eq hr0 hlr.not_outRanks, ihl hl, hr⟩
        · exact ⟨topBelow_of_data?_eq hl0 hlr,
            hr.topBelow_popCarrying (topBelow_of_data?_eq hr0 (not_outRanks_self rd)) x, hl, ihr hr⟩

lemma Ordered.pop {t : LocHeapNode α} (h : t.Ordered) : t.pop.1.Ordered := by
  cases t with
  | null => trivial
  | node s l r d => exact h.popCarrying d

lemma Ordered.topBelow_pop {t : LocHeapNode α} (h : t.Ordered) {d : α} (hd : t.TopBelow d) :
    t.pop.1.TopBelow d := by
  cases t with
  | null => exact topBelow_null d
  | node s l r e => exact h.topBelow_popCarrying hd e

/-- **Heap order.** Nothing stored in an ordered tree outranks a bound on its top. -/
lemma Ordered.not_outRanks {t : LocHeapNode α} (h : t.Ordered) {d y : α} (hd : t.TopBelow d)
    (hy : y ∈ t.elements) : ¬ outRanks y d := by
  induction t generalizing d with
  | null => simp at hy
  | node s l r e ihl ihr =>
      obtain ⟨hle, hre, hl, hr⟩ := h
      have hed : ¬ outRanks e d := (topBelow_node s l r e d).mp hd
      rw [elements_node, Multiset.mem_cons, Multiset.mem_add] at hy
      rcases hy with rfl | hy | hy
      · exact hed
      · exact ihl hl (hle.trans hed) hy
      · exact ihr hr (hre.trans hed) hy

section Remove

variable [DecidableEq α]

lemma Ordered.topBelow_remove {t : LocHeapNode α} (h : t.Ordered) {d : α} (hd : t.TopBelow d)
    (x : α) : (t.remove x).1.TopBelow d := by
  cases t with
  | null => exact topBelow_null d
  | node s l r e =>
      by_cases hx : x = e
      · rw [remove, if_pos hx]
        exact h.topBelow_pop hd
      · exact topBelow_of_data?_eq (data?_remove rfl hx) ((topBelow_node s l r e d).mp hd)

lemma Ordered.remove {t : LocHeapNode α} (h : t.Ordered) (x : α) : (t.remove x).1.Ordered := by
  induction t with
  | null => trivial
  | node s l r d ihl ihr =>
      have hnode := h
      obtain ⟨hld, hrd, hl, hr⟩ := h
      rcases remove_node_cases x s l r d with ⟨-, e⟩ | ⟨-, -, e⟩ | ⟨-, -, y, -, e⟩ |
        ⟨-, -, -, y, -, e⟩ | ⟨-, -, -, -, e⟩
      · rw [e]
        exact hnode.pop
      · rw [e]
        exact hnode
      · rw [e]
        exact ⟨hl.topBelow_remove hld x, hrd, ihl hl, hr⟩
      · rw [e]
        exact ⟨hl.topBelow_remove hld x, hr.topBelow_remove hrd x, ihl hl, ihr hr⟩
      · rw [e]
        exact ⟨hl.topBelow_remove hld x, hr.topBelow_remove hrd x, ihl hl, ihr hr⟩

/-- The pruning of `remove` never cuts off a stored object: what is stored below a top does not
outrank it. -/
lemma Ordered.remove_of_mem {t : LocHeapNode α} (h : t.Ordered) {x : α} (hx : x ∈ t.elements) :
    (t.remove x).2 = some x := by
  induction t with
  | null => simp at hx
  | node s l r d ihl ihr =>
      have hnot : ¬ outRanks x d :=
        h.not_outRanks ((topBelow_node s l r d d).mpr (not_outRanks_self d)) hx
      obtain ⟨-, -, hl, hr⟩ := h
      rw [elements_node, Multiset.mem_cons, Multiset.mem_add] at hx
      rcases remove_node_cases x s l r d with ⟨rfl, e⟩ | ⟨-, ho, -⟩ | ⟨-, -, y, hy, e⟩ |
        ⟨-, -, -, y, hy, e⟩ | ⟨hne, -, hly, hry, -⟩
      · rw [e, pop_snd]
        rfl
      · exact absurd ho hnot
      · rw [e, ← (remove_eq_some hy).1]
      · rw [e, ← (remove_eq_some hy).1]
      · rcases hx with rfl | hx | hx
        · exact absurd rfl hne
        · rw [ihl hl hx] at hly
          cases hly
        · rw [ihr hr hx] at hry
          cases hry

end Remove

end Ranked

end LocHeapNode

/-! ## Every reachable heap -/

namespace LocHeap

variable {α : Type*}

/-- The objects a heap stores. -/
def elements (h : LocHeap α) : Multiset α := h.mTree.elements

@[simp] lemma elements_empty : (empty : LocHeap α).elements = 0 := rfl

lemma mem_elements_of_peek {h : LocHeap α} {x : α} (hx : h.peek = some x) : x ∈ h.elements :=
  LocHeapNode.data?_mem_elements hx

variable [LocRankable α]

lemma mem_elements_push {h : LocHeap α} {x y : α} :
    y ∈ (h.push x).elements ↔ y = x ∨ y ∈ h.elements := by
  rw [elements, push, LocHeapNode.elements_push, Multiset.mem_cons, elements]

lemma pop_snd (h : LocHeap α) : h.pop.2 = h.peek := LocHeapNode.pop_snd _

/-- What is left after a pop was there before. -/
lemma mem_elements_of_mem_pop {h : LocHeap α} {y : α} (hy : y ∈ h.pop.1.elements) :
    y ∈ h.elements := by
  rw [elements, pop, LocHeapNode.elements_pop] at hy
  unfold elements
  cases ht : h.mTree with
  | null =>
      rw [ht] at hy
      exact hy
  | node s l r d =>
      rw [ht] at hy
      exact Multiset.mem_cons_of_mem hy

/-- What is left after a removal was there before. -/
lemma mem_elements_of_mem_remove [DecidableEq α] {h : LocHeap α} {x y : α}
    (hy : y ∈ (h.remove x).1.elements) : y ∈ h.elements := by
  rw [elements, remove] at hy
  unfold elements
  cases hr : (h.mTree.remove x).2 with
  | none => rwa [LocHeapNode.remove_eq_none hr] at hy
  | some z =>
      rw [(LocHeapNode.remove_eq_some hr).2]
      exact Multiset.mem_cons_of_mem hy

/-- A removal that does not hand out the top leaves it where it is. -/
lemma peek_remove [DecidableEq α] {h : LocHeap α} {x : α} (hx : h.peek ≠ (h.remove x).2) :
    (h.remove x).1.peek = h.peek := by
  cases hd : h.mTree.data? with
  | none =>
      rw [peek, remove, LocHeapNode.data?_eq_none.mp hd] at hx
      exact absurd rfl hx
  | some d =>
      have hpeek : h.peek = some d := hd
      rw [hpeek]
      refine LocHeapNode.data?_remove hd ?_
      rintro rfl
      refine hx ?_
      rw [hpeek, remove]
      cases ht : h.mTree with
      | null =>
          rw [ht] at hd
          cases hd
      | node s l r d =>
          rw [ht] at hd
          cases hd
          simp [LocHeapNode.remove, LocHeapNode.pop_snd]

/-- A well-formed heap: sizes are exact and no child outranks its parent. -/
structure WellFormed (h : LocHeap α) : Prop where
  sized : h.mTree.Sized
  ordered : h.mTree.Ordered

lemma wellFormed_empty : (empty : LocHeap α).WellFormed := ⟨trivial, trivial⟩

variable [DecidableEq α] [RankPreorder α]

lemma WellFormed.call {h : LocHeap α} (hw : h.WellFormed) (op : PriorityQueue.Op α) :
    (h.call op).1.WellFormed := by
  cases op with
  | push x => exact ⟨hw.sized.push x, hw.ordered.push x⟩
  | pop => exact ⟨hw.sized.pop, hw.ordered.pop⟩
  | remove x => exact ⟨hw.sized.remove x, hw.ordered.remove x⟩

/-- Every call on a well-formed heap is a step of the abstract queue on its elements. -/
lemma WellFormed.step {h : LocHeap α} (hw : h.WellFormed) (op : PriorityQueue.Op α) :
    PriorityQueue.Step outRanks h.elements op (h.call op).2 (h.call op).1.elements := by
  cases op with
  | push x =>
      have hel : (h.push x).elements = x ::ₘ h.elements := LocHeapNode.elements_push _ _
      simp only [LocHeap.call, hel]
      exact .push _ _
  | pop =>
      simp only [LocHeap.call, LocHeap.pop, elements, LocHeapNode.pop_snd,
        LocHeapNode.elements_pop]
      cases hd : h.mTree.data? with
      | none =>
          rw [LocHeapNode.data?_eq_none.mp hd]
          exact .popEmpty
      | some d =>
          have hbelow := LocHeapNode.topBelow_of_data?_eq hd (not_outRanks_self d)
          rw [LocHeapNode.elements_eq_cons hd]
          refine .pop _ _ fun y hy => hw.ordered.not_outRanks hbelow ?_
          rwa [LocHeapNode.elements_eq_cons hd]
  | remove x =>
      simp only [LocHeap.call, LocHeap.remove, elements]
      cases hr : (h.mTree.remove x).2 with
      | none =>
          rw [LocHeapNode.remove_eq_none hr]
          refine .removeAbsent _ _ fun hmem => ?_
          rw [hw.ordered.remove_of_mem hmem] at hr
          cases hr
      | some y =>
          obtain ⟨rfl, hel⟩ := LocHeapNode.remove_eq_some hr
          rw [hel]
          exact .remove _ _

lemma WellFormed.run {h : LocHeap α} (hw : h.WellFormed) (ops : List (PriorityQueue.Op α)) :
    ((machine α).run h ops).WellFormed := by
  induction ops generalizing h with
  | nil => exact hw
  | cons op ops ih => exact ih (hw.call op)

/-- Over a run, what is stored and what was handed out are together what was pushed. -/
lemma WellFormed.card_run {h : LocHeap α} (hw : h.WellFormed) (ops : List (PriorityQueue.Op α)) :
    ((machine α).run h ops).elements.card + ((machine α).outs h ops).length =
      h.elements.card + (ops.map PriorityQueue.Op.stores).sum := by
  induction ops generalizing h with
  | nil => simp
  | cons op ops ih =>
      have hstep := (hw.step op).card_add
      have hrest := ih (hw.call op)
      simp only [Machine.run_cons, Machine.outs_cons, List.length_append, List.map_cons,
        List.sum_cons, Machine.next, Machine.emit, machine] at hrest hstep ⊢
      omega

/-- **The heap representation.**  After any calls on the empty heap every `mSize` is the number
of nodes of its subtree, no child outranks its parent, `checkTree` holds, and the size read at the
root is what was pushed less what was popped or removed. -/
theorem representation_of_run (ops : List (PriorityQueue.Op α)) :
    ((machine α).run empty ops).mTree.Sized ∧
    ((machine α).run empty ops).mTree.Ordered ∧
    ((machine α).run empty ops).checkTree = true ∧
    ((machine α).run empty ops).getTreeSize =
      (ops.map PriorityQueue.Op.stores).sum - ((machine α).outs empty ops).length := by
  have hw := (wellFormed_empty (α := α)).run ops
  have hcard := (wellFormed_empty (α := α)).card_run ops
  refine ⟨hw.sized, hw.ordered, LocHeapNode.checkNodes_of_sized hw.sized hw.ordered, ?_⟩
  rw [getTreeSize, hw.sized.getSize_eq, ← LocHeapNode.card_elements]
  simp only [elements_empty, Multiset.card_zero] at hcard
  rw [elements] at hcard
  omega

/-- Four objects, three of them tied, of which the last to come is popped and one is removed. -/
theorem representation_of_debug_run :
    let ops : List (PriorityQueue.Op LocHeapDebugData) :=
      [.push ⟨0, 5⟩, .push ⟨1, 5⟩, .push ⟨2, 5⟩, .push ⟨3, 4⟩, .pop, .remove ⟨2, 5⟩]
    ((machine LocHeapDebugData).run empty ops).mTree.Sized ∧
    ((machine LocHeapDebugData).run empty ops).mTree.Ordered ∧
    ((machine LocHeapDebugData).run empty ops).checkTree = true ∧
    ((machine LocHeapDebugData).run empty ops).getTreeSize = 2 := by
  intro ops
  obtain ⟨hsized, hordered, hcheck, hsize⟩ := representation_of_run ops
  have htwo : ((ops.map PriorityQueue.Op.stores).sum : ℤ) -
      ((machine LocHeapDebugData).outs empty ops).length = 2 := by decide
  exact ⟨hsized, hordered, hcheck, hsize.trans htwo⟩

/-- **The heap is a priority queue with removal.**  In every heap reached from the empty one, a
push adds exactly its object; a pop hands out, and takes away, one stored object that no stored
object outranks, or nothing when there is none; a removal takes away exactly the object at that
address, or nothing when it is not stored. -/
theorem call_refines_priorityQueue (ops : List (PriorityQueue.Op α)) (op : PriorityQueue.Op α) :
    let h := (machine α).run empty ops
    PriorityQueue.Step outRanks h.elements op (h.call op).2 (h.call op).1.elements :=
  ((wellFormed_empty (α := α)).run ops).step op

/-- An object tied with two others is the one removed. -/
theorem call_refines_priorityQueue_debug :
    let ops : List (PriorityQueue.Op LocHeapDebugData) :=
      [.push ⟨0, 5⟩, .push ⟨1, 5⟩, .push ⟨2, 5⟩]
    let h := (machine LocHeapDebugData).run empty ops
    PriorityQueue.Step outRanks h.elements (.remove ⟨2, 5⟩) (some ⟨2, 5⟩)
      (h.call (.remove ⟨2, 5⟩)).1.elements := by
  intro ops h
  have hout : (h.call (.remove ⟨2, 5⟩)).2 = some ⟨2, 5⟩ := by decide
  have hstep := call_refines_priorityQueue ops (.remove ⟨2, 5⟩)
  simp only [show (machine LocHeapDebugData).run empty ops = h from rfl, hout] at hstep
  exact hstep

end LocHeap

end LocHal
