import Mathlib.Data.Multiset.AddSub
import Mathlib.Data.Multiset.ZeroCons

/-!
# What a priority queue with removal may answer

The abstract queue is a multiset of elements under a relation `outRanks`.  `Step` is the whole
contract of one call: `push` stores its argument, `pop` hands out some stored element that no
stored element outranks, and `remove` takes out the very element it is given, or answers nothing
when that element is not stored.  An implementation is correct when each of its calls is a `Step`
between the multisets it represents.
-/

namespace LocHal
namespace PriorityQueue

variable {α : Type*}

/-- The calls of a priority queue. -/
inductive Op (α : Type*) where
  | push (x : α)
  | pop
  | remove (x : α)
deriving DecidableEq, Repr

/-- The number of elements a call stores. -/
def Op.stores : Op α → ℕ
  | .push _ => 1
  | .pop => 0
  | .remove _ => 0

/-- `Step outRanks m op out m'`: on the stored elements `m`, the call `op` may hand out `out` and
leave `m'`. -/
inductive Step (outRanks : α → α → Prop) : Multiset α → Op α → Option α → Multiset α → Prop
  | push (m : Multiset α) (x : α) : Step outRanks m (.push x) none (x ::ₘ m)
  | popEmpty : Step outRanks 0 .pop none 0
  | pop (m : Multiset α) (x : α) (htop : ∀ y ∈ x ::ₘ m, ¬ outRanks y x) :
      Step outRanks (x ::ₘ m) .pop (some x) m
  | remove (m : Multiset α) (x : α) : Step outRanks (x ::ₘ m) (.remove x) (some x) m
  | removeAbsent (m : Multiset α) (x : α) (habs : x ∉ m) : Step outRanks m (.remove x) none m

variable {outRanks : α → α → Prop} {m m' : Multiset α} {op : Op α} {out : Option α}

/-- Elements are neither created nor lost: what is stored or handed out was stored or pushed. -/
lemma Step.card_add (h : Step outRanks m op out m') :
    m'.card + out.toList.length = m.card + op.stores := by
  cases h <;> simp [Op.stores]

end PriorityQueue
end LocHal
