import Mathlib.Data.List.Basic

/-!
# Registers

A list of writes to registers, or to files that hold one value, oldest first.  `lastWrite` is what a
register holds after them; `Guarded` says that some registers are written only while another one,
the guard, holds a given value.  Both are about lists that are put together from those of single
steps (`lastWrite_append`, `guarded_append`).
-/

namespace LocHal

variable {α β : Type*} [DecidableEq α]

/-- What a register that held `v` holds after the writes. -/
def writeFrom (v : Option β) (ws : List (α × β)) (a : α) : Option β :=
  ws.foldl (fun v w => if w.1 = a then some w.2 else v) v

/-- What a register holds after the writes, if it has been written. -/
def lastWrite (ws : List (α × β)) (a : α) : Option β := writeFrom none ws a

/-- The registers in `p` are written only while `guard`, which holds `v` at first, holds `g`. -/
def Guarded (guard : α) (g : β) (p : α → Prop) : Option β → List (α × β) → Prop
  | _, [] => True
  | v, w :: ws => (p w.1 → v = some g) ∧ Guarded guard g p (if w.1 = guard then some w.2 else v) ws

variable {v : Option β} {ws ws' : List (α × β)} {a guard : α} {g : β} {p : α → Prop}

@[simp] lemma writeFrom_nil : writeFrom v ([] : List (α × β)) a = v := rfl

@[simp] lemma writeFrom_cons (w : α × β) :
    writeFrom v (w :: ws) a = writeFrom (if w.1 = a then some w.2 else v) ws a := rfl

lemma writeFrom_append : writeFrom v (ws ++ ws') a = writeFrom (writeFrom v ws a) ws' a :=
  List.foldl_append

/-- What a register holds does not depend on what it held before it was written. -/
lemma writeFrom_eq : writeFrom v ws a = (lastWrite ws a).or v := by
  induction ws generalizing v with
  | nil => rfl
  | cons w ws ih =>
      rw [lastWrite, writeFrom_cons, writeFrom_cons, ih,
        ih (v := if w.1 = a then some w.2 else none)]
      split_ifs
      · cases lastWrite ws a <;> rfl
      · cases lastWrite ws a <;> rfl

lemma lastWrite_append : lastWrite (ws ++ ws') a = (lastWrite ws' a).or (lastWrite ws a) := by
  rw [lastWrite, writeFrom_append, writeFrom_eq]
  rfl

/-- A register that is not written. -/
lemma lastWrite_eq_none (h : ∀ w ∈ ws, w.1 ≠ a) : lastWrite ws a = none := by
  induction ws with
  | nil => rfl
  | cons w ws ih =>
      rw [lastWrite, writeFrom_cons, if_neg (h w List.mem_cons_self)]
      exact ih fun w' hw' => h w' (List.mem_cons_of_mem _ hw')

/-- A register that is written, with one value only. -/
lemma lastWrite_eq_some {b : β} (hmem : (a, b) ∈ ws) (h : ∀ w ∈ ws, w.1 = a → w.2 = b) :
    lastWrite ws a = some b := by
  induction ws with
  | nil => cases hmem
  | cons w ws ih =>
      rw [lastWrite, writeFrom_cons, writeFrom_eq]
      by_cases hrest : (a, b) ∈ ws
      · rw [ih hrest fun w' hw' => h w' (List.mem_cons_of_mem _ hw')]
        rfl
      · obtain rfl : (a, b) = w := (List.mem_cons.mp hmem).resolve_right hrest
        have hnone : lastWrite ws a = none := by
          apply lastWrite_eq_none
          intro w' hw' hreg
          have hvalue := h w' (List.mem_cons_of_mem _ hw') hreg
          exact hrest (hreg ▸ hvalue ▸ hw')
        rw [hnone, if_pos rfl]
        rfl

lemma guarded_append : Guarded guard g p v (ws ++ ws') ↔
    Guarded guard g p v ws ∧ Guarded guard g p (writeFrom v ws guard) ws' := by
  induction ws generalizing v with
  | nil => exact (and_iff_right trivial).symm
  | cons w ws ih => rw [List.cons_append, Guarded, ih, Guarded, and_assoc, writeFrom_cons]

/-- Writes to registers that are not in `p`. -/
lemma guarded_of_forall_not (h : ∀ w ∈ ws, ¬ p w.1) : Guarded guard g p v ws := by
  induction ws generalizing v with
  | nil => trivial
  | cons w ws ih =>
      exact ⟨fun hp => absurd hp (h w List.mem_cons_self),
        ih fun w' hw' => h w' (List.mem_cons_of_mem _ hw')⟩

end LocHal
