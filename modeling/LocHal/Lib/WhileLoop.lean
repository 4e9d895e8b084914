import Mathlib.Data.List.Basic

/-!
# While loops

A loop is its test and its body in one, `next`: from a state in which the test fails it gives
nothing, and from any other state it gives what one turn emits and the state after it.
`whileLoop next fuel s` runs the loop, and has no value when `fuel` turns are not enough, so that a
loop that does not end has none for any fuel.

The rules are `whileLoop_of_measure` (a loop whose turns lower a measure ends), `whileLoop_eq_none`
(a loop that keeps its test true does not), `whileLoop_rel` (what relates the states to what is
still to be emitted) and `whileLoop_flatMap` (a loop that reads back what has been written item by
item).
-/

namespace LocHal

variable {σ γ α β : Type*} {next : σ → Option (γ × σ)}

/-- What the turns of the loop emit. -/
def whileLoop (next : σ → Option (γ × σ)) : ℕ → σ → Option (List γ)
  | 0, _ => none
  | fuel + 1, s =>
      match next s with
      | none => some []
      | some (x, s') => (whileLoop next fuel s').map (x :: ·)

lemma whileLoop_stop {s : σ} (h : next s = none) (fuel : ℕ) :
    whileLoop next (fuel + 1) s = some [] := by
  rw [whileLoop, h]

lemma whileLoop_turn {s s' : σ} {x : γ} (h : next s = some (x, s')) (fuel : ℕ) :
    whileLoop next (fuel + 1) s = (whileLoop next fuel s').map (x :: ·) := by
  rw [whileLoop, h]

/-- **A loop that ends.** -/
theorem whileLoop_of_measure {I : σ → Prop} (measure : σ → ℕ)
    (hnext : ∀ s x s', I s → next s = some (x, s') → I s' ∧ measure s' < measure s) {s : σ}
    (hs : I s) {fuel : ℕ} (hfuel : measure s < fuel) : ∃ l, whileLoop next fuel s = some l := by
  induction fuel generalizing s with
  | zero => exact absurd hfuel (Nat.not_lt_zero _)
  | succ fuel ih =>
      cases h : next s with
      | none => exact ⟨[], whileLoop_stop h fuel⟩
      | some r =>
          obtain ⟨hs', hlt⟩ := hnext s r.1 r.2 hs h
          obtain ⟨l, hl⟩ := ih hs' (Nat.lt_of_lt_of_le hlt (Nat.le_of_lt_succ hfuel))
          exact ⟨r.1 :: l, by rw [whileLoop_turn h, hl]; rfl⟩

/-- **A loop that does not end.** -/
theorem whileLoop_eq_none {I : σ → Prop} (hnext : ∀ s, I s → ∃ x s', next s = some (x, s') ∧ I s')
    {s : σ} (hs : I s) (fuel : ℕ) : whileLoop next fuel s = none := by
  induction fuel generalizing s with
  | zero => rfl
  | succ fuel ih =>
      obtain ⟨x, s', h, hs'⟩ := hnext s hs
      rw [whileLoop_turn h, ih hs']
      rfl

/-- **What is still to be emitted.**  A relation between the states and what the loop emits from
them on, built up from the last turn to the first. -/
theorem whileLoop_rel {R : σ → List γ → Prop} (hstop : ∀ s, next s = none → R s [])
    (hturn : ∀ s x s' l, next s = some (x, s') → R s' l → R s (x :: l)) {s : σ} {fuel : ℕ}
    {l : List γ} (h : whileLoop next fuel s = some l) : R s l := by
  induction fuel generalizing s l with
  | zero => cases h
  | succ fuel ih =>
      cases hnext : next s with
      | none =>
          rw [whileLoop_stop hnext] at h
          obtain rfl := Option.some.inj h
          exact hstop s hnext
      | some r =>
          rw [whileLoop_turn hnext] at h
          obtain ⟨l', hl', rfl⟩ := Option.map_eq_some_iff.mp h
          exact hturn s r.1 r.2 l' hnext (ih hl')

/-- A loop whose turns emit something else. -/
lemma whileLoop_map {δ : Type*} {next' : σ → Option (δ × σ)} {f : γ → δ}
    (hnext : ∀ s, next' s = (next s).map (Prod.map f id)) (fuel : ℕ) (s : σ) :
    whileLoop next' fuel s = (whileLoop next fuel s).map (List.map f) := by
  induction fuel generalizing s with
  | zero => rfl
  | succ fuel ih =>
      cases h : next s with
      | none => rw [whileLoop_stop h, whileLoop_stop (by rw [hnext, h]; rfl)]; rfl
      | some r =>
          have h' : next' s = some (f r.1, r.2) := by rw [hnext, h]; rfl
          rw [whileLoop_turn h, whileLoop_turn h', ih, Option.map_map, Option.map_map]
          rfl

/-- Loops that have the same turns from the states that they pass through. -/
lemma whileLoop_congr {I : σ → Prop} {next' : σ → Option (γ × σ)}
    (hsame : ∀ s, I s → next s = next' s)
    (hnext : ∀ s x s', I s → next s = some (x, s') → I s') {s : σ} (hs : I s) (fuel : ℕ) :
    whileLoop next fuel s = whileLoop next' fuel s := by
  induction fuel generalizing s with
  | zero => rfl
  | succ fuel ih =>
      cases h : next s with
      | none => rw [whileLoop_stop h, whileLoop_stop ((hsame s hs).symm.trans h)]
      | some r =>
          rw [whileLoop_turn h, whileLoop_turn ((hsame s hs).symm.trans h),
            ih (hnext s r.1 r.2 hs h)]

/-- **Reading back.**  When one turn reads back what `encode` writes for one item, the loop reads
back the items that have been written one after the other. -/
theorem whileLoop_flatMap {next : List β → Option (γ × List β)} {encode : α → List β} {f : α → γ}
    (hread : ∀ a rest, next (encode a ++ rest) = some (f a, rest)) {tail : List β}
    (hstop : next tail = none) (as : List α) {fuel : ℕ} (hfuel : as.length < fuel) :
    whileLoop next fuel (as.flatMap encode ++ tail) = some (as.map f) := by
  induction as generalizing fuel with
  | nil =>
      obtain ⟨fuel, rfl⟩ := Nat.exists_eq_add_of_le' hfuel
      exact whileLoop_stop hstop fuel
  | cons a as ih =>
      obtain ⟨fuel, rfl⟩ := Nat.exists_eq_add_of_le' (Nat.zero_lt_of_lt hfuel)
      rw [List.flatMap_cons, List.append_assoc, whileLoop_turn (hread a _),
        ih (Nat.lt_of_succ_lt_succ hfuel)]
      rfl

end LocHal
