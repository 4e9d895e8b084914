import Mathlib.Data.List.Basic
import Mathlib.Order.MinMax

/-!
# String search by skipping

A pattern is compared with the text under it from its last element on.  The alignments that a
mismatch leaves open are those where the part that matched occurs in the pattern after another
element (`MismatchAt.reoccursAt`) and those where the pattern has a border (`MismatchAt.borderAt`);
a search that skips none of them ends at the first occurrence (`IsFirstFrom.of_skip`).

For a border that is skipped there is a text where the pattern is missed (`borderText`).
-/

namespace LocHal

variable {α : Type*}

/-- The pattern occurs in the text at `n`. -/
def OccursAt (pat text : List α) (n : ℕ) : Prop := ∀ k < pat.length, text[n + k]? = pat[k]?

/-- What the pattern has from `p` on is a prefix of it. -/
def BorderAt (pat : List α) (p : ℕ) : Prop := ∀ k, p + k < pat.length → pat[p + k]? = pat[k]?

/-- The pattern at `a` matches behind its `j`th element, and not in that. -/
structure MismatchAt (pat text : List α) (a j : ℕ) : Prop where
  lt : j < pat.length
  matches_behind : ∀ k, j < k → k < pat.length → text[a + k]? = pat[k]?
  differs : text[a + j]? ≠ pat[j]?

/-- What the pattern has behind its `j`th element is also `s` places before, after another
element. -/
structure ReoccursAt (pat : List α) (j s : ℕ) : Prop where
  pos : 0 < s
  le : s ≤ j
  matches_behind : ∀ k, j < k → k < pat.length → pat[k - s]? = pat[k]?
  differs : pat[j - s]? ≠ pat[j]?

variable {pat text : List α} {a j n s : ℕ}

lemma OccursAt.length_le (h : OccursAt pat text n) (hne : pat ≠ []) :
    n + pat.length ≤ text.length := by
  have hpos : 0 < pat.length := List.length_pos_iff.mpr hne
  have hlast := h (pat.length - 1) (by omega)
  rw [List.getElem?_eq_getElem (by omega : pat.length - 1 < pat.length)] at hlast
  have hlt := (List.getElem?_eq_some_iff.mp hlast).1
  omega

namespace MismatchAt

lemma not_occursAt (h : MismatchAt pat text a j) : ¬OccursAt pat text a := fun hocc =>
  h.differs (hocc j h.lt)

lemma unique {i : ℕ} (h : MismatchAt pat text a j) (h' : MismatchAt pat text a i) : j = i := by
  rcases lt_trichotomy j i with hlt | heq | hlt
  · exact absurd (h.matches_behind i hlt h'.lt) h'.differs
  · exact heq
  · exact absurd (h'.matches_behind j hlt h.lt) h.differs

/-- The element that differs is the one the pattern has there in a later occurrence. -/
lemma getElem?_sub (h : MismatchAt pat text a j) (hocc : OccursAt pat text (a + s)) (hs : s ≤ j) :
    pat[j - s]? = text[a + j]? := by
  have hlt := h.lt
  have hj := hocc (j - s) (by omega)
  rw [← hj]
  congr 1
  omega

/-- A later occurrence over the mismatch. -/
lemma reoccursAt (h : MismatchAt pat text a j) (hocc : OccursAt pat text (a + s)) (hpos : 0 < s)
    (hs : s ≤ j) : ReoccursAt pat j s where
  pos := hpos
  le := hs
  matches_behind := by
    intro k hjk hk
    have hbehind := h.matches_behind k hjk hk
    have hlater := hocc (k - s) (by omega)
    rw [← hbehind, ← hlater]
    congr 1
    omega
  differs := by
    rw [h.getElem?_sub hocc hs]
    exact h.differs

/-- A later occurrence behind the mismatch. -/
lemma borderAt (h : MismatchAt pat text a j) (hocc : OccursAt pat text (a + s)) (hs : j < s) :
    BorderAt pat s := by
  intro k hk
  have hbehind := h.matches_behind (s + k) (by omega) hk
  have hlater := hocc k (by omega)
  rw [← hbehind, ← hlater, Nat.add_assoc]

end MismatchAt

/-! ## The first occurrence -/

/-- The first occurrence from `a` on, if there is one. -/
def IsFirstFrom (pat text : List α) (a : ℕ) : Option ℕ → Prop
  | some n => a ≤ n ∧ OccursAt pat text n ∧ ∀ m, a ≤ m → m < n → ¬OccursAt pat text m
  | none => ∀ m, a ≤ m → ¬OccursAt pat text m

namespace IsFirstFrom

lemma of_occursAt (h : OccursAt pat text a) : IsFirstFrom pat text a (some a) :=
  ⟨le_rfl, h, fun _ ham hma => absurd ham hma.not_ge⟩

lemma of_length_lt (hne : pat ≠ []) (h : text.length < a + pat.length) :
    IsFirstFrom pat text a none := by
  intro m ham hocc
  have hlength := hocc.length_le hne
  omega

/-- A skip over no occurrence. -/
theorem of_skip {b : ℕ} {r : Option ℕ} (hab : a ≤ b)
    (hskip : ∀ m, a ≤ m → m < b → ¬OccursAt pat text m) (h : IsFirstFrom pat text b r) :
    IsFirstFrom pat text a r := by
  cases r with
  | none =>
      intro m ham
      rcases lt_or_ge m b with hlt | hge
      · exact hskip m ham hlt
      · exact h m hge
  | some n =>
      obtain ⟨hbn, hocc, hbefore⟩ := h
      refine ⟨hab.trans hbn, hocc, fun m ham hmn => ?_⟩
      rcases lt_or_ge m b with hlt | hge
      · exact hskip m ham hlt
      · exact hbefore m hge hmn

end IsFirstFrom

/-! ## A text for a border -/

/-- The pattern with `c` as its `j`th element, up to a border at `p`, and the pattern. -/
def borderText (pat : List α) (j p : ℕ) (c : α) : List α := (pat.take p).set j c ++ pat

section BorderText

variable {p : ℕ} {c : α}

lemma length_borderText (hp : p ≤ pat.length) :
    (borderText pat j p c).length = p + pat.length := by
  rw [borderText, List.length_append, List.length_set, List.length_take, min_eq_left hp]

lemma occursAt_borderText (hp : p ≤ pat.length) : OccursAt pat (borderText pat j p c) p := by
  intro k hk
  have hlength : ((pat.take p).set j c).length = p := by
    rw [List.length_set, List.length_take, min_eq_left hp]
  rw [borderText, List.getElem?_append_right (by omega), hlength, Nat.add_sub_cancel_left]

lemma mismatchAt_borderText (hp : p ≤ pat.length) (hj : j < p) (hborder : BorderAt pat p)
    (hc : some c ≠ pat[j]?) : MismatchAt pat (borderText pat j p c) 0 j := by
  have hlength : ((pat.take p).set j c).length = p := by
    rw [List.length_set, List.length_take, min_eq_left hp]
  refine ⟨by omega, ?_, ?_⟩
  · intro k hjk hk
    rw [Nat.zero_add, borderText]
    rcases lt_or_ge k p with hlt | hge
    · rw [List.getElem?_append_left (by omega), List.getElem?_set_ne (by omega),
        List.getElem?_take_of_lt hlt]
    · have hstarts := hborder (k - p) (by omega)
      rw [List.getElem?_append_right (by omega), hlength, ← hstarts]
      congr 1
      omega
  · rw [Nat.zero_add, borderText, List.getElem?_append_left (by omega),
      List.getElem?_set_self (by rw [List.length_take]; omega)]
    exact hc

end BorderText

end LocHal
