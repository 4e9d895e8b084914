import Mathlib.Data.List.DropRight

/-!
# Logs of bounded length that skip repetitions

A log keeps what it is forced to keep.  Of what it is offered it keeps what is not the same as its
latest entry; an entry that is the same only refreshes the latest one.  `same` is any relation, and
an entry may be stored as a copy that is not equal to it.

The log of bounded length drops its oldest entry when it gets too long.  Since only the latest entry
is ever looked at, it always has the last entries of the log without a bound (`foldl_keepBounded`).
-/

namespace LocHal

/-- How a log treats its entries: when a new one is the same as the latest, what the latest becomes
then, and the copy that is stored of a new one. -/
structure LogRules (α : Type*) where
  same : α → α → Bool
  refresh : α → α → α
  copy : α → α

/-- What comes to a log. -/
inductive Arrival (α : Type*) where
  | offered (a : α)
  | forced (a : α)

namespace LogRules

variable {α : Type*} (R : LogRules α)

/-- One arrival at a log without a bound. -/
def keep (log : List α) : Arrival α → List α
  | .forced a => log ++ [R.copy a]
  | .offered a =>
      match log.getLast? with
      | none => log ++ [R.copy a]
      | some back =>
          if R.same back a then log.dropLast ++ [R.refresh back a] else log ++ [R.copy a]

/-- A new entry in a log of at most `n`. -/
def pushBounded (n : ℕ) (log : List α) (a : α) : List α :=
  if (log ++ [a]).length > n then (log ++ [a]).tail else log ++ [a]

/-- One arrival at a log of at most `n`. -/
def keepBounded (n : ℕ) (log : List α) : Arrival α → List α
  | .forced a => pushBounded n log (R.copy a)
  | .offered a =>
      match log.getLast? with
      | none => pushBounded n log (R.copy a)
      | some back =>
          if R.same back a then log.dropLast ++ [R.refresh back a]
          else pushBounded n log (R.copy a)

variable {R} {n : ℕ} {log : List α}

lemma keep_offered_of_none (h : log.getLast? = none) (a : α) :
    R.keep log (.offered a) = log ++ [R.copy a] := by
  rw [keep, h]

lemma keep_offered_of_same {back a : α} (h : log.getLast? = some back)
    (hsame : R.same back a = true) :
    R.keep log (.offered a) = log.dropLast ++ [R.refresh back a] := by
  rw [keep, h]
  exact if_pos hsame

lemma keep_offered_of_not_same {back a : α} (h : log.getLast? = some back)
    (hsame : ¬ R.same back a = true) : R.keep log (.offered a) = log ++ [R.copy a] := by
  rw [keep, h]
  exact if_neg hsame

lemma getLast?_rtake (hn : 0 < n) (log : List α) : (log.rtake n).getLast? = log.getLast? := by
  obtain ⟨m, rfl⟩ := Nat.exists_eq_succ_of_ne_zero hn.ne'
  rcases List.eq_nil_or_concat log with rfl | ⟨init, last, rfl⟩
  · rw [List.rtake_nil]
  · rw [List.concat_eq_append, List.rtake_concat_succ, List.getLast?_concat, List.getLast?_concat]

lemma pushBounded_rtake (hn : 0 < n) (log : List α) (a : α) :
    pushBounded n (log.rtake n) a = (log ++ [a]).rtake n := by
  obtain ⟨m, rfl⟩ := Nat.exists_eq_succ_of_ne_zero hn.ne'
  rw [List.rtake_concat_succ, pushBounded, List.length_append, List.length_singleton, List.rtake,
    List.length_drop]
  by_cases hfull : m < log.length
  · -- the entry that is dropped is the first of those that are left
    have hne : log.drop (log.length - (m + 1)) ≠ [] := by
      intro hnil
      have := congrArg List.length hnil
      rw [List.length_drop, List.length_nil] at this
      omega
    rw [if_pos (by omega), List.tail_append_of_ne_nil hne, List.tail_drop, List.rtake,
      show log.length - (m + 1) + 1 = log.length - m by omega]
  · rw [if_neg (by omega), List.rtake, show log.length - (m + 1) = log.length - m by omega]

lemma dropLast_rtake_append (hn : 0 < n) {log : List α} (hne : log ≠ []) (a : α) :
    (log.rtake n).dropLast ++ [a] = (log.dropLast ++ [a]).rtake n := by
  obtain ⟨m, rfl⟩ := Nat.exists_eq_succ_of_ne_zero hn.ne'
  rcases List.eq_nil_or_concat log with rfl | ⟨init, last, rfl⟩
  · exact absurd rfl hne
  · rw [List.concat_eq_append, List.rtake_concat_succ, List.dropLast_concat, List.dropLast_concat,
      List.rtake_concat_succ]

/-- One arrival keeps the correspondence. -/
lemma keepBounded_rtake (hn : 0 < n) (log : List α) (e : Arrival α) :
    R.keepBounded n (log.rtake n) e = (R.keep log e).rtake n := by
  cases e with
  | forced a => exact pushBounded_rtake hn log (R.copy a)
  | offered a =>
      rw [keepBounded, getLast?_rtake hn, keep]
      cases hlast : log.getLast? with
      | none => exact pushBounded_rtake hn log (R.copy a)
      | some back =>
          by_cases hsame : R.same back a = true
          · have hne : log ≠ [] := by
              rintro rfl
              cases hlast
            simp only [if_pos hsame]
            exact dropLast_rtake_append hn hne _
          · simp only [if_neg hsame]
            exact pushBounded_rtake hn log (R.copy a)

/-- **The bounded log.**  It has the last `n` entries of the log without a bound. -/
theorem foldl_keepBounded (hn : 0 < n) (es : List (Arrival α)) :
    es.foldl (R.keepBounded n) [] = (es.foldl R.keep []).rtake n := by
  induction es using List.reverseRecOn with
  | nil => exact (List.rtake_nil n).symm
  | append_singleton es e ih =>
      rw [List.foldl_append, List.foldl_append, List.foldl_cons, List.foldl_nil, ih,
        List.foldl_cons, List.foldl_nil]
      exact keepBounded_rtake hn _ e

/-- When a copy of a copy is no other, and neither is one of a refreshed copy, every entry is a
copy already. -/
lemma copy_of_mem_foldl_keep (hcopy : ∀ a, R.copy (R.copy a) = R.copy a)
    (hrefresh : ∀ b a, R.copy b = b → R.copy (R.refresh b a) = R.refresh b a)
    (es : List (Arrival α)) : ∀ a ∈ es.foldl R.keep [], R.copy a = a := by
  induction es using List.reverseRecOn with
  | nil => exact fun a ha => absurd ha List.not_mem_nil
  | append_singleton es e ih =>
      rw [List.foldl_append, List.foldl_cons, List.foldl_nil]
      have hpush : ∀ c, ∀ a ∈ es.foldl R.keep [] ++ [R.copy c], R.copy a = a := by
        intro c a ha
        rcases List.mem_append.1 ha with ha | ha
        · exact ih a ha
        · rw [List.mem_singleton.1 ha]
          exact hcopy c
      cases e with
      | forced c => exact hpush c
      | offered c =>
          cases hlast : (es.foldl R.keep []).getLast? with
          | none =>
              rw [keep_offered_of_none hlast]
              exact hpush c
          | some back =>
              by_cases hsame : R.same back c = true
              · rw [keep_offered_of_same hlast hsame]
                intro a ha
                rcases List.mem_append.1 ha with ha | ha
                · exact ih a (List.dropLast_subset _ ha)
                · rw [List.mem_singleton.1 ha]
                  exact hrefresh back c (ih back (List.mem_of_getLast? hlast))
              · rw [keep_offered_of_not_same hlast hsame]
                exact hpush c

end LogRules

end LocHal
