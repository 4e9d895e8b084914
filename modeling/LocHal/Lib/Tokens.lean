import Mathlib.Data.List.Basic
import Mathlib.Data.List.TakeDrop
import Mathlib.Data.List.TakeWhile

/-!
# Tokens and lines of a text

Two ways of taking a text apart line by line: tokens between newlines, as `strtok_r` gives them, and
the lines that `fgets` reads into a buffer.  Both are compared with `lines`, the lines that are
ended by a newline and the one that is not (`tokens_newline`, `fgetsAll_lines`): tokens leave out
empty lines, and `fgets` keeps the newline of every line that leaves room for it.

A third way cuts the text at each separator that `find` finds, and leaves what stands behind the
last one: these are the pieces of `List.splitOn` without the last (`cutAll_eq`).
-/

namespace LocHal

/-- `strtok_r` with one delimiter: the token and where the next call goes on, `none` for `NULL`. -/
def strtok (d : Char) (s : List Char) : Option (List Char × List Char) :=
  match s.dropWhile (· == d) with
  | [] => none
  | c :: cs => some ((c :: cs).takeWhile (· != d), ((c :: cs).dropWhile (· != d)).tail)

/-- `fgets` into a buffer that holds `n` characters: the line and the rest of the file. -/
def fgets : ℕ → List Char → List Char × List Char
  | 0, s => ([], s)
  | _ + 1, [] => ([], [])
  | n + 1, c :: cs =>
      if c = '\n' then (['\n'], cs)
      else (c :: (fgets n cs).1, (fgets n cs).2)

variable {d : Char} {s t rest : List Char} {n : ℕ}

lemma length_strtok (h : strtok d s = some (t, rest)) : rest.length < s.length := by
  have hle : (s.dropWhile (· == d)).length ≤ s.length := (List.dropWhile_sublist _).length_le
  cases hs : s.dropWhile (· == d) with
  | nil => simp [strtok, hs] at h
  | cons c cs =>
      simp only [strtok, hs, Option.some.injEq, Prod.mk.injEq] at h
      have hdrop : ((c :: cs).dropWhile (· != d)).length ≤ (c :: cs).length :=
        (List.dropWhile_sublist _).length_le
      rw [hs] at hle
      rw [← h.2, List.length_tail]
      simp only [List.length_cons] at hle hdrop ⊢
      omega

lemma length_fgets (n : ℕ) (hs : s ≠ []) : (fgets (n + 1) s).2.length < s.length := by
  have hle : ∀ n s, (fgets n s).2.length ≤ s.length := by
    intro n s
    fun_induction fgets n s with
    | case1 s => exact Nat.le_refl _
    | case2 n => exact Nat.le_refl _
    | case3 n cs => exact Nat.le_succ _
    | case4 n c cs hc ih => exact Nat.le_succ_of_le ih
  cases s with
  | nil => exact absurd rfl hs
  | cons c cs =>
      rw [fgets]
      split
      · exact Nat.lt_succ_self _
      · exact Nat.lt_succ_of_le (hle n cs)

/-- A token, and what is left, is made of the characters of the text. -/
lemma mem_of_strtok (h : strtok d s = some (t, rest)) : t ⊆ s ∧ rest ⊆ s := by
  have hsub : s.dropWhile (· == d) ⊆ s := List.dropWhile_subset _
  cases hs : s.dropWhile (· == d) with
  | nil => simp [strtok, hs] at h
  | cons c cs =>
      simp only [strtok, hs, Option.some.injEq, Prod.mk.injEq] at h
      rw [hs] at hsub
      rw [← h.1, ← h.2]
      exact ⟨fun x hx => hsub (List.takeWhile_subset _ hx),
        fun x hx => hsub (List.dropWhile_subset _ (List.mem_of_mem_tail hx))⟩

/-- A token is not empty, and the delimiter does not stand in it. -/
lemma token_of_strtok (h : strtok d s = some (t, rest)) : t ≠ [] ∧ d ∉ t := by
  cases hs : s.dropWhile (· == d) with
  | nil => simp [strtok, hs] at h
  | cons c cs =>
      simp only [strtok, hs, Option.some.injEq, Prod.mk.injEq] at h
      have hc : (c != d) = true := by
        have hhead := List.head_dropWhile_not (· == d) (hs ▸ List.cons_ne_nil c cs)
        simp only [hs, List.head_cons] at hhead
        rw [bne, hhead]
        rfl
      rw [← h.1]
      constructor
      · simp only [List.takeWhile_cons, hc]
        exact List.cons_ne_nil _ _
      · intro hmem
        have hd := List.mem_takeWhile_imp hmem
        simp at hd

/-- The tokens of a text. -/
def tokens (d : Char) (s : List Char) : List (List Char) :=
  match _h : strtok d s with
  | none => []
  | some (t, rest) => t :: tokens d rest
termination_by s.length
decreasing_by exact length_strtok _h

/-- The lines of a file, read into a buffer that holds `n + 1` characters. -/
def fgetsAll (n : ℕ) (s : List Char) : List (List Char) :=
  if h : s = [] then [] else (fgets (n + 1) s).1 :: fgetsAll n (fgets (n + 1) s).2
termination_by s.length
decreasing_by exact length_fgets n h

/-- The lines of a text that are ended by a newline, and what stands behind the last of them. -/
def lines : List Char → List (List Char) × List Char
  | [] => ([], [])
  | c :: cs =>
      if c = '\n' then ([] :: (lines cs).1, (lines cs).2)
      else match (lines cs).1 with
        | [] => ([], c :: (lines cs).2)
        | l :: ls => ((c :: l) :: ls, (lines cs).2)

/-- The text that consists of these lines. -/
def unlines (ls : List (List Char)) (last : List Char) : List Char :=
  ls.flatMap (· ++ ['\n']) ++ last

/-! ## Up to a separator -/

section Separator

lemma bne_of_notMem (h : d ∉ t) : ∀ c ∈ t, (c != d) = true := fun _ hc =>
  bne_iff_ne.mpr fun heq => h (heq ▸ hc)

lemma takeWhile_bne_of_notMem (h : d ∉ t) : t.takeWhile (· != d) = t :=
  List.takeWhile_eq_self_iff.mpr (bne_of_notMem h)

lemma dropWhile_bne_of_notMem (h : d ∉ t) : t.dropWhile (· != d) = [] :=
  List.dropWhile_eq_nil_iff.mpr (bne_of_notMem h)

lemma takeWhile_bne_append_cons (h : d ∉ t) (rest : List Char) :
    (t ++ d :: rest).takeWhile (· != d) = t := by
  have hd : ¬ (d != d) = true := by simp
  rw [List.takeWhile_append_of_pos (bne_of_notMem h),
    List.takeWhile_cons_of_neg (p := (· != d)) hd, List.append_nil]

lemma dropWhile_bne_append_cons (h : d ∉ t) (rest : List Char) :
    (t ++ d :: rest).dropWhile (· != d) = d :: rest := by
  have hd : ¬ (d != d) = true := by simp
  rw [List.dropWhile_append_of_pos (bne_of_notMem h),
    List.dropWhile_cons_of_neg (p := (· != d)) hd]

end Separator

/-! ## Lines -/

section Lines

variable {ls : List (List Char)} {l last : List Char}

lemma unlines_cons (l : List Char) (ls : List (List Char)) (last : List Char) :
    unlines (l :: ls) last = l ++ '\n' :: unlines ls last := by
  simp only [unlines, List.flatMap_cons, List.append_assoc, List.cons_append, List.nil_append]

/-- A text consists of its lines. -/
lemma unlines_lines (s : List Char) : unlines (lines s).1 (lines s).2 = s := by
  fun_induction lines s with
  | case1 => rfl
  | case2 cs ih => rw [unlines_cons, List.nil_append, ih]
  | case3 c cs hc hnil ih =>
      rw [hnil] at ih
      exact congrArg (c :: ·) ih
  | case4 c cs hc l ls hcons ih =>
      rw [hcons, unlines_cons] at ih
      rw [unlines_cons, List.cons_append, ih]

/-- No line contains a newline. -/
lemma newline_notMem_lines (s : List Char) :
    (∀ l ∈ (lines s).1, '\n' ∉ l) ∧ '\n' ∉ (lines s).2 := by
  fun_induction lines s with
  | case1 => exact ⟨by simp, by simp⟩
  | case2 cs ih =>
      refine ⟨fun l hl => ?_, ih.2⟩
      rcases List.mem_cons.mp hl with rfl | hl
      · exact List.not_mem_nil
      · exact ih.1 l hl
  | case3 c cs hc hnil ih =>
      refine ⟨by simp, fun hmem => ?_⟩
      rcases List.mem_cons.mp hmem with heq | hmem
      · exact hc heq.symm
      · exact ih.2 hmem
  | case4 c cs hc l ls hcons ih =>
      rw [hcons] at ih
      refine ⟨fun l' hl' => ?_, ih.2⟩
      rcases List.mem_cons.mp hl' with rfl | hl'
      · intro hmem
        rcases List.mem_cons.mp hmem with heq | hmem
        · exact hc heq.symm
        · exact ih.1 l List.mem_cons_self hmem
      · exact ih.1 l' (List.mem_cons_of_mem l hl')

lemma tokens_of_none (h : strtok d s = none) : tokens d s = [] := by
  rw [tokens]
  split
  · rfl
  · rename_i heq
    rw [h] at heq
    cases heq

lemma tokens_of_some (h : strtok d s = some (t, rest)) : tokens d s = t :: tokens d rest := by
  rw [tokens]
  split
  · rename_i heq
    rw [h] at heq
    cases heq
  · rename_i t' rest' heq
    rw [h] at heq
    cases heq
    rfl

lemma strtok_cons_self (d : Char) (s : List Char) : strtok d (d :: s) = strtok d s := by
  have hdrop : (d :: s).dropWhile (· == d) = s.dropWhile (· == d) :=
    List.dropWhile_cons_of_pos (beq_self_eq_true d)
  rw [strtok, strtok, hdrop]

/-- A text without the delimiter is a token. -/
lemma strtok_of_notMem (hs : s ≠ []) (h : d ∉ s) : strtok d s = some (s, []) := by
  cases s with
  | nil => exact absurd rfl hs
  | cons c cs =>
      have hc : ¬ (c == d) = true := by simpa using bne_of_notMem h c List.mem_cons_self
      have hdrop : (c :: cs).dropWhile (· == d) = c :: cs := List.dropWhile_cons_of_neg hc
      simp only [strtok, hdrop, takeWhile_bne_of_notMem h, dropWhile_bne_of_notMem h,
        List.tail_nil]

/-- A text up to the delimiter is a token. -/
lemma strtok_append (ht : t ≠ []) (h : d ∉ t) (rest : List Char) :
    strtok d (t ++ d :: rest) = some (t, rest) := by
  cases t with
  | nil => exact absurd rfl ht
  | cons c cs =>
      have hc : ¬ (c == d) = true := by simpa using bne_of_notMem h c List.mem_cons_self
      have hdrop : (c :: (cs ++ d :: rest)).dropWhile (· == d) = c :: (cs ++ d :: rest) :=
        List.dropWhile_cons_of_neg hc
      have htake := takeWhile_bne_append_cons h rest
      have hrest := dropWhile_bne_append_cons h rest
      rw [List.cons_append] at htake hrest
      simp only [strtok, List.cons_append, hdrop, htake, hrest, List.tail_cons]

lemma strtok_replicate_append (d : Char) (k : ℕ) (s : List Char) :
    strtok d (List.replicate k d ++ s) = strtok d s := by
  induction k with
  | zero => rfl
  | succ k ih => rw [List.replicate_succ, List.cons_append, strtok_cons_self, ih]

lemma strtok_replicate (d : Char) (k : ℕ) : strtok d (List.replicate k d) = none := by
  have h := strtok_replicate_append d k []
  rw [List.append_nil] at h
  exact h

/-- What a text is made of: delimiters only, or delimiters, a token and the end of the text, or
delimiters, a token, one more delimiter and the rest. -/
lemma strtok_cases (d : Char) (s : List Char) :
    (∃ k, s = List.replicate k d) ∨
      (∃ k t, t ≠ [] ∧ d ∉ t ∧ s = List.replicate k d ++ t) ∨
      ∃ k t rest, t ≠ [] ∧ d ∉ t ∧ s = List.replicate k d ++ (t ++ d :: rest) := by
  induction s with
  | nil => exact .inl ⟨0, rfl⟩
  | cons c s ih =>
      by_cases hc : c = d
      · subst hc
        rcases ih with ⟨k, rfl⟩ | ⟨k, t, ht, hd, rfl⟩ | ⟨k, t, rest, ht, hd, rfl⟩
        · exact .inl ⟨k + 1, rfl⟩
        · exact .inr (.inl ⟨k + 1, t, ht, hd, rfl⟩)
        · exact .inr (.inr ⟨k + 1, t, rest, ht, hd, rfl⟩)
      · by_cases hmem : d ∈ s
        · obtain ⟨t, rest, rfl, hd⟩ := List.eq_append_cons_of_mem hmem
          exact .inr (.inr ⟨0, c :: t, rest, List.cons_ne_nil c t,
            List.not_mem_cons_of_ne_of_not_mem (Ne.symm hc) hd, rfl⟩)
        · exact .inr (.inl ⟨0, c :: s, List.cons_ne_nil c s,
            List.not_mem_cons_of_ne_of_not_mem (Ne.symm hc) hmem, rfl⟩)

/-- The tokens between newlines are the lines that are not empty. -/
theorem tokens_newline (hls : ∀ l ∈ ls, '\n' ∉ l) (hlast : '\n' ∉ last) :
    tokens '\n' (unlines ls last) = (ls ++ [last]).filter fun l => l ≠ [] := by
  induction ls with
  | nil =>
      by_cases hnil : last = []
      · subst hnil
        exact tokens_of_none rfl
      · rw [unlines, List.flatMap_nil, List.nil_append, tokens_of_some
          (strtok_of_notMem hnil hlast), tokens_of_none rfl]
        simp [hnil]
  | cons l ls ih =>
      have hrest := ih fun l' hl' => hls l' (List.mem_cons_of_mem l hl')
      rw [unlines_cons, List.cons_append]
      by_cases hnil : l = []
      · subst hnil
        rw [List.filter_cons_of_neg (by simp), ← hrest, List.nil_append]
        cases hstr : strtok '\n' (unlines ls last) with
        | none =>
            rw [tokens_of_none hstr, tokens_of_none ((strtok_cons_self _ _).trans hstr)]
        | some r => rw [tokens_of_some hstr, tokens_of_some ((strtok_cons_self _ _).trans hstr)]
      · rw [List.filter_cons_of_pos (by simpa using hnil), ← hrest]
        exact tokens_of_some (strtok_append hnil (hls l List.mem_cons_self) _)

/-- A line that leaves room for its newline is read with it. -/
lemma fgets_of_lt (h : '\n' ∉ l) (hl : l.length < n) (rest : List Char) :
    fgets n (l ++ '\n' :: rest) = (l ++ ['\n'], rest) := by
  induction l generalizing n with
  | nil =>
      obtain ⟨n, rfl⟩ := Nat.exists_eq_add_one.mpr (Nat.zero_lt_of_lt hl)
      rw [List.nil_append, fgets, if_pos rfl]
      rfl
  | cons c cs ih =>
      obtain ⟨n, rfl⟩ := Nat.exists_eq_add_one.mpr (Nat.zero_lt_of_lt hl)
      have hc : c ≠ '\n' := fun heq => h (heq ▸ List.mem_cons_self)
      have hrest := ih (fun hmem => h (List.mem_cons_of_mem c hmem)) (Nat.lt_of_succ_lt_succ hl)
      rw [List.cons_append, fgets, if_neg hc, hrest]
      rfl

/-- A line that fills the buffer is read without its newline. -/
lemma fgets_of_eq (h : '\n' ∉ l) (rest : List Char) :
    fgets l.length (l ++ rest) = (l, rest) := by
  induction l with
  | nil => rfl
  | cons c cs ih =>
      have hc : c ≠ '\n' := fun heq => h (heq ▸ List.mem_cons_self)
      rw [List.length_cons, List.cons_append, fgets, if_neg hc,
        ih fun hmem => h (List.mem_cons_of_mem c hmem)]

/-- What is left at the end of the file is read as it is. -/
lemma fgets_last (h : '\n' ∉ l) (hl : l.length ≤ n) : fgets n l = (l, []) := by
  induction l generalizing n with
  | nil => cases n with
    | zero => rfl
    | succ n => rfl
  | cons c cs ih =>
      obtain ⟨n, rfl⟩ := Nat.exists_eq_add_one.mpr (Nat.zero_lt_of_lt hl)
      have hc : c ≠ '\n' := fun heq => h (heq ▸ List.mem_cons_self)
      rw [fgets, if_neg hc, ih (fun hmem => h (List.mem_cons_of_mem c hmem))
        (Nat.le_of_succ_le_succ hl)]

lemma fgetsAll_nil (n : ℕ) : fgetsAll n [] = [] := by
  rw [fgetsAll, dif_pos rfl]

lemma fgetsAll_of_ne_nil (hs : s ≠ []) :
    fgetsAll n s = (fgets (n + 1) s).1 :: fgetsAll n (fgets (n + 1) s).2 := by
  rw [fgetsAll, dif_neg hs]

/-- How a line that is ended by a newline is read. -/
def readLine (n : ℕ) (l : List Char) : List (List Char) :=
  if l.length < n then [l ++ ['\n']] else [l, ['\n']]

/-- The lines that fit into the buffer are read one by one, and a newline for which there is no room
is read as a line of its own. -/
theorem fgetsAll_lines (hls : ∀ l ∈ ls, '\n' ∉ l ∧ l.length ≤ n + 1)
    (hlast : '\n' ∉ last ∧ last.length ≤ n + 1) :
    fgetsAll n (unlines ls last) =
      ls.flatMap (readLine (n + 1)) ++ [last].filter fun l => l ≠ [] := by
  induction ls with
  | nil =>
      rw [unlines, List.flatMap_nil, List.nil_append, List.flatMap_nil, List.nil_append]
      by_cases hnil : last = []
      · subst hnil
        exact fgetsAll_nil n
      · rw [fgetsAll_of_ne_nil hnil, fgets_last hlast.1 hlast.2, fgetsAll_nil]
        simp [hnil]
  | cons l ls ih =>
      obtain ⟨hnewline, hlength⟩ := hls l List.mem_cons_self
      have hrest := ih fun l' hl' => hls l' (List.mem_cons_of_mem l hl')
      have hne : l ++ '\n' :: unlines ls last ≠ [] := by simp
      rw [unlines_cons, List.flatMap_cons, List.append_assoc, ← hrest, readLine,
        fgetsAll_of_ne_nil hne]
      rcases Nat.lt_or_ge l.length (n + 1) with hlt | hge
      · rw [if_pos hlt, fgets_of_lt hnewline hlt]
        rfl
      · have heq : n + 1 = l.length := by omega
        rw [if_neg (by omega), heq, fgets_of_eq hnewline,
          fgetsAll_of_ne_nil (List.cons_ne_nil _ _), fgets, if_pos rfl]
        rfl

end Lines

/-! ## Pieces between separators -/

section Splitting

variable {α : Type*} {d : α}

/-- Induction on the pieces of a list: on the last one, and on one with a separator behind it. -/
theorem pieces_induction {motive : List α → Prop} (last : ∀ t, d ∉ t → motive t)
    (cut : ∀ t rest, d ∉ t → motive rest → motive (t ++ d :: rest)) (s : List α) : motive s := by
  induction hn : s.length using Nat.strong_induction_on generalizing s with
  | _ n ih =>
      by_cases hmem : d ∈ s
      · obtain ⟨t, rest, rfl, ht⟩ := List.eq_append_cons_of_mem hmem
        have hlt : rest.length < n := by
          rw [← hn, List.length_append, List.length_cons]
          omega
        exact cut t rest ht (ih rest.length hlt rest rfl)
      · exact last s hmem

variable [BEq α] [LawfulBEq α]

/-- There is one piece more than separators. -/
lemma length_splitOn (d : α) (s : List α) : (s.splitOn d).length = s.count d + 1 := by
  induction s using pieces_induction (d := d) with
  | last t ht =>
      rw [List.splitOn_eq_singleton ht, List.count_eq_zero_of_not_mem ht, List.length_singleton]
  | cut t rest ht ih =>
      rw [List.splitOn_append_cons_self_of_not_mem ht, List.length_cons, ih, List.count_append,
        List.count_eq_zero_of_not_mem ht, List.count_cons_self, Nat.zero_add]

/-- The pieces of a list that is mapped with its separators. -/
lemma splitOn_map {β : Type*} [BEq β] [LawfulBEq β] {f : α → β} (hf : Function.Injective f) (d : α)
    (s : List α) : (s.map f).splitOn (f d) = (s.splitOn d).map (List.map f) := by
  have hmem : ∀ {t : List α}, d ∉ t → f d ∉ t.map f := fun ht h =>
    ht ((List.mem_map_of_injective hf).mp h)
  induction s using pieces_induction (d := d) with
  | last t ht =>
      rw [List.splitOn_eq_singleton ht, List.splitOn_eq_singleton (hmem ht), List.map_singleton]
  | cut t rest ht ih =>
      rw [List.map_append, List.map_cons, List.splitOn_append_cons_self_of_not_mem ht,
        List.splitOn_append_cons_self_of_not_mem (hmem ht), ih, List.map_cons]

end Splitting

/-! ## Pieces before a separator -/

/-- What stands before the first separator and what behind it, `none` where `find` finds none. -/
def cut (d : Char) (s : List Char) : Option (List Char × List Char) :=
  match s.dropWhile (· != d) with
  | [] => none
  | _ :: rest => some (s.takeWhile (· != d), rest)

lemma length_cut (h : cut d s = some (t, rest)) : rest.length < s.length := by
  have hle : (s.dropWhile (· != d)).length ≤ s.length := (List.dropWhile_sublist _).length_le
  cases hs : s.dropWhile (· != d) with
  | nil => simp [cut, hs] at h
  | cons c cs =>
      simp only [cut, hs, Option.some.injEq, Prod.mk.injEq] at h
      rw [hs, List.length_cons] at hle
      rw [← h.2]
      omega

/-- The pieces that are cut off until no separator is left. -/
def cutAll (d : Char) (s : List Char) : List (List Char) :=
  match _h : cut d s with
  | none => []
  | some (t, rest) => t :: cutAll d rest
termination_by s.length
decreasing_by exact length_cut _h

section Pieces

lemma cut_of_notMem (h : d ∉ s) : cut d s = none := by
  rw [cut, dropWhile_bne_of_notMem h]

lemma cut_append (h : d ∉ t) (rest : List Char) : cut d (t ++ d :: rest) = some (t, rest) := by
  rw [cut, dropWhile_bne_append_cons h, takeWhile_bne_append_cons h]

lemma cutAll_of_none (h : cut d s = none) : cutAll d s = [] := by
  rw [cutAll]
  split
  · rfl
  · rename_i heq
    rw [h] at heq
    cases heq

lemma cutAll_of_some (h : cut d s = some (t, rest)) : cutAll d s = t :: cutAll d rest := by
  rw [cutAll]
  split
  · rename_i heq
    rw [h] at heq
    cases heq
  · rename_i t' rest' heq
    rw [h] at heq
    cases heq
    rfl

/-- All pieces but the last are cut off. -/
theorem cutAll_eq (d : Char) (s : List Char) : cutAll d s = (s.splitOn d).dropLast := by
  induction s using pieces_induction (d := d) with
  | last t ht =>
      rw [cutAll_of_none (cut_of_notMem ht), List.splitOn_eq_singleton ht, List.dropLast_singleton]
  | cut t rest ht ih =>
      rw [cutAll_of_some (cut_append ht rest), ih, List.splitOn_append_cons_self_of_not_mem ht,
        List.dropLast_cons_of_ne_nil (List.splitOn_ne_nil d rest)]

lemma cutAll_eq_nil_iff : cutAll d s = [] ↔ d ∉ s := by
  constructor
  · intro hnil hmem
    obtain ⟨t, rest, rfl, ht⟩ := List.eq_append_cons_of_mem hmem
    rw [cutAll_of_some (cut_append ht rest)] at hnil
    cases hnil
  · exact fun hmem => cutAll_of_none (cut_of_notMem hmem)

/-- Cutting goes on behind a separator. -/
lemma cutAll_append_cons (t : List Char) (d : Char) (rest : List Char) :
    cutAll d (t ++ d :: rest) = t.splitOn d ++ cutAll d rest := by
  rw [cutAll_eq, cutAll_eq, List.splitOn_append_cons_self,
    List.dropLast_append_of_ne_nil (List.splitOn_ne_nil d rest)]

end Pieces

end LocHal
