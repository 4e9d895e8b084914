import Mathlib.Data.List.Chain
import LocHal.Lib.CheckedArray
import LocHal.Lib.StringSearch

/-!
# The search for the modem version (`recovery/recovery_updater.cpp`)

The time stamp of the modem partition is found with a Boyer-Moore search.  Its loops are on arrays
whose accesses are checked here, so that a search that gives a result has made none outside its
pattern, its tables or its text, and has read no entry of a table before it was written.

* `bmMakeDelta1_spec`, `bmMakeDelta2_spec` — the entries of the two tables, as shifts of the
  alignment.
* `searchLoop_step` — one alignment, which is the last one or is followed by one further on.
* `bmSearch_terminates` — the search ends, and its alignments go forward.
-/

namespace LocHal.BoyerMoore

/-- `ALPHABET_LEN`. -/
def alphabetLen : ℕ := 256

/-! ## The tables -/

/-- The loop of `max_suffix_len`, where `left` is `p - i`. -/
def maxSuffixLoop (str : List UInt8) (strLen p : ℕ) : ℕ → Option ℕ
  | 0 => do
      let _ ← readAt str 0
      let _ ← readAt str (strLen - 1 - p)
      some p
  | left + 1 => do
      let i := p - (left + 1)
      let c ← readAt str (p - i)
      let d ← readAt str (strLen - 1 - i)
      if c = d then maxSuffixLoop str strLen p left else some i

/-- `max_suffix_len`. -/
def maxSuffixLen (str : List UInt8) (strLen p : ℕ) : Option ℕ := maxSuffixLoop str strLen p p

/-- `bm_make_delta1`, with the bound `pat_len - 1` of a `size_t`. -/
def bmMakeDelta1 (pat : List UInt8) (patLen : ℕ) : Option IntTable := do
  let delta1 ← (List.range alphabetLen).foldlM (fun t (i : ℕ) => t.write i patLen)
    (IntTable.uninitialized alphabetLen)
  (List.range (if patLen = 0 then 2 ^ 64 - 1 else patLen - 1)).foldlM (fun t (i : ℕ) => do
    let c ← readAt pat i
    t.write c.toNat (patLen - 1 - i)) delta1

/-- `strncmp(str + p, str, n) == 0`, from the `k`th character on. -/
def isPrefixLoop (str : List UInt8) (p : ℕ) : ℕ → ℕ → Option Bool
  | 0, _ => some true
  | n + 1, k => do
      let c ← readAt str (p + k)
      let d ← readAt str k
      if c ≠ d then some false
      else if c = 0 then some true
      else isPrefixLoop str p n (k + 1)

/-- The first loop of `bm_make_delta2`, where `p` starts below the first argument and goes down. -/
def prefixLoop (pat : List UInt8) (patLen : ℕ) : ℕ → ℕ → IntTable → Option IntTable
  | 0, _, delta2 => some delta2
  | p + 1, lastPrefix, delta2 => do
      let isPrefix ← isPrefixLoop pat p (patLen - p) 0
      let lastPrefix := if isPrefix then p + 1 else lastPrefix
      let delta2 ← delta2.write p (lastPrefix + (patLen - 1 - p))
      prefixLoop pat patLen p lastPrefix delta2

/-- The body of the second loop. -/
def suffixStep (pat : List UInt8) (patLen : ℕ) (delta2 : IntTable) (p : ℕ) : Option IntTable := do
  let sufLen ← maxSuffixLen pat patLen p
  let c ← readAt pat (p - sufLen)
  let d ← readAt pat (patLen - 1 - sufLen)
  if c ≠ d then delta2.write (patLen - 1 - sufLen) (patLen - 1 - p + sufLen) else some delta2

/-- `bm_make_delta2`. -/
def bmMakeDelta2 (pat : List UInt8) (patLen : ℕ) : Option IntTable := do
  let _ ← checkedInt patLen
  let delta2 ← prefixLoop pat patLen patLen (patLen - 1) (IntTable.uninitialized patLen)
  (List.range (patLen - 1)).foldlM (suffixStep pat patLen) delta2

/-! ## The search -/

/-- The comparison of the pattern from its end, where the first argument is `j + 1`.  It gives the
last values of that and of `i`. -/
def matchLoop (str pat : List UInt8) : ℕ → ℤ → Option (ℕ × ℤ)
  | 0, i => some (0, i)
  | j + 1, i => do
      let c ← readAt str i
      let d ← readAt pat j
      if c = d then matchLoop str pat j (i - 1) else some (j + 1, i)

/-- What a search has done: the values of `i - j` at the end of its comparisons, and the offset of
the result, if it is not `NULL`. -/
structure Search where
  alignments : List ℤ := []
  offset : Option ℤ := none
deriving DecidableEq

/-- The loop of `bm_search`, for a number of rounds. -/
def searchLoop (str : List UInt8) (strLen : ℤ) (pat : List UInt8) (patLen : ℕ)
    (delta1 delta2 : IntTable) : ℕ → ℤ → Option Search
  | rounds, i =>
      if i < strLen then
        match rounds with
        | 0 => none
        | rounds + 1 => do
            let (left, i) ← matchLoop str pat patLen i
            match left with
            | 0 => some { alignments := [i + 1], offset := some (i + 1) }
            | j + 1 => do
                let c ← readAt str i
                let shift1 ← delta1.read c.toNat
                let shift2 ← delta2.read j
                let next ← checkedInt (i + max shift1 shift2)
                let rest ← searchLoop str strLen pat patLen delta1 delta2 rounds next
                some { rest with alignments := (i - j) :: rest.alignments }
      else some {}

/-- `bm_search`, with at most as many rounds as the text has positions. -/
def bmSearch (str pat : List UInt8) : Option Search := do
  let delta1 ← bmMakeDelta1 pat pat.length
  let delta2 ← bmMakeDelta2 pat pat.length
  if pat.length = 0 then some { offset := some 0 }
  else do
    let i ← checkedInt (pat.length - 1)
    let strLen ← checkedInt str.length
    searchLoop str strLen pat pat.length delta1 delta2 str.length i

/-! ## The suffix lengths -/

section SuffixLen

variable {str pat : List UInt8} {p k j : ℕ}

/-- `k` is the length of the longest suffix that ends at `p`, which does not count the first
element of the string. -/
structure IsSuffixLen (str : List UInt8) (p k : ℕ) : Prop where
  le : k ≤ p
  agrees : ∀ i < k, str[p - i]? = str[str.length - 1 - i]?
  stops : k < p → str[p - k]? ≠ str[str.length - 1 - k]?

lemma maxSuffixLoop_spec (hp : p < str.length) {left : ℕ} (hleft : left ≤ p)
    (hbefore : ∀ i < p - left, str[p - i]? = str[str.length - 1 - i]?) :
    ∃ k, maxSuffixLoop str str.length p left = some k ∧ IsSuffixLen str p k := by
  induction left with
  | zero =>
      have hc := readAt_of_lt (a := str) (i := 0) (n := 0) rfl (by omega)
      have hd := readAt_of_lt (a := str) (i := str.length - 1 - p) (n := str.length - 1 - p)
        (by omega) (by omega)
      refine ⟨p, ?_, le_rfl, hbefore, fun h => absurd h (lt_irrefl p)⟩
      simp only [maxSuffixLoop, hc, hd, Option.bind_eq_bind, Option.bind_some]
  | succ left ih =>
      have hc := readAt_of_lt (a := str) (i := p - ((p - (left + 1) : ℕ) : ℤ)) (n := left + 1)
        (by omega) (by omega)
      have hd := readAt_of_lt (a := str) (i := str.length - 1 - ((p - (left + 1) : ℕ) : ℤ))
        (n := str.length - 1 - (p - (left + 1))) (by omega) (by omega)
      have hindex : p - (p - (left + 1)) = left + 1 := by omega
      have hget := getElem?_eq_getElem?_iff (a := str) (b := str) (n := left + 1)
        (k := str.length - 1 - (p - (left + 1))) (by omega) (by omega)
      simp only [maxSuffixLoop, hc, hd, Option.bind_eq_bind, Option.bind_some]
      by_cases heq : str[left + 1] = str[str.length - 1 - (p - (left + 1))]
      · rw [if_pos heq]
        apply ih (by omega)
        intro i hi
        rcases Nat.lt_or_ge i (p - (left + 1)) with hlt | hge
        · exact hbefore i hlt
        · have hi' : i = p - (left + 1) := by omega
          rw [hi', hindex]
          exact hget.mpr heq
      · rw [if_neg heq]
        refine ⟨_, rfl, by omega, hbefore, fun _ => ?_⟩
        rw [hindex]
        exact mt hget.mp heq

lemma maxSuffixLen_spec (hp : p < str.length) :
    ∃ k, maxSuffixLen str str.length p = some k ∧ IsSuffixLen str p k :=
  maxSuffixLoop_spec hp le_rfl fun i hi => by omega

/-- The suffix that ends at `p` is a re-occurrence when another element is before it. -/
lemma IsSuffixLen.reoccursAt (h : IsSuffixLen pat p k) (hp : p < pat.length - 1)
    (hdiffers : pat[p - k]? ≠ pat[pat.length - 1 - k]?) :
    ReoccursAt pat (pat.length - 1 - k) (pat.length - 1 - p) where
  pos := by omega
  le := by
    have hle := h.le
    omega
  matches_behind := by
    intro i hki hi
    have hle := h.le
    have hagrees := h.agrees (pat.length - 1 - i) (by omega)
    have hleft : p - (pat.length - 1 - i) = i - (pat.length - 1 - p) := by omega
    have hright : pat.length - 1 - (pat.length - 1 - i) = i := by omega
    rwa [hleft, hright] at hagrees
  differs := by
    have hle := h.le
    have hindex : pat.length - 1 - k - (pat.length - 1 - p) = p - k := by omega
    rwa [hindex]

/-- A re-occurrence has the length that is found at its end. -/
lemma IsSuffixLen.eq_of_reoccursAt (h : IsSuffixLen pat p k) (hp : p < pat.length - 1)
    (hj : j < pat.length) (hre : ReoccursAt pat j (pat.length - 1 - p)) :
    j = pat.length - 1 - k := by
  have hle := h.le
  have hs := hre.le
  by_contra hne
  rcases Nat.lt_or_ge (pat.length - 1 - j) k with hlt | hge
  · have hagrees := h.agrees (pat.length - 1 - j) hlt
    have hleft : p - (pat.length - 1 - j) = j - (pat.length - 1 - p) := by omega
    have hright : pat.length - 1 - (pat.length - 1 - j) = j := by omega
    rw [hleft, hright] at hagrees
    exact hre.differs hagrees
  · have hbehind := hre.matches_behind (pat.length - 1 - k) (by omega) (by omega)
    have hindex : pat.length - 1 - k - (pat.length - 1 - p) = p - k := by omega
    rw [hindex] at hbehind
    exact h.stops (by omega) hbehind

end SuffixLen

/-! ## The good suffix table -/

section Delta2

variable {pat : List UInt8} {j p n : ℕ} {t : IntTable}

/-- The entry for a mismatch at `j` moves the alignment by `shift`. -/
def HasShift (pat : List UInt8) (t : IntTable) (j shift : ℕ) : Prop :=
  t.read j = some ((shift + (pat.length - 1 - j) : ℕ) : ℤ)

/-- The nearest of the re-occurrences that are more than `b` places before. -/
def IsLeastReoccurrence (pat : List UInt8) (b j s : ℕ) : Prop :=
  b < s ∧ ReoccursAt pat j s ∧ ∀ r, b < r → r < s → ¬ReoccursAt pat j r

/-- `strncmp(pat + p, pat, pat_len - p) == 0`. -/
def PrefixAt (pat : List UInt8) (p : ℕ) : Prop :=
  isPrefixLoop pat p (pat.length - p) 0 = some true

/-- What `last_prefix` is at `p`, when it was `start` above `n`. -/
def IsLastPrefix (pat : List UInt8) (n start p v : ℕ) : Prop :=
  (∃ q, p ≤ q ∧ q < n ∧ PrefixAt pat q ∧ (∀ r, p ≤ r → r < q → ¬PrefixAt pat r) ∧ v = q + 1) ∨
    (∀ q, p ≤ q → q < n → ¬PrefixAt pat q) ∧ v = start

/-- What the entry of the table for a mismatch at `j` moves the alignment by. -/
def GoodShift (pat : List UInt8) (j shift : ℕ) : Prop :=
  IsLeastReoccurrence pat 0 j shift ∨
    (∀ s, ¬ReoccursAt pat j s) ∧ IsLastPrefix pat pat.length (pat.length - 1) j shift

lemma isPrefixLoop_spec (pat : List UInt8) {p n k : ℕ} (h : p + k + n ≤ pat.length) :
    ∃ b, isPrefixLoop pat p n k = some b ∧ (p = 0 → b = true) ∧
      ((0 : UInt8) ∉ pat → (b = true ↔ ∀ i, k ≤ i → i < k + n → pat[p + i]? = pat[i]?)) := by
  induction n generalizing k with
  | zero => exact ⟨true, rfl, fun _ => rfl, fun _ => ⟨fun _ i hki hi => by omega, fun _ => rfl⟩⟩
  | succ n ih =>
      have hc := readAt_of_lt (a := pat) (i := p + k) (n := p + k) (by omega) (by omega)
      have hd := readAt_of_lt (a := pat) (i := k) (n := k) rfl (by omega)
      have hget := getElem?_eq_getElem?_iff (a := pat) (b := pat) (n := p + k) (k := k) (by omega)
        (by omega)
      simp only [isPrefixLoop, hc, hd, Option.bind_eq_bind, Option.bind_some]
      by_cases heq : pat[p + k] = pat[k]
      · rw [if_neg (not_not_intro heq)]
        by_cases hnul : pat[p + k] = 0
        · rw [if_pos hnul]
          refine ⟨true, rfl, fun _ => rfl, fun hmem => absurd (List.getElem_mem _) (hnul ▸ hmem)⟩
        · rw [if_neg hnul]
          obtain ⟨b, hrun, hzero, hstarts⟩ := ih (k := k + 1) (by omega)
          refine ⟨b, hrun, hzero, fun hmem => (hstarts hmem).trans ⟨fun hall i hki hi => ?_, ?_⟩⟩
          · rcases Nat.eq_or_lt_of_le hki with rfl | hlt
            · exact hget.mpr heq
            · exact hall i hlt (by omega)
          · exact fun hall i hki hi => hall i (by omega) (by omega)
      · rw [if_pos heq]
        refine ⟨false, rfl, ?_, fun _ => ⟨fun h => absurd h Bool.false_ne_true, fun hall => ?_⟩⟩
        · rintro rfl
          simp at heq
        · exact absurd (hget.mp (hall k le_rfl (by omega))) heq

lemma prefixAt_zero (pat : List UInt8) : PrefixAt pat 0 := by
  obtain ⟨b, hrun, hzero, -⟩ := isPrefixLoop_spec pat (p := 0) (n := pat.length - 0) (k := 0)
    (by omega)
  rw [PrefixAt, hrun, hzero rfl]

/-- Without a NUL in the pattern the prefixes are its borders. -/
lemma prefixAt_iff (hmem : (0 : UInt8) ∉ pat) (hp : p ≤ pat.length) :
    PrefixAt pat p ↔ BorderAt pat p := by
  obtain ⟨b, hrun, -, hstarts⟩ := isPrefixLoop_spec pat (p := p) (n := pat.length - p) (k := 0)
    (by omega)
  rw [PrefixAt, hrun, Option.some_inj, hstarts hmem]
  constructor
  · exact fun hall i hi => hall i (Nat.zero_le i) (by omega)
  · exact fun hborder i _ hi => hborder i (by omega)

/-- One more place below. -/
lemma IsLastPrefix.succ {start v : ℕ} {isPrefix : Bool} (hstarts : isPrefix = true ↔ PrefixAt pat n)
    (hp : p < n) (h : IsLastPrefix pat n (if isPrefix then n + 1 else start) p v) :
    IsLastPrefix pat (n + 1) start p v := by
  rcases h with ⟨q, hpq, hqn, hq, hbefore, hv⟩ | ⟨hnone, hv⟩
  · exact .inl ⟨q, hpq, by omega, hq, hbefore, hv⟩
  · by_cases hn : PrefixAt pat n
    · rw [if_pos (hstarts.mpr hn)] at hv
      exact .inl ⟨n, hp.le, Nat.lt_succ_self n, hn, hnone, hv⟩
    · rw [if_neg (mt hstarts.mp hn)] at hv
      refine .inr ⟨fun q hpq hq => ?_, hv⟩
      rcases Nat.lt_succ_iff_lt_or_eq.mp hq with hlt | rfl
      · exact hnone q hpq hlt
      · exact hn

lemma isLastPrefix_self {start : ℕ} {isPrefix : Bool} (hstarts : isPrefix = true ↔ PrefixAt pat n) :
    IsLastPrefix pat (n + 1) start n (if isPrefix then n + 1 else start) := by
  by_cases hn : PrefixAt pat n
  · rw [if_pos (hstarts.mpr hn)]
    exact .inl ⟨n, le_rfl, Nat.lt_succ_self n, hn, fun r hnr hrn => by omega, rfl⟩
  · rw [if_neg (mt hstarts.mp hn)]
    refine .inr ⟨fun q hnq hq => ?_, rfl⟩
    have heq : q = n := by omega
    rwa [heq]

/-- The first loop gives each place the last prefix above it. -/
lemma prefixLoop_spec (hlen : pat.length < 2 ^ 30) {n start : ℕ} {t : IntTable}
    (hn : n ≤ pat.length) (hstart : start ≤ pat.length) (ht : t.length = pat.length) :
    ∃ t', prefixLoop pat pat.length n start t = some t' ∧ t'.length = pat.length ∧
      (∀ p < n, ∃ v, IsLastPrefix pat n start p v ∧ HasShift pat t' p v) ∧
      ∀ k, n ≤ k → t'.read k = t.read k := by
  induction n generalizing start t with
  | zero => exact ⟨t, rfl, ht, fun p hp => absurd hp (Nat.not_lt_zero p), fun _ _ => rfl⟩
  | succ n ih =>
      obtain ⟨isPrefix, hrun, -⟩ := isPrefixLoop_spec pat (p := n) (n := pat.length - n) (k := 0)
        (by omega)
      have hstarts : isPrefix = true ↔ PrefixAt pat n := by rw [PrefixAt, hrun, Option.some_inj]
      obtain ⟨last, hlast⟩ : ∃ last, last = if isPrefix then n + 1 else start := ⟨_, rfl⟩
      have hle : last ≤ pat.length := by
        rw [hlast]
        split_ifs <;> omega
      have hwrite := IntTable.write_of_lt (t := t) (i := n) (n := n)
        (v := last + (pat.length - 1 - n)) rfl (by omega) (by omega) (by omega)
      obtain ⟨t', hloop, hlength, hentries, hkeep⟩ := ih
        (t := t.set n (some (last + (pat.length - 1 - n)))) (by omega) hle
        (by rw [List.length_set, ht])
      refine ⟨t', ?_, hlength, ?_, ?_⟩
      · simp only [prefixLoop, hrun, Option.bind_eq_bind, Option.bind_some, ← hlast, hwrite, hloop]
      · intro p hp
        rcases Nat.lt_succ_iff_lt_or_eq.mp hp with hlt | rfl
        · obtain ⟨v, hv, hshift⟩ := hentries p hlt
          rw [hlast] at hv
          exact ⟨v, hv.succ hstarts hlt, hshift⟩
        · refine ⟨last, hlast ▸ isLastPrefix_self hstarts, ?_⟩
          rw [HasShift, hkeep p le_rfl, IntTable.read_set_self (by omega), Option.some_inj]
          omega
      · intro k hk
        rw [hkeep k (by omega), IntTable.read_set_of_ne (by omega)]

/-- The second loop writes the re-occurrence that ends at `p`. -/
lemma suffixStep_spec (hlen : pat.length < 2 ^ 30) (hp : p < pat.length - 1)
    (ht : t.length = pat.length) :
    ∃ t', suffixStep pat pat.length t p = some t' ∧ t'.length = pat.length ∧
      ∀ j < pat.length,
        ReoccursAt pat j (pat.length - 1 - p) ∧ HasShift pat t' j (pat.length - 1 - p) ∨
          ¬ReoccursAt pat j (pat.length - 1 - p) ∧ t'.read j = t.read j := by
  have hp' : p < pat.length := by omega
  obtain ⟨k, hrun, hk⟩ := maxSuffixLen_spec hp'
  have hle := hk.le
  have hc := readAt_of_lt (a := pat) (i := p - k) (n := p - k) (by omega) (by omega)
  have hd := readAt_of_lt (a := pat) (i := pat.length - 1 - k) (n := pat.length - 1 - k) (by omega)
    (by omega)
  have hget := getElem?_eq_getElem?_iff (a := pat) (b := pat) (n := p - k)
    (k := pat.length - 1 - k) (by omega) (by omega)
  simp only [suffixStep, hrun, hc, hd, Option.bind_eq_bind, Option.bind_some]
  by_cases heq : pat[p - k] = pat[pat.length - 1 - k]
  · rw [if_neg (not_not_intro heq)]
    refine ⟨t, rfl, ht, fun j hj => .inr ⟨fun hre => ?_, rfl⟩⟩
    have hindex := hk.eq_of_reoccursAt hp hj hre
    have hback : j - (pat.length - 1 - p) = p - k := by omega
    have hdiffers := hre.differs
    rw [hback, hindex] at hdiffers
    exact hdiffers (hget.mpr heq)
  · rw [if_pos heq]
    have hre := hk.reoccursAt hp (mt hget.mp heq)
    have hwrite := IntTable.write_of_lt (t := t) (i := pat.length - 1 - k)
      (n := pat.length - 1 - k) (v := pat.length - 1 - p + k) (by omega) (by omega) (by omega)
      (by omega)
    refine ⟨_, hwrite, by rw [List.length_set, ht], fun j hj => ?_⟩
    by_cases hj' : j = pat.length - 1 - k
    · refine .inl ⟨hj' ▸ hre, ?_⟩
      rw [HasShift, hj', IntTable.read_set_self (by omega), Option.some_inj]
      omega
    · refine .inr ⟨fun hre' => hj' (hk.eq_of_reoccursAt hp hj hre'), ?_⟩
      rw [IntTable.read_set_of_ne (by omega)]

/-- The second loop leaves the least re-occurrence where there is one. -/
lemma suffixLoop_spec (hlen : pat.length < 2 ^ 30) (ht : t.length = pat.length) :
    ∃ t', (List.range (pat.length - 1)).foldlM (suffixStep pat pat.length) t = some t' ∧
      ∀ j < pat.length, (∃ s, IsLeastReoccurrence pat 0 j s ∧ HasShift pat t' j s) ∨
        (∀ s, ¬ReoccursAt pat j s) ∧ t'.read j = t.read j := by
  have hloop := exists_foldlM_range (f := suffixStep pat pat.length) (n := pat.length - 1) (s := t)
    (motive := fun p t' => t'.length = pat.length ∧ ∀ j < pat.length,
      (∃ s, IsLeastReoccurrence pat (pat.length - 1 - p) j s ∧ HasShift pat t' j s) ∨
        (∀ s, pat.length - 1 - p < s → ¬ReoccursAt pat j s) ∧ t'.read j = t.read j) ?_ ?_
  · obtain ⟨t', hrun, -, hentries⟩ := hloop
    refine ⟨t', hrun, fun j hj => ?_⟩
    rcases hentries j hj with hleast | ⟨hnone, hkeep⟩
    · rw [Nat.sub_self] at hleast
      exact .inl hleast
    · refine .inr ⟨fun s hre => hnone s ?_ hre, hkeep⟩
      have hpos := hre.pos
      omega
  · refine ⟨ht, fun j hj => .inr ⟨fun s hs hre => ?_, rfl⟩⟩
    have hle := hre.le
    omega
  · rintro p hp t' ⟨hlength, hentries⟩
    obtain ⟨t'', hstep, hlength', hstep_entries⟩ := suffixStep_spec hlen hp hlength
    refine ⟨t'', hstep, hlength', fun j hj => ?_⟩
    have hbelow : pat.length - 1 - (p + 1) < pat.length - 1 - p := by omega
    rcases hstep_entries j hj with ⟨hre, hshift⟩ | ⟨hnot, hkeep⟩
    · exact .inl ⟨_, ⟨hbelow, hre, fun r hr hr' => by omega⟩, hshift⟩
    · rcases hentries j hj with ⟨s, ⟨hs, hre, hleast⟩, hshift⟩ | ⟨hnone, hkeep'⟩
      · refine .inl ⟨s, ⟨by omega, hre, fun r hr hr' => ?_⟩, by rwa [HasShift, hkeep]⟩
        rcases Nat.lt_or_ge (pat.length - 1 - p) r with hlt | hge
        · exact hleast r hlt hr'
        · have heq : r = pat.length - 1 - p := by omega
          rwa [heq]
      · refine .inr ⟨fun s hs => ?_, by rw [hkeep, hkeep']⟩
        rcases Nat.lt_or_ge (pat.length - 1 - p) s with hlt | hge
        · exact hnone s hlt
        · have heq : s = pat.length - 1 - p := by omega
          rwa [heq]

/-- Every entry of the table moves the alignment by a good suffix shift. -/
theorem bmMakeDelta2_spec (hlen : pat.length < 2 ^ 30) :
    ∃ t, bmMakeDelta2 pat pat.length = some t ∧
      ∀ j < pat.length, ∃ shift, GoodShift pat j shift ∧ HasShift pat t j shift := by
  have hchecked : checkedInt pat.length = some (pat.length : ℤ) :=
    checkedInt_of_mem (by omega) (by omega)
  obtain ⟨t₁, hstarts, hlength, hentries, -⟩ := prefixLoop_spec hlen (n := pat.length)
    (t := IntTable.uninitialized pat.length) le_rfl (Nat.sub_le pat.length 1)
    List.length_replicate
  obtain ⟨t₂, hsuffix, hentries'⟩ := suffixLoop_spec hlen hlength
  refine ⟨t₂, ?_, fun j hj => ?_⟩
  · simp only [bmMakeDelta2, hchecked, hstarts, hsuffix, Option.bind_eq_bind, Option.bind_some]
  · rcases hentries' j hj with ⟨s, hleast, hshift⟩ | ⟨hnone, hkeep⟩
    · exact ⟨s, .inl hleast, hshift⟩
    · obtain ⟨v, hv, hshift⟩ := hentries j hj
      exact ⟨v, .inr ⟨hnone, hv⟩, by rwa [HasShift, hkeep]⟩

-- the shifts for `aba` are 1, 3 and 1
example : bmMakeDelta2 [97, 98, 97] 3 = some [some 3, some 4, some 1] := by decide +kernel

lemma GoodShift.pos (h : GoodShift pat j n) (hj : j < pat.length) : 0 < n := by
  rcases h with ⟨hpos, -⟩ | ⟨-, ⟨q, -, -, -, -, hv⟩ | ⟨hnone, hv⟩⟩
  · exact hpos
  · omega
  · -- the whole pattern is a prefix, so `j` is not its first place
    by_contra hzero
    have hj' : j = 0 := by omega
    exact hnone 0 (by omega) (by omega) (prefixAt_zero pat)

lemma GoodShift.le (h : GoodShift pat j n) (hj : j < pat.length) : n ≤ pat.length := by
  rcases h with ⟨-, hre, -⟩ | ⟨-, ⟨q, -, hq, -, -, hv⟩ | ⟨-, hv⟩⟩
  · have hle := hre.le
    omega
  · omega
  · omega

end Delta2

/-! ## The bad character table -/

section Delta1

variable {pat : List UInt8}

/-- The entry for `c` is the distance of the last place from the last `c` before it. -/
structure BadCharacter (pat : List UInt8) (t : IntTable) (c : UInt8) (v : ℕ) : Prop where
  entry : t.read c.toNat = some (v : ℤ)
  pos : 0 < v
  le : v ≤ pat.length
  absent : ∀ i, pat.length ≤ i + v → i + 1 < pat.length → pat[i]? ≠ some c

lemma fill_spec {v : ℤ} (hlow : -2 ^ 31 ≤ v) (hhigh : v < 2 ^ 31) :
    ∃ t, (List.range alphabetLen).foldlM (fun t (i : ℕ) => IntTable.write t i v)
        (IntTable.uninitialized alphabetLen) = some t ∧
      t.length = alphabetLen ∧ ∀ k < alphabetLen, t.read k = some v := by
  refine exists_foldlM_range
    (motive := fun n t => t.length = alphabetLen ∧ ∀ k < n, IntTable.read t k = some v) ?_ ?_
  · exact ⟨List.length_replicate, fun k hk => absurd hk (Nat.not_lt_zero k)⟩
  · rintro n hn t ⟨hlength, hentries⟩
    refine ⟨_, IntTable.write_of_lt rfl (by omega) hlow hhigh, by rw [List.length_set, hlength],
      fun k hk => ?_⟩
    rcases Nat.lt_succ_iff_lt_or_eq.mp hk with hlt | rfl
    · rw [IntTable.read_set_of_ne (by omega)]
      exact hentries k hlt
    · exact IntTable.read_set_self (by omega)

theorem bmMakeDelta1_spec (hne : pat ≠ []) (hlen : pat.length < 2 ^ 30) :
    ∃ t, bmMakeDelta1 pat pat.length = some t ∧ ∀ c, ∃ v, BadCharacter pat t c v := by
  have hpos : 0 < pat.length := List.length_pos_iff.mpr hne
  obtain ⟨t₁, hfill, hlength, hentries⟩ := fill_spec (v := pat.length) (by omega) (by omega)
  simp only [bmMakeDelta1, hfill, Option.bind_eq_bind, Option.bind_some, if_neg hpos.ne']
  have hloop := exists_foldlM_range (n := pat.length - 1) (s := t₁)
    (f := fun t (i : ℕ) => (readAt pat i).bind fun c =>
      IntTable.write t c.toNat (pat.length - 1 - i))
    (motive := fun n t => t.length = alphabetLen ∧ ∀ c : UInt8, ∃ v : ℕ,
      t.read c.toNat = some (v : ℤ) ∧ 0 < v ∧ v ≤ pat.length ∧
        ∀ i, pat.length ≤ i + v → i < n → pat[i]? ≠ some c) ?_ ?_
  · obtain ⟨t, hrun, -, hentries'⟩ := hloop
    refine ⟨t, hrun, fun c => ?_⟩
    obtain ⟨v, hentry, hv, hle, habsent⟩ := hentries' c
    exact ⟨v, hentry, hv, hle, fun i hi hi' => habsent i hi (by omega)⟩
  · exact ⟨hlength, fun c => ⟨pat.length, hentries _ c.toNat_lt, hpos, le_rfl,
      fun i _ hi => absurd hi (Nat.not_lt_zero i)⟩⟩
  · rintro n hn t ⟨hlength', hentries'⟩
    have hc := readAt_of_lt (a := pat) (i := n) (n := n) rfl (by omega)
    have hinside : pat[n].toNat < t.length := by
      rw [hlength']
      exact pat[n].toNat_lt
    have hwrite := IntTable.write_of_lt (t := t) (i := pat[n].toNat) (n := pat[n].toNat)
      (v := pat.length - 1 - n) rfl hinside (by omega) (by omega)
    refine ⟨_, by rw [hc, Option.bind_some, hwrite], by rw [List.length_set, hlength'],
      fun c => ?_⟩
    by_cases heq : pat[n] = c
    · refine ⟨pat.length - 1 - n, ?_, by omega, by omega, fun i hi hi' => by omega⟩
      rw [← heq, IntTable.read_set_self hinside, Option.some_inj]
      omega
    · obtain ⟨v, hentry, hv, hle, habsent⟩ := hentries' c
      refine ⟨v, ?_, hv, hle, fun i hi hi' => ?_⟩
      · rw [IntTable.read_set_of_ne (mt UInt8.toNat_inj.mp heq), hentry]
      · rcases Nat.lt_succ_iff_lt_or_eq.mp hi' with hlt | rfl
        · exact habsent i hi hlt
        · rw [List.getElem?_eq_getElem (by omega), Option.some_inj.ne]
          exact heq

end Delta1

/-! ## An alignment -/

section Alignment

variable {str pat : List UInt8} {a : ℕ} {delta1 delta2 : IntTable}

lemma matchLoop_spec (ha : a + pat.length ≤ str.length) {left : ℕ} (hleft : left ≤ pat.length)
    (hbehind : ∀ k, left ≤ k → k < pat.length → str[a + k]? = pat[k]?) :
    (matchLoop str pat left (a + left - 1) = some (0, (a : ℤ) - 1) ∧ OccursAt pat str a) ∨
      ∃ j : ℕ, matchLoop str pat left (a + left - 1) = some (j + 1, (a : ℤ) + j) ∧
        MismatchAt pat str a j := by
  induction left with
  | zero =>
      refine .inl ⟨?_, fun k hk => hbehind k (Nat.zero_le k) hk⟩
      rw [matchLoop]
      simp
  | succ j ih =>
      have hc := readAt_of_lt (a := str) (i := a + (j + 1 : ℕ) - 1) (n := a + j) (by omega)
        (by omega)
      have hd := readAt_of_lt (a := pat) (i := j) (n := j) rfl (by omega)
      have hindex : (a : ℤ) + (j + 1 : ℕ) - 1 - 1 = a + j - 1 := by omega
      have hindex' : (a : ℤ) + (j + 1 : ℕ) - 1 = a + j := by omega
      simp only [matchLoop, hc, hd, Option.bind_eq_bind, Option.bind_some]
      have hget := getElem?_eq_getElem?_iff (a := str) (b := pat) (n := a + j) (k := j) (by omega)
        (by omega)
      by_cases heq : str[a + j] = pat[j]
      · rw [if_pos heq, hindex]
        apply ih (by omega)
        intro k hjk hk
        rcases Nat.eq_or_lt_of_le hjk with rfl | hlt
        · exact hget.mpr heq
        · exact hbehind k hlt hk
      · rw [if_neg heq, hindex']
        exact .inr ⟨j, rfl, by omega, fun k hjk hk => hbehind k hjk hk, mt hget.mp heq⟩

/-- After a mismatch at `j` the alignment goes on by `shift`, which is at least the good suffix
shift `good`, and passes over an occurrence only when that does. -/
structure GoesOn (pat str : List UInt8) (a j good shift : ℕ) : Prop where
  mismatch : MismatchAt pat str a j
  goodShift : GoodShift pat j good
  good_le : good ≤ shift
  le : shift ≤ pat.length
  passes : ∀ s, 0 < s → s < shift → OccursAt pat str (a + s) → s < good

/-- A mismatched character is not passed over by its own shift. -/
lemma BadCharacter.not_occursAt {c : UInt8} {j v s : ℕ} (h : BadCharacter pat delta1 c v)
    (hmismatch : MismatchAt pat str a j) (hc : str[a + j]? = some c) (hpos : 0 < s)
    (hs : s + (pat.length - 1 - j) < v) : ¬OccursAt pat str (a + s) := by
  intro hocc
  have hj := hmismatch.lt
  have hle := h.le
  have hget := hmismatch.getElem?_sub hocc (by omega)
  rw [hc] at hget
  exact h.absent (j - s) (by omega) (by omega) hget

/-- The larger of the two entries. -/
lemma goesOn_max {c : UInt8} {j good v : ℕ} (hmismatch : MismatchAt pat str a j)
    (hgood : GoodShift pat j good) (hbad : BadCharacter pat delta1 c v)
    (hc : str[a + j]? = some c) :
    GoesOn pat str a j good (max (v - (pat.length - 1 - j)) good) where
  mismatch := hmismatch
  goodShift := hgood
  good_le := le_max_right _ _
  le := by
    have hle := hbad.le
    have hgood_le := hgood.le hmismatch.lt
    omega
  passes := by
    intro s hpos hs hocc
    rcases lt_max_iff.mp hs with hlt | hlt
    · exact absurd hocc (hbad.not_occursAt hmismatch hc hpos (by omega))
    · exact hlt

/-- One alignment is the last one, with an occurrence, or is followed by one further on. -/
theorem searchLoop_step (hstr : str.length < 2 ^ 30) (hlen : pat.length < 2 ^ 30)
    (hdelta1 : ∀ c, ∃ v, BadCharacter pat delta1 c v)
    (hdelta2 : ∀ j < pat.length, ∃ shift, GoodShift pat j shift ∧ HasShift pat delta2 j shift)
    (ha : a + pat.length ≤ str.length) (hne : pat ≠ []) (rounds : ℕ) :
    (OccursAt pat str a ∧ searchLoop str str.length pat pat.length delta1 delta2 (rounds + 1)
      (a + pat.length - 1) = some { alignments := [(a : ℤ)], offset := some (a : ℤ) }) ∨
    ∃ j good shift, GoesOn pat str a j good shift ∧
      searchLoop str str.length pat pat.length delta1 delta2 (rounds + 1) (a + pat.length - 1) =
        (searchLoop str str.length pat pat.length delta1 delta2 rounds
          ((a + shift : ℕ) + pat.length - 1)).map
            fun rest => { rest with alignments := a :: rest.alignments } := by
  have hpos : 0 < pat.length := List.length_pos_iff.mpr hne
  have hinside : (a : ℤ) + pat.length - 1 < str.length := by omega
  have hbehind : ∀ k, pat.length ≤ k → k < pat.length → str[a + k]? = pat[k]? :=
    fun k hge hlt => by omega
  rcases matchLoop_spec ha le_rfl hbehind with ⟨hrun, hocc⟩ | ⟨j, hrun, hmismatch⟩
  · refine .inl ⟨hocc, ?_⟩
    rw [searchLoop, if_pos hinside]
    simp only [hrun, Option.bind_eq_bind, Option.bind_some, Int.sub_add_cancel]
  · have hj := hmismatch.lt
    have hget : str[a + j]? = some str[a + j] := List.getElem?_eq_getElem (by omega)
    obtain ⟨v, hbad⟩ := hdelta1 str[a + j]
    obtain ⟨good, hgood, hentry⟩ := hdelta2 j hj
    have hgoes := goesOn_max hmismatch hgood hbad hget
    have hread := readAt_of_lt (a := str) (i := a + j) (n := a + j) (by omega) (by omega)
    have hle := hgoes.le
    have hgood_pos := hgood.pos hj
    refine .inr ⟨j, good, _, hgoes, ?_⟩
    have hnext : (a : ℤ) + j + max (v : ℤ) ((good + (pat.length - 1 - j) : ℕ) : ℤ) =
        ((a + max (v - (pat.length - 1 - j)) good : ℕ) : ℤ) + pat.length - 1 := by omega
    have hchecked := checkedInt_of_mem
      (v := ((a + max (v - (pat.length - 1 - j)) good : ℕ) : ℤ) + pat.length - 1) (by omega)
      (by omega)
    have halignment : (a : ℤ) + j - j = a := by omega
    rw [searchLoop, if_pos hinside]
    rw [HasShift] at hentry
    simp only [hrun, hread, hbad.entry, hentry, hnext, hchecked, halignment, Option.bind_eq_bind,
      Option.bind_some, Option.map_eq_bind]
    rfl

end Alignment

/-! ## A whole search -/

section Run

variable {str pat : List UInt8}

/-- What holds of a search when it holds at its end, at an occurrence, and of the rest of a search
carries over a mismatch.  There are rounds enough for it to end. -/
theorem searchLoop_induction {motive : ℕ → Search → Prop} (hstr : str.length < 2 ^ 30)
    (hlen : pat.length < 2 ^ 30) (hne : pat ≠ [])
    (hend : ∀ a, str.length < a + pat.length → motive a {})
    (hfound : ∀ a, OccursAt pat str a →
      motive a { alignments := [(a : ℤ)], offset := some (a : ℤ) })
    (hskip : ∀ a j good shift rest, a + pat.length ≤ str.length → GoesOn pat str a j good shift →
      motive (a + shift) rest → motive a { rest with alignments := a :: rest.alignments })
    {delta1 delta2 : IntTable} (hdelta1 : ∀ c, ∃ v, BadCharacter pat delta1 c v)
    (hdelta2 : ∀ j < pat.length, ∃ shift, GoodShift pat j shift ∧ HasShift pat delta2 j shift)
    {rounds a : ℕ} (hrounds : str.length < a + pat.length + rounds) :
    ∃ search, searchLoop str str.length pat pat.length delta1 delta2 rounds (a + pat.length - 1) =
      some search ∧ motive a search := by
  induction rounds generalizing a with
  | zero =>
      refine ⟨{}, ?_, hend a hrounds⟩
      rw [searchLoop, if_neg (by omega)]
  | succ rounds ih =>
      rcases Nat.lt_or_ge str.length (a + pat.length) with hlt | hge
      · refine ⟨{}, ?_, hend a hlt⟩
        rw [searchLoop, if_neg (by omega)]
      · rcases searchLoop_step hstr hlen hdelta1 hdelta2 hge hne rounds with
          ⟨hocc, hrun⟩ | ⟨j, good, shift, hgoes, hrun⟩
        · exact ⟨_, hrun, hfound a hocc⟩
        · have hpos := hgoes.goodShift.pos hgoes.mismatch.lt
          have hle := hgoes.good_le
          obtain ⟨rest, hrest, hholds⟩ := ih (a := a + shift) (by omega)
          refine ⟨_, ?_, hskip a j good shift rest hge hgoes hholds⟩
          rw [hrun, hrest, Option.map_some]

theorem bmSearch_induction {motive : ℕ → Search → Prop} (hstr : str.length < 2 ^ 30)
    (hlen : pat.length < 2 ^ 30) (hne : pat ≠ [])
    (hend : ∀ a, str.length < a + pat.length → motive a {})
    (hfound : ∀ a, OccursAt pat str a →
      motive a { alignments := [(a : ℤ)], offset := some (a : ℤ) })
    (hskip : ∀ a j good shift rest, a + pat.length ≤ str.length → GoesOn pat str a j good shift →
      motive (a + shift) rest → motive a { rest with alignments := a :: rest.alignments }) :
    ∃ search, bmSearch str pat = some search ∧ motive 0 search := by
  have hpos : 0 < pat.length := List.length_pos_iff.mpr hne
  obtain ⟨delta1, hmake1, hdelta1⟩ := bmMakeDelta1_spec hne hlen
  obtain ⟨delta2, hmake2, hdelta2⟩ := bmMakeDelta2_spec hlen
  have hstart : checkedInt (pat.length - 1) = some (pat.length - 1 : ℤ) :=
    checkedInt_of_mem (by omega) (by omega)
  have hbound : checkedInt str.length = some (str.length : ℤ) :=
    checkedInt_of_mem (by omega) (by omega)
  obtain ⟨search, hrun, hholds⟩ := searchLoop_induction hstr hlen hne hend hfound hskip hdelta1
    hdelta2 (show str.length < 0 + pat.length + str.length by omega)
  refine ⟨search, ?_, hholds⟩
  rw [Int.natCast_zero, Int.zero_add] at hrun
  simp only [bmSearch, hmake1, hmake2, if_neg hpos.ne', hstart, hbound, hrun,
    Option.bind_eq_bind, Option.bind_some]

end Run

/-- The search ends with every access inside its array, its alignments go forward, inside the text,
and are no more than the text has positions. -/
theorem bmSearch_terminates (str pat : List UInt8) (hstr : str.length < 2 ^ 30) (hne : pat ≠ [])
    (hlen : pat.length < 2 ^ 30) :
    ∃ search, bmSearch str pat = some search ∧ search.alignments.Pairwise (· < ·) ∧
      search.alignments.length ≤ str.length ∧
      ∀ a ∈ search.alignments, 0 ≤ a ∧ a + pat.length ≤ str.length := by
  have hpos : 0 < pat.length := List.length_pos_iff.mpr hne
  have hsearch := bmSearch_induction
    (motive := fun a search => search.alignments.Pairwise (· < ·) ∧
      search.alignments.length ≤ str.length + 1 - (a + pat.length) ∧
      ∀ b ∈ search.alignments, (a : ℤ) ≤ b ∧ b + pat.length ≤ str.length) hstr hlen hne ?_ ?_ ?_
  · obtain ⟨search, hrun, hforward, hlength, hinside⟩ := hsearch
    refine ⟨search, hrun, hforward, by omega, fun a ha => ?_⟩
    exact_mod_cast hinside a ha
  · exact fun a _ => ⟨List.Pairwise.nil, Nat.zero_le _, fun b hb => absurd hb List.not_mem_nil⟩
  · intro a hocc
    have hle := hocc.length_le hne
    refine ⟨List.pairwise_singleton _ _, ?_, fun b hb => ?_⟩
    · rw [List.length_singleton]
      omega
    · rw [List.mem_singleton.mp hb]
      omega
  · rintro a j good shift rest ha hgoes ⟨hforward, hlength, hinside⟩
    have hgood_pos := hgoes.goodShift.pos hgoes.mismatch.lt
    have hle := hgoes.good_le
    refine ⟨List.pairwise_cons.mpr ⟨fun b hb => ?_, hforward⟩, ?_, fun b hb => ?_⟩
    · have hb' := (hinside b hb).1
      omega
    · rw [List.length_cons]
      omega
    · rcases List.mem_cons.mp hb with rfl | hb
      · omega
      · have hb' := hinside b hb
        omega

/-- A text with a repeated border of the pattern. -/
theorem bmSearch_terminates_border :
    ∃ search, bmSearch [120, 120, 97, 98, 97] [97, 98, 97] = some search ∧
      search.alignments.Pairwise (· < ·) ∧ search.alignments.length ≤ 5 ∧
      ∀ a ∈ search.alignments, 0 ≤ a ∧ a + 3 ≤ 5 :=
  bmSearch_terminates [120, 120, 97, 98, 97] [97, 98, 97] (by decide) (by decide) (by decide)

end LocHal.BoyerMoore
