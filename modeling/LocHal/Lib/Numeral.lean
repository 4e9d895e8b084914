import Mathlib.Algebra.Ring.Int.Defs
import Mathlib.Algebra.Ring.Nat
import Mathlib.Data.List.Basic
import Mathlib.Data.Nat.Init

/-!
# Numerals in character strings

Reading numbers as the scanning functions of the C library do: white space and a sign are passed
over, and digits are read up to the first character that is none.

A numeral that is followed by other text reads as its number exactly when that text does not begin
with a digit (`readNumeral_toDigits`, `lt_readNumeral`).  A numeral by itself is what `strtol` reads
if it fits (`strtol_toDigits`, `strtol_neg_toDigits`), and `sscanf` reads one and stops behind it
(`scanNumber_toDigits`).
-/

namespace LocHal

/-- `isspace`, in the C locale. -/
def isSpace (c : Char) : Bool :=
  c = ' ' || c = '\t' || c = '\n' || c = '\x0b' || c = '\x0c' || c = '\r'

/-- The value of a digit or of a letter that may stand for one. -/
def digitValue (c : Char) : Option ℕ :=
  if c.isDigit then some (c.toNat - '0'.toNat)
  else if 'a' ≤ c ∧ c ≤ 'z' then some (c.toNat - 'a'.toNat + 10)
  else if 'A' ≤ c ∧ c ≤ 'Z' then some (c.toNat - 'A'.toNat + 10)
  else none

/-- The value of a digit in base `b`. -/
def digitIn (b : ℕ) (c : Char) : Option ℕ := (digitValue c).filter (· < b)

/-- The digits that a text begins with, read in base `b` after digits that amount to `acc`. -/
def readNumeral (b : ℕ) : ℕ → List Char → ℕ
  | acc, [] => acc
  | acc, c :: cs =>
      match digitIn b c with
      | some d => readNumeral b (b * acc + d) cs
      | none => acc

/-- Whether a minus sign stands first, and the text after the sign. -/
def readSign : List Char → Bool × List Char
  | '-' :: cs => (true, cs)
  | '+' :: cs => (false, cs)
  | cs => (false, cs)

/-- `0x` is passed over. -/
def skipHexMark : List Char → List Char
  | '0' :: 'x' :: cs => cs
  | '0' :: 'X' :: cs => cs
  | cs => cs

/-- `strtol`, with a `long` of 64 bits, in which a number that does not fit becomes the nearest one
that does. -/
def strtol (b : ℕ) (s : List Char) : ℤ :=
  let signed := readSign (s.dropWhile isSpace)
  let n := readNumeral b 0 (if b = 16 then skipHexMark signed.2 else signed.2)
  if signed.1 then max (-(n : ℤ)) (-2 ^ 63) else min (n : ℤ) (2 ^ 63 - 1)

variable {b acc : ℕ} {c : Char} {cs : List Char}

lemma readNumeral_cons_some {d : ℕ} (h : digitIn b c = some d) :
    readNumeral b acc (c :: cs) = readNumeral b (b * acc + d) cs := by
  rw [readNumeral, h]

lemma readNumeral_cons_none (h : digitIn b c = none) : readNumeral b acc (c :: cs) = acc := by
  rw [readNumeral, h]

lemma le_readNumeral (hb : 0 < b) (acc : ℕ) (cs : List Char) : acc ≤ readNumeral b acc cs := by
  induction cs generalizing acc with
  | nil => exact Nat.le_refl acc
  | cons c cs ih =>
      cases h : digitIn b c with
      | none => exact Nat.le_of_eq (readNumeral_cons_none h).symm
      | some d =>
          rw [readNumeral_cons_some h]
          have hmul : acc ≤ b * acc := Nat.le_mul_of_pos_left acc hb
          exact Nat.le_trans (by omega : acc ≤ b * acc + d) (ih _)

/-- One more digit makes a positive number larger. -/
lemma lt_readNumeral (cs : List Char) (hb : 1 < b) (hacc : 0 < acc) {d : ℕ}
    (h : digitIn b c = some d) : acc < readNumeral b acc (c :: cs) := by
  rw [readNumeral_cons_some h]
  have hmul : 2 * acc ≤ b * acc := Nat.mul_le_mul_right acc hb
  have hle := le_readNumeral (by omega : 0 < b) (b * acc + d) cs
  omega

lemma digitIn_ten_of_isDigit (h : c.isDigit) : digitIn 10 c = some (c.toNat - '0'.toNat) := by
  have hle : c.toNat ≤ '9'.toNat := by
    simp only [Char.isDigit, Bool.and_eq_true, decide_eq_true_eq] at h
    exact h.2
  have hnine : '9'.toNat = 57 := rfl
  have hzero : '0'.toNat = 48 := rfl
  rw [digitIn, digitValue, if_pos h, Option.filter_some, if_pos (decide_eq_true (by omega))]

lemma digitIn_ten_of_not_isDigit (h : c.isDigit = false) : digitIn 10 c = none := by
  have hnot : ¬ c.isDigit = true := by simp [h]
  rw [digitIn, digitValue, if_neg hnot]
  -- a letter stands for ten or more
  split
  · exact Option.filter_eq_none_iff.mpr fun v hv => by
      have := Option.some.inj hv
      simpa using by omega
  · split
    · exact Option.filter_eq_none_iff.mpr fun v hv => by
        have := Option.some.inj hv
        simpa using by omega
    · rfl

lemma readNumeral_append_of_isDigit {ds : List Char} (h : ∀ c ∈ ds, c.isDigit) (acc : ℕ)
    (cs : List Char) :
    readNumeral 10 acc (ds ++ cs) = readNumeral 10 (Nat.ofDigitChars 10 ds acc) cs := by
  induction ds generalizing acc with
  | nil => rw [List.nil_append, Nat.ofDigitChars_nil]
  | cons d ds ih =>
      rw [List.cons_append,
        readNumeral_cons_some (digitIn_ten_of_isDigit (h d List.mem_cons_self)),
        ih (fun c hc => h c (List.mem_cons_of_mem d hc)), Nat.ofDigitChars_cons]

/-- The numeral of a number reads as this number. -/
theorem readNumeral_toDigits (n : ℕ) (cs : List Char) :
    readNumeral 10 0 (Nat.toDigits 10 n ++ cs) = readNumeral 10 n cs := by
  rw [readNumeral_append_of_isDigit
    (fun c hc => Nat.isDigit_of_mem_toDigits (by decide) (by decide) hc),
    Nat.ofDigitChars_ten_toDigits]

/-- A numeral begins with no sign and no white space. -/
lemma isDigit_head_toDigits (n : ℕ) : ∃ c cs, Nat.toDigits 10 n = c :: cs ∧ c.isDigit := by
  cases h : Nat.toDigits 10 n with
  | nil => exact absurd h (List.ne_nil_of_length_pos Nat.length_toDigits_pos)
  | cons c cs =>
      exact ⟨c, cs, rfl, Nat.isDigit_of_mem_toDigits (b := 10) (n := n) (by decide) (by decide)
        (h ▸ List.mem_cons_self)⟩

lemma isSpace_of_isDigit (h : c.isDigit) : isSpace c = false := by
  by_contra hspace
  rw [Bool.not_eq_false] at hspace
  simp only [isSpace, Bool.or_eq_true, decide_eq_true_eq] at hspace
  rcases hspace with ((((rfl | rfl) | rfl) | rfl) | rfl) | rfl <;> exact absurd h (by decide)

lemma dropWhile_isSpace_toDigits (n : ℕ) (cs : List Char) :
    (Nat.toDigits 10 n ++ cs).dropWhile isSpace = Nat.toDigits 10 n ++ cs := by
  obtain ⟨d, ds, hds, hd⟩ := isDigit_head_toDigits n
  rw [hds, List.cons_append, List.dropWhile_cons_of_neg (by simp [isSpace_of_isDigit hd])]

lemma readSign_toDigits (n : ℕ) (cs : List Char) :
    readSign (Nat.toDigits 10 n ++ cs) = (false, Nat.toDigits 10 n ++ cs) := by
  obtain ⟨d, ds, hds, hd⟩ := isDigit_head_toDigits n
  rw [hds, List.cons_append, readSign.eq_def]
  split
  · rename_i heq
    rw [(List.cons.inj heq).1] at hd
    exact absurd hd (by decide)
  · rename_i heq
    rw [(List.cons.inj heq).1] at hd
    exact absurd hd (by decide)
  · rfl

/-! ## Any base up to sixteen -/

lemma digitIn_digitChar {d : ℕ} (hd : d < b) (hb : b ≤ 16) : digitIn b d.digitChar = some d := by
  have hvalue : ∀ d < 16, digitValue d.digitChar = some d := by decide
  rw [digitIn, hvalue d (by omega), Option.filter_some, if_pos (decide_eq_true hd)]

/-- The numeral of a number in any base reads as this number. -/
lemma readNumeral_toDigits_base (hb : 1 < b) (hb' : b ≤ 16) (n : ℕ) (cs : List Char) :
    readNumeral b 0 (Nat.toDigits b n ++ cs) = readNumeral b n cs := by
  induction n using Nat.strongRecOn generalizing cs with
  | ind n ih =>
      rw [Nat.toDigits_eq_if hb]
      by_cases hn : n < b
      · rw [if_pos hn, List.singleton_append, readNumeral_cons_some (digitIn_digitChar hn hb'),
          Nat.mul_zero, Nat.zero_add]
      · have hdiv : n / b < n := Nat.div_lt_self (by omega) hb
        rw [if_neg hn, List.append_assoc, List.singleton_append, ih _ hdiv,
          readNumeral_cons_some (digitIn_digitChar (Nat.mod_lt n (by omega)) hb'), Nat.div_add_mod]

lemma exists_digitChar_of_mem_toDigits (hb : 1 < b) {n : ℕ} (h : c ∈ Nat.toDigits b n) :
    ∃ d < b, c = d.digitChar := by
  induction n using Nat.strongRecOn with
  | ind n ih =>
      rw [Nat.toDigits_eq_if hb] at h
      by_cases hn : n < b
      · rw [if_pos hn, List.mem_singleton] at h
        exact ⟨n, hn, h⟩
      · rw [if_neg hn, List.mem_append, List.mem_singleton] at h
        rcases h with hinit | hlast
        · exact ih _ (Nat.div_lt_self (by omega) hb) hinit
        · exact ⟨n % b, Nat.mod_lt n (by omega), hlast⟩

/-- Digits only. -/
def IsNumeral (s : List Char) : Prop := ∀ c ∈ s, ∃ d < 16, c = Nat.digitChar d

lemma isNumeral_toDigits (hb : 1 < b) (hb' : b ≤ 16) (n : ℕ) : IsNumeral (Nat.toDigits b n) := by
  intro c hc
  obtain ⟨d, hd, heq⟩ := exists_digitChar_of_mem_toDigits hb hc
  exact ⟨d, by omega, heq⟩

lemma IsNumeral.ne (h : IsNumeral cs) (hc : ∀ d < 16, Nat.digitChar d ≠ c) : c ∉ cs := by
  intro hmem
  obtain ⟨d, hd, heq⟩ := h c hmem
  exact hc d hd heq.symm

lemma IsNumeral.dropWhile_isSpace (h : IsNumeral cs) : cs.dropWhile isSpace = cs := by
  have hspace : ∀ d < 16, isSpace (Nat.digitChar d) = false := by decide
  cases cs with
  | nil => rfl
  | cons c cs =>
      obtain ⟨d, hd, rfl⟩ := h c List.mem_cons_self
      exact List.dropWhile_cons_of_neg (by rw [hspace d hd]; exact Bool.false_ne_true)

lemma IsNumeral.readSign (h : IsNumeral cs) : LocHal.readSign cs = (false, cs) := by
  have hminus : '-' ∉ cs := h.ne (by decide)
  have hplus : '+' ∉ cs := h.ne (by decide)
  rw [LocHal.readSign.eq_def]
  split
  · exact absurd List.mem_cons_self hminus
  · exact absurd List.mem_cons_self hplus
  · rfl

lemma IsNumeral.skipHexMark (h : IsNumeral cs) : LocHal.skipHexMark cs = cs := by
  have hlower : 'x' ∉ cs := h.ne (by decide)
  have hupper : 'X' ∉ cs := h.ne (by decide)
  rw [LocHal.skipHexMark.eq_def]
  split
  · exact absurd (List.mem_cons_of_mem _ List.mem_cons_self) hlower
  · exact absurd (List.mem_cons_of_mem _ List.mem_cons_self) hupper
  · rfl

/-- `strtol` of a number without a sign. -/
lemma strtol_toDigits (hb : 1 < b) (hb' : b ≤ 16) (n : ℕ) :
    strtol b (Nat.toDigits b n) = min (n : ℤ) (2 ^ 63 - 1) := by
  have h := isNumeral_toDigits hb hb' n
  have hread : readNumeral b 0 (Nat.toDigits b n) = n := by
    have hall := readNumeral_toDigits_base hb hb' n []
    rwa [List.append_nil] at hall
  rw [strtol, h.dropWhile_isSpace, h.readSign]
  simp only [h.skipHexMark, ite_self, hread, Bool.false_eq_true, if_false]

/-- `strtol` of a negative number. -/
lemma strtol_neg_toDigits (n : ℕ) :
    strtol 10 ('-' :: Nat.toDigits 10 n) = max (-(n : ℤ)) (-2 ^ 63) := by
  have hread : readNumeral 10 0 (Nat.toDigits 10 n) = n := by
    have hall := readNumeral_toDigits_base (by decide : 1 < 10) (by decide) n []
    rwa [List.append_nil] at hall
  have hspace : ('-' :: Nat.toDigits 10 n).dropWhile isSpace = '-' :: Nat.toDigits 10 n :=
    List.dropWhile_cons_of_neg (by decide)
  rw [strtol, hspace, LocHal.readSign]
  have hten : ¬ 10 = 16 := by decide
  simp only [if_neg hten, hread, if_true]

/-! ## Scanning -/

/-- The number that `sscanf` reads next: whether a minus sign stands first, what the digits are, and
the text after them. -/
def scanNumber (s : List Char) : Option (Bool × ℕ × List Char) :=
  let signed := readSign (s.dropWhile isSpace)
  if signed.2.head?.any Char.isDigit then
    some (signed.1, readNumeral 10 0 signed.2, signed.2.dropWhile Char.isDigit)
  else none

/-- `%d`: what fits in 64 bits is cut to 32 of them. -/
def scanInt (s : List Char) : Option (ℤ × List Char) :=
  (scanNumber s).map fun (negative, n, rest) =>
    (Int.bmod (if negative then max (-(n : ℤ)) (-2 ^ 63) else min (n : ℤ) (2 ^ 63 - 1)) (2 ^ 32),
      rest)

/-- `SCNu64`: a number that does not fit becomes the largest one. -/
def scanUInt64 (s : List Char) : Option (UInt64 × List Char) :=
  (scanNumber s).map fun (negative, n, rest) =>
    (if 2 ^ 64 ≤ n then UInt64.ofNat (2 ^ 64 - 1)
      else if negative then -UInt64.ofNat n
      else UInt64.ofNat n, rest)

/-- The text up to the first zero. -/
def beforeNul (s : List Char) : List Char := s.takeWhile (· ≠ '\x00')

section Scanning

variable {n : ℕ} {rest : List Char}

/-- What comes after the digits is no digit. -/
def EndsNumber (rest : List Char) : Prop := ∀ c ∈ rest.head?, c.isDigit = false

lemma scanNumber_toDigits (n : ℕ) (h : EndsNumber rest) :
    scanNumber (Nat.toDigits 10 n ++ rest) = some (false, n, rest) := by
  have hdigits : ∀ c ∈ Nat.toDigits 10 n, c.isDigit = true :=
    fun c hc => Nat.isDigit_of_mem_toDigits (by decide) (by decide) hc
  have hhead : (Nat.toDigits 10 n ++ rest).head?.any Char.isDigit = true := by
    obtain ⟨c, cs, hcs, hc⟩ := isDigit_head_toDigits n
    rw [hcs]
    exact hc
  have hread : readNumeral 10 0 (Nat.toDigits 10 n ++ rest) = n := by
    rw [readNumeral_toDigits]
    cases rest with
    | nil => rfl
    | cons c cs => exact readNumeral_cons_none (digitIn_ten_of_not_isDigit (h c rfl))
  have hrest : (Nat.toDigits 10 n ++ rest).dropWhile Char.isDigit = rest := by
    rw [List.dropWhile_append_of_pos hdigits]
    cases rest with
    | nil => rfl
    | cons c cs => exact List.dropWhile_cons_of_neg (by rw [h c rfl]; exact Bool.false_ne_true)
  rw [scanNumber, dropWhile_isSpace_toDigits, readSign_toDigits]
  simp only [hhead, hread, hrest, if_true]

lemma scanNumber_space (s : List Char) : scanNumber (' ' :: s) = scanNumber s := rfl

lemma scanInt_toDigits (hn : n < 2 ^ 31) (h : EndsNumber rest) :
    scanInt (Nat.toDigits 10 n ++ rest) = some ((n : ℤ), rest) := by
  have hfits : min (n : ℤ) (2 ^ 63 - 1) = n := by omega
  have hbmod : Int.bmod (n : ℤ) (2 ^ 32) = n := Int.bmod_eq_of_le (by omega) (by omega)
  rw [scanInt, scanNumber_toDigits n h]
  simp only [Option.map_some, Bool.false_eq_true, if_false, hfits, hbmod]

lemma beforeNul_toDigits (n : ℕ) (rest : List Char) :
    beforeNul (Nat.toDigits 10 n ++ rest) = Nat.toDigits 10 n ++ beforeNul rest := by
  refine List.takeWhile_append_of_pos fun c hc => ?_
  have hdigit : c.isDigit = true := Nat.isDigit_of_mem_toDigits (by decide) (by decide) hc
  refine decide_eq_true ?_
  rintro rfl
  exact absurd hdigit (by decide)

lemma EndsNumber.beforeNul (h : EndsNumber rest) : EndsNumber (beforeNul rest) := by
  intro c hc
  cases rest with
  | nil => cases hc
  | cons d ds =>
      by_cases hd : d = '\x00'
      · rw [LocHal.beforeNul, List.takeWhile_cons_of_neg (by simp [hd])] at hc
        cases hc
      · rw [LocHal.beforeNul, List.takeWhile_cons_of_pos (by simp [hd])] at hc
        exact h c hc

end Scanning

end LocHal
