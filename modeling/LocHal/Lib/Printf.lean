import LocHal.Lib.BinaryFloat

/-!
# Printed numbers

The conversions of `snprintf` for integers, bytes and floating-point values.  A floating-point value
is printed from its exact decimal expansion, rounded to the nearest last digit and to the even one
of two.

The length of what is printed is bounded by that of a larger whole number
(`length_formatIntPadded_le`, `length_formatFixed_le`).
-/

namespace LocHal

def signText (negative : Bool) : List Char := if negative then ['-'] else []

/-- The digits after their sign, with zeros between the two up to a width of `w`. -/
def padZeros (w : ℕ) (negative : Bool) (digits : List Char) : List Char :=
  signText negative ++ digits.leftpad (w - (signText negative).length) '0'

/-- `%d`. -/
def formatInt (n : ℤ) : List Char := signText (n < 0) ++ Nat.toDigits 10 n.natAbs

/-- `%0wd`. -/
def formatIntPadded (w : ℕ) (n : ℤ) : List Char := padZeros w (n < 0) (Nat.toDigits 10 n.natAbs)

/-- `%w.pd`, for a width that is no more than the precision. -/
def formatIntDigits (p : ℕ) (n : ℤ) : List Char :=
  signText (n < 0) ++ (Nat.toDigits 10 n.natAbs).leftpad p '0'

/-- `%02X`, for a byte. -/
def formatHexByte (b : UInt8) : List Char :=
  ((Nat.toDigits 16 b.toNat).map Char.toUpper).leftpad 2 '0'

/-- The decimal expansion of a number to `d` places, at least one. -/
def fixedDigits (d : ℕ) (q : ℚ≥0) : List Char :=
  let n := roundHalfEven (q * 10 ^ d)
  Nat.toDigits 10 (n / 10 ^ d) ++ '.' :: (Nat.toDigits 10 (n % 10 ^ d)).leftpad d '0'

/-- The number that these digits stand for. -/
def roundedTo (d : ℕ) (q : ℚ≥0) : ℚ := roundHalfEven (q * 10 ^ d) / 10 ^ d

/-- `%.df`. -/
def formatFixed (d : ℕ) : FloatValue → List Char
  | .finite s q => signText s ++ fixedDigits d q
  | .infinite s => signText s ++ ['i', 'n', 'f']
  | .nan => ['n', 'a', 'n']

/-- `%0w.df`.  What is no number is padded with spaces. -/
def formatFixedPadded (w d : ℕ) : FloatValue → List Char
  | .finite s q => padZeros w s (fixedDigits d q)
  | x => (formatFixed d x).leftpad w ' '

variable {n : ℤ} {k w d : ℕ} {s : Bool} {digits : List Char}

lemma length_signText_le (s : Bool) : (signText s).length ≤ 1 := by
  cases s <;> decide

lemma signText_nonneg (h : 0 ≤ n) : signText (n < 0) = [] := by
  rw [signText, if_neg]
  simpa using h

lemma length_digits_le (hk : 0 < k) {m : ℕ} (h : m < 10 ^ k) : (Nat.toDigits 10 m).length ≤ k :=
  (Nat.length_toDigits_le_iff (by decide) hk).mpr h

lemma length_padZeros_le (hw : w ≤ k) (h : (signText s).length + digits.length ≤ k) :
    (padZeros w s digits).length ≤ k := by
  rw [padZeros, List.length_append, List.length_leftpad]
  omega

/-! ### Integers -/

lemma length_formatInt_nat_le (hk : 0 < k) {m : ℕ} (h : m < 10 ^ k) :
    (formatInt m).length ≤ k := by
  rw [formatInt, signText_nonneg (Int.natCast_nonneg m)]
  exact length_digits_le hk h

lemma length_formatIntPadded_le (hw : w ≤ k + 1) (hk : 0 < k) (h : n.natAbs < 10 ^ k) :
    (formatIntPadded w n).length ≤ k + 1 := by
  apply length_padZeros_le hw
  have hsign := length_signText_le (n < 0)
  have hdigits := length_digits_le hk h
  omega

lemma length_formatIntPadded_nonneg_le (hn : 0 ≤ n) (hw : w ≤ k) (hk : 0 < k)
    (h : n.natAbs < 10 ^ k) : (formatIntPadded w n).length ≤ k := by
  apply length_padZeros_le hw
  rw [signText_nonneg hn, List.length_nil, Nat.zero_add]
  exact length_digits_le hk h

lemma length_formatIntDigits_le {p : ℕ} (hp : p ≤ k) (hk : 0 < k) (h : n.natAbs < 10 ^ k) :
    (formatIntDigits p n).length ≤ k + 1 := by
  have hsign := length_signText_le (n < 0)
  have hdigits := length_digits_le hk h
  rw [formatIntDigits, List.length_append, List.length_leftpad]
  omega

lemma length_formatIntDigits_nonneg_le {p : ℕ} (hn : 0 ≤ n) (hp : p ≤ k) (hk : 0 < k)
    (h : n.natAbs < 10 ^ k) : (formatIntDigits p n).length ≤ k := by
  have hdigits := length_digits_le hk h
  rw [formatIntDigits, signText_nonneg hn, List.nil_append, List.length_leftpad]
  omega

/-! ### Floating-point values -/

/-- A number of `k` digits before the point takes `d` after it. -/
lemma length_fixedDigits_le {q : ℚ≥0} {m : ℕ} (hd : 0 < d) (hk : 0 < k) (hq : q ≤ m)
    (hm : m < 10 ^ k) : (fixedDigits d q).length ≤ k + d + 1 := by
  have hround : roundHalfEven (q * 10 ^ d) ≤ m * 10 ^ d := by
    apply roundHalfEven_le
    push_cast
    exact mul_le_mul_left hq _
  have hwhole : roundHalfEven (q * 10 ^ d) / 10 ^ d < 10 ^ k := by
    apply lt_of_le_of_lt _ hm
    exact Nat.div_le_of_le_mul (by rwa [Nat.mul_comm] at hround)
  have hfraction : roundHalfEven (q * 10 ^ d) % 10 ^ d < 10 ^ d :=
    Nat.mod_lt _ (Nat.pow_pos (by decide))
  have hleft := length_digits_le hk hwhole
  have hright := length_digits_le hd hfraction
  simp only [fixedDigits, List.length_append, List.length_cons, List.length_leftpad]
  omega

/-- A value within a number of `k` digits, printed to `d` places. -/
theorem length_formatFixed_le {x : FloatValue} {m : ℕ} (hd : 0 < d) (hk : 0 < k)
    (hx : x.Within m) (hm : m < 10 ^ k) : (formatFixed d x).length ≤ k + d + 2 := by
  cases x with
  | finite s q =>
      have hsign := length_signText_le s
      have hdigits := length_fixedDigits_le hd hk hx hm
      rw [formatFixed, List.length_append]
      omega
  | infinite s =>
      have hsign := length_signText_le s
      simp only [formatFixed, List.length_append, List.length_cons, List.length_nil]
      omega
  | nan =>
      simp only [formatFixed, List.length_cons, List.length_nil]
      omega

theorem length_formatFixedPadded_le {x : FloatValue} {m : ℕ} (hw : w ≤ k + d + 2) (hd : 0 < d)
    (hk : 0 < k) (hx : x.Within m) (hm : m < 10 ^ k) :
    (formatFixedPadded w d x).length ≤ k + d + 2 := by
  have hlength := length_formatFixed_le hd hk hx hm
  cases x with
  | finite s q =>
      apply length_padZeros_le hw
      rwa [formatFixed, List.length_append] at hlength
  | infinite s =>
      rw [formatFixedPadded, List.length_leftpad]
      · exact max_le hw hlength
      · exact fun s q h => nomatch h
  | nan =>
      rw [formatFixedPadded, List.length_leftpad]
      · exact max_le hw hlength
      · exact fun s q h => nomatch h

example : formatFixed 1 (.finite true 13.25) = "-13.2".toList := by decide +kernel

/-! ### The characters -/

/-- A character that a number is printed with. -/
def IsNumberChar (c : Char) : Prop := c.isDigit = true ∨ c ∈ ['-', '.', 'i', 'n', 'f', 'a']

instance (c : Char) : Decidable (IsNumberChar c) := instDecidableOr

lemma isNumberChar_signText : ∀ c ∈ signText s, IsNumberChar c := by
  cases s with
  | false => exact List.forall_mem_nil _
  | true => exact List.forall_mem_singleton.mpr (by decide)

lemma isNumberChar_toDigits (m : ℕ) : ∀ c ∈ Nat.toDigits 10 m, IsNumberChar c := fun _ hc =>
  .inl (Nat.isDigit_of_mem_toDigits (by decide) (by decide) hc)

lemma isNumberChar_leftpad (h : ∀ c ∈ digits, IsNumberChar c) :
    ∀ c ∈ digits.leftpad w '0', IsNumberChar c := by
  intro c hc
  rcases List.mem_append.mp hc with hc | hc
  · rw [List.eq_of_mem_replicate hc]
    exact .inl rfl
  · exact h c hc

lemma isNumberChar_append {l : List Char} (hd : ∀ c ∈ digits, IsNumberChar c)
    (hl : ∀ c ∈ l, IsNumberChar c) : ∀ c ∈ digits ++ l, IsNumberChar c :=
  List.forall_mem_append.mpr ⟨hd, hl⟩

lemma isNumberChar_formatInt (n : ℤ) : ∀ c ∈ formatInt n, IsNumberChar c :=
  isNumberChar_append isNumberChar_signText (isNumberChar_toDigits _)

lemma isNumberChar_formatIntPadded (w : ℕ) (n : ℤ) :
    ∀ c ∈ formatIntPadded w n, IsNumberChar c :=
  isNumberChar_append isNumberChar_signText (isNumberChar_leftpad (isNumberChar_toDigits _))

lemma isNumberChar_fixedDigits (d : ℕ) (q : ℚ≥0) : ∀ c ∈ fixedDigits d q, IsNumberChar c :=
  isNumberChar_append (isNumberChar_toDigits _) (List.forall_mem_cons.mpr
    ⟨by decide, isNumberChar_leftpad (isNumberChar_toDigits _)⟩)

lemma isNumberChar_formatFixed (d : ℕ) (x : FloatValue) :
    ∀ c ∈ formatFixed d x, IsNumberChar c := by
  cases x with
  | finite s q => exact isNumberChar_append isNumberChar_signText (isNumberChar_fixedDigits d q)
  | infinite s =>
      exact isNumberChar_append isNumberChar_signText (by simp [IsNumberChar])
  | nan => simp [formatFixed, IsNumberChar]

/-! ### What is read back -/

lemma ofDigitChars_leftpad (digits : List Char) :
    Nat.ofDigitChars 10 (digits.leftpad w '0') 0 = Nat.ofDigitChars 10 digits 0 := by
  rw [List.leftpad, Nat.ofDigitChars_append, Nat.ofDigitChars_replicate_zero, Nat.mul_zero]

lemma ofDigitChars_formatInt (m : ℕ) : Nat.ofDigitChars 10 (formatInt m) 0 = m := by
  rw [formatInt, signText_nonneg (Int.natCast_nonneg m)]
  exact Nat.ofDigitChars_ten_toDigits

lemma formatIntPadded_nat (w m : ℕ) :
    formatIntPadded w m = (Nat.toDigits 10 m).leftpad w '0' := by
  rw [formatIntPadded, padZeros, signText_nonneg (Int.natCast_nonneg m)]
  rfl

lemma ofDigitChars_formatIntPadded (w m : ℕ) :
    Nat.ofDigitChars 10 (formatIntPadded w m) 0 = m := by
  rw [formatIntPadded_nat, ofDigitChars_leftpad]
  exact Nat.ofDigitChars_ten_toDigits

lemma formatIntPadded_ne_nil (w m : ℕ) : formatIntPadded w m ≠ [] := by
  rw [formatIntPadded_nat]
  exact List.append_ne_nil_of_right_ne_nil _ Nat.toDigits_ne_nil

/-- The number that a decimal expansion stands for. -/
def readDecimal (text : List Char) : ℚ :=
  let fraction := (text.dropWhile (· ≠ '.')).tail
  Nat.ofDigitChars 10 (text.takeWhile (· ≠ '.')) 0 +
    Nat.ofDigitChars 10 fraction 0 / 10 ^ fraction.length

lemma readDecimal_append {whole fraction : List Char} (h : '.' ∉ whole) :
    readDecimal (whole ++ '.' :: fraction) =
      Nat.ofDigitChars 10 whole 0 + Nat.ofDigitChars 10 fraction 0 / 10 ^ fraction.length := by
  have hall : ∀ c ∈ whole, (c ≠ '.' : Bool) = true := fun c hc => by
    simpa using fun heq : c = '.' => h (heq ▸ hc)
  simp only [readDecimal]
  rw [List.takeWhile_append_of_pos hall, List.dropWhile_append_of_pos hall,
    List.takeWhile_cons_of_neg (by simp), List.dropWhile_cons_of_neg (by simp), List.append_nil,
    List.tail_cons]

lemma leftpad_append {l : List Char} : (digits ++ l).leftpad w '0' =
    digits.leftpad (w - l.length) '0' ++ l := by
  simp only [List.leftpad, List.length_append, List.append_assoc, Nat.sub_sub, Nat.add_comm]

lemma dot_notMem_leftpad (m : ℕ) : '.' ∉ (Nat.toDigits 10 m).leftpad w '0' := by
  intro h
  rcases List.mem_append.mp h with h | h
  · exact absurd (List.eq_of_mem_replicate h) (by decide)
  · exact absurd (Nat.isDigit_of_mem_toDigits (by decide) (by decide) h) (by decide)

/-- The digits of a number stand for the number that it was rounded to. -/
theorem readDecimal_padZeros (hd : 0 < d) (q : ℚ≥0) :
    readDecimal (padZeros w false (fixedDigits d q)) = roundedTo d q := by
  have hfraction : ((Nat.toDigits 10 (roundHalfEven (q * 10 ^ d) % 10 ^ d)).leftpad d '0').length
      = d := by
    rw [List.length_leftpad]
    have hlt : roundHalfEven (q * 10 ^ d) % 10 ^ d < 10 ^ d :=
      Nat.mod_lt _ (Nat.pow_pos (by decide))
    exact max_eq_left (length_digits_le hd hlt)
  have hsplit := Nat.div_add_mod (roundHalfEven (q * 10 ^ d)) (10 ^ d)
  have hpow : (10 : ℚ) ^ d ≠ 0 := pow_ne_zero d (by norm_num)
  rw [padZeros, fixedDigits, leftpad_append, signText, if_neg Bool.false_ne_true, List.nil_append,
    readDecimal_append (dot_notMem_leftpad _), hfraction, ofDigitChars_leftpad,
    ofDigitChars_leftpad, Nat.ofDigitChars_ten_toDigits, Nat.ofDigitChars_ten_toDigits,
    roundedTo, eq_div_iff hpow, add_mul, div_mul_cancel₀ _ hpow]
  rw [mul_comm]
  exact_mod_cast hsplit

lemma length_formatIntPadded_nat {m : ℕ} (hw : 0 < w) (h : m < 10 ^ w) :
    (formatIntPadded w m).length = w := by
  rw [formatIntPadded_nat, List.length_leftpad]
  exact max_eq_left (length_digits_le hw h)

/-! ### Bytes -/

/-- The upper-case digit for a number below 16. -/
def upperHexDigit (n : ℕ) : Char :=
  if n < 10 then Char.ofNat ('0'.toNat + n) else Char.ofNat ('A'.toNat + (n - 10))

/-- A byte is printed as the digits of its halves. -/
theorem formatHexByte_eq (b : UInt8) :
    formatHexByte b = [upperHexDigit (b.toNat / 16), upperHexDigit (b.toNat % 16)] := by
  have hall : ∀ m < 256, ((Nat.toDigits 16 m).map Char.toUpper).leftpad 2 '0' =
      [upperHexDigit (m / 16), upperHexDigit (m % 16)] := by decide +kernel
  exact hall b.toNat b.toNat_lt

end LocHal
