import Mathlib.Data.Int.Log
import Mathlib.Data.NNRat.Floor
import Mathlib.Tactic.Linarith
import Mathlib.Tactic.Ring
import Mathlib.Tactic.Positivity

/-!
# Binary floating point

The values of a floating-point type are rational numbers with a sign, the infinities and the value
that is not a number.  An operation rounds the exact result to a format: to the nearest multiple of
a power of two, an even one on a tie, and to an infinity where that is beyond the largest number.

What is rounded is in the format (`FloatFormat.round_round`), and a power of two in the range of
the format bounds the rounded number when it bounds the number (`FloatFormat.roundMagnitude_le`).
-/

namespace LocHal

/-- The nearest natural number, the even one of two. -/
def roundHalfEven (q : ℚ≥0) : ℕ :=
  let n := ⌊q⌋₊
  if 2 * q < 2 * n + 1 then n
  else if 2 * n + 1 < 2 * q then n + 1
  else if Even n then n
  else n + 1

section Rounding

variable {q : ℚ≥0} {n : ℕ}

lemma roundHalfEven_natCast (n : ℕ) : roundHalfEven n = n := by
  have hlt : (2 : ℚ≥0) * n < 2 * n + 1 := lt_add_one _
  simp only [roundHalfEven, Nat.floor_natCast, if_pos hlt]

lemma roundHalfEven_le_floor_succ (q : ℚ≥0) : roundHalfEven q ≤ ⌊q⌋₊ + 1 := by
  simp only [roundHalfEven]
  split_ifs <;> omega

/-- A whole number that bounds a number bounds what it is rounded to. -/
lemma roundHalfEven_le (h : q ≤ n) : roundHalfEven q ≤ n := by
  have hfloor : ⌊q⌋₊ ≤ n := Nat.floor_le_of_le h
  rcases hfloor.lt_or_eq with hlt | heq
  · exact (roundHalfEven_le_floor_succ q).trans hlt
  · have hq : q = n := le_antisymm h (by rw [← heq]; exact Nat.floor_le zero_le)
    rw [hq, roundHalfEven_natCast]

/-- A number is rounded by at most a half. -/
lemma abs_roundHalfEven_sub_le (q : ℚ≥0) : |(roundHalfEven q : ℚ) - q| ≤ 1 / 2 := by
  have hlow : (⌊q⌋₊ : ℚ) ≤ q := by exact_mod_cast Nat.floor_le (zero_le (a := q))
  have hhigh : (q : ℚ) < ⌊q⌋₊ + 1 := by exact_mod_cast Nat.lt_floor_add_one q
  rw [abs_le]
  simp only [roundHalfEven]
  split_ifs with hdown hup heven
  · have hdown' : (2 : ℚ) * q < 2 * ⌊q⌋₊ + 1 := by exact_mod_cast hdown
    constructor <;> linarith
  · have hup' : 2 * (⌊q⌋₊ : ℚ) + 1 < 2 * q := by exact_mod_cast hup
    push_cast
    constructor <;> linarith
  · have hup' : (2 : ℚ) * q ≤ 2 * ⌊q⌋₊ + 1 := by exact_mod_cast not_lt.mp hup
    constructor <;> linarith
  · have hdown' : 2 * (⌊q⌋₊ : ℚ) + 1 ≤ 2 * q := by exact_mod_cast not_lt.mp hdown
    push_cast
    constructor <;> linarith

/-- A number stays below an even one when it is more than a half below. -/
lemma roundHalfEven_lt_iff (hn : Even n) : roundHalfEven q < n ↔ (q : ℚ) < n - 1 / 2 := by
  obtain ⟨hleft, hright⟩ := abs_le.mp (abs_roundHalfEven_sub_le q)
  constructor
  · intro h
    by_contra hge
    have hsucc : (roundHalfEven q : ℚ) + 1 ≤ n := by exact_mod_cast h
    -- only the tie is left, which goes to the even neighbour
    have hround : (roundHalfEven q : ℚ) + 1 = n := by linarith
    have hq : (q : ℚ) = n - 1 / 2 := by linarith
    have htie : roundHalfEven q + 1 = n := by exact_mod_cast hround
    have hfloor : ⌊q⌋₊ = roundHalfEven q := by
      rw [Nat.floor_eq_iff zero_le]
      constructor
      · have : ((roundHalfEven q : ℕ) : ℚ) ≤ q := by linarith
        exact_mod_cast this
      · have : (q : ℚ) < (roundHalfEven q : ℕ) + 1 := by linarith
        exact_mod_cast this
    have hhalf : 2 * q = 2 * (⌊q⌋₊ : ℚ≥0) + 1 := by
      rw [hfloor]
      have : 2 * (q : ℚ) = 2 * (roundHalfEven q : ℕ) + 1 := by linarith
      exact_mod_cast this
    have hodd : ¬Even ⌊q⌋₊ := by
      rw [hfloor]
      intro heven
      rw [← htie] at hn
      exact Nat.not_even_iff_odd.mpr heven.add_one hn
    have hup : roundHalfEven q = ⌊q⌋₊ + 1 := by
      simp only [roundHalfEven]
      rw [if_neg hhalf.not_lt, if_neg hhalf.not_gt, if_neg hodd]
    omega
  · intro h
    have hlt : (roundHalfEven q : ℚ) < n := by linarith
    exact_mod_cast hlt

end Rounding

/-- A floating-point value.  Zero has a sign. -/
inductive FloatValue where
  | finite (negative : Bool) (magnitude : ℚ≥0)
  | infinite (negative : Bool)
  | nan
deriving DecidableEq

namespace FloatValue

/-- The value of a literal, before it is rounded. -/
def ofRat (q : ℚ) : FloatValue := finite (q < 0) (Rat.nnabs q)

def neg : FloatValue → FloatValue
  | finite s q => finite (!s) q
  | infinite s => infinite (!s)
  | nan => nan

/-- The exact sum.  A sum of numbers that cancel is the positive zero. -/
def add : FloatValue → FloatValue → FloatValue
  | finite s a, finite t b =>
      if s = t then finite s (a + b)
      else if a < b then finite t (b - a)
      else if b < a then finite s (a - b)
      else finite false 0
  | finite _ _, infinite t => infinite t
  | infinite s, finite _ _ => infinite s
  | infinite s, infinite t => if s = t then infinite s else nan
  | _, _ => nan

/-- The exact product. -/
def mul : FloatValue → FloatValue → FloatValue
  | finite s a, finite t b => finite (s ^^ t) (a * b)
  | finite s a, infinite t => if a = 0 then nan else infinite (s ^^ t)
  | infinite s, finite t b => if b = 0 then nan else infinite (s ^^ t)
  | infinite s, infinite t => infinite (s ^^ t)
  | _, _ => nan

/-- `fmod`: what is left of the first when the second is taken from it as often as it goes. -/
def fmod : FloatValue → FloatValue → FloatValue
  | finite s a, finite _ b => if b = 0 then nan else finite s (a - b * ⌊a / b⌋₊)
  | finite s a, infinite _ => finite s a
  | _, _ => nan

/-- `floor`, whose result is in the format of its argument. -/
def floor : FloatValue → FloatValue
  | finite s q => finite s (if s then ⌈q⌉₊ else ⌊q⌋₊)
  | x => x

/-- The conversion to an integer type, which drops the fraction.  For what is no number the
language leaves the result open. -/
def toInt : FloatValue → ℤ
  | finite s q => if s then -⌊q⌋₊ else ⌊q⌋₊
  | _ => 0

/-- The comparison `x > 0`. -/
def isPositive : FloatValue → Bool
  | finite s q => !s && q ≠ 0
  | infinite s => !s
  | nan => false

/-- The comparison `x < 0`. -/
def isNegative : FloatValue → Bool
  | finite s q => s && q ≠ 0
  | infinite s => s
  | nan => false

/-- The comparison `x > c` with a literal. -/
def exceeds (x : FloatValue) (c : ℚ) : Bool := (x.add (ofRat c).neg).isPositive

end FloatValue

/-- A binary format: the bits of a significand, and the exponents of the smallest and the largest
spacing of its numbers. -/
structure FloatFormat where
  precision : ℕ
  minExponent : ℤ
  maxExponent : ℤ
  precision_pos : 0 < precision

/-- `float`. -/
def binary32 : FloatFormat := ⟨24, -149, 104, by decide⟩

/-- `double`. -/
def binary64 : FloatFormat := ⟨53, -1074, 971, by decide⟩

namespace FloatFormat

variable (f : FloatFormat)

/-- The largest number of the format. -/
def maxFinite : ℚ≥0 := (2 ^ f.precision - 1) * 2 ^ f.maxExponent

/-- The exponent of the spacing of the numbers around `q`. -/
def quantumExponent (q : ℚ≥0) : ℤ := max (Int.log 2 q - (f.precision - 1)) f.minExponent

def roundMagnitude (q : ℚ≥0) : ℚ≥0 :=
  roundHalfEven (q / 2 ^ f.quantumExponent q) * 2 ^ f.quantumExponent q

/-- Rounding to the format. -/
def round : FloatValue → FloatValue
  | .finite s q =>
      if f.roundMagnitude q ≤ f.maxFinite then .finite s (f.roundMagnitude q) else .infinite s
  | x => x

variable {f} {q : ℚ≥0} {k : ℤ}

lemma two_zpow_pos (k : ℤ) : (0 : ℚ≥0) < 2 ^ k := zpow_pos two_pos k

/-- A power of two is a whole multiple of a smaller one. -/
lemma two_zpow_div {e : ℤ} (h : e ≤ k) : (2 : ℚ≥0) ^ k / 2 ^ e = (2 ^ (k - e).toNat : ℕ) := by
  rw [← zpow_sub₀ two_ne_zero]
  have hexp : k - e = ((k - e).toNat : ℤ) := (Int.toNat_of_nonneg (by omega)).symm
  rw [hexp, zpow_natCast]
  push_cast
  rfl

/-- A multiple of its own spacing is a number of the format. -/
lemma roundMagnitude_of_natCast {n : ℕ} (h : q / 2 ^ f.quantumExponent q = n) :
    f.roundMagnitude q = q := by
  rw [roundMagnitude, h, roundHalfEven_natCast, ← h,
    div_mul_cancel₀ _ (two_zpow_pos _).ne']

lemma quantumExponent_le (hmin : f.minExponent ≤ k) (h : q ≤ 2 ^ k) (hq : 0 < q) :
    f.quantumExponent q ≤ k := by
  have hlog : Int.log 2 q ≤ k := by
    rw [← Int.log_zpow (R := ℚ≥0) one_lt_two k]
    exact Int.log_mono_right hq (by exact_mod_cast h)
  have hpos := f.precision_pos
  rw [quantumExponent]
  omega

lemma roundMagnitude_zero : f.roundMagnitude 0 = 0 :=
  roundMagnitude_of_natCast (n := 0) (by simp)

/-- A power of two that the format has bounds the rounded number with the number. -/
theorem roundMagnitude_le (hmin : f.minExponent ≤ k) (h : q ≤ 2 ^ k) :
    f.roundMagnitude q ≤ 2 ^ k := by
  rcases eq_or_lt_of_le (zero_le (a := q)) with rfl | hq
  · rw [roundMagnitude_zero]
    exact zero_le
  · have he := quantumExponent_le hmin h hq
    have hpos := two_zpow_pos (f.quantumExponent q)
    have hdiv : q / 2 ^ f.quantumExponent q ≤ (2 ^ (k - f.quantumExponent q).toNat : ℕ) := by
      rw [← two_zpow_div he]
      exact (div_le_div_iff_of_pos_right hpos).mpr h
    have hround : (roundHalfEven (q / 2 ^ f.quantumExponent q) : ℚ≥0) ≤
        2 ^ k / 2 ^ f.quantumExponent q := by
      rw [two_zpow_div he]
      exact_mod_cast roundHalfEven_le hdiv
    rw [roundMagnitude]
    exact (le_div_iff₀ hpos).mp hround

/-- A number is less than `2 ^ precision` times its spacing. -/
lemma lt_two_zpow_quantum (f : FloatFormat) (q : ℚ≥0) :
    q < 2 ^ (f.quantumExponent q + f.precision) := by
  have hlt : q < ((2 : ℕ) : ℚ≥0) ^ (Int.log 2 q + 1) := Int.lt_zpow_succ_log_self one_lt_two q
  refine hlt.trans_le ?_
  push_cast
  apply zpow_le_zpow_right₀ one_le_two
  rw [quantumExponent]
  omega

lemma quantumExponent_of_lt (h : f.minExponent < f.quantumExponent q) :
    f.quantumExponent q = Int.log 2 q - (f.precision - 1) := by
  rw [quantumExponent] at h ⊢
  omega

/-- A number that its rounding took to a wider spacing has become the power of two where that
spacing begins. -/
lemma roundMagnitude_eq_two_zpow (hpos : 0 < f.roundMagnitude q)
    (hgrow : f.quantumExponent q < f.quantumExponent (f.roundMagnitude q)) :
    f.roundMagnitude q = 2 ^ (f.quantumExponent q + f.precision) ∧
      f.quantumExponent (f.roundMagnitude q) = f.quantumExponent q + 1 := by
  have hmin : f.minExponent ≤ f.quantumExponent q := le_max_right _ _
  have hquantum := quantumExponent_of_lt (hmin.trans_lt hgrow)
  have hlarge : (2 : ℚ≥0) ^ (f.quantumExponent q + f.precision) ≤ f.roundMagnitude q := by
    have hlog : f.quantumExponent q + f.precision ≤ Int.log 2 (f.roundMagnitude q) := by
      rw [hquantum] at hgrow
      omega
    exact_mod_cast (Int.zpow_le_iff_le_log one_lt_two hpos).mpr hlog
  have hsmall : f.roundMagnitude q ≤ 2 ^ (f.quantumExponent q + f.precision) :=
    roundMagnitude_le (by omega) (lt_two_zpow_quantum f q).le
  have heq := le_antisymm hsmall hlarge
  refine ⟨heq, ?_⟩
  have hlog : Int.log 2 (f.roundMagnitude q) = f.quantumExponent q + f.precision := by
    rw [heq]
    exact_mod_cast Int.log_zpow (R := ℚ≥0) one_lt_two (f.quantumExponent q + f.precision)
  rw [hquantum, hlog]
  omega

/-- Rounding once more changes nothing. -/
theorem roundMagnitude_roundMagnitude (f : FloatFormat) (q : ℚ≥0) :
    f.roundMagnitude (f.roundMagnitude q) = f.roundMagnitude q := by
  have hexpand : f.roundMagnitude q =
      roundHalfEven (q / 2 ^ f.quantumExponent q) * 2 ^ f.quantumExponent q := rfl
  rcases eq_or_lt_of_le (zero_le (a := f.roundMagnitude q)) with hzero | hpos
  · rw [← hzero, roundMagnitude_zero]
  · by_cases hgrow : f.quantumExponent q < f.quantumExponent (f.roundMagnitude q)
    · obtain ⟨heq, hexp⟩ := roundMagnitude_eq_two_zpow hpos hgrow
      apply roundMagnitude_of_natCast
      rw [hexp, heq]
      apply two_zpow_div
      have hp := f.precision_pos
      omega
    · -- a multiple of the wider spacing is one of the narrower
      apply roundMagnitude_of_natCast
      conv_lhs => arg 1; rw [hexpand]
      rw [mul_div_assoc, two_zpow_div (not_lt.mp hgrow)]
      exact (Nat.cast_mul _ _).symm

/-- What is rounded is in the format. -/
theorem round_round (f : FloatFormat) (x : FloatValue) : f.round (f.round x) = f.round x := by
  cases x with
  | finite s q =>
      by_cases h : f.roundMagnitude q ≤ f.maxFinite
      · simp only [round, if_pos h, roundMagnitude_roundMagnitude]
      · simp only [round, if_neg h]
  | infinite s => rfl
  | nan => rfl

end FloatFormat

/-- A value of a format. -/
structure BinaryFloat (f : FloatFormat) where
  value : FloatValue
  rounded : f.round value = value

namespace BinaryFloat

variable {f g : FloatFormat}

def ofValue (f : FloatFormat) (x : FloatValue) : BinaryFloat f := ⟨f.round x, f.round_round x⟩

def ofRat (f : FloatFormat) (q : ℚ) : BinaryFloat f := ofValue f (FloatValue.ofRat q)

/-- The conversion to a format. -/
def convert (g : FloatFormat) (x : BinaryFloat f) : BinaryFloat g := ofValue g x.value

instance : Add (BinaryFloat f) := ⟨fun x y => ofValue f (x.value.add y.value)⟩

instance : Sub (BinaryFloat f) := ⟨fun x y => ofValue f (x.value.add y.value.neg)⟩

instance : Mul (BinaryFloat f) := ⟨fun x y => ofValue f (x.value.mul y.value)⟩

def fmod (x y : BinaryFloat f) : BinaryFloat f := ofValue f (x.value.fmod y.value)

end BinaryFloat

/-! ### Bounds -/

namespace FloatValue

/-- The value is a number with a magnitude of at most `bound`. -/
def AbsLE (bound : ℚ≥0) : FloatValue → Prop
  | finite _ q => q ≤ bound
  | _ => False

instance (bound : ℚ≥0) : (x : FloatValue) → Decidable (x.AbsLE bound)
  | finite _ q => inferInstanceAs (Decidable (q ≤ bound))
  | infinite _ => inferInstanceAs (Decidable False)
  | nan => inferInstanceAs (Decidable False)

/-- The value, if it is a number, has a magnitude of at most `bound`. -/
def Within (bound : ℚ≥0) : FloatValue → Prop
  | finite _ q => q ≤ bound
  | _ => True

variable {x y : FloatValue} {a b : ℚ≥0} {n : ℕ}

lemma AbsLE.within (h : x.AbsLE a) : x.Within a := by
  cases x with
  | finite s q => exact h
  | infinite s => trivial
  | nan => trivial

lemma AbsLE.exists (h : x.AbsLE a) : ∃ s q, x = finite s q ∧ q ≤ a := by
  cases x with
  | finite s q => exact ⟨s, q, rfl, h⟩
  | infinite s => exact h.elim
  | nan => exact h.elim

lemma Within.mono (h : x.Within a) (hab : a ≤ b) : x.Within b := by
  cases x with
  | finite s q => exact le_trans (α := ℚ≥0) h hab
  | infinite s => trivial
  | nan => trivial

lemma Within.neg (h : x.Within a) : x.neg.Within a := by
  cases x <;> exact h

lemma Within.add (hx : x.Within a) (hy : y.Within b) : (x.add y).Within (a + b) := by
  cases x <;> cases y
  case finite.finite s p t q =>
    have hp : p ≤ a := hx
    have hq : q ≤ b := hy
    simp only [FloatValue.add]
    split_ifs
    · exact add_le_add hp hq
    · exact (tsub_le_self.trans hq).trans le_add_self
    · exact (tsub_le_self.trans hp).trans le_self_add
    · exact zero_le
  case infinite.infinite s t =>
    simp only [FloatValue.add]
    split_ifs <;> trivial
  all_goals trivial

/-- What `fmod` leaves is below the divisor. -/
lemma within_fmod (x : FloatValue) (s : Bool) (b : ℚ≥0) :
    (x.fmod (finite s b)).Within b := by
  cases x with
  | finite t q =>
      by_cases hb : b = 0
      · simp only [FloatValue.fmod, if_pos hb, Within]
      · simp only [FloatValue.fmod, if_neg hb, Within]
        have hpos : 0 < b := pos_of_ne_zero hb
        have hlt : q / b < ⌊q / b⌋₊ + 1 := Nat.lt_floor_add_one _
        rw [div_lt_iff₀ hpos] at hlt
        rw [tsub_le_iff_left]
        calc q ≤ (⌊q / b⌋₊ + 1) * b := hlt.le
          _ = b * ⌊q / b⌋₊ + b := by ring
  | infinite t => trivial
  | nan => trivial

lemma natAbs_toInt_le (h : x.Within n) : x.toInt.natAbs ≤ n := by
  cases x with
  | finite s q =>
      have hfloor : ⌊q⌋₊ ≤ n := Nat.floor_le_of_le h
      cases s with
      | false => exact hfloor
      | true =>
          show (-(⌊q⌋₊ : ℤ)).natAbs ≤ n
          rwa [Int.natAbs_neg]
  | infinite s => exact Nat.zero_le n
  | nan => exact Nat.zero_le n

lemma toInt_floor {s : Bool} {q : ℚ≥0} (h : s = true → q = 0) :
    (finite s q).floor.toInt = ⌊q⌋₊ := by
  cases s with
  | false =>
      show ((⌊((⌊q⌋₊ : ℕ) : ℚ≥0)⌋₊ : ℕ) : ℤ) = ⌊q⌋₊
      rw [Nat.floor_natCast]
  | true =>
      rw [h rfl]
      simp [floor, toInt]

lemma ofRat_of_nonneg {r : ℚ} (h : 0 ≤ r) : ofRat r = finite false (Rat.nnabs r) := by
  rw [ofRat, decide_eq_false (not_lt.mpr h)]

lemma nnabs_ne_zero {r : ℚ} (h : r ≠ 0) : Rat.nnabs r ≠ 0 := by
  rwa [← NNRat.coe_ne_zero, Rat.coe_nnabs, abs_ne_zero]

lemma isNegative_ofRat (r : ℚ) : (ofRat r).isNegative = decide (r < 0) := by
  by_cases h : r < 0
  · simp [ofRat, isNegative, h, nnabs_ne_zero h.ne]
  · simp [ofRat, isNegative, h]

lemma isPositive_ofRat (r : ℚ) : (ofRat r).isPositive = decide (0 < r) := by
  rcases lt_trichotomy r 0 with h | rfl | h
  · simp [ofRat, isPositive, h, h.le]
  · decide
  · simp [ofRat, isPositive, h, h.le, nnabs_ne_zero h.ne']

lemma exceeds_ofRat {r c : ℚ} (hc : 0 ≤ c) : (ofRat r).exceeds c = decide (c < r) := by
  have hneg : (ofRat c).neg = finite true (Rat.nnabs c) := by
    rw [ofRat_of_nonneg hc]
    rfl
  rw [exceeds, hneg]
  by_cases hr : r < 0
  · rw [ofRat, decide_eq_true hr, decide_eq_false (hr.trans_le hc).not_gt, add, if_pos rfl]
    rfl
  · have hlt (a b : ℚ) (ha : 0 ≤ a) (hb : 0 ≤ b) : Rat.nnabs a < Rat.nnabs b ↔ a < b := by
      rw [← NNRat.coe_lt_coe, Rat.coe_nnabs, Rat.coe_nnabs, abs_of_nonneg ha, abs_of_nonneg hb]
    have hr' := not_lt.mp hr
    rw [ofRat_of_nonneg hr', add, if_neg Bool.false_ne_true]
    simp only [hlt r c hr' hc, hlt c r hc hr']
    split_ifs with hbelow habove
    · rw [decide_eq_false hbelow.not_gt]
      rfl
    · have hpos : Rat.nnabs r - Rat.nnabs c ≠ 0 :=
        (tsub_pos_of_lt ((hlt c r hc hr').mpr habove)).ne'
      simp [isPositive, hpos, habove]
    · rw [decide_eq_false habove]
      rfl

lemma mul_neg_one (x : FloatValue) : x.mul (finite true 1) = x.neg := by
  cases x <;> simp [mul, neg]

end FloatValue

namespace FloatFormat

variable {f : FloatFormat} {x y : FloatValue} {n : ℕ}

lemma round_neg (f : FloatFormat) (x : FloatValue) : f.round x.neg = (f.round x).neg := by
  cases x with
  | finite s q =>
      simp only [FloatValue.neg, round]
      split_ifs <;> rfl
  | infinite s => rfl
  | nan => rfl

/-- A power of two bounds the rounded value when it bounds the value. -/
lemma within_round (hmin : f.minExponent ≤ n) (h : x.Within ((2 ^ n : ℕ) : ℚ≥0)) :
    (f.round x).Within ((2 ^ n : ℕ) : ℚ≥0) := by
  have hpow : ((2 ^ n : ℕ) : ℚ≥0) = 2 ^ (n : ℤ) := by
    push_cast
    rw [zpow_natCast]
  rw [hpow] at h ⊢
  cases x with
  | finite s q =>
      simp only [round]
      split_ifs
      · exact roundMagnitude_le hmin h
      · trivial
  | infinite s => trivial
  | nan => trivial

lemma within_round_add (hmin : f.minExponent ≤ (n + 1 : ℕ))
    (hx : x.Within ((2 ^ n : ℕ) : ℚ≥0)) (hy : y.Within ((2 ^ n : ℕ) : ℚ≥0)) :
    (f.round (x.add y)).Within ((2 ^ (n + 1) : ℕ) : ℚ≥0) := by
  apply within_round hmin
  rw [pow_succ, mul_two, Nat.cast_add]
  exact hx.add hy

end FloatFormat

namespace BinaryFloat

variable {f : FloatFormat}

/-- A multiplication by `-1.0`, where the format has it, changes the sign only. -/
lemma mul_ofRat_neg_one (hone : f.round (.finite true 1) = .finite true 1) (x : BinaryFloat f) :
    (x * ofRat f (-1)).value = x.value.neg := by
  have hvalue : (ofRat f (-1)).value = .finite true 1 := by
    have habs : Rat.nnabs (-1) = 1 := NNRat.coe_injective (by simp)
    rw [← hone]
    simp [ofRat, ofValue, FloatValue.ofRat, habs]
  show f.round (x.value.mul (ofRat f (-1)).value) = x.value.neg
  rw [hvalue, FloatValue.mul_neg_one, FloatFormat.round_neg, x.rounded]

/-- A number of a format is no larger than its largest. -/
theorem within_maxFinite (x : BinaryFloat f) : x.value.Within f.maxFinite := by
  rw [← x.rounded]
  cases x.value with
  | finite s q =>
      simp only [FloatFormat.round]
      split_ifs with h
      · exact h
      · trivial
  | infinite s => trivial
  | nan => trivial

end BinaryFloat

end LocHal
