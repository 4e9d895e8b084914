import Mathlib.Data.Rat.Floor
import Mathlib.Tactic.NormNum
import LocHal.Utils.LocNmeaGsa

/-!
# Positions and courses without rounding (`gps/utils/loc_nmea.cpp`)

The position that RMC and GGA print and the courses of VTG and RMC are computed over an arithmetic.
Over the floating-point one they are what the sentences have (`position_eq`, `vtgTrack_eq`,
`rmcTrack_eq`, `rmcVariation_eq`); over the rational numbers, which have one zero, nothing is
rounded before the digits are printed.

* `decodesToFix_iff` — the position decodes to the fix, with minutes below sixty, exactly when
  neither coordinate has minutes that are printed as sixty.
* `coursesAgree_iff` — VTG and RMC agree on the magnetic course exactly when there is no deviation:
  the corrected course is that of an inner variable, which agrees (`correctedTrack_agrees`) and is
  not printed.
-/

namespace LocHal

/-- The operations on a floating-point variable.  A literal is given by its value. -/
structure Arithmetic (F : Type) where
  sub : F → F → F
  addLiteral : F → ℚ → F
  subLiteral : F → ℚ → F
  mulLiteral : F → ℚ → F
  fmodLiteral : F → ℚ → F
  value : F → FloatValue

namespace Arithmetic

/-- `double`. -/
def doubles : Arithmetic (BinaryFloat binary64) where
  sub x y := x - y
  addLiteral x c := x + .ofRat binary64 c
  subLiteral x c := x - .ofRat binary64 c
  mulLiteral x c := x * .ofRat binary64 c
  fmodLiteral x c := x.fmod (.ofRat binary64 c)
  value := BinaryFloat.value

/-- `float`.  A literal is a `double`, and what is computed with it is converted back. -/
def floats : Arithmetic (BinaryFloat binary32) where
  sub x y := x - y
  addLiteral x c := (x.convert binary64 + .ofRat binary64 c).convert binary32
  subLiteral x c := (x.convert binary64 - .ofRat binary64 c).convert binary32
  mulLiteral x c := (x.convert binary64 * .ofRat binary64 c).convert binary32
  fmodLiteral x c := ((x.convert binary64).fmod (.ofRat binary64 c)).convert binary32
  value := BinaryFloat.value

/-- The rational numbers. -/
def rationals : Arithmetic ℚ where
  sub x y := x - y
  addLiteral x c := x + c
  subLiteral x c := x - c
  mulLiteral x c := x * c
  fmodLiteral x c := x - c * (if 0 ≤ x / c then ⌊x / c⌋ else ⌈x / c⌉)
  value := FloatValue.ofRat

end Arithmetic

namespace LocNmea

/-- The members of a report that a position and its courses are printed from, with coordinates in
`D` and courses in `F`. -/
structure FixReport (D F : Type) where
  flags : BitVec 16
  latitude : D
  longitude : D
  bearing : F
  extendedFlags : BitVec 32
  magneticDeviation : F

namespace FixReport

variable {D F : Type}

def hasLatLong (r : FixReport D F) : Bool := r.flags &&& 0x0001 ≠ 0
def hasBearing (r : FixReport D F) : Bool := r.flags &&& 0x0008 ≠ 0
def hasMagDev (r : FixReport D F) : Bool := r.extendedFlags &&& 0x0004 ≠ 0

/-- The members of a position report. -/
def ofLocation (location : LocGpsLocation) (e : GpsLocationExtended) :
    FixReport (BinaryFloat binary64) (BinaryFloat binary32) where
  flags := location.flags
  latitude := location.latitude
  longitude := location.longitude
  bearing := location.bearing
  extendedFlags := e.flags
  magneticDeviation := e.magneticDeviation

end FixReport

/-! ## The position -/

section Position

variable {D F : Type} (A : Arithmetic D)

def latHemisphereOver (latitude : D) : Char × D :=
  if (A.value latitude).isPositive then ('N', latitude)
  else ('S', A.mulLiteral latitude (-1))

def lonHemisphereOver (longitude : D) : Char × D :=
  if (A.value longitude).isNegative then ('W', A.mulLiteral longitude (-1))
  else ('E', longitude)

/-- `(uint8_t)floor(x)`. -/
def degreesOver (x : D) : ℤ := (A.value x).floor.toInt % 256

/-- `fmod(x * 60.0 , 60.0)`. -/
def minutesOver (x : D) : D := A.fmodLiteral (A.mulLiteral x 60) 60

/-- A coordinate, with `w` digits of degrees. -/
def coordinateText (w : ℕ) (c : Char × D) : List Char :=
  formatIntPadded w (degreesOver A c.2) ++ formatFixedPadded 9 6 (A.value (minutesOver A c.2)) ++
    [',', c.1, ',']

/-- The position of RMC and GGA. -/
def positionOver (r : FixReport D F) : List Char :=
  if r.hasLatLong then
    coordinateText A 2 (latHemisphereOver A r.latitude) ++
      coordinateText A 3 (lonHemisphereOver A r.longitude)
  else ",,,,".toList

end Position

/-- The position of the sentences is the one over `double`. -/
theorem position_eq (location : LocGpsLocation) (e : GpsLocationExtended) :
    position location = positionOver .doubles (.ofLocation location e) := rfl

/-- It is what RMC and GGA print after their first fields. -/
theorem position_printed (talker : Talker) (tm : Tm) (svUsedCount : ℕ) (location : LocGpsLocation)
    (e : GpsLocationExtended) :
    (rmcAppends talker tm location e)[1]? = some (.checked (position location)) ∧
      (ggaAppends talker tm svUsedCount location e)[1]? = some (.checked (position location)) :=
  ⟨rfl, rfl⟩

/-! ## The courses -/

section Courses

variable {D F : Type} (A : Arithmetic F)

/-- `magTrack` of the inner block. -/
def correctedTrack (r : FixReport D F) : F :=
  let magTrack := A.sub r.bearing r.magneticDeviation
  if (A.value magTrack).isNegative then A.addLiteral magTrack 360
  else if (A.value magTrack).exceeds 360 then A.subLiteral magTrack 360
  else magTrack

/-- The true and the magnetic course of VTG. -/
def vtgCourses (r : FixReport D F) : Option (F × F) :=
  if r.hasBearing then
    -- `correctedTrack` is computed in an inner block when there is a deviation, and ends with it
    let magTrack := r.bearing
    some (r.bearing, magTrack)
  else none

/-- The true course of RMC. -/
def rmcCourse (r : FixReport D F) : Option F := if r.hasBearing then some r.bearing else none

/-- The magnetic variation of RMC and its direction. -/
def rmcVariationOver (r : FixReport D F) : Option (F × Char) :=
  if r.hasMagDev then
    some
      (if (A.value r.magneticDeviation).isNegative then
        (A.mulLiteral r.magneticDeviation (-1), 'W')
      else (r.magneticDeviation, 'E'))
  else none

end Courses

/-- What is printed of a field that may be missing. -/
lemma elim_ite_some {α β : Type*} {c : Prop} [Decidable c] (x : α) (missing : β) (text : α → β) :
    (if c then some x else none).elim missing text = if c then text x else missing := by
  by_cases h : c
  · rw [if_pos h, if_pos h, Option.elim_some]
  · rw [if_neg h, if_neg h, Option.elim_none]

theorem vtgTrack_eq (location : LocGpsLocation) (e : GpsLocationExtended) :
    vtgTrack location = ((vtgCourses (.ofLocation location e)).elim ",T,,M,".toList fun c =>
      oneDecimal c.1 ++ ",T,".toList ++ oneDecimal c.2 ++ ",M,".toList) := by
  rw [vtgCourses, elim_ite_some]
  rfl

theorem rmcTrack_eq (location : LocGpsLocation) (e : GpsLocationExtended) :
    rmcTrack location =
      ((rmcCourse (.ofLocation location e)).elim [','] fun c => oneDecimal c ++ [',']) := by
  rw [rmcCourse, elim_ite_some]
  rfl

theorem rmcVariation_eq (location : LocGpsLocation) (e : GpsLocationExtended) :
    rmcVariation e = ((rmcVariationOver .floats (.ofLocation location e)).elim ",,".toList fun v =>
      oneDecimal v.1 ++ [',', v.2, ',']) := by
  rw [rmcVariationOver, elim_ite_some]
  rfl

/-! ## Reading a position -/

/-- A coordinate, with its sign from the hemisphere. -/
structure Coordinate where
  degrees : ℕ
  minutes : ℚ
  positive : Bool

namespace Coordinate

def value (c : Coordinate) : ℚ :=
  let magnitude := c.degrees + c.minutes / 60
  if c.positive then magnitude else -magnitude

/-- A field with `w` digits of degrees, the minutes after them. -/
def read (w : ℕ) (field : List Char) (positive : Bool) : Coordinate where
  degrees := Nat.ofDigitChars 10 (field.take w) 0
  minutes := readDecimal (field.drop w)
  positive := positive

/-- The minutes are below sixty, and the coordinate is within half of `10^-6` minute of `q`
degrees. -/
def DecodesTo (c : Coordinate) (q : ℚ) : Prop :=
  0 ≤ c.minutes ∧ c.minutes < 60 ∧ |c.value - q| ≤ 1 / 2 / 10 ^ 6 / 60

end Coordinate

/-- The latitude and the longitude of a position. -/
def readPosition (text : List Char) : Option (Coordinate × Coordinate) :=
  match fieldsOf text with
  | [latitude, ns, longitude, ew, []] =>
      if (ns = ['N'] ∨ ns = ['S']) ∧ (ew = ['E'] ∨ ew = ['W']) then
        some (.read 2 latitude (ns = ['N']), .read 3 longitude (ew = ['E']))
      else none
  | _ => none

/-- The position that is printed has its minutes below sixty and decodes to the fix. -/
def DecodesToFix (r : FixReport ℚ ℚ) : Prop :=
  ∃ latitude longitude, readPosition (positionOver .rationals r) = some (latitude, longitude) ∧
    latitude.DecodesTo r.latitude ∧ longitude.DecodesTo r.longitude

section Exact

variable {q : ℚ} {w : ℕ} {r : FixReport ℚ ℚ}

lemma latHemisphereOver_rationals (q : ℚ) :
    latHemisphereOver .rationals q = (if 0 < q then 'N' else 'S', |q|) := by
  have hvalue : Arithmetic.rationals.value q = FloatValue.ofRat q := rfl
  rw [latHemisphereOver, hvalue, FloatValue.isPositive_ofRat]
  by_cases h : 0 < q
  · rw [if_pos (decide_eq_true h), if_pos h, abs_of_pos h]
  · have hneg : Arithmetic.rationals.mulLiteral q (-1) = -q := mul_neg_one q
    rw [if_neg (by simpa using h), if_neg h, abs_of_nonpos (not_lt.mp h), hneg]

lemma lonHemisphereOver_rationals (q : ℚ) :
    lonHemisphereOver .rationals q = (if q < 0 then 'W' else 'E', |q|) := by
  have hvalue : Arithmetic.rationals.value q = FloatValue.ofRat q := rfl
  rw [lonHemisphereOver, hvalue, FloatValue.isNegative_ofRat]
  by_cases h : q < 0
  · have hneg : Arithmetic.rationals.mulLiteral q (-1) = -q := mul_neg_one q
    rw [if_pos (decide_eq_true h), if_pos h, abs_of_neg h, hneg]
  · rw [if_neg (by simpa using h), if_neg h, abs_of_nonneg (not_lt.mp h)]

lemma degreesOver_rationals (h : 0 ≤ q) (hlt : q < 256) :
    degreesOver .rationals q = ⌊Rat.nnabs q⌋₊ := by
  have hvalue : Arithmetic.rationals.value q = FloatValue.ofRat q := rfl
  have hbound : ⌊Rat.nnabs q⌋₊ < 256 := by
    rw [Nat.floor_lt zero_le]
    have hcast : ((Rat.nnabs q : ℚ≥0) : ℚ) < 256 := by rwa [Rat.coe_nnabs, abs_of_nonneg h]
    exact_mod_cast hcast
  rw [degreesOver, hvalue, FloatValue.ofRat_of_nonneg h, FloatValue.toInt_floor (by simp)]
  omega

/-- The minutes without rounding. -/
def exactMinutes (q : ℚ) : ℚ := 60 * Int.fract q

lemma exactMinutes_nonneg (q : ℚ) : 0 ≤ exactMinutes q :=
  mul_nonneg (by norm_num) (Int.fract_nonneg q)

lemma minutesOver_rationals (h : 0 ≤ q) : minutesOver .rationals q = exactMinutes q := by
  have hdiv : q * 60 / 60 = q := mul_div_cancel_right₀ q (by norm_num)
  show q * 60 - 60 * ((if 0 ≤ q * 60 / 60 then ⌊q * 60 / 60⌋ else ⌈q * 60 / 60⌉ : ℤ) : ℚ) =
    exactMinutes q
  rw [hdiv, if_pos h, exactMinutes, Int.fract]
  ring

/-- The field of a coordinate. -/
def coordinateField (w : ℕ) (q : ℚ) : List Char :=
  formatIntPadded w (⌊Rat.nnabs q⌋₊ : ℕ) ++
    padZeros 9 false (fixedDigits 6 (Rat.nnabs (exactMinutes q)))

lemma coordinateText_rationals (w : ℕ) (c : Char) (h : 0 ≤ q) (hlt : q < 256) :
    coordinateText .rationals w (c, q) = coordinateField w q ++ [',', c, ','] := by
  have hvalue : Arithmetic.rationals.value (exactMinutes q) =
      .finite false (Rat.nnabs (exactMinutes q)) :=
    FloatValue.ofRat_of_nonneg (exactMinutes_nonneg q)
  rw [coordinateText, degreesOver_rationals h hlt, minutesOver_rationals h, hvalue]
  rfl

lemma comma_notMem_coordinateField (w : ℕ) (q : ℚ) : ',' ∉ coordinateField w q := by
  apply comma_notMem
  apply isNumberChar_append (isNumberChar_formatIntPadded _ _)
  exact isNumberChar_append isNumberChar_signText
    (isNumberChar_leftpad (isNumberChar_fixedDigits _ _))

/-- The coordinate that the field has. -/
def printed (q : ℚ) (positive : Bool) : Coordinate where
  degrees := ⌊Rat.nnabs q⌋₊
  minutes := roundedTo 6 (Rat.nnabs (exactMinutes q))
  positive := positive

lemma read_coordinateField (hw : 0 < w) (hlt : ⌊Rat.nnabs q⌋₊ < 10 ^ w) (positive : Bool) :
    Coordinate.read w (coordinateField w q) positive = printed q positive := by
  have hlength := length_formatIntPadded_nat hw hlt
  rw [Coordinate.read, coordinateField, List.take_left' hlength, List.drop_left' hlength,
    ofDigitChars_formatIntPadded, readDecimal_padZeros (by decide), printed]

/-- The position is read back as the two coordinates that were printed. -/
theorem readPosition_rationals (hflag : r.hasLatLong = true) (hlat : |r.latitude| ≤ 90)
    (hlon : |r.longitude| ≤ 180) :
    readPosition (positionOver .rationals r) = some
      (printed |r.latitude| (0 < r.latitude), printed |r.longitude| (¬r.longitude < 0)) := by
  have hfields : fieldsOf (positionOver .rationals r) =
      [coordinateField 2 |r.latitude|, [if 0 < r.latitude then 'N' else 'S'],
        coordinateField 3 |r.longitude|, [if r.longitude < 0 then 'W' else 'E'], []] := by
    have hns : ',' ∉ [if 0 < r.latitude then 'N' else 'S'] := by split_ifs <;> decide
    have hew : ',' ∉ [if r.longitude < 0 then 'W' else 'E'] := by split_ifs <;> decide
    rw [positionOver, if_pos hflag, latHemisphereOver_rationals, lonHemisphereOver_rationals,
      coordinateText_rationals 2 _ (abs_nonneg _) (by linarith),
      coordinateText_rationals 3 _ (abs_nonneg _) (by linarith), List.append_assoc,
      ← List.append_assoc [_, _, _]]
    refine (fieldsOf_cons (comma_notMem_coordinateField _ _) _).trans (congrArg _ ?_)
    refine (fieldsOf_cons hns _).trans (congrArg _ ?_)
    refine (fieldsOf_cons (comma_notMem_coordinateField _ _) _).trans (congrArg _ ?_)
    exact fieldsOf_cons hew []
  have hfloor (x : ℚ) {n : ℕ} (h : |x| < n) : ⌊Rat.nnabs |x|⌋₊ < n := by
    rw [Nat.floor_lt zero_le]
    have hcast : ((Rat.nnabs |x| : ℚ≥0) : ℚ) < n := by rwa [Rat.coe_nnabs, abs_abs]
    exact_mod_cast hcast
  have hns : [if 0 < r.latitude then 'N' else 'S'] = ['N'] ↔ 0 < r.latitude := by
    split_ifs with h <;> simp [h]
  have hew : [if r.longitude < 0 then 'W' else 'E'] = ['E'] ↔ ¬r.longitude < 0 := by
    split_ifs with h <;> simp [h]
  have hhemispheres : ([if 0 < r.latitude then 'N' else 'S'] = ['N'] ∨
      [if 0 < r.latitude then 'N' else 'S'] = ['S']) ∧
      ([if r.longitude < 0 then 'W' else 'E'] = ['E'] ∨
        [if r.longitude < 0 then 'W' else 'E'] = ['W']) := by
    constructor <;> split_ifs <;> simp
  simp only [readPosition, hfields]
  rw [if_pos hhemispheres, decide_eq_decide.mpr hns, decide_eq_decide.mpr hew,
    read_coordinateField (by decide) (hfloor _ (by push_cast; linarith)),
    read_coordinateField (by decide) (hfloor _ (by push_cast; linarith))]

/-- The minutes of a coordinate are not printed as sixty. -/
def MinutesBelowSixty (q : ℚ) : Prop := exactMinutes |q| < 60 - 1 / 2 / 10 ^ 6

instance (q : ℚ) : Decidable (MinutesBelowSixty q) :=
  inferInstanceAs (Decidable (exactMinutes |q| < 60 - 1 / 2 / 10 ^ 6))

lemma coe_exactMinutes (q : ℚ) :
    ((Rat.nnabs (exactMinutes q) * 10 ^ 6 : ℚ≥0) : ℚ) = exactMinutes q * 10 ^ 6 := by
  push_cast
  rw [abs_of_nonneg (exactMinutes_nonneg q)]

/-- The minutes are printed below sixty unless they are rounded to that. -/
lemma minutes_printed_lt_iff (q : ℚ) (positive : Bool) :
    (printed |q| positive).minutes < 60 ↔ MinutesBelowSixty q := by
  have heven : Even (60 * 10 ^ 6) := by decide
  have hiff := roundHalfEven_lt_iff (q := Rat.nnabs (exactMinutes |q|) * 10 ^ 6) heven
  have hpow : (0 : ℚ) < 10 ^ 6 := by norm_num
  rw [coe_exactMinutes] at hiff
  rw [MinutesBelowSixty, printed, roundedTo, div_lt_iff₀ hpow]
  constructor
  · intro h
    have hexact := hiff.mp (by exact_mod_cast h)
    push_cast at hexact
    linarith
  · intro h
    have hround := hiff.mpr (by push_cast; linarith)
    exact_mod_cast hround

/-- What is printed is within half of the last digit. -/
lemma abs_value_printed_sub_le {positive : Bool} (hsign : q = if positive then |q| else -|q|) :
    |(printed |q| positive).value - q| ≤ 1 / 2 / 10 ^ 6 / 60 := by
  have hdegrees : ((⌊Rat.nnabs |q|⌋₊ : ℕ) : ℚ) = |q| - exactMinutes |q| / 60 := by
    rw [← NNRat.floor_coe, Rat.coe_nnabs, abs_abs, natCast_floor_eq_intCast_floor (abs_nonneg q),
      exactMinutes, Int.fract]
    ring
  have hround := abs_roundHalfEven_sub_le (Rat.nnabs (exactMinutes |q|) * 10 ^ 6)
  rw [coe_exactMinutes, abs_le] at hround
  have hmagnitude : |(printed |q| true).value - (|q|)| ≤ 1 / 2 / 10 ^ 6 / 60 := by
    simp only [printed, roundedTo, Coordinate.value, if_true]
    rw [hdegrees, abs_le]
    constructor <;> linarith [hround.1, hround.2]
  cases positive with
  | true =>
      rw [if_pos rfl] at hsign
      rwa [← hsign] at hmagnitude ⊢
  | false =>
      rw [if_neg Bool.false_ne_true] at hsign
      have hnegate : (printed |q| false).value = -(printed |q| true).value := rfl
      have hdifference : (printed |q| false).value - q = -((printed |q| true).value - (|q|)) := by
        linarith
      rwa [hdifference, abs_neg]

theorem printed_decodesTo_iff {positive : Bool} (hsign : q = if positive then |q| else -|q|) :
    (printed |q| positive).DecodesTo q ↔ MinutesBelowSixty q := by
  constructor
  · exact fun h => (minutes_printed_lt_iff q positive).mp h.2.1
  · intro h
    refine ⟨?_, (minutes_printed_lt_iff q positive).mpr h, abs_value_printed_sub_le hsign⟩
    exact div_nonneg (Nat.cast_nonneg _) (by norm_num)

end Exact

lemma sign_latitude (q : ℚ) : q = if decide (0 < q) then |q| else -|q| := by
  by_cases h : 0 < q
  · rw [if_pos (decide_eq_true h), abs_of_pos h]
  · rw [if_neg (by simpa using h), abs_of_nonpos (not_lt.mp h), neg_neg]

lemma sign_longitude (q : ℚ) : q = if decide (¬q < 0) then |q| else -|q| := by
  by_cases h : q < 0
  · rw [if_neg (by simpa using h), abs_of_neg h, neg_neg]
  · rw [if_pos (decide_eq_true h), abs_of_nonneg (not_lt.mp h)]

/-- The position decodes to the fix exactly when neither coordinate has minutes that are printed as
sixty. -/
theorem decodesToFix_iff (r : FixReport ℚ ℚ) (hflag : r.hasLatLong = true)
    (hlat : |r.latitude| ≤ 90) (hlon : |r.longitude| ≤ 180) :
    DecodesToFix r ↔ MinutesBelowSixty r.latitude ∧ MinutesBelowSixty r.longitude := by
  have hread := readPosition_rationals hflag hlat hlon
  have hlatitude := printed_decodesTo_iff (sign_latitude r.latitude)
  have hlongitude := printed_decodesTo_iff (sign_longitude r.longitude)
  constructor
  · rintro ⟨latitude, longitude, hposition, hlatitude', hlongitude'⟩
    rw [hread, Option.some_inj, Prod.mk.injEq] at hposition
    rw [← hposition.1] at hlatitude'
    rw [← hposition.2] at hlongitude'
    exact ⟨hlatitude.mp hlatitude', hlongitude.mp hlongitude'⟩
  · rintro ⟨hlatitude', hlongitude'⟩
    exact ⟨_, _, hread, hlatitude.mpr hlatitude', hlongitude.mpr hlongitude'⟩

/-- A fix with a latitude, at Greenwich. -/
def fixAtLatitude (latitude : ℚ) : FixReport ℚ ℚ where
  flags := 0x0001
  latitude := latitude
  longitude := 0
  bearing := 0
  extendedFlags := 0
  magneticDeviation := 0

example : positionOver .rationals (fixAtLatitude 0.999999999) =
    "0060.000000,N,00000.000000,E,".toList := by decide +kernel

theorem decodesToFix_half : DecodesToFix (fixAtLatitude (1 / 2)) :=
  (decodesToFix_iff (fixAtLatitude (1 / 2)) rfl (by decide +kernel) (by decide +kernel)).mpr
    ⟨by decide +kernel, by decide +kernel⟩

/-- Just below one degree the minutes are printed as sixty. -/
theorem minutes_printed_sixty :
    ¬∀ r : FixReport ℚ ℚ, r.hasLatLong = true → |r.latitude| ≤ 90 → |r.longitude| ≤ 180 →
      DecodesToFix r := by
  intro hall
  have hlat : |(fixAtLatitude 0.999999999).latitude| ≤ 90 := by decide +kernel
  have hlon : |(fixAtLatitude 0.999999999).longitude| ≤ 180 := by decide +kernel
  obtain ⟨latitude, longitude, hposition, hlatitude, -⟩ := hall _ rfl hlat hlon
  rw [readPosition_rationals rfl hlat hlon, Option.some_inj, Prod.mk.injEq] at hposition
  rw [← hposition.1, printed_decodesTo_iff (sign_latitude _)] at hlatitude
  exact absurd hlatitude (by decide +kernel)

/-! ## Agreement of the courses -/

/-- The variation with its sign, which is negative to the west. -/
def signedVariation (v : ℚ × Char) : ℚ := if v.2 = 'W' then -v.1 else v.1

/-- The course lies in `[0, 360]` and is the true one less the variation, up to whole turns. -/
def IsMagneticCourse (magnetic true_course variation : ℚ) : Prop :=
  0 ≤ magnetic ∧ magnetic ≤ 360 ∧ ∃ k : ℤ, magnetic = true_course - variation + 360 * k

/-- The magnetic course of VTG is that of RMC. -/
def CoursesAgree (r : FixReport ℚ ℚ) : Prop :=
  ∃ vtg course variation, vtgCourses r = some vtg ∧ rmcCourse r = some course ∧
    rmcVariationOver .rationals r = some variation ∧
    IsMagneticCourse vtg.2 course (signedVariation variation)

section Agreement

variable {r : FixReport ℚ ℚ}

/-- The variation of RMC with its sign is the deviation. -/
lemma signedVariation_rmc (hmag : r.hasMagDev = true) :
    ∃ v, rmcVariationOver .rationals r = some v ∧ signedVariation v = r.magneticDeviation := by
  have hvalue : Arithmetic.rationals.value r.magneticDeviation =
      FloatValue.ofRat r.magneticDeviation := rfl
  refine ⟨_, by rw [rmcVariationOver, if_pos hmag], ?_⟩
  rw [hvalue, FloatValue.isNegative_ofRat]
  by_cases h : r.magneticDeviation < 0
  · have hneg : Arithmetic.rationals.mulLiteral r.magneticDeviation (-1) = -r.magneticDeviation :=
      mul_neg_one _
    rw [if_pos (decide_eq_true h), signedVariation, if_pos rfl, hneg, neg_neg]
  · rw [if_neg (by simpa using h), signedVariation, if_neg (by decide : ( 'E' ≠ 'W'))]

lemma coursesAgree_def (hbearing : r.hasBearing = true) (hmag : r.hasMagDev = true) :
    CoursesAgree r ↔ IsMagneticCourse r.bearing r.bearing r.magneticDeviation := by
  obtain ⟨v, hv, hsigned⟩ := signedVariation_rmc hmag
  have hvtg : vtgCourses r = some (r.bearing, r.bearing) := if_pos hbearing
  have hcourse : rmcCourse r = some r.bearing := if_pos hbearing
  constructor
  · rintro ⟨vtg, course, variation, hvtg', hcourse', hv', hagree⟩
    rw [hvtg, Option.some_inj] at hvtg'
    rw [hcourse, Option.some_inj] at hcourse'
    rw [hv, Option.some_inj] at hv'
    rwa [← hvtg', ← hcourse', ← hv', hsigned] at hagree
  · intro h
    refine ⟨_, _, _, hvtg, hcourse, hv, ?_⟩
    rwa [hsigned]

/-- What the inner block computes agrees. -/
theorem correctedTrack_agrees (hlow : 0 ≤ r.bearing) (hhigh : r.bearing < 360)
    (hdev : |r.magneticDeviation| ≤ 180) :
    IsMagneticCourse (correctedTrack .rationals r) r.bearing r.magneticDeviation := by
  obtain ⟨hdev_low, hdev_high⟩ := abs_le.mp hdev
  have hexceeds : (FloatValue.ofRat (r.bearing - r.magneticDeviation)).exceeds 360 =
      decide (360 < r.bearing - r.magneticDeviation) := FloatValue.exceeds_ofRat (by norm_num)
  have hvalue : correctedTrack .rationals r =
      if r.bearing - r.magneticDeviation < 0 then r.bearing - r.magneticDeviation + 360
      else if 360 < r.bearing - r.magneticDeviation then r.bearing - r.magneticDeviation - 360
      else r.bearing - r.magneticDeviation := by
    simp only [correctedTrack, Arithmetic.rationals, FloatValue.isNegative_ofRat, hexceeds,
      decide_eq_true_eq]
  rw [hvalue]
  split_ifs with hneg hbig
  · exact ⟨by linarith, by linarith, 1, by push_cast; ring⟩
  · exact ⟨by linarith, by linarith, -1, by push_cast; ring⟩
  · exact ⟨not_lt.mp hneg, not_lt.mp hbig, 0, by push_cast; ring⟩

/-- A deviation of at most half a turn that is a whole number of turns is none. -/
lemma eq_zero_of_turns {x : ℚ} (h : |x| ≤ 180) {k : ℤ} (hk : x = 360 * k) : x = 0 := by
  obtain ⟨hlow, hhigh⟩ := abs_le.mp h
  have hpos : (-1 : ℚ) < k := by linarith
  have hneg : (k : ℚ) < 1 := by linarith
  have hpos' : -1 < k := by exact_mod_cast hpos
  have hneg' : k < 1 := by exact_mod_cast hneg
  have hzero : k = 0 := by omega
  rw [hk, hzero, Int.cast_zero, mul_zero]

end Agreement

/-- The courses agree exactly when there is no deviation. -/
theorem coursesAgree_iff (r : FixReport ℚ ℚ) (hbearing : r.hasBearing = true)
    (hmag : r.hasMagDev = true) (hlow : 0 ≤ r.bearing) (hhigh : r.bearing < 360)
    (hdev : |r.magneticDeviation| ≤ 180) : CoursesAgree r ↔ r.magneticDeviation = 0 := by
  rw [coursesAgree_def hbearing hmag]
  constructor
  · rintro ⟨-, -, k, hk⟩
    exact eq_zero_of_turns hdev (k := k) (by linarith)
  · intro hzero
    refine ⟨hlow, hhigh.le, 0, ?_⟩
    rw [hzero, Int.cast_zero, mul_zero, sub_zero, add_zero]

/-- A course to the east. -/
def fixToTheEast (magneticDeviation : ℚ) : FixReport ℚ ℚ where
  flags := 0x0008
  latitude := 0
  longitude := 0
  bearing := 90
  extendedFlags := 0x0004
  magneticDeviation := magneticDeviation

theorem coursesAgree_no_deviation : CoursesAgree (fixToTheEast 0) :=
  (coursesAgree_iff (fixToTheEast 0) rfl rfl (by decide +kernel) (by decide +kernel)
    (by decide +kernel)).mpr rfl

/-- With a deviation of ten degrees VTG has the true course as the magnetic one. -/
theorem deviation_not_applied :
    ¬∀ r : FixReport ℚ ℚ, r.hasBearing = true → r.hasMagDev = true → 0 ≤ r.bearing →
      r.bearing < 360 → |r.magneticDeviation| ≤ 180 → CoursesAgree r := by
  intro hall
  have hdev : |(fixToTheEast 10).magneticDeviation| ≤ 180 := by decide +kernel
  have hagree := hall (fixToTheEast 10) rfl rfl (by decide +kernel) (by decide +kernel) hdev
  obtain ⟨-, -, k, hk⟩ := (coursesAgree_def rfl rfl).mp hagree
  have hturns : (fixToTheEast 10).magneticDeviation = 360 * k := by linarith
  exact absurd (eq_zero_of_turns hdev hturns) (by decide +kernel)

end LocNmea
end LocHal
