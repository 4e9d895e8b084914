import LocHal.Utils.LocNmea

/-!
# The lengths of the sentences of a report (`gps/utils/loc_nmea.cpp`)

A sentence is complete when every `snprintf` had room for what it printed.  It is so when the texts
of its appends and the five characters of the checksum stay below the size of the buffer
(`complete_print`), whether their lengths are compared or not.

The longest field is a `float` to one decimal place, of 42 characters, and no sentence has more than
four of them besides its other fields.  An RMC sentence comes closest to the 200 bytes.
-/

namespace LocHal.LocNmea

/-! ## What has room in the buffer -/

def Append.text : Append → List Char
  | .checked text | .unchecked text | .last text => text

/-- What the appends print. -/
def appended (appends : List Append) : List Char := appends.flatMap Append.text

/-- `'$' body '*' HH CR LF` with the checksum of the body. -/
def nmeaText (body : List Char) : List Char :=
  '$' :: body ++
    ['*', upperHexDigit ((Sentence.checksum body).toNat / 16),
      upperHexDigit ((Sentence.checksum body).toNat % 16), '\x0d', '\x0a']

/-- `'$' body '*' HH CR LF` with the checksum of the body, shorter than the buffer. -/
def IsNmea (text : List Char) : Prop :=
  ∃ body, text = '$' :: body ++
      ['*', upperHexDigit ((Sentence.checksum body).toNat / 16),
        upperHexDigit ((Sentence.checksum body).toNat % 16), '\x0d', '\x0a'] ∧
    text.length < nmeaSentenceMaxLength

namespace Sentence

/-- Nothing has been cut off. -/
structure Fits (s : Sentence) : Prop where
  not_failed : s.failed = false
  printed_lt : ∀ p ∈ s.printed, (p.2 : ℤ) < p.1
  room : (nmeaSentenceMaxLength : ℤ) - s.text.length ≤ s.lengthRemaining

/-- The sentence was printed to its end with nothing cut off, and is one. -/
structure Complete (s : Sentence) : Prop where
  not_failed : s.failed = false
  printed_lt : ∀ p ∈ s.printed, (p.2 : ℤ) < p.1
  remaining_pos : 0 < s.lengthRemaining
  isNmea : IsNmea s.text

variable {s : Sentence} {a : Append} {appends : List Append}

lemma fits_empty : Fits {} where
  not_failed := rfl
  printed_lt := List.forall_mem_nil _
  room := by decide

/-- What is shorter than the size given is printed whole. -/
lemma snprintf_of_lt {size : ℤ} {text : List Char} (h : (text.length : ℤ) < size) :
    s.snprintf size text =
      { s with text := s.text ++ text, printed := s.printed ++ [(size, text.length)] } := by
  rw [snprintf, List.take_of_length_le (by omega)]

/-- An append that has room prints its text, and takes at most the length of it from the room. -/
lemma append_of_lt (hf : s.failed = false) (hlt : (a.text.length : ℤ) < s.lengthRemaining) :
    ∃ remaining, s.lengthRemaining - a.text.length ≤ remaining ∧
      s.append a = { s with
        text := s.text ++ a.text
        printed := s.printed ++ [(s.lengthRemaining, a.text.length)]
        lengthRemaining := remaining } := by
  have hprint := snprintf_of_lt (s := s) hlt
  cases a with
  | checked text =>
      have hcompare : ¬ s.lengthRemaining ≤ (text.length : ℤ) := not_le.mpr hlt
      refine ⟨_, le_refl _, ?_⟩
      simp only [Append.text] at hprint ⊢
      simp only [append, hf, hprint, if_neg hcompare, Bool.false_eq_true, if_false]
  | unchecked text =>
      refine ⟨_, le_refl _, ?_⟩
      simp only [Append.text] at hprint ⊢
      simp only [append, hf, hprint, Bool.false_eq_true, if_false]
  | last text =>
      refine ⟨s.lengthRemaining, by omega, ?_⟩
      simp only [Append.text] at hprint ⊢
      simp only [append, hf, hprint, Bool.false_eq_true, if_false]

lemma printed_lt_append {printed : List (ℤ × ℕ)} (h : ∀ p ∈ printed, (p.2 : ℤ) < p.1) {size : ℤ}
    {length : ℕ} (hlt : (length : ℤ) < size) :
    ∀ p ∈ printed ++ [(size, length)], (p.2 : ℤ) < p.1 := by
  intro p hp
  rcases List.mem_append.mp hp with hp | hp
  · exact h p hp
  · rw [List.mem_singleton.mp hp]
    exact hlt

/-- One append that has room. -/
lemma Fits.append (h : s.Fits) (hroom : s.text.length + a.text.length < nmeaSentenceMaxLength) :
    (s.append a).Fits ∧ (s.append a).text = s.text ++ a.text := by
  have hlt : (a.text.length : ℤ) < s.lengthRemaining := by
    have := h.room
    omega
  obtain ⟨remaining, hremaining, heq⟩ := append_of_lt h.not_failed hlt
  rw [heq]
  refine ⟨⟨h.not_failed, printed_lt_append h.printed_lt hlt, ?_⟩, rfl⟩
  have := h.room
  rw [List.length_append]
  push_cast
  omega

/-- A run of appends that has room. -/
lemma Fits.foldl (h : s.Fits)
    (hroom : s.text.length + (appended appends).length < nmeaSentenceMaxLength) :
    (appends.foldl Sentence.append s).Fits ∧
      (appends.foldl Sentence.append s).text = s.text ++ appended appends := by
  induction appends generalizing s with
  | nil => exact ⟨h, (List.append_nil _).symm⟩
  | cons a appends ih =>
      rw [appended, List.flatMap_cons, List.length_append] at hroom
      obtain ⟨hfits, htext⟩ := h.append (a := a) (by omega)
      have hlength : (s.append a).text.length + (appended appends).length <
          nmeaSentenceMaxLength := by
        rw [htext, List.length_append, appended]
        omega
      obtain ⟨hrun, htexts⟩ := ih hfits hlength
      refine ⟨hrun, ?_⟩
      rw [List.foldl_cons, htexts, htext, appended, appended, List.flatMap_cons, List.append_assoc]

/-- The checksum after a text that leaves it room is printed whole. -/
lemma locNmeaPutChecksum_of_lt {body : List Char} (hbody : s.text = '$' :: body)
    (hroom : s.text.length + 5 < nmeaSentenceMaxLength) :
    ((5 : ℕ) : ℤ) < nmeaSentenceMaxLength - body.length - 1 ∧
      s.locNmeaPutChecksum nmeaSentenceMaxLength =
        { s with
          text := nmeaText body
          printed := s.printed ++ [((nmeaSentenceMaxLength : ℤ) - body.length - 1, 5)] } := by
  have htail : s.text.tail = body := by rw [hbody, List.tail_cons]
  have hlength : s.text.length = body.length + 1 := by rw [hbody, List.length_cons]
  have hlt : ((5 : ℕ) : ℤ) < nmeaSentenceMaxLength - body.length - 1 := by omega
  have hmark : ['*'] ++ formatHexByte (checksum body) ++ ['\x0d', '\x0a'] =
      ['*', upperHexDigit ((checksum body).toNat / 16), upperHexDigit ((checksum body).toNat % 16),
        '\x0d', '\x0a'] := by
    rw [formatHexByte_eq]
    rfl
  refine ⟨hlt, ?_⟩
  rw [locNmeaPutChecksum, htail, hmark, snprintf_of_lt hlt, hbody]
  rfl

/-- The checksum completes the sentence. -/
lemma Fits.complete (h : s.Fits) {body : List Char} (hbody : s.text = '$' :: body)
    (hroom : s.text.length + 5 < nmeaSentenceMaxLength) :
    (s.locNmeaPutChecksum nmeaSentenceMaxLength).Complete := by
  obtain ⟨hlt, heq⟩ := locNmeaPutChecksum_of_lt hbody hroom
  rw [heq]
  refine ⟨h.not_failed, printed_lt_append h.printed_lt hlt, ?_, body, rfl, ?_⟩
  · have := h.room
    show 0 < s.lengthRemaining
    omega
  · show (nmeaText body).length < nmeaSentenceMaxLength
    rwa [nmeaText, List.length_append, ← hbody]

/-- Appends that leave room for the checksum are printed with it. -/
lemma print_of_lt (hroom : (appended appends).length + 5 < nmeaSentenceMaxLength) :
    ∃ s : Sentence, s.Fits ∧ s.text = appended appends ∧
      print appends = s.locNmeaPutChecksum nmeaSentenceMaxLength := by
  have hlength : ([] : List Char).length + (appended appends).length < nmeaSentenceMaxLength := by
    rw [List.length_nil]
    omega
  obtain ⟨hfits, htext⟩ := fits_empty.foldl hlength
  rw [List.nil_append] at htext
  refine ⟨appends.foldl append {}, hfits, htext, ?_⟩
  simp only [print, hfits.not_failed, Bool.false_eq_true, if_false]

/-- Appends that begin with the dollar sign and leave room for the checksum. -/
theorem complete_print {body : List Char} (hbody : appended appends = '$' :: body)
    (hroom : (appended appends).length + 5 < nmeaSentenceMaxLength) :
    (print appends).Complete := by
  obtain ⟨s, hfits, htext, hprint⟩ := print_of_lt hroom
  rw [hprint]
  apply hfits.complete (htext.trans hbody)
  rwa [htext]

/-- What such appends print. -/
theorem text_print {body : List Char} (hbody : appended appends = '$' :: body)
    (hroom : (appended appends).length + 5 < nmeaSentenceMaxLength) :
    (print appends).text = nmeaText body := by
  obtain ⟨s, -, htext, hprint⟩ := print_of_lt hroom
  rw [hprint, (locNmeaPutChecksum_of_lt (htext.trans hbody) (by rwa [htext])).2]

end Sentence

/-! ## Fields -/

section Fields

variable {x : BinaryFloat binary64} {n : ℕ}

/-- A field that a flag leaves out. -/
lemma length_ite_le {c : Bool} {t e : List Char} (ht : t.length ≤ n) (he : e.length ≤ n) :
    (if c then t else e).length ≤ n := by
  cases c with
  | true => exact ht
  | false => exact he

/-- A field of one number and what separates it from the next field. -/
lemma length_numberField_le {c : Bool} {number separator without : List Char}
    (hnumber : number.length ≤ 42) (hwithout : without.length ≤ 42 + separator.length) :
    (if c then number ++ separator else without).length ≤ 42 + separator.length := by
  apply length_ite_le _ hwithout
  rw [List.length_append]
  exact Nat.add_le_add_right hnumber _

lemma maxFinite_le : binary32.maxFinite ≤ ((2 ^ 128 : ℕ) : ℚ≥0) := by decide +kernel

/-- A `float` has at most 39 digits before the point. -/
lemma length_oneDecimal_le (y : BinaryFloat binary32) : (oneDecimal y).length ≤ 42 :=
  length_formatFixed_le (k := 39) (by decide) (by decide) (y.within_maxFinite.mono maxFinite_le)
    (by norm_num)

/-- So has the difference between an altitude and one that is a `float`. -/
lemma length_oneDecimal_sub_le (hx : x.value.Within binary32.maxFinite)
    (y : BinaryFloat binary32) : (oneDecimal (x - y.convert binary64)).length ≤ 42 := by
  have hy : (y.convert binary64).value.Within ((2 ^ 128 : ℕ) : ℚ≥0) :=
    FloatFormat.within_round (by decide) (y.within_maxFinite.mono maxFinite_le)
  have hwithin : (x - y.convert binary64).value.Within ((2 ^ 129 : ℕ) : ℚ≥0) :=
    FloatFormat.within_round_add (by decide) (hx.mono maxFinite_le) hy.neg
  exact length_formatFixed_le (k := 39) (by decide) (by decide) hwithin (by norm_num)

lemma sixty_value : (BinaryFloat.ofRat binary64 60).value = .finite false 60 := by decide +kernel

lemma length_minutes_le (x : BinaryFloat binary64) :
    (formatFixedPadded 9 6 (minutes x).value).length ≤ 10 := by
  have hfmod : ((x * .ofRat binary64 60).value.fmod
      (BinaryFloat.ofRat binary64 60).value).Within ((2 ^ 6 : ℕ) : ℚ≥0) := by
    rw [sixty_value]
    apply (FloatValue.within_fmod _ false 60).mono
    norm_num
  have hwithin : (minutes x).value.Within ((2 ^ 6 : ℕ) : ℚ≥0) :=
    FloatFormat.within_round (by decide) hfmod
  exact length_formatFixedPadded_le (k := 2) (by decide) (by decide) (by decide) hwithin
    (by decide)

lemma neg_one_round : binary64.round (.finite true 1) = .finite true 1 := by decide +kernel

/-- The number has no sign, or is zero, and has a magnitude of at most `n`. -/
def Unsigned (n : ℕ) (x : BinaryFloat binary64) : Prop :=
  ∃ s q, x.value = .finite s q ∧ (s = true → q = 0) ∧ q ≤ (n : ℚ≥0)

/-- A multiplication by `-1.0` takes a sign away. -/
lemma unsigned_mul_neg_one {s : Bool} {q : ℚ≥0} (hvalue : x.value = .finite s q)
    (hs : s = false → q = 0) (hq : q ≤ (n : ℚ≥0)) : Unsigned n (x * .ofRat binary64 (-1)) := by
  refine ⟨!s, q, ?_, ?_, hq⟩
  · rw [BinaryFloat.mul_ofRat_neg_one neg_one_round, hvalue]
    rfl
  · intro hsign
    rw [Bool.not_eq_true'] at hsign
    exact hs hsign

lemma unsigned_latHemisphere (hx : x.value.AbsLE n) : Unsigned n (latHemisphere x).2 := by
  obtain ⟨s, q, hvalue, hq⟩ := hx.exists
  by_cases hpos : x.value.isPositive = true
  · rw [latHemisphere, if_pos hpos]
    refine ⟨s, q, hvalue, ?_, hq⟩
    intro hs
    simp [hvalue, FloatValue.isPositive, hs] at hpos
  · rw [latHemisphere, if_neg hpos]
    apply unsigned_mul_neg_one hvalue _ hq
    intro hs
    simpa [hvalue, FloatValue.isPositive, hs] using hpos

lemma unsigned_lonHemisphere (hx : x.value.AbsLE n) : Unsigned n (lonHemisphere x).2 := by
  obtain ⟨s, q, hvalue, hq⟩ := hx.exists
  by_cases hneg : x.value.isNegative = true
  · rw [lonHemisphere, if_pos hneg]
    apply unsigned_mul_neg_one hvalue _ hq
    intro hs
    simp [hvalue, FloatValue.isNegative, hs] at hneg
  · rw [lonHemisphere, if_neg hneg]
    refine ⟨s, q, hvalue, ?_, hq⟩
    intro hs
    simpa [hvalue, FloatValue.isNegative, hs] using hneg

lemma degrees_le (hx : Unsigned n x) : 0 ≤ degrees x ∧ degrees x ≤ n := by
  obtain ⟨s, q, hvalue, hs, hq⟩ := hx
  have hfloor : ⌊q⌋₊ ≤ n := Nat.floor_le_of_le hq
  rw [degrees, hvalue, FloatValue.toInt_floor hs]
  omega

lemma length_utcText_le (tm : Tm) (timestamp : ℤ) : (utcText tm timestamp).length ≤ 10 := by
  have hhour := length_formatIntPadded_nonneg_le (n := tm.tm_hour) (k := 2) (w := 2)
    (by omega) (by decide) (by decide) (by omega)
  have hmin := length_formatIntPadded_nonneg_le (n := tm.tm_min) (k := 2) (w := 2)
    (by omega) (by decide) (by decide) (by omega)
  have hsec := length_formatIntPadded_nonneg_le (n := tm.tm_sec) (k := 2) (w := 2)
    (by omega) (by decide) (by decide) (by omega)
  have habs : ((timestamp.tmod 1000).tdiv 10).natAbs < 10 ^ 2 := by
    rw [Int.natAbs_tdiv, Int.natAbs_tmod]
    show timestamp.natAbs % 1000 / 10 < 10 ^ 2
    omega
  have hms := length_formatIntPadded_le (k := 2) (w := 2) (by decide) (by decide) habs
  simp only [utcText, List.length_append, List.length_cons, List.length_nil]
  omega

end Fields

/-! ## Position reports -/

/-- The ranges of the values that are no `float`. -/
structure LocGpsLocation.InRange (location : LocGpsLocation) : Prop where
  latitude : location.latitude.value.AbsLE 90
  longitude : location.longitude.value.AbsLE 180
  altitude : location.altitude.value.AbsLE binary32.maxFinite

section Position

variable {location : LocGpsLocation}

lemma length_latLongText_le (h : location.InRange) : (latLongText location).length ≤ 31 := by
  obtain ⟨hlat, hlat90⟩ := degrees_le (n := 90) (unsigned_latHemisphere h.latitude)
  obtain ⟨hlon, hlon180⟩ := degrees_le (n := 180) (unsigned_lonHemisphere h.longitude)
  have hlatDegrees := length_formatIntPadded_nonneg_le (k := 2) (w := 2) hlat (by decide)
    (by decide) (by omega)
  have hlonDegrees := length_formatIntPadded_nonneg_le (k := 3) (w := 3) hlon (by decide)
    (by decide) (by omega)
  have hlatMinutes := length_minutes_le (latHemisphere location.latitude).2
  have hlonMinutes := length_minutes_le (lonHemisphere location.longitude).2
  simp only [latLongText, List.length_append, List.length_cons, List.length_nil]
  omega

lemma length_position_le (h : location.InRange) : (position location).length ≤ 31 :=
  length_ite_le (length_latLongText_le h) (by decide)

lemma length_talker (talker : Talker) : talker.text.length = 2 := rfl

lemma length_vtgTrack_le (location : LocGpsLocation) : (vtgTrack location).length ≤ 90 := by
  apply length_ite_le _ (by decide)
  have hbearing := length_oneDecimal_le location.bearing
  simp only [String.reduceToList, List.length_append, List.length_cons, List.length_nil]
  omega

lemma length_vtgSpeed_le (location : LocGpsLocation) : (vtgSpeed location).length ≤ 90 := by
  apply length_ite_le _ (by decide)
  have hknots := length_oneDecimal_le (speedKnots location)
  have hkm := length_oneDecimal_le (speedKmPerHour location)
  simp only [String.reduceToList, List.length_append, List.length_cons, List.length_nil]
  omega

lemma length_rmcSpeed_le (location : LocGpsLocation) : (rmcSpeed location).length ≤ 43 :=
  length_numberField_le (length_oneDecimal_le _) (by decide)

lemma length_rmcTrack_le (location : LocGpsLocation) : (rmcTrack location).length ≤ 43 :=
  length_numberField_le (length_oneDecimal_le _) (by decide)

lemma length_rmcDate_le (tm : Tm) : (rmcDate tm).length ≤ 8 := by
  obtain ⟨hdayLow, hdayHigh⟩ := tm.tm_mday.property
  obtain ⟨hmonthLow, hmonthHigh⟩ := tm.month.property
  have hyear : (tm.tm_year.tmod 100).natAbs < 10 ^ 2 := by
    rw [Int.natAbs_tmod]
    exact Nat.mod_lt _ (by decide)
  have hday := length_formatIntDigits_nonneg_le (n := tm.tm_mday.val) (k := 2) (p := 2)
    (by omega) (by decide) (by decide) (by omega)
  have hmonth := length_formatIntDigits_nonneg_le (n := tm.month.val) (k := 2) (p := 2)
    (by omega) (by decide) (by decide) (by omega)
  have hyear := length_formatIntDigits_le (k := 2) (p := 2) (by decide) (by decide) hyear
  simp only [rmcDate, List.length_append, List.length_cons, List.length_nil]
  omega

lemma length_rmcVariation_le (e : GpsLocationExtended) : (rmcVariation e).length ≤ 45 :=
  length_numberField_le (length_oneDecimal_le _) (by decide : 2 ≤ 42 + 3)

lemma length_ggaDop_le (e : GpsLocationExtended) : (ggaDop e).length ≤ 43 :=
  length_numberField_le (length_oneDecimal_le _) (by decide)

lemma length_ggaAltitude_le (e : GpsLocationExtended) : (ggaAltitude e).length ≤ 45 :=
  length_numberField_le (length_oneDecimal_le _) (by decide)

lemma length_ggaSeparation_le (h : location.InRange) (e : GpsLocationExtended) :
    (ggaSeparation location e).length ≤ 46 :=
  length_numberField_le (length_oneDecimal_sub_le h.altitude.within _) (by decide)

/-- VTG: four numbers, for 188 characters at most. -/
lemma complete_vtg (talker : Talker) (location : LocGpsLocation) (e : GpsLocationExtended) :
    (Sentence.print (vtgAppends talker location e)).Complete := by
  have htrack := length_vtgTrack_le location
  have hspeed := length_vtgSpeed_le location
  apply Sentence.complete_print rfl
  simp only [appended, vtgAppends, List.flatMap_cons, List.flatMap_nil, Append.text,
    String.reduceToList, List.length_append, List.length_cons, List.length_nil, length_talker,
    nmeaSentenceMaxLength]
  omega

/-- RMC: three numbers, the time, the position and the date, for 193 characters at most. -/
lemma complete_rmc (h : location.InRange) (talker : Talker) (tm : Tm) (e : GpsLocationExtended) :
    (Sentence.print (rmcAppends talker tm location e)).Complete := by
  have hutc := length_utcText_le tm location.timestamp
  have hposition := length_position_le h
  have hspeed := length_rmcSpeed_le location
  have htrack := length_rmcTrack_le location
  have hdate := length_rmcDate_le tm
  have hvariation := length_rmcVariation_le e
  apply Sentence.complete_print rfl
  simp only [appended, rmcAppends, List.flatMap_cons, List.flatMap_nil, Append.text,
    String.reduceToList, List.length_append, List.length_cons, List.length_nil, length_talker,
    nmeaSentenceMaxLength]
  omega

/-- GGA: three numbers, the time and the position, for 188 characters at most. -/
lemma complete_gga (h : location.InRange) (talker : Talker) (tm : Tm) (svUsedCount : ℕ)
    (e : GpsLocationExtended) :
    (Sentence.print (ggaAppends talker tm svUsedCount location e)).Complete := by
  have hutc := length_utcText_le tm location.timestamp
  have hposition := length_position_le h
  have hcount := length_formatIntPadded_nonneg_le
    (n := (min svUsedCount maxSatellitesInUse : ℕ)) (k := 2) (w := 2) (Int.natCast_nonneg _)
    (by decide) (by decide) (by rw [maxSatellitesInUse]; omega)
  have hdop := length_ggaDop_le e
  have haltitude := length_ggaAltitude_le e
  have hseparation := length_ggaSeparation_le h e
  apply Sentence.complete_print rfl
  simp only [appended, ggaAppends, List.flatMap_cons, List.flatMap_nil, Append.text,
    String.reduceToList, List.length_append, List.length_cons, List.length_nil, length_talker,
    nmeaSentenceMaxLength]
  omega

end Position

end LocHal.LocNmea
