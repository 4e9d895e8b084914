import LocHal.Core.SetNmeaString
import LocHal.Lib.Printf

/-!
# Reading a debug sentence (`gps/core/SystemStatus.cpp`)

The way of a report through the cache, for the kinds of reports that hold integers only and are made
from a sentence of their own: the engine writes the fields of the content in decimal or, for masks,
in hexadecimal, `setNmeaString` takes the sentence apart and stores a report, and `getReport` gives
it back.

`getReport_sendSentence` says that the content comes back as it was written, whatever the cache has
held before, but for masks of 64 bits whose highest bit is set: they are read by `strtol`, which has
no such number.
-/

namespace LocHal
namespace SystemStatus

variable {Double Single Rest RilData : Type}

/-- The kinds of reports that are made from a sentence of their own and hold integers only. -/
inductive DebugKind where
  | mXtra
  | mEphemeris
  | mSvHealth
  | mPdr
  | mNavData
  | mPositionFailure
deriving DecidableEq, Repr

namespace DebugKind

/-- The kind of the report. -/
def toNmeaKind : DebugKind → NmeaKind
  | mXtra => .mXtra
  | mEphemeris => .mEphemeris
  | mSvHealth => .mSvHealth
  | mPdr => .mPdr
  | mNavData => .mNavData
  | mPositionFailure => .mPositionFailure

/-- The sentence that it is made from. -/
def sentence : DebugKind → Sentence
  | mXtra => .PQWP3
  | mEphemeris => .PQWP4
  | mSvHealth => .PQWP5
  | mPdr => .PQWP6
  | mNavData => .PQWP7
  | mPositionFailure => .PQWS1

end DebugKind

/-! ## Writing a report -/

/-- `%x`. -/
def hexadecimal (n : ℕ) : List Char := Nat.toDigits 16 n

/-- The three fields of an entry of `SystemStatusNavData`. -/
def navFields (nav : Nav) : List (List Char) :=
  [formatInt nav.mType.toInt, formatInt nav.mSource.toInt, formatInt nav.mAgeSec.toInt]

/-- The fields that name a content: masks in hexadecimal, and all else in decimal, with a sign if
the type has one. -/
def fields : (k : DebugKind) → NmeaContent Double Single k.toNmeaKind → List (List Char)
  | .mXtra, c =>
      [hexadecimal c.mXtraValidMask.toNat, formatInt c.mGpsXtraAge.toNat,
        formatInt c.mGloXtraAge.toNat, formatInt c.mBdsXtraAge.toNat,
        formatInt c.mGalXtraAge.toNat, formatInt c.mQzssXtraAge.toNat,
        hexadecimal c.mGpsXtraValid.toNat, hexadecimal c.mGloXtraValid.toNat,
        hexadecimal c.mBdsXtraValid.toNat, hexadecimal c.mGalXtraValid.toNat,
        hexadecimal c.mQzssXtraValid.toNat]
  | .mEphemeris, c =>
      [hexadecimal c.mGpsEpheValid.toNat, hexadecimal c.mGloEpheValid.toNat,
        hexadecimal c.mBdsEpheValid.toNat, hexadecimal c.mGalEpheValid.toNat,
        hexadecimal c.mQzssEpheValid.toNat]
  | .mSvHealth, c =>
      [hexadecimal c.mGpsUnknownMask.toNat, hexadecimal c.mGloUnknownMask.toNat,
        hexadecimal c.mBdsUnknownMask.toNat, hexadecimal c.mGalUnknownMask.toNat,
        hexadecimal c.mQzssUnknownMask.toNat, hexadecimal c.mGpsGoodMask.toNat,
        hexadecimal c.mGloGoodMask.toNat, hexadecimal c.mBdsGoodMask.toNat,
        hexadecimal c.mGalGoodMask.toNat, hexadecimal c.mQzssGoodMask.toNat,
        hexadecimal c.mGpsBadMask.toNat, hexadecimal c.mGloBadMask.toNat,
        hexadecimal c.mBdsBadMask.toNat, hexadecimal c.mGalBadMask.toNat,
        hexadecimal c.mQzssBadMask.toNat]
  | .mPdr, c => [hexadecimal (c : BitVec 32).toNat]
  | .mNavData, c => (c : NavData).toList.flatMap navFields
  | .mPositionFailure, c => [formatInt c.mFixInfoMask.toNat, formatInt c.mHepeLimit.toNat]

/-- A sentence: the talker, the time and the fields between commas, and a checksum. -/
def writeSentence (k : DebugKind) (utcTime checksum : List Char)
    (c : NmeaContent Double Single k.toNmeaKind) : List Char :=
  [','].intercalate (k.sentence.talker :: utcTime :: fields k c) ++ '*' :: checksum

/-! ## Reading it again -/

/-- `strtol` reads a number of 64 bits that does not fit in a `long` as the largest `long`. -/
def capMask (mask : BitVec 64) : BitVec 64 :=
  if mask.msb then BitVec.ofNat 64 (2 ^ 63 - 1) else mask

/-- The content as it is read. -/
def cap : (k : DebugKind) → NmeaContent Double Single k.toNmeaKind →
    NmeaContent Double Single k.toNmeaKind
  | .mXtra, c =>
      ({ c with
        mBdsXtraValid := capMask c.mBdsXtraValid
        mGalXtraValid := capMask c.mGalXtraValid } : Xtra)
  | .mEphemeris, c =>
      ({ c with
        mBdsEpheValid := capMask c.mBdsEpheValid
        mGalEpheValid := capMask c.mGalEpheValid } : Ephemeris)
  | .mSvHealth, c =>
      ({ c with
        mBdsUnknownMask := capMask c.mBdsUnknownMask
        mGalUnknownMask := capMask c.mGalUnknownMask
        mBdsGoodMask := capMask c.mBdsGoodMask
        mGalGoodMask := capMask c.mGalGoodMask
        mBdsBadMask := capMask c.mBdsBadMask
        mGalBadMask := capMask c.mGalBadMask } : SvHealth)
  | .mPdr, c | .mNavData, c | .mPositionFailure, c => c

/-- No mask has its highest bit of 64 set. -/
def FitsLong : (k : DebugKind) → NmeaContent Double Single k.toNmeaKind → Prop
  | .mXtra, c => c.mBdsXtraValid.msb = false ∧ c.mGalXtraValid.msb = false
  | .mEphemeris, c => c.mBdsEpheValid.msb = false ∧ c.mGalEpheValid.msb = false
  | .mSvHealth, c =>
      (c.mBdsUnknownMask.msb = false ∧ c.mGalUnknownMask.msb = false) ∧
        (c.mBdsGoodMask.msb = false ∧ c.mGalGoodMask.msb = false) ∧
          c.mBdsBadMask.msb = false ∧ c.mGalBadMask.msb = false
  | .mPdr, _ | .mNavData, _ | .mPositionFailure, _ => True

section Numbers

variable {w : ℕ} {i : ℤ}

lemma strtolHex_hexadecimal (v : BitVec w) (hw : w ≤ 63) :
    strtolHex w (hexadecimal v.toNat) = v := by
  have hlt : v.toNat < 2 ^ 63 := Nat.lt_of_lt_of_le v.isLt (Nat.pow_le_pow_right (by decide) hw)
  rw [strtolHex, hexadecimal, strtol_toDigits (by decide) (by decide), min_eq_left (by omega),
    BitVec.ofInt_natCast, BitVec.ofNat_toNat, BitVec.setWidth_eq]

lemma strtolHex_hexadecimal_mask (mask : BitVec 64) :
    strtolHex 64 (hexadecimal mask.toNat) = capMask mask := by
  rw [strtolHex, hexadecimal, strtol_toDigits (by decide) (by decide), capMask,
    BitVec.msb_eq_decide]
  by_cases hfits : 2 ^ (64 - 1) ≤ mask.toNat
  · rw [if_pos (decide_eq_true hfits), min_eq_right (by omega)]
    rfl
  · rw [if_neg (by rw [decide_eq_true_iff]; exact hfits), min_eq_left (by omega),
      BitVec.ofInt_natCast, BitVec.ofNat_toNat, BitVec.setWidth_eq]

lemma strtol_formatInt (hmin : -2 ^ 63 ≤ i) (hmax : i < 2 ^ 63) : strtol 10 (formatInt i) = i := by
  by_cases hneg : i < 0
  · have htext : formatInt i = '-' :: Nat.toDigits 10 i.natAbs := by
      rw [formatInt, signText, decide_eq_true hneg]
      rfl
    rw [htext, strtol_neg_toDigits, max_eq_left (by omega)]
    omega
  · have htext : formatInt i = Nat.toDigits 10 i.natAbs := by
      rw [formatInt, signText, decide_eq_false hneg]
      rfl
    rw [htext, strtol_toDigits (by decide) (by decide), min_eq_left (by omega)]
    omega

lemma atoi_formatInt_toInt (v : BitVec 32) : atoi (formatInt v.toInt) = v := by
  have hmin := BitVec.le_toInt v
  have hmax := BitVec.toInt_lt (x := v)
  rw [atoi, strtol_formatInt (by omega) (by omega), BitVec.ofInt_toInt]

lemma atoi_formatInt_toNat (v : BitVec 32) : atoi (formatInt v.toNat) = v := by
  have hlt := v.isLt
  rw [atoi, strtol_formatInt (by omega) (by omega), BitVec.ofInt_natCast, BitVec.ofNat_toNat,
    BitVec.setWidth_eq]

end Numbers

section Fields

/-- The text does not end a field. -/
def IsField (s : List Char) : Prop := ',' ∉ s ∧ '*' ∉ s

lemma isField_hexadecimal (n : ℕ) : IsField (hexadecimal n) := by
  have hnumeral : IsNumeral (hexadecimal n) := isNumeral_toDigits (by decide) (by decide) n
  exact ⟨hnumeral.ne (by decide), hnumeral.ne (by decide)⟩

lemma isField_formatInt (i : ℤ) : IsField (formatInt i) := by
  have hnumeral : IsNumeral (Nat.toDigits 10 i.natAbs) :=
    isNumeral_toDigits (by decide) (by decide) _
  have hsign : ∀ negative, IsField (signText negative) := by
    intro negative
    cases negative <;> exact ⟨by decide, by decide⟩
  rw [IsField, formatInt, List.mem_append, List.mem_append, not_or, not_or]
  exact ⟨⟨(hsign _).1, hnumeral.ne (by decide)⟩, (hsign _).2, hnumeral.ne (by decide)⟩

lemma isField_of_mem_fields (k : DebugKind) (c : NmeaContent Double Single k.toNmeaKind) :
    ∀ field ∈ fields k c, IsField field := by
  cases k with
  | mNavData =>
      intro field hfield
      obtain ⟨nav, -, hnav⟩ := List.mem_flatMap.mp hfield
      have hall : ∀ field ∈ navFields nav, IsField field := by
        simp [navFields, isField_formatInt]
      exact hall field hnav
  | _ => simp [fields, isField_hexadecimal, isField_formatInt]

end Fields

section NavData

variable {α β : Type*}

/-- The fields of an entry stand behind those of the entries before it. -/
lemma getD_flatMap_three (f g h : α → β) (d : β) (l : List α) (i : ℕ) (hi : i < l.length) :
    (l.flatMap fun a => [f a, g a, h a]).getD (i * 3) d = f l[i] ∧
      (l.flatMap fun a => [f a, g a, h a]).getD (i * 3 + 1) d = g l[i] ∧
        (l.flatMap fun a => [f a, g a, h a]).getD (i * 3 + 2) d = h l[i] := by
  induction l generalizing i with
  | nil => exact absurd hi (Nat.not_lt_zero i)
  | cons a l ih =>
      cases i with
      | zero => exact ⟨rfl, rfl, rfl⟩
      | succ i =>
          have hstep : (i + 1) * 3 = i * 3 + 1 + 1 + 1 := by omega
          simp only [List.flatMap_cons, List.cons_append, List.nil_append, hstep,
            List.getD_cons_succ, List.getElem_cons_succ]
          exact ih i (Nat.lt_of_succ_lt_succ hi)

lemma length_flatMap_three (f g h : α → β) (l : List α) :
    (l.flatMap fun a => [f a, g a, h a]).length = l.length * 3 := by
  induction l with
  | nil => rfl
  | cons a l ih =>
      rw [List.flatMap_cons, List.length_append, ih, List.length_cons]
      simp only [List.length_cons, List.length_nil]
      omega

lemma parsePQWP7_fields (talker utcTime : List Char) (data mP7 : NavData) :
    parsePQWP7 (talker :: utcTime :: data.toList.flatMap navFields) mP7 = data := by
  have hlength : (data.toList.flatMap navFields).length = svAllNum * 3 :=
    (length_flatMap_three _ _ _ _).trans (by rw [Vector.length_toList])
  have henough :
      ¬ (talker :: utcTime :: data.toList.flatMap navFields).length < 2 + svAllNum * 3 := by
    rw [List.length_cons, List.length_cons, hlength]
    omega
  rw [parsePQWP7, if_neg henough]
  refine Vector.ext fun i hi => ?_
  have hi' : i < data.toList.length := by rwa [Vector.length_toList]
  obtain ⟨htype, hsource, hage⟩ := getD_flatMap_three (fun nav : Nav => formatInt nav.mType.toInt)
    (fun nav => formatInt nav.mSource.toInt) (fun nav => formatInt nav.mAgeSec.toInt) []
    data.toList i hi'
  have hentry : data.toList[i] = data[i] := Vector.getElem_toList hi'
  have hfield : ∀ j, fieldAt (talker :: utcTime :: data.toList.flatMap navFields) (j + 2) =
      (data.toList.flatMap navFields).getD j [] := fun _ => rfl
  rw [hentry] at htype hsource hage
  rw [Vector.getElem_ofFn]
  have hread : ∀ j v, (data.toList.flatMap navFields).getD j [] = formatInt (BitVec.toInt v) →
      atoi (fieldAt (talker :: utcTime :: data.toList.flatMap navFields) (j + 2)) = v := by
    intro j v hv
    rw [hfield, hv, atoi_formatInt_toInt]
  exact congr (congrArg₂ Nav.mk (hread _ _ htype) (hread _ _ hsource)) (hread _ _ hage)

end NavData

section Sentences

variable {k : DebugKind}

/-- **The parsers** read the fields that name a content as that content, with its masks capped. -/
lemma parse_fields (ops : FloatOps Double Single) (memory : Memory Single)
    (talker utcTime : List Char) (c : NmeaContent Double Single k.toNmeaKind) :
    k.sentence.parse ops memory (talker :: utcTime :: fields k c) = [⟨k.toNmeaKind, cap k c⟩] := by
  have hitem : ∀ (k : NmeaKind) {a b : NmeaContent Double Single k}, a = b →
      [(⟨k, a⟩ : Σ k, NmeaContent Double Single k)] = [⟨k, b⟩] := by
    rintro k a _ rfl
    rfl
  cases k with
  | mXtra =>
      refine hitem .mXtra ?_
      simp [fields, parsePQWP3, fieldAt, cap, strtolHex_hexadecimal, strtolHex_hexadecimal_mask,
        atoi_formatInt_toNat]
  | mEphemeris =>
      refine hitem .mEphemeris ?_
      simp [fields, parsePQWP4, fieldAt, cap, strtolHex_hexadecimal, strtolHex_hexadecimal_mask]
  | mSvHealth =>
      refine hitem .mSvHealth ?_
      simp [fields, parsePQWP5, fieldAt, cap, strtolHex_hexadecimal, strtolHex_hexadecimal_mask]
  | mPdr =>
      exact hitem .mPdr (strtolHex_hexadecimal (c : BitVec 32) (by decide))
  | mNavData =>
      exact hitem .mNavData (parsePQWP7_fields talker utcTime c _)
  | mPositionFailure =>
      refine hitem .mPositionFailure ?_
      simp only [fields, parsePQWS1, fieldAt, cap, List.length_cons, List.length_nil,
        List.getD_cons_succ, List.getD_cons_zero, atoi_formatInt_toNat]
      rfl

lemma capMask_eq_iff (mask : BitVec 64) : capMask mask = mask ↔ mask.msb = false := by
  rw [capMask]
  cases hmsb : mask.msb with
  | true =>
      refine iff_of_false (fun heq => ?_) Bool.noConfusion
      rw [if_pos rfl] at heq
      rw [← heq] at hmsb
      exact absurd hmsb (by decide)
  | false => exact iff_of_true (if_neg Bool.false_ne_true) rfl

lemma cap_eq_iff (k : DebugKind) (c : NmeaContent Double Single k.toNmeaKind) :
    cap k c = c ↔ FitsLong k c := by
  cases k with
  | mXtra =>
      obtain ⟨_, _, _, _, _, _, _, _, _, _, _⟩ := c
      refine (iff_of_eq (Xtra.mk.injEq ..)).trans ?_
      simp [FitsLong, capMask_eq_iff]
  | mEphemeris =>
      obtain ⟨_, _, _, _, _⟩ := c
      refine (iff_of_eq (Ephemeris.mk.injEq ..)).trans ?_
      simp [FitsLong, capMask_eq_iff]
  | mSvHealth =>
      obtain ⟨_, _, _, _, _, _, _, _, _, _, _, _, _, _, _⟩ := c
      refine (iff_of_eq (SvHealth.mk.injEq ..)).trans ?_
      simp [FitsLong, capMask_eq_iff, and_assoc]
  | mPdr | mNavData | mPositionFailure => exact iff_of_true rfl trivial

variable {utcTime checksum : List Char} {c : NmeaContent Double Single k.toNmeaKind}

/-- A sentence begins with its talker. -/
lemma writeSentence_eq (utcTime checksum : List Char)
    (c : NmeaContent Double Single k.toNmeaKind) :
    ∃ rest, writeSentence k utcTime checksum c = k.sentence.talker ++ rest := by
  rw [writeSentence, List.intercalate_cons_of_ne_nil (List.cons_ne_nil _ _), List.append_assoc,
    List.append_assoc]
  exact ⟨_, rfl⟩

lemma length_talker (s : Sentence) : s.talker.length = debugNmeaMinsize := by
  cases s <;> rfl

lemma take_writeSentence :
    (writeSentence k utcTime checksum c).take debugNmeaMinsize = k.sentence.talker := by
  obtain ⟨rest, hrest⟩ := writeSentence_eq utcTime checksum c
  rw [hrest, List.take_left' (length_talker _)]

lemma find?_writeSentence :
    Sentence.find? (writeSentence k utcTime checksum c) = some k.sentence := by
  rw [Sentence.find?, take_writeSentence]
  cases k <;> rfl

lemma locNmeaIsDebug_writeSentence
    (hlen : (writeSentence k utcTime checksum c).length ≤ debugNmeaMaxsize) :
    locNmeaIsDebug (writeSentence k utcTime checksum c)
      (BitVec.ofNat 32 (writeSentence k utcTime checksum c).length) = true := by
  obtain ⟨rest, hrest⟩ := writeSentence_eq utcTime checksum c
  have hmin : debugNmeaMinsize ≤ (writeSentence k utcTime checksum c).length := by
    rw [hrest, List.length_append, length_talker]
    exact Nat.le_add_right _ _
  have htalker : (writeSentence k utcTime checksum c).take 4 = ['$', 'P', 'Q', 'W'] := by
    rw [hrest]
    cases k <;> rfl
  have hint : (BitVec.ofNat 32 (writeSentence k utcTime checksum c).length).toInt =
      (writeSentence k utcTime checksum c).length := by
    rw [debugNmeaMaxsize] at hlen
    rw [BitVec.toInt_eq_toNat_of_lt, BitVec.toNat_ofNat]
    · omega
    · rw [BitVec.toNat_ofNat]
      omega
  rw [locNmeaIsDebug, hint, htalker, Bool.and_eq_true, Bool.and_eq_true, decide_eq_true_iff,
    decide_eq_true_iff]
  exact ⟨⟨by exact_mod_cast hmin, by exact_mod_cast hlen⟩, by decide⟩

lemma notMem_intercalate {a sep : Char} (hne : a ≠ sep) (l : List (List Char))
    (h : ∀ s ∈ l, a ∉ s) : a ∉ [sep].intercalate l := by
  induction l with
  | nil => exact List.not_mem_nil
  | cons s l ih =>
      obtain ⟨hs, hl⟩ := List.forall_mem_cons.mp h
      cases l with
      | nil => rwa [List.intercalate_singleton]
      | cons s' l =>
          rw [List.intercalate_cons_of_ne_nil (List.cons_ne_nil _ _), List.mem_append,
            List.mem_append, List.mem_singleton, not_or, not_or]
          exact ⟨⟨hs, hne⟩, ih hl⟩

/-- **The tokenizer** finds the fields of a sentence. -/
lemma mField_writeSentence (hutc : IsField utcTime) (hchecksum : ',' ∉ checksum)
    (hlen : (writeSentence k utcTime checksum c).length ≤ debugNmeaMaxsize) :
    mField (writeSentence k utcTime checksum c)
        (BitVec.ofNat 32 (writeSentence k utcTime checksum c).length) =
      k.sentence.talker :: utcTime :: fields k c := by
  have htalker : IsField k.sentence.talker := by
    cases k <;> exact ⟨by decide, by decide⟩
  have hfields : ∀ field ∈ k.sentence.talker :: utcTime :: fields k c, IsField field :=
    List.forall_mem_cons.mpr ⟨htalker, List.forall_mem_cons.mpr ⟨hutc, isField_of_mem_fields k c⟩⟩
  have hstar : '*' ∉ [','].intercalate (k.sentence.talker :: utcTime :: fields k c) := by
    exact notMem_intercalate (by decide) _ fun field hfield => (hfields field hfield).2
  refine (mField_of_star (locNmeaIsDebug_writeSentence hlen) hstar).trans ?_
  rw [List.splitOn_intercalate ',' (fun field hfield => (hfields field hfield).1)
      (List.cons_ne_nil _ _),
    cutAll_eq_nil_iff.mpr hchecksum, List.append_nil]

lemma sentenceItems_writeSentence (ops : FloatOps Double Single) (memory : Memory Single)
    (hutc : IsField utcTime) (hchecksum : ',' ∉ checksum)
    (hlen : (writeSentence k utcTime checksum c).length ≤ debugNmeaMaxsize) :
    sentenceItems ops memory (writeSentence k utcTime checksum c)
        (BitVec.ofNat 32 (writeSentence k utcTime checksum c).length) =
      [⟨k.toNmeaKind, cap k c⟩] := by
  have hcopy : strlcpy (debugNmeaMaxsize + 1) (writeSentence k utcTime checksum c) =
      writeSentence k utcTime checksum c := by
    rw [strlcpy, Nat.add_sub_cancel, List.take_of_length_le hlen]
  rw [sentenceItems, find?_writeSentence]
  dsimp only
  rw [hcopy, mField_writeSentence hutc hchecksum hlen, parse_fields]

end Sentences

/-! ## The latest report -/

section Latest

variable {k : NmeaKind}

lemma getLast?_pushNmeaReport (report : List (NmeaReport Double Single k))
    (s : NmeaReport Double Single k) : (pushNmeaReport report s).getLast? = some s := by
  rw [pushNmeaReport]
  split_ifs with hfull
  · cases report with
    | nil => simp [maxItem] at hfull
    | cons a report => exact List.getLast?_concat
  · exact List.getLast?_concat

variable [BEq Double] [BEq Single]

/-- The latest report after `setIteminReport` is the new one, or one that has been found equal. -/
lemma getLast?_setNmeaReport (report : List (NmeaReport Double Single k))
    (s : NmeaReport Double Single k) :
    ∃ back, (setNmeaReport report s).getLast? = some back ∧
      (back.content = s.content ∨ nmeaEquals k back.content s.content = true) := by
  rw [setNmeaReport]
  split
  · exact ⟨s, getLast?_pushNmeaReport report s, .inl rfl⟩
  · rename_i back hback
    split_ifs with hequals
    · exact ⟨_, List.getLast?_concat, .inr hequals⟩
    · exact ⟨s, getLast?_pushNmeaReport report s, .inl rfl⟩

/-- Contents of integers are equal if they are found equal. -/
lemma eq_of_nmeaEquals (k : DebugKind) (s peer : NmeaContent Double Single k.toNmeaKind)
    (h : nmeaEquals k.toNmeaKind s peer = true) : s = peer := by
  cases k with
  | mXtra => exact eq_of_beq (α := Xtra) h
  | mEphemeris => exact eq_of_beq (α := Ephemeris) h
  | mSvHealth => exact eq_of_beq (α := SvHealth) h
  | mPdr => exact eq_of_beq (α := BitVec 32) h
  | mNavData => exact eq_of_beq (α := NavData) h
  | mPositionFailure => exact eq_of_beq (α := PositionFailure) h

/-- `setNmeaString` of a sentence, with its length. -/
def sendSentence (ops : FloatOps Double Single) (memory : Memory Single) (now : NmeaKind → ℕ)
    (k : DebugKind) (utcTime checksum : List Char) (c : NmeaContent Double Single k.toNmeaKind)
    (mCache : ReportCache Double Single Rest RilData) :
    ReportCache Double Single Rest RilData × Bool :=
  setNmeaString ops memory now (writeSentence k utcTime checksum c)
    (BitVec.ofNat 32 (writeSentence k utcTime checksum c).length) mCache

/-- **Round trip.** Whatever the cache holds, a sentence that is not too long is accepted, and the
latest report that is then read has the content that the sentence was written from, with its masks
capped, which is that content itself exactly if no mask has its highest bit of 64 set.  The reports
of the other kinds stay as they are. -/
theorem getReport_sendSentence (k : DebugKind) (utcTime checksum : List Char)
    (c : NmeaContent Double Single k.toNmeaKind) (hutc : IsField utcTime)
    (hchecksum : ',' ∉ checksum)
    (hlen : (writeSentence k utcTime checksum c).length ≤ debugNmeaMaxsize)
    (ops : FloatOps Double Single) (memory : Memory Single) (now : NmeaKind → ℕ)
    (mCache : ReportCache Double Single Rest RilData) :
    (sendSentence ops memory now k utcTime checksum c mCache).2 = true ∧
      (getReport (sendSentence ops memory now k utcTime checksum c mCache).1 true
        (.nmea k.toNmeaKind)).map (·.content) = [cap k c] ∧
      (cap k c = c ↔ FitsLong k c) ∧
      ∀ k', k' ≠ .nmea k.toNmeaKind →
        (sendSentence ops memory now k utcTime checksum c mCache).1 k' = mCache k' := by
  have hstore : sendSentence ops memory now k utcTime checksum c mCache =
      (storeContent now mCache ⟨k.toNmeaKind, cap k c⟩, true) := by
    rw [sendSentence, setNmeaString, if_pos (locNmeaIsDebug_writeSentence hlen),
      sentenceItems_writeSentence ops memory hutc hchecksum hlen]
    rfl
  rw [hstore]
  refine ⟨rfl, ?_, cap_eq_iff k c, fun k' hne => Function.update_of_ne hne _ _⟩
  obtain ⟨back, hback, hcontent⟩ := getLast?_setNmeaReport (mCache (.nmea k.toNmeaKind))
    ⟨now k.toNmeaKind, now k.toNmeaKind, cap k c⟩
  have hread : back.content = cap k c := by
    rcases hcontent with hsame | hequal
    · exact hsame
    · exact eq_of_nmeaEquals k _ _ hequal
  have hupdate : storeContent now mCache ⟨k.toNmeaKind, cap k c⟩ (.nmea k.toNmeaKind) =
      setNmeaReport (mCache (.nmea k.toNmeaKind))
        ⟨now k.toNmeaKind, now k.toNmeaKind, cap k c⟩ := Function.update_self ..
  simp only [getReport, if_true, hupdate, hback]
  exact congrArg (fun content => [content]) hread

end Latest

/-- A mask of which the highest bit is set is read as another one. -/
theorem getReport_sendSentence_high_bit :
    let ops : FloatOps Unit Unit := ⟨fun _ => (), fun _ => (), fun _ => (), (), ()⟩
    let memory : Memory Unit :=
      ⟨nmeaDefault ops .mInjectedPosition, (nmeaDefault ops .mBestPosition).toPQWP2,
        nmeaDefault ops .mXtra, nmeaDefault ops .mEphemeris, nmeaDefault ops .mSvHealth,
        nmeaDefault ops .mPdr, nmeaDefault ops .mNavData, nmeaDefault ops .mPositionFailure⟩
    let ephemeris : Ephemeris := ⟨0xFFFFFFFF, 0xFFFFFF, 0x1FFFFFFFFF, 0x8000000000000001, 0x1F⟩
    let cache : ReportCache Unit Unit Unit Unit := emptyCache
    (getReport (sendSentence ops memory (fun _ => 0) .mEphemeris ['1', '2'] ['5', 'A'] ephemeris
      cache).1 true (.nmea .mEphemeris)).map (·.content) ≠ [ephemeris] := by
  intro ops memory ephemeris cache heq
  obtain ⟨-, hread, hiff, -⟩ := getReport_sendSentence .mEphemeris ['1', '2'] ['5', 'A'] ephemeris
    ⟨by decide, by decide⟩ (by decide) (by decide +kernel) ops memory (fun _ => 0) cache
  have hcap := (List.cons.inj (hread.symm.trans heq)).1
  exact absurd (hiff.mp hcap).2 (by decide)

end SystemStatus
end LocHal
