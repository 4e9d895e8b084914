import Mathlib.Data.BitVec
import Mathlib.Data.List.Forall2
import Mathlib.Tactic.SplitIfs

/-!
# The satellites used in a fix (`gps/gnss/GnssAdapter.cpp`)

A position report leaves a 64-bit mask of used satellites for each of five constellations, and the
next satellite report is to flag its satellites by them.  The bit of a satellite is tested with
`1 << (gnssSvId - 1)`, whose type is `int`: at id 32 the constant is negative and fills the upper
half of the mask when it is widened, and above id 32 the language leaves the shift undefined.  What
it yields there is a parameter.  The flag is only ever set.
-/

namespace LocHal

/-- `GnssSvType`. -/
inductive GnssSvType where
  | unknown
  | gps
  | sbas
  | glonass
  | qzss
  | beidou
  | galileo
deriving DecidableEq, Repr

/-- `GnssSv`, without the measurements that are passed on as they are. -/
structure GnssSv where
  svId : BitVec 16
  type : GnssSvType
  gnssSvOptionsMask : BitVec 16
deriving DecidableEq, Repr

/-- `GNSS_SV_OPTIONS_USED_IN_FIX_BIT`. -/
def usedInFixBit : BitVec 16 := 1 <<< 2

/-- `QZSS_SV_PRN_MIN`. -/
def qzssSvPrnMin : BitVec 16 := 193

/-- `GnssSvUsedInPosition`. -/
structure GnssSvUsedInPosition where
  gps_sv_used_ids_mask : BitVec 64
  glo_sv_used_ids_mask : BitVec 64
  gal_sv_used_ids_mask : BitVec 64
  bds_sv_used_ids_mask : BitVec 64
  qzss_sv_used_ids_mask : BitVec 64
deriving DecidableEq, Repr

namespace GnssSv

/-- The satellite is flagged as used in the fix. -/
def UsedInFix (sv : GnssSv) : Prop := sv.gnssSvOptionsMask &&& usedInFixBit ≠ 0

instance (sv : GnssSv) : Decidable sv.UsedInFix := inferInstanceAs (Decidable (_ ≠ _))

end GnssSv

namespace SvReport

variable {Client : Type*}

/-- What `reportSv` reads of the adapter; `gnssSvCbs` are the clients with a `gnssSvCb`, and
`generatesNmea` says that the sentences are generated here and a session is tracking. -/
structure SvState (Client : Type*) where
  mGnssSvIdUsedInPosition : GnssSvUsedInPosition
  mGnssSvIdUsedInPosAvail : Bool
  gnssSvCbs : List Client
  generatesNmea : Bool

/-- What `reportSv` calls: the callback of a client, or `loc_nmea_generate_sv`. -/
inductive SvOutput (Client : Type*) where
  | gnssSvCb (client : Client) (gnssSvs : List GnssSv)
  | generateSv (gnssSvs : List GnssSv)

/-- The mask of a constellation. -/
def usedIdsMask (used : GnssSvUsedInPosition) : GnssSvType → BitVec 64
  | .gps => used.gps_sv_used_ids_mask
  | .glonass => used.glo_sv_used_ids_mask
  | .beidou => used.bds_sv_used_ids_mask
  | .galileo => used.gal_sv_used_ids_mask
  | .qzss => used.qzss_sv_used_ids_mask
  | .unknown | .sbas => 0

/-- `1 << k` on `int`, with what it yields where the language does not say. -/
def shiftedOne (undefinedShift : ℤ → BitVec 32) (k : ℤ) : BitVec 32 :=
  if 0 ≤ k ∧ k < 32 then 1 <<< k.toNat else undefinedShift k

/-- The body of the loop of `reportSv`. -/
def reportOne (undefinedShift : ℤ → BitVec 32) (a : SvState Client) (sv : GnssSv) : GnssSv :=
  let gnssSvId := sv.svId.toInt
  let svUsedIdMask :=
    if a.mGnssSvIdUsedInPosAvail then usedIdsMask a.mGnssSvIdUsedInPosition sv.type else 0
  let svId := if sv.type = .qzss then sv.svId + (qzssSvPrnMin - 1) else sv.svId
  if svUsedIdMask &&& (shiftedOne undefinedShift (gnssSvId - 1)).signExtend 64 ≠ 0 then
    { sv with svId := svId, gnssSvOptionsMask := sv.gnssSvOptionsMask ||| usedInFixBit }
  else { sv with svId := svId }

/-- `reportSv`, on the first `count` entries of the notification: the adapter, the entries, and what
is called with them. -/
def reportSv (undefinedShift : ℤ → BitVec 32) (a : SvState Client) (gnssSvs : List GnssSv) :
    SvState Client × List GnssSv × List (SvOutput Client) :=
  let reported := gnssSvs.map (reportOne undefinedShift a)
  ({ a with mGnssSvIdUsedInPosAvail := false }, reported,
    a.gnssSvCbs.map (SvOutput.gnssSvCb · reported) ++
      if a.generatesNmea then [.generateSv reported] else [])

/-! ## The bit that is tested -/

section Bits

variable {mask : BitVec 64} {undefinedShift : ℤ → BitVec 32}

lemma ne_zero_iff_exists_bit (x : BitVec 64) : x ≠ 0 ↔ ∃ j, x.getLsbD j = true := by
  constructor
  · intro hne
    by_contra hnone
    push Not at hnone
    refine hne (BitVec.eq_of_getLsbD_eq fun j _ => ?_)
    exact (Bool.eq_false_iff.2 (hnone j)).trans BitVec.getLsbD_zero.symm
  · rintro ⟨j, hj⟩ rfl
    exact Bool.false_ne_true (BitVec.getLsbD_zero.symm.trans hj)

lemma shiftedOne_of_lt {k : ℕ} (hk : k < 32) : shiftedOne undefinedShift k = 1 <<< k := by
  rw [shiftedOne, if_pos ⟨Int.natCast_nonneg k, by omega⟩, Int.toNat_natCast]

lemma shiftedOne_of_le {k : ℕ} (hk : 32 ≤ k) : shiftedOne undefinedShift k = undefinedShift k := by
  rw [shiftedOne, if_neg (by omega)]

lemma getLsbD_one_shiftLeft (k j : ℕ) :
    (1#32 <<< k).getLsbD j = true ↔ j < 32 ∧ j = k := by
  simp only [BitVec.getLsbD_shiftLeft, BitVec.getLsbD_one, Bool.and_eq_true, decide_eq_true_eq,
    Bool.not_eq_true', decide_eq_false_iff_not]
  omega

/-- Widened, the constant has the one bit, and from id 32 on the sign above it. -/
lemma getLsbD_signExtend_one_shiftLeft {k : ℕ} (hk : k < 32) (j : ℕ) :
    ((1#32 <<< k).signExtend 64).getLsbD j = true ↔ j < 64 ∧ (j = k ∨ k = 31 ∧ 31 ≤ j) := by
  have hmsb : (1#32 <<< k).msb = true ↔ k = 31 := by
    rw [BitVec.msb_eq_getLsbD_last, getLsbD_one_shiftLeft]
    omega
  rw [BitVec.getLsbD_signExtend, Bool.and_eq_true, decide_eq_true_eq]
  refine and_congr_right fun _ => ?_
  by_cases hj : j < 32
  · rw [if_pos hj, getLsbD_one_shiftLeft]
    omega
  · rw [if_neg hj, hmsb]
    omega

/-- Below id 32 the test is that of the satellite's own bit. -/
lemma test_of_lt {k : ℕ} (hk : k < 31) :
    mask &&& (shiftedOne undefinedShift k).signExtend 64 ≠ 0 ↔ mask.getLsbD k = true := by
  rw [ne_zero_iff_exists_bit, shiftedOne_of_lt (by omega)]
  simp only [BitVec.getLsbD_and, Bool.and_eq_true]
  constructor
  · rintro ⟨j, hmask, hj⟩
    have hjk := (getLsbD_signExtend_one_shiftLeft (by omega) j).1 hj
    rwa [show j = k by omega] at hmask
  · intro hmask
    exact ⟨k, hmask, (getLsbD_signExtend_one_shiftLeft (by omega) k).2 ⟨by omega, Or.inl rfl⟩⟩

/-- At id 32 the test is that of all bits from the satellite's own one on. -/
lemma test_sign :
    mask &&& (shiftedOne undefinedShift 31).signExtend 64 ≠ 0 ↔
      ∃ j, 31 ≤ j ∧ mask.getLsbD j = true := by
  rw [ne_zero_iff_exists_bit]
  have hone : shiftedOne undefinedShift 31 = 1 <<< 31 := rfl
  rw [hone]
  simp only [BitVec.getLsbD_and, Bool.and_eq_true]
  constructor
  · rintro ⟨j, hmask, hj⟩
    have hjk := (getLsbD_signExtend_one_shiftLeft (by omega) j).1 hj
    exact ⟨j, by omega, hmask⟩
  · rintro ⟨j, hj, hmask⟩
    have hlt : j < 64 := BitVec.lt_of_getLsbD hmask
    exact ⟨j, hmask, (getLsbD_signExtend_one_shiftLeft (by omega) j).2 ⟨hlt, Or.inr ⟨rfl, hj⟩⟩⟩

/-- Above id 32 the test may come out as false, and as true unless the mask is empty. -/
lemma test_undefined {k : ℕ} (hk : 32 ≤ k) :
    mask &&& (shiftedOne (fun _ => 0) k).signExtend 64 = 0 ∧
      (mask &&& (shiftedOne (fun _ => -1) k).signExtend 64 ≠ 0 ↔ mask ≠ 0) := by
  rw [shiftedOne_of_le hk, shiftedOne_of_le hk]
  constructor
  · rw [show (0 : BitVec 32).signExtend 64 = 0#64 by decide]
    exact BitVec.and_zero
  · rw [show (-1 : BitVec 32).signExtend 64 = BitVec.allOnes 64 by decide, BitVec.and_allOnes]

end Bits

/-! ## One satellite -/

/-- The constellation has a mask. -/
def HasMask (type : GnssSvType) : Prop :=
  type = .gps ∨ type = .glonass ∨ type = .galileo ∨ type = .beidou ∨ type = .qzss

section One

variable {a : SvState Client} {sv : GnssSv}

/-- The satellite was used in the last position: its bit is set, and the masks are to be used. -/
def SvState.Used (a : SvState Client) (sv : GnssSv) : Prop :=
  a.mGnssSvIdUsedInPosAvail = true ∧
    (usedIdsMask a.mGnssSvIdUsedInPosition sv.type).getLsbD (sv.svId.toNat - 1) = true

/-- The reported satellite is flagged exactly when it was used. -/
def FlaggedRight (a : SvState Client) (sv reported : GnssSv) : Prop :=
  HasMask sv.type → (reported.UsedInFix ↔ a.Used sv)

/-- A satellite that the test can tell: it does not come with a flag that has to be cleared, and if
the masks are to be used, id 32 has no higher bit in its way and a higher id no bit at all, unless
the satellite is to be flagged anyway. -/
def Tellable (a : SvState Client) (sv : GnssSv) : Prop :=
  HasMask sv.type → (sv.UsedInFix → a.Used sv) ∧ (a.mGnssSvIdUsedInPosAvail = true →
    (sv.svId.toNat = 32 → a.Used sv ∨ ∀ j, 32 ≤ j →
      (usedIdsMask a.mGnssSvIdUsedInPosition sv.type).getLsbD j = false) ∧
    (32 < sv.svId.toNat → sv.UsedInFix ∨
      usedIdsMask a.mGnssSvIdUsedInPosition sv.type = 0))

lemma usedInFix_or (sv : GnssSv) (svId : BitVec 16) :
    GnssSv.UsedInFix { sv with
      svId := svId, gnssSvOptionsMask := sv.gnssSvOptionsMask ||| usedInFixBit } := by
  intro hzero
  have hbit := congrArg (BitVec.getLsbD · 2) hzero
  simp [usedInFixBit] at hbit

/-- What the loop leaves of the flag. -/
lemma usedInFix_reportOne {undefinedShift : ℤ → BitVec 32} (h1 : 1 ≤ sv.svId.toNat)
    (h64 : sv.svId.toNat ≤ 64) :
    (reportOne undefinedShift a sv).UsedInFix ↔ sv.UsedInFix ∨
      (a.mGnssSvIdUsedInPosAvail = true ∧ usedIdsMask a.mGnssSvIdUsedInPosition sv.type &&&
        (shiftedOne undefinedShift (sv.svId.toNat - 1 : ℕ)).signExtend 64 ≠ 0) := by
  have hid : sv.svId.toInt - 1 = ((sv.svId.toNat - 1 : ℕ) : ℤ) := by
    rw [BitVec.toInt_eq_toNat_of_lt (by omega)]
    omega
  simp only [reportOne, hid]
  generalize (if sv.type = .qzss then sv.svId + (qzssSvPrnMin - 1) else sv.svId) = svId
  cases a.mGnssSvIdUsedInPosAvail with
  | false => simp [GnssSv.UsedInFix]
  | true =>
      simp only [if_true, true_and]
      by_cases htest : usedIdsMask a.mGnssSvIdUsedInPosition sv.type &&&
          (shiftedOne undefinedShift (sv.svId.toNat - 1 : ℕ)).signExtend 64 ≠ 0
      · rw [if_pos htest]
        exact iff_of_true (usedInFix_or sv _) (Or.inr htest)
      · rw [if_neg htest]
        exact (or_iff_left htest).symm

/-- What the loop does to the flag, with the test as the shift has it. -/
def Tests (a : SvState Client) (sv : GnssSv) (undefinedShift : ℤ → BitVec 32) : Prop :=
  sv.UsedInFix ∨ (a.mGnssSvIdUsedInPosAvail = true ∧
    usedIdsMask a.mGnssSvIdUsedInPosition sv.type &&&
      (shiftedOne undefinedShift (sv.svId.toNat - 1 : ℕ)).signExtend 64 ≠ 0)

lemma tests_right_of_lt (hlt : sv.svId.toNat < 32) :
    (∀ undefinedShift, Tests a sv undefinedShift ↔ a.Used sv) ↔ (sv.UsedInFix → a.Used sv) := by
  have htest : ∀ u, Tests a sv u ↔ sv.UsedInFix ∨ a.Used sv := fun u =>
    or_congr_right (and_congr_right fun _ => test_of_lt (by omega))
  constructor
  · exact fun h hflag => (h fun _ => 0).1 (Or.inl hflag)
  · intro hflag u
    rw [htest]
    exact ⟨fun h => h.elim hflag id, Or.inr⟩

lemma tests_right_of_eq (heq : sv.svId.toNat = 32) :
    (∀ undefinedShift, Tests a sv undefinedShift ↔ a.Used sv) ↔
      (sv.UsedInFix → a.Used sv) ∧ (a.mGnssSvIdUsedInPosAvail = true → a.Used sv ∨ ∀ j, 32 ≤ j →
        (usedIdsMask a.mGnssSvIdUsedInPosition sv.type).getLsbD j = false) := by
  have htest : ∀ u, Tests a sv u ↔ sv.UsedInFix ∨ (a.mGnssSvIdUsedInPosAvail = true ∧
      ∃ j, 31 ≤ j ∧ (usedIdsMask a.mGnssSvIdUsedInPosition sv.type).getLsbD j = true) := by
    intro u
    rw [Tests, heq]
    exact or_congr_right (and_congr_right fun _ => test_sign)
  simp only [htest]
  constructor
  · intro h
    refine ⟨fun hflag => (h fun _ => 0).1 (Or.inl hflag), fun havail => ?_⟩
    by_cases hused : a.Used sv
    · exact Or.inl hused
    · right
      intro j hj
      by_contra hbit
      rw [Bool.not_eq_false] at hbit
      exact hused ((h fun _ => 0).1 (Or.inr ⟨havail, j, by omega, hbit⟩))
  · rintro ⟨hflag, hrest⟩ u
    constructor
    · rintro (h | ⟨havail, j, hj, hbit⟩)
      · exact hflag h
      · rcases hrest havail with hused | hnone
        · exact hused
        · by_cases hj32 : 32 ≤ j
          · rw [hnone j hj32] at hbit
            cases hbit
          · rw [show j = sv.svId.toNat - 1 by omega] at hbit
            exact ⟨havail, hbit⟩
    · rintro ⟨havail, hbit⟩
      exact Or.inr ⟨havail, _, by omega, hbit⟩

lemma tests_right_of_gt (hgt : 32 < sv.svId.toNat) :
    (∀ undefinedShift, Tests a sv undefinedShift ↔ a.Used sv) ↔
      (sv.UsedInFix → a.Used sv) ∧ (a.mGnssSvIdUsedInPosAvail = true →
        sv.UsedInFix ∨ usedIdsMask a.mGnssSvIdUsedInPosition sv.type = 0) := by
  have hk : 32 ≤ sv.svId.toNat - 1 := by omega
  constructor
  · intro h
    refine ⟨fun hflag => (h fun _ => 0).1 (Or.inl hflag), fun havail => ?_⟩
    by_cases hmask : usedIdsMask a.mGnssSvIdUsedInPosition sv.type = 0
    · exact Or.inr hmask
    · left
      -- with all ones the test succeeds, so it was used; with zero only the flag it has is left
      have hused := (h fun _ => -1).1 (Or.inr ⟨havail, (test_undefined hk).2.2 hmask⟩)
      rcases (h fun _ => 0).2 hused with hflag | ⟨-, htest⟩
      · exact hflag
      · exact absurd (test_undefined hk).1 htest
  · rintro ⟨hflag, hrest⟩ u
    constructor
    · rintro (h | ⟨havail, htest⟩)
      · exact hflag h
      · rcases hrest havail with h | hmask
        · exact hflag h
        · rw [hmask] at htest
          exact absurd BitVec.zero_and htest
    · rintro ⟨havail, hbit⟩
      rcases hrest havail with h | hmask
      · exact Or.inl h
      · rw [hmask] at hbit
        exact absurd (BitVec.getLsbD_zero.symm.trans hbit) Bool.false_ne_true

/-- Whatever the undefined shifts yield, the satellite is flagged right exactly when it is one that
the test can tell. -/
lemma flaggedRight_iff (h1 : 1 ≤ sv.svId.toNat) (h64 : sv.svId.toNat ≤ 64) :
    (∀ undefinedShift, FlaggedRight a sv (reportOne undefinedShift a sv)) ↔ Tellable a sv := by
  simp only [FlaggedRight, usedInFix_reportOne h1 h64]
  rw [forall_comm]
  refine forall_congr' fun _ => ?_
  rcases Nat.lt_trichotomy sv.svId.toNat 32 with hlt | heq | hgt
  · refine (tests_right_of_lt hlt).trans (iff_self_and.2 fun _ _ => ?_)
    exact ⟨fun heq => absurd heq hlt.ne, fun hgt => absurd hgt hlt.not_gt⟩
  · refine (tests_right_of_eq heq).trans (and_congr_right fun _ => forall_congr' fun _ => ?_)
    exact ⟨fun h => ⟨fun _ => h, fun hgt => absurd heq hgt.ne'⟩, fun h => h.1 heq⟩
  · refine (tests_right_of_gt hgt).trans (and_congr_right fun _ => forall_congr' fun _ => ?_)
    exact ⟨fun h => ⟨fun heq => absurd heq hgt.ne', fun _ => h⟩, fun h => h.2 hgt⟩

end One

/-! ## The whole report -/

/-- **The flags of a satellite report.**  Whatever the undefined shifts yield, every satellite of a
constellation with a mask is flagged exactly when it was used in the last position, if and only if
all satellites are ones that the test can tell. -/
theorem flagged_right_iff (a : SvState Client) (gnssSvs : List GnssSv)
    (hids : ∀ sv ∈ gnssSvs, 1 ≤ sv.svId.toNat ∧ sv.svId.toNat ≤ 64) :
    (∀ undefinedShift,
        List.Forall₂ (FlaggedRight a) gnssSvs (reportSv undefinedShift a gnssSvs).2.1) ↔
      ∀ sv ∈ gnssSvs, Tellable a sv := by
  simp only [reportSv, List.forall₂_map_right_iff, List.forall₂_same]
  constructor
  · intro h sv hsv
    exact (flaggedRight_iff (hids sv hsv).1 (hids sv hsv).2).1 fun u => h u sv hsv
  · intro h u sv hsv
    exact (flaggedRight_iff (hids sv hsv).1 (hids sv hsv).2).2 (h sv hsv) u

/-- Satellite 3 is used and satellite 7 is not, and neither comes with a flag. -/
theorem flagged_right_of_two :
    List.Forall₂
      (FlaggedRight (⟨⟨4, 0, 0, 0, 0⟩, true, [], false⟩ : SvState ℕ))
      [⟨3, .gps, 0⟩, ⟨7, .gps, 0⟩]
      (reportSv (fun _ => 0) (⟨⟨4, 0, 0, 0, 0⟩, true, [], false⟩ : SvState ℕ)
        [⟨3, .gps, 0⟩, ⟨7, .gps, 0⟩]).2.1 := by
  refine (flagged_right_iff _ _ (by decide)).2 ?_ fun _ => 0
  intro sv hsv
  rcases List.mem_pair.1 hsv with rfl | rfl
  · exact fun _ => ⟨fun hflag => absurd rfl hflag, fun _ => ⟨fun h => absurd h (by decide),
      fun h => absurd h (by decide)⟩⟩
  · exact fun _ => ⟨fun hflag => absurd rfl hflag, fun _ => ⟨fun h => absurd h (by decide),
      fun h => absurd h (by decide)⟩⟩

/-- A flag that a satellite comes with is not cleared when there is no position to flag it by. -/
theorem stale_flag_kept :
    ¬ ∀ undefinedShift, List.Forall₂
      (FlaggedRight (⟨⟨0, 0, 0, 0, 0⟩, false, [], false⟩ : SvState ℕ)) [⟨1, .gps, 4⟩]
      (reportSv undefinedShift (⟨⟨0, 0, 0, 0, 0⟩, false, [], false⟩ : SvState ℕ)
        [⟨1, .gps, 4⟩]).2.1 := by
  intro h
  have hright := (List.forall₂_cons.1 (h fun _ => 0)).1 (Or.inl rfl)
  have hflag : (4 : BitVec 16) &&& usedInFixBit ≠ 0 := by decide
  exact absurd (hright.1 hflag).1 Bool.false_ne_true

end SvReport

end LocHal
