import LocHal.Core.ReportCache

/-!
# Debug sentences in the report cache (`gps/core/SystemStatus.cpp`)

`setNmeaString` stores whatever the parser of a sentence holds, and a parser that finds too few
fields has no way to say so.  A malformed sentence therefore leaves the cache as it is only by
accident: when what cleared or uninitialised memory holds is taken for no change, at the very time
that the latest report already bears.
-/

namespace LocHal
namespace SystemStatus

variable {Double Single Rest RilData : Type}

/-- `strlcpy` into a buffer of `size` bytes. -/
def strlcpy (size : ℕ) (src : List Char) : List Char := src.take (size - 1)

section SetNmeaString

variable [BEq Double] [BEq Single] (ops : FloatOps Double Single) (memory : Memory Single)
  (now : NmeaKind → ℕ)

/-- `setIteminReport` of the item that is made now with a content. -/
def storeContent (mCache : ReportCache Double Single Rest RilData)
    (item : Σ k, NmeaContent Double Single k) : ReportCache Double Single Rest RilData :=
  Function.update mCache (.nmea item.1)
    (setReport (.nmea item.1) (mCache (.nmea item.1)) ⟨now item.1, now item.1, item.2⟩)

/-- The reports that a sentence is turned into; the parser reads the copy in `buf`. -/
def sentenceItems (data : List Char) (len : BitVec 32) : List (Σ k, NmeaContent Double Single k) :=
  match Sentence.find? data with
  | some s => s.parse ops memory (mField (strlcpy (debugNmeaMaxsize + 1) data) len)
  | none => []

/-- `setNmeaString`. -/
def setNmeaString (data : List Char) (len : BitVec 32)
    (mCache : ReportCache Double Single Rest RilData) :
    ReportCache Double Single Rest RilData × Bool :=
  if locNmeaIsDebug data len then
    ((sentenceItems ops memory data len).foldl (storeContent now) mCache, true)
  else (mCache, false)

/-- A sentence is stored by calls of `setIteminReport`. -/
theorem setNmeaString_eq_run (data : List Char) (len : BitVec 32)
    (mCache : ReportCache Double Single Rest RilData) (h : locNmeaIsDebug data len = true) :
    (setNmeaString ops memory now data len mCache).1 =
      (cacheMachine ops).run mCache ((sentenceItems ops memory data len).map fun item =>
        .item (.nmea item.1) ⟨now item.1, now item.1, item.2⟩) := by
  rw [setNmeaString, if_pos h]
  generalize sentenceItems ops memory data len = items
  show items.foldl (storeContent now) mCache = _
  induction items generalizing mCache with
  | nil => rfl
  | cons item items ih => exact ih _

end SetNmeaString

/-! ## When a vector stays as it is -/

section Stays

variable {k : NmeaKind}

lemma append_eq_cons_self_iff {α : Type*} (l : List α) (a s : α) :
    l ++ [s] = a :: l ↔ a = s ∧ ∀ r ∈ l, r = s := by
  induction l generalizing a with
  | nil => simp [eq_comm]
  | cons b l ih =>
      rw [List.cons_append, List.cons_eq_cons, ih, List.forall_mem_cons]
      constructor
      · rintro ⟨rfl, hb, hl⟩
        exact ⟨hb, hb, hl⟩
      · rintro ⟨ha, hb, hl⟩
        exact ⟨hb.trans ha.symm, hb, hl⟩

lemma pushNmeaReport_eq_self_iff (report : List (NmeaReport Double Single k))
    (s : NmeaReport Double Single k) :
    pushNmeaReport report s = report ↔ maxItem ≤ report.length ∧ ∀ r ∈ report, r = s := by
  rw [pushNmeaReport, List.length_append, List.length_singleton]
  by_cases hfull : maxItem ≤ report.length
  · rw [if_pos (by omega), and_iff_right hfull]
    cases report with
    | nil => exact absurd hfull (Nat.not_succ_le_zero _)
    | cons a l =>
        rw [List.cons_append, List.tail_cons, append_eq_cons_self_iff, List.forall_mem_cons]
  · rw [if_neg (by omega)]
    refine iff_of_false (fun h => ?_) fun h => hfull h.1
    have hlength := congrArg List.length h
    rw [List.length_append, List.length_singleton] at hlength
    omega

variable [BEq Double] [BEq Single]

/-- Storing a report leaves the vector as it is: the latest report is found equal and bears its
time already, or the vector is full of this very report, which is not found equal to itself. -/
def Stays (report : List (NmeaReport Double Single k)) (s : NmeaReport Double Single k) : Prop :=
  (∃ back, report.getLast? = some back ∧ nmeaEquals k back.content s.content = true ∧
      back.mUtcReported = s.mUtcReported) ∨
    (maxItem ≤ report.length ∧ (∀ r ∈ report, r = s) ∧
      nmeaEquals k s.content s.content = false)

lemma setNmeaReport_eq_self_iff (report : List (NmeaReport Double Single k))
    (s : NmeaReport Double Single k) : setNmeaReport report s = report ↔ Stays report s := by
  rcases List.eq_nil_or_concat report with rfl | ⟨init, back, rfl⟩
  · refine iff_of_false (fun h => ?_) ?_
    · cases h
    · rintro (⟨back, hback, -⟩ | ⟨hfull, -⟩)
      · cases hback
      · exact absurd hfull (Nat.not_succ_le_zero _)
  · rw [List.concat_eq_append]
    have hlast : (init ++ [back]).getLast? = some back := List.getLast?_concat
    simp only [setNmeaReport, hlast, Stays, Option.some.injEq]
    cases hequals : nmeaEquals k back.content s.content with
    | true =>
        rw [if_pos rfl, List.dropLast_concat, List.append_cancel_left_eq, List.cons_eq_cons]
        constructor
        · rintro ⟨hback, -⟩
          exact Or.inl ⟨back, rfl, hequals, (congrArg NmeaReport.mUtcReported hback).symm⟩
        · rintro (⟨back', rfl, -, htime⟩ | ⟨-, hall, hself⟩)
          · rw [← htime]
            exact ⟨rfl, rfl⟩
          · have hback := hall back (List.mem_append_right _ (List.mem_singleton_self back))
            rw [hback, hself] at hequals
            cases hequals
    | false =>
        rw [if_neg Bool.false_ne_true, pushNmeaReport_eq_self_iff]
        constructor
        · rintro ⟨hfull, hall⟩
          have hback := hall back (List.mem_append_right _ (List.mem_singleton_self back))
          rw [hback] at hequals
          exact Or.inr ⟨hfull, hall, hequals⟩
        · rintro (⟨back', rfl, htrue, -⟩ | ⟨hfull, hall, -⟩)
          · rw [hequals] at htrue
            cases htrue
          · exact ⟨hfull, hall⟩

end Stays

/-! ## Malformed sentences -/

section Malformed

variable [BEq Double] [BEq Single] (ops : FloatOps Double Single) (memory : Memory Single)
  (now : NmeaKind → ℕ) (mCache : ReportCache Double Single Rest RilData)

/-- A sentence without the marker of the checksum, or with fewer fields before it than its type
needs. -/
def Malformed (data : List Char) : Prop :=
  '*' ∉ data ∨ ∃ s, Sentence.find? data = some s ∧
    ((data.takeWhile (· != '*')).splitOn ',').length < s.required

lemma foldl_storeContent_of_notMem {k : NmeaKind}
    (items : List (Σ k, NmeaContent Double Single k)) (h : k ∉ items.map Sigma.fst) :
    items.foldl (storeContent now) mCache (.nmea k) = mCache (.nmea k) := by
  induction items generalizing mCache with
  | nil => rfl
  | cons item items ih =>
      rw [List.map_cons, List.mem_cons, not_or] at h
      have hne : ReportKind.nmea k ≠ .nmea item.1 := fun heq => h.1 (ReportKind.nmea.inj heq)
      rw [List.foldl_cons, ih _ h.2, storeContent, Function.update_of_ne hne]

/-- Each report of a sentence must leave its own vector as it is. -/
lemma foldl_storeContent_eq_self_iff (items : List (Σ k, NmeaContent Double Single k))
    (hnodup : (items.map Sigma.fst).Nodup) :
    items.foldl (storeContent now) mCache = mCache ↔
      ∀ item ∈ items, Stays (mCache (.nmea item.1)) ⟨now item.1, now item.1, item.2⟩ := by
  induction items generalizing mCache with
  | nil => simp
  | cons item items ih =>
      rw [List.map_cons, List.nodup_cons] at hnodup
      have hstays : storeContent now mCache item = mCache ↔
          Stays (mCache (.nmea item.1)) ⟨now item.1, now item.1, item.2⟩ := by
        rw [← setNmeaReport_eq_self_iff]
        exact Function.update_eq_self_iff
      rw [List.foldl_cons, List.forall_mem_cons]
      constructor
      · intro hfold
        have hitem := congrFun hfold (.nmea item.1)
        rw [foldl_storeContent_of_notMem now _ _ hnodup.1, storeContent,
          Function.update_self] at hitem
        have hfirst := (setNmeaReport_eq_self_iff _ _).mp hitem
        rw [hstays.mpr hfirst] at hfold
        exact ⟨hfirst, (ih mCache hnodup.2).mp hfold⟩
      · rintro ⟨hfirst, hrest⟩
        rw [hstays.mpr hfirst]
        exact (ih mCache hnodup.2).mpr hrest

lemma Sentence.required_pos (s : Sentence) : 0 < s.required := by
  cases s with
  | _ => exact Nat.succ_pos _

/-- Where no comma stands behind the marker, the parser of a malformed sentence finds too few
fields. -/
lemma length_mField_lt {data : List Char} {s : Sentence} (hfind : Sentence.find? data = some s)
    (len : BitVec 32) (hmalformed : Malformed data)
    (hcomma : ',' ∉ data.dropWhile (· != '*')) :
    (mField (strlcpy (debugNmeaMaxsize + 1) data) len).length < s.required := by
  obtain ⟨rest, hdata⟩ : strlcpy (debugNmeaMaxsize + 1) data <+: data := List.take_prefix _ _
  generalize strlcpy (debugNmeaMaxsize + 1) data = buf at hdata
  have hpos := s.required_pos
  by_cases hstar : '*' ∈ buf
  · cases hdebug : locNmeaIsDebug buf len with
    | false =>
        rw [mField, if_neg (by rw [hdebug]; exact Bool.false_ne_true)]
        exact hpos
    | true =>
        obtain ⟨before, after, rfl, hbefore⟩ := List.eq_append_cons_of_mem hstar
        rw [List.append_assoc, List.cons_append] at hdata
        subst hdata
        rw [dropWhile_bne_append_cons hbefore] at hcomma
        have hafter : ',' ∉ after := fun hmem =>
          hcomma (List.mem_cons_of_mem _ (List.mem_append_left _ hmem))
        rw [((mField_eq_iff _ len hdebug).2 before after rfl hbefore).mpr hafter]
        rcases hmalformed with hno | ⟨s', hfind', hshort⟩
        · exact absurd (List.mem_append_right _ List.mem_cons_self) hno
        · cases hfind.symm.trans hfind'
          rwa [takeWhile_bne_append_cons hbefore] at hshort
  · rw [mField_of_notMem hstar]
    exact hpos

/-- **Malformed debug sentences.**  A malformed sentence leaves every vector as it is if and only if
what is stored in its place changes no vector, and where no comma stands behind the marker that is
what cleared or uninitialised memory holds. -/
theorem setNmeaString_eq_self_iff (data : List Char) (len : BitVec 32)
    (hdebug : locNmeaIsDebug data len = true) (hmalformed : Malformed data) :
    ((setNmeaString ops memory now data len mCache).1 = mCache ↔
      ∀ item ∈ sentenceItems ops memory data len,
        Stays (mCache (.nmea item.1)) ⟨now item.1, now item.1, item.2⟩) ∧
      (',' ∉ data.dropWhile (· != '*') → sentenceItems ops memory data len =
        (Sentence.find? data).elim [] fun s => s.parse ops memory []) := by
  constructor
  · rw [setNmeaString, if_pos hdebug]
    refine foldl_storeContent_eq_self_iff now mCache _ ?_
    rw [sentenceItems]
    cases Sentence.find? data with
    | none => exact List.nodup_nil
    | some s => exact s.nodup_parse ops memory _
  · intro hcomma
    rw [sentenceItems]
    cases hfind : Sentence.find? data with
    | none => rfl
    | some s => exact Sentence.parse_of_lt ops memory (length_mField_lt hfind len hmalformed hcomma)

end Malformed

/-- Memory that happens to be zero. -/
def zeroMemory : Memory ℤ :=
  ⟨nmeaDefault intOps .mInjectedPosition, (nmeaDefault intOps .mBestPosition).toPQWP2,
    nmeaDefault intOps .mXtra, nmeaDefault intOps .mEphemeris, nmeaDefault intOps .mSvHealth,
    nmeaDefault intOps .mPdr, nmeaDefault intOps .mNavData, nmeaDefault intOps .mPositionFailure⟩

/-- `$PQWP6,1` has no marker; the zero that is stored for it is already there. -/
theorem setNmeaString_eq_self_pdr :
    let mCache : ReportCache ℤ ℤ Unit Unit :=
      Function.update emptyCache (.nmea .mPdr) [⟨0, 1, 0#32⟩]
    (setNmeaString intOps zeroMemory (fun _ => 1) "$PQWP6,1".toList 8 mCache).1 = mCache := by
  refine ((setNmeaString_eq_self_iff intOps zeroMemory (fun _ => 1) _ "$PQWP6,1".toList 8
    (by decide) (Or.inl (by decide))).1).mpr ?_
  intro item hitem
  have hpdr : item = ⟨.mPdr, (0#32 : BitVec 32)⟩ := List.mem_singleton.mp hitem
  subst hpdr
  exact Or.inl ⟨⟨0, 1, 0#32⟩, by rw [Function.update_self]; rfl, rfl, rfl⟩

/-- `$PQWM1,1` has no marker, and a time of zeros enters the empty cache. -/
theorem zeros_enter_cache :
    ¬ ∀ (mCache : ReportCache ℤ ℤ Unit Unit) (data : List Char) (len : BitVec 32),
      locNmeaIsDebug data len = true → Malformed data →
      (setNmeaString intOps zeroMemory (fun _ => 1) data len mCache).1 = mCache := by
  intro h
  have hsame := congrFun
    (h emptyCache "$PQWM1,1".toList 8 (by decide) (Or.inl (by decide))) (.nmea .mTimeAndClock)
  have hstored : (setNmeaString intOps zeroMemory (fun _ => 1) "$PQWM1,1".toList 8
      (emptyCache : ReportCache ℤ ℤ Unit Unit)).1 (.nmea .mTimeAndClock) =
      [⟨1, 1, ⟨0, 0, 0, 0, 0, 0, 0, 0, 0⟩⟩] := rfl
  rw [hstored] at hsame
  cases hsame

end SystemStatus
end LocHal
