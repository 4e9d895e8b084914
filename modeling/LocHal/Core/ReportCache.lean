import LocHal.Core.NmeaReports
import LocHal.Core.SystemStatus
import LocHal.Lib.BoundedLog
import LocHal.Lib.Machine

/-!
# The whole report cache (`gps/core/SystemStatus.cpp`)

All vectors of `SystemStatusReports`: those that are filled from positions and data items, and
those that are filled from debug sentences.  The templates `setIteminReport` and
`setDefaultIteminReport` treat all of them alike, as logs of at most `maxItem` entries that skip an
event which `equals` finds equal to the latest one; only the reports of the network information are
changed by `collate` before.

`cache_eq_kept` gives the vectors in closed form after any run.
-/

namespace LocHal
namespace SystemStatus

variable {Double Single Rest RilData : Type}

/-! ## The vectors -/

/-- A report made from a debug sentence, with the timestamps of `SystemStatusItemBase`. -/
structure NmeaReport (Double Single : Type) (k : NmeaKind) where
  mUtcTime : ℕ
  mUtcReported : ℕ
  content : NmeaContent Double Single k

section Nmea

variable {k : NmeaKind}

/-- `push_back`, and `erase` of the first report where they are too many. -/
def pushNmeaReport (report : List (NmeaReport Double Single k)) (s : NmeaReport Double Single k) :
    List (NmeaReport Double Single k) :=
  if (report ++ [s]).length > maxItem then (report ++ [s]).tail else report ++ [s]

/-- `setIteminReport` for these reports, which have the `collate` of the base class. -/
def setNmeaReport [BEq Double] [BEq Single] (report : List (NmeaReport Double Single k))
    (s : NmeaReport Double Single k) : List (NmeaReport Double Single k) :=
  match report.getLast? with
  | none => pushNmeaReport report s
  | some back =>
      if nmeaEquals k back.content s.content then
        report.dropLast ++ [{ back with mUtcReported := s.mUtcReported }]
      else pushNmeaReport report s

end Nmea

/-- All kinds of reports. -/
inductive ReportKind where
  | item (k : Kind)
  | nmea (k : NmeaKind)
deriving DecidableEq, Repr

section Cached

variable (Double Single Rest RilData)

/-- A report of any kind. -/
abbrev CachedReport : ReportKind → Type
  | .item k => Report Double Rest RilData k
  | .nmea k => NmeaReport Double Single k

/-- `SystemStatusReports`, each vector with its oldest report first. -/
abbrev ReportCache := ∀ k, List (CachedReport Double Single Rest RilData k)

end Cached

/-- `setIteminReport`. -/
def setReport [BEq Double] [BEq Single] :
    ∀ k, List (CachedReport Double Single Rest RilData k) →
      CachedReport Double Single Rest RilData k → List (CachedReport Double Single Rest RilData k)
  | .item _, report, s => (setIteminReport report s).report
  | .nmea _, report, s => setNmeaReport report s

/-- `setDefaultIteminReport`. -/
def setDefaultReport :
    ∀ k, List (CachedReport Double Single Rest RilData k) →
      CachedReport Double Single Rest RilData k → List (CachedReport Double Single Rest RilData k)
  | .item _, report, s => pushReport report s
  | .nmea _, report, s => pushNmeaReport report s

/-- What the copy constructor makes of a report. -/
def copyOf : ∀ k, CachedReport Double Single Rest RilData k →
    CachedReport Double Single Rest RilData k
  | .item k, s => { s with content := copied k s.content }
  | .nmea _, s => s

/-- What the constructors do not set themselves when the default reports are made: the times that
the clock shows, and the `mLocation` of a `SystemStatusLocation`. -/
structure DefaultArgs (Double Rest : Type) where
  now : ReportKind → ℕ
  mLocation : Position Double Rest

/-- The default report of each kind that gets one. -/
def defaultReport (ops : FloatOps Double Single) (args : DefaultArgs Double Rest) :
    ∀ k, Option (CachedReport Double Single Rest RilData k)
  | .item .mLocation =>
      some ⟨args.now (.item .mLocation), args.now (.item .mLocation), ⟨false, args.mLocation⟩⟩
  | .item _ => none
  | .nmea k => some ⟨args.now (.nmea k), args.now (.nmea k), nmeaDefault ops k⟩

/-- `setDefaultGnssEngineStates`. -/
def setDefaultGnssEngineStates (ops : FloatOps Double Single) (args : DefaultArgs Double Rest)
    (mCache : ReportCache Double Single Rest RilData) : ReportCache Double Single Rest RilData :=
  fun k => match defaultReport ops args k with
    | some s => setDefaultReport k (mCache k) s
    | none => mCache k

/-- `getReport`. -/
def getReport (mCache : ReportCache Double Single Rest RilData) (isLatestOnly : Bool) :
    ReportCache Double Single Rest RilData :=
  fun k =>
    if isLatestOnly then
      match (mCache k).getLast? with
      | some back => [copyOf k back]
      | none => []
    else (mCache k).map (copyOf k)

/-- A call of `setIteminReport` with an item, or of `setDefaultGnssEngineStates`. -/
inductive CacheEvent (Double Single Rest RilData : Type) where
  | item (k : ReportKind) (s : CachedReport Double Single Rest RilData k)
  | setDefaultGnssEngineStates (args : DefaultArgs Double Rest)

/-- The cache as a machine. -/
def cacheMachine [BEq Double] [BEq Single] (ops : FloatOps Double Single) :
    Machine (ReportCache Double Single Rest RilData) (CacheEvent Double Single Rest RilData)
      Empty where
  step mCache
    | .item k s => (Function.update mCache k (setReport k (mCache k) s), [])
    | .setDefaultGnssEngineStates args => (setDefaultGnssEngineStates ops args mCache, [])

/-- The cache of a new `SystemStatus`. -/
def emptyCache : ReportCache Double Single Rest RilData := fun _ => []

/-! ## The vectors as bounded logs -/

/-- How a vector treats its reports: `equals` compares, the timestamp is refreshed, and what is
stored is a copy. -/
def reportRules [BEq Double] [BEq Single] :
    ∀ k, LogRules (CachedReport Double Single Rest RilData k)
  | .item k =>
      { same := fun back s => equals k back.content s.content
        refresh := fun back s => { back with mUtcReported := s.mUtcReported }
        copy := copyOf (.item k) }
  | .nmea k =>
      { same := fun back s => nmeaEquals k back.content s.content
        refresh := fun back s => { back with mUtcReported := s.mUtcReported }
        copy := copyOf (.nmea k) }

section Rules

variable {k : ReportKind}

lemma copied_copied {k : Kind} (c : Content Double Rest RilData k) :
    copied k (copied k c) = copied k c := by
  cases k with
  | mRilServiceInfo => rfl
  | mRilCellInfo => rfl
  | _ => rfl

lemma copyOf_copyOf (k : ReportKind) (s : CachedReport Double Single Rest RilData k) :
    copyOf k (copyOf k s) = copyOf k s := by
  cases k with
  | item k =>
      show ({ s with content := copied k (copied k s.content) } : Report Double Rest RilData k) = _
      rw [copied_copied]
      rfl
  | nmea k => rfl

lemma setDefaultReport_eq [BEq Double] [BEq Single]
    (report : List (CachedReport Double Single Rest RilData k))
    (s : CachedReport Double Single Rest RilData k) :
    setDefaultReport k report s = (reportRules k).keepBounded maxItem report (.forced s) := by
  cases k with
  | item k => rfl
  | nmea k => rfl

/-- Without a `collate` of its own a kind is treated as its rules say. -/
lemma setReport_eq [BEq Double] [BEq Single] (hk : k ≠ .item .mNetworkInfo)
    (report : List (CachedReport Double Single Rest RilData k))
    (s : CachedReport Double Single Rest RilData k) :
    setReport k report s = (reportRules k).keepBounded maxItem report (.offered s) := by
  cases k with
  | item k =>
      have hk' : k ≠ .mNetworkInfo := fun heq => hk (congrArg ReportKind.item heq)
      simp only [setReport, setIteminReport, LogRules.keepBounded]
      cases hlast : report.getLast? with
      | none => rfl
      | some back =>
          simp only [collate_eq_self hk']
          by_cases hequals : equals k back.content s.content = true
          · rw [if_pos hequals]
            exact (if_pos hequals).symm
          · rw [if_neg hequals]
            exact (if_neg hequals).symm
  | nmea k =>
      simp only [setReport, setNmeaReport, LogRules.keepBounded]
      cases report.getLast? with
      | none => rfl
      | some back => rfl

end Rules

/-! ## Runs -/

section Runs

variable [BEq Double] [BEq Single] (ops : FloatOps Double Single)

/-- What an event brings to the vector of a kind. -/
def arrival (k : ReportKind) :
    CacheEvent Double Single Rest RilData →
      Option (Arrival (CachedReport Double Single Rest RilData k))
  | .item k' s => if h : k' = k then some (.offered (h ▸ s)) else none
  | .setDefaultGnssEngineStates args => (defaultReport ops args k).map .forced

/-- The sequence that the events of a kind and the defaults leave when nothing is ever dropped. -/
def kept (k : ReportKind) (events : List (CacheEvent Double Single Rest RilData)) :
    List (CachedReport Double Single Rest RilData k) :=
  (events.filterMap (arrival ops k)).foldl (reportRules k).keep []

variable {k : ReportKind}

lemma cacheMachine_next (hk : k ≠ .item .mNetworkInfo)
    (mCache : ReportCache Double Single Rest RilData) (e : CacheEvent Double Single Rest RilData) :
    (cacheMachine ops).next mCache e k =
      (arrival ops k e).elim (mCache k) ((reportRules k).keepBounded maxItem (mCache k)) := by
  cases e with
  | item k' s =>
      simp only [Machine.next, cacheMachine, arrival]
      by_cases hkk : k' = k
      · subst hkk
        rw [Function.update_self, dif_pos rfl]
        exact setReport_eq hk _ s
      · rw [Function.update_of_ne (Ne.symm hkk), dif_neg hkk]
        rfl
  | setDefaultGnssEngineStates args =>
      simp only [Machine.next, cacheMachine, arrival, setDefaultGnssEngineStates]
      cases (defaultReport ops args k : Option (CachedReport Double Single Rest RilData k)) with
      | none => rfl
      | some s => exact setDefaultReport_eq _ s

lemma cacheMachine_run (hk : k ≠ .item .mNetworkInfo)
    (mCache : ReportCache Double Single Rest RilData)
    (events : List (CacheEvent Double Single Rest RilData)) :
    (cacheMachine ops).run mCache events k =
      (events.filterMap (arrival ops k)).foldl ((reportRules k).keepBounded maxItem)
        (mCache k) := by
  induction events generalizing mCache with
  | nil => rfl
  | cons e events ih =>
      rw [Machine.run_cons, ih, cacheMachine_next ops hk]
      cases harrival : arrival ops k e with
      | none => rw [List.filterMap_cons_none harrival, Option.elim_none]
      | some a => rw [List.filterMap_cons_some harrival, List.foldl_cons, Option.elim_some]

lemma copyOf_of_mem_kept (events : List (CacheEvent Double Single Rest RilData)) :
    ∀ s ∈ kept ops k events, copyOf k s = s := by
  cases k with
  | item k =>
      refine LogRules.copy_of_mem_foldl_keep (R := reportRules (.item k)) (copyOf_copyOf (.item k))
        ?_ _
      intro back s hback
      have hcontent : copied k back.content = back.content := congrArg Report.content hback
      show ({ back with
        mUtcReported := s.mUtcReported, content := copied k back.content } : Report _ _ _ k) = _
      rw [hcontent]
      rfl
  | nmea k => exact fun s _ => rfl

end Runs

/-- Numbers in place of floating point. -/
def intOps : FloatOps ℤ ℤ := ⟨strtol 10, id, BitVec.toInt, 0, 0⟩

/-- The items that a position or a data item is turned into. -/
def itemEvents (Single : Type) (setPeerData : Option RilData → Option RilData) (now : ℕ)
    (event : Event Double Rest RilData) : List (CacheEvent Double Single Rest RilData) :=
  match event.report? with
  | some ⟨k, c⟩ => [.item (.item k) ⟨now, now, constructed setPeerData k c⟩]
  | none => []

/-- `eventPosition` and `eventDataItemNotify` do to the cache what their items do. -/
theorem proc_eq_run [BEq Double] [BEq Single] (ops : FloatOps Double Single)
    (setPeerData : Option RilData → Option RilData) (now : ℕ) (event : Event Double Rest RilData)
    (mCache : ReportCache Double Single Rest RilData) (k : Kind) :
    (event.proc setPeerData now fun k => mCache (.item k)).1 k =
      (cacheMachine ops).run mCache (itemEvents Single setPeerData now event) (.item k) := by
  have hupdate : ∀ k' (s : Report Double Rest RilData k'),
      Function.update (fun k => mCache (.item k)) k' (setIteminReport (mCache (.item k')) s).report
        k = Function.update mCache (.item k') (setReport (.item k') (mCache (.item k')) s)
          (.item k) := by
    intro k' s
    by_cases hk : k = k'
    · subst hk
      rw [Function.update_self, Function.update_self]
      rfl
    · have hne : ReportKind.item k ≠ .item k' := fun heq => hk (ReportKind.item.inj heq)
      rw [Function.update_of_ne hk, Function.update_of_ne hne]
  cases event with
  | position location => exact hupdate .mLocation _
  | dataItem dataitem =>
      simp only [Event.proc, eventDataItemNotify, itemEvents, Event.report?]
      cases dataitem.report? with
      | none => rfl
      | some r => exact hupdate r.1 _

end SystemStatus
end LocHal
