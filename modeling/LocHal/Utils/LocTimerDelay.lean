import LocHal.Utils.LocTimerExpiry

/-!
# Delays and deadlines (`gps/utils/LocTimer.cpp`)

`loc_timer_start` takes its delay as a `uint64_t`, and passes it on to `LocTimer::start`, which
takes an `unsigned int`: of a delay from 2^32 milliseconds on, a little less than fifty days, only
the rest is left.  What the rest of the code computes from the shortened delay is exact, and such
deadlines are so close to each other that `ranks` loses nothing when it narrows their difference to
an `int`.
-/

namespace LocHal

/-- `LocTimerWrapper`, with the `mTimer` of the `LocTimer` that it is. -/
structure LocTimerWrapper where
  mCb : ℕ
  mCallerData : ℕ
  mTimer : Option LocTimerDelegate
deriving DecidableEq, Repr

/-- The delegate that `LocTimer::start` makes for a client whose timer is not running. -/
def startDelegate (address client : ℕ) (now : Timespec) (timeOutInMs : UInt32) :
    LocTimerDelegate :=
  ⟨address, some client, .futureTime now timeOutInMs⟩

/-- `loc_timer_start`, when the clock reads `now`; `hasContainer` says that `LocTimerContainer::get`
finds or makes a container, and `address` and `client` are where the two new objects are. -/
def locTimerStart (now : Timespec) (hasContainer : Bool) (address client : ℕ) (msec : UInt64)
    (cb_func : Option ℕ) (caller_data : ℕ) : Option LocTimerWrapper :=
  cb_func.map fun cb =>
    ⟨cb, caller_data,
      if hasContainer then some (startDelegate address client now msec.toUInt32) else none⟩

/-- The container's `start` makes the same delegate. -/
lemma LocTimerContainer.mTimer_start_self (s : LocTimerContainer) {client : ℕ}
    (hnone : s.mTimer client = none) (timeOutInMs : UInt32) :
    (s.start client timeOutInMs).mTimer client =
      some (startDelegate s.nextAddress client (.gettime s.clock) timeOutInMs) := by
  rw [LocTimerContainer.start, if_pos hnone]
  exact if_pos rfl

/-! ## The deadline -/

lemma nanos_startDelegate (address client : ℕ) (now : Timespec) (msec : UInt64) :
    (startDelegate address client now msec.toUInt32).mFutureTime.nanos =
      now.nanos + msec.toNat % 2 ^ 32 * 1000000 := by
  rw [startDelegate, Timespec.nanos_futureTime, UInt64.toNat_toUInt32]

/-- In the container too a timer is due its delay after the moment at which it is started. -/
theorem LocTimerContainer.nanos_start (s : LocTimerContainer) {client : ℕ}
    (hnone : s.mTimer client = none) (timeOutInMs : UInt32) :
    ∃ timer, (s.start client timeOutInMs).mTimer client = some timer ∧
      timer.mFutureTime.nanos =
        (Timespec.gettime s.clock).nanos + timeOutInMs.toNat * 1000000 := by
  refine ⟨_, s.mTimer_start_self hnone timeOutInMs, ?_⟩
  rw [startDelegate, Timespec.nanos_futureTime]

lemma nanos_startDelegate_iff (address client : ℕ) (now : Timespec) (msec : UInt64) :
    (startDelegate address client now msec.toUInt32).mFutureTime.nanos =
      now.nanos + msec.toNat * 1000000 ↔ msec.toNat < 2 ^ 32 := by
  rw [nanos_startDelegate]
  constructor
  · intro h
    have hmod : msec.toNat % 2 ^ 32 = msec.toNat := by omega
    rw [← hmod]
    exact Nat.mod_lt _ (by decide)
  · intro h
    rw [Nat.mod_eq_of_lt h]

/-! ## The order of deadlines -/

/-- When the seconds differ by no more than an `int` holds, the order of the ranks is that of the
deadlines. -/
lemma outRanks_iff_nanos_lt {a b : LocTimerDelegate}
    (h : -2 ^ 31 ≤ (b.mFutureTime.tv_sec : ℤ) - a.mFutureTime.tv_sec)
    (h' : (b.mFutureTime.tv_sec : ℤ) - a.mFutureTime.tv_sec < 2 ^ 31) :
    outRanks a b ↔ a.mFutureTime.nanos < b.mFutureTime.nanos := by
  have ha := a.mFutureTime.tv_nsec_lt
  have hb := b.mFutureTime.tv_nsec_lt
  simp only [outRanks, LocRankable.ranks, Timespec.nanos, LocTimerContainer.toInt_of_lt h h']
  by_cases hsec : (b.mFutureTime.tv_sec : ℤ) - a.mFutureTime.tv_sec = 0
  · rw [if_pos hsec, LocTimerContainer.toInt_of_lt (by omega) (by omega)]
    omega
  · rw [if_neg hsec]
    omega

/-- Two start times are at most 2^20 seconds apart. -/
def CloseTimes (now now' : Timespec) : Prop :=
  now.nanos ≤ now'.nanos + 2 ^ 20 * 1000000000 ∧ now'.nanos ≤ now.nanos + 2 ^ 20 * 1000000000

lemma outRanks_startDelegate_iff {now now' : Timespec} (h : CloseTimes now now')
    (address client address' client' : ℕ) (msec msec' : UInt64) :
    outRanks (startDelegate address client now msec.toUInt32)
        (startDelegate address' client' now' msec'.toUInt32) ↔
      (startDelegate address client now msec.toUInt32).mFutureTime.nanos <
        (startDelegate address' client' now' msec'.toUInt32).mFutureTime.nanos := by
  have hnanos := nanos_startDelegate address client now msec
  have hnanos' := nanos_startDelegate address' client' now' msec'
  have hmod : msec.toNat % 2 ^ 32 < 2 ^ 32 := Nat.mod_lt _ (by decide)
  have hmod' : msec'.toNat % 2 ^ 32 < 2 ^ 32 := Nat.mod_lt _ (by decide)
  obtain ⟨hle, hle'⟩ := h
  have hsec := (startDelegate address client now msec.toUInt32).mFutureTime.tv_nsec_lt
  have hsec' := (startDelegate address' client' now' msec'.toUInt32).mFutureTime.tv_nsec_lt
  apply outRanks_iff_nanos_lt
  · rw [Timespec.nanos] at hnanos hnanos'
    omega
  · rw [Timespec.nanos] at hnanos hnanos'
    omega

/-- **Deadlines.**  The timer that `loc_timer_start` starts is due exactly after its delay if and
only if the delay is below 2^32 milliseconds; whatever the delays are, of two timers started at
times close to each other one ranks above the other exactly when it is due earlier. -/
theorem locTimerStart_deadlines (now now' : Timespec)
    (address client cb data address' client' cb' data' : ℕ) (msec msec' : UInt64) :
    ∃ timer timer',
      locTimerStart now true address client msec (some cb) data = some ⟨cb, data, some timer⟩ ∧
      locTimerStart now' true address' client' msec' (some cb') data' =
        some ⟨cb', data', some timer'⟩ ∧
      (timer.mFutureTime.nanos = now.nanos + msec.toNat * 1000000 ↔ msec.toNat < 2 ^ 32) ∧
      (CloseTimes now now' →
        (outRanks timer timer' ↔ timer.mFutureTime.nanos < timer'.mFutureTime.nanos)) := by
  refine ⟨startDelegate address client now msec.toUInt32,
    startDelegate address' client' now' msec'.toUInt32, rfl, rfl, ?_, fun h => ?_⟩
  · exact nanos_startDelegate_iff address client now msec
  · exact outRanks_startDelegate_iff h address client address' client' msec msec'

/-- A delay of 2^32 milliseconds is over at once. -/
theorem locTimerStart_truncates :
    ¬ ∀ (now : Timespec) (address client cb data : ℕ) (msec : UInt64), ∃ timer,
      locTimerStart now true address client msec (some cb) data = some ⟨cb, data, some timer⟩ ∧
        timer.mFutureTime.nanos = now.nanos + msec.toNat * 1000000 := by
  intro h
  obtain ⟨timer, htimer, hnanos⟩ := h .zero 0 0 0 0 4294967296
  cases htimer
  exact absurd hnanos (by decide)

end LocHal
