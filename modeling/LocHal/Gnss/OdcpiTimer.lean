import LocHal.Gnss.Odcpi

/-!
# The timer of an on-demand position injection (`gps/gnss/GnssAdapter.cpp`)

`OdcpiTimer` keeps a flag of its own beside the `LocTimer` that it is.  When the `LocTimer` expires
it has stopped by itself, the flag is still up, and what reaches the adapter is a message that waits
in its queue; requests and a restart of the modem may be handled before it, and it may be stale by
then.

The machine here has the `LocTimer` and the queued messages beside the state of
`GnssAdapter.OdcpiState`, and each of its steps is one of that machine or leaves its state alone
(`toOdcpiState_step`).
-/

namespace LocHal
namespace GnssAdapter

/-- `OdcpiTimer`, with whether its `LocTimer` is running. -/
structure ArmedOdcpiTimer where
  mActive : Bool
  running : Bool
deriving DecidableEq, Repr

namespace ArmedOdcpiTimer

/-- `start`, where `LocTimer::start` succeeds unless the timer is already running. -/
def start (_ : ArmedOdcpiTimer) : ArmedOdcpiTimer := ⟨true, true⟩

/-- `stop`. -/
def stop (_ : ArmedOdcpiTimer) : ArmedOdcpiTimer := ⟨false, false⟩

/-- `restart`. -/
def restart (timer : ArmedOdcpiTimer) : ArmedOdcpiTimer := timer.stop.start

/-- `isActive`. -/
def isActive (timer : ArmedOdcpiTimer) : Bool := timer.mActive

/-- The timer without its `LocTimer`. -/
def toOdcpiTimer (timer : ArmedOdcpiTimer) : OdcpiTimer := ⟨timer.mActive⟩

@[simp] lemma isActive_toOdcpiTimer (timer : ArmedOdcpiTimer) :
    timer.toOdcpiTimer.isActive = timer.isActive := rfl

end ArmedOdcpiTimer

/-- The adapter's part, the timer thread's part, and the number of `MsgOdcpiTimerExpire` that are
queued. -/
structure RenewalState where
  hasOdcpiRequestCb : Bool
  mOdcpiRequestActive : Bool
  mOdcpiTimer : ArmedOdcpiTimer
  mOdcpiRequest : OdcpiRequestInfo
  expireMsgs : ℕ
deriving DecidableEq, Repr

namespace RenewalState

/-- A new adapter. -/
def init : RenewalState := ⟨false, false, ⟨false, false⟩, {}, 0⟩

/-- `reportOdcpiRequest`. -/
def reportOdcpiRequest (a : RenewalState) (request : OdcpiRequestInfo) :
    RenewalState × List OdcpiOutput :=
  if a.hasOdcpiRequestCb then
    if request.type = .start then
      if a.mOdcpiRequestActive = false ∧ a.mOdcpiTimer.isActive = false then
        ({ a with
            mOdcpiRequestActive := true
            mOdcpiTimer := a.mOdcpiTimer.start
            mOdcpiRequest := request }, [.opened request])
      else if a.mOdcpiRequest.isEmergencyMode = false ∧ request.isEmergencyMode = true then
        ({ a with
            mOdcpiRequestActive := true
            mOdcpiTimer :=
              if a.mOdcpiTimer.isActive then a.mOdcpiTimer.restart else a.mOdcpiTimer.start
            mOdcpiRequest := request }, [.upgraded request])
      else if a.mOdcpiRequestActive = false ∧ a.mOdcpiTimer.isActive = true then
        ({ a with mOdcpiRequestActive := true, mOdcpiRequest := request }, [])
      else ({ a with mOdcpiRequest := request }, [])
    else ({ a with mOdcpiRequestActive := false }, [])
  else (a, [])

/-- `odcpiTimerExpire`. -/
def odcpiTimerExpire (a : RenewalState) : RenewalState × List OdcpiOutput :=
  if a.mOdcpiRequestActive then
    ({ a with mOdcpiTimer := a.mOdcpiTimer.restart }, [.repeated a.mOdcpiRequest])
  else ({ a with mOdcpiTimer := a.mOdcpiTimer.stop }, [])

/-- What the two threads do: the adapter handles a message other than an expiry, the `LocTimer`
expires, or the adapter handles the oldest queued expiry. -/
inductive Event where
  | initOdcpi
  | reportOdcpiRequest (request : OdcpiRequestInfo)
  | restartSessions
  | timeOutCallback
  | procTimerExpire
deriving DecidableEq, Repr

/-- One event.  An expiring `LocTimer` stops itself and calls `timeOutCallback`, which only queues a
message; neither that nor the handling of a message happens without its cause. -/
def step (a : RenewalState) : Event → RenewalState × List OdcpiOutput
  | .initOdcpi => ({ a with hasOdcpiRequestCb := true }, [])
  | .reportOdcpiRequest request => a.reportOdcpiRequest request
  | .restartSessions => ({ a with mOdcpiRequestActive := false }, [])
  | .timeOutCallback =>
      if a.mOdcpiTimer.running then
        ({ a with
            mOdcpiTimer := { a.mOdcpiTimer with running := false }
            expireMsgs := a.expireMsgs + 1 }, [])
      else (a, [])
  | .procTimerExpire =>
      if 0 < a.expireMsgs then odcpiTimerExpire { a with expireMsgs := a.expireMsgs - 1 }
      else (a, [])

/-- The two threads as a machine. -/
def machine : Machine RenewalState Event OdcpiOutput := ⟨step⟩

/-! ## The adapter alone -/

/-- What the adapter's own machine sees of a state. -/
def toOdcpiState (a : RenewalState) : OdcpiState :=
  ⟨a.hasOdcpiRequestCb, a.mOdcpiRequestActive, a.mOdcpiTimer.toOdcpiTimer, a.mOdcpiRequest⟩

variable {a : RenewalState}

lemma toOdcpiTimer_ite (timer : ArmedOdcpiTimer) (c : Prop) [Decidable c] :
    (if c then timer.restart else timer.start).toOdcpiTimer =
      if c then timer.toOdcpiTimer.restart else timer.toOdcpiTimer.start := by
  split
  · rfl
  · rfl

lemma toOdcpiState_reportOdcpiRequest (a : RenewalState) (request : OdcpiRequestInfo) :
    ((a.reportOdcpiRequest request).1.toOdcpiState, (a.reportOdcpiRequest request).2) =
      a.toOdcpiState.reportOdcpiRequest request := by
  show Prod.map toOdcpiState id (a.reportOdcpiRequest request) = _
  simp only [reportOdcpiRequest, OdcpiState.reportOdcpiRequest,
    apply_ite (Prod.map toOdcpiState id), Prod.map_apply, id, toOdcpiState, toOdcpiTimer_ite]
  rfl

lemma toOdcpiState_odcpiTimerExpire (a : RenewalState) :
    (a.odcpiTimerExpire.1.toOdcpiState, a.odcpiTimerExpire.2) =
      a.toOdcpiState.odcpiTimerExpire := by
  show Prod.map toOdcpiState id a.odcpiTimerExpire = _
  simp only [odcpiTimerExpire, OdcpiState.odcpiTimerExpire, apply_ite (Prod.map toOdcpiState id)]
  rfl

/-- **Refinement.**  A step is one of the adapter's own machine, or that machine does not see it. -/
theorem toOdcpiState_step (a : RenewalState) (e : Event) :
    ((machine.next a e).toOdcpiState, machine.emit a e) = (a.toOdcpiState, []) ∨
      ∃ e', ((machine.next a e).toOdcpiState, machine.emit a e) =
        OdcpiState.machine.step a.toOdcpiState e' := by
  cases e with
  | initOdcpi => exact Or.inr ⟨.initOdcpi, rfl⟩
  | reportOdcpiRequest request =>
      exact Or.inr ⟨.reportOdcpiRequest request, toOdcpiState_reportOdcpiRequest a request⟩
  | restartSessions => exact Or.inr ⟨.restartSessions, rfl⟩
  | timeOutCallback =>
      left
      simp only [Machine.next, Machine.emit, machine, step]
      split
      · rfl
      · rfl
  | procTimerExpire =>
      simp only [Machine.next, Machine.emit, machine, step]
      split
      · exact Or.inr ⟨.odcpiTimerExpire, toOdcpiState_odcpiTimerExpire _⟩
      · exact Or.inl rfl

lemma sound_next (h : a.toOdcpiState.Sound) (e : Event) :
    (machine.next a e).toOdcpiState.Sound := by
  rcases toOdcpiState_step a e with hstep | ⟨e', hstep⟩
  · rw [show (machine.next a e).toOdcpiState = a.toOdcpiState from congrArg Prod.fst hstep]
    exact h
  · rw [show (machine.next a e).toOdcpiState = OdcpiState.machine.next a.toOdcpiState e' from
      congrArg Prod.fst hstep]
    exact h.next e'

/-! ## The timer is behind its flag -/

/-- While the flag of the timer is up, the `LocTimer` runs or has left a message. -/
def Armed (a : RenewalState) : Prop :=
  a.mOdcpiTimer.isActive = true → a.mOdcpiTimer.running = true ∨ 0 < a.expireMsgs

lemma Armed.reportOdcpiRequest (h : a.Armed) (request : OdcpiRequestInfo) :
    (a.reportOdcpiRequest request).1.Armed := by
  simp only [RenewalState.reportOdcpiRequest]
  split
  · split
    · split
      · exact fun _ => Or.inl rfl
      · split
        · intro _
          left
          show (if a.mOdcpiTimer.isActive then a.mOdcpiTimer.restart
            else a.mOdcpiTimer.start).running = true
          split
          · rfl
          · rfl
        · split
          · exact h
          · exact h
    · exact h
  · exact h

/-- An expiry that is handled starts the timer again or takes its flag down, so the message that is
gone leaves nothing behind. -/
lemma armed_odcpiTimerExpire (a : RenewalState) : a.odcpiTimerExpire.1.Armed := by
  simp only [odcpiTimerExpire]
  split
  · exact fun _ => Or.inl rfl
  · intro hactive
    cases hactive

lemma Armed.next (h : a.Armed) (e : Event) : (machine.next a e).Armed := by
  cases e with
  | initOdcpi => exact h
  | reportOdcpiRequest request => exact h.reportOdcpiRequest request
  | restartSessions => exact h
  | timeOutCallback =>
      simp only [Machine.next, machine, step]
      split
      · exact fun _ => Or.inr (Nat.succ_pos _)
      · exact h
  | procTimerExpire =>
      simp only [Machine.next, machine, step]
      split
      · exact armed_odcpiTimerExpire _
      · exact h

/-- An active request has an active timer, which is running or has left a message. -/
def Renewed (a : RenewalState) : Prop :=
  a.mOdcpiRequestActive = true →
    a.mOdcpiTimer.isActive = true ∧ (a.mOdcpiTimer.running = true ∨ 0 < a.expireMsgs)

lemma renewed_of_sound (hsound : a.toOdcpiState.Sound) (harmed : a.Armed) : a.Renewed := by
  intro hactive
  have htimer : a.mOdcpiTimer.isActive = true := hsound.timerActive hactive
  exact ⟨htimer, harmed htimer⟩

/-- **An active request is always armed again.**  In every state of every run an active request has
an active timer, and either the timer is running or an expiry is queued. -/
theorem renewed_always (events : List Event) : machine.Always Renewed init events := by
  have hinv : machine.Always (fun a => a.toOdcpiState.Sound ∧ a.Armed) init events := by
    refine Machine.always_of_steps (C := fun _ _ => True) ?_ ?_ ?_
    · exact fun a e h _ => ⟨sound_next h.1 e, h.2.next e⟩
    · exact ⟨OdcpiState.sound_init, fun hactive => by cases hactive⟩
    · exact Machine.steps_of_forall machine (fun _ _ => trivial) _ _
  exact hinv.mono fun a h => renewed_of_sound h.1 h.2

/-- A request is still active when its timer has expired. -/
example : (machine.run init
    [.initOdcpi, .reportOdcpiRequest {}, .timeOutCallback]).mOdcpiRequestActive = true := rfl

end RenewalState
end GnssAdapter
end LocHal
