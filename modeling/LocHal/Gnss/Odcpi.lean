import LocHal.Lib.Machine

/-!
# On-demand position injection (`gps/gnss/GnssAdapter.cpp`)

The modem starts and stops its requests for a position from the framework in quick succession.  The
adapter passes on the first one and starts a timer; until the timer expires it only notes whether a
request is active, except that an emergency request replaces one that is not.

`atMostTwice_iff`: the framework is asked at most once more in a period of the timer, by such a
replacement, exactly as long as no request that is not an emergency follows the replacement before
another emergency does.  What the adapter compares with is the last request it has seen, not the one
that it has passed on.
-/

namespace LocHal

/-- `OdcpiRequestType`. -/
inductive OdcpiRequestType where
  | start
  | stop
deriving DecidableEq, Repr

/-- `OdcpiRequestInfo`.  The defaults are those of `mOdcpiRequest()`. -/
structure OdcpiRequestInfo where
  size : ℕ := 0
  type : OdcpiRequestType := .start
  tbfMillis : ℕ := 0
  isEmergencyMode : Bool := false
deriving DecidableEq, Repr

/-- `OdcpiTimer`, without the `LocTimer` that it is. -/
structure OdcpiTimer where
  mActive : Bool
deriving DecidableEq, Repr

namespace OdcpiTimer

/-- `start`. -/
def start (_ : OdcpiTimer) : OdcpiTimer := ⟨true⟩

/-- `stop`. -/
def stop (_ : OdcpiTimer) : OdcpiTimer := ⟨false⟩

/-- `restart`. -/
def restart (timer : OdcpiTimer) : OdcpiTimer := timer.stop.start

/-- `isActive`. -/
def isActive (timer : OdcpiTimer) : Bool := timer.mActive

end OdcpiTimer

namespace GnssAdapter

/-- A call of `mOdcpiRequestCb`: by the first or the second of the two branches of
`reportOdcpiRequest` that make it, or by `odcpiTimerExpire`. -/
inductive OdcpiOutput where
  | opened (request : OdcpiRequestInfo)
  | upgraded (request : OdcpiRequestInfo)
  | repeated (request : OdcpiRequestInfo)
deriving DecidableEq, Repr

namespace OdcpiOutput

/-- A request that opens a period. -/
def isOpened : OdcpiOutput → Bool
  | .opened _ => true
  | _ => false

/-- A request that replaces one that is not an emergency. -/
def isUpgraded : OdcpiOutput → Bool
  | .upgraded _ => true
  | _ => false

end OdcpiOutput

/-- The part of the adapter that handles the requests; `hasOdcpiRequestCb` is
`nullptr != mOdcpiRequestCb`. -/
structure OdcpiState where
  hasOdcpiRequestCb : Bool
  mOdcpiRequestActive : Bool
  mOdcpiTimer : OdcpiTimer
  mOdcpiRequest : OdcpiRequestInfo
deriving DecidableEq, Repr

namespace OdcpiState

/-- A new adapter. -/
def init : OdcpiState := ⟨false, false, ⟨false⟩, {}⟩

/-- `reportOdcpiRequest`. -/
def reportOdcpiRequest (a : OdcpiState) (request : OdcpiRequestInfo) :
    OdcpiState × List OdcpiOutput :=
  if a.hasOdcpiRequestCb then
    if request.type = .start then
      if a.mOdcpiRequestActive = false ∧ a.mOdcpiTimer.isActive = false then
        ({ a with
            mOdcpiRequestActive := true
            mOdcpiTimer := a.mOdcpiTimer.start
            mOdcpiRequest := request }, [.opened request])
      else if a.mOdcpiRequest.isEmergencyMode = false ∧ request.isEmergencyMode = true then
        ({ a with
            mOdcpiRequestActive := true
            mOdcpiTimer :=
              if a.mOdcpiTimer.isActive then a.mOdcpiTimer.restart else a.mOdcpiTimer.start
            mOdcpiRequest := request }, [.upgraded request])
      else if a.mOdcpiRequestActive = false ∧ a.mOdcpiTimer.isActive = true then
        ({ a with mOdcpiRequestActive := true, mOdcpiRequest := request }, [])
      else ({ a with mOdcpiRequest := request }, [])
    else ({ a with mOdcpiRequestActive := false }, [])
  else (a, [])

/-- `odcpiTimerExpire`. -/
def odcpiTimerExpire (a : OdcpiState) : OdcpiState × List OdcpiOutput :=
  if a.mOdcpiRequestActive then
    ({ a with mOdcpiTimer := a.mOdcpiTimer.restart }, [.repeated a.mOdcpiRequest])
  else ({ a with mOdcpiTimer := a.mOdcpiTimer.stop }, [])

/-- A message of the adapter's thread: the framework registers, a request of the modem, the timer
has expired, or the modem has restarted. -/
inductive Event where
  | initOdcpi
  | reportOdcpiRequest (request : OdcpiRequestInfo)
  | odcpiTimerExpire
  | restartSessions
deriving DecidableEq, Repr

/-- One message. -/
def step (a : OdcpiState) : Event → OdcpiState × List OdcpiOutput
  | .initOdcpi => ({ a with hasOdcpiRequestCb := true }, [])
  | .reportOdcpiRequest request => a.reportOdcpiRequest request
  | .odcpiTimerExpire => a.odcpiTimerExpire
  | .restartSessions => ({ a with mOdcpiRequestActive := false }, [])

/-- The adapter as a machine. -/
def machine : Machine OdcpiState Event OdcpiOutput := ⟨step⟩

/-! ## One message -/

/-- Whether the message starts a request, and then whether that is an emergency. -/
def startMode : Event → Option Bool
  | .reportOdcpiRequest request =>
      if request.type = .start then some request.isEmergencyMode else none
  | _ => none

/-- The framework has registered, and the timer is active. -/
def InPeriod (a : OdcpiState) : Prop :=
  a.hasOdcpiRequestCb = true ∧ a.mOdcpiTimer.isActive = true

/-- What holds between messages: nothing is active for a framework that has not registered, and a
request is active only while the timer is. -/
structure Sound (a : OdcpiState) : Prop where
  registered : a.mOdcpiTimer.isActive = true → a.hasOdcpiRequestCb = true
  timerActive : a.mOdcpiRequestActive = true → a.mOdcpiTimer.isActive = true

section Step

variable {a : OdcpiState} {e : Event}

lemma sound_init : init.Sound where
  registered h := by cases h
  timerActive h := by cases h

/-- In a period, a request that starts is only remembered, unless it is the first emergency. -/
lemma InPeriod.start (h : a.InPeriod) {request : OdcpiRequestInfo} (htype : request.type = .start) :
    ∃ active timer, timer.isActive = true ∧ a.reportOdcpiRequest request =
      (⟨true, active, timer, request⟩,
        if a.mOdcpiRequest.isEmergencyMode = false ∧ request.isEmergencyMode = true then
          [.upgraded request] else []) := by
  obtain ⟨hcb, htimer⟩ := h
  have hopen : ¬ (a.mOdcpiRequestActive = false ∧ a.mOdcpiTimer.isActive = false) := by
    rw [htimer]
    simp
  simp only [reportOdcpiRequest, if_pos hcb, if_pos htype, if_neg hopen]
  split
  · exact ⟨true, a.mOdcpiTimer.restart, rfl, by simp [hcb]⟩
  · split
    · exact ⟨true, a.mOdcpiTimer, htimer, by simp [hcb]⟩
    · exact ⟨a.mOdcpiRequestActive, a.mOdcpiTimer, htimer, by simp [hcb]⟩

/-- What a message other than the expiry of the timer does in a period. -/
structure PeriodStep (a : OdcpiState) (e : Event) : Prop where
  inPeriod : (machine.next a e).InPeriod
  remembers : (machine.next a e).mOdcpiRequest.isEmergencyMode =
    (startMode e).getD a.mOdcpiRequest.isEmergencyMode
  opened : (machine.emit a e).countP OdcpiOutput.isOpened = 0
  upgraded : (machine.emit a e).countP OdcpiOutput.isUpgraded =
    if a.mOdcpiRequest.isEmergencyMode = false ∧ startMode e = some true then 1 else 0

lemma InPeriod.step (h : a.InPeriod) (he : e ≠ .odcpiTimerExpire) : PeriodStep a e := by
  cases e with
  | odcpiTimerExpire => exact absurd rfl he
  | initOdcpi => exact ⟨⟨rfl, h.2⟩, rfl, rfl, by simp [startMode, Machine.emit, machine,
      OdcpiState.step]⟩
  | restartSessions => exact ⟨h, rfl, rfl, by simp [startMode, Machine.emit, machine,
      OdcpiState.step]⟩
  | reportOdcpiRequest request =>
      by_cases htype : request.type = .start
      · obtain ⟨active, timer, htimer, heq⟩ := h.start htype
        have hmode : startMode (.reportOdcpiRequest request) = some request.isEmergencyMode :=
          if_pos htype
        have hstep : machine.step a (.reportOdcpiRequest request) = _ := heq
        refine ⟨?_, ?_, ?_, ?_⟩
        · rw [Machine.next, hstep]
          exact ⟨rfl, htimer⟩
        · rw [Machine.next, hstep, hmode, Option.getD_some]
        · rw [Machine.emit, hstep]
          split
          · rfl
          · rfl
        · rw [Machine.emit, hstep, hmode]
          simp only [Option.some.injEq]
          split
          · rfl
          · rfl
      · have hmode : startMode (.reportOdcpiRequest request) = none := if_neg htype
        have hstep : machine.step a (.reportOdcpiRequest request) =
            ({ a with mOdcpiRequestActive := false }, []) := by
          simp only [machine, OdcpiState.step, reportOdcpiRequest, if_pos h.1, if_neg htype]
        refine ⟨?_, ?_, ?_, ?_⟩
        · rw [Machine.next, hstep]
          exact h
        · rw [Machine.next, hstep, hmode, Option.getD_none]
        · rw [Machine.emit, hstep]
          rfl
        · rw [Machine.emit, hstep, hmode]
          simp

/-- Outside a period nothing is replaced, and only a request that opens one is passed on. -/
lemma Sound.step_aside (h : a.Sound) (hout : ¬ a.InPeriod) (he : e ≠ .odcpiTimerExpire) :
    (machine.emit a e).countP OdcpiOutput.isUpgraded = 0 ∧
      (¬ (machine.next a e).InPeriod ∧ machine.emit a e = [] ∨
        (machine.next a e).InPeriod ∧
          (machine.emit a e).countP OdcpiOutput.isOpened = 1) := by
  have htimer : a.mOdcpiTimer.isActive = false := by
    by_contra ht
    rw [Bool.not_eq_false] at ht
    exact hout ⟨h.registered ht, ht⟩
  have hactive : a.mOdcpiRequestActive = false := by
    by_contra hact
    rw [Bool.not_eq_false] at hact
    rw [h.timerActive hact] at htimer
    cases htimer
  cases e with
  | odcpiTimerExpire => exact absurd rfl he
  | initOdcpi =>
      refine ⟨rfl, .inl ⟨fun hin => ?_, rfl⟩⟩
      exact absurd (htimer.symm.trans hin.2) (by decide)
  | restartSessions => exact ⟨rfl, .inl ⟨hout, rfl⟩⟩
  | reportOdcpiRequest request =>
      simp only [Machine.next, Machine.emit, machine, OdcpiState.step, reportOdcpiRequest]
      by_cases hcb : a.hasOdcpiRequestCb = true
      · rw [if_pos hcb]
        by_cases htype : request.type = .start
        · rw [if_pos htype, if_pos ⟨hactive, htimer⟩]
          exact ⟨rfl, .inr ⟨⟨hcb, rfl⟩, rfl⟩⟩
        · rw [if_neg htype]
          exact ⟨rfl, .inl ⟨fun hin => hout hin, rfl⟩⟩
      · rw [if_neg hcb]
        exact ⟨rfl, .inl ⟨hout, rfl⟩⟩

lemma Sound.next (h : a.Sound) (e : Event) : (machine.next a e).Sound := by
  cases e with
  | initOdcpi => exact ⟨fun _ => rfl, h.timerActive⟩
  | restartSessions => exact ⟨h.registered, fun hact => by cases hact⟩
  | odcpiTimerExpire =>
      simp only [Machine.next, machine, OdcpiState.step, odcpiTimerExpire]
      split
      · rename_i hact
        exact ⟨fun _ => h.registered (h.timerActive hact), fun _ => rfl⟩
      · rename_i hact
        exact ⟨fun ht => absurd ht Bool.false_ne_true, fun hact' => absurd hact' hact⟩
  | reportOdcpiRequest request =>
      simp only [Machine.next, machine, OdcpiState.step, reportOdcpiRequest]
      split
      · rename_i hcb
        split
        · split
          · exact ⟨fun _ => hcb, fun _ => rfl⟩
          · split
            · refine ⟨fun _ => hcb, fun _ => ?_⟩
              split
              · rfl
              · rfl
            · split
              · rename_i hwait
                exact ⟨fun _ => hcb, fun _ => hwait.2⟩
              · exact ⟨fun _ => hcb, h.timerActive⟩
        · exact ⟨fun _ => hcb, fun hact => by cases hact⟩
      · exact h

lemma Sound.run (h : a.Sound) (events : List Event) : (machine.run a events).Sound :=
  Machine.run_of_steps (fun _ _ h _ => h.next _) h
    (Machine.steps_of_forall machine (fun _ _ => trivial) _ _)

end Step

/-! ## One period -/

section Period

variable {a : OdcpiState} {seg : List Event}

/-- How often the framework is asked for the one or the other reason. -/
def asked (reason : OdcpiOutput → Bool) (a : OdcpiState) (seg : List Event) : ℕ :=
  (machine.outs a seg).countP reason

lemma asked_cons (reason : OdcpiOutput → Bool) (a : OdcpiState) (e : Event) (seg : List Event) :
    asked reason a (e :: seg) =
      (machine.emit a e).countP reason + asked reason (machine.next a e) seg :=
  List.countP_append

/-- A period is opened only once. -/
lemma asked_isOpened_le (h : a.Sound) (hseg : .odcpiTimerExpire ∉ seg) :
    asked OdcpiOutput.isOpened a seg ≤ 1 ∧
      (a.InPeriod → asked OdcpiOutput.isOpened a seg = 0) := by
  induction seg generalizing a with
  | nil => exact ⟨Nat.zero_le _, fun _ => rfl⟩
  | cons e seg ih =>
      have he : e ≠ .odcpiTimerExpire := fun heq => hseg (by simp [heq])
      obtain ⟨hle, hzero⟩ := ih (h.next e) fun hmem => hseg (List.mem_cons_of_mem e hmem)
      rw [asked_cons]
      by_cases hin : a.InPeriod
      · have hstep := hin.step he
        have hsum : (machine.emit a e).countP OdcpiOutput.isOpened +
            asked OdcpiOutput.isOpened (machine.next a e) seg = 0 := by
          rw [hstep.opened, hzero hstep.inPeriod]
        exact ⟨hsum.trans_le (Nat.zero_le 1), fun _ => hsum⟩
      · refine ⟨?_, fun hin' => absurd hin' hin⟩
        rcases (h.step_aside hin he).2 with ⟨-, hemit⟩ | ⟨hin', hopen⟩
        · rw [hemit]
          simpa using hle
        · rw [hopen, hzero hin']

/-- Once a request that is not an emergency is the last one seen, the next emergency replaces it. -/
lemma asked_isUpgraded_pos (hin : a.InPeriod) (hlast : a.mOdcpiRequest.isEmergencyMode = false)
    (hseg : .odcpiTimerExpire ∉ seg) {z : Event} (hz : z ∈ seg) (hstart : startMode z = some true) :
    0 < asked OdcpiOutput.isUpgraded a seg := by
  induction seg generalizing a with
  | nil => cases hz
  | cons e seg ih =>
      have he : e ≠ .odcpiTimerExpire := fun heq => hseg (by simp [heq])
      have hseg' : .odcpiTimerExpire ∉ seg := fun hmem => hseg (List.mem_cons_of_mem e hmem)
      have hstep := hin.step he
      rw [asked_cons]
      by_cases hmode : startMode e = some true
      · rw [hstep.upgraded, if_pos ⟨hlast, hmode⟩]
        exact Nat.add_pos_left Nat.one_pos _
      · have hmem : z ∈ seg := by
          rcases List.mem_cons.mp hz with rfl | hmem
          · exact absurd hstart hmode
          · exact hmem
        have hlast' : (machine.next a e).mOdcpiRequest.isEmergencyMode = false := by
          rw [hstep.remembers]
          cases hm : startMode e with
          | none => exact hlast
          | some b =>
              cases b with
              | false => rfl
              | true => exact absurd hm hmode
        exact Nat.add_pos_right _ (ih hstep.inPeriod hlast' hseg' hmem)

/-- Without an emergency that starts, nothing is replaced. -/
lemma asked_isUpgraded_eq_zero (hin : a.InPeriod) (hseg : .odcpiTimerExpire ∉ seg)
    (hnone : ∀ z ∈ seg, startMode z ≠ some true) : asked OdcpiOutput.isUpgraded a seg = 0 := by
  induction seg generalizing a with
  | nil => rfl
  | cons e seg ih =>
      have he : e ≠ .odcpiTimerExpire := fun heq => hseg (by simp [heq])
      have hseg' : .odcpiTimerExpire ∉ seg := fun hmem => hseg (List.mem_cons_of_mem e hmem)
      have hstep := hin.step he
      have hnot := hnone e List.mem_cons_self
      rw [asked_cons, hstep.upgraded, if_neg fun h => hnot h.2, Nat.zero_add]
      exact ih hstep.inPeriod hseg' fun z hz => hnone z (List.mem_cons_of_mem e hz)

/-- While the last request seen is an emergency, a replacement needs one that is not to come
first. -/
lemma exists_of_asked_isUpgraded (hin : a.InPeriod)
    (hlast : a.mOdcpiRequest.isEmergencyMode = true) (hseg : .odcpiTimerExpire ∉ seg)
    (hpos : 0 < asked OdcpiOutput.isUpgraded a seg) :
    ∃ mid z post, seg = mid ++ z :: post ∧ startMode z = some true ∧
      ∃ y ∈ mid, startMode y = some false := by
  induction seg generalizing a with
  | nil => exact absurd hpos (lt_irrefl 0)
  | cons e seg ih =>
      have he : e ≠ .odcpiTimerExpire := fun heq => hseg (by simp [heq])
      have hseg' : .odcpiTimerExpire ∉ seg := fun hmem => hseg (List.mem_cons_of_mem e hmem)
      have hstep := hin.step he
      have hnot : ¬ (a.mOdcpiRequest.isEmergencyMode = false ∧ startMode e = some true) := by
        rw [hlast]
        simp
      rw [asked_cons, hstep.upgraded, if_neg hnot, Nat.zero_add] at hpos
      have hremembers := hstep.remembers
      by_cases hmode : startMode e = some false
      · -- the first request that is not an emergency: some emergency comes after it
        obtain ⟨z, hz, hstart⟩ : ∃ z ∈ seg, startMode z = some true := by
          by_contra hnone
          push Not at hnone
          exact absurd hpos (not_lt.mpr (asked_isUpgraded_eq_zero hstep.inPeriod hseg' hnone).le)
        obtain ⟨mid, post, rfl⟩ := List.append_of_mem hz
        exact ⟨e :: mid, z, post, rfl, hstart, e, List.mem_cons_self, hmode⟩
      · have hlast' : (machine.next a e).mOdcpiRequest.isEmergencyMode = true := by
          rw [hremembers]
          cases hm : startMode e with
          | none => exact hlast
          | some b =>
              cases b with
              | false => exact absurd hm hmode
              | true => rfl
        obtain ⟨mid, z, post, rfl, hstart, y, hy, hymode⟩ := ih hstep.inPeriod hlast' hseg' hpos
        exact ⟨e :: mid, z, post, rfl, hstart, y, List.mem_cons_of_mem e hy, hymode⟩

/-- A replacement, when the message comes now. -/
def Upgrades (a : OdcpiState) (e : Event) : Prop :=
  a.mOdcpiTimer.isActive = true ∧ a.mOdcpiRequest.isEmergencyMode = false ∧
    startMode e = some true

/-- Two replacements in one period, and what comes between them. -/
lemma exists_of_two_upgrades (h : a.Sound) (hseg : .odcpiTimerExpire ∉ seg)
    (htwo : 1 < asked OdcpiOutput.isUpgraded a seg) :
    ∃ pre x mid z post, seg = pre ++ x :: mid ++ z :: post ∧ Upgrades (machine.run a pre) x ∧
      startMode z = some true ∧ ∃ y ∈ mid, startMode y = some false := by
  induction seg generalizing a with
  | nil => exact absurd htwo (by simp [asked])
  | cons e seg ih =>
      have he : e ≠ .odcpiTimerExpire := fun heq => hseg (by simp [heq])
      have hseg' : .odcpiTimerExpire ∉ seg := fun hmem => hseg (List.mem_cons_of_mem e hmem)
      rw [asked_cons] at htwo
      by_cases hfirst : a.InPeriod ∧
          (a.mOdcpiRequest.isEmergencyMode = false ∧ startMode e = some true)
      · -- the first replacement is now, and the last request seen is an emergency from here on
        obtain ⟨hin, hup⟩ := hfirst
        have hstep := hin.step he
        rw [hstep.upgraded, if_pos hup] at htwo
        have hlast : (machine.next a e).mOdcpiRequest.isEmergencyMode = true := by
          rw [hstep.remembers, hup.2, Option.getD_some]
        obtain ⟨mid, z, post, rfl, hstart, hy⟩ :=
          exists_of_asked_isUpgraded hstep.inPeriod hlast hseg' (by omega)
        exact ⟨[], e, mid, z, post, rfl, ⟨hin.2, hup⟩, hstart, hy⟩
      · have hzero : (machine.emit a e).countP OdcpiOutput.isUpgraded = 0 := by
          by_cases hin : a.InPeriod
          · rw [(hin.step he).upgraded, if_neg fun hup => hfirst ⟨hin, hup⟩]
          · exact (h.step_aside hin he).1
        obtain ⟨pre, x, mid, z, post, rfl, hup, hstart, hy⟩ := ih (h.next e) hseg' (by omega)
        exact ⟨e :: pre, x, mid, z, post, rfl, hup, hstart, hy⟩

/-- A replacement, then a request that is not an emergency, then one that is: a second one. -/
lemma two_upgrades (h : a.Sound) {x z : Event} {mid : List Event} (hup : Upgrades a x)
    (hmid : .odcpiTimerExpire ∉ mid) (hstart : startMode z = some true) {y : Event} (hy : y ∈ mid)
    (hymode : startMode y = some false) :
    1 < asked OdcpiOutput.isUpgraded a (x :: mid ++ [z]) := by
  have hne : ∀ {e b}, startMode e = some b → e ≠ .odcpiTimerExpire := by
    rintro e b hm rfl
    cases hm
  have hin : a.InPeriod := ⟨h.registered hup.1, hup.1⟩
  have hstep := hin.step (hne hup.2.2)
  rw [List.cons_append, asked_cons, hstep.upgraded, if_pos hup.2]
  obtain ⟨m, m', rfl⟩ := List.append_of_mem hy
  have hpos : ∀ {a' : OdcpiState} (pre : List Event), a'.InPeriod → .odcpiTimerExpire ∉ pre →
      0 < asked OdcpiOutput.isUpgraded a' (pre ++ y :: m' ++ [z]) := by
    intro a' pre hin' hpre
    induction pre generalizing a' with
    | nil =>
        have hstep' := hin'.step (hne hymode)
        rw [List.nil_append, List.cons_append, asked_cons]
        refine Nat.add_pos_right _ (asked_isUpgraded_pos hstep'.inPeriod ?_ ?_ (z := z) (by simp)
          hstart)
        · rw [hstep'.remembers, hymode, Option.getD_some]
        · intro hmem
          rcases List.mem_append.mp hmem with hmem | hmem
          · exact hmid (by simp [hmem])
          · exact hne hstart (List.mem_singleton.mp hmem).symm
    | cons e pre ih =>
        have he : e ≠ .odcpiTimerExpire := fun heq => hpre (by simp [heq])
        rw [List.cons_append, List.cons_append, asked_cons]
        exact Nat.add_pos_right _ (ih (hin'.step he).inPeriod
          fun hmem => hpre (List.mem_cons_of_mem e hmem))
  have := hpos m hstep.inPeriod fun hmem => hmid (List.mem_append_left _ hmem)
  omega

end Period

/-! ## Every run -/

/-- Between two expirations of the timer, the first one and the start of the run included, the
framework is asked at most once to open a period and at most once by a replacement. -/
def AtMostTwice (events : List Event) : Prop :=
  ∀ pre seg post, events = pre ++ seg ++ post → .odcpiTimerExpire ∉ seg →
    asked OdcpiOutput.isOpened (machine.run init pre) seg ≤ 1 ∧
      asked OdcpiOutput.isUpgraded (machine.run init pre) seg ≤ 1

/-- In no period does a request that is not an emergency start between a replacement and a later
emergency. -/
def NoneAfterUpgrade (events : List Event) : Prop :=
  ∀ pre x mid z post, events = pre ++ x :: mid ++ z :: post → .odcpiTimerExpire ∉ mid →
    Upgrades (machine.run init pre) x → startMode z = some true →
      ∀ y ∈ mid, startMode y ≠ some false

/-- **The framework is not spammed.** It is asked at most twice in each period of the timer, exactly
when no request that is not an emergency starts between the replacement by an emergency and another
emergency of the same period. -/
theorem atMostTwice_iff (events : List Event) : AtMostTwice events ↔ NoneAfterUpgrade events := by
  constructor
  · rintro h pre x mid z post rfl hmid hup hstart y hy hymode
    have hsplit : pre ++ x :: mid ++ z :: post = pre ++ (x :: mid ++ [z]) ++ post := by simp
    have htwo := two_upgrades (sound_init.run pre) hup hmid hstart hy hymode
    refine absurd (h pre _ post hsplit ?_).2 (not_le.mpr htwo)
    have hx : x ≠ .odcpiTimerExpire := by
      rintro rfl
      cases hup.2.2
    have hz : z ≠ .odcpiTimerExpire := by
      rintro rfl
      cases hstart
    simp [hx.symm, hz.symm, hmid]
  · rintro h pre seg post rfl hseg
    have hsound := sound_init.run pre
    refine ⟨(asked_isOpened_le hsound hseg).1, ?_⟩
    by_contra htwo
    obtain ⟨seg1, x, mid, z, seg2, rfl, hup, hstart, y, hy, hymode⟩ :=
      exists_of_two_upgrades hsound hseg (not_le.mp htwo)
    refine h (pre ++ seg1) x mid z (seg2 ++ post) (by simp) ?_ ?_ hstart y hy hymode
    · exact fun hmem => hseg (by simp [hmem])
    · rwa [Machine.run_append]

/-- The framework is asked a third time: the requests alternate. -/
theorem third_request_in_period :
    ¬ AtMostTwice
      [.initOdcpi, .reportOdcpiRequest {}, .reportOdcpiRequest { isEmergencyMode := true },
        .reportOdcpiRequest {}, .reportOdcpiRequest { isEmergencyMode := true }] := by
  intro h
  exact absurd (h [] _ [] (List.append_nil _).symm (by decide)).2 (by decide)

end OdcpiState
end GnssAdapter
end LocHal
