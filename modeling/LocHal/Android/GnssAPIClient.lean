import LocHal.Location.ResponseCorrelation
import LocHal.Location.TrackingFlag

/-!
# The client of the framework (`gps/android/location_api/GnssAPIClient.cpp`)

`GnssAPIClient` has its `LocationAPIClientBase` start and stop the tracking session with the options
that the framework has asked for, and tells the framework when the engine goes on and off.

* `options_of_tracking`: while the base tracks a session, the options that `LocationAPI` has been
  given for it last are those of the latest `gnssSetPositionMode`, be its mode valid or not.
* `told_eq`: of an answer of the HAL the framework is told exactly if it is a success, and about the
  session that has been started last.
-/

namespace LocHal

/-- `IGnss::GnssPositionMode`, with one value for all that are invalid. -/
inductive GnssPositionMode where
  | standalone
  | msBased
  | msAssisted
  | invalid
deriving DecidableEq, Repr

/-- `IGnss::GnssPositionRecurrence`. -/
inductive GnssPositionRecurrence where
  | recurrencePeriodic
  | recurrenceSingle
deriving DecidableEq, Repr

/-- The values of `IGnssCallback::GnssStatusValue` that the framework is told. -/
inductive GnssStatusValue where
  | sessionBegin
  | sessionEnd
  | engineOn
  | engineOff
deriving DecidableEq, Repr

/-- `sizeof(LocationOptions)`. -/
def sizeofLocationOptions : ℕ := 24

/-- `GnssAPIClient`, as far as its session goes. -/
structure GnssAPIClient (Cb : Type*) where
  base : LocationAPIClientBase
  mGnssCbIface : Option Cb
  mLocationOptions : LocationOptions

namespace GnssAPIClient

variable {Cb : Type*}

/-- The constructor. -/
def init (gpsCb : Option Cb) : GnssAPIClient Cb :=
  ⟨.init, gpsCb, { size := sizeofLocationOptions, minInterval := 1000 }⟩

/-- The options of `gnssSetPositionMode`; those of an invalid mode keep the zero of `memset`. -/
def positionOptions (mode : GnssPositionMode) (recurrence : GnssPositionRecurrence)
    (minIntervalMs preferredAccuracyMeters : UInt32) : LocationOptions where
  size := sizeofLocationOptions
  minInterval := if recurrence = .recurrenceSingle then UInt32.size - 1 else minIntervalMs.toNat
  minDistance := preferredAccuracyMeters.toNat
  mode :=
    match mode with
    | .standalone => .standalone
    | .msBased => .msb
    | .msAssisted => .msa
    | .invalid => .standalone

/-- What a call returns, what `LocationAPI` is called with, and what the framework is told. -/
inductive Output (Cb : Type*) where
  | returned (retVal : Bool)
  | startTracking (session : ℕ) (options : LocationOptions)
  | stopTracking (session : ℕ)
  | updateTrackingOptions (session : ℕ) (options : LocationOptions)
  | gnssStatusCb (gnssCbIface : Cb) (status : GnssStatusValue)
deriving DecidableEq, Repr

/-- The calls of the framework that concern the session, and the answers of the HAL. -/
inductive Event (Cb : Type*) where
  | gnssUpdateCallbacks (gpsCb : Option Cb)
  | gnssStart
  | gnssStop
  | gnssSetPositionMode (mode : GnssPositionMode) (recurrence : GnssPositionRecurrence)
      (minIntervalMs preferredAccuracyMeters : UInt32)
  | answer (i : HalInterface) (error : LocationError)
deriving DecidableEq, Repr

/-- `gnssStart`.  A client with a callback asks for the satellites and for NMEA sentences. -/
def gnssStart (s : GnssAPIClient Cb) : GnssAPIClient Cb × List (Output Cb) :=
  let base := (s.base.locAPIStartTracking s.mGnssCbIface.isSome s.mLocationOptions).1
  ({ s with base := base },
    (if s.base.mTracking then [] else [.startTracking base.trackingSession s.mLocationOptions]) ++
      [.returned true])

/-- `gnssStop`. -/
def gnssStop (s : GnssAPIClient Cb) : GnssAPIClient Cb × List (Output Cb) :=
  ({ s with base := s.base.locAPIStopTracking },
    (if s.base.trackingSession > 0 then [.stopTracking s.base.trackingSession] else []) ++
      [.returned true])

/-- `gnssSetPositionMode`. -/
def gnssSetPositionMode (s : GnssAPIClient Cb) (mode : GnssPositionMode)
    (recurrence : GnssPositionRecurrence) (minIntervalMs preferredAccuracyMeters : UInt32) :
    GnssAPIClient Cb × List (Output Cb) :=
  let options := positionOptions mode recurrence minIntervalMs preferredAccuracyMeters
  ({ s with base := s.base.locAPIUpdateTrackingOptions, mLocationOptions := options },
    (if s.base.trackingSession > 0 then
      [.updateTrackingOptions s.base.trackingSession options] else []) ++
      [.returned (mode ≠ .invalid)])

/-- What the framework is told at a response of a kind: `onStartTrackingCb` or
`onStopTrackingCb`. -/
def statuses : RequestKind → LocationError → List GnssStatusValue
  | .startTracking, .success => [.engineOn, .sessionBegin]
  | .stopTracking, .success => [.sessionEnd, .engineOff]
  | _, _ => []

/-- The callback is told, if there is one. -/
def tell (s : GnssAPIClient Cb) (status : List GnssStatusValue) : List (Output Cb) :=
  match s.mGnssCbIface with
  | some gnssCbIface => status.map (.gnssStatusCb gnssCbIface)
  | none => []

/-- What comes of what the base does with an answer: the callback of the request. -/
def onDispatched (s : GnssAPIClient Cb) (error : LocationError) :
    LocationAPIClientBase.Output → List (Output Cb)
  | .dispatched _ (some request) => s.tell (statuses request.kind error)
  | .dispatched _ none => []
  | .returned _ => []

/-- One event. -/
def step (s : GnssAPIClient Cb) : Event Cb → GnssAPIClient Cb × List (Output Cb)
  | .gnssUpdateCallbacks gpsCb => ({ s with mGnssCbIface := gpsCb }, [])
  | .gnssStart => s.gnssStart
  | .gnssStop => s.gnssStop
  | .gnssSetPositionMode mode recurrence minIntervalMs preferredAccuracyMeters =>
      s.gnssSetPositionMode mode recurrence minIntervalMs preferredAccuracyMeters
  | .answer i error =>
      let answered := s.base.answer i error
      ({ s with base := answered.1 }, answered.2.flatMap (s.onDispatched error))

/-- The client as a machine. -/
def machine (Cb : Type*) : Machine (GnssAPIClient Cb) (Event Cb) (Output Cb) := ⟨step⟩

/-! ## The options of the session -/

/-- The options that an event asks for. -/
def Event.options : Event Cb → Option LocationOptions
  | gnssSetPositionMode mode recurrence minIntervalMs preferredAccuracyMeters =>
      some (positionOptions mode recurrence minIntervalMs preferredAccuracyMeters)
  | _ => none

/-- The options that are given for a session. -/
def Output.options (session : ℕ) : Output Cb → Option LocationOptions
  | startTracking session' options => if session' = session then some options else none
  | updateTrackingOptions session' options => if session' = session then some options else none
  | _ => none

/-- The options that have been given last for a session. -/
def given (session : ℕ) (os : List (Output Cb)) : Option LocationOptions :=
  os.reverse.findSome? (Output.options session)

section Options

variable {s : GnssAPIClient Cb} {os os' : List (Output Cb)} {session : ℕ}

lemma given_append : given session (os ++ os') = (given session os').or (given session os) := by
  rw [given, List.reverse_append, List.findSome?_append]
  rfl

/-- Outputs without options for the session. -/
lemma given_append_of_forall (h : ∀ o ∈ os', o.options session = none) :
    given session (os ++ os') = given session os := by
  have hnone : given session os' = none :=
    List.findSome?_eq_none_iff.mpr fun o ho => h o (List.mem_reverse.mp ho)
  rw [given_append, hnone, Option.none_or]

/-- Options for the session, given before the call returns. -/
lemma given_append_options {o : Output Cb} {options : LocationOptions} (retVal : Bool)
    (ho : o.options session = some options) :
    given session (os ++ ([o] ++ [.returned retVal])) = some options := by
  rw [given_append, given, List.reverse_append, List.findSome?_append]
  have hreturned : ([.returned retVal] : List (Output Cb)).reverse.findSome?
      (Output.options session) = none := rfl
  have hoptions : [o].reverse.findSome? (Output.options session) = some options := by
    rw [List.reverse_singleton, List.findSome?_singleton, ho]
  rw [hreturned, hoptions]
  rfl

/-- While the base tracks, its session has been given the client's options last. -/
structure Given (s : GnssAPIClient Cb) (os : List (Output Cb)) : Prop where
  nextSession : 0 < s.base.hal.nextSession
  session : s.base.mTracking = true → 0 < s.base.trackingSession
  given : s.base.mTracking = true →
    GnssAPIClient.given s.base.trackingSession os = some s.mLocationOptions

lemma started_session (b : LocationAPIClientBase) (needsGnssTrackingInfo : Bool)
    (options : LocationOptions) (h : b.mTracking = false) :
    (b.locAPIStartTracking needsGnssTrackingInfo options).1.trackingSession =
        b.hal.nextSession ∧
      (b.locAPIStartTracking needsGnssTrackingInfo options).1.hal.nextSession =
        b.hal.nextSession + 1 := by
  have hnot : ¬ b.mTracking = true := Bool.eq_false_iff.mp h
  rw [LocationAPIClientBase.locAPIStartTracking, if_neg hnot]
  exact ⟨rfl, rfl⟩

lemma stopped_session (b : LocationAPIClientBase) (hpos : b.trackingSession > 0) :
    b.locAPIStopTracking.mTracking = false ∧
      b.locAPIStopTracking.hal.nextSession = b.hal.nextSession := by
  have hstopped : b.locAPIStopTracking = _ := if_pos hpos
  rw [hstopped]
  exact ⟨rfl, rfl⟩

lemma updated_session (b : LocationAPIClientBase) (hpos : b.trackingSession > 0) :
    b.locAPIUpdateTrackingOptions.trackingSession = b.trackingSession ∧
      b.locAPIUpdateTrackingOptions.hal.nextSession = b.hal.nextSession := by
  have hupdated : b.locAPIUpdateTrackingOptions = _ := if_pos hpos
  rw [hupdated]
  exact ⟨rfl, rfl⟩

/-- An answer changes neither the flag nor the session. -/
lemma same_answer (b : LocationAPIClientBase) (i : HalInterface) (error : LocationError) :
    (b.answer i error).1.mTracking = b.mTracking ∧
      (b.answer i error).1.trackingSession = b.trackingSession ∧
      (b.answer i error).1.hal.nextSession = b.hal.nextSession := by
  rw [LocationAPIClientBase.answer]
  split
  · exact ⟨rfl, rfl, rfl⟩
  · split_ifs
    · rename_i c commands _ _
      have hsame := LocationAPIClientBase.sameTracking_onResponseCb
        (b.taken i c commands error) error c.session
      have hnext := congrArg Hal.nextSession hsame.hal
      exact ⟨hsame.flag, hsame.session, hnext⟩
    · exact ⟨rfl, rfl, rfl⟩

lemma options_tell (status : List GnssStatusValue) :
    ∀ o ∈ s.tell status, o.options session = none := by
  intro o ho
  rw [tell] at ho
  split at ho
  · obtain ⟨value, -, rfl⟩ := List.mem_map.mp ho
    rfl
  · cases ho

lemma options_onDispatched (error : LocationError) (o : LocationAPIClientBase.Output) :
    ∀ o' ∈ s.onDispatched error o, o'.options session = none := by
  intro o' ho'
  rw [onDispatched.eq_def] at ho'
  split at ho'
  · exact options_tell _ o' ho'
  · cases ho'
  · cases ho'

/-- **One event.** -/
lemma Given.step (h : Given s os) (e : Event Cb) :
    Given (s.step e).1 (os ++ (s.step e).2) := by
  cases e with
  | gnssUpdateCallbacks gpsCb =>
      have houts : os ++ (s.step (.gnssUpdateCallbacks gpsCb)).2 = os := List.append_nil os
      rw [houts]
      exact ⟨h.nextSession, h.session, h.given⟩
  | gnssStart =>
      cases htracking : s.base.mTracking with
      | true =>
          have hstep : s.step .gnssStart = (s, [.returned true]) := by
            simp [GnssAPIClient.step, gnssStart, LocationAPIClientBase.locAPIStartTracking,
              htracking]
          rw [hstep]
          refine ⟨h.nextSession, h.session, fun _ => ?_⟩
          rw [given_append_of_forall (by simp [Output.options])]
          exact h.given htracking
      | false =>
          obtain ⟨hsession, hnext⟩ := started_session s.base s.mGnssCbIface.isSome
            s.mLocationOptions htracking
          refine ⟨?_, fun _ => ?_, fun _ => ?_⟩
          · exact (Nat.succ_pos _).trans_eq hnext.symm
          · exact h.nextSession.trans_eq hsession.symm
          · simp only [GnssAPIClient.step, gnssStart, htracking, Bool.false_eq_true, if_false]
            exact given_append_options true (if_pos rfl)
  | gnssStop =>
      by_cases hpos : s.base.trackingSession > 0
      · obtain ⟨hflag, hnext⟩ := stopped_session s.base hpos
        refine ⟨h.nextSession.trans_eq hnext.symm, fun htracking => ?_, fun htracking => ?_⟩
        · exact absurd (hflag.symm.trans htracking) Bool.false_ne_true
        · exact absurd (hflag.symm.trans htracking) Bool.false_ne_true
      · have hstep : s.step .gnssStop = (s, [.returned true]) := by
          have hbase : s.base.locAPIStopTracking = s.base := if_neg hpos
          simp [GnssAPIClient.step, gnssStop, hbase, hpos]
        rw [hstep]
        refine ⟨h.nextSession, h.session, fun htracking => absurd (h.session htracking) hpos⟩
  | gnssSetPositionMode mode recurrence minIntervalMs preferredAccuracyMeters =>
      by_cases hpos : s.base.trackingSession > 0
      · have hbase := updated_session s.base hpos
        refine ⟨h.nextSession.trans_eq hbase.2.symm, fun _ => ?_, fun _ => ?_⟩
        · exact hpos.trans_eq hbase.1.symm
        · simp only [GnssAPIClient.step, gnssSetPositionMode, hpos, if_true, hbase.1]
          exact given_append_options _ (if_pos rfl)
      · have hbase : s.base.locAPIUpdateTrackingOptions = s.base := if_neg hpos
        have hnot : s.base.mTracking = false :=
          Bool.eq_false_iff.mpr fun htracking => hpos (h.session htracking)
        simp only [GnssAPIClient.step, gnssSetPositionMode, hbase]
        exact ⟨h.nextSession, h.session, fun htracking =>
          absurd (hnot.symm.trans htracking) Bool.false_ne_true⟩
  | answer i error =>
      obtain ⟨hflag, hsession, hnext⟩ := same_answer s.base i error
      refine ⟨h.nextSession.trans_eq hnext.symm, ?_, ?_⟩
      · intro htracking
        exact (h.session (hflag.symm.trans htracking)).trans_eq hsession.symm
      · intro htracking
        have hnone : ∀ o ∈ (s.step (.answer i error)).2,
            o.options s.base.trackingSession = none := by
          intro o ho
          obtain ⟨o', -, ho'⟩ := List.mem_flatMap.mp ho
          exact options_onDispatched error o' o ho'
        have hsame : (s.step (.answer i error)).1.base.trackingSession =
            s.base.trackingSession := hsession
        rw [hsame, given_append_of_forall hnone]
        exact h.given (hflag.symm.trans htracking)

/-- **The options of the session.**  In every run of calls of the framework and answers of the HAL,
while the base tracks, the options that its session has been given last are those of the latest
`gnssSetPositionMode`, or of the constructor. -/
theorem options_of_tracking (gpsCb : Option Cb) (history : List (Event Cb))
    (htracking : ((machine Cb).run (init gpsCb) history.reverse).base.mTracking = true) :
    given ((machine Cb).run (init gpsCb) history.reverse).base.trackingSession
        ((machine Cb).outs (init gpsCb) history.reverse) =
      some ((history.findSome? Event.options).getD (init gpsCb).mLocationOptions) := by
  have hrun : Given ((machine Cb).run (init gpsCb) history.reverse)
      ((machine Cb).outs (init gpsCb) history.reverse) := by
    clear htracking
    induction history with
    | nil => exact ⟨Nat.one_pos, fun h => absurd h Bool.false_ne_true, fun h =>
        absurd h Bool.false_ne_true⟩
    | cons e history ih =>
        have hone : (machine Cb).outs ((machine Cb).run (init gpsCb) history.reverse) [e] =
            (((machine Cb).run (init gpsCb) history.reverse).step e).2 := List.append_nil _
        rw [Machine.run_reverse_cons, List.reverse_cons, Machine.outs_append, hone]
        exact ih.step e
  have hsets : ∀ s e, ((machine Cb).next s e).mLocationOptions =
      (Event.options e).getD s.mLocationOptions := by
    intro s e
    cases e <;> rfl
  have hlatest := Machine.run_latest mLocationOptions hsets (init gpsCb) history
  rw [hrun.given htracking, hlatest]

/-- The options of a mode that is invalid are given to the session that goes on. -/
theorem options_of_tracking_invalid :
    given 1 ((machine Unit).outs (init (some ()))
        [.gnssStart, .gnssSetPositionMode .invalid .recurrenceSingle 500 10]) =
      some (positionOptions .invalid .recurrenceSingle 500 10) :=
  options_of_tracking (some ())
    [.gnssSetPositionMode .invalid .recurrenceSingle 500 10, .gnssStart] rfl

end Options

/-! ## What the framework is told -/

/-- A status is told. -/
def Output.isStatus : Output Cb → Bool
  | gnssStatusCb _ _ => true
  | _ => false

/-- What is to be told at an event: an answer about the session that has been started last. -/
def due (s : GnssAPIClient Cb) : Event Cb → List (Output Cb)
  | .answer i error =>
      match (s.base.hal.commands i).head? with
      | some c =>
          if s.base.hal.Answers i c ∧ c.session = s.base.trackingSession then
            s.tell (statuses c.kind error)
          else []
      | none => []
  | _ => []

/-- The base between the calls of this client: each command is one of a tracking call. -/
structure Sound (b : LocationAPIClientBase) : Prop where
  invariant : b.Invariant
  causes : ∀ i, ∀ c ∈ b.hal.commands i,
    ∃ request, c.cause = some (.tracking, request) ∧ request.kind = c.kind

section Told

variable {b : LocationAPIClientBase} {i : HalInterface} {c : HalCommand}
  {commands : List HalCommand} {s : GnssAPIClient Cb}

lemma Sound.startTracking (h : Sound b) (needsGnssTrackingInfo : Bool)
    (options : LocationOptions) :
    Sound (b.locAPIStartTracking needsGnssTrackingInfo options).1 where
  invariant := LocationAPIClientBase.invariant_locAPIStartTracking h.invariant _ _
  causes i c hc := by
    rw [LocationAPIClientBase.locAPIStartTracking] at hc
    split at hc
    · exact h.causes i c hc
    · rcases Hal.mem_commands_start.mp hc with hc | ⟨-, rfl⟩
      · exact h.causes i c hc
      · exact ⟨_, rfl, rfl⟩

/-- A command on the tracking session is sent to both interfaces. -/
lemma Sound.causes_sendBoth (h : Sound b) {kind : RequestKind} {session : ℕ}
    (hc : c ∈ (b.hal.sendBoth
      ⟨kind, session, some (.tracking, b.newRequest kind)⟩).commands i) :
    ∃ request, c.cause = some (.tracking, request) ∧ request.kind = c.kind := by
  rw [Hal.sendBoth] at hc
  rcases Hal.mem_commands_send.mp hc with hc | ⟨-, rfl⟩
  · rcases Hal.mem_commands_send.mp hc with hc | ⟨-, rfl⟩
    · exact h.causes i c hc
    · exact ⟨_, rfl, rfl⟩
  · exact ⟨_, rfl, rfl⟩

lemma Sound.stopTracking (h : Sound b) : Sound b.locAPIStopTracking where
  invariant := LocationAPIClientBase.invariant_locAPIStopTracking h.invariant
  causes i c hc := by
    rw [LocationAPIClientBase.locAPIStopTracking] at hc
    simp only at hc
    split at hc
    · exact h.causes_sendBoth hc
    · exact h.causes i c hc

lemma Sound.updateTrackingOptions (h : Sound b) : Sound b.locAPIUpdateTrackingOptions where
  invariant := LocationAPIClientBase.invariant_locAPIUpdateTrackingOptions h.invariant
  causes i c hc := by
    rw [LocationAPIClientBase.locAPIUpdateTrackingOptions] at hc
    simp only at hc
    split at hc
    · exact h.causes_sendBoth hc
    · exact h.causes i c hc

/-- A response about a session that is no longer the tracking session leaves the invariant. -/
lemma Sound.taken_late (h : Sound b) (hq : b.hal.commands i = c :: commands)
    (hc : (b.mRequestQueues .tracking).mSession ≠ c.session) (error : LocationError) :
    (b.taken i c commands error).Invariant := by
  obtain ⟨request, hcause, -⟩ := h.causes i c (hq ▸ List.mem_cons_self)
  have hlive := Hal.liveAfter_answered b.hal i c error
  refine { h.invariant with
    hal := h.invariant.hal.take hq hlive
    apart := fun i' c' hc' => (h.invariant.apart i' c' (Hal.mem_commands_take hq hc')).mono rfl id
    tracksQueue := h.invariant.tracksQueue.take_other hq hlive hc.symm
    unanswered := ?_ }
  simp only [LocationAPIClientBase.taken, hcause, LocationAPIClientBase.markAnswered]
  exact h.invariant.unanswered

/-- The response to a command goes to a request of its kind, or to none if the command is about a
session that has been replaced. -/
lemma Sound.response (h : Sound b) (hq : b.hal.commands i = c :: commands)
    (hanswers : b.hal.Answers i c) (error : LocationError) :
    Sound ((b.taken i c commands error).onResponseCb error c.session).1 ∧
      (((b.taken i c commands error).onResponseCb error c.session).2.map (·.kind) =
        if c.session = b.trackingSession then some c.kind else none) := by
  have hmem : c ∈ b.hal.commands i := hq ▸ List.mem_cons_self
  obtain ⟨request, hcause, hkind⟩ := h.causes i c hmem
  have hcauses : ∀ i', ∀ c' ∈ ((b.taken i c commands error).onResponseCb error
      c.session).1.hal.commands i',
      ∃ request, c'.cause = some (.tracking, request) ∧ request.kind = c'.kind := by
    intro i' c' hc'
    have hsame := LocationAPIClientBase.sameTracking_onResponseCb (b.taken i c commands error)
      error c.session
    rw [hsame.hal] at hc'
    exact h.causes i' c' (Hal.mem_commands_take hq hc')
  obtain ⟨hdispatched, hinvariant⟩ := h.invariant.response hq hanswers error
  by_cases hc : (b.mRequestQueues .tracking).mSession = c.session
  · have hin : b.CommandInTime c := by
      rw [LocationAPIClientBase.CommandInTime, hcause]
      exact hc
    have hsession : c.session = b.trackingSession := hc.symm
    refine ⟨⟨hinvariant hin, hcauses⟩, ?_⟩
    rw [hdispatched.mpr hin, hcause, if_pos hsession]
    exact congrArg some hkind
  · have hapart : b.mSessionBiDict.hasSession c.session = false := by
      have hapart := h.invariant.apart i c hmem
      rw [LocationAPIClientBase.Apart, hcause] at hapart
      exact hapart
    have hne : ¬ c.session = b.trackingSession := Ne.symm hc
    have hnone : (b.taken i c commands error).onResponseCb error c.session =
        (b.taken i c commands error, none) :=
      h.invariant.response_none hmem hc hapart error
    refine ⟨⟨?_, hcauses⟩, ?_⟩
    · rw [hnone]
      exact h.taken_late hq hc error
    · rw [hnone, if_neg hne]
      rfl

lemma Sound.ignored (h : Sound b) (hq : b.hal.commands i = c :: commands)
    (hnot : ¬ b.hal.Answers i c) :
    Sound { b with hal := b.hal.take i commands (b.hal.live i) } where
  invariant := h.invariant.ignored hq hnot
  causes i' c' hc' := h.causes i' c' (Hal.mem_commands_take hq hc')

/-- **An answer.**  It keeps the base sound, and the framework is told what is due. -/
lemma Sound.answer (h : Sound s.base) (i : HalInterface) (error : LocationError) :
    Sound (s.base.answer i error).1 ∧
      (s.base.answer i error).2.flatMap (s.onDispatched error) = s.due (.answer i error) := by
  cases hq : s.base.hal.commands i with
  | nil =>
      simp only [LocationAPIClientBase.answer, due, hq]
      exact ⟨h, rfl⟩
  | cons c commands =>
      by_cases hanswers : s.base.hal.Answers i c
      · obtain ⟨hsound, hkind⟩ := h.response hq hanswers error
        have hanswer : s.base.answer i error =
            (((s.base.taken i c commands error).onResponseCb error c.session).1,
              [.dispatched c
                ((s.base.taken i c commands error).onResponseCb error c.session).2]) := by
          simp only [LocationAPIClientBase.answer, hq, if_pos hanswers]
          rfl
        have hdue : s.due (.answer i error) =
            if c.session = s.base.trackingSession then s.tell (statuses c.kind error) else [] := by
          simp [due, hq, hanswers]
        rw [hanswer, hdue]
        refine ⟨hsound, ?_⟩
        rw [List.flatMap_singleton]
        by_cases hsession : c.session = s.base.trackingSession
        · rw [if_pos hsession] at hkind ⊢
          obtain ⟨request, hrequest, hrequest_kind⟩ := Option.map_eq_some_iff.mp hkind
          rw [hrequest, ← hrequest_kind]
          rfl
        · rw [if_neg hsession] at hkind ⊢
          rw [Option.map_eq_none_iff.mp hkind]
          rfl
      · have hanswer : s.base.answer i error =
            ({ s.base with hal := s.base.hal.take i commands (s.base.hal.live i) }, []) := by
          simp only [LocationAPIClientBase.answer, hq, if_neg hanswers]
        have hdue : s.due (.answer i error) = [] := by
          simp [due, hq, hanswers]
        rw [hanswer, hdue]
        exact ⟨h.ignored hq hanswers, rfl⟩

/-- **One event** keeps the base sound. -/
lemma Sound.next (h : Sound s.base) (e : Event Cb) : Sound ((machine Cb).next s e).base := by
  cases e with
  | gnssUpdateCallbacks gpsCb => exact h
  | gnssStart => exact h.startTracking _ _
  | gnssStop => exact h.stopTracking
  | gnssSetPositionMode mode recurrence minIntervalMs preferredAccuracyMeters =>
      exact h.updateTrackingOptions
  | answer i error => exact (h.answer i error).1

/-- What is told is a status. -/
lemma isStatus_tell (status : List GnssStatusValue) :
    (s.tell status).filter Output.isStatus = s.tell status := by
  refine List.filter_eq_self.mpr fun o ho => ?_
  rw [tell] at ho
  split at ho
  · obtain ⟨value, -, rfl⟩ := List.mem_map.mp ho
    rfl
  · cases ho

/-- What is due is told, and nothing else. -/
lemma Sound.told (h : Sound s.base) (e : Event Cb) :
    ((machine Cb).emit s e).filter Output.isStatus = s.due e := by
  cases e with
  | gnssUpdateCallbacks gpsCb => rfl
  | gnssStart =>
      simp only [Machine.emit, machine, step, gnssStart]
      split_ifs <;> rfl
  | gnssStop =>
      simp only [Machine.emit, machine, step, gnssStop]
      split_ifs <;> rfl
  | gnssSetPositionMode mode recurrence minIntervalMs preferredAccuracyMeters =>
      simp only [Machine.emit, machine, step, gnssSetPositionMode]
      split_ifs <;> rfl
  | answer i error =>
      have hemit : (machine Cb).emit s (.answer i error) = s.due (.answer i error) :=
        (h.answer i error).2
      rw [hemit, due.eq_def]
      simp only
      split
      · split_ifs
        · exact isStatus_tell _
        · rfl
      · rfl

/-- **What the framework is told.**  At every event of every run, the statuses that are told are
those that are due: the two of a start or of a stop that the HAL answers with success, when the
session is still the one that has been started last and there is a callback. -/
theorem told_eq (gpsCb : Option Cb) (es : List (Event Cb)) :
    (machine Cb).Steps
      (fun s e => ((machine Cb).emit s e).filter Output.isStatus = s.due e) (init gpsCb) es := by
  have hinit : Sound (init gpsCb : GnssAPIClient Cb).base :=
    ⟨LocationAPIClientBase.invariant_init, fun _ _ hc => absurd hc List.not_mem_nil⟩
  have halways : (machine Cb).Always (fun s => Sound s.base) (init gpsCb) es :=
    Machine.always_of_steps (C := fun _ _ => True) (fun _ e h _ => h.next e) hinit
      (Machine.steps_of_forall (machine Cb) (fun _ _ => trivial) _ _)
  exact halways.steps fun _ e h => h.told e

end Told

end GnssAPIClient
end LocHal
