import LocHal.Lib.Machine
import Mathlib.Data.List.Induction
import Mathlib.Data.List.TakeWhile

/-!
# The observer of the XTRA daemon (`gps/gnss/XtraSystemStatusObserver.cpp`)

The observer keeps the state that the XTRA daemon asks for.  Once the daemon has sent a first
`requestStatus`, each update is sent to it in a message of its own, and a `requestStatus` with
status 0 is answered with everything that is known so far.

Messages are given by the values printed in them.  The 32 bits of the lock are printed as unsigned
in one message and as signed in the other, with an empty line for -1, so they are compared as
32 bits.  A string that goes through `c_str()` ends at its first null character.
-/

namespace LocHal
namespace Xtra

/-- What `c_str()` gives of a string. -/
def cStr (s : List Char) : List Char := s.takeWhile (· ≠ '\x00')

/-- The part of `XtraSystemStatusObserver` that is about the daemon. -/
structure XtraSystemStatusObserver where
  mGpsLock : Int32 := -1
  mConnections : UInt64 := 0
  mTac : List Char := []
  mMccmnc : List Char := []
  mXtraThrottle : Bool := true
  mReqStatusReceived : Bool := false
  mIsConnectivityStatusKnown : Bool := false
deriving DecidableEq, Repr

namespace XtraSystemStatusObserver

/-- The messages to the daemon. -/
inductive Output where
  | gpslock (lock : UInt32)
  | connection (connections : UInt64)
  | tac (tac : List Char)
  | mncmcc (mccmnc : List Char)
  | xtrathrottle (enabled : Bool)
  | respondStatus (gpsLock : Option Int32) (connections : UInt64) (tac mccmnc : List Char)
      (isConnectivityStatusKnown : Bool)
deriving DecidableEq, Repr

/-- The calls on the observer, and the requests of the daemon as they are processed. -/
inductive Event where
  | updateLockStatus (lock : UInt32)
  | updateConnections (allConnections : UInt64)
  | updateTac (tac : List Char)
  | updateMccMnc (mccmnc : List Char)
  | updateXtraThrottle (enabled : Bool)
  | requestStatus (xtraStatusUpdated : Int32)
deriving DecidableEq, Repr

/-- `updateLockStatus`. -/
def updateLockStatus (x : XtraSystemStatusObserver) (lock : UInt32) :
    XtraSystemStatusObserver × List Output :=
  let x := { x with mGpsLock := lock.toInt32 }
  if !x.mReqStatusReceived then (x, []) else (x, [.gpslock lock])

/-- `updateConnections`. -/
def updateConnections (x : XtraSystemStatusObserver) (allConnections : UInt64) :
    XtraSystemStatusObserver × List Output :=
  let x := { x with mIsConnectivityStatusKnown := true, mConnections := allConnections }
  if !x.mReqStatusReceived then (x, []) else (x, [.connection x.mConnections])

/-- `updateTac`. -/
def updateTac (x : XtraSystemStatusObserver) (tac : List Char) :
    XtraSystemStatusObserver × List Output :=
  let x := { x with mTac := tac }
  if !x.mReqStatusReceived then (x, []) else (x, [.tac (cStr tac)])

/-- `updateMccMnc`. -/
def updateMccMnc (x : XtraSystemStatusObserver) (mccmnc : List Char) :
    XtraSystemStatusObserver × List Output :=
  let x := { x with mMccmnc := mccmnc }
  if !x.mReqStatusReceived then (x, []) else (x, [.mncmcc (cStr mccmnc)])

/-- `updateXtraThrottle`. -/
def updateXtraThrottle (x : XtraSystemStatusObserver) (enabled : Bool) :
    XtraSystemStatusObserver × List Output :=
  let x := { x with mXtraThrottle := enabled }
  if !x.mReqStatusReceived then (x, []) else (x, [.xtrathrottle enabled])

/-- `onStatusRequested`. -/
def onStatusRequested (x : XtraSystemStatusObserver) (xtraStatusUpdated : Int32) :
    XtraSystemStatusObserver × List Output :=
  let x := { x with mReqStatusReceived := true }
  if xtraStatusUpdated ≠ 0 then (x, [])
  else
    (x, [.respondStatus (if x.mGpsLock = -1 then none else some x.mGpsLock) x.mConnections x.mTac
      x.mMccmnc x.mIsConnectivityStatusKnown])

/-- One call, or one request. -/
def step (x : XtraSystemStatusObserver) : Event → XtraSystemStatusObserver × List Output
  | .updateLockStatus lock => x.updateLockStatus lock
  | .updateConnections allConnections => x.updateConnections allConnections
  | .updateTac tac => x.updateTac tac
  | .updateMccMnc mccmnc => x.updateMccMnc mccmnc
  | .updateXtraThrottle enabled => x.updateXtraThrottle enabled
  | .requestStatus xtraStatusUpdated => x.onStatusRequested xtraStatusUpdated

/-- The observer as a machine. -/
def machine : Machine XtraSystemStatusObserver Event Output := ⟨step⟩

/-! ## The view of the daemon -/

/-- The values that the daemon last received. -/
structure DaemonView where
  gpsLock : Option Int32 := none
  connections : Option UInt64 := none
  tac : Option (List Char) := none
  mccmnc : Option (List Char) := none
  xtraThrottle : Option Bool := none
deriving DecidableEq, Repr

/-- The view after one more message. -/
def DaemonView.receive (v : DaemonView) : Output → DaemonView
  | .gpslock lock => { v with gpsLock := some lock.toInt32 }
  | .connection connections => { v with connections := some connections }
  | .tac tac => { v with tac := some tac }
  | .mncmcc mccmnc => { v with mccmnc := some mccmnc }
  | .xtrathrottle enabled => { v with xtraThrottle := some enabled }
  | .respondStatus gpsLock connections tac mccmnc _ =>
      { v with
        gpsLock := some (gpsLock.getD (-1))
        connections := some connections
        tac := some tac
        mccmnc := some mccmnc }

/-- The view after some messages, oldest first. -/
def DaemonView.ofOutputs (out : List Output) : DaemonView := out.foldl .receive {}

/-- The daemon has last received the values that the observer has. -/
structure Agrees (v : DaemonView) (x : XtraSystemStatusObserver) : Prop where
  gpsLock : v.gpsLock = some x.mGpsLock
  connections : v.connections = some x.mConnections
  tac : v.tac = some x.mTac
  mccmnc : v.mccmnc = some x.mMccmnc
  xtraThrottle : v.xtraThrottle = some x.mXtraThrottle

/-- A request, with whatever status. -/
def Event.isRequestStatus : Event → Bool
  | .requestStatus _ => true
  | _ => false

/-- A call of `updateXtraThrottle`. -/
def Event.isUpdateXtraThrottle : Event → Bool
  | .updateXtraThrottle _ => true
  | _ => false

/-- What `updateLockStatus` is called with, as it is kept. -/
def Event.gpsLock? : Event → Option Int32
  | .updateLockStatus lock => some lock.toInt32
  | _ => none

/-- What `updateConnections` is called with. -/
def Event.connections? : Event → Option UInt64
  | .updateConnections allConnections => some allConnections
  | _ => none

/-- What `updateTac` is called with. -/
def Event.tac? : Event → Option (List Char)
  | .updateTac tac => some tac
  | _ => none

/-- What `updateMccMnc` is called with. -/
def Event.mccmnc? : Event → Option (List Char)
  | .updateMccMnc mccmnc => some mccmnc
  | _ => none

/-- The last of the updates of one string and of the requests with status 0: it is the last that has
sent the string to the daemon. -/
def lastSend {α : Type*} (value? : Event → Option α) (es : List Event) : Option Event :=
  es.reverse.find? fun e => (value? e).isSome || e == .requestStatus 0

/-- If the string was last sent by an update of its own, then there is no null character in it. -/
def SentWhole (value? : Event → Option (List Char)) (es : List Event) : Prop :=
  ∀ e ∈ lastSend value? es, ∀ s ∈ value? e, '\x00' ∉ s

/-- There is a call of `updateXtraThrottle` after the first request. -/
def ThrottleSent (es : List Event) : Prop :=
  ∃ e ∈ es.dropWhile (!·.isRequestStatus), e.isUpdateXtraThrottle = true

/-- The events give the daemon all that the observer has. -/
structure Covered (es : List Event) : Prop where
  throttle : ThrottleSent es
  tac : SentWhole Event.tac? es
  mccmnc : SentWhole Event.mccmnc? es

lemma cStr_eq_self_iff {s : List Char} : cStr s = s ↔ '\x00' ∉ s := by
  rw [cStr, List.takeWhile_eq_self_iff]
  constructor
  · intro h hmem
    simpa using h _ hmem
  · intro h c hc
    simpa using fun heq : c = '\x00' => h (heq ▸ hc)

section Run

variable (es : List Event) (e : Event)

/-- The view of the daemon after a run. -/
def viewAfter : DaemonView := .ofOutputs (machine.outs {} es)

/-- The observer after a run. -/
def observerAfter : XtraSystemStatusObserver := machine.run {} es

lemma viewAfter_concat :
    viewAfter (es ++ [e]) = ((observerAfter es).step e).2.foldl .receive (viewAfter es) := by
  rw [viewAfter, Machine.outs_append, DaemonView.ofOutputs, List.foldl_append]
  exact congrArg (fun out => List.foldl _ _ out) (List.append_nil _)

lemma observerAfter_concat : observerAfter (es ++ [e]) = ((observerAfter es).step e).1 :=
  Machine.run_append _ _ _ _

end Run

/-- What a step does to the values of the observer. -/
lemma observer_step (x : XtraSystemStatusObserver) (e : Event) :
    (x.step e).1 =
      match e with
      | .updateLockStatus lock => { x with mGpsLock := lock.toInt32 }
      | .updateConnections allConnections =>
          { x with mIsConnectivityStatusKnown := true, mConnections := allConnections }
      | .updateTac tac => { x with mTac := tac }
      | .updateMccMnc mccmnc => { x with mMccmnc := mccmnc }
      | .updateXtraThrottle enabled => { x with mXtraThrottle := enabled }
      | .requestStatus _ => { x with mReqStatusReceived := true } := by
  cases e with
  | requestStatus status =>
      by_cases hstatus : status = 0
      · simp [step, onStatusRequested, hstatus]
      · simp [step, onStatusRequested, hstatus]
  | updateLockStatus _ | updateConnections _ | updateTac _ | updateMccMnc _
  | updateXtraThrottle _ =>
      simp only [step, updateLockStatus, updateConnections, updateTac, updateMccMnc,
        updateXtraThrottle]
      split_ifs with hrequested
      · rfl
      · rfl

/-- What a step does to the view: an update that is sent is seen, and an answer is seen. -/
lemma view_step (x : XtraSystemStatusObserver) (v : DaemonView) (e : Event) :
    (x.step e).2.foldl .receive v =
      match e with
      | .updateLockStatus lock =>
          if x.mReqStatusReceived then { v with gpsLock := some lock.toInt32 } else v
      | .updateConnections allConnections =>
          if x.mReqStatusReceived then { v with connections := some allConnections } else v
      | .updateTac tac => if x.mReqStatusReceived then { v with tac := some (cStr tac) } else v
      | .updateMccMnc mccmnc =>
          if x.mReqStatusReceived then { v with mccmnc := some (cStr mccmnc) } else v
      | .updateXtraThrottle enabled =>
          if x.mReqStatusReceived then { v with xtraThrottle := some enabled } else v
      | .requestStatus xtraStatusUpdated =>
          if xtraStatusUpdated = 0 then
            { v with
              gpsLock := some x.mGpsLock
              connections := some x.mConnections
              tac := some x.mTac
              mccmnc := some x.mMccmnc }
          else v := by
  cases e with
  | requestStatus status =>
      simp only [step, onStatusRequested]
      by_cases hstatus : status = 0
      · by_cases hlock : x.mGpsLock = -1
        · simp [hstatus, hlock, DaemonView.receive]
        · simp [hstatus, hlock, DaemonView.receive]
      · simp [hstatus]
  | updateLockStatus _ | updateConnections _ | updateTac _ | updateMccMnc _
  | updateXtraThrottle _ =>
      simp only [step, updateLockStatus, updateConnections, updateTac, updateMccMnc,
        updateXtraThrottle]
      cases x.mReqStatusReceived with
      | true => rfl
      | false => rfl

lemma mReqStatusReceived_step (x : XtraSystemStatusObserver) (e : Event) :
    (x.step e).1.mReqStatusReceived = (x.mReqStatusReceived || e.isRequestStatus) := by
  rw [observer_step]
  cases e with
  | updateLockStatus _ | updateConnections _ | updateTac _ | updateMccMnc _
  | updateXtraThrottle _ =>
      simp [Event.isRequestStatus]
  | requestStatus status => simp [Event.isRequestStatus]

lemma requested_iff (es : List Event) :
    (observerAfter es).mReqStatusReceived = true ↔ ∃ e ∈ es, e.isRequestStatus = true := by
  induction es using List.reverseRecOn with
  | nil => simp [observerAfter]
  | append_singleton es e ih =>
      rw [observerAfter_concat, mReqStatusReceived_step, Bool.or_eq_true, ih]
      simp only [List.mem_append, List.mem_singleton, or_and_right, exists_or, exists_eq_left]

/-! ## The values that are sent -/

/-- How one value of the observer is sent: an update by `value?`, which the daemon gets as `sent`
once there was a request, and the answer to a request with status 0. -/
structure Sends {α : Type*} (value? : Event → Option α) (sent : α → α)
    (get : XtraSystemStatusObserver → α) (read : DaemonView → Option α) : Prop where
  update : ∀ (x : XtraSystemStatusObserver) (v : DaemonView) (e : Event) (a : α),
    value? e = some a → get (x.step e).1 = a ∧
      (x.mReqStatusReceived = true → read ((x.step e).2.foldl .receive v) = some (sent a))
  answer : ∀ (x : XtraSystemStatusObserver) (v : DaemonView),
    get (x.step (.requestStatus 0)).1 = get x ∧
      read ((x.step (.requestStatus 0)).2.foldl .receive v) = some (get x)
  other : ∀ (x : XtraSystemStatusObserver) (v : DaemonView) (e : Event),
    value? e = none → e ≠ .requestStatus 0 →
      get (x.step e).1 = get x ∧ read ((x.step e).2.foldl .receive v) = read v
  request : value? (.requestStatus 0) = none

/-- **One value.** The daemon has it if the update that sent it last, if any, sent it whole. -/
lemma Sends.read_iff {α : Type*} {value? : Event → Option α} {sent : α → α}
    {get : XtraSystemStatusObserver → α} {read : DaemonView → Option α}
    (h : Sends value? sent get read) {es : List Event} (hanswered : .requestStatus 0 ∈ es) :
    read (viewAfter es) = some (get (observerAfter es)) ↔
      ∀ e ∈ lastSend value? es, ∀ a ∈ value? e, sent a = a := by
  induction es using List.reverseRecOn with
  | nil => simp at hanswered
  | append_singleton es e ih =>
      rw [viewAfter_concat, observerAfter_concat, lastSend, List.reverse_concat, List.find?_cons]
      by_cases he : e = .requestStatus 0
      · subst he
        obtain ⟨hget, hread⟩ := h.answer (observerAfter es) (viewAfter es)
        simp [hget, hread, h.request]
      · have hanswered' : .requestStatus 0 ∈ es := by simpa [Ne.symm he] using hanswered
        have hrequested : (observerAfter es).mReqStatusReceived = true :=
          (requested_iff es).mpr ⟨_, hanswered', rfl⟩
        cases hvalue : value? e with
        | some a =>
            obtain ⟨hget, hread⟩ := h.update (observerAfter es) (viewAfter es) e a hvalue
            simp [hget, hread hrequested, hvalue]
        | none =>
            obtain ⟨hget, hread⟩ := h.other (observerAfter es) (viewAfter es) e hvalue he
            rw [hget, hread, ih hanswered', lastSend, beq_false_of_ne he]
            simp

lemma sends_gpsLock : Sends Event.gpsLock? id mGpsLock DaemonView.gpsLock where
  update x v e a h := by
    rw [view_step, observer_step]
    cases e <;> cases h
    simp +contextual
  answer x v := by simp [view_step, observer_step]
  other x v e h he := by
    rw [view_step, observer_step]
    cases e <;> grind [Event.gpsLock?]
  request := rfl

lemma sends_connections : Sends Event.connections? id mConnections DaemonView.connections where
  update x v e a h := by
    rw [view_step, observer_step]
    cases e <;> cases h
    simp +contextual
  answer x v := by simp [view_step, observer_step]
  other x v e h he := by
    rw [view_step, observer_step]
    cases e <;> grind [Event.connections?]
  request := rfl

lemma sends_tac : Sends Event.tac? cStr mTac DaemonView.tac where
  update x v e a h := by
    rw [view_step, observer_step]
    cases e <;> cases h
    simp +contextual
  answer x v := by simp [view_step, observer_step]
  other x v e h he := by
    rw [view_step, observer_step]
    cases e <;> grind [Event.tac?]
  request := rfl

lemma sends_mccmnc : Sends Event.mccmnc? cStr mMccmnc DaemonView.mccmnc where
  update x v e a h := by
    rw [view_step, observer_step]
    cases e <;> cases h
    simp +contextual
  answer x v := by simp [view_step, observer_step]
  other x v e h he := by
    rw [view_step, observer_step]
    cases e <;> grind [Event.mccmnc?]
  request := rfl

lemma throttleSent_concat (es : List Event) (e : Event) :
    ThrottleSent (es ++ [e]) ↔ ThrottleSent es ∨
      (observerAfter es).mReqStatusReceived = true ∧ e.isUpdateXtraThrottle = true := by
  rw [ThrottleSent, ThrottleSent, List.dropWhile_append, requested_iff]
  have hempty : (es.dropWhile (!·.isRequestStatus)).isEmpty = true ↔
      ¬ ∃ e ∈ es, e.isRequestStatus = true := by
    simp [List.isEmpty_iff]
  split_ifs with hnone
  · have hnil := List.isEmpty_iff.mp hnone
    rw [hnil]
    simp only [hempty.mp hnone, false_and, or_false, List.not_mem_nil, exists_false, iff_false]
    -- the first request is not an update
    cases e <;> simp [Event.isRequestStatus, Event.isUpdateXtraThrottle]
  · have hsome := not_not.mp (hempty.not.mp hnone)
    simp only [hsome, true_and, List.mem_append, List.mem_singleton, or_and_right, exists_or,
      exists_eq_left]

lemma ThrottleSent.requested {es : List Event} (h : ThrottleSent es) :
    (observerAfter es).mReqStatusReceived = true := by
  obtain ⟨e, he, -⟩ := h
  by_contra hnone
  have hall : ∀ e ∈ es, (!e.isRequestStatus) = true := by
    simpa [requested_iff] using hnone
  rw [List.dropWhile_eq_nil_iff.mpr hall] at he
  simp at he

/-- **The throttle.** It is only ever sent by an update. -/
lemma xtraThrottle_viewAfter (es : List Event) :
    (ThrottleSent es → (viewAfter es).xtraThrottle = some (observerAfter es).mXtraThrottle) ∧
      (¬ ThrottleSent es → (viewAfter es).xtraThrottle = none) := by
  induction es using List.reverseRecOn with
  | nil => exact ⟨fun h => by simp [ThrottleSent] at h, fun _ => rfl⟩
  | append_singleton es e ih =>
      rw [throttleSent_concat, viewAfter_concat, observerAfter_concat, view_step, observer_step]
      cases e with
      | updateXtraThrottle enabled =>
          cases hrequested : (observerAfter es).mReqStatusReceived with
          | true => simp [Event.isUpdateXtraThrottle]
          | false =>
              have hnot : ¬ ThrottleSent es := fun h => by simp [h.requested] at hrequested
              simp [hnot, ih.2 hnot]
      | requestStatus status =>
          simp only [Event.isUpdateXtraThrottle, Bool.false_eq_true, and_false, or_false]
          split_ifs with hstatus
          · exact ih
          · exact ih
      | updateLockStatus _ | updateConnections _ | updateTac _ | updateMccMnc _ =>
          simp only [Event.isUpdateXtraThrottle, Bool.false_eq_true, and_false, or_false]
          split_ifs with hrequested
          · exact ih
          · exact ih

/-- **The view of the daemon.** Once a request with status 0 has been processed, the daemon has last
received what the observer has exactly when the throttle was updated after the first request, of
whatever status, and the strings that were last sent by updates of their own have no null
characters. -/
theorem daemon_agrees_iff (es : List Event) (hanswered : .requestStatus 0 ∈ es) :
    Agrees (.ofOutputs (machine.outs {} es)) (machine.run {} es) ↔ Covered es := by
  have htac : (viewAfter es).tac = some (observerAfter es).mTac ↔ SentWhole Event.tac? es := by
    rw [sends_tac.read_iff hanswered]
    simp only [SentWhole, cStr_eq_self_iff]
  have hmccmnc : (viewAfter es).mccmnc = some (observerAfter es).mMccmnc ↔
      SentWhole Event.mccmnc? es := by
    rw [sends_mccmnc.read_iff hanswered]
    simp only [SentWhole, cStr_eq_self_iff]
  constructor
  · intro h
    refine ⟨?_, htac.mp h.tac, hmccmnc.mp h.mccmnc⟩
    by_contra hnot
    have hnone := (xtraThrottle_viewAfter es).2 hnot
    rw [viewAfter, h.xtraThrottle] at hnone
    cases hnone
  · intro h
    exact ⟨(sends_gpsLock.read_iff hanswered).mpr fun _ _ _ _ => rfl,
      (sends_connections.read_iff hanswered).mpr fun _ _ _ _ => rfl,
      htac.mpr h.tac, hmccmnc.mpr h.mccmnc, (xtraThrottle_viewAfter es).1 h.throttle⟩

/-- A throttle that is updated after the first request reaches the daemon. -/
theorem daemon_agrees_after_throttle :
    let es : List Event := [.updateTac ['5'], .requestStatus 0, .updateXtraThrottle false,
      .updateLockStatus 3]
    .requestStatus 0 ∈ es ∧
      (Agrees (.ofOutputs (machine.outs {} es)) (machine.run {} es) ↔ Covered es) :=
  have hanswered : .requestStatus 0 ∈ ([.updateTac ['5'], .requestStatus 0,
      .updateXtraThrottle false, .updateLockStatus 3] : List Event) := by decide
  ⟨hanswered, daemon_agrees_iff _ hanswered⟩

/-- A throttle that is updated before the first request does not: the answer leaves it out. -/
theorem throttle_not_answered :
    ¬ Agrees (.ofOutputs (machine.outs {} [.updateXtraThrottle false, .requestStatus 0]))
      (machine.run {} [.updateXtraThrottle false, .requestStatus 0]) := fun h =>
  absurd h.xtraThrottle (by decide)

end XtraSystemStatusObserver

end Xtra
end LocHal
