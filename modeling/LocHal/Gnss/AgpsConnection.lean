import LocHal.Gnss.Agps

/-!
# The data connection of an AGPS state machine

A state machine of the base class asks the framework for a data connection and gives it back.
`outstanding` watches a run from the framework's side: a connection is outstanding from a request
until a release, and also ends when the framework itself denies it in `PENDING` or takes it away
in `ACQUIRED`.  A request while one is outstanding, or a release while none is, breaks the pairing.

`outstanding_eq_connected` says that no run does, whatever the modem and the framework send and
whenever the subscribers are dropped, and that the state machine's own state tells exactly whether
a connection is outstanding.
-/

namespace LocHal
namespace AgpsStateMachine

/-- The states in which the machine has a connection or is waiting for one. -/
def connected (sm : AgpsStateMachine) : Bool := sm.mState = .pending || sm.mState = .acquired

/-- One output seen by the framework, given whether a connection is outstanding: `none` when the
output breaks the pairing of requests and releases. -/
def pair : Bool → AgpsOutput → Option Bool
  | outstanding, .requestDataConn _ => if outstanding then none else some true
  | outstanding, .releaseDataConn _ => if outstanding then some false else none
  | outstanding, _ => some outstanding

/-- The framework ends the connection itself: a `DENIED` processed in `PENDING`, or a `RELEASED`
processed in `ACQUIRED`. -/
def endedByFramework (sm : AgpsStateMachine) : Call → Bool
  | .denied => sm.mState = .pending
  | .released => sm.mState = .acquired
  | _ => false

/-- Whether a connection is outstanding after one call. -/
def outstanding (before : Bool) (sm : AgpsStateMachine) (c : Call) (outs : List AgpsOutput) :
    Option Bool :=
  outs.foldlM pair (before && !endedByFramework sm c)

lemma foldlM_pair_notice (b : Bool) (sm : AgpsStateMachine) (event : AgpsEvent)
    (s : AgpsSubscriber) : (sm.notice event s).foldlM pair b = some b := by
  cases event <;> rfl

/-- The modem's callbacks are no business of the framework. -/
lemma foldlM_pair_notices (b : Bool) (sm : AgpsStateMachine) (event : AgpsEvent)
    (l : List AgpsSubscriber) : (l.flatMap (sm.notice event)).foldlM pair b = some b := by
  induction l with
  | nil => rfl
  | cons s l ih =>
      rw [List.flatMap_cons, List.foldlM_append, foldlM_pair_notice]
      exact ih

lemma addSubscriber_mState (sm : AgpsStateMachine) (s : AgpsSubscriber) :
    (sm.addSubscriber s).mState = sm.mState := by
  unfold addSubscriber
  split
  · rfl
  · rfl

lemma releaseSubscriber_mState (sm : AgpsStateMachine) (s : AgpsSubscriber) :
    (releaseSubscriber base sm s).1.mState = sm.mState := by
  unfold releaseSubscriber
  split
  · rfl
  · rfl

lemma foldlM_pair_releaseSubscriber (b : Bool) (sm : AgpsStateMachine) (s : AgpsSubscriber) :
    (releaseSubscriber base sm s).2.foldlM pair b = some b := by
  unfold releaseSubscriber
  split
  · rfl
  · rfl

section Calls

variable (sm : AgpsStateMachine)

lemma pair_processAgpsEventSubscribe (s : AgpsSubscriber) :
    (processAgpsEventSubscribe base sm s).2.foldlM pair sm.connected =
      some (processAgpsEventSubscribe base sm s).1.connected := by
  unfold processAgpsEventSubscribe
  cases hstate : sm.mState with
  | released => simp only [connected, hstate]; rfl
  | pending => simp only [connected, addSubscriber_mState, hstate]; rfl
  | acquired =>
      have hnotify : base.notifyEventToSubscriber sm .granted s false =
        (sm, sm.notice .granted s) := rfl
      simp only [hnotify, foldlM_pair_notice, connected, addSubscriber_mState]
  | releasing => simp only [connected, addSubscriber_mState, hstate]; rfl

/-- In `PENDING` and `ACQUIRED` a connection is outstanding, and leaving them releases it. -/
lemma pair_unsubscribeConnected (s : AgpsSubscriber) (hconn : sm.connected = true) :
    (unsubscribeConnected base sm s).2.foldlM pair true =
      some (unsubscribeConnected base sm s).1.connected := by
  have hleft := foldlM_pair_releaseSubscriber true sm s
  have hstate := releaseSubscriber_mState sm s
  simp only [unsubscribeConnected]
  split
  · rw [List.foldlM_append, hleft]
    rfl
  · split
    · rw [List.foldlM_append, hleft]
      rfl
    · rw [hleft, connected, hstate, ← connected, hconn]

lemma pair_processAgpsEventUnsubscribe (s : AgpsSubscriber) :
    (processAgpsEventUnsubscribe base sm s).2.foldlM pair sm.connected =
      some (processAgpsEventUnsubscribe base sm s).1.connected := by
  unfold processAgpsEventUnsubscribe
  cases hstate : sm.mState with
  | released => exact foldlM_pair_notice sm.connected sm .unsubscribe s
  | pending =>
      have hconn : sm.connected = true := by simp [connected, hstate]
      simp only [hconn, pair_unsubscribeConnected sm s hconn]
  | acquired =>
      have hconn : sm.connected = true := by simp [connected, hstate]
      simp only [hconn, pair_unsubscribeConnected sm s hconn]
  | releasing =>
      have hleft := foldlM_pair_releaseSubscriber sm.connected sm s
      have hleftState := releaseSubscriber_mState sm s
      simp only []
      split
      · rw [hleft]
        simp [connected, transitionState, hstate]
      · rw [hleft, connected, connected, hleftState]

lemma pair_processAgpsEventGranted :
    (processAgpsEventGranted base sm).2.foldlM pair sm.connected =
      some (processAgpsEventGranted base sm).1.connected := by
  unfold processAgpsEventGranted
  cases hstate : sm.mState with
  | pending =>
      simp only [notifyAllSubscribers_base, foldlM_pair_notices]
      simp [connected, transitionState, hstate]
  | released => rfl
  | acquired => rfl
  | releasing => rfl

/-- In `RELEASING` none is outstanding, and going back to `PENDING` requests a new one. -/
lemma pair_finishReleasing :
    (finishReleasing base sm).2.foldlM pair false = some (finishReleasing base sm).1.connected := by
  simp only [finishReleasing, notifyAllSubscribers_base, if_true]
  split
  · rw [List.foldlM_append, foldlM_pair_notices]
    rfl
  · rw [foldlM_pair_notices]
    rfl

lemma pair_processAgpsEventReleased :
    outstanding sm.connected sm .released (processAgpsEventReleased base sm).2 =
      some (processAgpsEventReleased base sm).1.connected := by
  unfold outstanding processAgpsEventReleased
  cases hstate : sm.mState with
  | released => simp [connected, endedByFramework, hstate]
  | acquired =>
      simp only [notifyAllSubscribers_base, foldlM_pair_notices]
      simp [connected, endedByFramework, transitionState, hstate]
  | releasing =>
      have hconn : sm.connected = false := by simp [connected, hstate]
      simp only [hconn, Bool.false_and, pair_finishReleasing]
  | pending => simp [connected, endedByFramework, hstate]

lemma pair_processAgpsEventDenied :
    outstanding sm.connected sm .denied (processAgpsEventDenied base sm).2 =
      some (processAgpsEventDenied base sm).1.connected := by
  unfold outstanding processAgpsEventDenied
  cases hstate : sm.mState with
  | released => simp [connected, endedByFramework, hstate]
  | acquired => simp [connected, endedByFramework, hstate]
  | releasing =>
      have hconn : sm.connected = false := by simp [connected, hstate]
      simp only [hconn, Bool.false_and, pair_finishReleasing]
  | pending =>
      simp only [notifyAllSubscribers_base, foldlM_pair_notices]
      simp [connected, endedByFramework, transitionState, hstate]

/-- **One call.** It breaks no pairing, and the new state tells whether one is outstanding. -/
lemma outstanding_call (c : Call) :
    outstanding sm.connected sm c (machine.emit sm c) = some (machine.next sm c).connected := by
  have hplain : endedByFramework sm c = false →
      outstanding sm.connected sm c (machine.emit sm c) =
        (machine.emit sm c).foldlM pair sm.connected := by
    intro h
    rw [outstanding, h, Bool.not_false, Bool.and_true]
  cases c with
  | subscribe h wait =>
      rw [hplain rfl]
      exact pair_processAgpsEventSubscribe sm ⟨h, wait, false⟩
  | unsubscribe h =>
      rw [hplain rfl]
      cases hget : sm.getSubscriber h with
      | none => simp [Machine.emit, Machine.next, machine, call, hget]
      | some s =>
          simp only [Machine.emit, Machine.next, machine, call, hget]
          exact pair_processAgpsEventUnsubscribe sm s
  | granted =>
      rw [hplain rfl]
      exact pair_processAgpsEventGranted sm
  | released => exact pair_processAgpsEventReleased sm
  | denied => exact pair_processAgpsEventDenied sm
  | dropAllSubscribers =>
      rw [hplain rfl]
      rfl

end Calls

/-- **Requests and releases are paired.** Whatever calls a state machine gets, it requests a
connection only when none is outstanding and releases one only when one is, and one is outstanding
exactly in the states `PENDING` and `ACQUIRED`. -/
theorem outstanding_eq_connected (agpsType : AGpsExtType) (calls : List Call) :
    machine.watch outstanding false (init agpsType) calls =
      some (machine.run (init agpsType) calls).connected := by
  have hstep : ∀ (b : Bool) (sm : AgpsStateMachine) (c : Call), b = sm.connected → True →
      ∃ b', outstanding b sm c (machine.emit sm c) = some b' ∧
        b' = (machine.next sm c).connected := by
    rintro b sm c rfl -
    exact ⟨_, outstanding_call sm c, rfl⟩
  obtain ⟨b, hwatch, hb⟩ := Machine.watch_of_steps hstep
    (show false = (init agpsType).connected from rfl)
    (machine.steps_of_forall (fun _ _ => trivial) (init agpsType) calls)
  rw [hwatch, hb]

end AgpsStateMachine
end LocHal
