import LocHal.Gnss.AgpsSends
import Mathlib.Algebra.Ring.Nat

/-!
# The AGPS manager and the adapter's queue

A request that falls back from the emergency connection to the normal one, and a retry of the
emergency connection, are put on the adapter's queue and come back to the manager later, when the
subscriber may have been released, closed or denied.  An `AgpsQueue` is the manager together with
these requests and the retry timers that run.

`always_closedGone_iff` says what it takes for a handle that is closed to be gone for good.
-/

namespace LocHal

/-! ## The manager with what it has set going -/

/-- The manager with all three machines, the requests it has put on the adapter's queue and the
retry timers that run.  No code reads the other two: the handles that the modem has requested and
not released, and the handles that have been closed with success since the modem last requested
them. -/
structure AgpsQueue where
  mAgpsManager : AgpsManager
  queue : List (ℤ × AGpsExtType)
  retryTimers : ℕ
  held : List ℤ
  closed : List ℤ
deriving DecidableEq, Repr

namespace AgpsQueue

/-- The configuration with the emergency PDN enabled. -/
def conf : AgpsConf := ⟨true, true, some 0⟩

/-- The machines have been created. -/
def init : AgpsQueue := ⟨(AgpsManager.createAgpsStateMachines conf .init).1, [], 0, [], []⟩

/-- What happens: the modem's calls, the reports of the data call and of the framework, a retry
timer that expires, and the processing of the `AgpsMsgRequestATL` at the head of the queue. -/
inductive Event where
  | requestATL (connHandle : ℤ) (agpsType : AGpsExtType)
  | releaseATL (connHandle : ℤ)
  | reportDataCallOpened
  | reportDataCallClosed
  | reportAtlOpenSuccess (agpsType : AGpsExtType) (apnName : Option (List Char)) (apnLen : ℕ)
      (bearerType : AGpsBearerType)
  | reportAtlOpenFailed (agpsType : AGpsExtType)
  | reportAtlClosed (agpsType : AGpsExtType)
  | retryTimerExpired
  | nextMsg
deriving DecidableEq, Repr

/-- The call on the manager that an event makes. -/
def Event.call (q : AgpsQueue) : Event → Option AgpsManager.Call
  | .requestATL connHandle agpsType => some (.requestATL connHandle agpsType)
  | .releaseATL connHandle => some (.releaseATL connHandle)
  | .reportDataCallOpened => some .reportDataCallOpened
  | .reportDataCallClosed => some .reportDataCallClosed
  | .reportAtlOpenSuccess agpsType apnName apnLen bearerType =>
      some (.reportAtlOpenSuccess agpsType apnName apnLen bearerType)
  | .reportAtlOpenFailed agpsType => some (.reportAtlOpenFailed agpsType)
  | .reportAtlClosed agpsType => some (.reportAtlClosed agpsType)
  | .retryTimerExpired => if q.retryTimers = 0 then none else some .retryCallback
  | .nextMsg => q.queue.head?.map fun msg => .requestATL msg.1 msg.2

/-- The rest of what there was, as the call is made. -/
def Event.before (q : AgpsQueue) : Event → AgpsQueue
  | .requestATL connHandle _ =>
      { q with held := connHandle :: q.held, closed := q.closed.filter (· ≠ connHandle) }
  | .releaseATL connHandle => { q with held := q.held.filter (· ≠ connHandle) }
  | .retryTimerExpired => { q with retryTimers := q.retryTimers - 1 }
  | .nextMsg => { q with queue := q.queue.tail }
  | .reportDataCallOpened | .reportDataCallClosed | .reportAtlOpenSuccess _ _ _ _
  | .reportAtlOpenFailed _ | .reportAtlClosed _ => q

/-- The retry timers that an output starts. -/
def timersStarted (client : DSClient) : AgpsOutput → ℕ
  | .startRetryTimer _ => if client.timerStarted then 1 else 0
  | _ => 0

/-- What a call has set going. -/
def absorb (client : DSClient) (q : AgpsQueue) (result : AgpsManager × List AgpsOutput) :
    AgpsQueue :=
  { q with
    mAgpsManager := result.1
    queue := q.queue ++ result.2.filterMap AgpsOutput.queued
    retryTimers := q.retryTimers + (result.2.map (timersStarted client)).sum
    closed := q.closed ++ result.2.filterMap AgpsOutput.closed }

/-- One event, with what the DS client answers. -/
def step (q : AgpsQueue) (e : DSClient × Event) : AgpsQueue × List AgpsOutput :=
  match e.2.call q with
  | none => (q, [])
  | some c =>
      let result := AgpsManager.call conf e.1 q.mAgpsManager c
      (absorb e.1 (e.2.before q) result, result.2)

/-- The manager with its queue as a machine. -/
def machine : Machine AgpsQueue (DSClient × Event) AgpsOutput := ⟨step⟩

/-- One of the three machines. -/
def machineAt (q : AgpsQueue) (n : Nif) : AgpsStateMachine := q.mAgpsManager.machineAt n

end AgpsQueue

namespace AgpsManager

/-! ## Which machine gets a call -/

/-- The machine for an AGPS type. -/
def nifOf : AGpsExtType → Nif
  | .invalid | .supl => .agnss
  | .suplEs => .ds
  | .any | .c2k | .wwanAny | .wifi | .other _ => .internet

lemma nifOf_eq_ds {agpsType : AGpsExtType} : nifOf agpsType = .ds ↔ agpsType = .suplEs := by
  cases agpsType with
  | suplEs => exact iff_of_true rfl rfl
  | invalid | supl | any | c2k | wwanAny | wifi | other =>
      exact iff_of_false (by simp [nifOf]) (by simp)

/-- All machines are there. -/
def Present (m : AgpsManager) : Prop := ∀ n, (m.nif n).isSome

/-- The machine that a call on a manager with all machines is passed to, and as what. -/
def passed (m : AgpsManager) : Call → Option (Nif × AgpsStateMachine.Call)
  | .requestATL connHandle agpsType =>
      some (nifOf agpsType, .subscribe connHandle (agpsType = .suplEs))
  | .releaseATL connHandle =>
      if m.finds .agnss connHandle then some (.agnss, .unsubscribe connHandle)
      else if m.finds .internet connHandle then some (.internet, .unsubscribe connHandle)
      else if m.finds .ds connHandle then some (.ds, .unsubscribe connHandle)
      else none
  | .reportDataCallOpened => some (.ds, .granted)
  | .reportDataCallClosed => some (.ds, .released)
  | .reportAtlOpenSuccess agpsType _ _ _ => some (nifOf agpsType, .granted)
  | .reportAtlOpenFailed agpsType => some (nifOf agpsType, .denied)
  | .reportAtlClosed agpsType => some (nifOf agpsType, .released)
  | .createAgpsStateMachines | .retryCallback | .handleModemSSR => none

/-- A call that is passed to a machine changes this machine and no other, and sends what the machine
sends. -/
structure PassedTo (client : DSClient) (m : AgpsManager) (n : Nif) (c : AgpsStateMachine.Call)
    (result : AgpsManager × List AgpsOutput) (sm : AgpsStateMachine) : Prop where
  present : result.1.Present
  same : (m.machineAt n).Same sm
  mRetries : sm.mRetries = (m.machineAt n).mRetries
  target : result.1.machineAt n =
    (AgpsStateMachine.call (methodsAt client n) sm (translated n sm c)).1
  others : ∀ n', n' ≠ n → result.1.machineAt n' = m.machineAt n'
  outs : result.2 = (AgpsStateMachine.call (methodsAt client n) sm (translated n sm c)).2

section Passed

variable {client : DSClient} {m : AgpsManager}

lemma Present.nif (hm : m.Present) (n : Nif) : m.nif n = some (m.machineAt n) := by
  obtain ⟨sm, hsm⟩ := Option.isSome_iff_exists.mp (hm n)
  rw [hsm, machineAt_of_nif hsm]

lemma Present.setNif (hm : m.Present) (n : Nif) (sm : AgpsStateMachine) :
    (m.setNif n sm).Present := by
  intro n'
  rw [nif_setNif]
  split
  · rfl
  · exact hm n'

lemma Present.get (hm : m.Present) (agpsType : AGpsExtType) :
    getAgpsStateMachine AgpsQueue.conf m agpsType = (m, nifOf agpsType, []) := by
  cases agpsType with
  | suplEs =>
      have hds : m.mDsNif.isNone = false := Option.isNone_eq_false_iff.mpr (hm .ds)
      simp only [getAgpsStateMachine, hds]
      rfl
  | invalid | supl | any | c2k | wwanAny | wifi | other => rfl

lemma passedTo_process (hm : m.Present) (client : DSClient) (n : Nif) (c : AgpsStateMachine.Call) :
    PassedTo client m n c (process client m n c) (m.machineAt n) := by
  have heq : process client m n c = _ := process_eq (hm.nif n) c
  exact {
    present := heq ▸ hm.setNif n _
    same := .refl _
    mRetries := rfl
    target := by rw [heq, machineAt_setNif, if_pos rfl]
    others := fun n' hne => by rw [heq, machineAt_setNif, if_neg hne]
    outs := by rw [heq] }

/-- **Inversion of a call**, when it is passed to a machine. -/
lemma passedTo_call (client : DSClient) (hm : m.Present) {c : Call} {n : Nif}
    {c' : AgpsStateMachine.Call} (hc : m.passed c = some (n, c')) :
    ∃ sm, PassedTo client m n c' (call AgpsQueue.conf client m c) sm := by
  have hprocess := passedTo_process hm client n c'
  cases c with
  | requestATL connHandle agpsType =>
      cases hc
      refine ⟨m.machineAt (nifOf agpsType), ?_⟩
      simpa only [call, requestATL, hm.get, hm.nif, List.nil_append] using hprocess
  | releaseATL connHandle =>
      refine ⟨m.machineAt n, ?_⟩
      simp only [passed] at hc
      simp only [call, releaseATL]
      split at hc
      · rename_i hfinds
        cases hc
        simpa only [hfinds, if_true] using hprocess
      · rename_i hagnss
        rw [if_neg hagnss]
        split at hc
        · rename_i hfinds
          cases hc
          simpa only [hfinds, if_true] using hprocess
        · rename_i hinternet
          rw [if_neg hinternet]
          split at hc
          · rename_i hfinds
            cases hc
            simpa only [hfinds, if_true] using hprocess
          · cases hc
  | reportDataCallOpened | reportDataCallClosed =>
      cases hc
      have hds : m.mDsNif.isSome = true := hm .ds
      refine ⟨m.machineAt .ds, ?_⟩
      simpa only [call, reportDataCall, hds, if_true] using hprocess
  | reportAtlOpenSuccess agpsType apnName apnLen bearerType =>
      cases hc
      -- the bearer and the APN are set before the event is processed
      set sm := ((m.machineAt (nifOf agpsType)).setBearer bearerType).setAPN apnName apnLen with hsm
      have hset := passedTo_process (hm.setNif (nifOf agpsType) sm) client (nifOf agpsType) .granted
      have hat : (m.setNif (nifOf agpsType) sm).machineAt (nifOf agpsType) = sm := by
        rw [machineAt_setNif, if_pos rfl]
      rw [hat] at hset
      refine ⟨sm, ?_⟩
      simp only [call, reportAtlOpenSuccess, hm.get, hm.nif, List.nil_append]
      exact {
        present := hset.present
        same := ⟨rfl, rfl⟩
        mRetries := rfl
        target := hset.target
        others := fun n' hne => by rw [hset.others n' hne, machineAt_setNif, if_neg hne]
        outs := hset.outs }
  | reportAtlOpenFailed agpsType | reportAtlClosed agpsType =>
      cases hc
      refine ⟨m.machineAt (nifOf agpsType), ?_⟩
      simpa only [call, reportAtl, hm.get, List.nil_append] using hprocess
  | createAgpsStateMachines | retryCallback | handleModemSSR => cases hc

/-- **Inversion of the other calls** of a run: a release of a handle that nobody lists, and the
callback of a retry timer. -/
lemma call_aside_cases (client : DSClient) {c : Call} (hc : m.passed c = none)
    (hcreate : c ≠ .createAgpsStateMachines) (hssr : c ≠ .handleModemSSR) :
    (∃ h, c = .releaseATL h ∧
        call AgpsQueue.conf client m c = (m, [.atlCloseStatus h false])) ∨
      (c = .retryCallback ∧ call AgpsQueue.conf client m c =
        (m, (m.mDsNif.map DSStateMachine.retryCallback).getD [])) := by
  cases c with
  | createAgpsStateMachines => exact absurd rfl hcreate
  | handleModemSSR => exact absurd rfl hssr
  | requestATL | reportDataCallOpened | reportDataCallClosed | reportAtlOpenSuccess
  | reportAtlOpenFailed | reportAtlClosed => cases hc
  | releaseATL connHandle =>
      refine .inl ⟨connHandle, rfl, ?_⟩
      simp only [passed] at hc
      simp only [call, releaseATL]
      split at hc
      · cases hc
      · rename_i hagnss
        split at hc
        · cases hc
        · rename_i hinternet
          split at hc
          · cases hc
          · rename_i hds
            rw [if_neg hagnss, if_neg hinternet, if_neg hds]
  | retryCallback => exact .inr ⟨rfl, rfl⟩

lemma outs_retryCallback (m : AgpsManager) :
    (m.mDsNif.map DSStateMachine.retryCallback).getD [] = [] ∨
      ∃ h, (m.mDsNif.map DSStateMachine.retryCallback).getD [] = [.msgRequestATL h .suplEs] := by
  cases m.mDsNif with
  | none => exact .inl rfl
  | some sm =>
      simp only [Option.map_some, Option.getD_some, DSStateMachine.retryCallback]
      split
      · rename_i s _
        exact .inr ⟨s.mConnHandle, rfl⟩
      · exact .inl rfl

/-- They send a close without success, or a retry, or nothing. -/
lemma outs_aside (client : DSClient) {c : Call} (hc : m.passed c = none)
    (hcreate : c ≠ .createAgpsStateMachines) (hssr : c ≠ .handleModemSSR) :
    (call AgpsQueue.conf client m c).2 = [] ∨
      (∃ h, (call AgpsQueue.conf client m c).2 = [.atlCloseStatus h false]) ∨
      ∃ h, (call AgpsQueue.conf client m c).2 = [.msgRequestATL h .suplEs] := by
  rcases call_aside_cases client hc hcreate hssr with ⟨h, -, hcall⟩ | ⟨-, hcall⟩
  · rw [hcall]
    exact .inr (.inl ⟨h, rfl⟩)
  · rw [hcall]
    exact (outs_retryCallback m).imp_right .inr

/-- They change no machine, close nothing, and queue at most a retry. -/
lemma call_aside (client : DSClient) {c : Call} (hc : m.passed c = none)
    (hcreate : c ≠ .createAgpsStateMachines) (hssr : c ≠ .handleModemSSR) :
    (call AgpsQueue.conf client m c).1 = m ∧
      (call AgpsQueue.conf client m c).2.filterMap AgpsOutput.closed = [] ∧
      (call AgpsQueue.conf client m c).2.filterMap AgpsOutput.queued =
        if c = .retryCallback then
          ((m.mDsNif.map DSStateMachine.retryCallback).getD []).filterMap AgpsOutput.queued
        else [] := by
  rcases call_aside_cases client hc hcreate hssr with ⟨h, rfl, hcall⟩ | ⟨rfl, hcall⟩
  · rw [hcall]
    exact ⟨rfl, rfl, rfl⟩
  · rw [hcall]
    refine ⟨rfl, ?_, rfl⟩
    rcases outs_retryCallback m with houts | ⟨h, houts⟩ <;> rw [houts] <;> rfl

/-- A release goes to a machine that lists the handle, and to `mDsNif` only if no other does. -/
lemma passed_releaseATL (m : AgpsManager) (h : ℤ) :
    (∃ n, m.passed (.releaseATL h) = some (n, .unsubscribe h) ∧ (m.machineAt n).Lists h ∧
        (n = .ds → ∀ n', n' ≠ .ds → ¬ (m.machineAt n').Lists h)) ∨
      (m.passed (.releaseATL h) = none ∧ ∀ n, ¬ (m.machineAt n).Lists h) := by
  have hnot : ∀ {n}, m.finds n h ≠ true → ¬ (m.machineAt n).Lists h :=
    fun hfinds hl => hfinds (finds_of_lists hl)
  simp only [passed]
  split
  · rename_i hagnss
    exact .inl ⟨.agnss, rfl, lists_of_finds hagnss, by simp⟩
  · rename_i hagnss
    split
    · rename_i hinternet
      exact .inl ⟨.internet, rfl, lists_of_finds hinternet, by simp⟩
    · rename_i hinternet
      have hothers : ∀ n', n' ≠ .ds → ¬ (m.machineAt n').Lists h := by
        intro n' hne
        cases n' with
        | agnss => exact hnot hagnss
        | internet => exact hnot hinternet
        | ds => exact absurd rfl hne
      split
      · rename_i hds
        exact .inl ⟨.ds, rfl, lists_of_finds hds, fun _ => hothers⟩
      · rename_i hds
        refine .inr ⟨rfl, fun n => ?_⟩
        by_cases hn : n = .ds
        · subst hn
          exact hnot hds
        · exact hothers n hn

/-- What a release passes is the end of a subscription. -/
lemma eq_unsubscribe_of_passed_releaseATL {connHandle : ℤ} {n : Nif} {c : AgpsStateMachine.Call}
    (hc : m.passed (.releaseATL connHandle) = some (n, c)) : c = .unsubscribe connHandle := by
  rcases passed_releaseATL m connHandle with ⟨n', hc', -⟩ | ⟨hc', -⟩
  · rw [hc'] at hc
    cases hc
    rfl
  · rw [hc'] at hc
    cases hc

/-- Only requests subscribe, and only those for the emergency connection wait for the close. -/
lemma passed_subscribe {c : Call} {n : Nif} {h : ℤ} {wait : Bool}
    (hc : m.passed c = some (n, .subscribe h wait)) : wait = decide (n = .ds) := by
  cases c with
  | requestATL connHandle agpsType =>
      cases hc
      exact decide_eq_decide.mpr nifOf_eq_ds.symm
  | releaseATL connHandle =>
      cases eq_unsubscribe_of_passed_releaseATL hc
  | reportDataCallOpened | reportDataCallClosed | reportAtlOpenSuccess | reportAtlOpenFailed
  | reportAtlClosed | createAgpsStateMachines | retryCallback | handleModemSSR => cases hc

/-- No call of a run drops the subscribers. -/
lemma passed_ne_drop {c : Call} {n : Nif} : m.passed c ≠ some (n, .dropAllSubscribers) := by
  intro hc
  cases c with
  | releaseATL connHandle =>
      cases eq_unsubscribe_of_passed_releaseATL hc
  | requestATL | reportDataCallOpened | reportDataCallClosed | reportAtlOpenSuccess
  | reportAtlOpenFailed | reportAtlClosed | createAgpsStateMachines | retryCallback
  | handleModemSSR => cases hc

end Passed

/-! ## The machine that gets a call -/

section PassedTo

open AgpsStateMachine (Same listAfter closedBy closing sent Sends)

variable {client : DSClient} {m : AgpsManager} {n : Nif} {c : AgpsStateMachine.Call}
  {result : AgpsManager × List AgpsOutput} {sm sm' : AgpsStateMachine} {h : ℤ}

lemma sends_closing_at (client : DSClient) (n : Nif) :
    Sends (methodsAt client n) AgpsOutput.closed closing fun _ => True := by
  unfold methodsAt
  split
  · exact DSStateMachine.sends_closing client
  · exact AgpsStateMachine.sends_closing_base

/-- Taking a `RELEASED` for a `DENIED` makes no difference to what is closed. -/
lemma closedBy_translated (n : Nif) (sm : AgpsStateMachine) (c : AgpsStateMachine.Call) :
    sm.closedBy (translated n sm c) = sm.closedBy c := by
  unfold translated
  split
  · rename_i hcase
    obtain ⟨-, rfl, hst⟩ := hcase
    simp [closedBy, sent, hst, closing]
  · rfl

lemma PassedTo.list (hp : PassedTo client m n c result sm) :
    (result.1.machineAt n).mSubscriberList = sm.listAfter (translated n sm c) := by
  rw [hp.target, AgpsStateMachine.mSubscriberList_call (lawful_methodsAt client n)]

lemma same_closedBy (hs : sm.Same sm') (c : AgpsStateMachine.Call) :
    sm'.closedBy c = sm.closedBy c := by
  cases c with
  | subscribe | unsubscribe | granted | released | denied | dropAllSubscribers =>
      simp only [closedBy, sent, hs.mState, hs.mSubscriberList, hs.getSubscriber]

/-- What the call closes. -/
lemma PassedTo.closed (hp : PassedTo client m n c result sm) :
    result.2.filterMap AgpsOutput.closed = (m.machineAt n).closedBy c := by
  rw [hp.outs, (sends_closing_at client n).filterMap_call (lawful_methodsAt client n)
    fun _ => trivial]
  exact (closedBy_translated n sm c).trans (same_closedBy hp.same c)

/-- Who is listed afterwards was listed before, or has just subscribed. -/
lemma PassedTo.lists (hp : PassedTo client m n c result sm) {n' : Nif}
    (hl : (result.1.machineAt n').Lists h) :
    (m.machineAt n').Lists h ∨ (n' = n ∧ ∃ wait, c = .subscribe h wait) := by
  by_cases hn : n' = n
  · subst hn
    obtain ⟨s, hs, rfl⟩ := hl
    rw [hp.list] at hs
    rcases AgpsStateMachine.origin_of_listAfter hs with ⟨s', hs', heq, -⟩ | hc
    · exact .inl ⟨s', hp.same.mSubscriberList ▸ hs', heq⟩
    · refine .inr ⟨rfl, s.mWaitForCloseComplete, ?_⟩
      unfold translated at hc
      split at hc
      · cases hc
      · exact hc
  · rw [hp.others n' hn] at hl
    exact .inl hl

/-- A new subscriber is listed. -/
lemma PassedTo.lists_subscribe (hp : PassedTo client m n c result sm) {wait : Bool}
    (hc : c = .subscribe h wait) : (result.1.machineAt n).Lists h := by
  subst hc
  have htranslated : translated n sm (.subscribe h wait) = .subscribe h wait :=
    if_neg fun hcase => by simp at hcase
  rw [AgpsStateMachine.Lists, hp.list, htranslated, listAfter,
    AgpsStateMachine.mSubscriberList_addSubscriber]
  split
  · rename_i hlisted
    obtain ⟨s, hs, heq⟩ := List.any_eq_true.mp hlisted
    exact ⟨s, hs, by simpa [AgpsSubscriber.equals] using heq⟩
  · exact ⟨⟨h, wait, false⟩, by simp, rfl⟩

/-- **What is closed is gone**, in the machine that closes it, unless it is in `RELEASED`. -/
lemma PassedTo.closed_lists_iff (hp : PassedTo client m n c result sm)
    (htidy : (m.machineAt n).Tidy) (hclosed : h ∈ (m.machineAt n).closedBy c) :
    (result.1.machineAt n).Lists h ↔ (m.machineAt n).mState = .released := by
  have hsm : sm.Tidy := hp.same.tidy htidy
  rw [← same_closedBy hp.same c, ← closedBy_translated n sm c] at hclosed
  rw [AgpsStateMachine.Lists, hp.list, ← hp.same.mState]
  exact AgpsStateMachine.listed_of_closedBy_iff hsm.nodup hclosed

end PassedTo

end AgpsManager

namespace AgpsQueue

open AgpsManager (PassedTo passedTo_call call_aside nifOf methodsAt translated)

/-! ## What every run keeps -/

/-- All machines are there and tidy, those of the base class agree with their lists, and exactly the
subscribers of `mDsNif` wait for the close. -/
structure Kept (q : AgpsQueue) : Prop where
  present : q.mAgpsManager.Present
  tidy : ∀ n, (q.machineAt n).Tidy
  agrees : ∀ n, n ≠ .ds → (q.machineAt n).Agrees
  waits : ∀ n, ∀ s ∈ (q.machineAt n).mSubscriberList, s.mWaitForCloseComplete = decide (n = .ds)

section Kept

variable {q : AgpsQueue} {client : DSClient} {e : Event} {c : AgpsManager.Call} {n : Nif}
  {c' : AgpsStateMachine.Call} {h : ℤ}

lemma kept_init : init.Kept where
  present n := by cases n with | agnss | internet | ds => rfl
  tidy n := by cases n with | agnss | internet | ds => exact AgpsStateMachine.tidy_init _
  agrees n _ := by cases n with | agnss | internet | ds => rfl
  waits n s hs := by cases n with | agnss | internet | ds => cases hs

lemma call_retryTimerExpired (q : AgpsQueue) : Event.call q .retryTimerExpired = none ∨
    Event.call q .retryTimerExpired = some .retryCallback := by
  rw [Event.call]
  split
  · exact .inl rfl
  · exact .inr rfl

lemma call_nextMsg_none (hhead : q.queue.head? = none) : Event.call q .nextMsg = none := by
  rw [Event.call, hhead, Option.map_none]

lemma call_nextMsg {msg : ℤ × AGpsExtType} (hhead : q.queue.head? = some msg) :
    Event.call q .nextMsg = some (.requestATL msg.1 msg.2) := by
  rw [Event.call, hhead, Option.map_some]

/-- The calls of a run create nothing and are no modem restart. -/
lemma call_ne (hc : e.call q = some c) : c ≠ .createAgpsStateMachines ∧ c ≠ .handleModemSSR := by
  cases e with
  | retryTimerExpired =>
      rcases call_retryTimerExpired q with hcall | hcall
      · cases hcall.symm.trans hc
      · obtain rfl := Option.some.inj (hcall.symm.trans hc)
        simp
  | nextMsg =>
      obtain ⟨msg, -, rfl⟩ := Option.map_eq_some_iff.mp hc
      simp
  | requestATL | releaseATL | reportDataCallOpened | reportDataCallClosed | reportAtlOpenSuccess
  | reportAtlOpenFailed | reportAtlClosed =>
      cases hc
      simp

lemma next_of_call (hc : e.call q = some c) :
    machine.next q (client, e) =
      absorb client (e.before q) (AgpsManager.call conf client q.mAgpsManager c) := by
  simp only [Machine.next, machine, step, hc]

lemma next_of_none (hc : e.call q = none) : machine.next q (client, e) = q := by
  simp only [Machine.next, machine, step, hc]

lemma Kept.after (hq : q.Kept) {result : AgpsManager × List AgpsOutput} {sm : AgpsStateMachine}
    (hp : PassedTo client q.mAgpsManager n c' result sm) (hdrop : c' ≠ .dropAllSubscribers)
    (hsubscribe : ∀ h wait, c' = .subscribe h wait → wait = decide (n = .ds)) (q' : AgpsQueue)
    (hq' : q'.mAgpsManager = result.1) : q'.Kept where
  present := hq' ▸ hp.present
  tidy n' := by
    rw [machineAt, hq']
    by_cases hn : n' = n
    · subst hn
      rw [hp.target]
      exact (hp.same.tidy (hq.tidy n')).call (AgpsManager.lawful_methodsAt client n') _
    · rw [hp.others n' hn]
      exact hq.tidy n'
  agrees n' hds := by
    rw [machineAt, hq']
    by_cases hn : n' = n
    · subst hn
      have hsm : sm.Agrees := by
        have hagrees := hq.agrees n' hds
        rw [AgpsStateMachine.Agrees, machineAt, ← hp.same.mState,
          ← hp.same.mSubscriberList] at hagrees
        exact hagrees
      have htranslated : translated n' sm c' = c' := if_neg fun hcase => hds hcase.1
      have hmethods : methodsAt client n' = AgpsStateMachine.base := if_neg hds
      rw [hp.target, htranslated, hmethods]
      exact (AgpsStateMachine.next_agrees_iff hsm c').mpr fun heq => absurd heq hdrop
    · rw [hp.others n' hn]
      exact hq.agrees n' hds
  waits n' s hs := by
    rw [machineAt, hq'] at hs
    by_cases hn : n' = n
    · subst hn
      rw [hp.list] at hs
      rcases AgpsStateMachine.origin_of_listAfter hs with ⟨s', hs', -, hwait⟩ | heq
      · rw [← hwait]
        exact hq.waits n' s' (hp.same.mSubscriberList ▸ hs')
      · unfold translated at heq
        split at heq
        · cases heq
        · exact hsubscribe _ _ heq
    · rw [hp.others n' hn] at hs
      exact hq.waits n' s hs

lemma Kept.of_eq (hq : q.Kept) {q' : AgpsQueue} (heq : q'.mAgpsManager = q.mAgpsManager) :
    q'.Kept := by
  have hat : ∀ n, q'.machineAt n = q.machineAt n := fun n => by rw [machineAt, heq, machineAt]
  exact ⟨heq ▸ hq.present, fun n => hat n ▸ hq.tidy n, fun n hn => hat n ▸ hq.agrees n hn,
    fun n => hat n ▸ hq.waits n⟩

/-- **Every event keeps it.** -/
lemma Kept.next (hq : q.Kept) (e : DSClient × Event) : (machine.next q e).Kept := by
  obtain ⟨client, e⟩ := e
  cases hc : e.call q with
  | none =>
      rw [next_of_none hc]
      exact hq
  | some c =>
      rw [next_of_call hc]
      cases hpassed : q.mAgpsManager.passed c with
      | none =>
          obtain ⟨hsame, -, -⟩ :=
            call_aside client hpassed (call_ne hc).1 (call_ne hc).2
          exact hq.of_eq hsame
      | some target =>
          obtain ⟨n, c'⟩ := target
          obtain ⟨sm, hp⟩ := passedTo_call client hq.present hpassed
          refine hq.after hp (fun hdrop => ?_) (fun h wait heq => ?_) _ rfl
          · rw [hdrop] at hpassed
            exact AgpsManager.passed_ne_drop hpassed
          · rw [heq] at hpassed
            exact AgpsManager.passed_subscribe hpassed

end Kept

/-! ## Closed handles -/

/-- A handle that has been closed is in no subscriber list. -/
def ClosedGone (q : AgpsQueue) : Prop := ∀ h ∈ q.closed, ∀ n, ¬ (q.machineAt n).Lists h

/-- The machine that an output asks for a connection. -/
def requestedBy : AgpsOutput → Option Nif
  | .requestDataConn .wwanAny => some .internet
  | .requestDataConn _ => some .agnss
  | .dsClientOpenAndStartDataCall => some .ds
  | _ => none

/-- A connection is asked for, or a data call started, by a machine with the handle among its active
subscribers. -/
def RequestedFor (q : AgpsQueue) (e : DSClient × Event) (h : ℤ) : Prop :=
  ∃ o ∈ machine.emit q e, ∃ n, requestedBy o = some n ∧
    ((machine.next q e).machineAt n).ListsActive h

/-- Nothing is asked for on behalf of a closed handle, unless the modem requests it again. -/
def NothingRequested (q : AgpsQueue) (e : DSClient × Event) : Prop :=
  ∀ h ∈ q.closed, (∀ agpsType, e.2 ≠ .requestATL h agpsType) → ¬ RequestedFor q e h

/-- Of the handles that the call closes at a machine, no other machine lists any. -/
def ClosesOnly (q : AgpsQueue) (n : Nif) (c : AgpsStateMachine.Call) : Prop :=
  ∀ h ∈ (q.machineAt n).closedBy c, ∀ n', n' ≠ n → ¬ (q.machineAt n').Lists h

/-- A handle is released while one machine lists it, which is not `mDsNif` in `RELEASED`; a report
closes no handle that another machine lists; and no request for a closed handle is processed. -/
def ClosesForGood (q : AgpsQueue) (e : DSClient × Event) : Prop :=
  match e.2 with
  | .releaseATL h =>
      (∀ n n', (q.machineAt n).Lists h → (q.machineAt n').Lists h → n = n') ∧
        ((q.machineAt .ds).Lists h → (q.machineAt .ds).mState ≠ .released)
  | .reportDataCallClosed => q.ClosesOnly .ds .released
  | .reportAtlOpenFailed agpsType => q.ClosesOnly (nifOf agpsType) .denied
  | .reportAtlClosed agpsType => q.ClosesOnly (nifOf agpsType) .released
  | .nextMsg => ∀ msg, q.queue.head? = some msg → msg.1 ∉ q.closed
  | .requestATL _ _ | .reportDataCallOpened | .reportAtlOpenSuccess _ _ _ _ | .retryTimerExpired =>
      True

section Closed

variable {q : AgpsQueue} {client : DSClient} {e : Event} {c : AgpsManager.Call} {n : Nif}
  {c' : AgpsStateMachine.Call} {h : ℤ} {sm : AgpsStateMachine}
  {result : AgpsManager × List AgpsOutput} {cl : List ℤ}

/-- Nothing is closed by a subscription or a grant. -/
lemma closedBy_subscribe (sm : AgpsStateMachine) (h : ℤ) (wait : Bool) :
    sm.closedBy (.subscribe h wait) = [] := by
  simp [AgpsStateMachine.closedBy, AgpsStateMachine.sent, AgpsStateMachine.closing]

lemma closedBy_granted (sm : AgpsStateMachine) : sm.closedBy .granted = [] := by
  simp [AgpsStateMachine.closedBy, AgpsStateMachine.sent, AgpsStateMachine.closing]

/-- A report closes nothing in `RELEASED`. -/
lemma mState_of_closedBy (hc : c' = .released ∨ c' = .denied) (hclosed : h ∈ sm.closedBy c') :
    sm.mState ≠ .released := by
  intro hst
  rcases hc with rfl | rfl <;>
    simp [AgpsStateMachine.closedBy, AgpsStateMachine.sent, hst] at hclosed

/-- One call on a machine, with the handles `cl` that have been closed before. -/
lemma closedGone_after_iff (hq : q.Kept) (hcl : ∀ h ∈ cl, ∀ n, ¬ (q.machineAt n).Lists h)
    (hp : PassedTo client q.mAgpsManager n c' result sm) :
    (∀ h ∈ cl ++ result.2.filterMap AgpsOutput.closed, ∀ n', ¬ (result.1.machineAt n').Lists h) ↔
      (∀ h wait, c' = .subscribe h wait → h ∉ cl) ∧ q.ClosesOnly n c' ∧
        ∀ h ∈ (q.machineAt n).closedBy c', (q.machineAt n).mState ≠ .released := by
  rw [List.forall_mem_append, hp.closed]
  constructor
  · rintro ⟨hold, hnew⟩
    refine ⟨fun h wait hc hmem => ?_, fun h hmem n' hn hl => ?_, fun h hmem hst => ?_⟩
    · exact hold h hmem n (hp.lists_subscribe hc)
    · apply hnew h hmem n'
      rw [hp.others n' hn]
      exact hl
    · exact hnew h hmem n ((hp.closed_lists_iff (hq.tidy n) hmem).mpr hst)
  · rintro ⟨hsubscribe, honly, hst⟩
    refine ⟨fun h hmem n' hl => ?_, fun h hmem n' hl => ?_⟩
    · rcases hp.lists hl with hl | ⟨-, wait, hc⟩
      · exact hcl h hmem n' hl
      · exact hsubscribe h wait hc hmem
    · by_cases hn : n' = n
      · subst hn
        exact hst h hmem ((hp.closed_lists_iff (hq.tidy n') hmem).mp hl)
      · rw [hp.others n' hn] at hl
        exact honly h hmem n' hn hl

/-- What a release closes: the handle, at once in a machine of the base class, and in `mDsNif` only
in `RELEASED`. -/
lemma mem_closedBy_unsubscribe (hq : q.Kept) (hl : (q.machineAt n).Lists h) {h' : ℤ} :
    h' ∈ (q.machineAt n).closedBy (.unsubscribe h) ↔
      h' = h ∧ (n = .ds → (q.machineAt n).mState = .released) := by
  obtain ⟨s, hs⟩ := AgpsStateMachine.exists_getSubscriber hl
  have hwait := hq.waits n s (AgpsStateMachine.mem_of_getSubscriber hs)
  have hh := AgpsStateMachine.mConnHandle_of_getSubscriber hs
  simp only [AgpsStateMachine.closedBy, AgpsStateMachine.sent, hs, hwait]
  by_cases hn : n = .ds
  · subst hn
    simp [AgpsStateMachine.closing, hh, and_comm]
  · simp [hn, AgpsStateMachine.closing, hh]

/-- A machine of the base class lists nobody in `RELEASED`. -/
lemma mState_of_lists (hq : q.Kept) (hn : n ≠ .ds) (hl : (q.machineAt n).Lists h) :
    (q.machineAt n).mState ≠ .released := by
  intro hst
  have hagrees := hq.agrees n hn
  rw [AgpsStateMachine.Agrees, hst] at hagrees
  obtain ⟨s, hs, -⟩ := hl
  rw [show (q.machineAt n).mSubscriberList = [] from hagrees] at hs
  cases hs

/-- A release. -/
lemma closedGone_release_iff (hq : q.Kept) (hl : (q.machineAt n).Lists h)
    (hds : n = .ds → ∀ n', n' ≠ .ds → ¬ (q.machineAt n').Lists h) :
    (q.ClosesOnly n (.unsubscribe h) ∧ ∀ h' ∈ (q.machineAt n).closedBy (.unsubscribe h),
        (q.machineAt n).mState ≠ .released) ↔
      (∀ n n', (q.machineAt n).Lists h → (q.machineAt n').Lists h → n = n') ∧
        ((q.machineAt .ds).Lists h → (q.machineAt .ds).mState ≠ .released) := by
  simp only [ClosesOnly, mem_closedBy_unsubscribe hq hl]
  constructor
  · rintro ⟨honly, hst⟩
    by_cases hn : n = .ds
    · subst hn
      refine ⟨fun n₁ n₂ hl₁ hl₂ => ?_, fun _ hreleased => ?_⟩
      · have h₁ : n₁ = .ds := not_ne_iff.mp fun hne => hds rfl n₁ hne hl₁
        have h₂ : n₂ = .ds := not_ne_iff.mp fun hne => hds rfl n₂ hne hl₂
        rw [h₁, h₂]
      · exact hst h ⟨rfl, fun _ => hreleased⟩ hreleased
    · have hothers := honly h ⟨rfl, fun heq => absurd heq hn⟩
      refine ⟨fun n₁ n₂ hl₁ hl₂ => ?_, fun hl' => ?_⟩
      · have h₁ : n₁ = n := not_ne_iff.mp fun hne => hothers n₁ hne hl₁
        have h₂ : n₂ = n := not_ne_iff.mp fun hne => hothers n₂ hne hl₂
        rw [h₁, h₂]
      · exact absurd hl' (hothers .ds (Ne.symm hn))
  · rintro ⟨hunique, hreleased⟩
    refine ⟨?_, ?_⟩
    · rintro h' ⟨rfl, -⟩ n' hne hl'
      exact hne (hunique n' n hl' hl)
    · rintro h' ⟨rfl, -⟩
      by_cases hn : n = .ds
      · subst hn
        exact hreleased hl
      · exact mState_of_lists hq hn hl

/-- A report. -/
lemma closedGone_report_iff (hq : q.Kept) (hgone : q.ClosedGone) (hc : e.call q = some c)
    (hpassed : q.mAgpsManager.passed c = some (n, c')) (hbefore : (e.before q).closed = q.closed)
    (hreport : c' = .granted ∨ c' = .released ∨ c' = .denied) :
    (machine.next q (client, e)).ClosedGone ↔ q.ClosesOnly n c' := by
  obtain ⟨sm, hp⟩ := passedTo_call client hq.present hpassed
  rw [next_of_call hc]
  have hcl : ∀ h ∈ (e.before q).closed, ∀ n, ¬ (q.machineAt n).Lists h := hbefore ▸ hgone
  refine (closedGone_after_iff hq hcl hp).trans ?_
  constructor
  · exact fun h => h.2.1
  · intro honly
    refine ⟨fun h wait heq => ?_, honly, fun h hmem => ?_⟩
    · rcases hreport with rfl | rfl | rfl <;> cases heq
    · rcases hreport with rfl | hreport
      · rw [closedBy_granted] at hmem
        cases hmem
      · exact mState_of_closedBy hreport hmem

/-- An event that closes nothing and calls no machine. -/
lemma closedGone_of_aside (hgone : q.ClosedGone) (hc : e.call q = some c)
    (hpassed : q.mAgpsManager.passed c = none) (hbefore : (e.before q).closed = q.closed) :
    (machine.next q (client, e)).ClosedGone := by
  obtain ⟨hsame, hclosed, -⟩ := call_aside client hpassed (call_ne hc).1 (call_ne hc).2
  rw [next_of_call hc]
  intro h hmem n
  rw [absorb, hclosed, List.append_nil, hbefore] at hmem
  rw [machineAt, absorb, hsame]
  exact hgone h hmem n

/-- A request, of the modem or from the queue, closes nothing. -/
lemma closedGone_request_iff (hq : q.Kept) (hcl : ∀ h ∈ cl, ∀ n, ¬ (q.machineAt n).Lists h) (h : ℤ)
    (agpsType : AGpsExtType) :
    (∀ h' ∈ cl ++ (AgpsManager.call conf client q.mAgpsManager
        (.requestATL h agpsType)).2.filterMap AgpsOutput.closed, ∀ n',
      ¬ ((AgpsManager.call conf client q.mAgpsManager
        (.requestATL h agpsType)).1.machineAt n').Lists h') ↔ h ∉ cl := by
  obtain ⟨sm, hp⟩ := passedTo_call client hq.present (c := .requestATL h agpsType) rfl
  refine (closedGone_after_iff hq hcl hp).trans ?_
  simp only [ClosesOnly, closedBy_subscribe]
  constructor
  · exact fun hnot => hnot.1 h _ rfl
  · intro hnot
    refine ⟨fun h' wait heq => ?_, fun _ hmem => ?_, fun _ hmem => ?_⟩
    · cases heq
      exact hnot
    · cases hmem
    · cases hmem

lemma closesOnly_granted (q : AgpsQueue) (n : Nif) : q.ClosesOnly n .granted := by
  intro h hmem
  rw [closedBy_granted] at hmem
  cases hmem

/-- **One event.** -/
lemma next_closedGone_iff (hq : q.Kept) (hgone : q.ClosedGone) (e : DSClient × Event) :
    (machine.next q e).ClosedGone ↔ q.ClosesForGood e := by
  obtain ⟨client, e⟩ := e
  cases e with
  | requestATL h agpsType =>
      have hcl : ∀ h' ∈ q.closed.filter (· ≠ h), ∀ n, ¬ (q.machineAt n).Lists h' :=
        fun h' hmem => hgone h' (List.mem_filter.mp hmem).1
      exact iff_of_true ((closedGone_request_iff hq hcl h agpsType).mpr (by simp)) trivial
  | releaseATL h =>
      rcases AgpsManager.passed_releaseATL q.mAgpsManager h with
        ⟨n, hpassed, hl, hds⟩ | ⟨hpassed, hnone⟩
      · obtain ⟨sm, hp⟩ := passedTo_call client hq.present hpassed
        refine (closedGone_after_iff hq hgone hp).trans ?_
        rw [and_iff_right (fun h' wait heq => by cases heq)]
        exact closedGone_release_iff hq hl hds
      · refine iff_of_true (closedGone_of_aside hgone rfl hpassed rfl) ⟨?_, ?_⟩
        · exact fun n _ hl => absurd hl (hnone n)
        · exact fun hl => absurd hl (hnone .ds)
  | reportDataCallOpened =>
      refine (closedGone_report_iff hq hgone rfl rfl rfl (.inl rfl)).trans ?_
      exact iff_of_true (closesOnly_granted q _) trivial
  | reportDataCallClosed => exact closedGone_report_iff hq hgone rfl rfl rfl (.inr (.inl rfl))
  | reportAtlOpenSuccess agpsType apnName apnLen bearerType =>
      refine (closedGone_report_iff hq hgone rfl rfl rfl (.inl rfl)).trans ?_
      exact iff_of_true (closesOnly_granted q _) trivial
  | reportAtlOpenFailed agpsType =>
      exact closedGone_report_iff hq hgone rfl rfl rfl (.inr (.inr rfl))
  | reportAtlClosed agpsType =>
      exact closedGone_report_iff hq hgone rfl rfl rfl (.inr (.inl rfl))
  | retryTimerExpired =>
      refine iff_of_true ?_ trivial
      rcases call_retryTimerExpired q with hcall | hcall
      · rw [next_of_none hcall]
        exact hgone
      · exact closedGone_of_aside hgone hcall rfl rfl
  | nextMsg =>
      cases hhead : q.queue.head? with
      | none =>
          rw [next_of_none (call_nextMsg_none hhead)]
          exact iff_of_true hgone fun msg hmsg => by cases hhead.symm.trans hmsg
      | some msg =>
          rw [next_of_call (call_nextMsg hhead)]
          refine (closedGone_request_iff hq hgone msg.1 msg.2).trans ?_
          constructor
          · intro hnot msg' hmsg'
            obtain rfl := Option.some.inj (hhead.symm.trans hmsg')
            exact hnot
          · exact fun hstale => hstale msg hhead

/-- What has been closed stays so, unless the modem requests it again. -/
lemma mem_closed_next (hmem : h ∈ q.closed) (hmodem : ∀ agpsType, e ≠ .requestATL h agpsType) :
    h ∈ (machine.next q (client, e)).closed := by
  cases hc : e.call q with
  | none =>
      rw [next_of_none hc]
      exact hmem
  | some c =>
      rw [next_of_call hc, absorb]
      apply List.mem_append_left
      cases e with
      | requestATL h' agpsType =>
          refine List.mem_filter.mpr ⟨hmem, decide_eq_true ?_⟩
          rintro rfl
          exact hmodem agpsType rfl
      | releaseATL | reportDataCallOpened | reportDataCallClosed | reportAtlOpenSuccess
      | reportAtlOpenFailed | reportAtlClosed | retryTimerExpired | nextMsg => exact hmem

/-- Nobody who is gone has anything requested for him. -/
lemma nothingRequested_of_closedGone {e : DSClient × Event}
    (hgone : (machine.next q e).ClosedGone) : q.NothingRequested e := by
  rintro h hmem hmodem ⟨o, -, n, -, s, hs, hh, -⟩
  exact hgone h (mem_closed_next hmem hmodem) n ⟨s, hs, hh⟩

end Closed

/-- **A closed handle is gone**, and nothing is requested for it, throughout a run exactly when each
event of the run closes for good. -/
theorem always_closedGone_iff (events : List (DSClient × Event)) :
    (machine.Always ClosedGone init events ∧ machine.Steps NothingRequested init events) ↔
      machine.Steps ClosesForGood init events := by
  have hiff : machine.Always ClosedGone init events ↔ machine.Steps ClosesForGood init events :=
    Machine.always_iff_steps_of_invariant (fun _ e hq => hq.next e)
      (fun _ e hq hgone => next_closedGone_iff hq hgone e) kept_init (fun h hmem => by cases hmem)
  rw [hiff]
  refine and_iff_left_of_imp fun hs => ?_
  have hnext := (Machine.always_iff_steps_next.mp (hiff.mpr hs)).2
  exact Machine.Steps.mono (fun _ _ => nothingRequested_of_closedGone) hnext

/-- An emergency request is released while the start of its data call is to be retried: the modem is
told of the close, and `mDsNif` lists the handle still. -/
theorem closed_handle_listed :
    ¬ machine.Always ClosedGone init
      [(⟨true, some DSStateMachine.errEngineBusy, true⟩, .requestATL 1 .suplEs),
        (⟨true, none, true⟩, .releaseATL 1)] := by
  rintro ⟨-, -, h⟩
  have hnot := h 1 (by decide) .ds
  revert hnot
  decide

end AgpsQueue

end LocHal
