import LocHal.Gnss.AgpsLists

/-!
# The data call of `DSStateMachine`

In `PENDING` the machine waits for a data call that it has started, and only the report that the
call has been opened or closed takes it further.  A start of a data call has a result, which a
`SUBSCRIBE` in `RELEASED` looks at before it goes to `PENDING`.  The end of `RELEASING` with active
subscribers goes to `PENDING` first and does not look.  `always_pendingInProgress_iff` says that
this is the only place where the machine comes to wait for a call that is not there.
-/

namespace LocHal
namespace DSStateMachine

open AgpsStateMachine (active listAfter stateAfter stateLeft stateDown Same)

/-! ## Runs -/

/-- What happens to the machine.  A retry only queues a request, which comes back as a
`SUBSCRIBE`. -/
inductive Event where
  | subscribe (connHandle : ℤ) (waitForCloseComplete : Bool)
  | unsubscribe (connHandle : ℤ)
  | dataCallOpened
  | dataCallClosed
  | retryCallback
deriving DecidableEq, Repr

/-- The machine, and whether its latest start of a data call has succeeded with neither a report nor
a stop since.  No code reads the latter. -/
structure Watched where
  sm : AgpsStateMachine
  inProgress : Bool
deriving DecidableEq, Repr

/-- A start of a data call with its result, or a stop. -/
def observe (client : DSClient) (inProgress : Bool) : AgpsOutput → Bool
  | .dsClientOpenAndStartDataCall => client.openAndStartDataCallFn = some 0
  | .dsClientStopDataCall => false
  | _ => inProgress

/-- The call that an event makes. -/
def Event.call : Event → Option AgpsStateMachine.Call
  | .subscribe connHandle wait => some (.subscribe connHandle wait)
  | .unsubscribe connHandle => some (.unsubscribe connHandle)
  | .dataCallOpened => some .granted
  | .dataCallClosed => some .released
  | .retryCallback => none

/-- The event reports about the data call. -/
def Event.isReport : Event → Bool
  | .dataCallOpened => true
  | .dataCallClosed => true
  | _ => false

/-- One event, with what the DS client answers. -/
def step (s : Watched) (e : DSClient × Event) : Watched × List AgpsOutput :=
  let result := match e.2.call with
    | some c => call e.1 s.sm c
    | none => (s.sm, retryCallback s.sm)
  (⟨result.1, result.2.foldl (observe e.1) (s.inProgress && !e.2.isReport)⟩, result.2)

/-- The machine with its data call. -/
def machine : Machine Watched (DSClient × Event) AgpsOutput := ⟨step⟩

/-- A new machine. -/
def init : Watched := ⟨.init .suplEs, false⟩

/-- In `PENDING` a data call is in progress. -/
def PendingInProgress (s : Watched) : Prop := s.sm.mState = .pending → s.inProgress = true

instance : DecidablePred PendingInProgress :=
  fun s => inferInstanceAs (Decidable (s.sm.mState = .pending → s.inProgress = true))

/-- A data call that is closed in `RELEASING`, while there are active subscribers, is followed by a
start that succeeds. -/
def StartsAgain (s : Watched) (e : DSClient × Event) : Prop :=
  e.2 = .dataCallClosed → s.sm.mState = .releasing → active s.sm.mSubscriberList ≠ [] →
    e.1.openAndStartDataCallFn = some 0

/-! ## What is seen of a call -/

/-- No data call is started or stopped. -/
def Quiet (outs : List AgpsOutput) : Prop :=
  ∀ o ∈ outs, o ≠ .dsClientOpenAndStartDataCall ∧ o ≠ .dsClientStopDataCall

section Observe

variable {client : DSClient} {sm : AgpsStateMachine} {s : Watched}

lemma foldl_observe_of_quiet (client : DSClient) {outs : List AgpsOutput} (h : Quiet outs)
    (inProgress : Bool) :
    outs.foldl (observe client) inProgress = inProgress := by
  induction outs with
  | nil => rfl
  | cons o outs ih =>
      obtain ⟨hopen, hstop⟩ := h o List.mem_cons_self
      have ho : observe client inProgress o = inProgress := by
        unfold observe
        split
        · exact absurd rfl hopen
        · exact absurd rfl hstop
        · rfl
      rw [List.foldl_cons, ho]
      exact ih fun o ho => h o (List.mem_cons_of_mem _ ho)

lemma Quiet.append {outs outs' : List AgpsOutput} (h : Quiet outs) (h' : Quiet outs') :
    Quiet (outs ++ outs') := by
  intro o ho
  rcases List.mem_append.mp ho with ho | ho
  · exact h o ho
  · exact h' o ho

lemma quiet_nil : Quiet [] := fun o ho => by cases ho

lemma quiet_notify (sm : AgpsStateMachine) (event : AgpsEvent) (s : AgpsSubscriber)
    (delete : Bool) : Quiet (notifyEventToSubscriber sm event s delete).2 := by
  have hsingle : ∀ o, o ≠ .dsClientOpenAndStartDataCall ∧ o ≠ .dsClientStopDataCall →
      Quiet [o] := by
    intro o h o' ho
    rw [List.mem_singleton.mp ho]
    exact h
  cases event with
  | subscribe => exact quiet_nil
  | granted | denied | unsubscribe => exact hsingle _ (by simp)
  | released => exact (hsingle .dsClientCloseDataCall (by simp)).append (hsingle _ (by simp))

lemma quiet_notifyLoop (client : DSClient) (event : AgpsEvent) (delete : Bool)
    (type : AgpsNotificationType) (sm : AgpsStateMachine) (l : List AgpsSubscriber) :
    Quiet (AgpsStateMachine.notifyLoop (methods client) event delete type sm l).2.2 := by
  induction l generalizing sm with
  | nil => exact quiet_nil
  | cons s rest ih =>
      simp only [AgpsStateMachine.notifyLoop]
      split
      · exact (quiet_notify sm event s false).append (ih _)
      · exact ih _

/-- A start of a data call on behalf of an active subscriber is seen with its result, unless the
function that starts it is not registered. -/
lemma observe_request {s : AgpsSubscriber} (hs : sm.getFirstSubscriber false = some s)
    (inProgress : Bool) :
    (requestOrReleaseDataConn client sm true).2.2.foldl (observe client) inProgress =
      if client.openAndStartDataCallFn = none then inProgress
      else client.openAndStartDataCallFn = some 0 := by
  simp only [requestOrReleaseDataConn, hs]
  cases hfn : client.openAndStartDataCallFn with
  | none => rfl
  | some ret =>
      have hopen : observe client inProgress .dsClientOpenAndStartDataCall =
          decide (some ret = some 0) := by
        simp only [observe, hfn]
      simp only [Bool.not_true, Bool.false_and, Bool.false_eq_true, if_false, reduceCtorEq]
      split
      · split
        · exact hopen
        · exact hopen
      · split
        · exact hopen
        · exact hopen

/-- A start that succeeds is on behalf of an active subscriber. -/
lemma request_eq_zero (h : (requestOrReleaseDataConn client sm true).2.1 = 0) :
    (∃ s, sm.getFirstSubscriber false = some s) ∧ client.openAndStartDataCallFn = some 0 := by
  simp only [requestOrReleaseDataConn, Bool.not_true, Bool.false_and, Bool.false_eq_true,
    if_false] at h
  cases hs : sm.getFirstSubscriber false with
  | none => simp [hs] at h
  | some s =>
      simp only [hs] at h
      refine ⟨⟨s, rfl⟩, ?_⟩
      cases hfn : client.openAndStartDataCallFn with
      | none => simp [hfn] at h
      | some ret =>
          simp only [hfn] at h
          by_cases hbusy : ret = errEngineBusy
          · subst hbusy
            rw [if_pos rfl] at h
            split at h
            · simp [errEngineBusy] at h
            · simp only [] at h
              split at h
              · cases h
              · simp [errEngineBusy] at h
          · rw [if_neg hbusy] at h
            split at h
            · simp_all [errUnsupported]
            · exact congrArg some h

/-! ## The step -/

lemma eq_pending_of_stateLeft {st : AgpsState} {l : List AgpsSubscriber}
    (h : stateLeft st l = .pending) : st = .pending := by
  have hne : ∀ st' : AgpsState, st' ≠ .pending →
      (if l.isEmpty then AgpsState.released
        else if (active l).isEmpty then .releasing else st') ≠ .pending := by
    intro st' hst'
    split
    · simp
    · split
      · simp
      · exact hst'
  cases st with
  | released => cases h
  | pending => rfl
  | acquired => exact absurd h (hne .acquired (by simp))
  | releasing =>
      simp only [stateLeft] at h
      split at h
      · cases h
      · cases h

lemma quiet_releaseSubscriber (sm : AgpsStateMachine) (s : AgpsSubscriber) :
    Quiet (AgpsStateMachine.releaseSubscriber (methods client) sm s).2 := by
  unfold AgpsStateMachine.releaseSubscriber
  split
  · exact quiet_nil
  · exact quiet_notify sm .unsubscribe s true

/-- An `UNSUBSCRIBE` that leaves the machine in `PENDING` has found it there, and touches no data
call. -/
lemma unsubscribe_pending {connHandle : ℤ}
    (h : (AgpsStateMachine.call (methods client) sm
      (.unsubscribe connHandle)).1.mState = .pending) :
    sm.mState = .pending ∧
      Quiet (AgpsStateMachine.call (methods client) sm (.unsubscribe connHandle)).2 := by
  have hafter := h
  rw [AgpsStateMachine.mState_call (lawful_methods client)] at hafter
  simp only [AgpsStateMachine.call, stateAfter] at h hafter ⊢
  cases hs : sm.getSubscriber connHandle with
  | none =>
      simp only [hs] at h
      exact ⟨h, quiet_nil⟩
  | some s =>
      simp only [hs, Option.isSome_some, if_true] at h hafter ⊢
      have hst := eq_pending_of_stateLeft hafter
      refine ⟨hst, ?_⟩
      simp only [AgpsStateMachine.processAgpsEventUnsubscribe, hst,
        AgpsStateMachine.unsubscribeConnected] at h ⊢
      have hrequest : ∀ sm, ((methods client).requestOrReleaseDataConn sm false).1.mState =
          sm.mState := fun sm => ((lawful_methods client).request sm false).mState
      split
      · rename_i hempty
        rw [if_pos hempty] at h
        cases (hrequest _).symm.trans h
      · rename_i hempty
        rw [if_neg hempty] at h
        split
        · rename_i hactive
          rw [if_pos hactive] at h
          cases (hrequest _).symm.trans h
        · exact quiet_releaseSubscriber sm s

/-- A data call that goes down while active subscribers wait is started again, with whatever
result. -/
lemma finishReleasing_inProgress (hactive : active sm.mSubscriberList ≠ []) :
    (AgpsStateMachine.finishReleasing (methods client) sm).2.foldl (observe client) false =
      decide (client.openAndStartDataCallFn = some 0) := by
  have hquiet := quiet_notifyLoop client .released true .forInactiveSubscribers sm
    sm.mSubscriberList
  obtain ⟨-, hlist⟩ := AgpsStateMachine.notifyAllSubscribers_frame
    (lawful_methods client) sm .released true .forInactiveSubscribers
  have hlist : (AgpsStateMachine.notifyAllSubscribers (methods client) sm .released true
    .forInactiveSubscribers).1.mSubscriberList = active sm.mSubscriberList := hlist
  have hany : (AgpsStateMachine.notifyAllSubscribers (methods client) sm .released true
      .forInactiveSubscribers).1.anyActiveSubscribers = true := by
    rw [AgpsStateMachine.anyActiveSubscribers_eq, hlist]
    simpa [active] using hactive
  obtain ⟨s, hs⟩ : ∃ s, ((AgpsStateMachine.notifyAllSubscribers (methods client) sm .released true
      .forInactiveSubscribers).1.transitionState .pending).getFirstSubscriber false = some s := by
    rw [← Option.isSome_iff_exists, AgpsStateMachine.getFirstSubscriber, List.find?_isSome]
    simpa [AgpsStateMachine.anyActiveSubscribers, AgpsStateMachine.transitionState] using hany
  simp only [AgpsStateMachine.finishReleasing, hany, if_true, List.foldl_append]
  have hnotified : (AgpsStateMachine.notifyAllSubscribers (methods client) sm .released true
      .forInactiveSubscribers).2.foldl (observe client) false = false :=
    foldl_observe_of_quiet client hquiet false
  rw [hnotified]
  refine (observe_request hs false).trans ?_
  cases client.openAndStartDataCallFn with
  | none => rfl
  | some ret => rw [if_neg (by simp)]

/-- A `SUBSCRIBE` that leaves the machine in `PENDING` has found a data call in progress, or has
started one. -/
lemma subscribe_inProgress {inProgress : Bool} (h : sm.mState = .pending → inProgress = true)
    {connHandle : ℤ} {wait : Bool}
    (hnext : (AgpsStateMachine.call (methods client) sm (.subscribe connHandle wait)).1.mState =
      .pending) :
    (AgpsStateMachine.call (methods client) sm (.subscribe connHandle wait)).2.foldl
      (observe client) inProgress = true := by
  have hafter := hnext
  rw [AgpsStateMachine.mState_call (lawful_methods client)] at hafter
  simp only [AgpsStateMachine.call, AgpsStateMachine.processAgpsEventSubscribe, stateAfter]
    at hnext hafter ⊢
  cases hst : sm.mState with
  | released =>
      simp only [hst, true_and] at hafter
      split at hafter
      · rename_i hconnects
        have hresult := of_decide_eq_true hconnects
        obtain ⟨⟨s, hs⟩, hstart⟩ := request_eq_zero hresult
        refine (observe_request hs inProgress).trans ?_
        rw [if_neg (by simp [hstart]), hstart]
        rfl
      · cases hafter
  | pending => exact h hst
  | acquired => simp [hst] at hafter
  | releasing => simp [hst] at hafter

/-- A data call that is closed leads to `PENDING` from `RELEASING` with active subscribers only, and
what is seen of it then is the result of the new start. -/
lemma dataCallClosed_inProgress (client : DSClient) (sm : AgpsStateMachine) :
    ((call client sm .released).1.mState = .pending ↔
        sm.mState = .releasing ∧ active sm.mSubscriberList ≠ []) ∧
      (sm.mState = .releasing → active sm.mSubscriberList ≠ [] →
        (call client sm .released).2.foldl (observe client) false =
          decide (client.openAndStartDataCallFn = some 0)) := by
  have hv := lawful_methods client
  have hbase : sm.mState ≠ .pending →
      call client sm .released = AgpsStateMachine.call (methods client) sm .released := by
    intro hne
    rw [call, if_neg (by simp [hne])]
  cases hst : sm.mState with
  | pending =>
      have hcall : call client sm .released =
          AgpsStateMachine.call (methods client) sm .denied := by
        rw [call, if_pos ⟨rfl, hst⟩]
      rw [hcall, AgpsStateMachine.mState_call hv, stateAfter, hst]
      simp
  | released | acquired =>
      rw [hbase (by simp [hst]), AgpsStateMachine.mState_call hv, stateAfter, hst]
      simp
  | releasing =>
      rw [hbase (by simp [hst])]
      refine ⟨?_, fun _ hactive => ?_⟩
      · rw [AgpsStateMachine.mState_call hv, stateAfter, hst]
        simp [stateDown]
      · simp only [AgpsStateMachine.call, AgpsStateMachine.processAgpsEventReleased, hst]
        exact finishReleasing_inProgress hactive

/-- **One event.** -/
lemma next_pendingInProgress_iff (h : PendingInProgress s) (e : DSClient × Event) :
    PendingInProgress (machine.next s e) ↔ StartsAgain s e := by
  obtain ⟨client, e⟩ := e
  cases e with
  | subscribe connHandle wait =>
      refine iff_of_true (fun hnext => ?_) (by simp [StartsAgain])
      have hbefore : s.sm.mState = .pending → (s.inProgress && !false) = true := by
        intro hst
        rw [h hst]
        rfl
      exact subscribe_inProgress hbefore hnext
  | unsubscribe connHandle =>
      refine iff_of_true (fun hnext => ?_) (by simp [StartsAgain])
      obtain ⟨hst, hquiet⟩ := unsubscribe_pending hnext
      have hfold := foldl_observe_of_quiet client hquiet (s.inProgress && !false)
      refine hfold.trans ?_
      rw [h hst]
      rfl
  | dataCallOpened =>
      refine iff_of_true (fun hnext => ?_) (by simp [StartsAgain])
      have hafter : s.sm.stateAfter false .granted = .pending :=
        (AgpsStateMachine.mState_call (lawful_methods client) s.sm .granted).symm.trans hnext
      simp only [stateAfter] at hafter
      split at hafter
      · cases hafter
      · exact absurd hafter ‹_›
  | dataCallClosed =>
      have hclosed := dataCallClosed_inProgress client s.sm
      have hnext : machine.next s (client, .dataCallClosed) =
          ⟨(call client s.sm .released).1,
            (call client s.sm .released).2.foldl (observe client) (s.inProgress && false)⟩ := rfl
      rw [hnext, Bool.and_false]
      simp only [PendingInProgress, StartsAgain, true_implies]
      constructor
      · intro hpending hst hactive
        have hseen := hpending (hclosed.1.mpr ⟨hst, hactive⟩)
        rw [hclosed.2 hst hactive] at hseen
        exact of_decide_eq_true hseen
      · intro hstarts hpending
        obtain ⟨hst, hactive⟩ := hclosed.1.mp hpending
        rw [hclosed.2 hst hactive]
        exact decide_eq_true (hstarts hst hactive)
  | retryCallback =>
      refine iff_of_true (fun hnext => ?_) (by simp [StartsAgain])
      have hquiet : Quiet (retryCallback s.sm) := by
        unfold retryCallback
        split
        · intro o ho
          rw [List.mem_singleton.mp ho]
          simp
        · exact quiet_nil
      have hfold := foldl_observe_of_quiet client hquiet (s.inProgress && !false)
      refine hfold.trans ?_
      rw [h hnext]
      rfl

end Observe

/-- **In `PENDING` a data call is in progress**, throughout a run, exactly when every data call that
is closed in `RELEASING` before active subscribers is started again successfully. -/
theorem always_pendingInProgress_iff (events : List (DSClient × Event)) :
    machine.Always PendingInProgress init events ↔ machine.Steps StartsAgain init events :=
  Machine.always_iff_steps (fun _ e h => next_pendingInProgress_iff h e) (by decide)

/-- A client whose start of a data call has the given result. -/
def answering (ret : ℤ) : DSClient := ⟨true, some ret, true⟩

/-- A subscriber that comes while the data call goes down is left in `PENDING` with no data call
when the next start finds the engine busy. -/
theorem pending_without_call :
    ¬ machine.Always PendingInProgress init
      [(answering 0, .subscribe 1 true), (answering 0, .dataCallOpened),
        (answering 0, .unsubscribe 1), (answering 0, .subscribe 2 true),
        (answering errEngineBusy, .dataCallClosed)] := by
  decide

end DSStateMachine
end LocHal
