import LocHal.Gnss.AgpsConnection
import LocHal.Gnss.AgpsReleases

/-!
# Lists and states of AGPS state machines

The two classes of state machines differ in what they send and in whether a connection can be asked
for, but not in what a call does to the subscriber list, nor, for the rest, to the state.
`listAfter` and `stateAfter` say what that is, for all methods that are `Lawful`.

On these rests `always_agrees_iff`: the state of a machine of the base class agrees with its list,
except that a modem restart drops the subscribers and leaves the state as it is.
-/

namespace LocHal

namespace AgpsStateMachine

/-! ## What a call does to the list and the state -/

/-- The active subscribers. -/
def active (l : List AgpsSubscriber) : List AgpsSubscriber := l.filter fun s => !s.mIsInactive

/-- The subscriber list after a call. -/
def listAfter (sm : AgpsStateMachine) : Call → List AgpsSubscriber
  | .subscribe connHandle wait => (sm.addSubscriber ⟨connHandle, wait, false⟩).mSubscriberList
  | .unsubscribe connHandle =>
      match sm.getSubscriber connHandle with
      | none => sm.mSubscriberList
      | some s =>
          if sm.mState = .released then sm.mSubscriberList
          else if s.mWaitForCloseComplete then (sm.setInactive s).mSubscriberList
          else (sm.deleteSubscriber s).mSubscriberList
  | .granted => sm.mSubscriberList
  | .released =>
      match sm.mState with
      | .acquired => []
      | .releasing => active sm.mSubscriberList
      | .released | .pending => sm.mSubscriberList
  | .denied =>
      match sm.mState with
      | .pending => []
      | .releasing => active sm.mSubscriberList
      | .released | .acquired => sm.mSubscriberList
  | .dropAllSubscribers => []

/-- The state after the last subscriber or the last active one may have left. -/
def stateLeft (st : AgpsState) (l : List AgpsSubscriber) : AgpsState :=
  match st with
  | .released => .released
  | .pending => if l.isEmpty then .released else if (active l).isEmpty then .releasing else .pending
  | .acquired =>
      if l.isEmpty then .released else if (active l).isEmpty then .releasing else .acquired
  | .releasing => if l.isEmpty then .released else .releasing

/-- The state after the connection has gone down. -/
def stateDown (l : List AgpsSubscriber) : AgpsState :=
  if (active l).isEmpty then .released else .pending

/-- The state after a call; a connection that is asked for in `RELEASED` is `connected` if the
request succeeds. -/
def stateAfter (sm : AgpsStateMachine) (connected : Bool) : Call → AgpsState
  | .subscribe _ _ => if sm.mState = .released ∧ connected then .pending else sm.mState
  | .unsubscribe connHandle =>
      if (sm.getSubscriber connHandle).isSome then
        stateLeft sm.mState (sm.listAfter (.unsubscribe connHandle))
      else sm.mState
  | .granted => if sm.mState = .pending then .acquired else sm.mState
  | .released =>
      match sm.mState with
      | .acquired => .released
      | .releasing => stateDown sm.mSubscriberList
      | .released | .pending => sm.mState
  | .denied =>
      match sm.mState with
      | .pending => .released
      | .releasing => stateDown sm.mSubscriberList
      | .released | .acquired => sm.mState
  | .dropAllSubscribers => sm.mState

end AgpsStateMachine

lemma AgpsStateMachine.Same.deleteSubscriber {sm sm' : AgpsStateMachine} (hs : sm.Same sm')
    (s : AgpsSubscriber) : (sm.deleteSubscriber s).Same (sm'.deleteSubscriber s) where
  mState := hs.mState
  mSubscriberList := by
    simp only [AgpsStateMachine.deleteSubscriber, hs.mSubscriberList]

lemma AgpsStateMachine.mSubscriberList_addSubscriber (sm : AgpsStateMachine) (s : AgpsSubscriber) :
    (sm.addSubscriber s).mSubscriberList =
      if sm.mSubscriberList.any fun s' => s'.equals s then sm.mSubscriberList
      else sm.mSubscriberList ++ [s] := by
  unfold addSubscriber
  split
  · rfl
  · rfl

open AgpsStateMachine in
/-- The methods change no state, and no list but for the subscriber they are to delete. -/
structure AgpsMethods.Lawful (v : AgpsMethods) : Prop where
  request : ∀ sm request, Same sm (v.requestOrReleaseDataConn sm request).1
  notify : ∀ sm event s delete,
    Same (if delete then sm.deleteSubscriber s else sm)
      (v.notifyEventToSubscriber sm event s delete).1

lemma AgpsStateMachine.lawful_base : AgpsMethods.Lawful base where
  request _ _ := ⟨rfl, rfl⟩
  notify _ _ _ _ := ⟨rfl, rfl⟩

lemma DSStateMachine.lawful_methods (client : DSClient) : AgpsMethods.Lawful (methods client) where
  request sm request := by
    simp only [methods, requestOrReleaseDataConn, notifyEventToSubscriber]
    split
    · exact ⟨rfl, rfl⟩
    · split
      · exact ⟨rfl, rfl⟩
      · split
        · exact ⟨rfl, rfl⟩
        · split
          · split
            · exact ⟨rfl, rfl⟩
            · exact ⟨rfl, rfl⟩
          · split
            · exact ⟨rfl, rfl⟩
            · exact ⟨rfl, rfl⟩
  notify sm event s delete := by
    have hreset : sm.Same (if event = .denied then { sm with mRetries := 0 } else sm) := by
      split
      · exact ⟨rfl, rfl⟩
      · exact .refl _
    cases delete with
    | true => exact hreset.deleteSubscriber s
    | false => exact hreset

namespace AgpsStateMachine

section Lawful

variable {v : AgpsMethods} {sm : AgpsStateMachine}

lemma notifyLoop_frame (hv : v.Lawful) (sm : AgpsStateMachine) (event : AgpsEvent)
    (delete : Bool) (type : AgpsNotificationType) (l : List AgpsSubscriber) :
    sm.Same (notifyLoop v event delete type sm l).1 ∧
      (notifyLoop v event delete type sm l).2.1 =
        if delete then l.filter fun s => !type.selects s else l := by
  induction l generalizing sm with
  | nil =>
      refine ⟨.refl _, ?_⟩
      cases delete with
      | true => rfl
      | false => rfl
  | cons s rest ih =>
      simp only [notifyLoop]
      cases hs : type.selects s with
      | true =>
          obtain ⟨hsame, hlist⟩ := ih (v.notifyEventToSubscriber sm event s false).1
          refine ⟨(hv.notify sm event s false).trans hsame, ?_⟩
          cases delete with
          | true => simp [hlist, hs]
          | false => simp [hlist]
      | false =>
          obtain ⟨hsame, hlist⟩ := ih sm
          refine ⟨hsame, ?_⟩
          cases delete with
          | true => simp [hlist, hs]
          | false => simp [hlist]

lemma notifyAllSubscribers_frame (hv : v.Lawful) (sm : AgpsStateMachine) (event : AgpsEvent)
    (delete : Bool) (type : AgpsNotificationType) :
    (notifyAllSubscribers v sm event delete type).1.mState = sm.mState ∧
      (notifyAllSubscribers v sm event delete type).1.mSubscriberList =
        if delete then sm.mSubscriberList.filter fun s => !type.selects s
        else sm.mSubscriberList := by
  obtain ⟨hsame, hlist⟩ := notifyLoop_frame hv sm event delete type sm.mSubscriberList
  exact ⟨hsame.mState, hlist⟩

/-- Notifying and deleting all leaves nobody. -/
lemma notifyAllSubscribers_all (hv : v.Lawful) (sm : AgpsStateMachine) (event : AgpsEvent) :
    (notifyAllSubscribers v sm event true .forAllSubscribers).1.mState = sm.mState ∧
      (notifyAllSubscribers v sm event true .forAllSubscribers).1.mSubscriberList = [] := by
  obtain ⟨hstate, hlist⟩ := notifyAllSubscribers_frame hv sm event true .forAllSubscribers
  exact ⟨hstate, hlist.trans (List.filter_eq_nil_iff.mpr fun _ _ => by
    simp [AgpsNotificationType.selects])⟩

lemma releaseSubscriber_frame (hv : v.Lawful) (sm : AgpsStateMachine) (s : AgpsSubscriber) :
    (if s.mWaitForCloseComplete then sm.setInactive s else sm.deleteSubscriber s).Same
      (releaseSubscriber v sm s).1 := by
  unfold releaseSubscriber
  split
  · exact .refl _
  · exact hv.notify sm .unsubscribe s true

lemma anyActiveSubscribers_eq : sm.anyActiveSubscribers = !(active sm.mSubscriberList).isEmpty := by
  rw [anyActiveSubscribers, active, Bool.eq_iff_iff]
  simp

lemma finishReleasing_frame (hv : v.Lawful) :
    (finishReleasing v sm).1.mState = stateDown sm.mSubscriberList ∧
      (finishReleasing v sm).1.mSubscriberList = active sm.mSubscriberList := by
  obtain ⟨-, hlist⟩ :=
    notifyAllSubscribers_frame hv sm .released true .forInactiveSubscribers
  have hactive : active (active sm.mSubscriberList) = active sm.mSubscriberList := by
    simp [active]
  have hlist : (notifyAllSubscribers v sm .released true
    .forInactiveSubscribers).1.mSubscriberList = active sm.mSubscriberList := hlist
  unfold finishReleasing stateDown
  simp only [anyActiveSubscribers_eq, hlist, hactive]
  cases hempty : (active sm.mSubscriberList).isEmpty with
  | true => exact ⟨rfl, hlist⟩
  | false =>
      have hrequest := hv.request ((notifyAllSubscribers v sm .released true
        .forInactiveSubscribers).1.transitionState .pending) true
      exact ⟨hrequest.mState, hrequest.mSubscriberList.trans hlist⟩

/-- The part of `UNSUBSCRIBE` that follows the release of the subscriber in `PENDING` and
`ACQUIRED`. -/
lemma unsubscribeConnected_frame (hv : v.Lawful) (sm : AgpsStateMachine) (s : AgpsSubscriber)
    {l : List AgpsSubscriber}
    (hl : (if s.mWaitForCloseComplete then sm.setInactive s
      else sm.deleteSubscriber s).mSubscriberList = l)
    (hst : sm.mState = .pending ∨ sm.mState = .acquired) :
    (unsubscribeConnected v sm s).1.mState = stateLeft sm.mState l ∧
      (unsubscribeConnected v sm s).1.mSubscriberList = l := by
  have hleft := releaseSubscriber_frame hv sm s
  have hlist : (releaseSubscriber v sm s).1.mSubscriberList = l := hleft.mSubscriberList.trans hl
  have hstate : (releaseSubscriber v sm s).1.mState = sm.mState := by
    rw [hleft.mState]
    split
    · rfl
    · rfl
  have hdown : ∀ st, stateLeft sm.mState l = st →
      (v.requestOrReleaseDataConn ((releaseSubscriber v sm s).1.transitionState st)
        false).1.mState = stateLeft sm.mState l ∧
      (v.requestOrReleaseDataConn ((releaseSubscriber v sm s).1.transitionState st)
        false).1.mSubscriberList = l := by
    rintro st rfl
    have hrequest := hv.request ((releaseSubscriber v sm s).1.transitionState
      (stateLeft sm.mState l)) false
    exact ⟨hrequest.mState, hrequest.mSubscriberList.trans hlist⟩
  unfold unsubscribeConnected
  simp only [anyActiveSubscribers_eq, hlist, Bool.not_not]
  split
  · rename_i hempty
    refine hdown _ ?_
    rcases hst with hst | hst <;> simp [hst, stateLeft, hempty]
  · split
    · rename_i hempty hactive
      refine hdown _ ?_
      rcases hst with hst | hst <;> simp [hst, stateLeft, hempty, hactive]
    · rename_i hempty hactive
      refine ⟨?_, hlist⟩
      rw [hstate]
      rcases hst with hst | hst <;> simp [hst, stateLeft, hempty, hactive]

/-- **What a call does to the list.** -/
lemma mSubscriberList_call (hv : v.Lawful) (sm : AgpsStateMachine) (c : Call) :
    (call v sm c).1.mSubscriberList = sm.listAfter c := by
  cases c with
  | subscribe connHandle wait =>
      simp only [call, processAgpsEventSubscribe, listAfter]
      cases hst : sm.mState with
      | released =>
          have hrequest := hv.request (sm.addSubscriber ⟨connHandle, wait, false⟩) true
          simp only []
          split
          · exact hrequest.mSubscriberList
          · exact hrequest.mSubscriberList
      | acquired =>
          have hnotify := (hv.notify sm .granted ⟨connHandle, wait, false⟩ false).mSubscriberList
          simp only [Bool.false_eq_true, if_false] at hnotify
          simp only [mSubscriberList_addSubscriber, hnotify]
      | pending | releasing => rfl
  | unsubscribe connHandle =>
      simp only [call, listAfter]
      cases sm.getSubscriber connHandle with
      | none => rfl
      | some s =>
          have hlist : ∀ sm', (if s.mWaitForCloseComplete then sm.setInactive s
              else sm.deleteSubscriber s).Same sm' → sm'.mSubscriberList =
                if s.mWaitForCloseComplete then (sm.setInactive s).mSubscriberList
                else (sm.deleteSubscriber s).mSubscriberList := by
            intro sm' hsm'
            rw [hsm'.mSubscriberList]
            split
            · rfl
            · rfl
          have hrefl := hlist _ (.refl _)
          simp only [processAgpsEventUnsubscribe]
          cases hst : sm.mState with
          | released => exact (hv.notify sm .unsubscribe s false).mSubscriberList
          | pending => exact (unsubscribeConnected_frame hv sm s hrefl (.inl hst)).2
          | acquired => exact (unsubscribeConnected_frame hv sm s hrefl (.inr hst)).2
          | releasing =>
              have hleft := hlist _ (releaseSubscriber_frame hv sm s)
              simp only []
              split
              · exact hleft
              · exact hleft
  | granted =>
      simp only [call, processAgpsEventGranted, listAfter]
      cases hst : sm.mState with
      | pending => exact (notifyAllSubscribers_frame hv _ .granted false .forActiveSubscribers).2
      | released | acquired | releasing => rfl
  | released =>
      simp only [call, processAgpsEventReleased, listAfter]
      cases hst : sm.mState with
      | acquired => exact (notifyAllSubscribers_all hv _ .released).2
      | releasing => exact (finishReleasing_frame hv).2
      | released | pending => rfl
  | denied =>
      simp only [call, processAgpsEventDenied, listAfter]
      cases hst : sm.mState with
      | pending => exact (notifyAllSubscribers_all hv _ .denied).2
      | releasing => exact (finishReleasing_frame hv).2
      | released | acquired => rfl
  | dropAllSubscribers => rfl

/-- Whether a connection asked for on behalf of a new subscriber is under way. -/
def connects (v : AgpsMethods) (sm : AgpsStateMachine) : Call → Bool
  | .subscribe connHandle wait =>
      (v.requestOrReleaseDataConn (sm.addSubscriber ⟨connHandle, wait, false⟩) true).2.1 = 0
  | _ => false

/-- **What a call does to the state.** -/
lemma mState_call (hv : v.Lawful) (sm : AgpsStateMachine) (c : Call) :
    (call v sm c).1.mState = sm.stateAfter (connects v sm c) c := by
  cases c with
  | subscribe connHandle wait =>
      have hadd : (sm.addSubscriber ⟨connHandle, wait, false⟩).mState = sm.mState :=
        addSubscriber_mState sm _
      simp only [call, processAgpsEventSubscribe, stateAfter, connects]
      cases hst : sm.mState with
      | released =>
          have hrequest := hv.request (sm.addSubscriber ⟨connHandle, wait, false⟩) true
          simp only [true_and, decide_eq_true_eq]
          split
          · rfl
          · exact (hrequest.mState.trans hadd).trans hst
      | acquired =>
          have hnotify := hv.notify sm .granted ⟨connHandle, wait, false⟩ false
          exact (addSubscriber_mState _ _).trans (hnotify.mState.trans hst)
      | pending | releasing => exact hadd.trans hst
  | unsubscribe connHandle =>
      have hlist := mSubscriberList_call hv sm (.unsubscribe connHandle)
      simp only [call, stateAfter] at hlist ⊢
      cases hs : sm.getSubscriber connHandle with
      | none => rfl
      | some s =>
          simp only [hs, Option.isSome_some, if_true, processAgpsEventUnsubscribe] at hlist ⊢
          have hleft := releaseSubscriber_frame hv sm s
          have hstate : (releaseSubscriber v sm s).1.mState = sm.mState := by
            rw [hleft.mState]
            split
            · rfl
            · rfl
          cases hst : sm.mState with
          | released => exact (hv.notify sm .unsubscribe s false).mState.trans hst
          | pending | acquired =>
              simp only [hst] at hlist
              have hconnected := unsubscribeConnected_frame hv sm s rfl (by simp [hst])
              rw [← hlist, hconnected.2]
              simpa only [hst] using hconnected.1
          | releasing =>
              simp only [hst] at hlist
              rw [← hlist, stateLeft]
              simp only []
              split
              · rename_i hempty
                exact (if_pos hempty).symm
              · exact hstate.trans hst
  | granted =>
      simp only [call, processAgpsEventGranted, stateAfter]
      cases hst : sm.mState with
      | pending => exact (notifyAllSubscribers_frame hv _ .granted false .forActiveSubscribers).1
      | released | acquired | releasing => exact hst
  | released =>
      simp only [call, processAgpsEventReleased, stateAfter]
      cases hst : sm.mState with
      | acquired => exact (notifyAllSubscribers_all hv _ .released).1
      | releasing => exact (finishReleasing_frame hv).1
      | released | pending => exact hst
  | denied =>
      simp only [call, processAgpsEventDenied, stateAfter]
      cases hst : sm.mState with
      | pending => exact (notifyAllSubscribers_all hv _ .denied).1
      | releasing => exact (finishReleasing_frame hv).1
      | released | acquired => exact hst
  | dropAllSubscribers => rfl

end Lawful

/-! ## The state agrees with the list -/

/-- A state that agrees with a subscriber list: nobody in `RELEASED`, an active subscriber while a
connection is set up or there, and somebody to tell of its end in `RELEASING`. -/
def Agree (st : AgpsState) (l : List AgpsSubscriber) : Prop :=
  match st with
  | .released => l = []
  | .pending | .acquired => ∃ s ∈ l, s.mIsInactive = false
  | .releasing => l ≠ []

/-- The state of the machine agrees with its list. -/
def Agrees (sm : AgpsStateMachine) : Prop := Agree sm.mState sm.mSubscriberList

/-- The subscribers are dropped in `RELEASED` only. -/
def DropsReleased (sm : AgpsStateMachine) (c : Call) : Prop :=
  c = .dropAllSubscribers → sm.mState = .released

section Agrees

variable {sm : AgpsStateMachine} {st : AgpsState} {l l' : List AgpsSubscriber}

lemma exists_active_of_isEmpty (h : (active l).isEmpty = false) :
    ∃ s ∈ l, s.mIsInactive = false := by
  rw [← Bool.not_eq_true, List.isEmpty_iff] at h
  obtain ⟨s, hs⟩ := List.exists_mem_of_ne_nil _ h
  exact ⟨s, by simpa [active] using hs⟩

lemma agree_stateLeft (hst : st ≠ .released) : Agree (stateLeft st l) l := by
  have hconnected : ∀ st', st' = .pending ∨ st' = .acquired →
      Agree (if l.isEmpty then .released
        else if (active l).isEmpty then .releasing else st') l := by
    intro st' hst'
    split
    · rename_i hempty
      exact List.isEmpty_iff.mp hempty
    · rename_i hne
      split
      · exact fun hnil => hne (List.isEmpty_iff.mpr hnil)
      · rename_i hactive
        have hsome := exists_active_of_isEmpty (Bool.eq_false_iff.mpr hactive)
        rcases hst' with rfl | rfl
        · exact hsome
        · exact hsome
  cases st with
  | released => exact absurd rfl hst
  | pending => exact hconnected .pending (.inl rfl)
  | acquired => exact hconnected .acquired (.inr rfl)
  | releasing =>
      simp only [stateLeft]
      split
      · rename_i hempty
        exact List.isEmpty_iff.mp hempty
      · rename_i hne
        exact fun hnil => hne (List.isEmpty_iff.mpr hnil)

lemma agree_stateDown (l : List AgpsSubscriber) : Agree (stateDown l) (active l) := by
  unfold stateDown
  split
  · rename_i hempty
    exact List.isEmpty_iff.mp hempty
  · rename_i hactive
    obtain ⟨s, hs, hin⟩ := exists_active_of_isEmpty (Bool.eq_false_iff.mpr hactive)
    exact ⟨s, by simp [active, hs, hin], hin⟩

/-- Subscribers may be added in every state but `RELEASED`. -/
lemma Agree.mono (h : Agree st l) (hst : st ≠ .released) (hl : l ⊆ l') : Agree st l' := by
  cases st with
  | released => exact absurd rfl hst
  | pending | acquired =>
      obtain ⟨s, hs, hin⟩ := h
      exact ⟨s, hl hs, hin⟩
  | releasing =>
      rintro rfl
      exact h (List.subset_nil.mp hl)

lemma subset_addSubscriber (sm : AgpsStateMachine) (s : AgpsSubscriber) :
    sm.mSubscriberList ⊆ (sm.addSubscriber s).mSubscriberList := by
  rw [mSubscriberList_addSubscriber]
  split
  · exact List.Subset.refl _
  · exact List.subset_append_left _ _

/-- Every call but the drop of the subscribers keeps the state and the list in agreement. -/
lemma Agrees.after (h : sm.Agrees) {c : Call} (hc : c ≠ .dropAllSubscribers) :
    Agree (sm.stateAfter true c) (sm.listAfter c) := by
  unfold Agrees at h
  cases c with
  | subscribe connHandle wait =>
      simp only [stateAfter, listAfter, and_true]
      split
      · rename_i hst
        rw [hst] at h
        have hl : sm.mSubscriberList = [] := h
        rw [mSubscriberList_addSubscriber, hl]
        exact ⟨⟨connHandle, wait, false⟩, List.mem_singleton_self _, rfl⟩
      · rename_i hst
        exact h.mono hst (subset_addSubscriber sm _)
  | unsubscribe connHandle =>
      simp only [stateAfter]
      cases hs : sm.getSubscriber connHandle with
      | none => simpa [listAfter, hs] using h
      | some s =>
          simp only [Option.isSome_some, if_true]
          by_cases hst : sm.mState = .released
          · rw [hst] at h ⊢
            simpa [stateLeft, listAfter, hs, hst] using h
          · exact agree_stateLeft hst
  | granted =>
      simp only [stateAfter, listAfter]
      split
      · rename_i hst
        rw [hst] at h
        exact h
      · exact h
  | released =>
      simp only [stateAfter, listAfter]
      cases hst : sm.mState with
      | acquired => rfl
      | releasing => exact agree_stateDown _
      | released | pending => rwa [hst] at h
  | denied =>
      simp only [stateAfter, listAfter]
      cases hst : sm.mState with
      | pending => rfl
      | releasing => exact agree_stateDown _
      | released | acquired => rwa [hst] at h
  | dropAllSubscribers => exact absurd rfl hc

/-- A drop of the subscribers leaves the state in agreement in `RELEASED` only. -/
lemma agree_nil_iff (st : AgpsState) : Agree st [] ↔ st = .released := by
  cases st with
  | released => exact iff_of_true rfl rfl
  | pending | acquired => exact iff_of_false (fun ⟨_, hs, _⟩ => List.not_mem_nil hs) (by simp)
  | releasing => exact iff_of_false (fun hne => hne rfl) (by simp)

/-- In the base class a connection can always be asked for. -/
lemma stateAfter_connects_base (sm : AgpsStateMachine) (c : Call) :
    sm.stateAfter (connects base sm c) c = sm.stateAfter true c := by
  cases c with
  | subscribe | unsubscribe | granted | released | denied | dropAllSubscribers => rfl

/-- One call on a machine of the base class. -/
lemma next_agrees_iff (h : sm.Agrees) (c : Call) :
    (machine.next sm c).Agrees ↔ sm.DropsReleased c := by
  have hlist : (machine.next sm c).mSubscriberList = sm.listAfter c :=
    mSubscriberList_call lawful_base sm c
  have hstate : (machine.next sm c).mState = sm.stateAfter true c :=
    (mState_call lawful_base sm c).trans (stateAfter_connects_base sm c)
  unfold Agrees
  rw [hlist, hstate]
  cases c with
  | dropAllSubscribers => exact (agree_nil_iff sm.mState).trans ⟨fun hst _ => hst, fun hd => hd rfl⟩
  | subscribe connHandle wait => exact iff_of_true (h.after (by simp)) (by simp [DropsReleased])
  | unsubscribe | granted | released | denied =>
      exact iff_of_true (h.after (by simp)) (by simp [DropsReleased])

end Agrees

/-- **The state agrees with the subscribers.** A machine of the base class is in agreement with its
list in every state of a run exactly when the run drops the subscribers in `RELEASED` only. -/
theorem always_agrees_iff (agpsType : AGpsExtType) (calls : List Call) :
    machine.Always Agrees (init agpsType) calls ↔
      machine.Steps DropsReleased (init agpsType) calls :=
  Machine.always_iff_steps (fun _ c h => next_agrees_iff h c) rfl

/-- A modem restart while the connection is being set up leaves `PENDING` without subscribers. -/
theorem not_always_agrees :
    ¬ machine.Always Agrees (init .supl) [.subscribe 1 false, .dropAllSubscribers] := by
  rintro ⟨-, -, s, hs, -⟩
  cases hs

end AgpsStateMachine

end LocHal
