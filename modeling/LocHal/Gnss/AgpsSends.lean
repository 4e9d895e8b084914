import LocHal.Gnss.AgpsRequests

/-!
# What AGPS state machines send

The modem is told of a close, and the adapter's queue is given a request, in one place only: where a
subscriber is notified.  So what a call sends of one kind is known from what a notification of one
subscriber sends of it.  `filterMap_call` says so for both classes and for every kind of output, as
long as the start of a connection sends nothing of the kind.
-/

namespace LocHal

/-- The handle that is closed with success. -/
def AgpsOutput.closed : AgpsOutput → Option ℤ
  | .atlCloseStatus h true => some h
  | _ => none

/-- The request that is put on the adapter's queue. -/
def AgpsOutput.queued : AgpsOutput → Option (ℤ × AGpsExtType)
  | .msgRequestATL h agpsType => some (h, agpsType)
  | _ => none

namespace AgpsStateMachine

/-! ## One kind of output -/

/-- The call asks for a connection, on behalf of a new subscriber or of those that came while the
last one was going down. -/
def Starts (sm : AgpsStateMachine) : Call → Prop
  | .subscribe _ _ => sm.mState = .released
  | .released | .denied => sm.mState = .releasing ∧ active sm.mSubscriberList ≠ []
  | _ => False

instance (sm : AgpsStateMachine) : DecidablePred sm.Starts
  | .subscribe _ _ => inferInstanceAs (Decidable (sm.mState = .released))
  | .released | .denied =>
      inferInstanceAs (Decidable (sm.mState = .releasing ∧ active sm.mSubscriberList ≠ []))
  | .unsubscribe _ | .granted | .dropAllSubscribers => isFalse not_false

/-- The subscribers that wait for the close. -/
def inactive (l : List AgpsSubscriber) : List AgpsSubscriber := l.filter fun s => s.mIsInactive

variable {β : Type*}

/-- What a call sends, of which `F` is sent for each event that a subscriber is notified of. -/
def sent (F : AgpsEvent → AgpsSubscriber → List β) (sm : AgpsStateMachine) : Call → List β
  | .subscribe connHandle wait =>
      if sm.mState = .acquired then F .granted ⟨connHandle, wait, false⟩ else []
  | .unsubscribe connHandle =>
      match sm.getSubscriber connHandle with
      | none => []
      | some s =>
          if sm.mState = .released ∨ s.mWaitForCloseComplete = false then F .unsubscribe s else []
  | .granted =>
      if sm.mState = .pending then (active sm.mSubscriberList).flatMap (F .granted) else []
  | .released =>
      match sm.mState with
      | .acquired => sm.mSubscriberList.flatMap (F .released)
      | .releasing => (inactive sm.mSubscriberList).flatMap (F .released)
      | .released | .pending => []
  | .denied =>
      match sm.mState with
      | .pending => sm.mSubscriberList.flatMap (F .denied)
      | .releasing => (inactive sm.mSubscriberList).flatMap (F .released)
      | .released | .acquired => []
  | .dropAllSubscribers => []

/-- Of the outputs that `f` selects, the methods send `F` when a subscriber is notified, and none
when a connection is released, or asked for while `mRetries` meets `Q`. -/
structure Sends (v : AgpsMethods) (f : AgpsOutput → Option β)
    (F : AgpsEvent → AgpsSubscriber → List β) (Q : ℕ → Prop) : Prop where
  notify : ∀ sm event s delete,
    (v.notifyEventToSubscriber sm event s delete).2.filterMap f = F event s
  mRetries : ∀ sm event s delete, event ≠ .denied →
    (v.notifyEventToSubscriber sm event s delete).1.mRetries = sm.mRetries
  request : ∀ sm, Q sm.mRetries → (v.requestOrReleaseDataConn sm true).2.2.filterMap f = []
  release : ∀ sm, sm.getFirstSubscriber false = none →
    (v.requestOrReleaseDataConn sm false).2.2.filterMap f = []

section Sends

variable {v : AgpsMethods} {f : AgpsOutput → Option β} {F : AgpsEvent → AgpsSubscriber → List β}
  {Q : ℕ → Prop} {sm : AgpsStateMachine}

lemma Sends.notifyLoop (hv : Sends v f F Q) (sm : AgpsStateMachine) (event : AgpsEvent)
    (delete : Bool) (type : AgpsNotificationType) (l : List AgpsSubscriber) :
    (notifyLoop v event delete type sm l).2.2.filterMap f =
        (l.filter type.selects).flatMap (F event) ∧
      (event ≠ .denied → (notifyLoop v event delete type sm l).1.mRetries = sm.mRetries) := by
  induction l generalizing sm with
  | nil => exact ⟨rfl, fun _ => rfl⟩
  | cons s rest ih =>
      simp only [AgpsStateMachine.notifyLoop]
      cases hs : type.selects s with
      | true =>
          obtain ⟨hsent, hretries⟩ := ih (v.notifyEventToSubscriber sm event s false).1
          simp only [if_true]
          constructor
          · rw [List.filterMap_append, hv.notify, hsent, List.filter_cons_of_pos hs,
              List.flatMap_cons]
          · intro hne
            exact (hretries hne).trans (hv.mRetries sm event s false hne)
      | false =>
          obtain ⟨hsent, hretries⟩ := ih sm
          simp only [Bool.false_eq_true, if_false]
          refine ⟨?_, hretries⟩
          rw [hsent, List.filter_cons_of_neg (by simp [hs])]

lemma Sends.notifyAllSubscribers (hv : Sends v f F Q) (sm : AgpsStateMachine) (event : AgpsEvent)
    (delete : Bool) (type : AgpsNotificationType) :
    (notifyAllSubscribers v sm event delete type).2.filterMap f =
        (sm.mSubscriberList.filter type.selects).flatMap (F event) ∧
      (event ≠ .denied →
        (notifyAllSubscribers v sm event delete type).1.mRetries = sm.mRetries) :=
  hv.notifyLoop sm event delete type sm.mSubscriberList

/-- Notifying all. -/
lemma Sends.notifyAllSubscribers_all (hv : Sends v f F Q) (sm : AgpsStateMachine)
    (event : AgpsEvent) (delete : Bool) :
    (AgpsStateMachine.notifyAllSubscribers v sm event delete .forAllSubscribers).2.filterMap f =
      sm.mSubscriberList.flatMap (F event) := by
  rw [(hv.notifyAllSubscribers sm event delete .forAllSubscribers).1]
  congr 1
  exact List.filter_eq_self.mpr fun _ _ => rfl

lemma getFirstSubscriber_eq_none (h : sm.anyActiveSubscribers = false) :
    sm.getFirstSubscriber false = none := by
  rw [getFirstSubscriber, List.find?_eq_none]
  intro s hs
  have := List.any_eq_false.mp h s hs
  simpa using this

lemma getFirstSubscriber_of_isEmpty (h : sm.mSubscriberList.isEmpty = true) :
    sm.getFirstSubscriber false = none := by
  rw [getFirstSubscriber, List.isEmpty_iff.mp h]
  rfl

lemma Sends.finishReleasing (hv : Sends v f F Q) (hlawful : v.Lawful)
    (hq : active sm.mSubscriberList ≠ [] → Q sm.mRetries) :
    (AgpsStateMachine.finishReleasing v sm).2.filterMap f =
      (inactive sm.mSubscriberList).flatMap (F .released) := by
  obtain ⟨hsent, hretries⟩ :=
    hv.notifyAllSubscribers sm .released true .forInactiveSubscribers
  obtain ⟨-, hlist⟩ :=
    notifyAllSubscribers_frame hlawful sm .released true .forInactiveSubscribers
  have hlist : (AgpsStateMachine.notifyAllSubscribers v sm .released true
    .forInactiveSubscribers).1.mSubscriberList = active sm.mSubscriberList := hlist
  unfold AgpsStateMachine.finishReleasing
  simp only []
  split
  · rename_i hany
    have hactive : active sm.mSubscriberList ≠ [] := by
      intro hnil
      rw [anyActiveSubscribers, hlist, hnil] at hany
      cases hany
    have hstart := hv.request ((AgpsStateMachine.notifyAllSubscribers v sm .released true
      .forInactiveSubscribers).1.transitionState .pending) (by
        show Q (AgpsStateMachine.notifyAllSubscribers v sm .released true
          .forInactiveSubscribers).1.mRetries
        rw [hretries (by simp)]
        exact hq hactive)
    rw [List.filterMap_append, hstart, List.append_nil, hsent]
    rfl
  · exact hsent

lemma Sends.releaseSubscriber (hv : Sends v f F Q) (sm : AgpsStateMachine) (s : AgpsSubscriber) :
    (AgpsStateMachine.releaseSubscriber v sm s).2.filterMap f =
      if s.mWaitForCloseComplete = false then F .unsubscribe s else [] := by
  unfold AgpsStateMachine.releaseSubscriber
  cases s.mWaitForCloseComplete with
  | true => rfl
  | false => exact hv.notify sm .unsubscribe s true

lemma Sends.unsubscribeConnected (hv : Sends v f F Q) (sm : AgpsStateMachine)
    (s : AgpsSubscriber) :
    (AgpsStateMachine.unsubscribeConnected v sm s).2.filterMap f =
      if s.mWaitForCloseComplete = false then F .unsubscribe s else [] := by
  have hleft := hv.releaseSubscriber sm s
  unfold AgpsStateMachine.unsubscribeConnected
  simp only []
  split
  · rename_i hempty
    have hnone : ((AgpsStateMachine.releaseSubscriber v sm s).1.transitionState
        .released).getFirstSubscriber false = none := getFirstSubscriber_of_isEmpty hempty
    rw [List.filterMap_append, hleft, hv.release _ hnone, List.append_nil]
  · split
    · rename_i hany
      have hany : (AgpsStateMachine.releaseSubscriber v sm s).1.anyActiveSubscribers = false := by
        simpa using hany
      have hnone : ((AgpsStateMachine.releaseSubscriber v sm s).1.transitionState
          .releasing).getFirstSubscriber false = none := getFirstSubscriber_eq_none hany
      rw [List.filterMap_append, hleft, hv.release _ hnone, List.append_nil]
    · exact hleft

/-- **What a call sends** of one kind. -/
theorem Sends.filterMap_call (hv : Sends v f F Q) (hlawful : v.Lawful) {c : Call}
    (hq : sm.Starts c → Q sm.mRetries) : (call v sm c).2.filterMap f = sm.sent F c := by
  cases c with
  | subscribe connHandle wait =>
      simp only [call, processAgpsEventSubscribe, sent]
      cases hst : sm.mState with
      | released =>
          apply hv.request
          have hretries : (sm.addSubscriber ⟨connHandle, wait, false⟩).mRetries = sm.mRetries := by
            unfold addSubscriber
            split
            · rfl
            · rfl
          rw [hretries]
          exact hq hst
      | acquired => exact hv.notify sm .granted ⟨connHandle, wait, false⟩ false
      | pending | releasing => rfl
  | unsubscribe connHandle =>
      simp only [call, sent]
      cases sm.getSubscriber connHandle with
      | none => rfl
      | some s =>
          simp only [processAgpsEventUnsubscribe]
          cases hst : sm.mState with
          | released => exact hv.notify sm .unsubscribe s false
          | pending | acquired => simpa using hv.unsubscribeConnected sm s
          | releasing =>
              have hleft := hv.releaseSubscriber sm s
              simp only [reduceCtorEq, false_or]
              split
              · exact hleft
              · exact hleft
  | granted =>
      simp only [call, processAgpsEventGranted, sent]
      cases hst : sm.mState with
      | pending => exact (hv.notifyAllSubscribers _ .granted false .forActiveSubscribers).1
      | released | acquired | releasing => rfl
  | released =>
      simp only [call, processAgpsEventReleased, sent]
      cases hst : sm.mState with
      | acquired => exact hv.notifyAllSubscribers_all _ .released true
      | releasing => exact hv.finishReleasing hlawful fun hactive => hq ⟨hst, hactive⟩
      | released | pending => rfl
  | denied =>
      simp only [call, processAgpsEventDenied, sent]
      cases hst : sm.mState with
      | pending => exact hv.notifyAllSubscribers_all _ .denied true
      | releasing => exact hv.finishReleasing hlawful fun hactive => hq ⟨hst, hactive⟩
      | released | acquired => rfl
  | dropAllSubscribers => rfl

end Sends

lemma sent_nil (sm : AgpsStateMachine) (c : Call) :
    sm.sent (fun _ _ => ([] : List β)) c = [] := by
  cases c with
  | subscribe | granted | dropAllSubscribers => simp [sent]
  | unsubscribe connHandle =>
      rw [sent]
      split
      · rfl
      · simp
  | released | denied =>
      rw [sent]
      split
      · simp
      · simp
      · rfl
      · rfl

/-! ## Closes -/

/-- The handle that a subscriber's notification closes. -/
def closing (event : AgpsEvent) (s : AgpsSubscriber) : List ℤ :=
  if event = .unsubscribe ∨ event = .released then [s.mConnHandle] else []

/-- The handles that a call closes. -/
def closedBy (sm : AgpsStateMachine) (c : Call) : List ℤ := sm.sent closing c

/-- In the base class a start and a release each send one request to the framework. -/
lemma sends_base {f : AgpsOutput → Option β} {F : AgpsEvent → AgpsSubscriber → List β}
    (hnotify : ∀ sm event s delete,
      (notifyEventToSubscriber sm event s delete).2.filterMap f = F event s)
    (hrequest : ∀ type, f (.requestDataConn type) = none)
    (hrelease : ∀ type, f (.releaseDataConn type) = none) : Sends base f F fun _ => True where
  notify := hnotify
  mRetries sm event s delete _ := by
    cases delete with
    | true | false => rfl
  request sm _ := List.filterMap_cons_none (hrequest sm.mAgpsType)
  release sm _ := List.filterMap_cons_none (hrelease sm.mAgpsType)

lemma sends_closing_base : Sends base AgpsOutput.closed closing fun _ => True := by
  refine sends_base (fun sm event s delete => ?_) (fun _ => rfl) fun _ => rfl
  cases event with
  | subscribe | unsubscribe | granted | released | denied => rfl

section Closes

variable {sm : AgpsStateMachine} {h : ℤ}

lemma mem_flatMap_closing {event : AgpsEvent} {l : List AgpsSubscriber} :
    h ∈ l.flatMap (closing event) ↔
      (event = .unsubscribe ∨ event = .released) ∧ ∃ s ∈ l, s.mConnHandle = h := by
  rw [List.mem_flatMap]
  unfold closing
  split
  · rename_i hevent
    simp only [List.mem_singleton, hevent, true_and]
    exact ⟨fun ⟨s, hs, heq⟩ => ⟨s, hs, heq.symm⟩, fun ⟨s, hs, heq⟩ => ⟨s, hs, heq.symm⟩⟩
  · rename_i hevent
    simp [hevent]

/-- Who is listed after a call was listed before, with the same wish to wait for the close, or has
just subscribed. -/
lemma origin_of_listAfter {c : Call} {s : AgpsSubscriber} (hs : s ∈ sm.listAfter c) :
    (∃ s' ∈ sm.mSubscriberList, s'.mConnHandle = s.mConnHandle ∧
        s'.mWaitForCloseComplete = s.mWaitForCloseComplete) ∨
      c = .subscribe s.mConnHandle s.mWaitForCloseComplete := by
  have hactive : s ∈ active sm.mSubscriberList → s ∈ sm.mSubscriberList :=
    fun hs => (List.mem_filter.mp hs).1
  cases c with
  | subscribe connHandle wait =>
      rw [listAfter, mSubscriberList_addSubscriber] at hs
      split at hs
      · exact .inl ⟨s, hs, rfl, rfl⟩
      · rcases List.mem_append.mp hs with hs | hs
        · exact .inl ⟨s, hs, rfl, rfl⟩
        · rw [List.mem_singleton.mp hs]
          exact .inr rfl
  | unsubscribe connHandle =>
      left
      simp only [listAfter] at hs
      split at hs
      · exact ⟨s, hs, rfl, rfl⟩
      · split at hs
        · exact ⟨s, hs, rfl, rfl⟩
        · split at hs
          · obtain ⟨s', hs', rfl⟩ := List.mem_map.mp hs
            refine ⟨s', hs', ?_⟩
            split
            · exact ⟨rfl, rfl⟩
            · exact ⟨rfl, rfl⟩
          · exact ⟨s, (List.mem_filter.mp hs).1, rfl, rfl⟩
  | granted => exact .inl ⟨s, hs, rfl, rfl⟩
  | released | denied =>
      left
      simp only [listAfter] at hs
      split at hs
      · cases hs
      · exact ⟨s, hactive hs, rfl, rfl⟩
      · exact ⟨s, hs, rfl, rfl⟩
      · exact ⟨s, hs, rfl, rfl⟩
  | dropAllSubscribers => cases hs

/-- The inactive and the active subscribers have different handles. -/
lemma HandlesNodup.disjoint_active {l : List AgpsSubscriber} (hl : HandlesNodup l)
    (hin : ∃ s ∈ inactive l, s.mConnHandle = h) : ¬ ∃ s ∈ active l, s.mConnHandle = h := by
  obtain ⟨s, hs, rfl⟩ := hin
  obtain ⟨hs, hinactive⟩ := List.mem_filter.mp hs
  rintro ⟨s', hs', heq⟩
  obtain ⟨hs', hactive⟩ := List.mem_filter.mp hs'
  obtain rfl := List.inj_on_of_nodup_map hl hs' hs heq
  simp [hinactive] at hactive

/-- **A handle that is closed is no longer listed**, except where it is released in `RELEASED`:
there the subscriber is told of the close and stays. -/
lemma listed_of_closedBy_iff (hl : HandlesNodup sm.mSubscriberList) {c : Call}
    (hclosed : h ∈ sm.closedBy c) :
    (∃ s ∈ sm.listAfter c, s.mConnHandle = h) ↔ sm.mState = .released := by
  cases c with
  | subscribe connHandle wait =>
      simp only [closedBy, sent] at hclosed
      split at hclosed <;> cases hclosed
  | unsubscribe connHandle =>
      simp only [closedBy, sent, listAfter] at hclosed ⊢
      cases hs : sm.getSubscriber connHandle with
      | none => simp [hs] at hclosed
      | some s =>
          simp only [hs] at hclosed ⊢
          split at hclosed
          · rename_i hcase
            have heq : h = s.mConnHandle := by simpa [closing] using hclosed
            subst heq
            by_cases hst : sm.mState = .released
            · rw [if_pos hst]
              exact iff_of_true ⟨s, mem_of_getSubscriber hs, rfl⟩ hst
            · rw [if_neg hst, hcase.resolve_left hst]
              refine iff_of_false ?_ hst
              rintro ⟨s', hs', heq⟩
              have hne := (List.mem_filter.mp hs').2
              simp [AgpsSubscriber.equals, heq] at hne
          · cases hclosed
  | granted =>
      simp only [closedBy, sent] at hclosed
      split at hclosed
      · rcases (mem_flatMap_closing.mp hclosed).1 with hevent | hevent <;> cases hevent
      · cases hclosed
  | released =>
      simp only [closedBy, sent, listAfter] at hclosed ⊢
      cases hst : sm.mState with
      | acquired =>
          refine iff_of_false ?_ (by simp)
          rintro ⟨_, hs, -⟩
          exact List.not_mem_nil hs
      | releasing =>
          simp only [hst] at hclosed ⊢
          exact iff_of_false (hl.disjoint_active (mem_flatMap_closing.mp hclosed).2) (by simp)
      | released | pending =>
          rw [hst] at hclosed
          cases hclosed
  | denied =>
      simp only [closedBy, sent, listAfter] at hclosed ⊢
      cases hst : sm.mState with
      | pending =>
          simp only [hst] at hclosed
          rcases (mem_flatMap_closing.mp hclosed).1 with hevent | hevent <;> cases hevent
      | releasing =>
          simp only [hst] at hclosed ⊢
          exact iff_of_false (hl.disjoint_active (mem_flatMap_closing.mp hclosed).2) (by simp)
      | released | acquired =>
          rw [hst] at hclosed
          cases hclosed
  | dropAllSubscribers => cases hclosed

end Closes

end AgpsStateMachine

namespace DSStateMachine

open AgpsStateMachine (Sends closing)

/-- The start of a data call gives up on the emergency connection and asks for a normal one. -/
def FallsBack (client : DSClient) (mRetries : ℕ) : Prop :=
  client.openAndStartDataCallFn = none ∨ client.openAndStartDataCallFn = some errUnsupported ∨
    (client.openAndStartDataCallFn = some errEngineBusy ∧ maxStartDataCallRetries < mRetries + 1)

instance (client : DSClient) : DecidablePred (FallsBack client) := fun mRetries =>
  inferInstanceAs (Decidable (client.openAndStartDataCallFn = none ∨
    client.openAndStartDataCallFn = some errUnsupported ∨
      (client.openAndStartDataCallFn = some errEngineBusy ∧
        maxStartDataCallRetries < mRetries + 1)))

/-- The request that a subscriber's notification puts on the queue. -/
def queueing (event : AgpsEvent) (s : AgpsSubscriber) : List (ℤ × AGpsExtType) :=
  if event = .denied then [(s.mConnHandle, .supl)] else []

section Sends

variable {client : DSClient} {sm : AgpsStateMachine}

lemma mRetries_notify (event : AgpsEvent) (s : AgpsSubscriber) (delete : Bool)
    (hne : event ≠ .denied) :
    (notifyEventToSubscriber sm event s delete).1.mRetries = sm.mRetries := by
  unfold notifyEventToSubscriber
  simp only [if_neg hne]
  cases delete with
  | true | false => rfl

/-- Without an active subscriber nothing is sent but the stop of the data call. -/
lemma release_none (client : DSClient) (h : sm.getFirstSubscriber false = none) :
    (requestOrReleaseDataConn client sm false).2.2 = [.dsClientStopDataCall] ∨
      (requestOrReleaseDataConn client sm false).2.2 = [] := by
  unfold requestOrReleaseDataConn
  split
  · exact .inl rfl
  · rw [h]
    exact .inr rfl

/-- A start of a data call that does not fall back, or that closes no handle in any case. -/
lemma request_cases (client : DSClient) (sm : AgpsStateMachine) :
    (requestOrReleaseDataConn client sm true).2.2 = [] ∨
      (requestOrReleaseDataConn client sm true).2.2 = [.dsClientOpenAndStartDataCall] ∨
      (requestOrReleaseDataConn client sm true).2.2 =
        [.dsClientOpenAndStartDataCall, .startRetryTimer dataCallRetryDelayMsec] ∨
      (FallsBack client sm.mRetries ∧ ∃ s pre, (requestOrReleaseDataConn client sm true).2.2 =
        pre ++ [.msgRequestATL s .supl] ∧ (pre = [] ∨ pre = [.dsClientOpenAndStartDataCall])) := by
  simp only [requestOrReleaseDataConn, Bool.not_true, Bool.false_and, Bool.false_eq_true, if_false]
  cases sm.getFirstSubscriber false with
  | none => exact .inl rfl
  | some s =>
      cases hfn : client.openAndStartDataCallFn with
      | none => exact .inr (.inr (.inr ⟨.inl hfn, s.mConnHandle, [], rfl, .inl rfl⟩))
      | some ret =>
          simp only []
          split
          · rename_i hbusy
            split
            · rename_i hexhausted
              exact .inr (.inr (.inr ⟨.inr (.inr ⟨hbusy ▸ hfn, hexhausted⟩), s.mConnHandle, _,
                rfl, .inr rfl⟩))
            · exact .inr (.inr (.inl rfl))
          · split
            · rename_i hunsupported
              exact .inr (.inr (.inr ⟨.inr (.inl (hunsupported ▸ hfn)), s.mConnHandle, _, rfl,
                .inr rfl⟩))
            · exact .inr (.inl rfl)

/-- What a DS machine sends of one kind, which the start and the stop of a data call are not. -/
lemma sends_methods (client : DSClient) {β : Type*} {f : AgpsOutput → Option β}
    {F : AgpsEvent → AgpsSubscriber → List β} {Q : ℕ → Prop}
    (hnotify : ∀ sm event s delete,
      (notifyEventToSubscriber sm event s delete).2.filterMap f = F event s)
    (hopen : f .dsClientOpenAndStartDataCall = none) (hstop : f .dsClientStopDataCall = none)
    (htimer : f (.startRetryTimer dataCallRetryDelayMsec) = none)
    (hfallback : ∀ mRetries, Q mRetries → FallsBack client mRetries →
      ∀ h, f (.msgRequestATL h .supl) = none) : Sends (methods client) f F Q where
  notify := hnotify
  mRetries _ event s delete hne := mRetries_notify event s delete hne
  request sm hq := by
    show (requestOrReleaseDataConn client sm true).2.2.filterMap f = []
    rcases request_cases client sm with h | h | h | ⟨hfalls, k, pre, h, hpre⟩
    · rw [h, List.filterMap_nil]
    · rw [h, List.filterMap_cons_none hopen, List.filterMap_nil]
    · rw [h, List.filterMap_cons_none hopen, List.filterMap_cons_none htimer, List.filterMap_nil]
    · have hmsg := hfallback sm.mRetries hq hfalls k
      rcases hpre with rfl | rfl
      · rw [h, List.nil_append, List.filterMap_cons_none hmsg, List.filterMap_nil]
      · rw [h, List.singleton_append, List.filterMap_cons_none hopen,
          List.filterMap_cons_none hmsg, List.filterMap_nil]
  release sm h := by
    show (requestOrReleaseDataConn client sm false).2.2.filterMap f = []
    rcases release_none client h with h | h
    · rw [h, List.filterMap_cons_none hstop, List.filterMap_nil]
    · rw [h, List.filterMap_nil]

lemma sends_closing (client : DSClient) :
    Sends (methods client) AgpsOutput.closed closing fun _ => True := by
  refine sends_methods client (fun sm event s delete => ?_) rfl rfl rfl fun _ _ _ _ => rfl
  cases event with
  | subscribe | unsubscribe | granted | released | denied => rfl

lemma sends_queueing (client : DSClient) :
    Sends (methods client) AgpsOutput.queued queueing
      fun mRetries => ¬ FallsBack client mRetries := by
  refine sends_methods client (fun sm event s delete => ?_) rfl rfl rfl
    fun _ hnot hfalls => absurd hfalls hnot
  cases event with
  | subscribe | unsubscribe | granted | released | denied => rfl

end Sends

end DSStateMachine

namespace AgpsStateMachine

lemma sends_queued_base : Sends base AgpsOutput.queued (fun _ _ => []) fun _ => True := by
  refine sends_base (fun sm event s delete => ?_) (fun _ => rfl) fun _ => rfl
  cases event with
  | subscribe | unsubscribe | granted | released | denied => rfl

end AgpsStateMachine

end LocHal
