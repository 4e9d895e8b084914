import LocHal.Gnss.AgpsQueue

/-!
# Grants of the emergency connection (`gps/gnss/Agps.cpp`)

A handle whose data call could not be started is tried again after a while, by a request for the
emergency connection that the retry timer puts on the queue.  When the request is processed, the
machine may be in `ACQUIRED`: another handle has had the data call started in the meantime, and all
active subscribers were granted it.  Such a request is answered like any other, with a grant.

`always_grantedOnce_iff` says that this is the only way for a handle to be granted twice.
-/

namespace LocHal

/-- A handle gets its connection, or is done with it. -/
inductive ConnStatus where
  | opened (connHandle : ℤ)
  | closed (connHandle : ℤ)
deriving DecidableEq, Repr

/-- The successful `atlOpenStatus` and `atlCloseStatus`. -/
def AgpsOutput.status : AgpsOutput → Option ConnStatus
  | .atlOpenStatus h true _ _ _ => some (.opened h)
  | .atlCloseStatus h true => some (.closed h)
  | _ => none

/-! ## A record of the grants -/

/-- The handles that the modem has requested and that have not been closed since, those of them that
have been granted since, and those that have been granted once more. -/
structure GrantRecord where
  requested : List ℤ
  granted : List ℤ
  repeated : List ℤ
deriving DecidableEq, Repr

namespace GrantRecord

/-- The modem requests a handle. -/
def request (r : GrantRecord) (connHandle : ℤ) : GrantRecord :=
  { r with requested := connHandle :: r.requested, granted := r.granted.filter (· ≠ connHandle) }

/-- A handle is sent a status. -/
def see (r : GrantRecord) : ConnStatus → GrantRecord
  | .opened h =>
      if h ∈ r.requested then
        if h ∈ r.granted then { r with repeated := h :: r.repeated }
        else { r with granted := h :: r.granted }
      else r
  | .closed h =>
      { r with requested := r.requested.filter (· ≠ h), granted := r.granted.filter (· ≠ h) }

variable {r : GrantRecord} {h : ℤ}

/-- Nothing is recorded twice, and grants only of what is requested. -/
structure Single (r : GrantRecord) : Prop where
  subset : r.granted ⊆ r.requested
  repeated : r.repeated = []

lemma Single.request (hr : r.Single) (h : ℤ) : (r.request h).Single where
  subset _ hmem := List.mem_cons_of_mem _ (hr.subset (List.mem_filter.mp hmem).1)
  repeated := hr.repeated

lemma notMem_granted_request (r : GrantRecord) (h : ℤ) : h ∉ (r.request h).granted := by
  simp [request]

/-- Closes take grants away. -/
lemma Single.closed (hr : r.Single) (hs : List ℤ) :
    ((hs.map ConnStatus.closed).foldl see r).Single ∧
      ∀ h, h ∈ ((hs.map ConnStatus.closed).foldl see r).granted ↔ h ∈ r.granted ∧ h ∉ hs := by
  induction hs generalizing r with
  | nil => exact ⟨hr, fun h => by simp⟩
  | cons k hs ih =>
      have hk : (r.see (.closed k)).Single := by
        refine ⟨fun h hmem => ?_, hr.repeated⟩
        obtain ⟨hmem, hne⟩ := List.mem_filter.mp hmem
        exact List.mem_filter.mpr ⟨hr.subset hmem, hne⟩
      obtain ⟨hsingle, hgranted⟩ := ih hk
      refine ⟨hsingle, fun h => (hgranted h).trans ?_⟩
      simp only [see, List.mem_filter, decide_eq_true_eq, List.mem_cons, not_or, and_assoc]

/-- Each handle may be granted once. -/
lemma Single.opened (hr : r.Single) {hs : List ℤ} (hnodup : hs.Nodup)
    (hnew : ∀ h ∈ hs, h ∉ r.granted) :
    ((hs.map ConnStatus.opened).foldl see r).Single ∧
      ∀ h ∈ ((hs.map ConnStatus.opened).foldl see r).granted, h ∈ r.granted ∨ h ∈ hs := by
  induction hs generalizing r with
  | nil => exact ⟨hr, fun h hmem => .inl hmem⟩
  | cons k hs ih =>
      obtain ⟨hk, hnodup⟩ := List.nodup_cons.mp hnodup
      have hsee : (r.see (.opened k)).Single ∧ ∀ h ∈ (r.see (.opened k)).granted,
          h ∈ r.granted ∨ h = k := by
        rw [see, if_neg (hnew k List.mem_cons_self)]
        split
        · rename_i hrequested
          refine ⟨⟨List.cons_subset.mpr ⟨hrequested, hr.subset⟩, hr.repeated⟩, fun h hmem => ?_⟩
          exact (List.mem_cons.mp hmem).symm
        · exact ⟨hr, fun h hmem => .inl hmem⟩
      have hrest : ∀ h ∈ hs, h ∉ (r.see (.opened k)).granted := by
        intro h hmem hgranted
        rcases hsee.2 h hgranted with hold | rfl
        · exact hnew h (List.mem_cons_of_mem _ hmem) hold
        · exact hk hmem
      obtain ⟨hsingle, hgranted⟩ := ih hsee.1 hnodup hrest
      refine ⟨hsingle, fun h hmem => ?_⟩
      rcases hgranted h hmem with hold | hmem
      · exact (hsee.2 h hold).imp_right fun heq => List.mem_cons.mpr (.inl heq)
      · exact .inr (List.mem_cons_of_mem _ hmem)

/-- A grant is repeated exactly when its handle has been granted. -/
lemma Single.repeated_opened_iff (hr : r.Single) (h : ℤ) :
    (r.see (.opened h)).repeated = [] ↔ h ∉ r.granted := by
  rw [see]
  split
  · split
    · rename_i hgranted
      exact iff_of_false (List.cons_ne_nil _ _) (not_not_intro hgranted)
    · rename_i hgranted
      exact iff_of_true hr.repeated hgranted
  · rename_i hrequested
    exact iff_of_true hr.repeated fun hgranted => hrequested (hr.subset hgranted)

end GrantRecord

namespace AgpsStateMachine

/-! ## What a machine sends of grants and closes -/

/-- What a subscriber's notification says of its connection. -/
def statusOf (event : AgpsEvent) (s : AgpsSubscriber) : List ConnStatus :=
  match event with
  | .granted => [.opened s.mConnHandle]
  | .unsubscribe | .released => [.closed s.mConnHandle]
  | .denied | .subscribe => []

lemma sends_status_base : Sends base AgpsOutput.status statusOf fun _ => True := by
  refine sends_base (fun sm event s delete => ?_) (fun _ => rfl) fun _ => rfl
  cases event with
  | subscribe | unsubscribe | granted | released | denied => rfl

lemma sends_status_ds (client : DSClient) :
    Sends (DSStateMachine.methods client) AgpsOutput.status statusOf fun _ => True := by
  refine DSStateMachine.sends_methods client (fun sm event s delete => ?_) rfl rfl rfl
    fun _ _ _ _ => rfl
  cases event with
  | subscribe | unsubscribe | granted | released | denied => rfl

lemma flatMap_statusOf_granted (l : List AgpsSubscriber) :
    l.flatMap (statusOf .granted) = (l.map AgpsSubscriber.mConnHandle).map ConnStatus.opened := by
  rw [List.map_map]
  exact List.map_eq_flatMap.symm

lemma flatMap_statusOf_released (l : List AgpsSubscriber) :
    l.flatMap (statusOf .released) = (l.map AgpsSubscriber.mConnHandle).map ConnStatus.closed := by
  rw [List.map_map]
  exact List.map_eq_flatMap.symm

lemma flatMap_statusOf_denied (l : List AgpsSubscriber) : l.flatMap (statusOf .denied) = [] :=
  List.flatMap_eq_nil_iff.mpr fun _ _ => rfl

/-! ## Where the granted handles are -/

/-- Who has been granted is listed in `ACQUIRED`, and waits for the close in `RELEASING`. -/
def Held (st : AgpsState) (l : List AgpsSubscriber) (granted : List ℤ) : Prop :=
  ∀ h ∈ granted, (st = .acquired ∧ ∃ s ∈ l, s.mConnHandle = h) ∨
    (st = .releasing ∧ ∃ s ∈ l, s.mConnHandle = h ∧ s.mIsInactive = true)

section Held

variable {sm : AgpsStateMachine} {st : AgpsState} {l : List AgpsSubscriber} {granted : List ℤ}
  {r : GrantRecord} {h : ℤ}

lemma held_nil (st : AgpsState) (l : List AgpsSubscriber) : Held st l [] :=
  fun _ hmem => by cases hmem

lemma Held.mono (hheld : Held st l granted) {granted' : List ℤ} (hsub : granted' ⊆ granted) :
    Held st l granted' :=
  fun h hmem => hheld h (hsub hmem)

/-- Nobody has been granted in the other two states. -/
lemma Held.eq_nil (hheld : Held st l granted) (hst : st = .released ∨ st = .pending) :
    granted = [] := by
  rw [List.eq_nil_iff_forall_not_mem]
  intro h hmem
  rcases hheld h hmem with ⟨rfl, -⟩ | ⟨rfl, -⟩ <;> simp at hst

/-- Who is granted is listed. -/
lemma Held.lists (hheld : Held st l granted) (hmem : h ∈ granted) :
    ∃ s ∈ l, s.mConnHandle = h := by
  rcases hheld h hmem with ⟨-, hl⟩ | ⟨-, s, hs, hh, -⟩
  · exact hl
  · exact ⟨s, hs, hh⟩

/-- A new subscriber. -/
lemma Held.subscribe (hheld : Held sm.mState sm.mSubscriberList r.granted) (hr : r.Single)
    (connected : Bool) (h : ℤ) (wait : Bool) (hnew : sm.mState = .acquired → h ∉ r.granted) :
    ((sm.sent statusOf (.subscribe h wait)).foldl GrantRecord.see r).Single ∧
      Held (sm.stateAfter connected (.subscribe h wait)) (sm.listAfter (.subscribe h wait))
        ((sm.sent statusOf (.subscribe h wait)).foldl GrantRecord.see r).granted := by
  have hsub : sm.mSubscriberList ⊆ sm.listAfter (.subscribe h wait) := subset_addSubscriber sm _
  rw [sent]
  by_cases hst : sm.mState = .acquired
  · rw [if_pos hst]
    obtain ⟨hsingle, hgranted⟩ := hr.opened (List.nodup_singleton h) (by simpa using hnew hst)
    refine ⟨hsingle, fun h' hmem => .inl ⟨by simp [stateAfter, hst], ?_⟩⟩
    rcases hgranted h' hmem with hold | hmem
    · obtain ⟨s, hs, hh⟩ := hheld.lists hold
      exact ⟨s, hsub hs, hh⟩
    · rw [List.mem_singleton.mp hmem, listAfter, mSubscriberList_addSubscriber]
      split
      · rename_i hlisted
        obtain ⟨s, hs, heq⟩ := List.any_eq_true.mp hlisted
        exact ⟨s, hs, by simpa [AgpsSubscriber.equals] using heq⟩
      · exact ⟨⟨h, wait, false⟩, by simp, rfl⟩
  · rw [if_neg hst]
    refine ⟨hr, fun h' hmem => ?_⟩
    rcases hheld h' hmem with ⟨hacquired, -⟩ | ⟨hreleasing, s, hs, hh, hin⟩
    · exact absurd hacquired hst
    · exact .inr ⟨by simp [stateAfter, hreleasing], s, hsub hs, hh, hin⟩

/-- A grant is repeated exactly when a subscriber that has been granted comes again in
`ACQUIRED`. -/
lemma repeated_subscribe_iff (hr : r.Single) (sm : AgpsStateMachine) (h : ℤ) (wait : Bool) :
    ((sm.sent statusOf (.subscribe h wait)).foldl GrantRecord.see r).repeated = [] ↔
      (sm.mState = .acquired → h ∉ r.granted) := by
  rw [sent]
  split
  · rename_i hst
    exact (hr.repeated_opened_iff h).trans (by simp [hst])
  · rename_i hst
    exact iff_of_true hr.repeated fun hacquired => absurd hacquired hst

/-- A subscriber that waits for the close is released, and stays in the list. -/
lemma Held.unsubscribe (hheld : Held sm.mState sm.mSubscriberList r.granted)
    (hwaits : ∀ s ∈ sm.mSubscriberList, s.mWaitForCloseComplete = true) (connected : Bool) (h : ℤ) :
    Held (sm.stateAfter connected (.unsubscribe h)) (sm.listAfter (.unsubscribe h)) r.granted := by
  intro h' hmem
  have hst : sm.mState ≠ .released := by
    intro hst
    rw [hheld.eq_nil (.inl hst)] at hmem
    cases hmem
  simp only [stateAfter, listAfter]
  cases hs : sm.getSubscriber h with
  | none => exact hheld h' hmem
  | some s =>
      have hwait := hwaits s (mem_of_getSubscriber hs)
      have hset : ∀ s' ∈ sm.mSubscriberList, ∃ s'' ∈ (sm.setInactive s).mSubscriberList,
          s''.mConnHandle = s'.mConnHandle ∧ (s'.mIsInactive = true → s''.mIsInactive = true) := by
        intro s' hs'
        refine ⟨_, List.mem_map_of_mem hs', ?_⟩
        split
        · exact ⟨rfl, fun _ => rfl⟩
        · exact ⟨rfl, id⟩
      simp only [hwait, hst, Option.isSome_some, if_true, if_false]
      generalize (sm.setInactive s).mSubscriberList = l at hset
      have hne : ∀ {s'}, s' ∈ l → ¬ l.isEmpty = true := fun hs' hempty =>
        List.not_mem_nil (List.isEmpty_iff.mp hempty ▸ hs')
      rcases hheld h' hmem with ⟨hacquired, s', hs', hh⟩ | ⟨hreleasing, s', hs', hh, hin⟩
      · obtain ⟨s'', hs'', hh', -⟩ := hset s' hs'
        rw [hacquired, stateLeft, if_neg (hne hs'')]
        split
        · rename_i hactive
          refine .inr ⟨rfl, s'', hs'', hh'.trans hh, ?_⟩
          rw [active, List.isEmpty_iff, List.filter_eq_nil_iff] at hactive
          simpa using hactive s'' hs''
        · exact .inl ⟨rfl, s'', hs'', hh'.trans hh⟩
      · obtain ⟨s'', hs'', hh', hin'⟩ := hset s' hs'
        rw [hreleasing, stateLeft, if_neg (hne hs'')]
        exact .inr ⟨rfl, s'', hs'', hh'.trans hh, hin' hin⟩

lemma sent_unsubscribe (sm : AgpsStateMachine) (h : ℤ) :
    ∃ hs : List ℤ, sm.sent statusOf (.unsubscribe h) = hs.map ConnStatus.closed := by
  rw [sent]
  split
  · exact ⟨[], rfl⟩
  · rename_i s _
    split
    · exact ⟨[s.mConnHandle], rfl⟩
    · exact ⟨[], rfl⟩

lemma stateLeft_ne_acquired (hst : st ≠ .acquired) (l : List AgpsSubscriber) :
    stateLeft st l ≠ .acquired := by
  cases st with
  | acquired => exact absurd rfl hst
  | released => simp [stateLeft]
  | pending =>
      rw [stateLeft]
      split
      · simp
      · split
        · simp
        · simp
  | releasing =>
      rw [stateLeft]
      split
      · simp
      · simp

/-- The data call is there: all active subscribers are granted it. -/
lemma Held.opened (hheld : Held sm.mState sm.mSubscriberList r.granted) (hr : r.Single)
    (hnodup : HandlesNodup sm.mSubscriberList) (connected : Bool) :
    ((sm.sent statusOf .granted).foldl GrantRecord.see r).Single ∧
      Held (sm.stateAfter connected .granted) (sm.listAfter .granted)
        ((sm.sent statusOf .granted).foldl GrantRecord.see r).granted := by
  simp only [sent, stateAfter, listAfter]
  by_cases hst : sm.mState = .pending
  · rw [if_pos hst, if_pos hst, flatMap_statusOf_granted]
    have hnil := hheld.eq_nil (.inr hst)
    obtain ⟨hsingle, hgranted⟩ := hr.opened (hnodup.filter _) (fun h _ hmem => by
      rw [hnil] at hmem
      cases hmem)
    refine ⟨hsingle, fun h hmem => .inl ⟨rfl, ?_⟩⟩
    rcases hgranted h hmem with hold | hmem
    · exact hheld.lists hold
    · obtain ⟨s, hs, hh⟩ := List.mem_map.mp hmem
      exact ⟨s, (List.mem_filter.mp hs).1, hh⟩
  · rw [if_neg hst, if_neg hst]
    exact ⟨hr, hheld⟩

/-- Closes that reach everybody who has been granted. -/
lemma closedAll (hr : r.Single) {l : List AgpsSubscriber}
    (hl : ∀ h ∈ r.granted, ∃ s ∈ l, s.mConnHandle = h) :
    ((l.flatMap (statusOf .released)).foldl GrantRecord.see r).Single ∧
      ((l.flatMap (statusOf .released)).foldl GrantRecord.see r).granted = [] := by
  rw [flatMap_statusOf_released]
  obtain ⟨hsingle, hgranted⟩ := hr.closed (l.map AgpsSubscriber.mConnHandle)
  refine ⟨hsingle, List.eq_nil_iff_forall_not_mem.mpr fun h hmem => ?_⟩
  obtain ⟨hold, hnot⟩ := (hgranted h).mp hmem
  obtain ⟨s, hs, hh⟩ := hl h hold
  exact hnot (List.mem_map.mpr ⟨s, hs, hh⟩)

/-- A connection that goes down takes its grants with it. -/
lemma Held.down (hheld : Held sm.mState sm.mSubscriberList r.granted) (hr : r.Single) {c : Call}
    (hc : c = .released ∨ c = .denied) (connected : Bool) :
    ((sm.sent statusOf c).foldl GrantRecord.see r).Single ∧
      Held (sm.stateAfter connected c) (sm.listAfter c)
        ((sm.sent statusOf c).foldl GrantRecord.see r).granted := by
  cases hst : sm.mState with
  | released | pending =>
      have hnil := hheld.eq_nil (by simp [hst])
      have hsent : sm.sent statusOf c = [] := by
        rcases hc with rfl | rfl <;> simp [sent, hst, flatMap_statusOf_denied]
      rw [hsent, List.foldl_nil, hnil]
      exact ⟨hr, held_nil _ _⟩
  | acquired =>
      rcases hc with rfl | rfl
      · have hsent : sm.sent statusOf .released =
            sm.mSubscriberList.flatMap (statusOf .released) := by
          simp [sent, hst]
        obtain ⟨hsingle, hnil⟩ := closedAll hr fun h hmem => hheld.lists hmem
        rw [hsent, hnil]
        exact ⟨hsingle, held_nil _ _⟩
      · -- a denial comes too late
        have hsent : sm.sent statusOf .denied = [] := by simp [sent, hst]
        have hlist : sm.listAfter .denied = sm.mSubscriberList := by simp [listAfter, hst]
        have hstate : sm.stateAfter connected .denied = sm.mState := by simp [stateAfter, hst]
        rw [hsent, hlist, hstate]
        exact ⟨hr, hheld⟩
  | releasing =>
      have hsent : sm.sent statusOf c =
          (inactive sm.mSubscriberList).flatMap (statusOf .released) := by
        rcases hc with rfl | rfl <;> simp [sent, hst]
      have hinactive : ∀ h ∈ r.granted, ∃ s ∈ inactive sm.mSubscriberList, s.mConnHandle = h := by
        intro h hmem
        rcases hheld h hmem with ⟨hacquired, -⟩ | ⟨-, s, hs, hh, hin⟩
        · cases hst.symm.trans hacquired
        · exact ⟨s, List.mem_filter.mpr ⟨hs, hin⟩, hh⟩
      obtain ⟨hsingle, hnil⟩ := closedAll hr hinactive
      rw [hsent, hnil]
      exact ⟨hsingle, held_nil _ _⟩

end Held

end AgpsStateMachine

namespace AgpsManager

open AgpsStateMachine (sent statusOf Sends)

/-! ## The machine that gets a call -/

section PassedTo

variable {client : DSClient} {m : AgpsManager} {n : Nif} {c : AgpsStateMachine.Call}
  {result : AgpsManager × List AgpsOutput} {sm : AgpsStateMachine}

lemma sends_status_at (client : DSClient) (n : Nif) :
    Sends (methodsAt client n) AgpsOutput.status statusOf fun _ => True := by
  unfold methodsAt
  split
  · exact AgpsStateMachine.sends_status_ds client
  · exact AgpsStateMachine.sends_status_base

/-- The statuses that the call sends. -/
lemma PassedTo.statuses (hp : PassedTo client m n c result sm) :
    result.2.filterMap AgpsOutput.status = sm.sent statusOf (translated n sm c) := by
  rw [hp.outs]
  exact (sends_status_at client n).filterMap_call (lawful_methodsAt client n) fun _ => trivial

lemma PassedTo.state (hp : PassedTo client m n c result sm) :
    ∃ connected, (result.1.machineAt n).mState = sm.stateAfter connected (translated n sm c) := by
  rw [hp.target, AgpsStateMachine.mState_call (lawful_methodsAt client n)]
  exact ⟨_, rfl⟩

/-- The other calls of a run send no status of success. -/
lemma statuses_aside (client : DSClient) {c : Call} (hc : m.passed c = none)
    (hcreate : c ≠ .createAgpsStateMachines) (hssr : c ≠ .handleModemSSR) :
    (call AgpsQueue.conf client m c).2.filterMap AgpsOutput.status = [] := by
  rcases outs_aside client hc hcreate hssr with houts | ⟨h, houts⟩ | ⟨h, houts⟩ <;>
    rw [houts] <;> rfl

end PassedTo

end AgpsManager

/-! ## Runs -/

/-- The manager with its queue and the record of the grants, which no code reads. -/
structure AgpsGrants where
  queue : AgpsQueue
  record : GrantRecord
deriving DecidableEq, Repr

namespace AgpsGrants

open AgpsStateMachine (Held statusOf sent)
open AgpsManager (PassedTo passedTo_call translated statuses_aside call_aside)
open AgpsQueue (Event call_ne call_nextMsg call_nextMsg_none call_retryTimerExpired next_of_call
  next_of_none)

/-- Nothing has been requested. -/
def init : AgpsGrants := ⟨AgpsQueue.init, ⟨[], [], []⟩⟩

/-- The record as an event begins. -/
def recordBefore (r : GrantRecord) : Event → GrantRecord
  | .requestATL connHandle _ => r.request connHandle
  | _ => r

/-- One event, with what the DS client answers. -/
def step (s : AgpsGrants) (e : DSClient × Event) : AgpsGrants × List AgpsOutput :=
  let result := AgpsQueue.step s.queue e
  (⟨result.1,
    (result.2.filterMap AgpsOutput.status).foldl GrantRecord.see (recordBefore s.record e.2)⟩,
    result.2)

/-- The manager with its record as a machine. -/
def machine : Machine AgpsGrants (DSClient × Event) AgpsOutput := ⟨step⟩

/-- The events of the emergency connection: the modem's requests for it, releases of any handle, the
reports of the data call, and what the retry timers and the queue do. -/
def EmergencyOnly : Event → Prop
  | .requestATL _ agpsType => agpsType = .suplEs
  | .reportAtlOpenSuccess _ _ _ _ | .reportAtlOpenFailed _ | .reportAtlClosed _ => False
  | .releaseATL _ | .reportDataCallOpened | .reportDataCallClosed | .retryTimerExpired | .nextMsg =>
      True

/-- Nobody is granted a connection twice between the request of the modem and the close. -/
def GrantedOnce (s : AgpsGrants) : Prop := s.record.repeated = []

/-- No retry is processed in `ACQUIRED` for a handle that has been granted. -/
def RetriesUngranted (s : AgpsGrants) (e : DSClient × Event) : Prop :=
  e.2 = .nextMsg → ∀ h, s.queue.queue.head? = some (h, .suplEs) →
    (s.queue.machineAt .ds).mState = .acquired → h ∉ s.record.granted

/-- What is known of every state: no machine but `mDsNif` has a connection, and who has been granted
is where the close will find it. -/
structure Once (s : AgpsGrants) : Prop where
  kept : s.queue.Kept
  others : ∀ n, n ≠ .ds → (s.queue.machineAt n).mState ≠ .acquired
  single : s.record.Single
  held : Held (s.queue.machineAt .ds).mState (s.queue.machineAt .ds).mSubscriberList
    s.record.granted

section Once

variable {s : AgpsGrants} {client : DSClient} {e : Event} {c : AgpsManager.Call} {n : Nif}
  {c' : AgpsStateMachine.Call} {sm : AgpsStateMachine}

lemma once_init : init.Once where
  kept := AgpsQueue.kept_init
  others n _ := by cases n with | agnss | internet | ds => decide
  single := ⟨List.Subset.refl _, rfl⟩
  held := AgpsStateMachine.held_nil _ _

lemma record_next (client : DSClient) (hc : e.call s.queue = some c) :
    (machine.next s (client, e)).record =
      ((AgpsManager.call AgpsQueue.conf client s.queue.mAgpsManager c).2.filterMap
        AgpsOutput.status).foldl GrantRecord.see (recordBefore s.record e) := by
  simp only [Machine.next, machine, step, AgpsQueue.step, hc]

lemma next_of_no_call (hc : e.call s.queue = none) (hbefore : recordBefore s.record e = s.record) :
    machine.next s (client, e) = s := by
  simp only [Machine.next, machine, step, AgpsQueue.step, hc, hbefore, List.filterMap_nil,
    List.foldl_nil]

lemma queue_next (s : AgpsGrants) (e : DSClient × Event) :
    (machine.next s e).queue = AgpsQueue.machine.next s.queue e := rfl

lemma machineAt_next (hc : e.call s.queue = some c) (n : Nif) :
    (machine.next s (client, e)).queue.machineAt n =
      (AgpsManager.call AgpsQueue.conf client s.queue.mAgpsManager c).1.machineAt n := by
  rw [queue_next, next_of_call hc]
  rfl

/-- An event that calls `mDsNif`. -/
lemma Once.calledDs (hs : s.Once) (hc : e.call s.queue = some c)
    (hpassed : s.queue.mAgpsManager.passed c = some (.ds, c'))
    (hr : (recordBefore s.record e).Single)
    (hsub : (recordBefore s.record e).granted ⊆ s.record.granted)
    (hnew : ∀ h wait, c' = .subscribe h wait → (s.queue.machineAt .ds).mState = .acquired →
      h ∉ (recordBefore s.record e).granted) :
    (machine.next s (client, e)).Once := by
  obtain ⟨sm, hp⟩ := passedTo_call client hs.kept.present hpassed
  obtain ⟨connected, hstate⟩ := hp.state
  have hrecord := record_next client hc
  rw [hp.statuses] at hrecord
  have hheld : Held sm.mState sm.mSubscriberList (recordBefore s.record e).granted := by
    rw [hp.same.mState, hp.same.mSubscriberList]
    exact hs.held.mono hsub
  have hdrop : translated .ds sm c' ≠ .dropAllSubscribers := by
    unfold translated
    split
    · simp
    · rintro rfl
      exact AgpsManager.passed_ne_drop hpassed
  have hsubscribe : ∀ h wait, translated .ds sm c' = .subscribe h wait →
      c' = .subscribe h wait := by
    intro h wait
    unfold translated
    split
    · simp
    · exact id
  have hafter : ((sm.sent statusOf (translated .ds sm c')).foldl GrantRecord.see
        (recordBefore s.record e)).Single ∧
      Held (sm.stateAfter connected (translated .ds sm c')) (sm.listAfter (translated .ds sm c'))
        ((sm.sent statusOf (translated .ds sm c')).foldl GrantRecord.see
          (recordBefore s.record e)).granted := by
    generalize translated .ds sm c' = call at hdrop hsubscribe
    cases call with
    | subscribe h wait =>
        refine hheld.subscribe hr connected h wait fun hst => ?_
        exact hnew h wait (hsubscribe h wait rfl) (hp.same.mState ▸ hst)
    | unsubscribe h =>
        have hwaits : ∀ s' ∈ sm.mSubscriberList, s'.mWaitForCloseComplete = true := by
          rw [hp.same.mSubscriberList]
          exact fun s' hs' => (hs.kept.waits .ds s' hs').trans rfl
        obtain ⟨hs', hsent⟩ := AgpsStateMachine.sent_unsubscribe sm h
        rw [hsent]
        obtain ⟨hsingle, hgranted⟩ := hr.closed hs'
        refine ⟨hsingle, (hheld.unsubscribe hwaits connected h).mono fun h' hmem => ?_⟩
        exact ((hgranted h').mp hmem).1
    | granted => exact hheld.opened hr (hp.same.tidy (hs.kept.tidy .ds)).nodup connected
    | released => exact hheld.down hr (.inl rfl) connected
    | denied => exact hheld.down hr (.inr rfl) connected
    | dropAllSubscribers => exact absurd rfl hdrop
  exact {
    kept := hs.kept.next (client, e)
    others := fun n hn => by
      rw [machineAt_next hc, hp.others n hn]
      exact hs.others n hn
    single := by
      rw [hrecord]
      exact hafter.1
    held := by
      rw [machineAt_next hc, hstate, hp.list, hrecord]
      exact hafter.2 }

/-- An event that calls another machine, with a subscription or its end. -/
lemma Once.calledOther (hs : s.Once) (hc : e.call s.queue = some c)
    (hpassed : s.queue.mAgpsManager.passed c = some (n, c')) (hn : n ≠ .ds)
    (hcall : (∃ h wait, c' = .subscribe h wait) ∨ ∃ h, c' = .unsubscribe h)
    (hbefore : recordBefore s.record e = s.record) :
    (machine.next s (client, e)).Once := by
  obtain ⟨sm, hp⟩ := passedTo_call client hs.kept.present hpassed
  obtain ⟨connected, hstate⟩ := hp.state
  have hst : sm.mState ≠ .acquired := hp.same.mState ▸ hs.others n hn
  have htranslated : translated n sm c' = c' := if_neg fun hcase => hn hcase.1
  have hrecord := record_next client hc
  rw [hp.statuses, htranslated, hbefore] at hrecord
  rw [htranslated] at hstate
  obtain ⟨hs', hsent⟩ : ∃ hs' : List ℤ, sm.sent statusOf c' = hs'.map ConnStatus.closed := by
    rcases hcall with ⟨h, wait, rfl⟩ | ⟨h, rfl⟩
    · exact ⟨[], if_neg hst⟩
    · exact AgpsStateMachine.sent_unsubscribe sm h
  have hafter : sm.stateAfter connected c' ≠ .acquired := by
    rcases hcall with ⟨h, wait, rfl⟩ | ⟨h, rfl⟩
    · rw [AgpsStateMachine.stateAfter]
      split
      · simp
      · exact hst
    · rw [AgpsStateMachine.stateAfter]
      split
      · exact AgpsStateMachine.stateLeft_ne_acquired hst _
      · exact hst
  obtain ⟨hsingle, hgranted⟩ := hs.single.closed hs'
  rw [hsent] at hrecord
  exact {
    kept := hs.kept.next (client, e)
    others := fun n' hn' => by
      rw [machineAt_next hc]
      by_cases hnn : n' = n
      · subst hnn
        rw [hstate]
        exact hafter
      · rw [hp.others n' hnn]
        exact hs.others n' hn'
    single := by
      rw [hrecord]
      exact hsingle
    held := by
      rw [machineAt_next hc, hp.others .ds (Ne.symm hn), hrecord]
      exact hs.held.mono fun h hmem => ((hgranted h).mp hmem).1 }

/-- An event that calls no machine. -/
lemma Once.aside (hs : s.Once) (hc : e.call s.queue = some c)
    (hpassed : s.queue.mAgpsManager.passed c = none)
    (hbefore : recordBefore s.record e = s.record) : (machine.next s (client, e)).Once := by
  obtain ⟨hcreate, hssr⟩ := call_ne hc
  obtain ⟨hsame, -, -⟩ := call_aside client hpassed hcreate hssr
  have hrecord := record_next client hc
  rw [statuses_aside client hpassed hcreate hssr, List.foldl_nil, hbefore] at hrecord
  have hat : ∀ n, (machine.next s (client, e)).queue.machineAt n = s.queue.machineAt n := by
    intro n
    rw [machineAt_next hc, hsame]
    rfl
  exact {
    kept := hs.kept.next (client, e)
    others := fun n hn => hat n ▸ hs.others n hn
    single := hrecord ▸ hs.single
    held := by
      rw [hat, hrecord]
      exact hs.held }

/-- A request is processed. -/
lemma Once.nextMsg (hs : s.Once) {h : ℤ} {agpsType : AGpsExtType}
    (hhead : s.queue.queue.head? = some (h, agpsType))
    (hnew : agpsType = .suplEs → (s.queue.machineAt .ds).mState = .acquired →
      h ∉ s.record.granted) : (machine.next s (client, .nextMsg)).Once := by
  have hcall := call_nextMsg hhead
  by_cases hn : AgpsManager.nifOf agpsType = .ds
  · have hes := AgpsManager.nifOf_eq_ds.mp hn
    have hpassed : s.queue.mAgpsManager.passed (.requestATL h agpsType) =
        some (.ds, .subscribe h (agpsType = .suplEs)) := by
      rw [AgpsManager.passed, hn]
    refine hs.calledDs hcall hpassed hs.single (List.Subset.refl _) fun h' wait heq => ?_
    cases heq
    exact hnew hes
  · exact hs.calledOther hcall rfl hn (.inl ⟨h, _, rfl⟩) rfl

/-- **One event** leaves everybody granted once, if it is no retry for somebody who has been
granted. -/
lemma Once.next (hs : s.Once) (he : EmergencyOnly e) (hretry : s.RetriesUngranted (client, e)) :
    (machine.next s (client, e)).Once := by
  cases e with
  | requestATL h agpsType =>
      cases he
      have hpassed : s.queue.mAgpsManager.passed (.requestATL h .suplEs) =
        some (.ds, .subscribe h true) := rfl
      refine hs.calledDs rfl hpassed (hs.single.request h) (List.filter_subset_self _) ?_
      rintro h' wait heq -
      cases heq
      exact GrantRecord.notMem_granted_request _ h
  | releaseATL h =>
      rcases AgpsManager.passed_releaseATL s.queue.mAgpsManager h with
        ⟨n, hpassed, -⟩ | ⟨hpassed, -⟩
      · by_cases hn : n = .ds
        · subst hn
          refine hs.calledDs rfl hpassed hs.single (List.Subset.refl _) fun h' wait heq => ?_
          cases heq
        · exact hs.calledOther rfl hpassed hn (.inr ⟨h, rfl⟩) rfl
      · exact hs.aside rfl hpassed rfl
  | reportDataCallOpened | reportDataCallClosed =>
      exact hs.calledDs rfl rfl hs.single (List.Subset.refl _) fun h' wait heq => by cases heq
  | reportAtlOpenSuccess | reportAtlOpenFailed | reportAtlClosed => exact he.elim
  | retryTimerExpired =>
      rcases call_retryTimerExpired s.queue with hcall | hcall
      · rw [next_of_no_call hcall rfl]
        exact hs
      · exact hs.aside hcall rfl rfl
  | nextMsg =>
      cases hhead : s.queue.queue.head? with
      | none =>
          rw [next_of_no_call (call_nextMsg_none hhead) rfl]
          exact hs
      | some msg =>
          obtain ⟨h, agpsType⟩ := msg
          refine hs.nextMsg hhead fun hes hst => ?_
          exact hretry rfl h (hes ▸ hhead) hst

/-- A retry for somebody who has been granted, processed in `ACQUIRED`, grants him again. -/
lemma grantedOnce_next_iff (hs : s.Once) (he : EmergencyOnly e) :
    GrantedOnce (machine.next s (client, e)) ↔ s.RetriesUngranted (client, e) := by
  constructor
  · rintro honce heq h hhead hst
    obtain rfl : e = .nextMsg := heq
    have hcall := call_nextMsg hhead
    obtain ⟨sm, hp⟩ := passedTo_call client hs.kept.present
      (show s.queue.mAgpsManager.passed (.requestATL h .suplEs) = some (.ds, .subscribe h true)
        from rfl)
    have htranslated : translated .ds sm (.subscribe h true) = .subscribe h true :=
      if_neg fun hcase => by simp at hcase
    have hrecord := record_next client hcall
    rw [hp.statuses, htranslated] at hrecord
    rw [GrantedOnce, hrecord] at honce
    have hacquired : sm.mState = .acquired := hp.same.mState.trans hst
    exact (AgpsStateMachine.repeated_subscribe_iff hs.single sm h true).mp honce hacquired
  · exact fun hretry => (hs.next he hretry).single.repeated

end Once

/-- **Granted once.**  In a run of the emergency connection nobody is granted it twice between his
request and his close exactly when no retry is processed, in `ACQUIRED`, for a handle that has been
granted. -/
theorem always_grantedOnce_iff (events : List (DSClient × Event))
    (hevents : ∀ e ∈ events, EmergencyOnly e.2) :
    machine.Always GrantedOnce init events ↔ machine.Steps RetriesUngranted init events := by
  have hsteps : ∀ s, machine.Steps (fun _ e => EmergencyOnly e.2) s events := by
    induction events with
    | nil => exact fun _ => trivial
    | cons e events ih =>
        obtain ⟨he, hevents⟩ := List.forall_mem_cons.mp hevents
        exact fun s => ⟨he, ih hevents _⟩
  rw [Machine.always_iff_steps_next, and_iff_right (show GrantedOnce init from rfl)]
  refine Machine.steps_iff_steps (P := Once) (fun s e hs he => grantedOnce_next_iff hs he) ?_
    once_init (hsteps init)
  exact fun s e hs he honce => hs.next he ((grantedOnce_next_iff hs he).mp honce)

/-- A data call that is started at once. -/
theorem always_grantedOnce_started :
    let client : DSClient := ⟨true, some 0, true⟩
    let events : List (DSClient × Event) := [(client, .requestATL 1 .suplEs),
      (client, .reportDataCallOpened), (client, .releaseATL 1), (client, .reportDataCallClosed)]
    machine.Always GrantedOnce init events ↔ machine.Steps RetriesUngranted init events :=
  always_grantedOnce_iff _ (by simp [EmergencyOnly])

/-- The start for the first handle is to be retried; the start for the second succeeds, and both are
granted.  Then the retry is processed, and the first is granted again. -/
theorem granted_twice :
    let busy : DSClient := ⟨true, some DSStateMachine.errEngineBusy, true⟩
    let client : DSClient := ⟨true, some 0, true⟩
    let events : List (DSClient × Event) := [(busy, .requestATL 1 .suplEs),
      (client, .requestATL 2 .suplEs), (client, .reportDataCallOpened),
      (client, .retryTimerExpired), (client, .nextMsg)]
    (∀ e ∈ events, EmergencyOnly e.2) ∧ ¬ machine.Always GrantedOnce init events := by
  intro busy client events
  refine ⟨by simp [events, EmergencyOnly], ?_⟩
  rintro ⟨-, -, -, -, -, honce⟩
  revert honce
  unfold GrantedOnce
  decide

end AgpsGrants

end LocHal
