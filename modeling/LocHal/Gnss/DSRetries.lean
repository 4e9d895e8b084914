import LocHal.Gnss.AgpsQueue

/-!
# Retries of the data call (`gps/gnss/Agps.cpp`)

`mRetries` counts the starts of the data call that have found the engine busy.  A denial resets it,
and nothing else does: a data call that is started after some retries leaves its count to the next
one.  While all starts find the engine busy, what becomes of them depends on the count alone, see
`budget`; whoever makes them, the modem or the retries, there are as many retries before the
fallback as the count has left over.
-/

namespace LocHal
namespace DSStateMachine

/-- What becomes of a start that finds the engine busy. -/
inductive BusyOutcome where
  | retry
  | fallback
deriving DecidableEq, Repr

/-- The outcome that an output stands for: the retry timer is started, or the normal connection is
requested. -/
def busyOutcome : AgpsOutput → Option BusyOutcome
  | .startRetryTimer _ => some .retry
  | .msgRequestATL _ .supl => some .fallback
  | _ => none

/-- The count and the outcome of one more start. -/
def attempt (mRetries : ℕ) : ℕ × BusyOutcome :=
  if mRetries + 1 > maxStartDataCallRetries then (0, .fallback) else (mRetries + 1, .retry)

/-- The outcomes of a number of starts. -/
def budget (mRetries : ℕ) : ℕ → List BusyOutcome
  | 0 => []
  | n + 1 => (attempt mRetries).2 :: budget (attempt mRetries).1 n

/-- The count after a number of starts. -/
def countAfter (mRetries : ℕ) : ℕ → ℕ
  | 0 => mRetries
  | n + 1 => countAfter (attempt mRetries).1 n

/-- All retries, and then the fallback. -/
def fullBudget : List BusyOutcome := List.replicate maxStartDataCallRetries .retry ++ [.fallback]

section Budget

variable {r n : ℕ}

lemma budget_add (r n k : ℕ) :
    budget r (n + k) = budget r n ++ budget (countAfter r n) k := by
  induction n generalizing r with
  | zero => rw [Nat.zero_add]; rfl
  | succ n ih => rw [Nat.add_right_comm, budget, ih, budget, countAfter, List.cons_append]

lemma length_budget (r n : ℕ) : (budget r n).length = n := by
  induction n generalizing r with
  | zero => rfl
  | succ n ih => rw [budget, List.length_cons, ih]

/-- The retries that are left over, and then the fallback. -/
lemma budget_eq (r : ℕ) : budget r (maxStartDataCallRetries - r + 1) =
    List.replicate (maxStartDataCallRetries - r) .retry ++ [.fallback] := by
  induction hk : maxStartDataCallRetries - r generalizing r with
  | zero =>
      have hexhausted : r + 1 > maxStartDataCallRetries := by omega
      rw [budget, attempt, if_pos hexhausted]
      rfl
  | succ k ih =>
      have hleft : ¬ r + 1 > maxStartDataCallRetries := by omega
      have hrest : maxStartDataCallRetries - (r + 1) = k := by omega
      rw [budget, attempt, if_neg hleft, ih (r + 1) hrest, List.replicate_succ, List.cons_append]

/-- Only the fresh count has all retries left. -/
lemma budget_eq_fullBudget (h : budget r n = fullBudget) : r = 0 := by
  by_contra hr
  have hlength := congrArg List.length h
  rw [length_budget, fullBudget, List.length_append, List.length_replicate, List.length_singleton]
    at hlength
  -- the fallback comes too early
  have hle : maxStartDataCallRetries - r + 1 ≤ n := by omega
  obtain ⟨k, rfl⟩ := Nat.exists_eq_add_of_le hle
  have hlt : maxStartDataCallRetries - r < maxStartDataCallRetries := by
    have : maxStartDataCallRetries = 4 := rfl
    omega
  have hfallback := congrArg (fun l => l[maxStartDataCallRetries - r]?) h
  simp only [budget_add, budget_eq, fullBudget] at hfallback
  rw [List.getElem?_append_left (by simp), List.getElem?_append_right (by simp),
    List.getElem?_append_left (by simpa using hlt)] at hfallback
  simp [hlt] at hfallback

/-- Fresh, the outcomes never leave the full budget. -/
lemma budget_zero (n : ℕ) : budget 0 n <+: fullBudget ∨ fullBudget <+: budget 0 n := by
  have hfull : fullBudget = budget 0 (maxStartDataCallRetries + 1) := (budget_eq 0).symm
  rw [hfull]
  rcases Nat.le_total n (maxStartDataCallRetries + 1) with hle | hle
  · obtain ⟨k, hk⟩ := Nat.exists_eq_add_of_le hle
    rw [hk, budget_add]
    exact .inl (List.prefix_append _ _)
  · obtain ⟨k, rfl⟩ := Nat.exists_eq_add_of_le hle
    rw [budget_add]
    exact .inr (List.prefix_append _ _)

end Budget

/-! ## Starts that find the engine busy -/

section Busy

variable {client : DSClient} {sm : AgpsStateMachine}

/-- What the start sends. -/
def busyOutputs (mRetries : ℕ) (connHandle : ℤ) : List AgpsOutput :=
  [.dsClientOpenAndStartDataCall,
    match (attempt mRetries).2 with
    | .retry => .startRetryTimer dataCallRetryDelayMsec
    | .fallback => .msgRequestATL connHandle .supl]

lemma request_busy (hbusy : client.openAndStartDataCallFn = some errEngineBusy) {s : AgpsSubscriber}
    (hs : sm.getFirstSubscriber false = some s) :
    ∃ ret, ret ≠ 0 ∧ requestOrReleaseDataConn client sm true =
      ({ sm with mRetries := (attempt sm.mRetries).1 }, ret,
        busyOutputs sm.mRetries s.mConnHandle) := by
  simp only [requestOrReleaseDataConn, hs, hbusy, Bool.not_true, Bool.false_and,
    Bool.false_eq_true, if_false, if_true, busyOutputs, attempt]
  by_cases hexhausted : sm.mRetries + 1 > maxStartDataCallRetries
  · simp only [if_pos hexhausted]
    exact ⟨errEngineBusy, by decide, rfl⟩
  · simp only [if_neg hexhausted]
    refine ⟨if client.timerStarted then -1 else errEngineBusy, ?_, rfl⟩
    split
    · decide
    · decide

/-- A subscription in `RELEASED`. -/
lemma subscribe_busy (hbusy : client.openAndStartDataCallFn = some errEngineBusy)
    (htidy : sm.Tidy) (hst : sm.mState = .released) (h : ℤ) (wait : Bool) :
    ∃ k, (AgpsStateMachine.call (methods client) sm (.subscribe h wait)).2 =
        busyOutputs sm.mRetries k ∧
      (AgpsStateMachine.call (methods client) sm (.subscribe h wait)).1.mRetries =
        (attempt sm.mRetries).1 ∧
      (AgpsStateMachine.call (methods client) sm (.subscribe h wait)).1.mState = .released := by
  have hadded : (sm.addSubscriber ⟨h, wait, false⟩).mRetries = sm.mRetries ∧
      (sm.addSubscriber ⟨h, wait, false⟩).mState = .released := by
    unfold AgpsStateMachine.addSubscriber
    split
    · exact ⟨rfl, hst⟩
    · exact ⟨rfl, hst⟩
  obtain ⟨s, hs⟩ : ∃ s, (sm.addSubscriber ⟨h, wait, false⟩).getFirstSubscriber false = some s := by
    rw [← Option.isSome_iff_exists, AgpsStateMachine.getFirstSubscriber, List.find?_isSome,
      AgpsStateMachine.mSubscriberList_addSubscriber]
    split
    · rename_i hlisted
      obtain ⟨s, hs, -⟩ := List.any_eq_true.mp hlisted
      exact ⟨s, hs, by simp [htidy.released hst s hs]⟩
    · exact ⟨⟨h, wait, false⟩, by simp, rfl⟩
  obtain ⟨ret, hret, hrequest⟩ := request_busy hbusy hs
  have hmethods : (methods client).requestOrReleaseDataConn = requestOrReleaseDataConn client := rfl
  have hcall : AgpsStateMachine.call (methods client) sm (.subscribe h wait) =
      ({ sm.addSubscriber ⟨h, wait, false⟩ with mRetries := (attempt sm.mRetries).1 },
        busyOutputs sm.mRetries s.mConnHandle) := by
    simp only [AgpsStateMachine.call, AgpsStateMachine.processAgpsEventSubscribe, hst, hmethods,
      hrequest, if_neg hret, hadded.1]
  rw [hcall]
  exact ⟨s.mConnHandle, rfl, rfl, hadded.2⟩

lemma busyOutcome_busyOutputs (mRetries : ℕ) (connHandle : ℤ) :
    (busyOutputs mRetries connHandle).filterMap busyOutcome = [(attempt mRetries).2] := by
  rw [busyOutputs]
  cases (attempt mRetries).2 with
  | retry | fallback => rfl

/-- The other calls have no such outcome in `RELEASED`. -/
lemma aside_busy (client : DSClient) (hst : sm.mState = .released) {c : AgpsStateMachine.Call}
    (hc : ∀ h wait, c ≠ .subscribe h wait) :
    (AgpsStateMachine.call (methods client) sm c).2.filterMap busyOutcome = [] ∧
      (AgpsStateMachine.call (methods client) sm c).1.mRetries = sm.mRetries ∧
      (AgpsStateMachine.call (methods client) sm c).1.mState = .released := by
  cases c with
  | subscribe h wait => exact absurd rfl (hc h wait)
  | unsubscribe h =>
      simp only [AgpsStateMachine.call]
      cases sm.getSubscriber h with
      | none => exact ⟨rfl, rfl, hst⟩
      | some s =>
          simp only [AgpsStateMachine.processAgpsEventUnsubscribe, hst]
          exact ⟨rfl, rfl, hst⟩
  | granted =>
      rw [AgpsStateMachine.call, AgpsStateMachine.processAgpsEventGranted, hst]
      exact ⟨rfl, rfl, hst⟩
  | released =>
      rw [AgpsStateMachine.call, AgpsStateMachine.processAgpsEventReleased, hst]
      exact ⟨rfl, rfl, hst⟩
  | denied =>
      rw [AgpsStateMachine.call, AgpsStateMachine.processAgpsEventDenied, hst]
      exact ⟨rfl, rfl, hst⟩
  | dropAllSubscribers => exact ⟨rfl, rfl, hst⟩

end Busy

/-- A machine of the base class starts no data call. -/
lemma sends_busyOutcome_base :
    AgpsStateMachine.Sends AgpsStateMachine.base busyOutcome (fun _ _ => []) fun _ => True := by
  refine AgpsStateMachine.sends_base (fun sm event s delete => ?_) (fun _ => rfl) fun _ => rfl
  cases event with
  | subscribe | unsubscribe | granted | released | denied => rfl

end DSStateMachine

namespace AgpsQueue

open AgpsManager (PassedTo passedTo_call translated nifOf nifOf_eq_ds methodsAt)
open DSStateMachine (BusyOutcome busyOutcome errEngineBusy attempt budget budget_add countAfter
  fullBudget)

/-! ## Runs that find the engine busy -/

/-- A start of the data call would find the engine busy. -/
def FindsBusy (e : DSClient × Event) : Prop := e.1.openAndStartDataCallFn = some errEngineBusy

instance : DecidablePred FindsBusy := fun e =>
  inferInstanceAs (Decidable (e.1.openAndStartDataCallFn = some errEngineBusy))

/-- The retries and fallbacks of a run. -/
def outcomes (q : AgpsQueue) (events : List (DSClient × Event)) : List BusyOutcome :=
  (machine.outs q events).filterMap busyOutcome

/-- `mDsNif` is in `RELEASED`. -/
structure Idle (q : AgpsQueue) : Prop where
  kept : q.Kept
  released : (q.machineAt .ds).mState = .released

section Busy

variable {q : AgpsQueue} {client : DSClient} {e : Event} {c : AgpsManager.Call} {n : Nif}
  {c' : AgpsStateMachine.Call} {result : AgpsManager × List AgpsOutput} {sm : AgpsStateMachine}

lemma outcomes_cons (q : AgpsQueue) (e : DSClient × Event) (events : List (DSClient × Event)) :
    outcomes q (e :: events) =
      (machine.emit q e).filterMap busyOutcome ++ outcomes (machine.next q e) events := by
  rw [outcomes, Machine.outs_cons, List.filterMap_append]
  rfl

lemma outcomes_append (q : AgpsQueue) (events events' : List (DSClient × Event)) :
    outcomes q (events ++ events') =
      outcomes q events ++ outcomes (machine.run q events) events' := by
  rw [outcomes, Machine.outs_append, List.filterMap_append]
  rfl

lemma emit_of_call (hc : e.call q = some c) :
    machine.emit q (client, e) = (AgpsManager.call conf client q.mAgpsManager c).2 := by
  simp only [Machine.emit, machine, step, hc]

lemma emit_of_none (hc : e.call q = none) : machine.emit q (client, e) = [] := by
  simp only [Machine.emit, machine, step, hc]

lemma machineAt_next_of_call (client : DSClient) (hc : e.call q = some c) (n : Nif) :
    (machine.next q (client, e)).machineAt n =
      (AgpsManager.call conf client q.mAgpsManager c).1.machineAt n := by
  rw [next_of_call hc]
  rfl

/-- A call on `mDsNif` in `RELEASED` is processed as it is. -/
lemma Idle.call_ds (hq : q.Idle) (hp : PassedTo client q.mAgpsManager .ds c' result sm) :
    sm.mState = .released ∧
      result.1.machineAt .ds =
        (AgpsStateMachine.call (DSStateMachine.methods client) sm c').1 ∧
      result.2 = (AgpsStateMachine.call (DSStateMachine.methods client) sm c').2 := by
  have hst : sm.mState = .released := hp.same.mState.trans hq.released
  have htranslated : translated .ds sm c' = c' := if_neg fun hcase => by simp [hst] at hcase
  have hmethods : methodsAt client .ds = DSStateMachine.methods client := if_pos rfl
  have htarget := hp.target
  have houts := hp.outs
  rw [htranslated, hmethods] at htarget houts
  exact ⟨hst, htarget, houts⟩

/-- A subscription at `mDsNif` is a start. -/
lemma Idle.subscribe (hq : q.Idle) (hbusy : client.openAndStartDataCallFn = some errEngineBusy)
    {h : ℤ} {wait : Bool} (hp : PassedTo client q.mAgpsManager .ds (.subscribe h wait) result sm) :
    ∃ k, result.2 = DSStateMachine.busyOutputs (q.machineAt .ds).mRetries k ∧
      (result.1.machineAt .ds).mRetries = (attempt (q.machineAt .ds).mRetries).1 ∧
      (result.1.machineAt .ds).mState = .released := by
  obtain ⟨hst, htarget, houts⟩ := hq.call_ds hp
  rw [htarget, houts, machineAt, ← hp.mRetries]
  exact DSStateMachine.subscribe_busy hbusy (hp.same.tidy (hq.kept.tidy .ds)) hst h wait

/-- The other calls are no starts. -/
lemma Idle.aside (hq : q.Idle) (hp : PassedTo client q.mAgpsManager n c' result sm)
    (hc : n = .ds → ∀ h wait, c' ≠ .subscribe h wait) :
    result.2.filterMap busyOutcome = [] ∧
      (result.1.machineAt .ds).mRetries = (q.machineAt .ds).mRetries ∧
      (result.1.machineAt .ds).mState = .released := by
  by_cases hn : n = .ds
  · subst hn
    obtain ⟨hst, htarget, houts⟩ := hq.call_ds hp
    rw [htarget, houts, machineAt, ← hp.mRetries]
    exact DSStateMachine.aside_busy client hst (hc rfl)
  · have hmethods : methodsAt client n = AgpsStateMachine.base := if_neg hn
    have houts := hp.outs
    rw [hmethods] at houts
    rw [hp.others .ds (Ne.symm hn), houts,
      DSStateMachine.sends_busyOutcome_base.filterMap_call AgpsStateMachine.lawful_base
        fun _ => trivial]
    exact ⟨AgpsStateMachine.sent_nil sm _, rfl, hq.released⟩

/-- **One event**, while starts find the engine busy, is some number of starts. -/
lemma Idle.next (hq : q.Idle) (hbusy : FindsBusy (client, e)) :
    (machine.next q (client, e)).Idle ∧ ∃ n,
      (machine.emit q (client, e)).filterMap busyOutcome = budget (q.machineAt .ds).mRetries n ∧
      ((machine.next q (client, e)).machineAt .ds).mRetries =
        countAfter (q.machineAt .ds).mRetries n := by
  have hkept := hq.kept.next (client, e)
  cases hc : e.call q with
  | none =>
      rw [next_of_none hc, emit_of_none hc]
      exact ⟨hq, 0, rfl, rfl⟩
  | some c =>
      have hat := machineAt_next_of_call client hc .ds
      rw [emit_of_call hc]
      cases hpassed : q.mAgpsManager.passed c with
      | none =>
          obtain ⟨hcreate, hssr⟩ := call_ne hc
          obtain ⟨hsame, -, -⟩ := AgpsManager.call_aside client hpassed hcreate hssr
          rw [hsame] at hat
          refine ⟨⟨hkept, hat ▸ hq.released⟩, 0, ?_, congrArg AgpsStateMachine.mRetries hat⟩
          rcases AgpsManager.outs_aside client hpassed hcreate hssr with
            houts | ⟨h, houts⟩ | ⟨h, houts⟩ <;> rw [houts] <;> rfl
      | some target =>
          obtain ⟨n, c'⟩ := target
          obtain ⟨sm, hp⟩ := passedTo_call client hq.kept.present hpassed
          by_cases hstart : n = .ds ∧ ∃ h wait, c' = .subscribe h wait
          · obtain ⟨rfl, h, wait, rfl⟩ := hstart
            obtain ⟨k, houts, hretries, hreleased⟩ := hq.subscribe hbusy hp
            rw [← hat] at hretries hreleased
            refine ⟨⟨hkept, hreleased⟩, 1, ?_, hretries⟩
            rw [houts]
            exact DSStateMachine.busyOutcome_busyOutputs _ k
          · obtain ⟨houts, hretries, hreleased⟩ :=
              hq.aside hp fun hn h wait heq => hstart ⟨hn, h, wait, heq⟩
            rw [← hat] at hretries hreleased
            exact ⟨⟨hkept, hreleased⟩, 0, houts, hretries⟩

/-- **A run**, while starts find the engine busy. -/
lemma Idle.outcomes_eq (hq : q.Idle) {events : List (DSClient × Event)}
    (hevents : ∀ e ∈ events, FindsBusy e) :
    ∃ n, outcomes q events = budget (q.machineAt .ds).mRetries n := by
  induction events generalizing q with
  | nil => exact ⟨0, rfl⟩
  | cons e events ih =>
      obtain ⟨he, hrest⟩ := List.forall_mem_cons.mp hevents
      obtain ⟨hnext, n, houts, hretries⟩ := hq.next he
      obtain ⟨k, hk⟩ := ih hnext hrest
      refine ⟨n + k, ?_⟩
      rw [outcomes_cons, houts, hk, hretries, budget_add]

/-! ## The retries drive themselves -/

/-- The engine is busy, and timers can be started. -/
def busyClient : DSClient := ⟨true, some errEngineBusy, true⟩

/-- A retry timer expires, or a request is processed, while the engine is busy. -/
def Driven (e : DSClient × Event) : Prop :=
  e.1 = busyClient ∧ (e.2 = .retryTimerExpired ∨ e.2 = .nextMsg)

/-- One start has been made, from `q` to `q'`: the subscribers of `mDsNif` wait for a retry or have
fallen back. -/
structure Attempted (q q' : AgpsQueue) : Prop where
  idle : q'.Idle
  listed : (q'.machineAt .ds).mSubscriberList ≠ []
  mRetries : (q'.machineAt .ds).mRetries = (attempt (q.machineAt .ds).mRetries).1
  timer : (attempt (q.machineAt .ds).mRetries).2 = .retry → 0 < q'.retryTimers

/-- A request for the emergency connection, of the modem or from the queue. -/
lemma Idle.attempted (hq : q.Idle) {h : ℤ} (hc : e.call q = some (.requestATL h .suplEs)) :
    q.Attempted (machine.next q (busyClient, e)) ∧
      (machine.emit q (busyClient, e)).filterMap busyOutcome =
        [(attempt (q.machineAt .ds).mRetries).2] := by
  have hpassed : q.mAgpsManager.passed (.requestATL h .suplEs) =
    some (.ds, .subscribe h true) := rfl
  obtain ⟨sm, hp⟩ := passedTo_call busyClient hq.kept.present hpassed
  obtain ⟨k, houts, hretries, hreleased⟩ := hq.subscribe rfl hp
  have hat := machineAt_next_of_call busyClient hc .ds
  rw [← hat] at hretries hreleased
  rw [emit_of_call hc, houts, DSStateMachine.busyOutcome_busyOutputs]
  refine ⟨⟨⟨hq.kept.next _, hreleased⟩, ?_, hretries, fun hretry => ?_⟩, rfl⟩
  · obtain ⟨s, hs, -⟩ := hp.lists_subscribe rfl
    rw [hat]
    exact List.ne_nil_of_mem hs
  · rw [next_of_call hc, absorb, houts, DSStateMachine.busyOutputs, hretry]
    exact Nat.lt_add_left _ Nat.one_pos

/-- A retry that is queued comes to be a start. -/
lemma Idle.exists_nextMsg (hq : q.Idle) {pre post : List (ℤ × AGpsExtType)} {h : ℤ}
    (hqueue : q.queue = pre ++ (h, .suplEs) :: post) :
    ∃ events, (∀ e ∈ events, Driven e) ∧ q.Attempted (machine.run q events) ∧
      outcomes q events = [(attempt (q.machineAt .ds).mRetries).2] := by
  induction pre generalizing q post with
  | nil =>
      have hhead : q.queue.head? = some (h, .suplEs) := by rw [hqueue]; rfl
      obtain ⟨hattempted, houts⟩ := hq.attempted (call_nextMsg hhead)
      refine ⟨[(busyClient, .nextMsg)], ?_, hattempted, ?_⟩
      · simp [Driven]
      · rw [outcomes_cons, houts]
        rfl
  | cons msg pre ih =>
      obtain ⟨k, agpsType⟩ := msg
      have hhead : q.queue.head? = some (k, agpsType) := by rw [hqueue]; rfl
      have hcall := call_nextMsg hhead
      by_cases hes : agpsType = .suplEs
      · subst hes
        obtain ⟨hattempted, houts⟩ := hq.attempted hcall
        refine ⟨[(busyClient, .nextMsg)], ?_, hattempted, ?_⟩
        · simp [Driven]
        · rw [outcomes_cons, houts]
          rfl
      · -- the request is for another machine
        obtain ⟨sm, hp⟩ := passedTo_call busyClient hq.kept.present
          (c := .requestATL k agpsType) rfl
        have hn : nifOf agpsType ≠ .ds := fun hn => hes (nifOf_eq_ds.mp hn)
        obtain ⟨houts, hretries, hreleased⟩ := hq.aside hp fun hds => absurd hds hn
        have hat := machineAt_next_of_call busyClient hcall .ds
        have hnext : (machine.next q (busyClient, .nextMsg)).Idle :=
          ⟨hq.kept.next _, hat ▸ hreleased⟩
        have hrest : (machine.next q (busyClient, .nextMsg)).queue =
            pre ++ (h, .suplEs) :: (post ++ (AgpsManager.call conf busyClient q.mAgpsManager
              (.requestATL k agpsType)).2.filterMap AgpsOutput.queued) := by
          rw [next_of_call hcall, absorb, Event.before, hqueue]
          simp
        obtain ⟨events, hdriven, hattempted, houtcomes⟩ := ih hnext hrest
        rw [hat, hretries] at houtcomes
        refine ⟨(busyClient, .nextMsg) :: events, ?_, ?_, ?_⟩
        · exact List.forall_mem_cons.mpr ⟨⟨rfl, .inr rfl⟩, hdriven⟩
        · obtain ⟨hidle, hlisted, hcount, htimer⟩ := hattempted
          rw [hat, hretries] at hcount htimer
          exact ⟨hidle, hlisted, hcount, htimer⟩
        · rw [outcomes_cons, emit_of_call hcall, houts, houtcomes, List.nil_append]

/-- A retry timer that runs leads to a start. -/
lemma Idle.exists_round (hq : q.Idle) (hlisted : (q.machineAt .ds).mSubscriberList ≠ [])
    (htimer : 0 < q.retryTimers) :
    ∃ events, (∀ e ∈ events, Driven e) ∧ q.Attempted (machine.run q events) ∧
      outcomes q events = [(attempt (q.machineAt .ds).mRetries).2] := by
  have hcall : Event.call q .retryTimerExpired = some .retryCallback := if_neg (by omega)
  obtain ⟨s, hs⟩ : ∃ s, (q.machineAt .ds).getFirstSubscriber false = some s := by
    obtain ⟨s, hs⟩ := List.exists_mem_of_ne_nil _ hlisted
    rw [← Option.isSome_iff_exists, AgpsStateMachine.getFirstSubscriber, List.find?_isSome]
    exact ⟨s, hs, by simp [(hq.kept.tidy .ds).released hq.released s hs]⟩
  have hds : q.mAgpsManager.mDsNif = some (q.machineAt .ds) := hq.kept.present.nif .ds
  have houts : (AgpsManager.call conf busyClient q.mAgpsManager .retryCallback).2 =
      [.msgRequestATL s.mConnHandle .suplEs] := by
    simp only [AgpsManager.call, hds, Option.map_some, Option.getD_some,
      DSStateMachine.retryCallback, hs]
  have hat := machineAt_next_of_call busyClient hcall .ds
  have hsame : (AgpsManager.call conf busyClient q.mAgpsManager .retryCallback).1.machineAt .ds =
    q.machineAt .ds := rfl
  rw [hsame] at hat
  have hqueue : (machine.next q (busyClient, .retryTimerExpired)).queue =
      q.queue ++ (s.mConnHandle, .suplEs) :: [] := by
    rw [next_of_call hcall, absorb, houts]
    rfl
  have hnext : (machine.next q (busyClient, .retryTimerExpired)).Idle :=
    ⟨hq.kept.next _, hat ▸ hq.released⟩
  obtain ⟨events, hdriven, hattempted, houtcomes⟩ := hnext.exists_nextMsg hqueue
  rw [hat] at houtcomes
  refine ⟨(busyClient, .retryTimerExpired) :: events, ?_, ?_, ?_⟩
  · exact List.forall_mem_cons.mpr ⟨⟨rfl, .inl rfl⟩, hdriven⟩
  · obtain ⟨hidle, hlisted, hcount, htimer⟩ := hattempted
    rw [hat] at hcount htimer
    exact ⟨hidle, hlisted, hcount, htimer⟩
  · rw [outcomes_cons, emit_of_call hcall, houts, houtcomes]
    rfl

/-- The retries go on until the fallback. -/
lemma Idle.exists_fallback {k : ℕ} (hq : q.Idle)
    (hlisted : (q.machineAt .ds).mSubscriberList ≠ []) (htimer : 0 < q.retryTimers)
    (hk : DSStateMachine.maxStartDataCallRetries - (q.machineAt .ds).mRetries = k) :
    ∃ events, (∀ e ∈ events, Driven e) ∧
      outcomes q events = List.replicate k BusyOutcome.retry ++ [.fallback] := by
  induction k generalizing q with
  | zero =>
      obtain ⟨events, hdriven, -, houtcomes⟩ := hq.exists_round hlisted htimer
      have hexhausted : (q.machineAt .ds).mRetries + 1 >
        DSStateMachine.maxStartDataCallRetries := by omega
      rw [attempt, if_pos hexhausted] at houtcomes
      exact ⟨events, hdriven, houtcomes⟩
  | succ k ih =>
      obtain ⟨events, hdriven, hattempted, houtcomes⟩ := hq.exists_round hlisted htimer
      have hleft : ¬ (q.machineAt .ds).mRetries + 1 >
        DSStateMachine.maxStartDataCallRetries := by omega
      have hattempt : attempt (q.machineAt .ds).mRetries =
        ((q.machineAt .ds).mRetries + 1, .retry) := if_neg hleft
      obtain ⟨hidle, hlisted', hcount, htimer'⟩ := hattempted
      rw [hattempt] at houtcomes hcount htimer'
      obtain ⟨rest, hrest, houtcomes'⟩ :=
        ih hidle hlisted' (htimer' rfl) (by rw [hcount]; simp only []; omega)
      refine ⟨events ++ rest, List.forall_mem_append.mpr ⟨hdriven, hrest⟩, ?_⟩
      rw [outcomes_append, houtcomes, houtcomes', List.replicate_succ]
      rfl

end Busy

/-! ## The budget of a call setup -/

/-- A subscriber whose starts all find the engine busy gets all retries before the fallback: no run
has another outcome, and the retries alone lead there. -/
def FullBudget (q : AgpsQueue) (h : ℤ) : Prop :=
  (∀ client events, FindsBusy (client, .requestATL h .suplEs) → (∀ e ∈ events, FindsBusy e) →
      outcomes q ((client, .requestATL h .suplEs) :: events) <+: fullBudget ∨
        fullBudget <+: outcomes q ((client, .requestATL h .suplEs) :: events)) ∧
    ∃ events, (∀ e ∈ events, Driven e) ∧
      outcomes q ((busyClient, .requestATL h .suplEs) :: events) = fullBudget

/-- **The retry budget.**  After any history that leaves `mDsNif` in `RELEASED`, a new subscriber
has the full budget if and only if no start has been counted since the last denial. -/
theorem fullBudget_iff (history : List (DSClient × Event)) (h : ℤ)
    (hreleased : ((machine.run init history).machineAt .ds).mState = .released) :
    FullBudget (machine.run init history) h ↔
      ((machine.run init history).machineAt .ds).mRetries = 0 := by
  have hkept : (machine.run init history).Kept :=
    Machine.run_of_steps (C := fun _ _ => True) (fun _ e hq _ => hq.next e) kept_init
      (Machine.steps_of_forall _ (fun _ _ => trivial) _ _)
  generalize machine.run init history = q at hreleased hkept
  have hq : q.Idle := ⟨hkept, hreleased⟩
  have hbusy : ∀ e : DSClient × Event, Driven e → FindsBusy e := fun e he => by
    rw [FindsBusy, he.1]
    rfl
  constructor
  · rintro ⟨-, events, hdriven, houtcomes⟩
    have hevents : ∀ e ∈ (busyClient, Event.requestATL h .suplEs) :: events, FindsBusy e :=
      List.forall_mem_cons.mpr ⟨rfl, fun e he => hbusy e (hdriven e he)⟩
    obtain ⟨n, hn⟩ := hq.outcomes_eq hevents
    exact DSStateMachine.budget_eq_fullBudget (hn.symm.trans houtcomes)
  · intro hfresh
    constructor
    · intro client events he hevents
      obtain ⟨n, hn⟩ := hq.outcomes_eq (List.forall_mem_cons.mpr ⟨he, hevents⟩)
      rw [hn, hfresh]
      exact DSStateMachine.budget_zero n
    · obtain ⟨hattempted, houts⟩ := hq.attempted (e := .requestATL h .suplEs) rfl
      obtain ⟨hidle, hlisted, hcount, htimer⟩ := hattempted
      rw [hfresh] at houts hcount htimer
      obtain ⟨events, hdriven, houtcomes⟩ :=
        hidle.exists_fallback (k := 3) hlisted (htimer rfl) (by rw [hcount]; rfl)
      refine ⟨events, hdriven, ?_⟩
      rw [outcomes_cons, houts, houtcomes]
      rfl

/-- A setup that found the engine free, and has been granted, released and closed, leaves the next
handle the full budget. -/
theorem fullBudget_after_call :
    let client : DSClient := ⟨true, some 0, true⟩
    FullBudget (machine.run init [(client, .requestATL 1 .suplEs), (client, .reportDataCallOpened),
      (client, .releaseATL 1), (client, .reportDataCallClosed)]) 2 :=
  (fullBudget_iff _ 2 (by decide)).mpr (by decide)

/-- The data call of the first handle is started by a retry, and granted, released and closed.  Its
one retry is missing from the budget of the next handle. -/
theorem budget_left_over :
    let client : DSClient := ⟨true, some 0, true⟩
    let q := machine.run init [(busyClient, .requestATL 1 .suplEs), (client, .retryTimerExpired),
      (client, .nextMsg), (client, .reportDataCallOpened), (client, .releaseATL 1),
      (client, .reportDataCallClosed)]
    ((q.machineAt .ds).mState = .released ∧ q.retryTimers = 0 ∧ q.queue = [] ∧
      ¬ (q.machineAt .ds).Lists 2) ∧ ¬ FullBudget q 2 := by
  intro client q
  refine ⟨by decide, fun hfull => ?_⟩
  have hprefix := hfull.1 busyClient [(busyClient, .retryTimerExpired), (busyClient, .nextMsg),
    (busyClient, .retryTimerExpired), (busyClient, .nextMsg), (busyClient, .retryTimerExpired),
    (busyClient, .nextMsg)] rfl (by decide)
  revert hprefix
  decide

end AgpsQueue
end LocHal
