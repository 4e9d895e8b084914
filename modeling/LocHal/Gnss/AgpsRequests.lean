import LocHal.Gnss.AgpsLists

/-!
# Requests of AGPS handles

A request of a connection handle is answered at once by an open-status, or the handle is listed as
an active subscriber and answered later.  There is one way in which a request is neither: the
machine still lists the handle from an earlier request that has been released and waits for the
close, so that `addSubscriber` finds the handle listed and leaves the inactive entry as it is.
`request_kept_iff` says that this is the only way, for every state that the manager can reach.

The configuration and what the DS client answers may change with every call.
-/

namespace LocHal

namespace AgpsStateMachine

/-- The handle is in the subscriber list, not marked inactive. -/
def ListsActive (sm : AgpsStateMachine) (h : ℤ) : Prop :=
  ∃ s ∈ sm.mSubscriberList, s.mConnHandle = h ∧ s.mIsInactive = false

instance (sm : AgpsStateMachine) (h : ℤ) : Decidable (sm.ListsActive h) :=
  inferInstanceAs (Decidable (∃ s ∈ sm.mSubscriberList, s.mConnHandle = h ∧ s.mIsInactive = false))

/-! ## Tidy lists -/

/-- Each handle is listed once, and nobody waits for a close in `RELEASED`. -/
structure Tidy (sm : AgpsStateMachine) : Prop where
  nodup : HandlesNodup sm.mSubscriberList
  released : sm.mState = .released → ∀ s ∈ sm.mSubscriberList, s.mIsInactive = false

section Tidy

variable {sm sm' : AgpsStateMachine} {v : AgpsMethods}

lemma tidy_init (agpsType : AGpsExtType) : (init agpsType).Tidy :=
  ⟨List.nodup_nil, fun _ s hs => by cases hs⟩

lemma Same.tidy (hs : sm.Same sm') (h : sm.Tidy) : sm'.Tidy where
  nodup := hs.mSubscriberList ▸ h.nodup
  released hst := hs.mSubscriberList ▸ h.released (hs.mState.symm.trans hst)

lemma Tidy.nodup_after (h : sm.Tidy) (c : Call) : HandlesNodup (sm.listAfter c) := by
  cases c with
  | subscribe connHandle wait => exact h.nodup.addSubscriber _
  | unsubscribe connHandle =>
      simp only [listAfter]
      split
      · exact h.nodup
      · split
        · exact h.nodup
        · split
          · exact h.nodup.setInactive _
          · exact h.nodup.filter _
  | granted => exact h.nodup
  | released =>
      simp only [listAfter]
      split
      · exact List.nodup_nil
      · exact h.nodup.filter _
      · exact h.nodup
      · exact h.nodup
  | denied =>
      simp only [listAfter]
      split
      · exact List.nodup_nil
      · exact h.nodup.filter _
      · exact h.nodup
      · exact h.nodup
  | dropAllSubscribers => exact List.nodup_nil

lemma eq_nil_of_stateLeft {st : AgpsState} {l : List AgpsSubscriber} (hst : st ≠ .released)
    (h : stateLeft st l = .released) : l = [] := by
  have hagree := agree_stateLeft (l := l) hst
  rw [h] at hagree
  exact hagree

lemma mIsInactive_of_mem_active {l : List AgpsSubscriber} {s : AgpsSubscriber} (hs : s ∈ active l) :
    s.mIsInactive = false := by
  simpa using (List.mem_filter.mp hs).2

lemma Tidy.released_after (h : sm.Tidy) {connected : Bool} {c : Call}
    (hst : sm.stateAfter connected c = .released) :
    ∀ s ∈ sm.listAfter c, s.mIsInactive = false := by
  intro s hs
  cases c with
  | subscribe connHandle wait =>
      have hreleased : sm.mState = .released := by
        simp only [stateAfter] at hst
        split at hst
        · cases hst
        · exact hst
      rw [listAfter, mSubscriberList_addSubscriber] at hs
      split at hs
      · exact h.released hreleased s hs
      · rcases List.mem_append.mp hs with hs | hs
        · exact h.released hreleased s hs
        · rw [List.mem_singleton.mp hs]
  | unsubscribe connHandle =>
      simp only [stateAfter] at hst
      by_cases hreleased : sm.mState = .released
      · refine h.released hreleased s ?_
        simp only [listAfter, hreleased, if_true] at hs
        split at hs
        · exact hs
        · exact hs
      · split at hst
        · rw [eq_nil_of_stateLeft hreleased hst] at hs
          cases hs
        · exact absurd hst hreleased
  | granted =>
      simp only [stateAfter] at hst
      split at hst
      · cases hst
      · exact h.released hst s hs
  | released =>
      simp only [stateAfter, listAfter] at hst hs
      cases hcase : sm.mState with
      | acquired =>
          rw [hcase] at hs
          cases hs
      | releasing =>
          rw [hcase] at hs
          exact mIsInactive_of_mem_active hs
      | released | pending =>
          rw [hcase] at hs hst
          exact h.released (hcase.trans hst) s hs
  | denied =>
      simp only [stateAfter, listAfter] at hst hs
      cases hcase : sm.mState with
      | pending =>
          rw [hcase] at hs
          cases hs
      | releasing =>
          rw [hcase] at hs
          exact mIsInactive_of_mem_active hs
      | released | acquired =>
          rw [hcase] at hs hst
          exact h.released (hcase.trans hst) s hs
  | dropAllSubscribers => cases hs

lemma Tidy.call (hv : v.Lawful) (h : sm.Tidy) (c : Call) : (call v sm c).1.Tidy where
  nodup := by
    rw [mSubscriberList_call hv]
    exact h.nodup_after c
  released hst := by
    rw [mState_call hv] at hst
    rw [mSubscriberList_call hv]
    exact h.released_after hst

end Tidy

end AgpsStateMachine

namespace AgpsManager

open AgpsStateMachine (Tidy tidy_init Call)

/-! ## Calls on the machines of a manager -/

/-- The methods of the class of a machine. -/
def methodsAt (client : DSClient) (n : Nif) : AgpsMethods :=
  if n = .ds then DSStateMachine.methods client else AgpsStateMachine.base

/-- The call that event processing sees: `DSStateMachine` takes a `RELEASED` in `PENDING` for a
`DENIED`. -/
def translated (n : Nif) (sm : AgpsStateMachine) (c : AgpsStateMachine.Call) :
    AgpsStateMachine.Call :=
  if n = .ds ∧ c = .released ∧ sm.mState = .pending then .denied else c

section Calls

variable {conf : AgpsConf} {client : DSClient} {m : AgpsManager}

lemma lawful_methodsAt (client : DSClient) (n : Nif) : (methodsAt client n).Lawful := by
  unfold methodsAt
  split
  · exact DSStateMachine.lawful_methods client
  · exact AgpsStateMachine.lawful_base

lemma process_eq {n : Nif} {sm : AgpsStateMachine} (hn : m.nif n = some sm)
    (c : AgpsStateMachine.Call) :
    process client m n c =
      (m.setNif n (AgpsStateMachine.call (methodsAt client n) sm (translated n sm c)).1,
        (AgpsStateMachine.call (methodsAt client n) sm (translated n sm c)).2) := by
  unfold process methodsAt translated
  rw [hn]
  by_cases hds : n = .ds
  · simp only [hds, if_true, true_and, DSStateMachine.call]
    split
    · rfl
    · rfl
  · simp only [hds, if_false, false_and]

/-- A machine that is created has no subscribers, as the null pointer before. -/
lemma same_setNif_init {n : Nif} (hn : (m.nif n).isNone) (agpsType : AGpsExtType) (n' : Nif) :
    (m.machineAt n').Same ((m.setNif n (.init agpsType)).machineAt n') := by
  rw [machineAt_setNif]
  split
  · rename_i heq
    rw [heq, machineAt, Option.isNone_iff_eq_none.mp hn]
    exact ⟨rfl, rfl⟩
  · exact .refl _

/-- Creating machines changes no list. -/
lemma same_create (conf : AgpsConf) (m : AgpsManager) (n : Nif) :
    (m.machineAt n).Same ((createAgpsStateMachines conf m).1.machineAt n) := by
  have hm : (if m.mInternetNif.isNone then m.setNif .internet (.init .wwanAny) else m) =
      m.ensure .internet .wwanAny := rfl
  have hinternet := (same_ensure m (n := .internet) (by decide) .wwanAny).1 n
  unfold createAgpsStateMachines
  simp only [hm]
  generalize m.ensure .internet .wwanAny = m₁ at hinternet ⊢
  have hm₁ : (if m₁.mAgnssNif.isNone then m₁.setNif .agnss (.init .supl) else m₁) =
      m₁.ensure .agnss .supl := rfl
  have hagnss := hinternet.trans ((same_ensure m₁ (n := .agnss) (by decide) .supl).1 n)
  simp only [hm₁]
  generalize m₁.ensure .agnss .supl = m₂ at hagnss ⊢
  split
  · split
    · rename_i hds
      split
      · exact hagnss
      · split
        · exact hagnss
        · have hnone : (m₂.nif .ds).isNone := ((Bool.and_eq_true _ _).mp hds).1
          exact hagnss.trans (same_setNif_init hnone .suplEs n)
    · exact hagnss
  · exact hinternet

/-- Looking up a machine changes no list. -/
lemma same_get (conf : AgpsConf) (m : AgpsManager) (agpsType : AGpsExtType) (n : Nif) :
    (m.machineAt n).Same ((getAgpsStateMachine conf m agpsType).1.machineAt n) := by
  unfold getAgpsStateMachine
  cases agpsType with
  | suplEs =>
      simp only []
      split
      · split
        · exact same_create conf m n
        · exact .refl _
      · exact .refl _
  | invalid | supl | any | c2k | wwanAny | wifi | other => exact .refl _

/-- A call on a machine keeps what calls by lawful methods keep. -/
lemma forall_machineAt_process {P : AgpsStateMachine → Prop}
    (hcall : ∀ {v : AgpsMethods}, v.Lawful → ∀ {sm} c, P sm → P (AgpsStateMachine.call v sm c).1)
    (h : ∀ n, P (m.machineAt n)) (n' : Nif) (c : AgpsStateMachine.Call) (n : Nif) :
    P ((process client m n' c).1.machineAt n) := by
  cases hn : m.nif n' with
  | none =>
      unfold process
      rw [hn]
      exact h n
  | some sm =>
      rw [process_eq hn, machineAt_setNif]
      split
      · exact hcall (lawful_methodsAt client n') _ (machineAt_of_nif hn ▸ h n')
      · exact h n

/-- A modem restart drops the subscribers of every machine. -/
lemma same_handleModemSSR (conf : AgpsConf) (m : AgpsManager) (n : Nif) :
    (m.machineAt n).dropAllSubscribers.Same ((handleModemSSR conf m).1.machineAt n) := by
  simp only [handleModemSSR, machineAt, nif]
  cases n with
  | agnss =>
      cases m.mAgnssNif with
      | none => exact ⟨rfl, rfl⟩
      | some sm => exact .refl _
  | internet =>
      cases m.mInternetNif with
      | none => exact ⟨rfl, rfl⟩
      | some sm => exact .refl _
  | ds =>
      cases m.mDsNif with
      | none => exact ⟨rfl, rfl⟩
      | some sm => exact .refl _

/-- **The invariant rule for the machines of a manager.** What calls by lawful methods keep, and
what depends on no more than the state and the list, is kept by every call on the manager. -/
lemma forall_machineAt_call {P : AgpsStateMachine → Prop}
    (hsame : ∀ {sm sm'}, sm.Same sm' → P sm → P sm')
    (hcall : ∀ {v : AgpsMethods}, v.Lawful → ∀ {sm} c, P sm → P (AgpsStateMachine.call v sm c).1)
    (h : ∀ n, P (m.machineAt n)) (c : Call) (n : Nif) :
    P ((call conf client m c).1.machineAt n) := by
  have hprocess : ∀ {m : AgpsManager}, (∀ n, P (m.machineAt n)) → ∀ n' c n,
      P ((process client m n' c).1.machineAt n) := fun h => forall_machineAt_process hcall h
  have hget : ∀ agpsType n, P ((getAgpsStateMachine conf m agpsType).1.machineAt n) :=
    fun agpsType n => hsame (same_get conf m agpsType n) (h n)
  cases c with
  | createAgpsStateMachines => exact hsame (same_create conf m n) (h n)
  | requestATL connHandle agpsType =>
      simp only [call, requestATL]
      split
      · exact hget agpsType n
      · exact hprocess (hget agpsType) _ _ n
  | releaseATL connHandle =>
      simp only [call, releaseATL]
      split
      · exact hprocess h _ _ n
      · split
        · exact hprocess h _ _ n
        · split
          · exact hprocess h _ _ n
          · exact h n
  | reportDataCallOpened | reportDataCallClosed =>
      simp only [call, reportDataCall]
      split
      · exact hprocess h _ _ n
      · exact h n
  | reportAtlOpenSuccess agpsType apnName apnLen bearerType =>
      simp only [call, reportAtlOpenSuccess]
      have hget := hget agpsType
      generalize getAgpsStateMachine conf m agpsType = found at hget ⊢
      split
      · exact hget n
      · rename_i sm hn
        refine hprocess (fun n' => ?_) _ _ n
        rw [machineAt_setNif]
        split
        · have hsm : P sm := machineAt_of_nif hn ▸ hget found.2.1
          have hset : sm.Same ((sm.setBearer bearerType).setAPN apnName apnLen) := ⟨rfl, rfl⟩
          exact hsame hset hsm
        · exact hget n'
  | reportAtlOpenFailed agpsType | reportAtlClosed agpsType =>
      simp only [call, reportAtl]
      exact hprocess (hget agpsType) _ _ n
  | retryCallback => exact h n
  | handleModemSSR =>
      have hdrop : P (m.machineAt n).dropAllSubscribers :=
        hcall AgpsStateMachine.lawful_base .dropAllSubscribers (h n)
      exact hsame (same_handleModemSSR conf m n) hdrop

end Calls

/-! ## Requests -/

/-- A call with the configuration and what the DS client answers while it is made. -/
structure Event where
  conf : AgpsConf
  client : DSClient
  call : Call
deriving DecidableEq, Repr

/-- The manager as a machine over such calls. -/
def openMachine : Machine AgpsManager Event AgpsOutput := ⟨fun m e => call e.conf e.client m e.call⟩

/-- An open-status is sent for the handle. -/
def OpenStatusSent (h : ℤ) (outs : List AgpsOutput) : Prop :=
  ∃ isSuccess apn bearerType agpsType,
    AgpsOutput.atlOpenStatus h isSuccess apn bearerType agpsType ∈ outs

/-- One of the machines lists the handle as active. -/
def ListsActive (m : AgpsManager) (h : ℤ) : Prop := ∃ n, (m.machineAt n).ListsActive h

/-- The machine for an AGPS type. -/
def machineFor (conf : AgpsConf) (m : AgpsManager) (agpsType : AGpsExtType) : AgpsStateMachine :=
  m.machineAt (getAgpsStateMachine conf m agpsType).2.1

/-- The machine for the type still lists the handle as inactive, waiting for the close of a
connection that is being set up or going down, and no machine lists it as active. -/
def WaitsForClose (conf : AgpsConf) (m : AgpsManager) (agpsType : AGpsExtType) (h : ℤ) : Prop :=
  (machineFor conf m agpsType).ListsInactive h ∧
    ((machineFor conf m agpsType).mState = .pending ∨
      (machineFor conf m agpsType).mState = .releasing) ∧
    ¬ m.ListsActive h

instance (m : AgpsManager) (h : ℤ) : Decidable (m.ListsActive h) :=
  inferInstanceAs (Decidable (∃ n, (m.machineAt n).ListsActive h))

section Requests

variable {conf : AgpsConf} {client : DSClient} {m : AgpsManager} {h : ℤ}

/-- In every state that can be reached the machines are tidy. -/
lemma tidy_run (events : List Event) (n : Nif) :
    ((openMachine.run init events).machineAt n).Tidy := by
  have hinit : ∀ n, (init.machineAt n).Tidy := by
    intro n
    cases n with
    | agnss | internet | ds => exact tidy_init .invalid
  refine Machine.run_of_steps (M := openMachine) (C := fun _ _ => True)
    (P := fun m => ∀ n, (m.machineAt n).Tidy) (fun m e hm _ => ?_) hinit
    (Machine.steps_of_forall _ (fun _ _ => trivial) _ _) n
  exact forall_machineAt_call (fun hs ht => hs.tidy ht) (fun hv _ c ht => ht.call hv c) hm e.call

/-- What is sent when a missing machine is looked up. -/
lemma outs_get (conf : AgpsConf) (m : AgpsManager) (agpsType : AGpsExtType) :
    (getAgpsStateMachine conf m agpsType).2.2 = [] ∨
      (getAgpsStateMachine conf m agpsType).2.2 = [.dsClientInit false] := by
  have hcreate : (createAgpsStateMachines conf m).2 = [] ∨
      (createAgpsStateMachines conf m).2 = [.dsClientInit false] := by
    unfold createAgpsStateMachines
    simp only []
    generalize (if m.mInternetNif.isNone then _ else _ : AgpsManager) = m₁
    generalize (if m₁.mAgnssNif.isNone then _ else _ : AgpsManager) = m₂
    split
    · split
      · split
        · exact .inl rfl
        · split
          · exact .inr rfl
          · exact .inr rfl
      · exact .inl rfl
    · exact .inl rfl
  unfold getAgpsStateMachine
  cases agpsType with
  | suplEs =>
      simp only []
      split
      · split
        · exact hcreate
        · exact .inl rfl
      · exact .inl rfl
  | invalid | supl | any | c2k | wwanAny | wifi | other => exact .inl rfl

/-- Looking up a machine sends no open-status. -/
lemma openStatusSent_get_append (conf : AgpsConf) (m : AgpsManager) (agpsType : AGpsExtType)
    (outs : List AgpsOutput) :
    OpenStatusSent h ((getAgpsStateMachine conf m agpsType).2.2 ++ outs) ↔
      OpenStatusSent h outs := by
  rcases outs_get conf m agpsType with hpre | hpre <;> simp [hpre, OpenStatusSent]

/-- A handle that is listed once is not listed as active beside an inactive entry. -/
lemma not_listsActive {sm : AgpsStateMachine} (hsm : sm.Tidy) (hin : sm.ListsInactive h) :
    ¬ sm.ListsActive h := by
  rintro ⟨s', hs', rfl, hactive⟩
  obtain ⟨s, hs, hh, hinactive⟩ := hin
  obtain rfl := List.inj_on_of_nodup_map hsm.nodup hs hs' hh
  rw [hinactive] at hactive
  cases hactive

/-- A subscriber that is added is active, unless an inactive one was listed. -/
lemma exists_active_addSubscriber {sm : AgpsStateMachine} (hsm : sm.Tidy) (wait : Bool) :
    (∃ s ∈ (sm.addSubscriber ⟨h, wait, false⟩).mSubscriberList,
      s.mConnHandle = h ∧ s.mIsInactive = false) ↔ ¬ sm.ListsInactive h := by
  rw [AgpsStateMachine.mSubscriberList_addSubscriber]
  split
  · rename_i hlisted
    obtain ⟨s, hs, heq⟩ := List.any_eq_true.mp hlisted
    have hh : s.mConnHandle = h := by simpa [AgpsSubscriber.equals] using heq
    constructor
    · exact fun hactive hin => not_listsActive hsm hin hactive
    · intro hnot
      refine ⟨s, hs, hh, ?_⟩
      rw [Bool.eq_false_iff]
      exact fun hin => hnot ⟨s, hs, hh, hin⟩
  · rename_i hnew
    refine iff_of_true ⟨⟨h, wait, false⟩, by simp, rfl, rfl⟩ ?_
    rintro ⟨s, hs, hh, -⟩
    exact hnew (List.any_eq_true.mpr ⟨s, hs, by simpa [AgpsSubscriber.equals] using hh⟩)

/-- In `ACQUIRED` a new subscriber is sent an open-status at once, and while the connection is being
set up or going down it is sent nothing. -/
lemma openStatusSent_subscribe (client : DSClient) (n : Nif) (sm : AgpsStateMachine) (wait : Bool)
    (hst : sm.mState ≠ .released) :
    OpenStatusSent h (AgpsStateMachine.call (methodsAt client n) sm (.subscribe h wait)).2 ↔
      sm.mState = .acquired := by
  have hgranted : OpenStatusSent h
      ((methodsAt client n).notifyEventToSubscriber sm .granted ⟨h, wait, false⟩ false).2 := by
    unfold methodsAt
    split
    · exact ⟨true, none, .invalid, .suplEs, List.mem_singleton_self _⟩
    · exact ⟨true, sm.mAPN, sm.mBearer, sm.mAgpsType, List.mem_singleton_self _⟩
  simp only [AgpsStateMachine.call, AgpsStateMachine.processAgpsEventSubscribe]
  cases hcase : sm.mState with
  | released => exact absurd hcase hst
  | acquired => exact iff_of_true hgranted rfl
  | pending | releasing =>
      refine iff_of_false ?_ (by simp)
      rintro ⟨_, _, _, _, hmem⟩
      cases hmem

/-- Who is listed as active after a subscription at the machine `n`, in a manager `m₂` with the same
lists. -/
lemma listsActive_subscribe_iff {m₂ : AgpsManager} {n : Nif} {sm : AgpsStateMachine}
    (hsame : ∀ n, (m.machineAt n).Same (m₂.machineAt n)) (hn : m₂.nif n = some sm) (hsm : sm.Tidy)
    (wait : Bool) :
    (process client m₂ n (.subscribe h wait)).1.ListsActive h ↔
      ¬ sm.ListsInactive h ∨ ∃ n', n' ≠ n ∧ (m.machineAt n').ListsActive h := by
  have htranslated : translated n sm (.subscribe h wait) = .subscribe h wait :=
    if_neg fun hds => by simp at hds
  rw [process_eq hn, htranslated]
  constructor
  · rintro ⟨n', s, hs, hh⟩
    rw [machineAt_setNif] at hs
    split at hs
    · rw [AgpsStateMachine.mSubscriberList_call (lawful_methodsAt client _)] at hs
      exact .inl ((exists_active_addSubscriber hsm wait).mp ⟨s, hs, hh⟩)
    · rename_i hne
      rw [(hsame n').mSubscriberList] at hs
      exact .inr ⟨n', hne, s, hs, hh⟩
  · rintro (hnot | ⟨n', hne, s, hs, hh⟩)
    · obtain ⟨s, hs, hh⟩ := (exists_active_addSubscriber hsm wait).mpr hnot
      refine ⟨n, s, ?_, hh⟩
      rw [machineAt_setNif, if_pos rfl,
        AgpsStateMachine.mSubscriberList_call (lawful_methodsAt client _)]
      exact hs
    · refine ⟨n', s, ?_, hh⟩
      rw [machineAt_setNif, if_neg hne, (hsame n').mSubscriberList]
      exact hs

/-- One request from tidy machines. -/
lemma requestATL_kept_iff (htidy : ∀ n, (m.machineAt n).Tidy) (agpsType : AGpsExtType) :
    (OpenStatusSent h (requestATL conf client m h agpsType).2 ∨
      (requestATL conf client m h agpsType).1.ListsActive h) ↔
      ¬ WaitsForClose conf m agpsType h := by
  have hsame := same_get conf m agpsType
  have houts := openStatusSent_get_append (h := h) conf m agpsType
  unfold WaitsForClose machineFor requestATL
  generalize getAgpsStateMachine conf m agpsType = found at hsame houts ⊢
  simp only []
  cases hn : found.1.nif found.2.1 with
  | none =>
      have hlist : (m.machineAt found.2.1).mSubscriberList = [] := by
        rw [← (hsame found.2.1).mSubscriberList, machineAt, hn]
        rfl
      refine iff_of_true (.inl ?_) ?_
      · rw [houts]
        exact ⟨false, none, .invalid, agpsType, List.mem_singleton_self _⟩
      · rintro ⟨⟨s, hs, -⟩, -⟩
        rw [hlist] at hs
        cases hs
  | some sm =>
      have hsm : (m.machineAt found.2.1).Same sm := machineAt_of_nif hn ▸ hsame found.2.1
      have hsmtidy : sm.Tidy := hsm.tidy (htidy found.2.1)
      have htranslated : translated found.2.1 sm (.subscribe h (agpsType = .suplEs)) =
          .subscribe h (agpsType = .suplEs) := if_neg fun hds => by simp at hds
      rw [listsActive_subscribe_iff hsame hn hsmtidy, houts, process_eq hn, htranslated]
      have hinactive : (m.machineAt found.2.1).ListsInactive h ↔ sm.ListsInactive h := by
        simp only [AgpsStateMachine.ListsInactive, hsm.mSubscriberList]
      rw [hinactive, ← hsm.mState]
      by_cases hin : sm.ListsInactive h
      · have hst : sm.mState ≠ .released := by
          intro hst
          obtain ⟨s, hs, -, hsin⟩ := hin
          rw [hsmtidy.released hst s hs] at hsin
          cases hsin
        rw [openStatusSent_subscribe client _ sm _ hst]
        have hothers : m.ListsActive h ↔
            ∃ n, n ≠ found.2.1 ∧ (m.machineAt n).ListsActive h := by
          constructor
          · rintro ⟨n, hl⟩
            refine ⟨n, ?_, hl⟩
            rintro rfl
            exact not_listsActive (htidy _) (hinactive.mpr hin) hl
          · rintro ⟨n, -, hl⟩
            exact ⟨n, hl⟩
        rw [← hothers]
        cases hcase : sm.mState with
        | released => exact absurd hcase hst
        | pending | acquired | releasing => simp [hin]
      · exact iff_of_true (.inr (.inl hin)) fun hwaits => hin hwaits.1

end Requests

/-- **No request is lost**, in any state that the manager can reach, unless the machine for it still
lists the handle as one that waits for the close of an earlier request. -/
theorem request_kept_iff (events : List Event) (conf : AgpsConf) (client : DSClient) (h : ℤ)
    (agpsType : AGpsExtType) :
    (OpenStatusSent h (requestATL conf client (openMachine.run init events) h agpsType).2 ∨
      (requestATL conf client (openMachine.run init events) h agpsType).1.ListsActive h) ↔
      ¬ WaitsForClose conf (openMachine.run init events) agpsType h :=
  requestATL_kept_iff (tidy_run events) agpsType

/-- An emergency request that is released while its connection is being set up, and made again
before the connection has gone down, is lost. -/
theorem request_lost_while_releasing :
    let conf : AgpsConf := ⟨true, false, none⟩
    let client : DSClient := ⟨false, none, false⟩
    let requested := requestATL conf client
      (openMachine.run init [⟨conf, client, .createAgpsStateMachines⟩,
        ⟨conf, client, .requestATL 1 .suplEs⟩, ⟨conf, client, .releaseATL 1⟩]) 1 .suplEs
    ¬ (OpenStatusSent 1 requested.2 ∨ requested.1.ListsActive 1) := by
  intro conf client requested
  have houts : requested.2 = [] := by decide
  rintro (⟨_, _, _, _, hmem⟩ | hactive)
  · rw [houts] at hmem
    cases hmem
  · revert hactive
    decide

end AgpsManager

end LocHal
