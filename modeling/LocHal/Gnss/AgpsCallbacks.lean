import LocHal.Gnss.Agps
import Mathlib.Data.List.Nodup

/-!
# What an AGPS handle is told

The modem is told about each connection handle separately, by callbacks that are sent from many
places of `processAgpsEvent`.  `Life` is the whole of it for one handle: the ways in which a call
may change the state of the machine and the handle's entry in the list, with the callbacks the
handle gets on the way.  `life_call` shows that each call of the base class is one of these, and
everything said about callbacks over runs is a case analysis on `Life`.

A handle that is subscribed hears nothing but one open-success until it is removed, and on its
removal exactly one terminal callback: a close, or an open-failure if no open-success came before.
-/

namespace LocHal
namespace AgpsStateMachine

/-! ## Callbacks of one handle -/

/-- A callback as one handle sees it. -/
inductive Callback where
  | openSuccess
  | openFailure
  | close
deriving DecidableEq, Repr

/-- The callback an output is for the handle, if it is one. -/
def callback? (h : ℤ) : AgpsOutput → Option Callback
  | .atlOpenStatus handle isSuccess _ _ _ =>
      if handle = h then some (if isSuccess then .openSuccess else .openFailure) else none
  | .atlCloseStatus handle _ => if handle = h then some .close else none
  | _ => none

/-- The callbacks of one handle. -/
def callbacks (h : ℤ) (outs : List AgpsOutput) : List Callback := outs.filterMap (callback? h)

/-- What a subscriber is told of an event. -/
def told : AgpsEvent → List Callback
  | .granted => [.openSuccess]
  | .denied => [.openFailure]
  | .unsubscribe => [.close]
  | .released => [.close]
  | .subscribe => []

@[simp] lemma callbacks_nil (h : ℤ) : callbacks h [] = [] := rfl

@[simp] lemma callbacks_append (h : ℤ) (outs outs' : List AgpsOutput) :
    callbacks h (outs ++ outs') = callbacks h outs ++ callbacks h outs' :=
  List.filterMap_append

@[simp] lemma callbacks_requestOrRelease (h : ℤ) (sm : AgpsStateMachine) (request : Bool) :
    callbacks h (sm.requestOrReleaseDataConn request).2.2 = [] := by
  cases request <;> rfl

@[simp] lemma callbacks_notice (h : ℤ) (sm : AgpsStateMachine) (event : AgpsEvent)
    (s : AgpsSubscriber) :
    callbacks h (sm.notice event s) = if s.mConnHandle = h then told event else [] := by
  cases event <;>
    simp only [notice, notifyEventToSubscriber, callbacks, List.filterMap, callback?, told] <;>
    split <;> simp_all

/-! ## Entries of the list -/

/-- The handle is in the subscriber list. -/
def Lists (sm : AgpsStateMachine) (h : ℤ) : Prop :=
  ∃ s ∈ sm.mSubscriberList, s.mConnHandle = h

/-- The handle is in the subscriber list, marked inactive. -/
def ListsInactive (sm : AgpsStateMachine) (h : ℤ) : Prop :=
  ∃ s ∈ sm.mSubscriberList, s.mConnHandle = h ∧ s.mIsInactive = true

instance (sm : AgpsStateMachine) (h : ℤ) : Decidable (sm.Lists h) :=
  inferInstanceAs (Decidable (∃ s ∈ sm.mSubscriberList, s.mConnHandle = h))

instance (sm : AgpsStateMachine) (h : ℤ) : Decidable (sm.ListsInactive h) :=
  inferInstanceAs (Decidable (∃ s ∈ sm.mSubscriberList, s.mConnHandle = h ∧ s.mIsInactive = true))

/-- Each handle is listed once. -/
def HandlesNodup (l : List AgpsSubscriber) : Prop := (l.map AgpsSubscriber.mConnHandle).Nodup

section Entries

variable {sm : AgpsStateMachine} {h : ℤ} {s : AgpsSubscriber} {l : List AgpsSubscriber}

lemma getSubscriber_eq_none : sm.getSubscriber h = none ↔ ¬ sm.Lists h := by
  simp [getSubscriber, Lists, List.find?_eq_none]

lemma mConnHandle_of_getSubscriber (hs : sm.getSubscriber h = some s) : s.mConnHandle = h := by
  have := List.find?_some hs
  simpa using this

lemma mem_of_getSubscriber (hs : sm.getSubscriber h = some s) : s ∈ sm.mSubscriberList :=
  List.mem_of_find?_eq_some hs

lemma exists_getSubscriber (hl : sm.Lists h) : ∃ s, sm.getSubscriber h = some s := by
  apply Option.ne_none_iff_exists'.mp
  rw [ne_eq, getSubscriber_eq_none, not_not]
  exact hl

lemma lists_of_getSubscriber (hs : sm.getSubscriber h = some s) : sm.Lists h :=
  ⟨s, mem_of_getSubscriber hs, mConnHandle_of_getSubscriber hs⟩

lemma HandlesNodup.getSubscriber_of_mem (hl : HandlesNodup sm.mSubscriberList)
    (hs : s ∈ sm.mSubscriberList) : sm.getSubscriber s.mConnHandle = some s := by
  have hlists : sm.Lists s.mConnHandle := ⟨s, hs, rfl⟩
  obtain ⟨s', hs'⟩ := exists_getSubscriber hlists
  have heq : s'.mConnHandle = s.mConnHandle := mConnHandle_of_getSubscriber hs'
  rw [hs', List.inj_on_of_nodup_map hl (mem_of_getSubscriber hs') hs heq]

lemma HandlesNodup.filter (hl : HandlesNodup l) (p : AgpsSubscriber → Bool) :
    HandlesNodup (l.filter p) :=
  List.Nodup.sublist (List.filter_sublist.map _) hl

/-- Filtering the list keeps or drops the one entry of a handle. -/
lemma HandlesNodup.find?_filter (hl : HandlesNodup l) (p : AgpsSubscriber → Bool) (h : ℤ) :
    (l.filter p).find? (fun s => s.mConnHandle == h) =
      (l.find? fun s => s.mConnHandle == h).filter p := by
  induction l with
  | nil => rfl
  | cons s l ih =>
      obtain ⟨hs, hl⟩ := List.nodup_cons.mp hl
      have hrest : s.mConnHandle = h → l.find? (fun s => s.mConnHandle == h) = none := by
        rintro rfl
        rw [List.find?_eq_none]
        intro s' hs' heq
        exact hs (List.mem_map.mpr ⟨s', hs', by simpa using heq⟩)
      by_cases hh : s.mConnHandle = h
      · cases hp : p s with
        | true => simp [hp, hh, Option.filter]
        | false => simp [hp, hh, ih hl, hrest hh, Option.filter]
      · cases hp : p s with
        | true => simp [hp, hh, ih hl]
        | false => simp [hp, hh, ih hl]

/-- Of the notices sent to a list of subscribers, a handle gets the one sent to its entry. -/
lemma HandlesNodup.callbacks_notices (hl : HandlesNodup l) (sm : AgpsStateMachine)
    (event : AgpsEvent) (h : ℤ) :
    callbacks h (l.flatMap (sm.notice event)) =
      if (l.find? fun s => s.mConnHandle == h).isSome then told event else [] := by
  induction l with
  | nil => rfl
  | cons s l ih =>
      obtain ⟨hs, hl⟩ := List.nodup_cons.mp hl
      rw [List.flatMap_cons, callbacks_append, callbacks_notice, ih hl]
      by_cases hh : s.mConnHandle = h
      · have hrest : l.find? (fun s => s.mConnHandle == h) = none := by
          rw [List.find?_eq_none]
          intro s' hs' heq
          exact hs (List.mem_map.mpr ⟨s', hs', by rw [hh]; simpa using heq⟩)
        simp [hh, hrest]
      · simp [hh]

lemma getSubscriber_addSubscriber (hs : ¬ sm.Lists s.mConnHandle) :
    (sm.addSubscriber s).getSubscriber h =
      if s.mConnHandle = h then some s else sm.getSubscriber h := by
  have hnot : (sm.mSubscriberList.any fun s' => s'.equals s) = false := by
    rw [List.any_eq_false]
    intro s' hs' heq
    exact hs ⟨s', hs', by simpa [AgpsSubscriber.equals] using heq⟩
  simp only [addSubscriber, hnot, Bool.false_eq_true, if_false, getSubscriber, List.find?_append]
  by_cases hh : s.mConnHandle = h
  · have hnone := getSubscriber_eq_none.mpr (hh ▸ hs)
    rw [getSubscriber] at hnone
    simp [hnone, hh]
  · simp [hh]

lemma HandlesNodup.addSubscriber (hl : HandlesNodup sm.mSubscriberList) (s : AgpsSubscriber) :
    HandlesNodup (sm.addSubscriber s).mSubscriberList := by
  unfold AgpsStateMachine.addSubscriber
  split
  · exact hl
  · rename_i hnot
    simp only [HandlesNodup, List.map_append, List.map_cons, List.map_nil]
    refine List.nodup_append.mpr ⟨hl, List.nodup_singleton _, ?_⟩
    rintro a ha b hb rfl
    obtain ⟨s', hs', rfl⟩ := List.mem_map.mp ha
    refine hnot (List.any_eq_true.mpr ⟨s', hs', ?_⟩)
    simpa [AgpsSubscriber.equals] using List.mem_singleton.mp hb

lemma getSubscriber_deleteSubscriber :
    (sm.deleteSubscriber s).getSubscriber h =
      if s.mConnHandle = h then none else sm.getSubscriber h := by
  simp only [getSubscriber, deleteSubscriber, List.find?_filter, AgpsSubscriber.equals]
  split
  · rename_i hh
    simp [List.find?_eq_none, hh]
  · rename_i hh
    congr 1
    funext s'
    by_cases hs' : s'.mConnHandle = h
    · simp [hs', Ne.symm hh]
    · simp [hs']

lemma getSubscriber_setInactive :
    (sm.setInactive s).getSubscriber h =
      if s.mConnHandle = h then (sm.getSubscriber h).map fun s => { s with mIsInactive := true }
      else sm.getSubscriber h := by
  simp only [getSubscriber, setInactive, AgpsSubscriber.equals]
  induction sm.mSubscriberList with
  | nil => simp
  | cons s' l ih =>
      by_cases hh : s'.mConnHandle = h
      · by_cases hs : s.mConnHandle = h
        · simp [hh, hs]
        · simp [hh, hs, Ne.symm hs]
      · rw [List.map_cons, List.find?_cons_of_neg, List.find?_cons_of_neg]
        · exact ih
        · simpa using hh
        · by_cases hs : s'.mConnHandle = s.mConnHandle
          · simpa [hs] using hs ▸ hh
          · simpa [hs] using hh

end Entries

/-! ## The life of a handle -/

/-- The calls a caller makes: a handle is subscribed while it is not listed, and the subscribers
are not dropped.  An `UNSUBSCRIBE` of a handle that is not listed makes no call, see `Call`. -/
def Admissible (sm : AgpsStateMachine) : Call → Prop
  | .subscribe h _ => ¬ sm.Lists h
  | .dropAllSubscribers => False
  | _ => True

instance (sm : AgpsStateMachine) : ∀ c, Decidable (sm.Admissible c)
  | .subscribe h _ => inferInstanceAs (Decidable (¬ sm.Lists h))
  | .dropAllSubscribers => isFalse not_false
  | .unsubscribe _ | .granted | .released | .denied => isTrue trivial

/-- `Life h st e c cbs st' e'`: a call `c` may take the machine from state `st`, with entry `e` for
the handle `h`, to state `st'` with entry `e'`, while the handle is told `cbs`. -/
inductive Life (h : ℤ) : AgpsState → Option AgpsSubscriber → Call → List Callback →
    AgpsState → Option AgpsSubscriber → Prop
  | unlisted (st st' : AgpsState) (c : Call) (hc : ∀ wait, c ≠ .subscribe h wait) :
      Life h st none c [] st' none
  | listed (st st' : AgpsState) (wait : Bool) (hst : st ≠ .acquired)
      (hst' : st' = .pending ∨ st' = .releasing) :
      Life h st none (.subscribe h wait) [] st' (some ⟨h, wait, false⟩)
  | listedOpen (wait : Bool) :
      Life h .acquired none (.subscribe h wait) [.openSuccess] .acquired (some ⟨h, wait, false⟩)
  | kept (st : AgpsState) (s : AgpsSubscriber) (c : Call) (hst : st ≠ .released)
      (hc : c ≠ .unsubscribe h) : Life h st (some s) c [] st (some s)
  | inactivated (st : AgpsState) (s s' : AgpsSubscriber) (hst : st ≠ .released)
      (hs' : s'.mIsInactive = true) : Life h st (some s) (.unsubscribe h) [] st (some s')
  | releasing (st : AgpsState) (s s' : AgpsSubscriber) (c : Call)
      (hst : st = .pending ∨ st = .acquired) (hs : s' = s ∨ c = .unsubscribe h)
      (hs' : s'.mIsInactive = true) :
      Life h st (some s) c [] .releasing (some s')
  | granted (s : AgpsSubscriber) :
      Life h .pending (some s) .granted (if s.mIsInactive then [] else [.openSuccess])
        .acquired (some s)
  | reconnected (s : AgpsSubscriber) (c : Call) (hc : c ≠ .unsubscribe h)
      (hs : s.mIsInactive = false) : Life h .releasing (some s) c [] .pending (some s)
  | closed (st st' : AgpsState) (s : AgpsSubscriber) (c : Call) :
      Life h st (some s) c [.close] st' none
  | denied (s : AgpsSubscriber) : Life h .pending (some s) .denied [.openFailure] .released none

/-- What holds between calls: each handle is listed once, and nobody is listed in `RELEASED`. -/
structure WellFormed (sm : AgpsStateMachine) : Prop where
  nodup : HandlesNodup sm.mSubscriberList
  released : sm.mState = .released → sm.mSubscriberList = []

section Life

variable {sm : AgpsStateMachine} (h : ℤ)

lemma WellFormed.mState_ne_released (hwf : sm.WellFormed) {s : AgpsSubscriber}
    (hs : sm.getSubscriber h = some s) : sm.mState ≠ .released := by
  intro hst
  have hmem := mem_of_getSubscriber hs
  rw [hwf.released hst] at hmem
  cases hmem

lemma life_subscribe (hwf : sm.WellFormed) {k : ℤ} (wait : Bool) (hk : ¬ sm.Lists k) :
    Life h sm.mState (sm.getSubscriber h) (.subscribe k wait)
      (callbacks h (processAgpsEventSubscribe base sm ⟨k, wait, false⟩).2)
      (processAgpsEventSubscribe base sm ⟨k, wait, false⟩).1.mState
      ((processAgpsEventSubscribe base sm ⟨k, wait, false⟩).1.getSubscriber h) := by
  have hadd : (sm.addSubscriber ⟨k, wait, false⟩).getSubscriber h =
      if k = h then some ⟨k, wait, false⟩ else sm.getSubscriber h := getSubscriber_addSubscriber hk
  have hstate : (sm.addSubscriber ⟨k, wait, false⟩).mState = sm.mState := by
    unfold addSubscriber
    split
    · rfl
    · rfl
  unfold processAgpsEventSubscribe
  by_cases hkh : k = h
  · subst hkh
    rw [getSubscriber_eq_none.mpr hk]
    rw [if_pos rfl] at hadd
    cases hst : sm.mState with
    | released => exact hadd ▸ .listed .released .pending wait (by decide) (.inl rfl)
    | pending =>
        simp only [hadd, hstate, hst, callbacks_nil]
        exact .listed .pending .pending wait (by decide) (.inl rfl)
    | acquired =>
        have hcb : callbacks k (base.notifyEventToSubscriber sm .granted ⟨k, wait, false⟩ false).2 =
            [.openSuccess] := (callbacks_notice k sm .granted ⟨k, wait, false⟩).trans (if_pos rfl)
        have hsm : (base.notifyEventToSubscriber sm .granted ⟨k, wait, false⟩ false).1 = sm := rfl
        simp only [hcb, hsm, hadd, hstate, hst]
        exact .listedOpen wait
    | releasing =>
        simp only [hadd, hstate, hst, callbacks_nil]
        exact .listed .releasing .releasing wait (by decide) (.inr rfl)
  · rw [if_neg hkh] at hadd
    have hc : ∀ wait', Call.subscribe k wait ≠ .subscribe h wait' := by
      rintro wait' heq
      exact hkh (Call.subscribe.inj heq).1
    have hcb : callbacks h (base.notifyEventToSubscriber sm .granted ⟨k, wait, false⟩ false).2 =
        [] := (callbacks_notice h sm .granted ⟨k, wait, false⟩).trans (if_neg hkh)
    have hsm : (base.notifyEventToSubscriber sm .granted ⟨k, wait, false⟩ false).1 = sm := rfl
    cases hs : sm.getSubscriber h with
    | none =>
        rw [hs] at hadd
        cases hst : sm.mState with
        | released => exact hadd ▸ .unlisted .released .pending _ hc
        | pending | releasing =>
            simp only [hadd, callbacks_nil]
            exact .unlisted _ _ _ hc
        | acquired =>
            simp only [hcb, hsm, hadd]
            exact .unlisted _ _ _ hc
    | some s =>
        rw [hs] at hadd
        cases hst : sm.mState with
        | released => exact absurd hst (hwf.mState_ne_released h hs)
        | pending | releasing =>
            simp only [hadd, hstate, hst, callbacks_nil]
            exact .kept _ s _ (by decide) (by simp)
        | acquired =>
            simp only [hcb, hsm, hadd, hstate, hst]
            exact .kept _ s _ (by decide) (by simp)

/-- The handle's entry and callbacks after the step that all `UNSUBSCRIBE`s share. -/
lemma releaseSubscriber_entry {k : ℤ} {s : AgpsSubscriber} (hk : sm.getSubscriber k = some s) :
    (releaseSubscriber base sm s).1.mState = sm.mState ∧
    (k ≠ h → (releaseSubscriber base sm s).1.getSubscriber h = sm.getSubscriber h ∧
      callbacks h (releaseSubscriber base sm s).2 = []) ∧
    (k = h →
      ((∃ s', (releaseSubscriber base sm s).1.getSubscriber h = some s' ∧ s'.mIsInactive = true) ∧
        callbacks h (releaseSubscriber base sm s).2 = []) ∨
      ((releaseSubscriber base sm s).1.getSubscriber h = none ∧
        callbacks h (releaseSubscriber base sm s).2 = [.close])) := by
  obtain rfl := mConnHandle_of_getSubscriber hk
  have hinactive : (sm.setInactive s).getSubscriber h = _ := getSubscriber_setInactive
  have hdelete : (sm.deleteSubscriber s).getSubscriber h = _ := getSubscriber_deleteSubscriber
  unfold releaseSubscriber
  split
  · refine ⟨rfl, fun hne => ⟨?_, rfl⟩, ?_⟩
    · rw [hinactive, if_neg hne]
    · rintro rfl
      rw [if_pos rfl, hk] at hinactive
      exact .inl ⟨⟨_, hinactive, rfl⟩, rfl⟩
  · have hcb := callbacks_notice h sm .unsubscribe s
    refine ⟨rfl, fun hne => ⟨?_, ?_⟩, ?_⟩
    · exact hdelete.trans (if_neg hne)
    · exact hcb.trans (if_neg hne)
    · rintro rfl
      exact .inr ⟨hdelete.trans (if_pos rfl), hcb.trans (if_pos rfl)⟩

lemma getSubscriber_of_isEmpty {sm : AgpsStateMachine} (hempty : sm.mSubscriberList.isEmpty = true)
    (h : ℤ) : sm.getSubscriber h = none := by
  rw [getSubscriber, List.isEmpty_iff.mp hempty]
  rfl

lemma mIsInactive_of_anyActive {sm : AgpsStateMachine} {s : AgpsSubscriber}
    (hany : sm.anyActiveSubscribers = false) (hs : sm.getSubscriber h = some s) :
    s.mIsInactive = true := by
  have := List.any_eq_false.mp hany s (mem_of_getSubscriber hs)
  simpa using this

/-- An `UNSUBSCRIBE` that leaves the machine in its state for as long as the handle is listed. -/
lemma life_of_left {k : ℤ} {s : AgpsSubscriber} {left : AgpsStateMachine × List AgpsOutput}
    {st : AgpsState} (hne : sm.mState ≠ .released) (hk : sm.getSubscriber k = some s)
    (hother : k ≠ h → left.1.getSubscriber h = sm.getSubscriber h ∧ callbacks h left.2 = [])
    (hself : k = h →
      ((∃ s', left.1.getSubscriber h = some s' ∧ s'.mIsInactive = true) ∧
        callbacks h left.2 = []) ∨
      (left.1.getSubscriber h = none ∧ callbacks h left.2 = [.close]))
    (hstay : ∀ s', left.1.getSubscriber h = some s' → st = sm.mState) :
    Life h sm.mState (sm.getSubscriber h) (.unsubscribe k) (callbacks h left.2) st
      (left.1.getSubscriber h) := by
  by_cases hkh : k = h
  · subst hkh
    rw [hk]
    rcases hself rfl with ⟨⟨s', hs', hinactive⟩, hcb⟩ | ⟨hnone, hcb⟩
    · rw [hstay s' hs', hs', hcb]
      exact .inactivated _ s s' hne hinactive
    · rw [hnone, hcb]
      exact .closed _ _ s _
  · obtain ⟨hsame, hcb⟩ := hother hkh
    rw [hcb]
    cases hs : left.1.getSubscriber h with
    | none =>
        rw [← hsame, hs]
        exact .unlisted _ _ _ (by simp)
    | some s' =>
        rw [hstay s' hs, ← hsame, hs]
        exact .kept _ s' _ hne (by simpa using hkh)

lemma life_unsubscribeConnected {k : ℤ} {s : AgpsSubscriber} (hk : sm.getSubscriber k = some s)
    (hst : sm.mState = .pending ∨ sm.mState = .acquired) :
    Life h sm.mState (sm.getSubscriber h) (.unsubscribe k)
      (callbacks h (unsubscribeConnected base sm s).2)
      (unsubscribeConnected base sm s).1.mState
      ((unsubscribeConnected base sm s).1.getSubscriber h) := by
  have hne : sm.mState ≠ .released := by
    rcases hst with hst | hst <;> simp [hst]
  obtain ⟨hstate, hother, hself⟩ := releaseSubscriber_entry h hk
  have hrel : ∀ sm' : AgpsStateMachine, callbacks h (base.requestOrReleaseDataConn sm' false).2.2 =
      [] := fun sm' => callbacks_requestOrRelease h sm' false
  unfold unsubscribeConnected
  simp only []
  generalize releaseSubscriber base sm s = left at hstate hother hself ⊢
  split
  · rename_i hempty
    have hleft : left.1.getSubscriber h = none := getSubscriber_of_isEmpty hempty h
    have hentry : (base.requestOrReleaseDataConn (left.1.transitionState .released)
        false).1.getSubscriber h = left.1.getSubscriber h := rfl
    simp only [callbacks_append, hrel, List.append_nil, hentry]
    refine life_of_left h hne hk hother hself fun s' hs' => ?_
    rw [hleft] at hs'
    cases hs'
  · split
    · rename_i hany
      have hany : left.1.anyActiveSubscribers = false := by simpa using hany
      have hentry' : (base.requestOrReleaseDataConn (left.1.transitionState .releasing)
          false).1.getSubscriber h = left.1.getSubscriber h := rfl
      have hstate' : (base.requestOrReleaseDataConn (left.1.transitionState .releasing)
          false).1.mState = .releasing := rfl
      simp only [callbacks_append, hrel, List.append_nil, hentry', hstate']
      by_cases hkh : k = h
      · subst hkh
        rw [hk]
        rcases hself rfl with ⟨⟨s', hs', hinactive⟩, hcb⟩ | ⟨hnone, hcb⟩
        · rw [hs', hcb]
          exact .releasing _ s s' _ hst (.inr rfl) hinactive
        · rw [hnone, hcb]
          exact .closed _ _ s _
      · obtain ⟨hentry, hcb⟩ := hother hkh
        rw [hcb]
        cases hs : left.1.getSubscriber h with
        | none =>
            rw [← hentry, hs]
            exact .unlisted _ _ _ (by simp)
        | some s' =>
            rw [← hentry, hs]
            exact .releasing _ s' s' _ hst (.inl rfl) (mIsInactive_of_anyActive h hany hs)
    · exact life_of_left h hne hk hother hself fun _ _ => hstate

lemma life_unsubscribe (hwf : sm.WellFormed) {k : ℤ} {s : AgpsSubscriber}
    (hk : sm.getSubscriber k = some s) :
    Life h sm.mState (sm.getSubscriber h) (.unsubscribe k)
      (callbacks h (processAgpsEventUnsubscribe base sm s).2)
      (processAgpsEventUnsubscribe base sm s).1.mState
      ((processAgpsEventUnsubscribe base sm s).1.getSubscriber h) := by
  have hne := hwf.mState_ne_released k hk
  unfold processAgpsEventUnsubscribe
  cases hst : sm.mState with
  | released => exact absurd hst hne
  | pending => simpa only [hst] using life_unsubscribeConnected h hk (.inl hst)
  | acquired => simpa only [hst] using life_unsubscribeConnected h hk (.inr hst)
  | releasing =>
      obtain ⟨hstate, hother, hself⟩ := releaseSubscriber_entry h hk
      simp only []
      generalize releaseSubscriber base sm s = left at hstate hother hself ⊢
      rw [← hst]
      split
      · rename_i hempty
        -- nobody is left, the handle included
        have hleft : left.1.getSubscriber h = none := getSubscriber_of_isEmpty hempty h
        refine life_of_left h hne hk hother hself fun s' hs' => ?_
        cases hleft.symm.trans hs'
      · exact life_of_left h hne hk hother hself fun _ _ => hstate

/-- A call that the state machine ignores. -/
lemma life_ignored (hwf : sm.WellFormed) (c : Call) (hc : ∀ wait, c ≠ .subscribe h wait)
    (hc' : c ≠ .unsubscribe h) :
    Life h sm.mState (sm.getSubscriber h) c [] sm.mState (sm.getSubscriber h) := by
  cases hs : sm.getSubscriber h with
  | none => exact .unlisted _ _ _ hc
  | some s => exact .kept _ s _ (hwf.mState_ne_released h hs) hc'

lemma life_granted (hwf : sm.WellFormed) :
    Life h sm.mState (sm.getSubscriber h) .granted
      (callbacks h (processAgpsEventGranted base sm).2)
      (processAgpsEventGranted base sm).1.mState
      ((processAgpsEventGranted base sm).1.getSubscriber h) := by
  have hignored := life_ignored h hwf .granted (by simp) (by simp)
  unfold processAgpsEventGranted
  cases hst : sm.mState with
  | pending =>
      have hentry : (sm.transitionState .acquired).getSubscriber h = sm.getSubscriber h := rfl
      have hfind := (hwf.nodup).find?_filter AgpsNotificationType.forActiveSubscribers.selects h
      have hnodup := hwf.nodup.filter AgpsNotificationType.forActiveSubscribers.selects
      have hcb := hnodup.callbacks_notices (sm.transitionState .acquired) .granted h
      rw [hfind] at hcb
      simp only [notifyAllSubscribers_base]
      change Life h .pending (sm.getSubscriber h) .granted (callbacks h (List.flatMap _
        (List.filter _ sm.mSubscriberList))) .acquired (sm.getSubscriber h)
      rw [hcb, ← getSubscriber]
      cases hs : sm.getSubscriber h with
      | none => exact .unlisted _ _ _ (by simp)
      | some s =>
          have hlife := Life.granted (h := h) s
          cases hin : s.mIsInactive with
          | true =>
              rw [hin] at hlife
              simpa [Option.filter, AgpsNotificationType.selects, hin] using hlife
          | false =>
              rw [hin] at hlife
              simpa [Option.filter, AgpsNotificationType.selects, hin, told] using hlife
  | released => simpa [hst] using hignored
  | acquired => simpa [hst] using hignored
  | releasing => simpa [hst] using hignored

/-- All are notified and deleted: a terminal callback for every handle that is listed. -/
lemma notifyAll_delete_entry (hwf : sm.WellFormed) (event : AgpsEvent) (st : AgpsState) :
    (notifyAllSubscribers base (sm.transitionState st) event true
        .forAllSubscribers).1.getSubscriber h = none ∧
      callbacks h (notifyAllSubscribers base (sm.transitionState st) event true
        .forAllSubscribers).2 = if (sm.getSubscriber h).isSome then told event else [] := by
  have hcb := (hwf.nodup.filter AgpsNotificationType.forAllSubscribers.selects).callbacks_notices
    (sm.transitionState st) event h
  rw [hwf.nodup.find?_filter, ← getSubscriber] at hcb
  simp only [notifyAllSubscribers_base, if_true]
  refine ⟨?_, ?_⟩
  · have hfind := hwf.nodup.find?_filter
      (fun s => !AgpsNotificationType.forAllSubscribers.selects s) h
    refine Eq.trans hfind ?_
    cases sm.mSubscriberList.find? fun s => s.mConnHandle == h with
    | none => rfl
    | some s => rfl
  · refine Eq.trans hcb ?_
    cases sm.getSubscriber h with
    | none => rfl
    | some s => rfl

lemma life_finishReleasing (hwf : sm.WellFormed) (c : Call)
    (hc : ∀ wait, c ≠ .subscribe h wait) (hc' : c ≠ .unsubscribe h) :
    Life h .releasing (sm.getSubscriber h) c (callbacks h (finishReleasing base sm).2)
      (finishReleasing base sm).1.mState ((finishReleasing base sm).1.getSubscriber h) := by
  set inactive := AgpsNotificationType.forInactiveSubscribers.selects with hinactive
  have hcb := (hwf.nodup.filter inactive).callbacks_notices sm .released h
  have hfind := hwf.nodup.find?_filter (fun s => !inactive s) h
  rw [hwf.nodup.find?_filter] at hcb
  rw [← getSubscriber] at hcb hfind
  have hentry : (finishReleasing base sm).1.getSubscriber h =
      (sm.getSubscriber h).filter fun s => !inactive s := by
    refine Eq.trans ?_ hfind
    simp only [finishReleasing, notifyAllSubscribers_base, if_true]
    split
    · rfl
    · rfl
  have hcbs : callbacks h (finishReleasing base sm).2 =
      if ((sm.getSubscriber h).filter inactive).isSome then [.close] else [] := by
    refine Eq.trans ?_ hcb
    simp only [finishReleasing, notifyAllSubscribers_base, if_true]
    split
    · rw [callbacks_append]
      exact (congrArg _ (callbacks_requestOrRelease h _ true)).trans (List.append_nil _)
    · rfl
  rw [hentry, hcbs]
  cases hs : sm.getSubscriber h with
  | none => exact .unlisted _ _ _ hc
  | some s =>
      cases hin : s.mIsInactive with
      | true =>
          simpa [Option.filter, hinactive, AgpsNotificationType.selects, hin] using
            Life.closed .releasing _ s c
      | false =>
          -- a handle that stays active takes the machine back to `PENDING`
          have hany : (finishReleasing base sm).1.mState = .pending := by
            simp only [finishReleasing, notifyAllSubscribers_base, if_true]
            rw [if_pos]
            · rfl
            · refine List.any_eq_true.mpr ⟨s, List.mem_filter.mpr ⟨mem_of_getSubscriber hs, ?_⟩, ?_⟩
              · simp [AgpsNotificationType.selects, hin]
              · simp [hin]
          rw [hany]
          simpa [Option.filter, hinactive, AgpsNotificationType.selects, hin] using
            Life.reconnected s c hc' hin

lemma life_released (hwf : sm.WellFormed) :
    Life h sm.mState (sm.getSubscriber h) .released
      (callbacks h (processAgpsEventReleased base sm).2)
      (processAgpsEventReleased base sm).1.mState
      ((processAgpsEventReleased base sm).1.getSubscriber h) := by
  have hignored := life_ignored h hwf .released (by simp) (by simp)
  unfold processAgpsEventReleased
  cases hst : sm.mState with
  | released => simpa [hst] using hignored
  | acquired =>
      obtain ⟨hnone, hcb⟩ := notifyAll_delete_entry h hwf .released .released
      simp only [hnone, hcb]
      cases sm.getSubscriber h with
      | none => exact .unlisted _ _ _ (by simp)
      | some s => exact .closed _ _ s _
  | releasing => exact life_finishReleasing h hwf .released (by simp) (by simp)
  | pending => simpa [hst] using hignored

lemma life_denied (hwf : sm.WellFormed) :
    Life h sm.mState (sm.getSubscriber h) .denied
      (callbacks h (processAgpsEventDenied base sm).2)
      (processAgpsEventDenied base sm).1.mState
      ((processAgpsEventDenied base sm).1.getSubscriber h) := by
  have hignored := life_ignored h hwf .denied (by simp) (by simp)
  unfold processAgpsEventDenied
  cases hst : sm.mState with
  | released => simpa [hst] using hignored
  | acquired => simpa [hst] using hignored
  | releasing => exact life_finishReleasing h hwf .denied (by simp) (by simp)
  | pending =>
      obtain ⟨hnone, hcb⟩ := notifyAll_delete_entry h hwf .denied .released
      have hreleased : (notifyAllSubscribers base (sm.transitionState .released) .denied true
          .forAllSubscribers).1.mState = .released := by
        rw [notifyAllSubscribers_base]
        rfl
      simp only [hnone, hcb, hreleased]
      cases sm.getSubscriber h with
      | none => exact .unlisted _ _ _ (by simp)
      | some s => exact .denied s

/-- **One call in the life of a handle.** -/
lemma life_call (hwf : sm.WellFormed) {c : Call} (hc : sm.Admissible c) :
    Life h sm.mState (sm.getSubscriber h) c (callbacks h (machine.emit sm c))
      (machine.next sm c).mState ((machine.next sm c).getSubscriber h) := by
  cases c with
  | subscribe k wait => exact life_subscribe h hwf wait hc
  | unsubscribe k =>
      cases hk : sm.getSubscriber k with
      | some s =>
          simp only [Machine.emit, Machine.next, machine, call, hk]
          exact life_unsubscribe h hwf hk
      | none =>
          simp only [Machine.emit, Machine.next, machine, call, hk, callbacks_nil]
          by_cases hkh : k = h
          · subst hkh
            rw [hk]
            exact .unlisted _ _ _ (by simp)
          · exact life_ignored h hwf _ (by simp) (by simpa using hkh)
  | granted => exact life_granted h hwf
  | released => exact life_released h hwf
  | denied => exact life_denied h hwf
  | dropAllSubscribers => exact hc.elim

/-- Nobody is listed after a call that ends in `RELEASED`. -/
lemma Life.eq_none_of_released {h : ℤ} {st : AgpsState} {e e' : Option AgpsSubscriber} {c : Call}
    {cbs : List Callback} (hlife : Life h st e c cbs .released e') : e' = none := by
  cases hlife with
  | unlisted => rfl
  | listed _ _ _ _ hst' => simp at hst'
  | kept _ _ _ hst _ => exact absurd rfl hst
  | inactivated _ _ _ hst _ => exact absurd rfl hst
  | closed => rfl
  | denied => rfl

/-- A handle that is not listed hears nothing but an open-success with its own `SUBSCRIBE`. -/
lemma Life.of_unlisted {h : ℤ} {st st' : AgpsState} {e' : Option AgpsSubscriber} {c : Call}
    {cbs : List Callback} (hlife : Life h st none c cbs st' e') :
    cbs = [] ∨ (∃ wait, c = .subscribe h wait) ∧ st = .acquired ∧ cbs = [.openSuccess] := by
  cases hlife with
  | unlisted => exact .inl rfl
  | listed => exact .inl rfl
  | listedOpen wait => exact .inr ⟨⟨wait, rfl⟩, rfl, rfl⟩

/-- A handle marked inactive hears nothing until its close, or a denial in `PENDING`. -/
lemma Life.of_inactive {h : ℤ} {st st' : AgpsState} {s : AgpsSubscriber}
    {e' : Option AgpsSubscriber} {c : Call} {cbs : List Callback}
    (hlife : Life h st (some s) c cbs st' e') (hs : s.mIsInactive = true) :
    (∃ s', e' = some s' ∧ s'.mIsInactive = true) ∧ cbs = [] ∨
      e' = none ∧ (cbs = [.close] ∨ c = .denied ∧ st = .pending ∧ cbs = [.openFailure]) := by
  cases hlife with
  | kept => exact .inl ⟨⟨s, rfl, hs⟩, rfl⟩
  | inactivated _ _ s' _ hs' => exact .inl ⟨⟨s', rfl, hs'⟩, rfl⟩
  | releasing _ _ s' _ _ _ hs' => exact .inl ⟨⟨s', rfl, hs'⟩, rfl⟩
  | granted => exact .inl ⟨⟨s, rfl, hs⟩, by simp [hs]⟩
  | reconnected _ _ _ hs' => simp [hs'] at hs
  | closed => exact .inr ⟨rfl, .inl rfl⟩
  | denied => exact .inr ⟨rfl, .inr ⟨rfl, rfl, rfl⟩⟩

/-- A `SUBSCRIBE` lists its handle, active, and tells it of a connection that is already there. -/
lemma Life.of_subscribe {h : ℤ} {st st' : AgpsState} {e' : Option AgpsSubscriber} {wait : Bool}
    {cbs : List Callback} (hlife : Life h st none (.subscribe h wait) cbs st' e') :
    e' = some ⟨h, wait, false⟩ ∧
      ((st' = .pending ∨ st' = .releasing) ∧ cbs = [] ∨
        st' = .acquired ∧ cbs = [.openSuccess]) := by
  cases hlife with
  | unlisted _ _ _ hc => exact absurd rfl (hc wait)
  | listed _ _ _ _ hst' => exact ⟨rfl, .inl ⟨hst', rfl⟩⟩
  | listedOpen => exact ⟨rfl, .inr ⟨rfl, rfl⟩⟩

/-- A handle becomes inactive by its own `UNSUBSCRIBE` only. -/
lemma Life.inactive_origin {h : ℤ} {st st' : AgpsState} {e : Option AgpsSubscriber}
    {s' : AgpsSubscriber} {c : Call} {cbs : List Callback}
    (hlife : Life h st e c cbs st' (some s')) (hs' : s'.mIsInactive = true) :
    ∃ s, e = some s ∧ (s.mIsInactive = true ∨ c = .unsubscribe h) := by
  cases hlife with
  | listed => cases hs'
  | listedOpen => cases hs'
  | kept => exact ⟨s', rfl, .inl hs'⟩
  | inactivated _ s => exact ⟨s, rfl, .inr rfl⟩
  | releasing _ s _ _ _ hs =>
      rcases hs with rfl | rfl
      · exact ⟨s', rfl, .inl hs'⟩
      · exact ⟨s, rfl, .inr rfl⟩
  | granted => exact ⟨s', rfl, .inl hs'⟩
  | reconnected => exact ⟨s', rfl, .inl hs'⟩

/-- Its own `UNSUBSCRIBE` leaves a handle inactive or tells it of the close. -/
lemma Life.of_unsubscribe {h : ℤ} {st st' : AgpsState} {s : AgpsSubscriber}
    {e' : Option AgpsSubscriber} {cbs : List Callback}
    (hlife : Life h st (some s) (.unsubscribe h) cbs st' e') :
    (∃ s', e' = some s' ∧ s'.mIsInactive = true) ∧ cbs = [] ∨ e' = none ∧ cbs = [.close] := by
  cases hlife with
  | kept _ _ _ _ hc => exact absurd rfl hc
  | inactivated _ _ s' _ hs' => exact .inl ⟨⟨s', rfl, hs'⟩, rfl⟩
  | releasing _ _ s' _ _ _ hs' => exact .inl ⟨⟨s', rfl, hs'⟩, rfl⟩
  | reconnected _ _ hc => exact absurd rfl hc
  | closed => exact .inr ⟨rfl, rfl⟩

end Life

section WellFormed

variable {sm : AgpsStateMachine}

lemma wellFormed_init (agpsType : AGpsExtType) : (init agpsType).WellFormed :=
  ⟨List.nodup_nil, fun _ => rfl⟩

lemma HandlesNodup.setInactive (hl : HandlesNodup sm.mSubscriberList) (s : AgpsSubscriber) :
    HandlesNodup (sm.setInactive s).mSubscriberList := by
  have hmap : (sm.setInactive s).mSubscriberList.map AgpsSubscriber.mConnHandle =
      sm.mSubscriberList.map AgpsSubscriber.mConnHandle := by
    simp only [AgpsStateMachine.setInactive, List.map_map]
    refine List.map_congr_left fun s' _ => ?_
    simp only [Function.comp_apply]
    split
    · rfl
    · rfl
  rw [HandlesNodup, hmap]
  exact hl

lemma HandlesNodup.releaseSubscriber (hl : HandlesNodup sm.mSubscriberList) (s : AgpsSubscriber) :
    HandlesNodup (releaseSubscriber base sm s).1.mSubscriberList := by
  unfold AgpsStateMachine.releaseSubscriber
  split
  · exact hl.setInactive s
  · exact hl.filter _

lemma HandlesNodup.notifyAll {l : List AgpsSubscriber} (hl : HandlesNodup l)
    (hsm : sm.mSubscriberList = l) (event : AgpsEvent) (delete : Bool)
    (notificationType : AgpsNotificationType) :
    HandlesNodup
      (notifyAllSubscribers base sm event delete notificationType).1.mSubscriberList := by
  subst hsm
  rw [notifyAllSubscribers_base]
  cases delete with
  | true => exact hl.filter _
  | false => exact hl

lemma HandlesNodup.finishReleasing (hl : HandlesNodup sm.mSubscriberList) :
    HandlesNodup (finishReleasing base sm).1.mSubscriberList := by
  simp only [AgpsStateMachine.finishReleasing]
  split
  · exact hl.notifyAll rfl .released true .forInactiveSubscribers
  · exact hl.notifyAll rfl .released true .forInactiveSubscribers

lemma HandlesNodup.unsubscribe (hl : HandlesNodup sm.mSubscriberList) (s : AgpsSubscriber) :
    HandlesNodup (processAgpsEventUnsubscribe base sm s).1.mSubscriberList := by
  have hleft := hl.releaseSubscriber s
  unfold processAgpsEventUnsubscribe unsubscribeConnected
  cases sm.mState with
  | released => exact hl
  | pending | acquired =>
      simp only []
      split
      · exact hleft
      · split
        · exact hleft
        · exact hleft
  | releasing =>
      simp only []
      split
      · exact hleft
      · exact hleft

lemma HandlesNodup.call (hl : HandlesNodup sm.mSubscriberList) (c : Call) :
    HandlesNodup (machine.next sm c).mSubscriberList := by
  have hsame : ∀ st, (sm.transitionState st).mSubscriberList = sm.mSubscriberList := fun _ => rfl
  cases c with
  | subscribe k wait =>
      have hadd := hl.addSubscriber ⟨k, wait, false⟩
      simp only [Machine.next, machine, AgpsStateMachine.call, processAgpsEventSubscribe]
      cases sm.mState with
      | released | pending | acquired | releasing => exact hadd
  | unsubscribe k =>
      simp only [Machine.next, machine, AgpsStateMachine.call]
      split
      · exact hl.unsubscribe _
      · exact hl
  | granted =>
      simp only [Machine.next, machine, AgpsStateMachine.call, processAgpsEventGranted]
      cases sm.mState with
      | pending => exact hl.notifyAll (hsame .acquired) .granted false .forActiveSubscribers
      | released | acquired | releasing => exact hl
  | released =>
      simp only [Machine.next, machine, AgpsStateMachine.call, processAgpsEventReleased]
      cases sm.mState with
      | acquired => exact hl.notifyAll (hsame .released) .released true .forAllSubscribers
      | releasing => exact hl.finishReleasing
      | released | pending => exact hl
  | denied =>
      simp only [Machine.next, machine, AgpsStateMachine.call, processAgpsEventDenied]
      cases sm.mState with
      | pending => exact hl.notifyAll (hsame .released) .denied true .forAllSubscribers
      | releasing => exact hl.finishReleasing
      | released | acquired => exact hl
  | dropAllSubscribers => exact List.nodup_nil

/-- Each call keeps the list well formed. -/
lemma WellFormed.call (hwf : sm.WellFormed) {c : Call} (hc : sm.Admissible c) :
    (machine.next sm c).WellFormed where
  nodup := hwf.nodup.call c
  released hst := by
    rw [List.eq_nil_iff_forall_not_mem]
    intro s hs
    have hlife := life_call s.mConnHandle hwf hc
    rw [hst] at hlife
    exact (getSubscriber_eq_none.mp hlife.eq_none_of_released) ⟨s, hs, rfl⟩

lemma WellFormed.run (hwf : sm.WellFormed) {calls : List Call}
    (hcalls : machine.Steps Admissible sm calls) : (machine.run sm calls).WellFormed :=
  Machine.run_of_steps (fun _ _ h hc => h.call hc) hwf hcalls

end WellFormed

/-! ## Callbacks over runs -/

/-- What a listed handle has been told since its `SUBSCRIBE`, as the state of the machine and the
handle's entry show it. -/
def ToldSo (st : AgpsState) (s : AgpsSubscriber) (cbs : List Callback) : Prop :=
  match st with
  | .released => False
  | .pending => cbs = []
  | .acquired => cbs = [.openSuccess] ∨ (cbs = [] ∧ s.mIsInactive = true)
  | .releasing => cbs = [] ∨ (cbs = [.openSuccess] ∧ s.mIsInactive = true)

lemma ToldSo.cases {st : AgpsState} {s : AgpsSubscriber} {cbs : List Callback}
    (ht : ToldSo st s cbs) : cbs = [] ∨ cbs = [.openSuccess] := by
  cases st <;> simp only [ToldSo] at ht <;> tauto

/-- A call on a listed handle: it stays listed and what it has been told grows accordingly, or it
leaves with one terminal callback. -/
lemma ToldSo.life {h : ℤ} {st st' : AgpsState} {s : AgpsSubscriber} {e' : Option AgpsSubscriber}
    {c : Call} {cbs cbs' : List Callback} (ht : ToldSo st s cbs)
    (hlife : Life h st (some s) c cbs' st' e') :
    (∃ s', e' = some s' ∧ ToldSo st' s' (cbs ++ cbs')) ∨
      (e' = none ∧ (cbs' = [.close] ∨ (cbs = [] ∧ cbs' = [.openFailure]))) := by
  cases hlife with
  | kept => exact .inl ⟨s, rfl, by rwa [List.append_nil]⟩
  | inactivated _ _ s' _ hs' =>
      refine .inl ⟨s', rfl, ?_⟩
      cases st <;> simp only [ToldSo, List.append_nil, hs', and_true] at ht ⊢ <;> tauto
  | releasing _ _ s' _ _ _ hs' =>
      refine .inl ⟨s', rfl, ?_⟩
      simp only [ToldSo, List.append_nil, hs', and_true]
      exact ht.cases
  | granted =>
      refine .inl ⟨s, rfl, ?_⟩
      simp only [ToldSo] at ht
      cases hin : s.mIsInactive with
      | true => simp [ToldSo, ht, hin]
      | false => simp [ToldSo, ht]
  | reconnected _ _ _ hs =>
      refine .inl ⟨s, rfl, ?_⟩
      simp only [ToldSo, hs, Bool.false_eq_true, and_false, or_false] at ht
      simp [ToldSo, ht]
  | closed => exact .inr ⟨rfl, .inl rfl⟩
  | denied => exact .inr ⟨rfl, .inr ⟨ht, rfl⟩⟩

/-- While a handle stays listed, what it has been told is as the machine's state shows. -/
lemma toldSo_run {sm : AgpsStateMachine} {h : ℤ} (hwf : sm.WellFormed) {s : AgpsSubscriber}
    (hs : sm.getSubscriber h = some s) {cbs : List Callback} (ht : ToldSo sm.mState s cbs)
    {mid : List Call} (hmid : machine.Steps Admissible sm mid)
    (hlisted : machine.Always (Lists · h) sm mid) :
    ∃ s', (machine.run sm mid).getSubscriber h = some s' ∧
      ToldSo (machine.run sm mid).mState s' (cbs ++ callbacks h (machine.outs sm mid)) := by
  induction mid generalizing sm s cbs with
  | nil => exact ⟨s, hs, by simpa using ht⟩
  | cons c mid ih =>
      obtain ⟨hc, hmid⟩ := hmid
      have hlife := life_call h hwf hc
      rw [hs] at hlife
      rcases ht.life hlife with ⟨s', hs', ht'⟩ | ⟨hnone, -⟩
      · obtain ⟨s'', hs'', ht''⟩ := ih (hwf.call hc) hs' ht' hmid hlisted.2
        refine ⟨s'', hs'', ?_⟩
        rw [Machine.outs_cons, callbacks_append, ← List.append_assoc]
        exact ht''
      · exact absurd hlisted.2.head (getSubscriber_eq_none.mp hnone)

/-- The first callback of a listing comes with the `SUBSCRIBE` itself, in `ACQUIRED` only. -/
lemma toldSo_subscribe {sm : AgpsStateMachine} (hwf : sm.WellFormed) {h : ℤ} (wait : Bool)
    (hnot : ¬ sm.Lists h) :
    ∃ s, (machine.next sm (.subscribe h wait)).getSubscriber h = some s ∧
      ToldSo (machine.next sm (.subscribe h wait)).mState s
        (callbacks h (machine.emit sm (.subscribe h wait))) := by
  have hlife := life_call (c := .subscribe h wait) h hwf hnot
  rw [getSubscriber_eq_none.mpr hnot] at hlife
  obtain ⟨hentry, hcbs⟩ := hlife.of_subscribe
  refine ⟨_, hentry, ?_⟩
  rcases hcbs with ⟨hst | hst, hcbs⟩ | ⟨hst, hcbs⟩
  · simp [ToldSo, hst, hcbs]
  · simp [ToldSo, hst, hcbs]
  · simp [ToldSo, hst, hcbs]

end AgpsStateMachine
end LocHal
