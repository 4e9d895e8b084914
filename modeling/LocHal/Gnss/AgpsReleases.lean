import LocHal.Gnss.AgpsManager

/-!
# Releases of AGPS handles

A caller that releases a handle is told when the handle is done with, by `atlCloseStatus`.  For a
subscriber of an emergency request this comes later than the release: the subscriber is only marked
inactive, and the close is sent with a later report.  A denial in `PENDING`, however, is sent to all
subscribers alike, so that an inactive one is told of an open-failure instead of the close.
`releasesAnswered_iff` says that, for a manager with machines of the base class only, this is the
one way in which a release goes unanswered.
-/

namespace LocHal

namespace AgpsStateMachine

/-! ## Machines with the same subscribers -/

/-- Two machines in the same state and with the same subscribers, whatever their AGPS type, APN and
bearer. -/
structure Same (sm sm' : AgpsStateMachine) : Prop where
  mState : sm'.mState = sm.mState
  mSubscriberList : sm'.mSubscriberList = sm.mSubscriberList

namespace Same

variable {sm sm' sm'' : AgpsStateMachine} {h : ℤ}

lemma refl (sm : AgpsStateMachine) : sm.Same sm := ⟨rfl, rfl⟩

lemma trans (hs : sm.Same sm') (hs' : sm'.Same sm'') : sm.Same sm'' :=
  ⟨hs'.mState.trans hs.mState, hs'.mSubscriberList.trans hs.mSubscriberList⟩

lemma getSubscriber (hs : sm.Same sm') (h : ℤ) : sm'.getSubscriber h = sm.getSubscriber h := by
  simp only [AgpsStateMachine.getSubscriber, hs.mSubscriberList]

lemma lists (hs : sm.Same sm') : sm'.Lists h ↔ sm.Lists h := by
  simp only [Lists, hs.mSubscriberList]

lemma wellFormed (hs : sm.Same sm') (hwf : sm.WellFormed) : sm'.WellFormed where
  nodup := hs.mSubscriberList ▸ hwf.nodup
  released hst := hs.mSubscriberList.trans (hwf.released (hs.mState.symm.trans hst))

end Same

/-! ## A denial in `PENDING` -/

/-- A denial in `PENDING` removes every subscriber with an open-failure. -/
lemma denied_pending {sm : AgpsStateMachine} (hwf : sm.WellFormed) (hst : sm.mState = .pending)
    {h : ℤ} (hl : sm.Lists h) :
    callbacks h (machine.emit sm .denied) = [.openFailure] ∧
      ¬ (machine.next sm .denied).Lists h := by
  have hcall : call base sm .denied =
      notifyAllSubscribers base (sm.transitionState .released) .denied true .forAllSubscribers := by
    simp only [call, processAgpsEventDenied, hst]
  have hall : ∀ l : List AgpsSubscriber,
      l.filter AgpsNotificationType.forAllSubscribers.selects = l := fun l =>
    List.filter_eq_self.mpr fun _ _ => rfl
  obtain ⟨s, hs⟩ := exists_getSubscriber hl
  rw [getSubscriber] at hs
  simp only [Machine.emit, Machine.next, machine, hcall, notifyAllSubscribers_base, hall]
  constructor
  · have hcb := hwf.nodup.callbacks_notices (sm.transitionState .released) .denied h
    rw [hs, Option.isSome_some, if_pos rfl] at hcb
    exact hcb
  · rintro ⟨s', hs', -⟩
    simp [AgpsNotificationType.selects] at hs'

/-- A handle that was not listed comes to be listed by its own `SUBSCRIBE`. -/
lemma Life.listed_origin {h : ℤ} {st st' : AgpsState} {s' : AgpsSubscriber} {c : Call}
    {cbs : List Callback} (hlife : Life h st none c cbs st' (some s')) :
    ∃ wait, c = .subscribe h wait := by
  cases hlife with
  | listed _ _ wait => exact ⟨wait, rfl⟩
  | listedOpen wait => exact ⟨wait, rfl⟩

end AgpsStateMachine

namespace AgpsManager

open AgpsStateMachine (callbacks callbacks_append Callback)

/-! ## Handles of the manager -/

/-- The configurations under which no machine of the class `DSStateMachine` is created. -/
def baseOnly (conf : AgpsConf) : Bool :=
  !(conf.agpsCapable && conf.useEmergencyPdnForEmergencySupl && conf.dsClientInitFn == some 0)

/-- The machine a pointer points to, and one without subscribers for a null pointer. -/
def machineAt (m : AgpsManager) (n : Nif) : AgpsStateMachine := (m.nif n).getD (.init .invalid)

/-- One of the machines lists the handle. -/
def Lists (m : AgpsManager) (h : ℤ) : Prop := ∃ n, (m.machineAt n).Lists h

/-- One of the machines lists the handle, marked inactive. -/
def ListsInactive (m : AgpsManager) (h : ℤ) : Prop := ∃ n, (m.machineAt n).ListsInactive h

instance (m : AgpsManager) (h : ℤ) : Decidable (m.Lists h) :=
  inferInstanceAs (Decidable (∃ n, (m.machineAt n).Lists h))

instance (m : AgpsManager) (h : ℤ) : Decidable (m.ListsInactive h) :=
  inferInstanceAs (Decidable (∃ n, (m.machineAt n).ListsInactive h))

/-- The calls without a modem restart, in which a handle is requested while no machine lists it. -/
def Admissible (m : AgpsManager) : Call → Prop
  | .requestATL connHandle _ => ¬ m.Lists connHandle
  | .handleModemSSR => False
  | _ => True

instance (m : AgpsManager) : ∀ c, Decidable (Admissible m c)
  | .requestATL connHandle _ => inferInstanceAs (Decidable (¬ m.Lists connHandle))
  | .handleModemSSR => isFalse not_false
  | .createAgpsStateMachines | .releaseATL _ | .reportDataCallOpened | .reportDataCallClosed
  | .reportAtlOpenSuccess .. | .reportAtlOpenFailed _ | .reportAtlClosed _ | .retryCallback =>
      isTrue trivial

/-- A denial reaches a machine in `PENDING` only while none of its subscribers is inactive. -/
def Safe (conf : AgpsConf) (m : AgpsManager) : Call → Prop
  | .reportAtlOpenFailed agpsType =>
      (m.machineAt (getAgpsStateMachine conf m agpsType).2.1).mState = .pending →
        ∀ s ∈ (m.machineAt (getAgpsStateMachine conf m agpsType).2.1).mSubscriberList,
          s.mIsInactive = false
  | _ => True

instance (conf : AgpsConf) (m : AgpsManager) : ∀ c, Decidable (Safe conf m c)
  | .reportAtlOpenFailed agpsType =>
      inferInstanceAs (Decidable
        ((m.machineAt (getAgpsStateMachine conf m agpsType).2.1).mState = .pending →
          ∀ s ∈ (m.machineAt (getAgpsStateMachine conf m agpsType).2.1).mSubscriberList,
            s.mIsInactive = false))
  | .createAgpsStateMachines | .requestATL .. | .releaseATL _ | .reportDataCallOpened
  | .reportDataCallClosed | .reportAtlOpenSuccess .. | .reportAtlClosed _ | .retryCallback
  | .handleModemSSR => isTrue trivial

/-! ## What a call on the manager does to its machines -/

/-- Between calls the machines are well formed, none is of the class `DSStateMachine`, and each
handle is listed by one machine at most. -/
structure WellFormed (m : AgpsManager) : Prop where
  wellFormed : ∀ n, (m.machineAt n).WellFormed
  once : ∀ {h n n'}, (m.machineAt n).Lists h → (m.machineAt n').Lists h → n = n'
  mDsNif : m.mDsNif = none

/-- A call `c` on the manager is passed to no machine, or to one as the call `c'`. -/
inductive Handled (conf : AgpsConf) (m : AgpsManager) (c : Call) (m' : AgpsManager)
    (outs : List AgpsOutput) : Prop
  | aside (hsame : ∀ n, (m.machineAt n).Same (m'.machineAt n))
      (houts : ∀ h, m.Lists h → callbacks h outs = [])
      (hrelease : ∀ h, c = .releaseATL h → ¬ m.Lists h) (hsafe : Safe conf m c)
  | passed (n : Nif) (sm : AgpsStateMachine) (c' : AgpsStateMachine.Call)
      (hsm : (m.machineAt n).Same sm)
      (hnext : (AgpsStateMachine.machine.next sm c').Same (m'.machineAt n))
      (hsame : ∀ n', n' ≠ n → (m.machineAt n').Same (m'.machineAt n'))
      (houts : ∀ h, callbacks h outs = callbacks h (AgpsStateMachine.machine.emit sm c'))
      (hsubscribe : ∀ h wait, c' = .subscribe h wait → ¬ m.Lists h)
      (hdrop : c' ≠ .dropAllSubscribers)
      (hrelease : ∀ h, c = .releaseATL h ↔ c' = .unsubscribe h)
      (hlisted : ∀ h, c' = .unsubscribe h → sm.Lists h)
      (hsafe : Safe conf m c ↔ (c' = .denied → sm.mState = .pending →
        ∀ s ∈ sm.mSubscriberList, s.mIsInactive = false))

section Handled

variable {conf : AgpsConf} {client : DSClient} {m : AgpsManager}

lemma machineAt_of_nif {n : Nif} {sm : AgpsStateMachine} (hn : m.nif n = some sm) :
    m.machineAt n = sm := by
  rw [machineAt, hn, Option.getD_some]

@[simp] lemma nif_setNif (n n' : Nif) (sm : AgpsStateMachine) :
    (m.setNif n sm).nif n' = if n' = n then some sm else m.nif n' := by
  cases n <;> cases n' <;> rfl

lemma machineAt_setNif (n n' : Nif) (sm : AgpsStateMachine) :
    (m.setNif n sm).machineAt n' = if n' = n then sm else m.machineAt n' := by
  rw [machineAt, nif_setNif]
  split
  · rfl
  · rfl

/-- The manager after a machine is created that was missing. -/
def ensure (m : AgpsManager) (n : Nif) (agpsType : AGpsExtType) : AgpsManager :=
  if (m.nif n).isNone then m.setNif n (.init agpsType) else m

/-- A machine that is created has no subscribers, as the null pointer before. -/
lemma same_ensure (m : AgpsManager) {n : Nif} (hn : n ≠ .ds) (agpsType : AGpsExtType) :
    (∀ n', (m.machineAt n').Same ((m.ensure n agpsType).machineAt n')) ∧
      (m.ensure n agpsType).mDsNif = m.mDsNif := by
  unfold ensure
  split
  · rename_i hnone
    refine ⟨fun n' => ?_, ?_⟩
    · rw [machineAt_setNif]
      split
      · rename_i heq
        rw [heq, machineAt, Option.isNone_iff_eq_none.mp hnone]
        exact ⟨rfl, rfl⟩
      · exact .refl _
    · cases n with
      | ds => exact absurd rfl hn
      | agnss | internet => rfl
  · exact ⟨fun _ => .refl _, rfl⟩

lemma createAgpsStateMachines_baseOnly (hconf : baseOnly conf) (m : AgpsManager) :
    (createAgpsStateMachines conf m).1 =
      (if conf.agpsCapable then (m.ensure .internet .wwanAny).ensure .agnss .supl
        else m.ensure .internet .wwanAny) ∧
      ∀ h, callbacks h (createAgpsStateMachines conf m).2 = [] := by
  have hm : (if m.mInternetNif.isNone then m.setNif .internet (.init .wwanAny) else m) =
      m.ensure .internet .wwanAny := rfl
  unfold createAgpsStateMachines
  simp only [hm]
  generalize m.ensure .internet .wwanAny = m₁
  have hm₁ : (if m₁.mAgnssNif.isNone then m₁.setNif .agnss (.init .supl) else m₁) =
      m₁.ensure .agnss .supl := rfl
  simp only [hm₁]
  generalize m₁.ensure .agnss .supl = m₂
  split
  · rename_i hcapable
    split
    · rename_i hpdn
      split
      · exact ⟨rfl, fun _ => rfl⟩
      · rename_i ret hret
        split
        · exact ⟨rfl, fun _ => rfl⟩
        · rename_i hzero
          simp_all [baseOnly]
    · exact ⟨rfl, fun _ => rfl⟩
  · exact ⟨rfl, fun _ => rfl⟩

/-- Creating machines, none of them of the class `DSStateMachine`, changes no list. -/
lemma same_createAgpsStateMachines (hconf : baseOnly conf) (m : AgpsManager) :
    (∀ n, (m.machineAt n).Same ((createAgpsStateMachines conf m).1.machineAt n)) ∧
      (createAgpsStateMachines conf m).1.mDsNif = m.mDsNif ∧
      ∀ h, callbacks h (createAgpsStateMachines conf m).2 = [] := by
  obtain ⟨hm, hcb⟩ := createAgpsStateMachines_baseOnly hconf m
  obtain ⟨hinternet, hds⟩ := same_ensure m (n := .internet) (by decide) .wwanAny
  obtain ⟨hagnss, hds'⟩ := same_ensure (m.ensure .internet .wwanAny) (n := .agnss) (by decide) .supl
  rw [hm]
  split
  · exact ⟨fun n => (hinternet n).trans (hagnss n), hds'.trans hds, hcb⟩
  · exact ⟨hinternet, hds, hcb⟩

/-- Looking up a machine changes no list. -/
lemma same_getAgpsStateMachine (hconf : baseOnly conf) (m : AgpsManager) (agpsType : AGpsExtType) :
    (∀ n, (m.machineAt n).Same ((getAgpsStateMachine conf m agpsType).1.machineAt n)) ∧
      (getAgpsStateMachine conf m agpsType).1.mDsNif = m.mDsNif ∧
      ∀ h, callbacks h (getAgpsStateMachine conf m agpsType).2.2 = [] := by
  have hkept : (∀ n, (m.machineAt n).Same (m.machineAt n)) ∧ m.mDsNif = m.mDsNif ∧
      ∀ h, callbacks h [] = [] := ⟨fun _ => .refl _, rfl, fun _ => rfl⟩
  unfold getAgpsStateMachine
  cases agpsType with
  | suplEs =>
      simp only []
      split
      · split
        · exact same_createAgpsStateMachines hconf m
        · exact hkept
      · exact hkept
  | invalid | supl | any | c2k | wwanAny | wifi | other => exact hkept

lemma callbacks_nullDereference (h : ℤ) : callbacks h [.nullDereference] = [] := rfl

/-- A call on a machine of the base class, or on a null pointer. -/
lemma process_cases (client : DSClient) (hds : m.mDsNif = none) (n : Nif)
    (c : AgpsStateMachine.Call) :
    m.nif n = none ∧ process client m n c = (m, [.nullDereference]) ∨
      ∃ sm, n ≠ .ds ∧ m.nif n = some sm ∧ process client m n c =
        (m.setNif n (AgpsStateMachine.machine.next sm c), AgpsStateMachine.machine.emit sm c) := by
  unfold process
  cases hn : m.nif n with
  | none => exact .inl ⟨rfl, rfl⟩
  | some sm =>
      have hne : n ≠ .ds := by
        rintro rfl
        rw [nif, hds] at hn
        cases hn
      refine .inr ⟨sm, hne, rfl, ?_⟩
      simp only [if_neg hne]
      rfl

lemma setNif_mDsNif {n : Nif} (hn : n ≠ .ds) (sm : AgpsStateMachine) :
    (m.setNif n sm).mDsNif = m.mDsNif := by
  cases n with
  | ds => exact absurd rfl hn
  | agnss | internet => rfl

/-- A call that is no subscription is passed to a machine, or to a null pointer, of a manager `m₂`
with the same lists. -/
lemma handled_process (client : DSClient) {m₂ : AgpsManager} {n : Nif} {c : Call}
    {c' : AgpsStateMachine.Call} (hds : m₂.mDsNif = none)
    (hsame : ∀ n, (m.machineAt n).Same (m₂.machineAt n))
    (hsubscribe : ∀ h wait, c' = .subscribe h wait → ¬ m.Lists h) (hdrop : c' ≠ .dropAllSubscribers)
    (hrelease : ∀ h, c = .releaseATL h ↔ c' = .unsubscribe h)
    (hlisted : ∀ h, c' = .unsubscribe h → (m.machineAt n).Lists h)
    (hsafe : Safe conf m c ↔ (c' = .denied → (m.machineAt n).mState = .pending →
      ∀ s ∈ (m.machineAt n).mSubscriberList, s.mIsInactive = false))
    (pre : List AgpsOutput) (hpre : ∀ h, callbacks h pre = []) :
    Handled conf m c (process client m₂ n c').1 (pre ++ (process client m₂ n c').2) ∧
      (process client m₂ n c').1.mDsNif = none := by
  rcases process_cases client hds n c' with ⟨hnone, hp⟩ | ⟨sm, hne, hsome, hp⟩
  · have hnot : ∀ h, ¬ (m.machineAt n).Lists h := by
      intro h hl
      rw [← (hsame n).lists, machineAt, hnone] at hl
      obtain ⟨s, hs, -⟩ := hl
      cases hs
    rw [hp]
    refine ⟨.aside hsame (fun h _ => ?_) (fun h hc => ?_) (hsafe.mpr fun _ _ s hs => ?_), hds⟩
    · rw [callbacks_append, hpre, callbacks_nullDereference, List.nil_append]
    · exact absurd (hlisted h ((hrelease h).mp hc)) (hnot h)
    · exact absurd ⟨s, hs, rfl⟩ (hnot s.mConnHandle)
  · have hsm : (m.machineAt n).Same sm := machineAt_of_nif hsome ▸ hsame n
    rw [hp]
    refine ⟨.passed n sm c' hsm ?_ (fun n' hn' => ?_) (fun h => ?_) hsubscribe hdrop hrelease
      (fun h hc => hsm.lists.mpr (hlisted h hc)) ?_, (setNif_mDsNif hne _).trans hds⟩
    · rw [machineAt_setNif, if_pos rfl]
      exact .refl _
    · rw [machineAt_setNif, if_neg hn']
      exact hsame n'
    · rw [callbacks_append, hpre, List.nil_append]
    · rw [hsafe, hsm.mState, hsm.mSubscriberList]

lemma lists_of_finds {n : Nif} {h : ℤ} (hf : m.finds n h = true) : (m.machineAt n).Lists h := by
  unfold finds at hf
  split at hf
  · rename_i sm hn
    obtain ⟨s, hs⟩ := Option.isSome_iff_exists.mp hf
    rw [machineAt_of_nif hn]
    exact AgpsStateMachine.lists_of_getSubscriber hs
  · cases hf

lemma finds_of_lists {n : Nif} {h : ℤ} (hl : (m.machineAt n).Lists h) : m.finds n h = true := by
  unfold finds
  unfold machineAt at hl
  cases hn : m.nif n with
  | some sm =>
      rw [hn, Option.getD_some] at hl
      obtain ⟨s, hs⟩ := AgpsStateMachine.exists_getSubscriber hl
      exact Option.isSome_iff_exists.mpr ⟨s, hs⟩
  | none =>
      rw [hn] at hl
      obtain ⟨s, hs, -⟩ := hl
      cases hs

lemma handled_requestATL (hconf : baseOnly conf) (hds : m.mDsNif = none) {k : ℤ}
    (hk : ¬ m.Lists k) (agpsType : AGpsExtType) :
    Handled conf m (.requestATL k agpsType) (requestATL conf client m k agpsType).1
        (requestATL conf client m k agpsType).2 ∧
      (requestATL conf client m k agpsType).1.mDsNif = none := by
  obtain ⟨hsame, hds', hpre⟩ := same_getAgpsStateMachine hconf m agpsType
  unfold requestATL
  simp only []
  split
  · refine ⟨.aside hsame (fun h hl => ?_) (fun h hc => by cases hc) trivial, hds'.trans hds⟩
    have hne : k ≠ h := fun heq => hk (heq ▸ hl)
    rw [callbacks_append, hpre, List.nil_append]
    simp [callbacks, AgpsStateMachine.callback?, hne]
  · refine handled_process client (hds'.trans hds) hsame ?_ (by simp) (by simp) (by simp)
      (by simp [Safe]) _ hpre
    rintro h wait hc
    rw [← (AgpsStateMachine.Call.subscribe.inj hc).1]
    exact hk

lemma handled_releaseATL (hds : m.mDsNif = none) (k : ℤ) :
    Handled conf m (.releaseATL k) (releaseATL client m k).1 (releaseATL client m k).2 ∧
      (releaseATL client m k).1.mDsNif = none := by
  have hpassed : ∀ n, m.finds n k = true →
      Handled conf m (.releaseATL k) (process client m n (.unsubscribe k)).1
        (process client m n (.unsubscribe k)).2 ∧
      (process client m n (.unsubscribe k)).1.mDsNif = none := by
    intro n hf
    refine handled_process client hds (fun _ => .refl _) (by simp) (by simp) (by simp) ?_
      (by simp [Safe]) [] fun _ => rfl
    rintro h hc
    rw [← AgpsStateMachine.Call.unsubscribe.inj hc]
    exact lists_of_finds hf
  unfold releaseATL
  split
  · exact hpassed .agnss ‹_›
  · split
    · exact hpassed .internet ‹_›
    · split
      · exact hpassed .ds ‹_›
      · rename_i hagnss hinternet hds'
        have hk : ¬ m.Lists k := by
          rintro ⟨n, hl⟩
          have hf := finds_of_lists hl
          cases n with
          | agnss => exact hagnss hf
          | internet => exact hinternet hf
          | ds => exact hds' hf
        refine ⟨.aside (fun _ => .refl _) (fun h hl => ?_) (fun h hc => ?_) trivial, hds⟩
        · have hne : k ≠ h := fun heq => hk (heq ▸ hl)
          simp [callbacks, AgpsStateMachine.callback?, hne]
        · rw [← Call.releaseATL.inj hc]
          exact hk

lemma handled_reportAtl (hconf : baseOnly conf) (hds : m.mDsNif = none) (agpsType : AGpsExtType)
    {c : Call} {c' : AgpsStateMachine.Call} (hsubscribe : ∀ h wait, c' ≠ .subscribe h wait)
    (hdrop : c' ≠ .dropAllSubscribers) (hunsubscribe : ∀ h, c' ≠ .unsubscribe h)
    (hrelease : ∀ h, c ≠ .releaseATL h)
    (hsafe : Safe conf m c ↔ (c' = .denied →
      (m.machineAt (getAgpsStateMachine conf m agpsType).2.1).mState = .pending →
      ∀ s ∈ (m.machineAt (getAgpsStateMachine conf m agpsType).2.1).mSubscriberList,
        s.mIsInactive = false)) :
    Handled conf m c (reportAtl conf client m agpsType c').1
        (reportAtl conf client m agpsType c').2 ∧
      (reportAtl conf client m agpsType c').1.mDsNif = none := by
  obtain ⟨hsame, hds', hpre⟩ := same_getAgpsStateMachine hconf m agpsType
  exact handled_process client (hds'.trans hds) hsame
    (fun h wait hc => absurd hc (hsubscribe h wait))
    hdrop (fun h => by simp [hrelease h, hunsubscribe h])
    (fun h hc => absurd hc (hunsubscribe h)) hsafe _ hpre

lemma handled_reportAtlOpenSuccess (hconf : baseOnly conf) (hds : m.mDsNif = none)
    (agpsType : AGpsExtType) (apnName : Option (List Char)) (apnLen : ℕ)
    (bearerType : AGpsBearerType) :
    Handled conf m (.reportAtlOpenSuccess agpsType apnName apnLen bearerType)
        (reportAtlOpenSuccess conf client m agpsType apnName apnLen bearerType).1
        (reportAtlOpenSuccess conf client m agpsType apnName apnLen bearerType).2 ∧
      (reportAtlOpenSuccess conf client m agpsType apnName apnLen bearerType).1.mDsNif = none := by
  obtain ⟨hsame, hds', hpre⟩ := same_getAgpsStateMachine hconf m agpsType
  unfold reportAtlOpenSuccess
  simp only []
  generalize getAgpsStateMachine conf m agpsType = found at hsame hds' hpre ⊢
  split
  · refine ⟨.aside hsame (fun h _ => ?_) (fun h hc => by cases hc) trivial, hds'.trans hds⟩
    rw [callbacks_append, hpre, callbacks_nullDereference, List.nil_append]
  · rename_i sm hn
    have hne : found.2.1 ≠ .ds := by
      intro heq
      rw [heq, nif, hds', hds] at hn
      cases hn
    -- the APN and the bearer are no part of what the lists depend on
    refine handled_process client ((setNif_mDsNif hne _).trans (hds'.trans hds)) (fun n => ?_)
      (by simp) (by simp) (by simp) (by simp) (by simp [Safe]) _ hpre
    refine (hsame n).trans ?_
    rw [machineAt_setNif]
    split
    · rename_i heq
      rw [heq, machineAt_of_nif hn]
      exact ⟨rfl, rfl⟩
    · exact .refl _

/-- **Inversion of a call on the manager.** -/
theorem handled_call (client : DSClient) (hconf : baseOnly conf) (hds : m.mDsNif = none) {c : Call}
    (hc : Admissible m c) :
    Handled conf m c ((machine conf client).next m c) ((machine conf client).emit m c) ∧
      ((machine conf client).next m c).mDsNif = none := by
  cases c with
  | createAgpsStateMachines =>
      obtain ⟨hsame, hds', hcb⟩ := same_createAgpsStateMachines hconf m
      exact ⟨.aside hsame (fun h _ => hcb h) (fun h hc => by cases hc) trivial, hds'.trans hds⟩
  | requestATL k agpsType => exact handled_requestATL hconf hds hc agpsType
  | releaseATL k => exact handled_releaseATL hds k
  | reportAtlOpenSuccess agpsType apnName apnLen bearerType =>
      exact handled_reportAtlOpenSuccess hconf hds agpsType apnName apnLen bearerType
  | reportAtlOpenFailed agpsType =>
      exact handled_reportAtl hconf hds agpsType (by simp) (by simp) (by simp) (by simp)
        (by simp [Safe])
  | reportAtlClosed agpsType =>
      exact handled_reportAtl hconf hds agpsType (by simp) (by simp) (by simp) (by simp)
        (by simp [Safe])
  | reportDataCallOpened | reportDataCallClosed =>
      have hquiet : ∀ c', reportDataCall client m c' = (m, []) := fun c' => by
        simp [reportDataCall, hds]
      simp only [Machine.next, Machine.emit, machine, call, hquiet]
      exact ⟨.aside (fun _ => .refl _) (fun _ _ => rfl) (fun h hc => by cases hc) trivial, hds⟩
  | retryCallback =>
      simp only [Machine.next, Machine.emit, machine, call, hds]
      exact ⟨.aside (fun _ => .refl _) (fun _ _ => rfl) (fun h hc => by cases hc) trivial, trivial⟩
  | handleModemSSR => exact absurd hc not_false

end Handled

/-! ## One handle under a call on the manager -/

section Step

variable {conf : AgpsConf} {client : DSClient} {m m' : AgpsManager} {c : Call}
  {outs : List AgpsOutput} {h : ℤ}

/-- The calls passed to a machine are those that its callers may make. -/
lemma admissible_passed {n : Nif} {sm : AgpsStateMachine} {c' : AgpsStateMachine.Call}
    (hsm : (m.machineAt n).Same sm) (hsubscribe : ∀ h wait, c' = .subscribe h wait → ¬ m.Lists h)
    (hdrop : c' ≠ .dropAllSubscribers) : sm.Admissible c' := by
  cases c' with
  | subscribe k wait => exact fun hl => hsubscribe k wait rfl ⟨n, hsm.lists.mp hl⟩
  | dropAllSubscribers => exact absurd rfl hdrop
  | unsubscribe | granted | released | denied => trivial

/-- What a call does to a handle at one machine: nothing, or what a call on that machine does. -/
lemma Handled.life (hwf : m.WellFormed) (hh : Handled conf m c m' outs) (n : Nif) (h : ℤ) :
    ((m'.machineAt n).getSubscriber h = (m.machineAt n).getSubscriber h ∧
      ((m.machineAt n).Lists h → callbacks h outs = [] ∧ c ≠ .releaseATL h)) ∨
    ∃ st st' c', AgpsStateMachine.Life h st ((m.machineAt n).getSubscriber h) c'
        (callbacks h outs) st' ((m'.machineAt n).getSubscriber h) ∧
      (∀ wait, c' = .subscribe h wait → ¬ m.Lists h) ∧
      (c = .releaseATL h ↔ c' = .unsubscribe h) ∧
      (Safe conf m c → c' = .denied → st = .pending →
        ∀ s ∈ (m.machineAt n).getSubscriber h, s.mIsInactive = false) := by
  cases hh with
  | aside hsame houts hrelease _ =>
      exact .inl ⟨(hsame n).getSubscriber h,
        fun hl => ⟨houts h ⟨n, hl⟩, fun hc => hrelease h hc ⟨n, hl⟩⟩⟩
  | passed n₀ sm c' hsm hnext hsame houts hsubscribe hdrop hrelease hlisted hsafe =>
      have hadm := admissible_passed hsm hsubscribe hdrop
      have hlife := AgpsStateMachine.life_call h (hsm.wellFormed (hwf.wellFormed n₀)) hadm
      rw [hsm.getSubscriber, ← hnext.getSubscriber, ← houts] at hlife
      by_cases hn : n = n₀
      · subst hn
        refine .inr ⟨_, _, c', hlife, hsubscribe h, hrelease h, fun hs hc hst s hmem => ?_⟩
        have hsub : sm.getSubscriber h = some s := (hsm.getSubscriber h).trans hmem
        exact hsafe.mp hs hc hst s (AgpsStateMachine.mem_of_getSubscriber hsub)
      · refine .inl ⟨(hsame n hn).getSubscriber h, fun hl => ?_⟩
        -- the handle is listed elsewhere, so the machine called knows nothing of it
        have hnot : ¬ (m.machineAt n₀).Lists h := fun hl' => hn (hwf.once hl hl')
        rw [AgpsStateMachine.getSubscriber_eq_none.mpr hnot] at hlife
        refine ⟨?_, fun hc => hnot (hsm.lists.mp (hlisted h ((hrelease h).mp hc)))⟩
        rcases hlife.of_unlisted with hcb | ⟨⟨wait, hc⟩, -⟩
        · exact hcb
        · exact absurd ⟨n, hl⟩ (hsubscribe h wait hc)

/-- A handle that is listed does not come to be listed by another machine. -/
lemma Handled.lists_origin (hwf : m.WellFormed) (hh : Handled conf m c m' outs) {n : Nif}
    (hl : m.Lists h) (hl' : (m'.machineAt n).Lists h) : (m.machineAt n).Lists h := by
  by_contra hnot
  obtain ⟨s', hs'⟩ := AgpsStateMachine.exists_getSubscriber hl'
  have hnone := AgpsStateMachine.getSubscriber_eq_none.mpr hnot
  rcases hh.life hwf n h with ⟨hsame, -⟩ | ⟨st, st', c', hlife, hsubscribe, -⟩
  · rw [hs', hnone] at hsame
    cases hsame
  · rw [hs', hnone] at hlife
    obtain ⟨wait, hc'⟩ := hlife.listed_origin
    exact hsubscribe wait hc' hl

lemma wellFormed_init : init.WellFormed where
  wellFormed n := by
    cases n with
    | agnss | internet | ds => exact AgpsStateMachine.wellFormed_init .invalid
  once := by
    rintro h n n' ⟨s, hs, -⟩
    cases n with
    | agnss | internet | ds => cases hs
  mDsNif := rfl

/-- Each call keeps the manager well formed. -/
lemma Handled.wellFormed (hwf : m.WellFormed) (hh : Handled conf m c m' outs)
    (hds : m'.mDsNif = none) : m'.WellFormed where
  wellFormed n := by
    cases hh with
    | aside hsame => exact (hsame n).wellFormed (hwf.wellFormed n)
    | passed n₀ sm c' hsm hnext hsame _ hsubscribe hdrop =>
        by_cases hn : n = n₀
        · subst hn
          have hadm := admissible_passed hsm hsubscribe hdrop
          exact hnext.wellFormed ((hsm.wellFormed (hwf.wellFormed n)).call hadm)
        · exact (hsame n hn).wellFormed (hwf.wellFormed n)
  once := by
    intro h n₁ n₂ h₁ h₂
    by_cases hl : m.Lists h
    · exact hwf.once (hh.lists_origin hwf hl h₁) (hh.lists_origin hwf hl h₂)
    · -- a handle that was listed nowhere is listed by the machine called, if by any
      cases hh with
      | aside hsame => exact absurd ⟨n₁, (hsame n₁).lists.mp h₁⟩ hl
      | passed n₀ _ _ _ _ hsame =>
          have hat : ∀ n, (m'.machineAt n).Lists h → n = n₀ := by
            intro n hn
            by_contra hne
            exact hl ⟨n, (hsame n hne).lists.mp hn⟩
          rw [hat n₁ h₁, hat n₂ h₂]
  mDsNif := hds

lemma WellFormed.call (hconf : baseOnly conf) (hwf : m.WellFormed) (hc : Admissible m c) :
    ((machine conf client).next m c).WellFormed := by
  obtain ⟨hh, hds⟩ := handled_call client hconf hwf.mDsNif hc
  exact hh.wellFormed hwf hds

lemma WellFormed.run (hconf : baseOnly conf) (hwf : m.WellFormed) {calls : List Call}
    (hcalls : (machine conf client).Steps Admissible m calls) :
    ((machine conf client).run m calls).WellFormed :=
  Machine.run_of_steps (fun _ _ h hc => h.call hconf hc) hwf hcalls

/-! ## Released handles -/

/-- A machine's entry for a handle that has been listed says what has become of it. -/
lemma Handled.released (hwf : m.WellFormed) (hh : Handled conf m c m' outs) {n : Nif}
    (hl : (m.machineAt n).Lists h)
    (hentry : (∃ s', (m'.machineAt n).getSubscriber h = some s' ∧ s'.mIsInactive = true) ∧
        callbacks h outs = [] ∨
      (m'.machineAt n).getSubscriber h = none ∧ callbacks h outs = [.close]) :
    m'.ListsInactive h ∧ callbacks h outs = [] ∨ ¬ m'.Lists h ∧ callbacks h outs = [.close] := by
  rcases hentry with ⟨⟨s', hs', hin⟩, hcb⟩ | ⟨hnone, hcb⟩
  · exact .inl ⟨⟨n, s', AgpsStateMachine.mem_of_getSubscriber hs',
      AgpsStateMachine.mConnHandle_of_getSubscriber hs', hin⟩, hcb⟩
  · refine .inr ⟨?_, hcb⟩
    rintro ⟨n', hl'⟩
    obtain rfl := hwf.once hl (hh.lists_origin hwf ⟨n, hl⟩ hl')
    exact AgpsStateMachine.getSubscriber_eq_none.mp hnone hl'

/-- The release of a listed handle leaves it inactive, or is answered at once. -/
lemma Handled.release (hwf : m.WellFormed) (hh : Handled conf m (.releaseATL h) m' outs)
    (hl : m.Lists h) :
    m'.ListsInactive h ∧ callbacks h outs = [] ∨ ¬ m'.Lists h ∧ callbacks h outs = [.close] := by
  obtain ⟨n, hl⟩ := hl
  refine hh.released hwf hl ?_
  obtain ⟨s, hs⟩ := AgpsStateMachine.exists_getSubscriber hl
  rcases hh.life hwf n h with ⟨-, hquiet⟩ | ⟨st, st', c', hlife, -, hrelease, -⟩
  · exact absurd rfl (hquiet hl).2
  · rw [hs, hrelease.mp rfl] at hlife
    exact hlife.of_unsubscribe

lemma getSubscriber_of_listsInactive (hwf : m.WellFormed) {n : Nif}
    (hl : (m.machineAt n).ListsInactive h) :
    (m.machineAt n).Lists h ∧
      ∃ s, (m.machineAt n).getSubscriber h = some s ∧ s.mIsInactive = true := by
  obtain ⟨s, hs, rfl, hin⟩ := hl
  exact ⟨⟨s, hs, rfl⟩, s, (hwf.wellFormed n).nodup.getSubscriber_of_mem hs, hin⟩

/-- An inactive handle stays so until it is told of its close, as long as the denials are safe. -/
lemma Handled.inactive (hwf : m.WellFormed) (hh : Handled conf m c m' outs)
    (hsafe : Safe conf m c) (hl : m.ListsInactive h) :
    m'.ListsInactive h ∧ callbacks h outs = [] ∨ ¬ m'.Lists h ∧ callbacks h outs = [.close] := by
  obtain ⟨n, hl⟩ := hl
  obtain ⟨hlists, s, hs, hin⟩ := getSubscriber_of_listsInactive hwf hl
  refine hh.released hwf hlists ?_
  rcases hh.life hwf n h with ⟨hsame, hquiet⟩ | ⟨st, st', c', hlife, -, -, hdenied⟩
  · exact .inl ⟨⟨s, hsame.trans hs, hin⟩, (hquiet hlists).1⟩
  · rw [hs] at hlife hdenied
    rcases hlife.of_inactive hin with hstays | ⟨hnone, hcb | ⟨hc', hst, -⟩⟩
    · exact .inl hstays
    · exact .inr ⟨hnone, hcb⟩
    · simp [hdenied hsafe hc' hst s rfl] at hin

/-- A handle becomes inactive by its own release, and hears nothing while it stays so. -/
lemma Handled.inactive_origin (hwf : m.WellFormed) (hwf' : m'.WellFormed)
    (hh : Handled conf m c m' outs) (hl' : m'.ListsInactive h) :
    callbacks h outs = [] ∧ (m.ListsInactive h ∨ c = .releaseATL h ∧ m.Lists h) := by
  obtain ⟨n, hl'⟩ := hl'
  obtain ⟨-, s', hs', hin'⟩ := getSubscriber_of_listsInactive hwf' hl'
  have hinactive : ∀ {s : AgpsSubscriber}, (m.machineAt n).getSubscriber h = some s →
      s.mIsInactive = true → m.ListsInactive h := fun hs hin =>
    ⟨n, _, AgpsStateMachine.mem_of_getSubscriber hs,
      AgpsStateMachine.mConnHandle_of_getSubscriber hs, hin⟩
  rcases hh.life hwf n h with ⟨hsame, hquiet⟩ | ⟨st, st', c', hlife, -, hrelease, -⟩
  · have hs := hsame.symm.trans hs'
    exact ⟨(hquiet (AgpsStateMachine.lists_of_getSubscriber hs)).1, .inl (hinactive hs hin')⟩
  · rw [hs'] at hlife
    obtain ⟨s, hs, hin | hc'⟩ := hlife.inactive_origin hin'
    · rw [hs] at hlife
      rcases hlife.of_inactive hin with ⟨-, hcb⟩ | ⟨hnone, -⟩
      · exact ⟨hcb, .inl (hinactive hs hin)⟩
      · cases hnone
    · rw [hs, hc'] at hlife
      rcases hlife.of_unsubscribe with ⟨-, hcb⟩ | ⟨hnone, -⟩
      · exact ⟨hcb, .inr ⟨hrelease.mpr hc', n, AgpsStateMachine.lists_of_getSubscriber hs⟩⟩
      · cases hnone

/-- A denial that is not safe removes an inactive handle with an open-failure. -/
lemma Handled.not_safe (hwf : m.WellFormed) (hh : Handled conf m c m' outs)
    (hsafe : ¬ Safe conf m c) :
    ∃ h, m.ListsInactive h ∧ callbacks h outs = [.openFailure] ∧ ¬ m'.Lists h := by
  cases hh with
  | aside _ _ _ hs => exact absurd hs hsafe
  | passed n sm c' hsm hnext hsame houts hsubscribe hdrop hrelease hlisted hs =>
      rw [hs] at hsafe
      push Not at hsafe
      obtain ⟨rfl, hst, s, hmem, hin⟩ := hsafe
      have hin : s.mIsInactive = true := by simpa using hin
      have hl : sm.Lists s.mConnHandle := ⟨s, hmem, rfl⟩
      obtain ⟨hcb, hgone⟩ := AgpsStateMachine.denied_pending
        (hsm.wellFormed (hwf.wellFormed n)) hst hl
      refine ⟨s.mConnHandle, ⟨n, s, hsm.mSubscriberList ▸ hmem, rfl, hin⟩, (houts _).trans hcb, ?_⟩
      rintro ⟨n', hl'⟩
      by_cases hn : n' = n
      · subst hn
        exact hgone (hnext.lists.mp hl')
      · exact hn (hwf.once ((hsame n' hn).lists.mp hl') (hsm.lists.mp hl))

end Step

/-! ## Releases over runs -/

/-- What a handle is told from the first of the calls on, until a call after which no machine lists
it; `none` if it stays listed. -/
def toldUntilGone (conf : AgpsConf) (client : DSClient) (h : ℤ) :
    AgpsManager → List Call → Option (List Callback)
  | _, [] => none
  | m, c :: calls =>
      let cbs := callbacks h ((machine conf client).emit m c)
      if ((machine conf client).next m c).Lists h then
        (toldUntilGone conf client h ((machine conf client).next m c) calls).map (cbs ++ ·)
      else some cbs

/-- Wherever a listed handle is released, it is told of the close and nothing else by the time it is
no longer listed. -/
def ReleasesAnswered (conf : AgpsConf) (client : DSClient) (m : AgpsManager) (calls : List Call) :
    Prop :=
  ∀ pre h rest, calls = pre ++ .releaseATL h :: rest →
    ((machine conf client).run m pre).Lists h →
    ∀ cbs ∈ toldUntilGone conf client h ((machine conf client).run m pre) (.releaseATL h :: rest),
      cbs = [.close]

section Runs

variable {conf : AgpsConf} {client : DSClient} {m : AgpsManager} {h : ℤ}

lemma lists_of_listsInactive (hl : m.ListsInactive h) : m.Lists h := by
  obtain ⟨n, s, hs, hk, -⟩ := hl
  exact ⟨n, s, hs, hk⟩

/-- While a handle stays listed and hears nothing, there is nothing to add. -/
lemma toldUntilGone_quiet {c : Call} (hl : ((machine conf client).next m c).Lists h)
    (hcb : callbacks h ((machine conf client).emit m c) = []) (calls : List Call) :
    toldUntilGone conf client h m (c :: calls) =
      toldUntilGone conf client h ((machine conf client).next m c) calls := by
  simp only [toldUntilGone, if_pos hl, hcb, List.nil_append]
  exact congrFun Option.map_id _

lemma toldUntilGone_gone {c : Call} (hl : ¬ ((machine conf client).next m c).Lists h)
    (calls : List Call) :
    toldUntilGone conf client h m (c :: calls) =
      some (callbacks h ((machine conf client).emit m c)) := by
  simp only [toldUntilGone, if_neg hl]

/-- With safe denials only, an inactive handle is told of its close. -/
lemma told_of_inactive (hconf : baseOnly conf) (hwf : m.WellFormed) {calls : List Call}
    (hcalls : (machine conf client).Steps Admissible m calls)
    (hsafe : (machine conf client).Steps (Safe conf) m calls) (hl : m.ListsInactive h) :
    ∀ cbs ∈ toldUntilGone conf client h m calls, cbs = [.close] := by
  induction calls generalizing m with
  | nil => simp [toldUntilGone]
  | cons c calls ih =>
      obtain ⟨hh, -⟩ := handled_call client hconf hwf.mDsNif hcalls.1
      rcases hh.inactive hwf hsafe.1 hl with ⟨hl', hcb⟩ | ⟨hgone, hcb⟩
      · rw [toldUntilGone_quiet (lists_of_listsInactive hl') hcb]
        exact ih (hwf.call hconf hcalls.1) hcalls.2 hsafe.2 hl'
      · rw [toldUntilGone_gone hgone, hcb]
        simp

/-- Every inactive handle goes back to a release, and has heard nothing since. -/
lemma release_of_inactive (hconf : baseOnly conf) (hwf : m.WellFormed)
    (hinit : ∀ h, ¬ m.ListsInactive h) {pre : List Call}
    (hpre : (machine conf client).Steps Admissible m pre)
    (hl : ((machine conf client).run m pre).ListsInactive h) :
    ∃ pre₁ mid, pre = pre₁ ++ .releaseATL h :: mid ∧
      ((machine conf client).run m pre₁).Lists h ∧
      ∀ rest, toldUntilGone conf client h ((machine conf client).run m pre₁)
          (.releaseATL h :: mid ++ rest) =
        toldUntilGone conf client h ((machine conf client).run m pre) rest := by
  induction pre using List.reverseRecOn with
  | nil => exact absurd hl (hinit h)
  | append_singleton pre c ih =>
      obtain ⟨hpre, hc, -⟩ := ((machine conf client).steps_append _ _ _ _).mp hpre
      rw [Machine.run_append, Machine.run_cons, Machine.run_nil] at hl
      have hwf₁ := hwf.run hconf hpre
      obtain ⟨hh, hds⟩ := handled_call client hconf hwf₁.mDsNif hc
      obtain ⟨hcb, horigin⟩ := hh.inactive_origin hwf₁ (hwf₁.call hconf hc) hl
      -- the last call is one of those during which nothing is heard
      have hlast : ∀ rest, toldUntilGone conf client h ((machine conf client).run m pre)
          (c :: rest) = toldUntilGone conf client h ((machine conf client).run m (pre ++ [c])) rest
          := by
        intro rest
        rw [toldUntilGone_quiet (lists_of_listsInactive hl) hcb, Machine.run_append]
        rfl
      rcases horigin with hbefore | ⟨rfl, hlisted⟩
      · obtain ⟨pre₁, mid, rfl, hlisted, htold⟩ := ih hpre hbefore
        refine ⟨pre₁, mid ++ [c], by simp, hlisted, fun rest => ?_⟩
        rw [← hlast, ← htold]
        simp
      · exact ⟨pre, [], rfl, hlisted, hlast⟩

end Runs

end AgpsManager
end LocHal
