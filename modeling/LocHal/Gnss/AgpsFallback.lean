import LocHal.Gnss.AgpsQueue

/-!
# Fallback from the emergency connection

When the data call for an emergency request cannot be had, `DSStateMachine` puts a request for a
normal connection on the queue, and the handle moves to `mAgnssNif`.  Where the data call is closed
while it is being set up, the subscribers are deleted as they are moved.  Where the start of the
data call fails, they are not, and come to be listed twice.

`always_oneMachine` says when every handle is listed by one machine at most: no start is given up at
once, nobody falls back who has been released, nobody is released while falling back, and no retry
is processed for a handle that has fallen back.
-/

namespace LocHal

namespace AgpsManager

section PassedTo

open AgpsStateMachine (sent Starts)
open DSStateMachine (queueing FallsBack)

variable {client : DSClient} {m : AgpsManager} {n : Nif} {c : AgpsStateMachine.Call}
  {result : AgpsManager × List AgpsOutput} {sm : AgpsStateMachine}

/-- The data call is closed or denied while it is being set up: all its subscribers fall back. -/
def Denies (m : AgpsManager) (n : Nif) (c : AgpsStateMachine.Call) : Prop :=
  n = .ds ∧ (c = .released ∨ c = .denied) ∧ (m.machineAt n).mState = .pending

instance (m : AgpsManager) (n : Nif) (c : AgpsStateMachine.Call) : Decidable (m.Denies n c) :=
  inferInstanceAs (Decidable (n = .ds ∧ (c = .released ∨ c = .denied) ∧
    (m.machineAt n).mState = .pending))

lemma sent_queueing (sm : AgpsStateMachine) (c : AgpsStateMachine.Call) :
    sm.sent queueing c = if c = .denied ∧ sm.mState = .pending then
      sm.mSubscriberList.map fun s => (s.mConnHandle, .supl) else [] := by
  have hflat : ∀ event, event ≠ .denied → ∀ l : List AgpsSubscriber,
      l.flatMap (queueing event) = [] := by
    intro event hne l
    simp [queueing, hne]
  cases c with
  | subscribe | dropAllSubscribers => simp [sent, queueing]
  | unsubscribe connHandle =>
      simp only [sent, queueing]
      cases sm.getSubscriber connHandle with
      | none => simp
      | some s => simp
  | granted => simp [sent, hflat]
  | released => cases hst : sm.mState <;> simp [sent, hst, hflat]
  | denied =>
      cases hst : sm.mState with
      | pending =>
          simp only [sent, hst, and_self, if_true]
          exact List.map_eq_flatMap.symm
      | released | acquired | releasing => simp [sent, hst, hflat]

lemma starts_translated (n : Nif) (sm : AgpsStateMachine) (c : AgpsStateMachine.Call) :
    sm.Starts (translated n sm c) ↔ sm.Starts c := by
  unfold translated
  split
  · rename_i hcase
    obtain ⟨-, rfl, -⟩ := hcase
    exact Iff.rfl
  · exact Iff.rfl

lemma same_starts (hs : (m.machineAt n).Same sm) (h : sm.Starts c) : (m.machineAt n).Starts c := by
  cases c with
  | subscribe connHandle wait => exact hs.mState.symm.trans h
  | released | denied => exact ⟨hs.mState.symm.trans h.1, hs.mSubscriberList ▸ h.2⟩
  | unsubscribe | granted | dropAllSubscribers => exact h.elim

/-- The call that falls back, as event processing sees it. -/
lemma denies_iff (hs : (m.machineAt n).Same sm) :
    m.Denies n c ↔ n = .ds ∧ translated n sm c = .denied ∧ sm.mState = .pending := by
  unfold Denies translated
  rw [← hs.mState]
  constructor
  · rintro ⟨rfl, rfl | rfl, hst⟩
    · simp [hst]
    · simp [hst]
  · rintro ⟨rfl, hc, hst⟩
    refine ⟨rfl, ?_, hst⟩
    split at hc
    · rename_i hcase
      exact .inl hcase.2.1
    · exact .inr hc

/-- **What a call puts on the queue**, when no start of a data call falls back: a normal request for
each subscriber of a data call that is denied. -/
lemma PassedTo.queued (hp : PassedTo client m n c result sm)
    (hstart : n = .ds → (m.machineAt .ds).Starts c →
      ¬ FallsBack client (m.machineAt .ds).mRetries) :
    result.2.filterMap AgpsOutput.queued = if m.Denies n c then
      (m.machineAt n).mSubscriberList.map fun s => (s.mConnHandle, .supl) else [] := by
  have hlawful := lawful_methodsAt client n
  rw [hp.outs]
  by_cases hn : n = .ds
  · subst hn
    have hmethods : methodsAt client .ds = DSStateMachine.methods client := if_pos rfl
    rw [hmethods] at hlawful ⊢
    rw [(DSStateMachine.sends_queueing client).filterMap_call hlawful, sent_queueing,
      hp.same.mSubscriberList]
    · simp only [denies_iff hp.same, true_and]
    · intro hs
      rw [hp.mRetries]
      exact hstart rfl (same_starts hp.same ((starts_translated .ds sm c).mp hs))
  · have hmethods : methodsAt client n = AgpsStateMachine.base := if_neg hn
    rw [hmethods] at hlawful ⊢
    rw [AgpsStateMachine.sends_queued_base.filterMap_call hlawful fun _ => trivial,
      if_neg fun hdenies => hn hdenies.1]
    exact AgpsStateMachine.sent_nil sm _

/-- Nobody is left of those who fall back. -/
lemma PassedTo.lists_of_denies (hp : PassedTo client m n c result sm) (hd : m.Denies n c) (h : ℤ) :
    ¬ (result.1.machineAt .ds).Lists h := by
  obtain ⟨rfl, hc, hst⟩ := (denies_iff hp.same).mp hd
  rw [AgpsStateMachine.Lists, hp.list, hc, AgpsStateMachine.listAfter, hst]
  rintro ⟨_, hs, -⟩
  exact List.not_mem_nil hs

end PassedTo

end AgpsManager

namespace AgpsQueue

open AgpsManager (PassedTo passedTo_call call_aside nifOf nifOf_eq_ds)
open DSStateMachine (FallsBack)

/-! ## One machine for each handle -/

/-- A handle is listed by one machine at most. -/
def OneMachine (q : AgpsQueue) : Prop :=
  ∀ h n n', (q.machineAt n).Lists h → (q.machineAt n').Lists h → n = n'

/-- The modem requests each handle with one type, and not while it holds it. -/
def ModemKeeps (typeOf : ℤ → AGpsExtType) (q : AgpsQueue) (e : Event) : Prop :=
  ∀ h agpsType, e = .requestATL h agpsType → agpsType = typeOf h ∧ h ∉ q.held

/-- The call that an event makes on `mDsNif`. -/
def dsCall (q : AgpsQueue) (e : Event) : Option AgpsStateMachine.Call :=
  match (e.call q).bind q.mAgpsManager.passed with
  | some (.ds, c) => some c
  | _ => none

/-- No start of a data call falls back; a data call is closed or denied in `PENDING` only while all
its subscribers are held; no handle is released while a request to fall back is queued for it; and
no retry is processed for a handle that has fallen back or is about to. -/
structure KeepsApart (q : AgpsQueue) (e : DSClient × Event) : Prop where
  starts : ∀ c, q.dsCall e.2 = some c → (q.machineAt .ds).Starts c →
    ¬ FallsBack e.1 (q.machineAt .ds).mRetries
  denied : ∀ c, q.dsCall e.2 = some c → q.mAgpsManager.Denies .ds c →
    ∀ s ∈ (q.machineAt .ds).mSubscriberList, s.mConnHandle ∈ q.held
  released : ∀ h, e.2 = .releaseATL h → (h, .supl) ∉ q.queue
  retried : ∀ h, e.2 = .nextMsg → q.queue.head? = some (h, .suplEs) →
    ¬ (q.machineAt .agnss).Lists h ∧ (h, .supl) ∉ q.queue

/-- What is known of every state: each machine lists the handles of its types, `mAgnssNif` also
those that have fallen back; only emergency handles are queued; who has fallen back, or is about to,
is held, and is not listed by `mDsNif`. -/
structure Apart (typeOf : ℤ → AGpsExtType) (q : AgpsQueue) : Prop where
  kept : q.Kept
  ds : ∀ h, (q.machineAt .ds).Lists h → typeOf h = .suplEs
  internet : ∀ h, (q.machineAt .internet).Lists h → nifOf (typeOf h) = .internet
  agnss : ∀ h, (q.machineAt .agnss).Lists h →
    nifOf (typeOf h) = .agnss ∨ (typeOf h = .suplEs ∧ h ∈ q.held)
  queue : ∀ msg ∈ q.queue, typeOf msg.1 = .suplEs ∧ (msg.2 = .supl ∨ msg.2 = .suplEs)
  fallback : ∀ h, (h, .supl) ∈ q.queue → h ∈ q.held
  apart : ∀ h, (q.machineAt .ds).Lists h →
    ¬ (q.machineAt .agnss).Lists h ∧ (h, .supl) ∉ q.queue

section Apart

variable {typeOf : ℤ → AGpsExtType} {q q' : AgpsQueue} {client : DSClient} {e : Event}
  {c : AgpsManager.Call} {n : Nif} {c' : AgpsStateMachine.Call} {sm : AgpsStateMachine}
  {result : AgpsManager × List AgpsOutput}

lemma apart_init (typeOf : ℤ → AGpsExtType) : init.Apart typeOf where
  kept := kept_init
  ds _ hl := by
    obtain ⟨s, hs, -⟩ := hl
    cases hs
  internet _ hl := by
    obtain ⟨s, hs, -⟩ := hl
    cases hs
  agnss _ hl := by
    obtain ⟨s, hs, -⟩ := hl
    cases hs
  queue _ hmsg := by cases hmsg
  fallback _ hmsg := by cases hmsg
  apart _ hl := by
    obtain ⟨s, hs, -⟩ := hl
    cases hs

/-- **Apart means one machine.** -/
lemma Apart.oneMachine (hq : q.Apart typeOf) : q.OneMachine := by
  have hds : ∀ {h}, (q.machineAt .ds).Lists h → nifOf (typeOf h) = .ds :=
    fun hl => nifOf_eq_ds.mpr (hq.ds _ hl)
  have hagnss : ∀ {h}, (q.machineAt .agnss).Lists h → nifOf (typeOf h) ≠ .internet := by
    intro h hl heq
    rcases hq.agnss h hl with htype | ⟨htype, -⟩
    · cases heq.symm.trans htype
    · cases heq.symm.trans (nifOf_eq_ds.mpr htype)
  intro h n n' hl hl'
  cases n with
  | agnss =>
      cases n' with
      | agnss => rfl
      | internet => exact absurd (hq.internet h hl') (hagnss hl)
      | ds => exact absurd hl (hq.apart h hl').1
  | internet =>
      cases n' with
      | agnss => exact absurd (hq.internet h hl) (hagnss hl')
      | internet => rfl
      | ds => cases (hq.internet h hl).symm.trans (hds hl')
  | ds =>
      cases n' with
      | agnss => exact absurd hl' (hq.apart h hl).1
      | internet => cases (hq.internet h hl').symm.trans (hds hl)
      | ds => rfl

/-- What is to be shown of an event after which the machine `n` may list the handles `new` that it
did not list before. -/
lemma Apart.after (hq : q.Apart typeOf) (hkept : q'.Kept) (new : Nif → ℤ → Prop)
    (hlists : ∀ n h, (q'.machineAt n).Lists h → (q.machineAt n).Lists h ∨ new n h)
    (hds : ∀ h, new .ds h → typeOf h = .suplEs ∧ ¬ (q'.machineAt .agnss).Lists h ∧
      (h, .supl) ∉ q'.queue)
    (hinternet : ∀ h, new .internet h → nifOf (typeOf h) = .internet)
    (hagnss : ∀ h, new .agnss h →
      (nifOf (typeOf h) = .agnss ∨ (typeOf h = .suplEs ∧ h ∈ q'.held)) ∧
        ¬ (q'.machineAt .ds).Lists h)
    (hheld : ∀ h ∈ q.held, h ∈ q'.held ∨
      (¬ (q'.machineAt .agnss).Lists h ∧ (h, .supl) ∉ q'.queue))
    (hqueue : ∀ msg ∈ q'.queue, msg ∈ q.queue ∨ (typeOf msg.1 = .suplEs ∧ (msg.2 = .suplEs ∨
      (msg.2 = .supl ∧ msg.1 ∈ q'.held ∧ ¬ (q'.machineAt .ds).Lists msg.1)))) :
    q'.Apart typeOf where
  kept := hkept
  ds h hl := by
    rcases hlists .ds h hl with hold | hnew
    · exact hq.ds h hold
    · exact (hds h hnew).1
  internet h hl := by
    rcases hlists .internet h hl with hold | hnew
    · exact hq.internet h hold
    · exact hinternet h hnew
  agnss h hl := by
    rcases hlists .agnss h hl with hold | hnew
    · refine (hq.agnss h hold).imp_right fun ⟨htype, hmem⟩ => ⟨htype, ?_⟩
      rcases hheld h hmem with hmem' | ⟨hgone, -⟩
      · exact hmem'
      · exact absurd hl hgone
    · exact (hagnss h hnew).1
  queue msg hmsg := by
    rcases hqueue msg hmsg with hold | ⟨htype, hes | ⟨hsupl, -⟩⟩
    · exact hq.queue msg hold
    · exact ⟨htype, .inr hes⟩
    · exact ⟨htype, .inl hsupl⟩
  fallback h hmsg := by
    rcases hqueue _ hmsg with hold | ⟨-, hes | ⟨-, hmem, -⟩⟩
    · rcases hheld h (hq.fallback h hold) with hmem | ⟨-, hnot⟩
      · exact hmem
      · exact absurd hmsg hnot
    · cases hes
    · exact hmem
  apart h hl := by
    rcases hlists .ds h hl with hold | hnew
    · obtain ⟨hnot, hnotmsg⟩ := hq.apart h hold
      constructor
      · intro hl'
        rcases hlists .agnss h hl' with hold' | hnew'
        · exact hnot hold'
        · exact (hagnss h hnew').2 hl
      · intro hmsg
        rcases hqueue _ hmsg with hold' | ⟨-, hes | ⟨-, -, hgone⟩⟩
        · exact hnotmsg hold'
        · cases hes
        · exact hgone hl
    · exact (hds h hnew).2

/-- An event that calls a machine without a start that falls back: what it puts on the queue. -/
lemma queue_after (hc : e.call q = some c)
    (hp : PassedTo client q.mAgpsManager n c' (AgpsManager.call conf client q.mAgpsManager c) sm)
    (hpassed : q.mAgpsManager.passed c = some (n, c')) (hkeeps : q.KeepsApart (client, e)) :
    (machine.next q (client, e)).queue = (e.before q).queue ++
      if q.mAgpsManager.Denies n c' then
        (q.machineAt n).mSubscriberList.map fun s => (s.mConnHandle, .supl) else [] := by
  have hds : n = .ds → q.dsCall e = some c' := by
    rintro rfl
    rw [dsCall, hc, Option.bind_some, hpassed]
  rw [next_of_call hc]
  exact congrArg _ (hp.queued fun hn => hkeeps.starts c' (hds hn))

/-- An event that calls a machine: what is to be shown of a new subscriber and of who is held no
longer. -/
lemma Apart.passed (hq : q.Apart typeOf) (hc : e.call q = some c)
    (hpassed : q.mAgpsManager.passed c = some (n, c')) (hkeeps : q.KeepsApart (client, e))
    (hbefore : (e.before q).queue ⊆ q.queue)
    (hds : ∀ h wait, c' = .subscribe h wait → n = .ds →
      typeOf h = .suplEs ∧ ¬ (q.machineAt .agnss).Lists h ∧ (h, .supl) ∉ (e.before q).queue)
    (hinternet : ∀ h wait, c' = .subscribe h wait → n = .internet → nifOf (typeOf h) = .internet)
    (hagnss : ∀ h wait, c' = .subscribe h wait → n = .agnss →
      (nifOf (typeOf h) = .agnss ∨ (typeOf h = .suplEs ∧ h ∈ (e.before q).held)) ∧
        ¬ (q.machineAt .ds).Lists h)
    (hheld : ∀ h ∈ q.held, h ∈ (e.before q).held ∨
      (¬ ((machine.next q (client, e)).machineAt .agnss).Lists h ∧
        (h, .supl) ∉ (machine.next q (client, e)).queue)) :
    (machine.next q (client, e)).Apart typeOf := by
  obtain ⟨sm, hp⟩ := passedTo_call client hq.kept.present hpassed
  have hqueue := queue_after hc hp hpassed hkeeps
  have hnext : machine.next q (client, e) = _ := next_of_call hc
  have hat : ∀ n', (machine.next q (client, e)).machineAt n' =
      (AgpsManager.call conf client q.mAgpsManager c).1.machineAt n' := fun n' => by
    rw [hnext]
    rfl
  have hheld' : (machine.next q (client, e)).held = (e.before q).held := by
    rw [hnext]
    rfl
  have hnotDenies : ∀ {h wait}, c' = .subscribe h wait → ¬ q.mAgpsManager.Denies n c' := by
    rintro h wait rfl ⟨-, hcase | hcase, -⟩ <;> cases hcase
  refine hq.after (hq.kept.next (client, e)) (fun n' h => n' = n ∧ ∃ wait, c' = .subscribe h wait)
    (fun n' h hl => ?_) ?_ ?_ ?_ ?_ (fun msg hmsg => ?_)
  · rw [hat] at hl
    exact hp.lists hl
  · rintro h ⟨rfl, wait, hsubscribe⟩
    obtain ⟨htype, hnot, hnotmsg⟩ := hds h wait hsubscribe rfl
    refine ⟨htype, ?_, ?_⟩
    · rw [hat, hp.others .agnss (by simp)]
      exact hnot
    · rw [hqueue, if_neg (hnotDenies hsubscribe), List.append_nil]
      exact hnotmsg
  · rintro h ⟨rfl, wait, hsubscribe⟩
    exact hinternet h wait hsubscribe rfl
  · rintro h ⟨rfl, wait, hsubscribe⟩
    rw [hheld', hat, hp.others .ds (by simp)]
    exact hagnss h wait hsubscribe rfl
  · rw [hheld']
    exact hheld
  · rw [hqueue] at hmsg
    rcases List.mem_append.mp hmsg with hold | hnew
    · exact .inl (hbefore hold)
    · right
      split at hnew
      · rename_i hdenies
        obtain ⟨s, hs, rfl⟩ := List.mem_map.mp hnew
        obtain rfl := hdenies.1
        have hdsCall : q.dsCall e = some c' := by
          rw [dsCall, hc, Option.bind_some, hpassed]
        refine ⟨hq.ds _ ⟨s, hs, rfl⟩, .inr ⟨rfl, ?_, ?_⟩⟩
        · rcases hheld _ (hkeeps.denied c' hdsCall hdenies s hs) with hmem | ⟨-, hnot⟩
          · rw [hheld']
            exact hmem
          · rw [hqueue] at hnot
            exact absurd hmsg hnot
        · rw [hat]
          exact hp.lists_of_denies hdenies _
      · cases hnew

/-- A report subscribes nobody and releases nobody. -/
lemma Apart.report (hq : q.Apart typeOf) (hc : e.call q = some c)
    (hpassed : q.mAgpsManager.passed c = some (n, c')) (hkeeps : q.KeepsApart (client, e))
    (hbefore : e.before q = q) (hreport : ∀ h wait, c' ≠ .subscribe h wait) :
    (machine.next q (client, e)).Apart typeOf := by
  refine hq.passed hc hpassed hkeeps ?_ ?_ ?_ ?_ ?_
  · rw [hbefore]
    exact List.Subset.refl _
  · exact fun h wait hsubscribe => absurd hsubscribe (hreport h wait)
  · exact fun h wait hsubscribe => absurd hsubscribe (hreport h wait)
  · exact fun h wait hsubscribe => absurd hsubscribe (hreport h wait)
  · rw [hbefore]
    exact fun h hmem => .inl hmem

/-- A request of the modem. -/
lemma Apart.requestATL (hq : q.Apart typeOf) {h : ℤ} {agpsType : AGpsExtType}
    (htype : agpsType = typeOf h) (hnew : h ∉ q.held)
    (hkeeps : q.KeepsApart (client, .requestATL h agpsType)) :
    (machine.next q (client, .requestATL h agpsType)).Apart typeOf := by
  refine hq.passed rfl rfl hkeeps (List.Subset.refl _) ?_ ?_ ?_ ?_
  · intro h' wait hsubscribe hds
    cases hsubscribe
    have htypeOf : typeOf h = .suplEs := htype ▸ nifOf_eq_ds.mp hds
    refine ⟨htypeOf, fun hl => ?_, fun hmsg => hnew (hq.fallback h hmsg)⟩
    rcases hq.agnss h hl with hagnss | ⟨-, hmem⟩
    · rw [htypeOf] at hagnss
      cases hagnss
    · exact hnew hmem
  · intro h' wait hsubscribe hinternet
    cases hsubscribe
    exact htype ▸ hinternet
  · intro h' wait hsubscribe hagnss
    cases hsubscribe
    have hnif : nifOf (typeOf h) = .agnss := htype ▸ hagnss
    refine ⟨.inl hnif, fun hl => ?_⟩
    rw [hq.ds h hl] at hnif
    cases hnif
  · exact fun h' hmem => .inl (List.mem_cons_of_mem _ hmem)

/-- A handle that is released is no longer listed by `mAgnssNif`. -/
lemma Apart.not_agnss_of_release (hq : q.Apart typeOf) (client : DSClient) (h : ℤ) :
    ¬ ((machine.next q (client, .releaseATL h)).machineAt .agnss).Lists h := by
  have hnext : machine.next q (client, .releaseATL h) = _ := next_of_call rfl
  intro hl
  rw [hnext] at hl
  have hl' : ((AgpsManager.call conf client q.mAgpsManager (.releaseATL h)).1.machineAt
    .agnss).Lists h := hl
  rcases AgpsManager.passed_releaseATL q.mAgpsManager h with
    ⟨n, hpassed, hlists, -⟩ | ⟨hpassed, hnone⟩
  · obtain ⟨sm, hp⟩ := passedTo_call client hq.kept.present hpassed
    have hold : (q.machineAt .agnss).Lists h := by
      rcases hp.lists hl' with hold | ⟨-, wait, hsubscribe⟩
      · exact hold
      · cases hsubscribe
    -- it is the one machine that lists the handle, and deletes it
    obtain rfl := hq.oneMachine h n .agnss hlists hold
    have hclosed : h ∈ (q.machineAt .agnss).closedBy (.unsubscribe h) :=
      (mem_closedBy_unsubscribe hq.kept hold).mpr ⟨rfl, by simp⟩
    have hst := (hp.closed_lists_iff (hq.kept.tidy .agnss) hclosed).mp hl'
    exact mState_of_lists hq.kept (by simp) hold hst
  · obtain ⟨hsame, -, -⟩ := call_aside client hpassed (by simp) (by simp)
    rw [hsame] at hl'
    exact hnone .agnss hl'

/-- The retry's request is for a subscriber of `mDsNif`. -/
lemma Apart.retried (hq : q.Apart typeOf) {msg : ℤ × AGpsExtType}
    (hmsg : msg ∈ ((q.mAgpsManager.mDsNif.map DSStateMachine.retryCallback).getD []).filterMap
      AgpsOutput.queued) : typeOf msg.1 = .suplEs ∧ msg.2 = .suplEs := by
  have hds : q.mAgpsManager.mDsNif = some (q.machineAt .ds) := hq.kept.present.nif .ds
  rw [hds, Option.map_some, Option.getD_some, DSStateMachine.retryCallback] at hmsg
  split at hmsg
  · rename_i s hs
    obtain rfl := List.mem_singleton.mp hmsg
    exact ⟨hq.ds _ ⟨s, List.mem_of_find?_eq_some hs, rfl⟩, rfl⟩
  · cases hmsg

/-- An event that calls no machine. -/
lemma Apart.aside (hq : q.Apart typeOf) (hc : e.call q = some c)
    (hpassed : q.mAgpsManager.passed c = none) (hbefore : (e.before q).queue = q.queue)
    (hheld : ∀ h ∈ q.held, h ∈ (e.before q).held ∨
      (¬ (q.machineAt .agnss).Lists h ∧ (h, .supl) ∉ q.queue)) :
    (machine.next q (client, e)).Apart typeOf := by
  obtain ⟨hsame, -, hqueued⟩ := call_aside client hpassed (call_ne hc).1 (call_ne hc).2
  have hkept := hq.kept.next (client, e)
  rw [next_of_call hc] at hkept ⊢
  have hmsgs : ∀ msg ∈ (absorb client (e.before q)
      (AgpsManager.call conf client q.mAgpsManager c)).queue,
      msg ∈ q.queue ∨ (typeOf msg.1 = .suplEs ∧ msg.2 = .suplEs) := by
    intro msg hmsg
    rcases List.mem_append.mp hmsg with hold | hnew
    · exact .inl (hbefore ▸ hold)
    · right
      rw [hqueued] at hnew
      split at hnew
      · exact hq.retried hnew
      · cases hnew
  refine hq.after hkept (fun _ _ => False) (fun n h hl => ?_) (fun _ => False.elim)
    (fun _ => False.elim) (fun _ => False.elim) (fun h hmem => ?_) (fun msg hmsg => ?_)
  · rw [machineAt, absorb, hsame] at hl
    exact .inl hl
  · rcases hheld h hmem with hkept | ⟨hnot, hnotmsg⟩
    · exact .inl hkept
    · refine .inr ⟨?_, fun hmsg => ?_⟩
      · rw [machineAt, absorb, hsame]
        exact hnot
      · rcases hmsgs _ hmsg with hold | ⟨-, hes⟩
        · exact hnotmsg hold
        · cases hes
  · rcases hmsgs msg hmsg with hold | ⟨htype, hes⟩
    · exact .inl hold
    · exact .inr ⟨htype, .inl hes⟩

/-- A release. -/
lemma Apart.releaseATL (hq : q.Apart typeOf) {h : ℤ}
    (hkeeps : q.KeepsApart (client, .releaseATL h)) :
    (machine.next q (client, .releaseATL h)).Apart typeOf := by
  have hnotmsg := hkeeps.released h rfl
  have hheld : ∀ h' ∈ q.held, h' ≠ h → h' ∈ (Event.before q (.releaseATL h)).held :=
    fun h' hmem hne => List.mem_filter.mpr ⟨hmem, decide_eq_true hne⟩
  rcases AgpsManager.passed_releaseATL q.mAgpsManager h with ⟨n, hpassed, -⟩ | ⟨hpassed, hnone⟩
  · obtain ⟨sm, hp⟩ := passedTo_call client hq.kept.present hpassed
    have hqueue := queue_after (e := .releaseATL h) rfl hp hpassed hkeeps
    have hnotDenies : ¬ q.mAgpsManager.Denies n (.unsubscribe h) := by
      rintro ⟨-, hcase | hcase, -⟩ <;> cases hcase
    rw [if_neg hnotDenies, List.append_nil] at hqueue
    refine hq.passed rfl hpassed hkeeps (List.Subset.refl _) ?_ ?_ ?_ (fun h' hmem => ?_)
    · exact fun h' wait hsubscribe => by cases hsubscribe
    · exact fun h' wait hsubscribe => by cases hsubscribe
    · exact fun h' wait hsubscribe => by cases hsubscribe
    · by_cases hne : h' = h
      · subst hne
        right
        rw [hqueue]
        exact ⟨hq.not_agnss_of_release client h', hnotmsg⟩
      · exact .inl (hheld h' hmem hne)
  · refine hq.aside rfl hpassed rfl fun h' hmem => ?_
    by_cases hne : h' = h
    · subst hne
      exact .inr ⟨hnone .agnss, hnotmsg⟩
    · exact .inl (hheld h' hmem hne)

/-- The processing of a queued request. -/
lemma Apart.nextMsg (hq : q.Apart typeOf) (hkeeps : q.KeepsApart (client, .nextMsg)) :
    (machine.next q (client, .nextMsg)).Apart typeOf := by
  cases hhead : q.queue.head? with
  | none =>
      rw [next_of_none (call_nextMsg_none hhead)]
      exact hq
  | some msg =>
      have hmem : msg ∈ q.queue := List.mem_of_head? hhead
      have htail : q.queue.tail ⊆ q.queue := List.tail_subset _
      obtain ⟨htype, hcases⟩ := hq.queue msg hmem
      refine hq.passed (call_nextMsg hhead) rfl hkeeps htail ?_ ?_ ?_ (fun h hmem => .inl hmem)
      · intro h wait hsubscribe hds
        cases hsubscribe
        have hes : msg.2 = .suplEs := nifOf_eq_ds.mp hds
        obtain ⟨hnot, hnotmsg⟩ := hkeeps.retried msg.1 rfl (hes ▸ hhead)
        exact ⟨htype, hnot, fun hmsg => hnotmsg (htail hmsg)⟩
      · intro h wait hsubscribe hinternet
        rcases hcases with hsupl | hes
        · rw [hsupl] at hinternet
          cases hinternet
        · rw [hes] at hinternet
          cases hinternet
      · intro h wait hsubscribe hagnss
        cases hsubscribe
        have hsupl : msg.2 = .supl := by
          rcases hcases with hsupl | hes
          · exact hsupl
          · rw [hes] at hagnss
            cases hagnss
        have hqueued : (msg.1, AGpsExtType.supl) ∈ q.queue := hsupl ▸ hmem
        exact ⟨.inr ⟨htype, hq.fallback msg.1 hqueued⟩, fun hl => (hq.apart msg.1 hl).2 hqueued⟩

/-- **Every event that keeps apart what has fallen back keeps the machines apart.** -/
lemma Apart.next (hq : q.Apart typeOf) (hmodem : q.ModemKeeps typeOf e)
    (hkeeps : q.KeepsApart (client, e)) : (machine.next q (client, e)).Apart typeOf := by
  cases e with
  | requestATL h agpsType =>
      obtain ⟨htype, hnew⟩ := hmodem h agpsType rfl
      exact hq.requestATL htype hnew hkeeps
  | releaseATL h => exact hq.releaseATL hkeeps
  | reportDataCallOpened | reportDataCallClosed | reportAtlOpenSuccess | reportAtlOpenFailed
  | reportAtlClosed => exact hq.report rfl rfl hkeeps rfl (by simp)
  | retryTimerExpired =>
      rcases call_retryTimerExpired q with hcall | hcall
      · rw [next_of_none hcall]
        exact hq
      · exact hq.aside hcall rfl rfl fun h hmem => .inl hmem
  | nextMsg => exact hq.nextMsg hkeeps

end Apart

/-- **One machine for each handle**, whenever the queue is empty, in every run in which the modem
keeps to its types and handles and every event keeps apart what has fallen back. -/
theorem always_oneMachine (typeOf : ℤ → AGpsExtType) (events : List (DSClient × Event))
    (hs : machine.Steps (fun q e => q.ModemKeeps typeOf e.2 ∧ q.KeepsApart e) init events) :
    machine.Always (fun q => q.queue = [] → q.OneMachine) init events := by
  have hapart : machine.Always (Apart typeOf) init events :=
    Machine.always_of_steps (fun _ _ hq hs => hq.next hs.1 hs.2) (apart_init typeOf) hs
  exact hapart.mono fun _ hq _ => hq.oneMachine

/-- The data call of an emergency request is closed while it is being set up, and the handle moves
to `mAgnssNif`. -/
theorem always_oneMachine_fallback :
    let client : DSClient := ⟨true, some 0, true⟩
    let events : List (DSClient × Event) :=
      [(client, .requestATL 1 .suplEs), (client, .reportDataCallClosed), (client, .nextMsg)]
    machine.Steps (fun q e => q.ModemKeeps (fun _ => .suplEs) e.2 ∧ q.KeepsApart e) init events ∧
      machine.Always (fun q => q.queue = [] → q.OneMachine) init events := by
  intro client events
  have hstart : ∀ mRetries, ¬ FallsBack client mRetries := by
    simp [FallsBack, client, DSStateMachine.errUnsupported, DSStateMachine.errEngineBusy]
  have hs : machine.Steps (fun q e => q.ModemKeeps (fun _ => .suplEs) e.2 ∧ q.KeepsApart e)
      init events := by
    refine ⟨⟨?_, ?_⟩, ⟨?_, ?_⟩, ⟨?_, ?_⟩, trivial⟩
    · rintro h agpsType heq
      cases heq
      exact ⟨rfl, by decide⟩
    · refine ⟨fun _ _ _ => hstart _, ?_, nofun, nofun⟩
      rintro c hc ⟨-, rfl | rfl, -⟩ <;> cases hc
    · exact fun h agpsType heq => by cases heq
    · refine ⟨fun _ _ _ => hstart _, ?_, nofun, nofun⟩
      intro c _ _
      decide
    · exact fun h agpsType heq => by cases heq
    · refine ⟨fun _ _ _ => hstart _, ?_, nofun, ?_⟩
      · rintro c hc
        cases hc
      · intro h _ hhead
        cases hhead
  exact ⟨hs, always_oneMachine _ events hs⟩

/-- There is no emergency profile: the request falls back, and two machines list the handle. -/
theorem handle_listed_twice :
    let client : DSClient := ⟨true, some DSStateMachine.errUnsupported, true⟩
    let events : List (DSClient × Event) := [(client, .requestATL 1 .suplEs), (client, .nextMsg)]
    machine.Steps (fun q e => q.ModemKeeps (fun _ => .suplEs) e.2) init events ∧
      ¬ machine.Always (fun q => q.queue = [] → q.OneMachine) init events := by
  intro client events
  constructor
  · refine ⟨?_, ?_, trivial⟩
    · rintro h agpsType heq
      cases heq
      exact ⟨rfl, by decide⟩
    · exact fun h agpsType heq => by cases heq
  · rintro ⟨-, -, hone⟩
    have htwice := hone (by decide) 1 .agnss .ds (by decide) (by decide)
    cases htwice

end AgpsQueue

end LocHal
