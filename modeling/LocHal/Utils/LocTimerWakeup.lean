import LocHal.Utils.LocTimer

/-!
# No missed wake-up

The timer fd is armed and polled only when the top of the heap changes, and the poll thread disarms
it and takes it out of the poll set without looking at the heap.  `no_missed_wakeup` shows that no
timer is forgotten on the way: whenever the heap is not empty, the fd is armed for its top and
polled, or a `MsgTimerExpire`, which ends with arming it anew, is still to come.
-/

namespace LocHal
namespace LocTimerContainer

/-- The poll thread is inside `LocTimerContainer::expire` and about to queue a message. -/
def PollTaskInExpire (s : LocTimerContainer) : Prop :=
  s.pollTask = .disarmed ∨ s.pollTask = .unpolled

/-- A `MsgTimerExpire` is being handled. -/
def HandlesExpire (s : LocTimerContainer) : Prop :=
  match s.msgTask with
  | .idle => False
  | .updating inExpire _ => inExpire = true
  | .popping _ => True
  | .expiring _ _ _ => True

/-- If there is a timer, then the soonest one will wake the poll thread, or a `MsgTimerExpire` is
queued, or being handled, or about to be queued. -/
def NoMissedWakeup (s : LocTimerContainer) : Prop :=
  ∀ top, s.getSoonestTimer = some top →
    (s.armed = some top.mFutureTime ∧ s.polled = true) ∨
      (.expire ∈ s.queue ∨ s.HandlesExpire) ∨ s.PollTaskInExpire

/-! ## The invariant -/

section Invariant

variable {s s' : LocTimerContainer}

/-- A `MsgTimerExpire` is to come after the message being handled. -/
def ExpireToCome (s : LocTimerContainer) : Prop := .expire ∈ s.queue ∨ s.PollTaskInExpire

/-- What the `MsgTask` thread relies on.  In the middle of `updateSoonestTime` the calls left are
those that arm the fd for the top; once it has been put in the poll set, it stays there unless the
poll thread is on its way to queue a message. -/
def Attended (s : LocTimerContainer) : Prop :=
  match s.msgTask with
  | .idle => ∀ top, s.getSoonestTimer = some top →
      (s.armed = some top.mFutureTime ∧ s.polled = true) ∨ s.ExpireToCome
  | .updating _ calls => ∃ top, s.getSoonestTimer = some top ∧
      (calls = [.addPoll, .settime top.mFutureTime] ∨
        calls = [.settime top.mFutureTime] ∧ (s.polled = true ∨ s.ExpireToCome))
  | .popping _ => True
  | .expiring _ _ _ => True

/-- Steps of others: they leave the heap and the `MsgTask` thread alone, and what they do to the fd
comes with a `MsgTimerExpire`. -/
lemma Attended.frame (h : s.Attended) (hheap : s'.heap = s.heap) (htask : s'.msgTask = s.msgTask)
    (hfd : s'.ExpireToCome ∨
      s'.armed = s.armed ∧ s'.polled = s.polled ∧ (s.ExpireToCome → s'.ExpireToCome)) :
    s'.Attended := by
  have hcome : s.ExpireToCome → s'.ExpireToCome := by
    rcases hfd with hcome | ⟨-, -, hcome⟩
    · exact fun _ => hcome
    · exact hcome
  unfold Attended at h ⊢
  rw [htask]
  simp only [getSoonestTimer, hheap]
  cases hst : s.msgTask with
  | idle =>
      simp only [hst] at h ⊢
      intro top htop
      rcases h top htop with ⟨harmed, hpolled⟩ | hc
      · rcases hfd with hc | ⟨harmed', hpolled', -⟩
        · exact .inr hc
        · exact .inl ⟨harmed'.trans harmed, hpolled'.trans hpolled⟩
      · exact .inr (hcome hc)
  | updating inExpire calls =>
      simp only [hst] at h ⊢
      obtain ⟨top, htop, hcalls | ⟨hcalls, hpolled⟩⟩ := h
      · exact ⟨top, htop, .inl hcalls⟩
      · refine ⟨top, htop, .inr ⟨hcalls, ?_⟩⟩
        rcases hpolled with hpolled | hc
        · rcases hfd with hc | ⟨-, hpolled', -⟩
          · exact .inr hc
          · exact .inl (hpolled'.trans hpolled)
        · exact .inr (hcome hc)
  | popping | expiring => trivial

/-- The calls of `updateSoonestTime(NULL)` arm the fd for the top, if there is one. -/
lemma attended_update_none (s : LocTimerContainer) (inExpire : Bool) :
    (s.goOn inExpire (s.updateSoonestTime none)).Attended := by
  unfold updateSoonestTime
  cases htop : s.getSoonestTimer with
  | none =>
      intro top htop'
      rw [show (s.goOn inExpire _).getSoonestTimer = s.getSoonestTimer from rfl, htop] at htop'
      cases htop'
  | some top => exact ⟨top, htop, .inl rfl⟩

lemma updateSoonestTime_of_eq {priorTop : Option LocTimerDelegate}
    (h : s.getSoonestTimer = priorTop) : s.updateSoonestTime priorTop = [] :=
  if_pos h

lemma updateSoonestTime_of_outRanks {top : LocTimerDelegate} {priorTop : Option LocTimerDelegate}
    (htop : s.getSoonestTimer = some top) (hne : s.getSoonestTimer ≠ priorTop)
    (hrank : ∀ prior ∈ priorTop, outRanks top prior) :
    s.updateSoonestTime priorTop = [.addPoll, .settime top.mFutureTime] := by
  unfold updateSoonestTime
  rw [if_neg hne, htop]
  cases priorTop with
  | none => rfl
  | some prior => exact if_pos (hrank prior rfl)

lemma Attended.of_idle (h : s.Attended) (htask : s.msgTask = .idle) :
    ∀ top, s.getSoonestTimer = some top →
      (s.armed = some top.mFutureTime ∧ s.polled = true) ∨ s.ExpireToCome := by
  unfold Attended at h
  rw [htask] at h
  exact h

/-- A push that changes the top arms the fd for the new one; any other leaves things as they are. -/
lemma attended_procPush (htask : s.msgTask = .idle) (h : s.Attended) (timer : LocTimerDelegate) :
    (s.procPush timer).Attended := by
  let s' : LocTimerContainer := { s with heap := s.heap.push timer }
  have hpeek : s'.getSoonestTimer = some
      (s.getSoonestTimer.elim timer fun d => if outRanks timer d then timer else d) :=
    LocHeapNode.data?_push s.heap.mTree timer
  show (s'.goOn false (s'.updateSoonestTime s.getSoonestTimer)).Attended
  by_cases hsame : s'.getSoonestTimer = s.getSoonestTimer
  · rw [updateSoonestTime_of_eq hsame]
    intro top htop
    exact h.of_idle htask top (hsame.symm.trans htop)
  · cases hprior : s.getSoonestTimer with
    | none =>
        rw [hprior] at hpeek hsame
        rw [updateSoonestTime_of_outRanks hpeek hsame (by simp)]
        exact ⟨timer, hpeek, .inl rfl⟩
    | some prior =>
        rw [hprior] at hpeek hsame
        simp only [Option.elim] at hpeek
        by_cases hrank : outRanks timer prior
        · rw [if_pos hrank] at hpeek
          rw [updateSoonestTime_of_outRanks hpeek hsame (by simpa using hrank)]
          exact ⟨timer, hpeek, .inl rfl⟩
        · rw [if_neg hrank] at hpeek
          exact absurd hpeek hsame

/-- A removal updates the fd if it takes out the top, and otherwise leaves the top where it is. -/
lemma attended_procRemove (htask : s.msgTask = .idle) (h : s.Attended) (timer : LocTimerDelegate) :
    (s.procRemove timer).Attended := by
  unfold procRemove
  simp only []
  split
  · exact attended_update_none _ _
  · rename_i hne
    have hpeek : (s.heap.remove timer).1.peek = s.heap.peek := LocHeap.peek_remove hne
    intro top htop
    exact h.of_idle htask top (hpeek.symm.trans htop)

lemma attended_procPopped (s : LocTimerContainer) (now : Timespec)
    (popped : LocHeap LocTimerDelegate × Option LocTimerDelegate) :
    (s.procPopped now popped).1.Attended := by
  unfold procPopped
  simp only []
  split
  · trivial
  · exact attended_update_none _ _

/-- One of the calls of `updateSoonestTime`. -/
lemma attended_fdCall {inExpire : Bool} {c : FdCall} {calls : List FdCall}
    (htask : s.msgTask = .updating inExpire (c :: calls)) (h : s.Attended)
    (hpos : ∀ top, s.getSoonestTimer = some top → top.mFutureTime ≠ .zero) :
    ((s.fdCall c).goOn inExpire calls).Attended := by
  unfold Attended at h
  rw [htask] at h
  obtain ⟨top, htop, hcalls | ⟨hcalls, hpolled⟩⟩ := h
  · cases hcalls
    exact ⟨top, htop, .inr ⟨rfl, .inl rfl⟩⟩
  · cases hcalls
    intro top' htop'
    obtain rfl : top = top' := Option.some.inj (htop.symm.trans htop')
    have harmed : (s.fdCall (.settime top.mFutureTime)).armed = some top.mFutureTime :=
      if_neg (hpos top htop)
    rcases hpolled with hpolled | hcome
    · exact .inl ⟨harmed, hpolled⟩
    · exact .inr hcome

lemma attended_stop (h : s.Attended) (client : ℕ) : (s.stop client).Attended := by
  unfold stop
  split
  · exact h.frame rfl rfl (.inr ⟨rfl, rfl, Or.imp_left (List.mem_append_left _)⟩)
  · exact h

/-- Every step keeps the soonest timer attended to. -/
lemma attended_next (h : s.Attended)
    (hpos : ∀ top, s.getSoonestTimer = some top → top.mFutureTime ≠ .zero) (e : Event) :
    (machine.next s e).Attended := by
  cases e with
  | tick nanos => exact h.frame rfl rfl (.inr ⟨rfl, rfl, id⟩)
  | start client timeOutInMs =>
      simp only [Machine.next, machine, step, start]
      split
      · exact h.frame rfl rfl (.inr ⟨rfl, rfl, Or.imp_left (List.mem_append_left _)⟩)
      · exact h
  | stop client => exact attended_stop h client
  | pollTask =>
      simp only [Machine.next, machine, step, pollTaskStep]
      cases hpoll : s.pollTask with
      | polling =>
          simp only []
          split
          · refine h.frame rfl rfl (.inr ⟨rfl, rfl, ?_⟩)
            rintro (hqueue | hinside | hinside)
            · exact .inl hqueue
            · rw [hpoll] at hinside
              cases hinside
            · rw [hpoll] at hinside
              cases hinside
          · exact h
      | returned => exact h.frame rfl rfl (.inl (.inr (.inl rfl)))
      | disarmed => exact h.frame rfl rfl (.inl (.inr (.inr rfl)))
      | unpolled =>
          refine h.frame rfl rfl (.inl (.inl ?_))
          exact List.mem_append_right _ (List.mem_singleton_self _)
  | msgTask =>
      simp only [Machine.next, machine, step, msgTaskStep]
      cases htask : s.msgTask with
      | idle =>
          simp only []
          cases hqueue : s.queue with
          | nil => exact h
          | cons msg queue =>
              -- a message other than `MsgTimerExpire` leaves those that are queued
              have hrest : msg ≠ .expire → Attended { s with queue := queue } := by
                intro hne
                refine h.frame rfl rfl (.inr ⟨rfl, rfl, Or.imp_left fun hmem => ?_⟩)
                rw [hqueue] at hmem
                exact (List.mem_cons.mp hmem).resolve_left (Ne.symm hne)
              cases msg with
              | push timer =>
                  have hrest := hrest (by simp)
                  exact attended_procPush (s := { s with queue := queue }) htask hrest timer
              | remove timer =>
                  have hrest := hrest (by simp)
                  exact attended_procRemove (s := { s with queue := queue }) htask hrest timer
              | expire => exact attended_procPopped _ _ _
      | updating inExpire calls =>
          simp only []
          cases calls with
          | nil =>
              unfold Attended at h
              rw [htask] at h
              obtain ⟨top, -, hcalls | ⟨hcalls, -⟩⟩ := h
              · cases hcalls
              · cases hcalls
          | cons c calls => exact attended_fdCall htask h hpos
      | popping now => exact attended_procPopped _ _ _
      | expiring now timer client =>
          simp only []
          have htrivial : Attended { s with msgTask := .popping now } := trivial
          split
          · exact htrivial
          · split
            · exact attended_stop htrivial _
            · exact htrivial

end Invariant

/-! ## Every reachable state -/

/-- What holds in every reachable state: timers are due at times that a set clock shows, and the
soonest of them is attended to. -/
structure WakeupInvariant (s : LocTimerContainer) : Prop where
  clock : 0 < s.clock
  timers : AllTimers (fun t => 0 < t.mFutureTime.nanos) s
  attended : s.Attended

lemma wakeupInvariant_init {boot : ℕ} (hboot : 0 < boot) : (init boot).WakeupInvariant where
  clock := hboot
  timers := ⟨by simp [init], by simp [init]⟩
  attended := by
    intro top htop
    cases htop

lemma WakeupInvariant.next {s : LocTimerContainer} (h : s.WakeupInvariant) (e : Event) :
    (machine.next s e).WakeupInvariant where
  clock := h.clock.trans_le (clock_le_next s e)
  timers := by
    refine h.timers.next e fun t timeOutInMs htime => ?_
    rw [htime, Timespec.nanos_futureTime, Timespec.nanos_gettime]
    exact Nat.add_pos_left h.clock _
  attended := by
    refine attended_next h.attended (fun top htop => ?_) e
    exact Timespec.ne_zero_of_pos (h.timers.1 top (LocHeap.mem_elements_of_peek htop))

lemma WakeupInvariant.run {s : LocTimerContainer} (h : s.WakeupInvariant) (events : List Event) :
    (machine.run s events).WakeupInvariant :=
  Machine.run_of_steps (fun _ _ h _ => h.next _) h
    (Machine.steps_of_forall machine (fun _ _ => trivial) _ _)

/-- **No missed wake-up.** In every state that is reached while no push or removal is being handled,
a heap that is not empty has the fd armed with the deadline of its top and polled, or a
`MsgTimerExpire` is queued or being handled, or the poll thread is about to queue one.  While a push
or removal is being handled, this holds once it has made the system calls it has still to make. -/
theorem no_missed_wakeup (boot : ℕ) (hboot : 0 < boot) (events : List Event) :
    let s := machine.run (init boot) events
    ((∀ calls, s.msgTask ≠ .updating false calls) → s.NoMissedWakeup) ∧
      ∀ calls, s.msgTask = .updating false calls → (calls.foldl fdCall s).NoMissedWakeup := by
  intro s
  have hinv : s.WakeupInvariant := (wakeupInvariant_init hboot).run events
  have hattended := hinv.attended
  unfold Attended at hattended
  constructor
  · intro hnot top htop
    cases htask : s.msgTask with
    | idle =>
        rw [htask] at hattended
        rcases hattended top htop with hset | hqueue | hinside
        · exact .inl hset
        · exact .inr (.inl (.inl hqueue))
        · exact .inr (.inr hinside)
    | updating inExpire calls =>
        cases inExpire with
        | true => exact .inr (.inl (.inr (by simp [HandlesExpire, htask])))
        | false => exact absurd htask (hnot calls)
    | popping now => exact .inr (.inl (.inr (by simp [HandlesExpire, htask])))
    | expiring now timer client => exact .inr (.inl (.inr (by simp [HandlesExpire, htask])))
  · intro calls htask top' htop'
    rw [htask] at hattended
    obtain ⟨top, htop, hcalls⟩ := hattended
    have hpos : top.mFutureTime ≠ .zero :=
      Timespec.ne_zero_of_pos (hinv.timers.1 top (LocHeap.mem_elements_of_peek htop))
    have harmed : ∀ s' : LocTimerContainer, (s'.fdCall (.settime top.mFutureTime)).armed =
        some top.mFutureTime := fun s' => if_neg hpos
    rcases hcalls with rfl | ⟨rfl, hpolled⟩
    · obtain rfl : top = top' := Option.some.inj (htop.symm.trans htop')
      exact .inl ⟨harmed _, rfl⟩
    · obtain rfl : top = top' := Option.some.inj (htop.symm.trans htop')
      rcases hpolled with hpolled | hqueue | hinside
      · exact .inl ⟨harmed _, hpolled⟩
      · exact .inr (.inl (.inl hqueue))
      · exact .inr (.inr hinside)

/-- A timer has expired, the poll thread has disarmed the fd, and a second timer is pushed before it
goes on. -/
theorem no_missed_wakeup_second_timer :
    (machine.run (init 1)
      [.start 0 5, .msgTask, .msgTask, .msgTask, .start 1 9, .tick 5000000, .pollTask, .pollTask,
        .msgTask]).NoMissedWakeup := by
  refine (no_missed_wakeup 1 (by decide) _).1 fun calls htask => ?_
  have hidle : (machine.run (init 1)
      [.start 0 5, .msgTask, .msgTask, .msgTask, .start 1 9, .tick 5000000, .pollTask, .pollTask,
        .msgTask]).msgTask = .idle := by decide
  rw [hidle] at htask
  cases htask

end LocTimerContainer
end LocHal
