import LocHal.Utils.LocTimerWakeup

/-!
# An idle container

When no timer is left, nothing should wake the poll thread: `updateSoonestTime` means to disarm the
fd and to take it out of the poll set.  But a removal and an expiry hand it no prior top, and with
no timer left there is no change of the top to see.  After an expiry the poll thread has usually
done both already; after the removal of the last timer nobody has.

`always_quiet_iff`: the container is quiet whenever it is idle, exactly in the runs in which the
last timer is not removed with nothing left to come, and in which an expiry that leaves the heap
empty finds the fd as the poll thread has left it.
-/

namespace LocHal

/-- The timer that the message removes, if it is a removal. -/
def LocTimerMsg.removed? : LocTimerMsg → Option LocTimerDelegate
  | .remove timer => some timer
  | _ => none

/-- The thread is about to pop the next timer that has expired. -/
def MsgTask.isPopping : MsgTask → Bool
  | .popping _ => true
  | _ => false

namespace LocTimerContainer

/-- Neither a push nor an expiry is among the messages. -/
def NoneToCome (queue : List LocTimerMsg) : Prop := ∀ msg ∈ queue, msg.removed?.isSome

instance (queue : List LocTimerMsg) : Decidable (NoneToCome queue) :=
  inferInstanceAs (Decidable (∀ msg ∈ queue, _))

/-- There is no timer, none to come and no expiry, and no thread is busy with one. -/
def Idle (s : LocTimerContainer) : Prop :=
  s.getSoonestTimer = none ∧ NoneToCome s.queue ∧ s.msgTask = .idle ∧ s.pollTask = .polling

instance (s : LocTimerContainer) : Decidable s.Idle := inferInstanceAs (Decidable (_ ∧ _))

/-- The fd is disarmed, and not registered for polling. -/
def Unarmed (s : LocTimerContainer) : Prop := s.armed = none ∧ s.polled = false

instance (s : LocTimerContainer) : Decidable s.Unarmed := inferInstanceAs (Decidable (_ ∧ _))

/-- An idle container has its fd unarmed. -/
def Quiet (s : LocTimerContainer) : Prop := s.Idle → s.Unarmed

instance (s : LocTimerContainer) : Decidable s.Quiet := inferInstanceAs (Decidable (_ → _))

/-- The message handled next removes the last timer. -/
def RemovesLast (s : LocTimerContainer) : Prop :=
  s.getSoonestTimer ≠ none ∧ s.msgTask = .idle ∧
    ∃ msg ∈ s.queue.head?, ∃ timer ∈ msg.removed?, (s.heap.remove timer).1.peek = none

instance (s : LocTimerContainer) : Decidable s.RemovesLast := inferInstanceAs (Decidable (_ ∧ _))

/-- A `MsgTimerExpire` finds no timer, or none any more. -/
def ExpireEndsEmpty (s : LocTimerContainer) : Prop :=
  s.getSoonestTimer = none ∧
    (s.msgTask = .idle ∧ s.queue.head? = some .expire ∨ s.msgTask.isPopping = true)

instance (s : LocTimerContainer) : Decidable s.ExpireEndsEmpty :=
  inferInstanceAs (Decidable (_ ∧ _))

/-- The messages behind the one that is being handled. -/
def behind (s : LocTimerContainer) : List LocTimerMsg :=
  if s.msgTask = .idle then s.queue.tail else s.queue

/-- While the poll thread waits and neither a push nor an expiry is queued behind, the `MsgTask`
thread does not remove the last timer, and an expiry that leaves none finds the fd unarmed. -/
def LeavesUnarmed (s : LocTimerContainer) : Prop :=
  s.pollTask = .polling → NoneToCome s.behind →
    ¬ s.RemovesLast ∧ (s.ExpireEndsEmpty → s.Unarmed)

instance (s : LocTimerContainer) : Decidable s.LeavesUnarmed := inferInstanceAs (Decidable (_ → _))

/-- What an event must not do. -/
def LeavesQuiet (s : LocTimerContainer) (e : Event) : Prop := e = .msgTask → s.LeavesUnarmed

instance (s : LocTimerContainer) (e : Event) : Decidable (LeavesQuiet s e) :=
  inferInstanceAs (Decidable (_ → _))

section Step

variable {s s' : LocTimerContainer}

/-- A step after which the container is idle only if it was so before, with the same fd. -/
lemma Quiet.frame (h : s.Quiet) (hidle : s'.Idle → s.Idle) (harmed : s'.armed = s.armed)
    (hpolled : s'.polled = s.polled) : s'.Quiet := by
  intro hi
  rw [Unarmed, harmed, hpolled]
  exact h (hidle hi)

lemma quiet_of_not_idle (h : ¬ s.Idle) : s.Quiet := fun hi => absurd hi h

lemma not_idle_of_timer (top : LocTimerDelegate) (htop : s.getSoonestTimer = some top) :
    ¬ s.Idle := by
  rintro ⟨hempty, -⟩
  rw [htop] at hempty
  cases hempty

lemma not_idle_of_busy (h : s.msgTask ≠ .idle) : ¬ s.Idle := fun hi => h hi.2.2.1

lemma not_idle_of_mem (msg : LocTimerMsg) (hmem : msg ∈ s.queue) (hmsg : msg.removed? = none) :
    ¬ s.Idle := by
  intro hi
  have hsome := hi.2.1 msg hmem
  rw [hmsg] at hsome
  cases hsome

lemma not_idle_of_poll (h : s.pollTask ≠ .polling) : ¬ s.Idle := fun hi => h hi.2.2.2

/-- The poll thread only goes to work on an armed fd, and leaves a `MsgTimerExpire` behind. -/
lemma quiet_pollTaskStep (h : s.Quiet) : s.pollTaskStep.Quiet := by
  unfold pollTaskStep
  split
  · split
    · exact quiet_of_not_idle (not_idle_of_poll (by simp))
    · exact h
  · exact quiet_of_not_idle (not_idle_of_poll (by simp))
  · exact quiet_of_not_idle (not_idle_of_poll (by simp))
  · refine quiet_of_not_idle (not_idle_of_mem .expire ?_ rfl)
    exact List.mem_append_right _ (List.mem_singleton_self _)

lemma quiet_stop (h : s.Quiet) (client : ℕ) : (s.stop client).Quiet := by
  unfold stop
  split
  · refine h.frame (fun hi => ⟨hi.1, fun msg hmsg => ?_, hi.2.2⟩) rfl rfl
    exact hi.2.1 msg (List.mem_append_left _ hmsg)
  · exact h

lemma quiet_start (h : s.Quiet) (client : ℕ) (timeOutInMs : UInt32) :
    (s.start client timeOutInMs).Quiet := by
  unfold start
  split
  · refine quiet_of_not_idle (not_idle_of_mem
      (.push ⟨s.nextAddress, some client, .futureTime (.gettime s.clock) timeOutInMs⟩) ?_ rfl)
    exact List.mem_append_right _ (List.mem_singleton_self _)
  · exact h

/-- With no timer left there are no calls to make. -/
lemma updateSoonestTime_none (h : s.getSoonestTimer = none) : s.updateSoonestTime none = [] :=
  updateSoonestTime_of_eq h

lemma leavesUnarmed_of_not (hremoves : ¬ s.RemovesLast) (hends : ¬ s.ExpireEndsEmpty) :
    s.LeavesUnarmed :=
  fun _ _ => ⟨hremoves, fun he => absurd he hends⟩

lemma not_expireEndsEmpty_of_timer {top : LocTimerDelegate} (htop : s.getSoonestTimer = some top) :
    ¬ s.ExpireEndsEmpty := by
  rintro ⟨hnone, -⟩
  rw [htop] at hnone
  cases hnone

/-- A removal that leaves no timer makes no call. -/
lemma procRemove_of_empty {timer : LocTimerDelegate}
    (hempty : (s.heap.remove timer).1.peek = none) :
    s.procRemove timer = { s with heap := (s.heap.remove timer).1, msgTask := .idle } := by
  unfold procRemove
  have hnone : ({ s with heap := (s.heap.remove timer).1 } : LocTimerContainer).getSoonestTimer =
      none := hempty
  simp only [updateSoonestTime_none hnone]
  split
  · rfl
  · rfl

/-- A removal keeps the container quiet, unless it takes out the last timer while the fd is still
armed for it. -/
lemma quiet_procRemove_iff (h : s.Quiet) (hattended : s.Attended) (htask : s.msgTask = .idle)
    {timer : LocTimerDelegate} {queue : List LocTimerMsg}
    (hqueue : s.queue = .remove timer :: queue) :
    ({ s with queue := queue }.procRemove timer).Quiet ↔ s.LeavesUnarmed := by
  have hbehind : s.behind = queue := by rw [behind, if_pos htask, hqueue, List.tail_cons]
  have hends : ¬ s.ExpireEndsEmpty := by
    rintro ⟨-, ⟨-, hhead⟩ | hpop⟩
    · rw [hqueue] at hhead
      cases hhead
    · rw [htask] at hpop
      cases hpop
  cases hpeek : (s.heap.remove timer).1.peek with
  | some top =>
      -- a timer is left
      have hquiet : ({ s with queue := queue }.procRemove timer).Quiet := by
        refine quiet_of_not_idle (not_idle_of_timer top ?_)
        unfold procRemove
        simp only []
        split
        · exact hpeek
        · exact hpeek
      have hremoves : ¬ s.RemovesLast := by
        rintro ⟨-, -, msg, hmsg, timer', htimer, hempty⟩
        rw [hqueue] at hmsg
        cases hmsg
        cases htimer
        rw [hpeek] at hempty
        cases hempty
      exact iff_of_true hquiet (leavesUnarmed_of_not hremoves hends)
  | none =>
      rw [procRemove_of_empty (s := { s with queue := queue }) hpeek, LeavesUnarmed, hbehind]
      constructor
      · intro hquiet hpoll hnone
        refine ⟨?_, fun he => absurd he hends⟩
        rintro ⟨hsome, -⟩
        obtain ⟨top, htop⟩ := Option.ne_none_iff_exists'.mp hsome
        have hunarmed := hquiet ⟨hpeek, hnone, rfl, hpoll⟩
        rcases hattended.of_idle htask top htop with ⟨harmed, -⟩ | hexpire | hinside
        · exact absurd (hunarmed.1.symm.trans harmed) (by simp)
        · rw [hqueue] at hexpire
          have hmem := (List.mem_cons.mp hexpire).resolve_left (by simp)
          exact absurd (hnone _ hmem) (by simp [LocTimerMsg.removed?])
        · rcases hinside with hinside | hinside
          · rw [hpoll] at hinside
            cases hinside
          · rw [hpoll] at hinside
            cases hinside
      · intro hleaves hidle
        obtain ⟨-, hnone, -, hpoll⟩ := hidle
        have hremoves := (hleaves hpoll hnone).1
        have hsoonest : s.getSoonestTimer = none := by
          by_contra hsome
          exact hremoves ⟨hsome, htask, .remove timer, by rw [hqueue]; rfl, timer, rfl, hpeek⟩
        refine h ⟨hsoonest, ?_, htask, hpoll⟩
        rw [hqueue]
        exact List.forall_mem_cons.mpr ⟨rfl, hnone⟩

/-- The loop of a `MsgTimerExpire` goes on while a timer is popped; at its end the fd is armed again
if there is a timer. -/
lemma quiet_procPopped_iff (now : Timespec)
    {popped : LocHeap LocTimerDelegate × Option LocTimerDelegate} {queue : List LocTimerMsg}
    (hnone : popped.2 = none → popped.1 = s.heap) :
    ({ s with queue := queue }.procPopped now popped).1.Quiet ↔
      (popped.2 = none → s.getSoonestTimer = none → s.pollTask = .polling → NoneToCome queue →
        s.Unarmed) := by
  cases hpop : popped.2 with
  | some timer =>
      refine iff_of_true (quiet_of_not_idle (not_idle_of_busy ?_)) (by simp)
      simp [procPopped, hpop]
  | none =>
      have hheap := hnone hpop
      simp only [procPopped, hpop, hheap, true_implies]
      cases htop : s.getSoonestTimer with
      | some top =>
          exact iff_of_true (quiet_of_not_idle (not_idle_of_timer top htop)) (by simp)
      | none =>
          have hcalls :
              ({ s with queue := queue } : LocTimerContainer).updateSoonestTime none = [] :=
            updateSoonestTime_none htop
          rw [hcalls]
          exact ⟨fun h _ hpoll hq => h ⟨htop, hq, rfl, hpoll⟩,
            fun h hidle => h rfl hidle.2.2.2 hidle.2.1⟩

lemma pop_of_snd_eq_none {heap : LocHeap LocTimerDelegate} (h : heap.pop.2 = none) :
    heap.pop.1 = heap := by
  rw [LocHeap.pop_snd] at h
  obtain ⟨tree⟩ := heap
  obtain rfl := LocHeapNode.data?_eq_none.mp h
  rfl

lemma popIfOutRanks_of_snd_eq_none {heap : LocHeap LocTimerDelegate} {timer : LocTimerDelegate}
    (h : (popIfOutRanks heap timer).2 = none) : (popIfOutRanks heap timer).1 = heap := by
  unfold popIfOutRanks at h ⊢
  split
  · rename_i top hpeek
    simp only [hpeek] at h
    split
    · rename_i hrank
      rw [if_pos hrank, LocHeap.pop_snd, hpeek] at h
      cases h
    · rfl
  · rfl

lemma popIfOutRanks_of_empty {heap : LocHeap LocTimerDelegate} (h : heap.peek = none)
    (timer : LocTimerDelegate) : popIfOutRanks heap timer = (heap, none) := by
  unfold popIfOutRanks
  rw [h]

lemma not_removesLast_of_queue (h : ∀ msg ∈ s.queue.head?, msg.removed? = none) :
    ¬ s.RemovesLast := by
  rintro ⟨-, -, msg, hmsg, timer, htimer, -⟩
  rw [h msg hmsg] at htimer
  cases htimer

lemma not_removesLast_of_busy (h : s.msgTask ≠ .idle) : ¬ s.RemovesLast := fun hr => h hr.2.1

/-- The heap is empty at the end of an expiry, where there is one. -/
lemma leavesUnarmed_iff_of_expires (hremoves : ¬ s.RemovesLast)
    (hends : s.getSoonestTimer = none → s.ExpireEndsEmpty) :
    s.LeavesUnarmed ↔ (s.getSoonestTimer = none → s.pollTask = .polling → NoneToCome s.behind →
      s.Unarmed) := by
  constructor
  · intro h hempty hpoll hnone
    exact (h hpoll hnone).2 (hends hempty)
  · intro h hpoll hnone
    exact ⟨hremoves, fun he => h he.1 hpoll hnone⟩

/-- **What a step of the `MsgTask` thread needs** in order to keep the container quiet. -/
lemma quiet_msgTaskStep_iff (h : s.Quiet) (hattended : s.Attended) :
    s.msgTaskStep.1.Quiet ↔ s.LeavesUnarmed := by
  cases htask : s.msgTask with
  | idle =>
      have hbehind : s.behind = s.queue.tail := if_pos htask
      have hends : s.queue.head? ≠ some .expire → ¬ s.ExpireEndsEmpty := by
        rintro hhead ⟨-, ⟨-, hhead'⟩ | hpop⟩
        · exact hhead hhead'
        · rw [htask] at hpop
          cases hpop
      cases hqueue : s.queue with
      | nil =>
          have hstep : s.msgTaskStep = (s, []) := by simp only [msgTaskStep, htask, hqueue]
          have hremoves : ¬ s.RemovesLast :=
            not_removesLast_of_queue (by simp [hqueue, LocTimerMsg.removed?])
          rw [hstep]
          exact iff_of_true h (leavesUnarmed_of_not hremoves (hends (by simp [hqueue])))
      | cons msg queue =>
          cases msg with
          | remove timer =>
              have hstep : s.msgTaskStep = ({ s with queue := queue }.procRemove timer, []) := by
                simp only [msgTaskStep, htask, hqueue]
              rw [hstep]
              exact quiet_procRemove_iff h hattended htask hqueue
          | push timer =>
              have hstep : s.msgTaskStep = ({ s with queue := queue }.procPush timer, []) := by
                simp only [msgTaskStep, htask, hqueue]
              have hpeek : (s.heap.push timer).peek = some _ :=
                LocHeapNode.data?_push s.heap.mTree timer
              have hremoves : ¬ s.RemovesLast :=
                not_removesLast_of_queue (by simp [hqueue, LocTimerMsg.removed?])
              rw [hstep]
              exact iff_of_true (quiet_of_not_idle (not_idle_of_timer _ hpeek))
                (leavesUnarmed_of_not hremoves (hends (by simp [hqueue])))
          | expire =>
              have hstep : s.msgTaskStep =
                  { s with queue := queue }.procPopped (.gettime s.clock) s.heap.pop := by
                simp only [msgTaskStep, htask, hqueue]
              have hexpires : s.getSoonestTimer = none → s.ExpireEndsEmpty := fun hempty =>
                ⟨hempty, .inl ⟨htask, by rw [hqueue, List.head?_cons]⟩⟩
              have hremoves : ¬ s.RemovesLast :=
                not_removesLast_of_queue (by simp [hqueue, LocTimerMsg.removed?])
              rw [hstep, quiet_procPopped_iff _ pop_of_snd_eq_none,
                leavesUnarmed_iff_of_expires hremoves hexpires, hbehind, hqueue]
              have hpop : s.heap.pop.2 = none ↔ s.getSoonestTimer = none := by
                rw [LocHeap.pop_snd]
                rfl
              simp only [hpop, List.tail_cons]
              exact ⟨fun hq hempty => hq hempty hempty, fun hq hempty _ => hq hempty⟩
  | updating inExpire calls =>
      have hbusy : s.msgTask ≠ .idle := by
        rw [htask]
        simp
      obtain ⟨top, htop, -⟩ : ∃ top, s.getSoonestTimer = some top ∧ _ := by
        unfold Attended at hattended
        rw [htask] at hattended
        exact hattended
      have hquiet : s.msgTaskStep.1.Quiet := by
        refine quiet_of_not_idle (not_idle_of_timer top ?_)
        simp only [msgTaskStep, htask]
        cases calls with
        | nil => exact htop
        | cons c calls => rwa [getSoonestTimer, heap_goOn, heap_fdCall]
      exact iff_of_true hquiet (leavesUnarmed_of_not (not_removesLast_of_busy hbusy)
        (not_expireEndsEmpty_of_timer htop))
  | popping now =>
      have hbusy : s.msgTask ≠ .idle := by
        rw [htask]
        simp
      have hstep : s.msgTaskStep = { s with queue := s.queue }.procPopped now
          (popIfOutRanks s.heap (.timerOfNow now)) := by
        simp only [msgTaskStep, htask]
      have hbehind : s.behind = s.queue := if_neg hbusy
      rw [hstep, quiet_procPopped_iff _ popIfOutRanks_of_snd_eq_none, leavesUnarmed_iff_of_expires
        (not_removesLast_of_busy hbusy) fun hempty => ⟨hempty, .inr (by rw [htask]; rfl)⟩, hbehind]
      refine ⟨fun hq hempty => hq ?_ hempty, fun hq _ => hq⟩
      rw [popIfOutRanks_of_empty hempty]
  | expiring now timer client =>
      have hbusy : s.msgTask ≠ .idle := by
        rw [htask]
        simp
      have hquiet : s.msgTaskStep.1.Quiet := by
        refine quiet_of_not_idle (not_idle_of_busy ?_)
        simp only [msgTaskStep, htask]
        cases client with
        | none => simp
        | some c =>
            cases hclient : s.mTimer c with
            | none =>
                simp only [hclient]
                simp
            | some t => simp [stop, hclient, sendMsg]
      refine iff_of_true hquiet (leavesUnarmed_of_not (not_removesLast_of_busy hbusy) ?_)
      rintro ⟨-, ⟨hidle, -⟩ | hpop⟩
      · exact hbusy hidle
      · rw [htask] at hpop
        cases hpop

end Step

/-! ## Every reachable state -/

/-- One event keeps the container quiet exactly when it leaves the fd unarmed where it has to be. -/
lemma quiet_next_iff {s : LocTimerContainer} (h : s.Quiet) (hattended : s.Attended) (e : Event) :
    (machine.next s e).Quiet ↔ LeavesQuiet s e := by
  have hother : e ≠ .msgTask → LeavesQuiet s e := fun hne heq => absurd heq hne
  cases e with
  | msgTask =>
      exact (quiet_msgTaskStep_iff h hattended).trans ⟨fun hl _ => hl, fun hl => hl rfl⟩
  | tick nanos =>
      exact iff_of_true (h.frame (fun hi => hi) rfl rfl) (hother (by simp))
  | start client timeOutInMs =>
      exact iff_of_true (quiet_start h client timeOutInMs) (hother (by simp))
  | stop client => exact iff_of_true (quiet_stop h client) (hother (by simp))
  | pollTask => exact iff_of_true (quiet_pollTaskStep h) (hother (by simp))

lemma quiet_init (boot : ℕ) : (init boot).Quiet := fun _ => ⟨rfl, rfl⟩

/-- **An idle container is quiet.** In every state of a run in which there is no timer, no push or
expiry to come and no thread at work on one, the fd is disarmed and out of the poll set, exactly
when no step of the run removes the last timer with neither a push nor an expiry to come, and an
expiry that leaves no timer, with neither to come, finds the fd disarmed and out of the poll set. -/
theorem always_quiet_iff (boot : ℕ) (hboot : 0 < boot) (events : List Event) :
    machine.Always Quiet (init boot) events ↔ machine.Steps LeavesQuiet (init boot) events :=
  Machine.always_iff_steps_of_invariant (fun _ e h => WakeupInvariant.next h e)
    (fun _ e hinv h => quiet_next_iff h hinv.attended e) (wakeupInvariant_init hboot)
    (quiet_init boot)

/-- A timer that expires: the poll thread has disarmed the fd before its message is handled. -/
theorem always_quiet_expiry :
    machine.Always Quiet (init 1)
      [.start 0 5, .msgTask, .msgTask, .msgTask, .tick 5000000, .pollTask, .pollTask, .pollTask,
        .pollTask, .msgTask, .msgTask, .msgTask] :=
  (always_quiet_iff 1 (by decide) _).mpr (by decide)

/-- The only timer is stopped: the fd stays armed for it, and in the poll set. -/
theorem fd_armed_when_idle :
    ¬ machine.Always Quiet (init 1)
      [.start 0 5, .msgTask, .msgTask, .msgTask, .stop 0, .msgTask] := by
  decide

end LocTimerContainer
end LocHal
