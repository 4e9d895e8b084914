import LocHal.Utils.LocTimer

/-!
# Timers that expire early

A `MsgTimerExpire` is to pop the timers that are due.  It does so for all but the first: that one is
popped without a look at its deadline, on the grounds that the poll thread has been woken for it.
But the timer that the poll thread was woken for may have been removed by a message ahead in the
queue, and another timer pushed.  The `expire()` of a popped timer then stops whatever timer its
client has by that time and calls back for it, also when the client has been restarted meanwhile.

`timers_due_iff` says that no timer is popped and no callback made early exactly when each
`MsgTimerExpire` finds its first timer due, and each restarted client its new timer.
-/

namespace LocHal
namespace LocTimerContainer

/-- A popped timer is due by the time that the `MsgTimerExpire` has read, and a callback runs when
the timer is due that has been ended for it. -/
def OnTime : LocTimerOutput → Prop
  | .popped timer now => timer.mFutureTime ≤ now
  | .timeOutCallback _ stopped time => stopped.mFutureTime ≤ time

/-- When a `MsgTimerExpire` is taken from the queue, the soonest timer, if any, is due; and a client
whose expiring timer has been replaced by another one has that one due. -/
def FindsDue (s : LocTimerContainer) : Event → Prop
  | .msgTask =>
      match s.msgTask with
      | .idle => s.queue.head? = some .expire →
          ∀ top ∈ s.getSoonestTimer, top.mFutureTime ≤ .gettime s.clock
      | .expiring _ timer (some client) =>
          ∀ stopped ∈ s.mTimer client, stopped ≠ timer → stopped.mFutureTime ≤ .gettime s.clock
      | _ => True
  | _ => True

instance (o : LocTimerOutput) : Decidable (OnTime o) := by
  cases o <;> unfold OnTime <;> infer_instance

instance (s : LocTimerContainer) (e : Event) : Decidable (FindsDue s e) := by
  unfold FindsDue
  split
  · split <;> infer_instance
  · infer_instance

/-- The longest time that a timer can be started for, in nanoseconds. -/
def maxTimeOut : ℕ := (2 ^ 32 - 1) * 1000000

lemma toInt_of_lt {x : ℤ} (h : -2 ^ 31 ≤ x) (h' : x < 2 ^ 31) : toInt x = x := by
  unfold toInt
  rw [Int.bmod_def]
  omega

/-- `popIfOutRanks` takes for due only what is due: the seconds by which a timer lies ahead are too
few to be cut off by the conversion to `int`. -/
lemma le_of_not_outRanks {timer : LocTimerDelegate} {now : Timespec}
    (hmax : timer.mFutureTime.nanos ≤ now.nanos + maxTimeOut)
    (h : ¬ outRanks (.timerOfNow now) timer) : timer.mFutureTime ≤ now := by
  have hnsec := timer.mFutureTime.tv_nsec_lt
  have hnsec' := now.tv_nsec_lt
  have hnow : (LocTimerDelegate.timerOfNow now).mFutureTime = now := rfl
  simp only [outRanks, LocRankable.ranks, hnow] at h
  unfold Timespec.nanos maxTimeOut at hmax
  rw [Timespec.le_def, Timespec.nanos, Timespec.nanos]
  by_contra hlate
  have hsec : now.tv_sec ≤ timer.mFutureTime.tv_sec := by omega
  rw [toInt_of_lt (x := (timer.mFutureTime.tv_sec : ℤ) - now.tv_sec) (by omega) (by omega),
    toInt_of_lt (x := (timer.mFutureTime.tv_nsec : ℤ) - now.tv_nsec) (by omega) (by omega)] at h
  split at h
  · omega
  · omega

/-! ## The invariant -/

/-- The time that a `MsgTimerExpire` has read: it has passed, and no timer in the heap lies further
ahead of it than one can be started for. -/
structure HasRead (s : LocTimerContainer) (now : Timespec) : Prop where
  passed : now.nanos ≤ s.clock
  ahead : ∀ timer ∈ s.heap.elements, timer.mFutureTime.nanos ≤ now.nanos + maxTimeOut

/-- What a `MsgTimerExpire` in progress has popped was due when it read the clock. -/
def PoppedDue (s : LocTimerContainer) : Prop :=
  match s.msgTask with
  | .idle => True
  | .updating _ _ => True
  | .popping now => s.HasRead now
  | .expiring now timer _ => timer.mFutureTime ≤ now ∧ s.HasRead now

section Invariant

variable {s s' : LocTimerContainer}

lemma HasRead.frame {now : Timespec} (h : s.HasRead now) (hheap : s'.heap = s.heap)
    (hclock : s.clock ≤ s'.clock) : s'.HasRead now where
  passed := h.passed.trans hclock
  ahead := by
    rw [hheap]
    exact h.ahead

lemma PoppedDue.frame (h : s.PoppedDue) (htask : s'.msgTask = s.msgTask) (hheap : s'.heap = s.heap)
    (hclock : s.clock ≤ s'.clock) : s'.PoppedDue := by
  unfold PoppedDue at h ⊢
  rw [htask]
  cases hst : s.msgTask with
  | idle | updating => trivial
  | popping now =>
      rw [hst] at h
      exact h.frame hheap hclock
  | expiring now timer client =>
      rw [hst] at h
      exact ⟨h.1, h.2.frame hheap hclock⟩

lemma poppedDue_goOn (s : LocTimerContainer) (inExpire : Bool) (calls : List FdCall) :
    (s.goOn inExpire calls).PoppedDue := by
  unfold PoppedDue goOn
  split_ifs
  · trivial
  · trivial

lemma poppedDue_procRemove (s : LocTimerContainer) (timer : LocTimerDelegate) :
    (s.procRemove timer).PoppedDue := by
  unfold procRemove
  simp only []
  split
  · exact poppedDue_goOn _ _ _
  · exact poppedDue_goOn _ _ _

lemma poppedDue_stop (h : s.PoppedDue) (client : ℕ) : (s.stop client).PoppedDue := by
  unfold stop
  split
  · exact h.frame rfl rfl le_rfl
  · exact h

/-- A popped timer that is due is on time, and goes on to its callback. -/
lemma procPopped_onTime {now : Timespec}
    {popped : LocHeap LocTimerDelegate × Option LocTimerDelegate}
    (hdue : ∀ timer ∈ popped.2, timer.mFutureTime ≤ now) (hnow : now.nanos ≤ s.clock)
    (hahead : ∀ timer ∈ popped.1.elements, timer.mFutureTime.nanos ≤ now.nanos + maxTimeOut) :
    (s.procPopped now popped).1.PoppedDue ∧ ∀ o ∈ (s.procPopped now popped).2, OnTime o := by
  unfold procPopped
  simp only []
  split
  · rename_i timer hpopped
    have hdue := hdue timer hpopped
    refine ⟨⟨hdue, hnow, hahead⟩, ?_⟩
    simpa [OnTime] using hdue
  · exact ⟨poppedDue_goOn _ _ _, by simp⟩

/-- The loop of a `MsgTimerExpire` pops a timer only when it is due. -/
lemma le_of_popIfOutRanks {heap : LocHeap LocTimerDelegate} {now : Timespec}
    (hahead : ∀ timer ∈ heap.elements, timer.mFutureTime.nanos ≤ now.nanos + maxTimeOut) :
    ∀ timer ∈ (popIfOutRanks heap (.timerOfNow now)).2, timer.mFutureTime ≤ now := by
  intro timer htimer
  unfold popIfOutRanks at htimer
  split at htimer
  · rename_i top htop
    split at htimer
    · rename_i hrank
      rw [LocHeap.pop_snd] at htimer
      obtain rfl : top = timer := Option.some.inj (htop.symm.trans htimer)
      exact le_of_not_outRanks (hahead top (LocHeap.mem_elements_of_peek htop)) hrank
    · simp at htimer
  · simp at htimer

/-- One step of the `MsgTask` thread. -/
lemma msgTaskStep_onTime (h : s.PoppedDue)
    (hahead : ∀ timer ∈ s.heap.elements, timer.mFutureTime.nanos ≤ s.clock + maxTimeOut)
    (hdue : FindsDue s .msgTask) :
    s.msgTaskStep.1.PoppedDue ∧ ∀ o ∈ s.msgTaskStep.2, OnTime o := by
  unfold msgTaskStep
  unfold PoppedDue at h
  unfold FindsDue at hdue
  cases htask : s.msgTask with
  | idle =>
      simp only []
      cases hqueue : s.queue with
      | nil =>
          refine ⟨?_, by simp⟩
          unfold PoppedDue
          rw [htask]
          trivial
      | cons msg queue =>
          cases msg with
          | push timer => exact ⟨poppedDue_goOn _ _ _, by simp⟩
          | remove timer => exact ⟨poppedDue_procRemove _ _, by simp⟩
          | expire =>
              rw [htask] at hdue
              have hsoonest := hdue (by rw [hqueue]; rfl)
              refine procPopped_onTime (fun timer htimer => hsoonest timer ?_) ?_ ?_
              · rwa [LocHeap.pop_snd] at htimer
              · rw [Timespec.nanos_gettime]
              · intro timer htimer
                rw [Timespec.nanos_gettime]
                exact hahead timer (LocHeap.mem_elements_of_mem_pop htimer)
  | updating inExpire calls =>
      simp only []
      split
      · exact ⟨trivial, by simp⟩
      · exact ⟨poppedDue_goOn _ _ _, by simp⟩
  | popping now =>
      rw [htask] at h
      exact procPopped_onTime (le_of_popIfOutRanks h.ahead) h.passed
        fun timer htimer => h.ahead timer (mem_of_mem_popIfOutRanks htimer)
  | expiring now timer client =>
      rw [htask] at h
      obtain ⟨hpopped, hread⟩ := h
      have hpopping : PoppedDue { s with msgTask := .popping now } := ⟨hread.passed, hread.ahead⟩
      cases client with
      | none => exact ⟨hpopping, by simp⟩
      | some c =>
          rw [htask] at hdue
          simp only []
          split
          · rename_i stopped hstopped
            refine ⟨poppedDue_stop hpopping c, ?_⟩
            have htime : stopped.mFutureTime ≤ .gettime s.clock := by
              by_cases hown : stopped = timer
              · -- the timer that was popped has been due since
                rw [hown, Timespec.le_def, Timespec.nanos_gettime]
                exact hpopped.trans hread.passed
              · exact hdue stopped hstopped hown
            simpa [OnTime] using htime
          · exact ⟨hpopping, by simp⟩

lemma poppedDue_pollTaskStep (h : s.PoppedDue) : s.pollTaskStep.PoppedDue := by
  unfold pollTaskStep
  split
  · split
    · exact h.frame rfl rfl le_rfl
    · exact h
  · exact h.frame rfl rfl le_rfl
  · exact h.frame rfl rfl le_rfl
  · exact h.frame rfl rfl le_rfl

end Invariant

/-! ## Every run -/

/-- What holds in every state reached by steps that find their timers due. -/
structure ExpiryInvariant (s : LocTimerContainer) : Prop where
  timers : AllTimers (fun t => t.mFutureTime.nanos ≤ s.clock + maxTimeOut) s
  poppedDue : s.PoppedDue

lemma expiryInvariant_init (boot : ℕ) : (init boot).ExpiryInvariant :=
  ⟨⟨by simp [init], by simp [init]⟩, trivial⟩

lemma ExpiryInvariant.next {s : LocTimerContainer} (h : s.ExpiryInvariant) {e : Event}
    (he : FindsDue s e) :
    (machine.next s e).ExpiryInvariant ∧ ∀ o ∈ machine.emit s e, OnTime o := by
  have htimers : AllTimers (fun t => t.mFutureTime.nanos ≤ (machine.next s e).clock + maxTimeOut)
      (machine.next s e) := by
    have hclock := clock_le_next s e
    refine AllTimers.next ⟨fun t ht => ?_, fun t ht => ?_⟩ e fun t timeOutInMs htime => ?_
    · exact (h.timers.1 t ht).trans (Nat.add_le_add_right hclock _)
    · exact (h.timers.2 t ht).trans (Nat.add_le_add_right hclock _)
    · rw [htime, Timespec.nanos_futureTime, Timespec.nanos_gettime]
      have hms := timeOutInMs.toNat_lt
      unfold maxTimeOut
      omega
  cases e with
  | tick nanos => exact ⟨⟨htimers, h.poppedDue.frame rfl rfl (Nat.le_add_right _ _)⟩, by
      intro o ho
      cases ho⟩
  | start client timeOutInMs =>
      refine ⟨⟨htimers, ?_⟩, by intro o ho; cases ho⟩
      simp only [Machine.next, machine, step, start]
      split
      · exact h.poppedDue.frame rfl rfl le_rfl
      · exact h.poppedDue
  | stop client => exact ⟨⟨htimers, poppedDue_stop h.poppedDue client⟩, by intro o ho; cases ho⟩
  | pollTask => exact ⟨⟨htimers, poppedDue_pollTaskStep h.poppedDue⟩, by intro o ho; cases ho⟩
  | msgTask =>
      obtain ⟨hdue, houts⟩ := msgTaskStep_onTime h.poppedDue h.timers.1 he
      exact ⟨⟨htimers, hdue⟩, houts⟩

/-- A `MsgTimerExpire` pops the soonest timer at once, and the `expire()` of a timer stops the one
that its client has. -/
lemma findsDue_of_onTime {s : LocTimerContainer} {e : Event}
    (h : ∀ o ∈ machine.emit s e, OnTime o) : FindsDue s e := by
  cases e with
  | tick | start | stop | pollTask => trivial
  | msgTask =>
      rw [FindsDue]
      cases htask : s.msgTask with
      | idle =>
          intro hqueue top htop
          obtain ⟨queue, hqueue⟩ : ∃ queue, s.queue = .expire :: queue :=
            List.head?_eq_some_iff.mp hqueue
          have hpop : s.heap.pop.2 = some top := (LocHeap.pop_snd _).trans htop
          refine h (.popped top (.gettime s.clock)) ?_
          simp only [Machine.emit, machine, step, msgTaskStep, htask, hqueue, procPopped, hpop]
          exact List.mem_singleton_self _
      | updating | popping => trivial
      | expiring now timer client =>
          cases client with
          | none => trivial
          | some c =>
              intro stopped hstopped _
              have hmTimer : s.mTimer c = some stopped := hstopped
              refine h (.timeOutCallback c stopped (.gettime s.clock)) ?_
              simp only [Machine.emit, machine, step, msgTaskStep, htask, hmTimer]
              exact List.mem_singleton_self _

/-- **Timers expire on time.** In a run, every timer that a `MsgTimerExpire` pops is due by the time
it has read, and every callback runs when the timer is due that it ends, exactly when each
`MsgTimerExpire` finds the heap empty or its top due as it is taken from the queue, and the
`expire()` of each timer finds its client with this timer, with none, or with one that is due. -/
theorem timers_due_iff (boot : ℕ) (events : List Event) :
    (∀ o ∈ machine.outs (init boot) events, OnTime o) ↔
      machine.Steps FindsDue (init boot) events :=
  Machine.outs_iff_steps (fun _ _ h => ⟨findsDue_of_onTime, fun he => (h.next he).2⟩)
    (fun _ _ h he => (h.next he).1) (expiryInvariant_init boot)

/-- The timer that the poll thread was woken for is stopped before the `MsgTimerExpire` is handled;
that message then pops the next timer 95 ms early, and its callback runs. -/
theorem timer_expires_early :
    ¬ ∀ o ∈ machine.outs (init 1000000000)
      [.start 0 5, .start 1 100, .msgTask, .msgTask, .msgTask, .msgTask, .tick 5000000, .stop 0,
        .pollTask, .pollTask, .pollTask, .pollTask, .msgTask, .msgTask, .msgTask, .msgTask,
        .msgTask], OnTime o := by
  decide

/-- A client is restarted while its timer expires, and called back at once for the new timer. -/
example :
    ¬ ∀ o ∈ machine.outs (init 1000000000)
      [.start 0 5, .msgTask, .msgTask, .msgTask, .tick 5000000, .pollTask, .pollTask, .pollTask,
        .pollTask, .msgTask, .stop 0, .start 0 1000, .msgTask], OnTime o := by
  decide

end LocTimerContainer
end LocHal
