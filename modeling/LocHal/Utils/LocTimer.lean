import LocHal.Utils.LocHeap

/-!
# Timers (`gps/utils/LocTimer.cpp`)

One `LocTimerContainer` with everything that acts on it.  A `LocTimer` client starts and stops its
timer from any thread; each of the two queues a message.  The `MsgTask` thread handles the messages
one by one, and it alone touches the heap of the container.  The poll thread waits in `epoll_wait`
for the timer fd; when it is woken it disarms the fd, takes it out of the poll set and queues a
`MsgTimerExpire`.

The two threads and the clients run interleaved.  A step of the `MsgTask` thread is taking the next
message with what it does to the heap, or one system call on the fd, or one timer popped, or the
`stop()` of an expired timer's client; a step of the poll thread is its wake-up or one of the
three calls in `expire()`.  System calls succeed.  The messages of the other container share the
queue and the poll thread, and only delay what is modelled here.
-/

namespace LocHal

/-! ## Times -/

/-- `struct timespec`, normalised. -/
structure Timespec where
  tv_sec : ℕ
  tv_nsec : ℕ
  tv_nsec_lt : tv_nsec < 1000000000
deriving DecidableEq, Repr

namespace Timespec

/-- The time in nanoseconds. -/
def nanos (t : Timespec) : ℕ := t.tv_sec * 1000000000 + t.tv_nsec

/-- The earlier time is the smaller one. -/
instance : LE Timespec := ⟨fun a b => a.nanos ≤ b.nanos⟩

instance (a b : Timespec) : Decidable (a ≤ b) := inferInstanceAs (Decidable (a.nanos ≤ b.nanos))

lemma le_def {a b : Timespec} : a ≤ b ↔ a.nanos ≤ b.nanos := Iff.rfl

/-- The zero of `memset`. -/
def zero : Timespec := ⟨0, 0, by decide⟩

/-- `clock_gettime`, for a clock that counts nanoseconds. -/
def gettime (clock : ℕ) : Timespec :=
  ⟨clock / 1000000000, clock % 1000000000, Nat.mod_lt _ (by decide)⟩

/-- The `futureTime` of `LocTimer::start`. -/
def futureTime (now : Timespec) (timeOutInMs : UInt32) : Timespec :=
  let sec := now.tv_sec + timeOutInMs.toNat / 1000
  let nsec := now.tv_nsec + timeOutInMs.toNat % 1000 * 1000000
  if h : nsec < 1000000000 then ⟨sec, nsec, h⟩
  else ⟨sec + nsec / 1000000000, nsec % 1000000000, Nat.mod_lt _ (by decide)⟩

lemma nanos_mk (sec nsec : ℕ) (h : nsec < 1000000000) :
    nanos ⟨sec, nsec, h⟩ = sec * 1000000000 + nsec := rfl

@[simp] lemma nanos_gettime (clock : ℕ) : (gettime clock).nanos = clock := by
  show clock / 1000000000 * 1000000000 + clock % 1000000000 = clock
  omega

lemma nanos_futureTime (now : Timespec) (timeOutInMs : UInt32) :
    (futureTime now timeOutInMs).nanos = now.nanos + timeOutInMs.toNat * 1000000 := by
  unfold futureTime
  by_cases h : now.tv_nsec + timeOutInMs.toNat % 1000 * 1000000 < 1000000000
  · rw [dif_pos h, nanos_mk, nanos]
    omega
  · rw [dif_neg h, nanos_mk, nanos]
    omega

lemma ne_zero_of_pos {t : Timespec} (h : 0 < t.nanos) : t ≠ zero := by
  rintro rfl
  exact absurd h (by decide)

end Timespec

/-- A `long` converted to an `int`. -/
def toInt (x : ℤ) : ℤ := x.bmod (2 ^ 32)

/-- `LocTimerDelegate`: its address, the `LocTimer` that made it, which the delegate of
`MsgTimerExpire` for the current time does not have, and when it is due. -/
structure LocTimerDelegate where
  address : ℕ
  client : Option ℕ
  mFutureTime : Timespec
deriving DecidableEq, Repr

namespace LocTimerDelegate

/-- `LocTimerDelegate::ranks`. -/
instance : LocRankable LocTimerDelegate where
  ranks a b :=
    let rank := toInt ((b.mFutureTime.tv_sec : ℤ) - a.mFutureTime.tv_sec)
    if rank = 0 then toInt ((b.mFutureTime.tv_nsec : ℤ) - a.mFutureTime.tv_nsec) else rank

/-- The `timerOfNow` of `MsgTimerExpire`. -/
def timerOfNow (now : Timespec) : LocTimerDelegate := ⟨0, none, now⟩

end LocTimerDelegate

/-! ## The container and its threads -/

/-- The messages about the container. -/
inductive LocTimerMsg where
  | push (timer : LocTimerDelegate)
  | remove (timer : LocTimerDelegate)
  | expire
deriving DecidableEq, Repr

/-- The system calls on the timer fd of the container. -/
inductive FdCall where
  | addPoll
  | removePoll
  | settime (it_value : Timespec)
deriving DecidableEq, Repr

/-- Where the `MsgTask` thread is: between messages; in `updateSoonestTime`, at the end of a
`MsgTimerExpire` or of one of the other messages, with the calls it has still to make; in the loop
of a `MsgTimerExpire`, about to pop; or there in the `expire()` of a popped timer, with the
`mClient` it has read. -/
inductive MsgTask where
  | idle
  | updating (inExpire : Bool) (calls : List FdCall)
  | popping (now : Timespec)
  | expiring (now : Timespec) (timer : LocTimerDelegate) (client : Option ℕ)
deriving DecidableEq, Repr

/-- Where the poll thread is: in `epoll_wait` or busy elsewhere; back from `epoll_wait` with an
event of the container; in `LocTimerContainer::expire`, with the fd disarmed; or there, with the fd
out of the poll set too. -/
inductive PollTask where
  | polling
  | returned
  | disarmed
  | unpolled
deriving DecidableEq, Repr

/-- What is observed: a timer popped by a `MsgTimerExpire` that has read `now`, and the callback of
a client, with the timer that the `stop()` before it has ended and the time it runs at. -/
inductive LocTimerOutput where
  | popped (timer : LocTimerDelegate) (now : Timespec)
  | timeOutCallback (client : ℕ) (timer : LocTimerDelegate) (time : Timespec)
deriving DecidableEq, Repr

/-- `LocTimerContainer` and its surroundings: the heap, the value the timer fd is armed with,
whether the fd is in the poll set, the message queue, the two threads, the `mTimer` of every client,
the next free address and the clock in nanoseconds. -/
structure LocTimerContainer where
  heap : LocHeap LocTimerDelegate
  armed : Option Timespec
  polled : Bool
  queue : List LocTimerMsg
  msgTask : MsgTask
  pollTask : PollTask
  mTimer : ℕ → Option LocTimerDelegate
  nextAddress : ℕ
  clock : ℕ

namespace LocTimerContainer

/-- A new container, when the clock is at `boot`. -/
def init (boot : ℕ) : LocTimerContainer :=
  ⟨.empty, none, false, [], .idle, .polling, fun _ => none, 0, boot⟩

/-- `sendMsg`. -/
def sendMsg (s : LocTimerContainer) (msg : LocTimerMsg) : LocTimerContainer :=
  { s with queue := s.queue ++ [msg] }

/-- A system call; `timerfd_settime` with zero disarms the timer. -/
def fdCall (s : LocTimerContainer) : FdCall → LocTimerContainer
  | .addPoll => { s with polled := true }
  | .removePoll => { s with polled := false }
  | .settime it_value => { s with armed := if it_value = .zero then none else some it_value }

/-- `getSoonestTimer`. -/
def getSoonestTimer (s : LocTimerContainer) : Option LocTimerDelegate := s.heap.peek

/-- The calls that `updateSoonestTime` makes. -/
def updateSoonestTime (s : LocTimerContainer) (priorTop : Option LocTimerDelegate) : List FdCall :=
  if s.getSoonestTimer = priorTop then []
  else
    match s.getSoonestTimer with
    | none => [.removePoll, .settime .zero]
    | some curTop =>
        match priorTop with
        | none => [.addPoll, .settime curTop.mFutureTime]
        | some prior =>
            if outRanks curTop prior then [.addPoll, .settime curTop.mFutureTime] else []

/-- The `MsgTask` thread goes on with the calls that are left, or is done with its message. -/
def goOn (s : LocTimerContainer) (inExpire : Bool) (calls : List FdCall) : LocTimerContainer :=
  { s with msgTask := if calls = [] then .idle else .updating inExpire calls }

/-- `MsgTimerPush::proc`. -/
def procPush (s : LocTimerContainer) (timer : LocTimerDelegate) : LocTimerContainer :=
  let priorTop := s.getSoonestTimer
  let s' := { s with heap := s.heap.push timer }
  s'.goOn false (s'.updateSoonestTime priorTop)

/-- `MsgTimerRemove::proc`. -/
def procRemove (s : LocTimerContainer) (timer : LocTimerDelegate) : LocTimerContainer :=
  let priorTop := s.getSoonestTimer
  let s' := { s with heap := (s.heap.remove timer).1 }
  if priorTop = (s.heap.remove timer).2 then s'.goOn false (s'.updateSoonestTime none)
  else s'.goOn false []

/-- The loop of `MsgTimerExpire::proc` when a timer has been popped, or none. -/
def procPopped (s : LocTimerContainer) (now : Timespec)
    (popped : LocHeap LocTimerDelegate × Option LocTimerDelegate) :
    LocTimerContainer × List LocTimerOutput :=
  let s' := { s with heap := popped.1 }
  match popped.2 with
  | some timer =>
      -- the client of a delegate is null once the timer has been stopped
      let client := timer.client.filter fun c => s.mTimer c = some timer
      ({ s' with msgTask := .expiring now timer client }, [.popped timer now])
  | none => (s'.goOn true (s'.updateSoonestTime none), [])

/-- `popIfOutRanks`. -/
def popIfOutRanks (heap : LocHeap LocTimerDelegate) (timer : LocTimerDelegate) :
    LocHeap LocTimerDelegate × Option LocTimerDelegate :=
  match heap.peek with
  | some top => if ¬ outRanks timer top then heap.pop else (heap, none)
  | none => (heap, none)

/-- `LocTimer::start` of a client. -/
def start (s : LocTimerContainer) (client : ℕ) (timeOutInMs : UInt32) : LocTimerContainer :=
  if s.mTimer client = none then
    let timer : LocTimerDelegate :=
      ⟨s.nextAddress, some client, .futureTime (.gettime s.clock) timeOutInMs⟩
    { s with
      mTimer := fun c => if c = client then some timer else s.mTimer c
      nextAddress := s.nextAddress + 1 }.sendMsg (.push timer)
  else s

/-- `LocTimer::stop` of a client. -/
def stop (s : LocTimerContainer) (client : ℕ) : LocTimerContainer :=
  match s.mTimer client with
  | some timer =>
      { s with mTimer := fun c => if c = client then none else s.mTimer c }.sendMsg (.remove timer)
  | none => s

/-- One step of the `MsgTask` thread. -/
def msgTaskStep (s : LocTimerContainer) : LocTimerContainer × List LocTimerOutput :=
  match s.msgTask with
  | .idle =>
      match s.queue with
      | [] => (s, [])
      | .push timer :: queue => ({ s with queue := queue }.procPush timer, [])
      | .remove timer :: queue => ({ s with queue := queue }.procRemove timer, [])
      | .expire :: queue =>
          { s with queue := queue }.procPopped (.gettime s.clock) s.heap.pop
  | .updating inExpire calls =>
      match calls with
      | [] => ({ s with msgTask := .idle }, [])
      | c :: calls => ((s.fdCall c).goOn inExpire calls, [])
  | .popping now => s.procPopped now (popIfOutRanks s.heap (.timerOfNow now))
  | .expiring now _ client =>
      let s' := { s with msgTask := .popping now }
      match client with
      | none => (s', [])
      | some c =>
          -- whatever timer the client has by now is the one that gets stopped
          match s.mTimer c with
          | some stopped => (s'.stop c, [.timeOutCallback c stopped (.gettime s.clock)])
          | none => (s', [])

/-- One step of the poll thread. -/
def pollTaskStep (s : LocTimerContainer) : LocTimerContainer :=
  match s.pollTask with
  | .polling =>
      if s.polled ∧ ∃ it_value ∈ s.armed, it_value ≤ .gettime s.clock then
        { s with pollTask := .returned }
      else s
  | .returned => { s.fdCall (.settime .zero) with pollTask := .disarmed }
  | .disarmed => { s.fdCall .removePoll with pollTask := .unpolled }
  | .unpolled => { s.sendMsg .expire with pollTask := .polling }

/-- What happens next: time passes, a client starts or stops its timer, or a thread takes a step. -/
inductive Event where
  | tick (nanos : ℕ)
  | start (client : ℕ) (timeOutInMs : UInt32)
  | stop (client : ℕ)
  | msgTask
  | pollTask
deriving DecidableEq, Repr

/-- One event. -/
def step (s : LocTimerContainer) : Event → LocTimerContainer × List LocTimerOutput
  | .tick nanos => ({ s with clock := s.clock + nanos }, [])
  | .start client timeOutInMs => (s.start client timeOutInMs, [])
  | .stop client => (s.stop client, [])
  | .msgTask => s.msgTaskStep
  | .pollTask => (s.pollTaskStep, [])

/-- The container as a machine. -/
def machine : Machine LocTimerContainer Event LocTimerOutput := ⟨step⟩

/-! ## Where timers come from -/

section Origin

variable {s : LocTimerContainer} {t : LocTimerDelegate}

@[simp] lemma heap_goOn (inExpire : Bool) (calls : List FdCall) :
    (s.goOn inExpire calls).heap = s.heap := rfl

@[simp] lemma heap_fdCall (c : FdCall) : (s.fdCall c).heap = s.heap := by
  cases c with
  | addPoll | removePoll | settime => rfl

@[simp] lemma queue_fdCall (c : FdCall) : (s.fdCall c).queue = s.queue := by
  cases c with
  | addPoll | removePoll | settime => rfl

@[simp] lemma clock_fdCall (c : FdCall) : (s.fdCall c).clock = s.clock := by
  cases c with
  | addPoll | removePoll | settime => rfl

/-- No time passes and no timer is made: the timers in the heap were there or waiting to be pushed,
and those waiting were waiting. -/
structure MakesNoTimer (s s' : LocTimerContainer) : Prop where
  clock : s'.clock = s.clock
  heap : ∀ t ∈ s'.heap.elements, t ∈ s.heap.elements ∨ .push t ∈ s.queue
  queue : ∀ t, .push t ∈ s'.queue → .push t ∈ s.queue

/-- Neither the clock nor the heap nor the queue is touched. -/
lemma MakesNoTimer.of_eq {s' : LocTimerContainer} (hclock : s'.clock = s.clock)
    (hheap : s'.heap = s.heap) (hqueue : s'.queue = s.queue) : MakesNoTimer s s' where
  clock := hclock
  heap := by
    rw [hheap]
    exact fun t ht => .inl ht
  queue := by
    rw [hqueue]
    exact fun t ht => ht

/-- Stopping a timer queues its removal, if anything. -/
lemma makesNoTimer_stop (s : LocTimerContainer) (client : ℕ) : MakesNoTimer s (s.stop client) := by
  unfold stop
  split
  · exact ⟨rfl, fun t ht => .inl ht, fun t ht => by simpa [sendMsg] using ht⟩
  · exact .of_eq rfl rfl rfl

lemma makesNoTimer_pollTaskStep (s : LocTimerContainer) : MakesNoTimer s s.pollTaskStep := by
  unfold pollTaskStep
  split
  · split
    · exact .of_eq rfl rfl rfl
    · exact .of_eq rfl rfl rfl
  · exact .of_eq rfl rfl rfl
  · exact .of_eq rfl rfl rfl
  · exact ⟨rfl, fun t ht => .inl ht, fun t ht => by simpa [sendMsg] using ht⟩

lemma makesNoTimer_procPush (timer : LocTimerDelegate) {queue : List LocTimerMsg}
    (hqueue : s.queue = .push timer :: queue) :
    MakesNoTimer s ({ s with queue := queue }.procPush timer) where
  clock := rfl
  heap t ht := by
    simp only [procPush, heap_goOn, LocHeap.mem_elements_push] at ht
    rcases ht with rfl | ht
    · exact .inr (by simp [hqueue])
    · exact .inl ht
  queue t ht := by
    rw [hqueue]
    exact List.mem_cons_of_mem _ ht

lemma makesNoTimer_procRemove (timer : LocTimerDelegate) {queue : List LocTimerMsg}
    (hqueue : queue ⊆ s.queue) : MakesNoTimer s ({ s with queue := queue }.procRemove timer) := by
  unfold procRemove
  simp only []
  split
  · exact ⟨rfl, fun t ht => .inl (LocHeap.mem_elements_of_mem_remove ht), fun t ht => hqueue ht⟩
  · exact ⟨rfl, fun t ht => .inl (LocHeap.mem_elements_of_mem_remove ht), fun t ht => hqueue ht⟩

lemma makesNoTimer_procPopped (now : Timespec)
    {popped : LocHeap LocTimerDelegate × Option LocTimerDelegate} {queue : List LocTimerMsg}
    (hheap : ∀ t ∈ popped.1.elements, t ∈ s.heap.elements) (hqueue : queue ⊆ s.queue) :
    MakesNoTimer s ({ s with queue := queue }.procPopped now popped).1 := by
  unfold procPopped
  simp only []
  split
  · exact ⟨rfl, fun t ht => .inl (hheap t ht), fun t ht => hqueue ht⟩
  · exact ⟨rfl, fun t ht => .inl (hheap t ht), fun t ht => hqueue ht⟩

lemma mem_of_mem_popIfOutRanks {heap : LocHeap LocTimerDelegate} {timer : LocTimerDelegate}
    (ht : t ∈ (popIfOutRanks heap timer).1.elements) : t ∈ heap.elements := by
  unfold popIfOutRanks at ht
  split at ht
  · split at ht
    · exact LocHeap.mem_elements_of_mem_pop ht
    · exact ht
  · exact ht

lemma makesNoTimer_msgTaskStep (s : LocTimerContainer) : MakesNoTimer s s.msgTaskStep.1 := by
  unfold msgTaskStep
  cases htask : s.msgTask with
  | idle =>
      simp only []
      cases hqueue : s.queue with
      | nil => exact .of_eq rfl rfl rfl
      | cons msg queue =>
          have hrest : queue ⊆ s.queue := by simp [hqueue]
          cases msg with
          | push timer => exact makesNoTimer_procPush timer hqueue
          | remove timer => exact makesNoTimer_procRemove timer hrest
          | expire =>
              exact makesNoTimer_procPopped _ (fun t ht => LocHeap.mem_elements_of_mem_pop ht) hrest
  | updating inExpire calls =>
      cases calls with
      | nil => exact .of_eq rfl rfl rfl
      | cons c calls => exact .of_eq (clock_fdCall c) (heap_fdCall c) (queue_fdCall c)
  | popping now =>
      exact makesNoTimer_procPopped now (fun t ht => mem_of_mem_popIfOutRanks ht)
        (List.Subset.refl s.queue)
  | expiring now timer client =>
      simp only []
      split
      · exact .of_eq rfl rfl rfl
      · split
        · have hstop := makesNoTimer_stop { s with msgTask := .popping now }
          exact ⟨(hstop _).clock, (hstop _).heap, (hstop _).queue⟩
        · exact .of_eq rfl rfl rfl

/-- What is in the heap after a step was there before, or was waiting to be pushed. -/
lemma mem_heap_next {e : Event} (ht : t ∈ (machine.next s e).heap.elements) :
    t ∈ s.heap.elements ∨ .push t ∈ s.queue := by
  cases e with
  | tick => exact .inl ht
  | start client timeOutInMs =>
      simp only [Machine.next, machine, step, start] at ht
      split at ht
      · exact .inl ht
      · exact .inl ht
  | stop client => exact (makesNoTimer_stop s client).heap t ht
  | pollTask => exact (makesNoTimer_pollTaskStep s).heap t ht
  | msgTask => exact (makesNoTimer_msgTaskStep s).heap t ht

/-- What is waiting to be pushed after a step was so before, or has just been made by `start`. -/
lemma push_mem_queue_next {e : Event} (ht : .push t ∈ (machine.next s e).queue) :
    .push t ∈ s.queue ∨ ∃ timeOutInMs,
      t.mFutureTime = .futureTime (.gettime s.clock) timeOutInMs := by
  cases e with
  | tick => exact .inl ht
  | start client timeOutInMs =>
      simp only [Machine.next, machine, step, start] at ht
      split at ht
      · simp only [sendMsg, List.mem_append, List.mem_singleton, LocTimerMsg.push.injEq] at ht
        rcases ht with ht | rfl
        · exact .inl ht
        · exact .inr ⟨timeOutInMs, rfl⟩
      · exact .inl ht
  | stop client => exact .inl ((makesNoTimer_stop s client).queue t ht)
  | pollTask => exact .inl ((makesNoTimer_pollTaskStep s).queue t ht)
  | msgTask => exact .inl ((makesNoTimer_msgTaskStep s).queue t ht)

/-- Time passes by ticks only. -/
lemma clock_next (s : LocTimerContainer) (e : Event) :
    (machine.next s e).clock = s.clock + match e with
      | .tick nanos => nanos
      | _ => 0 := by
  cases e with
  | tick => rfl
  | start client timeOutInMs =>
      simp only [Machine.next, machine, step, start]
      split
      · rfl
      · rfl
  | stop client => exact (makesNoTimer_stop s client).clock
  | pollTask => exact (makesNoTimer_pollTaskStep s).clock
  | msgTask => exact (makesNoTimer_msgTaskStep s).clock

lemma clock_le_next (s : LocTimerContainer) (e : Event) :
    s.clock ≤ (machine.next s e).clock := by
  rw [clock_next]
  exact Nat.le_add_right _ _

/-- What holds of every timer that `start` makes from now on, and of those there are, goes on
holding of all timers. -/
def AllTimers (P : LocTimerDelegate → Prop) (s : LocTimerContainer) : Prop :=
  (∀ t ∈ s.heap.elements, P t) ∧ ∀ t, .push t ∈ s.queue → P t

lemma AllTimers.next {P : LocTimerDelegate → Prop} (h : AllTimers P s) (e : Event)
    (hnew : ∀ (t : LocTimerDelegate) (timeOutInMs : UInt32),
      t.mFutureTime = .futureTime (.gettime s.clock) timeOutInMs → P t) :
    AllTimers P (machine.next s e) := by
  refine ⟨fun t ht => ?_, fun t ht => ?_⟩
  · rcases mem_heap_next ht with ht | ht
    · exact h.1 t ht
    · exact h.2 t ht
  · rcases push_mem_queue_next ht with ht | ⟨timeOutInMs, htime⟩
    · exact h.2 t ht
    · exact hnew t timeOutInMs htime

end Origin

end LocTimerContainer

end LocHal
