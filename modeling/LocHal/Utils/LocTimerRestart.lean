import LocHal.Utils.LocTimer
import Mathlib.Logic.Function.Basic

/-!
# Timers that are restarted while they expire (`gps/utils/LocTimer.cpp`)

A `LocTimer` may be stopped and started again while the `MsgTask` thread is in the `expire()` of its
earlier delegate.  That thread first reads `mClient` of the delegate, without the lock, and only
then stops the client under the lock and calls it back.  So the steps here are finer than those of
the container: `start` and `stop` are the regions under the lock, and an expiry is a pop, a read, a
locked `stop` and a callback, with anything in between.  Both containers are there, as a restart may
choose the other one; when their fds wake the poll thread is left open.

Whatever is stopped is stopped once, so a start has one outcome.  But the `stop` of an expiry stops
the delegate that the client has by then.  `outcomes_iff` says that every callback is for a delegate
that has been popped exactly if that is always the one that is expiring.
-/

namespace LocHal

/-- The loop of a `MsgTimerExpire`: the container, by `wakeOnExpire`, and the time that it read. -/
structure ExpireLoop where
  wakeOnExpire : Bool
  now : Timespec
deriving DecidableEq, Repr

/-- Where the `MsgTask` thread is: between messages; about to pop another timer; in the `expire()`
of a popped timer; there, with the `client` that it has read; or there, when `stop()` has returned
true for the delegate `timer` of `client`. -/
inductive Expiring where
  | idle
  | popping (loop : ExpireLoop)
  | entered (loop : ExpireLoop) (timer : LocTimerDelegate)
  | read (loop : ExpireLoop) (timer : LocTimerDelegate) (client : ℕ)
  | stopped (loop : ExpireLoop) (client : ℕ) (timer : LocTimerDelegate)
deriving DecidableEq, Repr

/-- The timers of all clients: the two containers, the queue of the `MsgTask` with the container of
each message, where its thread is, the `mTimer` of each client, the `mClient` and `mContainer` of
each delegate, the next free address and the clock. -/
structure LocTimers where
  containers : Bool → LocHeap LocTimerDelegate
  queue : List (Bool × LocTimerMsg)
  msgTask : Expiring
  mTimer : ℕ → Option LocTimerDelegate
  mClient : LocTimerDelegate → Option ℕ
  mContainer : LocTimerDelegate → Option Bool
  nextAddress : ℕ
  clock : ℕ

namespace LocTimers

/-- What is observed: a `start()` that succeeds, with its delegate; a `stop()` of a client that
returns true, with the delegate that it stops; a delegate popped by a `MsgTimerExpire`; and a
callback, with the delegate whose start the `stop()` before it has ended. -/
inductive Output where
  | started (client : ℕ) (timer : LocTimerDelegate)
  | stopped (client : ℕ) (timer : LocTimerDelegate)
  | popped (timer : LocTimerDelegate)
  | timeOutCallback (client : ℕ) (timer : LocTimerDelegate)
deriving DecidableEq, Repr

/-- At start-up. -/
def init : LocTimers where
  containers _ := .empty
  queue := []
  msgTask := .idle
  mTimer _ := none
  mClient _ := none
  mContainer _ := none
  nextAddress := 0
  clock := 0

/-- `sendMsg`, for a container. -/
def sendMsg (s : LocTimers) (container : Bool) (msg : LocTimerMsg) : LocTimers :=
  { s with queue := s.queue ++ [(container, msg)] }

/-- `LocTimer::start`. -/
def start (s : LocTimers) (client : ℕ) (timeOutInMs : UInt32) (wakeOnExpire : Bool) :
    LocTimers × List Output :=
  if s.mTimer client = none then
    let timer : LocTimerDelegate :=
      ⟨s.nextAddress, some client, .futureTime (.gettime s.clock) timeOutInMs⟩
    ({ s with
      mTimer := Function.update s.mTimer client (some timer)
      mClient := Function.update s.mClient timer (some client)
      mContainer := Function.update s.mContainer timer (some wakeOnExpire)
      nextAddress := s.nextAddress + 1 }.sendMsg wakeOnExpire (.push timer),
      [.started client timer])
  else (s, [])

/-- `LocTimerDelegate::destroyLocked`. -/
def destroyLocked (s : LocTimers) (timer : LocTimerDelegate) : LocTimers :=
  let s := { s with mClient := Function.update s.mClient timer none }
  match s.mContainer timer with
  | none => s
  | some container =>
      { s with mContainer := Function.update s.mContainer timer none }.sendMsg container
        (.remove timer)

/-- `LocTimer::stop`: what it leaves, and the delegate that it has stopped if it returns true. -/
def stop (s : LocTimers) (client : ℕ) : LocTimers × Option LocTimerDelegate :=
  match s.mTimer client with
  | none => (s, none)
  | some timer =>
      ({ s with mTimer := Function.update s.mTimer client none }.destroyLocked timer, some timer)

/-- The heap after a pop, and the `expire()` of the timer, if one was popped. -/
def enter (s : LocTimers) (loop : ExpireLoop)
    (pop : LocHeap LocTimerDelegate × Option LocTimerDelegate) : LocTimers × List Output :=
  let s := { s with containers := Function.update s.containers loop.wakeOnExpire pop.1 }
  match pop.2 with
  | none => ({ s with msgTask := .idle }, [])
  | some timer => ({ s with msgTask := .entered loop timer }, [.popped timer])

/-- One step of the `MsgTask` thread. -/
def msgTaskStep (s : LocTimers) : LocTimers × List Output :=
  match s.msgTask with
  | .idle =>
      match s.queue with
      | [] => (s, [])
      | (container, .push timer) :: queue =>
          ({ s with
            queue := queue
            containers := Function.update s.containers container
              ((s.containers container).push timer) }, [])
      | (container, .remove timer) :: queue =>
          ({ s with
            queue := queue
            containers := Function.update s.containers container
              ((s.containers container).remove timer).1 }, [])
      | (container, .expire) :: queue =>
          { s with queue := queue }.enter ⟨container, .gettime s.clock⟩ (s.containers container).pop
  | .popping loop =>
      s.enter loop (LocTimerContainer.popIfOutRanks (s.containers loop.wakeOnExpire)
        (.timerOfNow loop.now))
  | .entered loop timer =>
      match s.mClient timer with
      | none => ({ s with msgTask := .popping loop }, [])
      | some client => ({ s with msgTask := .read loop timer client }, [])
  | .read loop _ client =>
      let stopped := s.stop client
      match stopped.2 with
      | none => ({ stopped.1 with msgTask := .popping loop }, [])
      | some timer => ({ stopped.1 with msgTask := .stopped loop client timer }, [])
  | .stopped loop client timer =>
      ({ s with msgTask := .popping loop }, [.timeOutCallback client timer])

/-- What happens next: time passes, a client starts or stops its timer, the poll thread queues a
`MsgTimerExpire`, or the `MsgTask` thread takes a step. -/
inductive Event where
  | tick (nanos : ℕ)
  | start (client : ℕ) (timeOutInMs : UInt32) (wakeOnExpire : Bool)
  | stop (client : ℕ)
  | expire (container : Bool)
  | msgTask
deriving DecidableEq, Repr

/-- One event. -/
def step (s : LocTimers) : Event → LocTimers × List Output
  | .tick nanos => ({ s with clock := s.clock + nanos }, [])
  | .start client timeOutInMs wakeOnExpire => s.start client timeOutInMs wakeOnExpire
  | .stop client =>
      let stopped := s.stop client
      (stopped.1, (stopped.2.map (Output.stopped client)).toList)
  | .expire container => (s.sendMsg container .expire, [])
  | .msgTask => s.msgTaskStep

/-- The timers as a machine. -/
def machine : Machine LocTimers Event Output := ⟨step⟩

/-! ## Outcomes of a start -/

/-- The output ends the start that made the delegate. -/
def Output.Ends (timer : LocTimerDelegate) : Output → Prop
  | .stopped _ t | .timeOutCallback _ t => t = timer
  | .started _ _ | .popped _ => False

instance (timer : LocTimerDelegate) : DecidablePred (Output.Ends timer)
  | .stopped _ t | .timeOutCallback _ t => inferInstanceAs (Decidable (t = timer))
  | .started _ _ | .popped _ => isFalse id

/-- A callback is for a start that has come before it and whose own delegate was popped. -/
def Output.Own (before : List Output) : Output → Prop
  | .timeOutCallback client timer => .started client timer ∈ before ∧ .popped timer ∈ before
  | .started _ _ | .stopped _ _ | .popped _ => True

/-- Every start is followed by at most one outcome, and every callback is its own start's. -/
structure Outcomes (outs : List Output) : Prop where
  one : ∀ before client timer later, outs = before ++ .started client timer :: later →
    later.countP (Output.Ends timer) ≤ 1
  own : ∀ before o, before ++ [o] <+: outs → o.Own before

/-- When the `MsgTask` thread stops the client that it has read from an expiring delegate, the
client has no delegate or still has that one. -/
def StopsOwn (s : LocTimers) : Event → Prop
  | .msgTask =>
      match s.msgTask with
      | .read _ timer client => ∀ t ∈ s.mTimer client, t = timer
      | _ => True
  | _ => True

/-! ## What `stop` does -/

section Stop

variable {s : LocTimers} {client : ℕ} {timer : LocTimerDelegate}

lemma stop_of_none (h : s.mTimer client = none) : s.stop client = (s, none) := by
  rw [stop, h]

lemma stop_snd (s : LocTimers) (client : ℕ) : (s.stop client).2 = s.mTimer client := by
  unfold stop
  split
  · next h => exact h.symm
  · next h => exact h.symm

lemma stop_mTimer (s : LocTimers) (client : ℕ) :
    (s.stop client).1.mTimer = Function.update s.mTimer client none := by
  unfold stop
  split
  · next h => exact (Function.update_eq_self_iff.mpr h.symm).symm
  · unfold destroyLocked
    simp only []
    split
    · rfl
    · rfl

lemma stop_mClient (h : s.mTimer client = some timer) :
    (s.stop client).1.mClient = Function.update s.mClient timer none := by
  rw [stop, h]
  simp only [destroyLocked]
  split
  · rfl
  · rfl

/-- `stop` touches no heap, queues at most a removal, and leaves the `MsgTask` thread and the
addresses alone. -/
lemma stop_rest (s : LocTimers) (client : ℕ) :
    (s.stop client).1.containers = s.containers ∧ (s.stop client).1.msgTask = s.msgTask ∧
      (s.stop client).1.nextAddress = s.nextAddress ∧
      ∀ container t, (container, .push t) ∈ (s.stop client).1.queue ↔
        (container, .push t) ∈ s.queue := by
  unfold stop
  split
  · exact ⟨rfl, rfl, rfl, fun _ _ => Iff.rfl⟩
  · unfold destroyLocked
    simp only []
    split
    · exact ⟨rfl, rfl, rfl, fun _ _ => Iff.rfl⟩
    · exact ⟨rfl, rfl, rfl, fun _ _ => by simp [sendMsg]⟩

end Stop

/-! ## Addresses in use -/

/-- Every delegate that has been started or popped, and every one in a container or on its way
there, has an address below the next free one. -/
structure Below (outs : List Output) (s : LocTimers) : Prop where
  started : ∀ client timer, .started client timer ∈ outs → timer.address < s.nextAddress
  popped : ∀ timer, .popped timer ∈ outs → timer.address < s.nextAddress
  heap : ∀ container, ∀ timer ∈ (s.containers container).elements, timer.address < s.nextAddress
  queue : ∀ container timer, (container, .push timer) ∈ s.queue → timer.address < s.nextAddress

section Below

variable {outs : List Output} {s s' : LocTimers}

lemma below_init : Below [] init where
  started _ _ h := by cases h
  popped _ h := by cases h
  heap _ _ h := by simp [init] at h
  queue _ _ h := by cases h

/-- Nothing new comes into the containers or the queue. -/
lemma Below.frame (h : Below outs s) (hnext : s'.nextAddress = s.nextAddress)
    (hheap : ∀ container, ∀ t ∈ (s'.containers container).elements,
      t ∈ (s.containers container).elements)
    (hqueue : ∀ container t, (container, .push t) ∈ s'.queue → (container, .push t) ∈ s.queue) :
    Below outs s' where
  started client timer hmem := hnext ▸ h.started client timer hmem
  popped timer hmem := hnext ▸ h.popped timer hmem
  heap container timer hmem := hnext ▸ h.heap container timer (hheap container timer hmem)
  queue container timer hmem := hnext ▸ h.queue container timer (hqueue container timer hmem)

lemma Below.append (h : Below outs s) {emitted : List Output}
    (hstarted : ∀ client timer, .started client timer ∈ emitted → timer.address < s.nextAddress)
    (hpopped : ∀ timer, .popped timer ∈ emitted → timer.address < s.nextAddress) :
    Below (outs ++ emitted) s where
  started client timer hmem :=
    (List.mem_append.mp hmem).elim (h.started client timer) (hstarted client timer)
  popped timer hmem := (List.mem_append.mp hmem).elim (h.popped timer) (hpopped timer)
  heap := h.heap
  queue := h.queue

lemma Below.start (h : Below outs s) (client : ℕ) (timeOutInMs : UInt32) (wakeOnExpire : Bool) :
    Below (outs ++ (s.start client timeOutInMs wakeOnExpire).2)
      (s.start client timeOutInMs wakeOnExpire).1 := by
  unfold LocTimers.start
  split_ifs
  · have hlt : ∀ a, a < s.nextAddress → a < s.nextAddress + 1 := fun a ha => Nat.lt_succ_of_lt ha
    refine ⟨fun c t hmem => ?_, fun t hmem => ?_, fun w t hmem => ?_, fun w t hmem => ?_⟩
    · rcases List.mem_append.mp hmem with hmem | hmem
      · exact hlt _ (h.started c t hmem)
      · cases List.mem_singleton.mp hmem
        exact Nat.lt_succ_self _
    · rcases List.mem_append.mp hmem with hmem | hmem
      · exact hlt _ (h.popped t hmem)
      · cases List.mem_singleton.mp hmem
    · exact hlt _ (h.heap w t hmem)
    · rcases List.mem_append.mp hmem with hmem | hmem
      · exact hlt _ (h.queue w t hmem)
      · cases List.mem_singleton.mp hmem
        exact Nat.lt_succ_self _
  · rwa [List.append_nil]

lemma Below.stop (h : Below outs s) (client : ℕ) : Below outs (s.stop client).1 := by
  obtain ⟨hheap, -, hnext, hqueue⟩ := stop_rest s client
  refine h.frame hnext (fun w t ht => ?_) (fun w t ht => (hqueue w t).mp ht)
  rwa [hheap] at ht

/-- A pop takes the timer from the heap. -/
lemma Below.enter (h : Below outs s) (loop : ExpireLoop)
    {pop : LocHeap LocTimerDelegate × Option LocTimerDelegate}
    (hrest : ∀ t ∈ pop.1.elements, t ∈ (s.containers loop.wakeOnExpire).elements)
    (htop : ∀ t ∈ pop.2, t ∈ (s.containers loop.wakeOnExpire).elements) :
    Below (outs ++ (s.enter loop pop).2) (s.enter loop pop).1 := by
  have hheap : ∀ w, ∀ t ∈ (Function.update s.containers loop.wakeOnExpire pop.1 w).elements,
      t ∈ (s.containers w).elements := by
    intro w t ht
    by_cases hw : w = loop.wakeOnExpire
    · subst hw
      rw [Function.update_self] at ht
      exact hrest t ht
    · rwa [Function.update_of_ne hw] at ht
  unfold LocTimers.enter
  simp only []
  split
  · rw [List.append_nil]
    exact h.frame rfl hheap fun _ _ ht => ht
  · next timer hpopped =>
    refine Below.append ?_ (fun c t ht => ?_) (fun t ht => ?_)
    · exact h.frame rfl hheap fun _ _ ht => ht
    · cases List.mem_singleton.mp ht
    · cases List.mem_singleton.mp ht
      exact h.heap _ _ (htop timer hpopped)

lemma mem_of_popIfOutRanks {heap : LocHeap LocTimerDelegate} {timer t : LocTimerDelegate}
    (ht : (LocTimerContainer.popIfOutRanks heap timer).2 = some t) : t ∈ heap.elements := by
  unfold LocTimerContainer.popIfOutRanks at ht
  split at ht
  · split at ht
    · rw [LocHeap.pop_snd] at ht
      exact LocHeap.mem_elements_of_peek ht
    · cases ht
  · cases ht

lemma Below.msgTaskStep (h : Below outs s) :
    Below (outs ++ s.msgTaskStep.2) s.msgTaskStep.1 := by
  unfold LocTimers.msgTaskStep
  cases s.msgTask with
  | idle =>
    simp only []
    split
    · rwa [List.append_nil]
    · next container timer queue hqueue =>
      rw [List.append_nil]
      have hpush : (container, .push timer) ∈ s.queue := hqueue ▸ List.mem_cons_self
      refine ⟨h.started, h.popped, fun w t ht => ?_, fun w t ht => ?_⟩
      · by_cases hw : w = container
        · subst hw
          simp only [Function.update_self, LocHeap.mem_elements_push] at ht
          rcases ht with rfl | ht
          · exact h.queue _ _ hpush
          · exact h.heap _ _ ht
        · simp only [Function.update_of_ne hw] at ht
          exact h.heap _ _ ht
      · exact h.queue w t (hqueue ▸ List.mem_cons_of_mem _ ht)
    · next container timer queue hqueue =>
      rw [List.append_nil]
      refine h.frame rfl (fun w t ht => ?_) fun w t ht => hqueue ▸ List.mem_cons_of_mem _ ht
      by_cases hw : w = container
      · subst hw
        simp only [Function.update_self] at ht
        exact LocHeap.mem_elements_of_mem_remove ht
      · simpa only [Function.update_of_ne hw] using ht
    · next container queue hqueue =>
      have hrest : Below outs { s with queue := queue } :=
        h.frame rfl (fun _ _ ht => ht) fun w t ht => hqueue ▸ List.mem_cons_of_mem _ ht
      refine hrest.enter _ (fun t ht => LocHeap.mem_elements_of_mem_pop ht) fun t ht => ?_
      rw [LocHeap.pop_snd] at ht
      exact LocHeap.mem_elements_of_peek ht
  | popping loop =>
    exact h.enter loop (fun t ht => LocTimerContainer.mem_of_mem_popIfOutRanks ht)
      fun t ht => mem_of_popIfOutRanks ht
  | entered loop timer =>
    simp only []
    split
    · rw [List.append_nil]
      exact h.frame rfl (fun _ _ ht => ht) fun _ _ ht => ht
    · rw [List.append_nil]
      exact h.frame rfl (fun _ _ ht => ht) fun _ _ ht => ht
  | read loop timer client =>
    have hstop := h.stop client
    simp only []
    split
    · rw [List.append_nil]
      exact hstop.frame rfl (fun _ _ ht => ht) fun _ _ ht => ht
    · rw [List.append_nil]
      exact hstop.frame rfl (fun _ _ ht => ht) fun _ _ ht => ht
  | stopped loop client timer =>
    refine Below.append ?_ (fun c t ht => ?_) (fun t ht => ?_)
    · exact h.frame rfl (fun _ _ ht => ht) fun _ _ ht => ht
    · cases List.mem_singleton.mp ht
    · cases List.mem_singleton.mp ht

lemma Below.next (h : Below outs s) (e : Event) :
    Below (outs ++ machine.emit s e) (machine.next s e) := by
  cases e with
  | tick nanos =>
    refine Below.append ?_ (fun c t ht => ?_) (fun t ht => ?_)
    · exact h.frame rfl (fun _ _ ht => ht) fun _ _ ht => ht
    · cases ht
    · cases ht
  | start client timeOutInMs wakeOnExpire => exact h.start client timeOutInMs wakeOnExpire
  | stop client =>
    refine (h.stop client).append (fun c t ht => ?_) (fun t ht => ?_)
    · simp [Machine.emit, machine, step] at ht
    · simp [Machine.emit, machine, step] at ht
  | expire container =>
    refine Below.append ?_ (fun c t ht => ?_) (fun t ht => ?_)
    · refine h.frame rfl (fun _ _ ht => ht) fun _ _ ht => ?_
      simpa [machine, Machine.next, step, sendMsg] using ht
    · cases ht
    · cases ht
  | msgTask => exact h.msgTaskStep

end Below

/-! ## The running delegates -/

/-- The delegate that a client has is one that it has started, and knows its client. -/
structure Running (outs : List Output) (s : LocTimers) : Prop where
  own : ∀ client timer, s.mTimer client = some timer → timer.client = some client
  marked : ∀ client timer, s.mTimer client = some timer → s.mClient timer = some client
  started : ∀ client timer, s.mTimer client = some timer → .started client timer ∈ outs
  clientOf : ∀ timer client, s.mClient timer = some client → timer.client = some client

section Running

variable {outs outs' : List Output} {s s' : LocTimers} {client : ℕ} {timer : LocTimerDelegate}

lemma running_init : Running [] init where
  own _ _ h := by cases h
  marked _ _ h := by cases h
  started _ _ h := by cases h
  clientOf _ _ h := by cases h

lemma Running.frame (h : Running outs s) (htimer : s'.mTimer = s.mTimer)
    (hclient : s'.mClient = s.mClient) (houts : outs ⊆ outs') : Running outs' s' where
  own c t ht := h.own c t (htimer ▸ ht)
  marked c t ht := hclient ▸ h.marked c t (htimer ▸ ht)
  started c t ht := houts (h.started c t (htimer ▸ ht))
  clientOf t c ht := h.clientOf t c (hclient ▸ ht)

/-- A delegate that runs after a stop ran before. -/
lemma mTimer_of_stop (s : LocTimers) (client c : ℕ) (t : LocTimerDelegate)
    (hc : (s.stop client).1.mTimer c = some t) : s.mTimer c = some t := by
  rw [stop_mTimer] at hc
  by_cases hclient : c = client
  · subst hclient
    rw [Function.update_self] at hc
    cases hc
  · rwa [Function.update_of_ne hclient] at hc

/-- A stopped delegate is no client's. -/
lemma Running.not_running (h : Running outs s) (ht : s.mTimer client = some timer) (c : ℕ) :
    (s.stop client).1.mTimer c ≠ some timer := by
  rw [stop_mTimer]
  intro hc
  by_cases hclient : c = client
  · subst hclient
    rw [Function.update_self] at hc
    cases hc
  · rw [Function.update_of_ne hclient] at hc
    have hsame : some c = some client := (h.own c timer hc).symm.trans (h.own client timer ht)
    exact hclient (Option.some.inj hsame)

lemma Running.stop (h : Running outs s) (client : ℕ) : Running outs (s.stop client).1 := by
  cases ht : s.mTimer client with
  | none => rwa [stop_of_none ht]
  | some timer =>
    -- what is left was running before, and is not the delegate that was stopped
    have hold : ∀ c t, (s.stop client).1.mTimer c = some t → s.mTimer c = some t ∧ t ≠ timer :=
      fun c t hc => ⟨mTimer_of_stop s client c t hc, fun heq => h.not_running ht c (heq ▸ hc)⟩
    refine ⟨fun c t hc => h.own c t (hold c t hc).1, fun c t hc => ?_,
      fun c t hc => h.started c t (hold c t hc).1, fun t c hc => ?_⟩
    · obtain ⟨hc, hne⟩ := hold c t hc
      rw [stop_mClient ht, Function.update_of_ne hne]
      exact h.marked c t hc
    · rw [stop_mClient ht] at hc
      by_cases hne : t = timer
      · subst hne
        rw [Function.update_self] at hc
        cases hc
      · rw [Function.update_of_ne hne] at hc
        exact h.clientOf t c hc

/-- The delegate that `start` makes. -/
def newTimer (s : LocTimers) (client : ℕ) (timeOutInMs : UInt32) : LocTimerDelegate :=
  ⟨s.nextAddress, some client, .futureTime (.gettime s.clock) timeOutInMs⟩

lemma start_mTimer {timeOutInMs : UInt32} {wakeOnExpire : Bool} (hnone : s.mTimer client = none) :
    (s.start client timeOutInMs wakeOnExpire).1.mTimer =
      Function.update s.mTimer client (some (s.newTimer client timeOutInMs)) := by
  rw [LocTimers.start, if_pos hnone]
  rfl

lemma start_mClient {timeOutInMs : UInt32} {wakeOnExpire : Bool} (hnone : s.mTimer client = none) :
    (s.start client timeOutInMs wakeOnExpire).1.mClient =
      Function.update s.mClient (s.newTimer client timeOutInMs) (some client) := by
  rw [LocTimers.start, if_pos hnone]
  rfl

lemma start_snd {timeOutInMs : UInt32} {wakeOnExpire : Bool} (hnone : s.mTimer client = none) :
    (s.start client timeOutInMs wakeOnExpire).2 =
      [.started client (s.newTimer client timeOutInMs)] := by
  rw [LocTimers.start, if_pos hnone]
  rfl

lemma start_rest (timeOutInMs : UInt32) (wakeOnExpire : Bool) (hnone : s.mTimer client = none) :
    (s.start client timeOutInMs wakeOnExpire).1.msgTask = s.msgTask ∧
      (s.start client timeOutInMs wakeOnExpire).1.nextAddress = s.nextAddress + 1 := by
  rw [LocTimers.start, if_pos hnone]
  exact ⟨rfl, rfl⟩

/-- A client that has a delegate after a start has the new one, or had it before, and then it is
another one. -/
lemma mTimer_start (hbelow : Below outs s) (h : Running outs s) {timeOutInMs : UInt32}
    {wakeOnExpire : Bool} (hnone : s.mTimer client = none) {c : ℕ}
    (hc : (s.start client timeOutInMs wakeOnExpire).1.mTimer c = some timer) :
    (c = client ∧ timer = s.newTimer client timeOutInMs) ∨
      (s.mTimer c = some timer ∧ timer ≠ s.newTimer client timeOutInMs) := by
  rw [start_mTimer hnone] at hc
  by_cases hclient : c = client
  · subst hclient
    rw [Function.update_self] at hc
    exact .inl ⟨rfl, (Option.some.inj hc).symm⟩
  · rw [Function.update_of_ne hclient] at hc
    refine .inr ⟨hc, ?_⟩
    rintro rfl
    exact absurd (hbelow.started _ _ (h.started _ _ hc)) (lt_irrefl _)

lemma Running.start (hbelow : Below outs s) (h : Running outs s) (client : ℕ)
    (timeOutInMs : UInt32) (wakeOnExpire : Bool) :
    Running (outs ++ (s.start client timeOutInMs wakeOnExpire).2)
      (s.start client timeOutInMs wakeOnExpire).1 := by
  by_cases hnone : s.mTimer client = none
  · refine ⟨fun c t hc => ?_, fun c t hc => ?_, fun c t hc => ?_, fun t c hc => ?_⟩
    · rcases mTimer_start hbelow h hnone hc with ⟨rfl, rfl⟩ | ⟨hc, -⟩
      · rfl
      · exact h.own c t hc
    · rw [start_mClient hnone]
      rcases mTimer_start hbelow h hnone hc with ⟨rfl, rfl⟩ | ⟨hc, hne⟩
      · exact Function.update_self ..
      · rw [Function.update_of_ne hne]
        exact h.marked c t hc
    · rw [start_snd hnone]
      rcases mTimer_start hbelow h hnone hc with ⟨rfl, rfl⟩ | ⟨hc, -⟩
      · exact List.mem_append_right _ List.mem_cons_self
      · exact List.mem_append_left _ (h.started c t hc)
    · rw [start_mClient hnone] at hc
      by_cases hne : t = s.newTimer client timeOutInMs
      · subst hne
        rw [Function.update_self] at hc
        exact hc
      · rw [Function.update_of_ne hne] at hc
        exact h.clientOf t c hc
  · rw [LocTimers.start, if_neg hnone, List.append_nil]
    exact h

end Running

/-! ## The account of a run -/

/-- The `MsgTask` thread is in the `expire()` of the delegate, which it has not stopped yet. -/
def Expires (s : LocTimers) (timer : LocTimerDelegate) : Prop :=
  match s.msgTask with
  | .entered _ t | .read _ t _ => t = timer
  | .idle | .popping _ | .stopped _ _ _ => False

/-- What the `MsgTask` thread relies on in an expiry: the delegate has been popped, the client is
that of the delegate, and the one about to be called back has no outcome yet. -/
def Relies (outs : List Output) (s : LocTimers) : Prop :=
  match s.msgTask with
  | .idle | .popping _ => True
  | .entered _ timer => .popped timer ∈ outs
  | .read _ timer client => .popped timer ∈ outs ∧ timer.client = some client
  | .stopped _ client timer => .started client timer ∈ outs ∧ (∀ c, s.mTimer c ≠ some timer) ∧
      ∀ o ∈ outs, ¬ o.Ends timer

/-- What every run keeps: a running delegate that has been popped is expiring, and one that has an
outcome has only that and does not run any more. -/
structure Account (outs : List Output) (s : LocTimers) : Prop where
  below : Below outs s
  running : Running outs s
  poppedExpires : ∀ client timer, s.mTimer client = some timer → .popped timer ∈ outs →
    s.Expires timer
  relies : s.Relies outs
  ended : ∀ timer, ∀ o ∈ outs, o.Ends timer →
    timer.address < s.nextAddress ∧ ∀ client, s.mTimer client ≠ some timer
  once : ∀ timer, outs.countP (Output.Ends timer) ≤ 1

section Account

variable {outs : List Output} {s s' : LocTimers} {client : ℕ} {timer : LocTimerDelegate}

lemma account_init : Account [] init where
  below := below_init
  running := running_init
  poppedExpires _ _ h := by cases h
  relies := trivial
  ended _ _ h := by cases h
  once _ := Nat.zero_le 1

/-- A running delegate has no outcome yet. -/
lemma Account.not_ends (h : Account outs s) (ht : s.mTimer client = some timer) :
    ∀ o ∈ outs, ¬ o.Ends timer :=
  fun o ho hends => (h.ended timer o ho hends).2 client ht

/-- The outcome of a delegate that had none is its only one. -/
lemma once_append (honce : ∀ t, outs.countP (Output.Ends t) ≤ 1) {o : Output}
    (hnone : ∀ t, o.Ends t → ∀ o' ∈ outs, ¬ o'.Ends t) (t : LocTimerDelegate) :
    (outs ++ [o]).countP (Output.Ends t) ≤ 1 := by
  rw [List.countP_append, List.countP_singleton]
  split_ifs with hends
  · have hzero : outs.countP (Output.Ends t) = 0 := by
      rw [List.countP_eq_zero]
      exact fun o' ho' hends' => hnone t (of_decide_eq_true hends) o' ho' (of_decide_eq_true hends')
    omega
  · exact honce t

/-- Nothing is emitted, started or stopped. -/
lemma Account.frame (h : Account outs s) (hbelow : Below outs s') (htask : s'.msgTask = s.msgTask)
    (htimer : s'.mTimer = s.mTimer) (hclient : s'.mClient = s.mClient)
    (hnext : s'.nextAddress = s.nextAddress) : Account outs s' where
  below := hbelow
  running := h.running.frame htimer hclient (List.Subset.refl _)
  poppedExpires c t hc hpopped := by
    rw [Expires, htask]
    exact h.poppedExpires c t (htimer ▸ hc) hpopped
  relies := by
    have hrelies := h.relies
    rw [Relies] at hrelies ⊢
    rw [htask, htimer]
    exact hrelies
  ended t o ho hends := by
    rw [hnext, htimer]
    exact h.ended t o ho hends
  once := h.once

/-- What the thread relies on stays, where no delegate that was started runs now that did not, and
none gets an outcome that did not run. -/
lemma Relies.append (hrelies : Relies outs s) (htask : s'.msgTask = s.msgTask)
    (hold : ∀ c t, .started c t ∈ outs → ∀ c', s'.mTimer c' = some t → s.mTimer c' = some t)
    {o : Output} (hends : ∀ t, (∀ c, s.mTimer c ≠ some t) → ¬ o.Ends t) :
    Relies (outs ++ [o]) s' := by
  rw [Relies] at hrelies ⊢
  rw [htask]
  cases hat : s.msgTask with
  | idle | popping => trivial
  | entered loop t =>
    rw [hat] at hrelies
    exact List.mem_append_left _ hrelies
  | read loop t c =>
    rw [hat] at hrelies
    exact ⟨List.mem_append_left _ hrelies.1, hrelies.2⟩
  | stopped loop c t =>
    rw [hat] at hrelies
    obtain ⟨hstarted, hnot, hopen⟩ := hrelies
    refine ⟨List.mem_append_left _ hstarted, fun c' hc' => ?_, fun o' ho' => ?_⟩
    · exact hnot c' (hold c t hstarted c' hc')
    · rcases List.mem_append.mp ho' with ho' | ho'
      · exact hopen o' ho'
      · cases List.mem_singleton.mp ho'
        exact hends t hnot

lemma Account.start (h : Account outs s) (client : ℕ) (timeOutInMs : UInt32)
    (wakeOnExpire : Bool) :
    Account (outs ++ (s.start client timeOutInMs wakeOnExpire).2)
      (s.start client timeOutInMs wakeOnExpire).1 := by
  by_cases hnone : s.mTimer client = none
  · have hbelow := h.below.start client timeOutInMs wakeOnExpire
    have hrunning := h.running.start h.below client timeOutInMs wakeOnExpire
    obtain ⟨htask, hnext⟩ := start_rest timeOutInMs wakeOnExpire hnone
    -- a delegate below the next address runs afterwards only if it did before
    have hold : ∀ t : LocTimerDelegate, t.address < s.nextAddress → ∀ c,
        (s.start client timeOutInMs wakeOnExpire).1.mTimer c = some t → s.mTimer c = some t := by
      intro t hlt c hc
      rcases mTimer_start h.below h.running hnone hc with ⟨-, rfl⟩ | ⟨hc, -⟩
      · exact absurd hlt (lt_irrefl _)
      · exact hc
    refine ⟨hbelow, hrunning, fun c t hc hpopped => ?_, ?_, fun t o ho hends => ?_, fun t => ?_⟩
    · rw [start_snd hnone] at hpopped
      have hpopped : .popped t ∈ outs := by simpa using hpopped
      rw [Expires, htask]
      exact h.poppedExpires c t (hold t (h.below.popped t hpopped) c hc) hpopped
    · rw [start_snd hnone]
      exact h.relies.append htask (fun c t hstarted => hold t (h.below.started c t hstarted))
        fun t _ => not_false
    · rw [start_snd hnone] at ho
      rcases List.mem_append.mp ho with ho | ho
      · obtain ⟨hlt, hnot⟩ := h.ended t o ho hends
        rw [hnext]
        exact ⟨Nat.lt_succ_of_lt hlt, fun c hc => hnot c (hold t hlt c hc)⟩
      · cases List.mem_singleton.mp ho
        exact absurd hends not_false
    · rw [start_snd hnone]
      refine once_append h.once (fun t hends => ?_) t
      exact absurd hends not_false
  · rw [LocTimers.start, if_neg hnone, List.append_nil]
    exact h

lemma Account.stop (h : Account outs s) (client : ℕ) :
    Account (outs ++ ((s.stop client).2.map (Output.stopped client)).toList)
      (s.stop client).1 := by
  obtain ⟨-, htask, hnext, -⟩ := stop_rest s client
  rw [stop_snd]
  cases ht : s.mTimer client with
  | none =>
    rw [stop_of_none ht, Option.map_none, Option.toList_none, List.append_nil]
    exact h
  | some timer =>
    have hold := mTimer_of_stop s client
    have hsub : outs ⊆ outs ++ [.stopped client timer] := List.subset_append_left _ _
    refine ⟨?_, ?_, fun c t hc hpopped => ?_, ?_, fun t o ho hends => ?_, fun t => ?_⟩
    · exact (h.below.stop client).append (fun _ _ hmem => by cases List.mem_singleton.mp hmem)
        fun _ hmem => by cases List.mem_singleton.mp hmem
    · exact (h.running.stop client).frame rfl rfl hsub
    · have hpopped : .popped t ∈ outs := by simpa using hpopped
      rw [Expires, htask]
      exact h.poppedExpires c t (hold c t hc) hpopped
    · refine h.relies.append htask (fun _ t _ c' hc' => hold c' t hc') fun t hnot hends => ?_
      obtain rfl : timer = t := hends
      exact hnot client ht
    · rw [hnext]
      rcases List.mem_append.mp ho with ho | ho
      · obtain ⟨hlt, hnot⟩ := h.ended t o ho hends
        exact ⟨hlt, fun c hc => hnot c (hold c t hc)⟩
      · cases List.mem_singleton.mp ho
        obtain rfl : timer = t := hends
        exact ⟨h.below.started _ _ (h.running.started _ _ ht), h.running.not_running ht⟩
    · refine once_append h.once (fun t hends => ?_) t
      obtain rfl : timer = t := hends
      exact h.not_ends ht

/-- The `MsgTask` thread moves on by itself. -/
lemma Account.withTask (h : Account outs s) (task : Expiring)
    (hexpires : ∀ client timer, s.mTimer client = some timer → .popped timer ∈ outs →
      Expires { s with msgTask := task } timer)
    (hrelies : Relies outs { s with msgTask := task }) :
    Account outs { s with msgTask := task } where
  below := h.below.frame rfl (fun _ _ ht => ht) fun _ _ ht => ht
  running := h.running.frame rfl rfl (List.Subset.refl _)
  poppedExpires := hexpires
  relies := hrelies
  ended := h.ended
  once := h.once

/-- A pop when nothing is expiring. -/
lemma Account.enter (h : Account outs s) (hnone : ∀ t, ¬ s.Expires t) (loop : ExpireLoop)
    {pop : LocHeap LocTimerDelegate × Option LocTimerDelegate}
    (hbelow : Below (outs ++ (s.enter loop pop).2) (s.enter loop pop).1) :
    Account (outs ++ (s.enter loop pop).2) (s.enter loop pop).1 := by
  unfold LocTimers.enter at hbelow ⊢
  simp only [] at hbelow ⊢
  cases hpop : pop.2 with
  | none =>
    rw [hpop] at hbelow
    simp only [List.append_nil] at hbelow ⊢
    refine ⟨hbelow, h.running.frame rfl rfl (List.Subset.refl _), fun c t hc hpopped => ?_, trivial,
      h.ended, h.once⟩
    exact absurd (h.poppedExpires c t hc hpopped) (hnone t)
  | some timer =>
    rw [hpop] at hbelow
    refine ⟨hbelow, h.running.frame rfl rfl (List.subset_append_left _ _), fun c t hc hpopped => ?_,
      List.mem_append_right _ List.mem_cons_self, fun t o ho hends => ?_, fun t => ?_⟩
    · rcases List.mem_append.mp hpopped with hpopped | hpopped
      · exact absurd (h.poppedExpires c t hc hpopped) (hnone t)
      · cases List.mem_singleton.mp hpopped
        exact rfl
    · rcases List.mem_append.mp ho with ho | ho
      · exact h.ended t o ho hends
      · cases List.mem_singleton.mp ho
        exact absurd hends not_false
    · refine once_append h.once (fun t hends => ?_) t
      exact absurd hends not_false

lemma Account.msgTaskStep (h : Account outs s) :
    Account (outs ++ s.msgTaskStep.2) s.msgTaskStep.1 := by
  have hbelow := h.below.msgTaskStep
  have hrelies := h.relies
  have hexpires := h.poppedExpires
  unfold LocTimers.msgTaskStep at hbelow ⊢
  rw [Relies] at hrelies
  simp only [Expires] at hexpires
  cases hat : s.msgTask with
  | idle =>
    have hnone : ∀ t, ¬ s.Expires t := fun t => by simp [Expires, hat]
    rw [hat] at hbelow
    simp only [] at hbelow ⊢
    split
    · rwa [List.append_nil]
    · next hqueue =>
      rw [hqueue] at hbelow
      rw [List.append_nil] at hbelow ⊢
      exact h.frame hbelow hat.symm rfl rfl rfl
    · next hqueue =>
      rw [hqueue] at hbelow
      rw [List.append_nil] at hbelow ⊢
      exact h.frame hbelow hat.symm rfl rfl rfl
    · next container queue hqueue =>
      rw [hqueue] at hbelow
      have hrest : Account outs { s with queue := queue } := by
        refine h.frame ?_ rfl rfl rfl rfl
        exact h.below.frame rfl (fun _ _ ht => ht) fun w t ht => hqueue ▸ List.mem_cons_of_mem _ ht
      rw [hat] at hrest
      exact hrest.enter (fun t => not_false) _ hbelow
  | popping loop =>
    have hnone : ∀ t, ¬ s.Expires t := fun t => by simp [Expires, hat]
    rw [hat] at hbelow
    exact h.enter hnone loop hbelow
  | entered loop timer =>
    rw [hat] at hexpires hrelies
    simp only []
    split
    · next hdead =>
      rw [List.append_nil]
      refine h.withTask _ (fun c t hc hpopped => ?_) trivial
      obtain rfl : timer = t := hexpires c t hc hpopped
      rw [h.running.marked c _ hc] at hdead
      cases hdead
    · next client hclient =>
      rw [List.append_nil]
      refine h.withTask _ (fun c t hc hpopped => hexpires c t hc hpopped) ?_
      exact ⟨hrelies, h.running.clientOf timer client hclient⟩
  | read loop timer client =>
    rw [hat] at hexpires hrelies
    -- the expiring delegate can only be running as that of the client that was read
    have hclient : ∀ c t, s.mTimer c = some t → .popped t ∈ outs → c = client := by
      intro c t hc hpopped
      obtain rfl : timer = t := hexpires c t hc hpopped
      exact Option.some.inj ((h.running.own c _ hc).symm.trans hrelies.2)
    simp only [stop_snd]
    cases ht : s.mTimer client with
    | none =>
      rw [stop_of_none ht, List.append_nil]
      refine h.withTask _ (fun c t hc hpopped => ?_) trivial
      rw [hclient c t hc hpopped, ht] at hc
      cases hc
    | some t =>
      rw [List.append_nil]
      obtain ⟨-, -, hnext, -⟩ := stop_rest s client
      refine ⟨(h.below.stop client).frame rfl (fun _ _ ht => ht) fun _ _ ht => ht,
        (h.running.stop client).frame rfl rfl (List.Subset.refl _), fun c t' hc hpopped => ?_,
        ⟨h.running.started _ _ ht, h.running.not_running ht, h.not_ends ht⟩,
        fun t' o ho hends => ?_, h.once⟩
      · rw [hclient c t' (mTimer_of_stop s client c t' hc) hpopped] at hc
        simp [stop_mTimer] at hc
      · obtain ⟨hlt, hnot⟩ := h.ended t' o ho hends
        exact ⟨hnext ▸ hlt, fun c hc => hnot c (mTimer_of_stop s client c t' hc)⟩
  | stopped loop client timer =>
    rw [hat] at hrelies hbelow
    obtain ⟨hstarted, hnot, hends⟩ := hrelies
    refine ⟨hbelow, h.running.frame rfl rfl (List.subset_append_left _ _), fun c t hc hpopped => ?_,
      trivial, fun t o ho hends => ?_, fun t => ?_⟩
    · have hpopped : .popped t ∈ outs := by simpa using hpopped
      rw [hat] at hexpires
      exact absurd (hexpires c t hc hpopped) not_false
    · rcases List.mem_append.mp ho with ho | ho
      · exact h.ended t o ho hends
      · cases List.mem_singleton.mp ho
        obtain rfl : timer = t := hends
        exact ⟨h.below.started _ _ hstarted, hnot⟩
    · refine once_append h.once (fun t heq => ?_) t
      obtain rfl : timer = t := heq
      exact hends

lemma Account.next (h : Account outs s) (e : Event) :
    Account (outs ++ machine.emit s e) (machine.next s e) := by
  have hbelow := h.below.next e
  cases e with
  | tick nanos =>
    rw [show machine.emit s (.tick nanos) = [] from rfl, List.append_nil] at hbelow ⊢
    exact h.frame hbelow rfl rfl rfl rfl
  | start client timeOutInMs wakeOnExpire => exact h.start client timeOutInMs wakeOnExpire
  | stop client => exact h.stop client
  | expire container =>
    rw [show machine.emit s (.expire container) = [] from rfl, List.append_nil] at hbelow ⊢
    exact h.frame hbelow rfl rfl rfl rfl
  | msgTask => exact h.msgTaskStep

/-- **The account.** It is kept by every run. -/
theorem account_run (es : List Event) : Account (machine.outs init es) (machine.run init es) := by
  induction es using List.reverseRecOn with
  | nil => exact account_init
  | append_singleton es e ih =>
    rw [Machine.outs_append, Machine.run_append, Machine.outs_cons, Machine.outs_nil,
      List.append_nil]
    exact ih.next e

end Account

/-! ## Callbacks of other starts -/

/-- Every callback is its own start's. -/
def Owned (outs : List Output) : Prop := ∀ before o, before ++ [o] <+: outs → o.Own before

/-- The callback that the `MsgTask` thread is about to make will be its own start's. -/
def CallsOwn (outs : List Output) (s : LocTimers) : Prop :=
  match s.msgTask with
  | .stopped _ _ timer => .popped timer ∈ outs
  | .idle | .popping _ | .entered _ _ | .read _ _ _ => True

section Own

variable {outs : List Output} {s : LocTimers}

lemma owned_nil : Owned [] := by
  intro before o h
  exact absurd (List.prefix_nil.mp h) (by simp)

lemma owned_append {o : Output} : Owned (outs ++ [o]) ↔ Owned outs ∧ o.Own outs := by
  constructor
  · intro h
    refine ⟨fun before o' hprefix => h before o' ?_, h outs o (List.prefix_refl _)⟩
    exact hprefix.trans (List.prefix_append _ _)
  · rintro ⟨h, ho⟩ before o' hprefix
    rcases List.prefix_concat_iff.mp hprefix with heq | hprefix
    · obtain ⟨rfl, rfl⟩ : before = outs ∧ o' = o := by simpa using List.append_inj' heq rfl
      exact ho
    · exact h before o' hprefix

lemma owned_append_of_forall {emitted : List Output}
    (h : ∀ o ∈ emitted, ∀ before, o.Own before) : Owned (outs ++ emitted) ↔ Owned outs := by
  induction emitted using List.reverseRecOn with
  | nil => rw [List.append_nil]
  | append_singleton emitted o ih =>
    rw [← List.append_assoc, owned_append, ih fun o' ho' => h o' (List.mem_append_left _ ho')]
    exact and_iff_left (h o (by simp) _)

/-- A pop is no callback and leads to none at once. -/
lemma enter_calm (s : LocTimers) (loop : ExpireLoop)
    (pop : LocHeap LocTimerDelegate × Option LocTimerDelegate) :
    (∀ o ∈ (s.enter loop pop).2, ∀ before, o.Own before) ∧
      ∀ outs, CallsOwn outs (s.enter loop pop).1 := by
  unfold enter
  simp only []
  split
  · exact ⟨fun o ho => (List.not_mem_nil ho).elim, fun _ => trivial⟩
  · refine ⟨fun o ho before => ?_, fun _ => trivial⟩
    cases List.mem_singleton.mp ho
    exact trivial

/-- The callbacks after a step of the `MsgTask` thread are those before it and the one that it was
about to make. -/
lemma owned_msgTaskStep_iff (h : Account outs s) :
    Owned (outs ++ s.msgTaskStep.2) ↔ Owned outs ∧ CallsOwn outs s := by
  unfold msgTaskStep CallsOwn
  cases hat : s.msgTask with
  | idle =>
    refine (owned_append_of_forall ?_).trans (and_iff_left trivial).symm
    simp only []
    split
    · exact fun o ho => (List.not_mem_nil ho).elim
    · exact fun o ho => (List.not_mem_nil ho).elim
    · exact fun o ho => (List.not_mem_nil ho).elim
    · exact (enter_calm _ _ _).1
  | popping loop =>
    exact (owned_append_of_forall (enter_calm _ _ _).1).trans (and_iff_left trivial).symm
  | entered loop timer =>
    refine (owned_append_of_forall ?_).trans (and_iff_left trivial).symm
    simp only []
    split
    · exact fun o ho => (List.not_mem_nil ho).elim
    · exact fun o ho => (List.not_mem_nil ho).elim
  | read loop timer client =>
    refine (owned_append_of_forall ?_).trans (and_iff_left trivial).symm
    simp only []
    split
    · exact fun o ho => (List.not_mem_nil ho).elim
    · exact fun o ho => (List.not_mem_nil ho).elim
  | stopped loop client timer =>
    have hrelies := h.relies
    simp only [Relies, hat] at hrelies
    exact owned_append.trans (and_congr_right fun _ => and_iff_right hrelies.1)

/-- The `MsgTask` thread is about to make a callback of another start exactly if it has stopped
another delegate than the expiring one. -/
lemma callsOwn_msgTaskStep_iff (h : Account outs s) :
    CallsOwn (outs ++ s.msgTaskStep.2) s.msgTaskStep.1 ↔ StopsOwn s .msgTask := by
  unfold msgTaskStep StopsOwn
  cases hat : s.msgTask with
  | idle =>
    refine iff_of_true ?_ trivial
    simp only []
    split
    · simp [CallsOwn, hat]
    · exact trivial
    · exact trivial
    · exact (enter_calm _ _ _).2 _
  | popping loop => exact iff_of_true ((enter_calm _ _ _).2 _) trivial
  | entered loop timer =>
    refine iff_of_true ?_ trivial
    simp only []
    split
    · exact trivial
    · exact trivial
  | read loop timer client =>
    have hrelies := h.relies
    simp only [Relies, hat] at hrelies
    simp only [stop_snd]
    cases ht : s.mTimer client with
    | none => exact iff_of_true trivial (by simp)
    | some t =>
      have hpopped : .popped t ∈ outs ↔ t = timer := by
        constructor
        · intro hpopped
          -- a running delegate that has been popped is the expiring one
          have hexpires := h.poppedExpires client t ht hpopped
          simp only [Expires, hat] at hexpires
          exact hexpires.symm
        · rintro rfl
          exact hrelies.1
      simpa [CallsOwn] using hpopped
  | stopped loop client timer => exact iff_of_true trivial trivial

/-- A step of another thread calls nobody back and pops nothing. -/
lemma own_iff_of_frame {s' : LocTimers} {emitted : List Output} (htask : s'.msgTask = s.msgTask)
    (hown : ∀ o ∈ emitted, ∀ before, o.Own before) (hpopped : ∀ t, .popped t ∉ emitted) :
    (Owned (outs ++ emitted) ∧ CallsOwn (outs ++ emitted) s') ↔ Owned outs ∧ CallsOwn outs s := by
  rw [owned_append_of_forall hown, CallsOwn, CallsOwn, htask]
  simp only [List.mem_append, hpopped, or_false]

lemma next_own_iff (h : Account outs s) (e : Event) :
    (Owned (outs ++ machine.emit s e) ∧
        CallsOwn (outs ++ machine.emit s e) (machine.next s e)) ↔
      (Owned outs ∧ CallsOwn outs s) ∧ StopsOwn s e := by
  cases e with
  | msgTask => exact and_congr (owned_msgTaskStep_iff h) (callsOwn_msgTaskStep_iff h)
  | tick nanos =>
    refine (own_iff_of_frame rfl (fun o ho => ?_) fun t ht => ?_).trans (and_iff_left trivial).symm
    · cases ho
    · cases ht
  | expire container =>
    refine (own_iff_of_frame rfl (fun o ho => ?_) fun t ht => ?_).trans (and_iff_left trivial).symm
    · cases ho
    · cases ht
  | start client timeOutInMs wakeOnExpire =>
    rw [show StopsOwn s (.start client timeOutInMs wakeOnExpire) = True from rfl, and_true]
    by_cases hnone : s.mTimer client = none
    · rw [show machine.emit s (.start client timeOutInMs wakeOnExpire) =
        [.started client (s.newTimer client timeOutInMs)] from start_snd hnone]
      refine own_iff_of_frame (start_rest timeOutInMs wakeOnExpire hnone).1 (fun o ho => ?_)
        fun t ht => ?_
      · cases List.mem_singleton.mp ho
        exact fun _ => trivial
      · cases List.mem_singleton.mp ht
    · have hstart : s.start client timeOutInMs wakeOnExpire = (s, []) := by
        rw [start, if_neg hnone]
      refine own_iff_of_frame ?_ (fun o ho => ?_) fun t ht => ?_
      · exact congrArg (fun r => r.1.msgTask) hstart
      · rw [show machine.emit s (.start client timeOutInMs wakeOnExpire) = [] from
          congrArg Prod.snd hstart] at ho
        cases ho
      · rw [show machine.emit s (.start client timeOutInMs wakeOnExpire) = [] from
          congrArg Prod.snd hstart] at ht
        cases ht
  | stop client =>
    rw [show StopsOwn s (.stop client) = True from rfl, and_true]
    refine own_iff_of_frame (stop_rest s client).2.1 (fun o ho => ?_) fun t ht => ?_
    · obtain ⟨timer, -, rfl⟩ : ∃ timer, s.mTimer client = some timer ∧
          .stopped client timer = o := by
        simpa [Machine.emit, machine, step, stop_snd] using ho
      exact fun _ => trivial
    · simp [Machine.emit, machine, step] at ht

/-- The steps of a run stop their own delegates exactly if all callbacks are their own starts', the
one that may be about to be made included. -/
lemma own_run_iff (es : List Event) :
    (Owned (machine.outs init es) ∧ CallsOwn (machine.outs init es) (machine.run init es)) ↔
      machine.Steps StopsOwn init es := by
  induction es using List.reverseRecOn with
  | nil => exact iff_of_true ⟨owned_nil, trivial⟩ trivial
  | append_singleton es e ih =>
    rw [Machine.outs_append, Machine.run_append, Machine.steps_append, Machine.outs_cons,
      Machine.outs_nil, List.append_nil, ← ih]
    exact (next_own_iff (account_run es) e).trans
      (and_congr_right fun _ => (and_true _).symm.to_iff)

end Own

/-- **Outcomes.** In every run, a start is followed by at most one outcome; and the callbacks, with
the one that the `MsgTask` thread may be about to make, are all on behalf of starts whose own
delegates were popped exactly if each expiry stops the delegate that it is about. -/
theorem outcomes_iff (es : List Event) :
    Outcomes (machine.outs init (es ++ [.msgTask])) ↔ machine.Steps StopsOwn init es := by
  have howned : Owned (machine.outs init (es ++ [.msgTask])) ↔
      machine.Steps StopsOwn init es := by
    rw [Machine.outs_append, Machine.outs_cons, Machine.outs_nil, List.append_nil]
    exact (owned_msgTaskStep_iff (account_run es)).trans (own_run_iff es)
  refine ⟨fun h => howned.mp h.own, fun h => ⟨?_, howned.mpr h⟩⟩
  intro before client timer later houts
  have honce := (account_run (es ++ [.msgTask])).once timer
  rw [houts, List.countP_append, List.countP_cons] at honce
  omega

/-! ### A restart in the middle of an expiry -/

/-- The timer is stopped and started again after `expire()` of its first delegate has read it. -/
def restart : List Event :=
  [.start 1 1 false, .msgTask, .tick 1000000, .expire false, .msgTask, .msgTask, .stop 1,
    .start 1 1000 false, .msgTask, .msgTask]

/-- The delegate of the second start, which is due a second later. -/
def second : LocTimerDelegate := ⟨1, some 1, ⟨1, 1000000, by decide⟩⟩

/-- The client is called back at once, for a start whose delegate has not been popped. -/
theorem restarted_called_back : ¬ Outcomes (machine.outs init restart) := by
  intro h
  have hown := h.own ((machine.outs init restart).take 4) (.timeOutCallback 1 second) (by decide)
  exact absurd hown.2 (by decide)

end LocTimers
end LocHal
