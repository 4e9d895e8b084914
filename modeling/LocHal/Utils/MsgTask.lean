import LocHal.Utils.LocThread
import LocHal.Utils.MsgQ

/-!
# A thread that works off a message queue (`gps/utils/MsgTask.cpp`)

A `MsgTask` owns a message queue and a thread.  It is the runnable of that thread: each call of
`run()` takes one message from the queue and processes it, and the thread deletes the task on its
way out.  `destroy()` unblocks the queue, so that a receive that waits returns, and then lets go of
the thread.

The machine below is the composition of the thread (`LocThread`) and of the queue (`MsgQ`) by the
code of `MsgTask`: a call of `run()` stays at `running` until its receive has returned, the
destructor runs when the thread deletes its runnable, and `destroy()` is the client of the thread.
Anyone may send at any time.

* `messages_accounted`: the messages are processed in the order they were sent, and by the time the
  task is deleted each has been deleted exactly once, after it was processed or by the flush;
* `task_deleted_iff`: what it takes for the task to be deleted in the end;
* `task_safe_iff`: what it takes for nobody to touch the task after the thread has deleted it;
* `destroy_ends_thread`: after `destroy()` has unblocked the queue the thread processes at most one
  more message, and ends.

That the task is put in the foreground by `prerun()` is not modelled.
-/

namespace LocHal
namespace MsgTask

/-- The deallocation function that `sendMsg` hands to the queue. -/
inductive Dealloc where
  | LocMsgDestroy
deriving DecidableEq, Repr

/-- Where a call of `run()` is: about to call `msg_q_rcv`, waiting in it, or with a message. -/
inductive Receive (M : Type*) where
  | call
  | wait (call : ℕ)
  | proc (msg : M)
deriving DecidableEq, Repr

/-- Where the owner of the task is: it has not called `destroy()`, or is in it with its copy of
`mThread` after the queue has been unblocked, or is deleting the thread, or has deleted the task
itself. -/
inductive Caller where
  | use
  | unblocked (thread : Bool)
  | deleteThread
  | gone
deriving DecidableEq, Repr

/-- `MsgTask`, with `mThread` as whether it is not null, and where its thread and its owner are. -/
structure State (M : Type*) where
  thread : LocThread.State
  mQ : MsgQ M Dealloc
  mThread : Bool
  receive : Receive M
  caller : Caller

/-- A step of the owner, its call of `destroy()`, a send, or a step of the thread. -/
inductive Event (M : Type*) where
  | caller
  | destroy
  | sendMsg (msg : Option M) (elem : ℕ)
  | worker
deriving DecidableEq, Repr

/-- What the thread and the queue output, the processing of a message and its deletion after that,
and accesses to the task after it has been deleted. -/
inductive Output (M : Type*) where
  | thread (o : LocThread.Output)
  | queue (o : MsgQ.Output M Dealloc)
  | proc (msg : M)
  | deleteMsg (msg : M)
  | fault
deriving DecidableEq, Repr

variable {M : Type*}

/-- The constructor, up to where `pthread_create` has succeeded or failed. -/
def init (created joinable : Bool) : State M :=
  ⟨LocThread.init created joinable, .init, true, .call, .use⟩

/-- The owner has deleted the task. -/
def Caller.deleted : Caller → Bool
  | .gone => true
  | _ => false

namespace State

/-- The task has not been deleted, by its thread or by its owner. -/
def alive (s : State M) : Bool := s.thread.runnable && !s.caller.deleted

/-- An access to the task. -/
def access (s : State M) (r : State M × List (Output M)) : State M × List (Output M) :=
  if s.alive then r else (s, [.fault])

/-- A step of the thread, as far as it is in `LocThread`. -/
def threadStep (s : State M) (e : LocThread.Event) : State M × List (Output M) :=
  let r := LocThread.step s.thread e
  ({ s with thread := r.1 }, r.2.map .thread)

/-- `run()`, when `msg_q_rcv` has returned or waits. -/
def received (s : State M) (call : ℕ) (r : MsgQ M Dealloc × List (MsgQ.Output M Dealloc)) :
    State M × List (Output M) :=
  let s := { s with mQ := r.1 }
  match r.2 with
  | [] => ({ s with receive := .wait call }, [])
  | [.rcv call (some msg) .success] =>
      ({ s with receive := .proc msg }, [.queue (.rcv call (some msg) .success)])
  | [.rcv _ none .success] => (s, [.fault])
  | out =>
      let t := { s with receive := .call }.threadStep (.worker false)
      (t.1, out.map .queue ++ t.2)

/-- A stretch of `run()`. -/
def run (s : State M) : State M × List (Output M) :=
  match s.receive with
  | .call => s.received s.mQ.calls s.mQ.msgQRcv
  | .wait call => s.received call (s.mQ.wake call)
  | .proc msg =>
      let t := { s with receive := .call }.threadStep (.worker true)
      (t.1, .proc msg :: .deleteMsg msg :: t.2)

/-- `~MsgTask`. -/
def destructor (s : State M) : State M × List (Output M) :=
  let r := s.mQ.msgQFlush
  ({ s with mQ := r.1 }, (r.2 ++ r.1.msgQDestroy).map .queue)

/-- A step of the thread. -/
def workerStep (s : State M) : State M × List (Output M) :=
  match s.thread.worker with
  | .running => s.access s.run
  | .deleteRunnable =>
      let t := s.destructor.1.threadStep (.worker false)
      s.access (t.1, s.destructor.2 ++ t.2)
  | _ => s.threadStep (.worker false)

/-- `destroy()`, up to where it has unblocked the queue. -/
def destroy (s : State M) : State M × List (Output M) :=
  let r := s.mQ.msgQUnblock
  s.access ({ s with mQ := r.1, caller := .unblocked s.mThread }, r.2.map .queue)

/-- A step of the owner, in the constructor or in `destroy()`. -/
def callerStep (s : State M) : State M × List (Output M) :=
  match s.caller with
  | .use =>
      let r := LocThread.step s.thread .client
      -- the constructor deletes the `LocThread` whose `start` has failed
      ({ s with thread := r.1, mThread := s.mThread && !r.2.contains (.started false) },
        r.2.map .thread)
  | .unblocked true =>
      s.access ({ s with mThread := false, caller := .deleteThread }.threadStep .bye)
  | .unblocked false => s.access ({ s.destructor.1 with caller := .gone }, s.destructor.2)
  | .deleteThread => s.threadStep .client
  | .gone => (s, [])

/-- `sendMsg`. -/
def sendMsg (s : State M) (msg : Option M) (elem : ℕ) : State M × List (Output M) :=
  match msg with
  | none => (s, [])
  | some msg =>
      let r := s.mQ.msgQSnd (some msg) (some .LocMsgDestroy) elem
      s.access ({ s with mQ := r.1 }, r.2.map .queue)

end State

/-- The constructor has returned, and `destroy()` has not been called. -/
def State.ready (s : State M) : Bool :=
  s.caller == .use && (s.thread.client == .idle || s.thread.client == .failed)

/-- One step of anyone. -/
def step (s : State M) : Event M → State M × List (Output M)
  | .caller => s.callerStep
  | .destroy => if s.ready then s.destroy else (s, [])
  | .sendMsg msg elem => s.sendMsg msg elem
  | .worker => s.workerStep

/-- The task as a machine. -/
def machine (M : Type*) : Machine (State M) (Event M) (Output M) := ⟨step⟩

/-! ## What a step can be -/

section Queue

variable {D : Type*} {q : MsgQ M D} {pending : List (M × Option D)}

/-- How a receive gets on, from a queue with the messages `pending`. -/
inductive Rcv (q : MsgQ M D) (pending : List (M × Option D)) (call : ℕ) :
    MsgQ M D × List (MsgQ.Output M D) → Prop
  | waits (hpending : pending = []) (hblocked : q.unblocked = false) :
      Rcv q pending call ({ q with waiting := call :: q.waiting }, [])
  | fails (hunblocked : q.unblocked = true) :
      Rcv q pending call (q, [.rcv call none .unavailableResource])
  | message (msg : M) (dealloc : Option D) (rest : List (M × Option D))
      (hpending : pending = (msg, dealloc) :: rest) (msg_list : ListState M D)
      (hrest : MsgQ.Holds { q with msg_list := msg_list } rest) :
      Rcv q pending call ({ q with msg_list := msg_list }, [.rcv call (some msg) .success])

lemma rcv_waitLoop (h : q.Holds pending) (call : ℕ) : Rcv q pending call (q.waitLoop call) := by
  obtain ⟨cells, hcells, rfl⟩ := h
  have hempty : linkedListEmpty q.msg_list = true ↔ cells = [] := by
    rw [linkedListEmpty, hcells.head]
    cases cells <;> simp
  rw [MsgQ.waitLoop]
  rcases List.eq_nil_or_concat cells with rfl | ⟨front, c, rfl⟩
  · rw [hempty.mpr rfl, Bool.true_and]
    by_cases hunblocked : q.unblocked = true
    · rw [if_neg (by simp [hunblocked]), hcells.remove_nil]
      exact .fails hunblocked
    · rw [if_pos (by simpa using hunblocked)]
      exact .waits rfl (by simpa using hunblocked)
  · rw [List.concat_eq_append] at hcells hempty ⊢
    have hnotEmpty : linkedListEmpty q.msg_list = false := by
      rw [← Bool.not_eq_true, hempty]
      simp
    obtain ⟨msg_list, hremove, hfront⟩ := hcells.remove
    rw [hnotEmpty, Bool.false_and, if_neg Bool.false_ne_true, hremove]
    exact .message c.data_ptr c.dealloc_func _ (by simp) msg_list ⟨front, hfront, rfl⟩

/-- A send to a queue that is not unblocked adds the message as the last. -/
lemma holds_msgQSnd (h : q.Holds pending) (hblocked : q.unblocked = false) (msg : M)
    (dealloc : Option D) {elem : ℕ} (hfree : elem ∉ q.msg_list.memory) :
    ∃ msg_list, q.msgQSnd (some msg) dealloc elem =
        ({ q with msg_list := msg_list }, [.snd (some msg) dealloc .success]) ∧
      MsgQ.Holds { q with msg_list := msg_list } (pending ++ [(msg, dealloc)]) := by
  obtain ⟨cells, hcells, rfl⟩ := h
  obtain ⟨msg_list, hadd, hcells'⟩ := hcells.add hfree msg dealloc
  refine ⟨msg_list, ?_, _, hcells', by simp⟩
  rw [MsgQ.msgQSnd, hblocked, if_neg Bool.false_ne_true, hadd]
  rfl

/-- A flush discards all messages, beginning with the last. -/
lemma holds_msgQFlush (h : q.Holds pending) :
    ∃ msg_list, q.msgQFlush =
        ({ q with msg_list := msg_list }, MsgQ.flushOutputs pending.reverse .success) ∧
      MsgQ.Holds { q with msg_list := msg_list } [] := by
  obtain ⟨cells, hcells, rfl⟩ := h
  obtain ⟨msg_list, hflush, hempty⟩ := hcells.flush
  refine ⟨msg_list, ?_, [], hempty, rfl⟩
  rw [MsgQ.msgQFlush, hflush, List.map_reverse, List.reverse_reverse]
  rfl

lemma holds_msgQDestroy (h : q.Holds []) : q.msgQDestroy = MsgQ.flushOutputs [] .success := by
  obtain ⟨cells, hcells, hnil⟩ := h
  obtain rfl : cells = [] := by simpa using hnil
  obtain ⟨msg_list, hflush, -⟩ := hcells.flush
  rw [MsgQ.msgQDestroy, hflush]
  rfl

end Queue

/-- The thread has not begun to leave its loop. -/
def inLoop : LocThread.Worker → Bool
  | .absent | .enter | .testPrerun | .prerun | .testRun | .run | .running => true
  | _ => false

/-- How far `destroy()` is, and what the other parts of the task are like then. -/
def Phase (s : State M) : Prop :=
  match s.caller with
  | .use => s.mQ.unblocked = false ∧ (s.mThread = true ↔ s.thread.client ≠ .failed) ∧
      (s.thread.client = .create ∨ s.thread.client = .idle ∨
        s.thread.client.failing = true ∧ s.thread.worker = .absent)
  | .unblocked true => s.mQ.unblocked = true ∧ s.thread.client = .idle
  | .deleteThread => s.mQ.unblocked = true ∧ s.thread.worker ≠ .absent ∧
      s.thread.client.failing = false ∧ s.thread.client ≠ .create ∧ s.thread.client ≠ .idle
  | .unblocked false | .gone => s.mQ.unblocked = true ∧ s.thread.worker = .absent

/-- The parts of the task fit together. -/
structure Tied (s : State M) : Prop where
  sound : LocThread.Sound s.thread
  tracks : LocThread.Tracks s.thread
  receive : s.receive ≠ .call → s.thread.worker = .running
  waiting : ∀ call, s.receive = .wait call → call ∈ s.mQ.waiting
  inLoop : s.mQ.unblocked = false → inLoop s.thread.worker = true
  phase : Phase s

/-- The message that a call of `run()` has in its hands. -/
def Receive.msgs : Receive M → List M
  | .proc msg => [msg]
  | _ => []

/-- How a call of `run()` gets on, while the queue holds `pending`. -/
inductive Run (s : State M) (pending : List (M × Option Dealloc)) :
    State M × List (Output M) → Prop
  | waits (mQ : MsgQ M Dealloc) (call : ℕ) (hpending : pending = []) (hholds : mQ.Holds [])
      (hmsgs : s.receive.msgs = []) (hblocked : s.mQ.unblocked = false)
      (hunblocked : mQ.unblocked = false) (hcall : call ∈ mQ.waiting) :
      Run s pending ({ s with mQ := mQ, receive := .wait call }, [])
  | message (mQ : MsgQ M Dealloc) (call : ℕ) (msg : M) (dealloc : Option Dealloc)
      (rest : List (M × Option Dealloc)) (hpending : pending = (msg, dealloc) :: rest)
      (hholds : mQ.Holds rest) (hmsgs : s.receive.msgs = [])
      (hunblocked : mQ.unblocked = s.mQ.unblocked)
      (hlate : s.mQ.unblocked = true → s.receive ≠ .call) :
      Run s pending ({ s with mQ := mQ, receive := .proc msg },
        [.queue (.rcv call (some msg) .success)])
  | fails (mQ : MsgQ M Dealloc) (call : ℕ) (hholds : mQ.Holds pending)
      (hmsgs : s.receive.msgs = []) (hunblocked : s.mQ.unblocked = true)
      (hstill : mQ.unblocked = true) :
      Run s pending
        ({ s with mQ := mQ, receive := .call, thread := { s.thread with worker := .testPostrun } },
          [.queue (.rcv call none .unavailableResource), .thread (.ran false)])
  | proc (msg : M) (hproc : s.receive = .proc msg) :
      Run s pending
        ({ s with receive := .call, thread := { s.thread with worker := .testRun } },
          [.proc msg, .deleteMsg msg, .thread (.ran true)])

section Steps

variable {s : State M} {pending : List (M × Option Dealloc)}

/-- The task is there while the thread has it in its hands. -/
lemma Tied.alive (h : Tied s) (hw : s.thread.worker.uses = true) : s.alive = true := by
  have hphase := h.phase
  rw [State.alive, h.sound.runnable hw, Bool.true_and]
  cases hcaller : s.caller with
  | gone =>
      rw [Phase, hcaller] at hphase
      rw [hphase.2] at hw
      cases hw
  | _ => rfl

lemma threadStep_running (hw : s.thread.worker = .running) (hrunnable : s.thread.runnable = true)
    (again : Bool) : s.threadStep (.worker again) =
      ({ s with thread :=
          { s.thread with worker := if again then .testRun else .testPostrun } },
        [.thread (.ran again)]) := by
  simp [State.threadStep, LocThread.step, LocThread.workerStep, LocThread.State.call, hw, hrunnable]

/-- A receive, from a queue that differs from the task's in the receives that wait. -/
lemma run_received (hw : s.thread.worker = .running) (hrunnable : s.thread.runnable = true)
    (hmsgs : s.receive.msgs = []) {q : MsgQ M Dealloc} (hq : q.unblocked = s.mQ.unblocked)
    (hholds : q.Holds pending) {call : ℕ} {r : MsgQ M Dealloc × List (MsgQ.Output M Dealloc)}
    (hlate : s.mQ.unblocked = true → s.receive = .call →
      r.2 = [.rcv call none .unavailableResource])
    (h : Rcv q pending call r) : Run s pending (s.received call r) := by
  cases h with
  | waits hpending hblocked =>
      subst hpending
      exact .waits _ call rfl hholds hmsgs (hq ▸ hblocked) hblocked List.mem_cons_self
  | fails hunblocked =>
      have hreceived := threadStep_running (s := { s with mQ := q, receive := .call }) hw hrunnable
        false
      simp only [State.received, hreceived]
      exact .fails q call hholds hmsgs (hq ▸ hunblocked) hunblocked
  | message msg dealloc rest hpending msg_list hrest =>
      refine .message _ call msg dealloc rest hpending hrest hmsgs hq fun hunblocked hcall => ?_
      cases hlate hunblocked hcall

/-- **A call of `run()`.** -/
lemma run_run (h : Tied s) (hw : s.thread.worker = .running) (hholds : s.mQ.Holds pending) :
    Run s pending s.run := by
  have hrunnable : s.thread.runnable = true := h.sound.runnable (congrArg LocThread.Worker.uses hw)
  rw [State.run]
  cases hreceive : s.receive with
  | call =>
      have hmsgs : s.receive.msgs = [] := by rw [hreceive]; rfl
      refine run_received hw hrunnable hmsgs (q := { s.mQ with calls := s.mQ.calls + 1 }) rfl hholds
        (fun hunblocked _ => by simp [MsgQ.msgQRcv, hunblocked]) ?_
      rw [MsgQ.msgQRcv]
      split_ifs with hunblocked
      · exact .fails hunblocked
      · exact rcv_waitLoop (q := { s.mQ with calls := s.mQ.calls + 1 }) hholds s.mQ.calls
  | wait call =>
      have hmsgs : s.receive.msgs = [] := by rw [hreceive]; rfl
      refine run_received hw hrunnable hmsgs
        (q := { s.mQ with waiting := s.mQ.waiting.erase call }) rfl hholds
        (fun _ hcall => by cases hreceive.symm.trans hcall) ?_
      simp only [MsgQ.wake, if_pos (h.waiting call hreceive)]
      exact rcv_waitLoop (q := { s.mQ with waiting := s.mQ.waiting.erase call }) hholds call
  | proc msg =>
      have hstep := threadStep_running (s := { s with receive := .call }) hw hrunnable true
      simp only [hstep]
      exact .proc msg hreceive

/-- What a step of the thread does to where it is, unless it is in `run()`. -/
lemma workerStep_looping {t : LocThread.State} (hsound : LocThread.Sound t)
    (hw : t.worker ≠ .running) (again : Bool) :
    ((LocThread.workerStep t again).1.worker = .absent ↔ t.worker = .absent) ∧
      ((∀ d, t.delegate = some d → d.mRunnable = true) → inLoop t.worker = true →
        inLoop (LocThread.workerStep t again).1.worker = true) := by
  cases hworker : t.worker with
  | running => exact absurd hworker hw
  | absent | exited => simp [LocThread.workerStep, hworker]
  | destroy pc =>
      obtain ⟨delegate, w, hstep, -, hw'⟩ := LocThread.workerDestroy_spec t hworker
      obtain ⟨-, -, habsent⟩ := LocThread.worker_destroying hw'
      simp only [LocThread.workerStep, hworker, hstep]
      exact ⟨iff_of_false habsent (by simp), fun _ hloop => Bool.noConfusion hloop⟩
  | _ =>
      obtain ⟨d, hd, -⟩ := hsound.access true
        (by simp [LocThread.State.share, LocThread.Worker.share, hworker]) fun _ => (t, [])
      simp only [LocThread.workerStep, LocThread.State.access, LocThread.State.call, hworker, hd]
      grind -linarith [inLoop]

/-- While the owner uses the task, `mRunnable` has not been cleared. -/
lemma Tied.mRunnable (h : Tied s) (hblocked : s.mQ.unblocked = false)
    (habsent : s.thread.worker ≠ .absent) :
    ∀ d, s.thread.delegate = some d → d.mRunnable = true := by
  have hloop := h.inLoop hblocked
  have hphase := h.phase
  have hstopping : s.thread.client.stopping = false := by
    rw [Phase] at hphase
    cases hcaller : s.caller with
    | use =>
        simp only [hcaller] at hphase
        rcases hphase.2.2 with hc | hc | ⟨-, hw⟩
        · rw [hc]; rfl
        · rw [hc]; rfl
        · exact absurd hw habsent
    | unblocked thread =>
        cases thread <;> simp only [hcaller] at hphase <;> cases hblocked.symm.trans hphase.1
    | deleteThread | gone =>
        simp only [hcaller] at hphase
        cases hblocked.symm.trans hphase.1
  refine h.tracks.running hstopping ?_ habsent
  revert hloop
  cases s.thread.worker <;> simp [MsgTask.inLoop, LocThread.Worker.cleared]

lemma phase_congr (h : Phase s) {s' : State M} (hcaller : s'.caller = s.caller)
    (hunblocked : s'.mQ.unblocked = s.mQ.unblocked) (hmThread : s'.mThread = s.mThread)
    (hclient : s'.thread.client = s.thread.client)
    (hworker : s'.thread.worker = .absent ↔ s.thread.worker = .absent) : Phase s' := by
  rw [Phase] at h ⊢
  rw [hcaller, hunblocked, hmThread, hclient]
  cases hc : s.caller with
  | unblocked thread => cases thread <;> simp only [hc] at h ⊢ <;> grind -linarith
  | _ => simp only [hc] at h ⊢; grind -linarith

lemma tied_thread_worker (h : Tied s) (hw : s.thread.worker ≠ .running) :
    Tied (s.threadStep (.worker false)).1 := by
  have hcall : s.receive = .call := by
    by_contra hne
    exact hw (h.receive hne)
  obtain ⟨habsent, hloop⟩ := workerStep_looping h.sound hw false
  have hclient := (LocThread.workerStep_client s.thread false).1
  refine ⟨(LocThread.keeps_step h.sound _).sound, LocThread.tracks_step h.tracks _,
    fun hne => absurd hcall hne, h.waiting, fun hblocked => ?_,
    phase_congr h.phase rfl rfl rfl hclient habsent⟩
  by_cases hnone : s.thread.worker = .absent
  · exact (congrArg inLoop (habsent.mpr hnone)).trans rfl
  · exact hloop (h.mRunnable hblocked hnone) (h.inLoop hblocked)

lemma tied_run (h : Tied s) (hw : s.thread.worker = .running) {r : State M × List (Output M)}
    (hrun : Run s pending r) : Tied r.1 := by
  have hrunnable : s.thread.runnable = true := h.sound.runnable (congrArg LocThread.Worker.uses hw)
  have hstep : ∀ again, (LocThread.step s.thread (.worker again)).1 =
      { s.thread with worker := if again then .testRun else .testPostrun } := fun again =>
    congrArg (fun r => r.1.thread) (threadStep_running hw hrunnable again)
  have hmoved : ∀ again : Bool,
      LocThread.Sound { s.thread with worker := if again then .testRun else .testPostrun } ∧
        LocThread.Tracks { s.thread with worker := if again then .testRun else .testPostrun } :=
    fun again : Bool => hstep again ▸
      ⟨(LocThread.keeps_step h.sound _).sound, LocThread.tracks_step h.tracks _⟩
  have habsent : s.thread.worker ≠ .absent := by simp [hw]
  cases hrun with
  | waits mQ call hpending hholds hmsgs hblocked hunblocked hcall =>
      refine ⟨h.sound, h.tracks, fun _ => hw, ?_, fun _ => h.inLoop hblocked,
        phase_congr h.phase rfl (hunblocked.trans hblocked.symm) rfl rfl Iff.rfl⟩
      rintro call' ⟨⟩
      exact hcall
  | message mQ call msg dealloc rest hpending hholds hmsgs hunblocked hlate =>
      exact ⟨h.sound, h.tracks, fun _ => hw, (by simp),
        fun hblocked => h.inLoop (hunblocked ▸ hblocked),
        phase_congr h.phase rfl hunblocked rfl rfl Iff.rfl⟩
  | fails mQ call hholds hmsgs hunblocked hstill =>
      refine ⟨(hmoved false).1, (hmoved false).2, fun hne => absurd rfl hne, (by simp), ?_,
        phase_congr h.phase rfl (hstill.trans hunblocked.symm) rfl rfl
          (iff_of_false (by simp) habsent)⟩
      intro hblocked
      cases hstill.symm.trans hblocked
  | proc msg hproc =>
      exact ⟨(hmoved true).1, (hmoved true).2, fun hne => absurd rfl hne, nofun, fun _ => rfl,
        phase_congr h.phase rfl rfl rfl rfl (iff_of_false (by simp) habsent)⟩

lemma destructor_spec (hholds : s.mQ.Holds pending) :
    ∃ msg_list, s.destructor = ({ s with mQ := { s.mQ with msg_list := msg_list } },
      (MsgQ.flushOutputs pending.reverse .success ++ MsgQ.flushOutputs [] .success).map .queue) ∧
      MsgQ.Holds { s.mQ with msg_list := msg_list } [] := by
  obtain ⟨msg_list, hflush, hempty⟩ := holds_msgQFlush hholds
  exact ⟨msg_list, by rw [State.destructor, hflush, holds_msgQDestroy hempty], hempty⟩

/-- A step of the thread, by where it is. -/
inductive WorkerStep (s : State M) (pending : List (M × Option Dealloc)) :
    State M × List (Output M) → Prop
  | plain (hw : s.thread.worker ≠ .running) (hdelete : s.thread.worker ≠ .deleteRunnable) :
      WorkerStep s pending (s.threadStep (.worker false))
  | run (hw : s.thread.worker = .running) (r : State M × List (Output M)) (hrun : Run s pending r) :
      WorkerStep s pending r
  | delete (hw : s.thread.worker = .deleteRunnable) (msg_list : ListState M Dealloc)
      (hempty : MsgQ.Holds { s.mQ with msg_list := msg_list } []) :
      WorkerStep s pending
        ({ s with
            mQ := { s.mQ with msg_list := msg_list }
            thread := { s.thread with runnable := false, worker := .destroy .test } },
          (MsgQ.flushOutputs pending.reverse .success ++
              MsgQ.flushOutputs [] .success).map .queue ++ [.thread .deletedRunnable])

lemma workerStep_workerStep (h : Tied s) (hholds : s.mQ.Holds pending) :
    WorkerStep s pending s.workerStep := by
  rw [State.workerStep]
  cases hw : s.thread.worker with
  | running =>
      simp only [State.access, h.alive (congrArg LocThread.Worker.uses hw), if_true]
      exact .run hw _ (run_run h hw hholds)
  | deleteRunnable =>
      have huses := congrArg LocThread.Worker.uses hw
      obtain ⟨msg_list, hdestructor, hempty⟩ := destructor_spec hholds
      simp only [State.access, h.alive huses, if_true, hdestructor, State.threadStep,
        LocThread.step, LocThread.workerStep, hw, LocThread.State.call, h.sound.runnable huses,
        List.map_cons, List.map_nil]
      exact .delete hw msg_list hempty
  | _ => exact .plain (by simp [hw]) (by simp [hw])

lemma tied_workerStep (h : Tied s) {r : State M × List (Output M)}
    (hstep : WorkerStep s pending r) : Tied r.1 := by
  cases hstep with
  | plain hw hdelete => exact tied_thread_worker h hw
  | run hw r hrun => exact tied_run h hw hrun
  | delete hw msg_list hempty =>
      have hthread : (LocThread.step s.thread (.worker false)).1 =
          { s.thread with runnable := false, worker := .destroy .test } := by
        simp only [LocThread.step, LocThread.workerStep, hw, LocThread.State.call]
      have hne : s.thread.worker ≠ .running := by simp [hw]
      have hcall : s.receive = .call := by
        by_contra hreceive
        exact hne (h.receive hreceive)
      refine ⟨hthread ▸ (LocThread.keeps_step h.sound _).sound,
        hthread ▸ LocThread.tracks_step h.tracks _, fun hreceive => absurd hcall hreceive,
        fun call hwait => h.waiting call hwait, fun hblocked => ?_,
        phase_congr h.phase rfl rfl rfl rfl (iff_of_false (by simp) (by simp [hw]))⟩
      have hloop := h.inLoop hblocked
      rw [hw] at hloop
      cases hloop

/-- The client of the thread goes on in the constructor. -/
lemma phase_create (h : Tied s) (hcaller : s.caller = .use) :
    let t := (LocThread.step s.thread .client).1
    t.client = .create ∨ t.client = .idle ∨ t.client.failing = true ∧ t.worker = .absent := by
  intro t
  have hphase := h.phase
  simp only [Phase, hcaller] at hphase
  have hworker : t.worker = s.thread.worker := (LocThread.clientStep_worker s.thread).1
  rw [hworker]
  rcases hphase.2.2 with hc | hc | ⟨hfailing, habsent⟩
  · obtain ⟨d, hd, -⟩ := h.sound.access false
      (by simp [LocThread.State.share, LocThread.Client.share, hc]) fun _ => (s.thread, [])
    by_cases hnone : s.thread.worker = .absent
    · simp only [t, LocThread.step, LocThread.clientStep, LocThread.State.access, hc, hd]
      split_ifs
      · exact .inr (.inl rfl)
      · exact .inr (.inr ⟨rfl, hnone⟩)
    · simp only [t, LocThread.step, LocThread.clientStep, LocThread.State.access, hc, hd,
        h.mRunnable hphase.1 hnone d hd, if_true]
      exact .inr (.inl trivial)
  · have hstay : t = s.thread := by simp only [t, LocThread.step, LocThread.clientStep, hc]
    exact .inr (.inl (hstay ▸ hc))
  · refine .inr (.inr ⟨?_, habsent⟩)
    cases hc : s.thread.client with
    | destroy failed pc =>
        obtain ⟨delegate, c, hstep, -, hc'⟩ := LocThread.clientDestroy_spec s.thread hc
        obtain ⟨-, hfailing', -⟩ := LocThread.client_destroying hc'
        obtain ⟨-, hfailing'', -⟩ := LocThread.client_destroying (.inl ⟨pc, hc⟩)
        simp only [t, LocThread.step, LocThread.clientStep, hc, hstep, hfailing']
        exact hfailing''.symm.trans hfailing
    | failed =>
        simp only [t, LocThread.step, LocThread.clientStep, hc]
        rfl
    | _ =>
        rw [hc] at hfailing
        cases hfailing

/-- The client of the thread goes on in `bye()`. -/
lemma phase_deleteThread (hfailing : s.thread.client.failing = false)
    (hcreate : s.thread.client ≠ .create) (hidle : s.thread.client ≠ .idle) :
    let t := (LocThread.step s.thread .client).1
    t.client.failing = false ∧ t.client ≠ .create ∧ t.client ≠ .idle := by
  intro t
  cases hc : s.thread.client with
  | destroy failed pc =>
      obtain ⟨delegate, c, hstep, -, hc'⟩ := LocThread.clientDestroy_spec s.thread hc
      obtain ⟨-, hfailing', hcreate'⟩ := LocThread.client_destroying hc'
      obtain ⟨-, hfailing'', -⟩ := LocThread.client_destroying (.inl ⟨pc, hc⟩)
      simp only [t, LocThread.step, LocThread.clientStep, hc, hstep]
      refine ⟨hfailing'.trans (hfailing''.symm.trans hfailing), hcreate', ?_⟩
      rcases hc' with ⟨pc', rfl⟩ | rfl
      · simp
      · cases failed <;> simp
  | _ =>
      simp only [t, LocThread.step, LocThread.clientStep, LocThread.State.access, hc]
      grind -linarith [LocThread.Client.failing]

lemma mThread_create (h : s.mThread = true ↔ s.thread.client ≠ .failed) :
    let r := LocThread.step s.thread .client
    (s.mThread && !r.2.contains (.started false)) = true ↔ r.1.client ≠ .failed := by
  intro r
  have hfailed := (LocThread.started_step s.thread .client).2
  rw [Bool.and_eq_true, Bool.not_eq_true', h, ← Bool.not_eq_true, List.contains_iff_mem, ← not_or,
    ← hfailed]

lemma tied_callerStep (h : Tied s) (hholds : s.mQ.Holds pending) : Tied s.callerStep.1 := by
  have hphase := h.phase
  have hworker : (LocThread.step s.thread .client).1.worker = s.thread.worker :=
    (LocThread.clientStep_worker s.thread).1
  have hsound := (LocThread.keeps_step h.sound .client).sound
  have htracks := LocThread.tracks_step h.tracks .client
  rw [State.callerStep]
  cases hcaller : s.caller with
  | use =>
      have hcreate := phase_create h hcaller
      simp only [Phase, hcaller] at hphase
      refine ⟨hsound, htracks, fun hne => hworker.trans (h.receive hne), h.waiting,
        fun hblocked => (congrArg inLoop hworker).trans (h.inLoop hblocked), ?_⟩
      simp only [Phase]
      exact ⟨hphase.1, mThread_create hphase.2.1, hcreate⟩
  | unblocked thread =>
      cases thread with
      | true =>
          simp only [Phase, hcaller] at hphase
          simp only [State.access]
          split_ifs
          · have habsent : s.thread.worker ≠ .absent := by
              intro hnone
              rcases (h.tracks.absent hnone).2.1 with hc | hc
              · cases hphase.2.symm.trans hc
              · rw [hphase.2] at hc
                cases hc
            refine ⟨(LocThread.keeps_step h.sound .bye).sound, LocThread.tracks_step h.tracks .bye,
              h.receive, h.waiting, h.inLoop, hphase.1, habsent, ?_⟩
            simp only [State.threadStep, LocThread.step, hphase.2, if_true]
            exact ⟨rfl, (by simp), (by simp)⟩
          · exact h
      | false =>
          simp only [Phase, hcaller] at hphase
          obtain ⟨msg_list, hdestructor, hempty⟩ := destructor_spec hholds
          simp only [State.access, hdestructor]
          split_ifs
          · exact ⟨h.sound, h.tracks, h.receive, h.waiting, h.inLoop, hphase⟩
          · exact h
  | deleteThread =>
      simp only [Phase, hcaller] at hphase
      obtain ⟨hunblocked, habsent, hfailing, hcreate, hidle⟩ := hphase
      refine ⟨hsound, htracks, fun hne => hworker.trans (h.receive hne), h.waiting,
        fun hblocked => (congrArg inLoop hworker).trans (h.inLoop hblocked), ?_⟩
      simp only [Phase, State.threadStep, hcaller]
      exact ⟨hunblocked, fun hnone => habsent (hworker.symm.trans hnone),
        phase_deleteThread hfailing hcreate hidle⟩
  | gone => exact h

lemma tied_destroy (h : Tied s) (hready : s.ready = true) : Tied s.destroy.1 := by
  have hphase := h.phase
  rw [State.ready, Bool.and_eq_true, beq_iff_eq, Bool.or_eq_true, beq_iff_eq, beq_iff_eq] at hready
  obtain ⟨hcaller, hclient⟩ := hready
  simp only [Phase, hcaller] at hphase
  obtain ⟨hblocked, hmThread, hfailing⟩ := hphase
  have hunblock : s.mQ.msgQUnblock = ({ s.mQ with unblocked := true }, [.ret .success]) := by
    rw [MsgQ.msgQUnblock, if_neg (by simp [hblocked])]
  simp only [State.destroy, State.access, hunblock]
  split_ifs
  · refine ⟨h.sound, h.tracks, h.receive, h.waiting, (by simp), ?_⟩
    rw [Phase]
    cases hm : s.mThread with
    | true => exact ⟨rfl, hclient.resolve_right (hmThread.mp hm)⟩
    | false =>
        have hfailed : s.thread.client = .failed := by
          by_contra hne
          cases hm.symm.trans (hmThread.mpr hne)
        refine ⟨rfl, ?_⟩
        rw [hfailed] at hfailing
        exact (hfailing.resolve_left (by simp)).resolve_left (by simp) |>.2
  · exact h

lemma tied_sendMsg (h : Tied s) (msg : Option M) (elem : ℕ) : Tied (s.sendMsg msg elem).1 := by
  cases msg with
  | none => exact h
  | some msg =>
      rw [State.sendMsg, State.access]
      have hframe : (s.mQ.msgQSnd (some msg) (some .LocMsgDestroy) elem).1.unblocked =
            s.mQ.unblocked ∧
          (s.mQ.msgQSnd (some msg) (some .LocMsgDestroy) elem).1.waiting = s.mQ.waiting := by
        rw [MsgQ.msgQSnd]
        split_ifs
        · exact ⟨rfl, rfl⟩
        · cases linkedListAdd s.mQ.msg_list (some msg) (some .LocMsgDestroy) elem with
          | none => exact ⟨rfl, rfl⟩
          | some r => exact ⟨rfl, rfl⟩
      split_ifs
      · exact ⟨h.sound, h.tracks, h.receive, fun call hwait => hframe.2 ▸ h.waiting call hwait,
          fun hblocked => h.inLoop (hframe.1 ▸ hblocked),
          phase_congr h.phase rfl hframe.1 rfl rfl Iff.rfl⟩
      · exact h

/-- **One step of anyone.** -/
lemma tied_step (h : Tied s) (hholds : s.mQ.Holds pending) (e : Event M) : Tied (step s e).1 := by
  cases e with
  | caller => exact tied_callerStep h hholds
  | destroy =>
      rw [step]
      split_ifs with hready
      · exact tied_destroy h hready
      · exact h
  | sendMsg msg elem => exact tied_sendMsg h msg elem
  | worker => exact tied_workerStep h (workerStep_workerStep h hholds)

lemma tied_init (created joinable : Bool) : Tied (init created joinable : State M) where
  sound := LocThread.sound_init created joinable
  tracks := LocThread.tracks_init created joinable
  receive h := absurd rfl h
  waiting _ h := nomatch h
  inLoop _ := by cases created <;> rfl
  phase := by cases created <;> exact ⟨rfl, by simp [init, LocThread.init], .inl rfl⟩

end Steps

/-! ## The messages -/

namespace Output

/-- A message that the queue has taken. -/
def accepted : Output M → Option M
  | .queue o => o.sent.map Prod.fst
  | _ => none

/-- A message that is processed. -/
def processed : Output M → Option M
  | .proc msg => some msg
  | _ => none

/-- A message that is deleted, by `run()` or by `LocMsgDestroy`. -/
def deleted : Output M → Option M
  | .deleteMsg msg => some msg
  | .queue o => o.deallocCall.map Prod.snd
  | _ => none

end Output

/-- What has become of the messages: `accepted`, `processed` and `deleted` so far, and the queue
holds `pending`. -/
structure Ledger (s : State M) (accepted processed deleted : List M)
    (pending : List (M × Option Dealloc)) : Prop where
  holds : s.mQ.Holds pending
  dealloc : ∀ e ∈ pending, e.2 = some .LocMsgDestroy
  alive : s.alive = true →
    accepted = processed ++ s.receive.msgs ++ pending.map Prod.fst ∧ deleted = processed
  dead : s.alive = false →
    ∃ rest, accepted = processed ++ rest ∧ deleted = processed ++ rest.reverse

/-- The ledger goes on with what a step outputs. -/
def Ledger.Next (r : State M × List (Output M)) (accepted processed deleted : List M) : Prop :=
  ∃ pending, Ledger r.1 (accepted ++ r.2.filterMap Output.accepted)
    (processed ++ r.2.filterMap Output.processed) (deleted ++ r.2.filterMap Output.deleted) pending

section Ledger

variable {s : State M} {accepted processed deleted : List M}
  {pending : List (M × Option Dealloc)}

/-- A step that is about no message. -/
lemma Ledger.quiet (h : Ledger s accepted processed deleted pending) {s' : State M}
    {out : List (Output M)} (hout : ∀ o ∈ out, o.accepted = none ∧ o.processed = none ∧
      o.deleted = none) (hholds : s'.mQ.Holds pending) (halive : s'.alive = s.alive)
    (hmsgs : s'.receive.msgs = s.receive.msgs) :
    Ledger.Next (s', out) accepted processed deleted := by
  refine ⟨pending, ?_⟩
  rw [List.filterMap_eq_nil_iff.mpr fun o ho => (hout o ho).1,
    List.filterMap_eq_nil_iff.mpr fun o ho => (hout o ho).2.1,
    List.filterMap_eq_nil_iff.mpr fun o ho => (hout o ho).2.2,
    List.append_nil, List.append_nil, List.append_nil]
  exact ⟨hholds, h.dealloc, fun hs => hmsgs ▸ h.alive (halive ▸ hs), fun hs => h.dead (halive ▸ hs)⟩

lemma thread_quiet (out : List LocThread.Output) :
    ∀ o ∈ out.map (Output.thread (M := M)),
      o.accepted = none ∧ o.processed = none ∧ o.deleted = none := by
  intro o ho
  obtain ⟨o', -, rfl⟩ := List.mem_map.mp ho
  exact ⟨rfl, rfl, rfl⟩

lemma workerStep_runnable {t : LocThread.State} (hw : t.worker ≠ .deleteRunnable) (again : Bool) :
    (LocThread.workerStep t again).1.runnable = t.runnable := by
  cases hworker : t.worker with
  | deleteRunnable => exact absurd hworker hw
  | destroy pc =>
      obtain ⟨delegate, w, hstep, -, -⟩ := LocThread.workerDestroy_spec t hworker
      simp only [LocThread.workerStep, hworker, hstep]
  | _ =>
      cases hd : t.delegate <;>
        simp [LocThread.workerStep, LocThread.State.access, LocThread.State.call, hworker, hd]

lemma clientStep_runnable (t : LocThread.State) :
    (LocThread.clientStep t).1.runnable = t.runnable := by
  cases hclient : t.client with
  | destroy failed pc =>
      obtain ⟨delegate, c, hstep, -, -⟩ := LocThread.clientDestroy_spec t hclient
      simp only [LocThread.clientStep, hclient, hstep]
  | create =>
      cases hd : t.delegate with
      | none => simp [LocThread.clientStep, LocThread.State.access, hclient, hd]
      | some d => cases hr : d.mRunnable <;>
          simp [LocThread.clientStep, LocThread.State.access, hclient, hd, hr]
  | _ =>
      cases hd : t.delegate <;>
        simp [LocThread.clientStep, LocThread.State.access, hclient, hd]

lemma processed_queue (out : List (MsgQ.Output M Dealloc)) :
    (out.map (Output.queue (M := M))).filterMap Output.processed = [] :=
  List.filterMap_map.trans (List.filterMap_eq_nil_iff.mpr fun _ _ => rfl)

/-- What the destructor outputs. -/
lemma destructor_outputs (pending : List (M × Option Dealloc))
    (hdealloc : ∀ e ∈ pending, e.2 = some .LocMsgDestroy) :
    let out := (MsgQ.flushOutputs pending.reverse .success ++
      MsgQ.flushOutputs [] .success).map (Output.queue (M := M))
    out.filterMap Output.accepted = [] ∧ out.filterMap Output.processed = [] ∧
      out.filterMap Output.deleted = (pending.map Prod.fst).reverse := by
  intro out
  have hcalls : (MsgQ.flushOutputs pending.reverse .success).filterMap MsgQ.Output.deallocCall =
      (pending.map Prod.fst).reverse.map fun msg => (.LocMsgDestroy, msg) := by
    rw [MsgQ.deallocCall_flushOutputs, deallocCalls, ← List.map_reverse, List.map_map,
      ← List.filterMap_eq_map]
    refine List.filterMap_congr fun e he => ?_
    rw [hdealloc e (List.mem_reverse.mp he)]
    rfl
  refine ⟨?_, ?_, ?_⟩
  · have hsent : ∀ elements : List (M × Option Dealloc),
        (MsgQ.flushOutputs elements .success).filterMap (fun o => o.sent.map Prod.fst) = [] := by
      intro elements
      rw [← List.map_filterMap, MsgQ.sent_flushOutputs, List.map_nil]
    exact List.filterMap_map.trans (by
      rw [List.filterMap_append]
      exact congrArg₂ (· ++ ·) (hsent _) (hsent _))
  · exact processed_queue _
  · have hdeleted : ∀ elements : List (M × Option Dealloc),
        (MsgQ.flushOutputs elements .success).filterMap
          (fun o => o.deallocCall.map Prod.snd) = (deallocCalls elements).map Prod.snd := by
      intro elements
      rw [← List.map_filterMap, MsgQ.deallocCall_flushOutputs]
    refine List.filterMap_map.trans ?_
    rw [List.filterMap_append]
    refine (congrArg₂ (· ++ ·) (hdeleted _) (hdeleted _)).trans ?_
    rw [← MsgQ.deallocCall_flushOutputs pending.reverse .success, hcalls]
    simp [deallocCalls]

/-- The destructor deletes what is left in the queue. -/
lemma Ledger.destructor (h : Ledger s accepted processed deleted pending) (halive : s.alive = true)
    (hmsgs : s.receive.msgs = []) {s' : State M} (hholds : s'.mQ.Holds [])
    (hdead : s'.alive = false) {out : List (Output M)}
    (hout : ∀ o ∈ out, o.accepted = none ∧ o.processed = none ∧ o.deleted = none) :
    Ledger.Next (s', (MsgQ.flushOutputs pending.reverse .success ++
      MsgQ.flushOutputs [] .success).map .queue ++ out) accepted processed deleted := by
  obtain ⟨haccepted, rfl⟩ := h.alive halive
  obtain ⟨hnone, hproc, hdeleted⟩ := destructor_outputs pending h.dealloc
  refine ⟨[], hholds, nofun, fun hs => ?_, fun _ => ⟨pending.map Prod.fst, ?_, ?_⟩⟩
  · cases hdead.symm.trans hs
  · rw [List.filterMap_append, hnone, List.filterMap_append, hproc,
      List.filterMap_eq_nil_iff.mpr fun o ho => (hout o ho).1,
      List.filterMap_eq_nil_iff.mpr fun o ho => (hout o ho).2.1, haccepted, hmsgs]
    simp
  · rw [List.filterMap_append, hdeleted, List.filterMap_append, hproc,
      List.filterMap_eq_nil_iff.mpr fun o ho => (hout o ho).2.1,
      List.filterMap_eq_nil_iff.mpr fun o ho => (hout o ho).2.2]
    simp

lemma Ledger.run (h : Ledger s accepted processed deleted pending) (halive : s.alive = true)
    {r : State M × List (Output M)} (hrun : Run s pending r) :
    Ledger.Next r accepted processed deleted := by
  obtain ⟨haccepted, rfl⟩ := h.alive halive
  have hlive : ∀ {s' : State M}, s'.alive = true → ∀ {P : Prop}, s'.alive = false → P :=
    fun hs _ hdead => nomatch hs.symm.trans hdead
  cases hrun with
  | waits mQ call hpending hholds hmsgs hblocked hunblocked hcall =>
      subst hpending
      refine ⟨[], hholds, nofun, fun _ => ⟨?_, rfl⟩, fun hdead => hlive halive hdead⟩
      rw [haccepted, hmsgs]
      simp [Receive.msgs]
  | message mQ call msg dealloc rest hpending hholds hmsgs hunblocked hlate =>
      subst hpending
      refine ⟨rest, hholds, fun e he => h.dealloc e (List.mem_cons_of_mem _ he),
        fun _ => ⟨?_, rfl⟩, fun hdead => hlive halive hdead⟩
      rw [haccepted, hmsgs]
      simp [List.filterMap_cons, Receive.msgs, Output.accepted, Output.processed, MsgQ.Output.sent]
  | fails mQ call hholds hmsgs hunblocked hstill =>
      refine ⟨pending, hholds, h.dealloc, fun _ => ⟨?_, rfl⟩, fun hdead => hlive halive hdead⟩
      rw [haccepted, hmsgs]
      simp [List.filterMap_cons, Receive.msgs, Output.accepted, Output.processed, MsgQ.Output.sent]
  | proc msg hproc =>
      refine ⟨pending, h.holds, h.dealloc, fun _ => ⟨?_, rfl⟩, fun hdead => hlive halive hdead⟩
      rw [haccepted, hproc]
      simp [List.filterMap_cons, Receive.msgs, Output.accepted, Output.processed]

lemma Ledger.workerStep (ht : Tied s) (h : Ledger s accepted processed deleted pending)
    {r : State M × List (Output M)} (hstep : WorkerStep s pending r) :
    Ledger.Next r accepted processed deleted := by
  cases hstep with
  | plain hw hdelete =>
      refine h.quiet (thread_quiet _) h.holds ?_ rfl
      exact congrArg (· && !s.caller.deleted) (workerStep_runnable hdelete false)
  | run hw r hrun => exact h.run (ht.alive (congrArg LocThread.Worker.uses hw)) hrun
  | delete hw msg_list hempty =>
      have hmsgs : s.receive.msgs = [] := by
        cases hreceive : s.receive with
        | proc msg =>
            have hrunning := ht.receive (by rw [hreceive]; exact nofun)
            cases hw.symm.trans hrunning
        | _ => rfl
      refine h.destructor (ht.alive (congrArg LocThread.Worker.uses hw)) hmsgs hempty rfl ?_
      intro o ho
      obtain rfl := List.mem_singleton.mp ho
      exact ⟨rfl, rfl, rfl⟩

lemma Ledger.sendMsg (h : Ledger s accepted processed deleted pending) (msg : Option M) {elem : ℕ}
    (hfresh : elem ∉ s.mQ.msg_list.memory) :
    Ledger.Next (s.sendMsg msg elem) accepted processed deleted := by
  cases msg with
  | none => exact h.quiet nofun h.holds rfl rfl
  | some msg =>
      rw [State.sendMsg, State.access]
      split_ifs with halive
      · by_cases hunblocked : s.mQ.unblocked = true
        · rw [MsgQ.msgQSnd, if_pos hunblocked]
          refine h.quiet ?_ h.holds rfl rfl
          rintro o ho
          obtain rfl := List.mem_singleton.mp ho
          exact ⟨rfl, rfl, rfl⟩
        · obtain ⟨msg_list, hsnd, hholds⟩ := holds_msgQSnd h.holds (by simpa using hunblocked) msg
            (some .LocMsgDestroy) hfresh
          obtain ⟨haccepted, rfl⟩ := h.alive halive
          rw [hsnd]
          refine ⟨_, hholds, ?_, fun _ => ⟨?_, ?_⟩, fun hdead => ?_⟩
          · intro e he
            rcases List.mem_append.mp he with he | he
            · exact h.dealloc e he
            · obtain rfl := List.mem_singleton.mp he
              rfl
          · rw [haccepted]
            simp [List.filterMap_cons, Output.accepted, Output.processed, MsgQ.Output.sent]
          · simp [List.filterMap_cons, Output.deleted, Output.processed, MsgQ.Output.deallocCall]
          · cases hdead.symm.trans halive
      · refine h.quiet ?_ h.holds rfl rfl
        rintro o ho
        obtain rfl := List.mem_singleton.mp ho
        exact ⟨rfl, rfl, rfl⟩

lemma Ledger.callerStep (ht : Tied s) (h : Ledger s accepted processed deleted pending) :
    Ledger.Next s.callerStep accepted processed deleted := by
  have halive : (LocThread.step s.thread .client).1.runnable = s.thread.runnable :=
    clientStep_runnable s.thread
  have hfault : ∀ o ∈ [(.fault : Output M)],
      o.accepted = none ∧ o.processed = none ∧ o.deleted = none := by
    intro o ho
    obtain rfl := List.mem_singleton.mp ho
    exact ⟨rfl, rfl, rfl⟩
  rw [State.callerStep]
  cases hcaller : s.caller with
  | use =>
      refine h.quiet (thread_quiet _) h.holds ?_ rfl
      rw [State.alive, State.alive, hcaller, halive]
  | unblocked thread =>
      cases thread with
      | true =>
          simp only [State.access]
          split_ifs
          · refine h.quiet (thread_quiet _) h.holds ?_ rfl
            rw [State.alive, State.alive, hcaller]
            rfl
          · exact h.quiet hfault h.holds rfl rfl
      | false =>
          have hphase := ht.phase
          simp only [Phase, hcaller] at hphase
          have hmsgs : s.receive.msgs = [] := by
            cases hreceive : s.receive with
            | proc msg =>
                have hrunning := ht.receive (by rw [hreceive]; exact nofun)
                cases hphase.2.symm.trans hrunning
            | _ => rfl
          obtain ⟨msg_list, hdestructor, hempty⟩ := destructor_spec h.holds
          simp only [State.access, hdestructor]
          split_ifs with hs
          · have hdead : State.alive { s with
                mQ := { s.mQ with msg_list := msg_list }, caller := .gone } = false :=
              Bool.and_false _
            have hnext := h.destructor hs hmsgs hempty hdead (List.forall_mem_nil _)
            rwa [List.append_nil] at hnext
          · exact h.quiet hfault h.holds rfl rfl
  | deleteThread =>
      refine h.quiet (thread_quiet _) h.holds ?_ rfl
      exact congrArg (· && !s.caller.deleted) halive
  | gone => exact h.quiet nofun h.holds rfl rfl

lemma Ledger.destroy (h : Ledger s accepted processed deleted pending) (hready : s.ready = true) :
    Ledger.Next s.destroy accepted processed deleted := by
  have hcaller : s.caller = .use := by
    rw [State.ready, Bool.and_eq_true, beq_iff_eq] at hready
    exact hready.1
  rw [State.destroy, State.access]
  split_ifs with hs
  · rw [MsgQ.msgQUnblock]
    split_ifs
    · refine h.quiet ?_ h.holds (by rw [State.alive, State.alive, hcaller]; rfl) rfl
      rintro o ho
      obtain rfl := List.mem_singleton.mp ho
      exact ⟨rfl, rfl, rfl⟩
    · refine h.quiet ?_ h.holds (by rw [State.alive, State.alive, hcaller]; rfl) rfl
      rintro o ho
      obtain rfl := List.mem_singleton.mp ho
      exact ⟨rfl, rfl, rfl⟩
  · refine h.quiet ?_ h.holds rfl rfl
    rintro o ho
    obtain rfl := List.mem_singleton.mp ho
    exact ⟨rfl, rfl, rfl⟩

/-- `malloc` returns memory that is not in use. -/
def MallocFresh (s : State M) : Event M → Prop
  | .sendMsg _ elem => elem ∉ s.mQ.msg_list.memory
  | _ => True

instance (s : State M) : ∀ e, Decidable (MallocFresh s e)
  | .sendMsg _ elem => inferInstanceAs (Decidable (elem ∉ s.mQ.msg_list.memory))
  | .caller | .destroy | .worker => isTrue trivial

/-- **One step.** -/
lemma Ledger.step (ht : Tied s) (h : Ledger s accepted processed deleted pending) {e : Event M}
    (hfresh : MallocFresh s e) : Ledger.Next (step s e) accepted processed deleted := by
  cases e with
  | caller => exact h.callerStep ht
  | destroy =>
      rw [MsgTask.step]
      split_ifs with hready
      · exact h.destroy hready
      · exact h.quiet nofun h.holds rfl rfl
  | sendMsg msg elem => exact h.sendMsg msg hfresh
  | worker => exact h.workerStep ht (workerStep_workerStep ht h.holds)

lemma ledger_init (created joinable : Bool) :
    Ledger (init created joinable : State M) [] [] [] [] where
  holds := MsgQ.holds_init
  dealloc := nofun
  alive _ := ⟨rfl, rfl⟩
  dead h := by cases created <;> cases h

/-- **A run.** -/
lemma Ledger.outs (ht : Tied s) (h : Ledger s accepted processed deleted pending)
    {es : List (Event M)} (hfresh : (machine M).Steps MallocFresh s es) :
    Ledger.Next ((machine M).run s es, (machine M).outs s es) accepted processed deleted := by
  induction es generalizing s accepted processed deleted pending with
  | nil => exact h.quiet nofun h.holds rfl rfl
  | cons e es ih =>
      obtain ⟨pending', hstep⟩ := h.step ht hfresh.1
      obtain ⟨pending'', hrest⟩ := ih (tied_step ht h.holds e) hstep hfresh.2
      refine ⟨pending'', ?_⟩
      simp only [Machine.outs_cons, List.filterMap_append, ← List.append_assoc]
      exact hrest

/-- What every step keeps. -/
structure Kept (s : State M) : Prop where
  tied : Tied s
  ledger : ∃ accepted processed deleted pending, Ledger s accepted processed deleted pending

lemma Kept.holds (h : Kept s) : ∃ pending, s.mQ.Holds pending := by
  obtain ⟨_, _, _, pending, hledger⟩ := h.ledger
  exact ⟨pending, hledger.holds⟩

lemma Kept.step (h : Kept s) {e : Event M} (hfresh : MallocFresh s e) : Kept (step s e).1 := by
  obtain ⟨_, _, _, pending, hledger⟩ := h.ledger
  obtain ⟨pending', hnext⟩ := hledger.step h.tied hfresh
  exact ⟨tied_step h.tied hledger.holds e, _, _, _, _, hnext⟩

lemma kept_init (created joinable : Bool) : Kept (init created joinable : State M) :=
  ⟨tied_init created joinable, _, _, _, _, ledger_init created joinable⟩

lemma Kept.run (h : Kept s) {es : List (Event M)} (hfresh : (machine M).Steps MallocFresh s es) :
    Kept ((machine M).run s es) :=
  Machine.run_of_steps (M := machine M) (P := Kept) (C := MallocFresh)
    (fun _ _ h hfresh => h.step hfresh) h hfresh

/-- **Messages.**  Whatever the order of the steps, the messages are processed in the order in which
they were sent, each at most once.  While the task is there a message is deleted when it has been
processed; once the task has been deleted, every message that was accepted has been deleted exactly
once, and one that was refused never is. -/
theorem messages_accounted (created joinable : Bool) (es : List (Event M))
    (hfresh : (machine M).Steps MallocFresh (init created joinable) es) :
    let s := (machine M).run (init created joinable) es
    let out := (machine M).outs (init created joinable) es
    out.filterMap Output.processed <+: out.filterMap Output.accepted ∧
      (s.alive = true → out.filterMap Output.deleted = out.filterMap Output.processed) ∧
      (s.alive = false → (out.filterMap Output.deleted).Perm (out.filterMap Output.accepted)) := by
  intro s out
  obtain ⟨pending, h⟩ := (ledger_init created joinable).outs (tied_init created joinable) hfresh
  cases halive : s.alive with
  | true =>
      obtain ⟨haccepted, hdeleted⟩ := h.alive halive
      refine ⟨⟨s.receive.msgs ++ pending.map Prod.fst, ?_⟩, fun _ => hdeleted, nofun⟩
      rw [← List.append_assoc]
      exact haccepted.symm
  | false =>
      obtain ⟨rest, haccepted, hdeleted⟩ := h.dead halive
      refine ⟨⟨rest, haccepted.symm⟩, nofun, fun _ => ?_⟩
      have hperm := (List.reverse_perm rest).append_left (out.filterMap Output.processed)
      rw [List.nil_append, List.nil_append] at haccepted hdeleted
      rw [haccepted, hdeleted]
      exact hperm

/-- Three messages: one is processed, one flushed and one refused. -/
theorem messages_accounted_three :
    let es : List (Event ℕ) := [.caller, .sendMsg (some 10) 0, .sendMsg (some 11) 1] ++
      List.replicate 6 .worker ++ [.destroy, .sendMsg (some 12) 2] ++ List.replicate 8 .worker
    let s := (machine ℕ).run (init true false) es
    let out := (machine ℕ).outs (init true false) es
    out.filterMap Output.processed <+: out.filterMap Output.accepted ∧
      (s.alive = true → out.filterMap Output.deleted = out.filterMap Output.processed) ∧
      (s.alive = false → (out.filterMap Output.deleted).Perm (out.filterMap Output.accepted)) :=
  messages_accounted true false _ (by decide)

end Ledger

/-! ## The task and its thread -/

/-- The owner, in `destroy()`, stores to the task and a message is sent to it only while it is
there. -/
def Careful (s : State M) : Event M → Prop
  | .caller => s.caller = .unblocked true → s.alive = true
  | .sendMsg (some _) _ => s.alive = true
  | _ => True

/-- The thread has found `mRunnable` before `stop` clears it. -/
def InTime (s : State M) : Event M → Prop
  | .caller => s.caller = .deleteThread → s.thread.client = .stopRunnable → s.thread.worker ≠ .enter
  | _ => True

/-- Memory is used that is not there. -/
def Output.isFault : Output M → Bool
  | .fault | .thread .fault | .queue .fault => true
  | _ => false

section Thread

variable {s : State M} {pending : List (M × Option Dealloc)}

/-- **The thread's part of a step.**  Either nothing happens to the thread, or it is one of its own
steps. -/
lemma thread_step (ht : Tied s) (hholds : s.mQ.Holds pending) (e : Event M) :
    (step s e).1.thread = s.thread ∧ InTime s e ∨
      ∃ e', (step s e).1.thread = (LocThread.step s.thread e').1 ∧
        (LocThread.InTime s.thread e' ↔ InTime s e) := by
  cases e with
  | worker =>
      have hstep := workerStep_workerStep ht hholds
      simp only [step]
      generalize s.workerStep = r at hstep ⊢
      cases hstep with
      | plain hw hdelete => exact .inr ⟨.worker false, rfl, Iff.rfl⟩
      | run hw r hrun =>
          have hrunnable := ht.sound.runnable (congrArg LocThread.Worker.uses hw)
          have hstep : ∀ again : Bool, _ := fun again : Bool =>
            congrArg (fun r => r.1.thread) (threadStep_running hw hrunnable again)
          cases hrun with
          | waits | message => exact .inl ⟨rfl, trivial⟩
          | fails => exact .inr ⟨.worker false, (hstep false).symm, Iff.rfl⟩
          | proc => exact .inr ⟨.worker true, (hstep true).symm, Iff.rfl⟩
      | delete hw msg_list hempty =>
          refine .inr ⟨.worker false, ?_, Iff.rfl⟩
          simp only [LocThread.step, LocThread.workerStep, hw, LocThread.State.call]
  | destroy =>
      refine .inl ⟨?_, trivial⟩
      simp only [step, State.destroy, State.access]
      split_ifs <;> rfl
  | sendMsg msg elem =>
      refine .inl ⟨?_, trivial⟩
      cases msg with
      | none => rfl
      | some msg =>
          simp only [step, State.sendMsg, State.access]
          split_ifs <;> rfl
  | caller =>
      have hphase := ht.phase
      simp only [step, State.callerStep, InTime]
      cases hcaller : s.caller with
      | use =>
          simp only [Phase, hcaller] at hphase
          refine .inr ⟨.client, rfl, iff_of_true ⟨fun _ => ?_, fun hstop => ?_⟩ (by simp)⟩
          · have hloop := ht.inLoop hphase.1
            cases hw : s.thread.worker <;>
              simp [hw, inLoop, LocThread.Worker.cleared] at hloop ⊢
          · rw [hstop] at hphase
            rcases hphase.2.2 with hc | hc | ⟨hc, -⟩ <;> cases hc
      | unblocked thread =>
          cases thread with
          | true =>
              simp only [State.access]
              split_ifs
              · exact .inr ⟨.bye, rfl, iff_of_true trivial (by simp)⟩
              · exact .inl ⟨rfl, (by simp)⟩
          | false =>
              obtain ⟨msg_list, hdestructor, -⟩ := destructor_spec hholds
              simp only [State.access, hdestructor]
              split_ifs
              · exact .inl ⟨rfl, (by simp)⟩
              · exact .inl ⟨rfl, (by simp)⟩
      | deleteThread =>
          simp only [Phase, hcaller] at hphase
          refine .inr ⟨.client, rfl, ?_⟩
          constructor
          · exact fun h _ => h.2
          · exact fun h => ⟨fun hc => absurd hc hphase.2.2.2.1, h rfl⟩
      | gone => exact .inl ⟨rfl, (by simp)⟩

lemma Kept.onCourse_step (h : Kept s) (e : Event M) :
    LocThread.OnCourse (MsgTask.step s e).1.thread ↔
      LocThread.OnCourse s.thread ∧ InTime s e := by
  obtain ⟨pending, hholds⟩ := h.holds
  rcases thread_step h.tied hholds e with ⟨hsame, hintime⟩ | ⟨e', hstep, hintime⟩
  · rw [hsame]
    exact (and_iff_left hintime).symm
  · rw [hstep, ← hintime]
    exact LocThread.onCourse_step h.tied.sound h.tied.tracks e'

/-- `destroy()` has returned, and the thread has ended if there has been one. -/
def State.ended (s : State M) : Prop :=
  s.caller = .gone ∨
    s.caller = .deleteThread ∧ s.thread.client = .done ∧ s.thread.worker = .exited

instance (s : State M) : Decidable s.ended := inferInstanceAs (Decidable (_ ∨ _))

/-- **Deletion.**  Once `destroy()` has returned and the thread has ended, the task has been deleted
in exactly those runs in which the thread had begun before it was stopped. -/
theorem task_deleted_iff (created joinable : Bool) (es : List (Event M))
    (hfresh : (machine M).Steps MallocFresh (init created joinable) es)
    (hended : ((machine M).run (init created joinable) es).ended) :
    ((machine M).run (init created joinable) es).alive = false ↔
      (machine M).Steps InTime (init created joinable) es := by
  have hrun := Machine.run_iff_steps (M := machine M) (I := Kept) (F := MallocFresh) (C := InTime)
    (P := fun s => LocThread.OnCourse s.thread) (fun s e h hfresh => h.step hfresh)
    (fun s e h _ => h.onCourse_step e) (kept_init created joinable) hfresh
  have hcourse : LocThread.OnCourse (init created joinable : State M).thread :=
    LocThread.onCourse_init created joinable
  rw [and_iff_right hcourse] at hrun
  rw [← hrun]
  have htied := ((kept_init created joinable).run hfresh).tied
  generalize (machine M).run (init created joinable) es = s at *
  have hphase := htied.phase
  rcases hended with hcaller | ⟨hcaller, hclient, hworker⟩
  · simp only [Phase, hcaller] at hphase
    simp [State.alive, Caller.deleted, LocThread.OnCourse, hcaller, hphase.2]
  · simp [State.alive, Caller.deleted, LocThread.OnCourse, LocThread.Client.failing,
      LocThread.Worker.gone, hcaller, hclient, hworker]

/-- A task that is stopped before its thread has begun is leaked. -/
theorem task_deleted_iff_leaked :
    let es : List (Event ℕ) := [.caller, .destroy] ++ List.replicate 6 .caller ++
      List.replicate 4 .worker ++ List.replicate 5 .caller
    ((machine ℕ).run (init true true) es).alive = false ↔
      (machine ℕ).Steps InTime (init true true) es :=
  task_deleted_iff true true _ (by decide) (by decide)

lemma thread_safe {t : LocThread.State} (h : LocThread.Sound t) (e : LocThread.Event) :
    ∀ o ∈ (LocThread.step t e).2.map (Output.thread (M := M)), o.isFault = false := by
  intro o ho
  obtain ⟨o', ho', rfl⟩ := List.mem_map.mp ho
  have hne : o' ≠ .fault := fun heq => (LocThread.keeps_step h e).safe (heq ▸ ho')
  cases o' with
  | fault => exact absurd rfl hne
  | _ => rfl

lemma destructor_safe (pending : List (M × Option Dealloc)) :
    ∀ o ∈ (MsgQ.flushOutputs pending.reverse .success ++
      MsgQ.flushOutputs [] .success).map Output.queue, o.isFault = false := by
  intro o ho
  obtain ⟨o', ho', rfl⟩ := List.mem_map.mp ho
  have hsafe : ∀ elements : List (M × Option Dealloc),
      .fault ∉ MsgQ.flushOutputs elements .success :=
    fun elements => (MsgQ.accounts_flushOutputs elements .success).safe
  cases o' with
  | fault => exact absurd ho' (List.mem_append.not.mpr (not_or.mpr ⟨hsafe _, hsafe _⟩))
  | _ => rfl

/-- A thread that has not begun to leave its loop has not deleted the task. -/
lemma Tied.alive_of_blocked (h : Tied s) (hblocked : s.mQ.unblocked = false) :
    s.alive = true := by
  have hphase := h.phase
  have hloop := h.inLoop hblocked
  cases hw : s.thread.worker with
  | absent =>
      have hrunnable := (h.tracks.absent hw).1
      cases hcaller : s.caller with
      | gone =>
          simp only [Phase, hcaller] at hphase
          cases hblocked.symm.trans hphase.1
      | _ => simp [State.alive, Caller.deleted, hrunnable, hcaller]
  | enter | testPrerun | prerun | testRun | run | running =>
      exact h.alive (by rw [hw]; rfl)
  | _ =>
      rw [hw] at hloop
      cases hloop

/-- **One step.**  It uses no memory that is not there, unless the owner or a sender does. -/
lemma safe_step_iff (ht : Tied s) (hholds : s.mQ.Holds pending) {e : Event M}
    (hfresh : MallocFresh s e) : (∀ o ∈ (step s e).2, o.isFault = false) ↔ Careful s e := by
  have hfault : ¬ ∀ o ∈ [(.fault : Output M)], o.isFault = false :=
    fun h => Bool.noConfusion (h _ List.mem_cons_self)
  cases e with
  | worker =>
      refine iff_of_true ?_ trivial
      have hstep := workerStep_workerStep ht hholds
      simp only [step]
      generalize s.workerStep = r at hstep ⊢
      cases hstep with
      | plain hw hdelete => exact thread_safe ht.sound _
      | run hw r hrun => cases hrun <;> simp [Output.isFault]
      | delete hw msg_list hempty =>
          refine List.forall_mem_append.mpr ⟨destructor_safe pending, ?_⟩
          simp [Output.isFault]
  | destroy =>
      refine iff_of_true ?_ trivial
      simp only [step]
      split_ifs with hready
      · have hphase := ht.phase
        rw [State.ready, Bool.and_eq_true, beq_iff_eq] at hready
        simp only [Phase, hready.1] at hphase
        rw [State.destroy, State.access, if_pos (ht.alive_of_blocked hphase.1), MsgQ.msgQUnblock]
        split_ifs <;> simp [Output.isFault]
      · simp
  | sendMsg msg elem =>
      cases msg with
      | none => exact iff_of_true (fun o ho => absurd ho List.not_mem_nil) trivial
      | some msg =>
          simp only [step, State.sendMsg, State.access, Careful]
          split_ifs with halive
          · refine iff_of_true ?_ halive
            by_cases hunblocked : s.mQ.unblocked = true
            · simp [MsgQ.msgQSnd, hunblocked, Output.isFault]
            · obtain ⟨msg_list, hsnd, -⟩ := holds_msgQSnd hholds (by simpa using hunblocked) msg
                (some .LocMsgDestroy) hfresh
              simp [hsnd, Output.isFault]
          · exact iff_of_false hfault halive
  | caller =>
      have hphase := ht.phase
      simp only [step, State.callerStep, Careful]
      cases hcaller : s.caller with
      | use => exact iff_of_true (thread_safe ht.sound _) (by simp)
      | unblocked thread =>
          cases thread with
          | true =>
              simp only [State.access]
              split_ifs with halive
              · exact iff_of_true (thread_safe ht.sound _) fun _ => halive
              · exact iff_of_false hfault fun h => halive (h trivial)
          | false =>
              simp only [Phase, hcaller] at hphase
              have halive : s.alive = true := by
                simp [State.alive, Caller.deleted, hcaller, (ht.tracks.absent hphase.2).1]
              obtain ⟨msg_list, hdestructor, -⟩ := destructor_spec hholds
              simp only [State.access, hdestructor, halive, if_true]
              exact iff_of_true (destructor_safe pending) (by simp)
      | deleteThread => exact iff_of_true (thread_safe ht.sound _) (by simp)
      | gone => exact iff_of_true (by simp) (by simp)

/-- **Memory.**  No memory is used that is not there in exactly those runs in which nobody sends to
the task once it has been deleted, and the thread does not get to deleting the task between the two
halves of `destroy()`. -/
theorem task_safe_iff (created joinable : Bool) (es : List (Event M))
    (hfresh : (machine M).Steps MallocFresh (init created joinable) es) :
    (∀ o ∈ (machine M).outs (init created joinable) es, o.isFault = false) ↔
      (machine M).Steps Careful (init created joinable) es := by
  have houts : (∀ o ∈ (machine M).outs (init created joinable) es, o.isFault = false) ↔
      (machine M).Steps (fun s e => ∀ o ∈ (machine M).emit s e, o.isFault = false)
        (init created joinable) es :=
    Machine.outs_iff_steps (P := fun _ => True) (fun _ _ _ => Iff.rfl)
      (fun _ _ _ _ => trivial) trivial
  rw [houts]
  exact Machine.steps_iff_steps (M := machine M) (P := Kept) (F := MallocFresh)
    (fun s e h hfresh => safe_step_iff h.tied h.holds.choose_spec hfresh)
    (fun s e h hfresh _ => h.step hfresh) (kept_init created joinable) hfresh

/-- A thread that deletes the task between the two halves of `destroy()`. -/
theorem task_safe_iff_overtaken :
    let es : List (Event ℕ) := [.caller] ++ List.replicate 5 .worker ++ [.destroy] ++
      List.replicate 5 .worker ++ [.caller]
    (∀ o ∈ (machine ℕ).outs (init true false) es, o.isFault = false) ↔
      (machine ℕ).Steps Careful (init true false) es :=
  task_safe_iff true false _ (by decide)

/-- The steps in which the thread ends, from where it is, if `run()` fails at once. -/
def rank : LocThread.Worker → ℕ
  | .absent | .exited => 0
  | .destroy .delete => 1
  | .destroy .lock => 2
  | .destroy .test => 3
  | .deleteRunnable => 4
  | .clear => 5
  | .postrun => 6
  | .testPostrun => 7
  | .running => 8
  | .run => 9
  | .testRun => 10
  | .prerun => 11
  | .testPrerun => 12
  | .enter => 13

/-- The steps that `run()` takes longer for the receive it is in. -/
def Receive.rank : Receive M → ℕ
  | .call => 0
  | .proc _ => 3
  | .wait _ => 4

/-- The messages that `run()` still processes when the queue is unblocked. -/
def Receive.left : Receive M → ℕ
  | .call => 0
  | .proc _ | .wait _ => 1

/-- The step is one of the thread. -/
def Event.ofWorker : Event M → Bool
  | .worker => true
  | _ => false

/-- How a task with an unblocked queue gets on: it comes closer to its end, and uses up the messages
that it may still process. -/
structure Ends (s : State M) (steps : ℕ) (r : State M × List (Output M)) : Prop where
  unblocked : r.1.mQ.unblocked = true
  left : (r.2.filterMap Output.processed).length + r.1.receive.left ≤ s.receive.left
  rank : rank r.1.thread.worker + r.1.receive.rank ≤ rank s.thread.worker + s.receive.rank - steps

lemma workerStep_rank {t : LocThread.State} (hsound : LocThread.Sound t)
    (hw : t.worker ≠ .running) (again : Bool) :
    rank (LocThread.workerStep t again).1.worker ≤ rank t.worker - 1 := by
  cases hworker : t.worker with
  | running => exact absurd hworker hw
  | absent | exited => simp [LocThread.workerStep, hworker, rank]
  | destroy pc =>
      obtain ⟨d, hd, -⟩ := hsound.access true (by
        cases pc <;> simp [LocThread.State.share, LocThread.Worker.share, LocThread.Destroy.share,
          hworker]) fun _ => (t, [])
      cases pc <;>
        simp only [LocThread.workerStep, LocThread.workerDestroy, LocThread.State.access,
          LocThread.destroyStep, hworker, hd]
      all_goals grind -linarith [rank]
  | _ =>
      obtain ⟨d, hd, -⟩ := hsound.access true
        (by simp [LocThread.State.share, LocThread.Worker.share, hworker]) fun _ => (t, [])
      simp only [LocThread.workerStep, LocThread.State.access, LocThread.State.call, hworker, hd]
      grind -linarith [rank]

lemma processed_thread (out : List LocThread.Output) :
    (out.map (Output.thread (M := M))).filterMap Output.processed = [] :=
  List.filterMap_eq_nil_iff.mpr fun o ho => (thread_quiet out o ho).2.1

lemma ends_workerStep (ht : Tied s) (hholds : s.mQ.Holds pending)
    (hunblocked : s.mQ.unblocked = true) : Ends s 1 s.workerStep := by
  have hstep := workerStep_workerStep ht hholds
  generalize s.workerStep = r at hstep ⊢
  cases hstep with
  | plain hw hdelete =>
      have hcall : s.receive = .call := by
        by_contra hne
        exact hw (ht.receive hne)
      refine ⟨hunblocked, ?_, ?_⟩
      · rw [State.threadStep, processed_thread]
        exact le_of_eq (Nat.zero_add _)
      · have hrank := workerStep_rank ht.sound hw false
        change rank (LocThread.workerStep s.thread false).1.worker + s.receive.rank ≤ _
        rw [hcall]
        exact hrank
  | run hw r hrun =>
      cases hrun with
      | waits mQ call hpending hholds hmsgs hblocked =>
          cases hblocked.symm.trans hunblocked
      | message mQ call msg dealloc rest hpending hholds hmsgs hsame hlate =>
          have hwait := hlate hunblocked
          refine ⟨hsame.trans hunblocked, ?_, ?_⟩
          · cases hreceive : s.receive <;>
              simp_all [Receive.left, Receive.msgs, List.filterMap_cons, Output.processed]
          · cases hreceive : s.receive <;> simp_all [Receive.rank, Receive.msgs]
      | fails mQ call hholds hmsgs hqueue hstill =>
          refine ⟨hstill, ?_, ?_⟩
          · simp [Receive.left, List.filterMap_cons, Output.processed]
          · simp only [hw, rank, Receive.rank]
            omega
      | proc msg hproc =>
          refine ⟨hunblocked, ?_, ?_⟩
          · simp [hproc, Receive.left, List.filterMap_cons, Output.processed]
          · simp [hw, hproc, rank, Receive.rank]
  | delete hw msg_list hempty =>
      refine ⟨hunblocked, ?_, ?_⟩
      · rw [List.filterMap_append, processed_queue]
        exact le_of_eq (Nat.zero_add _)
      · simp only [hw, rank]
        omega

lemma ends_step (ht : Tied s) (hholds : s.mQ.Holds pending) (hunblocked : s.mQ.unblocked = true)
    (e : Event M) : Ends s ([e].countP Event.ofWorker) (step s e) := by
  have hquiet : Ends s 0 (s, []) := ⟨hunblocked, le_of_eq (Nat.zero_add _), le_rfl⟩
  have hfault : Ends s 0 (s, [.fault]) := ⟨hunblocked, le_of_eq (Nat.zero_add _), le_rfl⟩
  cases e with
  | worker => exact ends_workerStep ht hholds hunblocked
  | destroy =>
      have hready : ¬ s.ready = true := by
        intro hready
        have hphase := ht.phase
        rw [State.ready, Bool.and_eq_true, beq_iff_eq] at hready
        simp only [Phase, hready.1] at hphase
        cases hunblocked.symm.trans hphase.1
      rw [step, if_neg hready]
      exact hquiet
  | sendMsg msg elem =>
      cases msg with
      | none => exact hquiet
      | some msg =>
          simp only [step, State.sendMsg, State.access, MsgQ.msgQSnd, hunblocked, if_true]
          split_ifs
          · exact ⟨hunblocked, le_of_eq (Nat.zero_add _), le_rfl⟩
          · exact hfault
  | caller =>
      have hworker := (LocThread.clientStep_worker s.thread).1
      simp only [step, State.callerStep]
      cases hcaller : s.caller with
      | use =>
          refine ⟨hunblocked, ?_, ?_⟩
          · rw [processed_thread]
            exact le_of_eq (Nat.zero_add _)
          · exact le_of_eq (congrArg (fun w => rank w + s.receive.rank) hworker)
      | unblocked thread =>
          cases thread with
          | true =>
              simp only [State.access]
              split_ifs
              · exact ⟨hunblocked, le_of_eq (Nat.zero_add _), le_rfl⟩
              · exact hfault
          | false =>
              obtain ⟨msg_list, hdestructor, -⟩ := destructor_spec hholds
              simp only [State.access, hdestructor]
              split_ifs
              · refine ⟨hunblocked, ?_, le_rfl⟩
                rw [processed_queue]
                exact le_of_eq (Nat.zero_add _)
              · exact hfault
      | deleteThread =>
          change Ends s 0 (s.threadStep .client)
          refine ⟨hunblocked, ?_, ?_⟩
          · rw [State.threadStep, processed_thread]
            exact le_of_eq (Nat.zero_add _)
          · exact le_of_eq (congrArg (fun w => rank w + s.receive.rank) hworker)
      | gone => exact hquiet

lemma ends_run (h : Kept s) (hunblocked : s.mQ.unblocked = true) {es : List (Event M)}
    (hfresh : (machine M).Steps MallocFresh s es) :
    Ends s (es.countP Event.ofWorker) ((machine M).run s es, (machine M).outs s es) := by
  induction es generalizing s with
  | nil => exact ⟨hunblocked, le_of_eq (Nat.zero_add _), le_rfl⟩
  | cons e es ih =>
      obtain ⟨pending, hholds⟩ := h.holds
      have hstep := ends_step h.tied hholds hunblocked e
      have hrest := ih (h.step hfresh.1) hstep.unblocked hfresh.2
      have hleft := hstep.left
      have hrestLeft := hrest.left
      have hrank := hstep.rank
      have hrestRank := hrest.rank
      refine ⟨hrest.unblocked, ?_, ?_⟩
      · rw [Machine.outs_cons, List.filterMap_append, List.length_append, Nat.add_assoc]
        exact (Nat.add_le_add_left hrestLeft _).trans hleft
      · rw [← List.singleton_append, List.countP_append, ← Nat.sub_sub]
        exact hrestRank.trans (Nat.sub_le_sub_right hrank _)

lemma Tied.rank_le (h : Tied s) :
    s.receive.left ≤ 1 ∧ MsgTask.rank s.thread.worker + s.receive.rank ≤ 13 := by
  cases hreceive : s.receive with
  | call =>
      refine ⟨Nat.zero_le _, ?_⟩
      cases s.thread.worker with
      | destroy pc => cases pc <;> simp [MsgTask.rank, Receive.rank]
      | _ => simp [MsgTask.rank, Receive.rank]
  | _ =>
      have hrunning := h.receive (by rw [hreceive]; exact nofun)
      simp [Receive.left, Receive.rank, MsgTask.rank, hrunning]

lemma ended_of_rank (h : rank s.thread.worker + s.receive.rank ≤ 0) :
    s.thread.worker.ended = true := by
  cases hw : s.thread.worker with
  | destroy pc => cases pc <;> simp [hw, rank] at h
  | _ => simp_all [rank, LocThread.Worker.ended]

lemma worker_absent_step {t : LocThread.State} (h : t.worker = .absent) (e : LocThread.Event) :
    (LocThread.step t e).1.worker = .absent := by
  cases e with
  | client => exact (LocThread.clientStep_worker t).1.trans h
  | worker again => simp only [LocThread.step, LocThread.workerStep, h]
  | _ => exact h

/-- A property of the thread that each of its steps keeps. -/
lemma thread_invariant {P : LocThread.State → Prop}
    (hstep : ∀ t e, P t → P (LocThread.step t e).1) (h : Kept s) (h0 : P s.thread)
    {es : List (Event M)} (hfresh : (machine M).Steps MallocFresh s es) :
    P ((machine M).run s es).thread := by
  refine (Machine.run_of_steps (M := machine M) (P := fun s => Kept s ∧ P s.thread)
    (C := MallocFresh) (fun s e h hfresh => ⟨h.1.step hfresh, ?_⟩) ⟨h, h0⟩ hfresh).2
  obtain ⟨pending, hholds⟩ := h.1.holds
  rcases thread_step h.1.tied hholds e with ⟨hsame, -⟩ | ⟨e', hthread, -⟩
  · exact hsame.symm ▸ h.2
  · exact hthread.symm ▸ hstep _ e' h.2

/-- **The end.**  Once `destroy()` has unblocked the queue, whatever the order of the steps after
that, the thread processes at most one more message and has ended after thirteen of its own steps;
and when it is to be joined then it has ended by the time that `destroy()` has deleted it. -/
theorem destroy_ends_thread (created joinable : Bool) (pre es : List (Event M))
    (hfresh : (machine M).Steps MallocFresh (init created joinable) (pre ++ es))
    (hdestroy : ((machine M).run (init created joinable) pre).caller ≠ .use) :
    let s := (machine M).run (init created joinable) pre
    (((machine M).outs s es).filterMap Output.processed).length ≤ 1 ∧
      (13 ≤ es.countP Event.ofWorker →
        ((machine M).run s es).thread.worker.ended = true) ∧
      (joinable = true → ((machine M).run s es).thread.client = .done →
        ((machine M).run s es).thread.worker.ended = true) := by
  intro s
  obtain ⟨hpre, hes⟩ := (Machine.steps_append _ _ _ _ _).mp hfresh
  have hkept : Kept s := (kept_init created joinable).run hpre
  have hunblocked : s.mQ.unblocked = true := by
    have hphase := hkept.tied.phase
    rw [Phase] at hphase
    cases hcaller : s.caller with
    | use => exact absurd hcaller hdestroy
    | unblocked thread => cases thread <;> simp only [hcaller] at hphase <;> exact hphase.1
    | _ => simp only [hcaller] at hphase; exact hphase.1
  have hends := ends_run hkept hunblocked hes
  obtain ⟨hleft_le, hrank_le⟩ := hkept.tied.rank_le
  refine ⟨(Nat.le_of_add_right_le hends.left).trans hleft_le, fun hes => ?_, ?_⟩
  · exact ended_of_rank (hends.rank.trans (by omega))
  rintro rfl hdone
  have hjoins : ((machine M).run s es).thread.worker = .absent ∨
      LocThread.Joins ((machine M).run s es).thread := by
    rw [← Machine.run_append]
    refine thread_invariant (P := fun t => t.worker = .absent ∨ LocThread.Joins t)
      (fun t e h => ?_) (kept_init created true) ?_ hfresh
    · rcases h with habsent | hjoins
      · exact .inl (worker_absent_step habsent e)
      · exact .inr (LocThread.joins_step hjoins e)
    · cases created with
      | true => exact .inr LocThread.joins_init
      | false => exact .inl rfl
  rcases hjoins with habsent | hjoins
  · rw [habsent]
    rfl
  · exact hjoins.joined (by rw [hdone]; rfl)

/-- A task that is destroyed while it waits for a message. -/
theorem destroy_ends_thread_waiting :
    let pre : List (Event ℕ) := [.caller] ++ List.replicate 6 .worker ++ [.destroy]
    let es : List (Event ℕ) := List.replicate 5 .caller ++ List.replicate 13 .worker
    let s := (machine ℕ).run (init true true) pre
    (((machine ℕ).outs s es).filterMap Output.processed).length ≤ 1 ∧
      (13 ≤ es.countP Event.ofWorker → ((machine ℕ).run s es).thread.worker.ended = true) ∧
      (true = true → ((machine ℕ).run s es).thread.client = .done →
        ((machine ℕ).run s es).thread.worker.ended = true) :=
  destroy_ends_thread true true _ _ (by decide) (by decide)

end Thread

end MsgTask
end LocHal
