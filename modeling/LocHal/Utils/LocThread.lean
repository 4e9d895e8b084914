import LocHal.Lib.Machine
import LocHal.Lib.SharedCount

/-!
# A thread and the object that both its ends share (`gps/utils/LocThread.cpp`)

`LocThread::start` makes a `LocThreadDelegate`, which the new thread and the client that started it
use at the same time: the thread reads `mRunnable` in order to see whether it is still wanted, the
client clears it in `stop()`, and each of the two calls `destroy()` once when it is done.  Only
`mRefCount` is changed under the mutex.

The machine takes one access to the shared object at a time, from whichever end the scheduler
chooses.  Each access to memory that has been freed is an output, `fault`, so that its absence is a
statement about outputs.  Three results are about all interleavings:

* `delegate_deleted_once`: the delegate is used by nobody after it has been deleted, and it is
  deleted exactly once by the time both ends are done;
* `runnable_owner_iff`: the runnable is deleted exactly when `start` says that it will be, in
  exactly those runs in which neither end overtakes the other's first look at `mRunnable`;
* `stop_ends_thread`: after `stop` has seen to `mRunnable` the thread begins at most one more call
  of the runnable and ends, and a `stop` that joins returns only then.

What `run()` does is left open, but for its result.  Not modelled: the name of the thread and its
handle, and a client that stops the thread from within its own `run()`.
-/

namespace LocHal
namespace LocThread

/-- `LocThreadDelegate`, with `mRunnable` as whether it is not null. -/
structure LocThreadDelegate where
  mRunnable : Bool
  mJoinable : Bool
  mRefCount : ℤ
deriving DecidableEq, Repr

/-- Where a thread is in `destroy()`: at the test of `mRefCount`, at the section under the mutex, or
at `delete this`. -/
inductive Destroy where
  | test
  | lock
  | delete
deriving DecidableEq, Repr

/-- Where the client is: in `create()`, with the thread running, in `bye()` or `stop()`, or done.
In `destroy()` it may have come from a `create()` that takes the thread to be not running. -/
inductive Client where
  | create
  | idle
  | bye
  | stop
  | stopRunnable
  | testJoinable
  | clearJoinable
  | join
  | destroy (failed : Bool) (pc : Destroy)
  | failed
  | done
deriving DecidableEq, Repr

/-- Where the thread is in `threadMain()`. -/
inductive Worker where
  | absent
  | enter
  | testPrerun
  | prerun
  | testRun
  | run
  | running
  | testPostrun
  | postrun
  | clear
  | deleteRunnable
  | destroy (pc : Destroy)
  | exited
deriving DecidableEq, Repr

/-- The two objects, `none` and `false` when deleted, and the two ends. -/
structure State where
  delegate : Option LocThreadDelegate
  runnable : Bool
  client : Client
  worker : Worker
deriving DecidableEq, Repr

/-- A step of the client, a call it makes while the thread is running (`LocThread::stop` or the
destructor's `bye`), or a step of the thread, which needs to know what `run()` returns. -/
inductive Event where
  | client
  | stop
  | bye
  | worker (again : Bool)
deriving DecidableEq, Repr

/-- What can be seen of a run. -/
inductive Output where
  | started (success : Bool)
  | prerun
  | run
  | ran (again : Bool)
  | postrun
  | deletedRunnable
  | deletedDelegate
  | released
  | exited
  | fault
deriving DecidableEq, Repr

/-- `start`, after `pthread_create` has succeeded or failed. -/
def init (created joinable : Bool) : State :=
  if created then ⟨some ⟨true, joinable, 2⟩, true, .create, .enter⟩
  else ⟨some ⟨false, false, 1⟩, true, .create, .absent⟩

/-! ## The steps of the two ends -/

/-- An access to the delegate. -/
def State.access (s : State) (f : LocThreadDelegate → State × List Output) : State × List Output :=
  match s.delegate with
  | some d => f d
  | none => (s, [.fault])

/-- A call on the runnable. -/
def State.call (s : State) (o : Output) (s' : State) : State × List Output :=
  (s', [if s.runnable then o else .fault])

/-- One step of `destroy()`: the delegate, where it goes on, if it does, and what it outputs. -/
def destroyStep (d : LocThreadDelegate) :
    Destroy → Option LocThreadDelegate × Option Destroy × List Output
  | .test => (some d, if 0 < d.mRefCount then some .lock else none, [])
  | .lock => (some { d with mRefCount := d.mRefCount - 1 },
      if d.mRefCount = 1 then some .delete else none, [])
  | .delete => (none, none, [.deletedDelegate])

/-- The client goes on in `destroy()`, or returns from the call that led there. -/
def clientDestroy (s : State) (failed : Bool) (pc : Destroy) : State × List Output :=
  s.access fun d =>
    let after := destroyStep d pc
    match after.2.1 with
    | some pc => ({ s with delegate := after.1, client := .destroy failed pc }, after.2.2)
    | none =>
      ({ s with delegate := after.1, client := if failed then .failed else .done },
        after.2.2 ++ [if failed then .started false else .released])

/-- The thread goes on in `destroy()`, or ends. -/
def workerDestroy (s : State) (pc : Destroy) : State × List Output :=
  s.access fun d =>
    let after := destroyStep d pc
    match after.2.1 with
    | some pc => ({ s with delegate := after.1, worker := .destroy pc }, after.2.2)
    | none => ({ s with delegate := after.1, worker := .exited }, after.2.2 ++ [.exited])

/-- The thread is at its end, or there is none. -/
def Worker.ended : Worker → Bool
  | .absent | .exited => true
  | _ => false

/-- A step of the client. -/
def clientStep (s : State) : State × List Output :=
  match s.client with
  | .create => s.access fun d =>
      if d.mRunnable then ({ s with client := .idle }, [.started true])
      else ({ s with client := .destroy true .test }, [])
  | .bye => s.access fun d =>
      ({ s with client := if d.mJoinable then .stop else .destroy false .test }, [])
  | .stop => s.access fun d =>
      ({ s with client := if d.mRunnable then .stopRunnable else .testJoinable }, [])
  | .stopRunnable => s.access fun d =>
      ({ s with delegate := some { d with mRunnable := false }, client := .testJoinable }, [])
  | .testJoinable => s.access fun d =>
      ({ s with client := if d.mJoinable then .clearJoinable else .destroy false .test }, [])
  | .clearJoinable => s.access fun d =>
      ({ s with delegate := some { d with mJoinable := false }, client := .join }, [])
  -- `pthread_join` returns when the thread has ended
  | .join => ({ s with client := if s.worker.ended then .destroy false .test else .join }, [])
  | .destroy failed pc => clientDestroy s failed pc
  | .idle | .failed | .done => (s, [])

/-- A step of the thread. -/
def workerStep (s : State) (again : Bool) : State × List Output :=
  match s.worker with
  | .enter => s.access fun d =>
      ({ s with worker := if d.mRunnable then .testPrerun else .destroy .test }, [])
  | .testPrerun => s.access fun d =>
      ({ s with worker := if d.mRunnable then .prerun else .testRun }, [])
  | .prerun => s.call .prerun { s with worker := .testRun }
  | .testRun => s.access fun d =>
      ({ s with worker := if d.mRunnable then .run else .testPostrun }, [])
  | .run => s.call .run { s with worker := .running }
  | .running =>
      s.call (.ran again) { s with worker := if again then .testRun else .testPostrun }
  | .testPostrun => s.access fun d =>
      ({ s with worker := if d.mRunnable then .postrun else .clear }, [])
  | .postrun => s.call .postrun { s with worker := .clear }
  | .clear => s.access fun d =>
      ({ s with delegate := some { d with mRunnable := false }, worker := .deleteRunnable }, [])
  | .deleteRunnable =>
      s.call .deletedRunnable { s with runnable := false, worker := .destroy .test }
  | .destroy pc => workerDestroy s pc
  | .absent | .exited => (s, [])

/-- One step of either end. -/
def step (s : State) : Event → State × List Output
  | .stop => ({ s with client := if s.client = .idle then .stop else s.client }, [])
  | .bye => ({ s with client := if s.client = .idle then .bye else s.client }, [])
  | .client => clientStep s
  | .worker again => workerStep s again

/-- The two ends as a machine over their steps. -/
def machine : Machine State Event Output := ⟨step⟩

/-! ## The delegate -/

/-- The share of an end that is in `destroy()`. -/
def Destroy.share : Destroy → Share
  | .test | .lock => .holding
  | .delete => .deleting

/-- What the client still has to do with the delegate. -/
def Client.share : Client → Share
  | .destroy _ pc => pc.share
  | .failed | .done => .free
  | _ => .holding

/-- What the thread still has to do with the delegate. -/
def Worker.share : Worker → Share
  | .destroy pc => pc.share
  | .absent | .exited => .free
  | _ => .holding

/-- The two ends as the owners of the delegate, the client first. -/
def State.share (s : State) (thread : Bool) : Share :=
  if thread then s.worker.share else s.client.share

/-- `mRefCount`, while there is a delegate. -/
def State.count (s : State) : Option ℤ := s.delegate.map (·.mRefCount)

/-- The thread has the runnable in its hands, or is about to look for it. -/
def Worker.uses : Worker → Bool
  | .absent | .destroy _ | .exited => false
  | _ => true

/-- Every end has the share that it acts on, and a runnable that is in use exists. -/
structure Sound (s : State) : Prop where
  counted : Share.Counted s.count s.share
  runnable : s.worker.uses = true → s.runnable = true

section Delegate

variable {s : State} {d : LocThreadDelegate}

lemma share_client (s : State) (c : Client) :
    { s with client := c }.share = Function.update s.share false c.share := by
  funext thread
  cases thread with
  | false => rfl
  | true => rfl

lemma share_worker (s : State) (w : Worker) :
    { s with worker := w }.share = Function.update s.share true w.share := by
  funext thread
  cases thread with
  | false => rfl
  | true => rfl

/-- An end that is not done with the delegate finds it. -/
lemma Sound.access (h : Sound s) (thread : Bool) (hshare : s.share thread ≠ .free)
    (f : LocThreadDelegate → State × List Output) :
    ∃ d, s.delegate = some d ∧ s.access f = f d := by
  obtain ⟨n, hn⟩ := h.counted.alive hshare
  obtain ⟨d, hd, -⟩ := Option.map_eq_some_iff.mp hn
  exact ⟨d, hd, by rw [State.access, hd]⟩

/-- **One step of `destroy()`.** -/
lemma counted_destroyStep {share : Bool → Share} {thread : Bool} (pc : Destroy)
    (h : Share.Counted (some d.mRefCount) share) (hshare : share thread = pc.share) :
    Share.Counted ((destroyStep d pc).1.map (·.mRefCount))
      (Function.update share thread (((destroyStep d pc).2.1.map Destroy.share).getD .free)) := by
  cases pc with
  | test =>
      have hpos := h.pos hshare
      rw [destroyStep, if_pos hpos]
      rwa [Option.map_some, Option.map_some, Option.getD_some, Destroy.share,
        ← show share thread = .holding from hshare, Function.update_eq_self]
  | lock =>
      have hrelease := h.release hshare
      rw [destroyStep]
      split_ifs at hrelease ⊢
      · exact hrelease
      · exact hrelease
  | delete => exact h.delete hshare

/-- What the steps of `destroy()` leave of the delegate, with what they output. -/
lemma destroyStep_ledger (d : LocThreadDelegate) (pc : Destroy) :
    (destroyStep d pc).2.2.count .deletedDelegate + (destroyStep d pc).1.isSome.toNat = 1 ∧
      ∀ o ∈ (destroyStep d pc).2.2, o = .deletedDelegate := by
  cases pc with
  | test => simp [destroyStep]
  | lock => simp [destroyStep]
  | delete => simp [destroyStep]

/-- What a step from a sound state comes to: it keeps the state sound, uses no freed memory, and an
object that was there is there afterwards or has been deleted once. -/
structure Keeps (s : State) (r : State × List Output) : Prop where
  sound : Sound r.1
  safe : .fault ∉ r.2
  delegate : r.2.count .deletedDelegate + r.1.delegate.isSome.toNat = s.delegate.isSome.toNat
  runnable : r.2.count .deletedRunnable + r.1.runnable.toNat = s.runnable.toNat

/-- The output is about no memory. -/
def Output.plain : Output → Bool
  | .deletedRunnable | .deletedDelegate | .fault => false
  | _ => true

lemma count_plain {out : List Output} (hout : ∀ o ∈ out, o.plain = true) :
    .fault ∉ out ∧ out.count .deletedDelegate = 0 ∧ out.count .deletedRunnable = 0 := by
  refine ⟨fun h => ?_, List.count_eq_zero.mpr fun h => ?_, List.count_eq_zero.mpr fun h => ?_⟩
  · cases hout _ h
  · cases hout _ h
  · cases hout _ h

/-- The client moves on with its share, and may write to the delegate. -/
lemma keeps_client (h : Sound s) (hshare : s.client.share = .holding) {c : Client}
    (hc : c.share = .holding) (hd : s.delegate = some d) {d' : LocThreadDelegate}
    (hcount : d'.mRefCount = d.mRefCount) {out : List Output} (hout : ∀ o ∈ out, o.plain = true) :
    Keeps s ({ s with delegate := some d', client := c }, out) := by
  obtain ⟨hsafe, hdelegate, hrunnable⟩ := count_plain hout
  refine ⟨⟨?_, h.runnable⟩, hsafe, ?_, ?_⟩
  · have hcounted := h.counted
    rw [State.count, hd, Option.map_some, ← hcount] at hcounted
    have hsame : { s with delegate := some d', client := c }.share = s.share := by
      rw [share_client { s with delegate := some d' }, hc]
      exact (congrArg (Function.update _ _) hshare.symm).trans (Function.update_eq_self _ _)
    rw [hsame]
    exact hcounted
  · rw [hdelegate, hd]
    rfl
  · rw [hrunnable, Nat.zero_add]

/-- The thread moves on with its share, and may write to the delegate. -/
lemma keeps_worker (h : Sound s) (hshare : s.worker.share = .holding) {w : Worker}
    (hw : w.share = .holding) (huses : w.uses = true → s.runnable = true)
    (hd : s.delegate = some d) {d' : LocThreadDelegate} (hcount : d'.mRefCount = d.mRefCount)
    {out : List Output} (hout : ∀ o ∈ out, o.plain = true) :
    Keeps s ({ s with delegate := some d', worker := w }, out) := by
  obtain ⟨hsafe, hdelegate, hrunnable⟩ := count_plain hout
  refine ⟨⟨?_, huses⟩, hsafe, ?_, ?_⟩
  · have hcounted := h.counted
    rw [State.count, hd, Option.map_some, ← hcount] at hcounted
    have hsame : { s with delegate := some d', worker := w }.share = s.share := by
      rw [share_worker { s with delegate := some d' }, hw]
      exact (congrArg (Function.update _ _) hshare.symm).trans (Function.update_eq_self _ _)
    rw [hsame]
    exact hcounted
  · rw [hdelegate, hd]
    rfl
  · rw [hrunnable, Nat.zero_add]

lemma keeps_self (h : Sound s) : Keeps s (s, []) :=
  ⟨h, List.not_mem_nil, Nat.zero_add _, Nat.zero_add _⟩

/-- Outputs of `destroy()`, and of the call that returns from it. -/
lemma count_destroyStep (pc : Destroy) (out : List Output) (hout : ∀ o ∈ out, o.plain = true) :
    .fault ∉ (destroyStep d pc).2.2 ++ out ∧
      ((destroyStep d pc).2.2 ++ out).count .deletedDelegate +
        (destroyStep d pc).1.isSome.toNat = 1 ∧
      ((destroyStep d pc).2.2 ++ out).count .deletedRunnable = 0 := by
  obtain ⟨hsafe, hdelegate, hrunnable⟩ := count_plain hout
  obtain ⟨hcount, honly⟩ := destroyStep_ledger d pc
  refine ⟨fun hfault => ?_, ?_, List.count_eq_zero.mpr fun hdeleted => ?_⟩
  · rcases List.mem_append.mp hfault with h | h
    · cases honly _ h
    · exact hsafe h
  · rw [List.count_append, hdelegate]
    exact hcount
  · rcases List.mem_append.mp hdeleted with h | h
    · cases honly _ h
    · exact List.count_eq_zero.mp hrunnable h

lemma keeps_clientDestroy (h : Sound s) {failed : Bool} {pc : Destroy}
    (hc : s.client = .destroy failed pc) : Keeps s (clientDestroy s failed pc) := by
  have hshare : s.share false = pc.share := congrArg Client.share hc
  obtain ⟨d, hd, haccess⟩ := h.access false (by rw [hshare]; cases pc <;> exact nofun) _
  rw [clientDestroy, haccess]
  have hcounted := h.counted
  rw [State.count, hd, Option.map_some] at hcounted
  have hstep := counted_destroyStep pc hcounted hshare
  have hsome : s.delegate.isSome.toNat = 1 := by rw [hd]; rfl
  cases hnext : (destroyStep d pc).2.1 with
  | some pc' =>
      simp only [hnext]
      obtain ⟨hsafe, hdelegate, hrunnable⟩ := count_destroyStep (d := d) pc [] nofun
      rw [List.append_nil] at hsafe hdelegate hrunnable
      rw [hnext] at hstep
      refine ⟨⟨?_, h.runnable⟩, hsafe, hdelegate.trans hsome.symm, ?_⟩
      · rw [share_client { s with delegate := (destroyStep d pc).1 }]
        exact hstep
      · rw [hrunnable, Nat.zero_add]
  | none =>
      simp only [hnext]
      obtain ⟨hsafe, hdelegate, hrunnable⟩ := count_destroyStep (d := d) pc
        [if failed then .started false else .released]
        (by cases failed <;> simp [Output.plain])
      rw [hnext] at hstep
      refine ⟨⟨?_, h.runnable⟩, hsafe, hdelegate.trans hsome.symm, ?_⟩
      · rw [share_client { s with delegate := (destroyStep d pc).1 }]
        cases failed with
        | true => exact hstep
        | false => exact hstep
      · rw [hrunnable, Nat.zero_add]

lemma keeps_workerDestroy (h : Sound s) {pc : Destroy} (hw : s.worker = .destroy pc) :
    Keeps s (workerDestroy s pc) := by
  have hshare : s.share true = pc.share := congrArg Worker.share hw
  obtain ⟨d, hd, haccess⟩ := h.access true (by rw [hshare]; cases pc <;> exact nofun) _
  rw [workerDestroy, haccess]
  have hcounted := h.counted
  rw [State.count, hd, Option.map_some] at hcounted
  have hstep := counted_destroyStep pc hcounted hshare
  have hsome : s.delegate.isSome.toNat = 1 := by rw [hd]; rfl
  cases hnext : (destroyStep d pc).2.1 with
  | some pc' =>
      simp only [hnext]
      obtain ⟨hsafe, hdelegate, hrunnable⟩ := count_destroyStep (d := d) pc [] nofun
      rw [List.append_nil] at hsafe hdelegate hrunnable
      rw [hnext] at hstep
      refine ⟨⟨?_, nofun⟩, hsafe, hdelegate.trans hsome.symm, ?_⟩
      · rw [share_worker { s with delegate := (destroyStep d pc).1 }]
        exact hstep
      · rw [hrunnable, Nat.zero_add]
  | none =>
      simp only [hnext]
      obtain ⟨hsafe, hdelegate, hrunnable⟩ := count_destroyStep (d := d) pc [.exited]
        (by simp [Output.plain])
      rw [hnext] at hstep
      refine ⟨⟨?_, nofun⟩, hsafe, hdelegate.trans hsome.symm, ?_⟩
      · rw [share_worker { s with delegate := (destroyStep d pc).1 }]
        exact hstep
      · rw [hrunnable, Nat.zero_add]

lemma keeps_access (h : Sound s) (thread : Bool) (hshare : s.share thread ≠ .free)
    {f : LocThreadDelegate → State × List Output}
    (hf : ∀ d, s.delegate = some d → Keeps s (f d)) : Keeps s (s.access f) := by
  obtain ⟨d, hd, haccess⟩ := h.access thread hshare f
  rw [haccess]
  exact hf d hd

/-- **A step of the client.** -/
lemma keeps_clientStep (h : Sound s) : Keeps s (clientStep s) := by
  have haccess : s.client.share = .holding → ∀ {f : LocThreadDelegate → State × List Output},
      (∀ d, s.delegate = some d → Keeps s (f d)) → Keeps s (s.access f) := fun hshare _ =>
    keeps_access h false
      (by rw [State.share, if_neg Bool.false_ne_true, hshare]; exact nofun)
  rw [clientStep]
  cases hc : s.client with
  | create =>
      have hshare : s.client.share = .holding := congrArg Client.share hc
      refine haccess hshare fun d hd => ?_
      rw [hd]
      split_ifs
      · exact keeps_client h hshare rfl hd rfl (by simp [Output.plain])
      · exact keeps_client h hshare rfl hd rfl nofun
  | bye =>
      have hshare : s.client.share = .holding := congrArg Client.share hc
      refine haccess hshare fun d hd => ?_
      rw [hd]
      exact keeps_client h hshare (by split_ifs <;> rfl) hd rfl nofun
  | stop =>
      have hshare : s.client.share = .holding := congrArg Client.share hc
      refine haccess hshare fun d hd => ?_
      rw [hd]
      exact keeps_client h hshare (by split_ifs <;> rfl) hd rfl nofun
  | stopRunnable =>
      have hshare : s.client.share = .holding := congrArg Client.share hc
      refine haccess hshare fun d hd => ?_
      refine keeps_client h hshare ?_ hd ?_ ?_
      · rfl
      · rfl
      · exact nofun
  | testJoinable =>
      have hshare : s.client.share = .holding := congrArg Client.share hc
      refine haccess hshare fun d hd => ?_
      rw [hd]
      exact keeps_client h hshare (by split_ifs <;> rfl) hd rfl nofun
  | clearJoinable =>
      have hshare : s.client.share = .holding := congrArg Client.share hc
      refine haccess hshare fun d hd => ?_
      refine keeps_client h hshare ?_ hd ?_ ?_
      · rfl
      · rfl
      · exact nofun
  | join =>
      have hshare : s.client.share = .holding := congrArg Client.share hc
      obtain ⟨d, hd, -⟩ := h.access false
        (by rw [State.share, if_neg Bool.false_ne_true, hshare]; exact nofun) fun _ => (s, [])
      rw [hd]
      exact keeps_client h hshare (by split_ifs <;> rfl) hd rfl nofun
  | destroy failed pc => exact keeps_clientDestroy h hc
  | idle | failed | done => exact keeps_self h

/-- A call on the runnable, while the thread has it in its hands. -/
lemma keeps_call (h : Sound s) (huses : s.worker.uses = true) {o : Output} (ho : o.plain = true)
    {w : Worker} (hw : w.share = .holding) (hshare : s.worker.share = .holding) :
    Keeps s (s.call o { s with worker := w }) := by
  obtain ⟨d, hd, -⟩ := h.access true
    (by rw [State.share, if_pos rfl, hshare]; exact nofun) fun _ => (s, [])
  rw [State.call, if_pos (h.runnable huses), hd]
  exact keeps_worker h hshare hw (fun _ => h.runnable huses) hd rfl (by simpa using ho)

lemma keeps_deleteRunnable (h : Sound s) (hw : s.worker = .deleteRunnable) :
    Keeps s (s.call .deletedRunnable { s with runnable := false, worker := .destroy .test }) := by
  have huses : s.runnable = true := h.runnable (congrArg Worker.uses hw)
  have hsame : { s with runnable := false, worker := .destroy .test }.share = s.share := by
    rw [share_worker { s with runnable := false }]
    exact (congrArg (Function.update _ _) (congrArg Worker.share hw).symm).trans
      (Function.update_eq_self _ _)
  rw [State.call, if_pos huses]
  refine ⟨⟨?_, nofun⟩, by simp, by simp, by simp [huses]⟩
  rw [hsame]
  exact h.counted

/-- **A step of the thread.** -/
lemma keeps_workerStep (h : Sound s) (again : Bool) : Keeps s (workerStep s again) := by
  have haccess : s.worker.share = .holding → ∀ {f : LocThreadDelegate → State × List Output},
      (∀ d, s.delegate = some d → Keeps s (f d)) → Keeps s (s.access f) := fun hshare _ =>
    keeps_access h true (by rw [State.share, if_pos rfl, hshare]; exact nofun)
  rw [workerStep]
  cases hw : s.worker with
  | enter =>
      have hshare : s.worker.share = .holding := congrArg Worker.share hw
      have huses : s.runnable = true := h.runnable (congrArg Worker.uses hw)
      refine haccess hshare fun d hd => ?_
      rw [hd]
      exact keeps_worker h hshare (by split_ifs <;> rfl) (fun _ => huses) hd rfl nofun
  | testPrerun =>
      have hshare : s.worker.share = .holding := congrArg Worker.share hw
      have huses : s.runnable = true := h.runnable (congrArg Worker.uses hw)
      refine haccess hshare fun d hd => ?_
      rw [hd]
      exact keeps_worker h hshare (by split_ifs <;> rfl) (fun _ => huses) hd rfl nofun
  | prerun => exact keeps_call h (congrArg Worker.uses hw) rfl rfl (congrArg Worker.share hw)
  | testRun =>
      have hshare : s.worker.share = .holding := congrArg Worker.share hw
      have huses : s.runnable = true := h.runnable (congrArg Worker.uses hw)
      refine haccess hshare fun d hd => ?_
      rw [hd]
      exact keeps_worker h hshare (by split_ifs <;> rfl) (fun _ => huses) hd rfl nofun
  | run => exact keeps_call h (congrArg Worker.uses hw) rfl rfl (congrArg Worker.share hw)
  | running =>
      exact keeps_call h (congrArg Worker.uses hw) rfl (by split_ifs <;> rfl)
        (congrArg Worker.share hw)
  | testPostrun =>
      have hshare : s.worker.share = .holding := congrArg Worker.share hw
      have huses : s.runnable = true := h.runnable (congrArg Worker.uses hw)
      refine haccess hshare fun d hd => ?_
      rw [hd]
      exact keeps_worker h hshare (by split_ifs <;> rfl) (fun _ => huses) hd rfl nofun
  | postrun => exact keeps_call h (congrArg Worker.uses hw) rfl rfl (congrArg Worker.share hw)
  | clear =>
      have hshare : s.worker.share = .holding := congrArg Worker.share hw
      have huses : s.runnable = true := h.runnable (congrArg Worker.uses hw)
      refine haccess hshare fun d hd => ?_
      refine keeps_worker h hshare ?_ (fun _ => huses) hd ?_ ?_
      · rfl
      · rfl
      · exact nofun
  | deleteRunnable => exact keeps_deleteRunnable h hw
  | destroy pc => exact keeps_workerDestroy h hw
  | absent | exited => exact keeps_self h

/-- **One step of either end.** -/
lemma keeps_step (h : Sound s) (e : Event) : Keeps s (step s e) := by
  have hcall : ∀ c : Client, c.share = .holding →
      Keeps s ({ s with client := if s.client = .idle then c else s.client }, []) := by
    intro c hc
    by_cases hidle : s.client = .idle
    · have hshare : s.client.share = .holding := congrArg Client.share hidle
      obtain ⟨d, hd, -⟩ := h.access false
        (by rw [State.share, if_neg Bool.false_ne_true, hshare]; exact nofun) fun _ => (s, [])
      rw [if_pos hidle, hd]
      exact keeps_client h hshare hc hd rfl nofun
    · rw [if_neg hidle]
      exact keeps_self h
  cases e with
  | client => exact keeps_clientStep h
  | stop => exact hcall .stop rfl
  | bye => exact hcall .bye rfl
  | worker again => exact keeps_workerStep h again

/-- **A run.** -/
lemma keeps_run (h : Sound s) (es : List Event) :
    Keeps s (machine.run s es, machine.outs s es) := by
  induction es generalizing s with
  | nil => exact keeps_self h
  | cons e es ih =>
      have hstep := keeps_step h e
      have hrest := ih hstep.sound
      refine ⟨hrest.sound, ?_, ?_, ?_⟩
      · rw [Machine.outs_cons, List.mem_append, not_or]
        exact ⟨hstep.safe, hrest.safe⟩
      · rw [Machine.outs_cons, List.count_append, Nat.add_assoc]
        exact (congrArg (_ + ·) hrest.delegate).trans hstep.delegate
      · rw [Machine.outs_cons, List.count_append, Nat.add_assoc]
        exact (congrArg (_ + ·) hrest.runnable).trans hstep.runnable

lemma sound_init (created joinable : Bool) : Sound (init created joinable) := by
  have hshare : ∀ thread, (init created joinable).share thread = .holding ∨
      (init created joinable).share thread = .free := by
    cases created <;> cases joinable <;> decide
  have hcounted := Share.counted_of_holding (i := false) hshare (by cases created <;> rfl)
  refine ⟨?_, by cases created <;> exact fun _ => rfl⟩
  have hcount : (init created joinable).count =
      some ((Share.holders (init created joinable).share).card : ℤ) := by
    cases created <;> cases joinable <;> decide
  rw [hcount]
  exact hcounted

/-- The client has returned from its last call. -/
def Client.ended : Client → Bool
  | .failed | .done => true
  | _ => false

lemma client_share_eq_free {c : Client} : c.share = .free ↔ c.ended = true := by
  cases c with
  | destroy failed pc => cases pc <;> simp [Client.share, Destroy.share, Client.ended]
  | _ => simp [Client.share, Client.ended]

lemma worker_share_eq_free {w : Worker} : w.share = .free ↔ w.ended = true := by
  cases w with
  | destroy pc => cases pc <;> simp [Worker.share, Destroy.share, Worker.ended]
  | _ => simp [Worker.share, Worker.ended]

/-- **The delegate.**  In every interleaving of the client and the thread no freed memory is used,
neither object is deleted twice, and the delegate has been deleted exactly when both ends are done
with it. -/
theorem delegate_deleted_once (created joinable : Bool) (es : List Event) :
    let s := machine.run (init created joinable) es
    let out := machine.outs (init created joinable) es
    .fault ∉ out ∧ out.count .deletedDelegate ≤ 1 ∧ out.count .deletedRunnable ≤ 1 ∧
      (out.count .deletedDelegate = 1 ↔ s.client.ended = true ∧ s.worker.ended = true) := by
  intro s out
  have hrun := keeps_run (sound_init created joinable) es
  have hdelegate : out.count .deletedDelegate + s.delegate.isSome.toNat = 1 :=
    hrun.delegate.trans (by cases created <;> rfl)
  have hrunnable : out.count .deletedRunnable + s.runnable.toNat = 1 :=
    hrun.runnable.trans (by cases created <;> rfl)
  refine ⟨hrun.safe, by omega, by omega, ?_⟩
  have hfree : (∀ thread, s.share thread = .free) ↔
      s.client.ended = true ∧ s.worker.ended = true := by
    rw [Bool.forall_bool, ← client_share_eq_free, ← worker_share_eq_free]
    exact Iff.rfl
  rw [← hfree, ← hrun.sound.counted.deleted_iff]
  rw [State.count, Option.map_eq_none_iff]
  cases hd : s.delegate with
  | none =>
      rw [hd] at hdelegate
      exact iff_of_true hdelegate rfl
  | some d =>
      rw [hd] at hdelegate
      refine iff_of_false (fun hone => ?_) (Option.some_ne_none d)
      rw [hone] at hdelegate
      cases hdelegate

end Delegate

/-! ## The runnable -/

/-- The thread has cleared `mRunnable`, or has found it cleared. -/
def Worker.cleared : Worker → Bool
  | .deleteRunnable | .destroy _ | .exited => true
  | _ => false

/-- The thread is done with the runnable. -/
def Worker.gone : Worker → Bool
  | .destroy _ | .exited => true
  | _ => false

/-- The client has found the thread not running, right after it had been created. -/
def Client.failing : Client → Bool
  | .destroy true _ | .failed => true
  | _ => false

/-- The client may have cleared `mRunnable`. -/
def Client.stopping : Client → Bool
  | .testJoinable | .clearJoinable | .join | .destroy false _ | .done => true
  | _ => false

/-- What `mRunnable` says about the two ends. -/
structure Tracks (s : State) : Prop where
  cleared : s.worker.cleared = true → ∀ d, s.delegate = some d → d.mRunnable = false
  running : s.client.stopping = false → s.worker.cleared = false → s.worker ≠ .absent →
    ∀ d, s.delegate = some d → d.mRunnable = true
  deleted : s.client.stopping = false → s.worker.gone = true → s.runnable = false
  failing : s.client.failing = true → s.worker ≠ .absent → s.worker.cleared = true
  absent : s.worker = .absent → s.runnable = true ∧ (s.client = .create ∨ s.client.failing = true) ∧
    ∀ d, s.delegate = some d → d.mRunnable = false

section Runnable

variable {s : State}

/-- A step of `destroy()` leaves the flags of the delegate, if it leaves the delegate. -/
lemma destroyStep_flags {d d' : LocThreadDelegate} {pc : Destroy}
    (h : (destroyStep d pc).1 = some d') :
    d'.mRunnable = d.mRunnable ∧ d'.mJoinable = d.mJoinable := by
  cases pc with
  | test => cases h; exact ⟨rfl, rfl⟩
  | lock => cases h; exact ⟨rfl, rfl⟩
  | delete => cases h

/-- What a step of `destroy()` changes for the client. -/
lemma clientDestroy_spec (s : State) {failed : Bool} {pc : Destroy}
    (hc : s.client = .destroy failed pc) :
    ∃ delegate c, (clientDestroy s failed pc).1 = { s with delegate := delegate, client := c } ∧
      (∀ d', delegate = some d' → ∃ d, s.delegate = some d ∧ d'.mRunnable = d.mRunnable ∧
        d'.mJoinable = d.mJoinable) ∧
      ((∃ pc', c = .destroy failed pc') ∨ c = if failed then .failed else .done) := by
  cases hd : s.delegate with
  | none =>
      refine ⟨none, .destroy failed pc, ?_, nofun, .inl ⟨pc, rfl⟩⟩
      simp only [clientDestroy, State.access, hd]
      rw [← hc, ← hd]
  | some d =>
      rw [clientDestroy, State.access, hd]
      cases hnext : (destroyStep d pc).2.1 with
      | some pc' =>
          simp only [hnext]
          exact ⟨_, _, rfl, fun d' hd' => ⟨d, rfl, destroyStep_flags hd'⟩, .inl ⟨pc', rfl⟩⟩
      | none =>
          simp only [hnext]
          exact ⟨_, _, rfl, fun d' hd' => ⟨d, rfl, destroyStep_flags hd'⟩, .inr rfl⟩

/-- What a step of `destroy()` changes for the thread. -/
lemma workerDestroy_spec (s : State) {pc : Destroy} (hw : s.worker = .destroy pc) :
    ∃ delegate w, (workerDestroy s pc).1 = { s with delegate := delegate, worker := w } ∧
      (∀ d', delegate = some d' → ∃ d, s.delegate = some d ∧ d'.mRunnable = d.mRunnable ∧
        d'.mJoinable = d.mJoinable) ∧
      ((∃ pc', w = .destroy pc') ∨ w = .exited) := by
  cases hd : s.delegate with
  | none =>
      refine ⟨none, .destroy pc, ?_, nofun, .inl ⟨pc, rfl⟩⟩
      simp only [workerDestroy, State.access, hd]
      rw [← hw, ← hd]
  | some d =>
      rw [workerDestroy, State.access, hd]
      cases hnext : (destroyStep d pc).2.1 with
      | some pc' =>
          simp only [hnext]
          exact ⟨_, _, rfl, fun d' hd' => ⟨d, rfl, destroyStep_flags hd'⟩, .inl ⟨pc', rfl⟩⟩
      | none =>
          simp only [hnext]
          exact ⟨_, _, rfl, fun d' hd' => ⟨d, rfl, destroyStep_flags hd'⟩, .inr rfl⟩

lemma client_destroying {c : Client} {failed : Bool}
    (h : (∃ pc, c = .destroy failed pc) ∨ c = if failed then .failed else .done) :
    c.stopping = !failed ∧ c.failing = failed ∧ c ≠ .create := by
  obtain ⟨pc, rfl⟩ | rfl := h
  · cases failed <;> exact ⟨rfl, rfl, nofun⟩
  · cases failed <;> exact ⟨rfl, rfl, nofun⟩

lemma worker_destroying {w : Worker} (h : (∃ pc, w = .destroy pc) ∨ w = .exited) :
    w.cleared = true ∧ w.gone = true ∧ w ≠ .absent := by
  obtain ⟨pc, rfl⟩ | rfl := h
  · exact ⟨rfl, rfl, nofun⟩
  · exact ⟨rfl, rfl, nofun⟩

/-- The client moves on, and may clear `mRunnable` once it is stopping. -/
lemma Tracks.move_client (h : Tracks s) {delegate : Option LocThreadDelegate} {c : Client}
    (hdelegate : ∀ d', delegate = some d' → ∃ d, s.delegate = some d ∧
      (d'.mRunnable = d.mRunnable ∨ c.stopping = true ∧ d'.mRunnable = false))
    (hstopping : c.stopping = false → s.client.stopping = false)
    (hfailing : c.failing = true → s.worker ≠ .absent → s.worker.cleared = true)
    (habsent : s.worker = .absent → c.failing = true) :
    Tracks { s with delegate := delegate, client := c } where
  cleared hw d' hd' := by
    obtain ⟨d, hd, hsame | ⟨-, hfalse⟩⟩ := hdelegate d' hd'
    · exact hsame.trans (h.cleared hw d hd)
    · exact hfalse
  running hc hw hpresent d' hd' := by
    obtain ⟨d, hd, hsame | ⟨hstop, -⟩⟩ := hdelegate d' hd'
    · exact hsame.trans (h.running (hstopping hc) hw hpresent d hd)
    · exact absurd (hc.symm.trans hstop) (by decide)
  deleted hc hw := h.deleted (hstopping hc) hw
  failing := hfailing
  absent hw := by
    obtain ⟨hrunnable, -, hflag⟩ := h.absent hw
    refine ⟨hrunnable, .inr (habsent hw), fun d' hd' => ?_⟩
    obtain ⟨d, hd, hsame | ⟨-, hfalse⟩⟩ := hdelegate d' hd'
    · exact hsame.trans (hflag d hd)
    · exact hfalse

/-- A client past `create()` that has not failed has a thread. -/
lemma Tracks.present (h : Tracks s) (hcreate : s.client ≠ .create)
    (hfailing : s.client.failing = false) : s.worker ≠ .absent := by
  intro hw
  obtain ⟨-, hclient | hclient, -⟩ := h.absent hw
  · exact hcreate hclient
  · exact absurd (hclient.symm.trans hfailing) (by decide)

lemma tracks_clientStep (h : Tracks s) : Tracks (clientStep s).1 := by
  have hkeeps : ∀ c : Client, ∀ delegate, s.delegate = delegate → ∀ d', delegate = some d' →
      ∃ d, s.delegate = some d ∧
        (d'.mRunnable = d.mRunnable ∨ c.stopping = true ∧ d'.mRunnable = false) :=
    fun c _ hsame d' hd' => ⟨d', hsame.trans hd', .inl rfl⟩
  cases hc : s.client with
  | idle | failed | done => simpa only [clientStep, hc] using h
  | destroy failed pc =>
      obtain ⟨delegate, c, hstep, hdelegate, hc'⟩ := clientDestroy_spec s hc
      obtain ⟨hstopping, hfailing, -⟩ := client_destroying hc'
      obtain ⟨hstopping', hfailing', hcreate⟩ := client_destroying (.inl ⟨pc, hc⟩)
      simp only [clientStep, hc, hstep]
      apply h.move_client
      · intro d' hd'
        obtain ⟨d, hd, hrunnable, -⟩ := hdelegate d' hd'
        exact ⟨d, hd, .inl hrunnable⟩
      · rw [hstopping, hstopping']
        exact id
      · rw [hfailing, ← hfailing']
        exact h.failing
      · intro hw
        obtain ⟨-, hclient, -⟩ := h.absent hw
        rw [hfailing, ← hfailing', hclient.resolve_left hcreate]
  | join =>
      have hpresent := h.present (by rw [hc]; nofun) (by rw [hc]; rfl)
      simp only [clientStep, hc]
      apply h.move_client (hkeeps _ _ rfl)
      · split_ifs <;> nofun
      · split_ifs <;> nofun
      · exact fun hw => absurd hw hpresent
  | create =>
      cases hd : s.delegate with
      | none => simpa only [clientStep, State.access, hc, hd] using h
      | some d =>
          simp only [clientStep, State.access, hc, hd]
          split_ifs with hrunnable
          · refine h.move_client (hkeeps _ _ hd) (fun _ => by rw [hc]; rfl) nofun fun hw => ?_
            have hflag := (h.absent hw).2.2 d hd
            exact absurd (hrunnable.symm.trans hflag) (by decide)
          · refine h.move_client (hkeeps _ _ hd) (fun _ => by rw [hc]; rfl) (fun _ hpresent => ?_)
              fun _ => rfl
            by_contra hcleared
            exact hrunnable (h.running (by rw [hc]; rfl) (by simpa using hcleared) hpresent d hd)
  | bye | stop | testJoinable =>
      have hpresent := h.present (by rw [hc]; nofun) (by rw [hc]; rfl)
      cases hd : s.delegate with
      | none => simpa only [clientStep, State.access, hc, hd] using h
      | some d =>
          simp only [clientStep, State.access, hc, hd]
          apply h.move_client (hkeeps _ _ hd)
          · rw [hc]
            split_ifs <;> simp [Client.stopping]
          · split_ifs <;> nofun
          · exact fun hw => absurd hw hpresent
  | stopRunnable | clearJoinable =>
      have hpresent := h.present (by rw [hc]; nofun) (by rw [hc]; rfl)
      cases hd : s.delegate with
      | none => simpa only [clientStep, State.access, hc, hd] using h
      | some d =>
          simp only [clientStep, State.access, hc, hd]
          refine h.move_client (fun d' hd' => ?_) nofun nofun fun hw => absurd hw hpresent
          cases hd'
          exact ⟨d, hd, by simp [Client.stopping]⟩

/-- The thread moves on, and has cleared `mRunnable` when it is past that. -/
lemma Tracks.move_worker (h : Tracks s) (hpresent : s.worker ≠ .absent)
    {delegate : Option LocThreadDelegate} {runnable : Bool} {w : Worker}
    (hdelegate : ∀ d', delegate = some d' → ∃ d, s.delegate = some d ∧
      (d'.mRunnable = d.mRunnable ∨ w.cleared = true))
    (hcleared : w.cleared = true → ∀ d, delegate = some d → d.mRunnable = false)
    (hkept : s.worker.cleared = true → w.cleared = true)
    (hgone : w.gone = true → s.client.stopping = false → runnable = false)
    (hw : w ≠ .absent) :
    Tracks { s with delegate := delegate, runnable := runnable, worker := w } where
  cleared := hcleared
  running hc hw' _ d' hd' := by
    have hnot : s.worker.cleared = false := by
      by_contra hcontra
      exact absurd (hw'.symm.trans (hkept (by simpa using hcontra))) (by decide)
    obtain ⟨d, hd, hsame | hclears⟩ := hdelegate d' hd'
    · exact hsame.trans (h.running hc hnot hpresent d hd)
    · exact absurd (hw'.symm.trans hclears) (by decide)
  deleted hc hgone' := hgone hgone' hc
  failing hc _ := hkept (h.failing hc hpresent)
  absent hw' := absurd hw' hw

lemma tracks_workerStep (h : Tracks s) (again : Bool) : Tracks (workerStep s again).1 := by
  have hkeeps : ∀ w : Worker, ∀ delegate, s.delegate = delegate → ∀ d', delegate = some d' →
      ∃ d, s.delegate = some d ∧ (d'.mRunnable = d.mRunnable ∨ w.cleared = true) :=
    fun _ _ hsame d' hd' => ⟨d', hsame.trans hd', .inl rfl⟩
  cases hw : s.worker with
  | absent | exited => simpa only [workerStep, hw] using h
  | destroy pc =>
      obtain ⟨delegate, w, hstep, hdelegate, hw'⟩ := workerDestroy_spec s hw
      obtain ⟨hcleared, hgone, habsent⟩ := worker_destroying hw'
      obtain ⟨hcleared', hgone', habsent'⟩ := worker_destroying (.inl ⟨pc, hw⟩)
      simp only [workerStep, hw, hstep]
      refine h.move_worker habsent' ?_ (fun _ d' hd' => ?_) (fun _ => hcleared)
        (fun _ hc => h.deleted hc hgone') habsent
      · intro d' hd'
        obtain ⟨d, hd, -⟩ := hdelegate d' hd'
        exact ⟨d, hd, .inr hcleared⟩
      · obtain ⟨d, hd, hrunnable, -⟩ := hdelegate d' hd'
        exact hrunnable.trans (h.cleared hcleared' d hd)
  | prerun | run | running | postrun =>
      simp only [workerStep, State.call, hw]
      refine h.move_worker (by rw [hw]; nofun) (hkeeps _ _ rfl) ?_ ?_ ?_ ?_
      · cases again <;> nofun
      · rw [hw]
        nofun
      · cases again <;> nofun
      · cases again <;> nofun
  | deleteRunnable =>
      simp only [workerStep, State.call, hw]
      exact h.move_worker (by rw [hw]; nofun) (hkeeps _ _ rfl)
        (fun _ d hd => h.cleared (by rw [hw]; rfl) d hd) (fun _ => rfl) (fun _ _ => rfl) nofun
  | clear =>
      cases hd : s.delegate with
      | none => simpa only [workerStep, State.access, hw, hd] using h
      | some d =>
          simp only [workerStep, State.access, hw, hd]
          refine h.move_worker (by rw [hw]; nofun) (fun d' _ => ⟨d, hd, .inr rfl⟩)
            (fun _ d' hd' => ?_) (fun _ => rfl) nofun nofun
          cases hd'
          rfl
  | enter | testPrerun | testRun | testPostrun =>
      cases hd : s.delegate with
      | none => simpa only [workerStep, State.access, hw, hd] using h
      | some d =>
          simp only [workerStep, State.access, hw, hd]
          refine h.move_worker (by rw [hw]; nofun) (hkeeps _ _ hd) ?_ ?_ ?_ ?_
          · split_ifs with hrunnable
            · nofun
            · intro _ d' hd'
              cases hd'
              simpa using hrunnable
          · rw [hw]
            nofun
          · split_ifs with hrunnable
            · nofun
            · intro _ hc
              exact absurd (h.running hc (by rw [hw]; rfl) (by rw [hw]; nofun) d hd) hrunnable
          · split_ifs <;> nofun

lemma tracks_step (h : Tracks s) (e : Event) : Tracks (step s e).1 := by
  cases e with
  | client => exact tracks_clientStep h
  | worker again => exact tracks_workerStep h again
  | stop =>
      obtain ⟨h1, h2, h3, h4, h5⟩ := h
      rw [step]
      constructor
      all_goals grind -linarith [Client.stopping, Client.failing]
  | bye =>
      obtain ⟨h1, h2, h3, h4, h5⟩ := h
      rw [step]
      constructor
      all_goals grind -linarith [Client.stopping, Client.failing]

lemma tracks_init (created joinable : Bool) : Tracks (init created joinable) := by
  cases created <;> constructor <;> simp [init, Worker.cleared, Worker.gone, Client.failing]

/-- No end overtakes the other: when `create` looks whether the thread is running the thread has not
yet ended, and when `stop` clears `mRunnable` the thread has already found it. -/
def InTime (s : State) : Event → Prop
  | .client => (s.client = .create → s.worker.cleared = false) ∧
      (s.client = .stopRunnable → s.worker ≠ .enter)
  | _ => True

instance (s : State) : ∀ e, Decidable (InTime s e)
  | .client => inferInstanceAs (Decidable (_ ∧ _))
  | .stop | .bye | .worker _ => isTrue trivial

/-- The runnable is on its way to being deleted by the one whose it is. -/
def OnCourse (s : State) : Prop :=
  s.worker ≠ .absent → s.client.failing = false ∧
    (s.worker = .enter → ∀ d, s.delegate = some d → d.mRunnable = true) ∧
    (s.worker.gone = true → s.runnable = false)

lemma onCourse_clientStep_iff (hs : Sound s) (ht : Tracks s) (h : OnCourse s) :
    OnCourse (clientStep s).1 ↔ InTime s .client := by
  obtain ⟨h1, h2, h3, h4, h5⟩ := ht
  cases hc : s.client with
  | idle | failed | done => simpa [clientStep, InTime, hc] using h
  | destroy failed pc =>
      obtain ⟨delegate, c, hstep, hdelegate, hc'⟩ := clientDestroy_spec s hc
      obtain ⟨-, hfailing, -⟩ := client_destroying hc'
      obtain ⟨-, hfailing', -⟩ := client_destroying (.inl ⟨pc, hc⟩)
      rw [clientStep]
      simp only [hc, hstep, OnCourse, InTime] at h ⊢
      grind -linarith
  | _ =>
      obtain ⟨d, hd, -⟩ := hs.access false
        (by simp [State.share, Client.share, hc]) fun _ => (s, [])
      simp only [clientStep, State.access, hc, hd, OnCourse, InTime] at h ⊢
      grind -linarith [Client.failing, Client.stopping, Worker.cleared, Worker.gone]

lemma onCourse_workerStep (ht : Tracks s) (h : OnCourse s) (again : Bool) :
    OnCourse (workerStep s again).1 := by
  obtain ⟨h1, h2, h3, h4, h5⟩ := ht
  cases hw : s.worker with
  | destroy pc =>
      obtain ⟨delegate, w, hstep, hdelegate, hw'⟩ := workerDestroy_spec s hw
      obtain ⟨-, hgone, -⟩ := worker_destroying hw'
      rw [workerStep]
      simp only [hw, hstep, OnCourse] at h ⊢
      grind -linarith [Worker.gone]
  | _ =>
      cases hd : s.delegate with
      | none =>
          simp only [workerStep, State.access, State.call, hw, hd, OnCourse] at h ⊢
          grind -linarith [Worker.gone]
      | some d =>
          simp only [workerStep, State.access, State.call, hw, hd, OnCourse] at h ⊢
          grind -linarith [Worker.gone]

lemma onCourse_step_iff (hs : Sound s) (ht : Tracks s) (h : OnCourse s) (e : Event) :
    OnCourse (step s e).1 ↔ InTime s e := by
  cases e with
  | client => exact onCourse_clientStep_iff hs ht h
  | worker again => exact iff_of_true (onCourse_workerStep ht h again) trivial
  | stop =>
      refine iff_of_true ?_ trivial
      simp only [step, OnCourse] at h ⊢
      grind -linarith [Client.failing]
  | bye =>
      refine iff_of_true ?_ trivial
      simp only [step, OnCourse] at h ⊢
      grind -linarith [Client.failing]

/-- What has gone off course stays so. -/
lemma onCourse_of_step (hs : Sound s) (ht : Tracks s) (e : Event) (h : OnCourse (step s e).1) :
    OnCourse s := by
  obtain ⟨h1, h2, h3, h4, h5⟩ := ht
  cases e with
  | client =>
      cases hc : s.client with
      | idle | failed | done => simpa [step, clientStep, hc] using h
      | destroy failed pc =>
          obtain ⟨delegate, c, hstep, hdelegate, hc'⟩ := clientDestroy_spec s hc
          obtain ⟨hstop, hfailing, -⟩ := client_destroying hc'
          obtain ⟨hstop', hfailing', -⟩ := client_destroying (.inl ⟨pc, hc⟩)
          have hsound := (keeps_clientStep hs).sound
          simp only [step, clientStep, hc, hstep, OnCourse] at h hsound ⊢
          -- the thread has not given its share back, so the delegate is still there
          have halive : s.worker = .enter → ∃ d, delegate = some d := by
            intro hw
            obtain ⟨d, hd, -⟩ := hsound.access true
              (by simp [State.share, Worker.share, hw]) fun _ => (s, [])
            exact ⟨d, hd⟩
          grind -linarith
      | _ =>
          obtain ⟨d, hd, -⟩ := hs.access false
            (by simp [State.share, Client.share, hc]) fun _ => (s, [])
          simp only [step, clientStep, State.access, hc, hd, OnCourse] at h ⊢
          grind -linarith [Client.failing, Client.stopping, Worker.cleared, Worker.gone]
  | worker again =>
      cases hw : s.worker with
      | absent | exited => simpa [step, workerStep, hw] using h
      | destroy pc =>
          obtain ⟨delegate, w, hstep, hdelegate, hw'⟩ := workerDestroy_spec s hw
          obtain ⟨-, hgone, -⟩ := worker_destroying hw'
          simp only [step, workerStep, hw, hstep, OnCourse] at h ⊢
          grind -linarith [Worker.gone]
      | _ =>
          obtain ⟨d, hd, -⟩ := hs.access true
            (by simp [State.share, Worker.share, hw]) fun _ => (s, [])
          have hrunnable := hs.runnable
          simp only [step, workerStep, State.access, State.call, hw, hd, OnCourse] at h hrunnable ⊢
          grind -linarith [Worker.gone, Worker.uses]
  | _ =>
      simp only [step, OnCourse] at h ⊢
      grind -linarith [Client.failing]

/-- The client has been told that the thread runs. -/
def Client.started : Client → Bool
  | .create | .failed | .destroy true _ => false
  | _ => true

/-- What `destroy()` has told the client when it goes on, and when it returns. -/
lemma clientDestroy_started (s : State) {failed : Bool} {pc : Destroy}
    (hc : s.client = .destroy failed pc) :
    ((clientDestroy s failed pc).1.client.started = true ↔
        s.client.started = true ∨ .started true ∈ (clientDestroy s failed pc).2) ∧
      ((clientDestroy s failed pc).1.client = .failed ↔
        s.client = .failed ∨ .started false ∈ (clientDestroy s failed pc).2) := by
  have hplain : ∀ d : LocThreadDelegate, ∀ b, .started b ∉ (destroyStep d pc).2.2 :=
    fun d b hmem => Output.noConfusion ((destroyStep_ledger d pc).2 _ hmem)
  cases hd : s.delegate with
  | none => simp [clientDestroy, State.access, hd]
  | some d =>
      rw [clientDestroy, State.access, hd]
      cases hnext : (destroyStep d pc).2.1 with
      | some pc' => cases failed <;> simp [hnext, hc, Client.started, hplain]
      | none => cases failed <;> simp [hnext, hc, Client.started, hplain]

lemma workerStep_client (s : State) (again : Bool) :
    (workerStep s again).1.client = s.client ∧ ∀ b, .started b ∉ (workerStep s again).2 := by
  cases hw : s.worker with
  | destroy pc =>
      obtain ⟨delegate, w, hstep, -, -⟩ := workerDestroy_spec s hw
      simp only [workerStep, hw]
      refine ⟨by rw [hstep], fun b => ?_⟩
      have hplain : ∀ d : LocThreadDelegate, .started b ∉ (destroyStep d pc).2.2 :=
        fun d hmem => Output.noConfusion ((destroyStep_ledger d pc).2 _ hmem)
      cases hd : s.delegate with
      | none => simp [workerDestroy, State.access, hd]
      | some d =>
          rw [workerDestroy, State.access, hd]
          cases hnext : (destroyStep d pc).2.1 <;> simp [hnext, hplain]
  | _ =>
      cases hd : s.delegate with
      | none => simp only [workerStep, State.access, State.call, hw, hd]; grind -linarith
      | some d => simp only [workerStep, State.access, State.call, hw, hd]; grind -linarith

lemma started_step (s : State) (e : Event) :
    ((step s e).1.client.started = true ↔ s.client.started = true ∨ .started true ∈ (step s e).2) ∧
      ((step s e).1.client = .failed ↔ s.client = .failed ∨ .started false ∈ (step s e).2) := by
  cases e with
  | client =>
      cases hc : s.client with
      | destroy failed pc =>
          have hstep : clientStep s = clientDestroy s failed pc := by simp only [clientStep, hc]
          rw [step, hstep, ← hc]
          exact clientDestroy_started s hc
      | _ =>
          cases hd : s.delegate with
          | none =>
              simp only [step, clientStep, State.access, hc, hd]
              grind -linarith [Client.started]
          | some d =>
              simp only [step, clientStep, State.access, hc, hd]
              grind -linarith [Client.started]
  | worker again =>
      obtain ⟨hclient, hout⟩ := workerStep_client s again
      simp [step, hclient, hout]
  | _ =>
      simp only [step]
      grind -linarith [Client.started]

lemma onCourse_step (hs : Sound s) (ht : Tracks s) (e : Event) :
    OnCourse (step s e).1 ↔ OnCourse s ∧ InTime s e := by
  constructor
  · intro h
    have hcourse := onCourse_of_step hs ht e h
    exact ⟨hcourse, (onCourse_step_iff hs ht hcourse e).mp h⟩
  · rintro ⟨hcourse, hintime⟩
    exact (onCourse_step_iff hs ht hcourse e).mpr hintime

lemma onCourse_init (created joinable : Bool) : OnCourse (init created joinable) := by
  cases created <;> simp [init, OnCourse, Client.failing, Worker.gone]

/-- Being on course at the end of a run means that every step of it has been in time. -/
lemma onCourse_run_iff (created joinable : Bool) (es : List Event) :
    OnCourse (machine.run (init created joinable) es) ↔
      machine.Steps InTime (init created joinable) es := by
  have hrun := Machine.run_iff_steps (M := machine) (I := fun s => Sound s ∧ Tracks s)
    (F := fun _ _ => True) (fun s e h _ => ⟨(keeps_step h.1 e).sound, tracks_step h.2 e⟩)
    (fun s e h _ => onCourse_step h.1 h.2 e)
    ⟨sound_init created joinable, tracks_init created joinable⟩
    (machine.steps_of_forall (fun _ _ => trivial) _ es)
  exact hrun.trans (and_iff_right (onCourse_init created joinable))

/-- **The runnable.**  Once both ends are done, the runnable has been deleted by the thread if
`start` has returned true, and is still the caller's if it has returned false, in exactly those runs
in which no end overtakes the other's first look at `mRunnable`. -/
theorem runnable_owner_iff (created joinable : Bool) (es : List Event)
    (hended : (machine.run (init created joinable) es).client.ended = true ∧
      (machine.run (init created joinable) es).worker.ended = true) :
    ((.started true ∈ machine.outs (init created joinable) es →
          (machine.run (init created joinable) es).runnable = false) ∧
        (.started false ∈ machine.outs (init created joinable) es →
          (machine.run (init created joinable) es).runnable = true)) ↔
      machine.Steps InTime (init created joinable) es := by
  have hstarted := Machine.run_iff_mem_outs (M := machine) (P := fun s => s.client.started = true)
    (fun s e => (started_step s e).1) (init created joinable) es
  have hfailed := Machine.run_iff_mem_outs (M := machine) (P := fun s => s.client = .failed)
    (fun s e => (started_step s e).2) (init created joinable) es
  have hclient : (init created joinable).client = .create := by cases created <;> rfl
  rw [hclient, or_iff_right (by decide)] at hstarted hfailed
  rw [← hstarted, ← hfailed, ← onCourse_run_iff]
  have htracks : Tracks (machine.run (init created joinable) es) :=
    machine.run_of_invariant (P := Tracks) (fun s e h => tracks_step h e)
      (tracks_init created joinable) es
  obtain ⟨-, -, hdeleted, -, habsent⟩ := htracks
  generalize machine.run (init created joinable) es = s at *
  obtain ⟨hc, hw⟩ := hended
  have hclient : s.client = .failed ∨ s.client = .done := by
    cases h : s.client <;> simp [h, Client.ended] at hc ⊢
  have hworker : s.worker = .absent ∨ s.worker = .exited := by
    cases h : s.worker <;> simp [h, Worker.ended] at hw ⊢
  rw [OnCourse]
  obtain hworker | hworker := hworker
  · grind -linarith [Client.failing, Client.started]
  · grind -linarith [Client.failing, Client.started, Client.stopping, Worker.gone]

/-- A thread that has ended before `create` looks makes `start` return false, with the runnable
deleted all the same. -/
theorem runnable_owner_iff_overtaken :
    let es := List.replicate 12 (.worker false) ++ List.replicate 4 .client
    ((.started true ∈ machine.outs (init true false) es →
          (machine.run (init true false) es).runnable = false) ∧
        (.started false ∈ machine.outs (init true false) es →
          (machine.run (init true false) es).runnable = true)) ↔
      machine.Steps InTime (init true false) es :=
  runnable_owner_iff true false _ (by decide)

end Runnable

/-! ## Stopping the thread -/

/-- `mRunnable` is null. -/
def State.stopped (s : State) : Prop := ∀ d, s.delegate = some d → d.mRunnable = false

/-- The client has seen to it that the thread stops. -/
def Client.stopped : Client → Bool
  | .testJoinable | .clearJoinable | .join => true
  | _ => false

/-- The client has not yet taken the thread to be joined. -/
def Client.mayJoin : Client → Bool
  | .create | .idle | .bye | .stop | .stopRunnable | .testJoinable | .clearJoinable => true
  | _ => false

/-- The client has returned from the call that ends its use of the thread, or is in `destroy()`. -/
def Client.leaving : Client → Bool
  | .destroy false _ | .done => true
  | _ => false

/-- What the client has done about a thread that it has to join. -/
structure Joins (s : State) : Prop where
  joinable : s.client.mayJoin = true → ∀ d, s.delegate = some d → d.mJoinable = true
  joined : s.client.leaving = true → s.worker.ended = true

/-- The thread has begun a call of the runnable. -/
def Output.call : Output → Bool
  | .prerun | .run | .postrun => true
  | _ => false

/-- The calls that a stopped thread still makes. -/
def Worker.calls : Worker → ℕ
  | .prerun | .run | .postrun => 1
  | _ => 0

/-- The steps in which a stopped thread ends. -/
def Worker.steps : Worker → ℕ
  | .absent | .exited => 0
  | .destroy .delete => 1
  | .destroy .lock => 2
  | .destroy .test => 3
  | .deleteRunnable | .enter => 4
  | .clear => 5
  | .postrun | .testPostrun => 6
  | .testRun => 7
  | .prerun | .testPrerun | .running => 8
  | .run => 9

/-- The step is one of the thread. -/
def Event.ofWorker : Event → Bool
  | .worker _ => true
  | _ => false

section Stop

variable {s : State}

/-- No step sets `mRunnable`. -/
lemma stopped_step (h : s.stopped) (e : Event) : (step s e).1.stopped := by
  cases e with
  | client =>
      cases hc : s.client with
      | destroy failed pc =>
          obtain ⟨delegate, c, hstep, hdelegate, -⟩ := clientDestroy_spec s hc
          simp only [step, clientStep, hc, hstep, State.stopped] at h ⊢
          grind -linarith
      | _ =>
          cases hd : s.delegate <;> simp only [step, clientStep, State.access, hc, hd]
          all_goals simp only [State.stopped] at h ⊢; grind -linarith
  | worker again =>
      cases hw : s.worker with
      | destroy pc =>
          obtain ⟨delegate, w, hstep, hdelegate, -⟩ := workerDestroy_spec s hw
          simp only [step, workerStep, hw, hstep, State.stopped] at h ⊢
          grind -linarith
      | _ =>
          cases hd : s.delegate <;> simp only [step, workerStep, State.access, State.call, hw, hd]
          all_goals simp only [State.stopped] at h ⊢; grind -linarith
  | stop => exact h
  | bye => exact h

/-- A client past the first half of `stop()` leaves the thread stopped. -/
lemma client_stopped_step (h : s.client.stopped = true → s.stopped) (e : Event)
    (hstopped : (step s e).1.client.stopped = true) : (step s e).1.stopped := by
  by_cases hs : s.stopped
  · exact stopped_step hs e
  · have hclient : s.client.stopped = false := by
      rw [← Bool.not_eq_true]
      exact fun hc => hs (h hc)
    cases e with
    | client =>
        cases hc : s.client with
        | destroy failed pc =>
            obtain ⟨delegate, c, hstep, hdelegate, hc'⟩ := clientDestroy_spec s hc
            simp only [step, clientStep, hc, hstep] at hstopped
            grind -linarith [Client.stopped]
        | _ =>
            cases hd : s.delegate <;>
              simp only [step, clientStep, State.access, hc, hd, State.stopped] at h hstopped ⊢
            all_goals grind -linarith [Client.stopped]
    | worker again =>
        rw [step, (workerStep_client s again).1, hclient] at hstopped
        cases hstopped
    | _ =>
        simp only [step] at hstopped
        grind -linarith [Client.stopped]

lemma joins_clientStep (h : Joins s) : Joins (clientStep s).1 := by
  obtain ⟨hjoinable, hjoined⟩ := h
  cases hc : s.client with
  | destroy failed pc =>
      obtain ⟨delegate, c, hstep, hdelegate, hc'⟩ := clientDestroy_spec s hc
      have hleaving : c.leaving = !failed ∧ c.mayJoin = false := by
        obtain ⟨pc', rfl⟩ | rfl := hc' <;> cases failed <;> exact ⟨rfl, rfl⟩
      have hleaving' : s.client.leaving = !failed := by rw [hc]; cases failed <;> rfl
      simp only [clientStep, hc, hstep]
      constructor
      · exact fun hmay => absurd (hleaving.2.symm.trans hmay) Bool.false_ne_true
      · exact fun hleave => hjoined (hleaving'.trans (hleaving.1.symm.trans hleave))
  | _ =>
      cases hd : s.delegate <;> simp only [clientStep, State.access, hc, hd]
      all_goals
        constructor
        all_goals grind -linarith [Client.mayJoin, Client.leaving]

lemma joins_workerStep (h : Joins s) (again : Bool) : Joins (workerStep s again).1 := by
  obtain ⟨hjoinable, hjoined⟩ := h
  cases hw : s.worker with
  | absent | exited => simpa only [workerStep, hw] using ⟨hjoinable, hjoined⟩
  | destroy pc =>
      obtain ⟨delegate, w, hstep, hdelegate, -⟩ := workerDestroy_spec s hw
      simp only [workerStep, hw, hstep]
      constructor
      all_goals grind -linarith [Worker.ended]
  | _ =>
      cases hd : s.delegate <;> simp only [workerStep, State.access, State.call, hw, hd]
      all_goals
        constructor
        all_goals grind -linarith [Worker.ended]

lemma joins_step (h : Joins s) (e : Event) : Joins (step s e).1 := by
  cases e with
  | client => exact joins_clientStep h
  | worker again => exact joins_workerStep h again
  | _ =>
      obtain ⟨hjoinable, hjoined⟩ := h
      rw [step]
      constructor
      all_goals grind -linarith [Client.mayJoin, Client.leaving]

lemma joins_init : Joins (init true true) := by
  constructor <;> simp [init, Client.leaving]

/-- **One step of a stopped thread.** -/
lemma workerStep_stopped (hs : Sound s) (h : s.stopped) (again : Bool) :
    (workerStep s again).2.countP Output.call + (workerStep s again).1.worker.calls ≤
        s.worker.calls ∧
      (workerStep s again).1.worker.steps ≤ s.worker.steps - 1 := by
  cases hw : s.worker with
  | absent | exited => simp [workerStep, hw, Worker.calls, Worker.steps]
  | destroy pc =>
      obtain ⟨d, hd, -⟩ := hs.access true
        (by cases pc <;> simp [State.share, Worker.share, Destroy.share, hw]) fun _ => (s, [])
      cases pc <;> simp only [workerStep, workerDestroy, State.access, destroyStep, hw, hd]
      all_goals grind -linarith [Worker.calls, Worker.steps, Output.call]
  | _ =>
      have hrunnable := hs.runnable
      obtain ⟨d, hd, -⟩ := hs.access true
        (by simp [State.share, Worker.share, hw]) fun _ => (s, [])
      have hstopped : d.mRunnable = false := h d hd
      simp only [workerStep, State.access, State.call, hw, hd, hstopped] at hrunnable ⊢
      grind -linarith [Worker.calls, Worker.steps, Output.call, Worker.uses]

lemma clientStep_worker (s : State) :
    (clientStep s).1.worker = s.worker ∧ (clientStep s).2.countP Output.call = 0 := by
  cases hc : s.client with
  | destroy failed pc =>
      obtain ⟨delegate, c, hstep, -, -⟩ := clientDestroy_spec s hc
      simp only [clientStep, hc]
      refine ⟨by rw [hstep], ?_⟩
      cases hd : s.delegate with
      | none => simp [clientDestroy, State.access, hd, Output.call]
      | some d =>
          have hplain : ∀ o ∈ (destroyStep d pc).2.2, ¬ Output.call o = true := by
            intro o ho
            rw [(destroyStep_ledger d pc).2 o ho]
            exact Bool.false_ne_true
          have hzero := List.countP_eq_zero.mpr hplain
          rw [clientDestroy, State.access, hd]
          cases hnext : (destroyStep d pc).2.1 with
          | some pc' => simpa only [hnext] using hzero
          | none => cases failed <;> simp [hnext, hzero, Output.call]
  | _ =>
      cases hd : s.delegate <;> simp only [clientStep, State.access, hc, hd]
      all_goals grind -linarith [Output.call]

lemma step_stopped (hs : Sound s) (h : s.stopped) (e : Event) :
    (step s e).2.countP Output.call + (step s e).1.worker.calls ≤ s.worker.calls ∧
      (step s e).1.worker.steps ≤ s.worker.steps - [e].countP Event.ofWorker := by
  cases e with
  | worker again => exact workerStep_stopped hs h again
  | client =>
      obtain ⟨hworker, hcalls⟩ := clientStep_worker s
      rw [step, hworker, hcalls, Nat.zero_add]
      exact ⟨le_rfl, le_rfl⟩
  | stop => exact ⟨le_of_eq (Nat.zero_add _), le_rfl⟩
  | bye => exact ⟨le_of_eq (Nat.zero_add _), le_rfl⟩

/-- **A run of a stopped thread.** -/
lemma run_stopped (hs : Sound s) (h : s.stopped) (es : List Event) :
    (machine.outs s es).countP Output.call + (machine.run s es).worker.calls ≤ s.worker.calls ∧
      (machine.run s es).worker.steps ≤ s.worker.steps - es.countP Event.ofWorker := by
  induction es generalizing s with
  | nil => exact ⟨le_of_eq (Nat.zero_add _), le_rfl⟩
  | cons e es ih =>
      obtain ⟨hcalls, hsteps⟩ := step_stopped hs h e
      obtain ⟨ihcalls, ihsteps⟩ := ih (keeps_step hs e).sound (stopped_step h e)
      have hnext : machine.next s e = (step s e).1 := rfl
      have hemit : machine.emit s e = (step s e).2 := rfl
      rw [Machine.outs_cons, Machine.run_cons, hnext, hemit, List.countP_append,
        ← List.singleton_append, List.countP_append]
      omega

lemma worker_calls_le (w : Worker) : w.calls ≤ 1 ∧ w.steps ≤ 9 := by
  cases w with
  | destroy pc => cases pc <;> decide
  | _ => decide

lemma worker_steps_eq_zero {w : Worker} (h : w.steps = 0) : w.ended = true := by
  cases w with
  | destroy pc => cases pc <;> cases h
  | absent | exited => rfl
  | _ => cases h

/-- **Stopping.**  Once `stop` is past its test of `mRunnable`, whatever the order of the steps
after that, the thread begins at most one more call of the runnable, it has ended after nine steps
of its own, and if it is to be joined then it has ended by the time that `stop` returns. -/
theorem stop_ends_thread (joinable : Bool) (pre es : List Event)
    (hstop : (machine.run (init true joinable) pre).client = .testJoinable) :
    let s := machine.run (init true joinable) pre
    (machine.outs s es).countP Output.call ≤ 1 ∧
      (9 ≤ es.countP Event.ofWorker → (machine.run s es).worker.ended = true) ∧
      (joinable = true → (machine.run s es).client = .done →
        (machine.run s es).worker.ended = true) := by
  intro s
  have hsound : Sound s := (keeps_run (sound_init true joinable) pre).sound
  have hstopped : s.client.stopped = true → s.stopped :=
    machine.run_of_invariant (P := fun s => s.client.stopped = true → s.stopped)
      (s := init true joinable) (fun s e h => client_stopped_step h e) nofun pre
  obtain ⟨hcalls, hsteps⟩ := run_stopped hsound (hstopped (by rw [hstop]; rfl)) es
  obtain ⟨hcalls_le, hsteps_le⟩ := worker_calls_le s.worker
  refine ⟨by omega, fun hes => worker_steps_eq_zero (by omega), ?_⟩
  rintro rfl hdone
  rw [← Machine.run_append] at hdone ⊢
  have hjoins : Joins (machine.run (init true true) (pre ++ es)) :=
    machine.run_of_invariant (P := Joins) (fun s e h => joins_step h e) joins_init _
  exact hjoins.joined (by rw [hdone]; rfl)

/-- A thread that is stopped when it is about to call `run()` calls it once more. -/
theorem stop_ends_thread_at_run :
    let s := machine.run (init true true) ([.client, .stop] ++ List.replicate 4 (.worker true) ++
      [.client, .client])
    let es := List.replicate 9 (.worker true) ++ List.replicate 4 .client
    (machine.outs s es).countP Output.call ≤ 1 ∧
      (9 ≤ es.countP Event.ofWorker → (machine.run s es).worker.ended = true) ∧
      (true = true → (machine.run s es).client = .done →
        (machine.run s es).worker.ended = true) :=
  stop_ends_thread true _ _ (by decide)

end Stop

end LocThread
end LocHal
