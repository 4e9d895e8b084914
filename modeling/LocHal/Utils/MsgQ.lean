import LocHal.Lib.Machine
import LocHal.Utils.LinkedList
import Mathlib.Data.List.Forall2

/-!
# The message queue (`gps/utils/msg_q.c`)

A `msg_q` is a linked list under a mutex: a send adds at the head, a receive removes at the tail and
waits on a condition variable while there is nothing to remove.  The steps of the machine are the
stretches of code that run with the mutex held, so a receive that has to wait ends its first step in
`pthread_cond_wait`, and each time it wakes up is one more step.  It may wake up at any moment,
signalled or not.

Receives are told apart by their numbers, in the order of their calls.  Handles and the place a
receive stores its message in are not `NULL`, as in `MsgTask`.
-/

namespace LocHal

/-- `msq_q_err_type`. -/
inductive MsqQErrType where
  | success
  | failureGeneral
  | invalidParameter
  | invalidHandle
  | unavailableResource
  | insufficientBuffer
deriving DecidableEq, Repr

/-- `convert_linked_list_err_type`. -/
def convertLinkedListErrType : LinkedListErrType → MsqQErrType
  | .success => .success
  | .invalidParameter => .invalidParameter
  | .invalidHandle => .invalidHandle
  | .unavailableResource => .unavailableResource
  | .insufficientBuffer => .insufficientBuffer
  | .failureGeneral => .failureGeneral

/-- `msg_q`, with the receives that are in `pthread_cond_wait` and the number of receives called. -/
structure MsgQ (M D : Type*) where
  msg_list : ListState M D
  unblocked : Bool
  waiting : List ℕ
  calls : ℕ

namespace MsgQ

/-- What the calls on the queue return, the elements that a flush frees, the calls of deallocation
functions, and accesses to memory that is not allocated. -/
inductive Output (M D : Type*) where
  | snd (msg_obj : Option M) (dealloc : Option D) (rv : MsqQErrType)
  | rcv (call : ℕ) (msg_obj : Option M) (rv : MsqQErrType)
  | freed (elements : List (M × Option D))
  | dealloc (dealloc_func : D) (data_ptr : M)
  | ret (rv : MsqQErrType)
  | fault
deriving DecidableEq, Repr

/-- The steps of the threads.  `elem` is what `malloc` returns for a message that is sent. -/
inductive Event (M D : Type*) where
  | snd (msg_obj : Option M) (dealloc : Option D) (elem : ℕ)
  | rcv
  | wake (call : ℕ)
  | flush
  | unblock
deriving DecidableEq, Repr

variable {M D : Type*}

/-- `msg_q_init`. -/
def init : MsgQ M D := ⟨linkedListInit, false, [], 0⟩

/-- `msg_q_snd`. -/
def msgQSnd (q : MsgQ M D) (msg_obj : Option M) (dealloc : Option D) (elem : ℕ) :
    MsgQ M D × List (Output M D) :=
  match msg_obj with
  | none => (q, [.snd none dealloc .invalidParameter])
  | some msg_obj =>
      if q.unblocked then (q, [.snd (some msg_obj) dealloc .unavailableResource])
      else
        match linkedListAdd q.msg_list (some msg_obj) dealloc elem with
        | some (msg_list, rv) =>
            ({ q with msg_list := msg_list },
              [.snd (some msg_obj) dealloc (convertLinkedListErrType rv)])
        | none => (q, [.fault])

/-- The loop of `msg_q_rcv` up to its next wait, and what follows the loop. -/
def waitLoop (q : MsgQ M D) (call : ℕ) : MsgQ M D × List (Output M D) :=
  if linkedListEmpty q.msg_list && !q.unblocked then ({ q with waiting := call :: q.waiting }, [])
  else
    match linkedListRemove q.msg_list with
    | some (msg_list, rv, msg_obj) =>
        ({ q with msg_list := msg_list }, [.rcv call msg_obj (convertLinkedListErrType rv)])
    | none => (q, [.fault])

/-- `msg_q_rcv`, as far as it gets before it waits. -/
def msgQRcv (q : MsgQ M D) : MsgQ M D × List (Output M D) :=
  let call := q.calls
  let q := { q with calls := call + 1 }
  if q.unblocked then (q, [.rcv call none .unavailableResource]) else q.waitLoop call

/-- A receive returns from `pthread_cond_wait`. -/
def wake (q : MsgQ M D) (call : ℕ) : MsgQ M D × List (Output M D) :=
  if call ∈ q.waiting then waitLoop { q with waiting := q.waiting.erase call } call else (q, [])

/-- What a flush of the list outputs. -/
def flushOutputs (elements : List (M × Option D)) (rv : MsqQErrType) : List (Output M D) :=
  .freed elements :: (deallocCalls elements).map (fun c => .dealloc c.1 c.2) ++ [.ret rv]

/-- `msg_q_flush`. -/
def msgQFlush (q : MsgQ M D) : MsgQ M D × List (Output M D) :=
  match linkedListFlush q.msg_list with
  | some (msg_list, rv, elements) =>
      ({ q with msg_list := msg_list }, flushOutputs elements (convertLinkedListErrType rv))
  | none => (q, [.fault])

/-- `msg_q_unblock`. -/
def msgQUnblock (q : MsgQ M D) : MsgQ M D × List (Output M D) :=
  if q.unblocked then (q, [.ret .unavailableResource])
  else ({ q with unblocked := true }, [.ret .success])

/-- `msg_q_destroy`, of which only the outputs are left. -/
def msgQDestroy (q : MsgQ M D) : List (Output M D) :=
  match linkedListFlush q.msg_list with
  | some (_, _, elements) => flushOutputs elements .success
  | none => [.fault]

/-- One step of a thread. -/
def step (q : MsgQ M D) : Event M D → MsgQ M D × List (Output M D)
  | .snd msg_obj dealloc elem => q.msgQSnd msg_obj dealloc elem
  | .rcv => q.msgQRcv
  | .wake call => q.wake call
  | .flush => q.msgQFlush
  | .unblock => q.msgQUnblock

/-- The queue as a machine over the steps of the threads. -/
def machine (M D : Type*) : Machine (MsgQ M D) (Event M D) (Output M D) := ⟨step⟩

/-- `malloc` returns memory that is not in use. -/
def MallocFresh (q : MsgQ M D) : Event M D → Prop
  | .snd _ _ elem => elem ∉ q.msg_list.memory
  | _ => True

instance (q : MsgQ M D) : ∀ e, Decidable (q.MallocFresh e)
  | .snd _ _ elem => inferInstanceAs (Decidable (elem ∉ q.msg_list.memory))
  | .rcv | .wake _ | .flush | .unblock => isTrue trivial

/-! ## The history of the messages -/

/-- How a message leaves the queue. -/
inductive Departure (M D : Type*) where
  | received (msg_obj : M)
  | discarded (msg_obj : M) (dealloc : Option D)

/-- A message that was sent with its deallocation function leaves as the same message, and a flush
sees the same function. -/
def Departs (sent : M × Option D) : Departure M D → Prop
  | .received msg_obj => sent.1 = msg_obj
  | .discarded msg_obj dealloc => sent = (msg_obj, dealloc)

namespace Output

/-- A message whose send was successful, with its deallocation function. -/
def sent : Output M D → Option (M × Option D)
  | .snd msg_obj dealloc_func .success => msg_obj.map fun msg_obj => (msg_obj, dealloc_func)
  | _ => none

/-- A message that a receive returns. -/
def received : Output M D → Option M
  | .rcv _ msg_obj _ => msg_obj
  | _ => none

/-- The messages that leave the queue.  A flush begins with the one sent last. -/
def departures : Output M D → List (Departure M D)
  | .rcv _ (some msg_obj) _ => [.received msg_obj]
  | .freed elements => elements.reverse.map fun e => .discarded e.1 e.2
  | _ => []

/-- The messages that a flush discards, in its order. -/
def discarded : Output M D → List (M × Option D)
  | .freed elements => elements
  | _ => []

/-- The call of a deallocation function. -/
def deallocCall : Output M D → Option (D × M)
  | .dealloc dealloc_func data_ptr => some (dealloc_func, data_ptr)
  | _ => none

end Output

/-! ## The queue keeps account of its messages -/

/-- The messages in the queue, oldest first: the list read from its tail. -/
def Holds (q : MsgQ M D) (pending : List (M × Option D)) : Prop :=
  ∃ cells, Represents q.msg_list cells ∧
    pending = cells.reverse.map fun c => (c.data_ptr, c.dealloc_func)

/-- What `out` has to say about a queue that held `pending` before and holds `pending'` after: of
the old messages and those sent, the first ones have left, in order, and the others are still
there. -/
structure Accounts (pending : List (M × Option D)) (out : List (Output M D))
    (pending' : List (M × Option D)) : Prop where
  departed : ∃ gone, pending ++ out.filterMap Output.sent = gone ++ pending' ∧
    List.Forall₂ Departs gone (out.flatMap Output.departures)
  deallocated : out.filterMap Output.deallocCall = deallocCalls (out.flatMap Output.discarded)
  safe : .fault ∉ out

section Accounts

variable {q : MsgQ M D} {pending pending' pending'' : List (M × Option D)}
  {out out' : List (Output M D)}

lemma deallocCalls_append (l l' : List (M × Option D)) :
    deallocCalls (l ++ l') = deallocCalls l ++ deallocCalls l' := List.filterMap_append

lemma Accounts.append (h : Accounts pending out pending') (h' : Accounts pending' out' pending'') :
    Accounts pending (out ++ out') pending'' where
  departed := by
    obtain ⟨gone, hgone, hdeparts⟩ := h.departed
    obtain ⟨gone', hgone', hdeparts'⟩ := h'.departed
    refine ⟨gone ++ gone', ?_, ?_⟩
    · rw [List.filterMap_append, ← List.append_assoc, hgone, List.append_assoc, hgone',
        List.append_assoc]
    · rw [List.flatMap_append]
      exact List.rel_append hdeparts hdeparts'
  deallocated := by
    rw [List.filterMap_append, List.flatMap_append, deallocCalls_append, h.deallocated,
      h'.deallocated]
  safe := by
    rw [List.mem_append, not_or]
    exact ⟨h.safe, h'.safe⟩

/-- Outputs that are about no message. -/
lemma accounts_of_silent {o : Output M D} (hsent : o.sent = none) (hdepartures : o.departures = [])
    (hdiscarded : o.discarded = []) (hcall : o.deallocCall = none) (hsafe : o ≠ .fault) :
    Accounts pending [o] pending where
  departed := ⟨[], by simp [hsent], by simp [hdepartures]⟩
  deallocated := by simp [hdiscarded, hcall, deallocCalls]
  safe := by simpa using hsafe.symm

lemma accounts_nil : Accounts pending ([] : List (Output M D)) pending where
  departed := ⟨[], by simp, .nil⟩
  deallocated := rfl
  safe := by simp

section FlushOutputs

variable (elements : List (M × Option D)) (rv : MsqQErrType)

lemma sent_flushOutputs : (flushOutputs elements rv).filterMap Output.sent = [] := by
  have hcalls : (Output.sent ∘ fun c : D × M => Output.dealloc c.1 c.2) = fun _ => none := rfl
  rw [flushOutputs, List.filterMap_append, List.filterMap_cons_none rfl, List.filterMap_map, hcalls,
    List.filterMap_eq_nil_iff.mpr fun _ _ => rfl]
  rfl

lemma departures_flushOutputs : (flushOutputs elements rv).flatMap Output.departures =
    elements.reverse.map fun e => .discarded e.1 e.2 := by
  simp [flushOutputs, Output.departures, List.flatMap_map]

lemma discarded_flushOutputs : (flushOutputs elements rv).flatMap Output.discarded = elements := by
  simp [flushOutputs, Output.discarded, List.flatMap_map]

lemma deallocCall_flushOutputs :
    (flushOutputs elements rv).filterMap Output.deallocCall = deallocCalls elements := by
  have hcalls : (Output.deallocCall ∘ fun c : D × M => Output.dealloc c.1 c.2) = some := rfl
  rw [flushOutputs, List.filterMap_append, List.filterMap_cons_none rfl, List.filterMap_map, hcalls,
    List.filterMap_some]
  exact List.append_nil _

end FlushOutputs

/-- A flush discards all there is. -/
lemma accounts_flushOutputs (elements : List (M × Option D)) (rv : MsqQErrType) :
    Accounts elements.reverse (flushOutputs elements rv) [] where
  departed := by
    refine ⟨elements.reverse, by rw [sent_flushOutputs], ?_⟩
    rw [departures_flushOutputs, List.forall₂_map_right_iff, List.forall₂_same]
    exact fun e _ => rfl
  deallocated := by rw [deallocCall_flushOutputs, discarded_flushOutputs]
  safe := by simp [flushOutputs]

lemma holds_init : Holds (init : MsgQ M D) [] := ⟨[], represents_init, rfl⟩

lemma Holds.msgQSnd (h : Holds q pending) (msg_obj : Option M) (dealloc : Option D) {elem : ℕ}
    (hfree : elem ∉ q.msg_list.memory) :
    ∃ pending', Holds (q.msgQSnd msg_obj dealloc elem).1 pending' ∧
      Accounts pending (q.msgQSnd msg_obj dealloc elem).2 pending' := by
  obtain ⟨cells, hcells, rfl⟩ := h
  cases msg_obj with
  | none => exact ⟨_, ⟨cells, hcells, rfl⟩, accounts_of_silent rfl rfl rfl rfl nofun⟩
  | some msg_obj =>
      simp only [MsgQ.msgQSnd]
      split_ifs with hunblocked
      · exact ⟨_, ⟨cells, hcells, rfl⟩, accounts_of_silent rfl rfl rfl rfl nofun⟩
      · obtain ⟨msg_list, hadd, hcells'⟩ := hcells.add hfree msg_obj dealloc
        rw [hadd]
        refine ⟨_, ⟨_, hcells', rfl⟩, ⟨[], ?_, .nil⟩, rfl, by simp⟩
        simp [Output.sent, convertLinkedListErrType]

lemma Holds.waitLoop (h : Holds q pending) (call : ℕ) :
    ∃ pending', Holds (q.waitLoop call).1 pending' ∧
      Accounts pending (q.waitLoop call).2 pending' := by
  obtain ⟨cells, hcells, rfl⟩ := h
  rw [MsgQ.waitLoop]
  split_ifs with hwait
  · exact ⟨_, ⟨cells, hcells, rfl⟩, accounts_nil⟩
  · rcases List.eq_nil_or_concat cells with rfl | ⟨front, c, rfl⟩
    · rw [hcells.remove_nil]
      exact ⟨_, ⟨[], hcells, rfl⟩, accounts_of_silent rfl rfl rfl rfl nofun⟩
    · rw [List.concat_eq_append] at hcells ⊢
      obtain ⟨msg_list, hremove, hfront⟩ := hcells.remove
      rw [hremove]
      refine ⟨_, ⟨front, hfront, rfl⟩, ⟨[(c.data_ptr, c.dealloc_func)], ?_, ?_⟩, rfl, by simp⟩
      · simp [Output.sent]
      · exact .cons rfl .nil

lemma Holds.msgQFlush (h : Holds q pending) :
    ∃ pending', Holds q.msgQFlush.1 pending' ∧ Accounts pending q.msgQFlush.2 pending' := by
  obtain ⟨cells, hcells, rfl⟩ := h
  obtain ⟨msg_list, hflush, hempty⟩ := hcells.flush
  rw [MsgQ.msgQFlush, hflush, List.map_reverse]
  exact ⟨[], ⟨[], hempty, rfl⟩, accounts_flushOutputs _ _⟩

lemma Holds.msgQDestroy (h : Holds q pending) : Accounts pending q.msgQDestroy [] := by
  obtain ⟨cells, hcells, rfl⟩ := h
  obtain ⟨msg_list, hflush, -⟩ := hcells.flush
  rw [MsgQ.msgQDestroy, hflush, List.map_reverse]
  exact accounts_flushOutputs _ _

/-- **One step.** -/
lemma Holds.step (h : Holds q pending) {e : Event M D} (hfresh : q.MallocFresh e) :
    ∃ pending', Holds (q.step e).1 pending' ∧ Accounts pending (q.step e).2 pending' := by
  cases e with
  | snd msg_obj dealloc elem => exact h.msgQSnd msg_obj dealloc hfresh
  | rcv =>
      simp only [MsgQ.step, msgQRcv]
      split_ifs with hunblocked
      · exact ⟨pending, h, accounts_of_silent rfl rfl rfl rfl nofun⟩
      · exact Holds.waitLoop (q := { q with calls := q.calls + 1 }) h q.calls
  | wake call =>
      simp only [MsgQ.step, wake]
      split_ifs with hwaits
      · exact Holds.waitLoop (q := { q with waiting := q.waiting.erase call }) h call
      · exact ⟨pending, h, accounts_nil⟩
  | flush => exact h.msgQFlush
  | unblock =>
      simp only [MsgQ.step, msgQUnblock]
      split_ifs with hunblocked
      · exact ⟨pending, h, accounts_of_silent rfl rfl rfl rfl nofun⟩
      · exact ⟨pending, h, accounts_of_silent rfl rfl rfl rfl nofun⟩

/-- **A run.** -/
lemma Holds.run (h : Holds q pending) {es : List (Event M D)}
    (hfresh : (machine M D).Steps MallocFresh q es) :
    ∃ pending', Holds ((machine M D).run q es) pending' ∧
      Accounts pending ((machine M D).outs q es) pending' := by
  induction es generalizing q pending with
  | nil => exact ⟨pending, h, accounts_nil⟩
  | cons e es ih =>
      obtain ⟨pending', h', haccounts⟩ := h.step hfresh.1
      obtain ⟨pending'', h'', haccounts'⟩ := ih h' hfresh.2
      exact ⟨pending'', h'', haccounts.append haccounts'⟩

end Accounts

/-! ## After the queue has been unblocked -/

/-- The event is a call of `msg_q_rcv`. -/
def Event.isRcv : Event M D → Bool
  | .rcv => true
  | _ => false

/-- What may still be output when the queue has been unblocked: no send succeeds, and only the
first `n` receives may return a message. -/
structure Output.Late (n : ℕ) (o : Output M D) : Prop where
  sent : o.sent = none
  received : ∀ call msg_obj rv, o = .rcv call (some msg_obj) rv → call < n

section Unblocked

variable {q : MsgQ M D} {n : ℕ}

/-- What a step does to everything but the list. -/
structure Frame (q : MsgQ M D) (newCalls : ℕ) (q' : MsgQ M D) : Prop where
  calls : q'.calls = q.calls + newCalls
  unblocked : q.unblocked = true → q'.unblocked = true
  waiting : ∀ call ∈ q'.waiting, call ∈ q.waiting ∨ q.unblocked = false ∧ call < q'.calls

lemma frame_waitLoop (q : MsgQ M D) (call : ℕ) :
    (q.waitLoop call).1.calls = q.calls ∧ (q.waitLoop call).1.unblocked = q.unblocked ∧
      ∀ call' ∈ (q.waitLoop call).1.waiting, call' ∈ q.waiting ∨ call' = call := by
  rw [waitLoop]
  split_ifs with hwait
  · exact ⟨rfl, rfl, fun call' h => (List.mem_cons.mp h).symm⟩
  · cases linkedListRemove q.msg_list with
    | some removed => exact ⟨rfl, rfl, fun call' h => .inl h⟩
    | none => exact ⟨rfl, rfl, fun call' h => .inl h⟩

lemma frame_step (q : MsgQ M D) (e : Event M D) : q.Frame (e.isRcv.toNat) (q.step e).1 := by
  have hsame : q.Frame 0 q := ⟨rfl, id, fun call h => .inl h⟩
  cases e with
  | snd msg_obj dealloc elem =>
      cases msg_obj with
      | none => exact hsame
      | some msg_obj =>
          simp only [step, msgQSnd]
          split_ifs with hunblocked
          · exact hsame
          · cases linkedListAdd q.msg_list (some msg_obj) dealloc elem with
            | some added => exact ⟨rfl, id, fun call h => .inl h⟩
            | none => exact hsame
  | rcv =>
      simp only [step, msgQRcv]
      split_ifs with hunblocked
      · exact ⟨rfl, id, fun call h => .inl h⟩
      · obtain ⟨hcalls, hstill, hwaiting⟩ := frame_waitLoop { q with calls := q.calls + 1 } q.calls
        refine ⟨hcalls, fun h => absurd h hunblocked, fun call h => (hwaiting call h).imp id ?_⟩
        rintro rfl
        exact ⟨Bool.not_eq_true _ ▸ hunblocked, hcalls ▸ Nat.lt_succ_self _⟩
  | wake call =>
      simp only [step, wake]
      split_ifs with hwaits
      · obtain ⟨hcalls, hstill, hwaiting⟩ :=
          frame_waitLoop { q with waiting := q.waiting.erase call } call
        refine ⟨hcalls, fun h => hstill.trans h, fun call' h => .inl ?_⟩
        rcases hwaiting call' h with hmem | rfl
        · exact List.mem_of_mem_erase hmem
        · exact hwaits
      · exact hsame
  | flush =>
      simp only [step, msgQFlush]
      cases linkedListFlush q.msg_list with
      | some flushed => exact ⟨rfl, id, fun call h => .inl h⟩
      | none => exact hsame
  | unblock =>
      simp only [step, msgQUnblock]
      split_ifs with hunblocked
      · exact hsame
      · exact ⟨rfl, fun _ => rfl, fun call h => .inl h⟩

/-- Each receive that waits has been called. -/
lemma waiting_lt_calls (es : List (Event M D)) :
    let q := (machine M D).run init es
    q.calls = es.countP Event.isRcv ∧ ∀ call ∈ q.waiting, call < q.calls := by
  induction es using List.reverseRecOn with
  | nil => exact ⟨rfl, by simp [init]⟩
  | append_singleton es e ih =>
      obtain ⟨hcalls, hwaiting⟩ := ih
      have hframe := frame_step ((machine M D).run init es) e
      rw [Machine.run_append]
      refine ⟨?_, fun call hcall => ?_⟩
      · rw [List.countP_append, ← hcalls]
        refine hframe.calls.trans (congrArg _ ?_)
        cases e <;> rfl
      · rcases hframe.waiting call hcall with h | ⟨-, hlt⟩
        · calc call < ((machine M D).run init es).calls := hwaiting call h
            _ ≤ _ := hframe.calls ▸ Nat.le_add_right _ _
        · exact hlt

lemma late_of_not_message {o : Output M D} (hsent : o.sent = none) (hreceived : o.received = none) :
    o.Late n := by
  refine ⟨hsent, ?_⟩
  rintro call msg_obj rv rfl
  simp [Output.received] at hreceived

lemma late_flushOutputs (elements : List (M × Option D)) (rv : MsqQErrType) :
    ∀ o ∈ flushOutputs elements rv, o.Late n := by
  intro o ho
  rw [flushOutputs, List.cons_append, List.mem_cons, List.mem_append, List.mem_map,
    List.mem_singleton] at ho
  obtain rfl | ⟨c, -, rfl⟩ | rfl := ho
  · exact late_of_not_message rfl rfl
  · exact late_of_not_message rfl rfl
  · exact late_of_not_message rfl rfl

/-- **One step of an unblocked queue.** -/
lemma late_step (hunblocked : q.unblocked = true) (hwaiting : ∀ call ∈ q.waiting, call < n)
    (e : Event M D) : ∀ o ∈ (q.step e).2, o.Late n := by
  cases e with
  | snd msg_obj dealloc elem =>
      cases msg_obj with
      | none =>
          rw [step, msgQSnd, List.forall_mem_singleton]
          exact late_of_not_message rfl rfl
      | some msg_obj =>
          simp only [step, msgQSnd, hunblocked, if_true, List.forall_mem_singleton]
          exact late_of_not_message rfl rfl
  | rcv =>
      simp only [step, msgQRcv, hunblocked, if_true, List.forall_mem_singleton]
      exact late_of_not_message rfl rfl
  | wake call =>
      simp only [step, wake]
      split_ifs with hwaits
      · simp only [waitLoop, hunblocked, Bool.not_true, Bool.and_false, Bool.false_eq_true,
          if_false]
        cases linkedListRemove q.msg_list with
        | some removed =>
            rw [List.forall_mem_singleton]
            refine ⟨rfl, fun call' msg_obj rv heq => ?_⟩
            obtain ⟨rfl, -, -⟩ := Output.rcv.inj heq
            exact hwaiting call hwaits
        | none => exact List.forall_mem_singleton.mpr (late_of_not_message rfl rfl)
      · exact nofun
  | flush =>
      simp only [step, msgQFlush]
      cases linkedListFlush q.msg_list with
      | some flushed => exact late_flushOutputs _ _
      | none => exact List.forall_mem_singleton.mpr (late_of_not_message rfl rfl)
  | unblock =>
      simp only [step, msgQUnblock, hunblocked, if_true, List.forall_mem_singleton]
      exact late_of_not_message rfl rfl

/-- **A run of an unblocked queue.** -/
lemma late_run (hunblocked : q.unblocked = true) (hwaiting : ∀ call ∈ q.waiting, call < n)
    (es : List (Event M D)) : ∀ o ∈ (machine M D).outs q es, o.Late n := by
  induction es generalizing q with
  | nil => exact nofun
  | cons e es ih =>
      have hframe := frame_step q e
      refine List.forall_mem_append.mpr ⟨late_step hunblocked hwaiting e, ?_⟩
      refine ih (hframe.unblocked hunblocked) fun call hcall => ?_
      rcases hframe.waiting call hcall with h | ⟨hblocked, -⟩
      · exact hwaiting call h
      · rw [hunblocked] at hblocked
        cases hblocked

end Unblocked

/-! ## Delivery -/

/-- The message, if it is received. -/
def Departure.received? : Departure M D → Option M
  | .received msg_obj => some msg_obj
  | .discarded _ _ => none

lemma filterMap_received (out : List (Output M D)) :
    out.filterMap Output.received =
      (out.flatMap Output.departures).filterMap Departure.received? := by
  induction out with
  | nil => rfl
  | cons o out ih =>
      have ho : o.received.toList = o.departures.filterMap Departure.received? := by
        cases o with
        | rcv call msg_obj rv => cases msg_obj <;> rfl
        | freed elements =>
            rw [Output.departures, List.filterMap_map]
            exact (List.filterMap_eq_nil_iff.mpr fun _ _ => rfl).symm
        | snd _ _ _ | dealloc _ _ | ret _ | fault => rfl
      rw [List.flatMap_cons, List.filterMap_append, ← ih, ← ho, List.filterMap_cons]
      cases o.received <;> rfl

/-- The messages received are some of those that leave, in the same order. -/
lemma received_sublist {gone : List (M × Option D)} {departures : List (Departure M D)}
    (h : List.Forall₂ Departs gone departures) :
    (departures.filterMap Departure.received?).Sublist (gone.map Prod.fst) := by
  induction h with
  | nil => exact .refl _
  | @cons e d gone departures hd _ ih =>
      cases d with
      | received msg_obj =>
          obtain rfl : e.1 = msg_obj := hd
          exact ih.cons_cons _
      | discarded msg_obj dealloc => exact ih.cons _

/-- **Delivery.** Whatever the order of the steps, and when the queue is destroyed in the end: the
messages that were sent have left the queue one by one in the order they were sent, each returned by
one receive or discarded by one flush, which passed it to its deallocation function; no memory was
used that was not there.  Once the queue has been unblocked no send succeeds, and no receive called
later than that returns a message. -/
theorem messages_delivered (es : List (Event M D))
    (hfresh : (machine M D).Steps MallocFresh init es) :
    let out := (machine M D).outs init es ++ ((machine M D).run init es).msgQDestroy
    List.Forall₂ Departs (out.filterMap Output.sent) (out.flatMap Output.departures) ∧
      (out.filterMap Output.received).Sublist ((out.filterMap Output.sent).map Prod.fst) ∧
      out.filterMap Output.deallocCall = deallocCalls (out.flatMap Output.discarded) ∧
      .fault ∉ out ∧
      ∀ before after, es = before ++ .unblock :: after →
        ∀ o ∈ (machine M D).outs ((machine M D).run init (before ++ [.unblock])) after,
          o.Late (before.countP Event.isRcv) := by
  intro out
  obtain ⟨pending, hpending, hrun⟩ := holds_init.run hfresh
  have hall : Accounts [] out [] := hrun.append hpending.msgQDestroy
  obtain ⟨gone, hgone, hdeparts⟩ := hall.departed
  rw [List.nil_append, List.append_nil] at hgone
  rw [hgone]
  refine ⟨hdeparts, ?_, hall.deallocated, hall.safe, ?_⟩
  · rw [filterMap_received]
    exact received_sublist hdeparts
  · rintro before after rfl
    obtain ⟨hcalls, hwaiting⟩ := waiting_lt_calls before
    rw [Machine.run_append]
    have hunblocked : (((machine M D).run init before).msgQUnblock).1.unblocked = true ∧
        (((machine M D).run init before).msgQUnblock).1.waiting =
          ((machine M D).run init before).waiting := by
      rw [msgQUnblock]
      split_ifs with h
      · exact ⟨h, rfl⟩
      · exact ⟨rfl, rfl⟩
    refine late_run hunblocked.1 (fun call hcall => ?_) after
    rw [← hcalls]
    exact hwaiting call (hunblocked.2 ▸ hcall)

/-- A receive that waits for the first of three messages, one of which is discarded, and a receive
called after the queue has been unblocked. -/
theorem messages_delivered_three :
    let es : List (Event ℕ ℕ) := [.rcv, .snd (some 10) (some 7) 0, .wake 0,
      .snd (some 11) (some 7) 0, .rcv, .snd (some 12) (some 8) 1, .unblock,
      .snd (some 13) none 2, .rcv]
    (machine ℕ ℕ).Steps MallocFresh init es ∧
      let out := (machine ℕ ℕ).outs init es ++ ((machine ℕ ℕ).run init es).msgQDestroy
      List.Forall₂ Departs (out.filterMap Output.sent) (out.flatMap Output.departures) ∧
        (out.filterMap Output.received).Sublist ((out.filterMap Output.sent).map Prod.fst) ∧
        out.filterMap Output.deallocCall = deallocCalls (out.flatMap Output.discarded) ∧
        .fault ∉ out ∧
        ∀ before after, es = before ++ .unblock :: after →
          ∀ o ∈ (machine ℕ ℕ).outs ((machine ℕ ℕ).run init (before ++ [.unblock])) after,
            o.Late (before.countP Event.isRcv) :=
  have hfresh : (machine ℕ ℕ).Steps MallocFresh init [.rcv, .snd (some 10) (some 7) 0, .wake 0,
      .snd (some 11) (some 7) 0, .rcv, .snd (some 12) (some 8) 1, .unblock,
      .snd (some 13) none 2, .rcv] := by decide
  ⟨hfresh, messages_delivered _ hfresh⟩

end MsgQ

end LocHal
