import LocHal.Utils.LocIpc
import Mathlib.Data.Finset.Card
import Mathlib.Data.Fin.VecNotation
import Mathlib.Data.Fintype.Basic

/-!
# Several senders of local messages (`gps/utils/LocIpc.cpp`)

Each of any number of senders sends one message to the same listener.  The socket delivers their
datagrams in the order in which they were sent, which keeps the order of each sender and is
otherwise arbitrary.  Nothing in a datagram says whose it is.

`received_of_undisturbed`: every message is received once, and as it was sent, when no sender sends
a datagram while another one is in the middle of its message, and each message can be received over
the one sent before it.
-/

namespace LocHal

open LocIpc

/-- The senders and the listener.  `last` is the message begun last, and `current` the sender of the
last datagram, if its message has not been sent in full. -/
structure LocIpcSenders (ι : Type*) where
  unsent : ι → List (List Char)
  last : List Char
  current : Option ι
  listener : LocIpc

namespace LocIpcSenders

variable {ι : Type*} [DecidableEq ι]

/-- Nothing has been sent. -/
def init (message : ι → List Char) : LocIpcSenders ι :=
  ⟨fun i => send (message i), [], none, .waiting []⟩

/-- A sender sends its next datagram, which the listener receives. -/
def step (message : ι → List Char) (s : LocIpcSenders ι) (i : ι) :
    LocIpcSenders ι × List (List Char) :=
  match s.unsent i with
  | [] => (s, [])
  | datagram :: rest =>
      let received := LocIpc.step s.listener datagram
      ({  unsent := Function.update s.unsent i rest
          last := if s.unsent i = send (message i) then message i else s.last
          current := if rest = [] then none else some i
          listener := received.1 }, received.2)

/-- The senders and the listener as a machine, whose events are the senders in the order in which
they send. -/
def machine (message : ι → List Char) : Machine (LocIpcSenders ι) ι (List Char) := ⟨step message⟩

/-- Everything has been sent. -/
def Sent (s : LocIpcSenders ι) : Prop := ∀ i, s.unsent i = []

instance [Fintype ι] (s : LocIpcSenders ι) : Decidable s.Sent :=
  inferInstanceAs (Decidable (∀ i, s.unsent i = []))

/-- A sender that has something to send sends it when no other sender is in the middle of its
message, and begins a message that can be received over the one begun before. -/
def Undisturbed (message : ι → List Char) (s : LocIpcSenders ι) (i : ι) : Prop :=
  s.unsent i ≠ [] → (∀ j ∈ s.current, j = i) ∧
    (s.unsent i = send (message i) → Received s.last (message i))

instance (message : ι → List Char) (s : LocIpcSenders ι) (i : ι) :
    Decidable (Undisturbed message s i) :=
  inferInstanceAs (Decidable (_ → _ ∧ _))

/-! ## The stream of datagrams -/

section Stream

variable {message : ι → List Char} {s : LocIpcSenders ι} {i : ι}

/-- The datagrams that reach the listener. -/
def stream (message : ι → List Char) : LocIpcSenders ι → List ι → List (List Char)
  | _, [] => []
  | s, i :: order => (s.unsent i).take 1 ++ stream message ((machine message).next s i) order

lemma step_of_unsent_nil (message : ι → List Char) (h : s.unsent i = []) :
    (machine message).step s i = (s, []) := by
  simp only [machine, step, h]

lemma step_of_unsent_cons (message : ι → List Char) {datagram : List Char} {rest : List (List Char)}
    (h : s.unsent i = datagram :: rest) :
    (machine message).step s i =
      ({  unsent := Function.update s.unsent i rest
          last := if s.unsent i = send (message i) then message i else s.last
          current := if rest = [] then none else some i
          listener := startListeningBlocking.next s.listener datagram },
        startListeningBlocking.emit s.listener datagram) := by
  simp only [machine, step, h]
  rfl

/-- The listener receives what the stream makes it receive. -/
lemma outs_eq (message : ι → List Char) (s : LocIpcSenders ι) (order : List ι) :
    (machine message).outs s order =
      startListeningBlocking.outs s.listener (stream message s order) := by
  induction order generalizing s with
  | nil => rfl
  | cons i order ih =>
      rw [Machine.outs_cons, stream, ih]
      cases h : s.unsent i with
      | nil =>
          have hstep := step_of_unsent_nil message h
          rw [Machine.emit, Machine.next, hstep]
          rfl
      | cons datagram rest =>
          have hstep := step_of_unsent_cons message h
          rw [Machine.emit, Machine.next, hstep]
          rfl

end Stream

/-! ## One message after the other -/

section Orderly

variable {message : ι → List Char} {s : LocIpcSenders ι} {i : ι}

lemma send_ne_nil (m : List Char) : send m ≠ [] := by
  rw [send, sendData]
  split
  · exact List.cons_ne_nil _ _
  · exact List.cons_ne_nil _ _

/-- Only the current sender is in the middle of its message. -/
structure Orderly (message : ι → List Char) (s : LocIpcSenders ι) : Prop where
  others : ∀ i ∉ s.current, s.unsent i = [] ∨ s.unsent i = send (message i)
  middle : ∀ i ∈ s.current, s.unsent i ≠ [] ∧ (s.unsent i).length < (send (message i)).length

/-- What the current sender has still to send. -/
def unfinished (s : LocIpcSenders ι) : List (List Char) :=
  s.current.elim [] s.unsent

omit [DecidableEq ι] in
lemma orderly_init (message : ι → List Char) : Orderly message (init message) where
  others _ _ := .inr rfl
  middle _ hi := by cases hi

variable [Fintype ι]

/-- The senders that have not begun. -/
def notBegun (message : ι → List Char) (s : LocIpcSenders ι) : Finset ι :=
  Finset.univ.filter fun i => s.unsent i = send (message i)

/-- The stream finishes the current message and goes on with the messages not begun, whole and one
after the other. -/
def InTurn (message : ι → List Char) (s : LocIpcSenders ι) (datagrams : List (List Char)) : Prop :=
  ∃ ms : List (List Char), (ms : Multiset (List Char)) = (notBegun message s).val.map message ∧
    ReceivedInTurn s.last ms ∧ datagrams = unfinished s ++ ms.flatMap send

/-- After one undisturbed datagram. -/
lemma Orderly.next (h : Orderly message s) (hi : Undisturbed message s i) :
    Orderly message ((machine message).next s i) ∧
      ∀ datagrams, InTurn message ((machine message).next s i) datagrams →
        InTurn message s ((s.unsent i).take 1 ++ datagrams) := by
  cases hunsent : s.unsent i with
  | nil =>
      have hstep := step_of_unsent_nil message hunsent
      rw [Machine.next, hstep]
      exact ⟨h, fun datagrams hturn => hturn⟩
  | cons datagram rest =>
      have hne : s.unsent i ≠ [] := hunsent ▸ List.cons_ne_nil _ _
      obtain ⟨hcurrent, hreceived⟩ := hi hne
      have hstep := step_of_unsent_cons message hunsent
      have hlength : rest.length < (send (message i)).length := by
        by_cases hmid : i ∈ s.current
        · have := (h.middle i hmid).2
          rw [hunsent, List.length_cons] at this
          omega
        · rcases h.others i hmid with hnil | hall
          · exact absurd hnil hne
          · rw [← hall, hunsent, List.length_cons]
            omega
      have hnotAll : rest ≠ send (message i) := fun heq => by
        rw [heq] at hlength
        exact lt_irrefl _ hlength
      have hothers : ∀ j, j ≠ i → s.unsent j = [] ∨ s.unsent j = send (message j) := by
        intro j hj
        refine h.others j fun hmid => hj (hcurrent j hmid)
      rw [Machine.next, hstep]
      refine ⟨⟨fun j hj => ?_, fun j hj => ?_⟩, fun datagrams => ?_⟩
      · by_cases hji : j = i
        · subst hji
          by_cases hrest : rest = []
          · exact .inl (by simp [hrest])
          · simp [hrest] at hj
        · simpa [Function.update_of_ne hji] using hothers j hji
      · by_cases hrest : rest = []
        · simp [hrest] at hj
        · have hji : j = i := by simpa [hrest, eq_comm] using hj
          subst hji
          simp only [Function.update_self]
          exact ⟨hrest, hlength⟩
      · rintro ⟨ms, hms, hturn, rfl⟩
        have hunfinished : (if rest = [] then none else some i).elim []
            (Function.update s.unsent i rest) = rest := by
          by_cases hrest : rest = []
          · simp [hrest]
          · simp [hrest]
        have hnext : notBegun message ((machine message).step s i).1 =
            (notBegun message s).erase i := by
          rw [hstep]
          ext j
          by_cases hji : j = i
          · subst hji
            simp [notBegun, hnotAll]
          · simp [notBegun, hji]
        rw [← hstep, hnext, Finset.erase_val] at hms
        simp only [unfinished, hunfinished]
        by_cases hmid : i ∈ s.current
        · -- the message goes on
          have hnot : s.unsent i ≠ send (message i) := fun heq => by
            have := (h.middle i hmid).2
            rw [heq] at this
            exact lt_irrefl _ this
          have hmem : i ∉ (notBegun message s).val := fun hmem =>
            hnot (Finset.mem_filter.mp hmem).2
          rw [Multiset.erase_of_notMem hmem] at hms
          rw [if_neg hnot] at hturn
          refine ⟨ms, hms, hturn, ?_⟩
          rw [unfinished, Option.mem_def.mp hmid, Option.elim_some, hunsent]
          rfl
        · -- the message begins
          have hnone : s.current = none := Option.eq_none_iff_forall_not_mem.mpr
            fun j hj => hmid (hcurrent j hj ▸ hj)
          have hall : s.unsent i = send (message i) := (h.others i hmid).resolve_left hne
          have hmem : i ∈ (notBegun message s).val :=
            Finset.mem_filter.mpr ⟨Finset.mem_univ i, hall⟩
          rw [if_pos hall] at hturn
          refine ⟨message i :: ms, ?_, ⟨hreceived hall, hturn⟩, ?_⟩
          · rw [← Multiset.cons_coe, hms, ← Multiset.map_cons, Multiset.cons_erase hmem]
          · rw [unfinished, hnone, Option.elim_none, List.nil_append, List.flatMap_cons, ← hall,
              hunsent]
            rfl

/-- After a run of undisturbed datagrams that sends everything. -/
lemma Orderly.inTurn_stream (h : Orderly message s) {order : List ι}
    (hsteps : (machine message).Steps (Undisturbed message) s order)
    (hsent : Sent ((machine message).run s order)) :
    InTurn message s (stream message s order) := by
  induction order generalizing s with
  | nil =>
      have hnone : notBegun message s = ∅ := by
        refine Finset.filter_eq_empty_iff.mpr fun i _ heq => send_ne_nil (message i) ?_
        rw [← heq]
        exact hsent i
      have hunfinished : unfinished s = [] := by
        cases hcurrent : s.current with
        | none => rw [unfinished, hcurrent, Option.elim_none]
        | some i => exact absurd (hsent i) (h.middle i hcurrent).1
      exact ⟨[], by rw [hnone]; rfl, trivial, by rw [hunfinished]; rfl⟩
  | cons i order ih =>
      obtain ⟨hnext, hturn⟩ := h.next hsteps.1
      exact hturn _ (ih hnext hsteps.2 hsent)

end Orderly

/-! ## Every message received -/

section Received

variable [Fintype ι]

/-- **Several senders.** When all datagrams have been sent and received, each message has been
received once and as it was sent, if no sender was disturbed. -/
theorem received_of_undisturbed (message : ι → List Char) (order : List ι)
    (hmessage : ∀ i, Sendable (message i))
    (hsent : Sent ((machine message).run (init message) order))
    (hsteps : (machine message).Steps (Undisturbed message) (init message) order) :
    ((machine message).outs (init message) order : Multiset (List Char)) =
      Finset.univ.val.map message := by
  obtain ⟨ms, hms, hturn, hstream⟩ := (orderly_init message).inTurn_stream hsteps hsent
  have hall : notBegun message (init message) = Finset.univ :=
    Finset.filter_true_of_mem fun i _ => rfl
  rw [hall] at hms
  have hne : ∀ m ∈ ms, m ≠ [] := by
    intro m hm
    have hm' : m ∈ Finset.univ.val.map message := hms ▸ Multiset.mem_coe.mpr hm
    obtain ⟨i, -, rfl⟩ := Multiset.mem_map.mp hm'
    exact (hmessage i).ne_nil
  have houts : (machine message).outs (init message) order = ms := by
    rw [outs_eq, hstream]
    exact (outs_eq_iff hne).mpr hturn
  rw [houts, hms]

end Received

/-- Two senders, the second of which begins when the first has finished. -/
theorem received_two :
    ((machine ![['l', 'o', 'n', 'g', 'e', 'r'], ['L']]).outs
      (init ![['l', 'o', 'n', 'g', 'e', 'r'], ['L']]) [0, 1] : Multiset (List Char)) =
        Finset.univ.val.map ![['l', 'o', 'n', 'g', 'e', 'r'], ['L']] :=
  received_of_undisturbed _ [0, 1] (by decide) (by decide) (by decide)

/-- A message of 8193 characters. -/
def longMessage : List Char := List.replicate 8193 'a'

lemma send_longMessage :
    send longMessage = [header 8193, List.replicate 8192 'a', ['a']] := by
  have hlength : longMessage.length % 2 ^ 32 = 8193 := by
    rw [longMessage, List.length_replicate]
    decide
  have hfirst : sendParts longMessage 8193 0 =
      List.replicate 8192 'a' :: sendParts longMessage 8193 8192 := by
    rw [sendParts, if_pos (by decide), longMessage]
    simp only [locMsgBufLen, List.drop_replicate, List.take_replicate]
    rfl
  have hsecond : sendParts longMessage 8193 8192 = ['a'] :: sendParts longMessage 8193 8193 := by
    rw [sendParts, if_pos (by decide), longMessage]
    simp only [locMsgBufLen, List.drop_replicate, List.take_replicate]
    rfl
  have hlast : sendParts longMessage 8193 8193 = [] := by
    rw [sendParts, if_neg (by decide)]
  rw [send, hlength, sendData, if_neg (by decide), hfirst, hsecond, hlast]

lemma sendable_longMessage : Sendable longMessage := by
  have hcons : longMessage = 'a' :: List.replicate 8192 'a' := List.replicate_succ
  rw [hcons]
  refine ⟨List.cons_ne_nil _ _, fun h => ?_, fun h => ?_⟩
  · exact absurd (List.cons_prefix_cons.mp h).1 (by decide)
  · exact absurd (List.cons_prefix_cons.mp h).1 (by decide)

/-- A message of two parts, with a short message between its header and the parts. -/
lemma stream_of_two_parts {m head part part' : List Char} (c : Char)
    (hsend : send m = [head, part, part']) :
    stream ![m, [c]] (init ![m, [c]]) [0, 1, 0, 0] = [head, [c], part, part'] ∧
      Sent ((machine ![m, [c]]).run (init ![m, [c]]) [0, 1, 0, 0]) := by
  have hshort : send [c] = [[c]] := rfl
  refine ⟨?_, Fin.forall_fin_two.mpr ⟨?_, ?_⟩⟩
  · simp [stream, Machine.next, machine, step, init, hsend, hshort]
  · simp [Machine.next, machine, step, init, hsend, hshort]
  · simp [Machine.next, machine, step, init, hsend, hshort]

/-- The short message is taken for the first part of the long one, whose last part is then taken for
a short message. -/
lemma outs_of_two_parts (c : Char) :
    (machine ![longMessage, [c]]).outs (init ![longMessage, [c]]) [0, 1, 0, 0] =
      [c :: List.replicate 8192 'a', ['a']] := by
  obtain ⟨msg, hreceive, -, hiff⟩ := receive_header [] (by decide : 0 < 8193) (by decide)
  have hmsg : msg.length = 8193 := hiff.mpr (by simp)
  have hpart : (List.replicate 8192 'a').length = 8192 := List.length_replicate
  have hshort : [c].length = 1 := rfl
  have hlength : (overwrite msg 0 [c]).length = 8193 := by
    rw [length_overwrite (by omega), hmsg]
  have htake : (overwrite msg 0 [c]).take 1 = [c] := by
    rw [overwrite_zero, List.singleton_append, List.take_succ_cons, List.take_zero]
  have h1 : startListeningBlocking.step (.waiting []) (header 8193) = (.receiving msg 0, []) :=
    (step_waiting (by decide)).trans hreceive
  have h2 : startListeningBlocking.step (.receiving msg 0) [c] =
      (.receiving (overwrite msg 0 [c]) 1, []) :=
    step_receiving_of_lt (List.cons_ne_nil _ _) (by omega)
  have h3 : startListeningBlocking.step (.receiving (overwrite msg 0 [c]) 1)
      (List.replicate 8192 'a') = (.waiting (c :: List.replicate 8192 'a'),
        [c :: List.replicate 8192 'a']) := by
    have hne : List.replicate 8192 'a' ≠ [] := List.ne_nil_of_length_pos (by omega)
    have hfull : 1 + (List.replicate 8192 'a').length = (overwrite msg 0 [c]).length := by omega
    have hstep := step_receiving_of_eq hne hfull
    rw [htake] at hstep
    exact hstep
  have h4 : startListeningBlocking.step (.waiting (c :: List.replicate 8192 'a')) ['a'] =
      (.waiting ['a'], [['a']]) := by
    rcases receive_cases (c :: List.replicate 8192 'a') (List.cons_ne_nil 'a' [])
      (by decide) with ⟨ha, -⟩ | ⟨-, -, hreceive⟩ | ⟨-, hh, -⟩
    · exact absurd (List.cons_prefix_cons.mp ha).1 (by decide)
    · exact hreceive
    · exact absurd (List.cons_prefix_cons.mp hh).1 (by decide)
  rw [outs_eq, (stream_of_two_parts c send_longMessage).1]
  simp only [init, Machine.outs_cons, Machine.outs_nil, Machine.emit, Machine.next, h1, h2, h3, h4,
    List.nil_append, List.cons_append]

/-- A short message that is sent in the middle of a long one: neither is received. -/
theorem interrupted :
    ¬ ∀ (message : Fin 2 → List Char) (order : List (Fin 2)), (∀ i, Sendable (message i)) →
      Sent ((machine message).run (init message) order) →
        ((machine message).outs (init message) order : Multiset (List Char)) =
          Finset.univ.val.map message := by
  intro h
  have hsendable : ∀ i, Sendable (![longMessage, ['b']] i) :=
    Fin.forall_fin_two.mpr ⟨sendable_longMessage, (by decide : Sendable ['b'])⟩
  have hreceived := h _ _ hsendable (stream_of_two_parts 'b' send_longMessage).2
  have hmem : ['b'] ∈ Finset.univ.val.map ![longMessage, ['b']] :=
    Multiset.mem_map.mpr ⟨1, Finset.mem_univ_val 1, rfl⟩
  rw [← hreceived, outs_of_two_parts, Multiset.mem_coe] at hmem
  rcases List.mem_cons.mp hmem with heq | heq
  · have hlength := congrArg List.length heq
    rw [List.length_cons, List.length_cons, List.length_replicate] at hlength
    exact absurd hlength (by decide)
  · exact absurd heq (by decide)

/-- With other characters in the short message both messages are received, although the parts are
not their own: the condition of `received_of_undisturbed` cannot be found in the outputs alone. -/
lemma received_although_interrupted :
    ((machine ![longMessage, ['a']]).outs (init ![longMessage, ['a']]) [0, 1, 0, 0] :
      Multiset (List Char)) = Finset.univ.val.map ![longMessage, ['a']] := by
  rw [outs_of_two_parts, longMessage, List.replicate_succ]
  rfl

end LocIpcSenders
end LocHal
