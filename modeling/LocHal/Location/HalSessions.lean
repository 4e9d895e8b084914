import LocHal.Location.LocationAPIClientBase

/-!
# Commands and sessions of the HAL

What the client may rely on about the commands that an interface has yet to take: the start of a
session comes before all that concerns it, and only the interface that a session was started at will
answer.  A request queue that belongs to one session is then in step with the commands on it.
-/

namespace LocHal
namespace Hal

variable {hal : Hal} {i i' : HalInterface} {c c' : HalCommand} {session : ℕ} {q : RequestQueue}

/-- The session is live at the interface, or is to be started there. -/
def Knows (hal : Hal) (i : HalInterface) (session : ℕ) : Prop :=
  session ∈ hal.live i ∨ ∃ c ∈ hal.commands i, c.kind.isStart = true ∧ c.session = session

/-- What holds of the HAL between events. -/
structure WellFormed (hal : Hal) : Prop where
  nextSession : 0 < hal.nextSession
  live_lt : ∀ i, ∀ session ∈ hal.live i, session < hal.nextSession
  commands_lt : ∀ i, ∀ c ∈ hal.commands i, 0 < c.session ∧ c.session < hal.nextSession
  starts_first : ∀ i,
    (hal.commands i).Pairwise fun a b => b.kind.isStart = true → a.session ≠ b.session
  one_owner : ∀ {session i i'}, hal.Knows i session → hal.Knows i' session → i = i'

lemma mem_commands_send :
    c' ∈ (hal.send i c).commands i' ↔ c' ∈ hal.commands i' ∨ i' = i ∧ c' = c := by
  unfold send
  simp only []
  split
  · rename_i h
    simp [h]
  · rename_i h
    simp [h]

lemma knows_send (hk : c.kind.isStart = false) :
    (hal.send i c).Knows i' session ↔ hal.Knows i' session := by
  have hlive : (hal.send i c).live = hal.live := rfl
  simp only [Knows, hlive, mem_commands_send]
  constructor
  · rintro (hl | ⟨c', hc' | ⟨-, rfl⟩, hstart, hsession⟩)
    · exact .inl hl
    · exact .inr ⟨c', hc', hstart, hsession⟩
    · rw [hk] at hstart
      cases hstart
  · rintro (hl | ⟨c', hc', hstart, hsession⟩)
    · exact .inl hl
    · exact .inr ⟨c', .inl hc', hstart, hsession⟩

lemma WellFormed.knows_lt (h : hal.WellFormed) (hk : hal.Knows i session) :
    session < hal.nextSession := by
  rcases hk with hl | ⟨c, hc, -, rfl⟩
  · exact h.live_lt i session hl
  · exact (h.commands_lt i c hc).2

/-- A command on a session that has been given out. -/
lemma WellFormed.send (h : hal.WellFormed) (hpos : 0 < c.session)
    (hlt : c.session < hal.nextSession) (hk : c.kind.isStart = false) (i : HalInterface) :
    (hal.send i c).WellFormed where
  nextSession := h.nextSession
  live_lt := h.live_lt
  commands_lt i' c' hc' := by
    rcases mem_commands_send.mp hc' with hc' | ⟨-, rfl⟩
    · exact h.commands_lt i' c' hc'
    · exact ⟨hpos, hlt⟩
  starts_first i' := by
    unfold Hal.send
    simp only []
    split
    · refine List.pairwise_append.mpr ⟨h.starts_first i', List.pairwise_singleton _ _, ?_⟩
      intro a _ b hb hstart
      rw [List.mem_singleton.mp hb, hk] at hstart
      cases hstart
    · exact h.starts_first i'
  one_owner hs hs' := h.one_owner ((knows_send hk).mp hs) ((knows_send hk).mp hs')

lemma WellFormed.sendBoth (h : hal.WellFormed) (hpos : 0 < c.session)
    (hlt : c.session < hal.nextSession) (hk : c.kind.isStart = false) :
    (hal.sendBoth c).WellFormed :=
  (h.send hpos hlt hk .gnss).send hpos hlt hk .flp

section Start

variable {kind : RequestKind} {cause : Option (RequestType × LocationAPIRequest)}

lemma mem_commands_start : c' ∈ (hal.start i kind cause).1.commands i' ↔
    c' ∈ hal.commands i' ∨ i' = i ∧ c' = ⟨kind, hal.nextSession, cause⟩ :=
  mem_commands_send

/-- The new session is known where it is started, and the others where they were. -/
lemma knows_start_cases (hk : (hal.start i kind cause).1.Knows i' session) :
    hal.Knows i' session ∨ i' = i ∧ session = hal.nextSession := by
  rcases hk with hl | ⟨c', hc', hstart, hsession⟩
  · exact .inl (.inl hl)
  · rcases mem_commands_start.mp hc' with hc' | ⟨hi, rfl⟩
    · exact .inl (.inr ⟨c', hc', hstart, hsession⟩)
    · exact .inr ⟨hi, hsession.symm⟩

lemma WellFormed.start (h : hal.WellFormed) (i : HalInterface) (kind : RequestKind)
    (cause : Option (RequestType × LocationAPIRequest)) :
    (hal.start i kind cause).1.WellFormed where
  nextSession := Nat.succ_pos _
  live_lt i' session hl := Nat.lt_succ_of_lt (h.live_lt i' session hl)
  commands_lt i' c' hc' := by
    rcases mem_commands_start.mp hc' with hc' | ⟨-, rfl⟩
    · exact ⟨(h.commands_lt i' c' hc').1, Nat.lt_succ_of_lt (h.commands_lt i' c' hc').2⟩
    · exact ⟨h.nextSession, Nat.lt_succ_self _⟩
  starts_first i' := by
    unfold Hal.start Hal.send
    simp only []
    split
    · refine List.pairwise_append.mpr ⟨h.starts_first i', List.pairwise_singleton _ _, ?_⟩
      intro a ha b hb _
      rw [List.mem_singleton.mp hb]
      exact (h.commands_lt i' a ha).2.ne
    · exact h.starts_first i'
  one_owner hs hs' := by
    rcases knows_start_cases hs with hs | ⟨hi, hsession⟩
    · rcases knows_start_cases hs' with hs' | ⟨-, rfl⟩
      · exact h.one_owner hs hs'
      · exact absurd (h.knows_lt hs) (lt_irrefl _)
    · rcases knows_start_cases hs' with hs' | ⟨hi', -⟩
      · subst hsession
        exact absurd (h.knows_lt hs') (lt_irrefl _)
      · rw [hi, hi']

end Start

section Take

variable {commands : List HalCommand} {live : Finset ℕ}

lemma commands_take :
    (hal.take i commands live).commands i' = if i' = i then commands else hal.commands i' := rfl

lemma live_take : (hal.take i commands live).live i' = if i' = i then live else hal.live i' := rfl

lemma mem_commands_take (hq : hal.commands i = c :: commands)
    (hc' : c' ∈ (hal.take i commands live).commands i') : c' ∈ hal.commands i' := by
  rw [commands_take] at hc'
  split at hc'
  · rename_i hi
    rw [hi, hq]
    exact List.mem_cons_of_mem _ hc'
  · exact hc'

/-- Only the command that is taken goes. -/
lemma mem_commands_take_of_ne (hq : hal.commands i = c :: commands) (hc' : c' ∈ hal.commands i')
    (hne : c' ≠ c) : c' ∈ (hal.take i commands live).commands i' := by
  rw [commands_take]
  split
  · rename_i hi
    rw [hi, hq] at hc'
    exact (List.mem_cons.mp hc').resolve_left hne
  · exact hc'

/-- No start of a session follows another command on it. -/
lemma WellFormed.not_isStart_of_taken (h : hal.WellFormed) (hq : hal.commands i = c :: commands)
    (hc' : c' ∈ commands) (hsession : c'.session = c.session) : c'.kind.isStart = false := by
  have hfirst := h.starts_first i
  rw [hq] at hfirst
  rw [Bool.eq_false_iff]
  exact fun hstart => (List.pairwise_cons.mp hfirst).1 c' hc' hstart hsession.symm

/-- The sessions live after a command is taken: those that were, and one that it has started. -/
def LiveAfter (hal : Hal) (i : HalInterface) (c : HalCommand) (live : Finset ℕ) : Prop :=
  ∀ session ∈ live, session ∈ hal.live i ∨ c.kind.isStart = true ∧ c.session = session

lemma liveAfter_answered (hal : Hal) (i : HalInterface) (c : HalCommand) (error : LocationError) :
    hal.LiveAfter i c (answered (hal.live i) c error) := by
  intro session hl
  unfold answered at hl
  split at hl
  · exact .inl hl
  · split at hl
    · rename_i hstart
      rcases Finset.mem_insert.mp hl with rfl | hl
      · exact .inr ⟨hstart, rfl⟩
      · exact .inl hl
    · split at hl
      · exact .inl (Finset.mem_of_mem_erase hl)
      · exact .inl hl

lemma knows_of_knows_take (hq : hal.commands i = c :: commands) (hlive : hal.LiveAfter i c live)
    (hk : (hal.take i commands live).Knows i' session) : hal.Knows i' session := by
  rcases hk with hl | ⟨c', hc', hstart, hsession⟩
  · rw [live_take] at hl
    split at hl
    · rename_i hi
      subst hi
      rcases hlive session hl with hl | ⟨hstart, hsession⟩
      · exact .inl hl
      · exact .inr ⟨c, by rw [hq]; exact List.mem_cons_self, hstart, hsession⟩
    · exact .inl hl
  · exact .inr ⟨c', mem_commands_take hq hc', hstart, hsession⟩

lemma WellFormed.take (h : hal.WellFormed) (hq : hal.commands i = c :: commands)
    (hlive : hal.LiveAfter i c live) : (hal.take i commands live).WellFormed where
  nextSession := h.nextSession
  live_lt i' session hl := by
    have hknows : (hal.take i commands live).Knows i' session := .inl hl
    exact h.knows_lt (knows_of_knows_take hq hlive hknows)
  commands_lt i' c' hc' := h.commands_lt i' c' (mem_commands_take hq hc')
  starts_first i' := by
    rw [commands_take]
    split
    · have hfirst := h.starts_first i
      rw [hq] at hfirst
      exact (List.pairwise_cons.mp hfirst).2
    · exact h.starts_first i'
  one_owner hs hs' :=
    h.one_owner (knows_of_knows_take hq hlive hs) (knows_of_knows_take hq hlive hs')

end Take

/-! ## The queue of one session -/

/-- The requests that wait for the commands on a session that an interface has yet to take. -/
def awaiting (hal : Hal) (i : HalInterface) (session : ℕ) : List (Option LocationAPIRequest) :=
  ((hal.commands i).filter fun c => c.session = session).map fun c => c.cause.map Prod.snd

/-- The queue of a session holds the requests for the commands on it, in their order, at the
interface that will answer them. -/
def TracksQueue (hal : Hal) (q : RequestQueue) : Prop :=
  ∀ i, hal.Knows i q.mSession → hal.awaiting i q.mSession = q.mQueue.map some

lemma awaiting_send (hc : c.session ≠ session) :
    (hal.send i c).awaiting i' session = hal.awaiting i' session := by
  unfold awaiting send
  simp only []
  split
  · simp [hc]
  · rfl

lemma TracksQueue.send (h : hal.TracksQueue q) (hc : c.session ≠ q.mSession)
    (hk : c.kind.isStart = false) (i : HalInterface) : (hal.send i c).TracksQueue q := by
  intro i' hknows
  rw [awaiting_send hc]
  exact h i' ((knows_send hk).mp hknows)

lemma awaiting_sendBoth (hc : c.session = session) (i : HalInterface) :
    (hal.sendBoth c).awaiting i session = hal.awaiting i session ++ [c.cause.map Prod.snd] := by
  unfold awaiting sendBoth Hal.send
  cases i with
  | gnss => simp [hc]
  | flp => simp [hc]

/-- A request is pushed with its command on the session of the queue. -/
lemma TracksQueue.push (h : hal.TracksQueue q) {kind : RequestKind} (hk : kind.isStart = false)
    (type : RequestType) (request : LocationAPIRequest) :
    (hal.sendBoth ⟨kind, q.mSession, some (type, request)⟩).TracksQueue (q.push request) := by
  intro i hknows
  have hknows : hal.Knows i q.mSession := (knows_send hk).mp ((knows_send hk).mp hknows)
  have hq : (q.push request).mSession = q.mSession := rfl
  rw [hq, awaiting_sendBoth rfl, h i hknows]
  simp [RequestQueue.push]

/-- Another session is started. -/
lemma TracksQueue.start (h : hal.TracksQueue q) (hlt : q.mSession < hal.nextSession)
    (i : HalInterface) (kind : RequestKind) (cause : Option (RequestType × LocationAPIRequest)) :
    (hal.start i kind cause).1.TracksQueue q := by
  intro i' hknows
  have hawaiting : (hal.start i kind cause).1.awaiting i' q.mSession = hal.awaiting i' q.mSession :=
    awaiting_send hlt.ne'
  rw [hawaiting]
  rcases knows_start_cases hknows with hknows | ⟨-, heq⟩
  · exact h i' hknows
  · exact absurd heq hlt.ne

/-- The queue is reset for a session that is started. -/
lemma tracksQueue_start (h : hal.WellFormed) (q : RequestQueue) (i : HalInterface)
    (kind : RequestKind) (type : RequestType) (request : LocationAPIRequest) :
    (hal.start i kind (some (type, request))).1.TracksQueue
      ((q.reset hal.nextSession).push request) := by
  intro i' hknows
  rcases knows_start_cases hknows with hknows | ⟨rfl, -⟩
  · exact absurd (h.knows_lt hknows) (lt_irrefl _)
  · have hsession : ((q.reset hal.nextSession).push request).mSession = hal.nextSession := rfl
    have hcommands : (hal.start i' kind (some (type, request))).1.commands i' =
        hal.commands i' ++ [⟨kind, hal.nextSession, some (type, request)⟩] := if_pos rfl
    have hnone : ((hal.commands i').filter fun c => c.session = hal.nextSession) = [] := by
      rw [List.filter_eq_nil_iff]
      intro c hc
      simpa using (h.commands_lt i' c hc).2.ne
    unfold awaiting
    rw [hsession, hcommands, List.filter_append, hnone, List.nil_append,
      List.filter_cons_of_pos (by simp)]
    rfl

section Take

variable {commands : List HalCommand} {live : Finset ℕ}

/-- A command on another session is taken. -/
lemma TracksQueue.take_other (h : hal.TracksQueue q) (hq : hal.commands i = c :: commands)
    (hlive : hal.LiveAfter i c live) (hc : c.session ≠ q.mSession) :
    (hal.take i commands live).TracksQueue q := by
  intro i' hknows
  rw [← h i' (knows_of_knows_take hq hlive hknows)]
  unfold awaiting
  rw [commands_take]
  split
  · rename_i hi
    rw [hi, hq, List.filter_cons_of_neg (by simpa using hc)]
  · rfl

/-- A command on a session that the interface does not know is ignored. -/
lemma TracksQueue.take_ignored (h : hal.TracksQueue q) (hwf : hal.WellFormed)
    (hq : hal.commands i = c :: commands) (hnot : ¬ hal.Answers i c) :
    (hal.take i commands (hal.live i)).TracksQueue q := by
  have hlive : hal.LiveAfter i c (hal.live i) := fun _ hl => .inl hl
  by_cases hc : c.session = q.mSession
  · -- nothing is left to start the session at this interface
    intro i' hknows
    have hknows' := knows_of_knows_take hq hlive hknows
    by_cases hi : i' = i
    · subst hi
      exfalso
      rcases hknows with hl | ⟨c', hc', hstart, hsession⟩
      · rw [live_take, if_pos rfl] at hl
        exact hnot (.inr (hc ▸ hl))
      · rw [commands_take, if_pos rfl] at hc'
        rw [hwf.not_isStart_of_taken hq hc' (hsession.trans hc.symm)] at hstart
        cases hstart
    · rw [← h i' hknows']
      unfold awaiting
      rw [commands_take, if_neg hi]
  · exact h.take_other hq hlive hc

/-- A command on the session of the queue is answered: its request is at the front. -/
lemma TracksQueue.take_answered (h : hal.TracksQueue q) (hwf : hal.WellFormed)
    (hq : hal.commands i = c :: commands) (hanswers : hal.Answers i c) (hc : c.session = q.mSession)
    (hlive : hal.LiveAfter i c live) :
    c.cause.map Prod.snd = q.mQueue.head? ∧
      (hal.take i commands live).TracksQueue q.pop.1 := by
  have hknows : hal.Knows i q.mSession := by
    rcases hanswers with hstart | hl
    · exact .inr ⟨c, by rw [hq]; exact List.mem_cons_self, hstart, hc⟩
    · exact .inl (hc ▸ hl)
  have hawaiting := h i hknows
  unfold awaiting at hawaiting
  rw [hq, List.filter_cons_of_pos (by simpa using hc), List.map_cons] at hawaiting
  cases hmq : q.mQueue with
  | nil =>
      rw [hmq] at hawaiting
      cases hawaiting
  | cons request rest =>
      rw [hmq, List.map_cons, List.cons.injEq] at hawaiting
      obtain ⟨hfront, hrest⟩ := hawaiting
      refine ⟨hfront, fun i' hknows' => ?_⟩
      obtain rfl := hwf.one_owner (knows_of_knows_take hq hlive hknows') hknows
      unfold awaiting
      rw [commands_take, if_pos rfl]
      simpa [RequestQueue.pop, hmq] using hrest

end Take

end Hal
end LocHal
