import LocHal.Location.HalSessions

/-!
# The tracking flag of a location client (`gps/location/LocationAPIClientBase.cpp`)

`mTracking` is set when a client asks the HAL to start its tracking session, and cleared when it
asks it to stop the session.  Whether the HAL has done so is only known when it answers, and the
answer changes nothing about the flag.

`follows_of_steps`: the flag says whether the HAL tracks, whenever the HAL has answered everything,
as long as no command fails but one behind which the session is to be stopped anyway.
-/

namespace LocHal
namespace LocationAPIClientBase

/-! ## What an answer leaves alone -/

section Answer

variable {s s' s'' : LocationAPIClientBase}

/-- The flag, the session of the tracking queue and the HAL are the same. -/
structure SameTracking (s s' : LocationAPIClientBase) : Prop where
  flag : s'.mTracking = s.mTracking
  session : (s'.mRequestQueues .tracking).mSession = (s.mRequestQueues .tracking).mSession
  hal : s'.hal = s.hal

lemma SameTracking.refl (s : LocationAPIClientBase) : SameTracking s s := ⟨rfl, rfl, rfl⟩

lemma SameTracking.trans (h : SameTracking s s') (h' : SameTracking s' s'') :
    SameTracking s s'' where
  flag := h'.flag.trans h.flag
  session := h'.session.trans h.session
  hal := h'.hal.trans h.hal

lemma sameTracking_popQueue (s : LocationAPIClientBase) (type : RequestType) :
    SameTracking s (s.popQueue type).1 where
  flag := rfl
  session := by
    unfold popQueue setQueue RequestQueue.pop
    simp only
    split
    · rename_i htype
      rw [htype]
    · rfl
  hal := rfl

lemma sameTracking_getRequestBySession (s : LocationAPIClientBase) (session : ℕ) :
    SameTracking s (s.getRequestBySession session).1 := by
  unfold getRequestBySession
  extract_lets popped
  have hpopped : SameTracking s popped.1 := by
    unfold popped
    split
    · exact sameTracking_popQueue _ _
    · exact SameTracking.refl s
  split
  · exact hpopped
  · split
    · exact hpopped.trans (sameTracking_popQueue _ _)
    · exact hpopped

lemma sameTracking_removeSession (s : LocationAPIClientBase) (session : ℕ) :
    SameTracking s (s.removeSession session) := by
  unfold removeSession
  split
  · exact ⟨rfl, rfl, rfl⟩
  · exact SameTracking.refl s

lemma sameTracking_onResponse (s : LocationAPIClientBase) (request : LocationAPIRequest)
    (error : LocationError) (id : ℕ) : SameTracking s (s.onResponse request error id) := by
  unfold onResponse
  split
  · split
    · exact sameTracking_removeSession s id
    · exact SameTracking.refl s
  · split
    · split
      · exact sameTracking_removeSession s id
      · exact SameTracking.refl s
    · exact SameTracking.refl s

/-- **A response** leaves the flag alone. -/
lemma sameTracking_onResponseCb (s : LocationAPIClientBase) (error : LocationError) (id : ℕ) :
    SameTracking s (s.onResponseCb error id).1 := by
  unfold onResponseCb
  simp only
  split
  · exact (sameTracking_getRequestBySession s id).trans (sameTracking_onResponse _ _ _ _)
  · exact sameTracking_getRequestBySession s id

end Answer

/-! ## The property -/

/-- A call that starts or stops tracking, or an answer of the HAL. -/
def IsTracking : Event → Prop
  | .locAPIStartTracking _ => True
  | .locAPIStopTracking => True
  | .answer _ _ => True
  | _ => False

instance : DecidablePred IsTracking
  | .locAPIStartTracking _ | .locAPIStopTracking | .answer _ _ => isTrue trivial
  | .locAPIUpdateTrackingOptions | .locAPIStartSession _ _ _ | .locAPIStopSession _
  | .locAPIUpdateSessionOptions _ _ _ | .locAPIGetBatchedLocations _ => isFalse id

/-- No interface has yet to answer a command on a session that it knows. -/
def NoneOutstanding (s : LocationAPIClientBase) : Prop :=
  ∀ i, ∀ c ∈ s.hal.commands i, ¬ s.hal.Knows i c.session

/-- Whenever the HAL has answered everything, the flag says whether it has a live session. -/
def FlagFollows (s : LocationAPIClientBase) : Prop :=
  s.NoneOutstanding → (s.mTracking = true ↔ ∃ i session, session ∈ s.hal.live i)

/-- After a call that starts tracking, the HAL has a session, or is to start one. -/
def StartFollowed (needsGnssTrackingInfo : Bool) (s : LocationAPIClientBase) : Event → Prop
  | .locAPIStartTracking options =>
      (s.locAPIStartTracking needsGnssTrackingInfo options).2 = .success →
        ∃ i session, (s.locAPIStartTracking needsGnssTrackingInfo options).1.hal.Knows i session
  | _ => True

/-- A stop of this session is among the commands. -/
def HasStop (commands : List HalCommand) (session : ℕ) : Prop :=
  ∃ c ∈ commands, c.kind.isStop = true ∧ c.session = session

instance (commands : List HalCommand) (session : ℕ) : Decidable (HasStop commands session) :=
  inferInstanceAs (Decidable (∃ c ∈ commands, _ ∧ _))

/-- If the command fails that an interface answers, then a stop of its session waits behind it. -/
def FailsBeforeStop (s : LocationAPIClientBase) : Event → Prop
  | .answer i error => ∀ c ∈ (s.hal.commands i).head?, s.hal.Answers i c → error ≠ .success →
      HasStop (s.hal.commands i).tail c.session
  | _ => True

instance (s : LocationAPIClientBase) : DecidablePred s.FailsBeforeStop
  | .answer i _ => inferInstanceAs (Decidable (∀ c ∈ (s.hal.commands i).head?, _ → _ → _))
  | .locAPIStartTracking _ | .locAPIStopTracking | .locAPIUpdateTrackingOptions
  | .locAPIStartSession _ _ _ | .locAPIStopSession _ | .locAPIUpdateSessionOptions _ _ _
  | .locAPIGetBatchedLocations _ => isTrue trivial

/-! ## The invariant -/

/-- The session of the tracking queue. -/
def trackingSession (s : LocationAPIClientBase) : ℕ := (s.mRequestQueues .tracking).mSession

/-- While the flag is set, the session of the tracking queue is known to the HAL and is not to be
stopped; every other session that the HAL knows is to be stopped. -/
structure Followed (s : LocationAPIClientBase) : Prop where
  wellFormed : s.hal.WellFormed
  session_lt : s.trackingSession < s.hal.nextSession
  known : s.mTracking = true → ∃ i, s.hal.Knows i s.trackingSession
  kept : s.mTracking = true → ∀ i, ¬ HasStop (s.hal.commands i) s.trackingSession
  stopped : ∀ i session, s.hal.Knows i session →
    s.mTracking = true ∧ session = s.trackingSession ∨ HasStop (s.hal.commands i) session

section Invariant

variable {s s' : LocationAPIClientBase} {i : HalInterface} {c : HalCommand}
  {commands : List HalCommand}

lemma followed_init : init.Followed where
  wellFormed :=
    ⟨Nat.one_pos, fun _ _ hl => absurd hl (Finset.notMem_empty _),
      fun _ _ hc => absurd hc List.not_mem_nil, fun _ => List.Pairwise.nil, by
        intro session i i' hk
        rcases hk with hl | ⟨c, hc, -⟩
        · exact absurd hl (Finset.notMem_empty _)
        · exact absurd hc List.not_mem_nil⟩
  session_lt := Nat.one_pos
  known h := absurd h Bool.false_ne_true
  kept h := absurd h Bool.false_ne_true
  stopped i session hk := by
    rcases hk with hl | ⟨c, hc, -⟩
    · exact absurd hl (Finset.notMem_empty _)
    · exact absurd hc List.not_mem_nil

lemma Followed.of_same (h : s.Followed) (hsame : SameTracking s s') : s'.Followed := by
  have hsession : s'.trackingSession = s.trackingSession := hsame.session
  refine ⟨?_, ?_, ?_, ?_, ?_⟩
  · rw [hsame.hal]
    exact h.wellFormed
  · rw [hsame.hal, hsession]
    exact h.session_lt
  · rw [hsame.hal, hsession, hsame.flag]
    exact h.known
  · rw [hsame.hal, hsession, hsame.flag]
    exact h.kept
  · rw [hsame.hal, hsession, hsame.flag]
    exact h.stopped

/-- **The flag follows** the sessions of the HAL. -/
lemma Followed.flagFollows (h : s.Followed) : s.FlagFollows := by
  intro hnone
  constructor
  · intro hflag
    obtain ⟨i, hk⟩ := h.known hflag
    rcases hk with hl | ⟨c, hc, hstart, hsession⟩
    · exact ⟨i, _, hl⟩
    · exact absurd (.inr ⟨c, hc, hstart, rfl⟩) (hnone i c hc)
  · rintro ⟨i, session, hl⟩
    rcases h.stopped i session (.inl hl) with htracking | ⟨c, hc, -, hsession⟩
    · exact htracking.1
    · exact absurd (.inl (hsession ▸ hl)) (hnone i c hc)

lemma followed_locAPIStartTracking (h : s.Followed) (needsGnssTrackingInfo : Bool)
    (options : LocationOptions) :
    (s.locAPIStartTracking needsGnssTrackingInfo options).1.Followed := by
  unfold locAPIStartTracking
  by_cases hflag : s.mTracking = true
  · rw [if_pos hflag]
    exact h
  · rw [if_neg hflag]
    have hsession : ∀ i, Hal.Knows (s.hal.start i .startTracking
        (some (.tracking, s.newRequest .startTracking))).1 i s.hal.nextSession := fun i =>
      .inr ⟨⟨.startTracking, s.hal.nextSession, some (.tracking, s.newRequest .startTracking)⟩,
        Hal.mem_commands_start.mpr (.inr ⟨rfl, rfl⟩), rfl, rfl⟩
    refine ⟨h.wellFormed.start _ _ _, Nat.lt_succ_self _, fun _ => ⟨_, hsession _⟩, ?_, ?_⟩
    · -- the session is new, and its only command is its start
      rintro - i ⟨c, hc, hstop, heq⟩
      rcases Hal.mem_commands_start.mp hc with hold | ⟨-, rfl⟩
      · exact absurd heq (h.wellFormed.commands_lt i c hold).2.ne
      · cases hstop
    · intro i session hk
      rcases Hal.knows_start_cases hk with hold | ⟨-, rfl⟩
      · rcases h.stopped i session hold with htracking | ⟨c, hc, hstop⟩
        · exact absurd htracking.1 hflag
        · exact .inr ⟨c, Hal.mem_commands_start.mpr (.inl hc), hstop⟩
      · exact .inl ⟨rfl, rfl⟩

lemma followed_locAPIStopTracking (h : s.Followed) : s.locAPIStopTracking.Followed := by
  unfold locAPIStopTracking
  simp only
  by_cases hpos : (s.mRequestQueues .tracking).mSession > 0
  · rw [if_pos hpos]
    have hk : RequestKind.stopTracking.isStart = false := rfl
    refine ⟨h.wellFormed.sendBoth hpos h.session_lt hk, h.session_lt,
      fun hflag => absurd hflag Bool.false_ne_true,
      fun hflag => absurd hflag Bool.false_ne_true, fun i session hknows => .inr ?_⟩
    have hknows : s.hal.Knows i session := (Hal.knows_send hk).mp ((Hal.knows_send hk).mp hknows)
    rcases h.stopped i session hknows with ⟨-, rfl⟩ | ⟨c, hc, hstop⟩
    · refine ⟨⟨.stopTracking, s.trackingSession, some (.tracking, s.newRequest .stopTracking)⟩,
        ?_, rfl, rfl⟩
      cases i with
      | gnss => exact Hal.mem_commands_send.mpr (.inl (Hal.mem_commands_send.mpr (.inr ⟨rfl, rfl⟩)))
      | flp => exact Hal.mem_commands_send.mpr (.inr ⟨rfl, rfl⟩)
    · exact ⟨c, Hal.mem_commands_send.mpr (.inl (Hal.mem_commands_send.mpr (.inl hc))), hstop⟩
  · rw [if_neg hpos]
    exact h

lemma knows_take_of_ne {hal : Hal} {live : Finset ℕ} {i' : HalInterface} {session : ℕ}
    (hne : i' ≠ i) :
    (hal.take i commands live).Knows i' session ↔ hal.Knows i' session := by
  rw [Hal.Knows, Hal.Knows, Hal.live_take, Hal.commands_take, if_neg hne, if_neg hne]

/-- A command is taken: a session that is not to be stopped stays known, and one that stays known
is still to be stopped if it was. -/
lemma Followed.take {live : Finset ℕ} (h : s.Followed) (hq : s.hal.commands i = c :: commands)
    (hlive : s.hal.LiveAfter i c live)
    (hkeeps : ∀ session, s.hal.Knows i session → ¬ HasStop (c :: commands) session →
      (s.hal.take i commands live).Knows i session)
    (hstops : ∀ session, (s.hal.take i commands live).Knows i session →
      HasStop (c :: commands) session → HasStop commands session)
    (unanswered : List LocationAPIRequest) :
    Followed { s with hal := s.hal.take i commands live, unanswered := unanswered } where
  wellFormed := h.wellFormed.take hq hlive
  session_lt := h.session_lt
  known hflag := by
    obtain ⟨i', hk⟩ := h.known hflag
    by_cases hi : i' = i
    · subst hi
      exact ⟨i', hkeeps _ hk (hq ▸ h.kept hflag i')⟩
    · exact ⟨i', (knows_take_of_ne hi).mpr hk⟩
  kept hflag i' hstop := by
    obtain ⟨c', hc', hstop⟩ := hstop
    exact h.kept hflag i' ⟨c', Hal.mem_commands_take hq hc', hstop⟩
  stopped i' session hk := by
    refine (h.stopped i' session (Hal.knows_of_knows_take hq hlive hk)).imp_right fun hstop => ?_
    by_cases hi : i' = i
    · subst hi
      rw [hq] at hstop
      have hafter : HasStop commands session := hstops session hk hstop
      simp only [Hal.commands_take, if_true]
      exact hafter
    · simp only [Hal.commands_take, if_neg hi]
      exact hstop

/-- No start of a session is left behind a stop of it. -/
lemma Followed.not_knows {live : Finset ℕ} (h : s.Followed)
    (hq : s.hal.commands i = c :: commands) (hnot : c.session ∉ live) :
    ¬ (s.hal.take i commands live).Knows i c.session := by
  rintro (hl | ⟨c', hc', hstart, hsession⟩)
  · rw [Hal.live_take, if_pos rfl] at hl
    exact hnot hl
  · rw [Hal.commands_take, if_pos rfl] at hc'
    rw [h.wellFormed.not_isStart_of_taken hq hc' hsession] at hstart
    cases hstart

lemma Followed.ignored (h : s.Followed) (hq : s.hal.commands i = c :: commands)
    (hnot : ¬ s.hal.Answers i c) :
    Followed { s with hal := s.hal.take i commands (s.hal.live i) } := by
  refine h.take hq (fun _ hl => .inl hl) ?_ ?_ s.unanswered
  · rintro session (hl | ⟨c', hc', hstart, hsession⟩) -
    · left
      rw [Hal.live_take, if_pos rfl]
      exact hl
    · have hne : c' ≠ c := fun heq => hnot (.inl (heq ▸ hstart))
      exact .inr ⟨c', Hal.mem_commands_take_of_ne hq hc' hne, hstart, hsession⟩
  · rintro session hk ⟨c', hc', hstop, rfl⟩
    rcases List.mem_cons.mp hc' with rfl | hc'
    · exact absurd hk (h.not_knows hq fun hl => hnot (.inr hl))
    · exact ⟨c', hc', hstop, rfl⟩

lemma not_isStart_of_isStop {kind : RequestKind} (h : kind.isStop = true) :
    kind.isStart = false := by
  cases kind <;> first | rfl | cases h

/-- What stays live after an answer. -/
lemma mem_answered {live : Finset ℕ} {error : LocationError} {session : ℕ} (hl : session ∈ live)
    (hstop : ¬ (c.kind.isStop = true ∧ c.session = session)) :
    session ∈ Hal.answered live c error := by
  unfold Hal.answered
  split
  · exact hl
  · split
    · exact Finset.mem_insert_of_mem hl
    · split
      · rename_i hk
        exact Finset.mem_erase.mpr ⟨fun heq => hstop ⟨hk, heq.symm⟩, hl⟩
      · exact hl

lemma Followed.answered (h : s.Followed) (hq : s.hal.commands i = c :: commands)
    {error : LocationError} (hfails : error ≠ .success → HasStop commands c.session)
    (unanswered : List LocationAPIRequest) :
    Followed { s with
      hal := s.hal.take i commands (Hal.answered (s.hal.live i) c error)
      unanswered := unanswered } := by
  refine h.take hq (Hal.liveAfter_answered _ _ _ _) ?_ ?_ unanswered
  · rintro session (hl | ⟨c', hc', hstart, rfl⟩) hnone
    · left
      rw [Hal.live_take, if_pos rfl]
      exact mem_answered hl fun hstop => hnone ⟨c, List.mem_cons_self, hstop⟩
    · by_cases hc : c' = c
      · subst hc
        have hsuccess : error = .success := by
          by_contra hfail
          obtain ⟨c, hmem, hstop⟩ := hfails hfail
          exact hnone ⟨c, List.mem_cons_of_mem _ hmem, hstop⟩
        left
        rw [Hal.live_take, if_pos rfl, Hal.answered, if_neg (not_not_intro hsuccess),
          if_pos hstart]
        exact Finset.mem_insert_self _ _
      · exact .inr ⟨c', Hal.mem_commands_take_of_ne hq hc' hc, hstart, rfl⟩
  · rintro session hk ⟨c', hc', hstop, rfl⟩
    rcases List.mem_cons.mp hc' with rfl | hc'
    · by_cases hsuccess : error = .success
      · refine absurd hk (h.not_knows hq ?_)
        rw [Hal.answered, if_neg (not_not_intro hsuccess),
          if_neg (Bool.eq_false_iff.mp (not_isStart_of_isStop hstop)), if_pos hstop]
        exact Finset.notMem_erase _ _
      · exact hfails hsuccess
    · exact ⟨c', hc', hstop, rfl⟩

lemma followed_answer (h : s.Followed) (i : HalInterface) (error : LocationError)
    (hok : s.FailsBeforeStop (.answer i error)) : (s.answer i error).1.Followed := by
  rw [answer]
  cases hq : s.hal.commands i with
  | nil => exact h
  | cons c commands =>
      simp only
      by_cases hanswers : s.hal.Answers i c
      · rw [if_pos hanswers]
        have hhead : c ∈ (s.hal.commands i).head? := by
          rw [hq]
          rfl
        have hfails : error ≠ .success → HasStop commands c.session := by
          intro hfail
          have hstop := hok c hhead hanswers hfail
          rwa [hq] at hstop
        exact (h.answered hq hfails _).of_same (sameTracking_onResponseCb _ _ _)
      · rw [if_neg hanswers]
        exact h.ignored hq hanswers

/-- **One event** keeps the invariant, unless a command fails that should not. -/
lemma Followed.next (h : s.Followed) (needsGnssTrackingInfo : Bool) {e : Event}
    (htracking : IsTracking e) (hok : s.FailsBeforeStop e) :
    ((machine needsGnssTrackingInfo).next s e).Followed := by
  cases e with
  | locAPIStartTracking options =>
      exact followed_locAPIStartTracking h needsGnssTrackingInfo options
  | locAPIStopTracking => exact followed_locAPIStopTracking h
  | answer i error => exact followed_answer h i error hok
  | locAPIUpdateTrackingOptions | locAPIStartSession | locAPIStopSession
  | locAPIUpdateSessionOptions | locAPIGetBatchedLocations => exact htracking.elim

lemma mTracking_locAPIStartTracking (s : LocationAPIClientBase) (needsGnssTrackingInfo : Bool)
    (options : LocationOptions) :
    (s.locAPIStartTracking needsGnssTrackingInfo options).1.mTracking = true := by
  unfold locAPIStartTracking
  by_cases hflag : s.mTracking = true
  · rw [if_pos hflag]
    exact hflag
  · rw [if_neg hflag]

lemma Followed.startFollowed (h : s.Followed) (needsGnssTrackingInfo : Bool) (e : Event) :
    s.StartFollowed needsGnssTrackingInfo e := by
  cases e with
  | locAPIStartTracking options =>
      intro _
      have hnext := followed_locAPIStartTracking h needsGnssTrackingInfo options
      obtain ⟨i, hk⟩ := hnext.known (mTracking_locAPIStartTracking s needsGnssTrackingInfo options)
      exact ⟨i, _, hk⟩
  | locAPIStopTracking | answer | locAPIUpdateTrackingOptions | locAPIStartSession
  | locAPIStopSession | locAPIUpdateSessionOptions | locAPIGetBatchedLocations => trivial

end Invariant

/-! ## Every run -/

/-- **The flag follows the session of the HAL** in every state of a run of starts, stops and
answers in which no command fails but one behind which a stop of its session waits; and after every
start the HAL has a session, or is to start one. -/
theorem follows_of_steps (needsGnssTrackingInfo : Bool) (events : List Event)
    (htracking : (machine needsGnssTrackingInfo).Steps (fun _ e => IsTracking e) init events)
    (hok : (machine needsGnssTrackingInfo).Steps FailsBeforeStop init events) :
    (machine needsGnssTrackingInfo).Always FlagFollows init events ∧
      (machine needsGnssTrackingInfo).Steps (fun s e => s.StartFollowed needsGnssTrackingInfo e)
        init events := by
  have hsteps : (machine needsGnssTrackingInfo).Steps
      (fun s e => IsTracking e ∧ s.FailsBeforeStop e) init events :=
    Machine.steps_and.mpr ⟨htracking, hok⟩
  have hfollowed : (machine needsGnssTrackingInfo).Always Followed init events :=
    Machine.always_of_steps (fun _ _ h hC => h.next needsGnssTrackingInfo hC.1 hC.2) followed_init
      hsteps
  exact ⟨hfollowed.mono fun _ h => h.flagFollows,
    hfollowed.steps fun _ e h => h.startFollowed needsGnssTrackingInfo e⟩

/-- Tracking is started and stopped, and started again; a start fails behind which its stop
waits. -/
theorem follows_failed_start :
    (machine true).Always FlagFollows init
        [.locAPIStartTracking {}, .locAPIStopTracking, .answer .gnss .generalFailure,
          .locAPIStartTracking {}, .answer .gnss .success] ∧
      (machine true).Steps (fun s e => s.StartFollowed true e) init
        [.locAPIStartTracking {}, .locAPIStopTracking, .answer .gnss .generalFailure,
          .locAPIStartTracking {}, .answer .gnss .success] :=
  follows_of_steps true _ (by decide) (by decide)

/-- A start fails, and the flag stays set. -/
theorem flag_after_failed_start :
    ¬ ∀ (needsGnssTrackingInfo : Bool) (events : List Event),
      (machine needsGnssTrackingInfo).Steps (fun _ e => IsTracking e) init events →
      (machine needsGnssTrackingInfo).Always FlagFollows init events ∧
        (machine needsGnssTrackingInfo).Steps
          (fun s e => s.StartFollowed needsGnssTrackingInfo e) init events := by
  intro h
  have hall := (h true [.locAPIStartTracking {}, .answer .gnss .generalFailure]
    (by decide)).1
  have hlast := Machine.always_iff_prefix.mp hall _ (List.prefix_refl _)
  obtain ⟨i, session, hl⟩ := (hlast fun i c hc => by
    cases i with
    | gnss => exact absurd hc List.not_mem_nil
    | flp => exact absurd hc List.not_mem_nil).mp (by decide)
  cases i with
  | gnss => exact absurd hl (Finset.notMem_empty session)
  | flp => exact absurd hl (Finset.notMem_empty session)

end LocationAPIClientBase
end LocHal
