import LocHal.Location.ResponseCorrelation

/-!
# The session dictionary and the HAL

`mSessionBiDict` is written when a session call is made, before the HAL has answered, and a pair is
removed again by the request that a response is dispatched to: after a failed start and a successful
stop.  That request need not be the one whose command is answered, and a change between tracking and
batching has one request for two commands.

`matches_of_inStep`: once every command has been answered, the dictionary holds the live sessions of
the HAL, each under the id that it was started for, if every answer on a session of the dictionary
is dispatched to a request that removes the session exactly when the answer ends it, and if a
session that is replaced can be stopped.
-/

namespace LocHal

/-- The outcome of the command leaves the session without life: a failed start, a successful
stop. -/
def RequestKind.Ends (kind : RequestKind) (error : LocationError) : Prop :=
  kind.isStart = true ∧ error ≠ .success ∨ kind.isStop = true ∧ error = .success

instance (kind : RequestKind) (error : LocationError) : Decidable (kind.Ends error) :=
  inferInstanceAs (Decidable (_ ∨ _))

/-- No command starts and stops. -/
lemma RequestKind.not_isStart_of_isStop {kind : RequestKind} (h : kind.isStop = true) :
    ¬ kind.isStart = true := by
  cases kind with
  | stopTracking => decide
  | stopBatching => decide
  | _ => cases h

/-- The id that a session is started for, if the event starts one for an id. -/
def LocationAPIClientBase.Event.clientId : LocationAPIClientBase.Event → Option ℕ
  | .locAPIStartSession id _ _ => some id
  | .locAPIUpdateSessionOptions id _ _ => some id
  | _ => none

/-- The client, and for each session the id that it has been started for; no code reads the
latter. -/
structure ClientSessions where
  client : LocationAPIClientBase
  owner : ℕ → Option ℕ

namespace ClientSessions

open LocationAPIClientBase

/-- The constructor. -/
def init : ClientSessions := ⟨.init, fun _ => none⟩

/-- One event: if a session is started, then it is the next one. -/
def step (needsGnssTrackingInfo : Bool) (o : ClientSessions) (e : Event) :
    ClientSessions × List Output :=
  (⟨(o.client.step needsGnssTrackingInfo e).1,
      Function.update o.owner o.client.hal.nextSession e.clientId⟩,
    (o.client.step needsGnssTrackingInfo e).2)

/-- The client, the HAL and the owners as a machine. -/
def machine (needsGnssTrackingInfo : Bool) : Machine ClientSessions Event Output :=
  ⟨step needsGnssTrackingInfo⟩

/-- Every command has been answered. -/
def Settled (o : ClientSessions) : Prop := ∀ i, o.client.hal.commands i = []

/-- The dictionary has a session under an id exactly when it is live and has been started for the
id, and the entity of an id is about its session. -/
def Matches (o : ClientSessions) : Prop :=
  (∀ id session : ℕ, o.client.mSessionBiDict.mForwardMap[id]? = some session ↔
    (∃ i, session ∈ o.client.hal.live i) ∧ o.owner session = some id) ∧
  ∀ id, o.client.mSessionBiDict.hasId id = true →
    (o.client.mSessionBiDict.getExtById id).session = o.client.mSessionBiDict.getSession id

/-- The response to the command is dispatched to a request that does what it should to the
dictionary, and the stop that nobody waits for does not fail. -/
def CommandInStep (s : LocationAPIClientBase) (c : HalCommand) (error : LocationError) : Prop :=
  (s.mSessionBiDict.hasSession c.session = true →
    ((∃ request ∈ (s.mRequestQueues .session).mQueue.head?, request.kind.Ends error) ↔
      c.kind.Ends error)) ∧
  (c.cause = none → error = .success)

instance (s : LocationAPIClientBase) (c : HalCommand) (error : LocationError) :
    Decidable (CommandInStep s c error) :=
  inferInstanceAs (Decidable ((_ → (_ ↔ _)) ∧ (_ → _)))

/-- Every answer of the HAL is in step. -/
def InStep (o : ClientSessions) : Event → Prop
  | .answer i error => ∀ c ∈ (o.client.hal.commands i).head?, o.client.hal.Answers i c →
      CommandInStep o.client c error
  | _ => True

instance (o : ClientSessions) : ∀ e, Decidable (InStep o e)
  | .answer i error => inferInstanceAs (Decidable (∀ c ∈ (o.client.hal.commands i).head?,
      o.client.hal.Answers i c → CommandInStep o.client c error))
  | .locAPIStartTracking _ | .locAPIStopTracking | .locAPIUpdateTrackingOptions
  | .locAPIStartSession _ _ _ | .locAPIStopSession _ | .locAPIUpdateSessionOptions _ _ _
  | .locAPIGetBatchedLocations _ => inferInstanceAs (Decidable True)

end ClientSessions

/-! ## The dictionary against the HAL -/

/-- What holds between events: a pair of the dictionary is about a session that its interface knows
and that is owned by its id; a session that is owned and known otherwise is about to be stopped. -/
structure Hal.Agrees (hal : Hal) (dict : BiDict SessionEntity) (owner : ℕ → Option ℕ) : Prop where
  fresh : ∀ i, ∀ c ∈ hal.commands i, c.kind.isStart = true → c.session ∉ hal.live i
  known : ∀ {id session : ℕ}, dict.mForwardMap[id]? = some session →
    (∃ i, hal.Knows i session) ∧ owner session = some id
  batching : ∀ {session : ℕ} {entity : SessionEntity}, dict.mExtMap[session]? = some entity →
    entity.sessionMode ≠ .onFix → ∀ i, hal.Knows i session → i = .flp
  replaced : ∀ {i session}, hal.Knows i session → owner session ≠ none →
    dict.hasSession session = false →
      ∃ c ∈ hal.commands i, c.session = session ∧ c.cause = none ∧ c.kind.isStop = true

namespace Hal.Agrees

variable {hal : Hal} {dict : BiDict SessionEntity} {owner : ℕ → Option ℕ} {i i' : HalInterface}
  {c : HalCommand} {commands : List HalCommand} {id session : ℕ} {error : LocationError}

lemma init : Agrees LocationAPIClientBase.init.hal LocationAPIClientBase.init.mSessionBiDict
    fun _ => none where
  fresh := by simp [LocationAPIClientBase.init]
  known := by simp [LocationAPIClientBase.init, BiDict.empty]
  batching := by simp [LocationAPIClientBase.init, BiDict.empty]
  replaced := by simp

/-- Another session is the next to get an owner. -/
lemma next (h : hal.Agrees dict owner) (hwf : hal.WellFormed) (id? : Option ℕ) :
    hal.Agrees dict (Function.update owner hal.nextSession id?) where
  fresh := h.fresh
  known hpair := by
    obtain ⟨⟨i, hknows⟩, howner⟩ := h.known hpair
    exact ⟨⟨i, hknows⟩, by rw [Function.update_of_ne (hwf.knows_lt hknows).ne, howner]⟩
  batching := h.batching
  replaced hknows howner hnot := by
    rw [Function.update_of_ne (hwf.knows_lt hknows).ne] at howner
    exact h.replaced hknows howner hnot

/-! ### Commands -/

/-- A command other than a start is sent. -/
lemma send (h : hal.Agrees dict owner) (hk : c.kind.isStart = false) (i : HalInterface) :
    (hal.send i c).Agrees dict owner where
  fresh i' c' hc' hstart := by
    rcases Hal.mem_commands_send.mp hc' with hc' | ⟨-, rfl⟩
    · exact h.fresh i' c' hc' hstart
    · rw [hk] at hstart
      cases hstart
  known hpair := by
    obtain ⟨⟨i', hknows⟩, howner⟩ := h.known hpair
    exact ⟨⟨i', (Hal.knows_send hk).mpr hknows⟩, howner⟩
  batching hext hmode i' hknows := h.batching hext hmode i' ((Hal.knows_send hk).mp hknows)
  replaced hknows howner hnot := by
    obtain ⟨c', hc', hstop⟩ := h.replaced ((Hal.knows_send hk).mp hknows) howner hnot
    exact ⟨c', Hal.mem_commands_send.mpr (.inl hc'), hstop⟩

lemma sendBoth (h : hal.Agrees dict owner) (hk : c.kind.isStart = false) :
    (hal.sendBoth c).Agrees dict owner :=
  (h.send hk .gnss).send hk .flp

lemma knows_start_of_knows {kind : RequestKind} {cause : Option (RequestType × LocationAPIRequest)}
    (i : HalInterface) (hknows : hal.Knows i' session) :
    (hal.start i kind cause).1.Knows i' session := by
  rcases hknows with hl | ⟨c, hc, hstart, hsession⟩
  · exact .inl hl
  · exact .inr ⟨c, Hal.mem_commands_start.mpr (.inl hc), hstart, hsession⟩

/-- A start is not about a session that is live. -/
lemma fresh_start (h : hal.Agrees dict owner) (hwf : hal.WellFormed) (i : HalInterface)
    (kind : RequestKind) (cause : Option (RequestType × LocationAPIRequest)) :
    ∀ i', ∀ c ∈ (hal.start i kind cause).1.commands i', c.kind.isStart = true →
      c.session ∉ (hal.start i kind cause).1.live i' := by
  intro i' c hc hstart
  rcases Hal.mem_commands_start.mp hc with hc | ⟨-, rfl⟩
  · exact h.fresh i' c hc hstart
  · exact fun hl => lt_irrefl _ (hwf.live_lt i' _ hl)

/-- A session is started for nobody. -/
lemma startTracking (h : hal.Agrees dict owner) (hwf : hal.WellFormed) (hbij : dict.Bijective)
    (hnew : dict.hasSession hal.nextSession = false) (howner : owner hal.nextSession = none)
    (i : HalInterface) (kind : RequestKind) (cause : Option (RequestType × LocationAPIRequest)) :
    (hal.start i kind cause).1.Agrees dict owner where
  fresh := h.fresh_start hwf i kind cause
  known hpair := by
    obtain ⟨⟨i', hknows⟩, hid⟩ := h.known hpair
    exact ⟨⟨i', knows_start_of_knows i hknows⟩, hid⟩
  batching hext hmode i' hknows := by
    rcases Hal.knows_start_cases hknows with hknows | ⟨-, rfl⟩
    · exact h.batching hext hmode i' hknows
    · have hsome := hbij.ext hal.nextSession
      rw [hext, BiDict.hasSession_eq_false.mp hnew] at hsome
      cases hsome
  replaced hknows hsome hnot := by
    rcases Hal.knows_start_cases hknows with hknows | ⟨-, rfl⟩
    · obtain ⟨c, hc, hstop⟩ := h.replaced hknows hsome hnot
      exact ⟨c, Hal.mem_commands_start.mpr (.inl hc), hstop⟩
    · exact absurd howner hsome

/-- A session is started for an id. -/
lemma startSession (h : hal.Agrees dict owner) (hwf : hal.WellFormed)
    (howner : owner hal.nextSession = some id) {i : HalInterface} {kind : RequestKind}
    (hstart : kind.isStart = true) (cause : Option (RequestType × LocationAPIRequest))
    {entity : SessionEntity}
    (hflp : entity.sessionMode ≠ .onFix → i = .flp) :
    (hal.start i kind cause).1.Agrees (dict.set id hal.nextSession entity) owner where
  fresh := h.fresh_start hwf i kind cause
  known {id' session} hpair := by
    simp only [BiDict.set, UintMap.getElem?_insert] at hpair
    split at hpair
    · next heq =>
        obtain rfl := Option.some.inj hpair
        exact ⟨⟨i, .inr ⟨_, Hal.mem_commands_start.mpr (.inr ⟨rfl, rfl⟩), hstart, rfl⟩⟩,
          heq ▸ howner⟩
    · obtain ⟨⟨i', hknows⟩, hid'⟩ := h.known hpair
      exact ⟨⟨i', knows_start_of_knows i hknows⟩, hid'⟩
  batching {session entity'} hext hmode i' hknows := by
    simp only [BiDict.set, UintMap.getElem?_insert] at hext
    rcases Hal.knows_start_cases hknows with hknows | ⟨hi, rfl⟩
    · rw [if_neg (hwf.knows_lt hknows).ne] at hext
      exact h.batching hext hmode i' hknows
    · rw [if_pos rfl] at hext
      obtain rfl := Option.some.inj hext
      exact hi.trans (hflp hmode)
  replaced hknows hsome hnot := by
    rw [Bool.eq_false_iff, Ne, BiDict.hasSession_set, not_or, ← Ne, Bool.not_eq_true] at hnot
    rcases Hal.knows_start_cases hknows with hknows | ⟨-, heq⟩
    · obtain ⟨c, hc, hstop⟩ := h.replaced hknows hsome hnot.2
      exact ⟨c, Hal.mem_commands_start.mpr (.inl hc), hstop⟩
    · exact absurd heq hnot.1

/-- A pair is taken out of the dictionary, and its session is about to be stopped if it is known. -/
lemma erasePair (h : hal.Agrees dict owner)
    (hstop : ∀ i, hal.Knows i session →
      ∃ c ∈ hal.commands i, c.session = session ∧ c.cause = none ∧ c.kind.isStop = true) :
    hal.Agrees (dict.erasePair id session) owner where
  fresh := h.fresh
  known hpair := by
    simp only [BiDict.erasePair, UintMap.getElem?_erase] at hpair
    split at hpair
    · cases hpair
    · exact h.known hpair
  batching hext hmode := by
    simp only [BiDict.erasePair, UintMap.getElem?_erase] at hext
    split at hext
    · cases hext
    · exact h.batching hext hmode
  replaced {i session'} hknows howner hnot := by
    by_cases heq : session' = session
    · subst heq
      exact hstop i hknows
    · rw [Bool.eq_false_iff, Ne, BiDict.hasSession_erasePair, not_and] at hnot
      exact h.replaced hknows howner (Bool.eq_false_iff.mpr (hnot heq))

/-- The entity of an id is replaced by one of the same kind. -/
lemma replace (h : hal.Agrees dict owner) (hbij : dict.Bijective)
    (hpair : dict.mForwardMap[id]? = some session) {old entity : SessionEntity}
    (hext : dict.mExtMap[session]? = some old)
    (hmode : entity.sessionMode ≠ .onFix → old.sessionMode ≠ .onFix) :
    hal.Agrees ((dict.rmById id).set id session entity) owner := by
  rw [BiDict.rmById_eq hpair]
  have hback := (hbij.inverse id session).mp hpair
  have hforward : ∀ id' : ℕ, ((dict.erasePair id session).set id session entity).mForwardMap[id']? =
      dict.mForwardMap[id']? := by
    intro id'
    simp only [BiDict.set, BiDict.erasePair, UintMap.getElem?_insert, UintMap.getElem?_erase]
    split
    · next heq => rw [heq, hpair]
    · rfl
  have hhas : ∀ session', ((dict.erasePair id session).set id session entity).hasSession session' =
      dict.hasSession session' := by
    intro session'
    simp only [BiDict.hasSession, BiDict.set, BiDict.erasePair, UintMap.getElem?_insert,
      UintMap.getElem?_erase]
    split
    · next heq => rw [heq, hback]
    · rfl
  refine ⟨h.fresh, fun hpair' => ?_, fun {session' entity'} hext' hmode' => ?_, ?_⟩
  · rw [hforward] at hpair'
    exact h.known hpair'
  · simp only [BiDict.set, BiDict.erasePair, UintMap.getElem?_insert, UintMap.getElem?_erase]
      at hext'
    split at hext'
    · next heq =>
        obtain rfl := Option.some.inj hext'
        exact heq ▸ h.batching hext (hmode hmode')
    · exact h.batching hext' hmode'
  · intro i session' hknows howner hnot
    rw [hhas] at hnot
    exact h.replaced hknows howner hnot

/-! ### Answers -/

lemma fresh_take (h : hal.Agrees dict owner) (hwf : hal.WellFormed)
    (hq : hal.commands i = c :: commands) {live : Finset ℕ} (hlive : hal.LiveAfter i c live) :
    ∀ i', ∀ c' ∈ (hal.take i commands live).commands i', c'.kind.isStart = true →
      c'.session ∉ (hal.take i commands live).live i' := by
  intro i' c' hc' hstart hl
  have hold := Hal.mem_commands_take hq hc'
  rw [Hal.live_take] at hl
  split at hl
  · next hi =>
      subst hi
      rcases hlive _ hl with hl | ⟨-, hsession⟩
      · exact h.fresh i' c' hold hstart hl
      · rw [Hal.commands_take, if_pos rfl] at hc'
        rw [hwf.not_isStart_of_taken hq hc' hsession.symm] at hstart
        cases hstart
  · exact h.fresh i' c' hold hstart hl

/-- What an interface knows after an answer, it knew before. -/
lemma knows_of_answered (hq : hal.commands i = c :: commands)
    (hknows : (hal.take i commands (Hal.answered (hal.live i) c error)).Knows i' session) :
    hal.Knows i' session :=
  Hal.knows_of_knows_take hq (Hal.liveAfter_answered hal i c error) hknows

/-- What is known of another session is not changed by an answer. -/
lemma knows_answered_of_ne (hq : hal.commands i = c :: commands) (hne : session ≠ c.session)
    (hknows : hal.Knows i' session) :
    (hal.take i commands (Hal.answered (hal.live i) c error)).Knows i' session := by
  rcases hknows with hl | ⟨c', hc', hstart, hsession⟩
  · refine .inl ?_
    rw [Hal.live_take, Hal.answered]
    split
    · next hi =>
        subst hi
        split
        · exact hl
        · split
          · exact Finset.mem_insert_of_mem hl
          · split
            · exact Finset.mem_erase_of_ne_of_mem hne hl
            · exact hl
    · exact hl
  · refine .inr ⟨c', Hal.mem_commands_take_of_ne hq hc' ?_, hstart, hsession⟩
    rintro rfl
    exact hne hsession.symm

/-- A session that an answer ends is no longer known. -/
lemma not_knows_of_ends (h : hal.Agrees dict owner) (hwf : hal.WellFormed)
    (hq : hal.commands i = c :: commands) (hanswers : hal.Answers i c) (hends : c.kind.Ends error) :
    ∀ i', ¬ (hal.take i commands (Hal.answered (hal.live i) c error)).Knows i' c.session := by
  intro i' hknows
  have hi : i' = i := by
    refine hwf.one_owner (knows_of_answered hq hknows) ?_
    rcases hanswers with hstart | hl
    · exact .inr ⟨c, hq ▸ List.mem_cons_self, hstart, rfl⟩
    · exact .inl hl
  subst hi
  rcases hknows with hl | ⟨c', hc', hstart, hsession⟩
  · rw [Hal.live_take, if_pos rfl, Hal.answered] at hl
    rcases hends with ⟨hstart, herror⟩ | ⟨hstop, herror⟩
    · rw [if_pos herror] at hl
      exact h.fresh i' c (hq ▸ List.mem_cons_self) hstart hl
    · have hstart := RequestKind.not_isStart_of_isStop hstop
      rw [if_neg (not_not.mpr herror), if_neg hstart, if_pos hstop] at hl
      exact Finset.notMem_erase _ _ hl
  · rw [Hal.commands_take, if_pos rfl] at hc'
    rw [hwf.not_isStart_of_taken hq hc' hsession] at hstart
    cases hstart

/-- A session that an answer does not end is known after it. -/
lemma knows_of_not_ends (hanswers : hal.Answers i c) (hends : ¬ c.kind.Ends error) :
    (hal.take i commands (Hal.answered (hal.live i) c error)).Knows i c.session := by
  refine .inl ?_
  rw [Hal.live_take, if_pos rfl, Hal.answered]
  by_cases hstart : c.kind.isStart = true
  · have herror : ¬ error ≠ .success := fun herror => hends (.inl ⟨hstart, herror⟩)
    rw [if_neg herror, if_pos hstart]
    exact Finset.mem_insert_self _ _
  · have hl : c.session ∈ hal.live i := hanswers.resolve_left hstart
    by_cases herror : error ≠ .success
    · rw [if_pos herror]
      exact hl
    · have hstop : ¬ c.kind.isStop = true := fun hstop =>
        hends (.inr ⟨hstop, not_not.mp herror⟩)
      rw [if_neg herror, if_neg hstart, if_neg hstop]
      exact hl

/-- An answer leaves the dictionary as it is. -/
lemma answered (h : hal.Agrees dict owner) (hwf : hal.WellFormed) (hbij : dict.Bijective)
    (hq : hal.commands i = c :: commands) (hanswers : hal.Answers i c)
    (hkeeps : dict.hasSession c.session = true → ¬ c.kind.Ends error)
    (hstop : c.cause = none → error = .success) :
    (hal.take i commands (Hal.answered (hal.live i) c error)).Agrees dict owner where
  fresh := h.fresh_take hwf hq (Hal.liveAfter_answered hal i c error)
  known {id session} hpair := by
    obtain ⟨⟨i', hknows⟩, howner⟩ := h.known hpair
    by_cases hsession : session = c.session
    · subst hsession
      have hhas : dict.hasSession c.session = true :=
        BiDict.hasSession_eq_true.mpr ⟨id, (hbij.inverse _ _).mp hpair⟩
      exact ⟨⟨i, knows_of_not_ends hanswers (hkeeps hhas)⟩, howner⟩
    · exact ⟨⟨i', knows_answered_of_ne hq hsession hknows⟩, howner⟩
  batching hext hmode i' hknows := h.batching hext hmode i' (knows_of_answered hq hknows)
  replaced {i' session} hknows howner hnot := by
    obtain ⟨c', hc', hsession, hcause, hkind⟩ :=
      h.replaced (knows_of_answered hq hknows) howner hnot
    refine ⟨c', Hal.mem_commands_take_of_ne hq hc' ?_, hsession, hcause, hkind⟩
    rintro rfl
    -- the session has just been stopped
    rw [← hsession] at hknows
    exact h.not_knows_of_ends hwf hq hanswers (.inr ⟨hkind, hstop hcause⟩) i' hknows

/-- An answer ends a session, which is taken out of the dictionary. -/
lemma ended (h : hal.Agrees dict owner) (hwf : hal.WellFormed) (hbij : dict.Bijective)
    (hq : hal.commands i = c :: commands) (hanswers : hal.Answers i c)
    (hpair : dict.mForwardMap[id]? = some c.session) (hends : c.kind.Ends error) :
    (hal.take i commands (Hal.answered (hal.live i) c error)).Agrees
      (dict.erasePair id c.session) owner where
  fresh := h.fresh_take hwf hq (Hal.liveAfter_answered hal i c error)
  known {id' session} hpair' := by
    simp only [BiDict.erasePair, UintMap.getElem?_erase] at hpair'
    split at hpair'
    · cases hpair'
    · next hne =>
        obtain ⟨⟨i', hknows⟩, howner⟩ := h.known hpair'
        have hsession : session ≠ c.session := by
          rintro rfl
          have hback := (hbij.inverse _ _).mp hpair'
          rw [(hbij.inverse _ _).mp hpair] at hback
          exact hne (Option.some.inj hback).symm
        exact ⟨⟨i', knows_answered_of_ne hq hsession hknows⟩, howner⟩
  batching hext hmode i' hknows := by
    simp only [BiDict.erasePair, UintMap.getElem?_erase] at hext
    split at hext
    · cases hext
    · exact h.batching hext hmode i' (knows_of_answered hq hknows)
  replaced {i' session} hknows howner hnot := by
    have hne : session ≠ c.session := by
      rintro rfl
      exact h.not_knows_of_ends hwf hq hanswers hends i' hknows
    rw [Bool.eq_false_iff, Ne, BiDict.hasSession_erasePair, not_and] at hnot
    obtain ⟨c', hc', hsession, hstop⟩ :=
      h.replaced (knows_of_answered hq hknows) howner (Bool.eq_false_iff.mpr (hnot hne))
    refine ⟨c', Hal.mem_commands_take_of_ne hq hc' ?_, hsession, hstop⟩
    rintro rfl
    exact hne hsession.symm

/-- A command is ignored. -/
lemma ignored (h : hal.Agrees dict owner) (hwf : hal.WellFormed)
    (hq : hal.commands i = c :: commands) (hnot : ¬ hal.Answers i c) :
    (hal.take i commands (hal.live i)).Agrees dict owner := by
  have hlive : hal.LiveAfter i c (hal.live i) := fun _ hl => .inl hl
  refine ⟨h.fresh_take hwf hq hlive, fun hpair => ?_, fun hext hmode i' hknows => ?_, ?_⟩
  · obtain ⟨⟨i', hknows⟩, howner⟩ := h.known hpair
    refine ⟨⟨i', ?_⟩, howner⟩
    rcases hknows with hl | ⟨c', hc', hstart, hsession⟩
    · refine .inl ?_
      rw [Hal.live_take]
      split
      · next hi => exact hi ▸ hl
      · exact hl
    · refine .inr ⟨c', Hal.mem_commands_take_of_ne hq hc' ?_, hstart, hsession⟩
      rintro rfl
      exact hnot (.inl hstart)
  · exact h.batching hext hmode i' (Hal.knows_of_knows_take hq hlive hknows)
  · intro i' session hknows howner hhas
    obtain ⟨c', hc', hsession, hcause, hstop⟩ :=
      h.replaced (Hal.knows_of_knows_take hq hlive hknows) howner hhas
    by_cases hi : i' = i
    · subst hi
      refine ⟨c', Hal.mem_commands_take_of_ne hq hc' ?_, hsession, hcause, hstop⟩
      rintro rfl
      -- the interface does not know the session, and no start of it is to come
      rcases hknows with hl | ⟨c'', hc'', hstart, hsession'⟩
      · rw [Hal.live_take, if_pos rfl] at hl
        exact hnot (.inr (hsession ▸ hl))
      · rw [Hal.commands_take, if_pos rfl] at hc''
        rw [hwf.not_isStart_of_taken hq hc'' (hsession'.trans hsession.symm)] at hstart
        cases hstart
    · refine ⟨c', ?_, hsession, hcause, hstop⟩
      rw [Hal.commands_take, if_neg hi]
      exact hc'

end Hal.Agrees

/-! ## Calls -/

namespace LocationAPIClientBase

/-- The client with all requests that wait for the answers to session calls taken for unanswered.
No code reads the difference. -/
def resync (s : LocationAPIClientBase) : LocationAPIClientBase :=
  { s with unanswered := (s.mRequestQueues .session).mQueue }

/-- What holds between events, whether or not responses have reached their own requests. -/
structure Kept (s : LocationAPIClientBase) (owner : ℕ → Option ℕ) : Prop where
  invariant : s.resync.Invariant
  agrees : s.hal.Agrees s.mSessionBiDict owner

section Calls

variable {s : LocationAPIClientBase} {owner : ℕ → Option ℕ} {id session : ℕ}

lemma Invariant.resync (h : s.Invariant) : s.resync.Invariant := { h with unanswered := rfl }

/-- The session of an id, and the entity that is kept for it. -/
lemma Kept.getExtById (h : s.Kept owner) (hid : s.mSessionBiDict.hasId id = true) :
    s.mSessionBiDict.mForwardMap[id]? = some (s.mSessionBiDict.getExtById id).session ∧
      s.mSessionBiDict.hasSession (s.mSessionBiDict.getExtById id).session = true ∧
      s.mSessionBiDict.mExtMap[(s.mSessionBiDict.getExtById id).session]? =
        some (s.mSessionBiDict.getExtById id) := by
  obtain ⟨hpair, hhas⟩ := h.invariant.getExtById hid
  obtain ⟨entity, hext, -⟩ := h.invariant.entity hpair
  refine ⟨hpair, hhas, ?_⟩
  have hpos := (h.invariant.sessions hhas).1
  have hget : s.mSessionBiDict.getExtById id = entity := by
    have hpair' : s.mSessionBiDict.mForwardMap[id]? =
      some (s.mSessionBiDict.getExtById id).session := hpair
    rw [BiDict.getExtById, hpair']
    exact (if_pos hpos).trans (congrArg (Option.getD · default) hext)
  exact hext.trans (congrArg some hget.symm)

/-! ### Parts of calls -/

lemma Kept.push (h : s.Kept owner) (request : LocationAPIRequest) :
    (s.push .session request).Kept owner :=
  ⟨h.invariant.push request, h.agrees⟩

lemma Kept.setSession (h : s.Kept owner) (session : ℕ) :
    (s.setQueue .session ((s.mRequestQueues .session).setSession session)).Kept owner :=
  ⟨h.invariant.setSession session, h.agrees⟩

lemma Kept.sessionCommand (h : s.Kept owner) (hs : s.mSessionBiDict.hasSession session = true)
    {kind : RequestKind} (hk : kind.isStart = false) (request : LocationAPIRequest)
    (i : HalInterface) :
    Kept { s.push .session request with
      hal := s.hal.send i ⟨kind, session, some (.session, request)⟩ } owner :=
  ⟨h.invariant.sessionCommand hs hk request i, h.agrees.send hk i⟩

lemma Kept.sessionCommandBoth (h : s.Kept owner) (hs : s.mSessionBiDict.hasSession session = true)
    {kind : RequestKind} (hk : kind.isStart = false) (request : LocationAPIRequest) :
    Kept { s.push .session request with
      hal := s.hal.sendBoth ⟨kind, session, some (.session, request)⟩ } owner :=
  ⟨h.invariant.sessionCommandBoth hs hk request, h.agrees.sendBoth hk⟩

lemma Kept.trackingCommand (h : s.Kept owner) (hpos : 0 < (s.mRequestQueues .tracking).mSession)
    {kind : RequestKind} (hk : kind.isStart = false) (request : LocationAPIRequest)
    (mTracking : Bool) :
    Kept { s.push .tracking request with
      hal := s.hal.sendBoth
        ⟨kind, (s.mRequestQueues .tracking).mSession, some (.tracking, request)⟩
      mTracking := mTracking } owner :=
  ⟨{ h.invariant.trackingCommand hpos hk request with }, h.agrees.sendBoth hk⟩

lemma Kept.startSession (h : s.Kept owner) (hid : s.mSessionBiDict.hasId id = false)
    (howner : owner s.hal.nextSession = some id) {i : HalInterface} {kind : RequestKind}
    (hstart : kind.isStart = true) (request : LocationAPIRequest) {entity : SessionEntity}
    (hentity : entity.session = s.hal.nextSession) (hflp : entity.sessionMode ≠ .onFix → i = .flp) :
    Kept { s with
      hal := (s.hal.start i kind (some (.session, request))).1
      mSessionBiDict := s.mSessionBiDict.set id s.hal.nextSession entity } owner :=
  ⟨h.invariant.startSession hid i kind request hentity,
    h.agrees.startSession h.invariant.hal howner hstart _ hflp⟩

lemma Kept.replace (h : s.Kept owner) (hpair : s.mSessionBiDict.mForwardMap[id]? = some session)
    {old entity : SessionEntity} (hext : s.mSessionBiDict.mExtMap[session]? = some old)
    (hmode : entity.sessionMode ≠ .onFix → old.sessionMode ≠ .onFix)
    (hentity : entity.session = session) :
    Kept { s with
      mSessionBiDict := (s.mSessionBiDict.rmById id).set id session entity } owner :=
  ⟨h.invariant.replace hpair hentity,
    h.agrees.replace h.invariant.bijective hpair hext hmode⟩

/-- A batching session is replaced: the interface that may know it is sent a stop. -/
lemma Kept.forgetBatching (h : s.Kept owner)
    (hpair : s.mSessionBiDict.mForwardMap[id]? = some session)
    (hs : s.mSessionBiDict.hasSession session = true) {old : SessionEntity}
    (hext : s.mSessionBiDict.mExtMap[session]? = some old) (hmode : old.sessionMode ≠ .onFix) :
    Kept { s with
      hal := s.hal.send .flp ⟨.stopBatching, session, none⟩
      mSessionBiDict := s.mSessionBiDict.rmById id } owner := by
  refine ⟨(h.invariant.forget hpair hs .stopBatching rfl).1 .flp, ?_⟩
  have hsent : (s.hal.send .flp ⟨.stopBatching, session, none⟩).Agrees s.mSessionBiDict owner :=
    h.agrees.send rfl .flp
  show Hal.Agrees _ (s.mSessionBiDict.rmById id) owner
  rw [BiDict.rmById_eq hpair]
  refine hsent.erasePair fun i hknows => ?_
  obtain rfl := hsent.batching hext hmode i hknows
  exact ⟨_, Hal.mem_commands_send.mpr (.inr ⟨rfl, rfl⟩), rfl, rfl, rfl⟩

/-- A tracking session is replaced: both interfaces are sent a stop. -/
lemma Kept.forgetTracking (h : s.Kept owner)
    (hpair : s.mSessionBiDict.mForwardMap[id]? = some session)
    (hs : s.mSessionBiDict.hasSession session = true) :
    Kept { s with
      hal := s.hal.sendBoth ⟨.stopTracking, session, none⟩
      mSessionBiDict := s.mSessionBiDict.rmById id } owner := by
  refine ⟨(h.invariant.forget hpair hs .stopTracking rfl).2, ?_⟩
  have hsent : (s.hal.sendBoth ⟨.stopTracking, session, none⟩).Agrees s.mSessionBiDict owner :=
    h.agrees.sendBoth rfl
  show Hal.Agrees _ (s.mSessionBiDict.rmById id) owner
  rw [BiDict.rmById_eq hpair]
  refine hsent.erasePair fun i _ => ⟨⟨.stopTracking, session, none⟩, ?_, rfl, rfl, rfl⟩
  rw [Hal.sendBoth, Hal.mem_commands_send, Hal.mem_commands_send]
  cases i with
  | gnss => exact .inl (.inr ⟨rfl, rfl⟩)
  | flp => exact .inr ⟨rfl, rfl⟩

/-! ### Calls -/

lemma kept_locAPIStartTracking (h : s.Kept owner) (howner : owner s.hal.nextSession = none)
    (needsGnssTrackingInfo : Bool) (options : LocationOptions) :
    (s.locAPIStartTracking needsGnssTrackingInfo options).1.Kept owner := by
  unfold locAPIStartTracking
  split
  · exact h
  · exact ⟨h.invariant.startTracking _ _ _ true, h.agrees.startTracking h.invariant.hal
      h.invariant.bijective h.invariant.nextSession_apart howner _ _ _⟩

lemma kept_locAPIStopTracking (h : s.Kept owner) : s.locAPIStopTracking.Kept owner := by
  unfold locAPIStopTracking
  simp only []
  split
  · rename_i hpos
    exact h.trackingCommand hpos rfl (s.newRequest .stopTracking) false
  · exact h

lemma kept_locAPIUpdateTrackingOptions (h : s.Kept owner) :
    s.locAPIUpdateTrackingOptions.Kept owner := by
  unfold locAPIUpdateTrackingOptions
  simp only []
  split
  · rename_i hpos
    exact h.trackingCommand hpos rfl (s.newRequest .updateTrackingOptions) s.mTracking
  · exact h

lemma kept_locAPIStartSession (h : s.Kept owner) {id : ℕ}
    (howner : owner s.hal.nextSession = some id) (needsGnssTrackingInfo : Bool)
    (sessionMode : SessionMode) (options : LocationOptions) :
    (s.locAPIStartSession needsGnssTrackingInfo id sessionMode options).1.Kept owner := by
  unfold locAPIStartSession
  split
  · exact h
  · rename_i hid
    have hid : s.mSessionBiDict.hasId id = false := by simpa using hid
    split
    · rename_i hmode
      refine (h.push _).startSession hid howner rfl _ ?_ fun hne => absurd hmode hne
      rw [SessionEntity.session, if_pos hmode]
      rfl
    · rename_i hmode
      refine ((h.setSession s.hal.nextSession).push _).startSession hid howner rfl _ ?_ fun _ => rfl
      rw [SessionEntity.session, if_neg hmode]
      rfl

lemma kept_locAPIStopSession (h : s.Kept owner) (id : ℕ) :
    (s.locAPIStopSession id).1.Kept owner := by
  unfold locAPIStopSession
  split
  · rename_i hid
    obtain ⟨-, hhas, -⟩ := h.getExtById hid
    simp only []
    split
    · rename_i hmode
      rw [SessionEntity.session, if_pos hmode] at hhas
      exact h.sessionCommandBoth hhas rfl _
    · rename_i hmode
      rw [SessionEntity.session, if_neg hmode] at hhas
      exact h.sessionCommand hhas rfl _ .flp
  · exact h

lemma kept_locAPIGetBatchedLocations (h : s.Kept owner) (id : ℕ) :
    (s.locAPIGetBatchedLocations id).1.Kept owner := by
  unfold locAPIGetBatchedLocations
  split
  · rename_i hid
    obtain ⟨-, hhas, -⟩ := h.getExtById hid
    simp only []
    split
    · rename_i hmode
      rw [SessionEntity.session, if_neg hmode] at hhas
      exact h.sessionCommand hhas rfl _ .flp
    · exact h
  · exact h

lemma kept_locAPIUpdateSessionOptions (h : s.Kept owner) {id : ℕ}
    (howner : owner s.hal.nextSession = some id) (needsGnssTrackingInfo : Bool)
    (sessionMode : SessionMode) (options : LocationOptions) :
    (s.locAPIUpdateSessionOptions needsGnssTrackingInfo id sessionMode options).1.Kept owner := by
  unfold locAPIUpdateSessionOptions
  split
  · rename_i hid
    obtain ⟨hpair, hhas, hext⟩ := h.getExtById hid
    have hgone : (s.mSessionBiDict.rmById id).hasId id = false := by
      rw [BiDict.rmById_eq hpair]
      exact BiDict.hasId_erasePair _ _ _
    simp only []
    generalize s.mSessionBiDict.getExtById id = entity at hpair hhas hext ⊢
    split
    · rename_i hmode
      split
      · rename_i hentity
        rw [SessionEntity.session, if_pos hentity] at hpair hhas hext
        refine (h.sessionCommandBoth hhas rfl _).replace hpair hext (fun hne => absurd hmode hne) ?_
        rw [SessionEntity.session, if_pos hmode]
      · rename_i hentity
        rw [SessionEntity.session, if_neg hentity] at hpair hhas hext
        have hpushed := (h.push (s.newRequest .updateTrackingOptions)).setSession 0
        have hstopped := hpushed.forgetBatching hpair hhas hext hentity
        refine hstopped.startSession hgone howner rfl _ ?_ fun hne => absurd hmode hne
        rw [SessionEntity.session, if_pos hmode]
        rfl
    · rename_i hmode
      split
      · rename_i hentity
        rw [SessionEntity.session, if_pos hentity] at hpair hhas hext
        have hstopped := ((h.push (s.newRequest .updateBatchingOptions)).setSession
          s.hal.nextSession).forgetTracking hpair hhas
        refine hstopped.startSession hgone howner rfl _ ?_ fun _ => rfl
        rw [SessionEntity.session, if_neg hmode]
        rfl
      · rename_i hentity
        rw [SessionEntity.session, if_neg hentity] at hpair hhas hext
        refine (h.sessionCommand hhas rfl _ .flp).replace hpair hext (fun _ => hentity) ?_
        rw [SessionEntity.session, if_neg hmode]
  · exact h

end Calls

/-! ## Answers -/

section Answers

variable {s : LocationAPIClientBase} {owner : ℕ → Option ℕ} {i : HalInterface} {c : HalCommand}
  {commands : List HalCommand}

/-- A request that is told of an outcome removes the session exactly when its own command would end
it. -/
lemma onResponse_eq (request : LocationAPIRequest) (error : LocationError) (session : ℕ) :
    s.onResponse request error session =
      if request.kind.Ends error then s.removeSession session else s := by
  unfold onResponse
  by_cases hstart : request.kind.isStart = true
  · have hstop : ¬ request.kind.isStop = true :=
      fun hstop => RequestKind.not_isStart_of_isStop hstop hstart
    have hends : request.kind.Ends error ↔ error ≠ .success := by
      simp [RequestKind.Ends, hstart, hstop]
    rw [if_pos hstart]
    exact if_congr hends.symm rfl rfl
  · rw [if_neg hstart]
    by_cases hstop : request.kind.isStop = true
    · have hends : request.kind.Ends error ↔ error = .success := by
        simp [RequestKind.Ends, hstart, hstop]
      rw [if_pos hstop]
      exact if_congr hends.symm rfl rfl
    · have hends : ¬ request.kind.Ends error := by
        simp [RequestKind.Ends, hstart, hstop]
      rw [if_neg hstop, if_neg hends]

lemma removeSession_of_not {session : ℕ} (h : s.mSessionBiDict.hasSession session = false) :
    s.removeSession session = s := by
  rw [removeSession, if_neg (by rw [h]; exact Bool.false_ne_true)]

/-- The session of the answer is taken out of the dictionary, together with its id. -/
lemma removeSession_of_mem {id session : ℕ}
    (h : s.mSessionBiDict.mBackwardMap[session]? = some id) :
    s.removeSession session =
      { s with mSessionBiDict := s.mSessionBiDict.erasePair id session } := by
  rw [removeSession, if_pos (BiDict.hasSession_eq_true.mpr ⟨id, h⟩), BiDict.rmBySession_eq h]

/-- A response about a session other than the tracking session is being handled. -/
lemma Kept.invariant_taken (h : s.Kept owner) (hq : s.hal.commands i = c :: commands)
    (hne : c.session ≠ (s.mRequestQueues .tracking).mSession) (error : LocationError) :
    (s.taken i c commands error).resync.Invariant :=
  have hlive := Hal.liveAfter_answered s.hal i c error
  { h.invariant with
    hal := h.invariant.hal.take hq hlive
    apart := fun i' c' hc' =>
      (h.invariant.apart i' c' (Hal.mem_commands_take hq hc')).mono rfl id
    tracksQueue := h.invariant.tracksQueue.take_other hq hlive hne
    unanswered := rfl }

/-- The queue of the session calls may hold anything. -/
lemma Invariant.setQueue_resync (h : s.resync.Invariant) (q : RequestQueue) :
    (s.setQueue .session q).resync.Invariant := { h with unanswered := rfl }

/-- The response to a command on a session of the dictionary. -/
lemma Kept.response_session (h : s.Kept owner) (hq : s.hal.commands i = c :: commands)
    (hanswers : s.hal.Answers i c) {error : LocationError}
    (hhas : s.mSessionBiDict.hasSession c.session = true)
    (hends : (∃ request ∈ (s.mRequestQueues .session).mQueue.head?, request.kind.Ends error) ↔
      c.kind.Ends error) (hstop : c.cause = none → error = .success) :
    ((s.taken i c commands error).onResponseCb error c.session).1.Kept owner := by
  have hmem : c ∈ s.hal.commands i := hq ▸ List.mem_cons_self
  have hne : (s.mRequestQueues .tracking).mSession ≠ c.session :=
    (h.invariant.ne_tracking hhas).symm
  have hpopped : ((s.taken i c commands error).setQueue .session
      (s.mRequestQueues .session).pop.1).resync.Invariant :=
    (h.invariant_taken hq hne.symm error).setQueue_resync _
  have hget : (s.taken i c commands error).getRequestBySession c.session =
      ((s.taken i c commands error).setQueue .session (s.mRequestQueues .session).pop.1,
        (s.mRequestQueues .session).mQueue.head?) := by
    have hother := getRequestBySession_other (s := s.taken i c commands error) hne
      (h.invariant.niResponse_ne hmem)
    exact hother.trans (if_pos hhas)
  have hleft : ¬ c.kind.Ends error → ((s.taken i c commands error).setQueue .session
      (s.mRequestQueues .session).pop.1).Kept owner := fun hnot =>
    ⟨hpopped, h.agrees.answered h.invariant.hal h.invariant.bijective hq hanswers
      (fun _ => hnot) hstop⟩
  cases hfront : (s.mRequestQueues .session).mQueue.head? with
  | none =>
      rw [hfront] at hget hends
      rw [onResponseCb_none hget]
      exact hleft fun hc => by simpa using hends.mpr hc
  | some request =>
      rw [hfront] at hget hends
      rw [onResponseCb_some hget, onResponse_eq]
      split
      · next hrequest =>
          obtain ⟨id, hid⟩ := BiDict.hasSession_eq_true.mp hhas
          have hpair := (h.invariant.bijective.inverse id c.session).mpr hid
          have hremoved : ((s.taken i c commands error).setQueue .session
              (s.mRequestQueues .session).pop.1).removeSession c.session = _ :=
            removeSession_of_mem hid
          rw [hremoved]
          exact ⟨hpopped.erasePair hpair, h.agrees.ended h.invariant.hal h.invariant.bijective hq
            hanswers hpair (hends.mp ⟨request, rfl, hrequest⟩)⟩
      · next hrequest =>
          refine hleft fun hc => ?_
          obtain ⟨request', hfront', hends'⟩ := hends.mpr hc
          obtain rfl := Option.some.inj hfront'
          exact hrequest hends'

/-- The response to a command on any other session. -/
lemma Kept.response_other (h : s.Kept owner) (hq : s.hal.commands i = c :: commands)
    (hanswers : s.hal.Answers i c) {error : LocationError}
    (hhas : s.mSessionBiDict.hasSession c.session = false)
    (hstop : c.cause = none → error = .success) :
    ((s.taken i c commands error).onResponseCb error c.session).1.Kept owner := by
  have hmem : c ∈ s.hal.commands i := hq ▸ List.mem_cons_self
  have hagrees := h.agrees.answered h.invariant.hal h.invariant.bijective hq hanswers
    (fun hyes => absurd hyes (Bool.eq_false_iff.mp hhas)) hstop
  by_cases hc : (s.mRequestQueues .tracking).mSession = c.session
  · -- only a request of the tracking queue waits for it
    have hapart := h.invariant.apart i c hmem
    unfold Apart at hapart
    cases hcause : c.cause with
    | none =>
        rw [hcause] at hapart
        exact absurd hc.symm hapart.2
    | some cause =>
        obtain ⟨type, request⟩ := cause
        rw [hcause] at hapart
        cases type with
        | geofence | niResponse => exact hapart.elim
        | session => exact absurd hc.symm hapart
        | tracking =>
            obtain ⟨hfront, hinv⟩ := h.invariant.taken_tracking hq hanswers hcause hc error
            have hget : (s.taken i c commands error).getRequestBySession c.session =
                ((s.taken i c commands error).setQueue .tracking (s.mRequestQueues .tracking).pop.1,
                  some request) :=
              getRequestBySession_tracking hc hfront
            have hkept : ((s.taken i c commands error).setQueue .tracking
                (s.mRequestQueues .tracking).pop.1).removeSession c.session = _ :=
              removeSession_of_not hhas
            rw [onResponseCb_some hget, onResponse_eq, hkept, ite_self]
            exact ⟨hinv.resync, hagrees⟩
  · have hother := getRequestBySession_other (s := s.taken i c commands error) hc
      (h.invariant.niResponse_ne hmem)
    have hnone : (s.taken i c commands error).getRequestBySession c.session =
        (s.taken i c commands error, none) :=
      hother.trans (if_neg (Bool.eq_false_iff.mp hhas))
    rw [onResponseCb_none hnone]
    exact ⟨h.invariant_taken hq (Ne.symm hc) error, hagrees⟩

lemma kept_answer (h : s.Kept owner) (i : HalInterface) (error : LocationError)
    (hstep : ∀ c ∈ (s.hal.commands i).head?, s.hal.Answers i c →
      ClientSessions.CommandInStep s c error) :
    (s.answer i error).1.Kept owner := by
  unfold answer
  cases hq : s.hal.commands i with
  | nil => exact h
  | cons c commands =>
      simp only []
      split
      · next hanswers =>
          obtain ⟨hends, hstop⟩ := hstep c (by rw [hq]; rfl) hanswers
          cases hhas : s.mSessionBiDict.hasSession c.session with
          | true => exact h.response_session hq hanswers hhas (hends hhas) hstop
          | false => exact h.response_other hq hanswers hhas hstop
      · next hnot =>
          exact ⟨h.invariant.ignored hq hnot, h.agrees.ignored h.invariant.hal hq hnot⟩

end Answers

end LocationAPIClientBase

/-! ## Runs -/

namespace ClientSessions

open LocationAPIClientBase

variable {o : ClientSessions}

/-- What holds between events. -/
def Kept (o : ClientSessions) : Prop := o.client.Kept o.owner

lemma kept_init : init.Kept := ⟨invariant_init.resync, .init⟩

lemma kept_next (h : o.Kept) (needsGnssTrackingInfo : Bool) (e : Event) (hstep : InStep o e) :
    ((machine needsGnssTrackingInfo).next o e).Kept := by
  have hnext : o.client.Kept (Function.update o.owner o.client.hal.nextSession e.clientId) :=
    ⟨h.invariant, h.agrees.next h.invariant.hal e.clientId⟩
  have howner : Function.update o.owner o.client.hal.nextSession e.clientId
      o.client.hal.nextSession = e.clientId := Function.update_self ..
  cases e with
  | locAPIStartTracking options =>
      exact kept_locAPIStartTracking hnext howner needsGnssTrackingInfo options
  | locAPIStopTracking => exact kept_locAPIStopTracking hnext
  | locAPIUpdateTrackingOptions => exact kept_locAPIUpdateTrackingOptions hnext
  | locAPIStartSession id sessionMode options =>
      exact kept_locAPIStartSession hnext howner needsGnssTrackingInfo sessionMode options
  | locAPIStopSession id => exact kept_locAPIStopSession hnext id
  | locAPIUpdateSessionOptions id sessionMode options =>
      exact kept_locAPIUpdateSessionOptions hnext howner needsGnssTrackingInfo sessionMode options
  | locAPIGetBatchedLocations id => exact kept_locAPIGetBatchedLocations hnext id
  | answer i error => exact kept_answer hnext i error hstep

/-- With no command left to answer, what is known is live, and nothing is about to be stopped. -/
lemma matches_of_kept (h : o.Kept) (hsettled : o.Settled) : o.Matches := by
  have hlive : ∀ {i session}, o.client.hal.Knows i session → session ∈ o.client.hal.live i := by
    rintro i session (hl | ⟨c, hc, -⟩)
    · exact hl
    · rw [hsettled i] at hc
      cases hc
  constructor
  · intro id session
    constructor
    · intro hpair
      obtain ⟨⟨i, hknows⟩, howner⟩ := h.agrees.known hpair
      exact ⟨⟨i, hlive hknows⟩, howner⟩
    · rintro ⟨⟨i, hl⟩, howner⟩
      cases hhas : o.client.mSessionBiDict.hasSession session with
      | true =>
          obtain ⟨id', hback⟩ := BiDict.hasSession_eq_true.mp hhas
          have hpair := (h.invariant.bijective.inverse id' session).mpr hback
          have howner' := (h.agrees.known hpair).2
          rw [howner, Option.some.injEq] at howner'
          rw [howner']
          exact hpair
      | false =>
          obtain ⟨c, hc, -⟩ := h.agrees.replaced (.inl hl) (by rw [howner]; simp) hhas
          rw [hsettled i] at hc
          cases hc
  · intro id hid
    rw [BiDict.getSession, (h.getExtById hid).1, Option.getD_some]

/-- Whenever every command has been answered, the dictionary has the live sessions of the HAL, each
under the id that it was started for, in a run in which every answer is in step. -/
theorem matches_of_inStep (needsGnssTrackingInfo : Bool) (events : List Event)
    (h : (machine needsGnssTrackingInfo).Steps InStep init events) :
    (machine needsGnssTrackingInfo).Always (fun o => o.Settled → o.Matches) init events := by
  have hkept : (machine needsGnssTrackingInfo).Always Kept init events :=
    Machine.always_of_steps (fun o e hkept hstep => kept_next hkept needsGnssTrackingInfo e hstep)
      kept_init h
  exact hkept.mono fun o hkept hsettled => matches_of_kept hkept hsettled

/-- A session is started, changed from tracking to batching, and stopped, all with success. -/
def changed : List Event :=
  [.locAPIStartSession 1 .onFix {}, .answer .flp .success, .locAPIUpdateSessionOptions 1 .onFull {},
    .answer .gnss .success, .answer .flp .success, .answer .flp .success, .locAPIStopSession 1,
    .answer .flp .success]

theorem matches_changed :
    (machine false).Steps InStep init changed ∧
      (machine false).Always (fun o => o.Settled → o.Matches) init changed :=
  have hstep : (machine false).Steps InStep init changed := by decide
  ⟨hstep, matches_of_inStep false changed hstep⟩

/-- A session is stopped twice before the HAL answers, and its id is used again. -/
def stoppedTwice : List Event :=
  [.locAPIStartSession 1 .onFix {}, .answer .flp .success, .locAPIStopSession 1,
    .locAPIStopSession 1, .answer .gnss .success, .answer .gnss .success, .answer .flp .success,
    .answer .flp .success, .locAPIStartSession 1 .onFix {}, .answer .flp .success]

/-- A session of the GNSS interface is stopped, another is started at the FLP interface, and the
latter answers first. -/
def flpFirst : List Event :=
  [.locAPIStartSession 1 .onFix {}, .answer .gnss .success, .locAPIStopSession 1,
    .locAPIStartSession 2 .onFull {}, .answer .flp .success, .answer .flp .success,
    .answer .gnss .success]

/-- A session is changed from tracking to batching, and the batching session cannot be started. -/
def startFails : List Event :=
  [.locAPIStartSession 1 .onFix {}, .answer .flp .success, .locAPIUpdateSessionOptions 1 .onFull {},
    .answer .gnss .success, .answer .flp .success, .answer .flp .generalFailure]

/-- The dictionary lacks a live session, lacks one and keeps a dead one, and keeps a dead one. -/
theorem dictionary_differs :
    ¬ (machine false).Always (fun o => o.Settled → o.Matches) init stoppedTwice ∧
      ¬ (machine true).Always (fun o => o.Settled → o.Matches) init flpFirst ∧
      ¬ (machine false).Always (fun o => o.Settled → o.Matches) init startFails := by
  refine ⟨fun h => ?_, fun h => ?_, fun h => ?_⟩
  · have hmatches := Machine.always_iff_prefix.mp h _ (List.prefix_refl _)
      fun i => by cases i <;> decide
    have hpair := (hmatches.1 1 2).mpr ⟨⟨.flp, by decide⟩, by decide⟩
    revert hpair
    decide
  · have hmatches := Machine.always_iff_prefix.mp h _ (List.prefix_refl _)
      fun i => by cases i <;> decide
    have hpair := (hmatches.1 2 2).mpr ⟨⟨.flp, by decide⟩, by decide⟩
    revert hpair
    decide
  · have hmatches := Machine.always_iff_prefix.mp h _ (List.prefix_refl _)
      fun i => by cases i <;> decide
    obtain ⟨⟨i, hl⟩, -⟩ := (hmatches.1 1 2).mp (by decide)
    revert hl
    cases i <;> decide

end ClientSessions

end LocHal
