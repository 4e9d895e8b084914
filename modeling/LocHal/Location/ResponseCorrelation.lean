import LocHal.Location.HalSessions

/-!
# Responses and requests

The requests of all session calls wait in one queue, whichever interface their commands were sent to
and whether the HAL will answer them or not.  `responses_correlated_iff` says exactly which
responses reach the request that waits for them: those of the tracking session of the client that
has not been started anew, and those of the sessions in `mSessionBiDict` that come when all older
requests of session calls have been answered.
-/

namespace LocHal

/-- The session that an entity stands for. -/
def SessionEntity.session (entity : SessionEntity) : ℕ :=
  if entity.sessionMode = .onFix then entity.trackingSession else entity.batchingSession

namespace LocationAPIClientBase

/-! ## The law -/

/-- A response is dispatched to the request that waits for it, and to none if none waits. -/
def Output.Correlated : Output → Prop
  | .returned _ => True
  | .dispatched command request => request = command.cause.map Prod.snd

instance : ∀ o : Output, Decidable o.Correlated
  | .returned _ => isTrue trivial
  | .dispatched command request =>
      inferInstanceAs (Decidable (request = command.cause.map Prod.snd))

/-- A response that a request waits for comes in time.  One about the tracking session comes before
another tracking session is started; one about the session of a session call comes while the session
is still that of an id, and when the requests of all earlier session calls have been answered. -/
def CommandInTime (s : LocationAPIClientBase) (c : HalCommand) : Prop :=
  match c.cause with
  | some (.session, request) =>
      s.mSessionBiDict.hasSession c.session = true ∧ s.unanswered.head? = some request
  | some (_, _) => (s.mRequestQueues .tracking).mSession = c.session
  | none => True

/-- Every answer of the HAL comes in time. -/
def InTime (s : LocationAPIClientBase) : Event → Prop
  | .answer i _ => ∀ c ∈ (s.hal.commands i).head?, s.hal.Answers i c → s.CommandInTime c
  | _ => True

/-! ## The invariant -/

/-- A command concerns a session that its cause knows about: a request of the tracking queue one
that is not in `mSessionBiDict`, and any other cause one that is not the tracking session.  A
session whose stop nobody waits for is neither. -/
def Apart (s : LocationAPIClientBase) (c : HalCommand) : Prop :=
  match c.cause with
  | some (.tracking, _) => s.mSessionBiDict.hasSession c.session = false
  | some (.session, _) => c.session ≠ (s.mRequestQueues .tracking).mSession
  | none => s.mSessionBiDict.hasSession c.session = false ∧
      c.session ≠ (s.mRequestQueues .tracking).mSession
  | some (.geofence, _) => False
  | some (.niResponse, _) => False

/-- What holds between events. -/
structure Invariant (s : LocationAPIClientBase) : Prop where
  hal : s.hal.WellFormed
  bijective : s.mSessionBiDict.Bijective
  entity : ∀ {id session : ℕ}, s.mSessionBiDict.mForwardMap[id]? = some session →
    ∃ entity, s.mSessionBiDict.mExtMap[session]? = some entity ∧ entity.session = session
  sessions : ∀ {session : ℕ}, s.mSessionBiDict.hasSession session = true →
    0 < session ∧ session < s.hal.nextSession
  tracking_lt : (s.mRequestQueues .tracking).mSession < s.hal.nextSession
  tracking_apart : s.mSessionBiDict.hasSession (s.mRequestQueues .tracking).mSession = false
  niResponse : (s.mRequestQueues .niResponse).mSession = 0
  apart : ∀ i, ∀ c ∈ s.hal.commands i, s.Apart c
  tracksQueue : s.hal.TracksQueue (s.mRequestQueues .tracking)
  unanswered : (s.mRequestQueues .session).mQueue = s.unanswered

section Invariant

variable {s : LocationAPIClientBase} {id session : ℕ}

lemma invariant_init : init.Invariant where
  hal := {
    nextSession := Nat.one_pos
    live_lt := by simp [init]
    commands_lt := by simp [init]
    starts_first := by simp [init]
    one_owner := by simp [init, Hal.Knows] }
  bijective := BiDict.bijective_empty
  entity := by simp [init, BiDict.empty]
  sessions := by simp [init, BiDict.empty, BiDict.hasSession]
  tracking_lt := Nat.one_pos
  tracking_apart := by simp [init, BiDict.empty, BiDict.hasSession]
  niResponse := rfl
  apart := by simp [init]
  tracksQueue := by simp [Hal.TracksQueue, init, Hal.Knows]
  unanswered := rfl

/-- The session of an id, and the entity that is kept for it. -/
lemma Invariant.getExtById (h : s.Invariant) (hid : s.mSessionBiDict.hasId id = true) :
    s.mSessionBiDict.mForwardMap[id]? = some (s.mSessionBiDict.getExtById id).session ∧
      s.mSessionBiDict.hasSession (s.mSessionBiDict.getExtById id).session = true := by
  obtain ⟨session, hsession⟩ := BiDict.hasId_eq_true.mp hid
  have hhas : s.mSessionBiDict.hasSession session = true :=
    BiDict.hasSession_eq_true.mpr ⟨id, (h.bijective.inverse id session).mp hsession⟩
  obtain ⟨entity, hext, hentity⟩ := h.entity hsession
  have hget : s.mSessionBiDict.getExtById id = entity := by
    simp [BiDict.getExtById, hsession, (h.sessions hhas).1, hext]
  rw [hget, hentity]
  exact ⟨hsession, hhas⟩

/-! ### Parts of calls -/

/-- A request is pushed to the queue of the session calls. -/
lemma Invariant.push (h : s.Invariant) (request : LocationAPIRequest) :
    (s.push .session request).Invariant :=
  { h with
    unanswered := by
      simp [LocationAPIClientBase.push, setQueue, RequestQueue.push, h.unanswered] }

lemma Invariant.setSession (h : s.Invariant) (session : ℕ) :
    (s.setQueue .session ((s.mRequestQueues .session).setSession session)).Invariant :=
  { h with unanswered := by simp [setQueue, RequestQueue.setSession, h.unanswered] }

/-- A command about a session other than the tracking session is sent. -/
lemma Invariant.send (h : s.Invariant) {c : HalCommand} (hpos : 0 < c.session)
    (hlt : c.session < s.hal.nextSession) (hk : c.kind.isStart = false)
    (hne : c.session ≠ (s.mRequestQueues .tracking).mSession) (hapart : s.Apart c)
    (i : HalInterface) : Invariant { s with hal := s.hal.send i c } :=
  { h with
    hal := h.hal.send hpos hlt hk i
    apart := by
      intro i' c' hc'
      rcases Hal.mem_commands_send.mp hc' with hc' | ⟨-, rfl⟩
      · exact h.apart i' c' hc'
      · exact hapart
    tracksQueue := h.tracksQueue.send hne hk i }

lemma Invariant.sendBoth (h : s.Invariant) {c : HalCommand} (hpos : 0 < c.session)
    (hlt : c.session < s.hal.nextSession) (hk : c.kind.isStart = false)
    (hne : c.session ≠ (s.mRequestQueues .tracking).mSession) (hapart : s.Apart c) :
    Invariant { s with hal := s.hal.sendBoth c } :=
  (h.send hpos hlt hk hne hapart .gnss).send hpos hlt hk hne hapart .flp

/-- A session that is in `mSessionBiDict` is not the tracking session. -/
lemma Invariant.ne_tracking (h : s.Invariant) (hs : s.mSessionBiDict.hasSession session = true) :
    session ≠ (s.mRequestQueues .tracking).mSession := by
  rintro rfl
  rw [h.tracking_apart] at hs
  cases hs

lemma Invariant.nextSession_apart (h : s.Invariant) :
    s.mSessionBiDict.hasSession s.hal.nextSession = false := by
  rw [Bool.eq_false_iff]
  exact fun hs => lt_irrefl _ (h.sessions hs).2

/-- With fewer sessions in the dictionary, what was apart stays apart. -/
lemma Apart.mono {s' : LocationAPIClientBase} {c : HalCommand} (h : s.Apart c)
    (htracking : (s'.mRequestQueues .tracking).mSession = (s.mRequestQueues .tracking).mSession)
    (hsessions : s'.mSessionBiDict.hasSession c.session = true →
      s.mSessionBiDict.hasSession c.session = true) : s'.Apart c := by
  have hnot : s.mSessionBiDict.hasSession c.session = false →
      s'.mSessionBiDict.hasSession c.session = false := fun hs => by
    rw [Bool.eq_false_iff]
    exact fun hs' => absurd (hsessions hs') (by simp [hs])
  unfold Apart at h ⊢
  rw [htracking]
  cases hcause : c.cause with
  | none =>
      rw [hcause] at h
      exact ⟨hnot h.1, h.2⟩
  | some cause =>
      obtain ⟨type, request⟩ := cause
      rw [hcause] at h
      cases type with
      | tracking => exact hnot h
      | session => exact h
      | geofence | niResponse => exact h.elim

/-- A pair is taken out of the dictionary. -/
lemma Invariant.erasePair (h : s.Invariant)
    (hpair : s.mSessionBiDict.mForwardMap[id]? = some session) :
    Invariant { s with mSessionBiDict := s.mSessionBiDict.erasePair id session } :=
  { h with
    bijective := h.bijective.erasePair hpair
    entity := by
      intro id' session' hpair'
      simp only [BiDict.erasePair, UintMap.getElem?_erase] at hpair' ⊢
      split at hpair'
      · cases hpair'
      · rename_i hid
        have hne : session' ≠ session := by
          rintro rfl
          have hback := (h.bijective.inverse _ _).mp hpair'
          rw [(h.bijective.inverse _ _).mp hpair] at hback
          exact hid (Option.some.inj hback).symm
        rw [if_neg hne]
        exact h.entity hpair'
    sessions := fun hs => h.sessions ((BiDict.hasSession_erasePair _ _ _ _).mp hs).2
    tracking_apart := by
      rw [Bool.eq_false_iff]
      intro hs
      have hs := ((BiDict.hasSession_erasePair _ _ _ _).mp hs).2
      rw [h.tracking_apart] at hs
      cases hs
    apart := fun i c hc => (h.apart i c hc).mono rfl fun hs =>
      ((BiDict.hasSession_erasePair _ _ _ _).mp hs).2 }

lemma Invariant.removeSession (h : s.Invariant) (session : ℕ) :
    (s.removeSession session).Invariant := by
  unfold LocationAPIClientBase.removeSession
  split
  · rename_i hs
    obtain ⟨id, hid⟩ := BiDict.hasSession_eq_true.mp hs
    rw [BiDict.rmBySession_eq hid]
    exact h.erasePair ((h.bijective.inverse id session).mpr hid)
  · exact h

lemma Invariant.onResponse (h : s.Invariant) (request : LocationAPIRequest) (error : LocationError)
    (session : ℕ) : (s.onResponse request error session).Invariant := by
  unfold LocationAPIClientBase.onResponse
  split
  · split
    · exact h.removeSession session
    · exact h
  · split
    · split
      · exact h.removeSession session
      · exact h
    · exact h

/-- Entities kept for their sessions, after a pair is added. -/
lemma Invariant.entity_set (h : s.Invariant)
    (hsession : s.mSessionBiDict.hasSession session = false) {entity : SessionEntity}
    (hentity : entity.session = session) {id' session' : ℕ}
    (hpair : (s.mSessionBiDict.set id session entity).mForwardMap[id']? = some session') :
    ∃ entity', (s.mSessionBiDict.set id session entity).mExtMap[session']? = some entity' ∧
      entity'.session = session' := by
  simp only [BiDict.set, UintMap.getElem?_insert] at hpair ⊢
  split at hpair
  · obtain rfl := Option.some.inj hpair
    exact ⟨entity, if_pos rfl, hentity⟩
  · have hne : session' ≠ session := by
      rintro rfl
      have hback := (h.bijective.inverse _ _).mp hpair
      rw [BiDict.hasSession_eq_false.mp hsession] at hback
      cases hback
    rw [if_neg hne]
    exact h.entity hpair

/-- A new session is started for an id that has none. -/
lemma Invariant.startSession (h : s.Invariant) (hid : s.mSessionBiDict.hasId id = false)
    (i : HalInterface) (kind : RequestKind) (request : LocationAPIRequest) {entity : SessionEntity}
    (hentity : entity.session = s.hal.nextSession) :
    Invariant { s with
      hal := (s.hal.start i kind (some (.session, request))).1
      mSessionBiDict := s.mSessionBiDict.set id s.hal.nextSession entity } := by
  have hnew := h.nextSession_apart
  exact { h with
    hal := h.hal.start i kind _
    bijective := h.bijective.set hid hnew entity
    entity := h.entity_set hnew hentity
    sessions := by
      intro session hs
      rcases (BiDict.hasSession_set _ _ _ _ _).mp hs with rfl | hs
      · exact ⟨h.hal.nextSession, Nat.lt_succ_self _⟩
      · exact ⟨(h.sessions hs).1, Nat.lt_succ_of_lt (h.sessions hs).2⟩
    tracking_lt := Nat.lt_succ_of_lt h.tracking_lt
    tracking_apart := by
      rw [Bool.eq_false_iff]
      intro hs
      rcases (BiDict.hasSession_set _ _ _ _ _).mp hs with heq | hs
      · exact absurd heq h.tracking_lt.ne
      · exact h.ne_tracking hs rfl
    apart := by
      intro i' c hc
      rcases Hal.mem_commands_start.mp hc with hc | ⟨-, rfl⟩
      · refine (h.apart i' c hc).mono rfl fun hs => ?_
        have hne := (h.hal.commands_lt i' c hc).2.ne
        exact ((BiDict.hasSession_set _ _ _ _ _).mp hs).resolve_left hne
      · exact h.tracking_lt.ne'
    tracksQueue := h.tracksQueue.start h.tracking_lt i kind _ }

/-- The entity of an id is replaced by one for the same session. -/
lemma Invariant.replace (h : s.Invariant) (hpair : s.mSessionBiDict.mForwardMap[id]? = some session)
    {entity : SessionEntity} (hentity : entity.session = session) :
    Invariant { s with
      mSessionBiDict := (s.mSessionBiDict.rmById id).set id session entity } := by
  have hhas : s.mSessionBiDict.hasSession session = true :=
    BiDict.hasSession_eq_true.mpr ⟨id, (h.bijective.inverse id session).mp hpair⟩
  have herase := h.erasePair hpair
  rw [BiDict.rmById_eq hpair]
  have hid : (s.mSessionBiDict.erasePair id session).hasId id = false :=
    BiDict.hasId_erasePair _ _ _
  have hnot : (s.mSessionBiDict.erasePair id session).hasSession session = false := by
    rw [Bool.eq_false_iff]
    exact fun hs => ((BiDict.hasSession_erasePair _ _ _ _).mp hs).1 rfl
  have hsame : ∀ {session'},
      ((s.mSessionBiDict.erasePair id session).set id session entity).hasSession session' = true →
        s.mSessionBiDict.hasSession session' = true := by
    intro session' hs
    rcases (BiDict.hasSession_set _ _ _ _ _).mp hs with rfl | hs
    · exact hhas
    · exact ((BiDict.hasSession_erasePair _ _ _ _).mp hs).2
  exact { h with
    bijective := herase.bijective.set hid hnot entity
    entity := herase.entity_set hnot hentity
    sessions := fun hs => h.sessions (hsame hs)
    tracking_apart := by
      rw [Bool.eq_false_iff]
      exact fun hs => h.ne_tracking (hsame hs) rfl
    apart := fun i c hc => (h.apart i c hc).mono rfl hsame }

/-- A request is pushed to the tracking queue with its command. -/
lemma Invariant.trackingCommand (h : s.Invariant) (hpos : 0 < (s.mRequestQueues .tracking).mSession)
    {kind : RequestKind} (hk : kind.isStart = false) (request : LocationAPIRequest) :
    Invariant { s.push .tracking request with
      hal := s.hal.sendBoth
        ⟨kind, (s.mRequestQueues .tracking).mSession, some (.tracking, request)⟩ } :=
  { h with
    hal := h.hal.sendBoth hpos h.tracking_lt hk
    apart := by
      intro i c hc
      rcases Hal.mem_commands_send.mp hc with hc | ⟨-, rfl⟩
      · rcases Hal.mem_commands_send.mp hc with hc | ⟨-, rfl⟩
        · exact (h.apart i c hc).mono rfl id
        · exact h.tracking_apart
      · exact h.tracking_apart
    tracksQueue := h.tracksQueue.push hk .tracking request
    unanswered := h.unanswered }

/-- A new tracking session is started, and the requests for the old one are dropped. -/
lemma Invariant.startTracking (h : s.Invariant) (i : HalInterface) (kind : RequestKind)
    (request : LocationAPIRequest) (mTracking : Bool) :
    Invariant { ({ s with
        hal := (s.hal.start i kind (some (.tracking, request))).1 }.setQueue .tracking
      ((s.mRequestQueues .tracking).reset s.hal.nextSession)).push .tracking request with
      mTracking := mTracking } := by
  have hnew := h.nextSession_apart
  exact { h with
    hal := h.hal.start i kind _
    sessions := fun hs => ⟨(h.sessions hs).1, Nat.lt_succ_of_lt (h.sessions hs).2⟩
    tracking_lt := Nat.lt_succ_self _
    tracking_apart := hnew
    apart := by
      intro i' c hc
      rcases Hal.mem_commands_start.mp hc with hc | ⟨-, rfl⟩
      · have hapart := h.apart i' c hc
        have hne : c.session ≠ s.hal.nextSession := (h.hal.commands_lt i' c hc).2.ne
        unfold Apart at hapart ⊢
        cases hcause : c.cause with
        | none =>
            rw [hcause] at hapart
            exact ⟨hapart.1, hne⟩
        | some cause =>
            obtain ⟨type, request⟩ := cause
            rw [hcause] at hapart
            cases type with
            | tracking => exact hapart
            | session => exact hne
            | geofence | niResponse => exact hapart.elim
      · exact hnew
    tracksQueue := Hal.tracksQueue_start h.hal (s.mRequestQueues .tracking) i kind .tracking request
    unanswered := h.unanswered }

/-! ### Calls -/

lemma invariant_locAPIStartTracking (h : s.Invariant) (needsGnssTrackingInfo : Bool)
    (options : LocationOptions) :
    (s.locAPIStartTracking needsGnssTrackingInfo options).1.Invariant := by
  unfold locAPIStartTracking
  split
  · exact h
  · exact h.startTracking _ _ _ true

lemma invariant_locAPIStopTracking (h : s.Invariant) : s.locAPIStopTracking.Invariant := by
  unfold locAPIStopTracking
  simp only []
  split
  · rename_i hpos
    exact { h.trackingCommand hpos rfl (s.newRequest .stopTracking) with }
  · exact h

lemma invariant_locAPIUpdateTrackingOptions (h : s.Invariant) :
    s.locAPIUpdateTrackingOptions.Invariant := by
  unfold locAPIUpdateTrackingOptions
  simp only []
  split
  · rename_i hpos
    exact h.trackingCommand hpos rfl (s.newRequest .updateTrackingOptions)
  · exact h

lemma invariant_locAPIStartSession (h : s.Invariant) (needsGnssTrackingInfo : Bool) (id : ℕ)
    (sessionMode : SessionMode) (options : LocationOptions) :
    (s.locAPIStartSession needsGnssTrackingInfo id sessionMode options).1.Invariant := by
  unfold locAPIStartSession
  split
  · exact h
  · rename_i hid
    have hid : s.mSessionBiDict.hasId id = false := by simpa using hid
    split
    · rename_i hmode
      refine (h.push _).startSession hid _ _ _ ?_
      rw [SessionEntity.session, if_pos hmode]
      rfl
    · rename_i hmode
      refine ((h.setSession s.hal.nextSession).push _).startSession hid _ _ _ ?_
      rw [SessionEntity.session, if_neg hmode]
      rfl

/-- A command about the session of an id is sent, with its request. -/
lemma Invariant.sessionCommand (h : s.Invariant) (hs : s.mSessionBiDict.hasSession session = true)
    {kind : RequestKind} (hk : kind.isStart = false) (request : LocationAPIRequest)
    (i : HalInterface) :
    Invariant { s.push .session request with
      hal := s.hal.send i ⟨kind, session, some (.session, request)⟩ } := by
  have hapart : (s.push .session request).Apart ⟨kind, session, some (.session, request)⟩ :=
    h.ne_tracking hs
  exact (h.push request).send (h.sessions hs).1 (h.sessions hs).2 hk (h.ne_tracking hs) hapart i

lemma Invariant.sessionCommandBoth (h : s.Invariant)
    (hs : s.mSessionBiDict.hasSession session = true) {kind : RequestKind}
    (hk : kind.isStart = false) (request : LocationAPIRequest) :
    Invariant { s.push .session request with
      hal := s.hal.sendBoth ⟨kind, session, some (.session, request)⟩ } := by
  have hapart : (s.push .session request).Apart ⟨kind, session, some (.session, request)⟩ :=
    h.ne_tracking hs
  exact (h.push request).sendBoth (h.sessions hs).1 (h.sessions hs).2 hk (h.ne_tracking hs) hapart

lemma invariant_locAPIStopSession (h : s.Invariant) (id : ℕ) :
    (s.locAPIStopSession id).1.Invariant := by
  unfold locAPIStopSession
  split
  · rename_i hid
    obtain ⟨-, hhas⟩ := h.getExtById hid
    simp only []
    split
    · rename_i hmode
      rw [SessionEntity.session, if_pos hmode] at hhas
      exact h.sessionCommandBoth hhas rfl _
    · rename_i hmode
      rw [SessionEntity.session, if_neg hmode] at hhas
      exact h.sessionCommand hhas rfl _ .flp
  · exact h

lemma invariant_locAPIGetBatchedLocations (h : s.Invariant) (id : ℕ) :
    (s.locAPIGetBatchedLocations id).1.Invariant := by
  unfold locAPIGetBatchedLocations
  split
  · rename_i hid
    obtain ⟨-, hhas⟩ := h.getExtById hid
    simp only []
    split
    · rename_i hmode
      rw [SessionEntity.session, if_neg hmode] at hhas
      exact h.sessionCommand hhas rfl _ .flp
    · exact h
  · exact h

/-- The stop of a session that is being replaced is sent, and the session forgotten. -/
lemma Invariant.forget (h : s.Invariant) (hpair : s.mSessionBiDict.mForwardMap[id]? = some session)
    (hs : s.mSessionBiDict.hasSession session = true) (kind : RequestKind)
    (hk : kind.isStart = false) :
    (∀ i, Invariant { s with
      hal := s.hal.send i ⟨kind, session, none⟩
      mSessionBiDict := s.mSessionBiDict.rmById id }) ∧
    Invariant { s with
      hal := s.hal.sendBoth ⟨kind, session, none⟩
      mSessionBiDict := s.mSessionBiDict.rmById id } := by
  have hgone : (s.mSessionBiDict.erasePair id session).hasSession session = false := by
    rw [Bool.eq_false_iff]
    exact fun hs => ((BiDict.hasSession_erasePair _ _ _ _).mp hs).1 rfl
  have hne := h.ne_tracking hs
  obtain ⟨hpos, hlt⟩ := h.sessions hs
  rw [BiDict.rmById_eq hpair]
  have herase := h.erasePair hpair
  exact ⟨herase.send hpos hlt hk hne ⟨hgone, hne⟩, herase.sendBoth hpos hlt hk hne ⟨hgone, hne⟩⟩

lemma hasId_rmById (h : s.Invariant) (hid : s.mSessionBiDict.hasId id = true) :
    (s.mSessionBiDict.rmById id).hasId id = false := by
  rw [BiDict.rmById_eq (h.getExtById hid).1]
  exact BiDict.hasId_erasePair _ _ _

lemma invariant_locAPIUpdateSessionOptions (h : s.Invariant) (needsGnssTrackingInfo : Bool) (id : ℕ)
    (sessionMode : SessionMode) (options : LocationOptions) :
    (s.locAPIUpdateSessionOptions needsGnssTrackingInfo id sessionMode options).1.Invariant := by
  unfold locAPIUpdateSessionOptions
  split
  · rename_i hid
    obtain ⟨hpair, hhas⟩ := h.getExtById hid
    have hgone := hasId_rmById h hid
    simp only []
    generalize s.mSessionBiDict.getExtById id = entity at hpair hhas ⊢
    split
    · rename_i hmode
      split
      · rename_i hentity
        rw [SessionEntity.session, if_pos hentity] at hpair hhas
        refine (h.sessionCommandBoth hhas rfl _).replace hpair ?_
        rw [SessionEntity.session, if_pos hmode]
      · rename_i hentity
        rw [SessionEntity.session, if_neg hentity] at hpair hhas
        have hstopped := (((h.push (s.newRequest .updateTrackingOptions)).setSession 0).forget hpair
          hhas .stopBatching rfl).1 .flp
        refine hstopped.startSession hgone _ _ _ ?_
        rw [SessionEntity.session, if_pos hmode]
        rfl
    · rename_i hmode
      split
      · rename_i hentity
        rw [SessionEntity.session, if_pos hentity] at hpair hhas
        have hstopped := (((h.push (s.newRequest .updateBatchingOptions)).setSession
          s.hal.nextSession).forget hpair hhas .stopTracking rfl).2
        refine hstopped.startSession hgone _ _ _ ?_
        rw [SessionEntity.session, if_neg hmode]
        rfl
      · rename_i hentity
        rw [SessionEntity.session, if_neg hentity] at hpair hhas
        refine (h.sessionCommand hhas rfl _ .flp).replace hpair ?_
        rw [SessionEntity.session, if_neg hmode]
  · exact h

/-! ### Responses -/

/-- A response about the tracking session is for the request at the front of its queue. -/
lemma getRequestBySession_tracking {request : LocationAPIRequest}
    (hs : (s.mRequestQueues .tracking).mSession = session)
    (hfront : (s.mRequestQueues .tracking).mQueue.head? = some request) :
    s.getRequestBySession session =
      (s.setQueue .tracking (s.mRequestQueues .tracking).pop.1, some request) := by
  have hfind : (RequestType.all.find? fun type => type ≠ .geofence && type ≠ .session &&
      (s.mRequestQueues type).mSession = session) = some .tracking :=
    List.find?_cons_of_pos (by simp [hs])
  have hpop : (s.mRequestQueues .tracking).pop.2 = some request := hfront
  unfold getRequestBySession
  simp only [hfind, popQueue, hpop]

/-- A response about any other session is for the request at the front of the queue of the session
calls, when the session is that of an id. -/
lemma getRequestBySession_other (htracking : (s.mRequestQueues .tracking).mSession ≠ session)
    (hni : (s.mRequestQueues .niResponse).mSession ≠ session) :
    s.getRequestBySession session =
      if s.mSessionBiDict.hasSession session then s.popQueue .session else (s, none) := by
  have hfind : (RequestType.all.find? fun type => type ≠ .geofence && type ≠ .session &&
      (s.mRequestQueues type).mSession = session) = none := by
    simp [RequestType.all, htracking, hni]
  unfold getRequestBySession
  simp only [hfind]

lemma onResponseCb_some {s' : LocationAPIClientBase} {request : LocationAPIRequest}
    (h : s.getRequestBySession session = (s', some request)) (error : LocationError) :
    s.onResponseCb error session = (s'.onResponse request error session, some request) := by
  unfold onResponseCb
  simp only [h]

lemma onResponseCb_none {s' : LocationAPIClientBase}
    (h : s.getRequestBySession session = (s', none)) (error : LocationError) :
    s.onResponseCb error session = (s', none) := by
  unfold onResponseCb
  simp only [h]

section Answer

variable {i : HalInterface} {c : HalCommand} {commands : List HalCommand}
  {request : LocationAPIRequest}

/-- A command is ignored. -/
lemma Invariant.ignored (h : s.Invariant) (hq : s.hal.commands i = c :: commands)
    (hnot : ¬ s.hal.Answers i c) :
    Invariant { s with hal := s.hal.take i commands (s.hal.live i) } :=
  { h with
    hal := h.hal.take hq fun _ hl => .inl hl
    apart := fun i' c' hc' => h.apart i' c' (Hal.mem_commands_take hq hc')
    tracksQueue := h.tracksQueue.take_ignored h.hal hq hnot }

/-- The state in which the response to a command is handled. -/
def taken (s : LocationAPIClientBase) (i : HalInterface) (c : HalCommand)
    (commands : List HalCommand) (error : LocationError) : LocationAPIClientBase :=
  { s with
    hal := s.hal.take i commands (Hal.answered (s.hal.live i) c error)
    unanswered := markAnswered s.unanswered c.cause }

/-- The response to a command on the tracking session takes the request at the front of its
queue. -/
lemma Invariant.taken_tracking (h : s.Invariant) (hq : s.hal.commands i = c :: commands)
    (hanswers : s.hal.Answers i c) (hcause : c.cause = some (.tracking, request))
    (hc : (s.mRequestQueues .tracking).mSession = c.session) (error : LocationError) :
    (s.mRequestQueues .tracking).mQueue.head? = some request ∧
      ((s.taken i c commands error).setQueue .tracking
        (s.mRequestQueues .tracking).pop.1).Invariant := by
  have hlive := Hal.liveAfter_answered s.hal i c error
  obtain ⟨hfront, htracks⟩ := h.tracksQueue.take_answered h.hal hq hanswers hc.symm hlive
  rw [hcause] at hfront
  refine ⟨hfront.symm, { h with
    hal := h.hal.take hq hlive
    apart := fun i' c' hc' => (h.apart i' c' (Hal.mem_commands_take hq hc')).mono rfl id
    tracksQueue := htracks
    unanswered := ?_ }⟩
  simp only [taken, hcause, markAnswered]
  exact h.unanswered

/-- A response that comes in time takes the request of its session call. -/
lemma Invariant.taken_session (h : s.Invariant) (hq : s.hal.commands i = c :: commands)
    (hcause : c.cause = some (.session, request)) (hfront : s.unanswered.head? = some request)
    (error : LocationError) :
    ((s.taken i c commands error).setQueue .session
      (s.mRequestQueues .session).pop.1).Invariant := by
  have hlive := Hal.liveAfter_answered s.hal i c error
  have hne : c.session ≠ (s.mRequestQueues .tracking).mSession := by
    have hapart := h.apart i c (by rw [hq]; exact List.mem_cons_self)
    unfold Apart at hapart
    rw [hcause] at hapart
    exact hapart
  refine { h with
    hal := h.hal.take hq hlive
    apart := fun i' c' hc' => (h.apart i' c' (Hal.mem_commands_take hq hc')).mono rfl id
    tracksQueue := h.tracksQueue.take_other hq hlive hne
    unanswered := ?_ }
  obtain ⟨rest, hrest⟩ := List.head?_eq_some_iff.mp hfront
  have hqueue : (s.mRequestQueues .session).mQueue = request :: rest := h.unanswered.trans hrest
  simp only [taken, hcause, markAnswered, hrest, List.erase_cons_head]
  simp [setQueue, RequestQueue.pop, hqueue]

/-- The response to the stop of a session that is replaced takes no request. -/
lemma Invariant.taken_none (h : s.Invariant) (hq : s.hal.commands i = c :: commands)
    (hcause : c.cause = none) (error : LocationError) :
    (s.taken i c commands error).Invariant := by
  have hlive := Hal.liveAfter_answered s.hal i c error
  have hapart := h.apart i c (by rw [hq]; exact List.mem_cons_self)
  unfold Apart at hapart
  rw [hcause] at hapart
  refine { h with
    hal := h.hal.take hq hlive
    apart := fun i' c' hc' => (h.apart i' c' (Hal.mem_commands_take hq hc')).mono rfl id
    tracksQueue := h.tracksQueue.take_other hq hlive hapart.2
    unanswered := ?_ }
  simp only [taken, hcause, markAnswered]
  exact h.unanswered

/-- No command is about the session of the queue of NI responses, which is zero. -/
lemma Invariant.niResponse_ne (h : s.Invariant) (hmem : c ∈ s.hal.commands i) :
    (s.mRequestQueues .niResponse).mSession ≠ c.session := by
  rw [h.niResponse]
  exact (h.hal.commands_lt i c hmem).1.ne

/-- A response about a session that is neither the tracking session nor that of an id is for
nobody. -/
lemma Invariant.response_none (h : s.Invariant) (hmem : c ∈ s.hal.commands i)
    (htracking : (s.mRequestQueues .tracking).mSession ≠ c.session)
    (hhas : s.mSessionBiDict.hasSession c.session = false) (error : LocationError) :
    (s.taken i c commands error).onResponseCb error c.session =
      (s.taken i c commands error, none) := by
  refine onResponseCb_none ?_ error
  have hget := getRequestBySession_other (s := s.taken i c commands error) htracking
    (h.niResponse_ne hmem)
  rw [hget]
  exact if_neg (Bool.eq_false_iff.mp hhas)

/-- A response about the session of an id is for the request at the front of the queue of the
session calls. -/
lemma Invariant.response_session (h : s.Invariant) (hmem : c ∈ s.hal.commands i)
    (hhas : s.mSessionBiDict.hasSession c.session = true) (commands : List HalCommand)
    (error : LocationError) :
    ((s.taken i c commands error).onResponseCb error c.session).2 = s.unanswered.head? ∧
    (∀ request, s.unanswered.head? = some request →
      (s.taken i c commands error).onResponseCb error c.session =
        (((s.taken i c commands error).setQueue .session
          (s.mRequestQueues .session).pop.1).onResponse request error c.session, some request)) := by
  have hget : (s.taken i c commands error).getRequestBySession c.session =
      ((s.taken i c commands error).setQueue .session (s.mRequestQueues .session).pop.1,
        s.unanswered.head?) := by
    have hother := getRequestBySession_other (s := s.taken i c commands error)
      (h.ne_tracking hhas).symm (h.niResponse_ne hmem)
    rw [hother, ← h.unanswered]
    exact if_pos hhas
  constructor
  · cases hfront : s.unanswered.head? with
    | none =>
        rw [hfront] at hget
        rw [onResponseCb_none hget]
    | some request =>
        rw [hfront] at hget
        rw [onResponseCb_some hget]
  · intro request hfront
    rw [hfront] at hget
    exact onResponseCb_some hget error

/-- **The response to a command.** It is dispatched to the request that waits for it exactly when it
comes in time, and the invariant is then kept. -/
lemma Invariant.response (h : s.Invariant) (hq : s.hal.commands i = c :: commands)
    (hanswers : s.hal.Answers i c) (error : LocationError) :
    (((s.taken i c commands error).onResponseCb error c.session).2 = c.cause.map Prod.snd ↔
      s.CommandInTime c) ∧
    (s.CommandInTime c →
      ((s.taken i c commands error).onResponseCb error c.session).1.Invariant) := by
  have hmem : c ∈ s.hal.commands i := by
    rw [hq]
    exact List.mem_cons_self
  have hapart := h.apart i c hmem
  unfold Apart at hapart
  unfold CommandInTime
  cases hcause : c.cause with
  | none =>
      rw [hcause] at hapart
      rw [h.response_none hmem hapart.2.symm hapart.1 error]
      exact ⟨⟨fun _ => trivial, fun _ => rfl⟩, fun _ => h.taken_none hq hcause error⟩
  | some cause =>
      obtain ⟨type, request⟩ := cause
      rw [hcause] at hapart
      cases type with
      | geofence | niResponse => exact hapart.elim
      | tracking =>
          by_cases hc : (s.mRequestQueues .tracking).mSession = c.session
          · obtain ⟨hfront, hinv⟩ := h.taken_tracking hq hanswers hcause hc error
            have hget : (s.taken i c commands error).getRequestBySession c.session = _ :=
              getRequestBySession_tracking hc hfront
            rw [onResponseCb_some hget]
            exact ⟨⟨fun _ => hc, fun _ => rfl⟩, fun _ => hinv.onResponse request error c.session⟩
          · -- another tracking session has been started
            rw [h.response_none hmem hc hapart error]
            have hnot : (none : Option LocationAPIRequest) ≠ some request := nofun
            exact ⟨iff_of_false hnot hc, fun hin => absurd hin hc⟩
      | session =>
          by_cases hhas : s.mSessionBiDict.hasSession c.session = true
          · obtain ⟨hdispatched, hfound⟩ := h.response_session hmem hhas commands error
            rw [hdispatched]
            refine ⟨⟨fun hfront => ⟨hhas, hfront⟩, And.right⟩, fun ⟨_, hfront⟩ => ?_⟩
            rw [hfound request hfront]
            exact (h.taken_session hq hcause hfront error).onResponse request error c.session
          · -- the session has been removed
            have hne : (s.mRequestQueues .tracking).mSession ≠ c.session := Ne.symm hapart
            rw [h.response_none hmem hne (Bool.eq_false_iff.mpr hhas) error]
            have hnot : (none : Option LocationAPIRequest) ≠ some request := nofun
            exact ⟨iff_of_false hnot fun hin => hhas hin.1, fun hin => absurd hin.1 hhas⟩

lemma inTime_nil (hq : s.hal.commands i = []) (error : LocationError) :
    s.InTime (.answer i error) := by
  intro c hc
  rw [hq] at hc
  cases hc

lemma inTime_cons (hq : s.hal.commands i = c :: commands) (error : LocationError) :
    s.InTime (.answer i error) ↔ (s.hal.Answers i c → s.CommandInTime c) := by
  simp only [InTime, hq, List.head?_cons, Option.mem_some_iff, forall_eq']

/-- One answer of the HAL. -/
lemma Invariant.answer (h : s.Invariant) (i : HalInterface) (error : LocationError) :
    ((∀ o ∈ (s.answer i error).2, o.Correlated) ↔ s.InTime (.answer i error)) ∧
    (s.InTime (.answer i error) → (s.answer i error).1.Invariant) := by
  cases hq : s.hal.commands i with
  | nil =>
      have hidle : s.answer i error = (s, []) := by
        unfold LocationAPIClientBase.answer
        rw [hq]
      rw [hidle]
      exact ⟨⟨fun _ => inTime_nil hq error, fun _ _ ho => absurd ho List.not_mem_nil⟩, fun _ => h⟩
  | cons c commands =>
      rw [inTime_cons hq error]
      unfold LocationAPIClientBase.answer
      rw [hq]
      simp only []
      by_cases hanswers : s.hal.Answers i c
      · rw [if_pos hanswers]
        obtain ⟨hiff, hinv⟩ := h.response hq hanswers error
        constructor
        · rw [List.forall_mem_singleton]
          exact hiff.trans ⟨fun hin _ => hin, fun hin => hin hanswers⟩
        · exact fun hin => hinv (hin hanswers)
      · rw [if_neg hanswers]
        exact ⟨⟨fun _ hyes => absurd hyes hanswers, fun _ _ ho => absurd ho List.not_mem_nil⟩,
          fun _ => h.ignored hq hanswers⟩

end Answer

/-! ### Runs -/

/-- One event from a state of the invariant. -/
lemma Invariant.step (h : s.Invariant) (needsGnssTrackingInfo : Bool) (e : Event) :
    ((∀ o ∈ (s.step needsGnssTrackingInfo e).2, o.Correlated) ↔ s.InTime e) ∧
    (s.InTime e → (s.step needsGnssTrackingInfo e).1.Invariant) := by
  -- a call returns, and nothing is dispatched
  have hcall : ∀ {result : LocationAPIClientBase × LocationError}, result.1.Invariant →
      ((∀ o ∈ (returning result).2, o.Correlated) ↔ True) ∧
        (True → (returning result).1.Invariant) := fun hresult =>
    ⟨⟨fun _ => trivial, fun _ o ho => by rw [List.mem_singleton.mp ho]; trivial⟩, fun _ => hresult⟩
  have hvoid : ∀ {s' : LocationAPIClientBase}, s'.Invariant →
      ((∀ o ∈ ([] : List Output), o.Correlated) ↔ True) ∧ (True → s'.Invariant) := fun hs' =>
    ⟨⟨fun _ => trivial, fun _ _ ho => absurd ho List.not_mem_nil⟩, fun _ => hs'⟩
  cases e with
  | locAPIStartTracking options =>
      exact hcall (invariant_locAPIStartTracking h needsGnssTrackingInfo options)
  | locAPIStopTracking => exact hvoid (invariant_locAPIStopTracking h)
  | locAPIUpdateTrackingOptions => exact hvoid (invariant_locAPIUpdateTrackingOptions h)
  | locAPIStartSession id sessionMode options =>
      exact hcall (invariant_locAPIStartSession h needsGnssTrackingInfo id sessionMode options)
  | locAPIStopSession id => exact hcall (invariant_locAPIStopSession h id)
  | locAPIUpdateSessionOptions id sessionMode options =>
      exact hcall
        (invariant_locAPIUpdateSessionOptions h needsGnssTrackingInfo id sessionMode options)
  | locAPIGetBatchedLocations id => exact hcall (invariant_locAPIGetBatchedLocations h id)
  | answer i error => exact h.answer i error

end Invariant

/-! ## The responses of a run -/

/-- **Response correlation.** In a run of calls and answers, every response is dispatched to the
request whose command caused it if and only if every answer of the HAL comes in time. -/
theorem responses_correlated_iff (needsGnssTrackingInfo : Bool) (events : List Event) :
    (∀ o ∈ (machine needsGnssTrackingInfo).outs init events, o.Correlated) ↔
      (machine needsGnssTrackingInfo).Steps InTime init events :=
  Machine.outs_iff_steps (fun _ e h => (h.step needsGnssTrackingInfo e).1)
    (fun _ e h => (h.step needsGnssTrackingInfo e).2) invariant_init

/-- A session is started at the GNSS interface and another one at the FLP interface, which answers
first: its response is dispatched to the request of the first session. -/
theorem response_of_other_interface :
    ¬ ∀ o ∈ (machine true).outs init
        [.locAPIStartSession 1 .onFix {}, .locAPIStartSession 2 .onFull {}, .answer .flp .success],
      o.Correlated := by
  decide

end LocationAPIClientBase
end LocHal
