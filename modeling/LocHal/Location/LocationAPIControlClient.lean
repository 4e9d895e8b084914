import LocHal.Lib.Machine
import LocHal.Location.LocationTypes

/-!
# Control commands of a client (`gps/location/LocationAPIClientBase.cpp`)

A `LocationAPIControlClient` enables and disables GNSS and deletes aiding data by commands to the
HAL, which answers each of them with the session of the command.  The requests that wait for the
answers stand in a queue for each kind of command, which has one session: that of the last enable,
or of the last deletion.

`calledBackOnce_iff`: when all commands have been answered, each of them has had its callback once,
exactly when no enable was issued while an enable or a disable was unanswered, and no deletion while
another one was.  A new session resets the queue, with all that waits in it.
-/

namespace LocHal

/-- `CTRL_REQUEST_TYPE`. -/
inductive CtrlRequestType where
  | deleteAidingData
  | control
  | config
deriving DecidableEq, Repr

/-- The types in the order of their values. -/
def CtrlRequestType.all : List CtrlRequestType := [.deleteAidingData, .control, .config]

/-- The requests of control commands, named after their classes. -/
inductive CtrlRequestKind where
  | gnssDeleteAidingData
  | enable
  | disable
deriving DecidableEq, Repr

/-- The queue that a request waits in. -/
def CtrlRequestKind.type : CtrlRequestKind → CtrlRequestType
  | .gnssDeleteAidingData => .deleteAidingData
  | .enable => .control
  | .disable => .control

/-- A request: its class, which is also what its callback is for, and the number that it is in the
order of their making. -/
structure CtrlRequest where
  kind : CtrlRequestKind
  number : ℕ
deriving DecidableEq, Repr

/-- `RequestQueue`, of control requests. -/
structure CtrlRequestQueue where
  mSession : ℕ
  mQueue : List CtrlRequest
deriving DecidableEq, Repr

namespace CtrlRequestQueue

/-- `reset`. -/
def reset (_ : CtrlRequestQueue) (session : ℕ) : CtrlRequestQueue := ⟨session, []⟩

/-- `push`. -/
def push (q : CtrlRequestQueue) (request : CtrlRequest) : CtrlRequestQueue :=
  { q with mQueue := q.mQueue ++ [request] }

/-- `pop`: the queue left and the request, `none` for `nullptr`. -/
def pop (q : CtrlRequestQueue) : CtrlRequestQueue × Option CtrlRequest :=
  ({ q with mQueue := q.mQueue.tail }, q.mQueue.head?)

end CtrlRequestQueue

/-- A command that the HAL has been sent: the request made for it, and its session. -/
structure CtrlCommand where
  request : CtrlRequest
  session : ℕ
deriving DecidableEq, Repr

/-- `LocationAPIControlClient`, with the number of the next request, the commands that the HAL has
not answered, oldest first, and the sessions that it has given out; no code reads these three. -/
structure LocationAPIControlClient where
  mRequestQueues : CtrlRequestType → CtrlRequestQueue
  mEnabled : Bool
  nextRequest : ℕ
  unanswered : List CtrlCommand
  given : List ℕ

namespace LocationAPIControlClient

/-- The constructor. -/
def init : LocationAPIControlClient := ⟨fun _ => ⟨0, []⟩, false, 0, [], []⟩

/-- What is observed: the result of a call, a command to the HAL, and the callback of a request. -/
inductive Output where
  | returned (error : LocationError)
  | sent (command : CtrlCommand)
  | calledBack (request : CtrlRequest) (error : LocationError)
deriving DecidableEq, Repr

/-- One of the queues is changed. -/
def setQueue (s : LocationAPIControlClient) (type : CtrlRequestType) (q : CtrlRequestQueue) :
    LocationAPIControlClient :=
  { s with mRequestQueues := fun type' => if type' = type then q else s.mRequestQueues type' }

/-- The HAL is sent a command, and the request made for it is pushed. -/
def send (s : LocationAPIControlClient) (kind : CtrlRequestKind) (session : ℕ) :
    LocationAPIControlClient × List Output :=
  let command : CtrlCommand := ⟨⟨kind, s.nextRequest⟩, session⟩
  ({ s.setQueue kind.type ((s.mRequestQueues kind.type).push command.request) with
      nextRequest := s.nextRequest + 1
      unanswered := s.unanswered ++ [command] }, [.sent command])

/-- The HAL gives out a session, for which the queue is reset. -/
def startSession (s : LocationAPIControlClient) (type : CtrlRequestType) (session : ℕ) :
    LocationAPIControlClient :=
  { s.setQueue type ((s.mRequestQueues type).reset session) with given := s.given ++ [session] }

/-- `locAPIGnssDeleteAidingData`, where the HAL gives out `session`. -/
def locAPIGnssDeleteAidingData (s : LocationAPIControlClient) (session : ℕ) :
    LocationAPIControlClient × List Output :=
  let sent := (s.startSession .deleteAidingData session).send .gnssDeleteAidingData session
  (sent.1, sent.2 ++ [.returned .success])

/-- `locAPIEnable`, where the HAL, if it is asked, gives out `session`. -/
def locAPIEnable (s : LocationAPIControlClient) (session : ℕ) :
    LocationAPIControlClient × List Output :=
  if s.mEnabled then (s, [.returned .success])
  else
    let sent := (s.startSession .control session).send .enable session
    ({ sent.1 with mEnabled := true }, sent.2 ++ [.returned .success])

/-- `locAPIDisable`. -/
def locAPIDisable (s : LocationAPIControlClient) : LocationAPIControlClient × List Output :=
  let session := (s.mRequestQueues .control).mSession
  if s.mEnabled ∧ session > 0 then
    let sent := s.send .disable session
    ({ sent.1 with mEnabled := false }, sent.2)
  else (s, [])

/-- `getRequestBySession`. -/
def getRequestBySession (s : LocationAPIControlClient) (session : ℕ) :
    LocationAPIControlClient × Option CtrlRequest :=
  match CtrlRequestType.all.find? fun type =>
      type ≠ .config && (s.mRequestQueues type).mSession = session with
  | some type =>
      (s.setQueue type (s.mRequestQueues type).pop.1, (s.mRequestQueues type).pop.2)
  | none => (s, none)

/-- `onCtrlResponseCb`. -/
def onCtrlResponseCb (s : LocationAPIControlClient) (error : LocationError) (id : ℕ) :
    LocationAPIControlClient × List Output :=
  let found := s.getRequestBySession id
  (found.1, match found.2 with
    | some request => [.calledBack request error]
    | none => [])

/-- The HAL answers the oldest of the commands with this session, if there is one. -/
def answer (s : LocationAPIControlClient) (session : ℕ) (error : LocationError) :
    LocationAPIControlClient × List Output :=
  if s.unanswered.any fun c => c.session = session then
    { s with unanswered := s.unanswered.eraseP fun c => c.session = session }.onCtrlResponseCb
      error session
  else (s, [])

/-- A call of the client, or an answer of the HAL. -/
inductive Event where
  | locAPIGnssDeleteAidingData (session : ℕ)
  | locAPIEnable (session : ℕ)
  | locAPIDisable
  | answer (session : ℕ) (error : LocationError)
deriving DecidableEq, Repr

/-- One event. -/
def step (s : LocationAPIControlClient) : Event → LocationAPIControlClient × List Output
  | .locAPIGnssDeleteAidingData session => s.locAPIGnssDeleteAidingData session
  | .locAPIEnable session => s.locAPIEnable session
  | .locAPIDisable => s.locAPIDisable
  | .answer session error => s.answer session error

/-- The client and the HAL as a machine. -/
def machine : Machine LocationAPIControlClient Event Output := ⟨step⟩

/-- The HAL gives out sessions that are not zero, and each of them once. -/
def FreshSession (s : LocationAPIControlClient) : Event → Prop
  | .locAPIGnssDeleteAidingData session => session ≠ 0 ∧ session ∉ s.given
  | .locAPIEnable session => s.mEnabled = false → session ≠ 0 ∧ session ∉ s.given
  | _ => True

instance (s : LocationAPIControlClient) : ∀ e, Decidable (s.FreshSession e)
  | .locAPIGnssDeleteAidingData _ => inferInstanceAs (Decidable (_ ∧ _))
  | .locAPIEnable _ => inferInstanceAs (Decidable (_ → _))
  | .locAPIDisable | .answer _ _ => isTrue trivial

/-- All commands whose requests wait in this queue have been answered. -/
def Answered (s : LocationAPIControlClient) (type : CtrlRequestType) : Prop :=
  ∀ c ∈ s.unanswered, c.request.kind.type ≠ type

instance (s : LocationAPIControlClient) (type : CtrlRequestType) : Decidable (s.Answered type) :=
  inferInstanceAs (Decidable (∀ c ∈ s.unanswered, _))

/-- A session is started when the commands on the one before have all been answered. -/
def WaitsForAnswers (s : LocationAPIControlClient) : Event → Prop
  | .locAPIGnssDeleteAidingData _ => s.Answered .deleteAidingData
  | .locAPIEnable _ => s.mEnabled = false → s.Answered .control
  | _ => True

instance (s : LocationAPIControlClient) : ∀ e, Decidable (s.WaitsForAnswers e)
  | .locAPIGnssDeleteAidingData _ => inferInstanceAs (Decidable (s.Answered _))
  | .locAPIEnable _ => inferInstanceAs (Decidable (_ → _))
  | .locAPIDisable | .answer _ _ => isTrue trivial

/-- The request of a command that is sent. -/
def Output.sentRequest : Output → Option CtrlRequest
  | .sent command => some command.request
  | _ => none

/-- The request that is called back. -/
def Output.calledRequest : Output → Option CtrlRequest
  | .calledBack request _ => some request
  | _ => none

/-! ## Requests in step with commands -/

/-- What holds between events while sessions wait for the answers on the one before: the queues hold
the requests of the commands that have not been answered, which have the session of their queue. -/
structure Sound (s : LocationAPIControlClient) : Prop where
  queues : ∀ type, (s.unanswered.filter fun c => c.request.kind.type = type).map
    CtrlCommand.request = (s.mRequestQueues type).mQueue
  sessions : ∀ c ∈ s.unanswered, c.session ≠ 0 ∧
    c.session = (s.mRequestQueues c.request.kind.type).mSession
  distinct : ∀ type type', (s.mRequestQueues type).mSession = (s.mRequestQueues type').mSession →
    (s.mRequestQueues type).mSession ≠ 0 → type = type'
  given : ∀ type, (s.mRequestQueues type).mSession ≠ 0 →
    (s.mRequestQueues type).mSession ∈ s.given
  numbers : ∀ c ∈ s.unanswered, c.request.number < s.nextRequest

section Sound

variable {s : LocationAPIControlClient}

lemma mSession_setQueue_pop (s : LocationAPIControlClient) (type type' : CtrlRequestType) :
    ((s.setQueue type (s.mRequestQueues type).pop.1).mRequestQueues type').mSession =
      (s.mRequestQueues type').mSession := by
  simp only [setQueue]
  split
  · rename_i ht
    rw [ht]
    rfl
  · rfl

lemma sound_init : init.Sound where
  queues type := rfl
  sessions c hc := by cases hc
  distinct type type' _ hne := absurd rfl hne
  given type hne := absurd rfl hne
  numbers c hc := by cases hc

/-- A command is sent on the session that its queue has. -/
lemma Sound.send (h : s.Sound) (kind : CtrlRequestKind) {session : ℕ} (hne : session ≠ 0)
    (hsession : (s.mRequestQueues kind.type).mSession = session) :
    (s.send kind session).1.Sound := by
  have hmSession : ∀ type, ((s.send kind session).1.mRequestQueues type).mSession =
      (s.mRequestQueues type).mSession := by
    intro type
    simp only [LocationAPIControlClient.send, setQueue]
    split
    · rename_i ht
      rw [ht]
      rfl
    · rfl
  refine ⟨fun type => ?_, fun c hc => ?_, fun type type' => ?_, fun type => ?_, fun c hc => ?_⟩
  · simp only [LocationAPIControlClient.send, setQueue, List.filter_append, List.map_append,
      h.queues type]
    by_cases ht : type = kind.type
    · simp [ht, CtrlRequestQueue.push]
    · simp [ht, Ne.symm ht]
  · rw [hmSession]
    rcases List.mem_append.mp hc with hc | hc
    · exact h.sessions c hc
    · rw [List.mem_singleton.mp hc]
      exact ⟨hne, hsession.symm⟩
  · rw [hmSession, hmSession]
    exact h.distinct type type'
  · rw [hmSession]
    exact h.given type
  · rcases List.mem_append.mp hc with hc | hc
    · exact Nat.lt_succ_of_lt (h.numbers c hc)
    · rw [List.mem_singleton.mp hc]
      exact Nat.lt_succ_self _

/-- A session is started once all that waited for the one before has been answered. -/
lemma Sound.startSession (h : s.Sound) {type : CtrlRequestType} {session : ℕ}
    (hfresh : session ≠ 0 ∧ session ∉ s.given) (hanswered : s.Answered type) :
    (s.startSession type session).Sound := by
  have hself : (s.startSession type session).mRequestQueues type = ⟨session, []⟩ := if_pos rfl
  have hother : ∀ type', type' ≠ type →
      (s.startSession type session).mRequestQueues type' = s.mRequestQueues type' :=
    fun type' ht => if_neg ht
  have hnew : ∀ type', (s.mRequestQueues type').mSession ≠ session := by
    intro type' heq
    exact hfresh.2 (heq ▸ h.given type' (heq ▸ hfresh.1))
  refine ⟨fun type' => ?_, fun c hc => ?_, fun type1 type2 heq hne => ?_, fun type' hne => ?_,
    h.numbers⟩
  · by_cases ht : type' = type
    · subst ht
      rw [hself]
      have hnone : (s.unanswered.filter fun c => c.request.kind.type = type') = [] :=
        List.filter_eq_nil_iff.mpr fun c hc => by simpa using hanswered c hc
      exact congrArg (List.map CtrlCommand.request) hnone
    · rw [hother type' ht]
      exact h.queues type'
  · rw [hother _ (hanswered c hc)]
    exact h.sessions c hc
  · by_cases h1 : type1 = type
    · by_cases h2 : type2 = type
      · rw [h1, h2]
      · rw [h1, hself, hother type2 h2] at heq
        exact absurd heq.symm (hnew type2)
    · by_cases h2 : type2 = type
      · rw [h2, hself, hother type1 h1] at heq
        exact absurd heq (hnew type1)
      · rw [hother type1 h1, hother type2 h2] at heq
        rw [hother type1 h1] at hne
        exact h.distinct type1 type2 heq hne
  · by_cases ht : type' = type
    · rw [ht, hself]
      exact List.mem_append_right _ (List.mem_singleton_self _)
    · rw [hother type' ht] at hne ⊢
      exact List.mem_append_left _ (h.given type' hne)

/-- The queue of a command that has not been answered is found by its session. -/
lemma Sound.find_session (h : s.Sound) {c : CtrlCommand} (hc : c ∈ s.unanswered) :
    (CtrlRequestType.all.find? fun type =>
      type ≠ .config && (s.mRequestQueues type).mSession = c.session) =
        some c.request.kind.type := by
  obtain ⟨hne, hsession⟩ := h.sessions c hc
  have hiff : ∀ type, (s.mRequestQueues type).mSession = c.session ↔
      type = c.request.kind.type := by
    intro type
    constructor
    · intro heq
      exact h.distinct type _ (heq.trans hsession) (heq ▸ hne)
    · rintro rfl
      exact hsession.symm
  simp only [hiff]
  cases c.request.kind with
  | gnssDeleteAidingData | enable | disable => rfl

/-- **An answer** reaches the request of its own command. -/
lemma Sound.answer (h : s.Sound) {pre post : List CtrlCommand} {c : CtrlCommand}
    (hsplit : s.unanswered = pre ++ c :: post) (hfirst : ∀ c' ∈ pre, c'.session ≠ c.session)
    (error : LocationError) :
    (s.answer c.session error).2 = [.calledBack c.request error] ∧
      (s.answer c.session error).1.unanswered = pre ++ post ∧
      (s.answer c.session error).1.Sound := by
  have hc : c ∈ s.unanswered := by
    rw [hsplit]
    exact List.mem_append_right _ List.mem_cons_self
  have hany : (s.unanswered.any fun c' => c'.session = c.session) = true :=
    List.any_eq_true.mpr ⟨c, hc, by simp⟩
  have herase : (s.unanswered.eraseP fun c' => c'.session = c.session) = pre ++ post := by
    rw [hsplit, List.eraseP_append_right _ (by simpa using hfirst),
      List.eraseP_cons_of_pos (by simp)]
  -- the commands before it are on other queues, so its request is at the front of its own
  have hpre : ∀ c' ∈ pre, c'.request.kind.type ≠ c.request.kind.type := by
    intro c' hc' ht
    have hc'' : c' ∈ s.unanswered := by
      rw [hsplit]
      exact List.mem_append_left _ hc'
    refine hfirst c' hc' ?_
    rw [(h.sessions c' hc'').2, (h.sessions c hc).2, ht]
  have hfilter : (pre.filter fun c' => c'.request.kind.type = c.request.kind.type) = [] :=
    List.filter_eq_nil_iff.mpr fun c' hc' => by simpa using hpre c' hc'
  have hfront : (s.mRequestQueues c.request.kind.type).mQueue =
      c.request :: (post.filter fun c' => c'.request.kind.type = c.request.kind.type).map
        CtrlCommand.request := by
    rw [← h.queues, hsplit, List.filter_append, hfilter, List.nil_append,
      List.filter_cons_of_pos (by simp), List.map_cons]
  have hstep : s.answer c.session error =
      ({ s.setQueue c.request.kind.type (s.mRequestQueues c.request.kind.type).pop.1 with
          unanswered := pre ++ post }, [.calledBack c.request error]) := by
    simp only [LocationAPIControlClient.answer, hany, if_true, herase, onCtrlResponseCb,
      getRequestBySession, h.find_session hc, CtrlRequestQueue.pop, hfront, List.head?_cons]
    rfl
  have hmem : ∀ c' ∈ pre ++ post, c' ∈ s.unanswered := by
    intro c' hc'
    rw [hsplit]
    rcases List.mem_append.mp hc' with hc' | hc'
    · exact List.mem_append_left _ hc'
    · exact List.mem_append_right _ (List.mem_cons_of_mem c hc')
  rw [hstep]
  refine ⟨rfl, rfl, fun type => ?_, fun c' hc' => ?_, fun type type' => ?_, fun type => ?_,
    fun c' hc' => h.numbers c' (hmem c' hc')⟩
  · simp only [setQueue, List.filter_append, List.map_append]
    by_cases ht : type = c.request.kind.type
    · subst ht
      rw [hfilter, if_pos rfl, CtrlRequestQueue.pop, hfront, List.tail_cons]
      rfl
    · rw [if_neg ht, ← h.queues, hsplit, List.filter_append, List.map_append,
        List.filter_cons_of_neg (by simpa using Ne.symm ht)]
  · have hsession := h.sessions c' (hmem c' hc')
    simp only [mSession_setQueue_pop]
    exact hsession
  · simp only [mSession_setQueue_pop]
    exact h.distinct type type'
  · simp only [mSession_setQueue_pop]
    exact h.given type

/-- An answer on a session that no command waits on is not the HAL's. -/
lemma answer_of_not_waiting {session : ℕ} {error : LocationError}
    (h : ∀ c ∈ s.unanswered, c.session ≠ session) : s.answer session error = (s, []) := by
  have hany : ¬ (s.unanswered.any fun c => c.session = session) = true := by
    simpa using h
  exact if_neg hany

end Sound

/-! ## Requests issued and called back -/

/-- The requests of the commands that a run sends. -/
def issued (s : LocationAPIControlClient) (events : List Event) : List CtrlRequest :=
  (machine.outs s events).filterMap Output.sentRequest

/-- The requests that a run calls back. -/
def calledBack (s : LocationAPIControlClient) (events : List Event) : List CtrlRequest :=
  (machine.outs s events).filterMap Output.calledRequest

section Requests

variable {s : LocationAPIControlClient}

@[simp] lemma issued_nil (s : LocationAPIControlClient) : issued s [] = [] := rfl

@[simp] lemma calledBack_nil (s : LocationAPIControlClient) : calledBack s [] = [] := rfl

lemma issued_cons (s : LocationAPIControlClient) (e : Event) (events : List Event) :
    issued s (e :: events) =
      (machine.emit s e).filterMap Output.sentRequest ++ issued (machine.next s e) events := by
  simp only [issued, Machine.outs_cons, List.filterMap_append]

lemma calledBack_cons (s : LocationAPIControlClient) (e : Event) (events : List Event) :
    calledBack s (e :: events) =
      (machine.emit s e).filterMap Output.calledRequest ++
        calledBack (machine.next s e) events := by
  simp only [calledBack, Machine.outs_cons, List.filterMap_append]

lemma issued_append (s : LocationAPIControlClient) (pre post : List Event) :
    issued s (pre ++ post) = issued s pre ++ issued (machine.run s pre) post := by
  simp only [issued, Machine.outs_append, List.filterMap_append]

lemma calledBack_append (s : LocationAPIControlClient) (pre post : List Event) :
    calledBack s (pre ++ post) = calledBack s pre ++ calledBack (machine.run s pre) post := by
  simp only [calledBack, Machine.outs_append, List.filterMap_append]

lemma nextRequest_onCtrlResponseCb (s : LocationAPIControlClient) (error : LocationError)
    (id : ℕ) : (s.onCtrlResponseCb error id).1.nextRequest = s.nextRequest := by
  simp only [onCtrlResponseCb, getRequestBySession]
  split
  · rfl
  · rfl

lemma sent_onCtrlResponseCb (s : LocationAPIControlClient) (error : LocationError) (id : ℕ) :
    (s.onCtrlResponseCb error id).2.filterMap Output.sentRequest = [] := by
  simp only [onCtrlResponseCb]
  split
  · rfl
  · rfl

/-- Each event sends the next request, or none. -/
lemma sent_cases (s : LocationAPIControlClient) (e : Event) :
    ((machine.emit s e).filterMap Output.sentRequest = [] ∧
        (machine.next s e).nextRequest = s.nextRequest) ∨
      ∃ kind, (machine.emit s e).filterMap Output.sentRequest = [⟨kind, s.nextRequest⟩] ∧
        (machine.next s e).nextRequest = s.nextRequest + 1 := by
  cases e with
  | locAPIGnssDeleteAidingData session => exact .inr ⟨.gnssDeleteAidingData, rfl, rfl⟩
  | locAPIEnable session =>
      simp only [Machine.emit, Machine.next, machine, step, locAPIEnable]
      split
      · exact .inl ⟨rfl, rfl⟩
      · exact .inr ⟨.enable, rfl, rfl⟩
  | locAPIDisable =>
      simp only [Machine.emit, Machine.next, machine, step, locAPIDisable]
      split
      · exact .inr ⟨.disable, rfl, rfl⟩
      · exact .inl ⟨rfl, rfl⟩
  | answer session error =>
      refine .inl ?_
      simp only [Machine.emit, Machine.next, machine, step, answer]
      split
      · exact ⟨sent_onCtrlResponseCb _ _ _, nextRequest_onCtrlResponseCb _ _ _⟩
      · exact ⟨rfl, rfl⟩

/-- Requests that a run sends are numbered from the next one on. -/
lemma nextRequest_le_of_mem_issued {events : List Event} {r : CtrlRequest}
    (hr : r ∈ issued s events) : s.nextRequest ≤ r.number := by
  induction events generalizing s with
  | nil => cases hr
  | cons e events ih =>
      rw [issued_cons] at hr
      rcases sent_cases s e with ⟨hnone, hnext⟩ | ⟨kind, hsent, hnext⟩
      · rw [hnone, List.nil_append] at hr
        exact hnext ▸ ih hr
      · rw [hsent, List.singleton_append, List.mem_cons] at hr
        rcases hr with rfl | hr
        · exact le_rfl
        · have := ih hr
          omega

/-- No request is sent twice. -/
lemma nodup_issued (s : LocationAPIControlClient) (events : List Event) :
    (issued s events).Nodup := by
  induction events generalizing s with
  | nil => exact List.nodup_nil
  | cons e events ih =>
      rw [issued_cons]
      rcases sent_cases s e with ⟨hnone, hnext⟩ | ⟨kind, hsent, hnext⟩
      · rw [hnone, List.nil_append]
        exact ih _
      · rw [hsent, List.singleton_append, List.nodup_cons]
        refine ⟨fun hr => ?_, ih _⟩
        have := nextRequest_le_of_mem_issued hr
        simp only at this
        omega

/-- What is sent, with what waited before, is called back or waits. -/
def Balanced (s : LocationAPIControlClient) (events : List Event) : Prop :=
  ∀ r, (issued s events).count r + (s.unanswered.map CtrlCommand.request).count r =
    (calledBack s events).count r +
      ((machine.run s events).unanswered.map CtrlCommand.request).count r

lemma Balanced.append {pre post : List Event} (h : Balanced s pre)
    (hs : Balanced (machine.run s pre) post) : Balanced s (pre ++ post) := by
  intro r
  have h1 := h r
  have h2 := hs r
  rw [issued_append, calledBack_append, Machine.run_append, List.count_append, List.count_append]
  omega

/-- A command whose request is sent waits. -/
lemma balanced_of_sent {e : Event} {c : CtrlCommand}
    (hsent : (machine.emit s e).filterMap Output.sentRequest = [c.request])
    (hcalled : (machine.emit s e).filterMap Output.calledRequest = [])
    (hnext : (machine.next s e).unanswered = s.unanswered ++ [c]) : Balanced s [e] := by
  intro r
  simp only [issued_cons, calledBack_cons, hsent, hcalled, Machine.run_cons, Machine.run_nil,
    hnext, List.map_append, List.map_cons, List.map_nil, List.count_append, issued_nil,
    calledBack_nil, List.count_nil]
  omega

/-- An event without outputs of these kinds that leaves the commands as they are. -/
lemma balanced_of_unchanged {e : Event}
    (hsent : (machine.emit s e).filterMap Output.sentRequest = [])
    (hcalled : (machine.emit s e).filterMap Output.calledRequest = [])
    (hnext : (machine.next s e).unanswered = s.unanswered) : Balanced s [e] := by
  intro r
  simp only [issued_cons, calledBack_cons, hsent, hcalled, Machine.run_cons, Machine.run_nil,
    hnext, issued_nil, calledBack_nil]

/-- A command has been sent, and the client notes whether it is enabled. -/
lemma Sound.next_of_sent {s' : LocationAPIControlClient} (h : s'.Sound) {e : Event}
    {mEnabled : Bool} {outputs : List Output} {c : CtrlCommand}
    (hstep : machine.step s e = ({ s' with mEnabled := mEnabled }, outputs))
    (hsent : outputs.filterMap Output.sentRequest = [c.request])
    (hcalled : outputs.filterMap Output.calledRequest = [])
    (hunanswered : s'.unanswered = s.unanswered ++ [c]) :
    (machine.next s e).Sound ∧ Balanced s [e] := by
  have hnext : machine.next s e = { s' with mEnabled := mEnabled } := congrArg Prod.fst hstep
  have hemit : machine.emit s e = outputs := congrArg Prod.snd hstep
  refine ⟨?_, balanced_of_sent (hemit ▸ hsent) (hemit ▸ hcalled) (hnext ▸ hunanswered)⟩
  rw [hnext]
  exact ⟨h.queues, h.sessions, h.distinct, h.given, h.numbers⟩

/-- The client stays as it is, and no command is sent or answered. -/
lemma Sound.next_of_unchanged (h : s.Sound) {e : Event} {outputs : List Output}
    (hstep : machine.step s e = (s, outputs))
    (hsent : outputs.filterMap Output.sentRequest = [])
    (hcalled : outputs.filterMap Output.calledRequest = []) :
    (machine.next s e).Sound ∧ Balanced s [e] := by
  have hnext : machine.next s e = s := congrArg Prod.fst hstep
  have hemit : machine.emit s e = outputs := congrArg Prod.snd hstep
  refine ⟨hnext.symm ▸ h, balanced_of_unchanged (hemit ▸ hsent) (hemit ▸ hcalled) ?_⟩
  rw [hnext]

/-- **One event** that waits for answers where it has to. -/
theorem Sound.next (h : s.Sound) {e : Event} (hfresh : s.FreshSession e)
    (hwaits : s.WaitsForAnswers e) : (machine.next s e).Sound ∧ Balanced s [e] := by
  cases e with
  | locAPIGnssDeleteAidingData session =>
      have hstart := h.startSession hfresh hwaits
      have hself : ((s.startSession .deleteAidingData session).mRequestQueues
          .deleteAidingData).mSession = session := rfl
      exact ⟨hstart.send .gnssDeleteAidingData hfresh.1 hself, balanced_of_sent rfl rfl rfl⟩
  | locAPIEnable session =>
      by_cases hm : s.mEnabled = true
      · have hstep : machine.step s (.locAPIEnable session) = (s, [.returned .success]) := if_pos hm
        exact h.next_of_unchanged hstep rfl rfl
      · have hoff : s.mEnabled = false := by simpa using hm
        have hstart := h.startSession (hfresh hoff) (hwaits hoff)
        have hself : ((s.startSession .control session).mRequestQueues
            CtrlRequestKind.enable.type).mSession = session := rfl
        have hsound := hstart.send .enable (hfresh hoff).1 hself
        have hstep : machine.step s (.locAPIEnable session) =
            ({ ((s.startSession .control session).send .enable session).1 with mEnabled := true },
              [.sent ⟨⟨.enable, s.nextRequest⟩, session⟩, .returned .success]) := if_neg hm
        exact hsound.next_of_sent hstep rfl rfl rfl
  | locAPIDisable =>
      by_cases hm : s.mEnabled ∧ (s.mRequestQueues .control).mSession > 0
      · have hsound := h.send .disable (Nat.pos_iff_ne_zero.mp hm.2) rfl
        have hstep : machine.step s .locAPIDisable =
            ({ (s.send .disable (s.mRequestQueues .control).mSession).1 with mEnabled := false },
              [.sent ⟨⟨.disable, s.nextRequest⟩, (s.mRequestQueues .control).mSession⟩]) :=
          if_pos hm
        exact hsound.next_of_sent hstep rfl rfl rfl
      · have hstep : machine.step s .locAPIDisable = (s, []) := if_neg hm
        exact h.next_of_unchanged hstep rfl rfl
  | answer session error =>
      by_cases hwaiting : ∃ c ∈ s.unanswered, c.session = session
      · obtain ⟨c', hc', hsession⟩ := hwaiting
        obtain ⟨c, pre, post, hfirst, hc, hsplit, -⟩ :=
          List.exists_of_eraseP (p := fun c => decide (c.session = session)) hc'
            (by simpa using hsession)
        have hc : c.session = session := by simpa using hc
        subst hc
        have hfirst' : ∀ c' ∈ pre, c'.session ≠ c.session := by simpa using hfirst
        obtain ⟨hemit, hunanswered, hsound⟩ := h.answer hsplit hfirst' error
        refine ⟨hsound, fun r => ?_⟩
        have hemit' : machine.emit s (.answer c.session error) = [.calledBack c.request error] :=
          hemit
        have hun : (machine.next s (.answer c.session error)).unanswered = pre ++ post :=
          hunanswered
        simp only [issued_cons, calledBack_cons, hemit', Machine.run_cons, Machine.run_nil, hun,
          hsplit, issued_nil, calledBack_nil, List.filterMap_nil, List.filterMap_cons,
          Output.sentRequest, Output.calledRequest, List.map_append, List.map_cons,
          List.count_append, List.count_cons, List.count_nil]
        omega
      · have hnone : ∀ c ∈ s.unanswered, c.session ≠ session :=
          fun c hc heq => hwaiting ⟨c, hc, heq⟩
        have hstep : machine.step s (.answer session error) = (s, []) :=
          answer_of_not_waiting hnone
        exact h.next_of_unchanged hstep rfl rfl

/-- **A run** whose sessions wait for the answers on the ones before. -/
theorem Sound.run (h : s.Sound) {events : List Event}
    (hfresh : machine.Steps FreshSession s events)
    (hwaits : machine.Steps WaitsForAnswers s events) :
    (machine.run s events).Sound ∧ Balanced s events := by
  induction events generalizing s with
  | nil => exact ⟨h, fun r => by simp [issued, calledBack]⟩
  | cons e events ih =>
      have hstep := h.next hfresh.1 hwaits.1
      have hrest := ih hstep.1 hfresh.2 hwaits.2
      have hbalanced := Balanced.append hstep.2 hrest.2
      exact ⟨hrest.1, hbalanced⟩

end Requests

/-! ## Requests that are lost -/

section Lost

variable {s : LocationAPIControlClient} {r : CtrlRequest}

/-- The request has been made and waits in no queue. -/
structure Lost (s : LocationAPIControlClient) (r : CtrlRequest) : Prop where
  queues : ∀ type, r ∉ (s.mRequestQueues type).mQueue
  number : r.number < s.nextRequest

lemma Lost.send (h : s.Lost r) (kind : CtrlRequestKind) (session : ℕ) :
    (s.send kind session).1.Lost r := by
  refine ⟨fun type hr => ?_, Nat.lt_succ_of_lt h.number⟩
  simp only [LocationAPIControlClient.send, setQueue] at hr
  split at hr
  · rcases List.mem_append.mp hr with hr | hr
    · exact h.queues _ hr
    · rw [List.mem_singleton.mp hr] at h
      exact lt_irrefl _ h.number
  · exact h.queues _ hr

lemma Lost.startSession (h : s.Lost r) (type : CtrlRequestType) (session : ℕ) :
    (s.startSession type session).Lost r := by
  refine ⟨fun type' hr => ?_, h.number⟩
  simp only [LocationAPIControlClient.startSession, setQueue, CtrlRequestQueue.reset] at hr
  split at hr
  · cases hr
  · exact h.queues _ hr

lemma Lost.onCtrlResponseCb (h : s.Lost r) (error : LocationError) (id : ℕ) :
    (s.onCtrlResponseCb error id).1.Lost r ∧
      r ∉ (s.onCtrlResponseCb error id).2.filterMap Output.calledRequest := by
  simp only [LocationAPIControlClient.onCtrlResponseCb, getRequestBySession]
  split
  · rename_i type _
    refine ⟨⟨fun type' hr => ?_, h.number⟩, fun hr => ?_⟩
    · simp only [setQueue] at hr
      split at hr
      · exact h.queues type (List.mem_of_mem_tail hr)
      · exact h.queues _ hr
    · cases hq : (s.mRequestQueues type).mQueue with
      | nil => simp [CtrlRequestQueue.pop, hq] at hr
      | cons front rest =>
          have heq : r = front := by
            simpa [CtrlRequestQueue.pop, hq, Output.calledRequest] using hr
          exact h.queues type (by rw [hq, heq]; exact List.mem_cons_self)
  · exact ⟨h, List.not_mem_nil⟩

/-- A lost request stays so in one event, which does not call it back. -/
lemma Lost.next (h : s.Lost r) (e : Event) :
    (machine.next s e).Lost r ∧ r ∉ (machine.emit s e).filterMap Output.calledRequest := by
  cases e with
  | locAPIGnssDeleteAidingData session =>
      exact ⟨(h.startSession .deleteAidingData session).send _ _, List.not_mem_nil⟩
  | locAPIEnable session =>
      have hsent := (h.startSession .control session).send .enable session
      simp only [Machine.next, Machine.emit, machine, step, locAPIEnable]
      split
      · exact ⟨h, List.not_mem_nil⟩
      · exact ⟨⟨hsent.queues, hsent.number⟩, List.not_mem_nil⟩
  | locAPIDisable =>
      have hsent := h.send .disable (s.mRequestQueues .control).mSession
      simp only [Machine.next, Machine.emit, machine, step, locAPIDisable]
      split
      · exact ⟨⟨hsent.queues, hsent.number⟩, List.not_mem_nil⟩
      · exact ⟨h, List.not_mem_nil⟩
  | answer session error =>
      simp only [Machine.next, Machine.emit, machine, step, answer]
      split
      · have herased : Lost { s with
            unanswered := s.unanswered.eraseP fun c => c.session = session } r :=
          ⟨h.queues, h.number⟩
        exact herased.onCtrlResponseCb error session
      · exact ⟨h, List.not_mem_nil⟩

/-- A lost request is never called back. -/
lemma Lost.not_mem_calledBack (h : s.Lost r) (events : List Event) : r ∉ calledBack s events := by
  induction events generalizing s with
  | nil => exact List.not_mem_nil
  | cons e events ih =>
      have hnext := h.next e
      rw [calledBack_cons, List.mem_append]
      rintro (hr | hr)
      · exact hnext.2 hr
      · exact ih hnext.1 hr

/-- In a queue that is reset, the requests that wait are lost. -/
lemma Sound.lost_startSession (h : s.Sound) {c : CtrlCommand} (hc : c ∈ s.unanswered)
    (session : ℕ) : (s.startSession c.request.kind.type session).Lost c.request := by
  refine ⟨fun type hr => ?_, h.numbers c hc⟩
  simp only [LocationAPIControlClient.startSession, setQueue, CtrlRequestQueue.reset] at hr
  split at hr
  · cases hr
  · rename_i ht
    rw [← h.queues type] at hr
    obtain ⟨c', hc', heq⟩ := List.mem_map.mp hr
    have ht' : c'.request.kind.type = type := by simpa using (List.mem_filter.mp hc').2
    exact ht (by rw [← ht', heq])

/-- A session that does not wait for an answer loses a request. -/
lemma Sound.exists_lost (h : s.Sound) {e : Event} (hwaits : ¬ s.WaitsForAnswers e) :
    ∃ c ∈ s.unanswered, (machine.next s e).Lost c.request ∧
      c.request ∉ (machine.emit s e).filterMap Output.calledRequest := by
  have hexists : ∀ type, ¬ s.Answered type →
      ∃ c ∈ s.unanswered, c.request.kind.type = type := by
    intro type hn
    simpa [Answered] using hn
  cases e with
  | locAPIGnssDeleteAidingData session =>
      obtain ⟨c, hc, ht⟩ := hexists _ hwaits
      have hlost := h.lost_startSession hc session
      rw [ht] at hlost
      exact ⟨c, hc, hlost.send _ _, List.not_mem_nil⟩
  | locAPIEnable session =>
      obtain ⟨hoff, hn⟩ := Classical.not_imp.mp hwaits
      obtain ⟨c, hc, ht⟩ := hexists _ hn
      have hlost := h.lost_startSession hc session
      rw [ht] at hlost
      have hsent := hlost.send .enable session
      refine ⟨c, hc, ?_⟩
      simp only [Machine.next, Machine.emit, machine, step, locAPIEnable, hoff]
      exact ⟨⟨hsent.queues, hsent.number⟩, List.not_mem_nil⟩
  | locAPIDisable => exact absurd trivial hwaits
  | answer session error => exact absurd trivial hwaits

end Lost

/-! ## Every command called back once -/

/-- **Callbacks.** When the HAL has answered every command of a run, the request of each command has
been called back once, exactly when each session was started after the commands on the one before
had been answered. -/
theorem calledBackOnce_iff (events : List Event)
    (hfresh : machine.Steps FreshSession init events)
    (hanswered : (machine.run init events).unanswered = []) :
    (∀ r ∈ issued init events, (calledBack init events).count r = 1) ↔
      machine.Steps WaitsForAnswers init events := by
  constructor
  · intro honce
    by_contra hnot
    obtain ⟨pre, e, post, rfl, hpre, hwaits⟩ := Machine.exists_first_of_not_steps hnot
    have hfresh' := ((machine.steps_append FreshSession init pre (e :: post)).mp hfresh).1
    obtain ⟨hsound, hbalanced⟩ := sound_init.run hfresh' hpre
    obtain ⟨c, hc, hlost, hcalled⟩ := hsound.exists_lost hwaits
    -- before the reset the request has been sent and not called back
    have hwaiting : 0 < ((machine.run init pre).unanswered.map CtrlCommand.request).count
        c.request := List.count_pos_iff.mpr (List.mem_map_of_mem hc)
    have hpending : (init.unanswered.map CtrlCommand.request).count c.request = 0 := rfl
    have hcount := hbalanced c.request
    have hatmost := List.nodup_iff_count_le_one.mp (nodup_issued init pre) c.request
    have hissued : c.request ∈ issued init (pre ++ e :: post) := by
      rw [issued_append]
      exact List.mem_append_left _ (List.count_pos_iff.mp (by omega))
    have hlater : (calledBack (machine.run init pre) (e :: post)).count c.request = 0 := by
      refine List.count_eq_zero.mpr ?_
      rw [calledBack_cons, List.mem_append]
      rintro (hr | hr)
      · exact hcalled hr
      · exact hlost.not_mem_calledBack post hr
    have := honce c.request hissued
    rw [calledBack_append, List.count_append, hlater] at this
    omega
  · intro hwaits r hr
    have hcount := (sound_init.run hfresh hwaits).2 r
    have hnone : (init.unanswered.map CtrlCommand.request).count r = 0 := rfl
    rw [hanswered, List.map_nil, List.count_nil, hnone] at hcount
    have hpos := List.count_pos_iff.mpr hr
    have hatmost := List.nodup_iff_count_le_one.mp (nodup_issued init events) r
    omega

/-- A client that is enabled, disabled, and enabled again once both have been answered. -/
theorem calledBackOnce_enabled_again :
    (issued init [.locAPIEnable 1, .locAPIDisable, .answer 1 .success, .answer 1 .success,
      .locAPIEnable 2, .answer 2 .success]).length = 3 ∧
    ∀ r ∈ issued init [.locAPIEnable 1, .locAPIDisable, .answer 1 .success, .answer 1 .success,
        .locAPIEnable 2, .answer 2 .success],
      (calledBack init [.locAPIEnable 1, .locAPIDisable, .answer 1 .success, .answer 1 .success,
        .locAPIEnable 2, .answer 2 .success]).count r = 1 :=
  ⟨by decide, (calledBackOnce_iff _ (by decide) (by decide)).mpr (by decide)⟩

/-- The same client enabled again before its first two commands have been answered: neither of them
is called back. -/
theorem reset_loses_requests :
    ¬ ∀ events, machine.Steps FreshSession init events →
      (machine.run init events).unanswered = [] →
      ∀ r ∈ issued init events, (calledBack init events).count r = 1 := by
  intro h
  exact absurd (h [.locAPIEnable 1, .locAPIDisable, .locAPIEnable 2, .answer 1 .success,
    .answer 1 .success, .answer 2 .success] (by decide) (by decide)) (by decide)

end LocationAPIControlClient
end LocHal
