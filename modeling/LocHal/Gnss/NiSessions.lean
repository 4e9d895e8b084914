import LocHal.Lib.Machine
import LocHal.Location.LocationTypes
import Mathlib.Data.Fintype.Basic
import Mathlib.Logic.Function.Basic

/-!
# Network-initiated sessions (`gps/gnss/GnssAdapter.cpp`)

The adapter keeps one session for emergency SUPL requests and one for all others.  A request is
saved in its session, gets an id, which is reported to the client, and a thread that waits for the
user's response or the time-out and sends the response to the modem.  A session and its thread share
`NiSession`: the adapter task tests it without the lock, and the thread forgets the id after it has
dropped the lock.

Requests are named by the order in which they are saved.  The adapter task and the threads are
interleaved in any way; a time-out may come at any moment.  `answers_of_undisturbed`: every response
is one that the user gave for the id of that request, and an outstanding request keeps the id that
was reported for it, when no session ends between the test and the critical section of a response,
and no thread forgets the id of a request that came after its own.
-/

namespace LocHal

/-- `GnssNiType`. -/
inductive GnssNiType where
  | voice
  | supl
  | controlPlane
  | emergencySupl
deriving DecidableEq, Repr

/-- `GnssNiResponse`. -/
inductive GnssNiResponse where
  | accept
  | deny
  | noResponse
  | ignore
deriving DecidableEq, Repr

/-- The sessions of `NiData`. -/
inductive NiSlot where
  | session
  | sessionEs
deriving DecidableEq, Repr

instance : Fintype NiSlot where
  elems := {.session, .sessionEs}
  complete slot := by cases slot <;> decide

/-- `NiSession`.  The response is only read once it has been set. -/
structure NiSession where
  respRecvd : Bool := false
  rawRequest : Option ℕ := none
  reqID : UInt32 := 0
  resp : GnssNiResponse := .noResponse
deriving DecidableEq

/-- What the adapter task does next. -/
inductive NiTask where
  | idle
  /-- `requestNiNotify` has found the session free. -/
  | save (slot : NiSlot) (data : Bool)
  | allocate (slot : NiSlot)
  | readId (slot : NiSlot)
  | createThread (slot : NiSlot) (sessionId : UInt32)
  | notify (sessionId : UInt32)
  /-- `MsgGnssNiResponse` comes to its tests. -/
  | testEs (id : UInt32) (resp : GnssNiResponse)
  | testAccepted (id : UInt32) (resp : GnssNiResponse)
  | ignoreSession (id : UInt32) (resp : GnssNiResponse)
  | testSession (id : UInt32) (resp : GnssNiResponse)
  | respond (slot : NiSlot) (id : UInt32) (resp : GnssNiResponse)
deriving DecidableEq

/-- Where a thread is in `niThreadProc`. -/
inductive NiThreadPc where
  | start
  | waiting
  /-- The lock is dropped, with the request to send a response for, if any. -/
  | unlocked (toSend : Option (ℕ × GnssNiResponse))
  | responding (toSend : ℕ × GnssNiResponse)
  | done
deriving DecidableEq

/-- A thread on its session. -/
structure NiThread where
  slot : NiSlot
  pc : NiThreadPc
deriving DecidableEq

/-- A response that the user gave, and how many requests had been given an id by then. -/
structure UserResponse where
  requests : ℕ
  id : UInt32
  resp : GnssNiResponse
deriving DecidableEq

/-- `NiData`, the adapter task and the threads.  `requests` counts the ids, `reported` and `given`
record which id the client was told for which request, and what the user gave. -/
structure NiData where
  sessions : NiSlot → NiSession := fun _ => {}
  reqIDCounter : UInt32 := 0
  task : NiTask := .idle
  threads : List NiThread := []
  requests : ℕ := 0
  reported : List (ℕ × UInt32) := []
  given : List UserResponse := []

namespace NiData

/-- A message that the adapter task takes up, or a step of the task or of a thread. -/
inductive Event where
  | requestNiNotify (registered : Bool) (type : GnssNiType) (data : Bool)
  | gnssNiResponse (registered : Bool) (id : UInt32) (resp : GnssNiResponse)
  | adapter (created : Bool)
  | thread (i : ℕ) (timedOut : Bool)
deriving DecidableEq

/-- What the client is told, and what the modem is sent. -/
inductive Output where
  | gnssNiCb (sessionId : UInt32)
  | reportResponse (err : LocationError) (id : UInt32)
  | gnssNiResponseCommand (resp : GnssNiResponse) (rawRequest : ℕ)
deriving DecidableEq

/-- The raw request of a session. -/
def raw (s : NiData) (slot : NiSlot) : Option ℕ := (s.sessions slot).rawRequest

/-- A write to one session. -/
def set (s : NiData) (slot : NiSlot) (session : NiSession) : NiData :=
  { s with sessions := Function.update s.sessions slot session }

/-! ## The adapter task -/

/-- The session that `requestNiNotify` finds free for a request, `NULL` if it ignores the
request. -/
def freeSession (s : NiData) : GnssNiType → Option NiSlot
  | .emergencySupl => if s.raw .sessionEs ≠ none then none else some .sessionEs
  | _ => if s.raw .session ≠ none ∨ s.raw .sessionEs ≠ none then none else some .session

/-- `requestNiNotify` up to its tests.  Only the task saves requests, so that a session found free
is still free when the request is saved. -/
def requestNiNotify (s : NiData) (registered : Bool) (type : GnssNiType) (data : Bool) : NiData :=
  if registered then
    match s.freeSession type with
    | some slot => { s with task := .save slot data }
    | none => s
  else s

/-- `MsgGnssNiResponse` up to its tests. -/
def gnssNiResponse (s : NiData) (registered : Bool) (id : UInt32) (resp : GnssNiResponse) :
    NiData × List Output :=
  let s := { s with given := ⟨s.requests, id, resp⟩ :: s.given }
  if registered then ({ s with task := .testEs id resp }, [])
  else (s, [.reportResponse .idUnknown id])

/-- The test of `MsgGnssNiResponse` on a session. -/
def IsActive (s : NiData) (slot : NiSlot) (id : UInt32) : Prop :=
  id = (s.sessions slot).reqID ∧ s.raw slot ≠ none

instance (s : NiData) (slot : NiSlot) (id : UInt32) : Decidable (s.IsActive slot id) :=
  inferInstanceAs (Decidable (_ ∧ _))

/-- The critical section of `MsgGnssNiResponse` on a session. -/
def receive (s : NiData) (slot : NiSlot) (resp : GnssNiResponse) : NiData :=
  s.set slot { s.sessions slot with resp := resp, respRecvd := true }

/-- The next step of the message that the adapter task is handling. -/
def adapterStep (s : NiData) (created : Bool) : NiData × List Output :=
  match s.task with
  | .idle => (s, [])
  | .save slot data =>
      let session :=
        { s.sessions slot with rawRequest := if data then some (s.requests + 1) else none }
      ({ s.set slot session with task := .allocate slot }, [])
  | .allocate slot =>
      let session := { s.sessions slot with reqID := s.reqIDCounter + 1 }
      ({ s.set slot session with
          reqIDCounter := s.reqIDCounter + 1
          requests := s.requests + 1
          task := .readId slot }, [])
  | .readId slot => ({ s with task := .createThread slot (s.sessions slot).reqID }, [])
  | .createThread slot sessionId =>
      let threads := if created then s.threads ++ [⟨slot, .start⟩] else s.threads
      ({ s with threads := threads, task := .notify sessionId }, [])
  | .notify sessionId =>
      ({ s with reported := (s.requests, sessionId) :: s.reported, task := .idle },
        [.gnssNiCb sessionId])
  | .testEs id resp =>
      if s.IsActive .sessionEs id then ({ s with task := .testAccepted id resp }, [])
      else ({ s with task := .testSession id resp }, [])
  | .testAccepted id resp =>
      -- a request that is not an emergency is ignored once an emergency request is accepted
      if resp = .accept ∧ s.raw .session ≠ none then ({ s with task := .ignoreSession id resp }, [])
      else ({ s with task := .respond .sessionEs id resp }, [])
  | .ignoreSession id resp =>
      ({ s.receive .session .ignore with task := .respond .sessionEs id resp }, [])
  | .testSession id resp =>
      if s.IsActive .session id then ({ s with task := .respond .session id resp }, [])
      else ({ s with task := .idle }, [.reportResponse .idUnknown id])
  | .respond slot id resp =>
      ({ s.receive slot resp with task := .idle }, [.reportResponse .success id])

/-! ## The threads -/

/-- The response to send when the thread has stopped waiting. -/
def toSend (session : NiSession) : Option (ℕ × GnssNiResponse) :=
  session.rawRequest.bind fun request =>
    if session.resp ≠ .ignore then some (request, session.resp) else none

/-- The rest of the critical section, when the thread has stopped waiting. -/
def stopWaiting (session : NiSession) : NiSession × NiThreadPc :=
  ({ session with respRecvd := false, rawRequest := none }, .unlocked (toSend session))

/-- `niThreadProc` from one point at which others may step in to the next. -/
def niThreadProc (session : NiSession) (pc : NiThreadPc) (timedOut : Bool) :
    (NiSession × NiThreadPc) × List Output :=
  match pc with
  | .start => (if session.respRecvd then stopWaiting session else (session, .waiting), [])
  | .waiting =>
      (if timedOut then stopWaiting { session with resp := .noResponse }
        else if session.respRecvd then stopWaiting session
        else (session, .waiting), [])
  | .unlocked none => (({ session with reqID := 0 }, .done), [])
  | .unlocked (some response) => (({ session with reqID := 0 }, .responding response), [])
  | .responding (request, resp) => ((session, .done), [.gnssNiResponseCommand resp request])
  | .done => ((session, .done), [])

/-- The next step of a thread. -/
def threadStep (s : NiData) (i : ℕ) (timedOut : Bool) : NiData × List Output :=
  match s.threads[i]? with
  | none => (s, [])
  | some thread =>
      let after := niThreadProc (s.sessions thread.slot) thread.pc timedOut
      ({ s.set thread.slot after.1.1 with
          threads := s.threads.set i { thread with pc := after.1.2 } }, after.2)

/-- One event.  The adapter task takes up a message only when it is done with the last. -/
def step (s : NiData) : Event → NiData × List Output
  | .requestNiNotify registered type data =>
      (if s.task = .idle then s.requestNiNotify registered type data else s, [])
  | .gnssNiResponse registered id resp =>
      if s.task = .idle then s.gnssNiResponse registered id resp else (s, [])
  | .adapter created => s.adapterStep created
  | .thread i timedOut => s.threadStep i timedOut

/-- The sessions as a machine. -/
def machine : Machine NiData Event Output := ⟨step⟩

/-! ## What is asked of the sessions -/

/-- The user has given the response for the id of the request, which had been allocated by then. -/
def GivenFor (s : NiData) (request : ℕ) (resp : GnssNiResponse) : Prop :=
  ∃ g ∈ s.given, request ≤ g.requests ∧ g.id = UInt32.ofNat request ∧ g.resp = resp

instance (s : NiData) (request : ℕ) (resp : GnssNiResponse) : Decidable (s.GivenFor request resp) :=
  inferInstanceAs (Decidable (∃ g ∈ s.given, _))

/-- The response may be sent for the request. -/
def MayAnswer (s : NiData) (request : ℕ) (resp : GnssNiResponse) : Prop :=
  resp = .noResponse ∨ s.GivenFor request resp

instance (s : NiData) (request : ℕ) (resp : GnssNiResponse) :
    Decidable (s.MayAnswer request resp) :=
  inferInstanceAs (Decidable (_ ∨ _))

/-- What an output may be. -/
def Output.Answers (s : NiData) : Output → Prop
  | .gnssNiResponseCommand resp request => s.MayAnswer request resp
  | _ => True

instance (s : NiData) : ∀ o : Output, Decidable (o.Answers s)
  | .gnssNiResponseCommand resp request =>
      inferInstanceAs (Decidable (s.MayAnswer request resp))
  | .gnssNiCb _ => inferInstanceAs (Decidable True)
  | .reportResponse _ _ => inferInstanceAs (Decidable True)

/-- Whatever response the event sends for a request may be sent for it. -/
def Answers (s : NiData) (e : Event) : Prop := ∀ o ∈ machine.emit s e, o.Answers s

instance (s : NiData) (e : Event) : Decidable (Answers s e) :=
  inferInstanceAs (Decidable (∀ o ∈ machine.emit s e, _))

/-- The session of an outstanding request has the id that was reported for the request. -/
def Identified (s : NiData) : Prop :=
  ∀ slot, ∀ report ∈ s.reported, s.raw slot = some report.1 → (s.sessions slot).reqID = report.2

instance (s : NiData) : Decidable s.Identified :=
  inferInstanceAs (Decidable (∀ slot, ∀ report ∈ s.reported,
    s.raw slot = some report.1 → (s.sessions slot).reqID = report.2))

/-- A response that no request can be sent, or any may be. -/
def Harmless (resp : GnssNiResponse) : Prop := resp = .ignore ∨ resp = .noResponse

instance (resp : GnssNiResponse) : Decidable (Harmless resp) :=
  inferInstanceAs (Decidable (_ ∨ _))

/-- The critical section of a response finds the session as its test did. -/
def RespondsInTime (s : NiData) : NiTask → Prop
  | .respond slot _ resp => s.raw slot ≠ none ∨ Harmless resp
  | _ => True

instance (s : NiData) : ∀ task, Decidable (s.RespondsInTime task)
  | .respond slot _ resp => inferInstanceAs (Decidable (s.raw slot ≠ none ∨ Harmless resp))
  | .idle | .save _ _ | .allocate _ | .readId _ | .createThread _ _ | .notify _
  | .testEs _ _ | .testAccepted _ _ | .ignoreSession _ _ | .testSession _ _ =>
      inferInstanceAs (Decidable True)

/-- The thread finds no newer request when it forgets the id, or one that has yet to get its id. -/
def ForgetsInTime (s : NiData) (thread : NiThread) : Prop :=
  match thread.pc with
  | .unlocked _ => s.raw thread.slot = none ∨ s.task = .allocate thread.slot ∨
      (s.sessions thread.slot).reqID = 0
  | _ => True

instance (s : NiData) : ∀ thread, Decidable (s.ForgetsInTime thread)
  | ⟨slot, .unlocked _⟩ =>
      inferInstanceAs (Decidable (s.raw slot = none ∨ s.task = .allocate slot ∨
        (s.sessions slot).reqID = 0))
  | ⟨_, .start⟩ | ⟨_, .waiting⟩ | ⟨_, .responding _⟩ | ⟨_, .done⟩ =>
      inferInstanceAs (Decidable True)

/-- What an event must not disturb. -/
def Undisturbed (s : NiData) : Event → Prop
  | .adapter _ => s.RespondsInTime s.task
  | .thread i _ => ∀ thread ∈ s.threads[i]?, s.ForgetsInTime thread
  | _ => True

instance (s : NiData) : ∀ e, Decidable (Undisturbed s e)
  | .adapter _ => inferInstanceAs (Decidable (s.RespondsInTime s.task))
  | .thread i _ => inferInstanceAs (Decidable (∀ thread ∈ s.threads[i]?, s.ForgetsInTime thread))
  | .requestNiNotify _ _ _ => inferInstanceAs (Decidable True)
  | .gnssNiResponse _ _ _ => inferInstanceAs (Decidable True)

end NiData

end LocHal
