import LocHal.Lib.Machine
import LocHal.Location.BiDict
import LocHal.Location.LocationTypes

/-!
# Session calls of a location client (`gps/location/LocationAPIClientBase.cpp`)

A client starts, updates and stops its sessions by commands to the HAL, and is told the outcome of
each by a response that carries the session only.  For every response to come it keeps a request in
one of its queues, and it finds the request again by the session: in the queue whose own session it
is, or, for the sessions in `mSessionBiDict`, at the front of the one queue that they all share.

The HAL is what the client relies on: the GNSS and the FLP interface, each taking the commands it is
sent in order, and answering those on a session it knows.  `LocationAPI` picks the interface of a
new session, and sends to both what concerns an existing one.  A call of the client, and an answer
of the HAL with what the client makes of it, are one step each; `mLocationAPI` has been set.
-/

namespace LocHal

/-! ## Requests and commands -/

/-- `SESSION_MODE`, and the values without a name. -/
inductive SessionMode where
  | none
  | onFull
  | onFix
  | onTripCompleted
  | other (value : ℕ)
deriving DecidableEq, Repr

/-- `REQUEST_TYPE`. -/
inductive RequestType where
  | tracking
  | session
  | geofence
  | niResponse
deriving DecidableEq, Repr

/-- The types in the order of their values. -/
def RequestType.all : List RequestType := [.tracking, .session, .geofence, .niResponse]

/-- The requests that session calls make, named after their classes; the commands to the HAL go by
the same names. -/
inductive RequestKind where
  | startTracking
  | stopTracking
  | updateTrackingOptions
  | startBatching
  | stopBatching
  | updateBatchingOptions
  | getBatchedLocations
deriving DecidableEq, Repr

/-- A start of a session. -/
def RequestKind.isStart : RequestKind → Bool
  | .startTracking => true
  | .startBatching => true
  | _ => false

/-- A stop of a session. -/
def RequestKind.isStop : RequestKind → Bool
  | .stopTracking => true
  | .stopBatching => true
  | _ => false

/-- `LocationAPIRequest`: the class of the request, and the number that it is in the order of their
making. -/
structure LocationAPIRequest where
  kind : RequestKind
  number : ℕ
deriving DecidableEq, Repr

/-- `RequestQueue`. -/
structure RequestQueue where
  mSession : ℕ
  mQueue : List LocationAPIRequest
deriving DecidableEq, Repr

namespace RequestQueue

/-- `reset`. -/
def reset (_ : RequestQueue) (session : ℕ) : RequestQueue := ⟨session, []⟩

/-- `setSession`. -/
def setSession (q : RequestQueue) (session : ℕ) : RequestQueue := { q with mSession := session }

/-- `push`. -/
def push (q : RequestQueue) (request : LocationAPIRequest) : RequestQueue :=
  { q with mQueue := q.mQueue ++ [request] }

/-- `pop`: the queue left and the request, `none` for `nullptr`. -/
def pop (q : RequestQueue) : RequestQueue × Option LocationAPIRequest :=
  ({ q with mQueue := q.mQueue.tail }, q.mQueue.head?)

end RequestQueue

/-- `SessionEntity`. -/
structure SessionEntity where
  id : ℕ
  trackingSession : ℕ
  batchingSession : ℕ
  sessionMode : SessionMode
deriving DecidableEq, Repr

/-- The entity of `memset`. -/
instance : Inhabited SessionEntity := ⟨⟨0, 0, 0, .none⟩⟩

/-! ## The HAL -/

/-- The interfaces that run sessions. -/
inductive HalInterface where
  | gnss
  | flp
deriving DecidableEq, Repr

/-- A command on a session, with the request that waits for its response and the queue it waits in;
nothing waits for the stop of a session that is replaced. -/
structure HalCommand where
  kind : RequestKind
  session : ℕ
  cause : Option (RequestType × LocationAPIRequest)
deriving DecidableEq, Repr

/-- The HAL: the next new session, and for each interface the commands it has yet to take and the
sessions that are live. -/
structure Hal where
  nextSession : ℕ
  commands : HalInterface → List HalCommand
  live : HalInterface → Finset ℕ

namespace Hal

/-- The interface is sent a command. -/
def send (hal : Hal) (i : HalInterface) (c : HalCommand) : Hal :=
  { hal with commands := fun i' => if i' = i then hal.commands i' ++ [c] else hal.commands i' }

/-- Both interfaces are sent a command; the one that does not know the session will ignore it. -/
def sendBoth (hal : Hal) (c : HalCommand) : Hal := (hal.send .gnss c).send .flp c

/-- A new session is started at the interface. -/
def start (hal : Hal) (i : HalInterface) (kind : RequestKind)
    (cause : Option (RequestType × LocationAPIRequest)) : Hal × ℕ :=
  ({ hal.send i ⟨kind, hal.nextSession, cause⟩ with nextSession := hal.nextSession + 1 },
    hal.nextSession)

/-- The choice of `LocationAPI::startTracking`, for a client that needs GNSS information or not. -/
def trackingInterface (needsGnssTrackingInfo : Bool) (options : LocationOptions) : HalInterface :=
  if options.minDistance > 0 then .flp
  else if needsGnssTrackingInfo then .gnss
  else .flp

/-- Whether the interface will answer the command rather than ignore it. -/
def Answers (hal : Hal) (i : HalInterface) (c : HalCommand) : Prop :=
  c.kind.isStart = true ∨ c.session ∈ hal.live i

instance (hal : Hal) (i : HalInterface) (c : HalCommand) : Decidable (hal.Answers i c) :=
  inferInstanceAs (Decidable (_ ∨ _))

/-- The live sessions of an interface after it has answered a command. -/
def answered (live : Finset ℕ) (c : HalCommand) (error : LocationError) : Finset ℕ :=
  if error ≠ .success then live
  else if c.kind.isStart then insert c.session live
  else if c.kind.isStop then live.erase c.session
  else live

/-- The interface has taken a command, after which these sessions are live. -/
def take (hal : Hal) (i : HalInterface) (commands : List HalCommand) (live : Finset ℕ) : Hal :=
  { hal with
    commands := fun i' => if i' = i then commands else hal.commands i'
    live := fun i' => if i' = i then live else hal.live i' }

end Hal

/-! ## The client -/

/-- `LocationAPIClientBase`, as far as sessions go, with the HAL, the number of the next request,
and the requests of session calls whose commands the HAL has not answered, oldest first.  No code
reads the last of these. -/
structure LocationAPIClientBase where
  mTracking : Bool
  mRequestQueues : RequestType → RequestQueue
  mSessionBiDict : BiDict SessionEntity
  hal : Hal
  nextRequest : ℕ
  unanswered : List LocationAPIRequest

namespace LocationAPIClientBase

/-- The constructor, with a HAL that has no sessions; zero is no session. -/
def init : LocationAPIClientBase :=
  ⟨false, fun _ => ⟨0, []⟩, .empty, ⟨1, fun _ => [], fun _ => ∅⟩, 0, []⟩

/-- The request that is made next. -/
def newRequest (s : LocationAPIClientBase) (kind : RequestKind) : LocationAPIRequest :=
  ⟨kind, s.nextRequest⟩

/-- One of the queues is changed. -/
def setQueue (s : LocationAPIClientBase) (type : RequestType) (q : RequestQueue) :
    LocationAPIClientBase :=
  { s with mRequestQueues := fun type' => if type' = type then q else s.mRequestQueues type' }

/-- The request made next is pushed. -/
def push (s : LocationAPIClientBase) (type : RequestType) (request : LocationAPIRequest) :
    LocationAPIClientBase :=
  { s.setQueue type ((s.mRequestQueues type).push request) with
    nextRequest := s.nextRequest + 1
    unanswered := if type = .session then s.unanswered ++ [request] else s.unanswered }

/-- `locAPIStartTracking`. -/
def locAPIStartTracking (needsGnssTrackingInfo : Bool) (s : LocationAPIClientBase)
    (options : LocationOptions) : LocationAPIClientBase × LocationError :=
  if s.mTracking then (s, .success)
  else
    let request := s.newRequest .startTracking
    let started := s.hal.start (Hal.trackingInterface needsGnssTrackingInfo options) .startTracking
      (some (.tracking, request))
    let s' := { s with hal := started.1 }.setQueue .tracking
      ((s.mRequestQueues .tracking).reset started.2)
    ({ s'.push .tracking request with mTracking := true }, .success)

/-- `locAPIStopTracking`. -/
def locAPIStopTracking (s : LocationAPIClientBase) : LocationAPIClientBase :=
  let session := (s.mRequestQueues .tracking).mSession
  if session > 0 then
    let request := s.newRequest .stopTracking
    { s.push .tracking request with
      hal := s.hal.sendBoth ⟨.stopTracking, session, some (.tracking, request)⟩
      mTracking := false }
  else s

/-- `locAPIUpdateTrackingOptions`. -/
def locAPIUpdateTrackingOptions (s : LocationAPIClientBase) : LocationAPIClientBase :=
  let session := (s.mRequestQueues .tracking).mSession
  if session > 0 then
    let request := s.newRequest .updateTrackingOptions
    { s.push .tracking request with
      hal := s.hal.sendBoth ⟨.updateTrackingOptions, session, some (.tracking, request)⟩ }
  else s

/-- `locAPIStartSession`. -/
def locAPIStartSession (needsGnssTrackingInfo : Bool) (s : LocationAPIClientBase) (id : ℕ)
    (sessionMode : SessionMode) (options : LocationOptions) :
    LocationAPIClientBase × LocationError :=
  if s.mSessionBiDict.hasId id then (s, .alreadyStarted)
  else if sessionMode = .onFix then
    let request := s.newRequest .startTracking
    let started := s.hal.start (Hal.trackingInterface needsGnssTrackingInfo options) .startTracking
      (some (.session, request))
    ({ s.push .session request with
        hal := started.1
        mSessionBiDict := s.mSessionBiDict.set id started.2 ⟨id, started.2, 0, sessionMode⟩ },
      .success)
  else
    let request := s.newRequest .startBatching
    let started := s.hal.start .flp .startBatching (some (.session, request))
    let s' := s.setQueue .session ((s.mRequestQueues .session).setSession started.2)
    ({ s'.push .session request with
        hal := started.1
        mSessionBiDict := s.mSessionBiDict.set id started.2 ⟨id, 0, started.2, sessionMode⟩ },
      .success)

/-- `locAPIStopSession`. -/
def locAPIStopSession (s : LocationAPIClientBase) (id : ℕ) :
    LocationAPIClientBase × LocationError :=
  if s.mSessionBiDict.hasId id then
    let entity := s.mSessionBiDict.getExtById id
    if entity.sessionMode = .onFix then
      let request := s.newRequest .stopTracking
      ({ s.push .session request with
          hal := s.hal.sendBoth ⟨.stopTracking, entity.trackingSession, some (.session, request)⟩ },
        .success)
    else
      let request := s.newRequest .stopBatching
      ({ s.push .session request with
          hal := s.hal.send .flp ⟨.stopBatching, entity.batchingSession, some (.session, request)⟩ },
        .success)
  else (s, .idUnknown)

/-- `locAPIUpdateSessionOptions`.  A change between tracking and batching stops the one session and
starts another, and only the start has a request. -/
def locAPIUpdateSessionOptions (needsGnssTrackingInfo : Bool) (s : LocationAPIClientBase) (id : ℕ)
    (sessionMode : SessionMode) (options : LocationOptions) :
    LocationAPIClientBase × LocationError :=
  if s.mSessionBiDict.hasId id then
    let entity := s.mSessionBiDict.getExtById id
    if sessionMode = .onFix then
      let request := s.newRequest .updateTrackingOptions
      let s := s.push .session request
      if entity.sessionMode = .onFix then
        ({ s with
            hal := s.hal.sendBoth
              ⟨.updateTrackingOptions, entity.trackingSession, some (.session, request)⟩
            mSessionBiDict := (s.mSessionBiDict.rmById id).set id entity.trackingSession
              { entity with sessionMode := sessionMode } }, .success)
      else
        let s := s.setQueue .session ((s.mRequestQueues .session).setSession 0)
        let stopped := s.hal.send .flp ⟨.stopBatching, entity.batchingSession, none⟩
        let started := stopped.start (Hal.trackingInterface needsGnssTrackingInfo options)
          .startTracking (some (.session, request))
        ({ s with
            hal := started.1
            mSessionBiDict := (s.mSessionBiDict.rmById id).set id started.2
              { entity with
                trackingSession := started.2, batchingSession := 0, sessionMode := sessionMode } },
          .success)
    else
      let request := s.newRequest .updateBatchingOptions
      let s := s.push .session request
      if entity.sessionMode = .onFix then
        let stopped := s.hal.sendBoth ⟨.stopTracking, entity.trackingSession, none⟩
        let started := stopped.start .flp .startBatching (some (.session, request))
        let s := s.setQueue .session ((s.mRequestQueues .session).setSession started.2)
        ({ s with
            hal := started.1
            mSessionBiDict := (s.mSessionBiDict.rmById id).set id started.2
              { entity with
                trackingSession := 0, batchingSession := started.2, sessionMode := sessionMode } },
          .success)
      else
        ({ s with
            hal := s.hal.send .flp
              ⟨.updateBatchingOptions, entity.batchingSession, some (.session, request)⟩
            mSessionBiDict := (s.mSessionBiDict.rmById id).set id entity.batchingSession
              { entity with sessionMode := sessionMode } }, .success)
  else (s, .idUnknown)

/-- `locAPIGetBatchedLocations`. -/
def locAPIGetBatchedLocations (s : LocationAPIClientBase) (id : ℕ) :
    LocationAPIClientBase × LocationError :=
  if s.mSessionBiDict.hasId id then
    let entity := s.mSessionBiDict.getExtById id
    if entity.sessionMode ≠ .onFix then
      let request := s.newRequest .getBatchedLocations
      ({ s.push .session request with
          hal := s.hal.send .flp
            ⟨.getBatchedLocations, entity.batchingSession, some (.session, request)⟩ },
        .success)
    else (s, .notSupported)
  else (s, .idUnknown)

/-- `pop` of one of the queues. -/
def popQueue (s : LocationAPIClientBase) (type : RequestType) :
    LocationAPIClientBase × Option LocationAPIRequest :=
  (s.setQueue type (s.mRequestQueues type).pop.1, (s.mRequestQueues type).pop.2)

/-- `getRequestBySession`. -/
def getRequestBySession (s : LocationAPIClientBase) (session : ℕ) :
    LocationAPIClientBase × Option LocationAPIRequest :=
  let popped :=
    match RequestType.all.find? fun type =>
        type ≠ .geofence && type ≠ .session && (s.mRequestQueues type).mSession = session with
    | some type => s.popQueue type
    | none => (s, none)
  match popped.2 with
  | some request => (popped.1, some request)
  | none =>
      if popped.1.mSessionBiDict.hasSession session then popped.1.popQueue .session
      else (popped.1, none)

/-- `removeSession`. -/
def removeSession (s : LocationAPIClientBase) (session : ℕ) : LocationAPIClientBase :=
  if s.mSessionBiDict.hasSession session then
    { s with mSessionBiDict := s.mSessionBiDict.rmBySession session }
  else s

/-- `onResponse` of a request: the session is gone after a failed start and a successful stop. -/
def onResponse (s : LocationAPIClientBase) (request : LocationAPIRequest) (error : LocationError)
    (id : ℕ) : LocationAPIClientBase :=
  if request.kind.isStart then (if error ≠ .success then s.removeSession id else s)
  else if request.kind.isStop then (if error = .success then s.removeSession id else s)
  else s

/-- `onResponseCb`: the client, and the request whose callback is called. -/
def onResponseCb (s : LocationAPIClientBase) (error : LocationError) (id : ℕ) :
    LocationAPIClientBase × Option LocationAPIRequest :=
  let found := s.getRequestBySession id
  match found.2 with
  | some request => (found.1.onResponse request error id, some request)
  | none => (found.1, none)

/-- What is observed: the result of a call, and the response to a command with the request that it
is dispatched to. -/
inductive Output where
  | returned (error : LocationError)
  | dispatched (command : HalCommand) (request : Option LocationAPIRequest)
deriving DecidableEq, Repr

/-- The request of a session call is no longer waited for once its command is answered. -/
def markAnswered (unanswered : List LocationAPIRequest) :
    Option (RequestType × LocationAPIRequest) → List LocationAPIRequest
  | some (.session, request) => unanswered.erase request
  | _ => unanswered

/-- An interface takes its next command, and ignores it or answers it with `error`. -/
def answer (s : LocationAPIClientBase) (i : HalInterface) (error : LocationError) :
    LocationAPIClientBase × List Output :=
  match s.hal.commands i with
  | [] => (s, [])
  | c :: commands =>
      if s.hal.Answers i c then
        let responded := { s with
            hal := s.hal.take i commands (Hal.answered (s.hal.live i) c error)
            unanswered := markAnswered s.unanswered c.cause }.onResponseCb error c.session
        (responded.1, [.dispatched c responded.2])
      else ({ s with hal := s.hal.take i commands (s.hal.live i) }, [])

/-- A call of the client, or an answer of the HAL. -/
inductive Event where
  | locAPIStartTracking (options : LocationOptions)
  | locAPIStopTracking
  | locAPIUpdateTrackingOptions
  | locAPIStartSession (id : ℕ) (sessionMode : SessionMode) (options : LocationOptions)
  | locAPIStopSession (id : ℕ)
  | locAPIUpdateSessionOptions (id : ℕ) (sessionMode : SessionMode) (options : LocationOptions)
  | locAPIGetBatchedLocations (id : ℕ)
  | answer (i : HalInterface) (error : LocationError)
deriving DecidableEq, Repr

/-- The outcome of a call with its result observed. -/
def returning (result : LocationAPIClientBase × LocationError) :
    LocationAPIClientBase × List Output :=
  (result.1, [.returned result.2])

/-- One event. -/
def step (needsGnssTrackingInfo : Bool) (s : LocationAPIClientBase) :
    Event → LocationAPIClientBase × List Output
  | .locAPIStartTracking options =>
      returning (s.locAPIStartTracking needsGnssTrackingInfo options)
  | .locAPIStopTracking => (s.locAPIStopTracking, [])
  | .locAPIUpdateTrackingOptions => (s.locAPIUpdateTrackingOptions, [])
  | .locAPIStartSession id sessionMode options =>
      returning (s.locAPIStartSession needsGnssTrackingInfo id sessionMode options)
  | .locAPIStopSession id => returning (s.locAPIStopSession id)
  | .locAPIUpdateSessionOptions id sessionMode options =>
      returning (s.locAPIUpdateSessionOptions needsGnssTrackingInfo id sessionMode options)
  | .locAPIGetBatchedLocations id => returning (s.locAPIGetBatchedLocations id)
  | .answer i error => s.answer i error

/-- The client and the HAL as a machine. -/
def machine (needsGnssTrackingInfo : Bool) : Machine LocationAPIClientBase Event Output :=
  ⟨step needsGnssTrackingInfo⟩

end LocationAPIClientBase

end LocHal
