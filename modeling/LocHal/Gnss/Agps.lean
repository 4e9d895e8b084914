import LocHal.Lib.Machine

/-!
# AGPS state machines (`gps/gnss/Agps.cpp`)

The modem asks for a data connection on behalf of a connection handle (`SUBSCRIBE`) and gives it up
(`UNSUBSCRIBE`).  A state machine keeps the handles in `mSubscriberList`, asks the framework for one
connection for all of them, and reports back what became of it: `atlOpenStatus` when the connection
is granted or denied, `atlCloseStatus` when the handle is done with.

`AgpsStateMachine` is the base class.  Its two virtual methods are `AgpsMethods`, so that the event
processing is written once, as in the source, and runs with whichever methods a class provides;
`AgpsStateMachine.base` are those of the base class.

`mCurrentSubscriber` is set right before each event that reads it and is an argument here.  After
`deleteSubscriber` has freed the subscriber it was given, the source goes on comparing handles
with it; the handle it then reads is taken to be the one it had.
-/

namespace LocHal

/-- `AgpsState`. -/
inductive AgpsState where
  | released
  | pending
  | acquired
  | releasing
deriving DecidableEq, Repr

/-- `AgpsEvent`. -/
inductive AgpsEvent where
  | subscribe
  | unsubscribe
  | granted
  | released
  | denied
deriving DecidableEq, Repr

/-- `AGpsExtType`, an integer type of which some values have names. -/
inductive AGpsExtType where
  | invalid
  | any
  | supl
  | c2k
  | wwanAny
  | wifi
  | suplEs
  | other (value : ℤ)
deriving DecidableEq, Repr

/-- `AGpsBearerType`, an integer type of which some values have names. -/
inductive AGpsBearerType where
  | invalid
  | ipv4
  | ipv6
  | ipv4v6
  | other (value : ℤ)
deriving DecidableEq, Repr

/-- `AgpsSubscriber`. -/
structure AgpsSubscriber where
  mConnHandle : ℤ
  mWaitForCloseComplete : Bool
  mIsInactive : Bool
deriving DecidableEq, Repr

/-- `AgpsSubscriber::equals`. -/
def AgpsSubscriber.equals (a b : AgpsSubscriber) : Bool := a.mConnHandle == b.mConnHandle

/-- `AgpsNotificationType`. -/
inductive AgpsNotificationType where
  | forAllSubscribers
  | forInactiveSubscribers
  | forActiveSubscribers
deriving DecidableEq, Repr

/-- Whether a notification type is meant for a subscriber. -/
def AgpsNotificationType.selects : AgpsNotificationType → AgpsSubscriber → Bool
  | .forAllSubscribers, _ => true
  | .forInactiveSubscribers, s => s.mIsInactive
  | .forActiveSubscribers, s => !s.mIsInactive

/-- What the state machines and their manager send: `mFrameworkStatusV4Cb` with a request or a
release of the data connection, the two callbacks of the modem, the calls on the DS client, the
start of the retry timer, and the `AgpsMsgRequestATL` put on the adapter's queue.
`nullDereference` stands for a call on a machine that was never created. -/
inductive AgpsOutput where
  | requestDataConn (type : AGpsExtType)
  | releaseDataConn (type : AGpsExtType)
  | atlOpenStatus (handle : ℤ) (isSuccess : Bool) (apn : Option (List Char))
      (bearerType : AGpsBearerType) (agpsType : AGpsExtType)
  | atlCloseStatus (handle : ℤ) (isSuccess : Bool)
  | dsClientInit (isDueToSSR : Bool)
  | dsClientOpenAndStartDataCall
  | dsClientStopDataCall
  | dsClientCloseDataCall
  | dsClientRelease
  | startRetryTimer (msec : ℕ)
  | msgRequestATL (connHandle : ℤ) (agpsType : AGpsExtType)
  | nullDereference
deriving DecidableEq, Repr

/-- `AgpsStateMachine`, with the one field that `DSStateMachine` adds to it: `mRetries` stays zero
in a machine of the base class. -/
structure AgpsStateMachine where
  mSubscriberList : List AgpsSubscriber
  mState : AgpsState
  mAgpsType : AGpsExtType
  mAPN : Option (List Char)
  mBearer : AGpsBearerType
  mRetries : ℕ
deriving DecidableEq, Repr

/-- The virtual methods of a state machine that event processing calls. -/
structure AgpsMethods where
  requestOrReleaseDataConn : AgpsStateMachine → Bool → AgpsStateMachine × ℤ × List AgpsOutput
  notifyEventToSubscriber :
    AgpsStateMachine → AgpsEvent → AgpsSubscriber → Bool → AgpsStateMachine × List AgpsOutput

namespace AgpsStateMachine

/-- The constructor. -/
def init (agpsType : AGpsExtType) : AgpsStateMachine := ⟨[], .released, agpsType, none, .invalid, 0⟩

/-! ## The subscriber list -/

/-- `getSubscriber`. -/
def getSubscriber (sm : AgpsStateMachine) (connHandle : ℤ) : Option AgpsSubscriber :=
  sm.mSubscriberList.find? fun s => s.mConnHandle == connHandle

/-- `getFirstSubscriber`. -/
def getFirstSubscriber (sm : AgpsStateMachine) (isInactive : Bool) : Option AgpsSubscriber :=
  sm.mSubscriberList.find? fun s => s.mIsInactive == isInactive

/-- `anyActiveSubscribers`. -/
def anyActiveSubscribers (sm : AgpsStateMachine) : Bool :=
  sm.mSubscriberList.any fun s => !s.mIsInactive

/-- `addSubscriber`: push a clone to the back of the list, unless its handle is listed. -/
def addSubscriber (sm : AgpsStateMachine) (subscriberToAdd : AgpsSubscriber) : AgpsStateMachine :=
  if sm.mSubscriberList.any fun s => s.equals subscriberToAdd then sm
  else { sm with mSubscriberList := sm.mSubscriberList ++ [subscriberToAdd] }

/-- `deleteSubscriber`. -/
def deleteSubscriber (sm : AgpsStateMachine) (subscriberToDelete : AgpsSubscriber) :
    AgpsStateMachine :=
  { sm with mSubscriberList := sm.mSubscriberList.filter fun s => !s.equals subscriberToDelete }

/-- `mCurrentSubscriber->mIsInactive = true`, where `mCurrentSubscriber` points into the list. -/
def setInactive (sm : AgpsStateMachine) (subscriber : AgpsSubscriber) : AgpsStateMachine :=
  { sm with mSubscriberList := sm.mSubscriberList.map fun s =>
      if s.equals subscriber then { s with mIsInactive := true } else s }

/-- `transitionState`. -/
def transitionState (sm : AgpsStateMachine) (newState : AgpsState) : AgpsStateMachine :=
  { sm with mState := newState }

/-- `setAPN`. -/
def setAPN (sm : AgpsStateMachine) (apn : Option (List Char)) (len : ℕ) : AgpsStateMachine :=
  { sm with mAPN := apn.map (List.take len) }

/-- `setBearer`. -/
def setBearer (sm : AgpsStateMachine) (bearer : AGpsBearerType) : AgpsStateMachine :=
  { sm with mBearer := bearer }

/-- `dropAllSubscribers`. -/
def dropAllSubscribers (sm : AgpsStateMachine) : AgpsStateMachine :=
  { sm with mSubscriberList := [] }

/-! ## The methods of the base class -/

/-- `requestOrReleaseDataConn`. -/
def requestOrReleaseDataConn (sm : AgpsStateMachine) (request : Bool) :
    AgpsStateMachine × ℤ × List AgpsOutput :=
  (sm, 0, [if request then .requestDataConn sm.mAgpsType else .releaseDataConn sm.mAgpsType])

/-- `notifyEventToSubscriber`. -/
def notifyEventToSubscriber (sm : AgpsStateMachine) (event : AgpsEvent)
    (subscriberToNotify : AgpsSubscriber) (deleteSubscriberPostNotify : Bool) :
    AgpsStateMachine × List AgpsOutput :=
  (if deleteSubscriberPostNotify then sm.deleteSubscriber subscriberToNotify else sm,
    match event with
    | .granted =>
        [.atlOpenStatus subscriberToNotify.mConnHandle true sm.mAPN sm.mBearer sm.mAgpsType]
    | .denied =>
        [.atlOpenStatus subscriberToNotify.mConnHandle false sm.mAPN sm.mBearer sm.mAgpsType]
    | .unsubscribe => [.atlCloseStatus subscriberToNotify.mConnHandle true]
    | .released => [.atlCloseStatus subscriberToNotify.mConnHandle true]
    | .subscribe => [])

/-- The methods of the base class. -/
def base : AgpsMethods := ⟨requestOrReleaseDataConn, notifyEventToSubscriber⟩

/-! ## Event processing -/

variable (v : AgpsMethods)

/-- The loop of `notifyAllSubscribers` over what the iterator has yet to visit: the state machine,
the subscribers left of those, and what is sent. -/
def notifyLoop (event : AgpsEvent) (deleteSubscriberPostNotify : Bool)
    (notificationType : AgpsNotificationType) :
    AgpsStateMachine → List AgpsSubscriber →
      AgpsStateMachine × List AgpsSubscriber × List AgpsOutput
  | sm, [] => (sm, [], [])
  | sm, subscriber :: rest =>
      if notificationType.selects subscriber then
        let notified := v.notifyEventToSubscriber sm event subscriber false
        let loop := notifyLoop event deleteSubscriberPostNotify notificationType notified.1 rest
        (loop.1, if deleteSubscriberPostNotify then loop.2.1 else subscriber :: loop.2.1,
          notified.2 ++ loop.2.2)
      else
        let loop := notifyLoop event deleteSubscriberPostNotify notificationType sm rest
        (loop.1, subscriber :: loop.2.1, loop.2.2)

/-- `notifyAllSubscribers`. -/
def notifyAllSubscribers (sm : AgpsStateMachine) (event : AgpsEvent)
    (deleteSubscriberPostNotify : Bool) (notificationType : AgpsNotificationType) :
    AgpsStateMachine × List AgpsOutput :=
  let loop := notifyLoop v event deleteSubscriberPostNotify notificationType sm sm.mSubscriberList
  ({ loop.1 with mSubscriberList := loop.2.1 }, loop.2.2)

/-- `processAgpsEventSubscribe`. -/
def processAgpsEventSubscribe (sm : AgpsStateMachine) (mCurrentSubscriber : AgpsSubscriber) :
    AgpsStateMachine × List AgpsOutput :=
  match sm.mState with
  | .released =>
      let requested := v.requestOrReleaseDataConn (sm.addSubscriber mCurrentSubscriber) true
      (if requested.2.1 = 0 then requested.1.transitionState .pending else requested.1,
        requested.2.2)
  | .pending => (sm.addSubscriber mCurrentSubscriber, [])
  | .acquired =>
      let notified := v.notifyEventToSubscriber sm .granted mCurrentSubscriber false
      (notified.1.addSubscriber mCurrentSubscriber, notified.2)
  | .releasing => (sm.addSubscriber mCurrentSubscriber, [])

/-- The step shared by the three states that take an `UNSUBSCRIBE`: a subscriber that waits for
close becomes inactive, any other is notified and deleted. -/
def releaseSubscriber (sm : AgpsStateMachine) (mCurrentSubscriber : AgpsSubscriber) :
    AgpsStateMachine × List AgpsOutput :=
  if mCurrentSubscriber.mWaitForCloseComplete then (sm.setInactive mCurrentSubscriber, [])
  else v.notifyEventToSubscriber sm .unsubscribe mCurrentSubscriber true

/-- The part of `processAgpsEventUnsubscribe` for `PENDING` and `ACQUIRED`. -/
def unsubscribeConnected (sm : AgpsStateMachine) (mCurrentSubscriber : AgpsSubscriber) :
    AgpsStateMachine × List AgpsOutput :=
  let left := releaseSubscriber v sm mCurrentSubscriber
  if left.1.mSubscriberList.isEmpty then
    let released := v.requestOrReleaseDataConn (left.1.transitionState .released) false
    (released.1, left.2 ++ released.2.2)
  else if !left.1.anyActiveSubscribers then
    let released := v.requestOrReleaseDataConn (left.1.transitionState .releasing) false
    (released.1, left.2 ++ released.2.2)
  else left

/-- `processAgpsEventUnsubscribe`. -/
def processAgpsEventUnsubscribe (sm : AgpsStateMachine) (mCurrentSubscriber : AgpsSubscriber) :
    AgpsStateMachine × List AgpsOutput :=
  match sm.mState with
  | .released => v.notifyEventToSubscriber sm .unsubscribe mCurrentSubscriber false
  | .pending => unsubscribeConnected v sm mCurrentSubscriber
  | .acquired => unsubscribeConnected v sm mCurrentSubscriber
  | .releasing =>
      let left := releaseSubscriber v sm mCurrentSubscriber
      if left.1.mSubscriberList.isEmpty then (left.1.transitionState .released, left.2) else left

/-- `processAgpsEventGranted`. -/
def processAgpsEventGranted (sm : AgpsStateMachine) : AgpsStateMachine × List AgpsOutput :=
  match sm.mState with
  | .pending =>
      notifyAllSubscribers v (sm.transitionState .acquired) .granted false .forActiveSubscribers
  | .released => (sm, [])
  | .acquired => (sm, [])
  | .releasing => (sm, [])

/-- What `RELEASED` and `DENIED` both do in `RELEASING`. -/
def finishReleasing (sm : AgpsStateMachine) : AgpsStateMachine × List AgpsOutput :=
  let notified := notifyAllSubscribers v sm .released true .forInactiveSubscribers
  if notified.1.anyActiveSubscribers then
    -- the active ones came while the connection was going down and need a new one
    let requested := v.requestOrReleaseDataConn (notified.1.transitionState .pending) true
    (requested.1, notified.2 ++ requested.2.2)
  else (notified.1.transitionState .released, notified.2)

/-- `processAgpsEventReleased`. -/
def processAgpsEventReleased (sm : AgpsStateMachine) : AgpsStateMachine × List AgpsOutput :=
  match sm.mState with
  | .released => (sm, [])
  | .acquired =>
      notifyAllSubscribers v (sm.transitionState .released) .released true .forAllSubscribers
  | .releasing => finishReleasing v sm
  | .pending => (sm, [])

/-- `processAgpsEventDenied`. -/
def processAgpsEventDenied (sm : AgpsStateMachine) : AgpsStateMachine × List AgpsOutput :=
  match sm.mState with
  | .released => (sm, [])
  | .acquired => (sm, [])
  | .releasing => finishReleasing v sm
  | .pending =>
      notifyAllSubscribers v (sm.transitionState .released) .denied true .forAllSubscribers

/-- What reaches one state machine from outside.  An `UNSUBSCRIBE` names its subscriber by its
handle: the caller looks it up with `getSubscriber` and makes no call when it is not listed. -/
inductive Call where
  | subscribe (connHandle : ℤ) (waitForCloseComplete : Bool)
  | unsubscribe (connHandle : ℤ)
  | granted
  | released
  | denied
  | dropAllSubscribers
deriving DecidableEq, Repr

/-- One call on a state machine. -/
def call (sm : AgpsStateMachine) : Call → AgpsStateMachine × List AgpsOutput
  | .subscribe connHandle waitForCloseComplete =>
      processAgpsEventSubscribe v sm ⟨connHandle, waitForCloseComplete, false⟩
  | .unsubscribe connHandle =>
      match sm.getSubscriber connHandle with
      | some subscriber => processAgpsEventUnsubscribe v sm subscriber
      | none => (sm, [])
  | .granted => processAgpsEventGranted v sm
  | .released => processAgpsEventReleased v sm
  | .denied => processAgpsEventDenied v sm
  | .dropAllSubscribers => (sm.dropAllSubscribers, [])

/-- A state machine of the base class. -/
def machine : Machine AgpsStateMachine Call AgpsOutput := ⟨call base⟩

/-! ## Closed forms for the base class -/

section Base

variable (sm : AgpsStateMachine) (event : AgpsEvent) (notificationType : AgpsNotificationType)

/-- What the base class sends to one subscriber. -/
def notice (subscriber : AgpsSubscriber) : List AgpsOutput :=
  (sm.notifyEventToSubscriber event subscriber false).2

lemma notifyLoop_base (delete : Bool) (l : List AgpsSubscriber) :
    notifyLoop base event delete notificationType sm l =
      (sm, if delete then l.filter fun s => !notificationType.selects s else l,
        (l.filter notificationType.selects).flatMap (sm.notice event)) := by
  induction l with
  | nil => cases delete <;> rfl
  | cons s rest ih =>
      have hnotify : base.notifyEventToSubscriber sm event s false = (sm, sm.notice event s) := rfl
      simp only [notifyLoop, hnotify, ih]
      cases hs : notificationType.selects s <;> cases delete <;> simp [hs]

/-- In the base class a notification of all keeps the state, notifies the subscribers meant, and
takes exactly these out of the list when it deletes. -/
lemma notifyAllSubscribers_base (delete : Bool) :
    notifyAllSubscribers base sm event delete notificationType =
      ({ sm with mSubscriberList :=
          if delete then sm.mSubscriberList.filter fun s => !notificationType.selects s
          else sm.mSubscriberList },
        (sm.mSubscriberList.filter notificationType.selects).flatMap (sm.notice event)) := by
  simp only [notifyAllSubscribers, notifyLoop_base]

end Base

end AgpsStateMachine

end LocHal
