import LocHal.Gnss.AgpsCallbacks
import Mathlib.Data.Fintype.Basic

/-!
# The AGPS manager (`gps/gnss/Agps.cpp`)

`AgpsManager` owns up to three state machines: `mAgnssNif` for SUPL, `mInternetNif` for everything
else, and, when emergency SUPL is to use the emergency PDN, `mDsNif` of the class `DSStateMachine`.
It picks the machine by the AGPS type of a request or report, and looks for a released handle in
all of them.
-/

namespace LocHal

/-! ## `DSStateMachine` -/

/-- What the DS client functions answer: whether `mDSClientStopDataCallFn` is registered, the result
of `mDSClientOpenAndStartDataCallFn` if it is registered, and whether `loc_timer_start` answers
with a timer. -/
structure DSClient where
  stopDataCallFn : Bool
  openAndStartDataCallFn : Option ℤ
  timerStarted : Bool
deriving DecidableEq, Repr

namespace DSStateMachine

/-- `MAX_START_DATA_CALL_RETRIES`. -/
def maxStartDataCallRetries : ℕ := 4

/-- `DATA_CALL_RETRY_DELAY_MSEC`. -/
def dataCallRetryDelayMsec : ℕ := 500

/-- `LOC_API_ADAPTER_ERR_UNSUPPORTED`. -/
def errUnsupported : ℤ := 2

/-- `LOC_API_ADAPTER_ERR_ENGINE_BUSY`. -/
def errEngineBusy : ℤ := 6

/-- `notifyEventToSubscriber`. -/
def notifyEventToSubscriber (sm : AgpsStateMachine) (event : AgpsEvent)
    (subscriberToNotify : AgpsSubscriber) (deleteSubscriberPostNotify : Bool) :
    AgpsStateMachine × List AgpsOutput :=
  let sm' := if event = .denied then { sm with mRetries := 0 } else sm
  (if deleteSubscriberPostNotify then sm'.deleteSubscriber subscriberToNotify else sm',
    match event with
    | .granted => [.atlOpenStatus subscriberToNotify.mConnHandle true none .invalid .suplEs]
    | .denied => [.msgRequestATL subscriberToNotify.mConnHandle .supl]
    | .unsubscribe => [.atlCloseStatus subscriberToNotify.mConnHandle true]
    | .released => [.dsClientCloseDataCall, .atlCloseStatus subscriberToNotify.mConnHandle true]
    | .subscribe => [])

/-- `requestOrReleaseDataConn`. -/
def requestOrReleaseDataConn (client : DSClient) (sm : AgpsStateMachine) (request : Bool) :
    AgpsStateMachine × ℤ × List AgpsOutput :=
  if !request && client.stopDataCallFn then (sm, 0, [.dsClientStopDataCall])
  else
    match sm.getFirstSubscriber false with
    | none => (sm, -1, [])
    | some subscriber =>
        match client.openAndStartDataCallFn with
        | none =>
            let denied := notifyEventToSubscriber sm .denied subscriber false
            (denied.1, -1, denied.2)
        | some ret =>
            if ret = errEngineBusy then
              let sm' := { sm with mRetries := sm.mRetries + 1 }
              if sm'.mRetries > maxStartDataCallRetries then
                let denied := notifyEventToSubscriber sm' .denied subscriber false
                (denied.1, ret, .dsClientOpenAndStartDataCall :: denied.2)
              else
                -- a timer that was started is taken for an error, and the result is `-1`
                (sm', if client.timerStarted then -1 else ret,
                  [.dsClientOpenAndStartDataCall, .startRetryTimer dataCallRetryDelayMsec])
            else if ret = errUnsupported then
              let denied := notifyEventToSubscriber sm .denied subscriber false
              (denied.1, ret, .dsClientOpenAndStartDataCall :: denied.2)
            else (sm, ret, [.dsClientOpenAndStartDataCall])

/-- The methods of `DSStateMachine`. -/
def methods (client : DSClient) : AgpsMethods :=
  ⟨requestOrReleaseDataConn client, notifyEventToSubscriber⟩

/-- `processAgpsEvent`: a `RELEASED` in `PENDING` is taken for a `DENIED`. -/
def call (client : DSClient) (sm : AgpsStateMachine) (c : AgpsStateMachine.Call) :
    AgpsStateMachine × List AgpsOutput :=
  if c = .released ∧ sm.mState = .pending then AgpsStateMachine.call (methods client) sm .denied
  else AgpsStateMachine.call (methods client) sm c

/-- `retryCallback`. -/
def retryCallback (sm : AgpsStateMachine) : List AgpsOutput :=
  match sm.getFirstSubscriber false with
  | some subscriber => [.msgRequestATL subscriber.mConnHandle .suplEs]
  | none => []

end DSStateMachine

/-! ## `AgpsManager` -/

/-- The three pointers to state machines. -/
inductive Nif where
  | agnss
  | internet
  | ds
deriving DecidableEq, Repr

instance : Fintype Nif := ⟨{.agnss, .internet, .ds}, by rintro (_ | _ | _) <;> decide⟩

/-- What the manager reads from the configuration, and the result of `mDSClientInitFn` if it is
registered. -/
structure AgpsConf where
  agpsCapable : Bool
  useEmergencyPdnForEmergencySupl : Bool
  dsClientInitFn : Option ℤ
deriving DecidableEq, Repr

/-- `AgpsManager`. -/
structure AgpsManager where
  mAgnssNif : Option AgpsStateMachine
  mInternetNif : Option AgpsStateMachine
  mDsNif : Option AgpsStateMachine
deriving DecidableEq, Repr

namespace AgpsManager

/-- The constructor. -/
def init : AgpsManager := ⟨none, none, none⟩

/-- The machine a pointer points to, `none` when it is null. -/
def nif (m : AgpsManager) : Nif → Option AgpsStateMachine
  | .agnss => m.mAgnssNif
  | .internet => m.mInternetNif
  | .ds => m.mDsNif

/-- The manager after a change to one machine. -/
def setNif (m : AgpsManager) : Nif → AgpsStateMachine → AgpsManager
  | .agnss, sm => { m with mAgnssNif := some sm }
  | .internet, sm => { m with mInternetNif := some sm }
  | .ds, sm => { m with mDsNif := some sm }

/-- `createAgpsStateMachines`. -/
def createAgpsStateMachines (conf : AgpsConf) (m : AgpsManager) : AgpsManager × List AgpsOutput :=
  let m := if m.mInternetNif.isNone then m.setNif .internet (.init .wwanAny) else m
  if conf.agpsCapable then
    let m := if m.mAgnssNif.isNone then m.setNif .agnss (.init .supl) else m
    if m.mDsNif.isNone && conf.useEmergencyPdnForEmergencySupl then
      match conf.dsClientInitFn with
      | none => (m, [])
      | some ret =>
          if ret ≠ 0 then (m, [.dsClientInit false])
          else (m.setNif .ds (.init .suplEs), [.dsClientInit false])
    else (m, [])
  else (m, [])

/-- `getAgpsStateMachine`: the pointer for an AGPS type, and what creating a missing machine did. -/
def getAgpsStateMachine (conf : AgpsConf) (m : AgpsManager) :
    AGpsExtType → AgpsManager × Nif × List AgpsOutput
  | .invalid => (m, .agnss, [])
  | .supl => (m, .agnss, [])
  | .suplEs =>
      if conf.useEmergencyPdnForEmergencySupl then
        if m.mDsNif.isNone then
          let created := createAgpsStateMachines conf m
          (created.1, .ds, created.2)
        else (m, .ds, [])
      else (m, .agnss, [])
  | .any => (m, .internet, [])
  | .c2k => (m, .internet, [])
  | .wwanAny => (m, .internet, [])
  | .wifi => (m, .internet, [])
  | .other _ => (m, .internet, [])

/-- A call on the machine that a pointer points to, by the methods of its class. -/
def process (client : DSClient) (m : AgpsManager) (n : Nif) (c : AgpsStateMachine.Call) :
    AgpsManager × List AgpsOutput :=
  match m.nif n with
  | none => (m, [.nullDereference])
  | some sm =>
      let processed :=
        if n = .ds then DSStateMachine.call client sm c
        else AgpsStateMachine.call AgpsStateMachine.base sm c
      (m.setNif n processed.1, processed.2)

/-- `requestATL`. -/
def requestATL (conf : AgpsConf) (client : DSClient) (m : AgpsManager) (connHandle : ℤ)
    (agpsType : AGpsExtType) : AgpsManager × List AgpsOutput :=
  let found := getAgpsStateMachine conf m agpsType
  match found.1.nif found.2.1 with
  | none => (found.1, found.2.2 ++ [.atlOpenStatus connHandle false none .invalid agpsType])
  | some _ =>
      let processed := process client found.1 found.2.1 (.subscribe connHandle (agpsType = .suplEs))
      (processed.1, found.2.2 ++ processed.2)

/-- Whether the machine is there and lists the handle. -/
def finds (m : AgpsManager) (n : Nif) (connHandle : ℤ) : Bool :=
  match m.nif n with
  | some sm => (sm.getSubscriber connHandle).isSome
  | none => false

/-- `releaseATL`. -/
def releaseATL (client : DSClient) (m : AgpsManager) (connHandle : ℤ) :
    AgpsManager × List AgpsOutput :=
  if m.finds .agnss connHandle then process client m .agnss (.unsubscribe connHandle)
  else if m.finds .internet connHandle then process client m .internet (.unsubscribe connHandle)
  else if m.finds .ds connHandle then process client m .ds (.unsubscribe connHandle)
  else (m, [.atlCloseStatus connHandle false])

/-- `reportDataCallOpened` and `reportDataCallClosed`. -/
def reportDataCall (client : DSClient) (m : AgpsManager) (c : AgpsStateMachine.Call) :
    AgpsManager × List AgpsOutput :=
  if m.mDsNif.isSome then process client m .ds c else (m, [])

/-- `reportAtlOpenSuccess`. -/
def reportAtlOpenSuccess (conf : AgpsConf) (client : DSClient) (m : AgpsManager)
    (agpsType : AGpsExtType) (apnName : Option (List Char)) (apnLen : ℕ)
    (bearerType : AGpsBearerType) : AgpsManager × List AgpsOutput :=
  let found := getAgpsStateMachine conf m agpsType
  match found.1.nif found.2.1 with
  | none => (found.1, found.2.2 ++ [.nullDereference])
  | some sm =>
      let m := found.1.setNif found.2.1 ((sm.setBearer bearerType).setAPN apnName apnLen)
      let processed := process client m found.2.1 .granted
      (processed.1, found.2.2 ++ processed.2)

/-- `reportAtlOpenFailed` and `reportAtlClosed`, which send `DENIED` and `RELEASED`. -/
def reportAtl (conf : AgpsConf) (client : DSClient) (m : AgpsManager) (agpsType : AGpsExtType)
    (c : AgpsStateMachine.Call) : AgpsManager × List AgpsOutput :=
  let found := getAgpsStateMachine conf m agpsType
  let processed := process client found.1 found.2.1 c
  (processed.1, found.2.2 ++ processed.2)

/-- `handleModemSSR`. -/
def handleModemSSR (conf : AgpsConf) (m : AgpsManager) : AgpsManager × List AgpsOutput :=
  (⟨m.mAgnssNif.map (·.dropAllSubscribers), m.mInternetNif.map (·.dropAllSubscribers),
      m.mDsNif.map (·.dropAllSubscribers)⟩,
    if conf.useEmergencyPdnForEmergencySupl then
      [.dsClientStopDataCall, .dsClientCloseDataCall, .dsClientRelease, .dsClientInit true]
    else [])

/-- The calls on the manager. -/
inductive Call where
  | createAgpsStateMachines
  | requestATL (connHandle : ℤ) (agpsType : AGpsExtType)
  | releaseATL (connHandle : ℤ)
  | reportDataCallOpened
  | reportDataCallClosed
  | reportAtlOpenSuccess (agpsType : AGpsExtType) (apnName : Option (List Char)) (apnLen : ℕ)
      (bearerType : AGpsBearerType)
  | reportAtlOpenFailed (agpsType : AGpsExtType)
  | reportAtlClosed (agpsType : AGpsExtType)
  | retryCallback
  | handleModemSSR
deriving DecidableEq, Repr

/-- One call on the manager. -/
def call (conf : AgpsConf) (client : DSClient) (m : AgpsManager) :
    Call → AgpsManager × List AgpsOutput
  | .createAgpsStateMachines => createAgpsStateMachines conf m
  | .requestATL connHandle agpsType => requestATL conf client m connHandle agpsType
  | .releaseATL connHandle => releaseATL client m connHandle
  | .reportDataCallOpened => reportDataCall client m .granted
  | .reportDataCallClosed => reportDataCall client m .released
  | .reportAtlOpenSuccess agpsType apnName apnLen bearerType =>
      reportAtlOpenSuccess conf client m agpsType apnName apnLen bearerType
  | .reportAtlOpenFailed agpsType => reportAtl conf client m agpsType .denied
  | .reportAtlClosed agpsType => reportAtl conf client m agpsType .released
  | .retryCallback => (m, (m.mDsNif.map DSStateMachine.retryCallback).getD [])
  | .handleModemSSR => handleModemSSR conf m

/-- The manager as a machine over its calls. -/
def machine (conf : AgpsConf) (client : DSClient) : Machine AgpsManager Call AgpsOutput :=
  ⟨call conf client⟩

end AgpsManager

end LocHal
