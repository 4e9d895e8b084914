import LocHal.Lib.Machine
import Mathlib.Data.List.Basic
import Mathlib.Order.Compare

/-!
# The event mask (`gps/gnss/GnssAdapter.cpp`)

`mEvtMask` tells the engine which events the adapter wants.  It follows from the clients' callbacks,
from `mNmeaMask` and from the AGPS and ODCPI callbacks, and is kept beside them: a client that comes
or goes has it computed afresh, the two initialisations add their bit to it, and a new configuration
does nothing about it although it sets `mNmeaMask`.

`evtMask_follows_iff` says when that does no harm.  The configuration itself does not change while
the adapter runs, but the engine may come to support more features.
-/

namespace LocHal
namespace GnssAdapter

/-- `LOC_API_ADAPTER_EVENT_MASK_T`. -/
abbrev EventMask := BitVec 64

/-- `LOC_API_ADAPTER_BIT_PARSED_POSITION_REPORT`. -/
def bitParsedPositionReport : EventMask := 1 <<< 0

/-- `LOC_API_ADAPTER_BIT_SATELLITE_REPORT`. -/
def bitSatelliteReport : EventMask := 1 <<< 1

/-- `LOC_API_ADAPTER_BIT_NMEA_1HZ_REPORT`. -/
def bitNmea1HzReport : EventMask := 1 <<< 2

/-- `LOC_API_ADAPTER_BIT_NI_NOTIFY_VERIFY_REQUEST`. -/
def bitNiNotifyVerifyRequest : EventMask := 1 <<< 4

/-- `LOC_API_ADAPTER_BIT_LOCATION_SERVER_REQUEST`. -/
def bitLocationServerRequest : EventMask := 1 <<< 6

/-- `LOC_API_ADAPTER_BIT_REQUEST_WIFI`. -/
def bitRequestWifi : EventMask := 1 <<< 9

/-- `LOC_API_ADAPTER_BIT_GNSS_SV_POLYNOMIAL_REPORT`. -/
def bitGnssSvPolynomialReport : EventMask := 1 <<< 23

/-- `LOC_API_ADAPTER_BIT_GNSS_MEASUREMENT`. -/
def bitGnssMeasurement : EventMask := 1 <<< 26

/-- `LOC_NMEA_ALL_GENERAL_SUPPORTED_MASK`. -/
def nmeaAllGeneralSupportedMask : BitVec 32 := 0x1ffff

/-- `LOC_NMEA_MASK_DEBUG_V02`. -/
def nmeaMaskDebug : BitVec 32 := 0x20000

/-- The fields of `ContextBase::mGps_conf` that are read here; `nmeaProviderMp` is
`NMEA_PROVIDER_MP == NMEA_PROVIDER`. -/
structure MaskConf where
  CAPABILITIES : BitVec 32
  nmeaProviderMp : Bool
  EXTERNAL_DR_ENABLED : ℕ
deriving DecidableEq, Repr

/-- The callbacks of `LocationCallbacks` that the mask follows: whether each one is set. -/
structure EventCallbacks where
  trackingCb : Bool
  gnssNiCb : Bool
  gnssSvCb : Bool
  gnssNmeaCb : Bool
  gnssMeasurementsCb : Bool
deriving DecidableEq, Repr

/-- `AgpsCbInfo`; whether the callback is set, and its priority.  The defaults are those of
`mAgpsCbInfo()`. -/
structure AgpsCbInfo where
  statusV4Cb : Bool := false
  cbPriority : ℕ := 0
deriving DecidableEq, Repr

variable {Client : Type*} [LinearOrder Client]

/-- The part of `GnssAdapter` that the mask follows, and whether the engine supports
`LOC_SUPPORTED_FEATURE_DEBUG_NMEA_V02`. -/
structure EventMaskState (Client : Type*) [LinearOrder Client] where
  mClientData : Std.TreeMap Client EventCallbacks compare
  mNmeaMask : BitVec 32
  mAgpsCbInfo : AgpsCbInfo
  mOdcpiRequestCb : Bool
  mEvtMask : EventMask
  debugNmeaSupported : Bool

/-- The messages, with callbacks that are not null.  The engine tells its features when it comes
up, and they only grow. -/
inductive EventMaskMsg (Client : Type*) where
  | addClient (client : Client) (callbacks : EventCallbacks)
  | removeClient (client : Client)
  | setConfig
  | initAgps (cbInfo : AgpsCbInfo) (hcb : cbInfo.statusV4Cb = true)
  | initOdcpi
  | supportFeatures (debugNmea : Bool)

namespace EventMaskState

/-- A new adapter. -/
def new : EventMaskState Client := ⟨∅, 0, {}, false, 0, false⟩

/-- The loop of `updateClientsEventMask`, for one client. -/
def clientEvents (mNmeaMask : BitVec 32) (mask : EventMask) (callbacks : EventCallbacks) :
    EventMask :=
  let mask := if callbacks.trackingCb then mask ||| bitParsedPositionReport else mask
  let mask := if callbacks.gnssNiCb then mask ||| bitNiNotifyVerifyRequest else mask
  let mask := if callbacks.gnssSvCb then mask ||| bitSatelliteReport else mask
  let mask := if callbacks.gnssNmeaCb && mNmeaMask != 0 then mask ||| bitNmea1HzReport else mask
  if callbacks.gnssMeasurementsCb then mask ||| bitGnssMeasurement else mask

/-- The mask that `updateClientsEventMask` computes. -/
def clientsEventMask (conf : MaskConf) (a : EventMaskState Client) : EventMask :=
  let mask := a.mClientData.toList.foldl (fun mask it => clientEvents a.mNmeaMask mask it.2) 0
  let mask := if conf.EXTERNAL_DR_ENABLED = 1 then
      mask ||| bitGnssMeasurement ||| bitGnssSvPolynomialReport else mask
  let mask := if a.mAgpsCbInfo.statusV4Cb then mask ||| bitLocationServerRequest else mask
  if a.mOdcpiRequestCb then mask ||| bitRequestWifi else mask

/-- `updateClientsEventMask`. -/
def updateClientsEventMask (conf : MaskConf) (a : EventMaskState Client) : EventMaskState Client :=
  { a with mEvtMask := a.clientsEventMask conf }

/-- `saveClient`. -/
def saveClient (conf : MaskConf) (a : EventMaskState Client) (client : Client)
    (callbacks : EventCallbacks) : EventMaskState Client :=
  updateClientsEventMask conf { a with mClientData := a.mClientData.insert client callbacks }

/-- `eraseClient`. -/
def eraseClient (conf : MaskConf) (a : EventMaskState Client) (client : Client) :
    EventMaskState Client :=
  updateClientsEventMask conf { a with mClientData := a.mClientData.erase client }

/-- The NMEA types that `MsgSetConfig` sets. -/
def nmeaTypes (conf : MaskConf) (a : EventMaskState Client) : BitVec 32 :=
  let mask := if conf.nmeaProviderMp then nmeaAllGeneralSupportedMask else 0
  if a.debugNmeaSupported then mask ||| nmeaMaskDebug else mask

/-- `MsgSetConfig::proc`. -/
def setConfig (conf : MaskConf) (a : EventMaskState Client) : EventMaskState Client :=
  { a with mNmeaMask := a.nmeaTypes conf }

/-- `initAgps`. -/
def initAgps (conf : MaskConf) (a : EventMaskState Client) (cbInfo : AgpsCbInfo) :
    EventMaskState Client :=
  if conf.CAPABILITIES &&& 2 = 0 ∧ conf.CAPABILITIES &&& 4 = 0 then a
  else if a.mAgpsCbInfo.cbPriority > cbInfo.cbPriority then a
  else
    { a with
      mAgpsCbInfo := cbInfo
      mEvtMask := a.mEvtMask ||| bitLocationServerRequest }

/-- `initOdcpi`. -/
def initOdcpi (a : EventMaskState Client) : EventMaskState Client :=
  { a with mOdcpiRequestCb := true, mEvtMask := a.mEvtMask ||| bitRequestWifi }

/-- `proc` of a message. -/
def proc (conf : MaskConf) (a : EventMaskState Client) : EventMaskMsg Client → EventMaskState Client
  | .addClient client callbacks => a.saveClient conf client callbacks
  | .removeClient client => a.eraseClient conf client
  | .setConfig => a.setConfig conf
  | .initAgps cbInfo _ => a.initAgps conf cbInfo
  | .initOdcpi => a.initOdcpi
  | .supportFeatures debugNmea =>
      { a with debugNmeaSupported := a.debugNmeaSupported || debugNmea }

/-- The adapter as a machine over its messages. -/
def machine (Client : Type*) [LinearOrder Client] (conf : MaskConf) :
    Machine (EventMaskState Client) (EventMaskMsg Client) Empty :=
  ⟨fun a msg => (a.proc conf msg, [])⟩

/-- The adapter after its initial configuration. -/
def configured (conf : MaskConf) (debugNmea : Bool) : EventMaskState Client :=
  setConfig conf { new with debugNmeaSupported := debugNmea }

/-- The mask is the one that would be computed now. -/
def Follows (conf : MaskConf) (a : EventMaskState Client) : Prop :=
  a.mEvtMask = a.clientsEventMask conf

/-- Some client wants NMEA reports. -/
def WantsNmea (a : EventMaskState Client) : Prop :=
  ∃ it ∈ a.mClientData.toList, it.2.gnssNmeaCb = true

/-- A configuration that comes to set NMEA types, when it has set none before, does so while no
client wants NMEA reports. -/
def NmeaSettled (conf : MaskConf) (a : EventMaskState Client) : EventMaskMsg Client → Prop
  | .setConfig => a.mNmeaMask = 0 → a.nmeaTypes conf ≠ 0 → ¬ a.WantsNmea
  | _ => True

section Bits

variable (conf : MaskConf) (a : EventMaskState Client) (m : BitVec 32) (mask : EventMask)

/-- `or` with a constant, one branch of a function that builds a mask. -/
lemma getLsbD_ite_or (c : Bool) (bit : EventMask) (i : ℕ) :
    (if c then mask ||| bit else mask).getLsbD i = (mask.getLsbD i || c && bit.getLsbD i) := by
  cases c with
  | true => simp
  | false => simp

lemma clientEvents_getLsbD_two (callbacks : EventCallbacks) :
    (clientEvents m mask callbacks).getLsbD 2 =
      (mask.getLsbD 2 || callbacks.gnssNmeaCb && m != 0) := by
  have h0 : bitParsedPositionReport.getLsbD 2 = false := by decide
  have h1 : bitNiNotifyVerifyRequest.getLsbD 2 = false := by decide
  have h2 : bitSatelliteReport.getLsbD 2 = false := by decide
  have h3 : bitNmea1HzReport.getLsbD 2 = true := by decide
  have h4 : bitGnssMeasurement.getLsbD 2 = false := by decide
  simp only [clientEvents, getLsbD_ite_or, h0, h1, h2, h3, h4, Bool.and_false, Bool.or_false,
    Bool.and_true]

omit [LinearOrder Client] in
lemma foldl_clientEvents_getLsbD_two (l : List (Client × EventCallbacks)) :
    (l.foldl (fun mask it => clientEvents m mask it.2) mask).getLsbD 2 =
      (mask.getLsbD 2 || l.any (·.2.gnssNmeaCb) && m != 0) := by
  induction l generalizing mask with
  | nil => simp
  | cons it l ih =>
      rw [List.foldl_cons, ih, clientEvents_getLsbD_two, List.any_cons, Bool.and_or_distrib_right,
        Bool.or_assoc]

/-- The bit of the NMEA reports. -/
lemma clientsEventMask_getLsbD_two : (a.clientsEventMask conf).getLsbD 2 = true ↔
    a.WantsNmea ∧ a.mNmeaMask ≠ 0 := by
  have h0 : bitGnssMeasurement.getLsbD 2 = false := by decide
  have h1 : bitGnssSvPolynomialReport.getLsbD 2 = false := by decide
  have h2 : bitLocationServerRequest.getLsbD 2 = false := by decide
  have h3 : bitRequestWifi.getLsbD 2 = false := by decide
  have hdr : ∀ mask : EventMask, (if conf.EXTERNAL_DR_ENABLED = 1 then
      mask ||| bitGnssMeasurement ||| bitGnssSvPolynomialReport else mask).getLsbD 2 =
        mask.getLsbD 2 := by
    intro mask
    split_ifs
    · simp only [BitVec.getLsbD_or, h0, h1, Bool.or_false]
    · rfl
  rw [clientsEventMask, getLsbD_ite_or, getLsbD_ite_or, hdr, foldl_clientEvents_getLsbD_two, h2, h3]
  simp [WantsNmea]

/-- The mask depends on `mNmeaMask` only if a client wants NMEA reports, and then only on whether
there are any types. -/
lemma clientsEventMask_congr (h : a.WantsNmea → (a.mNmeaMask = 0 ↔ m = 0)) :
    clientsEventMask conf { a with mNmeaMask := m } = a.clientsEventMask conf := by
  have hclients : a.mClientData.toList.foldl (fun mask it => clientEvents m mask it.2) 0 =
      a.mClientData.toList.foldl (fun mask it => clientEvents a.mNmeaMask mask it.2) 0 := by
    refine List.foldl_ext _ _ _ fun mask it hit => ?_
    have hsame : (it.2.gnssNmeaCb && m != 0) = (it.2.gnssNmeaCb && a.mNmeaMask != 0) := by
      cases hnmea : it.2.gnssNmeaCb with
      | false => rfl
      | true =>
          have hzero := h ⟨it, hit, hnmea⟩
          simp only [Bool.true_and, bne, beq_eq_decide, hzero]
    rw [clientEvents, clientEvents, hsame]
  simp only [clientsEventMask, hclients]

end Bits

section Steps

variable {conf : MaskConf} {a : EventMaskState Client}

/-- What the engine supports has not become less since the last configuration. -/
def Grown (conf : MaskConf) (a : EventMaskState Client) : Prop :=
  a.mNmeaMask ≠ 0 → a.nmeaTypes conf ≠ 0

lemma nmeaTypes_eq_zero_iff :
    a.nmeaTypes conf = 0 ↔ conf.nmeaProviderMp = false ∧ a.debugNmeaSupported = false := by
  rw [nmeaTypes]
  cases conf.nmeaProviderMp <;> cases a.debugNmeaSupported <;> decide

lemma Grown.proc (h : a.Grown conf) (msg : EventMaskMsg Client) : (a.proc conf msg).Grown conf := by
  cases msg with
  | addClient client callbacks => exact h
  | removeClient client => exact h
  | setConfig => exact id
  | initAgps cbInfo hcb =>
      simp only [EventMaskState.proc, initAgps]
      split_ifs with hcapabilities hpriority
      · exact h
      · exact h
      · exact h
  | initOdcpi => exact h
  | supportFeatures debugNmea =>
      intro hmask
      have hold := h hmask
      rw [ne_eq, nmeaTypes_eq_zero_iff] at hold ⊢
      rintro ⟨hprovider, hdebug⟩
      exact hold ⟨hprovider, (Bool.or_eq_false_iff.mp hdebug).1⟩

lemma follows_updateClientsEventMask : (a.updateClientsEventMask conf).Follows conf := rfl

/-- A new configuration. -/
lemma Follows.setConfig_iff (h : a.Follows conf) (hgrown : a.Grown conf) :
    (a.setConfig conf).Follows conf ↔
      (a.mNmeaMask = 0 → a.nmeaTypes conf ≠ 0 → ¬ a.WantsNmea) := by
  constructor
  · intro hfollows hzero htypes hwants
    have hold : ¬ a.mEvtMask.getLsbD 2 = true := by
      rw [h, clientsEventMask_getLsbD_two]
      exact fun hbit => hbit.2 hzero
    have hnew : (a.setConfig conf).mEvtMask.getLsbD 2 = true := by
      rw [hfollows, clientsEventMask_getLsbD_two]
      exact ⟨hwants, htypes⟩
    exact hold hnew
  · intro hsettled
    refine h.trans (clientsEventMask_congr conf a _ fun hwants => ?_).symm
    constructor
    · intro hzero
      by_contra htypes
      exact hsettled hzero htypes hwants
    · intro htypes
      by_contra hmask
      exact hgrown hmask htypes

lemma Follows.initAgps (h : a.Follows conf) {cbInfo : AgpsCbInfo} (hcb : cbInfo.statusV4Cb = true) :
    (a.initAgps conf cbInfo).Follows conf := by
  rw [EventMaskState.initAgps]
  split_ifs with hcapabilities hpriority
  · exact h
  · exact h
  · rw [Follows, h, clientsEventMask, clientsEventMask]
    simp only [hcb, if_true]
    split_ifs <;> grind

lemma Follows.initOdcpi (h : a.Follows conf) : a.initOdcpi.Follows conf := by
  rw [EventMaskState.initOdcpi, Follows, h, clientsEventMask, clientsEventMask]
  simp only [if_true]
  split_ifs <;> grind

/-- **One message.** -/
lemma Follows.proc_iff (h : a.Follows conf) (hgrown : a.Grown conf) (msg : EventMaskMsg Client) :
    (a.proc conf msg).Follows conf ↔ a.NmeaSettled conf msg := by
  cases msg with
  | addClient client callbacks => exact iff_of_true follows_updateClientsEventMask trivial
  | removeClient client => exact iff_of_true follows_updateClientsEventMask trivial
  | setConfig => exact h.setConfig_iff hgrown
  | initAgps cbInfo hcb => exact iff_of_true (h.initAgps hcb) trivial
  | initOdcpi => exact iff_of_true h.initOdcpi trivial
  | supportFeatures debugNmea => exact iff_of_true h trivial

end Steps

/-- The mask of an adapter with no clients and no callbacks. -/
lemma follows_configured_iff (conf : MaskConf) (debugNmea : Bool) :
    (configured conf debugNmea : EventMaskState Client).Follows conf ↔
      conf.EXTERNAL_DR_ENABLED ≠ 1 := by
  have hclients : (configured conf debugNmea : EventMaskState Client).clientsEventMask conf =
      if conf.EXTERNAL_DR_ENABLED = 1 then
        bitGnssMeasurement ||| bitGnssSvPolynomialReport else 0 := by
    have hempty : (∅ : Std.TreeMap Client EventCallbacks compare).toList = [] := rfl
    simp [clientsEventMask, configured, setConfig, new, hempty]
  rw [Follows, hclients]
  split_ifs with hdr
  · exact iff_of_false (by decide : (0 : EventMask) ≠ _) fun hne => hne hdr
  · exact iff_of_true rfl hdr

/-- **The event mask.** It is the mask that would be computed, after the initial configuration and
after each message that follows, exactly when external dead reckoning is not enabled and no
configuration comes to set NMEA types for the first time while a client wants NMEA reports. -/
theorem evtMask_follows_iff (conf : MaskConf) (debugNmea : Bool)
    (msgs : List (EventMaskMsg Client)) :
    (machine Client conf).Always (Follows conf) (configured conf debugNmea) msgs ↔
      conf.EXTERNAL_DR_ENABLED ≠ 1 ∧
        (machine Client conf).Steps (NmeaSettled conf) (configured conf debugNmea) msgs := by
  have hgrown : (configured conf debugNmea : EventMaskState Client).Grown conf := id
  have hsteps : (configured conf debugNmea : EventMaskState Client).Follows conf →
      ((machine Client conf).Always (Follows conf) (configured conf debugNmea) msgs ↔
        (machine Client conf).Steps (NmeaSettled conf) (configured conf debugNmea) msgs) := by
    refine Machine.always_iff_steps_of_invariant (I := Grown conf) ?_ ?_ hgrown
    · exact fun a msg hI => hI.proc msg
    · exact fun a msg hI hP => hP.proc_iff hI msg
  constructor
  · intro h
    exact ⟨(follows_configured_iff conf debugNmea).mp h.head, (hsteps h.head).mp h⟩
  · rintro ⟨hdr, h⟩
    exact (hsteps ((follows_configured_iff conf debugNmea).mpr hdr)).mpr h

/-- The engine comes to support debug NMEA after a client has registered for NMEA reports: the new
configuration turns them on in the engine, and the client's bit stays off. -/
theorem evtMask_without_nmea :
    let conf : MaskConf := ⟨0, false, 0⟩
    ¬ ((machine ℕ conf).run (configured conf false)
      [.addClient 1 ⟨true, false, false, true, false⟩, .supportFeatures true,
        .setConfig]).Follows conf := by
  intro conf hfollows
  have hbits : ((machine ℕ ⟨0, false, 0⟩).run (configured ⟨0, false, 0⟩ false)
      [.addClient 1 ⟨true, false, false, true, false⟩, .supportFeatures true,
        .setConfig]).mEvtMask = 1 ∧
      ((machine ℕ ⟨0, false, 0⟩).run (configured ⟨0, false, 0⟩ false)
        [.addClient 1 ⟨true, false, false, true, false⟩, .supportFeatures true,
          .setConfig]).clientsEventMask ⟨0, false, 0⟩ = 5 := by decide
  rw [Follows, hbits.1, hbits.2] at hfollows
  exact absurd hfollows (by decide)

end EventMaskState

end GnssAdapter
end LocHal
