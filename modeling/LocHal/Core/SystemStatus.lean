import Mathlib.Data.Int.Notation
import Mathlib.Data.List.Basic
import Mathlib.Logic.Function.Basic

/-!
# The cache of status reports (`gps/core/SystemStatus.cpp`, `gps/core/SystemStatus.h`)

`SystemStatus` keeps the last reports of each kind.  A report that `equals` the latest one of its
kind is taken for no change: it is not stored and nobody is told.  Each kind has its own `equals`,
written by hand.

The kinds are named after the vectors of `SystemStatusReports`, and what differs from kind to kind
(the content, `equals`, `collate`, what a copy keeps) is a function of the kind.  The reports that
come from NMEA strings are left out.

`event_kept_iff` says, kind by kind, for which events the latest report is the event.  Most `equals`
compare everything, and for these there is nothing to say; the others forget fields.
-/

namespace LocHal
namespace SystemStatus

/-- `UlpLocation` with `GpsLocationExtended`: the three coordinates that are compared, `Double`s,
and all other fields. -/
structure Position (Double Rest : Type) where
  latitude : Double
  longitude : Double
  altitude : Double
  rest : Rest
deriving DecidableEq

/-- `SystemStatusLocation`. -/
structure Location (Double Rest : Type) where
  mValid : Bool
  mLocation : Position Double Rest
deriving DecidableEq

/-- `NetworkInfoDataItemBase`. -/
structure NetworkInfo where
  mAllTypes : BitVec 64
  mType : ℤ
  mTypeName : String
  mSubTypeName : String
  mAvailable : Bool
  mConnected : Bool
  mRoaming : Bool
deriving DecidableEq

/-- `TimeZoneChangeDataItemBase` and `TimeChangeDataItemBase`. -/
structure TimeChange where
  mCurrTimeMillis : ℤ
  mRawOffsetTZ : ℤ
  mDstOffsetTZ : ℤ
deriving DecidableEq

/-- `WifiSupplicantStatusDataItemBase`. -/
@[ext] structure WifiSupplicantStatus where
  mState : ℕ
  mApMacAddressValid : Bool
  mApMacAddress : Vector UInt8 6
  mWifiApSsidValid : Bool
  mWifiApSsid : String
deriving DecidableEq

/-- `SrnDeviceScanDetailsDataItemBase`. -/
structure SrnDeviceScanDetails where
  mValidSrnData : Bool
  mApSrnRssi : ℤ
  mApSrnMacAddress : Vector UInt8 6
  mApSrnTimestamp : ℤ
  mRequestTimestamp : ℤ
  mReceiveTimestamp : ℤ
  mErrorCause : ℤ
deriving DecidableEq

/-- `DataItemId`, the values that data items have. -/
inductive DataItemId where
  | AIRPLANEMODE
  | ENH
  | GPSSTATE
  | NLPSTATUS
  | WIFIHARDWARESTATE
  | NETWORKINFO
  | RILVERSION
  | RILSERVICEINFO
  | RILCELLINFO
  | SERVICESTATUS
  | MODEL
  | MANUFACTURER
  | VOICECALL
  | ASSISTED_GPS
  | SCREEN_STATE
  | POWER_CONNECTED_STATE
  | TIMEZONE_CHANGE
  | TIME_CHANGE
  | WIFI_SUPPLICANT_STATUS
  | SHUTDOWN_STATE
  | TAC
  | MCCMNC
  | BTLE_SCAN
  | BT_SCAN
  | OEM_GTP_UPLOAD_TRIGGER_READY
  | BATTERY_LEVEL
deriving DecidableEq, Repr

/-- The kinds of reports: the position and the data items. -/
inductive Kind where
  | mLocation
  | mAirplaneMode
  | mENH
  | mGPSState
  | mNLPStatus
  | mWifiHardwareState
  | mNetworkInfo
  | mRilServiceInfo
  | mRilCellInfo
  | mServiceStatus
  | mModel
  | mManufacturer
  | mAssistedGps
  | mScreenState
  | mPowerConnectState
  | mTimeZoneChange
  | mTimeChange
  | mWifiSupplicantStatus
  | mShutdownState
  | mTac
  | mMccMnc
  | mBtDeviceScanDetail
  | mBtLeDeviceScanDetail
deriving DecidableEq, Repr

section Content

variable (Double Rest RilData : Type)

/-- The content of a report.  That of the two RIL kinds is what `mData` points to, if anything. -/
abbrev Content : Kind → Type
  | .mLocation => Location Double Rest
  | .mNetworkInfo => NetworkInfo
  | .mRilServiceInfo | .mRilCellInfo => Option RilData
  | .mServiceStatus => ℤ
  | .mModel | .mManufacturer | .mTac | .mMccMnc => String
  | .mTimeZoneChange | .mTimeChange => TimeChange
  | .mWifiSupplicantStatus => WifiSupplicantStatus
  | .mBtDeviceScanDetail | .mBtLeDeviceScanDetail => SrnDeviceScanDetails
  | .mAirplaneMode | .mENH | .mGPSState | .mNLPStatus | .mWifiHardwareState | .mAssistedGps
  | .mScreenState | .mPowerConnectState | .mShutdownState => Bool

/-- A report: its content and the timestamps of `SystemStatusItemBase`. -/
structure Report (k : Kind) where
  mUtcTime : ℕ
  mUtcReported : ℕ
  content : Content Double Rest RilData k

/-- The part of `SystemStatusReports` that holds these reports, oldest first. -/
abbrev Cache := ∀ k, List (Report Double Rest RilData k)

/-- The data items that a caller hands in, by their ids.  Nothing is read of those that
`eventDataItemNotify` does not handle. -/
inductive DataItem where
  | airplaneMode (mMode : Bool)
  | enh (mEnabled : Bool)
  | gpsState (mEnabled : Bool)
  | nlpStatus (mEnabled : Bool)
  | wifiHardwareState (mEnabled : Bool)
  | networkInfo (info : NetworkInfo)
  | rilServiceInfo (mData : Option RilData)
  | rilCellInfo (mData : Option RilData)
  | serviceStatus (mServiceState : ℤ)
  | model (mModel : String)
  | manufacturer (mManufacturer : String)
  | assistedGps (mEnabled : Bool)
  | screenState (mState : Bool)
  | powerConnectedState (mState : Bool)
  | timeZoneChange (change : TimeChange)
  | timeChange (change : TimeChange)
  | wifiSupplicantStatus (status : WifiSupplicantStatus)
  | shutdownState (mState : Bool)
  | tac (mValue : String)
  | mccmnc (mValue : String)
  | btleScan (details : SrnDeviceScanDetails)
  | btScan (details : SrnDeviceScanDetails)
  | rilVersion
  | voiceCall
  | oemGtpUploadTriggerReady
  | batteryLevel

end Content

/-- `getId`. -/
def DataItem.getId {RilData : Type} : DataItem RilData → DataItemId
  | .airplaneMode _ => .AIRPLANEMODE
  | .enh _ => .ENH
  | .gpsState _ => .GPSSTATE
  | .nlpStatus _ => .NLPSTATUS
  | .wifiHardwareState _ => .WIFIHARDWARESTATE
  | .networkInfo _ => .NETWORKINFO
  | .rilServiceInfo _ => .RILSERVICEINFO
  | .rilCellInfo _ => .RILCELLINFO
  | .serviceStatus _ => .SERVICESTATUS
  | .model _ => .MODEL
  | .manufacturer _ => .MANUFACTURER
  | .assistedGps _ => .ASSISTED_GPS
  | .screenState _ => .SCREEN_STATE
  | .powerConnectedState _ => .POWER_CONNECTED_STATE
  | .timeZoneChange _ => .TIMEZONE_CHANGE
  | .timeChange _ => .TIME_CHANGE
  | .wifiSupplicantStatus _ => .WIFI_SUPPLICANT_STATUS
  | .shutdownState _ => .SHUTDOWN_STATE
  | .tac _ => .TAC
  | .mccmnc _ => .MCCMNC
  | .btleScan _ => .BTLE_SCAN
  | .btScan _ => .BT_SCAN
  | .rilVersion => .RILVERSION
  | .voiceCall => .VOICECALL
  | .oemGtpUploadTriggerReady => .OEM_GTP_UPLOAD_TRIGGER_READY
  | .batteryLevel => .BATTERY_LEVEL

/-- `maxItem`. -/
def maxItem : ℕ := 5

variable {Double Rest RilData : Type}

/-- `SystemStatusNetworkInfo::collate`. -/
def NetworkInfo.collate (s curInfo : NetworkInfo) : NetworkInfo :=
  let allTypes := curInfo.mAllTypes
  if s.mConnected then { s with mAllTypes := s.mAllTypes ||| allTypes }
  else if s.mAllTypes ≠ 0 then { s with mAllTypes := allTypes &&& ~~~s.mAllTypes }
  else s

/-- `collate`. -/
def collate : ∀ k, Content Double Rest RilData k → Content Double Rest RilData k →
    Content Double Rest RilData k
  | .mNetworkInfo, s, curInfo => NetworkInfo.collate s curInfo
  | _, s, _ => s

/-- `SystemStatusLocation::equals`. -/
def Location.equals [BEq Double] (s peer : Location Double Rest) : Bool :=
  !(s.mLocation.latitude != peer.mLocation.latitude ||
    s.mLocation.longitude != peer.mLocation.longitude ||
    s.mLocation.altitude != peer.mLocation.altitude)

/-- `SystemStatusWifiSupplicantStatus::equals`. -/
def WifiSupplicantStatus.equals (s peer : WifiSupplicantStatus) : Bool :=
  s.mState == peer.mState && s.mApMacAddressValid == peer.mApMacAddressValid &&
    s.mWifiApSsidValid == peer.mWifiApSsidValid && s.mWifiApSsid == peer.mWifiApSsid

/-- `operator==` of the RIL items.  It compares the pointers, and as each object owns what its own
points to, two of them have the same pointer only if it is null. -/
def samePointer (mData peer : Option RilData) : Bool := mData.isNone && peer.isNone

/-- `equals`, of the latest report with a new one. -/
def equals [BEq Double] :
    ∀ k, Content Double Rest RilData k → Content Double Rest RilData k → Bool
  | .mLocation, s, peer => s.equals peer
  | .mNetworkInfo, s, peer => s.mAllTypes == peer.mAllTypes
  | .mRilServiceInfo, s, peer | .mRilCellInfo, s, peer => samePointer s peer
  | .mWifiSupplicantStatus, s, peer => s.equals peer
  | .mBtDeviceScanDetail, _, _ | .mBtLeDeviceScanDetail, _, _ => true
  | .mServiceStatus, s, peer => s == peer
  | .mModel, s, peer | .mManufacturer, s, peer | .mTac, s, peer | .mMccMnc, s, peer => s == peer
  | .mTimeZoneChange, s, peer | .mTimeChange, s, peer => s == peer
  | .mAirplaneMode, s, peer | .mENH, s, peer | .mGPSState, s, peer | .mNLPStatus, s, peer
  | .mWifiHardwareState, s, peer | .mAssistedGps, s, peer | .mScreenState, s, peer
  | .mPowerConnectState, s, peer | .mShutdownState, s, peer => s == peer

/-- What the copy constructor makes of a content.  A RIL item gets its data from `setPeerData` of
what it is copied from, a `SystemStatusServiceInfo` or `SystemStatusRilCellInfo`, which inherits the
one that does nothing. -/
def copied : ∀ k, Content Double Rest RilData k → Content Double Rest RilData k
  | .mRilServiceInfo, _ | .mRilCellInfo, _ => none
  | _, s => s

/-- What the constructor of a report makes of a data item.  The `setPeerData` of the RIL items that
are notified is the platform's. -/
def constructed (setPeerData : Option RilData → Option RilData) :
    ∀ k, Content Double Rest RilData k → Content Double Rest RilData k
  | .mRilServiceInfo, itemBase | .mRilCellInfo, itemBase => setPeerData itemBase
  | _, itemBase => itemBase

section Store

variable {k : Kind}

/-- What `setIteminReport` leaves: the reports, what it returns, and the item, which `collate` may
have changed. -/
structure Stored (Double Rest RilData : Type) (k : Kind) where
  report : List (Report Double Rest RilData k)
  ret : Bool
  s : Report Double Rest RilData k

/-- `push_back`, and `erase` of the first one where they are too many. -/
def pushReport (report : List (Report Double Rest RilData k)) (s : Report Double Rest RilData k) :
    List (Report Double Rest RilData k) :=
  let pushed := report ++ [{ s with content := copied k s.content }]
  if pushed.length > maxItem then pushed.tail else pushed

/-- `setIteminReport`.  The `collate` stands behind the test for an empty vector. -/
def setIteminReport [BEq Double] (report : List (Report Double Rest RilData k))
    (s : Report Double Rest RilData k) : Stored Double Rest RilData k :=
  match report.getLast? with
  | none => ⟨pushReport report s, true, s⟩
  | some back =>
    let s := { s with content := collate k s.content back.content }
    if equals k back.content s.content then
      ⟨report.dropLast ++ [{ back with mUtcReported := s.mUtcReported }], false, s⟩
    else ⟨pushReport report s, true, s⟩

/-- The content of the latest report. -/
def latest (report : List (Report Double Rest RilData k)) :
    Option (Content Double Rest RilData k) :=
  report.getLast?.map Report.content

end Store

/-- The cases of the switch in `eventDataItemNotify`: the vector that an item goes to, and what it
carries.  The scans change places: the id of the BTLE scan comes with the vector of the others. -/
def DataItem.report? : DataItem RilData → Option (Σ k, Content Double Rest RilData k)
  | .airplaneMode mMode => some ⟨.mAirplaneMode, mMode⟩
  | .enh mEnabled => some ⟨.mENH, mEnabled⟩
  | .gpsState mEnabled => some ⟨.mGPSState, mEnabled⟩
  | .nlpStatus mEnabled => some ⟨.mNLPStatus, mEnabled⟩
  | .wifiHardwareState mEnabled => some ⟨.mWifiHardwareState, mEnabled⟩
  | .networkInfo info => some ⟨.mNetworkInfo, info⟩
  | .rilServiceInfo mData => some ⟨.mRilServiceInfo, mData⟩
  | .rilCellInfo mData => some ⟨.mRilCellInfo, mData⟩
  | .serviceStatus mServiceState => some ⟨.mServiceStatus, mServiceState⟩
  | .model mModel => some ⟨.mModel, mModel⟩
  | .manufacturer mManufacturer => some ⟨.mManufacturer, mManufacturer⟩
  | .assistedGps mEnabled => some ⟨.mAssistedGps, mEnabled⟩
  | .screenState mState => some ⟨.mScreenState, mState⟩
  | .powerConnectedState mState => some ⟨.mPowerConnectState, mState⟩
  | .timeZoneChange change => some ⟨.mTimeZoneChange, change⟩
  | .timeChange change => some ⟨.mTimeChange, change⟩
  | .wifiSupplicantStatus status => some ⟨.mWifiSupplicantStatus, status⟩
  | .shutdownState mState => some ⟨.mShutdownState, mState⟩
  | .tac mValue => some ⟨.mTac, mValue⟩
  | .mccmnc mValue => some ⟨.mMccMnc, mValue⟩
  | .btleScan details => some ⟨.mBtDeviceScanDetail, details⟩
  | .btScan details => some ⟨.mBtLeDeviceScanDetail, details⟩
  | .rilVersion | .voiceCall | .oemGtpUploadTriggerReady | .batteryLevel => none

/-- What a data item is left with: `collate` writes `mAllTypes` of the report back to it. -/
def DataItem.writeBack (dataitem : DataItem RilData) :
    ∀ k, Content Double Rest RilData k → DataItem RilData
  | .mNetworkInfo, s =>
    match dataitem with
    | .networkInfo info => .networkInfo { info with mAllTypes := s.mAllTypes }
    | dataitem => dataitem
  | _, _ => dataitem

section Events

variable [BEq Double] (setPeerData : Option RilData → Option RilData) (now : ℕ)

/-- `eventDataItemNotify`: the cache, what is returned, and the data item. -/
def eventDataItemNotify (dataitem : DataItem RilData) (mCache : Cache Double Rest RilData) :
    Cache Double Rest RilData × Bool × DataItem RilData :=
  match dataitem.report? with
  | none => (mCache, false, dataitem)
  | some ⟨k, itemBase⟩ =>
    let stored := setIteminReport (mCache k) ⟨now, now, constructed setPeerData k itemBase⟩
    (Function.update mCache k stored.report, stored.ret, dataitem.writeBack k stored.s.content)

/-- `eventPosition`. -/
def eventPosition (location : Position Double Rest) (mCache : Cache Double Rest RilData) :
    Cache Double Rest RilData × Bool :=
  let stored := setIteminReport (mCache .mLocation) ⟨now, now, ⟨true, location⟩⟩
  (Function.update mCache .mLocation stored.report, stored.ret)

/-- What the two functions are called with. -/
inductive Event (Double Rest RilData : Type) where
  | position (location : Position Double Rest)
  | dataItem (dataitem : DataItem RilData)

/-- The vector that an event goes to and what it carries. -/
def Event.report? : Event Double Rest RilData → Option (Σ k, Content Double Rest RilData k)
  | .position location => some ⟨.mLocation, ⟨true, location⟩⟩
  | .dataItem dataitem => dataitem.report?

/-- The function that is called for an event. -/
def Event.proc (event : Event Double Rest RilData) (mCache : Cache Double Rest RilData) :
    Cache Double Rest RilData × Bool :=
  match event with
  | .position location => eventPosition now location mCache
  | .dataItem dataitem =>
    let r := eventDataItemNotify setPeerData now dataitem mCache
    (r.1, r.2.1)

end Events

/-! ## What is stored -/

lemma collate_eq_self {k : Kind} (hk : k ≠ .mNetworkInfo)
    (c curInfo : Content Double Rest RilData k) : collate k c curInfo = c := by
  cases k with
  | mNetworkInfo => exact absurd rfl hk
  | _ => rfl

section Store

variable {k : Kind} {report : List (Report Double Rest RilData k)}
  {s : Report Double Rest RilData k} {back : Report Double Rest RilData k}

@[simp] lemma latest_pushReport : latest (pushReport report s) = some (copied k s.content) := by
  simp only [pushReport]
  split_ifs with hfull
  · have hne : report ≠ [] := by
      rintro rfl
      simp [maxItem] at hfull
    rw [latest, List.tail_append_of_ne_nil hne]
    simp
  · simp [latest]

variable [BEq Double]

lemma setIteminReport_of_empty (hnone : report.getLast? = none) :
    setIteminReport report s = ⟨pushReport report s, true, s⟩ := by
  rw [setIteminReport, hnone]

lemma setIteminReport_of_equals (hback : report.getLast? = some back)
    (hequals : equals k back.content (collate k s.content back.content) = true) :
    setIteminReport report s =
      ⟨report.dropLast ++ [{ back with mUtcReported := s.mUtcReported }], false,
        { s with content := collate k s.content back.content }⟩ := by
  rw [setIteminReport, hback]
  exact if_pos hequals

lemma setIteminReport_of_differs (hback : report.getLast? = some back)
    (hdiffers : equals k back.content (collate k s.content back.content) = false) :
    setIteminReport report s =
      ⟨pushReport report { s with content := collate k s.content back.content }, true,
        { s with content := collate k s.content back.content }⟩ := by
  rw [setIteminReport, hback]
  exact if_neg (Bool.eq_false_iff.mp hdiffers)

/-- Storing `s` leaves `c` as the latest content, and says that nothing has changed only if it was
so before, when `equals` finds no other content equal to that of `s` and the copy is `c`. -/
lemma setIteminReport_keeps_iff (hk : k ≠ .mNetworkInfo) (c : Content Double Rest RilData k) :
    (((setIteminReport report s).ret = false → latest report = some c) ∧
        latest (setIteminReport report s).report = some c) ↔
      (∀ back, latest report = some back → equals k back s.content = true → back = c) ∧
        ((∀ back, latest report = some back → equals k back s.content = false) →
          copied k s.content = c) := by
  cases hlast : report.getLast? with
  | none =>
    have hlatest : latest report = none := by rw [latest, hlast]; rfl
    simp [setIteminReport_of_empty hlast, hlatest]
  | some back =>
    have hlatest : latest report = some back.content := by rw [latest, hlast]; rfl
    have hcollate := collate_eq_self hk s.content back.content
    cases hequals : equals k back.content s.content with
    | true =>
      rw [setIteminReport_of_equals hlast (by rw [hcollate]; exact hequals), hlatest]
      simp [latest, hequals]
    | false =>
      rw [setIteminReport_of_differs hlast (by rw [hcollate]; exact hequals), hlatest]
      simp [hcollate, hequals]

end Store

/-! ## Which events are kept -/

lemma samePointer_iff {mData peer : Option RilData} :
    samePointer mData peer = true ↔ mData = none ∧ peer = none := by
  simp [samePointer]

lemma WifiSupplicantStatus.eq_iff {s peer : WifiSupplicantStatus} (hequals : s.equals peer = true) :
    s = peer ↔ s.mApMacAddress = peer.mApMacAddress := by
  simp only [WifiSupplicantStatus.equals, Bool.and_eq_true, beq_iff_eq] at hequals
  obtain ⟨⟨⟨hstate, hvalid⟩, hssidValid⟩, hssid⟩ := hequals
  constructor
  · exact congrArg WifiSupplicantStatus.mApMacAddress
  · intro hmac
    rw [WifiSupplicantStatus.ext_iff]
    exact ⟨hstate, hvalid, hmac, hssidValid, hssid⟩

section Kept

variable [BEq Double]

/-- When an event of each kind is kept: where `equals` leaves fields out, a latest report that it
finds equal has the same values there, and RIL items carry nothing. -/
def Kept : ∀ k, List (Report Double Rest RilData k) → Content Double Rest RilData k → Prop
  | .mLocation, report, c => ∀ back, latest report = some back → back.equals c = true → back = c
  | .mWifiSupplicantStatus, report, c => ∀ back, latest report = some back →
      back.equals c = true → back.mApMacAddress = c.mApMacAddress
  | .mRilServiceInfo, _, c | .mRilCellInfo, _, c => c = none
  | .mBtDeviceScanDetail, report, c | .mBtLeDeviceScanDetail, report, c =>
    ∀ back, latest report = some back → back = c
  | _, _, _ => True

lemma keeps_iff_kept {k : Kind} (hk : k ≠ .mNetworkInfo)
    (setPeerData : Option RilData → Option RilData) (report : List (Report Double Rest RilData k))
    (c : Content Double Rest RilData k) :
    ((∀ back, latest report = some back →
          equals k back (constructed setPeerData k c) = true → back = c) ∧
        ((∀ back, latest report = some back →
            equals k back (constructed setPeerData k c) = false) →
          copied k (constructed setPeerData k c) = c)) ↔
      Kept k report c := by
  cases k with
  | mNetworkInfo => exact absurd rfl hk
  | mLocation => exact ⟨fun h => h.1, fun h => ⟨h, fun _ => rfl⟩⟩
  | mWifiSupplicantStatus =>
    constructor
    · intro h back hback hequals
      exact (WifiSupplicantStatus.eq_iff hequals).mp (h.1 back hback hequals)
    · intro h
      refine ⟨fun back hback hequals => ?_, fun _ => rfl⟩
      exact (WifiSupplicantStatus.eq_iff hequals).mpr (h back hback hequals)
  | mBtDeviceScanDetail | mBtLeDeviceScanDetail =>
    constructor
    · exact fun h back hback => h.1 back hback rfl
    · exact fun h => ⟨fun back hback _ => h back hback, fun _ => rfl⟩
  | mRilServiceInfo | mRilCellInfo =>
    constructor
    · rintro ⟨hequal, hdiffer⟩
      by_cases hsame : ∃ back, latest report = some back ∧ samePointer back (setPeerData c) = true
      · obtain ⟨back, hback, hequals⟩ := hsame
        have hnone : back = none := (samePointer_iff.mp hequals).1
        exact (hequal back hback hequals).symm.trans hnone
      · refine (hdiffer fun back hback => ?_).symm
        exact Bool.eq_false_iff.mpr fun hequals => hsame ⟨back, hback, hequals⟩
    · rintro rfl
      exact ⟨fun back _ hequals => (samePointer_iff.mp hequals).1, fun _ => rfl⟩
  | _ =>
    refine iff_of_true ⟨fun back _ hequals => ?_, fun _ => rfl⟩ trivial
    exact eq_of_beq hequals

variable {event : Event Double Rest RilData} {k : Kind} {c : Content Double Rest RilData k}

lemma Event.proc_of_report (setPeerData : Option RilData → Option RilData) (now : ℕ)
    (mCache : Cache Double Rest RilData) (hreport : event.report? = some ⟨k, c⟩) :
    (event.proc setPeerData now mCache).2 =
        (setIteminReport (mCache k) ⟨now, now, constructed setPeerData k c⟩).ret ∧
      (event.proc setPeerData now mCache).1 k =
        (setIteminReport (mCache k) ⟨now, now, constructed setPeerData k c⟩).report := by
  cases event with
  | position location =>
    cases hreport
    simp [Event.proc, eventPosition, constructed]
  | dataItem dataitem =>
    replace hreport : dataitem.report? = some ⟨k, c⟩ := hreport
    simp only [Event.proc, eventDataItemNotify, hreport]
    simp

/-- **No update is dropped.** Of an event that goes to a vector other than that of the network
information it is said that nothing has changed only if the latest report had its content, and the
latest report has it afterwards, exactly if the event is `Kept`. -/
theorem event_kept_iff (setPeerData : Option RilData → Option RilData) (now : ℕ)
    (mCache : Cache Double Rest RilData) (event : Event Double Rest RilData)
    (hreport : event.report? = some ⟨k, c⟩) (hk : k ≠ .mNetworkInfo) :
    (((event.proc setPeerData now mCache).2 = false → latest (mCache k) = some c) ∧
        latest ((event.proc setPeerData now mCache).1 k) = some c) ↔
      Kept k (mCache k) c := by
  obtain ⟨hret, hcache⟩ := event.proc_of_report setPeerData now mCache hreport
  rw [hret, hcache]
  exact (setIteminReport_keeps_iff hk c).trans (keeps_iff_kept hk setPeerData (mCache k) c)

end Kept

/-! ### An access point that is not noticed -/

/-- The supplicant is connected to an access point of the network `home`. -/
def connectedTo (mApMacAddress : Vector UInt8 6) : WifiSupplicantStatus where
  mState := 9
  mApMacAddressValid := true
  mApMacAddress := mApMacAddress
  mWifiApSsidValid := true
  mWifiApSsid := "home"

/-- The cache once the supplicant is connected to an access point. -/
def connectedCache : Cache ℤ Unit Unit :=
  (Event.proc id 0 (.dataItem (.wifiSupplicantStatus (connectedTo (.replicate 6 1)))) fun _ => []).1

/-- The supplicant moves to another access point of the same network: nothing is said to have
changed, and the cache goes on with the address of the first. -/
theorem other_access_point_dropped :
    ((Event.dataItem (.wifiSupplicantStatus (connectedTo (.replicate 6 2)))).proc id 1
        connectedCache).2 = false ∧
      latest (connectedCache .mWifiSupplicantStatus) ≠ some (connectedTo (.replicate 6 2)) := by
  decide

/-- The supplicant loses the access point. -/
def disconnected : WifiSupplicantStatus := { connectedTo (.replicate 6 0) with mState := 0 }

theorem disconnection_kept :
    ((Event.dataItem (.wifiSupplicantStatus disconnected) : Event ℤ Unit Unit).report? =
        some ⟨.mWifiSupplicantStatus, disconnected⟩ ∧ Kind.mWifiSupplicantStatus ≠ .mNetworkInfo) ∧
      (((((Event.dataItem (.wifiSupplicantStatus disconnected)).proc id 1 connectedCache).2 =
            false →
          latest (connectedCache .mWifiSupplicantStatus) = some disconnected) ∧
        latest (((Event.dataItem (.wifiSupplicantStatus disconnected)).proc id 1
          connectedCache).1 .mWifiSupplicantStatus) = some disconnected) ↔
      Kept .mWifiSupplicantStatus (connectedCache .mWifiSupplicantStatus) disconnected) := by
  have hreport : (Event.dataItem (.wifiSupplicantStatus disconnected) : Event ℤ Unit Unit).report? =
      some ⟨.mWifiSupplicantStatus, disconnected⟩ := rfl
  have hk : Kind.mWifiSupplicantStatus ≠ .mNetworkInfo := by decide
  exact ⟨⟨hreport, hk⟩, event_kept_iff id 1 connectedCache _ hreport hk⟩

end SystemStatus
end LocHal
