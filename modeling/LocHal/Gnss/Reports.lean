import LocHal.Core.SetNmeaString
import LocHal.Gnss.ReportSv
import LocHal.Lib.Machine
import LocHal.Location.LocationTypes
import LocHal.Utils.LocNmea

/-!
# What the clients hear (`gps/gnss/GnssAdapter.cpp`)

The engine reports to the adapter, and the adapter to its clients: a position that it takes to be
one as a location and the details of it, the satellites in view with those marked that a position
was computed from, sentences of the engine, sentences that it makes of both if it is to, and raw
measurements.  What a client hears depends on more than the report: on the callbacks that it has set
by then, on the position before a satellite report and on the sessions of all clients.

`heard_eq` says on what exactly: a client that is added and removed and has sessions among any
others hears report by report what its own callbacks ask for, with the satellites of the latest
position since the satellite report before, and with sentences made here while there is a session.
-/

namespace LocHal
namespace GnssAdapter

open LocNmea (GnssSvNotification MeasuredSv)

/-! ## Positions -/

/-- `LocReliability`. -/
inductive LocReliability where
  | notSet
  | veryLow
  | low
  | medium
  | high
deriving DecidableEq, Repr

/-- `loc_sess_status`. -/
inductive LocSessStatus where
  | success
  | intermediate
  | failure
deriving DecidableEq, Repr

/-- `LocGpsLocation`, with the fields that are printed and the accuracy. -/
structure LocGpsLocation extends LocNmea.LocGpsLocation where
  accuracy : BinaryFloat binary32

/-- `GpsLocationExtended`, with the fields that are printed and those that are told to clients. -/
structure GpsLocationExtended extends LocNmea.GpsLocationExtended where
  vert_unc : BinaryFloat binary32
  speed_unc : BinaryFloat binary32
  bearing_unc : BinaryFloat binary32
  horizontal_reliability : LocReliability
  vertical_reliability : LocReliability
  horUncEllipseSemiMajor : BinaryFloat binary32
  horUncEllipseSemiMinor : BinaryFloat binary32
  horUncEllipseOrientAzimuth : BinaryFloat binary32

/-- `Location`. -/
structure Location where
  flags : BitVec 16 := 0
  timestamp : ℤ := 0
  latitude : BinaryFloat binary64 := .ofRat binary64 0
  longitude : BinaryFloat binary64 := .ofRat binary64 0
  altitude : BinaryFloat binary64 := .ofRat binary64 0
  speed : BinaryFloat binary32 := .ofRat binary32 0
  bearing : BinaryFloat binary32 := .ofRat binary32 0
  accuracy : BinaryFloat binary32 := .ofRat binary32 0
  verticalAccuracy : BinaryFloat binary32 := .ofRat binary32 0
  speedAccuracy : BinaryFloat binary32 := .ofRat binary32 0
  bearingAccuracy : BinaryFloat binary32 := .ofRat binary32 0
  techMask : BitVec 16 := 0

/-- `GnssLocationInfoNotification`. -/
structure GnssLocationInfoNotification where
  flags : BitVec 16 := 0
  altitudeMeanSeaLevel : BinaryFloat binary32 := .ofRat binary32 0
  pdop : BinaryFloat binary32 := .ofRat binary32 0
  hdop : BinaryFloat binary32 := .ofRat binary32 0
  vdop : BinaryFloat binary32 := .ofRat binary32 0
  magneticDeviation : BinaryFloat binary32 := .ofRat binary32 0
  horReliability : LocReliability := .notSet
  verReliability : LocReliability := .notSet
  horUncEllipseSemiMajor : BinaryFloat binary32 := .ofRat binary32 0
  horUncEllipseSemiMinor : BinaryFloat binary32 := .ofRat binary32 0
  horUncEllipseOrientAzimuth : BinaryFloat binary32 := .ofRat binary32 0

/-- The bit of `LOC_GPS_LOCATION_HAS_ACCURACY`. -/
def LocGpsLocation.hasAccuracy (g : LocGpsLocation) : Bool := g.flags &&& 0x0010 ≠ 0

namespace GpsLocationExtended

def hasVertUnc (e : GpsLocationExtended) : Bool := e.flags &&& 0x0010 ≠ 0
def hasSpeedUnc (e : GpsLocationExtended) : Bool := e.flags &&& 0x0020 ≠ 0
def hasBearingUnc (e : GpsLocationExtended) : Bool := e.flags &&& 0x0040 ≠ 0
def hasHorReliability (e : GpsLocationExtended) : Bool := e.flags &&& 0x0080 ≠ 0
def hasVertReliability (e : GpsLocationExtended) : Bool := e.flags &&& 0x0100 ≠ 0
def hasHorElipUncMajor (e : GpsLocationExtended) : Bool := e.flags &&& 0x0200 ≠ 0
def hasHorElipUncMinor (e : GpsLocationExtended) : Bool := e.flags &&& 0x0400 ≠ 0
def hasHorElipUncAzimuth (e : GpsLocationExtended) : Bool := e.flags &&& 0x0800 ≠ 0

end GpsLocationExtended

/-- `LOC_POS_TECH_MASK_SATELLITE`. -/
def techMaskSatellite : BitVec 32 := 0x01

/-- `LOC_POS_TECH_MASK_CELLID`. -/
def techMaskCellid : BitVec 32 := 0x02

/-- `LOC_POS_TECH_MASK_WIFI`. -/
def techMaskWifi : BitVec 32 := 0x04

/-- `LOC_POS_TECH_MASK_SENSORS`. -/
def techMaskSensors : BitVec 32 := 0x08

/-- `LOC_POS_TECH_MASK_HYBRID`. -/
def techMaskHybrid : BitVec 32 := 0x80

/-- `convertLocation`. -/
def convertLocation (g : LocGpsLocation) (e : GpsLocationExtended) (techMask : BitVec 32) :
    Location :=
  let out : Location := {}
  let out := if g.hasLatLong then
      { out with flags := out.flags ||| 1 <<< 0, latitude := g.latitude, longitude := g.longitude }
    else out
  let out := if g.hasAltitude then
      { out with flags := out.flags ||| 1 <<< 1, altitude := g.altitude } else out
  let out := if g.hasSpeed then
      { out with flags := out.flags ||| 1 <<< 2, speed := g.speed } else out
  let out := if g.hasBearing then
      { out with flags := out.flags ||| 1 <<< 3, bearing := g.bearing } else out
  let out := if g.hasAccuracy then
      { out with flags := out.flags ||| 1 <<< 4, accuracy := g.accuracy } else out
  let out := if e.hasVertUnc then
      { out with flags := out.flags ||| 1 <<< 5, verticalAccuracy := e.vert_unc } else out
  let out := if e.hasSpeedUnc then
      { out with flags := out.flags ||| 1 <<< 6, speedAccuracy := e.speed_unc } else out
  let out := if e.hasBearingUnc then
      { out with flags := out.flags ||| 1 <<< 7, bearingAccuracy := e.bearing_unc } else out
  let tech := [(techMaskSatellite, 0), (techMaskCellid, 1), (techMaskWifi, 2), (techMaskSensors, 3)]
  { out with
    timestamp := g.timestamp
    techMask := tech.foldl
      (fun mask t => if t.1 &&& techMask ≠ 0 then mask ||| 1 <<< t.2 else mask) 0 }

/-- `convertLocationInfo`; the two switches take each reliability to the one of its name. -/
def convertLocationInfo (e : GpsLocationExtended) : GnssLocationInfoNotification :=
  let out : GnssLocationInfoNotification := {}
  let out := if e.hasAltitudeMeanSeaLevel then
      { out with flags := out.flags ||| 1 <<< 0, altitudeMeanSeaLevel := e.altitudeMeanSeaLevel }
    else out
  let out := if e.hasDop then
      { out with flags := out.flags ||| 1 <<< 1, pdop := e.pdop, hdop := e.hdop, vdop := e.vdop }
    else out
  let out := if e.hasMagDev then
      { out with flags := out.flags ||| 1 <<< 2, magneticDeviation := e.magneticDeviation } else out
  let out := if e.hasHorReliability then
      { out with flags := out.flags ||| 1 <<< 3, horReliability := e.horizontal_reliability }
    else out
  let out := if e.hasVertReliability then
      { out with flags := out.flags ||| 1 <<< 4, verReliability := e.vertical_reliability } else out
  let out := if e.hasHorElipUncMajor then
      { out with
        flags := out.flags ||| 1 <<< 5, horUncEllipseSemiMajor := e.horUncEllipseSemiMajor }
    else out
  let out := if e.hasHorElipUncMinor then
      { out with
        flags := out.flags ||| 1 <<< 6, horUncEllipseSemiMinor := e.horUncEllipseSemiMinor }
    else out
  if e.hasHorElipUncAzimuth then
    { out with
      flags := out.flags ||| 1 <<< 7
      horUncEllipseOrientAzimuth := e.horUncEllipseOrientAzimuth }
  else out

/-- The fields of `ContextBase::mGps_conf` that reports depend on; `nmeaProviderAp` is
`NMEA_PROVIDER_AP == NMEA_PROVIDER`. -/
structure ReportConf where
  INTERMEDIATE_POS : BitVec 32
  ACCURACY_THRES : BitVec 32
  nmeaProviderAp : Bool

/-- The position that an engine reports, with the status and the technologies of the report. -/
structure PositionReport where
  location : LocGpsLocation
  extended : GpsLocationExtended
  status : LocSessStatus
  techMask : BitVec 32

namespace PositionReport

/-- The accuracy is larger than the threshold, as floats. -/
def inaccurate (conf : ReportConf) (r : PositionReport) : Bool :=
  let thres := BinaryFloat.ofRat binary32 conf.ACCURACY_THRES.toNat
  (r.location.accuracy.value.add thres.value.neg).isPositive

/-- `needReport`. -/
def needReport (conf : ReportConf) (r : PositionReport) : Bool :=
  match r.status with
  | .success => (techMaskSatellite ||| techMaskSensors ||| techMaskHybrid) &&& r.techMask ≠ 0
  | .intermediate =>
      conf.INTERMEDIATE_POS == 1 &&
        !(r.location.hasAccuracy && conf.ACCURACY_THRES != 0 && r.inaccurate conf)
  | .failure => false

/-- Zero, of either sign. -/
def isZero (x : BinaryFloat binary64) : Bool :=
  match x.value with
  | .finite _ q => q == 0
  | .infinite _ | .nan => false

/-- `blank_fix` of `reportPosition`. -/
def blankFix (r : PositionReport) : Bool :=
  isZero r.location.latitude && isZero r.location.longitude &&
    r.extended.horizontal_reliability == .notSet

/-- The sentences that `reportPosition` makes. -/
def sentences (conf : ReportConf) (r : PositionReport) : List (List Char) :=
  LocNmea.nmeaArraystr (LocNmea.locNmeaGeneratePos r.location.toLocGpsLocation
    r.extended.toGpsLocationExtended
    (r.needReport conf && r.status != .failure && !r.blankFix))

/-- The satellites that the position was computed from, if it is taken and has them. -/
def svUsed (conf : ReportConf) (r : PositionReport) : Option GnssSvUsedInPosition :=
  if r.needReport conf && r.extended.hasGnssSvUsedData then some r.extended.gnss_sv_used_ids
  else none

end PositionReport

/-! ## The adapter -/

/-- The callbacks that a client gets reports by: whether each one is set. -/
structure ReportCallbacks where
  trackingCb : Bool
  gnssLocationInfoCb : Bool
  gnssSvCb : Bool
  gnssNmeaCb : Bool
  gnssMeasurementsCb : Bool
deriving DecidableEq, Repr

/-- A call of a callback. -/
inductive Heard (Measurements : Type*) where
  | trackingCb (location : Location)
  | gnssLocationInfoCb (locationInfo : GnssLocationInfoNotification)
  | gnssSvCb (svNotify : GnssSvNotification)
  | gnssNmeaCb (nmea : List Char)
  | gnssMeasurementsCb (measurements : Measurements)

variable {Client Measurements : Type*} [LinearOrder Client]

/-- The part of `GnssAdapter` that reports depend on. -/
structure ReportState (Client : Type*) [LinearOrder Client] where
  mClientData : Std.TreeMap Client ReportCallbacks compare
  mTrackingSessions : LocationSessionMap Client
  mGnssSvIdUsedInPosition : GnssSvUsedInPosition
  mGnssSvIdUsedInPosAvail : Bool

/-- What is done to the clients and the sessions, and the reports of the engine. -/
inductive ReportMsg (Client Measurements : Type*) where
  | saveClient (client : Client) (callbacks : ReportCallbacks)
  | eraseClient (client : Client)
  | saveTrackingSession (client : Client) (sessionId : ℕ) (options : LocationOptions)
  | eraseTrackingSession (client : Client) (sessionId : ℕ)
  | reportPosition (report : PositionReport)
  | reportSv (svNotify : GnssSvNotification)
  | reportNmea (nmea : List Char)
  | reportGnssMeasurementData (measurements : Measurements)

/-- What a client is told of a position. -/
def ReportCallbacks.tellPosition (conf : ReportConf) (r : PositionReport)
    (callbacks : ReportCallbacks) : List (Heard Measurements) :=
  if r.needReport conf then
    (if callbacks.trackingCb then
      [.trackingCb (convertLocation r.location r.extended r.techMask)] else []) ++
    if callbacks.gnssLocationInfoCb then [.gnssLocationInfoCb (convertLocationInfo r.extended)]
    else []
  else []

/-- What a client is told of a sentence. -/
def ReportCallbacks.tellNmea (nmea : List Char) (callbacks : ReportCallbacks) :
    List (Heard Measurements) :=
  if callbacks.gnssNmeaCb then [.gnssNmeaCb nmea] else []

/-- What a client is told of satellites. -/
def ReportCallbacks.tellSv (svNotify : GnssSvNotification) (callbacks : ReportCallbacks) :
    List (Heard Measurements) :=
  if callbacks.gnssSvCb then [.gnssSvCb svNotify] else []

/-- What a client is told of measurements. -/
def ReportCallbacks.tellMeasurements (measurements : Measurements) (callbacks : ReportCallbacks) :
    List (Heard Measurements) :=
  if callbacks.gnssMeasurementsCb then [.gnssMeasurementsCb measurements] else []

/-- The report with its satellites marked as `reportSv` marks them, after a position that was
computed from the satellites `used`. -/
def markUsed (undefinedShift : ℤ → BitVec 32) (used : Option GnssSvUsedInPosition)
    (svNotify : GnssSvNotification) : GnssSvNotification where
  gnssSvs := svNotify.gnssSvs.map fun sv =>
    { sv with
      toGnssSv := SvReport.reportOne undefinedShift
        (⟨used.getD ⟨0, 0, 0, 0, 0⟩, used.isSome, [], false⟩ : SvReport.SvState Empty)
        sv.toGnssSv }
  count_le := by
    rw [List.length_map]
    exact svNotify.count_le

/-- The answer of `setNmeaString`, which takes the debug sentences. -/
def storedNmea (nmea : List Char) : Bool :=
  SystemStatus.locNmeaIsDebug nmea (BitVec.ofNat 32 nmea.length)

lemma setNmeaString_snd {Double Single Rest RilData : Type} [BEq Double] [BEq Single]
    (ops : SystemStatus.FloatOps Double Single) (memory : SystemStatus.Memory Single)
    (now : SystemStatus.NmeaKind → ℕ) (nmea : List Char)
    (mCache : SystemStatus.ReportCache Double Single Rest RilData) :
    (SystemStatus.setNmeaString ops memory now nmea (BitVec.ofNat 32 nmea.length) mCache).2 =
      storedNmea nmea := by
  rw [SystemStatus.setNmeaString, storedNmea]
  split_ifs with hdebug
  · exact hdebug.symm
  · exact (Bool.eq_false_iff.mpr hdebug).symm

namespace ReportState

variable (conf : ReportConf) (undefinedShift : ℤ → BitVec 32) (a : ReportState Client)

/-- A new adapter. -/
def init : ReportState Client := ⟨∅, ∅, ⟨0, 0, 0, 0, 0⟩, false⟩

/-- A loop over `mClientData`. -/
def tellAll (tell : ReportCallbacks → List (Heard Measurements)) :
    List (Client × Heard Measurements) :=
  a.mClientData.toList.flatMap fun it => (tell it.2).map (Prod.mk it.1)

/-- `reportNmea`. -/
def reportNmea (nmea : List Char) : List (Client × Heard Measurements) :=
  a.tellAll (·.tellNmea nmea)

/-- The sentences are made here, and a session is tracking. -/
def generatesNmea : Bool := conf.nmeaProviderAp && !a.mTrackingSessions.isEmpty

/-- `reportPosition`. -/
def reportPosition (r : PositionReport) :
    ReportState Client × List (Client × Heard Measurements) :=
  let a' := if r.needReport conf && r.extended.hasGnssSvUsedData then
      { a with
        mGnssSvIdUsedInPosAvail := true
        mGnssSvIdUsedInPosition := r.extended.gnss_sv_used_ids }
    else a
  (a', a.tellAll (·.tellPosition conf r) ++
    if a.generatesNmea conf then (r.sentences conf).flatMap a.reportNmea else [])

/-- The masks, while they are to be used. -/
def svUsed : Option GnssSvUsedInPosition :=
  if a.mGnssSvIdUsedInPosAvail then some a.mGnssSvIdUsedInPosition else none

/-- `reportSv`. -/
def reportSv (svNotify : GnssSvNotification) :
    ReportState Client × List (Client × Heard Measurements) :=
  let reported := markUsed undefinedShift a.svUsed svNotify
  ({ a with mGnssSvIdUsedInPosAvail := false }, a.tellAll (·.tellSv reported) ++
    if a.generatesNmea conf then
      (LocNmea.nmeaArraystr (LocNmea.locNmeaGenerateSv undefinedShift reported)).flatMap
        a.reportNmea
    else [])

/-- `proc` of a message. -/
def proc : ReportMsg Client Measurements →
    ReportState Client × List (Client × Heard Measurements)
  | .saveClient client callbacks =>
      ({ a with mClientData := a.mClientData.insert client callbacks }, [])
  | .eraseClient client => ({ a with mClientData := a.mClientData.erase client }, [])
  | .saveTrackingSession client sessionId options =>
      ({ a with mTrackingSessions := a.mTrackingSessions.insert ⟨client, sessionId⟩ options }, [])
  | .eraseTrackingSession client sessionId =>
      ({ a with mTrackingSessions := a.mTrackingSessions.erase ⟨client, sessionId⟩ }, [])
  | .reportPosition report => a.reportPosition conf report
  | .reportSv svNotify => a.reportSv conf undefinedShift svNotify
  | .reportNmea nmea => (a, if storedNmea nmea then [] else a.reportNmea nmea)
  | .reportGnssMeasurementData measurements => (a, a.tellAll (·.tellMeasurements measurements))

/-- The adapter as a machine. -/
def machine (Client Measurements : Type*) [LinearOrder Client] :
    Machine (ReportState Client) (ReportMsg Client Measurements) (Client × Heard Measurements) :=
  ⟨fun a msg => a.proc conf undefinedShift msg⟩

end ReportState

/-! ## What a history comes to

The messages before a moment, newest first. -/

section History

/-- What a message makes of the callbacks of a client. -/
def ReportMsg.callbacksOf (client : Client) :
    ReportMsg Client Measurements → Option (Option ReportCallbacks)
  | .saveClient c callbacks => if c = client then some (some callbacks) else none
  | .eraseClient c => if c = client then some none else none
  | _ => none

/-- Whether a message saves a session, or erases it. -/
def ReportMsg.sessionOf (key : LocationSessionKey Client) :
    ReportMsg Client Measurements → Option Bool
  | .saveTrackingSession c id _ => if ⟨c, id⟩ = key then some true else none
  | .eraseTrackingSession c id => if ⟨c, id⟩ = key then some false else none
  | _ => none

/-- The satellites that a message has for the next report of satellites; such a report has none. -/
def ReportMsg.svUsedOf (conf : ReportConf) :
    ReportMsg Client Measurements → Option (Option GnssSvUsedInPosition)
  | .reportPosition report => (report.svUsed conf).map some
  | .reportSv _ => some none
  | _ => none

/-- The callbacks that a client has set last, unless it has been removed since. -/
def callbacksAfter (client : Client) (history : List (ReportMsg Client Measurements)) :
    Option ReportCallbacks :=
  (history.findSome? (ReportMsg.callbacksOf client)).join

/-- Some session has been saved and not erased since. -/
def tracksAfter (history : List (ReportMsg Client Measurements)) : Bool :=
  history.any fun
    | .saveTrackingSession c id _ => history.findSome? (ReportMsg.sessionOf ⟨c, id⟩) == some true
    | _ => false

/-- The satellites of the latest position since the latest report of satellites. -/
def svUsedAfter (conf : ReportConf) (history : List (ReportMsg Client Measurements)) :
    Option GnssSvUsedInPosition :=
  (history.findSome? (ReportMsg.svUsedOf conf)).join

/-- What a message tells a client with these callbacks. -/
def ReportCallbacks.told (conf : ReportConf) (undefinedShift : ℤ → BitVec 32)
    (callbacks : ReportCallbacks) (history : List (ReportMsg Client Measurements)) :
    ReportMsg Client Measurements → List (Heard Measurements)
  | .reportPosition report =>
      callbacks.tellPosition conf report ++
        if conf.nmeaProviderAp && tracksAfter history then
          (report.sentences conf).flatMap callbacks.tellNmea
        else []
  | .reportSv svNotify =>
      let reported := markUsed undefinedShift (svUsedAfter conf history) svNotify
      callbacks.tellSv reported ++
        if conf.nmeaProviderAp && tracksAfter history then
          (LocNmea.nmeaArraystr (LocNmea.locNmeaGenerateSv undefinedShift reported)).flatMap
            callbacks.tellNmea
        else []
  | .reportNmea nmea => if storedNmea nmea then [] else callbacks.tellNmea nmea
  | .reportGnssMeasurementData measurements => callbacks.tellMeasurements measurements
  | .saveClient _ _ | .eraseClient _ | .saveTrackingSession _ _ _ | .eraseTrackingSession _ _ => []

/-- What a message tells a client after a history. -/
def hears (conf : ReportConf) (undefinedShift : ℤ → BitVec 32) (client : Client)
    (history : List (ReportMsg Client Measurements)) (msg : ReportMsg Client Measurements) :
    List (Heard Measurements) :=
  (callbacksAfter client history).elim [] fun callbacks =>
    callbacks.told conf undefinedShift history msg

end History

/-- The call of a callback that is one of the client's. -/
def heardBy (client : Client) (o : Client × Heard Measurements) : Option (Heard Measurements) :=
  if o.1 = client then some o.2 else none

namespace ReportState

variable {conf : ReportConf} {undefinedShift : ℤ → BitVec 32} {a : ReportState Client}
  {client : Client} {tell : ReportCallbacks → List (Heard Measurements)}

/-! ## One loop over the clients -/

lemma heard_map (l : List (Heard Measurements)) :
    (l.map (Prod.mk client)).filterMap (heardBy client) = l := by
  rw [List.filterMap_map]
  exact (List.filterMap_congr fun _ _ => if_pos rfl).trans List.filterMap_some

lemma heard_map_of_ne {c : Client} (hne : c ≠ client) (l : List (Heard Measurements)) :
    (l.map (Prod.mk c)).filterMap (heardBy client) = [] := by
  rw [List.filterMap_map]
  exact List.filterMap_eq_nil_iff.mpr fun _ _ => if_neg hne

lemma heard_other (l : List (Client × ReportCallbacks)) (h : ∀ it ∈ l, it.1 ≠ client) :
    (l.flatMap fun it => (tell it.2).map (Prod.mk it.1)).filterMap (heardBy client) = [] := by
  induction l with
  | nil => rfl
  | cons it l ih =>
      obtain ⟨hit, hl⟩ := List.forall_mem_cons.mp h
      rw [List.flatMap_cons, List.filterMap_append, heard_map_of_ne hit, ih hl, List.nil_append]

lemma heard_own (l : List (Client × ReportCallbacks)) (hl : l.Pairwise fun x y => x.1 ≠ y.1)
    {callbacks : ReportCallbacks} (h : (client, callbacks) ∈ l) :
    (l.flatMap fun it => (tell it.2).map (Prod.mk it.1)).filterMap (heardBy client) =
      tell callbacks := by
  induction l with
  | nil => cases h
  | cons it l ih =>
      obtain ⟨hit, hl⟩ := List.pairwise_cons.mp hl
      rw [List.flatMap_cons, List.filterMap_append]
      by_cases heq : (client, callbacks) = it
      · subst heq
        rw [heard_map, heard_other l fun it' hit' => (hit it' hit').symm, List.append_nil]
      · have hmem := (List.mem_cons.mp h).resolve_left heq
        rw [heard_map_of_ne (hit _ hmem), ih hl hmem, List.nil_append]

/-- A client hears what its own callbacks ask for. -/
lemma heard_tellAll : (a.tellAll tell).filterMap (heardBy client) =
    (a.mClientData[client]?).elim [] tell := by
  rw [tellAll]
  cases hclient : a.mClientData[client]? with
  | none =>
      refine heard_other _ fun it hit heq => ?_
      have hsome := Std.TreeMap.mem_toList_iff_getElem?_eq_some.mp hit
      rw [heq, hclient] at hsome
      cases hsome
  | some callbacks =>
      refine heard_own _ (Std.TreeMap.distinct_keys_toList.imp fun hne heq => hne ?_)
        (Std.TreeMap.mem_toList_iff_getElem?_eq_some.mpr hclient)
      rw [heq, Std.LawfulEqCmp.compare_eq_iff_eq]

lemma heard_sentences (sentences : List (List Char)) :
    (sentences.flatMap fun nmea =>
        (a.reportNmea nmea : List (Client × Heard Measurements))).filterMap (heardBy client) =
      (a.mClientData[client]?).elim [] fun callbacks => sentences.flatMap callbacks.tellNmea := by
  induction sentences with
  | nil => cases a.mClientData[client]? <;> rfl
  | cons nmea sentences ih =>
      rw [List.flatMap_cons, List.filterMap_append, ih, reportNmea, heard_tellAll]
      cases a.mClientData[client]? <;> rfl

/-! ## The state after a history -/

section History

variable (conf) (undefinedShift) (history : List (ReportMsg Client Measurements))

/-- The adapter after a history, newest first. -/
def after : ReportState Client :=
  (machine conf undefinedShift Client Measurements).run init history.reverse

lemma getElem?_after : (after conf undefinedShift history).mClientData[client]? =
    callbacksAfter client history := by
  have hsets : ∀ (a : ReportState Client) (msg : ReportMsg Client Measurements),
      (a.proc conf undefinedShift msg).1.mClientData[client]? =
        (msg.callbacksOf client).getD a.mClientData[client]? := by
    intro a msg
    cases msg with
    | saveClient c callbacks =>
        simp only [proc, ReportMsg.callbacksOf, Std.TreeMap.getElem?_insert,
          Std.LawfulEqCmp.compare_eq_iff_eq]
        split_ifs <;> rfl
    | eraseClient c =>
        simp only [proc, ReportMsg.callbacksOf, Std.TreeMap.getElem?_erase,
          Std.LawfulEqCmp.compare_eq_iff_eq]
        split_ifs <;> rfl
    | reportPosition report =>
        simp only [proc, reportPosition]
        split_ifs <;> rfl
    | _ => rfl
  have hlatest := Machine.run_latest (M := machine conf undefinedShift Client Measurements)
    (fun a => a.mClientData[client]?) hsets init history
  rw [after, callbacksAfter, hlatest]
  cases history.findSome? (ReportMsg.callbacksOf client) with
  | none => exact Std.TreeMap.getElem?_emptyc
  | some callbacks => rfl

lemma contains_after (key : LocationSessionKey Client) :
    (after conf undefinedShift history).mTrackingSessions.contains key =
      (history.findSome? (ReportMsg.sessionOf key)).getD false := by
  have hsets : ∀ (a : ReportState Client) (msg : ReportMsg Client Measurements),
      (a.proc conf undefinedShift msg).1.mTrackingSessions.contains key =
        (msg.sessionOf key).getD (a.mTrackingSessions.contains key) := by
    intro a msg
    cases msg with
    | saveTrackingSession c id options =>
        simp only [proc, ReportMsg.sessionOf, Std.TreeMap.contains_insert]
        split_ifs with hkey
        · simp [hkey]
        · simp [hkey]
    | eraseTrackingSession c id =>
        simp only [proc, ReportMsg.sessionOf, Std.TreeMap.contains_erase]
        split_ifs with hkey
        · simp [hkey]
        · simp [hkey]
    | reportPosition report =>
        simp only [proc, reportPosition]
        split_ifs <;> rfl
    | _ => rfl
  exact Machine.run_latest (M := machine conf undefinedShift Client Measurements)
    (fun a => a.mTrackingSessions.contains key) hsets init history

/-- Only a message that saves a session makes one live. -/
lemma exists_saved {key : LocationSessionKey Client}
    (h : history.findSome? (ReportMsg.sessionOf key) = some true) :
    ∃ c id options, .saveTrackingSession c id options ∈ history ∧ ⟨c, id⟩ = key := by
  obtain ⟨before, msg, rest, rfl, hmsg, -⟩ := List.findSome?_eq_some_iff.mp h
  cases msg with
  | saveTrackingSession c id options =>
      rw [ReportMsg.sessionOf] at hmsg
      split_ifs at hmsg with hkey
      exact ⟨c, id, options, List.mem_append_right _ List.mem_cons_self, hkey⟩
  | eraseTrackingSession c id =>
      rw [ReportMsg.sessionOf] at hmsg
      split_ifs at hmsg
      cases hmsg
  | _ => cases hmsg

lemma tracksAfter_iff : tracksAfter history = true ↔
    ∃ key : LocationSessionKey Client,
      history.findSome? (ReportMsg.sessionOf key) = some true := by
  rw [tracksAfter, List.any_eq_true]
  constructor
  · rintro ⟨msg, -, hmsg⟩
    cases msg with
    | saveTrackingSession c id options => exact ⟨⟨c, id⟩, beq_iff_eq.mp hmsg⟩
    | _ => exact absurd hmsg Bool.false_ne_true
  · rintro ⟨key, hkey⟩
    obtain ⟨c, id, options, hmem, rfl⟩ := exists_saved history hkey
    exact ⟨_, hmem, beq_iff_eq.mpr hkey⟩

lemma isEmpty_after : (after conf undefinedShift history).mTrackingSessions.isEmpty =
    !tracksAfter history := by
  have hlive : (after conf undefinedShift history).mTrackingSessions.isEmpty = false ↔
      tracksAfter history = true := by
    rw [Std.TreeMap.isEmpty_eq_false_iff_exists_contains_eq_true, tracksAfter_iff]
    refine exists_congr fun key => ?_
    rw [contains_after]
    cases history.findSome? (ReportMsg.sessionOf key) with
    | none => simp
    | some live => simp
  rw [← Bool.not_eq_true] at hlive
  cases htracks : tracksAfter history with
  | true => exact Bool.eq_false_iff.mpr (hlive.mpr htracks)
  | false =>
      by_contra hempty
      exact absurd (hlive.mp hempty) (by rw [htracks]; exact Bool.false_ne_true)

lemma svUsed_after : (after conf undefinedShift history).svUsed = svUsedAfter conf history := by
  have hsets : ∀ (a : ReportState Client) (msg : ReportMsg Client Measurements),
      (a.proc conf undefinedShift msg).1.svUsed = (msg.svUsedOf conf).getD a.svUsed := by
    intro a msg
    cases msg with
    | reportPosition report =>
        simp only [proc, reportPosition, ReportMsg.svUsedOf, PositionReport.svUsed]
        split_ifs <;> rfl
    | _ => rfl
  have hlatest := Machine.run_latest (M := machine conf undefinedShift Client Measurements)
    svUsed hsets init history
  rw [after, svUsedAfter, hlatest]
  cases history.findSome? (ReportMsg.svUsedOf conf) <;> rfl

lemma generatesNmea_after : (after conf undefinedShift history).generatesNmea conf =
    (conf.nmeaProviderAp && tracksAfter history) := by
  rw [generatesNmea, isEmpty_after, Bool.not_not]

/-- **One message.**  What a client hears of it is read off the history. -/
lemma heard_proc (client : Client) (msg : ReportMsg Client Measurements) :
    ((after conf undefinedShift history).proc conf undefinedShift msg).2.filterMap
        (heardBy client) = hears conf undefinedShift client history msg := by
  have hnmea : ∀ sentences : List (List Char),
      (if (after conf undefinedShift history).generatesNmea conf then
          sentences.flatMap fun nmea => (after conf undefinedShift history).reportNmea nmea
        else ([] : List (Client × Heard Measurements))).filterMap (heardBy client) =
      (callbacksAfter client history).elim [] fun callbacks =>
        if conf.nmeaProviderAp && tracksAfter history then
          sentences.flatMap callbacks.tellNmea else [] := by
    intro sentences
    rw [generatesNmea_after]
    split_ifs
    · rw [heard_sentences, getElem?_after]
    · cases callbacksAfter client history <;> rfl
  rw [hears]
  cases msg with
  | reportPosition report =>
      rw [proc, reportPosition, List.filterMap_append, heard_tellAll, hnmea, getElem?_after]
      cases callbacksAfter client history <;> rfl
  | reportSv svNotify =>
      rw [proc, reportSv, List.filterMap_append, heard_tellAll, hnmea, getElem?_after,
        svUsed_after]
      cases callbacksAfter client history <;> rfl
  | reportNmea nmea =>
      rw [proc]
      dsimp only
      split_ifs with hstored
      · cases callbacksAfter client history with
        | none => rfl
        | some callbacks => exact (if_pos hstored).symm
      · rw [reportNmea, heard_tellAll, getElem?_after]
        cases callbacksAfter client history with
        | none => rfl
        | some callbacks => exact (if_neg hstored).symm
  | reportGnssMeasurementData measurements =>
      rw [proc, heard_tellAll, getElem?_after]
      cases callbacksAfter client history <;> rfl
  | _ => cases callbacksAfter client history <;> rfl

/-- **What a client hears.**  Over every run, whatever the other clients are and do, a client hears
message by message what its callbacks at that time ask for of the report: of satellites with those
of the latest position since the report of satellites before, and of sentences made here while some
session has been saved and not erased. -/
theorem heard_eq (client : Client) (msgs : List (ReportMsg Client Measurements)) :
    ((machine conf undefinedShift Client Measurements).outs init msgs).filterMap (heardBy client) =
      Machine.overHistory (hears conf undefinedShift client) [] msgs := by
  have hstep : ∀ history msg, ((machine conf undefinedShift Client Measurements).emit
      ((machine conf undefinedShift Client Measurements).run init history.reverse) msg).filterMap
        (heardBy client) = hears conf undefinedShift client history msg :=
    fun history msg => heard_proc conf undefinedShift history client msg
  exact Machine.filterMap_outs hstep [] msgs

end History

end ReportState
end GnssAdapter
end LocHal
