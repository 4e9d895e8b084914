import LocHal.Gnss.ReportSv
import LocHal.Lib.Printf

/-!
# The sentences of a report (`gps/utils/loc_nmea.cpp`)

A position report is printed as GSA, VTG, RMC and GGA sentences, a satellite report as GSV
sentences, field by field into one buffer of 200 bytes.  Most fields are printed with the room that
is left and the length is compared with it afterwards; some are printed with no comparison, and the
checksum goes after what the buffer holds.  A sentence here keeps a record of what each `snprintf`
was given and what it returned.
-/

namespace LocHal.LocNmea

/-- `NMEA_SENTENCE_MAX_LENGTH`. -/
def nmeaSentenceMaxLength : ℕ := 200

/-- `GLONASS_SV_ID_OFFSET`. -/
def glonassSvIdOffset : ℕ := 64

/-- `MAX_SATELLITES_IN_USE`. -/
def maxSatellitesInUse : ℕ := 12

/-! ## The buffer -/

/-- What the functions print: a text, and how they go on after it. -/
inductive Append where
  /-- the length is compared with the room that was left, and the function returns when it does not
  fit -/
  | checked (text : List Char)
  /-- the length is taken from the room without a comparison -/
  | unchecked (text : List Char)
  /-- the length is not used -/
  | last (text : List Char)

/-- A sentence in its buffer, up to the terminating NUL. -/
structure Sentence where
  text : List Char := []
  lengthRemaining : ℤ := nmeaSentenceMaxLength
  /-- the size given to each `snprintf`, and the length it returned -/
  printed : List (ℤ × ℕ) := []
  /-- a length did not fit, and the sentence was given up -/
  failed : Bool := false

namespace Sentence

/-- `snprintf` at the end of the text.  It cuts off what does not fit with a NUL. -/
def snprintf (s : Sentence) (size : ℤ) (text : List Char) : Sentence :=
  { s with
    text := s.text ++ text.take (size - 1).toNat
    printed := s.printed ++ [(size, text.length)] }

def append (s : Sentence) (a : Append) : Sentence :=
  if s.failed then s
  else
    match a with
    | .checked text =>
        let s' := s.snprintf s.lengthRemaining text
        if s.lengthRemaining ≤ text.length then { s' with failed := true }
        else { s' with lengthRemaining := s.lengthRemaining - text.length }
    | .unchecked text =>
        { s.snprintf s.lengthRemaining text with
          lengthRemaining := s.lengthRemaining - text.length }
    | .last text => s.snprintf s.lengthRemaining text

/-- The exclusive or of the bytes. -/
def checksum (body : List Char) : UInt8 :=
  body.foldl (fun sum c => sum ^^^ UInt8.ofNat c.toNat) 0

/-- `loc_nmea_put_checksum`. -/
def locNmeaPutChecksum (s : Sentence) (maxSize : ℤ) : Sentence :=
  let body := s.text.tail
  s.snprintf (maxSize - body.length - 1)
    (['*'] ++ formatHexByte (checksum body) ++ ['\x0d', '\x0a'])

/-- The appends of a function, and the checksum when it got so far. -/
def print (appends : List Append) : Sentence :=
  let s := appends.foldl append {}
  if s.failed then s else s.locNmeaPutChecksum nmeaSentenceMaxLength

/-- `strlcpy` into the buffer, and the checksum. -/
def blank (text : List Char) : Sentence :=
  locNmeaPutChecksum { text := text.take (nmeaSentenceMaxLength - 1) } nmeaSentenceMaxLength

end Sentence

/-- What reaches `nmeaArraystr`. -/
def nmeaArraystr (sentences : List Sentence) : List (List Char) :=
  (sentences.filter fun s => !s.failed).map Sentence.text

/-! ## The reports -/

/-- `LocGpsLocation`, with the fields that are printed. -/
structure LocGpsLocation where
  flags : BitVec 16
  latitude : BinaryFloat binary64
  longitude : BinaryFloat binary64
  altitude : BinaryFloat binary64
  speed : BinaryFloat binary32
  bearing : BinaryFloat binary32
  timestamp : ℤ

/-- `GpsLocationExtended`, with the fields that are printed. -/
structure GpsLocationExtended where
  flags : BitVec 32
  altitudeMeanSeaLevel : BinaryFloat binary32
  pdop : BinaryFloat binary32
  hdop : BinaryFloat binary32
  vdop : BinaryFloat binary32
  magneticDeviation : BinaryFloat binary32
  gnss_sv_used_ids : GnssSvUsedInPosition
  navSolutionMask : BitVec 32
  tech_mask : BitVec 32

/-- `GnssSv`, with its measurements. -/
structure MeasuredSv extends GnssSv where
  cN0Dbhz : BinaryFloat binary32
  elevation : BinaryFloat binary32
  azimuth : BinaryFloat binary32

/-- `GNSS_SV_MAX`. -/
def gnssSvMax : ℕ := 64

/-- `GnssSvNotification`, with the first `count` entries of its array. -/
structure GnssSvNotification where
  gnssSvs : List MeasuredSv
  count_le : gnssSvs.length ≤ gnssSvMax

namespace LocGpsLocation

def hasLatLong (location : LocGpsLocation) : Bool := location.flags &&& 0x0001 ≠ 0
def hasAltitude (location : LocGpsLocation) : Bool := location.flags &&& 0x0002 ≠ 0
def hasSpeed (location : LocGpsLocation) : Bool := location.flags &&& 0x0004 ≠ 0
def hasBearing (location : LocGpsLocation) : Bool := location.flags &&& 0x0008 ≠ 0

end LocGpsLocation

namespace GpsLocationExtended

def hasDop (e : GpsLocationExtended) : Bool := e.flags &&& 0x0001 ≠ 0
def hasAltitudeMeanSeaLevel (e : GpsLocationExtended) : Bool := e.flags &&& 0x0002 ≠ 0
def hasMagDev (e : GpsLocationExtended) : Bool := e.flags &&& 0x0004 ≠ 0
def hasGnssSvUsedData (e : GpsLocationExtended) : Bool := e.flags &&& 0x1000 ≠ 0

/-- `LOC_NAV_MASK_SBAS_CORRECTION_IONO`. -/
def hasSbasCorrectionIono (e : GpsLocationExtended) : Bool := 0x0001 &&& e.navSolutionMask ≠ 0

/-- `LOC_POS_TECH_MASK_SENSORS`, and nothing else. -/
def isSensors (e : GpsLocationExtended) : Bool := e.tech_mask = 0x00000008

end GpsLocationExtended

/-! ## The constellations -/

/-- A talker of two letters. -/
abbrev Talker := Char × Char

def Talker.text (talker : Talker) : List Char := [talker.1, talker.2]

/-- `loc_sv_cache_info`: the used mask and the count that each constellation has there. -/
structure SvCacheInfo where
  usedMask : GnssSvType → BitVec 32 := fun _ => 0
  count : GnssSvType → ℕ := fun _ => 0

/-- `loc_nmea_sv_meta`. -/
structure SvMeta where
  talker : Talker
  svType : GnssSvType
  mask : BitVec 32
  svCount : ℕ
  svIdOffset : ℕ := 0
  signalId : ℕ
  systemId : ℕ

/-- The satellites used are of several constellations. -/
def SvCacheInfo.combined (cache : SvCacheInfo) : Bool :=
  1 < ([.gps, .glonass, .galileo, .qzss, .beidou].filter fun t => cache.usedMask t ≠ 0).length

/-- `loc_nmea_sv_meta_init`. -/
def locNmeaSvMetaInit (cache : SvCacheInfo) (svType : GnssSvType) (needCombine : Bool) :
    Option SvMeta :=
  let init (talker : Talker) (svIdOffset signalId systemId : ℕ) : SvMeta :=
    { talker := if needCombine && cache.combined then ('G', 'N') else talker
      svType, mask := cache.usedMask svType, svCount := cache.count svType
      svIdOffset, signalId, systemId }
  match svType with
  | .gps => some (init ('G', 'P') 0 1 1)
  | .glonass => some (init ('G', 'L') glonassSvIdOffset 1 2)
  | .galileo => some (init ('G', 'A') 0 7 3)
  | .qzss => some (init ('P', 'Q') 0 0 5)
  | .beidou => some (init ('P', 'Q') 0 0 4)
  | .unknown | .sbas => none

/-! ## GSA -/

/-- The ids of the bits that are set, from the lowest: the mask is shifted right until none is
left. -/
def svUsedList (mask : BitVec 32) (svIdOffset : ℕ) : List ℕ :=
  ((List.range 32).filter mask.getLsbD).map fun bit => bit + 1 + svIdOffset

def fixType (svUsedCount : ℕ) : Char :=
  if svUsedCount = 0 then '1' else if svUsedCount ≤ 3 then '2' else '3'

/-- `%.1f`. -/
def oneDecimal {f : FloatFormat} (x : BinaryFloat f) : List Char := formatFixed 1 x.value

/-- The `i`th satellite. -/
def gsaId (svUsed : List ℕ) (i : ℕ) : List Char :=
  match svUsed[i]? with
  | some id => formatIntPadded 2 id ++ [',']
  | none => [',']

def gsaDop (e : GpsLocationExtended) : List Char :=
  if e.hasDop then
    oneDecimal e.pdop ++ [','] ++ oneDecimal e.hdop ++ [','] ++ oneDecimal e.vdop ++ [',']
  else ",,,".toList

def gsaAppends (e : GpsLocationExtended) (m : SvMeta) (svUsed : List ℕ) : List Append :=
  [.checked ('$' :: m.talker.text ++ "GSA,A,".toList ++ [fixType svUsed.length, ','])] ++
  (List.range 12).map (fun i => .checked (gsaId svUsed i)) ++
  [.unchecked (gsaDop e), .unchecked (formatInt m.systemId)]

/-- `loc_nmea_generate_GSA`: the number of satellites used, and the sentence. -/
def locNmeaGenerateGSA (e : GpsLocationExtended) : Option SvMeta → ℕ × List Sentence
  | none => (0, [])
  | some m =>
      let svUsed := svUsedList m.mask m.svIdOffset
      if svUsed.length = 0 ∧ m.svType ≠ .gps then (0, [])
      else
        let sentence := Sentence.print (gsaAppends e m svUsed)
        (if sentence.failed then 0 else svUsed.length, [sentence])

/-! ## The time -/

/-- `struct tm`, with the ranges of its members. -/
structure Tm where
  tm_sec : Fin 60
  tm_min : Fin 60
  tm_hour : Fin 24
  tm_mday : Std.Time.Day.Ordinal
  /-- counted from one, as `tm_mon + 1` -/
  month : Std.Time.Month.Ordinal
  tm_year : ℤ

/-- `gmtime`, which fails when the year is no `int`. -/
def gmtime (utcTime : ℤ) : Option Tm :=
  let date := Std.Time.PlainDate.ofEpochDay (.ofInt (utcTime / 86400))
  let tm_year := date.year.toInt - 1900
  let second := utcTime % 86400
  have hlow : 0 ≤ second := Int.emod_nonneg _ (by decide)
  have hhigh : second < 86400 := Int.emod_lt_of_pos _ (by decide)
  if -2 ^ 31 ≤ tm_year ∧ tm_year < 2 ^ 31 then
    some
      { tm_sec := ⟨(second % 60).toNat, by omega⟩
        tm_min := ⟨(second / 60 % 60).toNat, by omega⟩
        tm_hour := ⟨(second / 3600).toNat, by omega⟩
        tm_mday := date.day
        month := date.month
        tm_year }
  else none

/-! ## VTG, RMC and GGA -/

/-- `location.gpsLocation.speed * (3600.0/1852.0)`. -/
def speedKnots (location : LocGpsLocation) : BinaryFloat binary32 :=
  (location.speed.convert binary64 * .ofRat binary64 (3600 / 1852)).convert binary32

/-- `location.gpsLocation.speed * 3.6`. -/
def speedKmPerHour (location : LocGpsLocation) : BinaryFloat binary32 :=
  (location.speed.convert binary64 * .ofRat binary64 3.6).convert binary32

/-- The character for no fix, a differential, an estimated and an autonomous one. -/
def fixField (noFix differential estimated autonomous : Char) (location : LocGpsLocation)
    (e : GpsLocationExtended) : Char :=
  if !location.hasLatLong then noFix
  else if e.hasSbasCorrectionIono then differential
  else if e.isSensors then estimated
  else autonomous

def modeIndicator : LocGpsLocation → GpsLocationExtended → Char := fixField 'N' 'D' 'E' 'A'

def gpsQuality : LocGpsLocation → GpsLocationExtended → Char := fixField '0' '2' '6' '1'

/-- `%02d%02d%02d.%02d`, with the milliseconds of a time before 1970 negative. -/
def utcText (tm : Tm) (timestamp : ℤ) : List Char :=
  formatIntPadded 2 tm.tm_hour ++ formatIntPadded 2 tm.tm_min ++ formatIntPadded 2 tm.tm_sec ++
    ['.'] ++ formatIntPadded 2 ((timestamp.tmod 1000).tdiv 10)

/-- `(uint8_t)floor(x)`. -/
def degrees (x : BinaryFloat binary64) : ℤ := x.value.floor.toInt % 256

/-- `fmod(x * 60.0 , 60.0)`. -/
def minutes (x : BinaryFloat binary64) : BinaryFloat binary64 :=
  (x * .ofRat binary64 60).fmod (.ofRat binary64 60)

def latHemisphere (latitude : BinaryFloat binary64) : Char × BinaryFloat binary64 :=
  if latitude.value.isPositive then ('N', latitude)
  else ('S', latitude * .ofRat binary64 (-1))

def lonHemisphere (longitude : BinaryFloat binary64) : Char × BinaryFloat binary64 :=
  if longitude.value.isNegative then ('W', longitude * .ofRat binary64 (-1))
  else ('E', longitude)

/-- `%02d%09.6lf,%c,%03d%09.6lf,%c,`. -/
def latLongText (location : LocGpsLocation) : List Char :=
  let lat := latHemisphere location.latitude
  let lon := lonHemisphere location.longitude
  formatIntPadded 2 (degrees lat.2) ++ formatFixedPadded 9 6 (minutes lat.2).value ++
    [',', lat.1, ','] ++
    (formatIntPadded 3 (degrees lon.2) ++ formatFixedPadded 9 6 (minutes lon.2).value ++
      [',', lon.1, ','])

/-- The position of RMC and GGA. -/
def position (location : LocGpsLocation) : List Char :=
  if location.hasLatLong then latLongText location else ",,,,".toList

def vtgTrack (location : LocGpsLocation) : List Char :=
  if location.hasBearing then
    -- the track that is corrected by the deviation belongs to an inner block and is not printed
    let magTrack := location.bearing
    oneDecimal location.bearing ++ ",T,".toList ++ oneDecimal magTrack ++ ",M,".toList
  else ",T,,M,".toList

def vtgSpeed (location : LocGpsLocation) : List Char :=
  if location.hasSpeed then
    oneDecimal (speedKnots location) ++ ",N,".toList ++ oneDecimal (speedKmPerHour location) ++
      ",K,".toList
  else ",N,,K,".toList

def vtgAppends (talker : Talker) (location : LocGpsLocation) (e : GpsLocationExtended) :
    List Append :=
  [.checked ('$' :: talker.text ++ "VTG,".toList ++ vtgTrack location),
   .checked (vtgSpeed location),
   .last [modeIndicator location e]]

def rmcSpeed (location : LocGpsLocation) : List Char :=
  if location.hasSpeed then oneDecimal (speedKnots location) ++ [','] else [',']

def rmcTrack (location : LocGpsLocation) : List Char :=
  if location.hasBearing then oneDecimal location.bearing ++ [','] else [',']

def rmcDate (tm : Tm) : List Char :=
  formatIntDigits 2 tm.tm_mday.val ++ formatIntDigits 2 tm.month.val ++
    formatIntDigits 2 (tm.tm_year.tmod 100) ++ [',']

/-- `magneticDeviation`, without its sign, and the direction. -/
def magneticVariation (e : GpsLocationExtended) : BinaryFloat binary32 × Char :=
  if e.magneticDeviation.value.isNegative then
    ((e.magneticDeviation.convert binary64 * .ofRat binary64 (-1)).convert binary32, 'W')
  else (e.magneticDeviation, 'E')

def rmcVariation (e : GpsLocationExtended) : List Char :=
  if e.hasMagDev then
    oneDecimal (magneticVariation e).1 ++ [',', (magneticVariation e).2, ',']
  else ",,".toList

def rmcAppends (talker : Talker) (tm : Tm) (location : LocGpsLocation) (e : GpsLocationExtended) :
    List Append :=
  [.checked ('$' :: talker.text ++ "RMC,".toList ++ utcText tm location.timestamp ++ ",A,".toList),
   .checked (position location),
   .checked (rmcSpeed location),
   .checked (rmcTrack location),
   .checked (rmcDate tm),
   .checked (rmcVariation e),
   .unchecked [modeIndicator location e],
   .unchecked ",V".toList]

def ggaDop (e : GpsLocationExtended) : List Char :=
  if e.hasDop then oneDecimal e.hdop ++ [','] else [',']

def ggaAltitude (e : GpsLocationExtended) : List Char :=
  if e.hasAltitudeMeanSeaLevel then oneDecimal e.altitudeMeanSeaLevel ++ ",M,".toList
  else ",,".toList

def ggaSeparation (location : LocGpsLocation) (e : GpsLocationExtended) : List Char :=
  if location.hasAltitude && e.hasAltitudeMeanSeaLevel then
    oneDecimal (location.altitude - e.altitudeMeanSeaLevel.convert binary64) ++ ",M,,".toList
  else ",,,".toList

def ggaAppends (talker : Talker) (tm : Tm) (svUsedCount : ℕ) (location : LocGpsLocation)
    (e : GpsLocationExtended) : List Append :=
  let svUsedCount := min svUsedCount maxSatellitesInUse
  [.checked ('$' :: talker.text ++ "GGA,".toList ++ utcText tm location.timestamp ++ [',']),
   .checked (position location),
   .checked ([gpsQuality location e, ','] ++ formatIntPadded 2 svUsedCount ++ [','] ++ ggaDop e),
   .checked (ggaAltitude e),
   .last (ggaSeparation location e)]

/-! ## Position reports -/

/-- The used masks of a report.  Those of QZSS and BeiDou are each the other's. -/
def usedCache (e : GpsLocationExtended) : SvCacheInfo where
  usedMask svType :=
    if e.hasGnssSvUsedData then
      let ids := e.gnss_sv_used_ids
      match svType with
      | .gps => ids.gps_sv_used_ids_mask.truncate 32
      | .glonass => ids.glo_sv_used_ids_mask.truncate 32
      | .galileo => ids.gal_sv_used_ids_mask.truncate 32
      | .qzss => ids.bds_sv_used_ids_mask.truncate 32
      | .beidou => ids.qzss_sv_used_ids_mask.truncate 32
      | .unknown | .sbas => 0
    else 0

/-- What the GSA sentences leave to the others. -/
structure GsaResult where
  talker : Talker := ('G', 'P')
  svUsedCount : ℕ := 0
  sentences : List Sentence := []

/-- One constellation.  Those that may be combined also give their talker to the sentences that
follow. -/
def gsaStep (e : GpsLocationExtended) (r : GsaResult) (svType : GnssSvType) (needCombine : Bool) :
    GsaResult :=
  let meta? := locNmeaSvMetaInit (usedCache e) svType needCombine
  let generated := locNmeaGenerateGSA e meta?
  { talker :=
      if 0 < generated.1 && needCombine then (meta?.map SvMeta.talker).getD r.talker else r.talker
    svUsedCount := r.svUsedCount + generated.1
    sentences := r.sentences ++ generated.2 }

def gsaResult (e : GpsLocationExtended) : GsaResult :=
  [(.gps, true), (.glonass, true), (.galileo, true), (.qzss, false), (.beidou, false)].foldl
    (fun r (svType, needCombine) => gsaStep e r svType needCombine) {}

/-- A sentence that fails is the last one. -/
def untilFailed : List Sentence → List Sentence
  | [] => []
  | s :: rest => s :: if s.failed then [] else untilFailed rest

/-- `loc_nmea_generate_pos`: the sentences that were begun. -/
def locNmeaGeneratePos (location : LocGpsLocation) (e : GpsLocationExtended)
    (generate_nmea : Bool) : List Sentence :=
  match gmtime (location.timestamp.tdiv 1000) with
  | none => []
  | some tm =>
      if generate_nmea then
        let gsa := gsaResult e
        gsa.sentences ++ untilFailed
          [.print (vtgAppends gsa.talker location e),
           .print (rmcAppends gsa.talker tm location e),
           .print (ggaAppends gsa.talker tm gsa.svUsedCount location e)]
      else
        ["$GPGSA,A,1,,,,,,,,,,,,,,,", "$GNGSA,A,1,,,,,,,,,,,,,,,", "$PQGSA,A,1,,,,,,,,,,,,,,,",
          "$GPVTG,,T,,M,,N,,K,N", "$GPRMC,,V,,,,,,,,,,N,V", "$GPGGA,,,,,,0,,,,,,,,"].map
          fun text => .blank text.toList

/-! ## Satellite reports -/

/-- `(int)(0.5 + x)`. -/
def rounded (x : BinaryFloat binary32) : ℤ :=
  (BinaryFloat.ofRat binary64 0.5 + x.convert binary64).value.toInt

/-- The fields of one satellite. -/
def gsvItem (m : SvMeta) (sv : MeasuredSv) : List Append :=
  .checked ([','] ++ formatIntPadded 2 (sv.svId.toNat + m.svIdOffset) ++ [','] ++
    formatIntPadded 2 (rounded sv.elevation) ++ [','] ++ formatIntPadded 3 (rounded sv.azimuth) ++
    [',']) ::
  if sv.cN0Dbhz.value.isPositive then [.checked (formatIntPadded 2 (rounded sv.cN0Dbhz))] else []

/-- The next satellites of the constellation, as many as there is `room` for, and where the walk
through the report stands after them. -/
def gsvItems (m : SvMeta) : ℕ → List MeasuredSv → List Append × List MeasuredSv
  | _, [] => ([], [])
  | 0, svs => ([], svs)
  | room + 1, sv :: svs =>
      if m.svType = sv.type then
        let later := gsvItems m room svs
        (gsvItem m sv ++ later.1, later.2)
      else gsvItems m (room + 1) svs

def gsvAppends (m : SvMeta) (sentenceCount sentenceNumber : ℕ) (items : List Append) :
    List Append :=
  [.checked ('$' :: m.talker.text ++ "GSV,".toList ++ formatInt sentenceCount ++ [','] ++
    formatInt sentenceNumber ++ [','] ++ formatIntPadded 2 m.svCount)] ++
  items ++ [.unchecked (',' :: formatInt m.signalId)]

/-- The loop of `loc_nmea_generate_GSV`, with the number of sentences still to come. -/
def gsvSentences (m : SvMeta) (sentenceCount : ℕ) : ℕ → ℕ → List MeasuredSv → List Sentence
  | 0, _, _ => []
  | left + 1, sentenceNumber, svs =>
      let items := gsvItems m 4 svs
      let sentence := Sentence.print (gsvAppends m sentenceCount sentenceNumber items.1)
      sentence ::
        if sentence.failed then []
        else gsvSentences m sentenceCount left (sentenceNumber + 1) items.2

/-- `loc_nmea_generate_GSV`. -/
def locNmeaGenerateGSV (svNotify : GnssSvNotification) (m : SvMeta) : List Sentence :=
  if m.svCount = 0 then
    -- no satellites in view, a blank sentence
    [.print [.last ('$' :: m.talker.text ++ "GSV,1,1,0,".toList ++ formatInt m.signalId)]]
  else
    let sentenceCount := m.svCount / 4 + if m.svCount % 4 = 0 then 0 else 1
    gsvSentences m sentenceCount sentenceCount 1 svNotify.gnssSvs

/-- The body of the counting loop.  The used masks are gathered too, though no GSV sentence reads
them. -/
def countSv (undefinedShift : ℤ → BitVec 32) (cache : SvCacheInfo) (sv : MeasuredSv) :
    SvCacheInfo :=
  if sv.type = .unknown ∨ sv.type = .sbas then cache
  else
    { usedMask :=
        if sv.UsedInFix then
          Function.update cache.usedMask sv.type
            (cache.usedMask sv.type ||| SvReport.shiftedOne undefinedShift (sv.svId.toNat - 1))
        else cache.usedMask
      count := Function.update cache.count sv.type (cache.count sv.type + 1) }

/-- `loc_nmea_generate_sv`: the sentences that were begun. -/
def locNmeaGenerateSv (undefinedShift : ℤ → BitVec 32) (svNotify : GnssSvNotification) :
    List Sentence :=
  let cache := svNotify.gnssSvs.foldl (countSv undefinedShift) {}
  [.gps, .glonass, .galileo, .qzss, .beidou].flatMap fun svType =>
    (locNmeaSvMetaInit cache svType false).elim [] (locNmeaGenerateGSV svNotify)

end LocHal.LocNmea
