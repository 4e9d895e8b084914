import LocHal.Core.DebugNmea
import LocHal.Lib.Numeral
import Mathlib.Data.List.Nodup

/-!
# Reports from debug sentences (`gps/core/SystemStatus.cpp`, `gps/core/SystemStatus.h`)

Nine kinds of debug sentences and the twelve kinds of reports that are made from them.  Each parser
compares the number of fields with the one it needs; of the object that it leaves as it is when
there are too few, only `SystemStatusPQWM1parser` has cleared the memory before.  What the others
find there is a parameter.

`double` and `float` are parameters too, with the conversions that the parsers use.
-/

namespace LocHal
namespace SystemStatus

/-- The floating point types: `atof`, the conversions to `float`, and what cleared memory holds. -/
structure FloatOps (Double Single : Type) where
  atof : List Char → Double
  ofDouble : Double → Single
  ofInt : BitVec 32 → Single
  zero : Double
  zeroSingle : Single

/-- `atoi`, the `long` of `strtol` converted to an `int`. -/
def atoi (s : List Char) : BitVec 32 := BitVec.ofInt 32 (strtol 10 s)

/-- `strtol(s, NULL, 16)`, converted to an unsigned type. -/
def strtolHex (w : ℕ) (s : List Char) : BitVec w := BitVec.ofInt w (strtol 16 s)

/-- `mField[i]`. -/
def fieldAt (mField : List (List Char)) (i : ℕ) : List Char := mField.getD i []

/-! ## The contents -/

/-- `SystemStatusPQWM1`. -/
structure PQWM1 (Double : Type) where
  mGpsWeek : BitVec 16
  mGpsTowMs : BitVec 32
  mTimeValid : BitVec 8
  mTimeSource : BitVec 8
  mTimeUnc : BitVec 32
  mClockFreqBias : BitVec 32
  mClockFreqBiasUnc : BitVec 32
  mXoState : BitVec 8
  mPgaGain : BitVec 32
  mGpsBpAmpI : BitVec 32
  mGpsBpAmpQ : BitVec 32
  mAdcI : BitVec 32
  mAdcQ : BitVec 32
  mJammerGps : BitVec 32
  mJammerGlo : BitVec 32
  mJammerBds : BitVec 32
  mJammerGal : BitVec 32
  mRecErrorRecovery : BitVec 32
  mAgcGps : Double
  mAgcGlo : Double
  mAgcBds : Double
  mAgcGal : Double
  mLeapSeconds : BitVec 32
  mLeapSecUnc : BitVec 32
  mGloBpAmpI : BitVec 32
  mGloBpAmpQ : BitVec 32
  mBdsBpAmpI : BitVec 32
  mBdsBpAmpQ : BitVec 32
  mGalBpAmpI : BitVec 32
  mGalBpAmpQ : BitVec 32

/-- `SystemStatusTimeAndClock`. -/
structure TimeAndClock where
  mGpsWeek : BitVec 16
  mGpsTowMs : BitVec 32
  mTimeValid : BitVec 8
  mTimeSource : BitVec 8
  mTimeUnc : BitVec 32
  mClockFreqBias : BitVec 32
  mClockFreqBiasUnc : BitVec 32
  mLeapSeconds : BitVec 32
  mLeapSecUnc : BitVec 32
deriving DecidableEq

/-- `SystemStatusRfAndParams`. -/
structure RfAndParams (Double : Type) where
  mPgaGain : BitVec 32
  mGpsBpAmpI : BitVec 32
  mGpsBpAmpQ : BitVec 32
  mAdcI : BitVec 32
  mAdcQ : BitVec 32
  mJammerGps : BitVec 32
  mJammerGlo : BitVec 32
  mJammerBds : BitVec 32
  mJammerGal : BitVec 32
  mAgcGps : Double
  mAgcGlo : Double
  mAgcBds : Double
  mAgcGal : Double
  mGloBpAmpI : BitVec 32
  mGloBpAmpQ : BitVec 32
  mBdsBpAmpI : BitVec 32
  mBdsBpAmpQ : BitVec 32
  mGalBpAmpI : BitVec 32
  mGalBpAmpQ : BitVec 32
deriving BEq

/-- `SystemStatusPQWP1`, the content of `SystemStatusInjectedPosition`. -/
structure InjectedPosition (Single : Type) where
  mEpiValidity : BitVec 8
  mEpiLat : Single
  mEpiLon : Single
  mEpiAlt : Single
  mEpiHepe : Single
  mEpiAltUnc : Single
  mEpiSrc : BitVec 8
deriving BEq

/-- `SystemStatusPQWP2`. -/
structure PQWP2 (Single : Type) where
  mBestLat : Single
  mBestLon : Single
  mBestAlt : Single
  mBestHepe : Single
  mBestAltUnc : Single
deriving BEq

/-- `SystemStatusBestPosition`. -/
structure BestPosition (Single : Type) extends PQWP2 Single where
  mValid : Bool

/-- `SystemStatusPQWP3`, the content of `SystemStatusXtra`. -/
structure Xtra where
  mXtraValidMask : BitVec 8
  mGpsXtraAge : BitVec 32
  mGloXtraAge : BitVec 32
  mBdsXtraAge : BitVec 32
  mGalXtraAge : BitVec 32
  mQzssXtraAge : BitVec 32
  mGpsXtraValid : BitVec 32
  mGloXtraValid : BitVec 32
  mBdsXtraValid : BitVec 64
  mGalXtraValid : BitVec 64
  mQzssXtraValid : BitVec 8
deriving DecidableEq

/-- `SystemStatusPQWP4`, the content of `SystemStatusEphemeris`. -/
structure Ephemeris where
  mGpsEpheValid : BitVec 32
  mGloEpheValid : BitVec 32
  mBdsEpheValid : BitVec 64
  mGalEpheValid : BitVec 64
  mQzssEpheValid : BitVec 8
deriving DecidableEq

/-- `SystemStatusPQWP5`, the content of `SystemStatusSvHealth`. -/
structure SvHealth where
  mGpsUnknownMask : BitVec 32
  mGloUnknownMask : BitVec 32
  mBdsUnknownMask : BitVec 64
  mGalUnknownMask : BitVec 64
  mQzssUnknownMask : BitVec 8
  mGpsGoodMask : BitVec 32
  mGloGoodMask : BitVec 32
  mBdsGoodMask : BitVec 64
  mGalGoodMask : BitVec 64
  mQzssGoodMask : BitVec 8
  mGpsBadMask : BitVec 32
  mGloBadMask : BitVec 32
  mBdsBadMask : BitVec 64
  mGalBadMask : BitVec 64
  mQzssBadMask : BitVec 8
deriving DecidableEq

/-- `SystemStatusNav`, with the enumerations as numbers. -/
structure Nav where
  mType : BitVec 32
  mSource : BitVec 32
  mAgeSec : BitVec 32
deriving DecidableEq

/-- `SV_ALL_NUM`. -/
def svAllNum : ℕ := 32 + 24 + 5 + 37 + 36

/-- `SystemStatusPQWP7`, the content of `SystemStatusNavData`. -/
abbrev NavData := Vector Nav svAllNum

/-- `SystemStatusPQWS1`, the content of `SystemStatusPositionFailure`. -/
structure PositionFailure where
  mFixInfoMask : BitVec 32
  mHepeLimit : BitVec 32
deriving DecidableEq

/-- The kinds of reports that are made from debug sentences. -/
inductive NmeaKind where
  | mTimeAndClock
  | mXoState
  | mRfAndParams
  | mErrRecovery
  | mInjectedPosition
  | mBestPosition
  | mXtra
  | mEphemeris
  | mSvHealth
  | mPdr
  | mNavData
  | mPositionFailure
deriving DecidableEq, Repr

section Content

variable (Double Single : Type)

/-- The content of a report. -/
abbrev NmeaContent : NmeaKind → Type
  | .mTimeAndClock => TimeAndClock
  | .mXoState => BitVec 8
  | .mRfAndParams => RfAndParams Double
  | .mErrRecovery => BitVec 32
  | .mInjectedPosition => InjectedPosition Single
  | .mBestPosition => BestPosition Single
  | .mXtra => Xtra
  | .mEphemeris => Ephemeris
  | .mSvHealth => SvHealth
  | .mPdr => BitVec 32
  | .mNavData => NavData
  | .mPositionFailure => PositionFailure

/-- What the memory of the parsers' objects holds when they are made. -/
structure Memory where
  mP1 : InjectedPosition Single
  mP2 : PQWP2 Single
  mP3 : Xtra
  mP4 : Ephemeris
  mP5 : SvHealth
  mP6 : BitVec 32
  mP7 : NavData
  mS1 : PositionFailure

end Content

variable {Double Single : Type}

/-- `equals`, of the latest report with a new one. -/
def nmeaEquals [BEq Double] [BEq Single] :
    ∀ k, NmeaContent Double Single k → NmeaContent Double Single k → Bool
  | .mTimeAndClock, s, peer => s == peer
  | .mXoState, s, peer => s == peer
  | .mRfAndParams, s, peer => s == peer
  | .mErrRecovery, s, peer | .mPdr, s, peer => s == peer
  | .mInjectedPosition, s, peer => s == peer
  | .mBestPosition, s, peer => s.toPQWP2 == peer.toPQWP2
  | .mXtra, s, peer => s == peer
  | .mEphemeris, s, peer => s == peer
  | .mSvHealth, s, peer => s == peer
  | .mNavData, s, peer => s == peer
  | .mPositionFailure, s, peer => s == peer

/-- What the default constructor of each report sets. -/
def nmeaDefault (ops : FloatOps Double Single) : ∀ k, NmeaContent Double Single k
  | .mTimeAndClock => ⟨0, 0, 0, 0, 0, 0, 0, 0, 0⟩
  | .mXoState => (0 : BitVec 8)
  | .mRfAndParams =>
      ⟨0, 0, 0, 0, 0, 0, 0, 0, 0, ops.zero, ops.zero, ops.zero, ops.zero, 0, 0, 0, 0, 0, 0⟩
  | .mErrRecovery | .mPdr => (0 : BitVec 32)
  | .mInjectedPosition =>
      ⟨0, ops.zeroSingle, ops.zeroSingle, ops.zeroSingle, ops.zeroSingle, ops.zeroSingle, 0⟩
  | .mBestPosition =>
      ⟨⟨ops.zeroSingle, ops.zeroSingle, ops.zeroSingle, ops.zeroSingle, ops.zeroSingle⟩, false⟩
  | .mXtra => ⟨0, 0, 0, 0, 0, 0, 0, 0, 0, 0, 0⟩
  | .mEphemeris => ⟨0, 0, 0, 0, 0⟩
  | .mSvHealth => ⟨0, 0, 0, 0, 0, 0, 0, 0, 0, 0, 0, 0, 0, 0, 0⟩
  | .mNavData => Vector.replicate svAllNum ⟨0, 0, 0⟩
  | .mPositionFailure => ⟨0, 0⟩

/-! ## The parsers -/

section Parsers

variable (ops : FloatOps Double Single) (mField : List (List Char))

/-- `memset(&mM1, 0, sizeof(mM1))`. -/
def PQWM1.cleared : PQWM1 Double :=
  ⟨0, 0, 0, 0, 0, 0, 0, 0, 0, 0, 0, 0, 0, 0, 0, 0, 0, 0, ops.zero, ops.zero, ops.zero, ops.zero, 0,
    0, 0, 0, 0, 0, 0, 0⟩

/-- `SystemStatusPQWM1parser`. -/
def PQWM1.parse : PQWM1 Double :=
  if mField.length ≤ 22 then cleared ops
  else
    let mM1 : PQWM1 Double := { cleared ops with
      mGpsWeek := (atoi (fieldAt mField 1)).setWidth 16
      mGpsTowMs := atoi (fieldAt mField 2)
      mTimeValid := (atoi (fieldAt mField 3)).setWidth 8
      mTimeSource := (atoi (fieldAt mField 4)).setWidth 8
      mTimeUnc := atoi (fieldAt mField 5)
      mClockFreqBias := atoi (fieldAt mField 6)
      mClockFreqBiasUnc := atoi (fieldAt mField 7)
      mXoState := (atoi (fieldAt mField 8)).setWidth 8
      mPgaGain := atoi (fieldAt mField 9)
      mGpsBpAmpI := atoi (fieldAt mField 10)
      mGpsBpAmpQ := atoi (fieldAt mField 11)
      mAdcI := atoi (fieldAt mField 12)
      mAdcQ := atoi (fieldAt mField 13)
      mJammerGps := atoi (fieldAt mField 14)
      mJammerGlo := atoi (fieldAt mField 15)
      mJammerBds := atoi (fieldAt mField 16)
      mJammerGal := atoi (fieldAt mField 17)
      mRecErrorRecovery := atoi (fieldAt mField 18)
      mAgcGps := ops.atof (fieldAt mField 19)
      mAgcGlo := ops.atof (fieldAt mField 20)
      mAgcBds := ops.atof (fieldAt mField 21)
      mAgcGal := ops.atof (fieldAt mField 22) }
    let mM1 : PQWM1 Double :=
      if 24 < mField.length then { mM1 with
        mLeapSeconds := atoi (fieldAt mField 23)
        mLeapSecUnc := atoi (fieldAt mField 24) }
      else mM1
    if 30 < mField.length then { mM1 with
      mGloBpAmpI := atoi (fieldAt mField 25)
      mGloBpAmpQ := atoi (fieldAt mField 26)
      mBdsBpAmpI := atoi (fieldAt mField 27)
      mBdsBpAmpQ := atoi (fieldAt mField 28)
      mGalBpAmpI := atoi (fieldAt mField 29)
      mGalBpAmpQ := atoi (fieldAt mField 30) }
    else mM1

/-- `SystemStatusTimeAndClock(nmea)`. -/
def PQWM1.timeAndClock (nmea : PQWM1 Double) : TimeAndClock where
  mGpsWeek := nmea.mGpsWeek
  mGpsTowMs := nmea.mGpsTowMs
  mTimeValid := nmea.mTimeValid
  mTimeSource := nmea.mTimeSource
  mTimeUnc := nmea.mTimeUnc
  mClockFreqBias := nmea.mClockFreqBias
  mClockFreqBiasUnc := nmea.mClockFreqBiasUnc
  mLeapSeconds := nmea.mLeapSeconds
  mLeapSecUnc := nmea.mLeapSecUnc

/-- `SystemStatusRfAndParams(nmea)`. -/
def PQWM1.rfAndParams (nmea : PQWM1 Double) : RfAndParams Double where
  mPgaGain := nmea.mPgaGain
  mGpsBpAmpI := nmea.mGpsBpAmpI
  mGpsBpAmpQ := nmea.mGpsBpAmpQ
  mAdcI := nmea.mAdcI
  mAdcQ := nmea.mAdcQ
  mJammerGps := nmea.mJammerGps
  mJammerGlo := nmea.mJammerGlo
  mJammerBds := nmea.mJammerBds
  mJammerGal := nmea.mJammerGal
  mAgcGps := nmea.mAgcGps
  mAgcGlo := nmea.mAgcGlo
  mAgcBds := nmea.mAgcBds
  mAgcGal := nmea.mAgcGal
  mGloBpAmpI := nmea.mGloBpAmpI
  mGloBpAmpQ := nmea.mGloBpAmpQ
  mBdsBpAmpI := nmea.mBdsBpAmpI
  mBdsBpAmpQ := nmea.mBdsBpAmpQ
  mGalBpAmpI := nmea.mGalBpAmpI
  mGalBpAmpQ := nmea.mGalBpAmpQ

/-- `SystemStatusPQWP1parser`. -/
def parsePQWP1 (mP1 : InjectedPosition Single) : InjectedPosition Single :=
  if mField.length < 9 then mP1
  else
    { mEpiValidity := strtolHex 8 (fieldAt mField 2)
      mEpiLat := ops.ofDouble (ops.atof (fieldAt mField 3))
      mEpiLon := ops.ofDouble (ops.atof (fieldAt mField 4))
      mEpiAlt := ops.ofDouble (ops.atof (fieldAt mField 5))
      mEpiHepe := ops.ofInt (atoi (fieldAt mField 6))
      mEpiAltUnc := ops.ofDouble (ops.atof (fieldAt mField 7))
      mEpiSrc := (atoi (fieldAt mField 8)).setWidth 8 }

/-- `SystemStatusPQWP2parser`. -/
def parsePQWP2 (mP2 : PQWP2 Single) : PQWP2 Single :=
  if mField.length < 7 then mP2
  else
    { mBestLat := ops.ofDouble (ops.atof (fieldAt mField 2))
      mBestLon := ops.ofDouble (ops.atof (fieldAt mField 3))
      mBestAlt := ops.ofDouble (ops.atof (fieldAt mField 4))
      mBestHepe := ops.ofDouble (ops.atof (fieldAt mField 5))
      mBestAltUnc := ops.ofDouble (ops.atof (fieldAt mField 6)) }

/-- `SystemStatusPQWP3parser`. -/
def parsePQWP3 (mP3 : Xtra) : Xtra :=
  if mField.length < 13 then mP3
  else
    { mXtraValidMask := strtolHex 8 (fieldAt mField 2)
      mGpsXtraAge := atoi (fieldAt mField 3)
      mGloXtraAge := atoi (fieldAt mField 4)
      mBdsXtraAge := atoi (fieldAt mField 5)
      mGalXtraAge := atoi (fieldAt mField 6)
      mQzssXtraAge := atoi (fieldAt mField 7)
      mGpsXtraValid := strtolHex 32 (fieldAt mField 8)
      mGloXtraValid := strtolHex 32 (fieldAt mField 9)
      mBdsXtraValid := strtolHex 64 (fieldAt mField 10)
      mGalXtraValid := strtolHex 64 (fieldAt mField 11)
      mQzssXtraValid := strtolHex 8 (fieldAt mField 12) }

/-- `SystemStatusPQWP4parser`. -/
def parsePQWP4 (mP4 : Ephemeris) : Ephemeris :=
  if mField.length < 7 then mP4
  else
    { mGpsEpheValid := strtolHex 32 (fieldAt mField 2)
      mGloEpheValid := strtolHex 32 (fieldAt mField 3)
      mBdsEpheValid := strtolHex 64 (fieldAt mField 4)
      mGalEpheValid := strtolHex 64 (fieldAt mField 5)
      mQzssEpheValid := strtolHex 8 (fieldAt mField 6) }

/-- `SystemStatusPQWP5parser`. -/
def parsePQWP5 (mP5 : SvHealth) : SvHealth :=
  if mField.length < 17 then mP5
  else
    { mGpsUnknownMask := strtolHex 32 (fieldAt mField 2)
      mGloUnknownMask := strtolHex 32 (fieldAt mField 3)
      mBdsUnknownMask := strtolHex 64 (fieldAt mField 4)
      mGalUnknownMask := strtolHex 64 (fieldAt mField 5)
      mQzssUnknownMask := strtolHex 8 (fieldAt mField 6)
      mGpsGoodMask := strtolHex 32 (fieldAt mField 7)
      mGloGoodMask := strtolHex 32 (fieldAt mField 8)
      mBdsGoodMask := strtolHex 64 (fieldAt mField 9)
      mGalGoodMask := strtolHex 64 (fieldAt mField 10)
      mQzssGoodMask := strtolHex 8 (fieldAt mField 11)
      mGpsBadMask := strtolHex 32 (fieldAt mField 12)
      mGloBadMask := strtolHex 32 (fieldAt mField 13)
      mBdsBadMask := strtolHex 64 (fieldAt mField 14)
      mGalBadMask := strtolHex 64 (fieldAt mField 15)
      mQzssBadMask := strtolHex 8 (fieldAt mField 16) }

/-- `SystemStatusPQWP6parser`. -/
def parsePQWP6 (mP6 : BitVec 32) : BitVec 32 :=
  if mField.length < 3 then mP6 else strtolHex 32 (fieldAt mField 2)

/-- `SystemStatusPQWP7parser`. -/
def parsePQWP7 (mP7 : NavData) : NavData :=
  if mField.length < 2 + svAllNum * 3 then mP7
  else Vector.ofFn fun i =>
    { mType := atoi (fieldAt mField (i * 3 + 2))
      mSource := atoi (fieldAt mField (i * 3 + 3))
      mAgeSec := atoi (fieldAt mField (i * 3 + 4)) }

/-- `SystemStatusPQWS1parser`. -/
def parsePQWS1 (mS1 : PositionFailure) : PositionFailure :=
  if mField.length < 4 then mS1
  else
    { mFixInfoMask := atoi (fieldAt mField 2)
      mHepeLimit := atoi (fieldAt mField 3) }

end Parsers

/-- The sentences that `setNmeaString` tells apart. -/
inductive Sentence where
  | PQWM1
  | PQWP1
  | PQWP2
  | PQWP3
  | PQWP4
  | PQWP5
  | PQWP6
  | PQWP7
  | PQWS1
deriving DecidableEq, Repr

namespace Sentence

/-- What a sentence begins with. -/
def talker : Sentence → List Char
  | PQWM1 => ['$', 'P', 'Q', 'W', 'M', '1']
  | PQWP1 => ['$', 'P', 'Q', 'W', 'P', '1']
  | PQWP2 => ['$', 'P', 'Q', 'W', 'P', '2']
  | PQWP3 => ['$', 'P', 'Q', 'W', 'P', '3']
  | PQWP4 => ['$', 'P', 'Q', 'W', 'P', '4']
  | PQWP5 => ['$', 'P', 'Q', 'W', 'P', '5']
  | PQWP6 => ['$', 'P', 'Q', 'W', 'P', '6']
  | PQWP7 => ['$', 'P', 'Q', 'W', 'P', '7']
  | PQWS1 => ['$', 'P', 'Q', 'W', 'S', '1']

/-- The branches of `setNmeaString`, in their order: the first talker that `strncmp` finds. -/
def find? (data : List Char) : Option Sentence :=
  [PQWM1, PQWP1, PQWP2, PQWP3, PQWP4, PQWP5, PQWP6, PQWP7, PQWS1].find? fun s =>
    data.take debugNmeaMinsize == s.talker

/-- The number of fields that the parser of a sentence needs. -/
def required : Sentence → ℕ
  | PQWM1 => 23
  | PQWP1 => 9
  | PQWP2 => 7
  | PQWP3 => 13
  | PQWP4 => 7
  | PQWP5 => 17
  | PQWP6 => 3
  | PQWP7 => 2 + svAllNum * 3
  | PQWS1 => 4

/-- What the parser of a sentence makes of the fields: the reports to be stored, in this order. -/
def parse (ops : FloatOps Double Single) (memory : Memory Single) (mField : List (List Char)) :
    Sentence → List (Σ k, NmeaContent Double Single k)
  | PQWM1 =>
      let s := PQWM1.parse ops mField
      [⟨.mTimeAndClock, s.timeAndClock⟩, ⟨.mXoState, s.mXoState⟩, ⟨.mRfAndParams, s.rfAndParams⟩,
        ⟨.mErrRecovery, s.mRecErrorRecovery⟩]
  | PQWP1 => [⟨.mInjectedPosition, parsePQWP1 ops mField memory.mP1⟩]
  | PQWP2 => [⟨.mBestPosition, ⟨parsePQWP2 ops mField memory.mP2, true⟩⟩]
  | PQWP3 => [⟨.mXtra, parsePQWP3 mField memory.mP3⟩]
  | PQWP4 => [⟨.mEphemeris, parsePQWP4 mField memory.mP4⟩]
  | PQWP5 => [⟨.mSvHealth, parsePQWP5 mField memory.mP5⟩]
  | PQWP6 => [⟨.mPdr, parsePQWP6 mField memory.mP6⟩]
  | PQWP7 => [⟨.mNavData, parsePQWP7 mField memory.mP7⟩]
  | PQWS1 => [⟨.mPositionFailure, parsePQWS1 mField memory.mS1⟩]

/-- With too few fields the fields do not matter: cleared memory is stored, or what the memory
held. -/
lemma parse_of_lt (ops : FloatOps Double Single) (memory : Memory Single)
    {mField : List (List Char)} {s : Sentence} (h : mField.length < s.required) :
    s.parse ops memory mField = s.parse ops memory [] := by
  cases s with
  | PQWM1 =>
      have hle : mField.length ≤ 22 := Nat.le_of_lt_succ h
      simp only [parse, PQWM1.parse, if_pos hle, List.length_nil, Nat.zero_le, if_true]
  | PQWP1 =>
      have hlt : mField.length < 9 := h
      rw [parse, parsePQWP1, if_pos hlt]
      rfl
  | PQWP2 =>
      have hlt : mField.length < 7 := h
      rw [parse, parsePQWP2, if_pos hlt]
      rfl
  | PQWP3 =>
      have hlt : mField.length < 13 := h
      rw [parse, parsePQWP3, if_pos hlt]
      rfl
  | PQWP4 =>
      have hlt : mField.length < 7 := h
      rw [parse, parsePQWP4, if_pos hlt]
      rfl
  | PQWP5 =>
      have hlt : mField.length < 17 := h
      rw [parse, parsePQWP5, if_pos hlt]
      rfl
  | PQWP6 =>
      have hlt : mField.length < 3 := h
      rw [parse, parsePQWP6, if_pos hlt]
      rfl
  | PQWP7 =>
      have hlt : mField.length < 2 + svAllNum * 3 := h
      rw [parse, parsePQWP7, if_pos hlt]
      rfl
  | PQWS1 =>
      have hlt : mField.length < 4 := h
      rw [parse, parsePQWS1, if_pos hlt]
      rfl

/-- No kind of report is made twice from one sentence. -/
lemma nodup_parse (ops : FloatOps Double Single) (memory : Memory Single)
    (mField : List (List Char)) (s : Sentence) :
    ((s.parse ops memory mField).map Sigma.fst).Nodup := by
  cases s with
  | PQWM1 =>
      show [NmeaKind.mTimeAndClock, .mXoState, .mRfAndParams, .mErrRecovery].Nodup
      decide
  | _ => exact List.nodup_singleton _

end Sentence

end SystemStatus
end LocHal
