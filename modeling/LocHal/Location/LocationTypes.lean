import Mathlib.Data.Finset.Basic
import Mathlib.Order.Compare

/-!
# Types shared by the location interfaces

The option and error types of `gps/location/LocationAPI.h`, the session keys of
`gps/core/LocAdapterBase.h` and the position mode of `gps/utils/gps_extended.h`.  Sizes, intervals
and identifiers are natural numbers: the code modelled over these types compares and copies them.
-/

namespace LocHal

/-- `LocationError`. -/
inductive LocationError where
  | success
  | generalFailure
  | callbackMissing
  | invalidParameter
  | idExists
  | idUnknown
  | alreadyStarted
  | geofencesAtMax
  | notSupported
deriving DecidableEq, Repr

/-- `GnssSuplMode`. -/
inductive GnssSuplMode where
  | standalone
  | msb
  | msa
deriving DecidableEq, Repr

/-- `LocationOptions`.  The defaults are those of `LocationOptions options = {}`. -/
structure LocationOptions where
  size : ℕ := 0
  minInterval : ℕ := 0
  minDistance : ℕ := 0
  mode : GnssSuplMode := .standalone
deriving DecidableEq, Repr

/-- `LocPositionMode`, without its reserved values. -/
inductive LocPositionMode where
  | invalid
  | standalone
  | msBased
  | msAssisted
deriving DecidableEq, Repr

/-- `LocGpsPositionRecurrence`. -/
inductive LocGpsPositionRecurrence where
  | periodic
  | single
deriving DecidableEq, Repr

/-- `LocPosMode`.  The defaults are those of its default constructor. -/
structure LocPosMode where
  mode : LocPositionMode := .msBased
  recurrence : LocGpsPositionRecurrence := .periodic
  min_interval : ℕ := 1000
  preferred_accuracy : ℕ := 50
  preferred_time : ℕ := 120000
  share_position : Bool := true
  credentials : String := ""
  provider : String := ""
deriving DecidableEq, Repr

/-- `LocationSessionKey`. -/
structure LocationSessionKey (Client : Type*) where
  client : Client
  id : ℕ
deriving DecidableEq, Repr

namespace LocationSessionKey

variable {Client : Type*}

/-- `operator <`: by `id`, then by `client`. -/
instance [Ord Client] : Ord (LocationSessionKey Client) :=
  ⟨compareLex (compareOn LocationSessionKey.id) (compareOn LocationSessionKey.client)⟩

variable [LinearOrder Client]

instance : Std.TransOrd (LocationSessionKey Client) :=
  inferInstanceAs (Std.TransCmp
    (compareLex (compareOn LocationSessionKey.id) (compareOn LocationSessionKey.client)))

instance : Std.LawfulEqOrd (LocationSessionKey Client) where
  eq_of_compare {a b} h := by
    obtain ⟨hid, hclient⟩ := Ordering.then_eq_eq.mp h
    have hid : a.id = b.id := Std.LawfulEqCmp.eq_of_compare hid
    have hclient : a.client = b.client := Std.LawfulEqCmp.eq_of_compare hclient
    cases a
    cases b
    simp_all

end LocationSessionKey

/-- `LocationSessionMap`. -/
abbrev LocationSessionMap (Client : Type*) [LinearOrder Client] :=
  Std.TreeMap (LocationSessionKey Client) LocationOptions compare

namespace LocationSessionMap

variable {Client : Type*} [LinearOrder Client] (sessions : LocationSessionMap Client)
  (key key' : LocationSessionKey Client)

lemma getElem?_insert (options : LocationOptions) :
    (sessions.insert key options)[key']? = if key' = key then some options else sessions[key']? := by
  simp only [Std.TreeMap.getElem?_insert, Std.LawfulEqCmp.compare_eq_iff_eq, @eq_comm _ key]

lemma getElem?_erase :
    (sessions.erase key)[key']? = if key' = key then none else sessions[key']? := by
  simp only [Std.TreeMap.getElem?_erase, Std.LawfulEqCmp.compare_eq_iff_eq, @eq_comm _ key]

end LocationSessionMap

end LocHal
