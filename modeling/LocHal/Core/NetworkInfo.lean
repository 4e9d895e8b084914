import LocHal.Core.SystemStatus
import LocHal.Lib.Machine
import Mathlib.Data.List.Infix
import Mathlib.Tactic.SplitIfs

/-!
# Network connectivity (`gps/core/SystemStatus.h`, `gps/core/SystemStatus.cpp`)

A `NetworkInfo` item says of one type of network whether it is connected.  `collate` folds the
items into `mAllTypes`, a bit set of the connected types, and a disconnected event of unknown type,
whose own bit set is empty, empties it.

`ConnectedAfter` reads off the events what the bit set is for.  The fold keeps to it step by step
(`isBitSet_collate`) once it has begun, but the first item of all is not collated: one that says
"disconnected" of a known type is stored with the bit of the type.  `allTypes_follow_iff` says that
nothing else goes wrong.
-/

namespace LocHal
namespace SystemStatus

/-- `NetworkInfoDataItemBase::TYPE_UNKNOWN`, the first value after the known types. -/
def TYPE_UNKNOWN : ℤ := 9

/-- `typeToAllTypes`. -/
def typeToAllTypes (type : ℤ) : BitVec 64 :=
  if type ≥ TYPE_UNKNOWN ∨ type < 0 then 0#64 else 1#64 <<< type.toNat

/-- A data item to notify, by the arguments of the constructor of `NetworkInfoDataItemBase`, and the
time at which it comes. -/
structure NetworkEvent where
  initialType : ℤ
  type : ℤ
  typeName : String
  subTypeName : String
  available : Bool
  connected : Bool
  roaming : Bool
  now : ℕ

namespace NetworkEvent

/-- The constructor of `NetworkInfoDataItemBase`. -/
def info (e : NetworkEvent) : NetworkInfo where
  mAllTypes := typeToAllTypes e.initialType
  mType := e.type
  mTypeName := e.typeName
  mSubTypeName := e.subTypeName
  mAvailable := e.available
  mConnected := e.connected
  mRoaming := e.roaming

/-- The event is about one of the types that have a bit. -/
def Known (e : NetworkEvent) : Prop := 0 ≤ e.initialType ∧ e.initialType < TYPE_UNKNOWN

instance (e : NetworkEvent) : Decidable e.Known := inferInstanceAs (Decidable (_ ∧ _))

/-- A disconnected event of unknown type, after which nothing is connected. -/
def endsAll (e : NetworkEvent) : Bool := !e.connected && !decide e.Known

end NetworkEvent

/-! ## What the events say -/

/-- The most recent event of a type since the last that ended all. -/
def lastOfType (events : List NetworkEvent) (type : ℤ) : Option NetworkEvent :=
  (events.reverse.takeWhile fun e => !e.endsAll).find? fun e => e.initialType == type

/-- The type is known, and its most recent event says that it is connected. -/
def ConnectedAfter (events : List NetworkEvent) (type : ℤ) : Prop :=
  ∃ e, lastOfType events type = some e ∧ e.Known ∧ e.connected = true

/-- `allTypes` has the bits of the types that are connected, and no others. -/
def IsBitSet (allTypes : BitVec 64) (events : List NetworkEvent) : Prop :=
  ∀ i : ℕ, allTypes.getLsbD i = true ↔ ConnectedAfter events i

section History

variable {events : List NetworkEvent} {e : NetworkEvent}

lemma not_connectedAfter_nil (type : ℤ) : ¬ ConnectedAfter [] type := by
  rintro ⟨e, he, -⟩
  exact absurd he (by simp [lastOfType])

lemma lastOfType_append (events : List NetworkEvent) (e : NetworkEvent) (type : ℤ) :
    lastOfType (events ++ [e]) type =
      if e.endsAll then none
      else if e.initialType = type then some e
      else lastOfType events type := by
  simp only [lastOfType, List.reverse_append, List.reverse_singleton, List.singleton_append,
    List.takeWhile_cons]
  split_ifs <;> simp_all

lemma connectedAfter_append_of_endsAll (hends : e.endsAll = true) (type : ℤ) :
    ¬ ConnectedAfter (events ++ [e]) type := by
  rintro ⟨e', he', -⟩
  rw [lastOfType_append, if_pos hends] at he'
  cases he'

lemma connectedAfter_append_self (hends : e.endsAll = false) :
    ConnectedAfter (events ++ [e]) e.initialType ↔ e.Known ∧ e.connected = true := by
  simp [ConnectedAfter, lastOfType_append, hends]

lemma connectedAfter_append_of_ne (hends : e.endsAll = false) {type : ℤ}
    (htype : e.initialType ≠ type) :
    ConnectedAfter (events ++ [e]) type ↔ ConnectedAfter events type := by
  simp [ConnectedAfter, lastOfType_append, hends, htype]

/-- The most recent event of a type is of that type, and so only known types are connected. -/
lemma ConnectedAfter.known {type : ℤ} (h : ConnectedAfter events type) :
    0 ≤ type ∧ type < TYPE_UNKNOWN := by
  obtain ⟨e, he, hknown, -⟩ := h
  have htype : e.initialType = type := by simpa using List.find?_some he
  exact htype ▸ hknown

end History

/-! ## The bit set -/

section Bits

variable {events : List NetworkEvent} {e : NetworkEvent}

lemma getLsbD_typeToAllTypes (type : ℤ) (i : ℕ) :
    (typeToAllTypes type).getLsbD i = true ↔ (0 ≤ type ∧ type < TYPE_UNKNOWN) ∧ type = i := by
  rw [typeToAllTypes]
  split_ifs with hunknown
  · rw [BitVec.getLsbD_zero]
    exact iff_of_false Bool.false_ne_true (by omega)
  · rw [TYPE_UNKNOWN] at hunknown ⊢
    simp only [BitVec.getLsbD_shiftLeft, BitVec.getLsbD_one, Bool.and_eq_true, decide_eq_true_eq,
      Bool.not_eq_true', decide_eq_false_iff_not]
    omega

namespace NetworkEvent

lemma getLsbD_mAllTypes (e : NetworkEvent) (i : ℕ) :
    e.info.mAllTypes.getLsbD i = true ↔ e.Known ∧ e.initialType = i :=
  getLsbD_typeToAllTypes e.initialType i

lemma mAllTypes_eq_zero (h : ¬ e.Known) : e.info.mAllTypes = 0 := by
  refine if_pos ?_
  rw [Known] at h
  omega

lemma mAllTypes_ne_zero (h : e.Known) : e.info.mAllTypes ≠ 0 := by
  intro hzero
  have hbit : e.info.mAllTypes.getLsbD e.initialType.toNat = true := by
    rw [getLsbD_mAllTypes, Int.toNat_of_nonneg h.1]
    exact ⟨h, rfl⟩
  rw [hzero] at hbit
  simp at hbit

end NetworkEvent

lemma NetworkInfo.collate_of_connected {s curInfo : NetworkInfo} (h : s.mConnected = true) :
    (s.collate curInfo).mAllTypes = s.mAllTypes ||| curInfo.mAllTypes := by
  rw [collate, if_pos h]

lemma NetworkInfo.collate_of_disconnected {s curInfo : NetworkInfo} (h : s.mConnected = false)
    (htypes : s.mAllTypes ≠ 0) :
    (s.collate curInfo).mAllTypes = curInfo.mAllTypes &&& ~~~s.mAllTypes := by
  rw [collate, if_neg (Bool.eq_false_iff.mp h), if_pos htypes]

lemma NetworkInfo.collate_of_none_left {s curInfo : NetworkInfo} (h : s.mConnected = false)
    (htypes : s.mAllTypes = 0) : (s.collate curInfo).mAllTypes = 0 := by
  rw [collate, if_neg (Bool.eq_false_iff.mp h), if_neg (not_not.mpr htypes), htypes]

/-- What `collate` makes of an item keeps the bit set. -/
lemma isBitSet_collate {back : NetworkInfo} (h : IsBitSet back.mAllTypes events) :
    IsBitSet (e.info.collate back).mAllTypes (events ++ [e]) := by
  intro i
  have hi := h i
  have hown := e.getLsbD_mAllTypes i
  cases hconnected : e.connected with
  | true =>
    have hends : e.endsAll = false := by simp [NetworkEvent.endsAll, hconnected]
    rw [NetworkInfo.collate_of_connected hconnected, BitVec.getLsbD_or, Bool.or_eq_true, hown, hi]
    by_cases htype : e.initialType = i
    · rw [← htype, connectedAfter_append_self hends]
      have hknown : ConnectedAfter events e.initialType → e.Known := ConnectedAfter.known
      tauto
    · rw [connectedAfter_append_of_ne hends htype]
      simp [htype]
  | false =>
    by_cases hknown : e.Known
    · have hends : e.endsAll = false := by simp [NetworkEvent.endsAll, hknown]
      rw [NetworkInfo.collate_of_disconnected hconnected (NetworkEvent.mAllTypes_ne_zero hknown),
        BitVec.getLsbD_and, BitVec.getLsbD_not, Bool.and_eq_true, hi]
      by_cases htype : e.initialType = i
      · have hbit : e.info.mAllTypes.getLsbD i = true := hown.mpr ⟨hknown, htype⟩
        rw [← htype, connectedAfter_append_self hends]
        simp [hbit, hconnected]
      · have hbit : e.info.mAllTypes.getLsbD i = false :=
          Bool.eq_false_iff.mpr fun hset => htype (hown.mp hset).2
        rw [connectedAfter_append_of_ne hends htype, hbit]
        have hlt : ConnectedAfter events i → i < 64 := fun hc => by
          have := hc.known.2
          rw [TYPE_UNKNOWN] at this
          omega
        simp
        exact hlt
    · have hends : e.endsAll = true := by simp [NetworkEvent.endsAll, hconnected, hknown]
      rw [NetworkInfo.collate_of_none_left hconnected (NetworkEvent.mAllTypes_eq_zero hknown)]
      exact iff_of_false (by simp) (connectedAfter_append_of_endsAll hends i)

/-- The first item is stored as it is, which is right unless it takes a known type away. -/
lemma isBitSet_first_iff :
    IsBitSet e.info.mAllTypes [e] ↔ ¬ (e.Known ∧ e.connected = false) := by
  constructor
  · rintro h ⟨hknown, hconnected⟩
    have hends : e.endsAll = false := by simp [NetworkEvent.endsAll, hknown]
    have htype : (e.initialType.toNat : ℤ) = e.initialType := Int.toNat_of_nonneg hknown.1
    have hset := (h e.initialType.toNat).mp ((e.getLsbD_mAllTypes _).mpr ⟨hknown, htype.symm⟩)
    rw [htype, ← List.nil_append [e], connectedAfter_append_self hends] at hset
    exact absurd hset.2 (by simp [hconnected])
  · intro h
    -- what `collate` would make of it over an empty bit set
    have hempty : IsBitSet ({ e.info with mAllTypes := 0 } : NetworkInfo).mAllTypes [] := fun i =>
      iff_of_false (by simp) (not_connectedAfter_nil i)
    have hcollate := isBitSet_collate (e := e) hempty
    cases hconnected : e.connected with
    | true =>
      rw [NetworkInfo.collate_of_connected hconnected] at hcollate
      simpa using hcollate
    | false =>
      have hzero := NetworkEvent.mAllTypes_eq_zero fun hknown => h ⟨hknown, hconnected⟩
      rw [NetworkInfo.collate_of_none_left hconnected hzero] at hcollate
      rwa [hzero]

end Bits

/-! ## The runs -/

section Runs

variable {RilData : Type}

/-- What becomes of an item: it is collated with the latest report, if there is one. -/
def collated {Double Rest : Type} (mCache : Cache Double Rest RilData) (e : NetworkEvent) :
    NetworkInfo :=
  match latest (mCache .mNetworkInfo) with
  | none => e.info
  | some back => e.info.collate back

/-- The latest `mAllTypes` of the cache. -/
def latestAllTypes {Double Rest : Type} (mCache : Cache Double Rest RilData) :
    Option (BitVec 64) :=
  (latest (mCache .mNetworkInfo)).map NetworkInfo.mAllTypes

variable (Double Rest : Type) [BEq Double] (setPeerData : Option RilData → Option RilData)

/-- `eventDataItemNotify` of one item after the other, with what each is left with. -/
def networkMachine : Machine (Cache Double Rest RilData) NetworkEvent (DataItem RilData) where
  step mCache e :=
    let r := eventDataItemNotify setPeerData e.now (.networkInfo e.info) mCache
    (r.1, [r.2.2])

/-- The cache that a list of events leaves, beginning with that of a new `SystemStatus`. -/
def cacheAfter (events : List NetworkEvent) : Cache Double Rest RilData :=
  (networkMachine Double Rest setPeerData).run (fun _ => []) events

/-- When `e` comes after `seen`, the latest cached `mAllTypes` and that of the item are the bit set
of the types that are connected then. -/
def AllTypesFollow (seen : List NetworkEvent) (e : NetworkEvent) : Prop :=
  ∃ allTypes : BitVec 64,
    latestAllTypes (cacheAfter Double Rest setPeerData (seen ++ [e])) = some allTypes ∧
      (networkMachine Double Rest setPeerData).emit (cacheAfter Double Rest setPeerData seen) e =
        [.networkInfo { e.info with mAllTypes := allTypes }] ∧
      IsBitSet allTypes (seen ++ [e])

variable {Double Rest}

/-- Whether the report is stored or found equal, the latest one has the collated `mAllTypes`, and so
has the item. -/
lemma networkMachine_step (mCache : Cache Double Rest RilData) (e : NetworkEvent) :
    latestAllTypes ((networkMachine Double Rest setPeerData).next mCache e) =
        some (collated mCache e).mAllTypes ∧
      (networkMachine Double Rest setPeerData).emit mCache e =
        [.networkInfo { e.info with mAllTypes := (collated mCache e).mAllTypes }] := by
  have hnext : (networkMachine Double Rest setPeerData).next mCache e .mNetworkInfo =
      (setIteminReport (mCache .mNetworkInfo) ⟨e.now, e.now, e.info⟩).report := by
    simp [Machine.next, networkMachine, eventDataItemNotify, DataItem.report?, constructed]
  have hemit : (networkMachine Double Rest setPeerData).emit mCache e =
      [.networkInfo { e.info with mAllTypes :=
        (setIteminReport (mCache .mNetworkInfo) ⟨e.now, e.now, e.info⟩).s.content.mAllTypes }] :=
    rfl
  rw [latestAllTypes, hnext, hemit, collated]
  cases hlast : (mCache .mNetworkInfo).getLast? with
  | none =>
    have hlatest : latest (mCache .mNetworkInfo) = none := by rw [latest, hlast]; rfl
    rw [setIteminReport_of_empty hlast, latest_pushReport, hlatest]
    exact ⟨rfl, rfl⟩
  | some back =>
    have hlatest : latest (mCache .mNetworkInfo) = some back.content := by rw [latest, hlast]; rfl
    rw [hlatest]
    cases hequals : equals .mNetworkInfo back.content
        (collate .mNetworkInfo e.info back.content) with
    | true =>
      have hsame : back.content.mAllTypes = (e.info.collate back.content).mAllTypes :=
        eq_of_beq hequals
      rw [setIteminReport_of_equals hlast hequals]
      refine ⟨?_, rfl⟩
      simp [latest, ← hsame]
    | false =>
      rw [setIteminReport_of_differs hlast hequals, latest_pushReport]
      exact ⟨rfl, rfl⟩

variable {setPeerData}

lemma cacheAfter_append (seen : List NetworkEvent) (e : NetworkEvent) :
    cacheAfter Double Rest setPeerData (seen ++ [e]) =
      (networkMachine Double Rest setPeerData).next (cacheAfter Double Rest setPeerData seen) e :=
  Machine.run_append _ _ _ _

lemma allTypesFollow_iff {seen : List NetworkEvent} {e : NetworkEvent} :
    AllTypesFollow Double Rest setPeerData seen e ↔
      IsBitSet (collated (cacheAfter Double Rest setPeerData seen) e).mAllTypes (seen ++ [e]) := by
  obtain ⟨hlatest, hemit⟩ := networkMachine_step setPeerData
    (cacheAfter Double Rest setPeerData seen) e
  rw [AllTypesFollow, cacheAfter_append, hlatest, hemit]
  constructor
  · rintro ⟨allTypes, hall, -, hbits⟩
    cases hall
    exact hbits
  · exact fun hbits => ⟨_, rfl, rfl, hbits⟩

/-- The first item decides for itself. -/
lemma allTypesFollow_first_iff {e : NetworkEvent} :
    AllTypesFollow Double Rest setPeerData [] e ↔ ¬ (e.Known ∧ e.connected = false) :=
  allTypesFollow_iff.trans isBitSet_first_iff

/-- After one item whose bit set is right that of the next is right. -/
lemma AllTypesFollow.next {seen : List NetworkEvent} {e : NetworkEvent}
    (h : AllTypesFollow Double Rest setPeerData seen e) (e' : NetworkEvent) :
    AllTypesFollow Double Rest setPeerData (seen ++ [e]) e' := by
  obtain ⟨allTypes, hlatest, -, hbits⟩ := h
  rw [latestAllTypes, Option.map_eq_some_iff] at hlatest
  obtain ⟨back, hback, rfl⟩ := hlatest
  rw [allTypesFollow_iff, collated, hback]
  exact isBitSet_collate hbits

/-- **Network connectivity.** After every item of a run, the latest cached `mAllTypes` and that of
the item are the bit set of the connected types, exactly if the first item does not say of a known
type that it is disconnected. -/
theorem allTypes_follow_iff (setPeerData : Option RilData → Option RilData)
    (events : List NetworkEvent) :
    (∀ seen e rest, events = seen ++ e :: rest → AllTypesFollow Double Rest setPeerData seen e) ↔
      ∀ e ∈ events.head?, ¬ (e.Known ∧ e.connected = false) := by
  constructor
  · intro h e he
    obtain ⟨rest, rfl⟩ := List.head?_eq_some_iff.mp he
    exact allTypesFollow_first_iff.mp (h [] e rest rfl)
  · intro hfirst seen
    induction seen using List.reverseRecOn with
    | nil =>
      rintro e rest rfl
      exact allTypesFollow_first_iff.mpr (hfirst e rfl)
    | append_singleton seen e ih =>
      intro e' rest hevents
      have hfollow := ih e (e' :: rest) (by simpa using hevents)
      exact hfollow.next e'

end Runs

/-- Mobile data are disconnected. -/
def mobileDisconnected : NetworkEvent where
  initialType := 0
  type := 0
  typeName := "mobile"
  subTypeName := ""
  available := false
  connected := false
  roaming := false
  now := 0

/-- A first item that says that mobile data are disconnected is kept as one that says that they are
connected. -/
theorem first_disconnected_kept_connected :
    latestAllTypes (cacheAfter ℤ Unit (id : Option Unit → Option Unit) [mobileDisconnected]) =
        some 1#64 ∧
      ¬ ConnectedAfter [mobileDisconnected] 0 := by
  refine ⟨rfl, ?_⟩
  rintro ⟨e, he, -, hconnected⟩
  cases he
  cases hconnected

end SystemStatus
end LocHal
