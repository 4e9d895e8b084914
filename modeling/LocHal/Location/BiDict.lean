import Mathlib.Data.Finset.Basic
import Mathlib.Order.Compare

/-!
# `BiDict` (`gps/location/LocationAPIClientBase.h`)

A `BiDict` keeps, for the ids that a client has chosen, the sessions that the HAL has given it, in
both directions, and a value for each session.  `BiDict.Bijective` is what its users rely on: the
two maps are inverse to each other.
-/

namespace LocHal

/-- `std::map` with `uint32_t` keys. -/
abbrev UintMap (T : Type*) := Std.TreeMap ℕ T compare

namespace UintMap

variable {T : Type*} (m : UintMap T) (k k' : ℕ)

lemma getElem?_insert (v : T) : (m.insert k v)[k']? = if k' = k then some v else m[k']? := by
  simp only [Std.TreeMap.getElem?_insert, Std.LawfulEqCmp.compare_eq_iff_eq, @eq_comm _ k]

lemma getElem?_erase : (m.erase k)[k']? = if k' = k then none else m[k']? := by
  simp only [Std.TreeMap.getElem?_erase, Std.LawfulEqCmp.compare_eq_iff_eq, @eq_comm _ k]

end UintMap

/-- `BiDict`. -/
structure BiDict (T : Type*) where
  mForwardMap : UintMap ℕ
  mBackwardMap : UintMap ℕ
  mExtMap : UintMap T

namespace BiDict

variable {T : Type*}

/-- The constructor. -/
def empty : BiDict T := ⟨∅, ∅, ∅⟩

/-- `hasId`. -/
def hasId (d : BiDict T) (id : ℕ) : Bool := d.mForwardMap[id]?.isSome

/-- `hasSession`. -/
def hasSession (d : BiDict T) (session : ℕ) : Bool := d.mBackwardMap[session]?.isSome

/-- `set`. -/
def set (d : BiDict T) (id session : ℕ) (ext : T) : BiDict T :=
  ⟨d.mForwardMap.insert id session, d.mBackwardMap.insert session id, d.mExtMap.insert session ext⟩

/-- The dictionary without an id and a session. -/
def erasePair (d : BiDict T) (id session : ℕ) : BiDict T :=
  ⟨d.mForwardMap.erase id, d.mBackwardMap.erase session, d.mExtMap.erase session⟩

/-- `rmById`, where `mForwardMap[id]` is zero when there is none. -/
def rmById (d : BiDict T) (id : ℕ) : BiDict T := d.erasePair id (d.mForwardMap[id]?.getD 0)

/-- `rmBySession`, where `mBackwardMap[session]` is zero when there is none. -/
def rmBySession (d : BiDict T) (session : ℕ) : BiDict T :=
  d.erasePair (d.mBackwardMap[session]?.getD 0) session

/-- `getId`. -/
def getId (d : BiDict T) (session : ℕ) : ℕ := d.mBackwardMap[session]?.getD 0

/-- `getSession`. -/
def getSession (d : BiDict T) (id : ℕ) : ℕ := d.mForwardMap[id]?.getD 0

/-- `getExtById`, for an id that there is; the default value is the one of `memset`. -/
def getExtById [Inhabited T] (d : BiDict T) (id : ℕ) : T :=
  let session := d.mForwardMap[id]?.getD 0
  if session > 0 then d.mExtMap[session]?.getD default else default

/-- `getExtBySession`; the default value is the one of `memset`. -/
def getExtBySession [Inhabited T] (d : BiDict T) (session : ℕ) : T :=
  d.mExtMap[session]?.getD default

/-- `getAllSessions`. -/
def getAllSessions (d : BiDict T) : List ℕ := d.mBackwardMap.keys

/-- The two maps are inverse to each other, and the values are those of the sessions. -/
structure Bijective (d : BiDict T) : Prop where
  inverse : ∀ id session : ℕ, d.mForwardMap[id]? = some session ↔ d.mBackwardMap[session]? = some id
  ext : ∀ session : ℕ, d.mExtMap[session]?.isSome = d.mBackwardMap[session]?.isSome

section Bijective

variable {d : BiDict T}

lemma bijective_empty : (empty : BiDict T).Bijective where
  inverse := by simp [empty]
  ext := by simp [empty]

lemma hasId_eq_true {id : ℕ} : d.hasId id = true ↔ ∃ session, d.mForwardMap[id]? = some session :=
  Option.isSome_iff_exists

lemma hasSession_eq_true {session : ℕ} :
    d.hasSession session = true ↔ ∃ id, d.mBackwardMap[session]? = some id :=
  Option.isSome_iff_exists

lemma hasId_eq_false {id : ℕ} : d.hasId id = false ↔ d.mForwardMap[id]? = none := by
  rw [hasId, ← Bool.not_eq_true, Option.not_isSome_iff_eq_none]

lemma hasSession_eq_false {session : ℕ} :
    d.hasSession session = false ↔ d.mBackwardMap[session]? = none := by
  rw [hasSession, ← Bool.not_eq_true, Option.not_isSome_iff_eq_none]

/-- A pair is set with its value. -/
lemma Bijective.ext_set (h : d.Bijective) (id session : ℕ) (ext : T) (session' : ℕ) :
    (d.set id session ext).mExtMap[session']?.isSome =
      (d.set id session ext).mBackwardMap[session']?.isSome := by
  simp only [BiDict.set, UintMap.getElem?_insert]
  by_cases hs : session' = session
  · simp [hs]
  · simp only [hs, if_false]
    exact h.ext session'

/-- A new pair keeps the maps inverse when neither its id nor its session is there. -/
lemma Bijective.set (h : d.Bijective) {id session : ℕ} (hid : d.hasId id = false)
    (hsession : d.hasSession session = false) (ext : T) : (d.set id session ext).Bijective where
  inverse id' session' := by
    simp only [BiDict.set, UintMap.getElem?_insert]
    have hid' : d.mForwardMap[id]? = none := hasId_eq_false.mp hid
    have hsession' : d.mBackwardMap[session]? = none := hasSession_eq_false.mp hsession
    by_cases hi : id' = id
    · by_cases hs : session' = session
      · simp [hi, hs]
      · subst hi
        have hno : d.mBackwardMap[session']? ≠ some id' := fun heq => by
          rw [(h.inverse _ _).mpr heq] at hid'
          cases hid'
        simp [hs, Ne.symm hs, hno]
    · by_cases hs : session' = session
      · subst hs
        have hno : d.mForwardMap[id']? ≠ some session' := fun heq => by
          rw [(h.inverse _ _).mp heq] at hsession'
          cases hsession'
        simp [hi, Ne.symm hi, hno]
      · simp only [hi, hs, if_false]
        exact h.inverse id' session'
  ext := h.ext_set id session ext

lemma getElem?_of_getSession_pos {id : ℕ} (h : 0 < d.getSession id) :
    d.mForwardMap[id]? = some (d.getSession id) := by
  unfold getSession at h ⊢
  cases hid : d.mForwardMap[id]? with
  | none =>
      rw [hid] at h
      exact absurd h (lt_irrefl 0)
  | some session => rfl

/-- A pair that is there may be given another value. -/
lemma Bijective.set_of_mem (h : d.Bijective) {id session : ℕ}
    (hpair : d.mForwardMap[id]? = some session) (ext : T) : (d.set id session ext).Bijective where
  inverse id' session' := by
    have hpair' := (h.inverse id session).mp hpair
    have hforward : (d.mForwardMap.insert id session)[id']? = d.mForwardMap[id']? := by
      rw [UintMap.getElem?_insert]
      split
      · rename_i hi
        rw [hi, hpair]
      · rfl
    have hbackward : (d.mBackwardMap.insert session id)[session']? = d.mBackwardMap[session']? := by
      rw [UintMap.getElem?_insert]
      split
      · rename_i hs
        rw [hs, hpair']
      · rfl
    rw [BiDict.set, hforward, hbackward]
    exact h.inverse id' session'
  ext := h.ext_set id session ext

lemma hasId_set (d : BiDict T) (id session id' : ℕ) (ext : T) :
    (d.set id session ext).hasId id' = true ↔ id' = id ∨ d.hasId id' = true := by
  simp only [hasId, BiDict.set, UintMap.getElem?_insert]
  split
  · rename_i h
    simp [h]
  · rename_i h
    simp [h]

lemma hasSession_set (d : BiDict T) (id session session' : ℕ) (ext : T) :
    (d.set id session ext).hasSession session' = true ↔
      session' = session ∨ d.hasSession session' = true := by
  simp only [hasSession, BiDict.set, UintMap.getElem?_insert]
  split
  · rename_i h
    simp [h]
  · rename_i h
    simp [h]

lemma hasSession_erasePair (d : BiDict T) (id session session' : ℕ) :
    (d.erasePair id session).hasSession session' = true ↔
      session' ≠ session ∧ d.hasSession session' = true := by
  simp only [hasSession, erasePair, UintMap.getElem?_erase]
  split
  · rename_i h
    simp [h]
  · rename_i h
    simp [h]

lemma hasId_erasePair (d : BiDict T) (id session : ℕ) :
    (d.erasePair id session).hasId id = false := by
  simp [hasId, erasePair]

lemma rmById_eq {id session : ℕ} (h : d.mForwardMap[id]? = some session) :
    d.rmById id = d.erasePair id session := by
  rw [rmById, h, Option.getD_some]

lemma rmBySession_eq {id session : ℕ} (h : d.mBackwardMap[session]? = some id) :
    d.rmBySession session = d.erasePair id session := by
  rw [rmBySession, h, Option.getD_some]

/-- Removing one pair leaves the others. -/
lemma Bijective.erasePair (h : d.Bijective) {id session : ℕ}
    (hpair : d.mForwardMap[id]? = some session) : (d.erasePair id session).Bijective where
  inverse id' session' := by
    have hpair' := (h.inverse id session).mp hpair
    simp only [BiDict.erasePair, UintMap.getElem?_erase]
    by_cases hi : id' = id
    · by_cases hs : session' = session
      · simp [hi, hs]
      · subst hi
        have hno : d.mBackwardMap[session']? ≠ some id' := fun heq => by
          have := (h.inverse _ _).mpr heq
          rw [hpair] at this
          exact hs (Option.some.inj this).symm
        simp [hs, hno]
    · by_cases hs : session' = session
      · subst hs
        have hno : d.mForwardMap[id']? ≠ some session' := fun heq => by
          have := (h.inverse _ _).mp heq
          rw [hpair'] at this
          exact hi (Option.some.inj this).symm
        simp [hi, hno]
      · simp only [hi, hs, if_false]
        exact h.inverse id' session'
  ext session' := by
    simp only [BiDict.erasePair, UintMap.getElem?_erase]
    by_cases hs : session' = session
    · simp [hs]
    · simp only [hs, if_false]
      exact h.ext session'

end Bijective

end BiDict

end LocHal
