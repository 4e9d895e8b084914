import LocHal.Lib.Machine
import LocHal.Location.LocationTypes
import Mathlib.Order.Bounds.Basic

/-!
# The tracking multiplexer (`gps/gnss/GnssAdapter.cpp`)

The GNSS engine runs one fix session at a time, and `GnssAdapter` multiplexes onto it the tracking
sessions of all its clients: the engine has to run while there is a session, at the smallest
interval any of them asks for.  Start, update and stop scan the other sessions and start, restart,
stop or leave alone the engine; a request the engine refuses leaves `mTrackingSessions` as it was.

The engine is outside the repository.  Each call on it is answered by a flag of the message being
processed, and a refused call leaves the engine as it is: `mLocApi` is the position mode the engine
last accepted, `none` while it is stopped.  There is no ULP, so the proxy is `UlpProxyBase`, whose
functions record their argument and answer `false`.

`Runs` is the purpose of the multiplexer, stated over a bare set of intervals; the three multiplex
functions are each shown to take a running engine to one that runs for the new set.
-/

namespace LocHal
namespace GnssAdapter

/-- `convertOptions`. -/
def convertOptions (options : LocationOptions) : LocPosMode :=
  { mode := match options.mode with
      | .msb => .msBased
      | .msa => .msAssisted
      | .standalone => .standalone
    share_position := true
    min_interval := options.minInterval }

/-- `UlpProxyBase`, the proxy in place when there is no ULP. -/
structure UlpProxyBase where
  mPosMode : LocPosMode := { mode := .invalid }
  mFixSet : Bool := false
deriving DecidableEq, Repr

/-- `UlpProxyBase::sendFixMode`. -/
def UlpProxyBase.sendFixMode (p : UlpProxyBase) (params : LocPosMode) : UlpProxyBase × Bool :=
  ({ p with mPosMode := params }, false)

/-- `UlpProxyBase::sendStartFix`. -/
def UlpProxyBase.sendStartFix (p : UlpProxyBase) : UlpProxyBase × Bool :=
  ({ p with mFixSet := true }, false)

/-- `UlpProxyBase::sendStopFix`. -/
def UlpProxyBase.sendStopFix (p : UlpProxyBase) : UlpProxyBase × Bool :=
  ({ p with mFixSet := false }, false)

/-- The callbacks of `LocationCallbacks` that tracking reads: whether each one is set. -/
structure LocationCallbacks where
  trackingCb : Bool
  gnssMeasurementsCb : Bool
  responseCb : Bool
deriving DecidableEq, Repr

/-- What is sent while a message is processed: the calls on the engine and the responses. -/
inductive TrackingOutput (Client : Type*) where
  | startFix (fixCriteria : LocPosMode)
  | stopFix
  | responseCb (client : Client) (err : LocationError) (sessionId : ℕ)
deriving DecidableEq, Repr

variable {Client : Type*} [LinearOrder Client]

/-- The part of `GnssAdapter` that tracking uses, and the engine behind `mLocApi`. -/
structure TrackingState (Client : Type*) [LinearOrder Client] where
  mClientData : Std.TreeMap Client LocationCallbacks compare
  mTrackingSessions : LocationSessionMap Client
  mUlpProxy : UlpProxyBase
  mOdcpiRequestActive : Bool
  mLocApi : Option LocPosMode

/-- The messages of the tracking sessions.  `ok` is the engine's answer to the one call that the
message may make; a client removal makes at most one call for each session. -/
inductive TrackingMsg (Client : Type*) where
  | addClient (client : Client) (callbacks : LocationCallbacks)
  | removeClient (client : Client) (ok : LocationSessionKey Client → Bool)
  | startTracking (client : Client) (sessionId : ℕ) (options : LocationOptions) (ok : Bool)
  | updateTracking (client : Client) (sessionId : ℕ) (options : LocationOptions) (ok : Bool)
  | stopTracking (client : Client) (sessionId : ℕ) (ok : Bool)
  /-- The engine came back up; `sessionLost` tells whether its fix session was lost meanwhile. -/
  | restartSessions (sessionLost : Bool)

namespace TrackingState

/-- The adapter before its first client. -/
def init : TrackingState Client := ⟨∅, ∅, {}, false, none⟩

/-! ## The functions of the adapter -/

/-- `mLocApi->startFix`, answered with `ok`. -/
def startFix (a : TrackingState Client) (fixCriteria : LocPosMode) (ok : Bool) :
    TrackingState Client × LocationError × List (TrackingOutput Client) :=
  if ok then ({ a with mLocApi := some fixCriteria }, .success, [.startFix fixCriteria])
  else (a, .generalFailure, [.startFix fixCriteria])

/-- `mLocApi->stopFix`, answered with `ok`. -/
def stopFix (a : TrackingState Client) (ok : Bool) :
    TrackingState Client × LocationError × List (TrackingOutput Client) :=
  if ok then ({ a with mLocApi := none }, .success, [.stopFix])
  else (a, .generalFailure, [.stopFix])

/-- `startTracking`. -/
def startTracking (a : TrackingState Client) (options : LocationOptions) (ok : Bool) :
    TrackingState Client × LocationError × List (TrackingOutput Client) :=
  let locPosMode := convertOptions options
  let fixMode := a.mUlpProxy.sendFixMode locPosMode
  let fix := fixMode.1.sendStartFix
  let a := { a with mUlpProxy := fix.1 }
  if !fix.2 then a.startFix locPosMode ok else (a, .success, [])

/-- `stopTracking`. -/
def stopTracking (a : TrackingState Client) (ok : Bool) :
    TrackingState Client × LocationError × List (TrackingOutput Client) :=
  let fix := a.mUlpProxy.sendStopFix
  let a := { a with mUlpProxy := fix.1 }
  if !fix.2 then a.stopFix ok else (a, .success, [])

/-- The loop over `mTrackingSessions` that looks for the smallest interval among the sessions that
`counts` selects.  A size of zero says that no session has been taken yet. -/
def smallestIntervalOptions (counts : LocationSessionKey Client → Bool)
    (sessions : List (LocationSessionKey Client × LocationOptions)) : LocationOptions :=
  sessions.foldl
    (fun smallest it =>
      if counts it.1 && (smallest.size == 0 || it.2.minInterval < smallest.minInterval) then it.2
      else smallest) {}

/-- `startTrackingMultiplex`. -/
def startTrackingMultiplex (a : TrackingState Client) (options : LocationOptions) (ok : Bool) :
    TrackingState Client × LocationError × List (TrackingOutput Client) :=
  if a.mTrackingSessions.isEmpty then a.startTracking options ok
  else
    let smallest := smallestIntervalOptions (fun _ => true) a.mTrackingSessions.toList
    if options.minInterval < smallest.minInterval then a.startTracking options ok
    else (a, .success, [])

/-- `updateTrackingMultiplex`. -/
def updateTrackingMultiplex (a : TrackingState Client) (client : Client) (id : ℕ)
    (options : LocationOptions) (ok : Bool) :
    TrackingState Client × LocationError × List (TrackingOutput Client) :=
  if a.mTrackingSessions.size = 1 then a.startTracking options ok
  else
    let key : LocationSessionKey Client := ⟨client, id⟩
    match a.mTrackingSessions[key]? with
    | none => (a, .success, [])
    | some current =>
        let smallest := smallestIntervalOptions (· ≠ key) a.mTrackingSessions.toList
        if options.minInterval < smallest.minInterval then a.startTracking options ok
        else if current.minInterval < smallest.minInterval then a.startTracking smallest ok
        else (a, .success, [])

/-- `stopTrackingMultiplex`. -/
def stopTrackingMultiplex (a : TrackingState Client) (client : Client) (id : ℕ) (ok : Bool) :
    TrackingState Client × LocationError × List (TrackingOutput Client) :=
  if a.mTrackingSessions.size = 1 then a.stopTracking ok
  else
    let key : LocationSessionKey Client := ⟨client, id⟩
    match a.mTrackingSessions[key]? with
    | none => (a, .success, [])
    | some current =>
        let smallest := smallestIntervalOptions (· ≠ key) a.mTrackingSessions.toList
        if current.minInterval < smallest.minInterval then a.startTracking smallest ok
        else (a, .success, [])

/-- `saveTrackingSession`. -/
def saveTrackingSession (a : TrackingState Client) (client : Client) (sessionId : ℕ)
    (options : LocationOptions) : TrackingState Client :=
  { a with mTrackingSessions := a.mTrackingSessions.insert ⟨client, sessionId⟩ options }

/-- `eraseTrackingSession`. -/
def eraseTrackingSession (a : TrackingState Client) (client : Client) (sessionId : ℕ) :
    TrackingState Client :=
  { a with mTrackingSessions := a.mTrackingSessions.erase ⟨client, sessionId⟩ }

/-- `isTrackingSession`. -/
def isTrackingSession (a : TrackingState Client) (client : Client) (sessionId : ℕ) : Bool :=
  a.mTrackingSessions.contains ⟨client, sessionId⟩

/-- `hasTrackingCallback`. -/
def hasTrackingCallback (a : TrackingState Client) (client : Client) : Bool :=
  match a.mClientData[client]? with
  | some callbacks => callbacks.trackingCb
  | none => false

/-- `hasMeasurementsCallback`. -/
def hasMeasurementsCallback (a : TrackingState Client) (client : Client) : Bool :=
  match a.mClientData[client]? with
  | some callbacks => callbacks.gnssMeasurementsCb
  | none => false

/-- `reportResponse`. -/
def reportResponse (a : TrackingState Client) (client : Client) (err : LocationError)
    (sessionId : ℕ) : List (TrackingOutput Client) :=
  match a.mClientData[client]? with
  | some callbacks => if callbacks.responseCb then [.responseCb client err sessionId] else []
  | none => []

/-- `saveClient`. -/
def saveClient (a : TrackingState Client) (client : Client) (callbacks : LocationCallbacks) :
    TrackingState Client :=
  { a with mClientData := a.mClientData.insert client callbacks }

/-- `eraseClient`. -/
def eraseClient (a : TrackingState Client) (client : Client) : TrackingState Client :=
  { a with mClientData := a.mClientData.erase client }

/-- The loop of `stopClientSessions` over the sessions the iterator has yet to reach. -/
def stopClientSessions (client : Client) (ok : LocationSessionKey Client → Bool) :
    TrackingState Client → List (LocationSessionKey Client × LocationOptions) →
      TrackingState Client × List (TrackingOutput Client)
  | a, [] => (a, [])
  | a, it :: rest =>
      if client = it.1.client then
        let stopped := a.stopTrackingMultiplex it.1.client it.1.id (ok it.1)
        let a := if stopped.2.1 = .success then
            stopped.1.eraseTrackingSession it.1.client it.1.id else stopped.1
        let done := stopClientSessions client ok a rest
        (done.1, stopped.2.2 ++ done.2)
      else stopClientSessions client ok a rest

/-- `restartSessions`.  The result of `startFix` is not looked at, and the engine accepts it. -/
def restartSessions (a : TrackingState Client) :
    TrackingState Client × List (TrackingOutput Client) :=
  let a := { a with mOdcpiRequestActive := false }
  if a.mTrackingSessions.isEmpty then (a, [])
  else
    let smallest := smallestIntervalOptions (fun _ => true) a.mTrackingSessions.toList
    let started := a.startFix (convertOptions smallest) true
    (started.1, started.2.2)

/-! ## `proc` of each message -/

/-- `MsgStartTracking::proc`. -/
def procStartTracking (a : TrackingState Client) (client : Client) (sessionId : ℕ)
    (options : LocationOptions) (ok : Bool) :
    TrackingState Client × List (TrackingOutput Client) :=
  if !a.hasTrackingCallback client && !a.hasMeasurementsCallback client then
    (a, a.reportResponse client .callbackMissing sessionId)
  else if options.size = 0 then
    (a, a.reportResponse client .invalidParameter sessionId)
  else
    let started := a.startTrackingMultiplex options ok
    let a := if started.2.1 = .success then
        started.1.saveTrackingSession client sessionId options else started.1
    (a, started.2.2 ++ a.reportResponse client started.2.1 sessionId)

/-- `MsgUpdateTracking::proc`. -/
def procUpdateTracking (a : TrackingState Client) (client : Client) (sessionId : ℕ)
    (options : LocationOptions) (ok : Bool) :
    TrackingState Client × List (TrackingOutput Client) :=
  if a.isTrackingSession client sessionId then
    if options.size = 0 then (a, a.reportResponse client .invalidParameter sessionId)
    else
      let updated := a.updateTrackingMultiplex client sessionId options ok
      let a := if updated.2.1 = .success then
          updated.1.saveTrackingSession client sessionId options else updated.1
      (a, updated.2.2 ++ a.reportResponse client updated.2.1 sessionId)
  else (a, [])

/-- `MsgStopTracking::proc`. -/
def procStopTracking (a : TrackingState Client) (client : Client) (sessionId : ℕ) (ok : Bool) :
    TrackingState Client × List (TrackingOutput Client) :=
  if a.isTrackingSession client sessionId then
    let stopped := a.stopTrackingMultiplex client sessionId ok
    let a := if stopped.2.1 = .success then
        stopped.1.eraseTrackingSession client sessionId else stopped.1
    (a, stopped.2.2 ++ a.reportResponse client stopped.2.1 sessionId)
  else (a, [])

/-- `MsgRemoveClient::proc`. -/
def procRemoveClient (a : TrackingState Client) (client : Client)
    (ok : LocationSessionKey Client → Bool) :
    TrackingState Client × List (TrackingOutput Client) :=
  let stopped := stopClientSessions client ok a a.mTrackingSessions.toList
  (stopped.1.eraseClient client, stopped.2)

/-- `proc` of a message. -/
def proc (a : TrackingState Client) :
    TrackingMsg Client → TrackingState Client × List (TrackingOutput Client)
  | .addClient client callbacks => (a.saveClient client callbacks, [])
  | .removeClient client ok => a.procRemoveClient client ok
  | .startTracking client sessionId options ok => a.procStartTracking client sessionId options ok
  | .updateTracking client sessionId options ok => a.procUpdateTracking client sessionId options ok
  | .stopTracking client sessionId ok => a.procStopTracking client sessionId ok
  | .restartSessions sessionLost =>
      restartSessions { a with mLocApi := if sessionLost then none else a.mLocApi }

/-- The adapter as a machine over its messages. -/
def machine (Client : Type*) [LinearOrder Client] :
    Machine (TrackingState Client) (TrackingMsg Client) (TrackingOutput Client) :=
  ⟨proc⟩

end TrackingState

/-! ## The intervals asked for -/

/-- The intervals of the sessions that `counts` selects. -/
def intervals (sessions : LocationSessionMap Client) (counts : LocationSessionKey Client → Bool) :
    Set ℕ :=
  {n | ∃ key options, counts key ∧ sessions[key]? = some options ∧ options.minInterval = n}

/-- The intervals of all live sessions. -/
def liveIntervals (sessions : LocationSessionMap Client) : Set ℕ := intervals sessions fun _ => true

/-- The intervals of the sessions other than `key`. -/
def otherIntervals (sessions : LocationSessionMap Client) (key : LocationSessionKey Client) :
    Set ℕ :=
  intervals sessions (· ≠ key)

section Intervals

variable {sessions : LocationSessionMap Client} {key : LocationSessionKey Client}
  {options : LocationOptions} {n : ℕ}

lemma mem_liveIntervals : n ∈ liveIntervals sessions ↔
    ∃ (key : LocationSessionKey Client) (options : LocationOptions),
      sessions[key]? = some options ∧ options.minInterval = n := by
  simp [liveIntervals, intervals]

lemma mem_otherIntervals : n ∈ otherIntervals sessions key ↔
    ∃ (key' : LocationSessionKey Client) (options : LocationOptions),
      key' ≠ key ∧ sessions[key']? = some options ∧ options.minInterval = n := by
  simp [otherIntervals, intervals]

/-- Saving a session replaces what its key asked for. -/
lemma liveIntervals_insert : liveIntervals (sessions.insert key options) =
    insert options.minInterval (otherIntervals sessions key) := by
  ext n
  rw [mem_liveIntervals, Set.mem_insert_iff, mem_otherIntervals]
  constructor
  · rintro ⟨key', options', hget, rfl⟩
    rw [LocationSessionMap.getElem?_insert] at hget
    split_ifs at hget with hkey
    · exact .inl (by rw [Option.some.inj hget])
    · exact .inr ⟨key', options', hkey, hget, rfl⟩
  · rintro (rfl | ⟨key', options', hkey, hget, rfl⟩)
    · exact ⟨key, options, Std.TreeMap.getElem?_insert_self, rfl⟩
    · refine ⟨key', options', ?_, rfl⟩
      rw [LocationSessionMap.getElem?_insert, if_neg hkey, hget]

lemma liveIntervals_erase : liveIntervals (sessions.erase key) = otherIntervals sessions key := by
  ext n
  rw [mem_liveIntervals, mem_otherIntervals]
  refine exists_congr fun key' => exists_congr fun options' => ?_
  rw [LocationSessionMap.getElem?_erase]
  split_ifs with hkey
  · simp [hkey]
  · simp [hkey]

lemma liveIntervals_of_getElem? (h : sessions[key]? = some options) :
    liveIntervals sessions = insert options.minInterval (otherIntervals sessions key) := by
  ext n
  rw [mem_liveIntervals, Set.mem_insert_iff, mem_otherIntervals]
  constructor
  · rintro ⟨key', options', hget, rfl⟩
    by_cases hkey : key' = key
    · subst hkey
      rw [h] at hget
      exact .inl (by rw [Option.some.inj hget])
    · exact .inr ⟨key', options', hkey, hget, rfl⟩
  · rintro (rfl | ⟨key', options', -, hget, rfl⟩)
    · exact ⟨key, options, h, rfl⟩
    · exact ⟨key', options', hget, rfl⟩

lemma otherIntervals_of_not_mem (h : key ∉ sessions) :
    otherIntervals sessions key = liveIntervals sessions := by
  ext n
  rw [mem_liveIntervals, mem_otherIntervals]
  refine exists_congr fun key' => exists_congr fun options' => ⟨fun hn => hn.2, fun hn => ⟨?_, hn⟩⟩
  rintro rfl
  rw [Std.TreeMap.mem_iff_isSome_getElem?, hn.1] at h
  exact h rfl

lemma liveIntervals_eq_empty_iff : liveIntervals sessions = ∅ ↔ sessions.isEmpty = true := by
  rw [Set.eq_empty_iff_forall_notMem, Std.TreeMap.isEmpty_iff_forall_not_mem]
  simp only [mem_liveIntervals, Std.TreeMap.mem_iff_isSome_getElem?, Option.isSome_iff_exists]
  grind

/-- A live session is the only one exactly when the map has size one. -/
lemma size_eq_one_iff (h : sessions[key]? = some options) :
    sessions.size = 1 ↔ otherIntervals sessions key = ∅ := by
  have hkeys : sessions.keys.Nodup :=
    Std.TreeMap.ordered_keys.imp fun hlt heq => by simp [heq] at hlt
  have hkey : key ∈ sessions.keys := by
    rw [Std.TreeMap.mem_keys, Std.TreeMap.mem_iff_isSome_getElem?, h]
    rfl
  have hother : otherIntervals sessions key = ∅ ↔ ∀ key' ∈ sessions.keys, key' = key := by
    rw [Set.eq_empty_iff_forall_notMem]
    simp only [mem_otherIntervals, Std.TreeMap.mem_keys, Std.TreeMap.mem_iff_isSome_getElem?,
      Option.isSome_iff_exists]
    constructor
    · rintro hempty key' ⟨options', hget⟩
      by_contra hkey'
      exact hempty _ ⟨key', options', hkey', hget, rfl⟩
    · rintro hall n ⟨key', options', hkey', hget, -⟩
      exact hkey' (hall key' ⟨options', hget⟩)
  rw [hother, ← Std.TreeMap.length_keys, List.length_eq_one_iff]
  constructor
  · rintro ⟨key', hone⟩
    rw [hone, List.mem_singleton] at hkey
    simp [hone, hkey]
  · intro hall
    exact ⟨key, List.perm_singleton.mp ((List.perm_ext_iff_of_nodup hkeys
      (List.nodup_singleton key)).mpr fun key' => ⟨fun h => List.mem_singleton.mpr (hall key' h),
        fun h => List.mem_singleton.mp h ▸ hkey⟩)⟩

end Intervals

namespace TrackingState

omit [LinearOrder Client] in
/-- What the loop finds: nothing when no session counts, else a session that counts and asks for
the smallest interval of those that do. -/
lemma smallestIntervalOptions_cases (counts : LocationSessionKey Client → Bool)
    (l : List (LocationSessionKey Client × LocationOptions)) (hsize : ∀ it ∈ l, it.2.size ≠ 0) :
    (smallestIntervalOptions counts l = {} ∧ ∀ it ∈ l, counts it.1 = false) ∨
      ∃ key, counts key = true ∧ (key, smallestIntervalOptions counts l) ∈ l ∧
        ∀ it ∈ l, counts it.1 = true →
          (smallestIntervalOptions counts l).minInterval ≤ it.2.minInterval := by
  induction l using List.reverseRecOn with
  | nil => exact .inl ⟨rfl, by simp⟩
  | append_singleton l it ih =>
      have hprev := ih fun it' hit' => hsize it' (List.mem_append_left _ hit')
      have hstep : smallestIntervalOptions counts (l ++ [it]) =
          if counts it.1 && ((smallestIntervalOptions counts l).size == 0 ||
            it.2.minInterval < (smallestIntervalOptions counts l).minInterval) then it.2
          else smallestIntervalOptions counts l := by
        rw [smallestIntervalOptions, List.foldl_append]
        rfl
      have hnonzero : ∀ key, (key, smallestIntervalOptions counts l) ∈ l →
          (smallestIntervalOptions counts l).size ≠ 0 := fun key hkey =>
        hsize _ (List.mem_append_left _ hkey)
      rw [hstep]
      rcases hprev with ⟨hnone, hall⟩ | ⟨key, hcounts, hmem, hleast⟩
      · cases hit : counts it.1 with
        | false =>
            refine .inl ⟨by simpa using hnone, fun it' hit' => ?_⟩
            rcases List.mem_append.mp hit' with h | h
            · exact hall it' h
            · rwa [List.mem_singleton.mp h]
        | true =>
            refine .inr ⟨it.1, hit, by simp [hnone], fun it' hit' hcount => ?_⟩
            rcases List.mem_append.mp hit' with h | h
            · rw [hall it' h] at hcount
              cases hcount
            · simp [hnone, List.mem_singleton.mp h]
      · refine .inr ?_
        have hsize := hnonzero key hmem
        split_ifs with hbetter
        · simp only [Bool.and_eq_true, Bool.or_eq_true, beq_iff_eq, decide_eq_true_eq] at hbetter
          refine ⟨it.1, hbetter.1, by simp, fun it' hit' hcount => ?_⟩
          rcases List.mem_append.mp hit' with h | h
          · have hle := hleast it' h hcount
            omega
          · rw [List.mem_singleton.mp h]
        · simp only [Bool.and_eq_true, Bool.or_eq_true, beq_iff_eq, decide_eq_true_eq] at hbetter
          refine ⟨key, hcounts, List.mem_append_left _ hmem, fun it' hit' hcount => ?_⟩
          rcases List.mem_append.mp hit' with h | h
          · exact hleast it' h hcount
          · rw [List.mem_singleton.mp h] at hcount ⊢
            by_contra hlt
            exact hbetter ⟨hcount, .inr (by omega)⟩

/-! ## The engine runs for the live sessions -/

/-- The engine runs exactly when some interval is wanted, and at the smallest one wanted. -/
structure Runs (engine : Option LocPosMode) (wanted : Set ℕ) : Prop where
  running : engine.isSome = true ↔ wanted.Nonempty
  least : ∀ mode, engine = some mode → IsLeast wanted mode.min_interval

lemma runs_none : Runs none ∅ :=
  ⟨by simp, nofun⟩

lemma runs_convertOptions {options : LocationOptions} {wanted : Set ℕ}
    (h : IsLeast wanted options.minInterval) : Runs (some (convertOptions options)) wanted where
  running := iff_of_true rfl ⟨_, h.1⟩
  least mode hmode := by
    obtain rfl := Option.some.inj hmode
    exact h

/-- An engine left alone runs for the new intervals when their smallest is the old smallest. -/
lemma Runs.of_isLeast {engine : Option LocPosMode} {wanted wanted' : Set ℕ}
    (h : Runs engine wanted) (hne : wanted.Nonempty)
    (hleast : ∀ n, IsLeast wanted n → IsLeast wanted' n) : Runs engine wanted' where
  running := by
    obtain ⟨mode, hmode⟩ := Option.isSome_iff_exists.mp (h.running.mpr hne)
    exact iff_of_true (h.running.mpr hne) ⟨_, (hleast _ (h.least mode hmode)).1⟩
  least mode hmode := hleast _ (h.least mode hmode)

/-- What a function that calls the engine comes to: the sessions and clients are untouched, and
the engine runs for `wanted` if the function succeeded and goes on as before if it did not. -/
structure Settles (a : TrackingState Client)
    (r : TrackingState Client × LocationError × List (TrackingOutput Client)) (wanted : Set ℕ) :
    Prop where
  sessions : r.1.mTrackingSessions = a.mTrackingSessions
  accepted : r.2.1 = .success → Runs r.1.mLocApi wanted
  refused : r.2.1 ≠ .success → r.1.mLocApi = a.mLocApi

/-- Every stored session has a size, so that the scans take it for a session. -/
def NoZeroSize (sessions : LocationSessionMap Client) : Prop :=
  ∀ (key : LocationSessionKey Client) (options : LocationOptions),
    sessions[key]? = some options → options.size ≠ 0

/-- The state is right between two messages: no stored session has size zero, and the engine runs
for the live sessions. -/
structure Multiplexed (a : TrackingState Client) : Prop where
  sizes : NoZeroSize a.mTrackingSessions
  runs : Runs a.mLocApi (liveIntervals a.mTrackingSessions)

section Settles

variable {a : TrackingState Client} {options : LocationOptions} {wanted : Set ℕ} (ok : Bool)

lemma settles_startTracking (h : IsLeast wanted options.minInterval) :
    Settles a (a.startTracking options ok) wanted := by
  cases ok with
  | true => exact ⟨rfl, fun _ => runs_convertOptions h, fun hne => absurd rfl hne⟩
  | false => exact ⟨rfl, nofun, fun _ => rfl⟩

lemma settles_stopTracking : Settles a (a.stopTracking ok) ∅ := by
  cases ok with
  | true => exact ⟨rfl, fun _ => runs_none, fun hne => absurd rfl hne⟩
  | false => exact ⟨rfl, nofun, fun _ => rfl⟩

lemma settles_of_runs (h : Runs a.mLocApi wanted) : Settles a (a, .success, []) wanted :=
  ⟨rfl, fun _ => h, fun hne => absurd rfl hne⟩

end Settles

section Multiplex

variable {a : TrackingState Client} {client : Client} {id : ℕ} {current : LocationOptions}

/-- The loop finds the smallest interval among the sessions that count, if there are any. -/
lemma isLeast_smallest (hsizes : NoZeroSize a.mTrackingSessions)
    (counts : LocationSessionKey Client → Bool)
    (hne : (intervals a.mTrackingSessions counts).Nonempty) :
    IsLeast (intervals a.mTrackingSessions counts)
      (smallestIntervalOptions counts a.mTrackingSessions.toList).minInterval := by
  have hget : ∀ key options, (key, options) ∈ a.mTrackingSessions.toList ↔
      a.mTrackingSessions[key]? = some options := fun _ _ =>
    Std.TreeMap.mem_toList_iff_getElem?_eq_some
  have hsize : ∀ it ∈ a.mTrackingSessions.toList, it.2.size ≠ 0 := fun it hit =>
    hsizes it.1 it.2 ((hget _ _).mp hit)
  rcases smallestIntervalOptions_cases counts _ hsize with ⟨-, hnone⟩ | ⟨key, hcounts, hmem, hle⟩
  · obtain ⟨n, key, options, hcounts, hkey, rfl⟩ := hne
    rw [hnone _ ((hget key options).mpr hkey)] at hcounts
    cases hcounts
  · refine ⟨⟨key, _, hcounts, (hget _ _).mp hmem, rfl⟩, ?_⟩
    rintro n ⟨key', options', hcounts', hkey', rfl⟩
    exact hle _ ((hget _ _).mpr hkey') hcounts'

lemma otherIntervals_nonempty
    (hlive : a.mTrackingSessions[(⟨client, id⟩ : LocationSessionKey Client)]? = some current)
    (hone : ¬ a.mTrackingSessions.size = 1) :
    (otherIntervals a.mTrackingSessions ⟨client, id⟩).Nonempty := by
  rwa [Set.nonempty_iff_ne_empty, ne_eq, ← size_eq_one_iff hlive]

/-- With other sessions there, the loop finds the smallest of their intervals. -/
lemma isLeast_other (hsizes : NoZeroSize a.mTrackingSessions)
    (hlive : a.mTrackingSessions[(⟨client, id⟩ : LocationSessionKey Client)]? = some current)
    (hone : ¬ a.mTrackingSessions.size = 1) :
    IsLeast (otherIntervals a.mTrackingSessions ⟨client, id⟩)
      (smallestIntervalOptions (· ≠ ⟨client, id⟩) a.mTrackingSessions.toList).minInterval :=
  isLeast_smallest hsizes (· ≠ ⟨client, id⟩) (otherIntervals_nonempty hlive hone)

/-- **Starting a session.** The engine comes to run for the live sessions and the new one. -/
lemma Multiplexed.settles_start (ha : a.Multiplexed) (options : LocationOptions) (ok : Bool) :
    Settles a (a.startTrackingMultiplex options ok)
      (insert options.minInterval (liveIntervals a.mTrackingSessions)) := by
  simp only [startTrackingMultiplex]
  split_ifs with hempty hlt
  · rw [liveIntervals_eq_empty_iff.mpr hempty, insert_empty_eq]
    exact settles_startTracking ok isLeast_singleton
  · have hne : (liveIntervals a.mTrackingSessions).Nonempty := by
      rwa [Set.nonempty_iff_ne_empty, ne_eq, liveIntervals_eq_empty_iff]
    have hleast := isLeast_smallest ha.sizes (fun _ => true) hne
    refine settles_startTracking ok ⟨Set.mem_insert _ _, ?_⟩
    rintro n (rfl | hn)
    · exact le_rfl
    · exact hlt.le.trans (hleast.2 hn)
  · have hne : (liveIntervals a.mTrackingSessions).Nonempty := by
      rwa [Set.nonempty_iff_ne_empty, ne_eq, liveIntervals_eq_empty_iff]
    have hleast := isLeast_smallest ha.sizes (fun _ => true) hne
    refine settles_of_runs (ha.runs.of_isLeast hne fun n hn => ?_)
    obtain rfl := hn.unique hleast
    refine ⟨Set.mem_insert_of_mem _ hn.1, ?_⟩
    rintro m (rfl | hm)
    · exact not_lt.mp hlt
    · exact hn.2 hm

/-- **Updating a session.** The engine comes to run for the other sessions and the new options. -/
lemma Multiplexed.settles_update (ha : a.Multiplexed)
    (hlive : a.mTrackingSessions[(⟨client, id⟩ : LocationSessionKey Client)]? = some current)
    (options : LocationOptions) (ok : Bool) :
    Settles a (a.updateTrackingMultiplex client id options ok)
      (insert options.minInterval (otherIntervals a.mTrackingSessions ⟨client, id⟩)) := by
  have hruns := ha.runs
  rw [liveIntervals_of_getElem? hlive] at hruns
  simp only [updateTrackingMultiplex, hlive]
  split_ifs with hone hlt hlt'
  · rw [(size_eq_one_iff hlive).mp hone, insert_empty_eq]
    exact settles_startTracking ok isLeast_singleton
  all_goals have hleast := isLeast_other ha.sizes hlive hone
  · refine settles_startTracking ok ⟨Set.mem_insert _ _, ?_⟩
    rintro n (rfl | hn)
    · exact le_rfl
    · exact hlt.le.trans (hleast.2 hn)
  · refine settles_startTracking ok ⟨Set.mem_insert_of_mem _ hleast.1, ?_⟩
    rintro n (rfl | hn)
    · exact not_lt.mp hlt
    · exact hleast.2 hn
  · refine settles_of_runs (hruns.of_isLeast (Set.insert_nonempty _ _) fun n hn => ?_)
    -- the session was not the only smallest one, so the others already decide the engine's interval
    have hn' : n = _ := hn.unique (hleast.insert current.minInterval)
    rw [min_eq_right (not_lt.mp hlt')] at hn'
    subst hn'
    have hnew := hleast.insert options.minInterval
    rwa [min_eq_right (not_lt.mp hlt)] at hnew

/-- **Stopping a session.** The engine comes to run for the other sessions. -/
lemma Multiplexed.settles_stop (ha : a.Multiplexed)
    (hlive : a.mTrackingSessions[(⟨client, id⟩ : LocationSessionKey Client)]? = some current)
    (ok : Bool) :
    Settles a (a.stopTrackingMultiplex client id ok)
      (otherIntervals a.mTrackingSessions ⟨client, id⟩) := by
  have hruns := ha.runs
  rw [liveIntervals_of_getElem? hlive] at hruns
  simp only [stopTrackingMultiplex, hlive]
  split_ifs with hone hlt
  · rw [(size_eq_one_iff hlive).mp hone]
    exact settles_stopTracking ok
  all_goals have hleast := isLeast_other ha.sizes hlive hone
  · exact settles_startTracking ok hleast
  · refine settles_of_runs (hruns.of_isLeast (Set.insert_nonempty _ _) fun n hn => ?_)
    have hn' : n = _ := hn.unique (hleast.insert current.minInterval)
    rw [min_eq_right (not_lt.mp hlt)] at hn'
    rwa [hn']

end Multiplex

/-! ## Runs of the adapter -/

/-- A start uses a session id that no live session of its client has. -/
def Fresh (a : TrackingState Client) : TrackingMsg Client → Prop
  | .startTracking client sessionId _ _ => a.isTrackingSession client sessionId = false
  | _ => True

instance (a : TrackingState Client) : ∀ msg, Decidable (a.Fresh msg)
  | .startTracking client sessionId _ _ =>
      inferInstanceAs (Decidable (a.isTrackingSession client sessionId = false))
  | .addClient _ _ | .removeClient _ _ | .updateTracking _ _ _ _ | .stopTracking _ _ _
  | .restartSessions _ => isTrue trivial

section Steps

variable {a : TrackingState Client} {client : Client} {id : ℕ}

lemma isTrackingSession_iff : a.isTrackingSession client id = true ↔
    ∃ current, a.mTrackingSessions[(⟨client, id⟩ : LocationSessionKey Client)]? = some current := by
  rw [isTrackingSession, Std.TreeMap.contains_eq_isSome_getElem?, Option.isSome_iff_exists]

lemma multiplexed_init : (init : TrackingState Client).Multiplexed where
  sizes key options h := by
    rw [init, Std.TreeMap.getElem?_emptyc] at h
    cases h
  runs := by
    have hempty : liveIntervals (init : TrackingState Client).mTrackingSessions = ∅ :=
      liveIntervals_eq_empty_iff.mpr Std.TreeMap.isEmpty_emptyc
    rw [hempty]
    exact runs_none

/-- The engine has refused, and goes on as before. -/
lemma Multiplexed.refused (ha : a.Multiplexed)
    {r : TrackingState Client × LocationError × List (TrackingOutput Client)} {wanted : Set ℕ}
    (h : Settles a r wanted) (hok : r.2.1 ≠ .success) : r.1.Multiplexed := by
  refine ⟨?_, ?_⟩
  · rw [h.sessions]
    exact ha.sizes
  · rw [h.sessions, h.refused hok]
    exact ha.runs

/-- Saving the session once the engine has accepted its options. -/
lemma Multiplexed.save (ha : a.Multiplexed) {options : LocationOptions} (hsize : options.size ≠ 0)
    {r : TrackingState Client × LocationError × List (TrackingOutput Client)}
    (h : Settles a r
      (insert options.minInterval (otherIntervals a.mTrackingSessions ⟨client, id⟩))) :
    (if r.2.1 = .success then r.1.saveTrackingSession client id options else r.1).Multiplexed := by
  split_ifs with hok
  · refine ⟨fun key options' hget => ?_, ?_⟩
    · rw [saveTrackingSession, h.sessions, LocationSessionMap.getElem?_insert] at hget
      split_ifs at hget
      · rwa [← Option.some.inj hget]
      · exact ha.sizes key options' hget
    · rw [saveTrackingSession, h.sessions, liveIntervals_insert]
      exact h.accepted hok
  · exact ha.refused h hok

/-- Erasing the session once the engine has accepted to go on without it. -/
lemma Multiplexed.erase (ha : a.Multiplexed)
    {r : TrackingState Client × LocationError × List (TrackingOutput Client)}
    (h : Settles a r (otherIntervals a.mTrackingSessions ⟨client, id⟩)) :
    (if r.2.1 = .success then r.1.eraseTrackingSession client id else r.1).Multiplexed := by
  split_ifs with hok
  · refine ⟨fun key options' hget => ?_, ?_⟩
    · rw [eraseTrackingSession, h.sessions, LocationSessionMap.getElem?_erase] at hget
      split_ifs at hget
      exact ha.sizes key options' hget
    · rw [eraseTrackingSession, h.sessions, liveIntervals_erase]
      exact h.accepted hok
  · exact ha.refused h hok

lemma Multiplexed.procStartTracking (ha : a.Multiplexed) (options : LocationOptions) (ok : Bool)
    (hfresh : a.isTrackingSession client id = false) :
    (a.procStartTracking client id options ok).1.Multiplexed := by
  rw [TrackingState.procStartTracking]
  split_ifs with hcb hsize
  · exact ha
  · exact ha
  · have hnot : (⟨client, id⟩ : LocationSessionKey Client) ∉ a.mTrackingSessions := by
      rw [Std.TreeMap.mem_iff_contains]
      exact Bool.not_eq_true _ ▸ hfresh
    refine ha.save hsize ?_
    rw [otherIntervals_of_not_mem hnot]
    exact ha.settles_start options ok

lemma Multiplexed.procUpdateTracking (ha : a.Multiplexed) (options : LocationOptions) (ok : Bool) :
    (a.procUpdateTracking client id options ok).1.Multiplexed := by
  rw [TrackingState.procUpdateTracking]
  split_ifs with hlive hsize
  · exact ha
  · obtain ⟨current, hcurrent⟩ := isTrackingSession_iff.mp hlive
    exact ha.save hsize (ha.settles_update hcurrent options ok)
  · exact ha

lemma Multiplexed.procStopTracking (ha : a.Multiplexed) (ok : Bool) :
    (a.procStopTracking client id ok).1.Multiplexed := by
  rw [TrackingState.procStopTracking]
  split_ifs with hlive
  · obtain ⟨current, hcurrent⟩ := isTrackingSession_iff.mp hlive
    exact ha.erase (ha.settles_stop hcurrent ok)
  · exact ha

lemma distinct_toList (sessions : LocationSessionMap Client) :
    sessions.toList.Pairwise fun it it' => it.1 ≠ it'.1 :=
  Std.TreeMap.distinct_keys_toList.imp fun hne heq => hne (by simp [heq])

/-- The sessions the iterator has yet to reach are still in the map when it reaches them, because
an iteration erases no session but its own. -/
lemma Multiplexed.stopClientSessions (client : Client) (ok : LocationSessionKey Client → Bool)
    (l : List (LocationSessionKey Client × LocationOptions)) (ha : a.Multiplexed)
    (hl : l.Pairwise fun it it' => it.1 ≠ it'.1)
    (hlive : ∀ it ∈ l, a.mTrackingSessions[it.1]? = some it.2) :
    (stopClientSessions client ok a l).1.Multiplexed := by
  induction l generalizing a with
  | nil => exact ha
  | cons it rest ih =>
      obtain ⟨hit, hrest⟩ := List.pairwise_cons.mp hl
      have hliveRest : ∀ it' ∈ rest, a.mTrackingSessions[it'.1]? = some it'.2 := fun it' h =>
        hlive it' (List.mem_cons_of_mem _ h)
      simp only [TrackingState.stopClientSessions]
      split_ifs with hclient hok
      · have hstop := ha.settles_stop (hlive it List.mem_cons_self) (ok it.1)
        have hnext := ha.erase hstop
        rw [if_pos hok] at hnext
        refine ih hnext hrest fun it' h => ?_
        rw [eraseTrackingSession, hstop.sessions, LocationSessionMap.getElem?_erase,
          if_neg (Ne.symm (hit it' h))]
        exact hliveRest it' h
      · have hstop := ha.settles_stop (hlive it List.mem_cons_self) (ok it.1)
        have hnext := ha.erase hstop
        rw [if_neg hok] at hnext
        refine ih hnext hrest fun it' h => ?_
        rw [hstop.sessions]
        exact hliveRest it' h
      · exact ih ha hrest hliveRest

lemma Multiplexed.procRemoveClient (ha : a.Multiplexed) (client : Client)
    (ok : LocationSessionKey Client → Bool) : (a.procRemoveClient client ok).1.Multiplexed := by
  have hstopped := ha.stopClientSessions client ok _ (distinct_toList _) fun it hit =>
    Std.TreeMap.mem_toList_iff_getElem?_eq_some.mp hit
  exact ⟨hstopped.sizes, hstopped.runs⟩

/-- After a restart the engine runs for the live sessions, whatever became of it before. -/
lemma restartSessions_multiplexed
    (hsizes : NoZeroSize a.mTrackingSessions)
    (hidle : a.mTrackingSessions.isEmpty = true → a.mLocApi = none) :
    a.restartSessions.1.Multiplexed := by
  simp only [restartSessions]
  split_ifs with hempty
  · refine ⟨hsizes, ?_⟩
    simp only [hidle hempty, liveIntervals_eq_empty_iff.mpr hempty]
    exact runs_none
  · have hne : (liveIntervals a.mTrackingSessions).Nonempty := by
      rwa [Set.nonempty_iff_ne_empty, ne_eq, liveIntervals_eq_empty_iff]
    exact ⟨hsizes, runs_convertOptions (isLeast_smallest hsizes (fun _ => true) hne)⟩

/-- **One message.** Whatever the engine answers, the state is right again after the message. -/
lemma Multiplexed.proc (ha : a.Multiplexed) {msg : TrackingMsg Client} (hfresh : a.Fresh msg) :
    (a.proc msg).1.Multiplexed := by
  cases msg with
  | addClient client callbacks => exact ⟨ha.sizes, ha.runs⟩
  | removeClient client ok => exact ha.procRemoveClient client ok
  | startTracking client sessionId options ok => exact ha.procStartTracking options ok hfresh
  | updateTracking client sessionId options ok => exact ha.procUpdateTracking options ok
  | stopTracking client sessionId ok => exact ha.procStopTracking ok
  | restartSessions sessionLost =>
      refine restartSessions_multiplexed ha.sizes fun hempty => ?_
      have hstopped : ¬ a.mLocApi.isSome = true := by
        rw [ha.runs.running, liveIntervals_eq_empty_iff.mpr hempty]
        exact Set.not_nonempty_empty
      simp only [Option.not_isSome_iff_eq_none.mp hstopped, ite_self]

end Steps

/-- **The engine follows the sessions.** After any messages whose starts use fresh session ids, and
whatever the engine answered, it runs exactly when there is a session, and at the smallest interval
the live sessions ask for. -/
theorem engine_runs_for_sessions (msgs : List (TrackingMsg Client))
    (hfresh : (machine Client).Steps Fresh init msgs) :
    let a := (machine Client).run init msgs
    (a.mLocApi.isSome = true ↔ a.mTrackingSessions.isEmpty = false) ∧
      ∀ mode, a.mLocApi = some mode →
        IsLeast (liveIntervals a.mTrackingSessions) mode.min_interval := by
  intro a
  have ha : a.Multiplexed :=
    Machine.run_of_steps (fun _ _ h hmsg => h.proc hmsg) multiplexed_init hfresh
  refine ⟨?_, ha.runs.least⟩
  rw [ha.runs.running, Set.nonempty_iff_ne_empty, ne_eq, liveIntervals_eq_empty_iff,
    Bool.not_eq_true]

/-- Two sessions of which the faster one is stopped, after a refusal, and the other one stays. -/
theorem engine_runs_for_two_sessions :
    let a := (machine ℕ).run init
      [.addClient 1 ⟨true, false, true⟩, .startTracking 1 1 { size := 16, minInterval := 1000 } true,
        .startTracking 1 2 { size := 16, minInterval := 500 } true, .stopTracking 1 2 false,
        .stopTracking 1 2 true]
    (a.mLocApi.isSome = true ↔ a.mTrackingSessions.isEmpty = false) ∧
      ∀ mode, a.mLocApi = some mode →
        IsLeast (liveIntervals a.mTrackingSessions) mode.min_interval :=
  engine_runs_for_sessions _ (by decide)

end TrackingState

end GnssAdapter
end LocHal
