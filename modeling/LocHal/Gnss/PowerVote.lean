import LocHal.Lib.Machine
import LocHal.Location.LocationTypes

/-!
# Enabling GNSS (`gps/gnss/GnssAdapter.cpp`, `gps/gnss/XtraSystemStatusObserver.cpp`)

`enableCommand` and `disableCommand` queue a message for the adapter's thread and cast a vote for or
against modem power.  The message is accepted or rejected when it is processed, and it is the
accepted ones that set `mPowerVoteId` and with it the GPS lock: open while GNSS is enabled, and as
configured otherwise.  `gnssUpdateConfigCommand` changes the configured lock.  The callers hold one
mutex, so a command is one event; the adapter's thread takes the messages one by one.

Two laws fail here, and the main results say exactly when.  `always_voteFollows_iff`: the vote is
cast for rejected commands too.  `always_locksAgree_iff`: a lock that is configured while GNSS is
disabled goes to the engine, but not to the XTRA daemon.
-/

namespace LocHal

/-- `LocationTechnologyType`, an integer type of which one value has a name. -/
inductive LocationTechnologyType where
  | gnss
  | other (value : ℤ)
deriving DecidableEq, Repr

/-- `GnssConfigGpsLock`. -/
inductive GnssConfigGpsLock where
  | none
  | mo
  | ni
  | moAndNi
deriving DecidableEq, Repr

/-- The number of an enumerator, which is what a lock is where a `uint32_t` is expected. -/
def GnssConfigGpsLock.toNat : GnssConfigGpsLock → ℕ
  | .none => 0
  | .mo => 1
  | .ni => 2
  | .moAndNi => 3

/-- The fields of `GnssConfig` that concern the GPS lock. -/
structure GnssConfig where
  flags : BitVec 32
  gpsLock : GnssConfigGpsLock
deriving DecidableEq, Repr

/-- `GNSS_CONFIG_FLAGS_GPS_LOCK_VALID_BIT`. -/
def GnssConfig.gpsLockValid (config : GnssConfig) : Bool := config.flags.getLsbD 0

/-- An id that `generateSessionId` may return. -/
abbrev SessionId := {id : ℕ // 0 < id ∧ id < 0xFFFFFFFF}

/-- The part of `XtraSystemStatusObserver` that concerns the GPS lock. -/
structure XtraSystemStatusObserver where
  mGpsLock : ℤ
  mReqStatusReceived : Bool
deriving DecidableEq, Repr

namespace GnssAdapter

/-- `convertGpsLock(GnssConfigGpsLock)`. -/
def convertGpsLock : GnssConfigGpsLock → ℕ
  | .mo => 1
  | .ni => 2
  | .moAndNi => 3
  | .none => 0

/-- `convertGpsLock(uint32_t)`. -/
def convertGpsLockToConfig : ℕ → GnssConfigGpsLock
  | 1 => .mo
  | 2 => .ni
  | 3 => .moAndNi
  | _ => .none

/-- The messages that the three commands queue. -/
inductive PowerMsg where
  | enableGnss (sessionId : SessionId) (techType : LocationTechnologyType)
  | disableGnss (sessionId : ℕ)
  | gnssUpdateConfig (config : GnssConfig)
deriving DecidableEq, Repr

/-- The responses to clients, and what is sent to the XTRA daemon. -/
inductive PowerOutput where
  | reportResponse (err : LocationError) (sessionId : ℕ)
  | sendGpsLock (lock : ℕ)
deriving DecidableEq, Repr

/-- The adapter with its queue, `mGps_conf.GPS_LOCK`, and what the engine and the modem were told
last. -/
structure PowerState where
  mSessionIdCounter : SessionId
  mPowerVoteId : ℕ
  mXtraObserver : XtraSystemStatusObserver
  gpsLockConf : ℕ
  queue : List PowerMsg
  engineLock : GnssConfigGpsLock
  powerVote : Bool
deriving DecidableEq, Repr

namespace PowerState

/-- A new adapter, with the lock from the configuration file and the one that the engine has. -/
def init (gpsLockConf : ℕ) (engineLock : GnssConfigGpsLock) : PowerState where
  mSessionIdCounter := ⟨1, by decide⟩
  mPowerVoteId := 0
  mXtraObserver := ⟨-1, false⟩
  gpsLockConf := gpsLockConf
  queue := []
  engineLock := engineLock
  powerVote := false

/-! ## The commands -/

/-- `generateSessionId`. -/
def generateSessionId (counter : SessionId) : SessionId :=
  if h : counter.val + 1 = 0xFFFFFFFF then ⟨1, by decide⟩
  else ⟨counter.val + 1, by have := counter.property; omega⟩

/-- `sendMsg`. -/
def sendMsg (a : PowerState) (msg : PowerMsg) : PowerState := { a with queue := a.queue ++ [msg] }

/-- `modemPowerVote`. -/
def modemPowerVote (a : PowerState) (power : Bool) : PowerState := { a with powerVote := power }

/-- `enableCommand`; `hasContext` is `mContext != NULL`. -/
def enableCommand (a : PowerState) (hasContext : Bool) (techType : LocationTechnologyType) :
    PowerState :=
  let sessionId := generateSessionId a.mSessionIdCounter
  let a := { a with mSessionIdCounter := sessionId }
  if hasContext then (a.sendMsg (.enableGnss sessionId techType)).modemPowerVote true else a

/-- `disableCommand`. -/
def disableCommand (a : PowerState) (hasContext : Bool) (id : ℕ) : PowerState :=
  if hasContext then (a.sendMsg (.disableGnss id)).modemPowerVote false else a

/-- `gnssUpdateConfigCommand`: an id for each flag, and no message when there is none. -/
def gnssUpdateConfigCommand (a : PowerState) (config : GnssConfig) : PowerState :=
  let count := (List.range 32).countP fun i => config.flags.getLsbD i
  let a := { a with mSessionIdCounter := generateSessionId^[count] a.mSessionIdCounter }
  if 0 < count then a.sendMsg (.gnssUpdateConfig config) else a

/-! ## The messages -/

/-- `setGpsLock`, which succeeds. -/
def setGpsLock (a : PowerState) (lock : GnssConfigGpsLock) : PowerState :=
  { a with engineLock := lock }

/-- `updateLockStatus`. -/
def updateLockStatus (a : PowerState) (lock : ℕ) : PowerState × List PowerOutput :=
  ({ a with mXtraObserver := { a.mXtraObserver with mGpsLock := lock } },
    if a.mXtraObserver.mReqStatusReceived then [.sendGpsLock lock] else [])

/-- `MsgEnableGnss::proc`. -/
def procEnableGnss (a : PowerState) (mSessionId : SessionId) (mTechType : LocationTechnologyType) :
    PowerState × List PowerOutput :=
  let powerVoteId := a.mPowerVoteId
  if mTechType ≠ .gnss then (a, [.reportResponse .invalidParameter mSessionId])
  else if 0 < powerVoteId then (a, [.reportResponse .alreadyStarted mSessionId])
  else
    let a := ({ a with mPowerVoteId := mSessionId } : PowerState).setGpsLock .none
    let updated := a.updateLockStatus (convertGpsLock .none)
    (updated.1, updated.2 ++ [.reportResponse .success mSessionId])

/-- `MsgDisableGnss::proc`.  The observer is given the converted lock too, as a number. -/
def procDisableGnss (a : PowerState) (mSessionId : ℕ) : PowerState × List PowerOutput :=
  let powerVoteId := a.mPowerVoteId
  if powerVoteId ≠ mSessionId then (a, [.reportResponse .idUnknown mSessionId])
  else
    let a := ({ a with mPowerVoteId := 0 } : PowerState).setGpsLock
      (convertGpsLockToConfig a.gpsLockConf)
    let updated := a.updateLockStatus (convertGpsLockToConfig a.gpsLockConf).toNat
    (updated.1, updated.2 ++ [.reportResponse .success mSessionId])

/-- `MsgGnssUpdateConfig::proc`, as far as it concerns the GPS lock. -/
def procGnssUpdateConfig (a : PowerState) (mConfig : GnssConfig) : PowerState :=
  if mConfig.gpsLockValid then
    let a := { a with gpsLockConf := convertGpsLock mConfig.gpsLock }
    if 0 = a.mPowerVoteId then a.setGpsLock mConfig.gpsLock else a
  else a

/-- `proc` of a message. -/
def proc (a : PowerState) : PowerMsg → PowerState × List PowerOutput
  | .enableGnss mSessionId mTechType => procEnableGnss a mSessionId mTechType
  | .disableGnss mSessionId => procDisableGnss a mSessionId
  | .gnssUpdateConfig mConfig => (procGnssUpdateConfig a mConfig, [])

/-- A command of some caller, another use of the session id counter, a status request of the XTRA
daemon, or the adapter's thread taking the next message. -/
inductive Event where
  | enableCommand (hasContext : Bool) (techType : LocationTechnologyType)
  | disableCommand (hasContext : Bool) (id : ℕ)
  | gnssUpdateConfigCommand (config : GnssConfig)
  | generateSessionId
  | onStatusRequested
  | process
deriving DecidableEq, Repr

/-- One event. -/
def step (a : PowerState) : Event → PowerState × List PowerOutput
  | .enableCommand hasContext techType => (a.enableCommand hasContext techType, [])
  | .disableCommand hasContext id => (a.disableCommand hasContext id, [])
  | .gnssUpdateConfigCommand config => (a.gnssUpdateConfigCommand config, [])
  | .generateSessionId =>
      ({ a with mSessionIdCounter := generateSessionId a.mSessionIdCounter }, [])
  | .onStatusRequested =>
      ({ a with mXtraObserver := { a.mXtraObserver with mReqStatusReceived := true } }, [])
  | .process =>
      match a.queue with
      | [] => (a, [])
      | msg :: queue => proc { a with queue := queue } msg

/-- The adapter as a machine. -/
def machine : Machine PowerState Event PowerOutput := ⟨step⟩

lemma next_process_nil {a : PowerState} (hqueue : a.queue = []) :
    machine.next a .process = a := by
  simp only [Machine.next, machine, step, hqueue]

lemma next_process_cons {a : PowerState} {msg : PowerMsg} {queue : List PowerMsg}
    (hqueue : a.queue = msg :: queue) :
    machine.next a .process = (proc { a with queue := queue } msg).1 := by
  simp only [Machine.next, machine, step, hqueue]

/-! ## The power vote -/

/-- The votes cast for the messages of a queue. -/
def votes (queue : List PowerMsg) : List Bool :=
  queue.filterMap fun msg =>
    match msg with
    | .enableGnss _ _ => some true
    | .disableGnss _ => some false
    | .gnssUpdateConfig _ => none

/-- While no enable or disable message is pending, the last vote is for power if and only if GNSS is
enabled. -/
def VoteFollows (a : PowerState) : Prop :=
  votes a.queue = [] → a.powerVote = decide (a.mPowerVoteId ≠ 0)

instance : DecidablePred VoteFollows :=
  fun a => inferInstanceAs (Decidable (votes a.queue = [] → _))

/-- A message is effective if GNSS is, after it, what its vote says. -/
def Effective (mPowerVoteId : ℕ) : PowerMsg → Prop
  | .enableGnss _ techType => techType = .gnss ∨ mPowerVoteId ≠ 0
  | .disableGnss id => id = mPowerVoteId ∨ mPowerVoteId = 0
  | .gnssUpdateConfig _ => True

/-- The message that is processed is effective if no other enable or disable message is pending. -/
def LastEffective (a : PowerState) (e : Event) : Prop :=
  e = .process → ∀ msg ∈ a.queue.head?, votes a.queue.tail = [] → Effective a.mPowerVoteId msg

/-- The last vote is that of the last pending message. -/
def LastVote (a : PowerState) : Prop := ∀ vote ∈ (votes a.queue).getLast?, a.powerVote = vote

section Vote

variable {a : PowerState}

@[simp] lemma votes_append (queue queue' : List PowerMsg) :
    votes (queue ++ queue') = votes queue ++ votes queue' := List.filterMap_append

/-- A message is queued together with its vote. -/
lemma lastVote_sendMsg (msg : PowerMsg) (vote : Bool) (h : votes [msg] = [vote]) :
    LastVote ((a.sendMsg msg).modemPowerVote vote) := by
  intro vote' hvote
  have hlast : (votes (a.queue ++ [msg])).getLast? = some vote := by
    rw [votes_append, h, List.getLast?_concat]
  have hvote' : (votes (a.queue ++ [msg])).getLast? = some vote' := hvote
  exact Option.some.inj (hlast.symm.trans hvote')

lemma voteFollows_sendMsg (msg : PowerMsg) (vote : Bool) (h : votes [msg] = [vote]) :
    VoteFollows ((a.sendMsg msg).modemPowerVote vote) := by
  intro hnil
  have hnil : votes (a.queue ++ [msg]) = [] := hnil
  rw [votes_append, h] at hnil
  simp at hnil

/-- Messages of other kinds carry no vote. -/
lemma votes_queue_gnssUpdateConfigCommand (config : GnssConfig) :
    votes (a.gnssUpdateConfigCommand config).queue = votes a.queue := by
  unfold gnssUpdateConfigCommand
  simp only []
  split
  · exact (votes_append _ _).trans (List.append_nil _)
  · rfl

/-- Processing neither queues nor votes. -/
lemma proc_frame (msg : PowerMsg) :
    (a.proc msg).1.queue = a.queue ∧ (a.proc msg).1.powerVote = a.powerVote := by
  cases msg with
  | enableGnss sessionId techType =>
      simp only [proc, procEnableGnss]
      split
      · exact ⟨rfl, rfl⟩
      · split
        · exact ⟨rfl, rfl⟩
        · exact ⟨rfl, rfl⟩
  | disableGnss id =>
      simp only [proc, procDisableGnss]
      split
      · exact ⟨rfl, rfl⟩
      · exact ⟨rfl, rfl⟩
  | gnssUpdateConfig config =>
      simp only [proc, procGnssUpdateConfig]
      split
      · split
        · exact ⟨rfl, rfl⟩
        · exact ⟨rfl, rfl⟩
      · exact ⟨rfl, rfl⟩

/-- What a message leaves of the power vote id. -/
lemma mPowerVoteId_proc_enableGnss (sessionId : SessionId) (techType : LocationTechnologyType) :
    (a.proc (.enableGnss sessionId techType)).1.mPowerVoteId =
      if techType = .gnss ∧ a.mPowerVoteId = 0 then sessionId.val else a.mPowerVoteId := by
  simp only [proc, procEnableGnss]
  by_cases htech : techType = .gnss
  · by_cases hid : a.mPowerVoteId = 0
    · simp [htech, hid, updateLockStatus, setGpsLock]
    · simp [htech, hid, Nat.pos_of_ne_zero hid]
  · simp [htech]

lemma mPowerVoteId_proc_disableGnss (id : ℕ) :
    (a.proc (.disableGnss id)).1.mPowerVoteId =
      if id = a.mPowerVoteId then 0 else a.mPowerVoteId := by
  simp only [proc, procDisableGnss]
  by_cases hid : a.mPowerVoteId = id
  · simp [hid, updateLockStatus, setGpsLock]
  · simp [hid, Ne.symm hid]

lemma mPowerVoteId_proc_gnssUpdateConfig (config : GnssConfig) :
    (a.proc (.gnssUpdateConfig config)).1.mPowerVoteId = a.mPowerVoteId := by
  simp only [proc, procGnssUpdateConfig]
  split
  · split
    · rfl
    · rfl
  · rfl

/-- A message makes the enable state what its vote says exactly when it is effective. -/
lemma effective_iff {vote : Bool} {msg : PowerMsg} (h : votes [msg] = [vote]) :
    vote = decide ((a.proc msg).1.mPowerVoteId ≠ 0) ↔ Effective a.mPowerVoteId msg := by
  cases msg with
  | enableGnss sessionId techType =>
      obtain rfl : true = vote := by simpa [votes] using h
      have hpos : sessionId.val ≠ 0 := Nat.pos_iff_ne_zero.mp sessionId.property.1
      rw [mPowerVoteId_proc_enableGnss, Effective]
      by_cases htech : techType = .gnss
      · by_cases hid : a.mPowerVoteId = 0
        · simp [htech, hid, hpos]
        · simp [hid]
      · simp [htech]
  | disableGnss id =>
      obtain rfl : false = vote := by simpa [votes] using h
      rw [mPowerVoteId_proc_disableGnss, Effective]
      by_cases hid : id = a.mPowerVoteId
      · simp [hid]
      · simp [hid]
  | gnssUpdateConfig config => simp [votes] at h

/-- **The last vote is that of the last pending message** in every state. -/
lemma lastVote_next (h : LastVote a) (e : Event) : LastVote (machine.next a e) := by
  cases e with
  | enableCommand hasContext techType =>
      simp only [Machine.next, machine, step, enableCommand]
      split
      · exact lastVote_sendMsg _ _ rfl
      · exact h
  | disableCommand hasContext id =>
      simp only [Machine.next, machine, step, disableCommand]
      split
      · exact lastVote_sendMsg _ _ rfl
      · exact h
  | gnssUpdateConfigCommand config =>
      have hvotes := votes_queue_gnssUpdateConfigCommand (a := a) config
      have hvote : (a.gnssUpdateConfigCommand config).powerVote = a.powerVote := by
        simp only [gnssUpdateConfigCommand]
        split
        · rfl
        · rfl
      intro vote hlast
      have hlast : vote ∈ (votes (a.gnssUpdateConfigCommand config).queue).getLast? := hlast
      rw [hvotes] at hlast
      exact hvote.trans (h vote hlast)
  | generateSessionId | onStatusRequested => exact h
  | process =>
      simp only [Machine.next, machine, step]
      cases hqueue : a.queue with
      | nil => exact h
      | cons msg queue =>
          obtain ⟨hrest, hvote⟩ := proc_frame (a := { a with queue := queue }) msg
          intro vote hlast
          have hlast : vote ∈ (votes queue).getLast? := by rwa [hrest] at hlast
          refine hvote.trans (h vote ?_)
          have hsplit : votes a.queue = votes [msg] ++ votes queue := by
            rw [hqueue, ← List.singleton_append, votes_append]
          rw [hsplit]
          exact List.mem_getLast?_append_of_mem_getLast? hlast

/-- A configuration leaves the vote and the id alone. -/
lemma voteFollows_gnssUpdateConfigCommand (h : VoteFollows a) (config : GnssConfig) :
    VoteFollows (a.gnssUpdateConfigCommand config) := by
  have hvotes := votes_queue_gnssUpdateConfigCommand (a := a) config
  have hsame : (a.gnssUpdateConfigCommand config).powerVote = a.powerVote ∧
      (a.gnssUpdateConfigCommand config).mPowerVoteId = a.mPowerVoteId := by
    simp only [gnssUpdateConfigCommand]
    split
    · exact ⟨rfl, rfl⟩
    · exact ⟨rfl, rfl⟩
  intro hnil
  rw [hsame.1, hsame.2]
  exact h (hvotes.symm.trans hnil)

/-- **One event.** -/
lemma next_voteFollows_iff (hlast : LastVote a) (h : VoteFollows a) (e : Event) :
    VoteFollows (machine.next a e) ↔ LastEffective a e := by
  cases e with
  | enableCommand hasContext techType =>
      refine iff_of_true ?_ (by simp [LastEffective])
      simp only [Machine.next, machine, step, enableCommand]
      split
      · exact voteFollows_sendMsg _ _ rfl
      · exact h
  | disableCommand hasContext id =>
      refine iff_of_true ?_ (by simp [LastEffective])
      simp only [Machine.next, machine, step, disableCommand]
      split
      · exact voteFollows_sendMsg _ _ rfl
      · exact h
  | gnssUpdateConfigCommand config =>
      refine iff_of_true ?_ (by simp [LastEffective])
      exact voteFollows_gnssUpdateConfigCommand h config
  | generateSessionId | onStatusRequested =>
      exact iff_of_true h (by simp [LastEffective])
  | process =>
      simp only [LastEffective, true_implies]
      cases hqueue : a.queue with
      | nil =>
          rw [next_process_nil hqueue]
          exact iff_of_true h (by simp)
      | cons msg queue =>
          have hnext := next_process_cons hqueue
          have hsplit : votes a.queue = votes [msg] ++ votes queue := by
            rw [hqueue, ← List.singleton_append, votes_append]
          obtain ⟨hrest, hvote⟩ := proc_frame (a := { a with queue := queue }) msg
          have hfollows : VoteFollows (machine.next a .process) ↔
              (votes queue = [] → a.powerVote =
                decide ((proc { a with queue := queue } msg).1.mPowerVoteId ≠ 0)) := by
            unfold VoteFollows
            rw [hnext, hrest, hvote]
          rw [hfollows]
          simp only [List.head?_cons, List.tail_cons, Option.mem_some_iff, forall_eq']
          refine imp_congr_right fun hnil => ?_
          rw [hnil, List.append_nil] at hsplit
          cases hmsg : votes [msg] with
          | nil =>
              -- a configuration: the vote and the id are as they were
              have hbefore := h (hsplit.trans hmsg)
              cases msg with
              | enableGnss | disableGnss => simp [votes] at hmsg
              | gnssUpdateConfig config =>
                  refine iff_of_true ?_ trivial
                  rw [hbefore, mPowerVoteId_proc_gnssUpdateConfig]
          | cons vote rest =>
              obtain rfl : rest = [] := by
                cases msg with
                | enableGnss | disableGnss => simpa [votes, eq_comm] using (List.cons.inj hmsg).2
                | gnssUpdateConfig config => simp [votes] at hmsg
              have hknown : a.powerVote = vote := hlast vote (by rw [hsplit, hmsg]; rfl)
              rw [hknown]
              exact effective_iff hmsg

end Vote

/-- **The power vote follows the enable state** throughout a run exactly when every enable or
disable message that is processed with no other pending is effective. -/
theorem always_voteFollows_iff (gpsLockConf : ℕ) (engineLock : GnssConfigGpsLock)
    (events : List Event) :
    machine.Always VoteFollows (init gpsLockConf engineLock) events ↔
      machine.Steps LastEffective (init gpsLockConf engineLock) events :=
  Machine.always_iff_steps_of_invariant (fun _ e h => lastVote_next h e)
    (fun _ e hlast h => next_voteFollows_iff hlast h e) (fun vote hvote => by cases hvote)
    (fun _ => rfl)

/-- A command to disable with an id that is not known takes the vote back from an enabled GNSS. -/
theorem vote_lost_by_unknown_id :
    ¬ machine.Always VoteFollows (init 0 .none)
      [.enableCommand true .gnss, .process, .disableCommand true 7, .process] := by
  decide

/-! ## The GPS lock -/

/-- Engine and XTRA daemon have the open lock while GNSS is enabled, and the configured one while it
is not. -/
def LocksAgree (a : PowerState) : Prop :=
  if a.mPowerVoteId ≠ 0 then a.engineLock = .none ∧ a.mXtraObserver.mGpsLock = 0
  else a.engineLock.toNat = a.gpsLockConf ∧ a.mXtraObserver.mGpsLock = a.gpsLockConf

instance : DecidablePred LocksAgree := fun a => by
  unfold LocksAgree
  infer_instance

/-- A lock that a disable message brings back is one of the four that there are, and a lock that is
configured while GNSS is disabled is the one that was. -/
def KeepsLocks (a : PowerState) : PowerMsg → Prop
  | .enableGnss _ _ => True
  | .disableGnss id => id = a.mPowerVoteId → a.gpsLockConf ≤ 3
  | .gnssUpdateConfig config =>
      config.gpsLockValid = true → a.mPowerVoteId = 0 →
        convertGpsLock config.gpsLock = a.gpsLockConf

instance (a : PowerState) : DecidablePred (KeepsLocks a)
  | .enableGnss _ _ => isTrue trivial
  | .disableGnss id => inferInstanceAs (Decidable (id = a.mPowerVoteId → a.gpsLockConf ≤ 3))
  | .gnssUpdateConfig config =>
      inferInstanceAs (Decidable (config.gpsLockValid = true → a.mPowerVoteId = 0 →
        convertGpsLock config.gpsLock = a.gpsLockConf))

/-- The message that is processed keeps the locks. -/
def ProcessKeepsLocks (a : PowerState) (e : Event) : Prop :=
  e = .process → ∀ msg ∈ a.queue.head?, KeepsLocks a msg

instance (a : PowerState) (e : Event) : Decidable (ProcessKeepsLocks a e) :=
  inferInstanceAs (Decidable (e = .process → ∀ msg ∈ a.queue.head?, KeepsLocks a msg))

section Locks

variable {a a' : PowerState}

lemma locksAgree_enabled (h : a.mPowerVoteId ≠ 0) :
    LocksAgree a ↔ a.engineLock = .none ∧ a.mXtraObserver.mGpsLock = 0 := by
  rw [LocksAgree, if_pos h]

lemma locksAgree_disabled (h : a.mPowerVoteId = 0) :
    LocksAgree a ↔
      a.engineLock.toNat = a.gpsLockConf ∧ a.mXtraObserver.mGpsLock = a.gpsLockConf := by
  rw [LocksAgree, if_neg (not_not.mpr h)]

lemma toNat_convertGpsLockToConfig (lock : ℕ) :
    (convertGpsLockToConfig lock).toNat = lock ↔ lock ≤ 3 := by
  unfold convertGpsLockToConfig
  split
  · simp [GnssConfigGpsLock.toNat]
  · simp [GnssConfigGpsLock.toNat]
  · simp [GnssConfigGpsLock.toNat]
  · rename_i h1 h2 h3
    simp only [GnssConfigGpsLock.toNat]
    by_cases h0 : lock = 0
    · simp [h0]
    · have : lock ≠ 1 ∧ lock ≠ 2 ∧ lock ≠ 3 := ⟨h1, h2, h3⟩
      omega

lemma toNat_eq_convertGpsLock (lock : GnssConfigGpsLock) : lock.toNat = convertGpsLock lock := by
  cases lock with
  | none | mo | ni | moAndNi => rfl

lemma locksAgree_proc_enableGnss (h : LocksAgree a) (sessionId : SessionId)
    (techType : LocationTechnologyType) :
    LocksAgree (a.proc (.enableGnss sessionId techType)).1 := by
  simp only [proc, procEnableGnss]
  split
  · exact h
  · split
    · exact h
    · have hpos : sessionId.val ≠ 0 := Nat.pos_iff_ne_zero.mp sessionId.property.1
      exact (locksAgree_enabled hpos).mpr ⟨rfl, rfl⟩

lemma locksAgree_proc_disableGnss (h : LocksAgree a) (id : ℕ) :
    LocksAgree (a.proc (.disableGnss id)).1 ↔ KeepsLocks a (.disableGnss id) := by
  simp only [proc, procDisableGnss, KeepsLocks]
  split
  · rename_i hid
    exact iff_of_true h fun heq => absurd heq.symm hid
  · rename_i hid
    rw [not_ne_iff] at hid
    have hlocks : LocksAgree ((({ a with mPowerVoteId := 0 } : PowerState).setGpsLock
        (convertGpsLockToConfig a.gpsLockConf)).updateLockStatus
          (convertGpsLockToConfig a.gpsLockConf).toNat).1 ↔
        (convertGpsLockToConfig a.gpsLockConf).toNat = a.gpsLockConf ∧
          ((convertGpsLockToConfig a.gpsLockConf).toNat : ℤ) = a.gpsLockConf :=
      locksAgree_disabled rfl
    refine hlocks.trans ?_
    rw [Int.natCast_inj, and_self, toNat_convertGpsLockToConfig]
    exact ⟨fun hle _ => hle, fun hle => hle hid.symm⟩

lemma locksAgree_proc_gnssUpdateConfig (h : LocksAgree a) (config : GnssConfig) :
    LocksAgree (a.proc (.gnssUpdateConfig config)).1 ↔ KeepsLocks a (.gnssUpdateConfig config) := by
  simp only [proc, procGnssUpdateConfig, KeepsLocks]
  by_cases hvalid : config.gpsLockValid = true
  · simp only [hvalid, if_true, true_implies]
    by_cases hid : a.mPowerVoteId = 0
    · -- the engine gets the new lock, the observer keeps the old one
      have hxtra := ((locksAgree_disabled hid).mp h).2
      have hlocks : LocksAgree (({ a with gpsLockConf := convertGpsLock config.gpsLock } :
          PowerState).setGpsLock config.gpsLock) ↔
          config.gpsLock.toNat = convertGpsLock config.gpsLock ∧
            a.mXtraObserver.mGpsLock = convertGpsLock config.gpsLock :=
        locksAgree_disabled hid
      rw [if_pos hid.symm, hlocks, hxtra, Int.natCast_inj]
      constructor
      · rintro ⟨-, hconf⟩ -
        exact hconf.symm
      · intro hconf
        exact ⟨toNat_eq_convertGpsLock _, (hconf hid).symm⟩
    · rw [if_neg (Ne.symm hid)]
      refine iff_of_true ?_ fun hzero => absurd hzero hid
      have hopen := (locksAgree_enabled hid).mp h
      refine (locksAgree_enabled ?_).mpr hopen
      exact hid
  · rw [if_neg hvalid]
    exact iff_of_true h fun hv => absurd hv hvalid

/-- **One event.** -/
lemma next_locksAgree_iff (h : LocksAgree a) (e : Event) :
    LocksAgree (machine.next a e) ↔ ProcessKeepsLocks a e := by
  cases e with
  | enableCommand hasContext techType =>
      refine iff_of_true ?_ (by simp [ProcessKeepsLocks])
      simp only [Machine.next, machine, step, enableCommand]
      split
      · exact h
      · exact h
  | disableCommand hasContext id =>
      refine iff_of_true ?_ (by simp [ProcessKeepsLocks])
      simp only [Machine.next, machine, step, disableCommand]
      split
      · exact h
      · exact h
  | gnssUpdateConfigCommand config =>
      refine iff_of_true ?_ (by simp [ProcessKeepsLocks])
      simp only [Machine.next, machine, step, gnssUpdateConfigCommand]
      split
      · exact h
      · exact h
  | generateSessionId | onStatusRequested => exact iff_of_true h (by simp [ProcessKeepsLocks])
  | process =>
      simp only [ProcessKeepsLocks, true_implies]
      cases hqueue : a.queue with
      | nil =>
          rw [next_process_nil hqueue]
          exact iff_of_true h (by simp)
      | cons msg queue =>
          have hnext := next_process_cons hqueue
          have hrest : LocksAgree { a with queue := queue } := h
          rw [hnext]
          simp only [List.head?_cons, Option.mem_some_iff, forall_eq']
          cases msg with
          | enableGnss sessionId techType =>
              exact iff_of_true (locksAgree_proc_enableGnss hrest sessionId techType) trivial
          | disableGnss id => exact locksAgree_proc_disableGnss hrest id
          | gnssUpdateConfig config => exact locksAgree_proc_gnssUpdateConfig hrest config

end Locks

/-- **The GPS lock is consistent** throughout a run from a state where it is, exactly when no lock
other than the configured one is configured while GNSS is disabled, and none is brought back that is
no lock. -/
theorem always_locksAgree_iff {a : PowerState} (h : LocksAgree a) (events : List Event) :
    machine.Always LocksAgree a events ↔ machine.Steps ProcessKeepsLocks a events :=
  Machine.always_iff_steps (fun _ e h => next_locksAgree_iff h e) h

/-- An adapter with GNSS enabled. -/
def enabled : PowerState := machine.run (init 0 .none) [.enableCommand true .gnss, .process]

/-- Locks that are configured before GNSS is disabled reach the engine and the observer. -/
theorem locks_agree_after_disable :
    machine.Always LocksAgree enabled
      [.gnssUpdateConfigCommand ⟨1, .moAndNi⟩, .process, .disableCommand true 2, .process] :=
  (always_locksAgree_iff (a := enabled) (by decide) _).mpr (by decide)

/-- A lock that is configured while GNSS is disabled does not reach the observer. -/
theorem lock_hidden_from_xtra :
    LocksAgree (machine.run enabled [.disableCommand true 2, .process]) ∧
      ¬ machine.Always LocksAgree (machine.run enabled [.disableCommand true 2, .process])
        [.gnssUpdateConfigCommand ⟨1, .moAndNi⟩, .process] := by
  decide

end PowerState
end GnssAdapter
end LocHal
