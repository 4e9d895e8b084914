import LocHal.Lib.Machine
import LocHal.Location.LocationTypes

/-!
# Configuration updates of a client (`gps/location/LocationAPIClientBase.cpp`)

`locAPIGnssUpdateConfig` does not hand the HAL a configuration whose bytes are those of the last
one that it has handed over.  The bytes are compared with a copy that is made before the HAL has
said whether it takes the configuration, and what they hold of the host name is a pointer.

`inForce_iff`: every call that returns success leaves its configuration in force exactly when no
call is skipped but one that repeats a configuration which has been taken, with the same text at the
pointer, or the one which had been taken before.
-/

namespace LocHal
namespace GnssConfigClient

/-! ## Configurations -/

/-- `GnssConfigSetAssistanceServer`, with what it has for a host name. -/
structure GnssConfigSetAssistanceServer (Host : Type) where
  size : ℕ := 0
  type : ℕ := 0
  hostName : Host
  port : ℕ := 0
deriving DecidableEq, Repr

/-- `GnssConfig`, with what it has for a host name.  The values of its enumerations are numbers. -/
structure GnssConfig (Host : Type) where
  size : ℕ := 0
  flags : ℕ := 0
  gpsLock : ℕ := 0
  suplVersion : ℕ := 0
  assistanceServer : GnssConfigSetAssistanceServer Host
  lppProfile : ℕ := 0
  lppeControlPlaneMask : ℕ := 0
  lppeUserPlaneMask : ℕ := 0
  aGlonassPositionProtocolMask : ℕ := 0
  emergencyPdnForEmergencySupl : ℕ := 0
  suplEmergencyServices : ℕ := 0
  suplModeMask : ℕ := 0
deriving DecidableEq, Repr

/-- The same configuration with something else for the host name. -/
def GnssConfig.withHost {Host Host' : Type} (config : GnssConfig Host) (host : Host') :
    GnssConfig Host' :=
  { size := config.size
    flags := config.flags
    gpsLock := config.gpsLock
    suplVersion := config.suplVersion
    assistanceServer :=
      { size := config.assistanceServer.size
        type := config.assistanceServer.type
        hostName := host
        port := config.assistanceServer.port }
    lppProfile := config.lppProfile
    lppeControlPlaneMask := config.lppeControlPlaneMask
    lppeUserPlaneMask := config.lppeUserPlaneMask
    aGlonassPositionProtocolMask := config.aGlonassPositionProtocolMask
    emergencyPdnForEmergencySupl := config.emergencyPdnForEmergencySupl
    suplEmergencyServices := config.suplEmergencyServices
    suplModeMask := config.suplModeMask }

/-- The bytes of a `GnssConfig`: its fields, with the address of the host name, and the bytes
between them as one number. -/
structure ConfigBytes where
  fields : GnssConfig ℕ
  padding : ℕ
deriving DecidableEq, Repr

/-- `memset` to zero. -/
def ConfigBytes.zero : ConfigBytes := ⟨{ assistanceServer := { hostName := 0 } }, 0⟩

/-- The address of the host name. -/
def ConfigBytes.hostName (bytes : ConfigBytes) : ℕ := bytes.fields.assistanceServer.hostName

/-- The configuration that the bytes stand for, where this text is at the address of the host
name. -/
def ConfigBytes.contents (bytes : ConfigBytes) (text : List Char) :
    GnssConfig (Option (List Char)) :=
  bytes.fields.withHost (if bytes.hostName = 0 then none else some text)

/-! ## The client -/

/-- A configuration that the HAL has been handed: its bytes, the text of its host name at that
moment, and whether the HAL has taken it. -/
structure Handed where
  bytes : ConfigBytes
  text : List Char
  taken : Bool
deriving DecidableEq, Repr

/-- The part of `LocationAPIControlClient` that concerns configurations: the saved copy, whether
there is a `mLocationControlAPI`, the session of `mRequestQueues[CTRL_REQUEST_CONFIG]` and the
number of requests that wait in it, and what the HAL has been handed, oldest first, which no code
reads. -/
structure ConfigClient where
  mConfig : ConfigBytes
  mLocationControlAPI : Bool
  mSession : ℕ
  mQueue : ℕ
  handed : List Handed
deriving DecidableEq, Repr

/-- `CONFIG_SESSION_ID`. -/
def configSessionId : ℕ := 0xFFFFFFFF

/-- The constructor, after which there is a `mLocationControlAPI` or not. -/
def init (mLocationControlAPI : Bool) : ConfigClient := ⟨.zero, mLocationControlAPI, 0, 0, []⟩

/-- A call of `locAPIGnssUpdateConfig`: the bytes of its argument, the text of the host name, and
whether the HAL takes the configuration if it is asked to. -/
structure Update where
  config : ConfigBytes
  text : List Char
  taken : Bool
deriving DecidableEq, Repr

/-- What the caller means. -/
def Update.contents (e : Update) : GnssConfig (Option (List Char)) := e.config.contents e.text

/-- `locAPIGnssUpdateConfig`. -/
def locAPIGnssUpdateConfig (s : ConfigClient) (e : Update) : ConfigClient × LocationError :=
  if s.mConfig = e.config then (s, .success)
  else if s.mLocationControlAPI then
    let s := { s with
      mConfig := e.config
      handed := s.handed ++ [⟨e.config, e.text, e.taken⟩] }
    if e.taken then
      let s := if s.mSession ≠ configSessionId then
          { s with mSession := configSessionId, mQueue := 0 } else s
      ({ s with mQueue := s.mQueue + 1 }, .success)
    else (s, .generalFailure)
  else (s, .generalFailure)

/-- `onCtrlCollectiveResponseCb`. -/
def onCtrlCollectiveResponseCb (s : ConfigClient) : ConfigClient :=
  if s.mSession = configSessionId then { s with mQueue := s.mQueue - 1 } else s

/-- A call of the client, or a collective response of the HAL. -/
inductive Event where
  | locAPIGnssUpdateConfig (update : Update)
  | onCtrlCollectiveResponseCb
deriving DecidableEq, Repr

/-- One event, with the result of a call. -/
def step (s : ConfigClient) : Event → ConfigClient × List LocationError
  | .locAPIGnssUpdateConfig update =>
      ((locAPIGnssUpdateConfig s update).1, [(locAPIGnssUpdateConfig s update).2])
  | .onCtrlCollectiveResponseCb => (onCtrlCollectiveResponseCb s, [])

/-- The client as a machine. -/
def machine : Machine ConfigClient Event LocationError := ⟨step⟩

/-! ## The property -/

/-- The configuration that the HAL has taken last. -/
def lastTaken (handed : List Handed) : Option (GnssConfig (Option (List Char))) :=
  (handed.filter Handed.taken).getLast?.map fun h => h.bytes.contents h.text

/-- If the call returns success, then its configuration is the one that the HAL has taken last. -/
def InForce (s : ConfigClient) : Event → Prop
  | .locAPIGnssUpdateConfig update =>
      (locAPIGnssUpdateConfig s update).2 = .success →
        lastTaken (locAPIGnssUpdateConfig s update).1.handed = some update.contents
  | .onCtrlCollectiveResponseCb => True

/-- The call repeats what the HAL has been handed last: that has been taken, and there is the same
text at the pointer if there is one, or it has not been taken, and what has been taken before it has
the same contents. -/
def Repeats (handed : List Handed) (update : Update) : Prop :=
  ∃ h ∈ handed.getLast?,
    (h.taken = true ∧ (update.config.hostName = 0 ∨ h.text = update.text)) ∨
      (h.taken = false ∧ lastTaken handed.dropLast = some update.contents)

instance (handed : List Handed) (update : Update) : Decidable (Repeats handed update) :=
  inferInstanceAs (Decidable (∃ h ∈ handed.getLast?, _ ∨ _))

/-- A call with the bytes of the saved copy repeats what the HAL has been handed last. -/
def SkipsRepeats (s : ConfigClient) : Event → Prop
  | .locAPIGnssUpdateConfig update => s.mConfig = update.config → Repeats s.handed update
  | .onCtrlCollectiveResponseCb => True

instance (s : ConfigClient) : DecidablePred (SkipsRepeats s)
  | .locAPIGnssUpdateConfig _ => inferInstanceAs (Decidable (_ → _))
  | .onCtrlCollectiveResponseCb => isTrue trivial

/-! ## Every run -/

/-- The saved copy is of what the HAL has been handed last, or zero. -/
def Saved (s : ConfigClient) : Prop :=
  s.mConfig = (s.handed.getLast?.map Handed.bytes).getD .zero

section Run

variable {s : ConfigClient} {bytes : ConfigBytes} {text text' : List Char}

lemma lastTaken_append (handed : List Handed) (h : Handed) :
    lastTaken (handed ++ [h]) =
      if h.taken then some (h.bytes.contents h.text) else lastTaken handed := by
  rw [lastTaken, List.filter_append, List.filter_singleton]
  cases h.taken with
  | true => rw [cond_true, List.getLast?_concat, Option.map_some, if_pos rfl]
  | false => rw [cond_false, List.append_nil, if_neg Bool.false_ne_true, lastTaken]

/-- The text matters where there is a pointer. -/
lemma contents_eq_iff :
    bytes.contents text = bytes.contents text' ↔ bytes.hostName = 0 ∨ text = text' := by
  constructor
  · intro h
    by_contra hne
    rw [not_or] at hne
    have hhost := congrArg (fun config => config.assistanceServer.hostName) h
    simp only [ConfigBytes.contents, GnssConfig.withHost, if_neg hne.1] at hhost
    exact hne.2 (Option.some.inj hhost)
  · rintro (hnull | rfl)
    · rw [ConfigBytes.contents, ConfigBytes.contents, if_pos hnull, if_pos hnull]
    · rfl

/-- **A call that is skipped** repeats what is in force. -/
lemma Saved.repeats_iff (h : Saved s) {update : Update} (hskip : s.mConfig = update.config) :
    lastTaken s.handed = some update.contents ↔ Repeats s.handed update := by
  rcases List.eq_nil_or_concat s.handed with hnil | ⟨before, last, hlast⟩
  · rw [hnil, Repeats]
    refine iff_of_false (Option.some_ne_none _).symm ?_
    rintro ⟨h, hmem, -⟩
    exact Option.some_ne_none h hmem.symm
  · have hbytes : last.bytes = update.config := by
      rw [Saved, hlast, List.concat_eq_append, List.getLast?_concat] at h
      exact h.symm.trans hskip
    rw [hlast, List.concat_eq_append, Repeats, lastTaken_append, List.getLast?_concat,
      List.dropLast_concat, hbytes]
    cases htaken : last.taken with
    | true =>
        rw [if_pos rfl, Option.some_inj, Update.contents, contents_eq_iff]
        constructor
        · exact fun hsame => ⟨last, rfl, .inl ⟨htaken, hsame⟩⟩
        · rintro ⟨h, hmem, ⟨-, hsame⟩ | ⟨hnot, -⟩⟩
          · rwa [← Option.some.inj hmem] at hsame
          · rw [← Option.some.inj hmem, htaken] at hnot
            cases hnot
    | false =>
        rw [if_neg Bool.false_ne_true]
        constructor
        · exact fun hbefore => ⟨last, rfl, .inr ⟨htaken, hbefore⟩⟩
        · rintro ⟨h, hmem, ⟨hnot, -⟩ | ⟨-, hbefore⟩⟩
          · rw [← Option.some.inj hmem, htaken] at hnot
            cases hnot
          · exact hbefore

lemma saved_init (mLocationControlAPI : Bool) : Saved (init mLocationControlAPI) := rfl

/-- What `locAPIGnssUpdateConfig` does with bytes that are not those of the saved copy. -/
lemma locAPIGnssUpdateConfig_of_ne {update : Update} (hne : s.mConfig ≠ update.config)
    (hapi : s.mLocationControlAPI = true) :
    (locAPIGnssUpdateConfig s update).1.mConfig = update.config ∧
      (locAPIGnssUpdateConfig s update).1.handed =
        s.handed ++ [⟨update.config, update.text, update.taken⟩] ∧
      ((locAPIGnssUpdateConfig s update).2 = .success ↔ update.taken = true) := by
  rw [locAPIGnssUpdateConfig, if_neg hne, if_pos hapi]
  dsimp only
  by_cases htaken : update.taken = true
  · rw [if_pos htaken]
    split
    · exact ⟨rfl, rfl, iff_of_true rfl htaken⟩
    · exact ⟨rfl, rfl, iff_of_true rfl htaken⟩
  · rw [if_neg htaken]
    exact ⟨rfl, rfl, iff_of_false LocationError.noConfusion htaken⟩

lemma Saved.next (h : Saved s) (e : Event) : Saved (machine.next s e) := by
  cases e with
  | onCtrlCollectiveResponseCb =>
      simp only [Machine.next, machine, step, onCtrlCollectiveResponseCb]
      split
      · exact h
      · exact h
  | locAPIGnssUpdateConfig update =>
      simp only [Machine.next, machine, step]
      by_cases hskip : s.mConfig = update.config
      · rw [locAPIGnssUpdateConfig, if_pos hskip]
        exact h
      · by_cases hapi : s.mLocationControlAPI = true
        · obtain ⟨hconfig, hhanded, -⟩ := locAPIGnssUpdateConfig_of_ne hskip hapi
          rw [Saved, hconfig, hhanded, List.getLast?_concat]
          rfl
        · rw [locAPIGnssUpdateConfig, if_neg hskip, if_neg hapi]
          exact h

/-- **One call** leaves its configuration in force, or repeats what is. -/
lemma Saved.inForce_iff_skipsRepeats (h : Saved s) (e : Event) :
    InForce s e ↔ SkipsRepeats s e := by
  cases e with
  | onCtrlCollectiveResponseCb => exact Iff.rfl
  | locAPIGnssUpdateConfig update =>
      rw [InForce, SkipsRepeats]
      by_cases hskip : s.mConfig = update.config
      · rw [locAPIGnssUpdateConfig, if_pos hskip]
        exact (imp_iff_right rfl).trans
          ((h.repeats_iff hskip).trans (imp_iff_right hskip).symm)
      · refine iff_of_true ?_ fun heq => absurd heq hskip
        intro hsuccess
        by_cases hapi : s.mLocationControlAPI = true
        · obtain ⟨-, hhanded, hresult⟩ := locAPIGnssUpdateConfig_of_ne hskip hapi
          rw [hhanded, lastTaken_append, if_pos (hresult.mp hsuccess)]
          rfl
        · rw [locAPIGnssUpdateConfig, if_neg hskip, if_neg hapi] at hsuccess
          exact absurd hsuccess LocationError.noConfusion

end Run

/-- **Skipped updates.**  In a run of calls and responses, every call that returns success leaves
its configuration as the one that the HAL has taken last, exactly when every call that is skipped
repeats what is in force. -/
theorem inForce_iff (mLocationControlAPI : Bool) (events : List Event) :
    machine.Steps InForce (init mLocationControlAPI) events ↔
      machine.Steps SkipsRepeats (init mLocationControlAPI) events :=
  Machine.steps_iff_steps (F := fun _ _ => True) (fun _ e h _ => h.inForce_iff_skipsRepeats e)
    (fun _ e h _ _ => h.next e) (saved_init mLocationControlAPI)
    (machine.steps_of_forall (fun _ _ => trivial) _ _)

/-- A configuration that the HAL does not take. -/
def rejectedUpdate : Update :=
  ⟨⟨{ flags := 1, assistanceServer := { hostName := 0 } }, 0⟩, [], false⟩

/-- The second time that a configuration is rejected the HAL is not even asked. -/
theorem rejected_update_skipped :
    ¬ ∀ (mLocationControlAPI : Bool) (events : List Event),
      machine.Steps InForce (init mLocationControlAPI) events := by
  intro h
  have hall := h true
    [.locAPIGnssUpdateConfig rejectedUpdate, .locAPIGnssUpdateConfig rejectedUpdate]
  exact absurd (hall.2.1 (by decide)) (by decide)

end GnssConfigClient
end LocHal
