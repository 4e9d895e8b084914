import LocHal.Android.GnssAPIClient
import LocHal.Gnss.GnssUpdateConfig
import LocHal.Lib.Overlay
import LocHal.Location.ConfigUpdates
import Mathlib.Algebra.Ring.Nat

/-!
# Configurations that wait for a client (`gps/android/Gnss.cpp`)

`Gnss` makes its `GnssAPIClient` when the framework sets the first callback.  What
`updateConfiguration` is asked before that is collected field by field in `mPendingConfig`, and the
client is handed all of it at once when it is made.

`delivered_iff` says that this asks the client for what the framework has asked for, whatever else
the framework does and in whatever order, but for the host name of a server: `mPendingConfig` takes
one over only in the place of another one, and it never has one.  `adapter_conf_eq` takes it to the
adapter, which ends up with the settings that it would have if no request had waited.
-/

namespace LocHal
namespace Gnss

/-- A `GnssConfig` with the text of its host name. -/
abbrev GnssConfig := GnssConfigClient.GnssConfig (Option (List Char))

/-- `sizeof(GnssConfig)`, where a pointer has eight bytes. -/
def sizeofGnssConfig : ℕ := 80

/-- `sizeof(GnssConfigSetAssistanceServer)`. -/
def sizeofGnssConfigSetAssistanceServer : ℕ := 32

/-- The fields that `flags` marks as valid. -/
inductive ConfigField where
  | gpsLock
  | suplVersion
  | assistanceServer
  | lppProfile
  | lppeControlPlaneMask
  | lppeUserPlaneMask
  | aGlonassPositionProtocolMask
  | emergencyPdnForEmergencySupl
  | suplEmergencyServices
  | suplModeMask
deriving DecidableEq, Repr

namespace ConfigField

/-- The order in which `updateConfiguration` deals with the fields. -/
def inOrder : List ConfigField :=
  [.gpsLock, .suplVersion, .assistanceServer, .lppProfile, .lppeControlPlaneMask,
    .lppeUserPlaneMask, .aGlonassPositionProtocolMask, .emergencyPdnForEmergencySupl,
    .suplEmergencyServices, .suplModeMask]

/-- The bit of `flags` for the field. -/
def validBit : ConfigField → ℕ
  | .gpsLock => 0
  | .suplVersion => 1
  | .assistanceServer => 2
  | .lppProfile => 3
  | .lppeControlPlaneMask => 4
  | .lppeUserPlaneMask => 5
  | .aGlonassPositionProtocolMask => 6
  | .emergencyPdnForEmergencySupl => 7
  | .suplEmergencyServices => 8
  | .suplModeMask => 9

/-- The values of the field: of a server, its type, host name and port. -/
def Value : ConfigField → Type
  | .assistanceServer => ℕ × Option (List Char) × ℕ
  | _ => ℕ

/-- The value that a configuration has. -/
def value (config : GnssConfig) : (f : ConfigField) → f.Value
  | .gpsLock => config.gpsLock
  | .suplVersion => config.suplVersion
  | .assistanceServer => (config.assistanceServer.type, config.assistanceServer.hostName,
      config.assistanceServer.port)
  | .lppProfile => config.lppProfile
  | .lppeControlPlaneMask => config.lppeControlPlaneMask
  | .lppeUserPlaneMask => config.lppeUserPlaneMask
  | .aGlonassPositionProtocolMask => config.aGlonassPositionProtocolMask
  | .emergencyPdnForEmergencySupl => config.emergencyPdnForEmergencySupl
  | .suplEmergencyServices => config.suplEmergencyServices
  | .suplModeMask => config.suplModeMask

/-- The assignments to the field in `updateConfiguration`. -/
def copy (gnssConfig mPendingConfig : GnssConfig) : ConfigField → GnssConfig
  | .gpsLock => { mPendingConfig with gpsLock := gnssConfig.gpsLock }
  | .suplVersion => { mPendingConfig with suplVersion := gnssConfig.suplVersion }
  | .assistanceServer =>
      let pending := mPendingConfig.assistanceServer
      { mPendingConfig with
        assistanceServer :=
          { size := sizeofGnssConfigSetAssistanceServer
            type := gnssConfig.assistanceServer.type
            -- the name is only replaced
            hostName := if pending.hostName.isSome then gnssConfig.assistanceServer.hostName
              else pending.hostName
            port := gnssConfig.assistanceServer.port } }
  | .lppProfile => { mPendingConfig with lppProfile := gnssConfig.lppProfile }
  | .lppeControlPlaneMask =>
      { mPendingConfig with lppeControlPlaneMask := gnssConfig.lppeControlPlaneMask }
  | .lppeUserPlaneMask =>
      { mPendingConfig with lppeUserPlaneMask := gnssConfig.lppeUserPlaneMask }
  | .aGlonassPositionProtocolMask =>
      { mPendingConfig with
        aGlonassPositionProtocolMask := gnssConfig.aGlonassPositionProtocolMask }
  | .emergencyPdnForEmergencySupl =>
      { mPendingConfig with
        emergencyPdnForEmergencySupl := gnssConfig.emergencyPdnForEmergencySupl }
  | .suplEmergencyServices =>
      { mPendingConfig with suplEmergencyServices := gnssConfig.suplEmergencyServices }
  | .suplModeMask => { mPendingConfig with suplModeMask := gnssConfig.suplModeMask }

end ConfigField

/-- The field is valid. -/
def valid (config : GnssConfig) (f : ConfigField) : Bool := config.flags.testBit f.validBit

/-- One test of a flag in `updateConfiguration`. -/
def collectField (gnssConfig mPendingConfig : GnssConfig) (f : ConfigField) : GnssConfig :=
  if valid gnssConfig f then
    f.copy gnssConfig { mPendingConfig with flags := mPendingConfig.flags ||| 2 ^ f.validBit }
  else mPendingConfig

/-- What `updateConfiguration` makes of `mPendingConfig`. -/
def collect (mPendingConfig gnssConfig : GnssConfig) : GnssConfig :=
  ConfigField.inOrder.foldl (collectField gnssConfig)
    { mPendingConfig with size := sizeofGnssConfig }

end Gnss

/-- `Gnss`, with whether there is a `mApi`. -/
structure Gnss (GnssCb NiCb : Type*) where
  mGnssCbIface : Option GnssCb
  mGnssNiCbIface : Option NiCb
  mApi : Bool
  mPendingConfig : Gnss.GnssConfig

namespace Gnss

variable {GnssCb NiCb : Type*}

/-- The constructor. -/
def init : Gnss GnssCb NiCb := ⟨none, none, false, { assistanceServer := { hostName := none } }⟩

/-- `IGnssNiCallback::GnssUserResponseType`, with one value for all that are invalid. -/
inductive GnssUserResponseType where
  | responseAccept
  | responseDeny
  | responseNoresp
  | invalid
deriving DecidableEq, Repr

/-- The calls of the `GnssAPIClient`. -/
inductive ApiCall (GnssCb NiCb : Type*) where
  | gnssUpdateCallbacks (gpsCb : Option GnssCb) (niCb : Option NiCb)
  | gnssEnable
  | requestCapabilities
  | gnssConfigurationUpdate (gnssConfig : GnssConfig)
  | gnssStart
  | gnssStop
  | gnssDisable
  | gnssDeleteAidingData (aidingDataFlags : UInt16)
  | gnssSetPositionMode (mode : GnssPositionMode) (recurrence : GnssPositionRecurrence)
      (minIntervalMs preferredAccuracyMeters preferredTimeMs : UInt32)
  | gnssNiRespond (notifId : Int32) (userResponse : GnssUserResponseType)

/-- The calls of the framework, of `Gnss` and of its `GnssNi`, and its death. -/
inductive Event (GnssCb NiCb : Type*) where
  | setCallback (callback : Option GnssCb)
  | setGnssNiCb (callback : Option NiCb)
  | updateConfiguration (gnssConfig : GnssConfig)
  | start
  | stop
  | cleanup
  | deleteAidingData (aidingDataFlags : UInt16)
  | setPositionMode (mode : GnssPositionMode) (recurrence : GnssPositionRecurrence)
      (minIntervalMs preferredAccuracyMeters preferredTimeMs : UInt32)
  | respond (notifId : Int32) (userResponse : GnssUserResponseType)
  | serviceDied

/-- `getApi`; the client is there afterwards if `mApi` is. -/
def getApi (g : Gnss GnssCb NiCb) : Gnss GnssCb NiCb × List (ApiCall GnssCb NiCb) :=
  if !g.mApi && (g.mGnssCbIface.isSome || g.mGnssNiCbIface.isSome) then
    -- the constructor of the client
    let created := [.gnssUpdateCallbacks g.mGnssCbIface g.mGnssNiCbIface]
    if g.mPendingConfig.size = sizeofGnssConfig then
      ({ g with mApi := true, mPendingConfig := { g.mPendingConfig with size := 0 } },
        created ++ [.gnssConfigurationUpdate g.mPendingConfig])
    else ({ g with mApi := true }, created)
  else (g, [])

/-- A call that is passed on if there is a client. -/
def withApi (g : Gnss GnssCb NiCb) (calls : List (ApiCall GnssCb NiCb)) :
    Gnss GnssCb NiCb × List (ApiCall GnssCb NiCb) :=
  let api := g.getApi
  (api.1, api.2 ++ if api.1.mApi then calls else [])

/-- `setCallback`. -/
def setCallback (g : Gnss GnssCb NiCb) (callback : Option GnssCb) :
    Gnss GnssCb NiCb × List (ApiCall GnssCb NiCb) :=
  ({ g with mGnssCbIface := callback } : Gnss GnssCb NiCb).withApi
    [.gnssUpdateCallbacks callback g.mGnssNiCbIface, .gnssEnable, .requestCapabilities]

/-- `setGnssNiCb`. -/
def setGnssNiCb (g : Gnss GnssCb NiCb) (callback : Option NiCb) :
    Gnss GnssCb NiCb × List (ApiCall GnssCb NiCb) :=
  ({ g with mGnssNiCbIface := callback } : Gnss GnssCb NiCb).withApi
    [.gnssUpdateCallbacks g.mGnssCbIface callback]

/-- `updateConfiguration`. -/
def updateConfiguration (g : Gnss GnssCb NiCb) (gnssConfig : GnssConfig) :
    Gnss GnssCb NiCb × List (ApiCall GnssCb NiCb) :=
  let api := g.getApi
  if api.1.mApi then (api.1, api.2 ++ [.gnssConfigurationUpdate gnssConfig])
  else if gnssConfig.flags ≠ 0 then
    ({ api.1 with mPendingConfig := collect api.1.mPendingConfig gnssConfig }, api.2)
  else api

/-- `start`. -/
def start (g : Gnss GnssCb NiCb) : Gnss GnssCb NiCb × List (ApiCall GnssCb NiCb) :=
  g.withApi [.gnssStart]

/-- `stop`. -/
def stop (g : Gnss GnssCb NiCb) : Gnss GnssCb NiCb × List (ApiCall GnssCb NiCb) :=
  g.withApi [.gnssStop]

/-- `cleanup`, which makes no client. -/
def cleanup (g : Gnss GnssCb NiCb) : Gnss GnssCb NiCb × List (ApiCall GnssCb NiCb) :=
  (g, if g.mApi then [.gnssDisable] else [])

/-- `deleteAidingData`. -/
def deleteAidingData (g : Gnss GnssCb NiCb) (aidingDataFlags : UInt16) :
    Gnss GnssCb NiCb × List (ApiCall GnssCb NiCb) :=
  g.withApi [.gnssDeleteAidingData aidingDataFlags]

/-- `setPositionMode`. -/
def setPositionMode (g : Gnss GnssCb NiCb) (mode : GnssPositionMode)
    (recurrence : GnssPositionRecurrence)
    (minIntervalMs preferredAccuracyMeters preferredTimeMs : UInt32) :
    Gnss GnssCb NiCb × List (ApiCall GnssCb NiCb) :=
  g.withApi [.gnssSetPositionMode mode recurrence minIntervalMs preferredAccuracyMeters
    preferredTimeMs]

/-- `GnssNi::respond`. -/
def respond (g : Gnss GnssCb NiCb) (notifId : Int32) (userResponse : GnssUserResponseType) :
    Gnss GnssCb NiCb × List (ApiCall GnssCb NiCb) :=
  g.withApi [.gnssNiRespond notifId userResponse]

/-- `GnssDeathRecipient::serviceDied`. -/
def serviceDied (g : Gnss GnssCb NiCb) : Gnss GnssCb NiCb × List (ApiCall GnssCb NiCb) :=
  let stopped := g.stop
  let cleaned := stopped.1.cleanup
  (cleaned.1, stopped.2 ++ cleaned.2)

/-- `Gnss` as a machine, with the calls of its client. -/
def machine : Machine (Gnss GnssCb NiCb) (Event GnssCb NiCb) (ApiCall GnssCb NiCb) where
  step g
    | .setCallback callback => g.setCallback callback
    | .setGnssNiCb callback => g.setGnssNiCb callback
    | .updateConfiguration gnssConfig => g.updateConfiguration gnssConfig
    | .start => g.start
    | .stop => g.stop
    | .cleanup => g.cleanup
    | .deleteAidingData aidingDataFlags => g.deleteAidingData aidingDataFlags
    | .setPositionMode mode recurrence minIntervalMs preferredAccuracyMeters preferredTimeMs =>
        g.setPositionMode mode recurrence minIntervalMs preferredAccuracyMeters preferredTimeMs
    | .respond notifId userResponse => g.respond notifId userResponse
    | .serviceDied => g.serviceDied

/-! ## What is asked for and what is delivered -/

/-- The values that a configuration asks for. -/
def settings (config : GnssConfig) : Overlay ConfigField.Value :=
  fun f => if valid config f then some (f.value config) else none

/-- The configuration that an event asks for. -/
def Event.config : Event GnssCb NiCb → Option GnssConfig
  | .updateConfiguration gnssConfig => some gnssConfig
  | _ => none

/-- The configuration that a call hands to the client. -/
def ApiCall.config : ApiCall GnssCb NiCb → Option GnssConfig
  | .gnssConfigurationUpdate gnssConfig => some gnssConfig
  | _ => none

/-- The configurations that the framework asks for. -/
def asked (es : List (Event GnssCb NiCb)) : List GnssConfig := es.filterMap Event.config

/-- The configurations that the client is handed in a run. -/
def delivered (g : Gnss GnssCb NiCb) (es : List (Event GnssCb NiCb)) : List GnssConfig :=
  (machine.outs g es).filterMap ApiCall.config

/-- The event asks for a server. -/
def Event.asksServer (e : Event GnssCb NiCb) : Bool :=
  e.config.any fun config => valid config .assistanceServer

/-- The event asks for a server that it has a name of. -/
def Event.namesHost (e : Event GnssCb NiCb) : Bool :=
  e.config.any fun config =>
    valid config .assistanceServer && config.assistanceServer.hostName.isSome

/-- The last request for a server, if it names the host, is made when there is a client. -/
def HostArrives : Gnss GnssCb NiCb → List (Event GnssCb NiCb) → Prop
  | _, [] => True
  | g, e :: es =>
      if es.any Event.asksServer then HostArrives (machine.next g e) es
      else e.namesHost = true → g.mApi = true

instance decidableHostArrives :
    ∀ (g : Gnss GnssCb NiCb) (es : List (Event GnssCb NiCb)), Decidable (HostArrives g es)
  | _, [] => isTrue trivial
  | g, e :: es =>
      have := decidableHostArrives (machine.next g e) es
      inferInstanceAs (Decidable (if es.any Event.asksServer then HostArrives (machine.next g e) es
        else e.namesHost = true → g.mApi = true))

/-! ## Collecting -/

/-- The configuration without the name of its server. -/
def withoutHost (config : GnssConfig) : GnssConfig :=
  { config with assistanceServer := { config.assistanceServer with hostName := none } }

section Collect

variable {c p : GnssConfig} {f f' : ConfigField}

lemma settings_eq_empty (h : c.flags = 0) : settings c = Overlay.empty := by
  funext f
  rw [settings, valid, h, Nat.zero_testBit]
  rfl

lemma settings_withoutHost (hf : f ≠ .assistanceServer) :
    settings (withoutHost c) f = settings c f := by
  cases f with
  | assistanceServer => exact absurd rfl hf
  | _ => rfl

lemma validBit_injective : Function.Injective ConfigField.validBit := by
  intro f f' h
  cases f <;> cases f' <;> first | rfl | cases h

lemma flags_copy : (f.copy c p).flags = p.flags := by
  cases f <;> rfl

lemma hostName_copy (h : p.assistanceServer.hostName = none) :
    (f.copy c p).assistanceServer.hostName = none := by
  cases f with
  | assistanceServer => simp [ConfigField.copy, h]
  | _ => exact h

lemma value_copy (h : p.assistanceServer.hostName = none) :
    f.value (f.copy c p) = f.value (withoutHost c) := by
  cases f with
  | assistanceServer =>
      simp only [ConfigField.copy, ConfigField.value, withoutHost, h]
      rfl
  | _ => rfl

lemma value_copy_of_ne (hne : f' ≠ f) : f'.value (f.copy c p) = f'.value p := by
  cases f <;> cases f' <;> first | rfl | exact absurd rfl hne

lemma hostName_collectField (h : p.assistanceServer.hostName = none) :
    (collectField c p f).assistanceServer.hostName = none := by
  rw [collectField]
  split_ifs
  · exact hostName_copy h
  · exact h

/-- **One field.** -/
lemma settings_collectField (h : p.assistanceServer.hostName = none) :
    settings (collectField c p f) f = (settings (withoutHost c) f).or (settings p f) := by
  have hvalid : valid (withoutHost c) f = valid c f := rfl
  rw [collectField, settings, settings, hvalid]
  by_cases hc : valid c f = true
  · have hflag : valid (f.copy c { p with flags := p.flags ||| 2 ^ f.validBit }) f = true := by
      rw [valid, flags_copy, Nat.testBit_or, Nat.testBit_two_pow_self, Bool.or_true]
    rw [if_pos hc, if_pos hc, if_pos hflag, Option.some_or]
    exact congrArg some (value_copy h)
  · rw [if_neg hc, if_neg hc, Option.none_or]
    rfl

/-- The other fields stay as they are. -/
lemma settings_collectField_of_ne (hne : f' ≠ f) :
    settings (collectField c p f) f' = settings p f' := by
  rw [collectField]
  by_cases hc : valid c f = true
  · have hbit : f'.validBit ≠ f.validBit := fun heq => hne (validBit_injective heq)
    have hflag : valid (f.copy c { p with flags := p.flags ||| 2 ^ f.validBit }) f' =
        valid p f' := by
      rw [valid, flags_copy, Nat.testBit_or, Nat.testBit_two_pow_of_ne hbit.symm, Bool.or_false]
      rfl
    rw [if_pos hc, settings, settings, hflag, value_copy_of_ne hne]
    rfl
  · rw [if_neg hc]

/-- The loop over the fields, each of which it meets once. -/
lemma settings_foldl (fs : List ConfigField) (hnodup : fs.Nodup)
    (h : p.assistanceServer.hostName = none) :
    (fs.foldl (collectField c) p).assistanceServer.hostName = none ∧
      ∀ f, settings (fs.foldl (collectField c) p) f =
        if f ∈ fs then (settings (withoutHost c) f).or (settings p f) else settings p f := by
  induction fs generalizing p with
  | nil => exact ⟨h, fun _ => rfl⟩
  | cons f₀ fs ih =>
      obtain ⟨hnot, hrest⟩ := List.nodup_cons.mp hnodup
      obtain ⟨hhost, hsettings⟩ := ih hrest (p := collectField c p f₀) (hostName_collectField h)
      refine ⟨hhost, fun f => ?_⟩
      rw [List.foldl_cons, hsettings]
      by_cases hf : f = f₀
      · rw [hf, if_neg hnot, if_pos List.mem_cons_self, settings_collectField h]
      · simp only [List.mem_cons, hf, false_or, settings_collectField_of_ne hf]

/-- **What is collected** are the values asked for over those before, without a host name. -/
lemma settings_collect (h : p.assistanceServer.hostName = none) :
    settings (collect p c) = (settings (withoutHost c)).atop (settings p) := by
  obtain ⟨-, hsettings⟩ := settings_foldl (c := c) ConfigField.inOrder (by decide)
    (p := { p with size := sizeofGnssConfig }) h
  have hall : ∀ f, f ∈ ConfigField.inOrder := fun f => by cases f <;> decide
  funext f
  rw [collect, hsettings, if_pos (hall f)]
  rfl

lemma hostName_collect (h : p.assistanceServer.hostName = none) :
    (collect p c).assistanceServer.hostName = none :=
  (settings_foldl (c := c) ConfigField.inOrder (by decide)
    (p := { p with size := sizeofGnssConfig }) h).1

lemma size_collectField : (collectField c p f).size = p.size := by
  rw [collectField]
  split_ifs
  · cases f <;> rfl
  · rfl

lemma size_collect : (collect p c).size = sizeofGnssConfig := by
  have hloop : ∀ (fs : List ConfigField) (p : GnssConfig),
      (fs.foldl (collectField c) p).size = p.size := by
    intro fs
    induction fs with
    | nil => exact fun _ => rfl
    | cons f fs ih => exact fun p => (ih _).trans size_collectField
  exact hloop _ _

end Collect

/-! ## One event -/

/-- What waits for a client: nothing any more when there is one. -/
def held (g : Gnss GnssCb NiCb) : Overlay ConfigField.Value :=
  if g.mApi then Overlay.empty else settings g.mPendingConfig

/-- As long as there is no client there is no callback either, and what is collected has no host
name, and the size of a configuration unless it is nothing. -/
structure Waits (g : Gnss GnssCb NiCb) : Prop where
  gnssCb : g.mApi = false → g.mGnssCbIface = none
  niCb : g.mApi = false → g.mGnssNiCbIface = none
  host : g.mApi = false → g.mPendingConfig.assistanceServer.hostName = none
  size : g.mApi = false → g.mPendingConfig.size = sizeofGnssConfig ∨
    settings g.mPendingConfig = Overlay.empty

/-- The configuration that an event asks for, as far as it will get to the client. -/
def heard (g : Gnss GnssCb NiCb) (e : Event GnssCb NiCb) : Option GnssConfig :=
  e.config.map fun config => if g.mApi then config else withoutHost config

/-- The values that a call hands to the client. -/
def handed (calls : List (ApiCall GnssCb NiCb)) : Overlay ConfigField.Value :=
  Overlay.latest ((calls.filterMap ApiCall.config).map settings)

section Step

variable {g : Gnss GnssCb NiCb} {calls : List (ApiCall GnssCb NiCb)}

lemma handed_append (calls calls' : List (ApiCall GnssCb NiCb)) :
    handed (calls ++ calls') = (handed calls').atop (handed calls) := by
  rw [handed, List.filterMap_append, List.map_append, Overlay.latest_append]
  rfl

lemma handed_eq_empty (h : ∀ call ∈ calls, call.config = none) : handed calls = Overlay.empty := by
  rw [handed, List.filterMap_eq_nil_iff.mpr h]
  rfl

lemma waits_init : Waits (init : Gnss GnssCb NiCb) :=
  ⟨fun _ => rfl, fun _ => rfl, fun _ => rfl, fun _ => .inr (settings_eq_empty rfl)⟩

lemma waits_of_api (h : g.mApi = true) : Waits g :=
  ⟨fun hno => Bool.noConfusion (hno.symm.trans h), fun hno => Bool.noConfusion (hno.symm.trans h),
    fun hno => Bool.noConfusion (hno.symm.trans h), fun hno => Bool.noConfusion (hno.symm.trans h)⟩

lemma held_of_api (h : g.mApi = true) : g.held = Overlay.empty := if_pos h

lemma getApi_of_api (h : g.mApi = true) : g.getApi = (g, []) := by
  rw [getApi, h]
  rfl

lemma getApi_of_none (hgnss : g.mGnssCbIface = none) (hni : g.mGnssNiCbIface = none) :
    g.getApi = (g, []) := by
  rw [getApi, hgnss, hni, if_neg]
  simp

/-- **The client is made**, and handed what has waited for it. -/
lemma getApi_of_callback (hapi : g.mApi = false)
    (hcb : g.mGnssCbIface.isSome = true ∨ g.mGnssNiCbIface.isSome = true)
    (hsize : g.mPendingConfig.size = sizeofGnssConfig ∨
      settings g.mPendingConfig = Overlay.empty) :
    g.getApi.1.mApi = true ∧ handed g.getApi.2 = settings g.mPendingConfig := by
  have hmakes : (!g.mApi && (g.mGnssCbIface.isSome || g.mGnssNiCbIface.isSome)) = true := by
    rw [hapi, Bool.not_false, Bool.true_and, Bool.or_eq_true]
    exact hcb
  rw [getApi, if_pos hmakes]
  by_cases hpending : g.mPendingConfig.size = sizeofGnssConfig
  · dsimp only
    rw [if_pos hpending]
    exact ⟨rfl, Overlay.latest_singleton⟩
  · dsimp only
    rw [if_neg hpending, hsize.resolve_left hpending]
    exact ⟨rfl, rfl⟩

/-- A call that has nothing to do with configurations, when there are callbacks or not. -/
lemma Waits.withApi (hg : Waits g) (calls : List (ApiCall GnssCb NiCb))
    {g' : Gnss GnssCb NiCb} (hapi : g'.mApi = g.mApi)
    (hpending : g'.mPendingConfig = g.mPendingConfig)
    (hcalls : ∀ call ∈ calls, call.config = none) :
    Waits (g'.withApi calls).1 ∧
      (g'.withApi calls).1.held.atop (handed (g'.withApi calls).2) = g.held := by
  have hsilent : ∀ b : Bool, handed (if b then calls else []) = Overlay.empty := by
    intro b
    cases b with
    | true => exact handed_eq_empty hcalls
    | false => rfl
  simp only [Gnss.withApi, handed_append, hsilent, Overlay.empty_atop]
  cases hclient : g.mApi with
  | true =>
      have hclient' := hapi.trans hclient
      rw [getApi_of_api hclient']
      exact ⟨waits_of_api hclient', by rw [held_of_api hclient', held_of_api hclient]; rfl⟩
  | false =>
      have hclient' := hapi.trans hclient
      have hheld : g.held = settings g'.mPendingConfig := by
        rw [held, hclient, hpending]
        rfl
      by_cases hcb : g'.mGnssCbIface.isSome = true ∨ g'.mGnssNiCbIface.isSome = true
      · obtain ⟨hmade, hhanded⟩ := getApi_of_callback hclient' hcb (hpending ▸ hg.size hclient)
        exact ⟨waits_of_api hmade, by
          rw [held_of_api hmade, hhanded, Overlay.empty_atop, hheld]⟩
      · rw [not_or, Bool.not_eq_true, Bool.not_eq_true, Option.isSome_eq_false_iff,
          Option.isNone_iff_eq_none, Option.isSome_eq_false_iff, Option.isNone_iff_eq_none] at hcb
        rw [getApi_of_none hcb.1 hcb.2]
        refine ⟨⟨fun _ => hcb.1, fun _ => hcb.2, ?_, ?_⟩, ?_⟩
        · exact fun _ => hpending ▸ hg.host hclient
        · exact fun _ => hpending ▸ hg.size hclient
        · rw [hheld, held, hclient']
          exact Overlay.atop_empty

/-- `updateConfiguration` collects what it is asked, or passes it on. -/
lemma Waits.updateConfiguration (hg : Waits g) (c : GnssConfig) :
    Waits (g.updateConfiguration c).1 ∧
      (g.updateConfiguration c).1.held.atop (handed (g.updateConfiguration c).2) =
        (settings (if g.mApi then c else withoutHost c)).atop g.held := by
  rw [Gnss.updateConfiguration]
  cases hclient : g.mApi with
  | true =>
      rw [getApi_of_api hclient]
      simp only [hclient, if_true]
      refine ⟨hg, ?_⟩
      rw [held_of_api hclient, Overlay.empty_atop, Overlay.atop_empty]
      exact Overlay.latest_singleton
  | false =>
      rw [getApi_of_none (hg.gnssCb hclient) (hg.niCb hclient)]
      simp only [hclient, Bool.false_eq_true, if_false]
      have hheld : g.held = settings g.mPendingConfig := by
        rw [held, hclient]
        rfl
      by_cases hflags : c.flags = 0
      · have hnothing : settings (withoutHost c) = Overlay.empty := settings_eq_empty hflags
        rw [if_neg (not_not.mpr hflags), hnothing]
        exact ⟨hg, Overlay.atop_empty.trans Overlay.empty_atop.symm⟩
      · rw [if_pos hflags, hheld, ← settings_collect (hg.host hclient)]
        exact ⟨⟨fun _ => hg.gnssCb hclient, fun _ => hg.niCb hclient,
          fun _ => hostName_collect (hg.host hclient), fun _ => .inl size_collect⟩,
          Overlay.atop_empty⟩

/-- **One event.** What waits after it over what it hands to the client is what it asks for over
what has waited before. -/
lemma Waits.next (hg : Waits g) (e : Event GnssCb NiCb) :
    Waits (machine.next g e) ∧
      (machine.next g e).held.atop (handed (machine.emit g e)) =
        (Overlay.latest ((heard g e).toList.map settings)).atop g.held := by
  cases e with
  | updateConfiguration c =>
      obtain ⟨hwaits, hheld⟩ := hg.updateConfiguration c
      refine ⟨hwaits, hheld.trans ?_⟩
      rw [heard, Event.config, Option.map_some, Option.toList_some, List.map_singleton,
        Overlay.latest_singleton]
  | setCallback callback =>
      exact hg.withApi _ rfl rfl (by simp [ApiCall.config])
  | setGnssNiCb callback =>
      exact hg.withApi _ rfl rfl (by simp [ApiCall.config])
  | start => exact hg.withApi _ rfl rfl (by simp [ApiCall.config])
  | stop => exact hg.withApi _ rfl rfl (by simp [ApiCall.config])
  | deleteAidingData aidingDataFlags => exact hg.withApi _ rfl rfl (by simp [ApiCall.config])
  | setPositionMode mode recurrence minIntervalMs preferredAccuracyMeters preferredTimeMs =>
      exact hg.withApi _ rfl rfl (by simp [ApiCall.config])
  | respond notifId userResponse => exact hg.withApi _ rfl rfl (by simp [ApiCall.config])
  | cleanup =>
      refine ⟨hg, ?_⟩
      have hsilent : handed (g.cleanup).2 = Overlay.empty := by
        rw [cleanup]
        cases g.mApi with
        | true => rfl
        | false => rfl
      exact (congrArg g.held.atop hsilent).trans Overlay.atop_empty
  | serviceDied =>
      obtain ⟨hwaits, hheld⟩ := hg.withApi [.gnssStop] rfl rfl (by simp [ApiCall.config])
      refine ⟨hwaits, ?_⟩
      have hsilent : handed (g.stop.1.cleanup).2 = Overlay.empty := by
        rw [cleanup]
        cases g.stop.1.mApi with
        | true => rfl
        | false => rfl
      have hemit : handed (machine.emit g .serviceDied) = handed g.stop.2 := by
        have happend : handed (machine.emit g .serviceDied) =
            (handed (g.stop.1.cleanup).2).atop (handed g.stop.2) := handed_append _ _
        rw [happend, hsilent, Overlay.empty_atop]
      rw [hemit]
      exact hheld

end Step

/-! ## Every run -/

section Run

variable {g : Gnss GnssCb NiCb} {f : ConfigField}

/-- The configurations that the framework asks for in a run, as far as they get to the client. -/
def heardIn : Gnss GnssCb NiCb → List (Event GnssCb NiCb) → List GnssConfig
  | _, [] => []
  | g, e :: es => (heard g e).toList ++ heardIn (machine.next g e) es

/-- **What a client has been handed** by the end of a run is what was asked for, as far as it gets
there. -/
lemma Waits.run (hg : Waits g) (es : List (Event GnssCb NiCb)) :
    (machine.run g es).held.atop (Overlay.latest ((delivered g es).map settings)) =
      (Overlay.latest ((heardIn g es).map settings)).atop g.held := by
  induction es generalizing g with
  | nil => exact Overlay.atop_empty.trans Overlay.empty_atop.symm
  | cons e es ih =>
      obtain ⟨hwaits, hstep⟩ := hg.next e
      have hdelivered : Overlay.latest ((delivered g (e :: es)).map settings) =
          (Overlay.latest ((delivered (machine.next g e) es).map settings)).atop
            (handed (machine.emit g e)) := by
        rw [delivered, Machine.outs_cons, List.filterMap_append, List.map_append,
          Overlay.latest_append]
        rfl
      rw [Machine.run_cons, hdelivered, ← Overlay.atop_assoc, ih hwaits, Overlay.atop_assoc, hstep,
        heardIn, List.map_append, Overlay.latest_append, Overlay.atop_assoc]

lemma asked_cons (e : Event GnssCb NiCb) (es : List (Event GnssCb NiCb)) :
    asked (e :: es) = e.config.toList ++ asked es := by
  rw [asked, List.filterMap_cons]
  cases e.config with
  | none => rfl
  | some c => rfl

/-- All but the server gets to the client. -/
lemma heardIn_of_ne (hf : f ≠ .assistanceServer) (es : List (Event GnssCb NiCb)) :
    Overlay.latest ((heardIn g es).map settings) f =
      Overlay.latest ((asked es).map settings) f := by
  induction es generalizing g with
  | nil => rfl
  | cons e es ih =>
      have hhere : Overlay.latest ((heard g e).toList.map settings) f =
          Overlay.latest (e.config.toList.map settings) f := by
        rw [heard]
        cases e.config with
        | none => rfl
        | some c =>
            simp only [Option.map_some, Option.toList_some, List.map_singleton,
              Overlay.latest_singleton]
            split_ifs
            · rfl
            · exact settings_withoutHost hf
      rw [heardIn, asked_cons, List.map_append, List.map_append, Overlay.latest_append,
        Overlay.latest_append, Overlay.atop, Overlay.atop, ih, hhere]

/-- An event that asks for a server. -/
lemma isSome_heard (g : Gnss GnssCb NiCb) (e : Event GnssCb NiCb) :
    (Overlay.latest ((heard g e).toList.map settings) .assistanceServer).isSome = e.asksServer ∧
      (Overlay.latest (e.config.toList.map settings) .assistanceServer).isSome =
        e.asksServer := by
  rw [heard, Event.asksServer]
  cases e.config with
  | none => exact ⟨rfl, rfl⟩
  | some c =>
      have hsome : ∀ c : GnssConfig, (settings c .assistanceServer).isSome =
          valid c .assistanceServer := by
        intro c
        rw [settings]
        cases valid c .assistanceServer with
        | true => rfl
        | false => rfl
      simp only [Option.map_some, Option.toList_some, List.map_singleton, Overlay.latest_singleton,
        Option.any_some]
      refine ⟨?_, hsome c⟩
      cases g.mApi with
      | true => exact hsome c
      | false => exact hsome (withoutHost c)

/-- Events of which one asks for a server. -/
lemma isSome_heardIn (g : Gnss GnssCb NiCb) (es : List (Event GnssCb NiCb)) :
    (Overlay.latest ((heardIn g es).map settings) .assistanceServer).isSome =
        es.any Event.asksServer ∧
      (Overlay.latest ((asked es).map settings) .assistanceServer).isSome =
        es.any Event.asksServer := by
  induction es generalizing g with
  | nil => exact ⟨rfl, rfl⟩
  | cons e es ih =>
      obtain ⟨hheard, hasked⟩ := ih (machine.next g e)
      obtain ⟨hheard', hasked'⟩ := isSome_heard g e
      rw [heardIn, asked_cons, List.map_append, List.map_append, Overlay.latest_append,
        Overlay.latest_append, Overlay.atop, Overlay.atop, Option.isSome_or, Option.isSome_or,
        hheard, hasked, hheard', hasked', List.any_cons, Bool.or_comm]
      exact ⟨rfl, rfl⟩

/-- The name of a host is lost if there is no client. -/
lemma heard_iff (g : Gnss GnssCb NiCb) (e : Event GnssCb NiCb) :
    Overlay.latest ((heard g e).toList.map settings) .assistanceServer =
        Overlay.latest (e.config.toList.map settings) .assistanceServer ↔
      (e.namesHost = true → g.mApi = true) := by
  rw [heard, Event.namesHost]
  cases e.config with
  | none => exact iff_of_true rfl fun h => Bool.noConfusion h
  | some c =>
      simp only [Option.map_some, Option.toList_some, List.map_singleton, Overlay.latest_singleton,
        Option.any_some, Bool.and_eq_true]
      cases hapi : g.mApi with
      | true => exact iff_of_true rfl fun _ => rfl
      | false =>
          simp only [Bool.false_eq_true, if_false, imp_false, not_and]
          have hvalid : valid (withoutHost c) .assistanceServer = valid c .assistanceServer := rfl
          rw [settings, settings, hvalid]
          by_cases hc : valid c .assistanceServer = true
          · rw [if_pos hc, if_pos hc, Option.some_inj, imp_iff_right hc, Bool.not_eq_true,
              Option.isSome_eq_false_iff, Option.isNone_iff_eq_none]
            constructor
            · exact fun heq => (congrArg (fun v => v.2.1) heq).symm
            · intro hnone
              exact (congrArg (fun host => (c.assistanceServer.type, host,
                c.assistanceServer.port)) hnone).symm
          · rw [if_neg hc, if_neg hc]
            exact iff_of_true rfl fun hc' => absurd hc' hc

lemma hostArrives_iff (g : Gnss GnssCb NiCb) (es : List (Event GnssCb NiCb)) :
    Overlay.latest ((heardIn g es).map settings) .assistanceServer =
        Overlay.latest ((asked es).map settings) .assistanceServer ↔ HostArrives g es := by
  induction es generalizing g with
  | nil => exact iff_of_true rfl trivial
  | cons e es ih =>
      obtain ⟨hheard, hasked⟩ := isSome_heardIn (machine.next g e) es
      rw [heardIn, asked_cons, List.map_append, List.map_append, Overlay.latest_append,
        Overlay.latest_append, HostArrives]
      cases hany : es.any Event.asksServer with
      | true =>
          obtain ⟨b, hb⟩ := Option.isSome_iff_exists.mp (hheard.trans hany)
          obtain ⟨b', hb'⟩ := Option.isSome_iff_exists.mp (hasked.trans hany)
          rw [Overlay.atop_apply_of_some hb, Overlay.atop_apply_of_some hb', if_pos rfl,
            ← ih (machine.next g e), hb, hb']
      | false =>
          have hnone := Option.isSome_eq_false_iff.mp (hheard.trans hany)
          have hnone' := Option.isSome_eq_false_iff.mp (hasked.trans hany)
          rw [Overlay.atop_apply_of_none (Option.isNone_iff_eq_none.mp hnone),
            Overlay.atop_apply_of_none (Option.isNone_iff_eq_none.mp hnone'),
            if_neg Bool.false_ne_true]
          exact heard_iff g e

/-- What a client has been handed in a run from the start. -/
lemma delivered_eq (es : List (Event GnssCb NiCb))
    (hapi : (machine.run (init : Gnss GnssCb NiCb) es).mApi = true) :
    Overlay.latest ((delivered (init : Gnss GnssCb NiCb) es).map settings) =
      Overlay.latest ((heardIn (init : Gnss GnssCb NiCb) es).map settings) := by
  have hrun := (waits_init : Waits (init : Gnss GnssCb NiCb)).run es
  have hheld : (init : Gnss GnssCb NiCb).held = Overlay.empty := settings_eq_empty rfl
  rwa [held_of_api hapi, Overlay.empty_atop, hheld, Overlay.atop_empty] at hrun

end Run

/-- **Waiting configurations.** Whatever the framework does, and in whatever order, by the time that
there is a client it has been handed the latest value that has been asked for of every field but the
server, and the latest server too exactly if its name, if it has one, has not been asked for too
early. -/
theorem delivered_iff (es : List (Event GnssCb NiCb))
    (hapi : (machine.run (init : Gnss GnssCb NiCb) es).mApi = true) :
    (∀ f ≠ .assistanceServer, Overlay.latest ((delivered init es).map settings) f =
        Overlay.latest ((asked es).map settings) f) ∧
      (Overlay.latest ((delivered init es).map settings) .assistanceServer =
          Overlay.latest ((asked es).map settings) .assistanceServer ↔
        HostArrives init es) := by
  rw [delivered_eq es hapi]
  exact ⟨fun f hf => heardIn_of_ne hf es, hostArrives_iff init es⟩

/-- A server that is named before the first callback is set loses its name, and the version that is
asked for twice is the later one. -/
theorem delivered_iff_named_early :
    let server : GnssConfig :=
      { flags := 4, assistanceServer := { hostName := some ['s'], port := 7275 } }
    let version (v : ℕ) : GnssConfig :=
      { flags := 2, suplVersion := v, assistanceServer := { hostName := none } }
    let es : List (Event Unit Unit) := [.updateConfiguration (version 1),
      .updateConfiguration server, .start, .updateConfiguration (version 2), .setCallback (some ())]
    (∀ f ≠ .assistanceServer, Overlay.latest ((delivered init es).map settings) f =
        Overlay.latest ((asked es).map settings) f) ∧
      Overlay.latest ((delivered init es).map settings) .assistanceServer ≠
        Overlay.latest ((asked es).map settings) .assistanceServer :=
  ⟨(delivered_iff _ (by decide)).1,
    fun heq => absurd ((delivered_iff _ (by decide)).2.mp heq) (by decide)⟩

/-! ## The adapter -/

open GnssUpdateConfig (Setting UpdateMsg ConfigState GnssConfigSuplVersion GnssConfigLppProfile)

/-- The enumerator of `GnssConfigSuplVersion`, which begins with 1; any other number is taken for
the first of them. -/
def suplVersion : ℕ → GnssConfigSuplVersion
  | 2 => .v2_0_0
  | 3 => .v2_0_2
  | _ => .v1_0_0

/-- The enumerator of `GnssConfigLppProfile`; any other number is taken for the first of them. -/
def lppProfile : ℕ → GnssConfigLppProfile
  | 1 => .userPlane
  | 2 => .controlPlane
  | 3 => .userPlaneAndControlPlane
  | _ => .rrlpOnLte

/-- The fields of a configuration that are settings of the engine. -/
def toEngine (config : GnssConfig) : GnssUpdateConfig.GnssConfig where
  flags := BitVec.ofNat 32 config.flags
  suplVersion := suplVersion config.suplVersion
  lppProfile := lppProfile config.lppProfile
  lppeControlPlaneMask := BitVec.ofNat 16 config.lppeControlPlaneMask
  lppeUserPlaneMask := BitVec.ofNat 16 config.lppeUserPlaneMask
  aGlonassPositionProtocolMask := BitVec.ofNat 16 config.aGlonassPositionProtocolMask

/-- The field of a setting. -/
def field : Setting → ConfigField
  | .SUPL_VER => .suplVersion
  | .LPP_PROFILE => .lppProfile
  | .LPPE_CP_TECHNOLOGY => .lppeControlPlaneMask
  | .LPPE_UP_TECHNOLOGY => .lppeUserPlaneMask
  | .A_GLONASS_POS_PROTOCOL_SELECT => .aGlonassPositionProtocolMask

/-- The value of a setting. -/
def convert : (t : Setting) → (field t).Value → BitVec 32
  | .SUPL_VER, v => GnssUpdateConfig.convertSuplVersion (suplVersion v)
  | .LPP_PROFILE, v => GnssUpdateConfig.convertLppProfile (lppProfile v)
  | .LPPE_CP_TECHNOLOGY, v => GnssUpdateConfig.convertLppeCp (BitVec.ofNat 16 v)
  | .LPPE_UP_TECHNOLOGY, v => GnssUpdateConfig.convertLppeUp (BitVec.ofNat 16 v)
  | .A_GLONASS_POS_PROTOCOL_SELECT, v => GnssUpdateConfig.convertAGloProt (BitVec.ofNat 16 v)

/-- The adapter changes the setting. -/
def takes (inject : Bool) (t : Setting) : Bool := !t.needsInject || inject

/-- The settings that the adapter takes from the values asked for. -/
def engineSettings (inject : Bool) (o : Overlay ConfigField.Value) :
    Overlay fun _ : Setting => BitVec 32 :=
  fun t => if takes inject t then (o (field t)).map (convert t) else none

/-- The settings that the adapter takes from a message. -/
def taken (inject : Bool) (config : GnssUpdateConfig.GnssConfig) :
    Overlay fun _ : Setting => BitVec 32 :=
  fun t => if config.valid t && takes inject t then some (config.value t) else none

section Adapter

variable {a : ConfigState} {msg : UpdateMsg} {t : Setting} {inject : Bool}

lemma taken_toEngine (config : GnssConfig) :
    taken inject (toEngine config) = engineSettings inject (settings config) := by
  funext t
  have hvalid : (toEngine config).valid t = valid config (field t) := by
    rw [GnssUpdateConfig.GnssConfig.valid, toEngine, BitVec.getLsbD_ofNat]
    cases t <;> rfl
  have hvalue : (toEngine config).value t = convert t ((field t).value config) := by
    cases t <;> rfl
  rw [taken, engineSettings, settings, hvalid, hvalue]
  cases valid config (field t) with
  | true => rfl
  | false => cases takes inject t <;> rfl

lemma engineSettings_empty : engineSettings inject Overlay.empty = Overlay.empty := by
  funext t
  rw [engineSettings]
  split_ifs <;> rfl

lemma engineSettings_atop (o o' : Overlay ConfigField.Value) :
    engineSettings inject (o.atop o') =
      (engineSettings inject o).atop (engineSettings inject o') := by
  funext t
  rw [Overlay.atop, engineSettings, engineSettings, engineSettings]
  split_ifs
  · exact Option.map_or
  · rfl

/-- One setting of a message. -/
lemma updateSetting_conf :
    (a.updateSetting msg t).1.mGps_conf t =
      (taken a.AGPS_CONFIG_INJECT msg.mConfig t).getD (a.mGps_conf t) := by
  have htakes : takes a.AGPS_CONFIG_INJECT t = true ↔
      (t.needsInject = true → a.AGPS_CONFIG_INJECT = true) := by
    rw [takes, Bool.or_eq_true, Bool.not_eq_true', ← Bool.not_eq_true, imp_iff_not_or]
  rw [ConfigState.updateSetting, taken]
  by_cases hvalid : msg.mConfig.valid t = true
  · by_cases hgate : takes a.AGPS_CONFIG_INJECT t = true
    · rw [if_pos hvalid, hvalid, hgate]
      by_cases hnew : msg.mConfig.value t = a.mGps_conf t
      · rw [if_neg fun h => h.1 hnew]
        exact hnew.symm
      · rw [if_pos ⟨hnew, htakes.mp hgate⟩]
        have hkept : ∀ (a : ConfigState) (value : BitVec 32) (answer : LocationError),
            (a.setInEngine t value answer).mGps_conf = a.mGps_conf := by
          intro a value answer
          rw [ConfigState.setInEngine]
          split_ifs <;> rfl
        exact (congrFun (hkept _ _ _) t).trans (Function.update_self t _ _)
    · rw [if_pos hvalid, if_neg fun h => hgate (htakes.mpr h.2), hvalid,
        Bool.eq_false_iff.mpr hgate]
      rfl
  · rw [if_neg hvalid, Bool.eq_false_iff.mpr hvalid]
    rfl

/-- The settings of a message, each of which it deals with once. -/
lemma updateSettings_conf (l : List Setting) (hl : l.Nodup) :
    (a.updateSettings msg l).1.mGps_conf t =
      if t ∈ l then (taken a.AGPS_CONFIG_INJECT msg.mConfig t).getD (a.mGps_conf t)
      else a.mGps_conf t := by
  induction l generalizing a with
  | nil => rfl
  | cons t₀ rest ih =>
      obtain ⟨hnot, hrest⟩ := List.nodup_cons.mp hl
      have hstep := ih hrest (a := (a.updateSetting msg t₀).1)
      rw [ConfigState.updateSetting_inject] at hstep
      refine Eq.trans hstep ?_
      by_cases ht : t = t₀
      · rw [ht, if_neg hnot, if_pos List.mem_cons_self, updateSetting_conf]
      · simp only [List.mem_cons, ht, false_or, (ConfigState.updateSetting_of_ne ht).1]

/-- **One message** lays what the adapter takes over `mGps_conf`, whatever the engine answers. -/
lemma proc_conf :
    (a.proc msg).1.mGps_conf = (taken a.AGPS_CONFIG_INJECT msg.mConfig).laidOn a.mGps_conf := by
  funext t
  have hall : t ∈ Setting.inOrder := by cases t <;> decide
  rw [ConfigState.proc, updateSettings_conf Setting.inOrder (by decide), if_pos hall]
  rfl

/-- **All messages.** -/
lemma run_conf (msgs : List UpdateMsg) :
    (ConfigState.machine.run a msgs).mGps_conf =
      (Overlay.latest (msgs.map fun msg => taken a.AGPS_CONFIG_INJECT msg.mConfig)).laidOn
        a.mGps_conf := by
  induction msgs generalizing a with
  | nil => rfl
  | cons msg msgs ih =>
      have hinject : (ConfigState.machine.next a msg).AGPS_CONFIG_INJECT = a.AGPS_CONFIG_INJECT :=
        ConfigState.updateSettings_inject _
      rw [Machine.run_cons, ih, hinject, List.map_cons, Overlay.latest_cons, Overlay.laidOn_atop,
        ← proc_conf]
      rfl

/-- What the engine accepts it has like `mGps_conf`. -/
lemma updateSettings_engine (hanswer : ∀ t, msg.answer t = .success) (l : List Setting)
    (h : a.engine = a.mGps_conf) :
    (a.updateSettings msg l).1.engine = (a.updateSettings msg l).1.mGps_conf := by
  induction l generalizing a with
  | nil => exact h
  | cons t rest ih =>
      refine ih ?_
      rw [ConfigState.updateSetting]
      split_ifs with hvalid
      · dsimp only
        split_ifs with hnew
        · simp only [ConfigState.setInEngine, if_pos (hanswer t), h]
        · exact h
      · exact h

lemma run_engine (msgs : List UpdateMsg) (hanswer : ∀ msg ∈ msgs, ∀ t, msg.answer t = .success)
    (h : a.engine = a.mGps_conf) :
    (ConfigState.machine.run a msgs).engine = (ConfigState.machine.run a msgs).mGps_conf := by
  induction msgs generalizing a with
  | nil => exact h
  | cons msg msgs ih =>
      obtain ⟨hmsg, hmsgs⟩ := List.forall_mem_cons.mp hanswer
      exact ih hmsgs (updateSettings_engine hmsg _ h)

/-- Messages with the configurations that these are for the adapter. -/
lemma run_conf_of_configs {msgs : List UpdateMsg} {configs : List GnssConfig}
    (h : msgs.map (·.mConfig) = configs.map toEngine) :
    (ConfigState.machine.run a msgs).mGps_conf =
      (engineSettings a.AGPS_CONFIG_INJECT (Overlay.latest (configs.map settings))).laidOn
        a.mGps_conf := by
  have htaken : msgs.map (fun msg => taken a.AGPS_CONFIG_INJECT msg.mConfig) =
      (configs.map settings).map (engineSettings a.AGPS_CONFIG_INJECT) := by
    have hmap := congrArg (List.map (taken a.AGPS_CONFIG_INJECT)) h
    rw [List.map_map, List.map_map] at hmap
    rw [List.map_map]
    exact hmap.trans (List.map_congr_left fun c _ => taken_toEngine c)
  rw [run_conf, htaken, Overlay.map_latest engineSettings_empty engineSettings_atop]

end Adapter

/-- **The same settings.** By the time that there is a client, the adapter has the settings of
`mGps_conf` that it would have if it had been sent every configuration as soon as it was asked for,
whatever the engine answers; if it accepts all that it is asked, it has the same ones as well. -/
theorem adapter_conf_eq (es : List (Event GnssCb NiCb))
    (hapi : (machine.run (init : Gnss GnssCb NiCb) es).mApi = true) (a : ConfigState)
    (sent atOnce : List UpdateMsg)
    (hsent : sent.map (·.mConfig) = (delivered (init : Gnss GnssCb NiCb) es).map toEngine)
    (hatOnce : atOnce.map (·.mConfig) = (asked es).map toEngine) :
    (ConfigState.machine.run a sent).mGps_conf = (ConfigState.machine.run a atOnce).mGps_conf ∧
      ((∀ msg ∈ sent ++ atOnce, ∀ t, msg.answer t = .success) → a.engine = a.mGps_conf →
        (ConfigState.machine.run a sent).engine = (ConfigState.machine.run a atOnce).engine) := by
  have hconf : (ConfigState.machine.run a sent).mGps_conf =
      (ConfigState.machine.run a atOnce).mGps_conf := by
    rw [run_conf_of_configs hsent, run_conf_of_configs hatOnce, delivered_eq es hapi]
    congr 1
    funext t
    have hfield : field t ≠ .assistanceServer := by cases t <;> decide
    rw [engineSettings, engineSettings, heardIn_of_ne hfield]
  refine ⟨hconf, fun hanswer hagree => ?_⟩
  rw [run_engine sent (fun msg hmsg => hanswer msg (List.mem_append_left _ hmsg)) hagree,
    run_engine atOnce (fun msg hmsg => hanswer msg (List.mem_append_right _ hmsg)) hagree, hconf]

/-- Two versions are asked for before there is a client; the engine refuses what it is sent, and
would have accepted what it had been sent at once. -/
theorem adapter_conf_eq_versions :
    let version (v : ℕ) : GnssConfig :=
      { flags := 2, suplVersion := v, assistanceServer := { hostName := none } }
    let es : List (Event Unit Unit) := [.updateConfiguration (version 3), .start,
      .updateConfiguration (version 2), .setGnssNiCb (some ())]
    let sent := (delivered init es).map fun config =>
      (⟨toEngine config, fun _ => .generalFailure⟩ : UpdateMsg)
    let atOnce := (asked es).map fun config => (⟨toEngine config, fun _ => .success⟩ : UpdateMsg)
    (ConfigState.machine.run ConfigState.defaults sent).mGps_conf =
        (ConfigState.machine.run ConfigState.defaults atOnce).mGps_conf ∧
      (ConfigState.machine.run ConfigState.defaults sent).mGps_conf .SUPL_VER = 0x20000 :=
  ⟨(adapter_conf_eq _ (by decide) _ _ _ List.map_map List.map_map).1, by decide⟩

end Gnss
end LocHal
