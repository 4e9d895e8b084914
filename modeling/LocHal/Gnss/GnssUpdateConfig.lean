import LocHal.Lib.Machine
import LocHal.Location.LocationTypes
import Mathlib.Logic.Function.Basic

/-!
# Updates of the configuration (`gps/gnss/GnssAdapter.cpp`)

`gnssUpdateConfig` asks for new values of some settings.  For each of those that the engine has too,
`mGps_conf` takes the new value, the engine is asked to take it, and its answer is reported.  What
`mGps_conf` has already is not given to the engine, and success is reported for it.

The two agree as long as the engine accepts what it is asked.  After a refusal `mGps_conf` has a
value that the engine has not, and `reports_true_iff` says that success is reported wrongly exactly
when that value is asked for while this is so.

Values are compared as `mGps_conf` writes them, and the engine's are given in the same way, so bits
of a mask that have no name do not count.
-/

namespace LocHal
namespace GnssUpdateConfig

/-- `GnssConfigSuplVersion`. -/
inductive GnssConfigSuplVersion where
  | v1_0_0
  | v2_0_0
  | v2_0_2
deriving DecidableEq, Repr

/-- `GnssConfigLppProfile`. -/
inductive GnssConfigLppProfile where
  | rrlpOnLte
  | userPlane
  | controlPlane
  | userPlaneAndControlPlane
deriving DecidableEq, Repr

/-- The fields of `GnssConfig` for the settings that the engine has too. -/
structure GnssConfig where
  flags : BitVec 32
  suplVersion : GnssConfigSuplVersion
  lppProfile : GnssConfigLppProfile
  lppeControlPlaneMask : BitVec 16
  lppeUserPlaneMask : BitVec 16
  aGlonassPositionProtocolMask : BitVec 16
deriving DecidableEq, Repr

/-- `convertSuplVersion`. -/
def convertSuplVersion : GnssConfigSuplVersion → BitVec 32
  | .v2_0_0 => 0x00020000
  | .v2_0_2 => 0x00020002
  | .v1_0_0 => 0x00010000

/-- `convertLppProfile`. -/
def convertLppProfile : GnssConfigLppProfile → BitVec 32
  | .userPlane => 1
  | .controlPlane => 2
  | .userPlaneAndControlPlane => 3
  | .rrlpOnLte => 0

/-- The four tests of a mask that `convertLppeCp`, `convertLppeUp` and `convertAGloProt` make. -/
def convertMask (flags : BitVec 16) : BitVec 32 :=
  let mask := 0
  let mask := if flags.getLsbD 0 then mask ||| 1 else mask
  let mask := if flags.getLsbD 1 then mask ||| 2 else mask
  let mask := if flags.getLsbD 2 then mask ||| 4 else mask
  if flags.getLsbD 3 then mask ||| 8 else mask

/-- `convertLppeCp`. -/
def convertLppeCp (lppeControlPlaneMask : BitVec 16) : BitVec 32 :=
  convertMask lppeControlPlaneMask

/-- `convertLppeUp`. -/
def convertLppeUp (lppeUserPlaneMask : BitVec 16) : BitVec 32 := convertMask lppeUserPlaneMask

/-- `convertAGloProt`. -/
def convertAGloProt (aGloPositionProtocolMask : BitVec 16) : BitVec 32 :=
  convertMask aGloPositionProtocolMask

/-- The settings, by their fields of `mGps_conf`. -/
inductive Setting where
  | SUPL_VER
  | LPP_PROFILE
  | LPPE_CP_TECHNOLOGY
  | LPPE_UP_TECHNOLOGY
  | A_GLONASS_POS_PROTOCOL_SELECT
deriving DecidableEq, Repr

namespace Setting

/-- The order in which a message deals with the settings. -/
def inOrder : List Setting :=
  [.SUPL_VER, .LPP_PROFILE, .LPPE_CP_TECHNOLOGY, .LPPE_UP_TECHNOLOGY,
    .A_GLONASS_POS_PROTOCOL_SELECT]

/-- The bit of `flags` that marks the setting as valid. -/
def validBit : Setting → ℕ
  | .SUPL_VER => 1
  | .LPP_PROFILE => 3
  | .LPPE_CP_TECHNOLOGY => 4
  | .LPPE_UP_TECHNOLOGY => 5
  | .A_GLONASS_POS_PROTOCOL_SELECT => 6

/-- The setting is only changed if `AGPS_CONFIG_INJECT` is set. -/
def needsInject : Setting → Bool
  | .SUPL_VER => true
  | .LPP_PROFILE => true
  | .LPPE_CP_TECHNOLOGY => false
  | .LPPE_UP_TECHNOLOGY => false
  | .A_GLONASS_POS_PROTOCOL_SELECT => true

end Setting

namespace GnssConfig

/-- The setting is to be updated. -/
def valid (config : GnssConfig) (t : Setting) : Bool := config.flags.getLsbD t.validBit

/-- The value asked for. -/
def value (config : GnssConfig) : Setting → BitVec 32
  | .SUPL_VER => convertSuplVersion config.suplVersion
  | .LPP_PROFILE => convertLppProfile config.lppProfile
  | .LPPE_CP_TECHNOLOGY => convertLppeCp config.lppeControlPlaneMask
  | .LPPE_UP_TECHNOLOGY => convertLppeUp config.lppeUserPlaneMask
  | .A_GLONASS_POS_PROTOCOL_SELECT => convertAGloProt config.aGlonassPositionProtocolMask

end GnssConfig

/-- `mGps_conf` and the settings of the engine behind `mLocApi`. -/
structure ConfigState where
  AGPS_CONFIG_INJECT : Bool
  mGps_conf : Setting → BitVec 32
  engine : Setting → BitVec 32

/-- A message, with what the engine answers if it is asked to take a value. -/
structure UpdateMsg where
  mConfig : GnssConfig
  answer : Setting → LocationError

/-- The error that is reported for a setting. -/
abbrev Report := Setting × LocationError

namespace ConfigState

/-- The setter of the engine; it leaves the engine as it is unless it succeeds. -/
def setInEngine (a : ConfigState) (t : Setting) (value : BitVec 32) (answer : LocationError) :
    ConfigState :=
  if answer = .success then { a with engine := Function.update a.engine t value } else a

/-- What a message does about one setting. -/
def updateSetting (msg : UpdateMsg) (a : ConfigState) (t : Setting) : ConfigState × List Report :=
  if msg.mConfig.valid t then
    let newValue := msg.mConfig.value t
    if newValue ≠ a.mGps_conf t ∧ (t.needsInject = true → a.AGPS_CONFIG_INJECT = true) then
      let a := { a with mGps_conf := Function.update a.mGps_conf t newValue }
      (a.setInEngine t newValue (msg.answer t), [(t, msg.answer t)])
    else (a, [(t, .success)])
  else (a, [])

/-- The settings of a list, one after the other. -/
def updateSettings (msg : UpdateMsg) : ConfigState → List Setting → ConfigState × List Report
  | a, [] => (a, [])
  | a, t :: rest =>
      let updated := a.updateSetting msg t
      let done := updateSettings msg updated.1 rest
      (done.1, updated.2 ++ done.2)

/-- `MsgGnssUpdateConfig::proc`. -/
def proc (a : ConfigState) (msg : UpdateMsg) : ConfigState × List Report :=
  a.updateSettings msg Setting.inOrder

/-- The adapter as a machine over its messages. -/
def machine : Machine ConfigState UpdateMsg Report := ⟨proc⟩

/-- Each success that the message reports is one: the engine has the value asked for. -/
def ReportsTrue (a : ConfigState) (msg : UpdateMsg) : Prop :=
  ∀ t, (t, .success) ∈ (a.proc msg).2 → (a.proc msg).1.engine t = msg.mConfig.value t

/-- The message asks for no value that `mGps_conf` has and the engine has not. -/
def AsksNothingMissed (a : ConfigState) (msg : UpdateMsg) : Prop :=
  ∀ t, msg.mConfig.valid t = true → msg.mConfig.value t = a.mGps_conf t →
    a.engine t = a.mGps_conf t

section Update

variable {msg : UpdateMsg} {a : ConfigState} {t t' : Setting}

lemma updateSetting_inject :
    (a.updateSetting msg t).1.AGPS_CONFIG_INJECT = a.AGPS_CONFIG_INJECT := by
  simp only [updateSetting, setInEngine]
  split_ifs <;> rfl

/-- Dealing with one setting leaves the others alone. -/
lemma updateSetting_of_ne (hne : t' ≠ t) :
    (a.updateSetting msg t).1.mGps_conf t' = a.mGps_conf t' ∧
      (a.updateSetting msg t).1.engine t' = a.engine t' := by
  simp only [updateSetting, setInEngine]
  split_ifs <;> simp [hne]

lemma eq_of_mem_updateSetting {err : LocationError} (h : (t', err) ∈ (a.updateSetting msg t).2) :
    t' = t := by
  simp only [updateSetting] at h
  split_ifs at h
  · exact (Prod.mk.inj (List.mem_singleton.mp h)).1
  · exact (Prod.mk.inj (List.mem_singleton.mp h)).1
  · cases h

/-- Dealing with some settings leaves the others alone. -/
lemma updateSettings_of_not_mem (msg : UpdateMsg) (a : ConfigState) {l : List Setting}
    (h : t ∉ l) :
    (a.updateSettings msg l).1.engine t = a.engine t ∧
      ∀ err, (t, err) ∉ (a.updateSettings msg l).2 := by
  induction l generalizing a with
  | nil => exact ⟨rfl, nofun⟩
  | cons t' rest ih =>
      obtain ⟨hne, hrest⟩ := List.ne_and_not_mem_of_not_mem_cons h
      obtain ⟨hengine, hreports⟩ := ih (a.updateSetting msg t').1 hrest
      refine ⟨hengine.trans (updateSetting_of_ne hne).2, fun err hmem => ?_⟩
      rcases List.mem_append.mp hmem with hhere | hthere
      · exact hne (eq_of_mem_updateSetting hhere)
      · exact hreports err hthere

/-- **One setting.** A success is a false one only if there was no need to ask the engine. -/
lemma updateSetting_true_iff (hinject : a.AGPS_CONFIG_INJECT = true) :
    ((t, .success) ∈ (a.updateSetting msg t).2 →
        (a.updateSetting msg t).1.engine t = msg.mConfig.value t) ↔
      (msg.mConfig.valid t = true → msg.mConfig.value t = a.mGps_conf t →
        a.engine t = a.mGps_conf t) := by
  simp only [updateSetting, setInEngine]
  split_ifs with hvalid hnew hanswer
  · simp [hnew.1]
  · simp [hnew.1, Ne.symm hanswer]
  · have hsame : msg.mConfig.value t = a.mGps_conf t := by
      by_contra hne
      exact hnew ⟨hne, fun _ => hinject⟩
    simp [hvalid, hsame]
  · simp [hvalid]

/-- **Some settings.** Each is dealt with once, from the values that it has before the message. -/
lemma updateSettings_true_iff (hinject : a.AGPS_CONFIG_INJECT = true) {l : List Setting}
    (hl : l.Nodup) :
    (∀ t ∈ l, (t, .success) ∈ (a.updateSettings msg l).2 →
        (a.updateSettings msg l).1.engine t = msg.mConfig.value t) ↔
      ∀ t ∈ l, msg.mConfig.valid t = true → msg.mConfig.value t = a.mGps_conf t →
        a.engine t = a.mGps_conf t := by
  induction l generalizing a with
  | nil => simp
  | cons t rest ih =>
      obtain ⟨hnot, hrest⟩ := List.nodup_cons.mp hl
      have hhead := updateSettings_of_not_mem msg (a.updateSetting msg t).1 hnot
      have hne : ∀ t' ∈ rest, t' ≠ t := fun t' ht' heq => hnot (heq ▸ ht')
      rw [List.forall_mem_cons, List.forall_mem_cons]
      refine and_congr ?_ ?_
      · rw [← updateSetting_true_iff hinject]
        simp only [updateSettings, List.mem_append, hhead.1, hhead.2, or_false]
      · have ih' := ih (a := (a.updateSetting msg t).1) (updateSetting_inject.trans hinject) hrest
        refine Iff.trans (forall₂_congr fun t' ht' => ?_)
          (ih'.trans (forall₂_congr fun t' ht' => ?_))
        · have hreports : (t', LocationError.success) ∉ (a.updateSetting msg t).2 := fun hmem =>
            hne t' ht' (eq_of_mem_updateSetting hmem)
          simp only [updateSettings, List.mem_append, hreports, false_or]
        · rw [(updateSetting_of_ne (hne t' ht')).1, (updateSetting_of_ne (hne t' ht')).2]

lemma updateSettings_inject (l : List Setting) :
    (a.updateSettings msg l).1.AGPS_CONFIG_INJECT = a.AGPS_CONFIG_INJECT := by
  induction l generalizing a with
  | nil => rfl
  | cons t rest ih => exact ih.trans updateSetting_inject

/-- **One message.** -/
lemma reportsTrue_iff (hinject : a.AGPS_CONFIG_INJECT = true) :
    a.ReportsTrue msg ↔ a.AsksNothingMissed msg := by
  have hall : ∀ t, t ∈ Setting.inOrder := fun t => by cases t <;> decide
  have hmsg := @updateSettings_true_iff msg a hinject Setting.inOrder (by decide)
  simp only [hall, forall_true_left] at hmsg
  exact hmsg

end Update

/-- **Reported success.** After any messages, whatever the engine answered: every success that was
reported was one exactly when no message asked for a value that `mGps_conf` had and the engine had
not. -/
theorem reports_true_iff (a : ConfigState) (hinject : a.AGPS_CONFIG_INJECT = true)
    (msgs : List UpdateMsg) :
    machine.Steps ReportsTrue a msgs ↔ machine.Steps AsksNothingMissed a msgs := by
  refine Machine.steps_iff_steps (P := fun a => a.AGPS_CONFIG_INJECT = true) (F := fun _ _ => True)
    ?_ ?_ hinject (Machine.steps_of_forall _ (fun _ _ => trivial) _ _)
  · exact fun a msg hinject _ => reportsTrue_iff hinject
  · exact fun a msg hinject _ _ => (updateSettings_inject _).trans hinject

/-- The defaults of `ContextBase` on both sides. -/
def defaults : ConfigState where
  AGPS_CONFIG_INJECT := true
  mGps_conf
    | .SUPL_VER => 0x10000
    | _ => 0
  engine
    | .SUPL_VER => 0x10000
    | _ => 0

/-- A request for SUPL 2.0.0 with the engine's answer. -/
def suplTwo (answer : LocationError) : UpdateMsg where
  mConfig := ⟨2, .v2_0_0, .rrlpOnLte, 0, 0, 0⟩
  answer _ := answer

/-- A request that the engine accepts may be repeated. -/
theorem reports_true_of_accepted :
    defaults.AGPS_CONFIG_INJECT = true ∧
      (machine.Steps ReportsTrue defaults [suplTwo .success, suplTwo .generalFailure] ↔
        machine.Steps AsksNothingMissed defaults [suplTwo .success, suplTwo .generalFailure]) :=
  ⟨rfl, reports_true_iff defaults rfl _⟩

/-- A request that the engine refuses is reported as a success when it is repeated. -/
theorem success_reported_for_refused :
    ¬ machine.Steps ReportsTrue defaults [suplTwo .generalFailure, suplTwo .generalFailure] := by
  intro h
  have hsecond := h.2.1 .SUPL_VER (by decide)
  exact absurd hsecond (by decide)

end ConfigState

end GnssUpdateConfig
end LocHal
