import LocHal.Lib.Machine
import LocHal.Lib.Printf
import LocHal.Lib.Registers

/-!
# The lights (`liblight/lights.c`)

The battery light, the notification light and the attention light share one LED, which shows the one
that matters most of those that are lit.  Each call for one of the three writes the whole of what is
to be shown into files of the LED driver: a steady colour, or a pattern that the driver plays when
it is told to blink.

The machine takes one `set_light` call at a time, as they exclude each other, and outputs what is
written.  The main result is `lights_show`: after any calls the files describe what matters most
among the latest calls, the pattern is only written while the driver does not play it, and the text
of the pattern never overruns its buffer.

The device that is passed to the calls is not `NULL` and the files can be written.
-/

namespace LocHal
namespace Lights

/-- `light_state_t`, without `brightnessMode`, which is not looked at. -/
structure LightState where
  color : UInt32
  flashMode : ℤ
  flashOnMS : ℤ
  flashOffMS : ℤ
deriving DecidableEq, Repr

/-- The three colours of the LED. -/
inductive Channel where
  | red
  | green
  | blue
deriving DecidableEq, Repr

/-- The files of the LED driver. -/
inductive File where
  | led (c : Channel)
  | lcd
  | buttons
  | dutyPcts (c : Channel)
  | startIdx (c : Channel)
  | pauseLo (c : Channel)
  | pauseHi (c : Channel)
  | rampStepMs (c : Channel)
  | blink (c : Channel)
  | rgbBlink
deriving DecidableEq, Repr

/-- The lights that can be opened. -/
inductive Light where
  | backlight
  | buttons
  | battery
  | notifications
  | attention
deriving DecidableEq, Repr

/-- `g_attention`, `g_notification` and `g_battery`. -/
structure State where
  g_attention : LightState
  g_notification : LightState
  g_battery : LightState
deriving DecidableEq, Repr

/-- What is written, and a write behind the end of a buffer. -/
inductive Output where
  | write (file : File) (text : List Char)
  | fault
deriving DecidableEq, Repr

/-- `LIGHT_FLASH_TIMED`. -/
def lightFlashTimed : ℤ := 1

/-- `RAMP_SIZE`. -/
def rampSize : ℕ := 8

/-- `BRIGHTNESS_RAMP`. -/
def brightnessRamp : List ℤ := [0, 12, 25, 37, 50, 72, 85, 100]

/-- `RAMP_STEP_DURATION`. -/
def rampStepDuration : ℤ := 50

/-- A light that has not been set. -/
def dark : LightState := ⟨0, 0, 0, 0⟩

def init : State := ⟨dark, dark, dark⟩

/-- `write_int`. -/
def writeInt (path : File) (value : ℤ) : Output := .write path (formatInt value ++ ['\n'])

/-- `write_str`. -/
def writeStr (path : File) (value : List Char) : Output := .write path (value ++ ['\n'])

/-- A byte of a colour. -/
def channel (color : UInt32) : Channel → ℕ
  | .red => color.toNat >>> 16 &&& 0xff
  | .green => color.toNat >>> 8 &&& 0xff
  | .blue => color.toNat &&& 0xff

/-- `is_lit`. -/
def isLit (state : LightState) : Bool := state.color.toNat &&& 0x00ffffff ≠ 0

/-- `rgb_to_brightness`. -/
def rgbToBrightness (state : LightState) : ℤ :=
  let color := state.color.toNat &&& 0x00ffffff
  ((77 * (color >>> 16 &&& 0x00ff) + 150 * (color >>> 8 &&& 0x00ff) +
    29 * (color &&& 0x00ff)) >>> 8 : ℕ)

/-- The loop of `get_scaled_duty_pcts`: `temp` takes four characters and `buf` as many as
`5 * RAMP_SIZE` bytes leave room for. -/
def scaledDutyLoop (brightness : ℤ) (pad buf : List Char) : List ℤ → Option (List Char)
  | [] => some buf
  | ramp :: ramps =>
      let temp := (pad ++ formatInt (ramp * brightness / 255)).take 4
      if (buf ++ temp).length < 5 * rampSize then
        scaledDutyLoop brightness [','] (buf ++ temp) ramps
      else none

/-- `get_scaled_duty_pcts`. -/
def getScaledDutyPcts (brightness : ℤ) : Option (List Char) :=
  scaledDutyLoop brightness [] [] brightnessRamp

/-- What is written for one colour of a pattern. -/
def channelPattern (c : Channel) (startIdx : ℕ) (brightness offMS pauseHi stepDuration : ℤ) :
    List Output :=
  [writeInt (.startIdx c) startIdx,
    match getScaledDutyPcts brightness with
    | some duty => writeStr (.dutyPcts c) duty
    | none => .fault,
    writeInt (.pauseLo c) offMS, writeInt (.pauseHi c) pauseHi,
    writeInt (.rampStepMs c) stepDuration]

/-- `onMS` and `offMS`. -/
def flashMS (state : LightState) : ℤ × ℤ :=
  if state.flashMode = lightFlashTimed then (state.flashOnMS, state.flashOffMS) else (0, 0)

/-- `blink`. -/
def blinks (state : LightState) : Bool := 0 < (flashMS state).1 && 0 < (flashMS state).2

/-- `stepDuration` and `pauseHi`. -/
def rampTimes (onMS : ℤ) : ℤ × ℤ :=
  let stepDuration := rampStepDuration
  let pauseHi := onMS - stepDuration * rampSize * 2
  if onMS < stepDuration * rampSize * 2 then (onMS / (rampSize * 2), 0) else (stepDuration, pauseHi)

/-- `set_speaker_light_locked`. -/
def setSpeakerLightLocked (state : LightState) : List Output :=
  let red := channel state.color .red
  let green := channel state.color .green
  let blue := channel state.color .blue
  -- disable all blinking to start
  writeInt .rgbBlink 0 ::
    if blinks state then
      let offMS := (flashMS state).2
      let (stepDuration, pauseHi) := rampTimes (flashMS state).1
      channelPattern .red 0 red offMS pauseHi stepDuration ++
        channelPattern .green rampSize green offMS pauseHi stepDuration ++
        channelPattern .blue (rampSize * 2) blue offMS pauseHi stepDuration ++
        -- start the party
        [writeInt .rgbBlink 1]
    else
      (if red = 0 ∧ green = 0 ∧ blue = 0 then
        [writeInt (.blink .red) 0, writeInt (.blink .green) 0, writeInt (.blink .blue) 0]
      else []) ++
      [writeInt (.led .red) red, writeInt (.led .green) green, writeInt (.led .blue) blue]

/-- The light that `handle_speaker_light_locked` shows. -/
def State.shown (s : State) : LightState :=
  if isLit s.g_attention then s.g_attention
  else if isLit s.g_notification then s.g_notification
  else s.g_battery

/-- `handle_speaker_light_locked`. -/
def handleSpeakerLightLocked (s : State) : State × List Output :=
  (s, setSpeakerLightLocked s.shown)

/-- The notification light, with the brightness that the user has applied. -/
def applyBrightness (state : LightState) : LightState :=
  let brightness := (state.color.toNat &&& 0xff000000) >>> 24
  if 0 < brightness ∧ brightness < 0xff then
    let scaled := fun c =>
      let rgb := channel state.color c
      if 0 < rgb then rgb * brightness / 0xff else rgb
    { state with
      color := .ofNat (scaled .red <<< 16 + scaled .green <<< 8 + scaled .blue) }
  else state

/-- The call of `set_light` for a light. -/
def step (s : State) : Light × LightState → State × List Output
  | (.backlight, state) => (s, [writeInt .lcd (rgbToBrightness state)])
  | (.buttons, state) => (s, [writeInt .buttons (rgbToBrightness state)])
  | (.battery, state) => handleSpeakerLightLocked { s with g_battery := state }
  | (.notifications, state) =>
      handleSpeakerLightLocked { s with g_notification := applyBrightness state }
  | (.attention, state) => handleSpeakerLightLocked { s with g_attention := state }

/-- The lights as a machine. -/
def machine : Machine State (Light × LightState) Output := ⟨step⟩

/-! ## The text of a pattern -/

/-- The brightnesses of the ramp, scaled, with commas between them. -/
def dutyText (brightness : ℤ) : List Char → List ℤ → List Char
  | _, [] => []
  | pad, ramp :: ramps =>
      pad ++ formatInt (ramp * brightness / 255) ++ dutyText brightness [','] ramps

section Duty

variable {brightness : ℤ}

lemma length_scaled_le (h0 : 0 ≤ brightness) (h255 : brightness ≤ 255) {ramp : ℤ} (hr : 0 ≤ ramp)
    (h100 : ramp ≤ 100) : (formatInt (ramp * brightness / 255)).length ≤ 3 := by
  have hnonneg : 0 ≤ ramp * brightness / 255 :=
    Int.ediv_nonneg (Int.mul_nonneg hr h0) (by decide)
  have hle : ramp * brightness ≤ 100 * 255 := Int.mul_le_mul h100 h255 h0 (by decide)
  obtain ⟨m, hm⟩ := Int.eq_ofNat_of_zero_le hnonneg
  rw [hm]
  exact length_formatInt_nat_le (by decide) (by omega)

/-- **The buffer.**  Nothing is cut off, and there is room for it all. -/
lemma scaledDutyLoop_eq (h0 : 0 ≤ brightness) (h255 : brightness ≤ 255) {ramps : List ℤ}
    (hramps : ∀ ramp ∈ ramps, 0 ≤ ramp ∧ ramp ≤ 100) {pad : List Char} (hpad : pad.length ≤ 1)
    (buf : List Char) (hbuf : buf.length + 4 * ramps.length < 5 * rampSize) :
    scaledDutyLoop brightness pad buf ramps = some (buf ++ dutyText brightness pad ramps) := by
  induction ramps generalizing pad buf with
  | nil => rw [scaledDutyLoop, dutyText, List.append_nil]
  | cons ramp ramps ih =>
      obtain ⟨⟨hr, h100⟩, hramps⟩ := List.forall_mem_cons.mp hramps
      have hlen := length_scaled_le h0 h255 hr h100
      rw [List.length_cons] at hbuf
      have htake : (pad ++ formatInt (ramp * brightness / 255)).take 4 =
          pad ++ formatInt (ramp * brightness / 255) := by
        apply List.take_of_length_le
        rw [List.length_append]
        omega
      have hfits : (buf ++ (pad ++ formatInt (ramp * brightness / 255))).length + 4 * ramps.length <
          5 * rampSize := by
        rw [List.length_append, List.length_append]
        omega
      simp only [scaledDutyLoop, htake]
      rw [if_pos (Nat.lt_of_le_of_lt (Nat.le_add_right _ _) hfits), ih hramps (by decide) _ hfits,
        dutyText, List.append_assoc]

lemma getScaledDutyPcts_eq (h0 : 0 ≤ brightness) (h255 : brightness ≤ 255) :
    getScaledDutyPcts brightness = some (dutyText brightness [] brightnessRamp) :=
  scaledDutyLoop_eq h0 h255 (by decide) (by decide) [] (by decide)

end Duty

lemma channel_le (color : UInt32) (c : Channel) : channel color c ≤ 255 := by
  cases c with
  | red => exact Nat.and_le_right
  | green => exact Nat.and_le_right
  | blue => exact Nat.and_le_right

/-- The two ramps and the pause between them take the time that the light is to be on, but for the
milliseconds that do not divide by sixteen, and no longer. -/
theorem rampTimes_spec {onMS : ℤ} (hon : 0 < onMS) :
    0 ≤ (rampTimes onMS).1 ∧ (rampTimes onMS).1 ≤ rampStepDuration ∧ 0 ≤ (rampTimes onMS).2 ∧
      16 * (rampTimes onMS).1 + (rampTimes onMS).2 ≤ onMS ∧
      onMS < 16 * (rampTimes onMS).1 + (rampTimes onMS).2 + 16 := by
  have hramp : rampTimes onMS = if onMS < 800 then (onMS / 16, 0) else (50, onMS - 800) := rfl
  rw [hramp, rampStepDuration]
  split_ifs with h
  · dsimp only
    omega
  · dsimp only
    omega

lemma channel_eq (color : UInt32) : ∀ c, channel color c = match c with
    | .red => color.toNat / 2 ^ 16 % 2 ^ 8
    | .green => color.toNat / 2 ^ 8 % 2 ^ 8
    | .blue => color.toNat % 2 ^ 8
  | .red => by rw [channel, Nat.shiftRight_eq_div_pow]; exact Nat.and_two_pow_sub_one_eq_mod _ 8
  | .green => by rw [channel, Nat.shiftRight_eq_div_pow]; exact Nat.and_two_pow_sub_one_eq_mod _ 8
  | .blue => Nat.and_two_pow_sub_one_eq_mod _ 8

/-- **The brightness.**  A brightness that the user has applied scales each colour by itself, and is
used up. -/
theorem channel_applyBrightness (state : LightState) (c : Channel) :
    let brightness := state.color.toNat / 2 ^ 24
    channel (applyBrightness state).color c =
      if 0 < brightness ∧ brightness < 255 then channel state.color c * brightness / 255
      else channel state.color c := by
  intro brightness
  have hlt : state.color.toNat < 2 ^ 32 := state.color.toNat_lt
  have hbrightness : (state.color.toNat &&& 0xff000000) >>> 24 = brightness := by
    rw [Nat.shiftRight_and_distrib, Nat.shiftRight_eq_div_pow]
    exact (Nat.and_two_pow_sub_one_eq_mod _ 8).trans (Nat.mod_eq_of_lt (by omega))
  have hscaled : ∀ c, (if 0 < channel state.color c then channel state.color c * brightness / 0xff
      else channel state.color c) = channel state.color c * brightness / 255 := by
    intro c
    split_ifs with hpos
    · rfl
    · rw [Nat.eq_zero_of_not_pos hpos, Nat.zero_mul]
  rw [applyBrightness]
  simp only [hbrightness, hscaled]
  by_cases h : 0 < brightness ∧ brightness < 255
  · have hle : ∀ c, channel state.color c * brightness / 255 < 2 ^ 8 := by
      intro c
      have hmul := Nat.mul_le_mul (channel_le state.color c) (Nat.le_of_lt h.2)
      omega
    have hred := hle .red
    have hgreen := hle .green
    have hblue := hle .blue
    have hcolor : (UInt32.ofNat ((channel state.color .red * brightness / 255) <<< 16 +
        (channel state.color .green * brightness / 255) <<< 8 +
        channel state.color .blue * brightness / 255)).toNat =
          channel state.color .red * brightness / 255 * 2 ^ 16 +
            channel state.color .green * brightness / 255 * 2 ^ 8 +
            channel state.color .blue * brightness / 255 := by
      rw [Nat.shiftLeft_eq, Nat.shiftLeft_eq]
      exact UInt32.toNat_ofNat_of_lt' (show _ < 2 ^ 32 by omega)
    rw [if_pos h, if_pos h, channel_eq, hcolor]
    cases c with
    | red => dsimp only; omega
    | green => dsimp only; omega
    | blue => dsimp only; omega
  · rw [if_neg h, if_neg h]

/-! ## What the files show -/

/-- The text of a number in a file. -/
def text (n : ℤ) : List Char := formatInt n ++ ['\n']

/-- Where the colour begins in the table of the driver. -/
def Channel.startIdx : Channel → ℤ
  | .red => 0
  | .green => 8
  | .blue => 16

/-- The driver shows the light: it plays its pattern, or is steady in its colour. -/
def Shows (file : File → Option (List Char)) (state : LightState) : Prop :=
  if blinks state then
    file .rgbBlink = some (text 1) ∧ ∀ c,
      file (.startIdx c) = some (text c.startIdx) ∧
      file (.dutyPcts c) =
        some (dutyText (channel state.color c) [] brightnessRamp ++ ['\n']) ∧
      file (.pauseLo c) = some (text (flashMS state).2) ∧
      file (.pauseHi c) = some (text (rampTimes (flashMS state).1).2) ∧
      file (.rampStepMs c) = some (text (rampTimes (flashMS state).1).1)
  else
    file .rgbBlink = some (text 0) ∧
      (∀ c, file (.led c) = some (text (channel state.color c))) ∧
      ((∀ c, channel state.color c = 0) → ∀ c, file (.blink c) = some (text 0))

/-- What an output writes. -/
def Output.written : Output → Option (File × List Char)
  | .write file text => some (file, text)
  | .fault => none

/-- The files that make up what the LED shows, but for the one that starts the pattern. -/
def File.shape : File → Bool
  | .lcd | .buttons | .rgbBlink => false
  | _ => true

section Files

variable {state : LightState}

/-- The writes for one colour of a pattern. -/
lemma channelPattern_eq (c : Channel) (startIdx brightness : ℕ) (hb : brightness ≤ 255)
    (offMS pauseHi stepDuration : ℤ) :
    channelPattern c startIdx brightness offMS pauseHi stepDuration =
      [writeInt (.startIdx c) startIdx,
        writeStr (.dutyPcts c) (dutyText brightness [] brightnessRamp),
        writeInt (.pauseLo c) offMS, writeInt (.pauseHi c) pauseHi,
        writeInt (.rampStepMs c) stepDuration] := by
  rw [channelPattern, getScaledDutyPcts_eq (by omega) (by omega)]

/-- What one call of `set_speaker_light_locked` comes to: there is no fault, what the LED shows is
only written while the pattern is not played, and in the end the files show the light. -/
structure Sets (state : LightState) (out : List Output) : Prop where
  safe : .fault ∉ out
  guarded : ∀ v, Guarded .rgbBlink (text 0) (fun f => f.shape = true) v
    (out.filterMap Output.written)
  shows : Shows (lastWrite (out.filterMap Output.written)) state

lemma sets_setSpeakerLightLocked (state : LightState) :
    Sets state (setSpeakerLightLocked state) := by
  have hbyte := channel_le state.color
  rw [setSpeakerLightLocked]
  cases hblinks : blinks state with
  | true =>
      simp only [if_true, channelPattern_eq _ _ _ (hbyte _)]
      refine ⟨by simp [writeInt, writeStr], fun v => ?_, ?_⟩
      · simp [Guarded, writeInt, writeStr, Output.written, File.shape, text]
      · rw [Shows, hblinks, if_pos rfl]
        refine ⟨rfl, fun c => ?_⟩
        cases c with
        | red => exact ⟨rfl, rfl, rfl, rfl, rfl⟩
        | green => exact ⟨rfl, rfl, rfl, rfl, rfl⟩
        | blue => exact ⟨rfl, rfl, rfl, rfl, rfl⟩
  | false =>
      simp only [Bool.false_eq_true, if_false]
      by_cases hdark : channel state.color .red = 0 ∧ channel state.color .green = 0 ∧
        channel state.color .blue = 0
      · rw [if_pos hdark]
        refine ⟨by simp [writeInt], fun v => ?_, ?_⟩
        · simp [Guarded, writeInt, Output.written, File.shape, text]
        · rw [Shows, hblinks, if_neg Bool.false_ne_true]
          refine ⟨rfl, fun c => ?_, fun _ c => ?_⟩
          · cases c <;> rfl
          · cases c <;> rfl
      · rw [if_neg hdark]
        refine ⟨by simp [writeInt], fun v => ?_, ?_⟩
        · simp [Guarded, writeInt, Output.written, File.shape, text]
        · rw [Shows, hblinks, if_neg Bool.false_ne_true]
          refine ⟨rfl, fun c => ?_, fun hall => ?_⟩
          · cases c <;> rfl
          · exact absurd ⟨hall .red, hall .green, hall .blue⟩ hdark

/-- A file that shows what it shows after the last writes shows it after all. -/
lemma shows_append {ws ws' : List (File × List Char)} (h : Shows (lastWrite ws') state) :
    Shows (lastWrite (ws ++ ws')) state := by
  have hkeep : ∀ {f : File} {x : List Char}, lastWrite ws' f = some x →
      lastWrite (ws ++ ws') f = some x := by
    intro f x hx
    rw [lastWrite_append, hx]
    rfl
  rw [Shows] at h ⊢
  split_ifs at h ⊢
  · refine ⟨hkeep h.1, fun c => ?_⟩
    obtain ⟨hidx, hduty, hlo, hhi, hramp⟩ := h.2 c
    exact ⟨hkeep hidx, hkeep hduty, hkeep hlo, hkeep hhi, hkeep hramp⟩
  · exact ⟨hkeep h.1, fun c => hkeep (h.2.1 c), fun hall c => hkeep (h.2.2 hall c)⟩

/-- The files that what the LED shows does not depend on. -/
lemma shows_append_other {ws ws' : List (File × List Char)} (h : Shows (lastWrite ws) state)
    (hother : ∀ w ∈ ws', w.1 = .lcd ∨ w.1 = .buttons) : Shows (lastWrite (ws ++ ws')) state := by
  have hkeep : ∀ f : File, f ≠ .lcd → f ≠ .buttons → lastWrite (ws ++ ws') f = lastWrite ws f := by
    intro f hlcd hbuttons
    have hnone : lastWrite ws' f = none := by
      refine lastWrite_eq_none fun w hw heq => ?_
      rcases hother w hw with h | h
      · exact hlcd (heq.symm.trans h)
      · exact hbuttons (heq.symm.trans h)
    rw [lastWrite_append, hnone]
    rfl
  simpa [Shows, hkeep] using h

end Files

/-! ## Any calls -/

/-- The light is one of those that share the LED. -/
def Light.ofSpeaker : Light → Bool
  | .backlight | .buttons => false
  | _ => true

/-- What has been asked for last for a light. -/
def latest (light : Light) (es : List (Light × LightState)) : LightState :=
  (((es.filter (·.1 = light)).getLast?).map Prod.snd).getD dark

/-- What the LED is to show: the attention light if it is lit, else the notification light if it is,
else the battery light. -/
def requested (es : List (Light × LightState)) : LightState :=
  if isLit (latest .attention es) then latest .attention es
  else if isLit (applyBrightness (latest .notifications es)) then
    applyBrightness (latest .notifications es)
  else latest .battery es

lemma latest_append (light light' : Light) (state : LightState) (es : List (Light × LightState)) :
    latest light (es ++ [(light', state)]) = if light' = light then state else latest light es := by
  rw [latest, List.filter_append]
  split_ifs with h
  · rw [List.filter_cons_of_pos (by simpa using h), List.filter_nil, List.getLast?_concat]
    rfl
  · rw [List.filter_cons_of_neg (by simpa using h), List.filter_nil, List.append_nil]
    rfl

/-- The globals hold what has been asked for last. -/
lemma run_eq (es : List (Light × LightState)) :
    machine.run init es = ⟨latest .attention es, applyBrightness (latest .notifications es),
      latest .battery es⟩ := by
  induction es using List.reverseRecOn with
  | nil => rfl
  | append_singleton es e ih =>
      obtain ⟨light, state⟩ := e
      rw [Machine.run_append, ih]
      cases light <;> simp [machine, Machine.run, Machine.next, step, handleSpeakerLightLocked,
        latest_append]

/-- What a call outputs. -/
lemma step_output (es : List (Light × LightState)) (light : Light) (state : LightState) :
    (step (machine.run init es) (light, state)).2 =
      if light.ofSpeaker then setSpeakerLightLocked (requested (es ++ [(light, state)]))
      else [writeInt (if light = .backlight then .lcd else .buttons) (rgbToBrightness state)] := by
  rw [run_eq]
  cases light <;> simp [step, handleSpeakerLightLocked, State.shown, requested, latest_append,
    Light.ofSpeaker]

lemma requested_append_other {light : Light} (hlight : light.ofSpeaker = false)
    (es : List (Light × LightState)) (state : LightState) :
    requested (es ++ [(light, state)]) = requested es := by
  cases light <;> simp [requested, latest_append, Light.ofSpeaker] at hlight ⊢

/-- **The lights.**  After any calls, nothing has been written behind the end of a buffer, the shape
of what the LED shows has only been written while no pattern is played, and if one of the lights
that share the LED has been set then the files show the one that matters most of the latest that
have been asked for. -/
theorem lights_show (es : List (Light × LightState)) :
    let out := machine.outs init es
    let files := out.filterMap Output.written
    .fault ∉ out ∧
      Guarded .rgbBlink (text 0) (fun f => f.shape = true) none files ∧
      ((∃ e ∈ es, e.1.ofSpeaker = true) → Shows (lastWrite files) (requested es)) := by
  induction es using List.reverseRecOn with
  | nil => exact ⟨nofun, trivial, fun h => by simp at h⟩
  | append_singleton es e ih =>
      obtain ⟨light, state⟩ := e
      obtain ⟨hsafe, hguarded, hshows⟩ := ih
      have houts : machine.outs init (es ++ [(light, state)]) =
          machine.outs init es ++ (step (machine.run init es) (light, state)).2 := by
        rw [Machine.outs_append]
        exact congrArg _ (List.append_nil _)
      simp only [houts, step_output, List.filterMap_append, List.mem_append, not_or]
      cases hlight : light.ofSpeaker with
      | true =>
          obtain ⟨hsafe', hguarded', hshows'⟩ :=
            sets_setSpeakerLightLocked (requested (es ++ [(light, state)]))
          simp only [if_true]
          exact ⟨⟨hsafe, hsafe'⟩, guarded_append.mpr ⟨hguarded, hguarded' _⟩,
            fun _ => shows_append hshows'⟩
      | false =>
          have hfile : ∀ w ∈ [writeInt (if light = .backlight then .lcd else .buttons)
              (rgbToBrightness state)].filterMap Output.written, w.1 = .lcd ∨ w.1 = .buttons := by
            cases light <;> simp [writeInt, Output.written]
          simp only [Bool.false_eq_true, if_false]
          refine ⟨⟨hsafe, by simp [writeInt]⟩, guarded_append.mpr ⟨hguarded, ?_⟩, fun h => ?_⟩
          · refine guarded_of_forall_not fun w hw => ?_
            rcases hfile w hw with h | h
            · rw [h]
              exact Bool.false_ne_true
            · rw [h]
              exact Bool.false_ne_true
          · obtain ⟨e, he, hspeaker⟩ := h
            have hmem : e ∈ es := by
              refine he.resolve_right fun hlast => ?_
              obtain rfl := List.mem_singleton.mp hlast
              cases hlight.symm.trans hspeaker
            rw [requested_append_other hlight]
            exact shows_append_other (hshows ⟨e, hmem, hspeaker⟩) hfile

end Lights
end LocHal
