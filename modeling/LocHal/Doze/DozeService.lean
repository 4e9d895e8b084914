import LocHal.Lib.Machine
import Mathlib.Data.Int.Order.Basic
import Mathlib.Data.List.Chain
import Mathlib.Tactic.SplitIfs

/-!
# Gestures while the display is off (`doze/src/org/lineageos/settings/doze/DozeService.java`)

`DozeService` has two sensors listened to while the display is off, and wakes the ambient display
up when the device is picked up, or taken out of a pocket or waved at.  Each sensor hands its
registrations to an executor of one thread, and asks for one when the display goes on or off if its
gesture is enabled at that moment.  The service handles each event as one step; the threads of the
executors take theirs in between.

* `sensors_follow_iff`: the sensors that are listened to are those of the enabled gestures while the
  display is off, and none while it is on, exactly if no gesture is changed while the display is
  off.
* `pickup_pulses_apart`: the pulses of a pick-up are `MIN_PULSE_INTERVAL_MS` apart, if no event of
  the sensor is handled while a registration holds a clock that it has read and not yet stored.
* `pocket_pulses_eq`: a pulse of the other sensor is one of the latest two events and the gestures
  that are enabled, whatever the display did between them.
-/

namespace LocHal
namespace Doze

/-! ## Sensors -/

/-- The steps of the tasks of a sensor's executor. -/
inductive TaskStep where
  | registerListener
  | readClock
  | writeTimestamp
  | unregisterListener
deriving DecidableEq, Repr

/-- Whether the sensor is listened to after the step, if that is what the step is about. -/
def TaskStep.result : TaskStep → Option Bool
  | registerListener => some true
  | unregisterListener => some false
  | readClock | writeTimestamp => none

/-- A sensor and the executor of its registrations, with the steps that are still to come. -/
structure Listener where
  steps : List TaskStep := []
  listening : Bool := false
deriving DecidableEq, Repr

namespace Listener

/-- `submit`. -/
def submit (l : Listener) (task : List TaskStep) : Listener := { l with steps := l.steps ++ task }

/-- The thread of the executor takes one step. -/
def run (l : Listener) : Listener :=
  match l.steps with
  | [] => l
  | step :: steps => ⟨steps, step.result.getD l.listening⟩

/-- Whether the sensor is listened to once the executor has done all that it has been handed. -/
def wanted (l : Listener) : Bool :=
  l.steps.foldl (fun listening step => step.result.getD listening) l.listening

variable {l : Listener}

@[simp] lemma wanted_run : l.run.wanted = l.wanted := by
  rw [run]
  cases hsteps : l.steps with
  | nil => rfl
  | cons step steps =>
      simp only [wanted, hsteps]
      rfl

@[simp] lemma wanted_disable : (l.submit [.unregisterListener]).wanted = false := by
  rw [wanted, submit, List.foldl_append]
  rfl

lemma wanted_submit (task : List TaskStep) : (l.submit task).wanted =
    task.foldl (fun listening step => step.result.getD listening) l.wanted := by
  rw [wanted, submit, List.foldl_append, wanted]

end Listener

/-- `MIN_PULSE_INTERVAL_MS`. -/
def minPulseIntervalMs : ℤ := 2500

/-- `HANDWAVE_MAX_DELTA_NS`. -/
def handwaveMaxDeltaNs : ℤ := 1000 * 1000 * 1000

/-- `POCKET_MIN_DELTA_NS`. -/
def pocketMinDeltaNs : ℤ := 2000 * 1000 * 1000

/-- The settings that `Utils` reads. -/
structure Settings where
  isDozeEnabled : Bool
  isAlwaysOnEnabled : Bool
  isPickUpEnabled : Bool
  isHandwaveGestureEnabled : Bool
  isPocketGestureEnabled : Bool
deriving DecidableEq, Repr

namespace Settings

/-- One of the gestures of the other sensor. -/
def usesPocketSensor (settings : Settings) : Bool :=
  settings.isHandwaveGestureEnabled || settings.isPocketGestureEnabled

/-- `sensorsEnabled`. -/
def sensorsEnabled (settings : Settings) : Bool :=
  settings.isPickUpEnabled || settings.isHandwaveGestureEnabled || settings.isPocketGestureEnabled

lemma sensorsEnabled_eq (settings : Settings) :
    settings.sensorsEnabled = (settings.isPickUpEnabled || settings.usesPocketSensor) :=
  Bool.or_assoc ..

/-- The condition of `checkDozeService`. -/
def needsService (settings : Settings) : Bool :=
  settings.isDozeEnabled && !settings.isAlwaysOnEnabled && settings.sensorsEnabled

/-- `shouldPulse` of `PocketSensor`, with the time since `mInPocketTime`. -/
def shouldPulse (settings : Settings) (delta : ℤ) : Bool :=
  if settings.isHandwaveGestureEnabled && settings.isPocketGestureEnabled then true
  else if settings.isHandwaveGestureEnabled then delta < handwaveMaxDeltaNs
  else if settings.isPocketGestureEnabled then delta ≥ pocketMinDeltaNs
  else false

end Settings

/-- `PickupSensor`; `entryClock` is the clock that a task has read and is about to store. -/
structure PickupSensor extends Listener where
  entryClock : ℤ := 0
  mEntryTimestamp : ℤ := 0

namespace PickupSensor

/-- `enable`. -/
def enable (s : PickupSensor) : PickupSensor :=
  { s with toListener := s.submit [.registerListener, .readClock, .writeTimestamp] }

/-- `disable`. -/
def disable (s : PickupSensor) : PickupSensor :=
  { s with toListener := s.submit [.unregisterListener] }

/-- The executor takes one step. -/
def runTask (s : PickupSensor) (elapsedRealtime : ℤ) : PickupSensor :=
  match s.steps.head? with
  | some .readClock => { s with toListener := s.run, entryClock := elapsedRealtime }
  | some .writeTimestamp => { s with toListener := s.run, mEntryTimestamp := s.entryClock }
  | _ => { s with toListener := s.run }

/-- `onSensorChanged`, where the clock is read a second time after `ms`, and whether there is a
pulse. -/
def onSensorChanged (s : PickupSensor) (elapsedRealtime : ℤ) (ms : ℕ) (isOne : Bool) :
    PickupSensor × Bool :=
  if elapsedRealtime - s.mEntryTimestamp < minPulseIntervalMs then (s, false)
  else ({ s with mEntryTimestamp := elapsedRealtime + ms }, isOne)

end PickupSensor

/-- `PocketSensor`. -/
structure PocketSensor extends Listener where
  mSawNear : Bool := false
  mInPocketTime : ℤ := 0

namespace PocketSensor

/-- `enable`. -/
def enable (s : PocketSensor) : PocketSensor :=
  { s with toListener := s.submit [.registerListener] }

/-- `disable`. -/
def disable (s : PocketSensor) : PocketSensor :=
  { s with toListener := s.submit [.unregisterListener] }

/-- `onSensorChanged`, and whether there is a pulse. -/
def onSensorChanged (s : PocketSensor) (settings : Settings) (isNear : Bool) (timestamp : ℤ) :
    PocketSensor × Bool :=
  if s.mSawNear && !isNear then
    ({ s with mSawNear := isNear }, settings.shouldPulse (timestamp - s.mInPocketTime))
  else ({ s with mInPocketTime := timestamp, mSawNear := isNear }, false)

end PocketSensor

/-! ## The service -/

/-- A `DozeService` with what is around it: the settings, the display and the clock. -/
structure DozeService where
  settings : Settings
  displayOn : Bool
  elapsedRealtime : ℤ
  alive : Bool
  mPickupSensor : PickupSensor
  mPocketSensor : PocketSensor

/-- What happens to the service.  An event of a sensor may be on its way when the sensor is no
longer listened to. -/
inductive Event where
  | screenOn
  | screenOff
  | change (settings : Settings)
  | checkDozeService
  | pass (ms : ℕ)
  | runPickup
  | runPocket
  | pickupChanged (isOne : Bool) (ms : ℕ)
  | pocketChanged (isNear : Bool) (timestamp : ℤ)
deriving DecidableEq, Repr

/-- `launchDozePulse`, with the time of the event by the clock of its sensor. -/
inductive Pulse where
  | pickup (elapsedRealtime : ℤ)
  | pocket (timestamp : ℤ)
deriving DecidableEq, Repr

namespace DozeService

/-- `onCreate`. -/
def onCreate (settings : Settings) (displayOn : Bool) (elapsedRealtime : ℕ) : DozeService :=
  ⟨settings, displayOn, elapsedRealtime, true, {}, {}⟩

/-- `onDisplayOn`. -/
def onDisplayOn (d : DozeService) : DozeService :=
  let d := if d.settings.isPickUpEnabled then
      { d with mPickupSensor := d.mPickupSensor.disable } else d
  if d.settings.usesPocketSensor then { d with mPocketSensor := d.mPocketSensor.disable }
  else d

/-- `onDisplayOff`. -/
def onDisplayOff (d : DozeService) : DozeService :=
  let d := if d.settings.isPickUpEnabled then
      { d with mPickupSensor := d.mPickupSensor.enable } else d
  if d.settings.usesPocketSensor then { d with mPocketSensor := d.mPocketSensor.enable }
  else d

/-- `onDestroy`. -/
def onDestroy (d : DozeService) : DozeService :=
  { d with
    alive := false
    mPickupSensor := d.mPickupSensor.disable
    mPocketSensor := d.mPocketSensor.disable }

/-- `checkDozeService`.  A service that is running is left alone when it is started again, and one
that has been stopped stays so. -/
def checkDozeService (d : DozeService) : DozeService :=
  if d.settings.needsService then d
  else if d.alive then d.onDestroy
  else d

/-- One event. -/
def step (d : DozeService) : Event → DozeService × List Pulse
  | .screenOn =>
      let d := { d with displayOn := true }
      (if d.alive then d.onDisplayOn else d, [])
  | .screenOff =>
      let d := { d with displayOn := false }
      (if d.alive then d.onDisplayOff else d, [])
  | .change settings => ({ d with settings := settings }, [])
  | .checkDozeService => (d.checkDozeService, [])
  | .pass ms => ({ d with elapsedRealtime := d.elapsedRealtime + ms }, [])
  | .runPickup => ({ d with mPickupSensor := d.mPickupSensor.runTask d.elapsedRealtime }, [])
  | .runPocket => ({ d with mPocketSensor := { d.mPocketSensor with
      toListener := d.mPocketSensor.run } }, [])
  | .pickupChanged isOne ms =>
      let changed := d.mPickupSensor.onSensorChanged d.elapsedRealtime ms isOne
      let now := d.elapsedRealtime + ms
      ({ d with mPickupSensor := changed.1, elapsedRealtime := now },
        if changed.2 then [.pickup now] else [])
  | .pocketChanged isNear timestamp =>
      let changed := d.mPocketSensor.onSensorChanged d.settings isNear timestamp
      ({ d with mPocketSensor := changed.1 }, if changed.2 then [.pocket timestamp] else [])

/-- The service as a machine. -/
def machine : Machine DozeService Event Pulse := ⟨step⟩

/-! ## The sensors that are listened to -/

/-- Once its executor is idle, a sensor is listened to exactly if the service is alive, the display
is off and a gesture of the sensor is enabled. -/
structure Follows (d : DozeService) : Prop where
  pickup : d.mPickupSensor.wanted = (d.alive && !d.displayOn && d.settings.isPickUpEnabled)
  pocket : d.mPocketSensor.wanted = (d.alive && !d.displayOn && d.settings.usesPocketSensor)

/-- The event does not change which sensors have an enabled gesture while the display is off. -/
def Settled (d : DozeService) : Event → Prop
  | .change settings => d.alive = true → d.displayOn = false →
      settings.isPickUpEnabled = d.settings.isPickUpEnabled ∧
        settings.usesPocketSensor = d.settings.usesPocketSensor
  | _ => True

instance (d : DozeService) : DecidablePred (Settled d)
  | .change _ => inferInstanceAs (Decidable (_ → _ → _ ∧ _))
  | .screenOn | .screenOff | .checkDozeService | .pass _ | .runPickup | .runPocket
  | .pickupChanged _ _ | .pocketChanged _ _ => isTrue trivial

section Follows

variable {d : DozeService} {s : PickupSensor} {p : PocketSensor}

lemma wanted_enable_pickup : s.enable.wanted = true := Listener.wanted_submit _

lemma wanted_disable_pickup : s.disable.wanted = false := Listener.wanted_disable

lemma wanted_enable_pocket : p.enable.wanted = true := Listener.wanted_submit _

lemma wanted_disable_pocket : p.disable.wanted = false := Listener.wanted_disable

lemma wanted_runTask (elapsedRealtime : ℤ) : (s.runTask elapsedRealtime).wanted = s.wanted := by
  rw [PickupSensor.runTask]
  split
  · exact Listener.wanted_run
  · exact Listener.wanted_run
  · exact Listener.wanted_run

lemma wanted_pickupChanged (elapsedRealtime : ℤ) (ms : ℕ) (isOne : Bool) :
    (s.onSensorChanged elapsedRealtime ms isOne).1.wanted = s.wanted := by
  rw [PickupSensor.onSensorChanged]
  split_ifs <;> rfl

lemma wanted_pocketChanged (settings : Settings) (isNear : Bool) (timestamp : ℤ) :
    (p.onSensorChanged settings isNear timestamp).1.wanted = p.wanted := by
  rw [PocketSensor.onSensorChanged]
  split_ifs <;> rfl

lemma wanted_onDisplayOn :
    d.onDisplayOn.mPickupSensor.wanted =
        (!d.settings.isPickUpEnabled && d.mPickupSensor.wanted) ∧
      d.onDisplayOn.mPocketSensor.wanted =
        (!d.settings.usesPocketSensor && d.mPocketSensor.wanted) := by
  cases hpickup : d.settings.isPickUpEnabled <;> cases hpocket : d.settings.usesPocketSensor <;>
    simp [onDisplayOn, hpickup, hpocket, wanted_disable_pickup, wanted_disable_pocket]

lemma wanted_onDisplayOff :
    d.onDisplayOff.mPickupSensor.wanted =
        (d.settings.isPickUpEnabled || d.mPickupSensor.wanted) ∧
      d.onDisplayOff.mPocketSensor.wanted =
        (d.settings.usesPocketSensor || d.mPocketSensor.wanted) := by
  cases hpickup : d.settings.isPickUpEnabled <;> cases hpocket : d.settings.usesPocketSensor <;>
    simp [onDisplayOff, hpickup, hpocket, wanted_enable_pickup, wanted_enable_pocket]

lemma unchanged_onDisplayOn : d.onDisplayOn.settings = d.settings ∧
    d.onDisplayOn.displayOn = d.displayOn ∧ d.onDisplayOn.alive = d.alive := by
  cases hpickup : d.settings.isPickUpEnabled <;> cases hpocket : d.settings.usesPocketSensor <;>
    simp [onDisplayOn, hpickup, hpocket]

lemma unchanged_onDisplayOff : d.onDisplayOff.settings = d.settings ∧
    d.onDisplayOff.displayOn = d.displayOn ∧ d.onDisplayOff.alive = d.alive := by
  cases hpickup : d.settings.isPickUpEnabled <;> cases hpocket : d.settings.usesPocketSensor <;>
    simp [onDisplayOff, hpickup, hpocket]

/-- A sensor without a gesture is not to be listened to. -/
def Spared (d : DozeService) : Prop :=
  (d.settings.isPickUpEnabled = false → d.mPickupSensor.wanted = false) ∧
    (d.settings.usesPocketSensor = false → d.mPocketSensor.wanted = false)

lemma Follows.spared (h : Follows d) (displayOn : Bool) :
    Spared { d with displayOn := displayOn } := by
  constructor
  · intro hgesture
    exact h.pickup.trans (by rw [hgesture, Bool.and_false])
  · intro hgesture
    exact h.pocket.trans (by rw [hgesture, Bool.and_false])

lemma follows_onDisplayOn (hspared : Spared d) (hdisplay : d.displayOn = true) :
    Follows d.onDisplayOn := by
  obtain ⟨hpickup, hpocket⟩ := wanted_onDisplayOn (d := d)
  obtain ⟨hsettings, hdisplay', -⟩ := unchanged_onDisplayOn (d := d)
  constructor
  · rw [hpickup, hdisplay', hdisplay]
    cases hgesture : d.settings.isPickUpEnabled with
    | false => simp [hspared.1 hgesture]
    | true => simp
  · rw [hpocket, hdisplay', hdisplay]
    cases hgesture : d.settings.usesPocketSensor with
    | false => simp [hspared.2 hgesture]
    | true => simp

lemma follows_onDisplayOff (hspared : Spared d) (hdisplay : d.displayOn = false)
    (halive : d.alive = true) : Follows d.onDisplayOff := by
  obtain ⟨hpickup, hpocket⟩ := wanted_onDisplayOff (d := d)
  obtain ⟨hsettings, hdisplay', halive'⟩ := unchanged_onDisplayOff (d := d)
  constructor
  · rw [hpickup, hsettings, hdisplay', hdisplay, halive', halive]
    cases hgesture : d.settings.isPickUpEnabled with
    | false => simp [hspared.1 hgesture]
    | true => simp
  · rw [hpocket, hsettings, hdisplay', hdisplay, halive', halive]
    cases hgesture : d.settings.usesPocketSensor with
    | false => simp [hspared.2 hgesture]
    | true => simp

/-- A service that has been stopped listens to nothing, whatever is around it. -/
lemma Follows.of_stopped (h : Follows d) (halive : d.alive = false) {d' : DozeService}
    (halive' : d'.alive = false) (hpickup : d'.mPickupSensor = d.mPickupSensor)
    (hpocket : d'.mPocketSensor = d.mPocketSensor) : Follows d' := by
  constructor
  · rw [hpickup, h.pickup, halive, halive']
    simp only [Bool.false_and]
  · rw [hpocket, h.pocket, halive, halive']
    simp only [Bool.false_and]

/-- **One event.** -/
lemma follows_step_iff (h : Follows d) (e : Event) : Follows (d.step e).1 ↔ Settled d e := by
  cases e with
  | screenOn =>
      refine iff_of_true ?_ trivial
      cases halive : d.alive with
      | false =>
          have hnext : (d.step .screenOn).1 = { d with displayOn := true } :=
            if_neg (by rw [halive]; exact Bool.false_ne_true)
          rw [hnext]
          exact h.of_stopped halive halive rfl rfl
      | true =>
          have hnext : (d.step .screenOn).1 = onDisplayOn { d with displayOn := true } :=
            if_pos halive
          rw [hnext]
          exact follows_onDisplayOn (h.spared true) rfl
  | screenOff =>
      refine iff_of_true ?_ trivial
      cases halive : d.alive with
      | false =>
          have hnext : (d.step .screenOff).1 = { d with displayOn := false } :=
            if_neg (by rw [halive]; exact Bool.false_ne_true)
          rw [hnext]
          exact h.of_stopped halive halive rfl rfl
      | true =>
          have hnext : (d.step .screenOff).1 = onDisplayOff { d with displayOn := false } :=
            if_pos halive
          rw [hnext]
          exact follows_onDisplayOff (h.spared false) rfl halive
  | change settings =>
      rw [Settled]
      constructor
      · rintro ⟨hpickup, hpocket⟩ halive hdisplay
        have hpickup' := hpickup.symm.trans h.pickup
        have hpocket' := hpocket.symm.trans h.pocket
        simp only [step, halive, hdisplay, Bool.not_false, Bool.true_and] at hpickup' hpocket'
        exact ⟨hpickup', hpocket'⟩
      · intro hsame
        cases halive : d.alive with
        | false => exact h.of_stopped halive halive rfl rfl
        | true =>
            cases hdisplay : d.displayOn with
            | true =>
                constructor
                · exact h.pickup.trans (by simp [step, hdisplay])
                · exact h.pocket.trans (by simp [step, hdisplay])
            | false =>
                obtain ⟨hpickup, hpocket⟩ := hsame halive hdisplay
                constructor
                · exact h.pickup.trans (by rw [← hpickup]; rfl)
                · exact h.pocket.trans (by rw [← hpocket]; rfl)
  | checkDozeService =>
      refine iff_of_true ?_ trivial
      simp only [step, checkDozeService]
      split_ifs
      · exact h
      · exact ⟨wanted_disable_pickup, wanted_disable_pocket⟩
      · exact h
  | pass ms => exact iff_of_true ⟨h.pickup, h.pocket⟩ trivial
  | runPickup => exact iff_of_true ⟨(wanted_runTask _).trans h.pickup, h.pocket⟩ trivial
  | runPocket => exact iff_of_true ⟨h.pickup, Listener.wanted_run.trans h.pocket⟩ trivial
  | pickupChanged isOne ms =>
      exact iff_of_true ⟨(wanted_pickupChanged _ _ _).trans h.pickup, h.pocket⟩ trivial
  | pocketChanged isNear timestamp =>
      exact iff_of_true ⟨h.pickup, (wanted_pocketChanged _ _ _).trans h.pocket⟩ trivial

/-- **The sensors follow the display.**  In every run of a service, whatever the threads of the
executors do when, the sensors that are listened to, or will be once the executors are idle, are
those of the enabled gestures while the display is off and none while it is on, exactly if the
service is not created with a gesture while the display is off, and which sensors have a gesture is
not changed while the display is off. -/
theorem sensors_follow_iff (settings : Settings) (displayOn : Bool) (elapsedRealtime : ℕ)
    (es : List Event) :
    machine.Always Follows (onCreate settings displayOn elapsedRealtime) es ↔
      (displayOn = true ∨ settings.sensorsEnabled = false) ∧
        machine.Steps Settled (onCreate settings displayOn elapsedRealtime) es := by
  have hcreate : Follows (onCreate settings displayOn elapsedRealtime) ↔
      displayOn = true ∨ settings.sensorsEnabled = false := by
    rw [Settings.sensorsEnabled_eq, Bool.or_eq_false_iff]
    constructor
    · rintro ⟨hpickup, hpocket⟩
      cases displayOn with
      | false => exact .inr ⟨hpickup.symm, hpocket.symm⟩
      | true => exact .inl rfl
    · rintro (rfl | ⟨hpickup, hpocket⟩)
      · exact ⟨rfl, rfl⟩
      · cases displayOn with
        | false => exact ⟨hpickup.symm, hpocket.symm⟩
        | true => exact ⟨rfl, rfl⟩
  have hstep : ∀ d e, Follows d → (Follows (machine.next d e) ↔ Settled d e) :=
    fun d e h => follows_step_iff h e
  rw [← hcreate]
  constructor
  · intro h
    exact ⟨h.head, (Machine.always_iff_steps hstep h.head).mp h⟩
  · rintro ⟨h0, h⟩
    exact (Machine.always_iff_steps hstep h0).mpr h

end Follows

/-! ## Picking up -/

/-- No event is handled while a task of the executor holds a clock that it has not stored. -/
def Undisturbed (d : DozeService) : Event → Prop
  | .pickupChanged _ _ => d.mPickupSensor.steps.head? ≠ some .writeTimestamp
  | _ => True

instance (d : DozeService) : DecidablePred (Undisturbed d)
  | .pickupChanged _ _ => inferInstanceAs (Decidable (_ ≠ _))
  | .screenOn | .screenOff | .change _ | .checkDozeService | .pass _ | .runPickup | .runPocket
  | .pocketChanged _ _ => isTrue trivial

end DozeService

/-- The time of a pulse of the pick-up sensor. -/
def Pulse.pickupTime : Pulse → Option ℤ
  | pickup elapsedRealtime => some elapsedRealtime
  | pocket _ => none

namespace PickupSensor

/-- A clock is stored right after it has been read, and is not behind the time that it replaces. -/
structure Timed (s : PickupSensor) (elapsedRealtime : ℤ) : Prop where
  entry_le : s.mEntryTimestamp ≤ elapsedRealtime
  reads : s.steps.IsChain fun x y => y = .writeTimestamp → x = .readClock
  clock : s.steps.head? = some .writeTimestamp →
    s.mEntryTimestamp ≤ s.entryClock ∧ s.entryClock ≤ elapsedRealtime

section Timed

variable {s : PickupSensor} {now : ℤ}

lemma Timed.later (h : s.Timed now) (ms : ℕ) : s.Timed (now + ms) := by
  have hle : now ≤ now + ms := Int.le_add_of_nonneg_right (Int.natCast_nonneg ms)
  exact ⟨h.entry_le.trans hle, h.reads, fun hhead =>
    ⟨(h.clock hhead).1, (h.clock hhead).2.trans hle⟩⟩

lemma Timed.submit (h : s.Timed now) {step : TaskStep} {task : List TaskStep}
    (htask : (step :: task).IsChain fun x y => y = .writeTimestamp → x = .readClock)
    (hstep : step ≠ .writeTimestamp) :
    Timed { s with toListener := s.submit (step :: task) } now where
  entry_le := h.entry_le
  reads := by
    refine List.isChain_append.mpr ⟨h.reads, htask, ?_⟩
    rintro x - y hy rfl
    exact absurd (Option.some.inj hy) hstep
  clock hhead := by
    apply h.clock
    cases hsteps : s.steps with
    | nil =>
        rw [Listener.submit, hsteps] at hhead
        exact absurd (Option.some.inj hhead) hstep
    | cons first rest =>
        rw [Listener.submit, hsteps] at hhead
        exact hhead

lemma Timed.enable (h : s.Timed now) : s.enable.Timed now :=
  h.submit (by decide) (by decide)

lemma Timed.disable (h : s.Timed now) : s.disable.Timed now :=
  h.submit (by decide) (by decide)

/-- Nothing but reading the clock comes right before storing it. -/
lemma Timed.not_write {step : TaskStep} {rest : List TaskStep}
    (h : (step :: rest).IsChain fun x y => y = .writeTimestamp → x = .readClock)
    (hstep : step ≠ .readClock) : rest.head? ≠ some .writeTimestamp := by
  intro hhead
  cases rest with
  | nil => cases hhead
  | cons next rest => exact hstep ((List.isChain_cons_cons.mp h).1 (Option.some.inj hhead))

lemma Timed.runTask (h : s.Timed now) : (s.runTask now).Timed now ∧
    s.mEntryTimestamp ≤ (s.runTask now).mEntryTimestamp := by
  obtain ⟨⟨steps, listening⟩, entryClock, mEntryTimestamp⟩ := s
  obtain ⟨hentry, hreads, hclock⟩ := h
  cases steps with
  | nil => exact ⟨⟨hentry, hreads, hclock⟩, le_rfl⟩
  | cons step rest =>
      have hrest := hreads.tail
      cases step with
      | registerListener =>
          have hnot := Timed.not_write hreads (by decide)
          exact ⟨⟨hentry, hrest, fun hhead => absurd hhead hnot⟩, le_rfl⟩
      | readClock => exact ⟨⟨hentry, hrest, fun _ => ⟨hentry, le_rfl⟩⟩, le_rfl⟩
      | writeTimestamp =>
          have hnot := Timed.not_write hreads (by decide)
          obtain ⟨hle, hnow⟩ := hclock rfl
          exact ⟨⟨hnow, hrest, fun hhead => absurd hhead hnot⟩, hle⟩
      | unregisterListener =>
          have hnot := Timed.not_write hreads (by decide)
          exact ⟨⟨hentry, hrest, fun hhead => absurd hhead hnot⟩, le_rfl⟩

end Timed

end PickupSensor

namespace DozeService

section Pickup

variable {d : DozeService}

/-- The pick-up sensor is in time. -/
def Timed (d : DozeService) : Prop := d.mPickupSensor.Timed d.elapsedRealtime

lemma timed_onDisplayOn (h : Timed d) : Timed d.onDisplayOn ∧
    d.onDisplayOn.mPickupSensor.mEntryTimestamp = d.mPickupSensor.mEntryTimestamp := by
  simp only [onDisplayOn]
  split_ifs
  · exact ⟨h.disable, rfl⟩
  · exact ⟨h.disable, rfl⟩
  · exact ⟨h, rfl⟩
  · exact ⟨h, rfl⟩

lemma timed_onDisplayOff (h : Timed d) : Timed d.onDisplayOff ∧
    d.onDisplayOff.mPickupSensor.mEntryTimestamp = d.mPickupSensor.mEntryTimestamp := by
  simp only [onDisplayOff]
  split_ifs
  · exact ⟨h.enable, rfl⟩
  · exact ⟨h.enable, rfl⟩
  · exact ⟨h, rfl⟩
  · exact ⟨h, rfl⟩

/-- What one event comes to: the time before which there is no pulse does not go back, and a pulse
is not before it and becomes the next one. -/
lemma timed_step (h : Timed d) {e : Event} (hundisturbed : Undisturbed d e) :
    Timed (d.step e).1 ∧
      d.mPickupSensor.mEntryTimestamp ≤ (d.step e).1.mPickupSensor.mEntryTimestamp ∧
      ∀ t ∈ (d.step e).2.filterMap Pulse.pickupTime,
        (d.step e).2.filterMap Pulse.pickupTime = [t] ∧
        d.mPickupSensor.mEntryTimestamp + minPulseIntervalMs ≤ t ∧
          t ≤ (d.step e).1.mPickupSensor.mEntryTimestamp := by
  have hsilent : ∀ P : ℤ → Prop, ∀ t ∈ ([] : List Pulse).filterMap Pulse.pickupTime, P t :=
    fun _ t ht => absurd ht List.not_mem_nil
  cases e with
  | screenOn =>
      simp only [step]
      split_ifs
      · obtain ⟨htimed, hentry⟩ := timed_onDisplayOn (d := { d with displayOn := true }) h
        exact ⟨htimed, hentry.ge, hsilent _⟩
      · exact ⟨h, le_rfl, hsilent _⟩
  | screenOff =>
      simp only [step]
      split_ifs
      · obtain ⟨htimed, hentry⟩ := timed_onDisplayOff (d := { d with displayOn := false }) h
        exact ⟨htimed, hentry.ge, hsilent _⟩
      · exact ⟨h, le_rfl, hsilent _⟩
  | change settings => exact ⟨h, le_rfl, hsilent _⟩
  | checkDozeService =>
      simp only [step, checkDozeService]
      split_ifs
      · exact ⟨h, le_rfl, hsilent _⟩
      · exact ⟨h.disable, le_rfl, hsilent _⟩
      · exact ⟨h, le_rfl, hsilent _⟩
  | pass ms => exact ⟨h.later ms, le_rfl, hsilent _⟩
  | runPickup => exact ⟨h.runTask.1, h.runTask.2, hsilent _⟩
  | runPocket => exact ⟨h, le_rfl, hsilent _⟩
  | pickupChanged isOne ms =>
      by_cases hearly : d.elapsedRealtime - d.mPickupSensor.mEntryTimestamp < minPulseIntervalMs
      · have hchanged : d.mPickupSensor.onSensorChanged d.elapsedRealtime ms isOne =
            (d.mPickupSensor, false) := if_pos hearly
        simp only [step, hchanged]
        exact ⟨h.later ms, le_rfl, hsilent _⟩
      · have hchanged : d.mPickupSensor.onSensorChanged d.elapsedRealtime ms isOne =
            ({ d.mPickupSensor with mEntryTimestamp := d.elapsedRealtime + ms }, isOne) :=
          if_neg hearly
        have hlate : d.mPickupSensor.mEntryTimestamp + minPulseIntervalMs ≤
            d.elapsedRealtime + ms := by omega
        simp only [step, hchanged]
        refine ⟨⟨le_rfl, h.reads, fun hhead => absurd hhead hundisturbed⟩, ?_, fun t ht => ?_⟩
        · rw [minPulseIntervalMs] at hlate
          omega
        · cases isOne with
          | false => exact absurd ht List.not_mem_nil
          | true =>
              obtain rfl : t = d.elapsedRealtime + ms := List.mem_singleton.mp ht
              exact ⟨rfl, hlate, le_rfl⟩
  | pocketChanged isNear timestamp =>
      refine ⟨h, le_rfl, fun t ht => ?_⟩
      simp only [step] at ht
      split_ifs at ht
      · cases ht
      · cases ht

/-- From a state in time on, no pulse comes too early after the time that the sensor has stored, or
after the pulse before. -/
lemma isChain_pulses (h : Timed d) {es : List Event} (hs : machine.Steps Undisturbed d es) :
    (∀ t ∈ ((machine.outs d es).filterMap Pulse.pickupTime).head?,
        d.mPickupSensor.mEntryTimestamp + minPulseIntervalMs ≤ t) ∧
      ((machine.outs d es).filterMap Pulse.pickupTime).IsChain fun t t' =>
        t + minPulseIntervalMs ≤ t' := by
  induction es generalizing d with
  | nil => exact ⟨fun t ht => absurd ht (Option.not_mem_none t), List.isChain_nil⟩
  | cons e es ih =>
      obtain ⟨htimed, hentry, hpulse⟩ := timed_step h hs.1
      obtain ⟨hhead, hchain⟩ := ih htimed hs.2
      rw [Machine.outs_cons, List.filterMap_append]
      cases hnow : (machine.emit d e).filterMap Pulse.pickupTime with
      | nil =>
          refine ⟨fun t ht => ?_, hchain⟩
          have hlater := hhead t ht
          exact le_trans (by omega) hlater
      | cons t ts =>
          have hmem : t ∈ (machine.emit d e).filterMap Pulse.pickupTime := by
            rw [hnow]
            exact List.mem_cons_self
          obtain ⟨hone, hearliest, hstored⟩ := hpulse t hmem
          obtain rfl : ts = [] := (List.cons.inj (hnow.symm.trans hone)).2
          refine ⟨fun t' ht' => ?_, List.isChain_cons.mpr ⟨fun t' ht' => ?_, hchain⟩⟩
          · obtain rfl : t = t' := Option.some.inj ht'
            exact hearliest
          · have hlater := hhead t' ht'
            exact le_trans (by omega) hlater

/-- **Pulses of a pick-up.**  In every run of a service in which no event of the sensor is handled
between the two halves of the assignment in a task, the pulses are `MIN_PULSE_INTERVAL_MS` apart. -/
theorem pickup_pulses_apart (settings : Settings) (displayOn : Bool) (elapsedRealtime : ℕ)
    (es : List Event)
    (h : machine.Steps Undisturbed (onCreate settings displayOn elapsedRealtime) es) :
    ((machine.outs (onCreate settings displayOn elapsedRealtime) es).filterMap
      Pulse.pickupTime).IsChain fun t t' => t + minPulseIntervalMs ≤ t' := by
  have htimed : Timed (onCreate settings displayOn elapsedRealtime) :=
    ⟨Int.natCast_nonneg elapsedRealtime, List.isChain_nil, fun hhead => by cases hhead⟩
  exact (isChain_pulses htimed h).2

/-- A device that is picked up twice, and shaken in between. -/
def pickedUpTwice : List Event :=
  [.screenOff, .runPickup, .runPickup, .runPickup, .pass 2600, .pickupChanged true 3, .pass 40,
    .pickupChanged true 0, .pass 2500, .pickupChanged true 1]

theorem pickup_pulses_apart_pickedUpTwice :
    ((machine.outs (onCreate ⟨true, false, true, false, false⟩ true 7000) pickedUpTwice).filterMap
      Pulse.pickupTime).IsChain fun t t' => t + minPulseIntervalMs ≤ t' :=
  pickup_pulses_apart _ _ _ _ (by decide)

end Pickup

end DozeService

/-! ## Waving, and taking out of a pocket -/

/-- The time of a pulse of the other sensor. -/
def Pulse.pocketTime : Pulse → Option ℤ
  | pickup _ => none
  | pocket timestamp => some timestamp

/-- The settings that an event changes to. -/
def Event.settings? : Event → Option Settings
  | change settings => some settings
  | _ => none

/-- The time of an event of the other sensor at which something is near, or that nothing is. -/
def Event.near? : Event → Option (Option ℤ)
  | pocketChanged isNear timestamp => some (if isNear then some timestamp else none)
  | _ => none

/-- What an event is a pulse at, after a history, newest first: something goes away that was near at
the latest event of the sensor before, and the time in between fits the gestures. -/
def pocketTold (created : Settings) (history : List Event) : Event → List ℤ
  | .pocketChanged false timestamp =>
      match (history.findSome? Event.near?).join with
      | some inPocketTime =>
          if ((history.findSome? Event.settings?).getD created).shouldPulse
            (timestamp - inPocketTime) then [timestamp] else []
      | none => []
  | _ => []

namespace DozeService

section Pocket

variable (created : Settings) (displayOn : Bool) (elapsedRealtime : ℕ) (history : List Event)

/-- When something came near, if it was near at the latest event. -/
def nearSince (d : DozeService) : Option ℤ :=
  if d.mPocketSensor.mSawNear then some d.mPocketSensor.mInPocketTime else none

/-- The service after a history, newest first. -/
def after : DozeService := machine.run (onCreate created displayOn elapsedRealtime) history.reverse

lemma settings_after : (after created displayOn elapsedRealtime history).settings =
    (history.findSome? Event.settings?).getD created := by
  have hsets : ∀ d e, (machine.next d e).settings = (Event.settings? e).getD d.settings := by
    intro d e
    cases e with
    | screenOn =>
        refine (apply_ite DozeService.settings _ _ _).trans ?_
        rw [unchanged_onDisplayOn.1]
        exact ite_self _
    | screenOff =>
        refine (apply_ite DozeService.settings _ _ _).trans ?_
        rw [unchanged_onDisplayOff.1]
        exact ite_self _
    | checkDozeService =>
        refine (apply_ite DozeService.settings _ _ _).trans ?_
        rw [apply_ite DozeService.settings]
        exact (congrArg _ (ite_self _)).trans (ite_self _)
    | _ => rfl
  exact Machine.run_latest DozeService.settings hsets
    (onCreate created displayOn elapsedRealtime) history

lemma nearSince_onDisplayOn (d : DozeService) : d.onDisplayOn.nearSince = d.nearSince := by
  rw [onDisplayOn]
  split_ifs <;> rfl

lemma nearSince_onDisplayOff (d : DozeService) : d.onDisplayOff.nearSince = d.nearSince := by
  rw [onDisplayOff]
  split_ifs <;> rfl

lemma nearSince_after : (after created displayOn elapsedRealtime history).nearSince =
    (history.findSome? Event.near?).join := by
  have hsets : ∀ d e, (machine.next d e).nearSince = (Event.near? e).getD d.nearSince := by
    intro d e
    cases e with
    | screenOn =>
        refine (apply_ite nearSince _ _ _).trans ?_
        rw [nearSince_onDisplayOn]
        exact ite_self _
    | screenOff =>
        refine (apply_ite nearSince _ _ _).trans ?_
        rw [nearSince_onDisplayOff]
        exact ite_self _
    | checkDozeService =>
        refine (apply_ite nearSince _ _ _).trans ?_
        rw [apply_ite nearSince]
        exact (congrArg _ (ite_self _)).trans (ite_self _)
    | pocketChanged isNear timestamp =>
        -- a pulse leaves nothing near; otherwise the event itself is what is known
        cases hsaw : d.mPocketSensor.mSawNear <;> cases isNear <;>
          simp [machine, Machine.next, step, PocketSensor.onSensorChanged, nearSince, Event.near?,
            hsaw]
    | _ => rfl
  have hlatest := Machine.run_latest nearSince hsets
    (onCreate created displayOn elapsedRealtime) history
  rw [after, hlatest]
  cases history.findSome? Event.near? <;> rfl

/-- What one event is a pulse at. -/
lemma emit_after (e : Event) :
    (machine.emit (after created displayOn elapsedRealtime history) e).filterMap Pulse.pocketTime =
      pocketTold created history e := by
  cases e with
  | pickupChanged isOne ms =>
      refine (congrArg (List.filterMap _) (rfl : _ = ite _ _ _)).trans ?_
      split_ifs <;> rfl
  | pocketChanged isNear timestamp =>
      cases isNear with
      | true =>
          simp [machine, Machine.emit, step, PocketSensor.onSensorChanged, pocketTold]
      | false =>
          have hnear := nearSince_after created displayOn elapsedRealtime history
          rw [pocketTold, ← hnear, ← settings_after created displayOn elapsedRealtime history]
          cases hsaw : (after created displayOn elapsedRealtime history).mPocketSensor.mSawNear with
          | false =>
              simp [machine, Machine.emit, step, PocketSensor.onSensorChanged, nearSince, hsaw]
          | true =>
              simp only [machine, Machine.emit, step, PocketSensor.onSensorChanged, nearSince, hsaw,
                Bool.not_false, Bool.and_self, if_true]
              split_ifs <;> rfl
  | _ => rfl

/-- **Pulses of the other sensor.**  In every run of a service, whatever its display, its executors
and its other sensor do, an event is a pulse exactly if something goes away that was near at the
sensor's latest event before, and the time since fits the gestures that are enabled. -/
theorem pocket_pulses_eq (es : List Event) :
    (machine.outs (onCreate created displayOn elapsedRealtime) es).filterMap Pulse.pocketTime =
      Machine.overHistory (pocketTold created) [] es :=
  Machine.filterMap_outs (emit_after created displayOn elapsedRealtime) [] es

end Pocket

end DozeService
end Doze
end LocHal
