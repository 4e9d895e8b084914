import LocHal.Lib.Machine
import Mathlib.Data.Int.Notation
import Mathlib.Logic.Function.Basic

/-!
# Display modes of two kinds (`lineagehw/livedisplay/MixedDisplayModes.cpp`)

A mode with an id above 600 is a sysfs mode: it is on while its node says so.  The others are modes
of the display controller, which always shows one of them.  `setDisplayMode` leaves the one mode
before it enters the other, in several writes any of which may fail, and records a default in two
places, a file of its own and the controller's default, from which the next boot starts.

`always_settled_iff` says for which runs of calls and boots the display shows the mode that is
active, with all nodes of the other modes off, and the two records agree.  The controller and the
files are outside the repository: each write succeeds or fails as the event says, and a write that
fails leaves everything as it is.
-/

namespace LocHal

/-- The nodes of `kSysfsModeMap`. -/
inductive SysfsNode where
  | srgb
  | dciP3
deriving DecidableEq, Repr

/-- `kSysfsModeMap`. -/
def kSysfsModeMap : ℤ → Option SysfsNode
  | 601 => some .srgb
  | 602 => some .dciP3
  | _ => none

/-- `IsSysfsMode`. -/
def isSysfsMode (modeId : ℤ) : Bool := modeId > 600

/-- `MixedDisplayModes` with the nodes that are on, the mode that the controller shows and its
default, and the two files, which read as -1 when they are not there. -/
structure MixedDisplayModes where
  activeModeId : ℤ
  node : SysfsNode → Bool
  display : ℤ
  defaultDisplay : ℤ
  localModeId : ℤ
  initialModeId : ℤ

namespace MixedDisplayModes

/-- What becomes of the writes of a call, and whether `getDisplayModeById` finds the mode. -/
structure Answers where
  known : Bool
  turnsOff : Bool
  turnsOn : Bool
  writesLocal : Bool
  setsDefault : Bool
deriving DecidableEq, Repr

/-- A call, or a start of the device with the controller's default mode as
`getDefaultDisplayModeIdQDCM` gives it. -/
inductive Event where
  | setDisplayMode (modeId : ℤ) (makeDefault : Bool) (answers : Answers)
  | boot (qdcm : ℤ) (turnsOn : Bool)
deriving DecidableEq, Repr

/-- `setModeState`, with the answer to the write. -/
def setModeState (s : MixedDisplayModes) (modeId : ℤ) (on answer : Bool) :
    MixedDisplayModes × Bool :=
  if isSysfsMode modeId then
    match kSysfsModeMap modeId with
    | none => (s, false)
    | some n =>
        if answer then ({ s with node := Function.update s.node n on }, true) else (s, false)
  else if on then
    if answer then ({ s with display := modeId }, true) else (s, false)
  else if s.initialModeId < 0 then (s, false)
  else if s.initialModeId = modeId then (s, true)
  else if answer then ({ s with display := s.initialModeId }, true)
  else (s, false)

/-- The last part of `setDisplayMode`, for a mode that is now active. -/
def makeDefault (s : MixedDisplayModes) (modeId : ℤ) (answers : Answers) :
    MixedDisplayModes × Bool :=
  if !answers.writesLocal then (s, false)
  else
    let s := { s with localModeId := modeId }
    let modeId := if isSysfsMode modeId then s.initialModeId else modeId
    if modeId < 0 then (s, false)
    else if answers.setsDefault then ({ s with defaultDisplay := modeId }, true)
    else (s, false)

/-- `setDisplayMode`. -/
def setDisplayMode (s : MixedDisplayModes) (modeId : ℤ) (makesDefault : Bool) (answers : Answers) :
    MixedDisplayModes × Bool :=
  if s.activeModeId ≥ 0 && s.activeModeId == modeId then (s, true)
  else if !answers.known then (s, false)
  else
    let off :=
      if isSysfsMode s.activeModeId || isSysfsMode modeId then
        s.setModeState s.activeModeId false answers.turnsOff
      else (s, true)
    if !off.2 then (off.1, false)
    else
      let on := off.1.setModeState modeId true answers.turnsOn
      if !on.2 then (on.1, false)
      else
        let s := { on.1 with activeModeId := modeId }
        if makesDefault then s.makeDefault modeId answers else (s, true)

/-- A start of the device, in which all nodes are off, and the constructor. -/
def boot (s : MixedDisplayModes) (qdcm : ℤ) (turnsOn : Bool) : MixedDisplayModes :=
  let s := { s with node := fun _ => false, display := s.defaultDisplay }
  -- `saveInitialDisplayMode`
  let s := if s.initialModeId < 0 then { s with initialModeId := max 0 qdcm } else s
  -- `getDefaultDisplayModeId`
  let s := { s with activeModeId := if s.localModeId ≥ 0 then s.localModeId else qdcm }
  if isSysfsMode s.activeModeId then (s.setModeState s.activeModeId true turnsOn).1 else s

/-- Calls and boots as a machine, with the results of the calls. -/
def machine : Machine MixedDisplayModes Event Bool where
  step s
    | .setDisplayMode modeId makeDefault answers =>
        let called := s.setDisplayMode modeId makeDefault answers
        (called.1, [called.2])
    | .boot qdcm turnsOn => (s.boot qdcm turnsOn, [])

/-! ## What the display shows -/

/-- What the controller has to show while a mode is active. -/
def shownFor (s : MixedDisplayModes) (modeId : ℤ) : ℤ :=
  if isSysfsMode modeId then s.initialModeId else modeId

/-- The display shows the active mode, and the default that has been recorded is the controller's
default too. -/
structure Settled (s : MixedDisplayModes) : Prop where
  node : ∀ n, s.node n = true ↔ kSysfsModeMap s.activeModeId = some n
  display : 0 ≤ s.activeModeId → s.display = s.shownFor s.activeModeId
  saved : 0 ≤ s.localModeId → s.defaultDisplay = s.shownFor s.localModeId
  initial : 0 ≤ s.initialModeId

/-- One of the two modes is a sysfs mode, so that the active one is turned off. -/
def needsOff (s : MixedDisplayModes) (modeId : ℤ) : Bool :=
  isSysfsMode s.activeModeId || isSysfsMode modeId

/-- The active mode is turned off, when the write is answered so; for a mode of the controller that
is to enter the initial one, which takes no write if it is the active one. -/
def TurnsOff (s : MixedDisplayModes) (answer : Bool) : Prop :=
  (isSysfsMode s.activeModeId = true →
      (kSysfsModeMap s.activeModeId).isSome = true ∧ answer = true) ∧
    (isSysfsMode s.activeModeId = false → s.initialModeId = s.activeModeId ∨ answer = true)

instance (s : MixedDisplayModes) (answer : Bool) : Decidable (s.TurnsOff answer) :=
  inferInstanceAs (Decidable (_ ∧ _))

/-- The mode is turned on, when the write is answered so. -/
def TurnsOn (modeId : ℤ) (answer : Bool) : Prop :=
  (isSysfsMode modeId = true → (kSysfsModeMap modeId).isSome = true) ∧ answer = true

instance (modeId : ℤ) (answer : Bool) : Decidable (TurnsOn modeId answer) :=
  inferInstanceAs (Decidable (_ ∧ _))

/-- To turn the active mode off changes nothing: it is the initial mode. -/
def Unharmed (s : MixedDisplayModes) : Prop :=
  isSysfsMode s.activeModeId = false ∧ (0 ≤ s.activeModeId → s.initialModeId = s.activeModeId)

instance (s : MixedDisplayModes) : Decidable s.Unharmed := inferInstanceAs (Decidable (_ ∧ _))

/-- The mode that the constructor makes the active one. -/
def bootId (s : MixedDisplayModes) (qdcm : ℤ) : ℤ :=
  if s.localModeId ≥ 0 then s.localModeId else qdcm

/-- Nothing is left half done.  A mode that has been left is followed by one that is entered, and a
default that is recorded in the file is recorded at the controller too.  At a boot the node takes
the write, and without a file the mode is the one that the controller shows. -/
def Completes (s : MixedDisplayModes) : Event → Prop
  | .setDisplayMode modeId makeDefault a =>
      ¬ (0 ≤ s.activeModeId ∧ s.activeModeId = modeId) → a.known = true →
        (s.needsOff modeId = true → s.TurnsOff a.turnsOff) →
          (TurnsOn modeId a.turnsOn ∨ s.needsOff modeId = false ∨ s.Unharmed) ∧
            (TurnsOn modeId a.turnsOn → makeDefault = true → a.writesLocal = true → 0 ≤ modeId →
              a.setsDefault = true ∨ s.defaultDisplay = s.shownFor modeId)
  | .boot qdcm turnsOn =>
      ((kSysfsModeMap (s.bootId qdcm)).isSome = true → turnsOn = true) ∧
        (s.localModeId < 0 → 0 ≤ qdcm → s.defaultDisplay = s.shownFor qdcm)

instance : ∀ (s : MixedDisplayModes) (e : Event), Decidable (s.Completes e)
  | _, .setDisplayMode _ _ _ => inferInstanceAs (Decidable (_ → _))
  | _, .boot _ _ => inferInstanceAs (Decidable (_ ∧ _))

/-! ## One event -/

/-- The active mode has been turned off. -/
def off (s : MixedDisplayModes) : MixedDisplayModes :=
  { s with node := fun _ => false, display := s.initialModeId }

/-- The mode has been turned on. -/
def showing (s : MixedDisplayModes) (modeId : ℤ) : MixedDisplayModes :=
  { s with
    node := fun n => decide (kSysfsModeMap modeId = some n)
    display := s.shownFor modeId }

section Steps

variable {s : MixedDisplayModes} {modeId : ℤ}

lemma isSysfsMode_of_map {n : SysfsNode} (h : kSysfsModeMap modeId = some n) :
    isSysfsMode modeId = true := by
  unfold kSysfsModeMap at h
  split at h
  · rfl
  · rfl
  · cases h

/-- Nothing is on but the node of the active mode. -/
lemma Settled.node_eq (h : s.Settled) :
    s.node = fun n => decide (kSysfsModeMap s.activeModeId = some n) := by
  funext n
  rw [Bool.eq_iff_iff, decide_eq_true_iff]
  exact h.node n

lemma Settled.node_eq_false (h : s.Settled) (hmode : isSysfsMode s.activeModeId = false) :
    s.node = fun _ => false := by
  rw [h.node_eq]
  funext n
  refine decide_eq_false fun hmap => ?_
  rw [isSysfsMode_of_map hmap] at hmode
  cases hmode

lemma lt_of_isSysfsMode (h : isSysfsMode modeId = true) : 600 < modeId := of_decide_eq_true h

lemma turnsOff_of_sysfs (hmode : isSysfsMode s.activeModeId = true) {answer : Bool} :
    s.TurnsOff answer ↔ (kSysfsModeMap s.activeModeId).isSome = true ∧ answer = true := by
  simp [TurnsOff, hmode]

lemma turnsOff_of_controller (hmode : isSysfsMode s.activeModeId = false) {answer : Bool} :
    s.TurnsOff answer ↔ s.initialModeId = s.activeModeId ∨ answer = true := by
  simp [TurnsOff, hmode]

lemma Settled.setModeState_off (h : s.Settled) (answer : Bool) :
    s.setModeState s.activeModeId false answer =
      if s.TurnsOff answer then (s.off, true) else (s, false) := by
  rw [setModeState]
  cases hmode : isSysfsMode s.activeModeId with
  | true =>
      have hdisplay := h.display (by have := lt_of_isSysfsMode hmode; omega)
      rw [shownFor, if_pos hmode] at hdisplay
      have hoff := @turnsOff_of_sysfs s hmode answer
      cases hmap : kSysfsModeMap s.activeModeId with
      | none =>
          rw [hmap] at hoff
          rw [if_neg fun hturns => Bool.noConfusion (hoff.mp hturns).1]
          rfl
      | some n =>
          have hnode : Function.update s.node n false = fun _ => false := by
            funext m
            rw [h.node_eq, hmap]
            by_cases hm : m = n
            · rw [hm, Function.update_self]
            · rw [Function.update_of_ne hm]
              exact decide_eq_false fun heq => hm (Option.some.inj heq).symm
          rw [hmap] at hoff
          cases answer with
          | true =>
              rw [if_pos (hoff.mpr ⟨rfl, rfl⟩), off, ← hnode, ← hdisplay]
              rfl
          | false =>
              rw [if_neg fun hturns => Bool.noConfusion (hoff.mp hturns).2]
              rfl
  | false =>
      have hnode := h.node_eq_false hmode
      have hinitial : ¬ s.initialModeId < 0 := Int.not_lt.mpr h.initial
      have hoff := @turnsOff_of_controller s hmode answer
      simp only [Bool.false_eq_true, if_false, if_neg hinitial]
      by_cases hsame : s.initialModeId = s.activeModeId
      · have hdisplay := h.display (hsame ▸ h.initial)
        rw [shownFor, hmode] at hdisplay
        have hstays : s.off = { s with node := s.node, display := s.display } := by
          rw [off]
          congr 1
          · exact hnode.symm
          · exact hsame.trans hdisplay.symm
        rw [if_pos hsame, if_pos (hoff.mpr (.inl hsame)), hstays]
      · rw [if_neg hsame]
        cases answer with
        | true =>
            rw [if_pos (hoff.mpr (.inr rfl)), off, ← hnode]
            rfl
        | false =>
            rw [if_neg fun hturns => Bool.noConfusion ((hoff.mp hturns).resolve_left hsame)]
            rfl

lemma setModeState_on (hnode : s.node = fun _ => false)
    (hdisplay : isSysfsMode modeId = true → s.display = s.initialModeId) (answer : Bool) :
    s.setModeState modeId true answer =
      if TurnsOn modeId answer then (s.showing modeId, true) else (s, false) := by
  rw [setModeState]
  cases answer with
  | false =>
      have hnot : ¬ TurnsOn modeId false := fun hturns => Bool.noConfusion hturns.2
      rw [if_neg hnot]
      cases kSysfsModeMap modeId with
      | none => simp
      | some n => simp
  | true =>
      cases hmode : isSysfsMode modeId with
      | true =>
          cases hmap : kSysfsModeMap modeId with
          | none =>
              have hnot : ¬ TurnsOn modeId true := by simp [TurnsOn, hmode, hmap]
              rw [if_neg hnot]
              rfl
          | some n =>
              have hturns : TurnsOn modeId true := by simp [TurnsOn, hmap]
              have hupdate : Function.update s.node n true =
                  fun m => decide (kSysfsModeMap modeId = some m) := by
                funext m
                rw [hnode, hmap]
                by_cases hm : m = n
                · rw [hm, Function.update_self]
                  exact (decide_eq_true rfl).symm
                · rw [Function.update_of_ne hm]
                  exact (decide_eq_false fun heq => hm (Option.some.inj heq).symm).symm
              rw [if_pos hturns, showing, shownFor, if_pos hmode, ← hupdate, ← hdisplay hmode]
              rfl
      | false =>
          have hturns : TurnsOn modeId true := by simp [TurnsOn, hmode]
          have hnone : (fun n => decide (kSysfsModeMap modeId = some n)) = fun _ => false := by
            funext n
            refine decide_eq_false fun hmap => ?_
            rw [isSysfsMode_of_map hmap] at hmode
            cases hmode
          rw [if_pos hturns, showing, shownFor, hmode, hnone, ← hnode]
          rfl

/-- Where a call gets to. -/
lemma Settled.setDisplayMode_eq (h : s.Settled) (makesDefault : Bool) (answers : Answers) :
    s.setDisplayMode modeId makesDefault answers =
      if 0 ≤ s.activeModeId ∧ s.activeModeId = modeId then (s, true)
      else if answers.known = false then (s, false)
      else if s.needsOff modeId = true ∧ ¬ s.TurnsOff answers.turnsOff then (s, false)
      else if ¬ TurnsOn modeId answers.turnsOn then
        (if s.needsOff modeId = true then s.off else s, false)
      else
        let s' := { s.showing modeId with activeModeId := modeId }
        if makesDefault then s'.makeDefault modeId answers else (s', true) := by
  simp only [setDisplayMode, ge_iff_le, Bool.and_eq_true, decide_eq_true_iff, beq_iff_eq,
    Bool.not_eq_true']
  by_cases hactive : 0 ≤ s.activeModeId ∧ s.activeModeId = modeId
  · rw [if_pos hactive, if_pos hactive]
  by_cases hknown : answers.known = false
  · rw [if_neg hactive, if_neg hactive, if_pos hknown, if_pos hknown]
  rw [if_neg hactive, if_neg hactive, if_neg hknown, if_neg hknown, ← needsOff]
  cases hneeds : s.needsOff modeId with
  | true =>
      have hon : s.off.setModeState modeId true answers.turnsOn =
          if TurnsOn modeId answers.turnsOn then (s.showing modeId, true) else (s.off, false) :=
        setModeState_on rfl (fun _ => rfl) _
      rw [if_pos rfl, h.setModeState_off]
      by_cases hoff : s.TurnsOff answers.turnsOff
      · simp only [hon, hoff, not_true, and_false, if_false, Bool.true_eq_false,
          if_true]
        by_cases hturns : TurnsOn modeId answers.turnsOn
        · simp [hturns]
        · simp [hturns]
      · simp [hoff]
  | false =>
      rw [needsOff, Bool.or_eq_false_iff] at hneeds
      obtain ⟨hactiveMode, hmode⟩ := hneeds
      have hon := setModeState_on (h.node_eq_false hactiveMode)
        (fun hsysfs => Bool.noConfusion (hmode.symm.trans hsysfs)) answers.turnsOn
      by_cases hturns : TurnsOn modeId answers.turnsOn
      · simp [hon, hturns]
      · simp [hon, hturns]

lemma settled_off_iff (h : s.Settled) {answer : Bool} (hoff : s.TurnsOff answer) :
    s.off.Settled ↔ s.Unharmed := by
  have hshown : isSysfsMode s.activeModeId = false →
      s.off.shownFor s.activeModeId = s.activeModeId :=
    fun hmode => by rw [shownFor, hmode]; rfl
  constructor
  · intro hsettled
    have hmode : isSysfsMode s.activeModeId = false := by
      by_contra hcontra
      have hsysfs : isSysfsMode s.activeModeId = true := by simpa using hcontra
      obtain ⟨hsome, -⟩ := (turnsOff_of_sysfs hsysfs).mp hoff
      obtain ⟨n, hn⟩ := Option.isSome_iff_exists.mp hsome
      exact Bool.noConfusion ((hsettled.node n).mpr hn)
    exact ⟨hmode, fun hpos => (hsettled.display hpos).trans (hshown hmode)⟩
  · rintro ⟨hmode, hsame⟩
    refine ⟨fun n => iff_of_false Bool.false_ne_true fun hmap => ?_, fun hpos => ?_, h.saved,
      h.initial⟩
    · have hsysfs : isSysfsMode s.activeModeId = true := isSysfsMode_of_map hmap
      exact Bool.noConfusion (hmode.symm.trans hsysfs)
    · exact (hsame hpos).trans (hshown hmode).symm

/-- What `makeDefault` changes. -/
lemma makeDefault_fst (s : MixedDisplayModes) (modeId : ℤ) (answers : Answers) :
    (s.makeDefault modeId answers).1 =
      if answers.writesLocal = true then
        { s with
          localModeId := modeId
          defaultDisplay := if 0 ≤ s.shownFor modeId ∧ answers.setsDefault = true then
            s.shownFor modeId else s.defaultDisplay }
      else s := by
  rw [makeDefault]
  cases answers.writesLocal with
  | false => rfl
  | true =>
      have hshown : s.shownFor modeId =
          if isSysfsMode modeId then s.initialModeId else modeId := rfl
      simp only [Bool.not_true, Bool.false_eq_true, if_false, if_true, ← hshown]
      by_cases hneg : s.shownFor modeId < 0
      · rw [if_pos hneg, if_neg fun hpos => absurd hneg (Int.not_lt.mpr hpos.1)]
      · rw [if_neg hneg]
        cases answers.setsDefault with
        | false => simp
        | true => simp [Int.not_lt.mp hneg]

/-- The mode has been entered: what is left is the record of the default. -/
lemma Settled.entered_iff (h : s.Settled) (makesDefault : Bool) (answers : Answers) :
    (if makesDefault then
        ({ s.showing modeId with activeModeId := modeId } : MixedDisplayModes).makeDefault modeId
          answers
      else ({ s.showing modeId with activeModeId := modeId }, true)).1.Settled ↔
      (makesDefault = true → answers.writesLocal = true → 0 ≤ modeId →
        answers.setsDefault = true ∨ s.defaultDisplay = s.shownFor modeId) := by
  have hrecord : ∀ l d : ℤ, ({ s.showing modeId with
      activeModeId := modeId, localModeId := l, defaultDisplay := d } : MixedDisplayModes).Settled ↔
        (0 ≤ l → d = s.shownFor l) := by
    intro l d
    refine ⟨fun hsettled => hsettled.saved, fun hsaved => ⟨fun n => ?_, fun _ => rfl, hsaved,
      h.initial⟩⟩
    exact decide_eq_true_iff
  have hkept := (hrecord s.localModeId s.defaultDisplay).mpr h.saved
  cases makesDefault with
  | false => exact iff_of_true hkept (by simp)
  | true =>
      rw [if_pos rfl, makeDefault_fst]
      cases answers.writesLocal with
      | false => exact iff_of_true hkept (by simp)
      | true =>
          rw [if_pos rfl]
          refine (hrecord modeId _).trans ?_
          simp only [true_implies]
          refine forall_congr' fun hpos => ?_
          have hshown : 0 ≤ s.shownFor modeId := by
            rw [shownFor]
            split_ifs
            · exact h.initial
            · exact hpos
          cases answers.setsDefault with
          | true =>
              exact iff_of_true (if_pos ⟨hshown, rfl⟩) (.inl rfl)
          | false =>
              have hnot : ¬ (0 ≤ ({ s.showing modeId with activeModeId := modeId } :
                  MixedDisplayModes).shownFor modeId ∧ false = true) := fun hand =>
                Bool.false_ne_true hand.2
              rw [if_neg hnot]
              exact (or_iff_right Bool.false_ne_true).symm

/-- **One call.** -/
lemma Settled.setDisplayMode_iff (h : s.Settled) (makesDefault : Bool) (answers : Answers) :
    (s.setDisplayMode modeId makesDefault answers).1.Settled ↔
      s.Completes (.setDisplayMode modeId makesDefault answers) := by
  rw [h.setDisplayMode_eq, Completes]
  by_cases hactive : 0 ≤ s.activeModeId ∧ s.activeModeId = modeId
  · rw [if_pos hactive]
    exact iff_of_true h fun hnot => absurd hactive hnot
  by_cases hknown : answers.known = false
  · rw [if_neg hactive, if_pos hknown]
    exact iff_of_true h fun _ htrue => Bool.noConfusion (hknown.symm.trans htrue)
  by_cases hstuck : s.needsOff modeId = true ∧ ¬ s.TurnsOff answers.turnsOff
  · rw [if_neg hactive, if_neg hknown, if_pos hstuck]
    exact iff_of_true h fun _ _ hoff => absurd (hoff hstuck.1) hstuck.2
  have hoff : s.needsOff modeId = true → s.TurnsOff answers.turnsOff :=
    fun hneeds => not_not.mp fun hnot => hstuck ⟨hneeds, hnot⟩
  rw [if_neg hactive, if_neg hknown, if_neg hstuck]
  simp only [hactive, not_false_iff, true_implies, Bool.not_eq_false _ ▸ hknown]
  rw [imp_iff_right hoff]
  by_cases hturns : TurnsOn modeId answers.turnsOn
  · rw [if_neg (not_not.mpr hturns)]
    simp only [hturns, true_or, true_and, true_implies]
    exact h.entered_iff makesDefault answers
  · rw [if_pos hturns]
    simp only [hturns, false_or, false_implies, and_true]
    cases hneeds : s.needsOff modeId with
    | true =>
        simp only [if_true, Bool.true_eq_false, false_or]
        exact settled_off_iff h (hoff hneeds)
    | false => exact iff_of_true h (.inl rfl)

/-- What a boot comes to, once the initial mode has been saved. -/
lemma Settled.boot_eq (h : s.Settled) (qdcm : ℤ) (turnsOn : Bool) :
    s.boot qdcm turnsOn = { s with
      node := fun n => decide (kSysfsModeMap (s.bootId qdcm) = some n) && turnsOn
      display := s.defaultDisplay
      activeModeId := s.bootId qdcm } := by
  have hinitial : ¬ s.initialModeId < 0 := Int.not_lt.mpr h.initial
  have hid : (if s.localModeId ≥ 0 then s.localModeId else qdcm) = s.bootId qdcm := rfl
  simp only [boot, if_neg hinitial, hid, setModeState]
  cases hmode : isSysfsMode (s.bootId qdcm) with
  | true =>
      cases hmap : kSysfsModeMap (s.bootId qdcm) with
      | none => simp
      | some n =>
          have hupdate : Function.update (fun _ => false) n true =
              fun m => decide (n = m) := by
            funext m
            by_cases hm : m = n
            · simp [hm]
            · simp [hm, Ne.symm hm]
          cases turnsOn with
          | true => simp [hupdate]
          | false => simp
  | false =>
      have hnone : ∀ n, kSysfsModeMap (s.bootId qdcm) ≠ some n := by
        intro n hmap
        rw [isSysfsMode_of_map hmap] at hmode
        cases hmode
      simp [hnone]

/-- **One boot.** -/
lemma Settled.boot_iff (h : s.Settled) (qdcm : ℤ) (turnsOn : Bool) :
    (s.boot qdcm turnsOn).Settled ↔ s.Completes (.boot qdcm turnsOn) := by
  have hdefault : (0 ≤ s.bootId qdcm → s.defaultDisplay = s.shownFor (s.bootId qdcm)) ↔
      (s.localModeId < 0 → 0 ≤ qdcm → s.defaultDisplay = s.shownFor qdcm) := by
    rw [bootId]
    by_cases hlocal : s.localModeId ≥ 0
    · rw [if_pos hlocal]
      exact iff_of_true h.saved fun hneg => absurd hneg (Int.not_lt.mpr hlocal)
    · rw [if_neg hlocal]
      exact (imp_iff_right (Int.not_le.mp hlocal)).symm
  rw [h.boot_eq, Completes, ← hdefault]
  constructor
  · intro hsettled
    refine ⟨fun hsome => ?_, hsettled.display⟩
    obtain ⟨n, hn⟩ := Option.isSome_iff_exists.mp hsome
    have hnode := (hsettled.node n).mpr hn
    exact (Bool.and_eq_true _ _ ▸ hnode).2
  · rintro ⟨hturns, hdisplay⟩
    refine ⟨fun n => ?_, hdisplay, h.saved, h.initial⟩
    rw [Bool.and_eq_true, decide_eq_true_iff]
    exact and_iff_left_of_imp fun hmap => hturns (hmap ▸ rfl)

lemma next_settled_iff (h : s.Settled) (e : Event) :
    (machine.next s e).Settled ↔ s.Completes e := by
  cases e with
  | setDisplayMode modeId makesDefault answers => exact h.setDisplayMode_iff makesDefault answers
  | boot qdcm turnsOn => exact h.boot_iff qdcm turnsOn

end Steps

/-- **The display.** From a settled state, the display shows the active mode and the two records of
the default agree throughout a run exactly if none of its events leaves anything half done. -/
theorem always_settled_iff (s : MixedDisplayModes) (h : s.Settled) (es : List Event) :
    machine.Always Settled s es ↔ machine.Steps Completes s es :=
  Machine.always_iff_steps (fun _ e h => next_settled_iff h e) h

/-- Mode 3 is left for the sRGB node, whose write fails: the controller is in the initial mode, and
mode 3 is still the active one.  With all writes done, the boot after it shows sRGB again. -/
theorem always_settled_iff_srgb :
    let fresh : MixedDisplayModes := ⟨0, fun _ => false, 0, 0, -1, 0⟩
    let done : Answers := ⟨true, true, true, true, true⟩
    ¬ machine.Always Settled fresh
        [.setDisplayMode 3 false done, .setDisplayMode 601 true { done with turnsOn := false }] ∧
      machine.Always Settled fresh
        [.setDisplayMode 3 false done, .setDisplayMode 601 true done, .boot 0 true] := by
  have hfresh : Settled ⟨0, fun _ => false, 0, 0, -1, 0⟩ :=
    ⟨fun n => by simp [kSysfsModeMap], fun _ => rfl, fun hneg => absurd hneg (by decide),
      Int.le_refl 0⟩
  exact ⟨fun hall => absurd ((always_settled_iff _ hfresh _).mp hall) (by decide),
    (always_settled_iff _ hfresh _).mpr (by decide)⟩

end MixedDisplayModes
end LocHal
