import Mathlib.Data.List.AList
import LocHal.Lib.Machine

/-!
# Framework actions (`gps/core/SystemStatusOsObserver.cpp`)

Users turn data items on and off.  `mActiveRequestCount` counts the references of each item, the
first of which is to turn the item on in the framework and the last to turn it off there; the call
on the framework is made by a message that the observer queues on its `MsgTask`.

The observer and the framework have the same interface, and `turnOn` hands its message the observer
where `turnOff` hands over the framework.  So the message takes a reference of its own, or starts
over when there is none left, and the framework is never told to turn anything on.
`follows_iff`: the framework follows the users of an item only as long as no one turns it on.
-/

namespace LocHal

namespace FrameworkActionReq

/-- The objects that have the interface `IFrameworkActionReq`. -/
inductive Receiver where
  | observer
  | framework
deriving DecidableEq, Repr

/-- The messages, with the object that their `proc` calls. -/
inductive Msg (DataItemId : Type*) where
  | handleTurnOnMsg (mFrameworkActionReqObj : Receiver) (mDataItemId : DataItemId) (mTimeOut : ℤ)
  | handleTurnOffMsg (mFrameworkActionReqObj : Receiver) (mDataItemId : DataItemId)
deriving DecidableEq, Repr

/-- The calls on the framework. -/
inductive Output (DataItemId : Type*) where
  | turnOn (dit : DataItemId) (timeOut : ℤ)
  | turnOff (dit : DataItemId)
deriving DecidableEq, Repr

end FrameworkActionReq

open FrameworkActionReq (Receiver Msg Output)

/-- The part of `SystemStatusOsObserver` that deals with actions, with its queue.
`mFrameworkActionReqObj` says whether the framework's object is known. -/
structure FrameworkActionReq (DataItemId : Type*) where
  mFrameworkActionReqObj : Bool
  mActiveRequestCount : AList fun _ : DataItemId => ℤ
  queue : List (Msg DataItemId)

namespace FrameworkActionReq

variable {DataItemId : Type*}

/-- A new observer with a framework object. -/
def init : FrameworkActionReq DataItemId := ⟨true, ∅, []⟩

/-- `sendMsg`. -/
def sendMsg (o : FrameworkActionReq DataItemId) (msg : Msg DataItemId) :
    FrameworkActionReq DataItemId :=
  { o with queue := o.queue ++ [msg] }

section Calls

variable [DecidableEq DataItemId]

/-- The entry of an item set to `count`. -/
def setCount (o : FrameworkActionReq DataItemId) (dit : DataItemId) (count : ℤ) :
    FrameworkActionReq DataItemId :=
  { o with mActiveRequestCount := o.mActiveRequestCount.insert dit count }

/-- The entry of an item erased. -/
def eraseCount (o : FrameworkActionReq DataItemId) (dit : DataItemId) :
    FrameworkActionReq DataItemId :=
  { o with mActiveRequestCount := o.mActiveRequestCount.erase dit }

/-- `turnOn`. -/
def turnOn (o : FrameworkActionReq DataItemId) (dit : DataItemId) (timeOut : ℤ) :
    FrameworkActionReq DataItemId :=
  if !o.mFrameworkActionReqObj then o
  else
    match o.mActiveRequestCount.lookup dit with
    -- the message is handed `this`
    | none => (o.setCount dit 1).sendMsg (.handleTurnOnMsg .observer dit timeOut)
    | some count => o.setCount dit (count + 1)

/-- `turnOff`. -/
def turnOff (o : FrameworkActionReq DataItemId) (dit : DataItemId) :
    FrameworkActionReq DataItemId :=
  if !o.mFrameworkActionReqObj then o
  else
    match o.mActiveRequestCount.lookup dit with
    | none => o
    | some count =>
        if count - 1 = 0 then
          (o.eraseCount dit).sendMsg (.handleTurnOffMsg .framework dit)
        else o.setCount dit (count - 1)

/-- `proc` of a message. -/
def proc (o : FrameworkActionReq DataItemId) :
    Msg DataItemId → FrameworkActionReq DataItemId × List (Output DataItemId)
  | .handleTurnOnMsg .observer dit timeOut => (o.turnOn dit timeOut, [])
  | .handleTurnOnMsg .framework dit timeOut => (o, [.turnOn dit timeOut])
  | .handleTurnOffMsg .observer dit => (o.turnOff dit, [])
  | .handleTurnOffMsg .framework dit => (o, [.turnOff dit])

/-- A call of a user, or the `MsgTask` taking the next message. -/
inductive Event (DataItemId : Type*) where
  | turnOn (dit : DataItemId) (timeOut : ℤ)
  | turnOff (dit : DataItemId)
  | process
deriving DecidableEq, Repr

/-- One event. -/
def step (o : FrameworkActionReq DataItemId) :
    Event DataItemId → FrameworkActionReq DataItemId × List (Output DataItemId)
  | .turnOn dit timeOut => (o.turnOn dit timeOut, [])
  | .turnOff dit => (o.turnOff dit, [])
  | .process =>
      match o.queue with
      | [] => (o, [])
      | msg :: queue => proc { o with queue := queue } msg

/-! ## The law -/

/-- The observer, and what users and framework have seen of one item: the `turnOn` calls of users
less their `turnOff` calls that were accepted, how often this has gone from zero to one and from one
to zero, and the calls on the framework. -/
structure Watched (DataItemId : Type*) where
  observer : FrameworkActionReq DataItemId
  references : ℤ
  firsts : ℕ
  lasts : ℕ
  turnedOn : ℕ
  turnedOff : ℕ

/-- Before the first event. -/
def Watched.init : Watched DataItemId := ⟨FrameworkActionReq.init, 0, 0, 0, 0, 0⟩

/-- A `turnOff` of an item is accepted if the item has an entry. -/
def accepts (o : FrameworkActionReq DataItemId) (dit : DataItemId) : Bool :=
  o.mFrameworkActionReqObj && (o.mActiveRequestCount.lookup dit).isSome

/-- The references that users have of `item` after an event. -/
def referencesAfter (item : DataItemId) (s : Watched DataItemId) : Event DataItemId → ℤ
  | .turnOn dit _ =>
      if dit = item ∧ s.observer.mFrameworkActionReqObj then s.references + 1 else s.references
  | .turnOff dit =>
      if dit = item ∧ s.observer.accepts dit then s.references - 1 else s.references
  | .process => s.references

/-- The call turns `item` on. -/
def turnsOn (item : DataItemId) : Output DataItemId → Bool
  | .turnOn dit _ => dit = item
  | .turnOff _ => false

/-- The call turns `item` off. -/
def turnsOff (item : DataItemId) : Output DataItemId → Bool
  | .turnOn _ _ => false
  | .turnOff dit => dit = item

/-- One event, watched for `item`. -/
def watchedStep (item : DataItemId) (s : Watched DataItemId) (e : Event DataItemId) :
    Watched DataItemId × List (Output DataItemId) :=
  let result := step s.observer e
  let references := referencesAfter item s e
  ({ observer := result.1
     references := references
     firsts := s.firsts + if s.references = 0 ∧ references = 1 then 1 else 0
     lasts := s.lasts + if s.references = 1 ∧ references = 0 then 1 else 0
     turnedOn := s.turnedOn + result.2.countP (turnsOn item)
     turnedOff := s.turnedOff + result.2.countP (turnsOff item) },
    result.2)

/-- The observer as a machine, watched for `item`. -/
def machine (item : DataItemId) :
    Machine (Watched DataItemId) (Event DataItemId) (Output DataItemId) :=
  ⟨watchedStep item⟩

/-- The queued messages that will turn `item` on in the framework. -/
def pendingOn (item : DataItemId) (queue : List (Msg DataItemId)) : ℕ :=
  queue.countP fun msg =>
    match msg with
    | .handleTurnOnMsg .framework dit _ => dit = item
    | _ => false

/-- The queued messages that will turn `item` off in the framework. -/
def pendingOff (item : DataItemId) (queue : List (Msg DataItemId)) : ℕ :=
  queue.countP fun msg =>
    match msg with
    | .handleTurnOffMsg .framework dit => dit = item
    | _ => false

/-- The framework follows the users of `item`: it is turned on, or going to be, once for each first
reference and off once for each last one, and nothing is recorded while there is no reference. -/
structure Follows (item : DataItemId) (s : Watched DataItemId) : Prop where
  on : s.turnedOn + pendingOn item s.observer.queue = s.firsts
  off : s.turnedOff + pendingOff item s.observer.queue = s.lasts
  released : s.references = 0 → s.observer.mActiveRequestCount.lookup item = none

/-! ## What a call changes -/

/-- The item of a message. -/
def Msg.item : Msg DataItemId → DataItemId
  | .handleTurnOnMsg _ dit _ => dit
  | .handleTurnOffMsg _ dit => dit

section Frames

variable {o : FrameworkActionReq DataItemId} {item dit : DataItemId} {timeOut : ℤ}

lemma mFrameworkActionReqObj_turnOn :
    (o.turnOn dit timeOut).mFrameworkActionReqObj = o.mFrameworkActionReqObj := by
  unfold turnOn
  split
  · rfl
  · split
    · rfl
    · rfl

lemma mFrameworkActionReqObj_turnOff :
    (o.turnOff dit).mFrameworkActionReqObj = o.mFrameworkActionReqObj := by
  unfold turnOff
  split
  · rfl
  · split
    · rfl
    · split
      · rfl
      · rfl

lemma mem_queue_turnOn {msg : Msg DataItemId} (h : msg ∈ (o.turnOn dit timeOut).queue) :
    msg ∈ o.queue ∨ msg = .handleTurnOnMsg .observer dit timeOut := by
  unfold turnOn at h
  split at h
  · exact .inl h
  · split at h
    · simpa [sendMsg, setCount] using h
    · exact .inl h

lemma mem_queue_turnOff {msg : Msg DataItemId} (h : msg ∈ (o.turnOff dit).queue) :
    msg ∈ o.queue ∨ msg = .handleTurnOffMsg .framework dit := by
  unfold turnOff at h
  split at h
  · exact .inl h
  · split at h
    · exact .inl h
    · split at h
      · simpa [sendMsg, eraseCount] using h
      · exact .inl h

lemma lookup_turnOn_of_ne (h : item ≠ dit) :
    (o.turnOn dit timeOut).mActiveRequestCount.lookup item =
      o.mActiveRequestCount.lookup item := by
  unfold turnOn
  split
  · rfl
  · split
    · exact AList.lookup_insert_ne h
    · exact AList.lookup_insert_ne h

lemma lookup_turnOff_of_ne (h : item ≠ dit) :
    (o.turnOff dit).mActiveRequestCount.lookup item = o.mActiveRequestCount.lookup item := by
  unfold turnOff
  split
  · rfl
  · split
    · rfl
    · split
      · exact AList.lookup_erase_ne h
      · exact AList.lookup_insert_ne h

/-- A `turnOff` of an item without an entry does nothing. -/
lemma turnOff_of_lookup (h : o.mActiveRequestCount.lookup dit = none) : o.turnOff dit = o := by
  unfold turnOff
  split
  · rfl
  · rw [h]

end Frames

/-! ## The framework is never turned on -/

/-- No message turns anything on in the framework. -/
def NeverOn (o : FrameworkActionReq DataItemId) : Prop :=
  ∀ dit timeOut, .handleTurnOnMsg .framework dit timeOut ∉ o.queue

/-- The item has no entry, and no message is about it. -/
structure Untouched (item : DataItemId) (o : FrameworkActionReq DataItemId) : Prop where
  lookup : o.mActiveRequestCount.lookup item = none
  queue : ∀ msg ∈ o.queue, msg.item ≠ item

section Steps

variable {o : FrameworkActionReq DataItemId} {item dit : DataItemId} {timeOut : ℤ}

lemma NeverOn.turnOn (h : NeverOn o) : NeverOn (o.turnOn dit timeOut) := by
  intro dit' timeOut' hmem
  rcases mem_queue_turnOn hmem with hmem | heq
  · exact h dit' timeOut' hmem
  · cases heq

lemma NeverOn.turnOff (h : NeverOn o) : NeverOn (o.turnOff dit) := by
  intro dit' timeOut' hmem
  rcases mem_queue_turnOff hmem with hmem | heq
  · exact h dit' timeOut' hmem
  · cases heq

/-- **No event turns anything on in the framework**, or queues a message that will. -/
lemma NeverOn.step (h : NeverOn o) (item : DataItemId) (e : Event DataItemId) :
    NeverOn (step o e).1 ∧ (step o e).2.countP (turnsOn item) = 0 := by
  cases e with
  | turnOn dit timeOut => exact ⟨h.turnOn, rfl⟩
  | turnOff dit => exact ⟨h.turnOff, rfl⟩
  | process =>
      simp only [FrameworkActionReq.step]
      cases hqueue : o.queue with
      | nil => exact ⟨h, rfl⟩
      | cons msg queue =>
          have hrest : NeverOn { o with queue := queue } := fun dit timeOut hmem =>
            h dit timeOut (hqueue ▸ List.mem_cons_of_mem msg hmem)
          cases msg with
          | handleTurnOnMsg receiver dit timeOut =>
              cases receiver with
              | observer => exact ⟨hrest.turnOn, rfl⟩
              | framework => exact absurd (hqueue ▸ List.mem_cons_self) (h dit timeOut)
          | handleTurnOffMsg receiver dit =>
              cases receiver with
              | observer => exact ⟨hrest.turnOff, rfl⟩
              | framework => exact ⟨hrest, rfl⟩

lemma Untouched.turnOn (h : Untouched item o) (hne : dit ≠ item) :
    Untouched item (o.turnOn dit timeOut) where
  lookup := (lookup_turnOn_of_ne hne.symm).trans h.lookup
  queue msg hmem := by
    rcases mem_queue_turnOn hmem with hmem | rfl
    · exact h.queue msg hmem
    · exact hne

lemma Untouched.turnOff (h : Untouched item o) : Untouched item (o.turnOff dit) := by
  by_cases heq : dit = item
  · subst heq
    rw [turnOff_of_lookup h.lookup]
    exact h
  · refine ⟨(lookup_turnOff_of_ne (Ne.symm heq)).trans h.lookup, fun msg hmem => ?_⟩
    rcases mem_queue_turnOff hmem with hmem | rfl
    · exact h.queue msg hmem
    · exact heq

/-- An item that nobody turns on is never touched. -/
lemma Untouched.step (h : Untouched item o) {e : Event DataItemId}
    (he : ∀ timeOut, e ≠ .turnOn item timeOut) :
    Untouched item (step o e).1 ∧ (step o e).2.countP (turnsOff item) = 0 := by
  cases e with
  | turnOn dit timeOut =>
      have hne : dit ≠ item := by
        rintro rfl
        exact he timeOut rfl
      exact ⟨h.turnOn hne, rfl⟩
  | turnOff dit => exact ⟨h.turnOff, rfl⟩
  | process =>
      simp only [FrameworkActionReq.step]
      cases hqueue : o.queue with
      | nil => exact ⟨h, rfl⟩
      | cons msg queue =>
          have hmsg : msg.item ≠ item := h.queue msg (hqueue ▸ List.mem_cons_self)
          have hrest : Untouched item { o with queue := queue } :=
            ⟨h.lookup, fun msg' hmem => h.queue msg' (hqueue ▸ List.mem_cons_of_mem msg hmem)⟩
          cases msg with
          | handleTurnOnMsg receiver dit timeOut =>
              cases receiver with
              | observer => exact ⟨hrest.turnOn hmsg, rfl⟩
              | framework => exact ⟨hrest, rfl⟩
          | handleTurnOffMsg receiver dit =>
              cases receiver with
              | observer => exact ⟨hrest.turnOff, rfl⟩
              | framework =>
                  refine ⟨hrest, ?_⟩
                  have hne : dit ≠ item := hmsg
                  simp [proc, turnsOff, hne]

end Steps

/-! ## Runs -/

section Runs

variable {item : DataItemId} {s : Watched DataItemId}

/-- The framework has been told nothing. -/
structure Off (s : Watched DataItemId) : Prop where
  neverOn : NeverOn s.observer
  turnedOn : s.turnedOn = 0
  known : s.observer.mFrameworkActionReqObj = true

/-- Nobody has turned the item on. -/
structure Idle (item : DataItemId) (s : Watched DataItemId) : Prop where
  untouched : Untouched item s.observer
  references : s.references = 0
  firsts : s.firsts = 0
  lasts : s.lasts = 0
  turnedOff : s.turnedOff = 0

lemma mFrameworkActionReqObj_step (o : FrameworkActionReq DataItemId) (e : Event DataItemId) :
    (step o e).1.mFrameworkActionReqObj = o.mFrameworkActionReqObj := by
  cases e with
  | turnOn dit timeOut => exact mFrameworkActionReqObj_turnOn
  | turnOff dit => exact mFrameworkActionReqObj_turnOff
  | process =>
      simp only [step]
      cases o.queue with
      | nil => rfl
      | cons msg queue =>
          cases msg with
          | handleTurnOnMsg receiver dit timeOut =>
              cases receiver with
              | observer => exact mFrameworkActionReqObj_turnOn
              | framework => rfl
          | handleTurnOffMsg receiver dit =>
              cases receiver with
              | observer => exact mFrameworkActionReqObj_turnOff
              | framework => rfl

lemma Off.next (h : Off s) (e : Event DataItemId) : Off ((machine item).next s e) := by
  obtain ⟨hnever, hcount⟩ := h.neverOn.step item e
  refine ⟨hnever, ?_, (mFrameworkActionReqObj_step s.observer e).trans h.known⟩
  show s.turnedOn + (step s.observer e).2.countP (turnsOn item) = 0
  rw [h.turnedOn, hcount]

lemma Idle.next (h : Idle item s) {e : Event DataItemId}
    (he : ∀ timeOut, e ≠ .turnOn item timeOut) : Idle item ((machine item).next s e) := by
  obtain ⟨huntouched, hcount⟩ := h.untouched.step he
  have hreferences : referencesAfter item s e = 0 := by
    rw [← h.references]
    cases e with
    | turnOn dit timeOut =>
        have hne : dit ≠ item := by
          rintro rfl
          exact he timeOut rfl
        simp [referencesAfter, hne]
    | turnOff dit =>
        have hno : ¬ (dit = item ∧ s.observer.accepts dit = true) := by
          rintro ⟨rfl, haccepts⟩
          simp [accepts, h.untouched.lookup] at haccepts
        rw [referencesAfter, if_neg hno]
    | process => rfl
  refine ⟨huntouched, hreferences, ?_, ?_, ?_⟩
  · show s.firsts + (if s.references = 0 ∧ referencesAfter item s e = 1 then 1 else 0) = 0
    simp [h.firsts, hreferences]
  · show s.lasts + (if s.references = 1 ∧ referencesAfter item s e = 0 then 1 else 0) = 0
    simp [h.lasts, h.references]
  · show s.turnedOff + (step s.observer e).2.countP (turnsOff item) = 0
    rw [h.turnedOff, hcount]

lemma firsts_le_next (e : Event DataItemId) : s.firsts ≤ ((machine item).next s e).firsts :=
  Nat.le_add_right _ _

lemma firsts_le_run (events : List (Event DataItemId)) :
    s.firsts ≤ ((machine item).run s events).firsts := by
  induction events generalizing s with
  | nil => exact Nat.le_refl _
  | cons e events ih => exact (firsts_le_next e).trans ih

/-- The first `turnOn` of an item is counted, and stays counted. -/
lemma firsts_pos_of_mem {events : List (Event DataItemId)} {timeOut : ℤ} (hoff : Off s)
    (h : Idle item s ∨ 0 < s.firsts) (hmem : .turnOn item timeOut ∈ events) :
    0 < ((machine item).run s events).firsts := by
  induction events generalizing s with
  | nil => cases hmem
  | cons e events ih =>
      rcases h with hidle | hpos
      · by_cases he : ∃ timeOut, e = .turnOn item timeOut
        · obtain ⟨timeOut', rfl⟩ := he
          refine lt_of_lt_of_le ?_ (firsts_le_run events)
          show 0 < s.firsts + if s.references = 0 ∧ _ = (1 : ℤ) then 1 else 0
          simp [referencesAfter, hoff.known, hidle.references]
        · have hne : ∀ timeOut, e ≠ .turnOn item timeOut := fun timeOut heq => he ⟨timeOut, heq⟩
          rcases List.mem_cons.mp hmem with heq | hmem
          · exact absurd heq.symm (hne timeOut)
          · exact ih (hoff.next e) (.inl (hidle.next hne)) hmem
      · exact lt_of_lt_of_le (lt_of_lt_of_le hpos (firsts_le_next e)) (firsts_le_run events)

omit [DecidableEq DataItemId] in
lemma off_init : Off (Watched.init : Watched DataItemId) :=
  ⟨fun _ _ => List.not_mem_nil, rfl, rfl⟩

lemma idle_init (item : DataItemId) : Idle item Watched.init :=
  ⟨⟨rfl, fun _ hmem => absurd hmem List.not_mem_nil⟩, rfl, rfl, rfl, rfl⟩

lemma idle_run {events : List (Event DataItemId)} (h : Idle item s)
    (hnone : ∀ timeOut, .turnOn item timeOut ∉ events) :
    Idle item ((machine item).run s events) := by
  induction events generalizing s with
  | nil => exact h
  | cons e events ih =>
      have he : ∀ timeOut, e ≠ .turnOn item timeOut := by
        rintro timeOut rfl
        exact hnone timeOut List.mem_cons_self
      exact ih (h.next he) fun timeOut hmem => hnone timeOut (List.mem_cons_of_mem e hmem)

lemma pendingOn_eq_zero {o : FrameworkActionReq DataItemId} (h : NeverOn o) :
    pendingOn item o.queue = 0 := by
  refine List.countP_eq_zero.mpr fun msg hmem => ?_
  cases msg with
  | handleTurnOnMsg receiver dit timeOut =>
      cases receiver with
      | observer => simp
      | framework => exact absurd hmem (h dit timeOut)
  | handleTurnOffMsg receiver dit => simp

lemma pendingOff_eq_zero {o : FrameworkActionReq DataItemId} (h : Untouched item o) :
    pendingOff item o.queue = 0 := by
  refine List.countP_eq_zero.mpr fun msg hmem => ?_
  cases msg with
  | handleTurnOnMsg receiver dit timeOut => simp
  | handleTurnOffMsg receiver dit =>
      have hne : dit ≠ item := h.queue _ hmem
      cases receiver with
      | observer => simp
      | framework => simp [hne]

/-- **The framework follows the users** of an item, after any run, exactly when none of them has
ever turned the item on. -/
theorem follows_iff (item : DataItemId) (events : List (Event DataItemId)) :
    Follows item ((machine item).run .init events) ↔ ∀ timeOut, .turnOn item timeOut ∉ events := by
  have hoff : Off ((machine item).run .init events) :=
    Machine.run_of_steps (C := fun _ _ => True) (P := Off) (fun _ e h _ => h.next e) off_init
      ((machine item).steps_of_forall (fun _ _ => trivial) _ events)
  constructor
  · intro hfollows timeOut hmem
    have hpos := firsts_pos_of_mem off_init (.inl (idle_init item)) hmem
    rw [← hfollows.on, hoff.turnedOn, pendingOn_eq_zero hoff.neverOn] at hpos
    exact absurd hpos (lt_irrefl 0)
  · intro hnone
    have hidle : Idle item ((machine item).run .init events) :=
      idle_run (idle_init item) hnone
    refine ⟨?_, ?_, fun _ => hidle.untouched.lookup⟩
    · rw [hoff.turnedOn, pendingOn_eq_zero hoff.neverOn, hidle.firsts]
    · rw [hidle.turnedOff, pendingOff_eq_zero hidle.untouched, hidle.lasts]

end Runs

/-- An item that is turned on and off again stays recorded, and the framework is told nothing. -/
theorem reference_left_behind :
    let s := (machine 3).run Watched.init [.turnOn 3 0, .process, .turnOff 3, .process]
    s.references = 0 ∧ s.observer.queue = [] ∧ ¬ Follows 3 s := by
  intro s
  refine ⟨by decide, by decide, fun h => ?_⟩
  have hleft : s.observer.mActiveRequestCount.lookup 3 = some 1 := by decide
  rw [h.released (by decide)] at hleft
  cases hleft

end Calls

end FrameworkActionReq
end LocHal
