import LocHal.Gnss.NiSessions

/-!
# The responses of NI sessions

`Sound` is what every event keeps that does not disturb a session: an outstanding request has its
own id, and a response that waits in a session was given for the request of that session.

`answers_of_undisturbed` is the result about runs, and `late_response_and_reset` the two ways in
which a request is given what belongs to another.
-/

namespace LocHal

namespace NiThreadPc

/-- The response that the thread still has to send. -/
def toSend : NiThreadPc → Option (ℕ × GnssNiResponse)
  | .unlocked response => response
  | .responding response => some response
  | _ => none

end NiThreadPc

namespace NiData

/-! ## The invariant -/

/-- If the request is outstanding, then the id is its own. -/
def IdOf (s : NiData) (request : ℕ) (id : UInt32) : Prop :=
  ∀ slot, s.raw slot = some request → id = UInt32.ofNat request

/-- If the session has a request, then the user has given the response for it. -/
def CanReceive (s : NiData) (slot : NiSlot) (resp : GnssNiResponse) : Prop :=
  ∀ request, s.raw slot = some request → s.GivenFor request resp

/-- The request has got its id, unless it has only just been saved. -/
def Allocated (s : NiData) (slot : NiSlot) (request : ℕ) : Prop :=
  if s.task = .allocate slot then request = s.requests + 1
  else request ≤ s.requests ∧ (s.sessions slot).reqID = UInt32.ofNat request

/-- What the adapter task knows from the tests it has made. -/
def Knows (s : NiData) : NiTask → Prop
  | .idle | .allocate _ => True
  | .save slot _ => s.raw slot = none
  | .readId slot => ∀ other, s.raw other = some s.requests → other = slot
  | .createThread _ sessionId | .notify sessionId => s.IdOf s.requests sessionId
  | .testEs id resp | .testSession id resp => ⟨s.requests, id, resp⟩ ∈ s.given
  | .testAccepted _ resp | .ignoreSession _ resp => s.CanReceive .sessionEs resp
  | .respond slot _ resp => s.CanReceive slot resp

/-- The response that waits in a session may be sent for its request, or for any. -/
def MayKeep (s : NiData) (session : NiSession) : Prop :=
  session.respRecvd = true → Harmless session.resp ∨
    ∃ request, session.rawRequest = some request ∧ s.GivenFor request session.resp

/-- No request has been given what belongs to another. -/
structure Sound (s : NiData) : Prop where
  counter : s.reqIDCounter = UInt32.ofNat s.requests
  allocated : ∀ slot request, s.raw slot = some request → s.Allocated slot request
  distinct : ∀ slot other request, s.raw slot = some request → s.raw other = some request →
    slot = other
  reported : ∀ report ∈ s.reported, report.1 ≤ s.requests ∧ s.IdOf report.1 report.2
  task : s.Knows s.task
  received : ∀ slot, s.MayKeep (s.sessions slot)
  threads : ∀ thread ∈ s.threads, ∀ response ∈ thread.pc.toSend,
    s.MayAnswer response.1 response.2

lemma sound_init : Sound {} where
  counter := rfl
  allocated _ _ h := by cases h
  distinct _ _ _ h := by cases h
  reported _ h := by cases h
  task := trivial
  received _ h := by cases h
  threads _ h := by cases h

section Frame

variable {s s' : NiData}

lemma GivenFor.mono (hgiven : s.given ⊆ s'.given) {request : ℕ} {resp : GnssNiResponse}
    (h : s.GivenFor request resp) : s'.GivenFor request resp := by
  obtain ⟨g, hg, hle, hid, hresp⟩ := h
  exact ⟨g, hgiven hg, hle, hid, hresp⟩

lemma MayAnswer.mono (hgiven : s.given ⊆ s'.given) {request : ℕ} {resp : GnssNiResponse}
    (h : s.MayAnswer request resp) : s'.MayAnswer request resp :=
  h.imp_right fun h => h.mono hgiven

lemma MayKeep.mono (hgiven : s.given ⊆ s'.given) {session : NiSession}
    (h : s.MayKeep session) : s'.MayKeep session := by
  intro hrecvd
  rcases h hrecvd with hharmless | ⟨request, hraw, hfor⟩
  · exact .inl hharmless
  · exact .inr ⟨request, hraw, hfor.mono hgiven⟩

lemma IdOf.mono (hraw : ∀ slot request, s'.raw slot = some request → s.raw slot = some request)
    {request : ℕ} {id : UInt32} (h : s.IdOf request id) : s'.IdOf request id :=
  fun slot hslot => h slot (hraw slot request hslot)

lemma CanReceive.mono
    (hraw : ∀ slot request, s'.raw slot = some request → s.raw slot = some request)
    (hgiven : s.given ⊆ s'.given) {slot : NiSlot} {resp : GnssNiResponse}
    (h : s.CanReceive slot resp) : s'.CanReceive slot resp :=
  fun request hslot => (h request (hraw slot request hslot)).mono hgiven

/-- What the task knows stays true when requests end and the user gives more responses. -/
lemma Knows.mono (hraw : ∀ slot request, s'.raw slot = some request → s.raw slot = some request)
    (hgiven : s.given ⊆ s'.given) (hrequests : s'.requests = s.requests) {task : NiTask}
    (h : s.Knows task) : s'.Knows task := by
  cases task with
  | idle => trivial
  | save slot data =>
      refine Option.eq_none_iff_forall_ne_some.mpr fun request hslot => ?_
      have hnone : s.raw slot = none := h
      have hsome := hraw slot request hslot
      rw [hnone] at hsome
      cases hsome
  | allocate slot => trivial
  | readId slot =>
      intro other hother
      rw [hrequests] at hother
      exact h other (hraw other _ hother)
  | createThread slot sessionId =>
      show s'.IdOf s'.requests sessionId
      rw [hrequests]
      exact IdOf.mono hraw h
  | notify sessionId =>
      show s'.IdOf s'.requests sessionId
      rw [hrequests]
      exact IdOf.mono hraw h
  | testEs id resp =>
      show ⟨s'.requests, id, resp⟩ ∈ s'.given
      rw [hrequests]
      exact hgiven h
  | testAccepted id resp => exact CanReceive.mono hraw hgiven h
  | ignoreSession id resp => exact CanReceive.mono hraw hgiven h
  | testSession id resp =>
      show ⟨s'.requests, id, resp⟩ ∈ s'.given
      rw [hrequests]
      exact hgiven h
  | respond slot id resp => exact CanReceive.mono hraw hgiven h

/-- The task goes on, and no id is due before or after. -/
lemma Sound.withTask (h : s.Sound) {task : NiTask} (hold : ∀ slot, s.task ≠ .allocate slot)
    (hnew : ∀ slot, task ≠ .allocate slot) (hknows : s.Knows task) :
    Sound { s with task := task } where
  counter := h.counter
  allocated slot request hraw := by
    have hslot := h.allocated slot request hraw
    rw [Allocated, if_neg (hold slot)] at hslot
    rw [Allocated, if_neg (hnew slot)]
    exact hslot
  distinct := h.distinct
  reported := h.reported
  task := Knows.mono (fun _ _ hraw => hraw) (List.Subset.refl _) rfl hknows
  received := h.received
  threads := h.threads

/-- The user gives one more response. -/
lemma Sound.give (h : s.Sound) (g : UserResponse) : Sound { s with given := g :: s.given } where
  counter := h.counter
  allocated := h.allocated
  distinct := h.distinct
  reported := h.reported
  task := by
    refine Knows.mono (s := s) ?_ ?_ ?_ h.task
    · exact fun _ _ hraw => hraw
    · exact List.subset_cons_self g s.given
    · rfl
  received slot := (h.received slot).mono (List.subset_cons_self g s.given)
  threads thread hthread response hresponse :=
    (h.threads thread hthread response hresponse).mono (List.subset_cons_self g s.given)

lemma Sound.withThreads (h : s.Sound) {threads : List NiThread}
    (hthreads : ∀ thread ∈ threads, ∀ response ∈ thread.pc.toSend,
      s.MayAnswer response.1 response.2) :
    Sound { s with threads := threads } where
  counter := h.counter
  allocated := h.allocated
  distinct := h.distinct
  reported := h.reported
  task := Knows.mono (fun _ _ hraw => hraw) (List.Subset.refl _) rfl h.task
  received := h.received
  threads := hthreads

lemma raw_set (slot other : NiSlot) (session : NiSession) :
    (s.set slot session).raw other = if other = slot then session.rawRequest else s.raw other := by
  rw [raw, set]
  simp only [Function.update_apply]
  split
  · rfl
  · rfl

lemma sessions_set_self (slot : NiSlot) (session : NiSession) :
    (s.set slot session).sessions slot = session := Function.update_self ..

lemma sessions_set_of_ne {slot other : NiSlot} (hne : other ≠ slot) (session : NiSession) :
    (s.set slot session).sessions other = s.sessions other := Function.update_of_ne hne ..

/-- What waits in the sessions after one of them is written to. -/
lemma Sound.received_set (h : s.Sound) {slot : NiSlot} {session : NiSession}
    (hkeep : s.MayKeep session) (other : NiSlot) :
    s.MayKeep ((s.set slot session).sessions other) := by
  by_cases heq : other = slot
  · subst heq
    rw [sessions_set_self]
    exact hkeep
  · rw [sessions_set_of_ne heq]
    exact h.received other

/-- A session is written to, without a new request, and an outstanding request keeps its id. -/
lemma Sound.set (h : s.Sound) {slot : NiSlot} {session : NiSession}
    (hraw : ∀ request, session.rawRequest = some request → s.raw slot = some request)
    (hid : session.rawRequest ≠ none → s.task ≠ .allocate slot →
      session.reqID = (s.sessions slot).reqID)
    (hkeep : s.MayKeep session) : (s.set slot session).Sound := by
  have hends : ∀ other request, (s.set slot session).raw other = some request →
      s.raw other = some request := by
    intro other request hother
    rw [raw_set] at hother
    split at hother
    · next heq => exact heq ▸ hraw request hother
    · exact hother
  refine ⟨h.counter, ?_, ?_, ?_, ?_, h.received_set hkeep, h.threads⟩
  · intro other request hother
    have hold := h.allocated other request (hends other request hother)
    by_cases htask : s.task = .allocate other
    · rw [Allocated, if_pos htask] at hold
      rw [Allocated, if_pos (show (s.set slot session).task = .allocate other from htask)]
      exact hold
    · rw [Allocated, if_neg htask] at hold
      rw [Allocated, if_neg (show (s.set slot session).task ≠ .allocate other from htask)]
      refine ⟨hold.1, ?_⟩
      by_cases heq : other = slot
      · subst heq
        rw [raw_set, if_pos rfl] at hother
        rw [sessions_set_self, hid (by simp [hother]) htask]
        exact hold.2
      · rw [sessions_set_of_ne heq]
        exact hold.2
  · intro slot₁ slot₂ request h₁ h₂
    exact h.distinct slot₁ slot₂ request (hends _ _ h₁) (hends _ _ h₂)
  · intro report hreport
    exact ⟨(h.reported report hreport).1, (h.reported report hreport).2.mono hends⟩
  · exact Knows.mono hends (List.Subset.refl _) rfl h.task

end Frame

/-! ## The adapter task -/

section Adapter

variable {s : NiData}

lemma raw_freeSession {type : GnssNiType} {slot : NiSlot} (h : s.freeSession type = some slot) :
    s.raw slot = none := by
  have hsession : ∀ p : Prop, [Decidable p] →
      (if s.raw .session ≠ none ∨ p then none else some NiSlot.session) = some slot →
      s.raw slot = none := by
    intro p _ hslot
    split at hslot
    · cases hslot
    · next hfree =>
        cases hslot
        exact not_not.mp fun hne => hfree (.inl hne)
  cases type with
  | voice => exact hsession _ h
  | supl => exact hsession _ h
  | controlPlane => exact hsession _ h
  | emergencySupl =>
      rw [freeSession] at h
      split at h
      · cases h
      · next hfree =>
          cases h
          exact not_not.mp hfree

lemma ne_allocate_of_idle (h : s.task = .idle) (slot : NiSlot) : s.task ≠ .allocate slot := by
  rw [h]
  exact NiTask.noConfusion

lemma sound_requestNiNotify (h : s.Sound) (hidle : s.task = .idle) (registered : Bool)
    (type : GnssNiType) (data : Bool) : (s.requestNiNotify registered type data).Sound := by
  rw [requestNiNotify]
  split
  · split
    · next slot hslot =>
        exact h.withTask (ne_allocate_of_idle hidle) (fun _ => NiTask.noConfusion)
          (raw_freeSession hslot)
    · exact h
  · exact h

lemma sound_gnssNiResponse (h : s.Sound) (hidle : s.task = .idle) (registered : Bool)
    (id : UInt32) (resp : GnssNiResponse) : (s.gnssNiResponse registered id resp).1.Sound := by
  have hgive := h.give ⟨s.requests, id, resp⟩
  rw [gnssNiResponse]
  split
  · exact hgive.withTask (ne_allocate_of_idle hidle) (fun _ => NiTask.noConfusion)
      (List.mem_cons_self ..)
  · exact hgive

/-- The user's response reaches an active session for the request of that session. -/
lemma canReceive_of_isActive (h : s.Sound) {slot : NiSlot} {id : UInt32} {resp : GnssNiResponse}
    (htask : s.task ≠ .allocate slot) (hgiven : ⟨s.requests, id, resp⟩ ∈ s.given)
    (hactive : s.IsActive slot id) : s.CanReceive slot resp := by
  intro request hraw
  have hslot := h.allocated slot request hraw
  rw [Allocated, if_neg htask] at hslot
  exact ⟨_, hgiven, hslot.1, hactive.1.trans hslot.2, rfl⟩

/-- A response is put where it may be sent. -/
lemma sound_receive (h : s.Sound) {slot : NiSlot} {resp : GnssNiResponse}
    (hresp : Harmless resp ∨ ∃ request, s.raw slot = some request ∧ s.GivenFor request resp) :
    (s.receive slot resp).Sound :=
  h.set (fun _ hraw => hraw) (fun _ _ => rfl) fun _ => hresp

/-- The request is saved in a free session, under a number that no other request has. -/
lemma sound_save (h : s.Sound) {slot : NiSlot} {data : Bool} (htask : s.task = .save slot data)
    {session : NiSession}
    (hsession : session = { s.sessions slot with
      rawRequest := if data then some (s.requests + 1) else none }) :
    Sound { s.set slot session with task := .allocate slot } := by
  have hfree : s.raw slot = none := by
    have hknows := h.task
    rw [htask] at hknows
    exact hknows
  have hnew : ∀ request, (s.set slot session).raw slot = some request →
      request = s.requests + 1 := by
    intro request hraw
    rw [raw_set, if_pos rfl, hsession] at hraw
    simp only at hraw
    split at hraw
    · exact (Option.some.inj hraw).symm
    · cases hraw
  have hother : ∀ other request, other ≠ slot → (s.set slot session).raw other = some request →
      s.raw other = some request ∧ request ≤ s.requests ∧
        (s.sessions other).reqID = UInt32.ofNat request := by
    intro other request hne hraw
    rw [raw_set, if_neg hne] at hraw
    have hold := h.allocated other request hraw
    rw [Allocated, if_neg (by rw [htask]; exact NiTask.noConfusion)] at hold
    exact ⟨hraw, hold⟩
  have hkeep : s.MayKeep session := by
    rw [hsession]
    intro hrecvd
    rcases h.received slot hrecvd with hharmless | ⟨request, hraw, -⟩
    · exact .inl hharmless
    · exact absurd (hfree.symm.trans hraw) (by simp)
  refine ⟨h.counter, ?_, ?_, ?_, trivial, h.received_set hkeep, h.threads⟩
  · intro other request hraw
    by_cases hne : other = slot
    · subst hne
      rw [Allocated, if_pos rfl]
      exact hnew request hraw
    · rw [Allocated, if_neg fun heq => hne (NiTask.allocate.inj heq).symm]
      obtain ⟨-, hold⟩ := hother other request hne hraw
      show request ≤ s.requests ∧ ((s.set slot session).sessions other).reqID = _
      rw [sessions_set_of_ne hne]
      exact hold
  · intro slot₁ slot₂ request h₁ h₂
    by_cases hne₁ : slot₁ = slot
    · by_cases hne₂ : slot₂ = slot
      · exact hne₁.trans hne₂.symm
      · subst hne₁
        have hlt := (hother slot₂ request hne₂ h₂).2.1
        have heq := hnew request h₁
        omega
    · by_cases hne₂ : slot₂ = slot
      · subst hne₂
        have hlt := (hother slot₁ request hne₁ h₁).2.1
        have heq := hnew request h₂
        omega
      · exact h.distinct slot₁ slot₂ request (hother _ _ hne₁ h₁).1 (hother _ _ hne₂ h₂).1
  · intro report hreport
    obtain ⟨hle, hid⟩ := h.reported report hreport
    refine ⟨hle, fun other hraw => ?_⟩
    by_cases hne : other = slot
    · subst hne
      have heq := hnew _ hraw
      omega
    · exact hid other (hother other _ hne hraw).1

/-- The request that has just been saved gets the next id. -/
lemma sound_allocate (h : s.Sound) {slot : NiSlot} (htask : s.task = .allocate slot)
    {session : NiSession}
    (hsession : session = { s.sessions slot with reqID := s.reqIDCounter + 1 }) :
    Sound { s.set slot session with
      reqIDCounter := s.reqIDCounter + 1
      requests := s.requests + 1
      task := .readId slot } := by
  have hcounter : s.reqIDCounter + 1 = UInt32.ofNat (s.requests + 1) := by
    rw [h.counter, UInt32.ofNat_add]
    rfl
  have hkept : ∀ other, (s.set slot session).raw other = s.raw other := by
    intro other
    rw [raw_set]
    split
    · next heq =>
        rw [hsession, heq]
        rfl
    · rfl
  have hnew : ∀ request, s.raw slot = some request → request = s.requests + 1 := by
    intro request hraw
    have hold := h.allocated slot request hraw
    rw [Allocated, if_pos htask] at hold
    exact hold
  have hother : ∀ other request, other ≠ slot → s.raw other = some request →
      request ≤ s.requests ∧ (s.sessions other).reqID = UInt32.ofNat request := by
    intro other request hne hraw
    have hold := h.allocated other request hraw
    rw [Allocated, if_neg (by rw [htask]; exact fun heq => hne (NiTask.allocate.inj heq).symm)]
      at hold
    exact hold
  have hkeep : s.MayKeep session := by
    rw [hsession]
    exact h.received slot
  refine ⟨hcounter, ?_, ?_, ?_, ?_, h.received_set hkeep, h.threads⟩
  · intro other request hraw
    have hold : s.raw other = some request := (hkept other).symm.trans hraw
    rw [Allocated, if_neg NiTask.noConfusion]
    show request ≤ s.requests + 1 ∧ ((s.set slot session).sessions other).reqID = _
    by_cases hne : other = slot
    · subst hne
      rw [sessions_set_self, hsession, hnew request hold]
      exact ⟨le_rfl, hcounter⟩
    · rw [sessions_set_of_ne hne]
      obtain ⟨hle, hid⟩ := hother other request hne hold
      exact ⟨Nat.le_succ_of_le hle, hid⟩
  · intro slot₁ slot₂ request h₁ h₂
    exact h.distinct slot₁ slot₂ request ((hkept _).symm.trans h₁) ((hkept _).symm.trans h₂)
  · intro report hreport
    obtain ⟨hle, hid⟩ := h.reported report hreport
    exact ⟨Nat.le_succ_of_le hle, fun other hraw => hid other ((hkept _).symm.trans hraw)⟩
  · intro other hraw
    by_contra hne
    have hle := (hother other _ hne ((hkept _).symm.trans hraw)).1
    exact absurd hle (Nat.not_succ_le_self _)

lemma raw_receive {slot : NiSlot} {resp : GnssNiResponse} (other : NiSlot) :
    (s.receive slot resp).raw other = s.raw other := by
  rw [receive, raw_set]
  split
  · next heq => rw [heq, raw]
  · rfl

/-- A thread that is created has no response yet. -/
lemma sound_createThread (h : s.Sound) {slot : NiSlot} {sessionId : UInt32} {created : Bool}
    (htask : s.task = .createThread slot sessionId) :
    Sound { s with
      threads := if created then s.threads ++ [⟨slot, .start⟩] else s.threads
      task := .notify sessionId } := by
  have hknows := h.task
  rw [htask] at hknows
  have hthreads : Sound { s with
      threads := if created then s.threads ++ [⟨slot, .start⟩] else s.threads } := by
    refine h.withThreads fun thread hthread => ?_
    split at hthread
    · rcases List.mem_append.mp hthread with hold | hnew
      · exact h.threads thread hold
      · rw [List.mem_singleton.mp hnew]
        intro response hresponse
        cases hresponse
    · exact h.threads thread hthread
  exact hthreads.withTask (by simp [htask]) (by simp) hknows

/-- The session is reported under the id that was read for it. -/
lemma sound_notify (h : s.Sound) {sessionId : UInt32} (htask : s.task = .notify sessionId) :
    Sound { s with reported := (s.requests, sessionId) :: s.reported, task := .idle } := by
  have hknows := h.task
  rw [htask] at hknows
  have hidle : Sound { s with task := .idle } :=
    h.withTask (by simp [htask]) (by simp) trivial
  refine ⟨hidle.counter, hidle.allocated, hidle.distinct, ?_, trivial, hidle.received,
    hidle.threads⟩
  intro report hreport
  rcases List.mem_cons.mp hreport with rfl | hold
  · exact ⟨le_rfl, hknows⟩
  · exact h.reported report hold

lemma sound_adapterStep (h : s.Sound) (created : Bool) (hintime : s.RespondsInTime s.task) :
    (s.adapterStep created).1.Sound := by
  have hknows := h.task
  rw [adapterStep]
  cases htask : s.task with
  | idle => exact h
  | save slot data => exact sound_save h htask rfl
  | allocate slot => exact sound_allocate h htask rfl
  | readId slot =>
      rw [htask] at hknows
      refine h.withTask (by simp [htask]) (by simp) fun other hraw => ?_
      obtain rfl : other = slot := hknows other hraw
      have hold := h.allocated other _ hraw
      rw [Allocated, if_neg (by simp [htask])] at hold
      exact hold.2
  | createThread slot sessionId => exact sound_createThread h htask
  | notify sessionId => exact sound_notify h htask
  | testEs id resp =>
      rw [htask] at hknows
      dsimp only
      split
      · next hactive =>
          exact h.withTask (by simp [htask]) (by simp)
            (canReceive_of_isActive h (by simp [htask]) hknows hactive)
      · exact h.withTask (by simp [htask]) (by simp) hknows
  | testAccepted id resp =>
      rw [htask] at hknows
      dsimp only
      split
      · exact h.withTask (by simp [htask]) (by simp) hknows
      · exact h.withTask (by simp [htask]) (by simp) hknows
  | ignoreSession id resp =>
      rw [htask] at hknows
      have hreceive : (s.receive .session .ignore).Sound := sound_receive h (.inl (.inl rfl))
      refine hreceive.withTask (by simp [receive, set, htask]) (by simp) ?_
      have hes : s.CanReceive .sessionEs resp := hknows
      exact hes.mono (fun other request hraw => (raw_receive other).symm.trans hraw)
        (List.Subset.refl _)
  | testSession id resp =>
      rw [htask] at hknows
      dsimp only
      split
      · next hactive =>
          exact h.withTask (by simp [htask]) (by simp)
            (canReceive_of_isActive h (by simp [htask]) hknows hactive)
      · exact h.withTask (by simp [htask]) (by simp) trivial
  | respond slot id resp =>
      rw [htask] at hknows hintime
      refine (sound_receive h ?_).withTask (by simp [receive, set, htask]) (by simp) trivial
      rcases hintime with hraw | hharmless
      · obtain ⟨request, hrequest⟩ := Option.ne_none_iff_exists'.mp hraw
        exact .inr ⟨request, hrequest, hknows request hrequest⟩
      · exact .inl hharmless

end Adapter

/-! ## The threads -/

section Threads

variable {s : NiData} {thread : NiThread}

/-- A thread that looks at the session stops waiting with the user's response, or waits. -/
lemma look_cases (session : NiSession) :
    (session.respRecvd = true ∧
        (if session.respRecvd then stopWaiting session else (session, .waiting)) =
          stopWaiting session) ∨
      (if session.respRecvd then stopWaiting session else (session, .waiting)) =
        (session, .waiting) := by
  by_cases hrecvd : session.respRecvd = true
  · exact .inl ⟨hrecvd, if_pos hrecvd⟩
  · exact .inr (if_neg hrecvd)

/-- What a step of a thread can do: stop waiting, with no response or with the user's, forget the
id, or leave the session as it is. -/
lemma niThreadProc_cases (session : NiSession) (pc : NiThreadPc) (timedOut : Bool) :
    (∃ resp, (resp = .noResponse ∨ session.respRecvd = true ∧ resp = session.resp) ∧
        (niThreadProc session pc timedOut).1 = stopWaiting { session with resp := resp }) ∨
      (∃ response, pc = .unlocked response ∧
        (niThreadProc session pc timedOut).1.1 = { session with reqID := 0 } ∧
        (niThreadProc session pc timedOut).1.2.toSend = response) ∨
      ((niThreadProc session pc timedOut).1.1 = session ∧
        ∀ response ∈ (niThreadProc session pc timedOut).1.2.toSend, response ∈ pc.toSend) := by
  cases pc with
  | start =>
      rw [niThreadProc]
      rcases look_cases session with ⟨hrecvd, hlook⟩ | hlook
      · exact .inl ⟨session.resp, .inr ⟨hrecvd, rfl⟩, hlook⟩
      · rw [hlook]
        exact .inr (.inr ⟨rfl, fun response hresponse => by cases hresponse⟩)
  | waiting =>
      rw [niThreadProc]
      by_cases htimedOut : timedOut = true
      · rw [if_pos htimedOut]
        exact .inl ⟨.noResponse, .inl rfl, rfl⟩
      · rw [if_neg htimedOut]
        rcases look_cases session with ⟨hrecvd, hlook⟩ | hlook
        · exact .inl ⟨session.resp, .inr ⟨hrecvd, rfl⟩, hlook⟩
        · rw [hlook]
          exact .inr (.inr ⟨rfl, fun response hresponse => by cases hresponse⟩)
  | unlocked response =>
      cases response with
      | none => exact .inr (.inl ⟨none, rfl, rfl, rfl⟩)
      | some response => exact .inr (.inl ⟨some response, rfl, rfl, rfl⟩)
  | responding response => exact .inr (.inr ⟨rfl, fun _ hresponse => by cases hresponse⟩)
  | done => exact .inr (.inr ⟨rfl, fun _ hresponse => hresponse⟩)

/-- A thread that has stopped waiting sends a response that may be sent. -/
lemma mayAnswer_of_toSend (h : s.Sound) {slot : NiSlot} {resp : GnssNiResponse}
    (hresp : resp = .noResponse ∨ (s.sessions slot).respRecvd = true ∧
      resp = (s.sessions slot).resp) :
    ∀ response ∈ toSend { s.sessions slot with resp := resp },
      s.MayAnswer response.1 response.2 := by
  rintro response hresponse
  obtain ⟨request, hraw, hif⟩ := Option.bind_eq_some_iff.mp hresponse
  split at hif
  · next hignore =>
      cases hif
      rcases hresp with hnone | ⟨hrecvd, rfl⟩
      · exact .inl hnone
      · rcases h.received slot hrecvd with hharmless | ⟨other, hother, hgiven⟩
        · exact .inl (hharmless.resolve_left hignore)
        · obtain rfl : other = request := Option.some.inj (hother.symm.trans hraw)
          exact .inr hgiven
  · cases hif

/-- A step of a thread on its session, with what the thread still has to send. -/
lemma sound_niThreadProc (h : s.Sound) (hthread : thread ∈ s.threads)
    (hintime : s.ForgetsInTime thread) (timedOut : Bool) :
    (s.set thread.slot (niThreadProc (s.sessions thread.slot) thread.pc timedOut).1.1).Sound ∧
      ∀ response ∈ (niThreadProc (s.sessions thread.slot) thread.pc timedOut).1.2.toSend,
        s.MayAnswer response.1 response.2 := by
  rcases niThreadProc_cases (s.sessions thread.slot) thread.pc timedOut with
    ⟨resp, hresp, hstop⟩ | ⟨response, hpc, hsession, hsend⟩ | ⟨hsession, hsend⟩
  · rw [hstop]
    constructor
    · refine h.set (fun request hraw => ?_) (fun hraw => absurd rfl hraw) fun hrecvd => ?_
      · cases hraw
      · cases hrecvd
    · exact mayAnswer_of_toSend h hresp
  · rw [hsession, hsend]
    constructor
    · refine h.set (fun request hraw => hraw) (fun hraw htask => ?_) (h.received thread.slot)
      rw [ForgetsInTime, hpc] at hintime
      rcases hintime with hnone | halloc | hzero
      · exact absurd hnone hraw
      · exact absurd halloc htask
      · exact hzero.symm
    · intro response' hresponse'
      refine h.threads thread hthread response' ?_
      rw [hpc]
      exact hresponse'
  · rw [hsession]
    constructor
    · exact h.set (fun request hraw => hraw) (fun _ _ => rfl) (h.received thread.slot)
    · exact fun response hresponse =>
        h.threads thread hthread response (hsend response hresponse)

lemma sound_threadStep (h : s.Sound) (i : ℕ) (timedOut : Bool)
    (hintime : ∀ thread ∈ s.threads[i]?, s.ForgetsInTime thread) :
    (s.threadStep i timedOut).1.Sound := by
  rw [threadStep]
  cases hi : s.threads[i]? with
  | none => exact h
  | some thread =>
      have hthread := List.mem_of_getElem? hi
      obtain ⟨hset, hsend⟩ := sound_niThreadProc h hthread (hintime thread hi) timedOut
      refine hset.withThreads fun other hother => ?_
      rcases List.mem_or_eq_of_mem_set hother with hold | rfl
      · exact h.threads other hold
      · exact hsend

/-- A thread only sends the response that it has been carrying. -/
lemma answers_threadStep (h : s.Sound) (i : ℕ) (timedOut : Bool) :
    ∀ o ∈ (s.threadStep i timedOut).2, o.Answers s := by
  rw [threadStep]
  cases hi : s.threads[i]? with
  | none => simp
  | some thread =>
      have hsound := h.threads thread (List.mem_of_getElem? hi)
      cases hpc : thread.pc with
      | start => simp [niThreadProc, hpc]
      | waiting => simp [niThreadProc, hpc]
      | unlocked response => cases response <;> simp [niThreadProc, hpc]
      | responding response =>
          rw [hpc] at hsound
          intro o ho
          obtain rfl : o = .gnssNiResponseCommand response.2 response.1 := by
            simpa [niThreadProc, hpc] using ho
          exact hsound response rfl
      | done => simp [niThreadProc, hpc]

end Threads

/-! ## Runs -/

section Runs

variable {s : NiData}

lemma sound_next (h : s.Sound) (e : Event) (hu : Undisturbed s e) : (machine.next s e).Sound := by
  cases e with
  | requestNiNotify registered type data =>
      show (if s.task = .idle then s.requestNiNotify registered type data else s).Sound
      split
      · next hidle => exact sound_requestNiNotify h hidle registered type data
      · exact h
  | gnssNiResponse registered id resp =>
      show (if s.task = .idle then s.gnssNiResponse registered id resp else (s, [])).1.Sound
      split
      · next hidle => exact sound_gnssNiResponse h hidle registered id resp
      · exact h
  | adapter created => exact sound_adapterStep h created hu
  | thread i timedOut => exact sound_threadStep h i timedOut hu

/-- The adapter task sends nothing to the modem. -/
lemma answers_adapterStep (created : Bool) : ∀ o ∈ (s.adapterStep created).2, o.Answers s := by
  rw [adapterStep]
  cases s.task with
  | idle => simp
  | save slot data => simp
  | allocate slot => simp
  | readId slot => simp
  | createThread slot sessionId => simp
  | notify sessionId => simp [Output.Answers]
  | testEs id resp =>
      dsimp only
      split
      · simp
      · simp
  | testAccepted id resp =>
      dsimp only
      split
      · simp
      · simp
  | ignoreSession id resp => simp
  | testSession id resp =>
      dsimp only
      split
      · simp
      · simp [Output.Answers]
  | respond slot id resp => simp [Output.Answers]

lemma answers_of_sound (h : s.Sound) (e : Event) : Answers s e := by
  cases e with
  | requestNiNotify registered type data => exact fun o ho => by cases ho
  | gnssNiResponse registered id resp =>
      show ∀ o ∈ (if s.task = .idle then s.gnssNiResponse registered id resp else (s, [])).2,
        o.Answers s
      split
      · rw [gnssNiResponse]
        split
        · simp
        · simp [Output.Answers]
      · simp
  | adapter created => exact answers_adapterStep created
  | thread i timedOut => exact answers_threadStep h i timedOut

lemma identified_of_sound (h : s.Sound) : s.Identified := by
  intro slot report hreport hraw
  obtain ⟨hle, hid⟩ := h.reported report hreport
  have hold := h.allocated slot report.1 hraw
  rw [Allocated] at hold
  split at hold
  · omega
  · exact hold.2.trans (hid slot hraw).symm

/-- Every response is sent for the request for whose id the user gave it, and an outstanding request
keeps the id that was reported for it, in a run in which no session ends between the test and the
critical section of a response, and no thread forgets the id of a newer request. -/
theorem answers_of_undisturbed (es : List Event) (h : machine.Steps Undisturbed {} es) :
    machine.Steps Answers {} es ∧ machine.Always Identified {} es := by
  have hsound : machine.Always Sound {} es :=
    Machine.always_of_steps (fun s e hs hu => sound_next hs e hu) sound_init h
  constructor
  · exact hsound.steps fun s e hs => answers_of_sound hs e
  · exact hsound.mono fun s hs => identified_of_sound hs

end Runs

/-! ## The two defects -/

/-- A request is saved, given an id, and reported. -/
def request (type : GnssNiType) : List Event :=
  .requestNiNotify true type true :: List.replicate 5 (.adapter true)

/-- The user's response to a request that is not an emergency. -/
def response (id : UInt32) (resp : GnssNiResponse) : List Event :=
  .gnssNiResponse true id resp :: List.replicate 3 (.adapter true)

/-- A request is accepted by the user, and the next one times out. -/
def acceptedInTime : List Event :=
  request .supl ++ [.thread 0 false] ++ response 1 .accept ++ List.replicate 3 (.thread 0 false) ++
    request .supl ++ [.thread 1 false, .thread 1 true, .thread 1 false, .thread 1 false]

/-- The thread of the first request times out after the user's response has been tested, and the
response is left for the thread of the next request. -/
def lateResponse : List Event :=
  request .supl ++ [.thread 0 false, .gnssNiResponse true 1 .accept, .adapter true, .adapter true,
    .thread 0 true, .thread 0 false, .thread 0 false, .adapter true] ++
    request .supl ++ List.replicate 3 (.thread 1 false)

/-- The thread of the first request forgets the id of the next one. -/
def lateReset : List Event :=
  request .supl ++ [.thread 0 false, .thread 0 true] ++ request .supl ++ [.thread 0 false]

theorem answers_acceptedInTime :
    machine.Steps Undisturbed {} acceptedInTime ∧
      .gnssNiResponseCommand .accept 1 ∈ machine.outs {} acceptedInTime ∧
      machine.Steps Answers {} acceptedInTime ∧ machine.Always Identified {} acceptedInTime :=
  have hu : machine.Steps Undisturbed {} acceptedInTime := by decide
  ⟨hu, by decide, answers_of_undisturbed acceptedInTime hu⟩

/-- The second request is sent the response for the first, and a request loses its id. -/
theorem late_response_and_reset :
    (.gnssNiResponseCommand .accept 2 ∈ machine.outs {} lateResponse ∧
      ¬ machine.Steps Answers {} lateResponse) ∧ ¬ machine.Always Identified {} lateReset := by
  decide

end NiData

end LocHal
