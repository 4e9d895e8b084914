import LocHal.Lib.Machine
import LocHal.Location.BiDict
import LocHal.Location.LocationTypes

/-!
# Geofence calls of a location client (`gps/location/LocationAPIClientBase.cpp`)

The geofences that a client has added are kept in `mGeofenceBiDict`, by the ids that the client
chose and by the sessions that the HAL gave out for them.  All their requests wait in one queue, in
the order of the calls, and a collective response belongs to the one at the front.

`always_bijective_iff`: the dictionary stays a bijection exactly as long as no call adds a geofence
under an id that is in the dictionary, or twice under one id.  Such a call puts the new session in
the place of the old one, which keeps pointing back to the id.
-/

namespace LocHal

/-- The requests of geofence calls, named after their classes. -/
inductive GeofenceRequest where
  | addGeofences
  | removeGeofences (mRemovedGeofenceBiDict : BiDict ℕ)
  | modifyGeofences
  | pauseGeofences
  | resumeGeofences

/-- What the HAL is asked to do with the sessions it has given out. -/
inductive GeofenceCommand where
  | removeGeofences
  | modifyGeofences
  | pauseGeofences
  | resumeGeofences
deriving DecidableEq, Repr

/-- The part of `LocationAPIClientBase` that concerns geofences: the session of
`mRequestQueues[REQUEST_GEOFENCE]` and its requests, the dictionary, and the sessions that the HAL
has given out so far, which no code reads. -/
structure GeofenceClient where
  mSession : ℕ
  mQueue : List GeofenceRequest
  mGeofenceBiDict : BiDict ℕ
  given : List ℕ

namespace GeofenceClient

/-- `GEOFENCE_SESSION_ID`. -/
def geofenceSessionId : ℕ := 0xFFFFFFFF

/-- The constructor. -/
def init : GeofenceClient := ⟨0, [], .empty, []⟩

/-- What is observed: the result of a call, a command to the HAL, and the callback for a collective
response, with the request that it is taken for. -/
inductive Output where
  | returned (error : LocationError)
  | sent (command : GeofenceCommand) (sessions : List ℕ)
  | calledBack (request : GeofenceRequest) (ids : List ℕ)

/-- `push` of a request. -/
def push (s : GeofenceClient) (request : GeofenceRequest) : GeofenceClient :=
  { s with mQueue := s.mQueue ++ [request] }

/-- The loop of `locAPIAddGeofences`, over the ids with their masks and sessions. -/
def setAll (d : BiDict ℕ) (fences : List ((ℕ × ℕ) × ℕ)) : BiDict ℕ :=
  fences.foldl (fun d fence => d.set fence.1.1 fence.2 fence.1.2) d

/-- `locAPIAddGeofences`, where the HAL returns `sessions`, or `nullptr`. -/
def locAPIAddGeofences (s : GeofenceClient) (fences : List (ℕ × ℕ)) (sessions : Option (List ℕ)) :
    GeofenceClient × List Output :=
  let s := if s.mSession ≠ geofenceSessionId then
      { s with mSession := geofenceSessionId, mQueue := [] } else s
  match sessions with
  | some sessions =>
      ({ s.push .addGeofences with
          mGeofenceBiDict := setAll s.mGeofenceBiDict (fences.zip sessions)
          given := s.given ++ sessions }, [.returned .success])
  | none => (s, [.returned .generalFailure])

/-- One round of the loop of `locAPIRemoveGeofences`: the dictionary, the one of the removed, and
the sessions to remove. -/
def removeOne (acc : BiDict ℕ × BiDict ℕ × List ℕ) (id : ℕ) : BiDict ℕ × BiDict ℕ × List ℕ :=
  let session := acc.1.getSession id
  if session > 0 then
    (acc.1.rmBySession session, acc.2.1.set id session (acc.1.getExtBySession session),
      acc.2.2 ++ [session])
  else acc

/-- `locAPIRemoveGeofences`. -/
def locAPIRemoveGeofences (s : GeofenceClient) (ids : List ℕ) : GeofenceClient × List Output :=
  if s.mSession = geofenceSessionId then
    let removed := ids.foldl removeOne (s.mGeofenceBiDict, .empty, [])
    let s := { s with mGeofenceBiDict := removed.1 }
    if removed.2.2 ≠ [] then
      (s.push (.removeGeofences removed.2.1), [.sent .removeGeofences removed.2.2])
    else (s, [])
  else (s, [])

/-- One round of the loops of the calls on geofences there are; `ext` is what `set` is given, if it
is called. -/
def changeOne (acc : BiDict ℕ × List ℕ) (fence : ℕ × Option ℕ) : BiDict ℕ × List ℕ :=
  let session := acc.1.getSession fence.1
  if session > 0 then
    ((fence.2.elim acc.1 fun ext => acc.1.set fence.1 session ext), acc.2 ++ [session])
  else acc

/-- What the calls on geofences there are have in common. -/
def change (s : GeofenceClient) (fences : List (ℕ × Option ℕ)) (request : GeofenceRequest)
    (command : GeofenceCommand) : GeofenceClient × List Output :=
  if s.mSession = geofenceSessionId then
    let changed := fences.foldl changeOne (s.mGeofenceBiDict, [])
    let s := { s with mGeofenceBiDict := changed.1 }
    if changed.2 ≠ [] then (s.push request, [.sent command changed.2]) else (s, [])
  else (s, [])

/-- `locAPIModifyGeofences`, for ids with their masks. -/
def locAPIModifyGeofences (s : GeofenceClient) (fences : List (ℕ × ℕ)) :
    GeofenceClient × List Output :=
  s.change (fences.map fun fence => (fence.1, some fence.2)) .modifyGeofences .modifyGeofences

/-- `locAPIPauseGeofences`. -/
def locAPIPauseGeofences (s : GeofenceClient) (ids : List ℕ) : GeofenceClient × List Output :=
  s.change (ids.map fun id => (id, none)) .pauseGeofences .pauseGeofences

/-- `locAPIResumeGeofences`, for ids with their masks; `hasMask` is `mask != nullptr`. -/
def locAPIResumeGeofences (s : GeofenceClient) (fences : List (ℕ × ℕ)) (hasMask : Bool) :
    GeofenceClient × List Output :=
  s.change (fences.map fun fence => (fence.1, if hasMask then some fence.2 else none))
    .resumeGeofences .resumeGeofences

/-- `locAPIRemoveAllGeofences`, which passes sessions where ids are expected. -/
def locAPIRemoveAllGeofences (s : GeofenceClient) : GeofenceClient × List Output :=
  s.locAPIRemoveGeofences s.mGeofenceBiDict.getAllSessions

/-- `onCollectiveResponse` of a request: the ids that are passed to its callback. -/
def onCollectiveResponse (s : GeofenceClient) (request : GeofenceRequest) (sessions : List ℕ) :
    List ℕ :=
  match request with
  | .removeGeofences mRemovedGeofenceBiDict => sessions.map mRemovedGeofenceBiDict.getId
  | _ => sessions.map s.mGeofenceBiDict.getId

/-- `onCollectiveResponseCb`. -/
def onCollectiveResponseCb (s : GeofenceClient) (sessions : List ℕ) :
    GeofenceClient × List Output :=
  if s.mSession = geofenceSessionId then
    match s.mQueue with
    | request :: queue =>
        ({ s with mQueue := queue },
          [.calledBack request (s.onCollectiveResponse request sessions)])
    | [] => (s, [])
  else (s, [])

/-- A call of the client, or a collective response of the HAL. -/
inductive Event where
  | locAPIAddGeofences (fences : List (ℕ × ℕ)) (sessions : Option (List ℕ))
  | locAPIRemoveGeofences (ids : List ℕ)
  | locAPIModifyGeofences (fences : List (ℕ × ℕ))
  | locAPIPauseGeofences (ids : List ℕ)
  | locAPIResumeGeofences (fences : List (ℕ × ℕ)) (hasMask : Bool)
  | locAPIRemoveAllGeofences
  | onCollectiveResponseCb (sessions : List ℕ)
deriving DecidableEq, Repr

/-- One event. -/
def step (s : GeofenceClient) : Event → GeofenceClient × List Output
  | .locAPIAddGeofences fences sessions => s.locAPIAddGeofences fences sessions
  | .locAPIRemoveGeofences ids => s.locAPIRemoveGeofences ids
  | .locAPIModifyGeofences fences => s.locAPIModifyGeofences fences
  | .locAPIPauseGeofences ids => s.locAPIPauseGeofences ids
  | .locAPIResumeGeofences fences hasMask => s.locAPIResumeGeofences fences hasMask
  | .locAPIRemoveAllGeofences => s.locAPIRemoveAllGeofences
  | .onCollectiveResponseCb sessions => s.onCollectiveResponseCb sessions

/-- The client as a machine. -/
def machine : Machine GeofenceClient Event Output := ⟨step⟩

/-! ## The loops -/

section Loops

variable {d : BiDict ℕ}

/-- A session that points back to an id which has another one. -/
def Stale (d : BiDict ℕ) (session id : ℕ) : Prop :=
  d.mBackwardMap[session]? = some id ∧ d.mForwardMap[id]? ≠ some session

lemma Stale.not_bijective {session id : ℕ} (h : Stale d session id) : ¬ d.Bijective :=
  fun hb => h.2 ((hb.inverse id session).mpr h.1)

lemma setAll_cons (d : BiDict ℕ) (fence : (ℕ × ℕ) × ℕ) (fences : List ((ℕ × ℕ) × ℕ)) :
    setAll d (fence :: fences) = setAll (d.set fence.1.1 fence.2 fence.1.2) fences := rfl

/-- A stale session is only got rid of by its own return. -/
lemma Stale.setAll {session id : ℕ} {fences : List ((ℕ × ℕ) × ℕ)} (h : Stale d session id)
    (hne : ∀ fence ∈ fences, fence.2 ≠ session) : Stale (setAll d fences) session id := by
  induction fences generalizing d with
  | nil => exact h
  | cons fence fences ih =>
      have hfence : session ≠ fence.2 := (hne fence List.mem_cons_self).symm
      rw [setAll_cons]
      refine ih ⟨?_, ?_⟩ fun fence' hmem => hne fence' (List.mem_cons_of_mem fence hmem)
      · rw [BiDict.set, UintMap.getElem?_insert, if_neg hfence]
        exact h.1
      · rw [BiDict.set, UintMap.getElem?_insert]
        split
        · exact fun heq => hfence (Option.some.inj heq).symm
        · exact h.2

/-- New sessions leave a bijection exactly when they are set for ids that are new too. -/
lemma bijective_setAll_iff (h : d.Bijective) {fences : List ((ℕ × ℕ) × ℕ)}
    (hnodup : (fences.map Prod.snd).Nodup)
    (hnew : ∀ session ∈ fences.map Prod.snd, d.hasSession session = false) :
    (setAll d fences).Bijective ↔
      (fences.map fun fence => fence.1.1).Nodup ∧
        ∀ fence ∈ fences, d.hasId fence.1.1 = false := by
  induction fences generalizing d with
  | nil => exact iff_of_true h ⟨List.nodup_nil, by simp⟩
  | cons fence fences ih =>
      obtain ⟨hfirst, hrest⟩ := List.nodup_cons.mp hnodup
      have hsession : d.hasSession fence.2 = false := hnew fence.2 List.mem_cons_self
      cases hid : d.hasId fence.1.1 with
      | true =>
          -- the session that the id had becomes stale
          obtain ⟨session, hforward⟩ := BiDict.hasId_eq_true.mp hid
          have hbackward := (h.inverse _ _).mp hforward
          have hne : session ≠ fence.2 := by
            rintro rfl
            rw [BiDict.hasSession_eq_false, hbackward] at hsession
            cases hsession
          have hstale : Stale (d.set fence.1.1 fence.2 fence.1.2) session fence.1.1 := by
            refine ⟨?_, ?_⟩
            · rw [BiDict.set, UintMap.getElem?_insert, if_neg hne]
              exact hbackward
            · rw [BiDict.set, UintMap.getElem?_insert, if_pos rfl]
              exact fun heq => hne (Option.some.inj heq).symm
          have hnever : ¬ (setAll d (fence :: fences)).Bijective := by
            refine (hstale.setAll fun fence' hmem heq => ?_).not_bijective
            have hgone := hnew fence'.2 (List.mem_map_of_mem (List.mem_cons_of_mem fence hmem))
            rw [heq, BiDict.hasSession_eq_false, hbackward] at hgone
            cases hgone
          refine iff_of_false hnever fun hids => ?_
          rw [hids.2 fence List.mem_cons_self] at hid
          cases hid
      | false =>
          have hset := h.set hid hsession fence.1.2
          have hnew' : ∀ session ∈ fences.map Prod.snd,
              (d.set fence.1.1 fence.2 fence.1.2).hasSession session = false := by
            intro session hmem
            rw [← Bool.not_eq_true, BiDict.hasSession_set]
            rintro (rfl | hold)
            · exact hfirst hmem
            · rw [hnew session (List.mem_cons_of_mem _ hmem)] at hold
              cases hold
          have hids : ∀ id, (d.set fence.1.1 fence.2 fence.1.2).hasId id = false ↔
              id ≠ fence.1.1 ∧ d.hasId id = false := by
            intro id
            rw [← Bool.not_eq_true, BiDict.hasId_set, not_or, Bool.not_eq_true]
          rw [setAll_cons, ih hset hrest hnew', List.map_cons, List.nodup_cons]
          simp only [hids, List.forall_mem_cons, List.mem_map, not_exists, not_and]
          constructor
          · rintro ⟨hnd, hall⟩
            exact ⟨⟨fun fence' hmem => (hall fence' hmem).1, hnd⟩, hid,
              fun fence' hmem => (hall fence' hmem).2⟩
          · rintro ⟨⟨hno, hnd⟩, -, hall⟩
            exact ⟨hnd, fun fence' hmem => ⟨hno fence' hmem, hall fence' hmem⟩⟩

lemma hasSession_setAll {fences : List ((ℕ × ℕ) × ℕ)} {session : ℕ}
    (h : (setAll d fences).hasSession session = true) :
    session ∈ fences.map Prod.snd ∨ d.hasSession session = true := by
  induction fences generalizing d with
  | nil => exact .inr h
  | cons fence fences ih =>
      rcases ih h with hmem | hset
      · exact .inl (List.mem_cons_of_mem _ hmem)
      · rcases (BiDict.hasSession_set d _ _ _ _).mp hset with rfl | hold
        · exact .inl List.mem_cons_self
        · exact .inr hold

/-- A bijection that has no session which the other has not. -/
structure Below (d' d : BiDict ℕ) : Prop where
  bijective : d'.Bijective
  sessions : ∀ session, d'.hasSession session = true → d.hasSession session = true

lemma Below.refl (h : d.Bijective) : Below d d := ⟨h, fun _ hs => hs⟩

lemma below_removeOne {acc : BiDict ℕ × BiDict ℕ × List ℕ} (h : Below acc.1 d) (id : ℕ) :
    Below (removeOne acc id).1 d := by
  unfold removeOne
  simp only []
  split
  · rename_i hpos
    have hpair := BiDict.getElem?_of_getSession_pos hpos
    rw [BiDict.rmBySession_eq ((h.bijective.inverse _ _).mp hpair)]
    refine ⟨h.bijective.erasePair hpair, fun session hs => h.sessions session ?_⟩
    exact ((BiDict.hasSession_erasePair _ _ _ _).mp hs).2
  · exact h

lemma below_changeOne {acc : BiDict ℕ × List ℕ} (h : Below acc.1 d) (fence : ℕ × Option ℕ) :
    Below (changeOne acc fence).1 d := by
  unfold changeOne
  simp only []
  split
  · rename_i hpos
    have hpair := BiDict.getElem?_of_getSession_pos hpos
    cases hext : fence.2 with
    | none => exact h
    | some ext =>
        refine ⟨h.bijective.set_of_mem hpair ext, fun session hs => h.sessions session ?_⟩
        rcases (BiDict.hasSession_set _ _ _ _ _).mp hs with rfl | hold
        · exact BiDict.hasSession_eq_true.mpr ⟨_, (h.bijective.inverse _ _).mp hpair⟩
        · exact hold
  · exact h

lemma below_foldl_removeOne (acc : BiDict ℕ × BiDict ℕ × List ℕ) (h : Below acc.1 d)
    (ids : List ℕ) : Below (ids.foldl removeOne acc).1 d := by
  induction ids generalizing acc with
  | nil => exact h
  | cons id ids ih => exact ih _ (below_removeOne h id)

lemma below_foldl_changeOne (acc : BiDict ℕ × List ℕ) (h : Below acc.1 d)
    (fences : List (ℕ × Option ℕ)) : Below (fences.foldl changeOne acc).1 d := by
  induction fences generalizing acc with
  | nil => exact h
  | cons fence fences ih => exact ih _ (below_changeOne h fence)

end Loops

/-! ## Every run -/

/-- The HAL gives out as many sessions as are asked for, all different, none of them zero or given
out before. -/
def FreshSessions (s : GeofenceClient) : Event → Prop
  | .locAPIAddGeofences fences sessions => ∀ l ∈ sessions, l.length = fences.length ∧ l.Nodup ∧
      ∀ session ∈ l, session ≠ 0 ∧ session ∉ s.given
  | _ => True

instance (s : GeofenceClient) : ∀ e, Decidable (s.FreshSessions e)
  | .locAPIAddGeofences _ sessions => inferInstanceAs (Decidable (∀ l ∈ sessions, _ ∧ _ ∧ _))
  | .locAPIRemoveGeofences _ | .locAPIModifyGeofences _ | .locAPIPauseGeofences _
  | .locAPIResumeGeofences _ _ | .locAPIRemoveAllGeofences | .onCollectiveResponseCb _ =>
      isTrue trivial

/-- Geofences are added under ids that are all different, none of them in the dictionary. -/
def AddsNewIds (s : GeofenceClient) : Event → Prop
  | .locAPIAddGeofences fences (some _) => (fences.map Prod.fst).Nodup ∧
      ∀ fence ∈ fences, s.mGeofenceBiDict.hasId fence.1 = false
  | _ => True

instance (s : GeofenceClient) : ∀ e, Decidable (s.AddsNewIds e)
  | .locAPIAddGeofences _ (some _) => inferInstanceAs (Decidable (_ ∧ _))
  | .locAPIAddGeofences _ none | .locAPIRemoveGeofences _ | .locAPIModifyGeofences _
  | .locAPIPauseGeofences _ | .locAPIResumeGeofences _ _ | .locAPIRemoveAllGeofences
  | .onCollectiveResponseCb _ => isTrue trivial

/-- The dictionary of the client is a bijection. -/
def Bijective (s : GeofenceClient) : Prop := s.mGeofenceBiDict.Bijective

/-- What holds between events, as long as the dictionary is a bijection. -/
structure Sound (s : GeofenceClient) : Prop where
  bijective : s.Bijective
  given : ∀ session, s.mGeofenceBiDict.hasSession session = true → session ∈ s.given

section Step

variable {s s' : GeofenceClient} {e : Event}

lemma sound_init : init.Sound where
  bijective := BiDict.bijective_empty
  given session h := by cases h

/-- The dictionary loses sessions at most. -/
lemma Sound.below (h : s.Sound) (hbelow : Below s'.mGeofenceBiDict s.mGeofenceBiDict)
    (hgiven : s'.given = s.given) : s'.Sound := by
  refine ⟨hbelow.bijective, fun session hs => ?_⟩
  rw [hgiven]
  exact h.given session (hbelow.sessions session hs)

lemma sound_locAPIRemoveGeofences (h : s.Sound) (ids : List ℕ) :
    (s.locAPIRemoveGeofences ids).1.Sound := by
  have hbelow := below_foldl_removeOne
    (s.mGeofenceBiDict, .empty, []) (Below.refl h.bijective) ids
  unfold locAPIRemoveGeofences
  split
  · simp only []
    split
    · exact h.below hbelow rfl
    · exact h.below hbelow rfl
  · exact h

lemma sound_change (h : s.Sound) (fences : List (ℕ × Option ℕ)) (request : GeofenceRequest)
    (command : GeofenceCommand) : (s.change fences request command).1.Sound := by
  have hbelow := below_foldl_changeOne
    (s.mGeofenceBiDict, []) (Below.refl h.bijective) fences
  unfold change
  split
  · simp only []
    split
    · exact h.below hbelow rfl
    · exact h.below hbelow rfl
  · exact h

/-- Any event but an addition. -/
lemma Sound.next_of_not_add (h : s.Sound)
    (he : ∀ fences sessions, e ≠ .locAPIAddGeofences fences (some sessions)) :
    (machine.next s e).Sound := by
  cases e with
  | locAPIAddGeofences fences sessions =>
      cases sessions with
      | some sessions => exact absurd rfl (he fences sessions)
      | none =>
          simp only [Machine.next, machine, step, locAPIAddGeofences]
          split
          · exact h.below (Below.refl h.bijective) rfl
          · exact h
  | locAPIRemoveGeofences ids => exact sound_locAPIRemoveGeofences h ids
  | locAPIModifyGeofences fences => exact sound_change h _ _ _
  | locAPIPauseGeofences ids => exact sound_change h _ _ _
  | locAPIResumeGeofences fences hasMask => exact sound_change h _ _ _
  | locAPIRemoveAllGeofences => exact sound_locAPIRemoveGeofences h _
  | onCollectiveResponseCb sessions =>
      simp only [Machine.next, machine, step, onCollectiveResponseCb]
      split
      · split
        · exact h.below (Below.refl h.bijective) rfl
        · exact h
      · exact h

/-- An addition sets the new sessions for the ids. -/
lemma next_add (s : GeofenceClient) (fences : List (ℕ × ℕ)) (sessions : List ℕ) :
    (machine.next s (.locAPIAddGeofences fences (some sessions))).mGeofenceBiDict =
        setAll s.mGeofenceBiDict (fences.zip sessions) ∧
      (machine.next s (.locAPIAddGeofences fences (some sessions))).given =
        s.given ++ sessions := by
  simp only [Machine.next, machine, step, locAPIAddGeofences]
  split
  · exact ⟨rfl, rfl⟩
  · exact ⟨rfl, rfl⟩

/-- **One event** keeps the bijection exactly when what it adds is new. -/
lemma Sound.bijective_next_iff (h : s.Sound) (hfresh : s.FreshSessions e) :
    (machine.next s e).Bijective ↔ s.AddsNewIds e := by
  by_cases he : ∃ fences sessions, e = .locAPIAddGeofences fences (some sessions)
  · obtain ⟨fences, sessions, rfl⟩ := he
    obtain ⟨hlength, hnodup, hnew⟩ := hfresh sessions rfl
    have hsnd : (fences.zip sessions).map Prod.snd = sessions :=
      List.map_snd_zip hlength.le
    have hfst : (fences.zip sessions).map Prod.fst = fences :=
      List.map_fst_zip hlength.ge
    have hids : ((fences.zip sessions).map fun fence => fence.1.1) = fences.map Prod.fst := by
      rw [← hfst, List.map_map, hfst]
      rfl
    rw [Bijective, (next_add s fences sessions).1,
      bijective_setAll_iff h.bijective (by rwa [hsnd]) ?_, hids]
    · refine and_congr_right fun _ => ?_
      conv_rhs => rw [← hfst]
      simp only [List.forall_mem_map]
    · rw [hsnd]
      intro session hmem
      rw [← Bool.not_eq_true]
      exact fun hs => (hnew session hmem).2 (h.given session hs)
  · push Not at he
    refine iff_of_true (h.next_of_not_add he).bijective ?_
    cases e with
    | locAPIAddGeofences fences sessions =>
        cases sessions with
        | some sessions => exact absurd rfl (he fences sessions)
        | none => trivial
    | locAPIRemoveGeofences | locAPIModifyGeofences | locAPIPauseGeofences | locAPIResumeGeofences
    | locAPIRemoveAllGeofences | onCollectiveResponseCb => trivial

lemma Sound.next (h : s.Sound) (hfresh : s.FreshSessions e)
    (hb : (machine.next s e).Bijective) : (machine.next s e).Sound := by
  by_cases he : ∃ fences sessions, e = .locAPIAddGeofences fences (some sessions)
  · obtain ⟨fences, sessions, rfl⟩ := he
    refine ⟨hb, fun session hs => ?_⟩
    rw [(next_add s fences sessions).1] at hs
    rw [(next_add s fences sessions).2, List.mem_append]
    rcases hasSession_setAll hs with hmem | hold
    · rw [List.map_snd_zip (hfresh sessions rfl).1.le] at hmem
      exact .inr hmem
    · exact .inl (h.given session hold)
  · push Not at he
    exact h.next_of_not_add he

end Step

/-- **The dictionary stays a bijection**, in every state of a run in which the HAL gives out new
sessions, exactly when no call of the run adds a geofence under an id that is in the dictionary, or
two under one id. -/
theorem always_bijective_iff (events : List Event)
    (hfresh : machine.Steps FreshSessions init events) :
    machine.Always Bijective init events ↔ machine.Steps AddsNewIds init events := by
  rw [Machine.always_iff_steps_next, and_iff_right sound_init.bijective]
  exact Machine.steps_iff_steps (fun _ _ h hf => h.bijective_next_iff hf)
    (fun _ _ h hf hb => h.next hf hb) sound_init hfresh

/-- Two geofences are added, one is removed, and its id is used again. -/
theorem always_bijective_id_reused :
    machine.Always Bijective init
      [.locAPIAddGeofences [(1, 3), (2, 1)] (some [10, 11]), .locAPIRemoveGeofences [1],
        .locAPIAddGeofences [(1, 2)] (some [12])] :=
  (always_bijective_iff _ (by decide)).mpr (by decide)

/-- A geofence is added under an id that is in the dictionary: its first session still points back
to the id. -/
theorem session_left_behind :
    ¬ machine.Always Bijective init
      [.locAPIAddGeofences [(1, 3)] (some [10]), .locAPIAddGeofences [(1, 3)] (some [11])] := by
  intro h
  have hlast := (Machine.always_iff_prefix.mp h _ (List.prefix_refl _)).inverse 1 10
  exact absurd (hlast.mpr (by decide)) (by decide)

end GeofenceClient
end LocHal
