import LocHal.Location.Geofences

/-!
# What geofence calls ask of the HAL (`gps/location/LocationAPIClientBase.cpp`)

A client names its geofences by ids, and the HAL by sessions.  `locAPIRemoveAllGeofences` lists the
sessions in the dictionary and hands them to a function that takes ids.  `locAPIModifyGeofences`
drops the ids that it does not know from the list of sessions, and hands the HAL the options of the
client as they are.

`removesAll_iff`: all geofences are removed exactly when every id in the dictionary is one of its
sessions too.  `pairsOptions_iff`: the HAL gets the sessions with their own options exactly when the
options of the known ids are the first options of the call, whichever ids those stand for.
-/

namespace LocHal

namespace BiDict

variable {T : Type*} {d : BiDict T} {session : ℕ}

/-- There is nothing in the dictionary. -/
def IsEmpty (d : BiDict T) : Prop :=
  ∀ key : ℕ, d.mForwardMap[key]? = none ∧ d.mBackwardMap[key]? = none ∧ d.mExtMap[key]? = none

lemma isEmpty_iff (h : d.Bijective) : d.IsEmpty ↔ ∀ id : ℕ, d.mForwardMap[id]? = none := by
  refine ⟨fun hempty id => (hempty id).1, fun hforward key => ⟨hforward key, ?_⟩⟩
  have hback : d.mBackwardMap[key]? = none := by
    cases hkey : d.mBackwardMap[key]? with
    | none => rfl
    | some id =>
        have hid := (h.inverse id key).mpr hkey
        rw [hforward id] at hid
        cases hid
  have hext := h.ext key
  rw [hback, Option.isSome_none] at hext
  exact ⟨hback, Option.not_isSome_iff_eq_none.mp (Bool.not_eq_true _ ▸ hext)⟩

lemma mem_getAllSessions : session ∈ d.getAllSessions ↔ d.hasSession session = true :=
  Std.TreeMap.mem_keys.trans Std.TreeMap.mem_iff_isSome_getElem?

lemma nodup_getAllSessions (d : BiDict T) : d.getAllSessions.Nodup := Std.TreeMap.nodup_keys

end BiDict

namespace GeofenceClient

/-! ## The forward map -/

section Forward

variable {id session : ℕ}

lemma removeOne_of_pos {acc : BiDict ℕ × BiDict ℕ × List ℕ} {x : ℕ}
    (h : 0 < acc.1.getSession x) :
    removeOne acc x =
      (acc.1.rmBySession (acc.1.getSession x),
        acc.2.1.set x (acc.1.getSession x) (acc.1.getExtBySession (acc.1.getSession x)),
        acc.2.2 ++ [acc.1.getSession x]) := if_pos h

lemma removeOne_of_not_pos {acc : BiDict ℕ × BiDict ℕ × List ℕ} {x : ℕ}
    (h : ¬ 0 < acc.1.getSession x) : removeOne acc x = acc := if_neg h

lemma changeOne_of_pos {acc : BiDict ℕ × List ℕ} {fence : ℕ × Option ℕ}
    (h : 0 < acc.1.getSession fence.1) :
    changeOne acc fence =
      (fence.2.elim acc.1 fun ext => acc.1.set fence.1 (acc.1.getSession fence.1) ext,
        acc.2 ++ [acc.1.getSession fence.1]) := if_pos h

lemma changeOne_of_not_pos {acc : BiDict ℕ × List ℕ} {fence : ℕ × Option ℕ}
    (h : ¬ 0 < acc.1.getSession fence.1) : changeOne acc fence = acc := if_neg h

/-- Removing keeps what it does not remove, and adds nothing. -/
lemma forward_of_removeOne {acc : BiDict ℕ × BiDict ℕ × List ℕ} {x : ℕ}
    (h : (removeOne acc x).1.mForwardMap[id]? = some session) :
    acc.1.mForwardMap[id]? = some session := by
  by_cases hpos : 0 < acc.1.getSession x
  · rw [removeOne_of_pos hpos, BiDict.rmBySession, BiDict.erasePair, UintMap.getElem?_erase] at h
    split at h
    · cases h
    · exact h
  · rwa [removeOne_of_not_pos hpos] at h

lemma forward_of_foldl_removeOne {acc : BiDict ℕ × BiDict ℕ × List ℕ} {ids : List ℕ}
    (h : (ids.foldl removeOne acc).1.mForwardMap[id]? = some session) :
    acc.1.mForwardMap[id]? = some session := by
  induction ids generalizing acc with
  | nil => exact h
  | cons x ids ih => exact forward_of_removeOne (ih h)

/-- Changing geofences leaves the sessions of the ids alone. -/
lemma forward_changeOne (acc : BiDict ℕ × List ℕ) (fence : ℕ × Option ℕ) :
    (changeOne acc fence).1.mForwardMap[id]? = acc.1.mForwardMap[id]? := by
  by_cases hpos : 0 < acc.1.getSession fence.1
  · rw [changeOne_of_pos hpos]
    cases fence.2 with
    | none => rfl
    | some ext =>
        rw [Option.elim_some, BiDict.set, UintMap.getElem?_insert]
        split
        · rename_i hid
          rw [hid, BiDict.getElem?_of_getSession_pos hpos]
        · rfl
  · rw [changeOne_of_not_pos hpos]

lemma forward_foldl_changeOne (acc : BiDict ℕ × List ℕ) (fences : List (ℕ × Option ℕ)) :
    (fences.foldl changeOne acc).1.mForwardMap[id]? = acc.1.mForwardMap[id]? := by
  induction fences generalizing acc with
  | nil => rfl
  | cons fence fences ih => rw [List.foldl_cons, ih, forward_changeOne]

lemma forward_of_setAll {d : BiDict ℕ} {fences : List ((ℕ × ℕ) × ℕ)}
    (h : (setAll d fences).mForwardMap[id]? = some session) :
    session ∈ fences.map Prod.snd ∨ d.mForwardMap[id]? = some session := by
  induction fences generalizing d with
  | nil => exact .inr h
  | cons fence fences ih =>
      rcases ih h with hmem | hset
      · exact .inl (List.mem_cons_of_mem _ hmem)
      · simp only [BiDict.set, UintMap.getElem?_insert] at hset
        split at hset
        · rw [← Option.some.inj hset]
          exact .inl List.mem_cons_self
        · exact .inr hset

end Forward

/-! ## What every run keeps -/

/-- Where an id has a session, the session is none of zero, and the queue has been opened. -/
structure Opened (s : GeofenceClient) : Prop where
  positive : ∀ id session : ℕ, s.mGeofenceBiDict.mForwardMap[id]? = some session → 0 < session
  opened : ∀ id session : ℕ, s.mGeofenceBiDict.mForwardMap[id]? = some session →
    s.mSession = geofenceSessionId

section Opened

variable {s s' : GeofenceClient} {e : Event}

lemma opened_init : init.Opened where
  positive id session h := by cases h
  opened id session h := by cases h

lemma Opened.of_forward (h : s.Opened) (hsession : s'.mSession = s.mSession)
    (hforward : ∀ id session : ℕ, s'.mGeofenceBiDict.mForwardMap[id]? = some session →
      s.mGeofenceBiDict.mForwardMap[id]? = some session) : s'.Opened where
  positive id session hid := h.positive id session (hforward id session hid)
  opened id session hid := hsession.trans (h.opened id session (hforward id session hid))

lemma opened_locAPIRemoveGeofences (h : s.Opened) (ids : List ℕ) :
    (s.locAPIRemoveGeofences ids).1.Opened := by
  unfold locAPIRemoveGeofences
  split
  · simp only []
    split
    · exact h.of_forward rfl fun _ _ hid => forward_of_foldl_removeOne hid
    · exact h.of_forward rfl fun _ _ hid => forward_of_foldl_removeOne hid
  · exact h

lemma opened_change (h : s.Opened) (fences : List (ℕ × Option ℕ)) (request : GeofenceRequest)
    (command : GeofenceCommand) : (s.change fences request command).1.Opened := by
  have hforward : ∀ id session : ℕ,
      (fences.foldl changeOne (s.mGeofenceBiDict, [])).1.mForwardMap[id]? = some session →
      s.mGeofenceBiDict.mForwardMap[id]? = some session := fun id session hid => by
    rwa [forward_foldl_changeOne] at hid
  unfold change
  split
  · simp only []
    split
    · exact h.of_forward rfl hforward
    · exact h.of_forward rfl hforward
  · exact h

/-- An addition opens the queue, also one that the HAL does not take. -/
lemma mSession_next_add (s : GeofenceClient) (fences : List (ℕ × ℕ)) (sessions : Option (List ℕ)) :
    (machine.next s (.locAPIAddGeofences fences sessions)).mSession = geofenceSessionId := by
  by_cases h : s.mSession = geofenceSessionId
  · cases sessions with
    | some sessions => simp [Machine.next, machine, step, locAPIAddGeofences, push, h]
    | none => simp [Machine.next, machine, step, locAPIAddGeofences, h]
  · cases sessions with
    | some sessions => simp [Machine.next, machine, step, locAPIAddGeofences, push, h]
    | none => simp [Machine.next, machine, step, locAPIAddGeofences, h]

/-- **One event** opens the queue before it adds anything. -/
lemma Opened.next (h : s.Opened) (hfresh : s.FreshSessions e) : (machine.next s e).Opened := by
  cases e with
  | locAPIAddGeofences fences sessions =>
      refine ⟨fun id session hid => ?_, fun _ _ _ => mSession_next_add s fences sessions⟩
      cases sessions with
      | some sessions =>
          rw [(next_add s fences sessions).1] at hid
          rcases forward_of_setAll hid with hmem | hold
          · obtain ⟨hlength, -, hnew⟩ := hfresh sessions rfl
            rw [List.map_snd_zip hlength.le] at hmem
            exact Nat.pos_of_ne_zero (hnew session hmem).1
          · exact h.positive id session hold
      | none =>
          simp only [Machine.next, machine, step, locAPIAddGeofences] at hid
          split at hid
          · exact h.positive id session hid
          · exact h.positive id session hid
  | locAPIRemoveGeofences ids => exact opened_locAPIRemoveGeofences h ids
  | locAPIModifyGeofences fences => exact opened_change h _ _ _
  | locAPIPauseGeofences ids => exact opened_change h _ _ _
  | locAPIResumeGeofences fences hasMask => exact opened_change h _ _ _
  | locAPIRemoveAllGeofences => exact opened_locAPIRemoveGeofences h _
  | onCollectiveResponseCb sessions =>
      simp only [Machine.next, machine, step, onCollectiveResponseCb]
      split
      · split
        · exact h.of_forward rfl fun _ _ hid => hid
        · exact h
      · exact h

lemma opened_run {events : List Event} (hfresh : machine.Steps FreshSessions init events) :
    (machine.run init events).Opened :=
  Machine.run_of_steps (fun _ _ h hf => h.next hf) opened_init hfresh

lemma sound_run {events : List Event} (hfresh : machine.Steps FreshSessions init events)
    (hnew : machine.Steps AddsNewIds init events) : (machine.run init events).Sound := by
  have hsteps : machine.Steps (fun s e => s.FreshSessions e ∧ s.AddsNewIds e) init events :=
    Machine.steps_and.mpr ⟨hfresh, hnew⟩
  exact Machine.run_of_steps
    (fun _ _ h hC => h.next hC.1 ((h.bijective_next_iff hC.1).mpr hC.2)) sound_init hsteps

end Opened

/-! ## Removing all -/

section RemoveAll

variable {s : GeofenceClient} {d : BiDict ℕ} {id session : ℕ}

/-- Removing one id of a bijection takes its pair out, and tells the session. -/
lemma removeOne_eq {acc : BiDict ℕ × BiDict ℕ × List ℕ} (hb : acc.1.Bijective)
    (hpos : ∀ id session : ℕ, acc.1.mForwardMap[id]? = some session → 0 < session) (x : ℕ) :
    (∀ id : ℕ, (removeOne acc x).1.mForwardMap[id]? =
        if id = x then none else acc.1.mForwardMap[id]?) ∧
      (removeOne acc x).2.2 = acc.2.2 ++ acc.1.mForwardMap[x]?.toList := by
  by_cases h : 0 < acc.1.getSession x
  · have hpair := BiDict.getElem?_of_getSession_pos h
    rw [removeOne_of_pos h, BiDict.rmBySession_eq ((hb.inverse _ _).mp hpair), hpair]
    exact ⟨fun id => UintMap.getElem?_erase _ x id, rfl⟩
  · have hnone : acc.1.mForwardMap[x]? = none := by
      cases hx : acc.1.mForwardMap[x]? with
      | none => rfl
      | some session =>
          rw [BiDict.getSession, hx] at h
          exact absurd (hpos x session hx) h
    rw [removeOne_of_not_pos h, hnone]
    refine ⟨fun id => ?_, (List.append_nil _).symm⟩
    split
    · rename_i hid
      rw [hid, hnone]
    · rfl

/-- **Removing ids** of a bijection takes their pairs out, and tells their sessions. -/
theorem foldl_removeOne_eq (acc : BiDict ℕ × BiDict ℕ × List ℕ) (hb : acc.1.Bijective)
    (hpos : ∀ id session : ℕ, acc.1.mForwardMap[id]? = some session → 0 < session)
    {ids : List ℕ} (hnodup : ids.Nodup) :
    (∀ id : ℕ, (ids.foldl removeOne acc).1.mForwardMap[id]? =
        if id ∈ ids then none else acc.1.mForwardMap[id]?) ∧
      (ids.foldl removeOne acc).2.2 =
        acc.2.2 ++ ids.filterMap fun id => acc.1.mForwardMap[id]? := by
  induction ids generalizing acc with
  | nil => exact ⟨fun id => (if_neg List.not_mem_nil).symm, (List.append_nil _).symm⟩
  | cons x ids ih =>
      obtain ⟨hx, hids⟩ := List.nodup_cons.mp hnodup
      obtain ⟨hforward, hsent⟩ := removeOne_eq hb hpos x
      have hbelow := below_removeOne (Below.refl hb) x
      have hpos' : ∀ id session : ℕ, (removeOne acc x).1.mForwardMap[id]? = some session →
          0 < session := fun id session hid => hpos id session (forward_of_removeOne hid)
      obtain ⟨hrest, hlater⟩ := ih _ hbelow.bijective hpos' hids
      rw [List.foldl_cons]
      refine ⟨fun id => ?_, ?_⟩
      · rw [hrest id, hforward id]
        simp only [List.mem_cons]
        by_cases hid : id = x
        · simp [hid]
        · simp [hid]
      · have hsame : (ids.filterMap fun id => (removeOne acc x).1.mForwardMap[id]?) =
            ids.filterMap fun id => acc.1.mForwardMap[id]? :=
          List.filterMap_congr fun id hid => by
            rw [hforward id, if_neg fun heq : id = x => hx (heq ▸ hid)]
        rw [hlater, hsent, hsame, List.append_assoc]
        cases hfirst : acc.1.mForwardMap[x]? with
        | none => rw [List.filterMap_cons_none hfirst, Option.toList_none, List.nil_append]
        | some session => rw [List.filterMap_cons_some hfirst, Option.toList_some,
            List.singleton_append]

/-- The sessions that the HAL is asked to remove. -/
def removedSessions (outs : List Output) : List ℕ :=
  outs.flatMap fun
    | .sent .removeGeofences sessions => sessions
    | _ => []

/-- `locAPIRemoveAllGeofences` asks the HAL to remove the sessions of all geofences, and forgets all
of them. -/
def RemovesAll (s : GeofenceClient) : Prop :=
  (removedSessions s.locAPIRemoveAllGeofences.2).Perm s.mGeofenceBiDict.getAllSessions ∧
    s.locAPIRemoveAllGeofences.1.mGeofenceBiDict.IsEmpty

/-- What `locAPIRemoveGeofences` leaves, and what it asks for. -/
lemma locAPIRemoveGeofences_eq (hb : s.Bijective) (h : s.Opened) {ids : List ℕ}
    (hnodup : ids.Nodup) :
    (∀ id : ℕ, (s.locAPIRemoveGeofences ids).1.mGeofenceBiDict.mForwardMap[id]? =
        if id ∈ ids then none else s.mGeofenceBiDict.mForwardMap[id]?) ∧
      removedSessions (s.locAPIRemoveGeofences ids).2 =
        ids.filterMap fun id => s.mGeofenceBiDict.mForwardMap[id]? := by
  obtain ⟨hforward, hsent⟩ := foldl_removeOne_eq (s.mGeofenceBiDict, .empty, []) hb
    h.positive hnodup
  rw [List.nil_append] at hsent
  by_cases hopen : s.mSession = geofenceSessionId
  · rw [locAPIRemoveGeofences, if_pos hopen]
    simp only
    split
    · exact ⟨hforward, (List.append_nil _).trans hsent⟩
    · rename_i hnil
      exact ⟨hforward, (not_not.mp hnil).symm.trans hsent⟩
  · have hnone : ∀ id : ℕ, s.mGeofenceBiDict.mForwardMap[id]? = none := by
      intro id
      cases hid : s.mGeofenceBiDict.mForwardMap[id]? with
      | none => rfl
      | some session => exact absurd (h.opened id session hid) hopen
    rw [locAPIRemoveGeofences, if_neg hopen]
    refine ⟨fun id => ?_, ?_⟩
    · rw [hnone, ite_self]
    · simp only [hnone, List.filterMap_none]
      rfl

/-- **Removing all** geofences by their sessions: the sessions have to be their ids too. -/
theorem removesAll_of_sound_iff (hs : s.Sound) (h : s.Opened) :
    s.RemovesAll ↔ ∀ id, s.mGeofenceBiDict.hasId id = true →
      s.mGeofenceBiDict.hasSession id = true := by
  have hbelow := (sound_locAPIRemoveGeofences hs s.mGeofenceBiDict.getAllSessions).bijective
  obtain ⟨hforward, hsent⟩ :=
    locAPIRemoveGeofences_eq hs.bijective h s.mGeofenceBiDict.nodup_getAllSessions
  rw [RemovesAll, locAPIRemoveAllGeofences, BiDict.isEmpty_iff hbelow, hsent]
  constructor
  · rintro ⟨-, hempty⟩ id hid
    by_contra hno
    have hleft := hempty id
    rw [hforward, if_neg fun hmem => hno (BiDict.mem_getAllSessions.mp hmem)] at hleft
    rw [BiDict.hasId, hleft] at hid
    cases hid
  · intro hall
    have hids : ∀ id session : ℕ, s.mGeofenceBiDict.mForwardMap[id]? = some session →
        id ∈ s.mGeofenceBiDict.getAllSessions := fun id session hid =>
      BiDict.mem_getAllSessions.mpr (hall id (BiDict.hasId_eq_true.mpr ⟨session, hid⟩))
    refine ⟨?_, fun id => ?_⟩
    · refine (List.perm_ext_iff_of_nodup ?_ s.mGeofenceBiDict.nodup_getAllSessions).mpr
        fun session => ?_
      · refine s.mGeofenceBiDict.nodup_getAllSessions.filterMap fun id id' session hid hid' => ?_
        have hback := (hs.bijective.inverse id session).mp hid
        rw [(hs.bijective.inverse id' session).mp hid'] at hback
        exact (Option.some.inj hback).symm
      · rw [List.mem_filterMap, BiDict.mem_getAllSessions, BiDict.hasSession_eq_true]
        constructor
        · rintro ⟨id, -, hid⟩
          exact ⟨id, (hs.bijective.inverse id session).mp hid⟩
        · rintro ⟨id, hback⟩
          have hid := (hs.bijective.inverse id session).mpr hback
          exact ⟨id, hids id session hid, hid⟩
    · rw [hforward]
      cases hid : s.mGeofenceBiDict.mForwardMap[id]? with
      | none => exact ite_self _
      | some session => exact if_pos (hids id session hid)

/-- **Removing all.**  After any calls and responses, where geofences are added under new ids and
the HAL gives out new sessions, all geofences are removed exactly when every id in the dictionary is
also one of its sessions. -/
theorem removesAll_iff (events : List Event) (hfresh : machine.Steps FreshSessions init events)
    (hnew : machine.Steps AddsNewIds init events) :
    (machine.run init events).RemovesAll ↔
      ∀ id, (machine.run init events).mGeofenceBiDict.hasId id = true →
        (machine.run init events).mGeofenceBiDict.hasSession id = true :=
  removesAll_of_sound_iff (sound_run hfresh hnew) (opened_run hfresh)

/-- Two geofences, of which each has the id that is the session of the other. -/
theorem removesAll_swapped :
    (machine.run init [.locAPIAddGeofences [(1, 3), (2, 3)] (some [2, 1])]).RemovesAll ↔
      ∀ id, (machine.run init [.locAPIAddGeofences [(1, 3), (2, 3)]
          (some [2, 1])]).mGeofenceBiDict.hasId id = true →
        (machine.run init [.locAPIAddGeofences [(1, 3), (2, 3)]
          (some [2, 1])]).mGeofenceBiDict.hasSession id = true :=
  removesAll_iff _ (by decide) (by decide)

/-- A geofence whose id is not its session stays where it is. -/
theorem geofence_not_removed :
    ¬ ∀ events, machine.Steps FreshSessions init events → machine.Steps AddsNewIds init events →
      (machine.run init events).RemovesAll := by
  intro h
  have hall := h [.locAPIAddGeofences [(1, 3)] (some [10])] (by decide) (by decide)
  exact absurd (hall.2 1).1 (by decide)

end RemoveAll

/-! ## Modifying -/

/-- `GeofenceOption`. -/
structure GeofenceOption where
  size : ℕ
  breachTypeMask : ℕ
  responsiveness : ℕ
  dwellTime : ℕ
deriving DecidableEq, Repr

/-- What the `modifyGeofences` of the HAL is called with: the sessions, and the options of the
client, of which it takes as many as there are sessions. -/
structure ModifyCall where
  sessions : List ℕ
  options : List GeofenceOption
deriving DecidableEq, Repr

/-- The sessions with the options that the HAL takes for them. -/
def ModifyCall.pairs (call : ModifyCall) : List (ℕ × GeofenceOption) :=
  call.sessions.zip call.options

section Modify

variable {s : GeofenceClient} {d : BiDict ℕ} {fences : List (ℕ × GeofenceOption)}

/-- One round of the loop of `locAPIModifyGeofences`. -/
def modifyOne (acc : BiDict ℕ × List ℕ) (fence : ℕ × GeofenceOption) : BiDict ℕ × List ℕ :=
  changeOne acc (fence.1, some fence.2.breachTypeMask)

/-- `locAPIModifyGeofences`, for ids with their options. -/
def modifyGeofences (s : GeofenceClient) (fences : List (ℕ × GeofenceOption)) :
    GeofenceClient × Option ModifyCall :=
  if s.mSession = geofenceSessionId then
    let changed := fences.foldl modifyOne (s.mGeofenceBiDict, [])
    let s := { s with mGeofenceBiDict := changed.1 }
    if changed.2 ≠ [] then
      (s.push .modifyGeofences, some ⟨changed.2, fences.map Prod.snd⟩)
    else (s, none)
  else (s, none)

/-- The options matter for the dictionary by their masks alone, and the sessions are those of the
client's command. -/
theorem modifyGeofences_eq (s : GeofenceClient) (fences : List (ℕ × GeofenceOption)) :
    s.locAPIModifyGeofences (fences.map fun fence => (fence.1, fence.2.breachTypeMask)) =
      ((s.modifyGeofences fences).1,
        ((s.modifyGeofences fences).2.map fun call =>
          Output.sent .modifyGeofences call.sessions).toList) := by
  have hloop : ((fences.map fun fence => (fence.1, fence.2.breachTypeMask)).map
        fun fence => (fence.1, some fence.2)).foldl changeOne (s.mGeofenceBiDict, []) =
      fences.foldl modifyOne (s.mGeofenceBiDict, []) := by
    rw [List.map_map, List.foldl_map]
    rfl
  rw [locAPIModifyGeofences, change, modifyGeofences, hloop]
  split
  · simp only
    split
    · rfl
    · rfl
  · rfl

/-- The client knows the id. -/
def known (d : BiDict ℕ) (fences : List (ℕ × GeofenceOption)) : List (ℕ × GeofenceOption) :=
  fences.filter fun fence => d.hasId fence.1

lemma forward_foldl_modifyOne (acc : BiDict ℕ × List ℕ) (fences : List (ℕ × GeofenceOption))
    (id : ℕ) : (fences.foldl modifyOne acc).1.mForwardMap[id]? = acc.1.mForwardMap[id]? := by
  have hloop : fences.foldl modifyOne acc =
      (fences.map fun fence => (fence.1, some fence.2.breachTypeMask)).foldl changeOne acc := by
    rw [List.foldl_map]
    rfl
  rw [hloop, forward_foldl_changeOne]

lemma hasId_iff_getSession_pos
    (hpos : ∀ id session : ℕ, d.mForwardMap[id]? = some session → 0 < session) (id : ℕ) :
    d.hasId id = true ↔ 0 < d.getSession id := by
  rw [BiDict.hasId_eq_true, BiDict.getSession]
  constructor
  · rintro ⟨session, hid⟩
    rw [hid]
    exact hpos id session hid
  · intro h
    exact ⟨_, BiDict.getElem?_of_getSession_pos h⟩

lemma known_append_of_known {fence : ℕ × GeofenceOption} (h : d.hasId fence.1 = true)
    (fences : List (ℕ × GeofenceOption)) :
    known d (fences ++ [fence]) = known d fences ++ [fence] := by
  rw [known, List.filter_append, List.filter_singleton, h]
  rfl

lemma known_append_of_not_known {fence : ℕ × GeofenceOption} (h : ¬ d.hasId fence.1 = true)
    (fences : List (ℕ × GeofenceOption)) : known d (fences ++ [fence]) = known d fences := by
  rw [known, List.filter_append, List.filter_singleton, Bool.eq_false_iff.mpr h]
  exact List.append_nil _

/-- **The loop** lists the sessions of the known ids, and gives each session the mask of one of its
ids. -/
theorem foldl_modifyOne_eq (acc : BiDict ℕ × List ℕ)
    (hpos : ∀ id session : ℕ, acc.1.mForwardMap[id]? = some session → 0 < session)
    (fences : List (ℕ × GeofenceOption)) :
    (fences.foldl modifyOne acc).2 =
        acc.2 ++ (known acc.1 fences).map (fun fence => acc.1.getSession fence.1) ∧
      ∀ session, (∃ fence ∈ known acc.1 fences, acc.1.getSession fence.1 = session) →
        ∃ fence ∈ known acc.1 fences, acc.1.getSession fence.1 = session ∧
          (fences.foldl modifyOne acc).1.mExtMap[session]? = some fence.2.breachTypeMask := by
  -- the last fence of a session decides, so the induction takes fences off at the end
  induction fences using List.reverseRecOn with
  | nil =>
      refine ⟨(List.append_nil _).symm, ?_⟩
      rintro session ⟨fence, hmem, -⟩
      exact absurd hmem List.not_mem_nil
  | append_singleton fences fence ih =>
      obtain ⟨hsessions, hmasks⟩ := ih
      have hsame : (fences.foldl modifyOne acc).1.getSession fence.1 =
          acc.1.getSession fence.1 := by
        rw [BiDict.getSession, forward_foldl_modifyOne]
        rfl
      rw [List.foldl_append, List.foldl_cons, List.foldl_nil, modifyOne]
      by_cases hid : acc.1.hasId fence.1 = true
      · have hnow : 0 < (fences.foldl modifyOne acc).1.getSession fence.1 :=
          hsame ▸ (hasId_iff_getSession_pos hpos fence.1).mp hid
        rw [known_append_of_known hid, changeOne_of_pos hnow, hsame, hsessions, List.map_append,
          List.append_assoc]
        refine ⟨rfl, fun session hsession => ?_⟩
        by_cases hlast : session = acc.1.getSession fence.1
        · refine ⟨fence, List.mem_append_right _ List.mem_cons_self, hlast.symm, ?_⟩
          rw [Option.elim_some, BiDict.set, UintMap.getElem?_insert, if_pos hlast]
        · have hbefore : ∃ fence ∈ known acc.1 fences, acc.1.getSession fence.1 = session := by
            obtain ⟨fence', hmem, heq⟩ := hsession
            rcases List.mem_append.mp hmem with hmem | hmem
            · exact ⟨fence', hmem, heq⟩
            · rw [List.mem_singleton.mp hmem] at heq
              exact absurd heq.symm hlast
          obtain ⟨fence', hmem, heq, hmask⟩ := hmasks session hbefore
          refine ⟨fence', List.mem_append_left _ hmem, heq, ?_⟩
          rw [Option.elim_some, BiDict.set, UintMap.getElem?_insert, if_neg hlast]
          exact hmask
      · have hnow : ¬ 0 < (fences.foldl modifyOne acc).1.getSession fence.1 :=
          hsame ▸ fun h => hid ((hasId_iff_getSession_pos hpos fence.1).mpr h)
        rw [known_append_of_not_known hid, changeOne_of_not_pos hnow]
        exact ⟨hsessions, hmasks⟩

/-- Sessions taken with the first options are with their own ones exactly when these are the first
options. -/
lemma zip_eq_map_iff {α β γ : Type*} (f : α → β) (g : α → γ) {xs : List α} {ys : List γ}
    (hlength : xs.length ≤ ys.length) :
    (xs.map f).zip ys = xs.map (fun x => (f x, g x)) ↔ xs.map g = ys.take xs.length := by
  induction xs generalizing ys with
  | nil => exact iff_of_true rfl List.take_zero.symm
  | cons x xs ih =>
      cases ys with
      | nil => exact absurd hlength (Nat.not_succ_le_zero _)
      | cons y ys =>
          rw [List.map_cons, List.map_cons, List.map_cons, List.zip_cons_cons, List.length_cons,
            List.take_succ_cons, List.cons.injEq, List.cons.injEq,
            ih (Nat.le_of_succ_le_succ hlength), Prod.mk.injEq, and_iff_right rfl, eq_comm]

/-- The HAL gets the session of each known id with the option of that id, in the order of the ids,
and each session has the mask of the same option from then on. -/
def PairsOptions (s : GeofenceClient) (fences : List (ℕ × GeofenceOption)) : Prop :=
  ((s.modifyGeofences fences).2.map ModifyCall.pairs).getD [] =
      (known s.mGeofenceBiDict fences).map
        (fun fence => (s.mGeofenceBiDict.getSession fence.1, fence.2)) ∧
    ∀ fence ∈ known s.mGeofenceBiDict fences,
      (s.modifyGeofences fences).1.mGeofenceBiDict.mExtMap[s.mGeofenceBiDict.getSession fence.1]? =
        some fence.2.breachTypeMask

/-- The options of the known ids are the first options of the call. -/
def FirstOptions (d : BiDict ℕ) (fences : List (ℕ × GeofenceOption)) : Prop :=
  (known d fences).map Prod.snd = (fences.map Prod.snd).take (known d fences).length

/-- No session is given two masks. -/
def OneMask (d : BiDict ℕ) (fences : List (ℕ × GeofenceOption)) : Prop :=
  ∀ fence ∈ known d fences, ∀ fence' ∈ known d fences,
    d.getSession fence.1 = d.getSession fence'.1 →
    fence.2.breachTypeMask = fence'.2.breachTypeMask

instance (d : BiDict ℕ) (fences : List (ℕ × GeofenceOption)) : Decidable (FirstOptions d fences) :=
  inferInstanceAs (Decidable (_ = _))

/-- What `locAPIModifyGeofences` asks for, and what it leaves. -/
lemma modifyGeofences_spec (h : s.Opened) (fences : List (ℕ × GeofenceOption)) :
    ((s.modifyGeofences fences).2.map ModifyCall.pairs).getD [] =
        ((known s.mGeofenceBiDict fences).map
          fun fence => s.mGeofenceBiDict.getSession fence.1).zip (fences.map Prod.snd) ∧
      ((known s.mGeofenceBiDict fences) ≠ [] → (s.modifyGeofences fences).1.mGeofenceBiDict =
        (fences.foldl modifyOne (s.mGeofenceBiDict, [])).1) := by
  have hsessions := (foldl_modifyOne_eq (s.mGeofenceBiDict, []) h.positive fences).1
  rw [List.nil_append] at hsessions
  rw [modifyGeofences]
  by_cases hopen : s.mSession = geofenceSessionId
  · rw [if_pos hopen]
    simp only
    split
    · refine ⟨?_, fun _ => rfl⟩
      rw [Option.map_some, Option.getD_some, ModifyCall.pairs, hsessions]
    · rename_i hnil
      rw [not_not, hsessions] at hnil
      rw [hnil]
      exact ⟨rfl, fun _ => rfl⟩
  · have hnone : known s.mGeofenceBiDict fences = [] := by
      refine List.filter_eq_nil_iff.mpr fun fence _ hid => ?_
      obtain ⟨session, hsession⟩ := BiDict.hasId_eq_true.mp hid
      exact hopen (h.opened fence.1 session hsession)
    rw [if_neg hopen, hnone]
    exact ⟨rfl, fun hne => absurd rfl hne⟩

/-- **Modifying** pairs the sessions with the first options of the call. -/
theorem pairsOptions_of_opened_iff (h : s.Opened) (fences : List (ℕ × GeofenceOption)) :
    s.PairsOptions fences ↔
      FirstOptions s.mGeofenceBiDict fences ∧ OneMask s.mGeofenceBiDict fences := by
  obtain ⟨hpairs, hdict⟩ := modifyGeofences_spec h fences
  have hmasks := (foldl_modifyOne_eq (s.mGeofenceBiDict, []) h.positive fences).2
  have hlength : (known s.mGeofenceBiDict fences).length ≤ (fences.map Prod.snd).length := by
    rw [List.length_map]
    exact List.length_filter_le _ _
  rw [PairsOptions, hpairs, FirstOptions, OneMask]
  refine and_congr (zip_eq_map_iff _ _ hlength) ⟨fun hall => ?_, fun hone => ?_⟩
  · intro fence hmem fence' hmem' hsame
    have hmask := hall fence hmem
    rw [hsame, hall fence' hmem'] at hmask
    exact (Option.some.inj hmask).symm
  · intro fence hmem
    obtain ⟨fence', hmem', hsame, hmask⟩ := hmasks _ ⟨fence, hmem, rfl⟩
    rw [hdict (List.ne_nil_of_mem hmem), hmask, hone fence' hmem' fence hmem hsame]

/-- **Modifying.**  After any calls and responses, where the HAL gives out new sessions, it gets
the sessions of the known ids with the options of these ids exactly when these are the first options
of the call, and each session has the mask of its option exactly when no session is given two. -/
theorem pairsOptions_iff (events : List Event) (hfresh : machine.Steps FreshSessions init events)
    (fences : List (ℕ × GeofenceOption)) :
    (machine.run init events).PairsOptions fences ↔
      FirstOptions (machine.run init events).mGeofenceBiDict fences ∧
        OneMask (machine.run init events).mGeofenceBiDict fences :=
  pairsOptions_of_opened_iff (opened_run hfresh) fences

/-- The second of two geofences is modified. -/
theorem pairsOptions_known :
    (machine.run init [.locAPIAddGeofences [(1, 3), (2, 3)] (some [10, 11])]).PairsOptions
        [(2, ⟨16, 1, 0, 0⟩), (3, ⟨16, 2, 0, 0⟩)] ↔
      FirstOptions (machine.run init
          [.locAPIAddGeofences [(1, 3), (2, 3)] (some [10, 11])]).mGeofenceBiDict
          [(2, ⟨16, 1, 0, 0⟩), (3, ⟨16, 2, 0, 0⟩)] ∧
        OneMask (machine.run init
          [.locAPIAddGeofences [(1, 3), (2, 3)] (some [10, 11])]).mGeofenceBiDict
          [(2, ⟨16, 1, 0, 0⟩), (3, ⟨16, 2, 0, 0⟩)] :=
  pairsOptions_iff _ (by decide) _

/-- Behind an id that is not known, the HAL gets the option of that id for the session of the
known one. -/
theorem option_of_unknown_id :
    ¬ ∀ events, machine.Steps FreshSessions init events → machine.Steps AddsNewIds init events →
      ∀ fences, (machine.run init events).PairsOptions fences := by
  intro h
  have hall := h [.locAPIAddGeofences [(1, 3)] (some [10])] (by decide) (by decide)
    [(2, ⟨16, 1, 0, 0⟩), (1, ⟨16, 2, 0, 0⟩)]
  exact absurd hall.1 (by decide)

end Modify

end GeofenceClient
end LocHal
