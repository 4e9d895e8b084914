import LocHal.Gnss.Tracking

/-!
# The removal of a client (`gps/gnss/GnssAdapter.cpp`)

`MsgRemoveClient` stops the sessions of the client one by one through the multiplexer and then
forgets the client.  A session whose stop fails is skipped by the loop and stays in
`mTrackingSessions`, although nothing can stop it any more: its key is the pointer of a client that
is gone, and the engine goes on for it.

`removal_leaves_nothing_iff` gives the engine's answers for which this does not happen.  Only some
of the stops call the engine, and which ones depends on the sessions the loop has erased before, so
the condition follows the loop.
-/

namespace LocHal
namespace GnssAdapter

variable {Client : Type*} [LinearOrder Client]

/-- To stop the session `key`, the multiplexer calls the engine: the session is the only one there
is, or it is faster than all others. -/
def StopCallsEngine (sessions : LocationSessionMap Client) (key : LocationSessionKey Client) :
    Prop :=
  sessions.size = 1 ∨ ∃ current ∈ sessions[key]?, current.minInterval <
    (TrackingState.smallestIntervalOptions (· ≠ key) sessions.toList).minInterval

instance (sessions : LocationSessionMap Client) (key : LocationSessionKey Client) :
    Decidable (StopCallsEngine sessions key) :=
  inferInstanceAs (Decidable (sessions.size = 1 ∨ ∃ current ∈ sessions[key]?, _))

/-- The engine accepts each call that the stops of the client's sessions in `l` make, from the
sessions that are left when all of them before it have been stopped. -/
def AcceptsStops (client : Client) (ok : LocationSessionKey Client → Bool) :
    LocationSessionMap Client → List (LocationSessionKey Client × LocationOptions) → Prop
  | _, [] => True
  | sessions, it :: rest =>
      if client = it.1.client then
        (StopCallsEngine sessions it.1 → ok it.1 = true) ∧
          AcceptsStops client ok (sessions.erase it.1) rest
      else AcceptsStops client ok sessions rest

instance decidableAcceptsStops (client : Client) (ok : LocationSessionKey Client → Bool) :
    ∀ sessions l, Decidable (AcceptsStops client ok sessions l)
  | _, [] => isTrue trivial
  | sessions, it :: rest =>
      have := decidableAcceptsStops client ok (sessions.erase it.1) rest
      have := decidableAcceptsStops client ok sessions rest
      inferInstanceAs (Decidable (if client = it.1.client then
        (StopCallsEngine sessions it.1 → ok it.1 = true) ∧
          AcceptsStops client ok (sessions.erase it.1) rest
      else AcceptsStops client ok sessions rest))

namespace TrackingState

/-- Nothing of `client` is left in `a'`, and every other client has the sessions it had in `a`. -/
structure LeavesNothing (client : Client) (a a' : TrackingState Client) : Prop where
  sessions : ∀ id, a'.mTrackingSessions[(⟨client, id⟩ : LocationSessionKey Client)]? = none
  callbacks : a'.mClientData[client]? = none
  others : ∀ key : LocationSessionKey Client, key.client ≠ client →
    a'.mTrackingSessions[key]? = a.mTrackingSessions[key]?

section Stop

variable (a : TrackingState Client) (client : Client) (id : ℕ) (ok : Bool)

@[simp] lemma startTracking_sessions (options : LocationOptions) :
    (a.startTracking options ok).1.mTrackingSessions = a.mTrackingSessions := by
  cases ok with
  | true => rfl
  | false => rfl

lemma startTracking_success_iff (options : LocationOptions) :
    (a.startTracking options ok).2.1 = .success ↔ ok = true := by
  cases ok with
  | true => exact iff_of_true rfl rfl
  | false => exact iff_of_false nofun nofun

@[simp] lemma stopTracking_sessions :
    (a.stopTracking ok).1.mTrackingSessions = a.mTrackingSessions := by
  cases ok with
  | true => rfl
  | false => rfl

lemma stopTracking_success_iff : (a.stopTracking ok).2.1 = .success ↔ ok = true := by
  cases ok with
  | true => exact iff_of_true rfl rfl
  | false => exact iff_of_false nofun nofun

/-- The multiplexer leaves it to its caller to erase the session. -/
lemma stopTrackingMultiplex_sessions :
    (a.stopTrackingMultiplex client id ok).1.mTrackingSessions = a.mTrackingSessions := by
  cases hcurrent : a.mTrackingSessions[(⟨client, id⟩ : LocationSessionKey Client)]? with
  | none =>
      simp only [stopTrackingMultiplex, hcurrent]
      split_ifs with hone
      · exact stopTracking_sessions a ok
      · rfl
  | some current =>
      simp only [stopTrackingMultiplex, hcurrent]
      split_ifs with hone hlt
      · exact stopTracking_sessions a ok
      · exact startTracking_sessions a ok _
      · rfl

/-- A stop fails exactly when it calls the engine and the engine refuses. -/
lemma stopTrackingMultiplex_success_iff :
    (a.stopTrackingMultiplex client id ok).2.1 = .success ↔
      (StopCallsEngine a.mTrackingSessions ⟨client, id⟩ → ok = true) := by
  rw [StopCallsEngine]
  cases hcurrent : a.mTrackingSessions[(⟨client, id⟩ : LocationSessionKey Client)]? with
  | none =>
      simp only [stopTrackingMultiplex, hcurrent]
      split_ifs with hone
      · rw [stopTracking_success_iff]
        simp [hone]
      · simp [hone]
  | some current =>
      simp only [stopTrackingMultiplex, hcurrent, Option.mem_def, Option.some.injEq,
        exists_eq_left']
      split_ifs with hone hlt
      · rw [stopTracking_success_iff]
        simp [hone]
      · rw [startTracking_success_iff]
        exact ⟨fun hok _ => hok, fun hok => hok (.inr hlt)⟩
      · exact iff_of_true rfl fun h => absurd h (not_or.mpr ⟨hone, hlt⟩)

end Stop

section Loop

variable {a : TrackingState Client} {client : Client} (ok : LocationSessionKey Client → Bool)
  {l : List (LocationSessionKey Client × LocationOptions)}

/-- The loop touches no session but those of the client that the iterator has yet to reach. -/
lemma stopClientSessions_getElem?_of_forall {key : LocationSessionKey Client}
    (hkey : ∀ it ∈ l, client = it.1.client → key ≠ it.1) :
    (stopClientSessions client ok a l).1.mTrackingSessions[key]? = a.mTrackingSessions[key]? := by
  induction l generalizing a with
  | nil => rfl
  | cons it rest ih =>
      obtain ⟨hit, hrest⟩ := List.forall_mem_cons.mp hkey
      simp only [stopClientSessions]
      split_ifs with hclient hok
      · rw [ih hrest, eraseTrackingSession, stopTrackingMultiplex_sessions,
          LocationSessionMap.getElem?_erase, if_neg (hit hclient)]
      · rw [ih hrest, stopTrackingMultiplex_sessions]
      · exact ih hrest

/-- The loop gets rid of all the sessions of the client exactly when the engine accepts each call:
the first session whose stop it refuses is passed over, and the iterator does not come back. -/
lemma stopClientSessions_erases_iff (hl : l.Pairwise fun it it' => it.1 ≠ it'.1)
    (hlive : ∀ it ∈ l, a.mTrackingSessions[it.1]? = some it.2) :
    (∀ it ∈ l, client = it.1.client →
        (stopClientSessions client ok a l).1.mTrackingSessions[it.1]? = none) ↔
      AcceptsStops client ok a.mTrackingSessions l := by
  induction l generalizing a with
  | nil => simp [AcceptsStops]
  | cons it rest ih =>
      obtain ⟨hit, hdistinct⟩ := List.pairwise_cons.mp hl
      obtain ⟨hcurrent, hrest⟩ := List.forall_mem_cons.mp hlive
      have hpassed : ∀ it' ∈ rest, client = it'.1.client → it.1 ≠ it'.1 := fun it' h _ => hit it' h
      simp only [stopClientSessions, AcceptsStops, List.forall_mem_cons]
      split_ifs with hclient hok
      · have hsessions : ((a.stopTrackingMultiplex it.1.client it.1.id
            (ok it.1)).1.eraseTrackingSession it.1.client it.1.id).mTrackingSessions =
            a.mTrackingSessions.erase it.1 := by
          rw [eraseTrackingSession, stopTrackingMultiplex_sessions]
        have herased : (a.mTrackingSessions.erase it.1)[it.1]? = none := by
          rw [LocationSessionMap.getElem?_erase, if_pos rfl]
        have hrest' : ∀ it' ∈ rest, (a.mTrackingSessions.erase it.1)[it'.1]? = some it'.2 := by
          intro it' h
          rw [LocationSessionMap.getElem?_erase, if_neg (Ne.symm (hit it' h))]
          exact hrest it' h
        rw [stopClientSessions_getElem?_of_forall ok hpassed, ih hdistinct (hsessions ▸ hrest'),
          hsessions, ← stopTrackingMultiplex_success_iff]
        exact and_congr_left fun _ => iff_of_true (fun _ => herased) hok
      · rw [stopClientSessions_getElem?_of_forall ok hpassed, stopTrackingMultiplex_sessions,
          hcurrent]
        rw [stopTrackingMultiplex_success_iff] at hok
        refine iff_of_false (fun h => ?_) fun h => hok h.1
        cases h.1 hclient
      · rw [ih hdistinct hrest]
        exact and_iff_right fun h => absurd h hclient

end Loop

section Removal

variable (a : TrackingState Client) (client : Client) (ok : LocationSessionKey Client → Bool)

/-- The loop starts from all the sessions, so a session of the client that it does not reach is one
that is not there. -/
lemma removal_sessions_iff :
    (∀ id, (a.procRemoveClient client ok).1.mTrackingSessions[
        (⟨client, id⟩ : LocationSessionKey Client)]? = none) ↔
      AcceptsStops client ok a.mTrackingSessions a.mTrackingSessions.toList := by
  have hmem : ∀ it : LocationSessionKey Client × LocationOptions,
      it ∈ a.mTrackingSessions.toList ↔ a.mTrackingSessions[it.1]? = some it.2 := fun _ =>
    Std.TreeMap.mem_toList_iff_getElem?_eq_some
  rw [← stopClientSessions_erases_iff ok (distinct_toList _) fun it hit => (hmem it).mp hit]
  constructor
  · rintro h it - rfl
    exact h it.1.id
  · intro h id
    cases hcurrent : a.mTrackingSessions[(⟨client, id⟩ : LocationSessionKey Client)]? with
    | none =>
        rw [procRemoveClient, eraseClient, stopClientSessions_getElem?_of_forall ok, hcurrent]
        intro it hit _ heq
        rw [heq, (hmem it).mp hit] at hcurrent
        cases hcurrent
    | some current => exact h (⟨client, id⟩, current) ((hmem _).mpr hcurrent) rfl

/-- **What a removal leaves.** Nothing of the client is left, and all other sessions are as before,
exactly when the engine accepts every call that the stops of the client's sessions make. -/
theorem removal_leaves_nothing_iff :
    LeavesNothing client a (a.procRemoveClient client ok).1 ↔
      AcceptsStops client ok a.mTrackingSessions a.mTrackingSessions.toList := by
  rw [← removal_sessions_iff]
  refine ⟨LeavesNothing.sessions, fun h => ⟨h, ?_, fun key hkey => ?_⟩⟩
  · exact Std.TreeMap.getElem?_erase_self
  · refine stopClientSessions_getElem?_of_forall ok fun it _ hclient heq => hkey ?_
    rw [heq, hclient]

/-- A client with one session, whose stop the engine refuses: the session outlives the client. -/
theorem removal_leaves_session :
    ¬ LeavesNothing 1
      ((machine ℕ).run init [.addClient 1 ⟨true, false, true⟩,
        .startTracking 1 1 { size := 16, minInterval := 1000 } true])
      ((machine ℕ).run init [.addClient 1 ⟨true, false, true⟩,
        .startTracking 1 1 { size := 16, minInterval := 1000 } true,
        .removeClient 1 fun _ => false]) := fun h =>
  absurd (h.sessions 1) (by decide)

end Removal

end TrackingState

end GnssAdapter
end LocHal
