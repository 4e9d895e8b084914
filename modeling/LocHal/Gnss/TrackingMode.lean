import LocHal.Gnss.Tracking

/-!
# The mode of the engine (`gps/gnss/GnssAdapter.cpp`)

The engine is given the options of one session, a fastest one.  The multiplexer decides by the
intervals alone, and restarts the engine only if a session is faster, or was faster, than all
others.  So when sessions tie, the one whose options the engine was given may change its mode or
leave, and the engine goes on as before: at the right interval, but in a mode that no session has
asked for.

`moments_ofFastest_iff` says that this is the only way for it to happen.  It looks at each moment in
which no session is being dealt with, those between the stops of a client removal included.
-/

namespace LocHal
namespace GnssAdapter

variable {Client : Type*} [LinearOrder Client]

/-- The engine runs in the mode and at the interval of a fastest live session. -/
def OfFastest (engine : Option LocPosMode) (sessions : LocationSessionMap Client) : Prop :=
  ∀ mode, engine = some mode →
    ∃ (key : LocationSessionKey Client) (options : LocationOptions), sessions[key]? = some options ∧
      convertOptions options = mode ∧ IsLeast (liveIntervals sessions) options.minInterval

/-- Another session asks for an interval of at most `n`. -/
def OtherWithin (sessions : LocationSessionMap Client) (key : LocationSessionKey Client) (n : ℕ) :
    Prop :=
  ∃ m ∈ otherIntervals sessions key, m ≤ n

/-- The session `key` is live and no faster than all the others, and nor are the options that it is
to have: the multiplexer leaves the engine alone. -/
def LeftAlone (sessions : LocationSessionMap Client) (key : LocationSessionKey Client)
    (new : Option LocationOptions) : Prop :=
  ∃ current, sessions[key]? = some current ∧ OtherWithin sessions key current.minInterval ∧
    ∀ options ∈ new, OtherWithin sessions key options.minInterval

/-- What the engine runs with is also what the new options, or another session, come to. -/
def TakenOver (engine : Option LocPosMode) (sessions : LocationSessionMap Client)
    (key : LocationSessionKey Client) (new : Option LocationOptions) : Prop :=
  ∀ mode, engine = some mode → (∃ options ∈ new, convertOptions options = mode) ∨
    ∃ (key' : LocationSessionKey Client) (options : LocationOptions),
      key' ≠ key ∧ sessions[key']? = some options ∧ convertOptions options = mode

/-- If the end of a session, or its new options, leave the engine alone, then its mode is taken
over. -/
def KeepsMode (engine : Option LocPosMode) (sessions : LocationSessionMap Client)
    (key : LocationSessionKey Client) (new : Option LocationOptions) : Prop :=
  LeftAlone sessions key new → TakenOver engine sessions key new

section Sessions

variable {engine : Option LocPosMode} {sessions : LocationSessionMap Client}
  {key : LocationSessionKey Client} {options current : LocationOptions}

lemma ofFastest_none : OfFastest none sessions := nofun

lemma ofFastest_convertOptions (hget : sessions[key]? = some options)
    (hleast : IsLeast (liveIntervals sessions) options.minInterval) :
    OfFastest (some (convertOptions options)) sessions := by
  rintro mode hmode
  exact ⟨key, options, hget, Option.some.inj hmode, hleast⟩

lemma minInterval_eq_of_convertOptions {options options' : LocationOptions}
    (h : convertOptions options = convertOptions options') :
    options.minInterval = options'.minInterval :=
  congrArg LocPosMode.min_interval h

lemma otherIntervals_subset : otherIntervals sessions key ⊆ liveIntervals sessions := by
  intro n hn
  obtain ⟨key', options', -, hget, rfl⟩ := mem_otherIntervals.mp hn
  exact mem_liveIntervals.mpr ⟨key', options', hget, rfl⟩

lemma minInterval_mem_otherIntervals {key' : LocationSessionKey Client} (hne : key' ≠ key)
    (hget : sessions[key']? = some options) :
    options.minInterval ∈ otherIntervals sessions key :=
  mem_otherIntervals.mpr ⟨key', options, hne, hget, rfl⟩

/-- When a session ends and the engine goes on, what it runs with has to be taken over. -/
lemma ofFastest_erase_iff (h : OfFastest engine sessions) :
    OfFastest engine (sessions.erase key) ↔ TakenOver engine sessions key none := by
  constructor
  · intro herase mode hmode
    obtain ⟨key', options', hget, hconvert, -⟩ := herase mode hmode
    rw [LocationSessionMap.getElem?_erase] at hget
    split_ifs at hget with hkey
    exact .inr ⟨key', options', hkey, hget, hconvert⟩
  · intro htaken mode hmode
    rcases htaken mode hmode with ⟨options, hnone, -⟩ | ⟨key', options', hkey, hget, rfl⟩
    · cases hnone
    · obtain ⟨key₀, options₀, -, hconvert, hleast⟩ := h _ hmode
      refine ⟨key', options', ?_, rfl, ?_⟩
      · rw [LocationSessionMap.getElem?_erase, if_neg hkey]
        exact hget
      · rw [liveIntervals_erase]
        refine ⟨minInterval_mem_otherIntervals hkey hget, fun n hn => ?_⟩
        rw [← minInterval_eq_of_convertOptions hconvert]
        exact hleast.2 (otherIntervals_subset hn)

/-- The same when a session gets options that are no faster than all the others. -/
lemma ofFastest_insert_iff (h : OfFastest engine sessions)
    (hother : OtherWithin sessions key options.minInterval) :
    OfFastest engine (sessions.insert key options) ↔
      TakenOver engine sessions key (some options) := by
  constructor
  · intro hinsert mode hmode
    obtain ⟨key', options', hget, hconvert, -⟩ := hinsert mode hmode
    rw [LocationSessionMap.getElem?_insert] at hget
    split_ifs at hget with hkey
    · exact .inl ⟨options, rfl, (Option.some.inj hget) ▸ hconvert⟩
    · exact .inr ⟨key', options', hkey, hget, hconvert⟩
  · intro htaken mode hmode
    obtain ⟨key₀, options₀, -, hconvert, hleast⟩ := h _ hmode
    have hbound : ∀ n ∈ insert options.minInterval (otherIntervals sessions key),
        options₀.minInterval ≤ n := by
      rintro n (rfl | hn)
      · obtain ⟨m, hm, hle⟩ := hother
        exact (hleast.2 (otherIntervals_subset hm)).trans hle
      · exact hleast.2 (otherIntervals_subset hn)
    rcases htaken mode hmode with ⟨options', hnew, rfl⟩ | ⟨key', options', hkey, hget, rfl⟩
    · obtain rfl := Option.some.inj hnew
      refine ⟨key, options, Std.TreeMap.getElem?_insert_self, rfl, ?_⟩
      rw [liveIntervals_insert]
      refine ⟨Set.mem_insert _ _, fun n hn => ?_⟩
      rw [← minInterval_eq_of_convertOptions hconvert]
      exact hbound n hn
    · refine ⟨key', options', ?_, rfl, ?_⟩
      · rw [LocationSessionMap.getElem?_insert, if_neg hkey]
        exact hget
      · rw [liveIntervals_insert]
        refine ⟨Set.mem_insert_of_mem _ (minInterval_mem_otherIntervals hkey hget), fun n hn => ?_⟩
        rw [← minInterval_eq_of_convertOptions hconvert]
        exact hbound n hn

/-- The law, read off the list of the sessions. -/
lemma ofFastest_iff_toList : OfFastest engine sessions ↔
    ∀ mode ∈ engine, ∃ it ∈ sessions.toList, convertOptions it.2 = mode ∧
      ∀ it' ∈ sessions.toList, it.2.minInterval ≤ it'.2.minInterval := by
  have hget : ∀ key options, (key, options) ∈ sessions.toList ↔ sessions[key]? = some options :=
    fun _ _ => Std.TreeMap.mem_toList_iff_getElem?_eq_some
  constructor
  · intro h mode hmode
    obtain ⟨key, options, hkey, hconvert, hleast⟩ := h mode hmode
    refine ⟨(key, options), (hget key options).mpr hkey, hconvert, fun it' hit' => ?_⟩
    exact hleast.2 (mem_liveIntervals.mpr ⟨it'.1, it'.2, (hget _ _).mp hit', rfl⟩)
  · intro h mode hmode
    obtain ⟨it, hit, hconvert, hle⟩ := h mode hmode
    have hkey := (hget it.1 it.2).mp hit
    refine ⟨it.1, it.2, hkey, hconvert, mem_liveIntervals.mpr ⟨it.1, it.2, hkey, rfl⟩, ?_⟩
    intro n hn
    obtain ⟨key', options', hkey', rfl⟩ := mem_liveIntervals.mp hn
    exact hle (key', options') ((hget _ _).mpr hkey')

instance : Decidable (OfFastest engine sessions) := decidable_of_iff' _ ofFastest_iff_toList

end Sessions

namespace TrackingState

/-! ## The multiplexer -/

/-- The state is right at a moment: no stored session has size zero, and the engine runs as a
fastest live session asks. -/
structure InMode (a : TrackingState Client) : Prop where
  sizes : NoZeroSize a.mTrackingSessions
  mode : OfFastest a.mLocApi a.mTrackingSessions

section Multiplex

variable {a : TrackingState Client} {client : Client} {id : ℕ} {current options : LocationOptions}

/-- The loop finds a session that counts, if there are any. -/
lemma exists_getElem?_smallest (hsizes : NoZeroSize a.mTrackingSessions)
    (counts : LocationSessionKey Client → Bool)
    (hne : (intervals a.mTrackingSessions counts).Nonempty) :
    ∃ key, counts key = true ∧ a.mTrackingSessions[key]? =
      some (smallestIntervalOptions counts a.mTrackingSessions.toList) := by
  have hget : ∀ key options, (key, options) ∈ a.mTrackingSessions.toList ↔
      a.mTrackingSessions[key]? = some options := fun _ _ =>
    Std.TreeMap.mem_toList_iff_getElem?_eq_some
  have hsize : ∀ it ∈ a.mTrackingSessions.toList, it.2.size ≠ 0 := fun it hit =>
    hsizes it.1 it.2 ((hget _ _).mp hit)
  rcases smallestIntervalOptions_cases counts _ hsize with ⟨-, hnone⟩ | ⟨key, hcounts, hmem, -⟩
  · obtain ⟨n, key, options, hcounts, hkey, rfl⟩ := hne
    rw [hnone _ ((hget key options).mpr hkey)] at hcounts
    cases hcounts
  · exact ⟨key, hcounts, (hget _ _).mp hmem⟩

/-- What `startTracking` comes to. -/
lemma startTracking_cases (options : LocationOptions) (ok : Bool) :
    (a.startTracking options ok).1.mTrackingSessions = a.mTrackingSessions ∧
      (((a.startTracking options ok).2.1 = .success ∧
          (a.startTracking options ok).1.mLocApi = some (convertOptions options)) ∨
        ((a.startTracking options ok).2.1 ≠ .success ∧
          (a.startTracking options ok).1.mLocApi = a.mLocApi)) := by
  cases ok with
  | true => exact ⟨rfl, .inl ⟨rfl, rfl⟩⟩
  | false => exact ⟨rfl, .inr ⟨by simp [startTracking, startFix, UlpProxyBase.sendStartFix], rfl⟩⟩

/-- The engine is restarted, and the sessions are changed by `commit` if it accepts: then it runs as
asked if the options are those of a fastest session after the change. -/
lemma ofFastest_restart (h : OfFastest a.mLocApi a.mTrackingSessions) (ok : Bool)
    (commit : TrackingState Client → TrackingState Client)
    (change : LocationSessionMap Client → LocationSessionMap Client)
    (hengine : ∀ a, (commit a).mLocApi = a.mLocApi)
    (hchange : ∀ a, (commit a).mTrackingSessions = change a.mTrackingSessions)
    {key : LocationSessionKey Client} (hget : (change a.mTrackingSessions)[key]? = some options)
    (hleast : IsLeast (liveIntervals (change a.mTrackingSessions)) options.minInterval) :
    let r := a.startTracking options ok
    let a' := if r.2.1 = .success then commit r.1 else r.1
    OfFastest a'.mLocApi a'.mTrackingSessions := by
  intro r a'
  obtain ⟨hsessions, ⟨hok, hmode⟩ | ⟨hfail, hmode⟩⟩ := startTracking_cases (a := a) options ok
  · have ha' : a' = commit r.1 := if_pos hok
    rw [ha', hengine, hchange, hmode, hsessions]
    exact ofFastest_convertOptions hget hleast
  · have ha' : a' = r.1 := if_neg hfail
    rw [ha', hmode, hsessions]
    exact h

/-- The engine is restarted with `started`, and one session's options are stored if it accepts. -/
lemma ofFastest_restart_save (h : OfFastest a.mLocApi a.mTrackingSessions) {ok : Bool}
    {started : LocationOptions} {key : LocationSessionKey Client}
    (hget : (a.mTrackingSessions.insert (⟨client, id⟩ : LocationSessionKey Client) options)[key]? =
      some started)
    (hleast : IsLeast (insert options.minInterval (otherIntervals a.mTrackingSessions ⟨client, id⟩))
      started.minInterval)
    {r : TrackingState Client × LocationError × List (TrackingOutput Client)}
    (hr : r = a.startTracking started ok) :
    let a' := if r.2.1 = .success then r.1.saveTrackingSession client id options else r.1
    OfFastest a'.mLocApi a'.mTrackingSessions := by
  subst hr
  refine ofFastest_restart h ok (fun a => a.saveTrackingSession client id options)
    (fun sessions => sessions.insert ⟨client, id⟩ options) (fun _ => rfl) (fun _ => rfl) hget ?_
  rw [liveIntervals_insert]
  exact hleast

/-- The others, if the session is as fast as none of them or there are none. -/
lemma not_leftAlone_of_size (hone : a.mTrackingSessions.size = 1)
    (hlive : a.mTrackingSessions[(⟨client, id⟩ : LocationSessionKey Client)]? = some current)
    (new : Option LocationOptions) : ¬ LeftAlone a.mTrackingSessions ⟨client, id⟩ new := by
  rintro ⟨-, -, ⟨m, hm, -⟩, -⟩
  rw [(size_eq_one_iff hlive).mp hone] at hm
  exact hm

lemma otherWithin_iff {wanted : ℕ} {key : LocationSessionKey Client}
    (hleast : IsLeast (otherIntervals a.mTrackingSessions key) wanted) (n : ℕ) :
    OtherWithin a.mTrackingSessions key n ↔ wanted ≤ n := by
  constructor
  · rintro ⟨m, hm, hle⟩
    exact (hleast.2 hm).trans hle
  · intro hle
    exact ⟨wanted, hleast.1, hle⟩

lemma not_leftAlone_of_lt {wanted : ℕ} {key : LocationSessionKey Client}
    (hlive : a.mTrackingSessions[key]? = some current)
    (hleast : IsLeast (otherIntervals a.mTrackingSessions key) wanted)
    (hlt : current.minInterval < wanted) (new : Option LocationOptions) :
    ¬ LeftAlone a.mTrackingSessions key new := by
  rintro ⟨current', hlive', hwithin, -⟩
  obtain rfl := Option.some.inj (hlive.symm.trans hlive')
  exact absurd ((otherWithin_iff hleast _).mp hwithin) (Nat.not_le_of_lt hlt)

/-- **Stopping a session** leaves the engine in the mode of a fastest one exactly when the mode is
taken over. -/
lemma InMode.stop_iff (ha : a.InMode)
    (hlive : a.mTrackingSessions[(⟨client, id⟩ : LocationSessionKey Client)]? = some current)
    (ok : Bool) :
    let r := a.stopTrackingMultiplex client id ok
    let a' := if r.2.1 = .success then r.1.eraseTrackingSession client id else r.1
    OfFastest a'.mLocApi a'.mTrackingSessions ↔
      KeepsMode a.mLocApi a.mTrackingSessions ⟨client, id⟩ none := by
  intro r a'
  have ha' : a' = if r.2.1 = .success then r.1.eraseTrackingSession client id else r.1 := rfl
  clear_value a'
  by_cases hone : a.mTrackingSessions.size = 1
  · refine iff_of_true ?_ fun hleft => absurd hleft (not_leftAlone_of_size hone hlive none)
    have hr : r = a.stopTracking ok := if_pos hone
    rw [ha', hr]
    cases ok with
    | true => exact ofFastest_none
    | false => exact ha.mode
  have hne := otherIntervals_nonempty hlive hone
  have hleast := isLeast_other ha.sizes hlive hone
  obtain ⟨key', hkey', hget⟩ := exists_getElem?_smallest ha.sizes (· ≠ ⟨client, id⟩) hne
  have hkey' : key' ≠ ⟨client, id⟩ := of_decide_eq_true hkey'
  by_cases hlt : current.minInterval <
      (smallestIntervalOptions (· ≠ ⟨client, id⟩) a.mTrackingSessions.toList).minInterval
  · refine iff_of_true ?_ fun hleft => absurd hleft (not_leftAlone_of_lt hlive hleast hlt none)
    have hr : r = a.startTracking
        (smallestIntervalOptions (· ≠ ⟨client, id⟩) a.mTrackingSessions.toList) ok := by
      simp only [r, stopTrackingMultiplex, hlive, if_neg hone, if_pos hlt]
    rw [ha', hr]
    have hstays : (a.mTrackingSessions.erase (⟨client, id⟩ : LocationSessionKey Client))[key']? =
        some (smallestIntervalOptions (· ≠ ⟨client, id⟩) a.mTrackingSessions.toList) := by
      rw [LocationSessionMap.getElem?_erase, if_neg hkey']
      exact hget
    refine ofFastest_restart ha.mode ok (fun a => a.eraseTrackingSession client id)
      (fun sessions => sessions.erase ⟨client, id⟩) (fun _ => rfl) (fun _ => rfl) hstays ?_
    rw [liveIntervals_erase]
    exact hleast
  · have hr : r = (a, .success, []) := by
      simp only [r, stopTrackingMultiplex, hlive, if_neg hone, if_neg hlt]
    have hleft : LeftAlone a.mTrackingSessions ⟨client, id⟩ none :=
      ⟨current, hlive, (otherWithin_iff hleast _).mpr (Nat.not_lt.mp hlt), fun _ hnone => by
        cases hnone⟩
    rw [ha', hr]
    refine (ofFastest_erase_iff ha.mode).trans ?_
    exact ⟨fun htaken _ => htaken, fun hkeeps => hkeeps hleft⟩

/-- **Updating a session**, likewise. -/
lemma InMode.update_iff (ha : a.InMode)
    (hlive : a.mTrackingSessions[(⟨client, id⟩ : LocationSessionKey Client)]? = some current)
    (options : LocationOptions) (ok : Bool) :
    let r := a.updateTrackingMultiplex client id options ok
    let a' := if r.2.1 = .success then r.1.saveTrackingSession client id options else r.1
    OfFastest a'.mLocApi a'.mTrackingSessions ↔
      KeepsMode a.mLocApi a.mTrackingSessions ⟨client, id⟩ (some options) := by
  intro r a'
  have ha' : a' = if r.2.1 = .success then r.1.saveTrackingSession client id options else r.1 := rfl
  clear_value a'
  have hinsert : (a.mTrackingSessions.insert (⟨client, id⟩ : LocationSessionKey Client) options)[
      (⟨client, id⟩ : LocationSessionKey Client)]? = some options :=
    Std.TreeMap.getElem?_insert_self
  by_cases hone : a.mTrackingSessions.size = 1
  · refine iff_of_true ?_ fun hleft => absurd hleft (not_leftAlone_of_size hone hlive _)
    have hr : r = a.startTracking options ok := if_pos hone
    rw [ha']
    refine ofFastest_restart_save ha.mode hinsert ?_ hr
    rw [(size_eq_one_iff hlive).mp hone, insert_empty_eq]
    exact isLeast_singleton
  have hne := otherIntervals_nonempty hlive hone
  have hleast := isLeast_other ha.sizes hlive hone
  obtain ⟨key', hkey', hget⟩ := exists_getElem?_smallest ha.sizes (· ≠ ⟨client, id⟩) hne
  have hkey' : key' ≠ ⟨client, id⟩ := of_decide_eq_true hkey'
  by_cases hlt : options.minInterval <
      (smallestIntervalOptions (· ≠ ⟨client, id⟩) a.mTrackingSessions.toList).minInterval
  · refine iff_of_true ?_ ?_
    · have hr : r = a.startTracking options ok := by
        simp only [r, updateTrackingMultiplex, hlive, if_neg hone, if_pos hlt]
      have hmin := hleast.insert options.minInterval
      rw [min_eq_left hlt.le] at hmin
      rw [ha']
      exact ofFastest_restart_save ha.mode hinsert hmin hr
    · rintro ⟨-, -, -, hnew⟩
      exact absurd ((otherWithin_iff hleast _).mp (hnew options rfl)) (Nat.not_le_of_lt hlt)
  by_cases hlt' : current.minInterval <
      (smallestIntervalOptions (· ≠ ⟨client, id⟩) a.mTrackingSessions.toList).minInterval
  · refine iff_of_true ?_ fun hleft => absurd hleft (not_leftAlone_of_lt hlive hleast hlt' _)
    have hr : r = a.startTracking
        (smallestIntervalOptions (· ≠ ⟨client, id⟩) a.mTrackingSessions.toList) ok := by
      simp only [r, updateTrackingMultiplex, hlive, if_neg hone, if_neg hlt, if_pos hlt']
    have hstays : (a.mTrackingSessions.insert (⟨client, id⟩ : LocationSessionKey Client)
        options)[key']? =
          some (smallestIntervalOptions (· ≠ ⟨client, id⟩) a.mTrackingSessions.toList) := by
      rw [LocationSessionMap.getElem?_insert, if_neg hkey']
      exact hget
    have hmin := hleast.insert options.minInterval
    rw [min_eq_right (Nat.not_lt.mp hlt)] at hmin
    rw [ha']
    exact ofFastest_restart_save ha.mode hstays hmin hr
  · have hr : r = (a, .success, []) := by
      simp only [r, updateTrackingMultiplex, hlive, if_neg hone, if_neg hlt, if_neg hlt']
    have hwithin := (otherWithin_iff hleast options.minInterval).mpr (Nat.not_lt.mp hlt)
    have hleft : LeftAlone a.mTrackingSessions ⟨client, id⟩ (some options) := by
      refine ⟨current, hlive, (otherWithin_iff hleast _).mpr (Nat.not_lt.mp hlt'), ?_⟩
      rintro options' hnew
      rwa [← Option.some.inj hnew]
    rw [ha', hr]
    refine (ofFastest_insert_iff ha.mode hwithin).trans ?_
    exact ⟨fun htaken _ => htaken, fun hkeeps => hkeeps hleft⟩

/-- **Starting a session** with an id of its own always leaves the engine in the mode of a fastest
one. -/
lemma InMode.start (ha : a.InMode)
    (hfresh : a.mTrackingSessions[(⟨client, id⟩ : LocationSessionKey Client)]? = none)
    (options : LocationOptions) (ok : Bool) :
    let r := a.startTrackingMultiplex options ok
    let a' := if r.2.1 = .success then r.1.saveTrackingSession client id options else r.1
    OfFastest a'.mLocApi a'.mTrackingSessions := by
  intro r a'
  have ha' : a' = if r.2.1 = .success then r.1.saveTrackingSession client id options else r.1 := rfl
  clear_value a'
  have hnot : (⟨client, id⟩ : LocationSessionKey Client) ∉ a.mTrackingSessions := by
    rw [Std.TreeMap.mem_iff_isSome_getElem?, hfresh]
    exact Bool.false_ne_true
  have hinsert : (a.mTrackingSessions.insert (⟨client, id⟩ : LocationSessionKey Client) options)[
      (⟨client, id⟩ : LocationSessionKey Client)]? = some options :=
    Std.TreeMap.getElem?_insert_self
  have hrestart : IsLeast (insert options.minInterval (liveIntervals a.mTrackingSessions))
      options.minInterval → r = a.startTracking options ok →
        OfFastest a'.mLocApi a'.mTrackingSessions := by
    intro hleast hr
    rw [ha']
    refine ofFastest_restart_save ha.mode hinsert ?_ hr
    rw [otherIntervals_of_not_mem hnot]
    exact hleast
  by_cases hempty : a.mTrackingSessions.isEmpty = true
  · refine hrestart ?_ (if_pos hempty)
    rw [liveIntervals_eq_empty_iff.mpr hempty, insert_empty_eq]
    exact isLeast_singleton
  have hne : (liveIntervals a.mTrackingSessions).Nonempty := by
    rwa [Set.nonempty_iff_ne_empty, ne_eq, liveIntervals_eq_empty_iff]
  have hleast := isLeast_smallest ha.sizes (fun _ => true) hne
  change IsLeast (liveIntervals a.mTrackingSessions) _ at hleast
  by_cases hlt : options.minInterval <
      (smallestIntervalOptions (fun _ => true) a.mTrackingSessions.toList).minInterval
  · have hmin := hleast.insert options.minInterval
    rw [min_eq_left hlt.le] at hmin
    apply hrestart hmin
    simp only [r, startTrackingMultiplex, if_neg hempty, if_pos hlt]
  · have hr : r = (a, .success, []) := by
      simp only [r, startTrackingMultiplex, if_neg hempty, if_neg hlt]
    have hwithin : OtherWithin a.mTrackingSessions ⟨client, id⟩ options.minInterval := by
      refine ⟨_, ?_, Nat.not_lt.mp hlt⟩
      rw [otherIntervals_of_not_mem hnot]
      exact hleast.1
    rw [ha', hr]
    refine (ofFastest_insert_iff ha.mode hwithin).mpr fun mode hmode => .inr ?_
    -- the session that the engine runs for is another one
    obtain ⟨key', options', hget, hconvert, -⟩ := ha.mode mode hmode
    refine ⟨key', options', ?_, hget, hconvert⟩
    rintro rfl
    rw [hfresh] at hget
    cases hget

end Multiplex

/-! ## Events and moments -/

/-- A message of the tracking sessions, or a restart after which the engine refuses to start. -/
inductive EngineEvent (Client : Type*) where
  | msg (msg : TrackingMsg Client)
  | restartRefused (sessionLost : Bool)

/-- `restartSessions`, with the answer of the engine. -/
def restartSessionsAnswered (a : TrackingState Client) (ok : Bool) :
    TrackingState Client × List (TrackingOutput Client) :=
  let a := { a with mOdcpiRequestActive := false }
  if a.mTrackingSessions.isEmpty then (a, [])
  else
    let smallest := smallestIntervalOptions (fun _ => true) a.mTrackingSessions.toList
    let started := a.startFix (convertOptions smallest) ok
    (started.1, started.2.2)

lemma restartSessions_eq (a : TrackingState Client) :
    a.restartSessions = a.restartSessionsAnswered true := rfl

/-- One event. -/
def engineStep (a : TrackingState Client) :
    EngineEvent Client → TrackingState Client × List (TrackingOutput Client)
  | .msg msg => a.proc msg
  | .restartRefused sessionLost =>
      restartSessionsAnswered { a with mLocApi := if sessionLost then none else a.mLocApi } false

/-- The adapter as a machine over these events. -/
def engineMachine (Client : Type*) [LinearOrder Client] :
    Machine (TrackingState Client) (EngineEvent Client) (TrackingOutput Client) :=
  ⟨engineStep⟩

/-- The states of `stopClientSessions` after each session that it stops. -/
def stopMoments (client : Client) (ok : LocationSessionKey Client → Bool) :
    TrackingState Client → List (LocationSessionKey Client × LocationOptions) →
      List (TrackingState Client)
  | _, [] => []
  | a, it :: rest =>
      if client = it.1.client then
        let stopped := a.stopTrackingMultiplex it.1.client it.1.id (ok it.1)
        let a := if stopped.2.1 = .success then
            stopped.1.eraseTrackingSession it.1.client it.1.id else stopped.1
        a :: stopMoments client ok a rest
      else stopMoments client ok a rest

/-- The states in which no session is being dealt with, until the event is done. -/
def moments (a : TrackingState Client) : EngineEvent Client → List (TrackingState Client)
  | .msg (.removeClient client ok) =>
      stopMoments client ok a a.mTrackingSessions.toList ++ [(a.procRemoveClient client ok).1]
  | e => [(a.engineStep e).1]

/-- Each stop of `stopClientSessions` keeps the mode. -/
def StopsKeepMode (client : Client) (ok : LocationSessionKey Client → Bool) :
    TrackingState Client → List (LocationSessionKey Client × LocationOptions) → Prop
  | _, [] => True
  | a, it :: rest =>
      if client = it.1.client then
        let stopped := a.stopTrackingMultiplex it.1.client it.1.id (ok it.1)
        let a' := if stopped.2.1 = .success then
            stopped.1.eraseTrackingSession it.1.client it.1.id else stopped.1
        KeepsMode a.mLocApi a.mTrackingSessions it.1 none ∧ StopsKeepMode client ok a' rest
      else StopsKeepMode client ok a rest

/-- The event ends no session, and changes the options of none, whose mode would not be taken over
by an engine that is left alone. -/
def EventKeepsMode (a : TrackingState Client) : EngineEvent Client → Prop
  | .msg (.removeClient client ok) => StopsKeepMode client ok a a.mTrackingSessions.toList
  | .msg (.updateTracking client id options _) =>
      options.size ≠ 0 → KeepsMode a.mLocApi a.mTrackingSessions ⟨client, id⟩ (some options)
  | .msg (.stopTracking client id _) => KeepsMode a.mLocApi a.mTrackingSessions ⟨client, id⟩ none
  | _ => True

/-- A start uses a session id that no live session of its client has. -/
def FreshEvent (a : TrackingState Client) : EngineEvent Client → Prop
  | .msg msg => a.Fresh msg
  | .restartRefused _ => True

instance (a : TrackingState Client) : ∀ e, Decidable (a.FreshEvent e)
  | .msg msg => inferInstanceAs (Decidable (a.Fresh msg))
  | .restartRefused _ => isTrue trivial

section Runs

variable {a : TrackingState Client} {client : Client} {id : ℕ}

lemma sessions_stopTrackingMultiplex (a : TrackingState Client) (client : Client) (id : ℕ)
    (ok : Bool) :
    (a.stopTrackingMultiplex client id ok).1.mTrackingSessions = a.mTrackingSessions := by
  simp only [stopTrackingMultiplex]
  split
  · cases ok with
    | true | false => rfl
  · split
    · rfl
    · split
      · exact (startTracking_cases _ ok).1
      · rfl

lemma sessions_updateTrackingMultiplex (options : LocationOptions) (ok : Bool) :
    (a.updateTrackingMultiplex client id options ok).1.mTrackingSessions =
      a.mTrackingSessions := by
  simp only [updateTrackingMultiplex]
  split
  · exact (startTracking_cases _ ok).1
  · split
    · rfl
    · split
      · exact (startTracking_cases _ ok).1
      · split
        · exact (startTracking_cases _ ok).1
        · rfl

lemma sessions_startTrackingMultiplex (options : LocationOptions) (ok : Bool) :
    (a.startTrackingMultiplex options ok).1.mTrackingSessions = a.mTrackingSessions := by
  simp only [startTrackingMultiplex]
  split
  · exact (startTracking_cases _ ok).1
  · split
    · exact (startTracking_cases _ ok).1
    · rfl

lemma noZeroSize_erase (client : Client) (id : ℕ) (h : NoZeroSize a.mTrackingSessions)
    {r : TrackingState Client × LocationError × List (TrackingOutput Client)}
    (hr : r.1.mTrackingSessions = a.mTrackingSessions) :
    NoZeroSize (if r.2.1 = .success then r.1.eraseTrackingSession client id
      else r.1).mTrackingSessions := by
  intro key options hget
  split_ifs at hget with hok
  · rw [eraseTrackingSession, hr, LocationSessionMap.getElem?_erase] at hget
    split_ifs at hget
    exact h key options hget
  · rw [hr] at hget
    exact h key options hget

lemma noZeroSize_save (h : NoZeroSize a.mTrackingSessions) {new : LocationOptions}
    (hsize : new.size ≠ 0)
    {r : TrackingState Client × LocationError × List (TrackingOutput Client)}
    (hr : r.1.mTrackingSessions = a.mTrackingSessions) :
    NoZeroSize (if r.2.1 = .success then r.1.saveTrackingSession client id new
      else r.1).mTrackingSessions := by
  intro key options hget
  split_ifs at hget with hok
  · rw [saveTrackingSession, hr, LocationSessionMap.getElem?_insert] at hget
    split_ifs at hget
    · rwa [← Option.some.inj hget]
    · exact h key options hget
  · rw [hr] at hget
    exact h key options hget

/-- **Stopping the sessions of a client.** The engine is in the mode of a fastest session after each
stop exactly when each of them keeps the mode, and then it is when they are all done. -/
lemma InMode.stopClientSessions (client : Client) (ok : LocationSessionKey Client → Bool)
    (l : List (LocationSessionKey Client × LocationOptions)) (ha : a.InMode)
    (hl : l.Pairwise fun it it' => it.1 ≠ it'.1)
    (hlive : ∀ it ∈ l, a.mTrackingSessions[it.1]? = some it.2) :
    ((∀ a' ∈ stopMoments client ok a l, OfFastest a'.mLocApi a'.mTrackingSessions) ↔
        StopsKeepMode client ok a l) ∧
      (StopsKeepMode client ok a l → (stopClientSessions client ok a l).1.InMode) := by
  induction l generalizing a with
  | nil => exact ⟨iff_of_true (fun _ hmem => absurd hmem List.not_mem_nil) trivial, fun _ => ha⟩
  | cons it rest ih =>
      obtain ⟨hit, hrest⟩ := List.pairwise_cons.mp hl
      have hliveRest : ∀ it' ∈ rest, a.mTrackingSessions[it'.1]? = some it'.2 := fun it' h =>
        hlive it' (List.mem_cons_of_mem _ h)
      by_cases hclient : client = it.1.client
      · have hsame := sessions_stopTrackingMultiplex a it.1.client it.1.id (ok it.1)
        have hstop := ha.stop_iff (hlive it List.mem_cons_self) (ok it.1)
        have hsizes := noZeroSize_erase it.1.client it.1.id ha.sizes hsame
        have hliveNext : ∀ it' ∈ rest, (if (a.stopTrackingMultiplex it.1.client it.1.id
            (ok it.1)).2.1 = .success then
              (a.stopTrackingMultiplex it.1.client it.1.id (ok it.1)).1.eraseTrackingSession
                it.1.client it.1.id
            else (a.stopTrackingMultiplex it.1.client it.1.id
              (ok it.1)).1).mTrackingSessions[it'.1]? = some it'.2 := by
          intro it' h
          split_ifs
          · rw [eraseTrackingSession, hsame, LocationSessionMap.getElem?_erase,
              if_neg (Ne.symm (hit it' h))]
            exact hliveRest it' h
          · rw [hsame]
            exact hliveRest it' h
        simp only [stopMoments, StopsKeepMode, TrackingState.stopClientSessions, if_pos hclient,
          List.forall_mem_cons]
        simp only [] at hstop
        generalize (if (a.stopTrackingMultiplex it.1.client it.1.id (ok it.1)).2.1 = .success then
          (a.stopTrackingMultiplex it.1.client it.1.id (ok it.1)).1.eraseTrackingSession
            it.1.client it.1.id
          else (a.stopTrackingMultiplex it.1.client it.1.id (ok it.1)).1) = a'
          at hstop hsizes hliveNext ⊢
        refine ⟨⟨?_, ?_⟩, ?_⟩
        · rintro ⟨hmode, hmoments⟩
          exact ⟨hstop.mp hmode, (ih ⟨hsizes, hmode⟩ hrest hliveNext).1.mp hmoments⟩
        · rintro ⟨hkeeps, hrestKeep⟩
          have hmode := hstop.mpr hkeeps
          exact ⟨hmode, (ih ⟨hsizes, hmode⟩ hrest hliveNext).1.mpr hrestKeep⟩
        · rintro ⟨hkeeps, hrestKeep⟩
          exact (ih ⟨hsizes, hstop.mpr hkeeps⟩ hrest hliveNext).2 hrestKeep
      · simp only [stopMoments, StopsKeepMode, TrackingState.stopClientSessions, if_neg hclient]
        exact ih ha hrest hliveRest

/-- The engine may lose its fix session. -/
lemma InMode.lost (ha : a.InMode) (sessionLost : Bool) :
    InMode { a with mLocApi := if sessionLost then none else a.mLocApi } := by
  refine ⟨ha.sizes, ?_⟩
  cases sessionLost with
  | true => exact ofFastest_none
  | false => exact ha.mode

/-- A restart leaves an engine that accepts it in the mode of a fastest session, and any other as it
was. -/
lemma InMode.restart (ha : a.InMode) (ok : Bool) : (restartSessionsAnswered a ok).1.InMode := by
  simp only [restartSessionsAnswered]
  split_ifs with hempty
  · exact ⟨ha.sizes, ha.mode⟩
  · cases ok with
    | false => exact ⟨ha.sizes, ha.mode⟩
    | true =>
        have hne : (liveIntervals a.mTrackingSessions).Nonempty := by
          rwa [Set.nonempty_iff_ne_empty, ne_eq, liveIntervals_eq_empty_iff]
        obtain ⟨key, -, hget⟩ := exists_getElem?_smallest ha.sizes (fun _ => true) hne
        exact ⟨ha.sizes, ofFastest_convertOptions hget (isLeast_smallest ha.sizes _ hne)⟩

/-- An event with one moment: it is right after the event exactly when the event keeps the mode. -/
lemma moments_iff_of_singleton {a' : TrackingState Client} {keeps : Prop}
    (hsizes : NoZeroSize a'.mTrackingSessions)
    (h : OfFastest a'.mLocApi a'.mTrackingSessions ↔ keeps) :
    ((∀ a'' ∈ [a'], OfFastest a''.mLocApi a''.mTrackingSessions) ↔ keeps) ∧
      (keeps → a'.InMode) :=
  ⟨by rw [List.forall_mem_singleton, h], fun hkeeps => ⟨hsizes, h.mpr hkeeps⟩⟩

lemma InMode.procStartTracking (ha : a.InMode) (options : LocationOptions) (ok : Bool)
    (hfresh : a.isTrackingSession client id = false) :
    (a.procStartTracking client id options ok).1.InMode := by
  rw [TrackingState.procStartTracking]
  split_ifs with hcb hsize
  · exact ha
  · exact ha
  · have hnone : a.mTrackingSessions[(⟨client, id⟩ : LocationSessionKey Client)]? = none := by
      rw [isTrackingSession, Std.TreeMap.contains_eq_isSome_getElem?] at hfresh
      exact Option.isSome_eq_false_iff.mp hfresh |> Option.isNone_iff_eq_none.mp
    exact ⟨noZeroSize_save ha.sizes hsize (sessions_startTrackingMultiplex options ok),
      ha.start hnone options ok⟩

lemma InMode.procUpdateTracking_iff (ha : a.InMode) (client : Client) (id : ℕ)
    (options : LocationOptions) (ok : Bool) :
    NoZeroSize (a.procUpdateTracking client id options ok).1.mTrackingSessions ∧
      (OfFastest (a.procUpdateTracking client id options ok).1.mLocApi
          (a.procUpdateTracking client id options ok).1.mTrackingSessions ↔
        (options.size ≠ 0 →
          KeepsMode a.mLocApi a.mTrackingSessions ⟨client, id⟩ (some options))) := by
  rw [TrackingState.procUpdateTracking]
  split_ifs with hlive hsize
  · exact ⟨ha.sizes, iff_of_true ha.mode fun hne => absurd hsize hne⟩
  · obtain ⟨current, hcurrent⟩ := isTrackingSession_iff.mp hlive
    refine ⟨noZeroSize_save ha.sizes hsize (sessions_updateTrackingMultiplex options ok), ?_⟩
    refine (ha.update_iff hcurrent options ok).trans ?_
    exact ⟨fun hkeeps _ => hkeeps, fun hkeeps => hkeeps hsize⟩
  · refine ⟨ha.sizes, iff_of_true ha.mode ?_⟩
    rintro - ⟨current, hcurrent, -⟩
    exact absurd (isTrackingSession_iff.mpr ⟨current, hcurrent⟩) hlive

lemma InMode.procStopTracking_iff (ha : a.InMode) (client : Client) (id : ℕ) (ok : Bool) :
    NoZeroSize (a.procStopTracking client id ok).1.mTrackingSessions ∧
      (OfFastest (a.procStopTracking client id ok).1.mLocApi
          (a.procStopTracking client id ok).1.mTrackingSessions ↔
        KeepsMode a.mLocApi a.mTrackingSessions ⟨client, id⟩ none) := by
  rw [TrackingState.procStopTracking]
  split_ifs with hlive
  · obtain ⟨current, hcurrent⟩ := isTrackingSession_iff.mp hlive
    exact ⟨noZeroSize_erase client id ha.sizes (sessions_stopTrackingMultiplex a client id ok),
      ha.stop_iff hcurrent ok⟩
  · refine ⟨ha.sizes, iff_of_true ha.mode ?_⟩
    rintro ⟨current, hcurrent, -⟩
    exact absurd (isTrackingSession_iff.mpr ⟨current, hcurrent⟩) hlive

/-- **One event.** Each moment of it is right exactly when it keeps the mode. -/
lemma InMode.moments_iff (ha : a.InMode) {e : EngineEvent Client} (hfresh : a.FreshEvent e) :
    ((∀ a' ∈ a.moments e, OfFastest a'.mLocApi a'.mTrackingSessions) ↔ a.EventKeepsMode e) ∧
      (a.EventKeepsMode e → ((engineMachine Client).next a e).InMode) := by
  cases e with
  | restartRefused sessionLost =>
      have hnext := (ha.lost sessionLost).restart false
      exact moments_iff_of_singleton hnext.sizes (iff_of_true hnext.mode trivial)
  | msg msg =>
      cases msg with
      | addClient client callbacks =>
          exact moments_iff_of_singleton ha.sizes (iff_of_true ha.mode trivial)
      | removeClient client ok =>
          have hdistinct : a.mTrackingSessions.toList.Pairwise fun it it' => it.1 ≠ it'.1 :=
            Std.TreeMap.distinct_keys_toList.imp fun hne heq => hne (by simp [heq])
          obtain ⟨hmoments, hdone⟩ := ha.stopClientSessions client ok _ hdistinct fun it hit =>
            Std.TreeMap.mem_toList_iff_getElem?_eq_some.mp hit
          have hlast : StopsKeepMode client ok a a.mTrackingSessions.toList →
              (a.procRemoveClient client ok).1.InMode := fun hkeeps =>
            ⟨(hdone hkeeps).sizes, (hdone hkeeps).mode⟩
          refine ⟨?_, hlast⟩
          simp only [moments, List.forall_mem_append, List.forall_mem_singleton, hmoments]
          exact ⟨fun h => h.1, fun hkeeps => ⟨hkeeps, (hlast hkeeps).mode⟩⟩
      | startTracking client id options ok =>
          have hnext := ha.procStartTracking options ok hfresh
          exact moments_iff_of_singleton hnext.sizes (iff_of_true hnext.mode trivial)
      | updateTracking client id options ok =>
          have hnext := ha.procUpdateTracking_iff client id options ok
          exact moments_iff_of_singleton hnext.1 hnext.2
      | stopTracking client id ok =>
          have hnext := ha.procStopTracking_iff client id ok
          exact moments_iff_of_singleton hnext.1 hnext.2
      | restartSessions sessionLost =>
          have hnext := (ha.lost sessionLost).restart true
          rw [← restartSessions_eq] at hnext
          exact moments_iff_of_singleton hnext.sizes (iff_of_true hnext.mode trivial)

lemma inMode_init : (init : TrackingState Client).InMode where
  sizes key options h := by
    rw [init, Std.TreeMap.getElem?_emptyc] at h
    cases h
  mode := ofFastest_none

/-- **The engine's mode belongs to a fastest live session**, at every moment of a run whose starts
use fresh session ids, exactly when no event takes away the mode of an engine it leaves alone. -/
theorem moments_ofFastest_iff (events : List (EngineEvent Client))
    (hfresh : (engineMachine Client).Steps FreshEvent init events) :
    (engineMachine Client).Steps
        (fun a e => ∀ a' ∈ a.moments e, OfFastest a'.mLocApi a'.mTrackingSessions) init events ↔
      (engineMachine Client).Steps EventKeepsMode init events :=
  Machine.steps_iff_steps (fun _ _ ha hf => (ha.moments_iff hf).1)
    (fun _ _ ha hf hmoments => (ha.moments_iff hf).2 ((ha.moments_iff hf).1.mp hmoments))
    inMode_init hfresh

end Runs

/-- Two sessions at one interval, of which the first is stopped. -/
theorem moments_ofFastest_two_sessions :
    let events : List (EngineEvent ℕ) :=
      [.msg (.addClient 1 ⟨true, false, true⟩),
        .msg (.startTracking 1 1 { size := 16, minInterval := 1000, mode := .msb } true),
        .msg (.startTracking 1 2 { size := 16, minInterval := 1000, mode := .msb } true),
        .restartRefused false, .msg (.stopTracking 1 1 true)]
    (engineMachine ℕ).Steps
        (fun a e => ∀ a' ∈ a.moments e, OfFastest a'.mLocApi a'.mTrackingSessions) init events ↔
      (engineMachine ℕ).Steps EventKeepsMode init events :=
  moments_ofFastest_iff _ (by decide)

/-- Of two sessions at one interval the one that the engine was started for is stopped, and the
engine goes on in a mode that the other has not asked for. -/
theorem mode_of_stopped_session :
    ¬ (engineMachine ℕ).Steps
      (fun a e => ∀ a' ∈ a.moments e, OfFastest a'.mLocApi a'.mTrackingSessions) init
      [.msg (.addClient 1 ⟨true, false, true⟩),
        .msg (.startTracking 1 1 { size := 16, minInterval := 1000, mode := .msb } true),
        .msg (.startTracking 1 2 { size := 16, minInterval := 1000 } true),
        .msg (.stopTracking 1 1 true)] := by
  decide

end TrackingState

end GnssAdapter
end LocHal
