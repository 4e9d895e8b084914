import LocHal.Recovery.BoyerMoore

/-!
# When the search is exact (`recovery/recovery_updater.cpp`)

Where no re-occurrence of the suffix that matched is found, the search takes the next border of the
pattern, and `bm_make_delta2` looks for one from the mismatch on instead of from behind it.  For a
border at the mismatch the alignment goes on to where that would be, which is right; for one behind
the mismatch it goes on by one too many.

* `GoesOn.jumpsOverBorder` — an occurrence that is passed over is at such a border.
* `isExact_iff` — for a pattern without NUL the search is exact in all texts exactly when the
  pattern has no such border, or none that a text of the permitted length has room for.
-/

namespace LocHal.BoyerMoore

variable {str pat : List UInt8} {a j p s : ℕ}

/-- The search gives the offset of the first occurrence, or none when there is none. -/
def IsExact (str pat : List UInt8) : Prop :=
  ∃ search first, bmSearch str pat = some search ∧ search.offset = first.map Nat.cast ∧
    IsFirstFrom pat str 0 first

/-- The first border from `j` on is behind `j`, at `p`, and the part behind `j` has no re-occurrence
after another element. -/
structure JumpsOverBorder (pat : List UInt8) (j p : ℕ) : Prop where
  lt : j < p
  inside : p < pat.length
  border : BorderAt pat p
  first : ∀ q, j ≤ q → q < p → ¬BorderAt pat q
  no_reoccurrence : ∀ s, ¬ReoccursAt pat j s

/-- After a mismatch at `j` the shift is by one place more than the border. -/
lemma JumpsOverBorder.goodShift_eq {good : ℕ} (h : JumpsOverBorder pat j p) (hmem : 0 ∉ pat)
    (hgood : GoodShift pat j good) : good = p + 1 := by
  have hinside := h.inside
  have hstarts : PrefixAt pat p := (prefixAt_iff hmem hinside.le).mpr h.border
  rcases hgood with ⟨-, hre, -⟩ | ⟨-, ⟨q, hjq, hq, hqstarts, hbefore, hv⟩ | ⟨hnone, -⟩⟩
  · exact absurd hre (h.no_reoccurrence good)
  · rcases lt_trichotomy q p with hlt | heq | hgt
    · exact absurd ((prefixAt_iff hmem hq.le).mp hqstarts) (h.first q hjq hlt)
    · rw [hv, heq]
    · exact absurd hstarts (hbefore p h.lt.le hgt)
  · exact absurd hstarts (hnone p h.lt.le hinside)

/-- An occurrence that is passed over is at a border that is jumped over. -/
theorem GoesOn.jumpsOverBorder {good shift : ℕ} (h : GoesOn pat str a j good shift)
    (hmem : 0 ∉ pat) (hpos : 0 < s) (hs : s < shift) (hocc : OccursAt pat str (a + s)) :
    JumpsOverBorder pat j s := by
  have hgood := h.passes s hpos hs hocc
  have hle := h.le
  have hbound := h.goodShift.le h.mismatch.lt
  rcases h.goodShift with ⟨-, hre, hleast⟩ | ⟨hnone, hlast⟩
  · -- the shift is to the nearest re-occurrence, and the occurrence would be a nearer one
    have hgood_le := hre.le
    exact absurd (h.mismatch.reoccursAt hocc hpos (by omega)) (hleast s hpos hgood)
  · have hjs : j < s := by
      by_contra hge
      exact hnone s (h.mismatch.reoccursAt hocc hpos (by omega))
    have hborder := h.mismatch.borderAt hocc hjs
    have hstarts : PrefixAt pat s := (prefixAt_iff hmem (by omega)).mpr hborder
    rcases hlast with ⟨q, hjq, hq, -, hbefore, hv⟩ | ⟨hno_start, -⟩
    · have hqs : q = s := by
        by_contra hne
        exact hbefore s hjs.le (by omega) hstarts
      refine ⟨hjs, by omega, hborder, fun r hjr hrs hr => ?_, hnone⟩
      exact hbefore r hjr (by omega) ((prefixAt_iff hmem (by omega)).mpr hr)
    · exact absurd hstarts (hno_start s hjs.le (by omega))

/-- The search is exact in a text where no occurrence is at a border that is jumped over. -/
theorem isExact_of_forall_not (hstr : str.length < 2 ^ 30) (hne : pat ≠ [])
    (hlen : pat.length < 2 ^ 30) (hmem : 0 ∉ pat)
    (hsafe : ∀ a j p, MismatchAt pat str a j → JumpsOverBorder pat j p →
      ¬OccursAt pat str (a + p)) : IsExact str pat := by
  have hsearch := bmSearch_induction
    (motive := fun a search => ∃ first : Option ℕ, search.offset = first.map Nat.cast ∧
      IsFirstFrom pat str a first) hstr hlen hne ?_ ?_ ?_
  · obtain ⟨search, hrun, first, hoffset, hfirst⟩ := hsearch
    exact ⟨search, first, hrun, hoffset, hfirst⟩
  · exact fun a ha => ⟨none, rfl, IsFirstFrom.of_length_lt hne ha⟩
  · exact fun a hocc => ⟨some a, rfl, IsFirstFrom.of_occursAt hocc⟩
  · rintro a j good shift rest - hgoes ⟨first, hoffset, hfirst⟩
    refine ⟨first, hoffset, IsFirstFrom.of_skip (Nat.le_add_right a shift) ?_ hfirst⟩
    intro m ham hm hocc
    obtain ⟨s, rfl⟩ := Nat.exists_eq_add_of_le ham
    rcases Nat.eq_zero_or_pos s with rfl | hpos
    · exact hgoes.mismatch.not_occursAt hocc
    · have hjumps := hgoes.jumpsOverBorder hmem hpos (by omega) hocc
      exact hsafe a j s hgoes.mismatch hjumps hocc

/-- In a text with that border under a mismatch the search finds nothing. -/
theorem not_isExact_borderText {c : UInt8} (hne : pat ≠ []) (hlen : pat.length < 2 ^ 30)
    (hmem : 0 ∉ pat) (hjumps : JumpsOverBorder pat j p) (hroom : p + pat.length < 2 ^ 30)
    (hc : some c ≠ pat[j]?) : ¬IsExact (borderText pat j p c) pat := by
  have hinside := hjumps.inside
  have hlength : (borderText pat j p c).length = p + pat.length := length_borderText hinside.le
  have hmismatch := mismatchAt_borderText hinside.le hjumps.lt hjumps.border hc
  have hocc : OccursAt pat (borderText pat j p c) p := occursAt_borderText hinside.le
  have hstr : (borderText pat j p c).length < 2 ^ 30 := by omega
  have hsearch := bmSearch_induction
    (motive := fun a search => a = 0 ∨ p < a → search.offset = none) hstr hlen hne ?_ ?_ ?_
  · obtain ⟨search, hrun, hnone⟩ := hsearch
    rintro ⟨search', first, hrun', hoffset, hfirst⟩
    rw [hrun, Option.some_inj] at hrun'
    rw [← hrun', hnone (.inl rfl), eq_comm, Option.map_eq_none_iff] at hoffset
    rw [hoffset] at hfirst
    exact hfirst p (Nat.zero_le p) hocc
  · exact fun a _ _ => rfl
  · rintro a ha (rfl | hpa)
    · exact absurd ha hmismatch.not_occursAt
    · have hle := ha.length_le hne
      omega
  · rintro a i good shift rest - hgoes hrest (rfl | hpa)
    · -- the only mismatch of the first alignment is the one that jumps over the border
      have hi : i = j := hgoes.mismatch.unique hmismatch
      rw [hi] at hgoes
      have hgood := hjumps.goodShift_eq hmem hgoes.goodShift
      have hle := hgoes.good_le
      exact hrest (.inr (by omega))
    · exact hrest (.inr (by omega))

/-- `MODEM_VER_STR`. -/
def modemVerStr : List UInt8 := [84, 105, 109, 101, 95, 83, 116, 97, 109, 112, 34, 58, 32, 34]

example : "Time_Stamp\": \"".toUTF8.toList = modemVerStr := by decide +kernel

/-- The first character of the pattern is not in it again. -/
lemma not_jumpsOverBorder_modemVerStr (j p : ℕ) : ¬JumpsOverBorder modemVerStr j p := by
  intro hjumps
  have hall : ∀ p < 14, 0 < p → modemVerStr[p]? ≠ modemVerStr[0]? := by decide
  have hlt := hjumps.lt
  exact absurd (hjumps.border 0 hjumps.inside) (hall p hjumps.inside (by omega))

/-- The search for the modem version is exact. -/
theorem isExact_modemVerStr (hstr : str.length < 2 ^ 30) : IsExact str modemVerStr :=
  isExact_of_forall_not hstr (by decide) (by decide) (by decide) fun _ j p _ hjumps =>
    absurd hjumps (not_jumpsOverBorder_modemVerStr j p)

/-- The search for a pattern is exact exactly when no text has room for a border that is jumped
over. -/
theorem isExact_iff (pat : List UInt8) (hne : pat ≠ []) (hlen : pat.length < 2 ^ 30)
    (hmem : 0 ∉ pat) :
    (∀ str : List UInt8, str.length < 2 ^ 30 → IsExact str pat) ↔
      ∀ j p, JumpsOverBorder pat j p → 2 ^ 30 ≤ p + pat.length := by
  constructor
  · intro hexact j p hjumps
    by_contra hroom
    have hinside := hjumps.inside
    have hlt := hjumps.lt
    have hlength : (borderText pat j p 0).length = p + pat.length := length_borderText hinside.le
    have hzero : some (0 : UInt8) ≠ pat[j]? := by
      rw [List.getElem?_eq_getElem (by omega), Option.some_inj.ne]
      exact fun heq => hmem (heq ▸ List.getElem_mem _)
    exact not_isExact_borderText hne hlen hmem hjumps (by omega) hzero (hexact _ (by omega))
  · intro hsafe str hstr
    refine isExact_of_forall_not hstr hne hlen hmem fun a j p _ hjumps hocc => ?_
    have hroom := hsafe j p hjumps
    have hle := hocc.length_le hne
    omega

theorem isExact_modemVerStr_after :
    IsExact ([123, 34] ++ modemVerStr ++ [50, 48, 49, 56]) modemVerStr :=
  (isExact_iff modemVerStr (by decide) (by decide) (by decide)).mpr
    (fun j p hjumps => absurd hjumps (not_jumpsOverBorder_modemVerStr j p)) _ (by decide)

/-- `aba` has a border that is jumped over. -/
lemma jumpsOverBorder_aba : JumpsOverBorder [97, 98, 97] 1 2 where
  lt := by decide
  inside := by decide
  border := by
    intro k hk
    have hlt : 2 + k < 3 := hk
    have hzero : k = 0 := by omega
    rw [hzero]
    rfl
  first := by
    intro q hq hq' hborder
    have hone : q = 1 := by omega
    rw [hone] at hborder
    exact absurd (hborder 0 (by decide)) (by decide)
  no_reoccurrence := by
    intro s hre
    have hpos := hre.pos
    have hle := hre.le
    have hone : s = 1 := by omega
    rw [hone] at hre
    exact absurd (hre.matches_behind 2 (by decide) (by decide)) (by decide)

/-- `aba` is not found in `axaba`. -/
theorem aba_not_found :
    ¬∀ str pat : List UInt8, str.length < 2 ^ 30 → pat ≠ [] → pat.length < 2 ^ 30 → 0 ∉ pat →
      IsExact str pat := by
  intro hall
  have hexact := hall [97, 120, 97, 98, 97] [97, 98, 97] (by decide) (by decide) (by decide)
    (by decide)
  exact not_isExact_borderText (c := 120) (by decide) (by decide) (by decide) jumpsOverBorder_aba
    (by decide) (by decide) hexact

end LocHal.BoyerMoore
