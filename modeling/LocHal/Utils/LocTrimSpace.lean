import LocHal.Utils.LocConfBytes

/-!
# Trimming in place (`gps/utils/loc_misc_utils.cpp`)

`loc_util_trim_space` walks over a string once and writes it back to its own beginning from the
first character on that is no space; at the end it cuts off what follows the last one.  The three
pointers and the memory are those of the source, so that every write can be seen.

`locUtilTrimSpaceAt_eq`: what the walk leaves in memory is the string that `locUtilTrimSpace` makes
of it, and the bytes behind the old string stay as they are.  `trims_iff`: the spaces are gone
exactly when the string is empty or not made of spaces alone; nothing is cut off a string of spaces,
as no position has been noted for the end character.
-/

namespace LocHal

/-! ## The walk -/

/-- `isspace` of a byte. -/
def isspaceByte (b : UInt8) : Bool := isSpace (Char.ofUInt8 b)

/-- The memory and the pointers in the loop of `loc_util_trim_space`. -/
structure TrimState where
  mem : Memory
  scanPtr : ℕ
  writePtr : ℕ
  firstNonspace : Option ℕ
  lastNonspace : Option ℕ

namespace TrimState

/-- The first character that is no space is noted. -/
def noteFirst (st : TrimState) : TrimState :=
  if isspaceByte (st.mem st.scanPtr) = false ∧ st.firstNonspace = none then
    { st with firstNonspace := some st.scanPtr }
  else st

/-- From the first one on the characters are shifted to the left. -/
def shiftLeft (st : TrimState) : TrimState :=
  if st.firstNonspace = none then st
  else
    let mem := st.mem.store st.writePtr [st.mem st.scanPtr]
    let writePtr := st.writePtr + 1
    -- `*scan_ptr` is read again behind the write
    { st with
      mem := mem
      writePtr := writePtr
      lastNonspace := if isspaceByte (mem st.scanPtr) then st.lastNonspace else some writePtr }

/-- One round of the loop. -/
def round (st : TrimState) : TrimState :=
  let st := st.noteFirst.shiftLeft
  { st with scanPtr := st.scanPtr + 1 }

/-- The loop, up to the end character; `none` when the fuel does not reach it. -/
def scan : ℕ → TrimState → Option TrimState
  | 0, _ => none
  | fuel + 1, st => if st.mem st.scanPtr = 0 then some st else scan fuel st.round

end TrimState

/-- `loc_util_trim_space`: the memory afterwards. -/
def locUtilTrimSpaceAt (fuel : ℕ) (m : Memory) (orgString : Option ℕ) : Option Memory :=
  match orgString with
  | none => some m
  | some a =>
      (TrimState.scan fuel ⟨m, a, a, none, none⟩).map fun st =>
        match st.lastNonspace with
        | some lastNonspace => st.mem.store lastNonspace [0]
        | none => st.mem

/-! ## What the walk leaves -/

section Walk

variable {m : Memory} {a k fuel : ℕ} {b : UInt8} {s written rest : List UInt8}
  {firstNonspace lastNonspace : Option ℕ}

lemma lineChars_append (s t : List UInt8) : lineChars (s ++ t) = lineChars s ++ lineChars t :=
  List.map_append

@[simp] lemma length_lineChars (s : List UInt8) : (lineChars s).length = s.length :=
  List.length_map ..

lemma lineChars_inj {t : List UInt8} (h : lineChars s = lineChars t) : s = t :=
  List.map_injective_iff.mpr (Function.LeftInverse.injective toUInt8_ofUInt8) h

/-- The character under `scan_ptr` has not been written to yet, or has been with itself. -/
lemma store_scanned (hle : written.length ≤ k) :
    m.store a (written ++ [m (a + k)]) (a + k) = m (a + k) := by
  rcases Nat.lt_or_eq_of_le hle with hlt | heq
  · refine Memory.store_of_not_inside ?_
    rw [List.length_append, List.length_singleton]
    omega
  · have hk : k < (written ++ [m (a + k)]).length := by
      rw [List.length_append, List.length_singleton]
      omega
    rw [Memory.store_add hk, List.getElem_append_right (by omega), List.getElem_singleton]

/-- Spaces before the first other character are passed over. -/
lemma round_skip (hle : written.length ≤ k) (hfirst : firstNonspace = none)
    (hspace : isspaceByte (m (a + k)) = true) (last : Option ℕ) :
    TrimState.round ⟨m.store a written, a + k, a + written.length, firstNonspace, last⟩ =
      ⟨m.store a written, a + (k + 1), a + written.length, none, last⟩ := by
  have hread : m.store a written (a + k) = m (a + k) :=
    Memory.store_of_not_inside (by omega)
  have hnote : ¬ (isspaceByte (m.store a written (a + k)) = false ∧ firstNonspace = none) := by
    rw [hread, hspace]
    exact fun h => Bool.noConfusion h.1
  rw [TrimState.round, TrimState.noteFirst, if_neg hnote, TrimState.shiftLeft, if_pos hfirst,
    hfirst, Nat.add_assoc]

/-- Every other round writes a character. -/
lemma round_write (hle : written.length ≤ k)
    (hwrite : firstNonspace ≠ none ∨ isspaceByte (m (a + k)) = false) (last : Option ℕ) :
    ∃ first, TrimState.round ⟨m.store a written, a + k, a + written.length, firstNonspace, last⟩ =
      ⟨m.store a (written ++ [m (a + k)]), a + (k + 1), a + (written ++ [m (a + k)]).length,
        some first, if isspaceByte (m (a + k)) then last
          else some (a + (written ++ [m (a + k)]).length)⟩ := by
  have hread : m.store a written (a + k) = m (a + k) :=
    Memory.store_of_not_inside (by omega)
  have hnoted : ∃ first, TrimState.noteFirst
      ⟨m.store a written, a + k, a + written.length, firstNonspace, last⟩ =
      ⟨m.store a written, a + k, a + written.length, some first, last⟩ := by
    rw [TrimState.noteFirst]
    simp only [hread]
    cases firstNonspace with
    | none => exact ⟨a + k, if_pos ⟨hwrite.resolve_left fun h => h rfl, rfl⟩⟩
    | some first => exact ⟨first, if_neg fun h => nomatch h.2⟩
  obtain ⟨first, hfirst⟩ := hnoted
  refine ⟨first, ?_⟩
  rw [TrimState.round, hfirst, TrimState.shiftLeft, if_neg (Option.some_ne_none first)]
  simp only [hread, Memory.store_append, store_scanned hle, List.length_append,
    List.length_singleton, Nat.add_assoc]

/-- The walk over what is left of the string does in memory what `trimLoop` does to its
characters. -/
lemma scan_eq (hle : written.length ≤ k) (hfirst : firstNonspace = none ↔ written = [])
    (hrest : m.HoldsString (a + k) rest) (hfuel : rest.length < fuel) :
    ∃ st written' last, TrimState.scan fuel ⟨m.store a written, a + k, a + written.length,
        firstNonspace, lastNonspace.map (a + ·)⟩ = some st ∧
      st.mem = m.store a written' ∧ st.lastNonspace = last.map (a + ·) ∧
      trimLoop (lineChars rest) (lineChars written) lastNonspace = (lineChars written', last) ∧
      written'.length ≤ k + rest.length := by
  induction rest generalizing written k firstNonspace lastNonspace fuel with
  | nil =>
      obtain ⟨fuel, rfl⟩ := Nat.exists_eq_succ_of_ne_zero (Nat.ne_of_gt hfuel)
      have hend : m.store a written (a + k) = 0 := by
        rw [Memory.store_of_not_inside (by omega)]
        exact hrest.of_nil
      exact ⟨_, written, lastNonspace, if_pos hend, rfl, rfl, rfl, hle⟩
  | cons b rest ih =>
      obtain ⟨fuel, rfl⟩ := Nat.exists_eq_succ_of_ne_zero (Nat.ne_of_gt (Nat.zero_lt_of_lt hfuel))
      obtain ⟨hb, hnul, hrest'⟩ := Memory.holdsString_cons.mp hrest
      have hfuel' : rest.length < fuel := Nat.lt_of_succ_lt_succ hfuel
      have hne : ¬ m.store a written (a + k) = 0 := by
        rw [Memory.store_of_not_inside (by omega), hb]
        exact hnul
      have hlen : k + (b :: rest).length = k + 1 + rest.length := by
        rw [List.length_cons]
        omega
      rw [TrimState.scan, if_neg hne, hlen, lineChars, List.map_cons, ← lineChars, trimLoop_cons]
      have hnil : lineChars written = [] ↔ written = [] := List.map_eq_nil_iff
      by_cases hskip : isSpace (Char.ofUInt8 b) = true ∧ lineChars written = []
      · have hnone : firstNonspace = none := hfirst.mpr (hnil.mp hskip.2)
        rw [if_pos hskip, round_skip hle hnone (hb ▸ hskip.1)]
        exact ih (Nat.le_succ_of_le hle) (iff_of_true rfl (hnil.mp hskip.2)) hrest' hfuel'
      · have hwrite : firstNonspace ≠ none ∨ isspaceByte (m (a + k)) = false := by
          rw [hb]
          by_cases hspace : isSpace (Char.ofUInt8 b) = true
          · exact .inl fun h => hskip ⟨hspace, hnil.mpr (hfirst.mp h)⟩
          · exact .inr (Bool.eq_false_iff.mpr hspace)
        obtain ⟨first, hround⟩ := round_write hle hwrite (lastNonspace.map (a + ·))
        have hlast : (if isspaceByte (m (a + k)) = true then lastNonspace.map (a + ·)
            else some (a + (written ++ [m (a + k)]).length)) =
            Option.map (a + ·) (if isSpace (Char.ofUInt8 b) = true then lastNonspace
              else some (lineChars written ++ [Char.ofUInt8 b]).length) := by
          rw [hb, isspaceByte, apply_ite (Option.map (a + ·)), List.length_append,
            List.length_append, length_lineChars]
          rfl
        have hchars : lineChars written ++ [Char.ofUInt8 b] = lineChars (written ++ [b]) :=
          (lineChars_append written [b]).symm
        rw [if_neg hskip, hround, hlast, hb, hchars]
        refine ih ?_ (iff_of_false (Option.some_ne_none first) ?_) hrest' hfuel'
        · rw [List.length_append, List.length_singleton]
          omega
        · exact List.append_ne_nil_of_right_ne_nil written (List.cons_ne_nil b [])

/-- **The walk over a string.** The bytes kept are written over its beginning, and the end character
behind them if any of them is no space. -/
lemma locUtilTrimSpaceAt_of_holdsString (hs : m.HoldsString a s) (hfuel : s.length < fuel) :
    ∃ written last, trimLoop (lineChars s) [] none = (lineChars written, last) ∧
      written.length ≤ s.length ∧
      locUtilTrimSpaceAt fuel m (some a) = some (match last with
        | some n => (m.store a written).store (a + n) [0]
        | none => m.store a written) := by
  obtain ⟨st, written, last, hscan, hmem, hlast, hloop, hle⟩ :=
    @scan_eq m a 0 fuel [] s none none (Nat.le_refl 0) (iff_of_true rfl rfl) hs hfuel
  rw [Memory.store_nil] at hscan
  refine ⟨written, last, hloop, by omega, ?_⟩
  have hscan' : TrimState.scan fuel ⟨m, a, a, none, none⟩ = some st := hscan
  rw [locUtilTrimSpaceAt]
  simp only [hscan', Option.map_some, hlast, hmem]
  cases last with
  | none => rfl
  | some n => rfl

/-- A string of spaces stays as it is, and so does the memory around it. -/
lemma locUtilTrimSpaceAt_of_blank (hs : m.HoldsString a s) (hfuel : s.length < fuel)
    (hblank : Blank (lineChars s)) : locUtilTrimSpaceAt fuel m (some a) = some m := by
  obtain ⟨written, last, hloop, -, hrun⟩ := locUtilTrimSpaceAt_of_holdsString hs hfuel
  have hlast : last = none := by
    have hnone := (trimLoop_eq_none_iff (lineChars s) [] none).mpr ⟨rfl, hblank⟩
    rwa [hloop] at hnone
  have hwritten : written = [] := by
    have hfst := trimLoop_fst (lineChars s) [] none
    rw [hloop, if_pos rfl, List.dropWhile_eq_nil_iff.mpr hblank] at hfst
    exact List.map_eq_nil_iff.mp hfst
  rw [hrun, hlast, hwritten]
  exact congrArg some (Memory.store_nil m a)

/-- What a walk over a string with another character leaves. -/
lemma locUtilTrimSpaceAt_of_not_blank (hs : m.HoldsString a s) (hfuel : s.length < fuel)
    (hblank : ¬ Blank (lineChars s)) :
    ∃ written n, lineChars written = (lineChars s).dropWhile isSpace ∧
      lineChars (written.take n) = stripSpace (lineChars s) ∧ n ≤ written.length ∧
      written.length ≤ s.length ∧ 0 ∉ written ∧
      locUtilTrimSpaceAt fuel m (some a) = some ((m.store a written).store (a + n) [0]) := by
  obtain ⟨written, last, hloop, hle, hrun⟩ := locUtilTrimSpaceAt_of_holdsString hs hfuel
  have hfst : lineChars written = (lineChars s).dropWhile isSpace := by
    have hfst := trimLoop_fst (lineChars s) [] none
    rwa [hloop, if_pos rfl] at hfst
  have hsuffix : written <:+ s := by
    rw [lineChars, lineChars, List.dropWhile_map] at hfst
    rw [lineChars_inj hfst]
    exact List.dropWhile_suffix _
  cases last with
  | none =>
      exact absurd ((trimLoop_eq_none_iff (lineChars s) [] none).mp (congrArg Prod.snd hloop)).2
        hblank
  | some n =>
      have hn : n ≤ written.length := by
        have hall : ∀ k ∈ (trimLoop (lineChars s) [] none).2,
            k ≤ (trimLoop (lineChars s) [] none).1.length := by
          refine trimLoop_le fun _ h => ?_
          cases h
        have hbound := hall n (congrArg Prod.snd hloop)
        rwa [hloop, length_lineChars] at hbound
      have hstrip : lineChars (written.take n) = stripSpace (lineChars s) := by
        rw [← locUtilTrimSpace_eq hblank, locUtilTrimSpace, hloop]
        exact List.map_take
      exact ⟨written, n, hfst, hstrip, hn, hle, fun h => hs.1 (hsuffix.subset h), hrun⟩

/-- **Trimming in memory.** What stands at the address afterwards is the string that
`locUtilTrimSpace` makes of the old one, and nothing outside of the old one is written to. -/
theorem locUtilTrimSpaceAt_eq (hs : m.HoldsString a s) (hfuel : s.length < fuel) :
    ∃ m' t, locUtilTrimSpaceAt fuel m (some a) = some m' ∧ m'.HoldsString a t ∧
      lineChars t = locUtilTrimSpace (lineChars s) ∧ m.SameOutside m' a (s.length + 1) := by
  by_cases hblank : Blank (lineChars s)
  · exact ⟨m, s, locUtilTrimSpaceAt_of_blank hs hfuel hblank, hs,
      (locUtilTrimSpace_of_blank hblank).symm, fun _ _ => rfl⟩
  · obtain ⟨written, n, -, hstrip, hn, hle, hnul, hrun⟩ :=
      locUtilTrimSpaceAt_of_not_blank hs hfuel hblank
    refine ⟨_, _, hrun, Memory.holdsString_cut hnul hn, ?_, fun i hi => ?_⟩
    · rw [hstrip, locUtilTrimSpace_eq hblank]
    · rw [Memory.store_of_not_inside (by rw [List.length_singleton]; omega),
        Memory.store_of_not_inside (by omega)]

end Walk

/-! ## Trimming twice -/

section Twice

variable {m : Memory} {a fuel : ℕ} {s : List UInt8}

/-- No space is left at the beginning. -/
lemma dropWhile_stripSpace (s : List Char) :
    (stripSpace s).dropWhile isSpace = stripSpace s := by
  refine List.dropWhile_eq_self_iff.mpr fun hpos => ?_
  have hle : stripSpace s <+: s.dropWhile isSpace := List.rdropWhile_prefix _ _
  rw [hle.getElem hpos]
  exact List.dropWhile_get_zero_not _ _ (Nat.lt_of_lt_of_le hpos hle.length_le)

lemma stripSpace_stripSpace (s : List Char) : stripSpace (stripSpace s) = stripSpace s := by
  rw [stripSpace, dropWhile_stripSpace]
  exact List.rdropWhile_idempotent _ _

/-- The second walk writes every character over itself. -/
lemma locUtilTrimSpaceAt_of_stripped (hs : m.HoldsString a s) (hfuel : s.length < fuel)
    (hstrip : stripSpace (lineChars s) = lineChars s) :
    locUtilTrimSpaceAt fuel m (some a) = some m := by
  by_cases hblank : Blank (lineChars s)
  · exact locUtilTrimSpaceAt_of_blank hs hfuel hblank
  · obtain ⟨written, n, hfst, htake, hn, -, -, hrun⟩ :=
      locUtilTrimSpaceAt_of_not_blank hs hfuel hblank
    have hwritten : written = s := by
      rw [← hstrip, dropWhile_stripSpace, hstrip] at hfst
      exact lineChars_inj hfst
    subst hwritten
    have hlength : n = written.length := by
      rw [hstrip] at htake
      have := congrArg List.length (lineChars_inj htake)
      rw [List.length_take_of_le hn] at this
      exact this
    rw [hrun, hlength, Memory.store_append, hs.store]

end Twice

/-- What the comment above `loc_util_trim_space` promises of the string at an address, and that a
second call finds nothing to trim. -/
structure Trims (fuel : ℕ) (m : Memory) (a : ℕ) (s : List UInt8) : Prop where
  trimmed : ∃ m' t, locUtilTrimSpaceAt fuel m (some a) = some m' ∧ m'.HoldsString a t ∧
    lineChars t = stripSpace (lineChars s)
  again : ∀ m', locUtilTrimSpaceAt fuel m (some a) = some m' →
    locUtilTrimSpaceAt fuel m' (some a) = some m'

/-- **Trimming.** The spaces around a string are gone exactly when the string is empty or has a
character that is no space. -/
theorem trims_iff {m : Memory} {a fuel : ℕ} {s : List UInt8} (hs : m.HoldsString a s)
    (hfuel : s.length < fuel) :
    Trims fuel m a s ↔ s = [] ∨ ¬ Blank (lineChars s) := by
  constructor
  · intro h
    by_cases hblank : Blank (lineChars s)
    · obtain ⟨m', t, hrun, ht, hstrip⟩ := h.trimmed
      have hsame : m' = m :=
        Option.some.inj (hrun.symm.trans (locUtilTrimSpaceAt_of_blank hs hfuel hblank))
      rw [Memory.HoldsString.unique hs (hsame ▸ ht)]
      exact .inl (List.map_eq_nil_iff.mp (hstrip.trans (stripSpace_of_blank hblank)))
    · exact .inr hblank
  · intro h
    obtain ⟨m', t, hrun, ht, htrim, -⟩ := locUtilTrimSpaceAt_eq hs hfuel
    have hstrip : lineChars t = stripSpace (lineChars s) := by
      rcases h with rfl | h
      · exact htrim
      · rw [htrim, locUtilTrimSpace_eq h]
    have hfuel' : t.length < fuel := by
      have hle : (stripSpace (lineChars s)).length ≤ (lineChars s).length :=
        Nat.le_trans (List.rdropWhile_prefix _ _).length_le (List.dropWhile_suffix _).length_le
      rw [← hstrip, length_lineChars, length_lineChars] at hle
      omega
    refine ⟨⟨m', t, hrun, ht, hstrip⟩, fun m'' hrun' => ?_⟩
    rw [hrun, Option.some.injEq] at hrun'
    subst hrun'
    exact locUtilTrimSpaceAt_of_stripped ht hfuel' (by rw [hstrip, stripSpace_stripSpace])

/-- Two spaces around a letter. -/
theorem trims_letter :
    Trims 4 (Memory.store (fun _ => 0) 0 [32, 97, 32]) 0 [32, 97, 32] :=
  (trims_iff ⟨by decide, by decide⟩ (by decide)).mpr (.inr (by decide))

/-- A single space is left standing. -/
theorem space_not_trimmed :
    ¬ ∀ (fuel : ℕ) (m : Memory) (a : ℕ) (s : List UInt8), m.HoldsString a s → s.length < fuel →
      Trims fuel m a s := by
  intro h
  have hholds : Memory.HoldsString (Memory.store (fun _ => 0) 0 [32]) 0 [32] :=
    ⟨by decide, by decide⟩
  obtain ⟨m', t, hrun, ht, hstrip⟩ := (h 2 _ 0 [32] hholds (by decide)).trimmed
  have hsame : locUtilTrimSpaceAt 2 _ (some 0) = some _ :=
    locUtilTrimSpaceAt_of_blank hholds (by decide) (by decide)
  rw [hrun, Option.some.injEq] at hsame
  have hleft : [32] = t := Memory.HoldsString.unique hholds (hsame ▸ ht)
  rw [← hleft] at hstrip
  revert hstrip
  decide

end LocHal
