import LocHal.Utils.LocCfgUpdate
import Mathlib.Data.List.DropRight
import Mathlib.Data.List.Induction

/-!
# Lines of a configuration (`gps/utils/loc_cfg.cpp`)

`loc_fill_conf_item` takes a line apart at its first `=`, with the spaces around the two parts
trimmed.

A value with a character that is no space, and without another `=`, is stored without the spaces
around it (`locFillConfItem_value`), and of no other value is that true
(`locFillConfItem_line_iff`): a line without a value is skipped (`confItem_empty`), of a value in
which another `=` stands nothing is read from there on (`confItem_cut`), and a value of nothing but
spaces keeps them (`confItem_blank`), also one of which there is only the newline.
-/

namespace LocHal

/-! ## Trimming -/

section Trim

variable {s written : List Char} {lastNonspace : Option ℕ} {c : Char}

/-- A string without the spaces that it begins and ends with. -/
def stripSpace (s : List Char) : List Char := (s.dropWhile isSpace).rdropWhile isSpace

/-- Nothing but spaces. -/
def Blank (s : List Char) : Prop := ∀ c ∈ s, isSpace c = true

instance (s : List Char) : Decidable (Blank s) := List.decidableBAll _ s

/-- What the loop writes: everything from the first character on that is no space. -/
lemma trimLoop_fst (s written : List Char) (lastNonspace : Option ℕ) :
    (trimLoop s written lastNonspace).1 =
      if written = [] then s.dropWhile isSpace else written ++ s := by
  induction s generalizing written lastNonspace with
  | nil =>
      rw [trimLoop, List.dropWhile_nil, List.append_nil]
      split
      · assumption
      · rfl
  | cons c s ih =>
      rw [trimLoop_cons]
      by_cases hwritten : written = []
      · by_cases hc : isSpace c = true
        · rw [if_pos ⟨hc, hwritten⟩, ih, if_pos hwritten, if_pos hwritten,
            List.dropWhile_cons_of_pos hc]
        · rw [if_neg (fun h => hc h.1), ih, if_neg (by simp), if_pos hwritten, hwritten,
            List.dropWhile_cons_of_neg hc]
          rfl
      · rw [if_neg (fun h => hwritten h.2), ih, if_neg (by simp), if_neg hwritten,
          List.append_assoc, List.singleton_append]

/-- The last character is kept when it is no space. -/
lemma locUtilTrimSpace_append_nonspace (hc : isSpace c = false) (s : List Char) :
    locUtilTrimSpace (s ++ [c]) = s.dropWhile isSpace ++ [c] := by
  have hnot : ¬ (isSpace c = true ∧ (trimLoop s [] none).1 = []) := by simp [hc]
  have hloop : trimLoop (s ++ [c]) [] none =
      (s.dropWhile isSpace ++ [c], some (s.dropWhile isSpace ++ [c]).length) := by
    have hfst : (trimLoop s [] none).1 = s.dropWhile isSpace := by rw [trimLoop_fst, if_pos rfl]
    rw [trimLoop_append, trimLoop_cons, if_neg hnot, hfst, trimLoop, hc]
    rfl
  rw [locUtilTrimSpace, hloop]
  exact List.take_length

/-- One more character behind the first that is no space, or one that is no space itself. -/
lemma dropWhile_isSpace_append (h : ¬ Blank s ∨ isSpace c = false) :
    (s ++ [c]).dropWhile isSpace = s.dropWhile isSpace ++ [c] := by
  rw [List.dropWhile_append]
  split
  · rename_i hempty
    have hblank : Blank s := List.dropWhile_eq_nil_iff.mp (List.isEmpty_iff.mp hempty)
    have hc : ¬ isSpace c = true := by
      rw [Bool.not_eq_true]
      exact h.resolve_left (not_not_intro hblank)
    rw [List.dropWhile_cons_of_neg hc, List.isEmpty_iff.mp hempty, List.nil_append]
  · rfl

/-- **Trimming** takes the spaces away that a string begins and ends with, if it has anything but
spaces. -/
theorem locUtilTrimSpace_eq (h : ¬ Blank s) : locUtilTrimSpace s = stripSpace s := by
  induction s using List.reverseRecOn with
  | nil => exact absurd (fun c hc => absurd hc List.not_mem_nil) h
  | append_singleton s c ih =>
      cases hc : isSpace c with
      | false =>
          have hneg : ¬ isSpace c = true := by rw [Bool.not_eq_true, hc]
          rw [locUtilTrimSpace_append_nonspace hc, stripSpace,
            dropWhile_isSpace_append (.inr hc), List.rdropWhile_concat_neg _ _ _ hneg]
      | true =>
          have hs : ¬ Blank s := fun hblank => h fun x hx => by
            rcases List.mem_append.mp hx with hx | hx
            · exact hblank x hx
            · rw [List.mem_singleton.mp hx, hc]
          rw [locUtilTrimSpace_append hc hs, ih hs, stripSpace, stripSpace,
            dropWhile_isSpace_append (.inl hs), List.rdropWhile_concat_pos _ _ _ hc]

lemma mem_dropWhile_isSpace (hc : isSpace c = false) (hmem : c ∈ s) :
    c ∈ s.dropWhile isSpace := by
  rw [← List.takeWhile_append_dropWhile (p := isSpace) (l := s)] at hmem
  rcases List.mem_append.mp hmem with hmem | hmem
  · rw [List.mem_takeWhile_imp hmem] at hc
    cases hc
  · exact hmem

/-- Nothing but the spaces is taken away. -/
lemma mem_stripSpace (hc : isSpace c = false) (hmem : c ∈ s) : c ∈ stripSpace s := by
  rw [stripSpace, List.rdropWhile, List.mem_reverse]
  exact mem_dropWhile_isSpace hc (List.mem_reverse.mpr (mem_dropWhile_isSpace hc hmem))

lemma stripSpace_of_blank (h : Blank s) : stripSpace s = [] := by
  rw [stripSpace, List.dropWhile_eq_nil_iff.mpr h, List.rdropWhile_nil]

/-- Trimming leaves something of a string that is not empty. -/
lemma locUtilTrimSpace_ne_nil (h : s ≠ []) : locUtilTrimSpace s ≠ [] := by
  by_cases hblank : Blank s
  · rw [locUtilTrimSpace_of_blank hblank]
    exact h
  · rw [locUtilTrimSpace_eq hblank]
    rw [Blank] at hblank
    push Not at hblank
    obtain ⟨c, hc, hspace⟩ := hblank
    exact List.ne_nil_of_mem (mem_stripSpace (Bool.not_eq_true _ ▸ hspace) hc)

/-- Nothing is put into a string that is trimmed. -/
lemma locUtilTrimSpace_subset (s : List Char) : locUtilTrimSpace s ⊆ s := by
  by_cases h : Blank s
  · rw [locUtilTrimSpace_of_blank h]
    exact List.Subset.refl s
  · rw [locUtilTrimSpace_eq h, stripSpace]
    exact fun c hc => List.dropWhile_subset _ ((List.rdropWhile_prefix _ _).subset hc)

end Trim

/-! ## Names and values -/

section Lines

variable {key value rest : List Char}

/-- A value is made of the characters of its line. -/
lemma mem_of_confItem {line : List Char} {item : List Char × List Char}
    (h : confItem line = some item) : item.2 ⊆ line := by
  rw [confItem] at h
  split at h
  · cases h
  · rename_i paramName rest hname
    split at h
    · cases h
    · rename_i paramStrValue rest' hvalue
      cases h
      exact fun c hc => (mem_of_strtok hname).2
        ((mem_of_strtok hvalue).1 (locUtilTrimSpace_subset paramStrValue hc))

/-- No line has an empty name. -/
lemma confItem_name_ne_nil {line : List Char} {item : List Char × List Char}
    (h : confItem line = some item) : item.1 ≠ [] := by
  rw [confItem] at h
  split at h
  · cases h
  · rename_i paramName rest hname
    split at h
    · cases h
    · cases h
      exact locUtilTrimSpace_ne_nil (token_of_strtok hname).1

/-- No `=` stands in the value of a line. -/
lemma notMem_of_confItem {line : List Char} {item : List Char × List Char}
    (h : confItem line = some item) : '=' ∉ item.2 := by
  rw [confItem] at h
  split at h
  · cases h
  · rename_i paramName rest hname
    split at h
    · cases h
    · rename_i paramStrValue rest' hvalue
      cases h
      exact fun hmem =>
        (token_of_strtok hvalue).2 (locUtilTrimSpace_subset paramStrValue hmem)

lemma ne_nil_of_not_blank {s : List Char} (h : ¬ Blank s) : s ≠ [] := by
  rintro rfl
  exact h fun c hc => absurd hc List.not_mem_nil

/-- A line is taken apart at its first `=`. -/
lemma confItem_line (hkey : '=' ∉ key) (hblank : ¬ Blank key) (value : List Char) :
    confItem (key ++ '=' :: value) =
      (strtok '=' value).map fun r => (stripSpace key, locUtilTrimSpace r.1) := by
  rw [confItem, strtok_append (ne_nil_of_not_blank hblank) hkey]
  simp only
  rw [locUtilTrimSpace_eq hblank]
  cases strtok '=' value with
  | none => rfl
  | some r => rfl

/-- A line with a value. -/
lemma confItem_value (hkey : '=' ∉ key) (hblank : ¬ Blank key) (hvalue : '=' ∉ value)
    (hne : ¬ Blank value) :
    confItem (key ++ '=' :: value) = some (stripSpace key, stripSpace value) := by
  rw [confItem_line hkey hblank, strtok_of_notMem (ne_nil_of_not_blank hne) hvalue,
    Option.map_some, locUtilTrimSpace_eq hne]

/-- A line without a value. -/
lemma confItem_empty (hkey : '=' ∉ key) (hblank : ¬ Blank key) :
    confItem (key ++ ['=']) = none := by
  rw [confItem_line hkey hblank]
  rfl

/-- A value of nothing but spaces. -/
lemma confItem_blank (hkey : '=' ∉ key) (hblank : ¬ Blank key) (hvalue : Blank value)
    (hne : value ≠ []) : confItem (key ++ '=' :: value) = some (stripSpace key, value) := by
  have hnot : '=' ∉ value := fun hmem => absurd (hvalue '=' hmem) (by decide)
  rw [confItem_line hkey hblank, strtok_of_notMem hne hnot, Option.map_some,
    locUtilTrimSpace_of_blank hvalue]

/-- Of a value in which another `=` stands only what stands before it is read. -/
lemma confItem_cut (hkey : '=' ∉ key) (hblank : ¬ Blank key) (hvalue : '=' ∉ value)
    (hne : ¬ Blank value) (rest : List Char) :
    confItem (key ++ '=' :: (value ++ '=' :: rest)) = some (stripSpace key, stripSpace value) := by
  rw [confItem_line hkey hblank, strtok_append (ne_nil_of_not_blank hne) hvalue, Option.map_some,
    locUtilTrimSpace_eq hne]

end Lines

/-! ## Filling a string -/

section Strings

variable {δ : Type*} {D : Doubles δ} {table : List (LocParam δ)} {e : LocParam δ}
  {key value : List Char}

/-- The string that a value stands for. -/
def stringValue (value : List Char) : List Char :=
  if stripSpace value = ['N', 'U', 'L', 'L'] then [] else stripSpace value

/-- The table in which the entries with this name hold a string. -/
def setString (table : List (LocParam δ)) (name s : List Char) : List (LocParam δ) :=
  table.map fun e =>
    if e.paramName = name then
      { e with paramPtr := some (.string s), paramSet := e.paramSet.map fun _ => true }
    else e

/-- A string for which there is room is stored as it is. -/
lemma stored_string (htype : e.paramType = 's')
    (hfit : (stripSpace value).length ≤ locMaxParamString) (name : List Char) :
    e.stored (confValue D (name, stripSpace value)) = some (.string (stringValue value)) := by
  simp only [LocParam.stored, htype, paramStrValue_confValue, stringValue]
  split
  · rfl
  · rw [List.take_of_length_le hfit]

/-- Where the value has a character that is no space, and no further `=`, it is stored without the
spaces around it, and one entry is counted. -/
lemma locFillConfItem_value (hnames : (table.map LocParam.paramName).Nodup) (he : e ∈ table)
    (htype : e.paramType = 's') (hptr : e.paramPtr.isSome) (hkey : '=' ∉ key)
    (hname : e.paramName = stripSpace key) (hfit : (stripSpace value).length ≤ locMaxParamString)
    (hblank : ¬ Blank key) (hne : ¬ Blank value) (hvalue : '=' ∉ value) :
    locFillConfItem D table (key ++ '=' :: value) =
      (setString table (stripSpace key) (stringValue value), 1) := by
  have htakes : e.Takes (stripSpace key, stripSpace value) := ⟨hname, hptr, .inl htype⟩
  have htable : (table.map fun e' => e'.fill D (stripSpace key, stripSpace value)) =
      setString table (stripSpace key) (stringValue value) := by
    refine List.map_congr_left fun e' he' => ?_
    by_cases hname' : e'.paramName = stripSpace key
    · -- no other entry has the name
      have heq : e' = e := List.inj_on_of_nodup_map hnames he' he (hname'.trans hname.symm)
      rw [if_pos hname', heq, LocParam.fill, locSetConfigEntry_of_takes htakes,
        stored_string htype hfit]
    · rw [if_neg hname', LocParam.fill_of_not_takes fun h => hname' h.1]
  rw [locFillConfItem_of_some (confItem_value hkey hblank hvalue hne), htable,
    countP_takes hnames, if_pos ⟨e, he, htakes⟩]

/-- A line that stores the value in the entry has an item, which makes that of the entry. -/
lemma paramPtr_fill_of_line (he : e ∈ table) (hname : e.paramName = stripSpace key)
    (hline : locFillConfItem D table (key ++ '=' :: value) =
      (setString table (stripSpace key) (stringValue value), 1)) :
    ∃ item, confItem (key ++ '=' :: value) = some item ∧
      (e.fill D item).paramPtr = some (.string (stringValue value)) := by
  cases hitem : confItem (key ++ '=' :: value) with
  | none =>
      rw [locFillConfItem_of_none hitem, Prod.mk.injEq] at hline
      exact absurd hline.2 (by decide)
  | some item =>
      rw [locFillConfItem_of_some hitem, Prod.mk.injEq, setString] at hline
      have hentry := List.map_inj_left.mp hline.1 e he
      rw [if_pos hname] at hentry
      exact ⟨item, rfl, by rw [hentry]⟩

/-- A string without `=` is not what a value stands for in which one stands. -/
lemma stringValue_ne_of_mem {s : List Char} (hs : '=' ∉ s) (hvalue : '=' ∈ value) :
    s ≠ stringValue value := by
  have hmem : '=' ∈ stripSpace value := mem_stripSpace (by decide) hvalue
  have hnull : stripSpace value ≠ ['N', 'U', 'L', 'L'] := fun heq =>
    absurd (heq ▸ hmem) (by decide)
  rw [stringValue, if_neg hnull]
  rintro rfl
  exact hs hmem

/-- What is stored of a value of nothing but spaces. -/
lemma stored_blank (htype : e.paramType = 's') (hblank : Blank value) (name : List Char) :
    e.stored (confValue D (name, value)) = some (.string (value.take locMaxParamString)) := by
  have hnull : value ≠ ['N', 'U', 'L', 'L'] := fun heq =>
    absurd (hblank 'N' (heq ▸ List.mem_cons_self)) (by decide)
  simp only [LocParam.stored, htype, paramStrValue_confValue]
  rw [if_neg hnull]

end Strings

section Line

variable {δ : Type*}

/-- **A line** with a key and a value: the entry with that name gets the value without the spaces
around it, and one entry is counted, exactly where the key and the value have a character that is no
space and no further `=` stands in the value.  (Of a blank key that is said where the entry does
not have the value already.) -/
theorem locFillConfItem_line_iff (D : Doubles δ) (table : List (LocParam δ)) (e : LocParam δ)
    (key value : List Char) (hnames : (table.map LocParam.paramName).Nodup) (he : e ∈ table)
    (htype : e.paramType = 's') (hptr : e.paramPtr.isSome) (hkey : '=' ∉ key)
    (hname : e.paramName = stripSpace key)
    (hfit : (stripSpace value).length ≤ locMaxParamString)
    (hnew : Blank key → e.paramPtr ≠ some (.string (stringValue value))) :
    locFillConfItem D table (key ++ '=' :: value) =
        (setString table (stripSpace key) (stringValue value), 1) ↔
      ¬ Blank key ∧ ¬ Blank value ∧ '=' ∉ value := by
  constructor
  · intro hline
    obtain ⟨item, hitem, hfill⟩ := paramPtr_fill_of_line he hname hline
    have hblank : ¬ Blank key := by
      intro hblank
      -- the entry has an empty name, which no line has
      have hnot : ¬ e.Takes item := fun htakes =>
        confItem_name_ne_nil hitem
          (htakes.1.symm.trans (hname.trans (stripSpace_of_blank hblank)))
      rw [LocParam.fill_of_not_takes hnot] at hfill
      exact hnew hblank hfill
    have hitem1 : item.1 = stripSpace key := by
      rw [confItem_line hkey hblank] at hitem
      obtain ⟨r, -, rfl⟩ := Option.map_eq_some_iff.mp hitem
      rfl
    have htakes : e.Takes item := ⟨hname.trans hitem1.symm, hptr, .inl htype⟩
    rw [LocParam.paramPtr_fill htakes] at hfill
    refine ⟨hblank, fun hempty => ?_, fun hmem => ?_⟩
    · by_cases hnil : value = []
      · rw [hnil, confItem_empty hkey hblank] at hitem
        cases hitem
      · rw [confItem_blank hkey hblank hempty hnil] at hitem
        cases hitem
        rw [stored_blank htype hempty, stringValue, stripSpace_of_blank hempty,
          if_neg (by decide)] at hfill
        have htake : value.take locMaxParamString = [] := by simpa using hfill
        rcases List.take_eq_nil_iff.mp htake with hzero | hnil'
        · exact absurd hzero (by decide)
        · exact hnil hnil'
    · have hstored := notMem_of_confItem hitem
      simp only [LocParam.stored, htype, paramStrValue_confValue] at hfill
      split at hfill
      · exact stringValue_ne_of_mem List.not_mem_nil hmem (by simpa using hfill)
      · exact stringValue_ne_of_mem (fun h => hstored (List.mem_of_mem_take h)) hmem
          (by simpa using hfill)
  · rintro ⟨hblank, hne, hvalue⟩
    exact locFillConfItem_value hnames he htype hptr hkey hname hfit hblank hne hvalue

/-- The example of a line: spaces around the name, the `=` and the value. -/
theorem locFillConfItem_line_spaces :
    locFillConfItem wholeDoubles [⟨['A'], some (.string []), none, 's'⟩]
        ([' ', 'A', ' '] ++ '=' :: [' ', 'x', ' ', 'y', ' ', '\n']) =
      (setString [⟨['A'], some (.string []), none, 's'⟩] (stripSpace [' ', 'A', ' '])
        (stringValue [' ', 'x', ' ', 'y', ' ', '\n']), 1) :=
  (locFillConfItem_line_iff wholeDoubles _ ⟨['A'], some (.string []), none, 's'⟩ _ _ (by decide)
    (by decide) rfl rfl (by decide) (by decide) (by decide)
    (fun hblank => absurd hblank (by decide))).mpr (by decide)

/-- Of a line with a key and nothing but the newline behind the `=` the newline is stored. -/
theorem newline_stored :
    ¬ ∀ (table : List (LocParam ℤ)) (e : LocParam ℤ) (key value : List Char),
      (table.map LocParam.paramName).Nodup → e ∈ table → e.paramType = 's' →
      e.paramPtr.isSome → '=' ∉ key → ¬ Blank key → e.paramName = stripSpace key →
      (stripSpace value).length ≤ locMaxParamString →
      locFillConfItem wholeDoubles table (key ++ '=' :: value) =
        (setString table (stripSpace key) (stringValue value), 1) := by
  intro h
  have hfilled := h [⟨['A'], some (.string ['x']), none, 's'⟩]
    ⟨['A'], some (.string ['x']), none, 's'⟩ ['A'] ['\n'] (by decide) (by decide) rfl rfl
    (by decide) (by decide) (by decide) (by decide)
  exact absurd hfilled (by decide)

end Line

end LocHal
