import LocHal.Utils.LocCfg
import Mathlib.Data.List.Nodup

/-!
# Configuration from a buffer and from a file (`gps/utils/loc_cfg.cpp`)

`loc_update_conf` is to a buffer what `loc_read_conf_r` is to a file.  It takes the buffer apart
with `strtok_r`, so that a line has no newline when its value is looked for, and it looks for one
parameter less than the table has.

`targets_eq_iff`: the two leave the same values in all variables of a table exactly when the
parameter left over already has the value that the file gives it, and values of which nothing but
blanks stands before the newline are stored alike with the newline and without it.
-/

namespace LocHal

/-! ## Spaces -/

section Trim

variable {s written : List Char} {lastNonspace : Option ℕ} {c : Char}

lemma trimLoop_cons (c : Char) (s written : List Char) (lastNonspace : Option ℕ) :
    trimLoop (c :: s) written lastNonspace =
      if isSpace c = true ∧ written = [] then trimLoop s written lastNonspace
      else trimLoop s (written ++ [c])
        (if isSpace c then lastNonspace else some (written ++ [c]).length) := rfl

lemma trimLoop_append (s : List Char) (c : Char) (written : List Char)
    (lastNonspace : Option ℕ) :
    trimLoop (s ++ [c]) written lastNonspace =
      trimLoop [c] (trimLoop s written lastNonspace).1 (trimLoop s written lastNonspace).2 := by
  induction s generalizing written lastNonspace with
  | nil => rfl
  | cons x s ih =>
      rw [List.cons_append, trimLoop_cons x (s ++ [c]), trimLoop_cons x s]
      by_cases hx : isSpace x = true ∧ written = []
      · rw [if_pos hx, if_pos hx]
        exact ih written lastNonspace
      · rw [if_neg hx, if_neg hx]
        exact ih _ _

/-- What is kept has been written. -/
lemma trimLoop_le (h : ∀ n ∈ lastNonspace, n ≤ written.length) :
    ∀ n ∈ (trimLoop s written lastNonspace).2,
      n ≤ (trimLoop s written lastNonspace).1.length := by
  induction s generalizing written lastNonspace with
  | nil => exact h
  | cons x s ih =>
      rw [trimLoop_cons]
      by_cases hx : isSpace x = true ∧ written = []
      · rw [if_pos hx]
        exact ih h
      · rw [if_neg hx]
        refine ih fun n hn => ?_
        rw [List.length_append, List.length_singleton]
        split at hn
        · exact Nat.le_succ_of_le (h n hn)
        · rw [Option.mem_def, Option.some.injEq, List.length_append,
            List.length_singleton] at hn
          omega

lemma trimLoop_eq_none_iff (s written : List Char) (lastNonspace : Option ℕ) :
    (trimLoop s written lastNonspace).2 = none ↔
      lastNonspace = none ∧ ∀ c ∈ s, isSpace c = true := by
  induction s generalizing written lastNonspace with
  | nil => simp [trimLoop]
  | cons x s ih =>
      rw [trimLoop_cons]
      by_cases hx : isSpace x = true ∧ written = []
      · rw [if_pos hx, ih, List.forall_mem_cons]
        simp only [hx.1, true_and]
      · rw [if_neg hx, ih, List.forall_mem_cons]
        by_cases hspace : isSpace x = true
        · simp [hspace]
        · simp [hspace]

lemma locUtilTrimSpace_of_blank (h : ∀ c ∈ s, isSpace c = true) : locUtilTrimSpace s = s := by
  have hnone := (trimLoop_eq_none_iff s [] none).mpr ⟨rfl, h⟩
  rw [locUtilTrimSpace]
  split
  · rename_i heq
    rw [heq] at hnone
    cases hnone
  · rfl

/-- A space at the end of a string that is not blank is trimmed. -/
lemma locUtilTrimSpace_append (hc : isSpace c = true) (h : ¬ ∀ c ∈ s, isSpace c = true) :
    locUtilTrimSpace (s ++ [c]) = locUtilTrimSpace s := by
  have hnone : (trimLoop s [] none).2 ≠ none := fun hnone =>
    h ((trimLoop_eq_none_iff s [] none).mp hnone).2
  obtain ⟨n, hn⟩ := Option.ne_none_iff_exists'.mp hnone
  have hle : n ≤ (trimLoop s [] none).1.length := trimLoop_le (by simp) n hn
  have hpair : trimLoop s [] none = ((trimLoop s [] none).1, some n) := by rw [← hn]
  have happend : trimLoop (s ++ [c]) [] none =
      (if (trimLoop s [] none).1 = [] then [] else (trimLoop s [] none).1 ++ [c], some n) := by
    rw [trimLoop_append, hn, trimLoop_cons]
    by_cases hw : (trimLoop s [] none).1 = []
    · simp [hc, hw, trimLoop]
    · simp [hc, hw, trimLoop]
  rw [locUtilTrimSpace, locUtilTrimSpace, happend, hpair]
  simp only
  split
  · rename_i hw
    rw [hw]
  · rw [List.take_append_of_le_length hle]

end Trim

/-! ## Lines with and without their newline -/

section Lines

variable {line : List Char}

/-- The name in a line, and the blanks that are all that stands behind it up to the end. -/
def blankValue (line : List Char) : Option (List Char × List Char) :=
  match strtok '=' line with
  | none => none
  | some (paramName, rest) =>
      if line.dropWhile (· == '=') ≠ paramName ∧ (rest.dropWhile (· == '=')).all isSpace then
        some (locUtilTrimSpace paramName, rest.dropWhile (· == '='))
      else none

lemma dropWhile_replicate_append (k : ℕ) (s : List Char) :
    (List.replicate k '=' ++ s).dropWhile (· == '=') = s.dropWhile (· == '=') := by
  induction k with
  | zero => rfl
  | succ k ih => exact ih

lemma dropWhile_of_notMem {s : List Char} (h : '=' ∉ s) : s.dropWhile (· == '=') = s := by
  cases s with
  | nil => rfl
  | cons c s =>
      have hc : ¬ (c == '=') = true := by
        simpa using fun heq : c = '=' => h (heq ▸ List.mem_cons_self)
      exact List.dropWhile_cons_of_neg hc

/-- A line has no name and nothing behind it, or it is read as its name and what stands behind the
name. -/
lemma confItem_cases (line : List Char) :
    (blankValue line = none ∧ confItem line = none ∧ confItem (line ++ ['\n']) = none) ∨
      ∃ name rest,
        blankValue line = (if (rest.dropWhile (· == '=')).all isSpace then
          some (name, rest.dropWhile (· == '=')) else none) ∧
        confItem line = (strtok '=' rest).map (fun r => (name, locUtilTrimSpace r.1)) ∧
        confItem (line ++ ['\n']) =
          (strtok '=' (rest ++ ['\n'])).map fun r => (name, locUtilTrimSpace r.1) := by
  rcases strtok_cases '=' line with ⟨k, rfl⟩ | ⟨k, t, ht, hd, rfl⟩ | ⟨k, t, rest, ht, hd, rfl⟩
  · -- no name
    have htoken : strtok '=' (List.replicate k '=' ++ ['\n']) = some (['\n'], []) := by
      rw [strtok_replicate_append]
      rfl
    refine .inl ⟨?_, ?_, ?_⟩
    · rw [blankValue, strtok_replicate]
    · rw [confItem, strtok_replicate]
    · rw [confItem, htoken]
      rfl
  · -- a name up to the end
    have htoken : strtok '=' (List.replicate k '=' ++ t) = some (t, []) := by
      rw [strtok_replicate_append, strtok_of_notMem ht hd]
    have htoken' : strtok '=' (List.replicate k '=' ++ t ++ ['\n']) =
        some (t ++ ['\n'], []) := by
      rw [List.append_assoc, strtok_replicate_append, strtok_of_notMem (by simp) (by simp [hd])]
    have hdrop : (List.replicate k '=' ++ t).dropWhile (· == '=') = t := by
      rw [dropWhile_replicate_append, dropWhile_of_notMem hd]
    refine .inl ⟨?_, ?_, ?_⟩
    · simp only [blankValue, htoken, hdrop, ne_eq, not_true_eq_false, false_and, if_false]
    · rw [confItem, htoken]
      rfl
    · rw [confItem, htoken']
      rfl
  · -- a name, and what stands behind it
    have htoken : strtok '=' (List.replicate k '=' ++ (t ++ '=' :: rest)) = some (t, rest) := by
      rw [strtok_replicate_append, strtok_append ht hd]
    have htoken' : strtok '=' (List.replicate k '=' ++ (t ++ '=' :: rest) ++ ['\n']) =
        some (t, rest ++ ['\n']) := by
      rw [List.append_assoc, strtok_replicate_append, List.append_assoc, List.cons_append,
        strtok_append ht hd]
    have hdrop : (List.replicate k '=' ++ (t ++ '=' :: rest)).dropWhile (· == '=') ≠ t := by
      cases t with
      | nil => exact absurd rfl ht
      | cons c t =>
          have hc : ¬ (c == '=') = true := by
            simpa using fun heq : c = '=' => hd (heq ▸ List.mem_cons_self)
          rw [dropWhile_replicate_append, List.cons_append,
            List.dropWhile_cons_of_neg (p := (· == '=')) hc]
          intro heq
          have hlength := congrArg List.length heq
          simp at hlength
    refine .inr ⟨locUtilTrimSpace t, rest, ?_, ?_, ?_⟩
    · simp only [blankValue, htoken, hdrop, ne_eq, not_false_eq_true, true_and]
    · simp only [confItem, htoken]
      cases strtok '=' rest with
      | none => rfl
      | some r => rfl
    · simp only [confItem, htoken']
      cases strtok '=' (rest ++ ['\n']) with
      | none => rfl
      | some r => rfl

/-- What a newline at its end changes of a line. -/
theorem confItem_newline (line : List Char) :
    (blankValue line = none ∧ confItem (line ++ ['\n']) = confItem line) ∨
      ∃ name blanks, blankValue line = some (name, blanks) ∧
        confItem (line ++ ['\n']) = some (name, blanks ++ ['\n']) ∧
        confItem line = if blanks = [] then none else some (name, blanks) := by
  have hnewline : isSpace '\n' = true := rfl
  rcases confItem_cases line with ⟨hnone, hitem, hitem'⟩ | ⟨name, rest, hvalue, hitem, hitem'⟩
  · exact .inl ⟨hnone, hitem'.trans hitem.symm⟩
  rw [hvalue, hitem, hitem']
  rcases strtok_cases '=' rest with ⟨k, rfl⟩ | ⟨k, v, hv, hd, rfl⟩ | ⟨k, v, r, hv, hd, rfl⟩
  · -- nothing but a newline
    have hdrop : (List.replicate k '=').dropWhile (· == '=') = [] := by
      have h := dropWhile_replicate_append k []
      rwa [List.append_nil] at h
    refine .inr ⟨name, [], by rw [hdrop]; rfl, ?_, ?_⟩
    · rw [strtok_replicate_append]
      rfl
    · rw [strtok_replicate]
      rfl
  · -- a value up to the end
    rw [dropWhile_replicate_append, dropWhile_of_notMem hd, List.append_assoc,
      strtok_replicate_append, strtok_replicate_append, strtok_of_notMem hv hd,
      strtok_of_notMem (by simp) (by simp [hd])]
    by_cases hblank : ∀ c ∈ v, isSpace c = true
    · have hblank' : ∀ c ∈ v ++ ['\n'], isSpace c = true := by
        simpa [or_imp, forall_and] using ⟨hblank, hnewline⟩
      refine .inr ⟨name, v, if_pos (List.all_eq_true.mpr hblank), ?_, ?_⟩
      · rw [Option.map_some, locUtilTrimSpace_of_blank hblank']
      · rw [Option.map_some, locUtilTrimSpace_of_blank hblank, if_neg hv]
    · refine .inl ⟨if_neg fun hall => hblank (List.all_eq_true.mp hall), ?_⟩
      rw [Option.map_some, Option.map_some, locUtilTrimSpace_append hnewline hblank]
  · -- a value that one more `=` ends
    have hnot : ¬ ((List.replicate k '=' ++ (v ++ '=' :: r)).dropWhile (· == '=')).all
        isSpace = true := by
      intro hall
      rw [dropWhile_replicate_append] at hall
      cases v with
      | nil => exact hv rfl
      | cons c v =>
          have hc : ¬ (c == '=') = true := by
            simpa using fun heq : c = '=' => hd (heq ▸ List.mem_cons_self)
          rw [List.cons_append, List.dropWhile_cons_of_neg (p := (· == '=')) hc] at hall
          have := List.all_eq_true.mp hall '=' (by simp)
          exact absurd this (by decide)
    refine .inl ⟨if_neg hnot, ?_⟩
    rw [List.append_assoc, strtok_replicate_append, strtok_replicate_append, List.append_assoc,
      List.cons_append, strtok_append hv hd, strtok_append hv hd]
    rfl

end Lines

/-! ## The items of a text -/

section Items

variable {text : List Char}

/-- The lines of a text are shorter than the buffer of the file reader. -/
def ShortLines (text : List Char) : Prop :=
  ∀ line ∈ (lines text).1 ++ [(lines text).2], line.length < locMaxParamLine

instance (text : List Char) : Decidable (ShortLines text) :=
  inferInstanceAs (Decidable (∀ line ∈ _, _))

/-- The item of a line that a newline ends, as it is read from a file: the buffer has room for the
newline or has not. -/
def fileItem (line : List Char) : Option (List Char × List Char) :=
  if line.length < locMaxParamLine - 1 then confItem (line ++ ['\n']) else confItem line

/-- The items that are read from a file with this text. -/
def fileItems (text : List Char) : List (List Char × List Char) :=
  (lines text).1.filterMap fileItem ++ (confItem (lines text).2).toList

/-- The items that are read from a buffer with this text. -/
def bufferItems (text : List Char) : List (List Char × List Char) :=
  (lines text).1.filterMap confItem ++ (confItem (lines text).2).toList

lemma confItem_nil : confItem [] = none := rfl

lemma confItem_newline_only : confItem ['\n'] = none := by decide

lemma filterMap_filter_ne_nil (ls : List (List Char)) :
    (ls.filter fun l => l ≠ []).filterMap confItem = ls.filterMap confItem := by
  rw [List.filterMap_filter]
  refine List.filterMap_congr fun l _ => ?_
  by_cases hnil : l = []
  · simp [hnil, confItem_nil]
  · simp [hnil]

/-- The lines that `loc_update_conf` goes through have the items of the buffer. -/
lemma filterMap_tokens (text : List Char) :
    (tokens '\n' text).filterMap confItem = bufferItems text := by
  obtain ⟨hlines, hlast⟩ := newline_notMem_lines text
  conv_lhs => rw [← unlines_lines text]
  rw [tokens_newline hlines hlast, filterMap_filter_ne_nil, List.filterMap_append, bufferItems]
  cases h : confItem (lines text).2 with
  | none => simp [h]
  | some item => simp [h]

/-- The lines that `loc_read_conf_r` goes through have the items of the file. -/
lemma filterMap_fgetsAll (hshort : ShortLines text) :
    (fgetsAll (locMaxParamLine - 2) text).filterMap confItem = fileItems text := by
  obtain ⟨hlines, hlast⟩ := newline_notMem_lines text
  have hbuf : locMaxParamLine = 160 := rfl
  have hlength : ∀ line ∈ (lines text).1 ++ [(lines text).2],
      line.length ≤ locMaxParamLine - 2 + 1 := by
    intro line hline
    have := hshort line hline
    omega
  have hread : ∀ line, (readLine (locMaxParamLine - 2 + 1) line).filterMap confItem =
      (fileItem line).toList := by
    intro line
    rw [readLine, fileItem, hbuf]
    split
    · cases h : confItem (line ++ ['\n']) with
      | none => simp [h]
      | some item => simp [h]
    · cases h : confItem line with
      | none => simp [h, confItem_newline_only]
      | some item => simp [h, confItem_newline_only]
  conv_lhs => rw [← unlines_lines text]
  rw [fgetsAll_lines
    (fun line hline => ⟨hlines line hline, hlength line (List.mem_append_left _ hline)⟩)
    ⟨hlast, hlength _ (List.mem_append_right _ (List.mem_singleton_self _))⟩,
    List.filterMap_append, filterMap_filter_ne_nil, List.filterMap_flatMap, fileItems]
  simp only [hread]
  congr 1
  rw [List.filterMap_eq_flatMap_toList]

/-- A line is read from a file as from a buffer, or its value is blank. -/
lemma fileItem_cases (line : List Char) :
    fileItem line = confItem line ∨
      line.length < locMaxParamLine - 1 ∧ ∃ name blanks, blankValue line = some (name, blanks) ∧
        fileItem line = some (name, blanks ++ ['\n']) ∧
        confItem line = if blanks = [] then none else some (name, blanks) := by
  rw [fileItem]
  split
  · rename_i hlength
    rcases confItem_newline line with ⟨-, heq⟩ | hblank
    · exact .inl heq
    · exact .inr ⟨hlength, hblank⟩
  · exact .inl rfl

/-- What is read from a buffer has the name that is read from a file. -/
lemma exists_fileItem {line : List Char} {item : List Char × List Char}
    (h : confItem line = some item) : ∃ item', fileItem line = some item' ∧ item'.1 = item.1 := by
  rcases fileItem_cases line with heq | ⟨-, name, blanks, -, hfile, hbuffer⟩
  · exact ⟨item, heq.trans h, rfl⟩
  · rw [hbuffer] at h
    split at h
    · cases h
    · cases h
      exact ⟨_, hfile, rfl⟩

/-- Keys that a file defines at most once a buffer defines at most once. -/
lemma nodup_bufferItems (hkeys : ((fileItems text).map Prod.fst).Nodup) :
    ((bufferItems text).map Prod.fst).Nodup := by
  have hsub : ∀ ls : List (List Char),
      ((ls.filterMap confItem).map Prod.fst).Sublist ((ls.filterMap fileItem).map Prod.fst) := by
    intro ls
    induction ls with
    | nil => exact List.Sublist.refl _
    | cons line ls ih =>
        cases h : confItem line with
        | none =>
            rw [List.filterMap_cons_none h]
            cases hfile : fileItem line with
            | none => rwa [List.filterMap_cons_none hfile]
            | some item' =>
                rw [List.filterMap_cons_some hfile]
                exact ih.cons _
        | some item =>
            obtain ⟨item', hfile, hname⟩ := exists_fileItem h
            rw [List.filterMap_cons_some h, List.filterMap_cons_some hfile, List.map_cons,
              List.map_cons, hname]
            exact ih.cons_cons _
  refine hkeys.sublist ?_
  rw [bufferItems, fileItems, List.map_append, List.map_append]
  exact (hsub _).append (List.Sublist.refl _)

/-- The lines of a text, each with whether a newline ends it. -/
def pieces (text : List Char) : List (List Char × Bool) :=
  (lines text).1.map (fun line => (line, true)) ++ [((lines text).2, false)]

/-- The item of a line as it is read from a file. -/
def pieceItem (piece : List Char × Bool) : Option (List Char × List Char) :=
  if piece.2 then fileItem piece.1 else confItem piece.1

lemma fileItems_eq (text : List Char) : fileItems text = (pieces text).filterMap pieceItem := by
  rw [pieces, List.filterMap_append, List.filterMap_map, fileItems]
  congr 1

lemma bufferItems_eq (text : List Char) :
    bufferItems text = (pieces text).filterMap fun piece => confItem piece.1 := by
  rw [pieces, List.filterMap_append, List.filterMap_map, bufferItems]
  congr 1

/-- What is read from a buffer has the name that is read from a file. -/
lemma exists_pieceItem {piece : List Char × Bool} {item : List Char × List Char}
    (h : confItem piece.1 = some item) :
    ∃ item', pieceItem piece = some item' ∧ item'.1 = item.1 := by
  rw [pieceItem]
  split
  · exact exists_fileItem h
  · exact ⟨item, h, rfl⟩

/-- Elements whose images have different keys are told apart by them. -/
lemma eq_of_nodup_filterMap {α β γ : Type*} {f : α → Option β} {key : β → γ} {l : List α}
    (h : ((l.filterMap f).map key).Nodup) {x y : α} (hx : x ∈ l) (hy : y ∈ l) {i j : β}
    (hi : f x = some i) (hj : f y = some j) (heq : key i = key j) : x = y := by
  induction l with
  | nil => cases hx
  | cons z l ih =>
      have hlater : ∀ w ∈ l, ∀ k, f w = some k → key k ∈ (l.filterMap f).map key :=
        fun w hw k hk => List.mem_map_of_mem (List.mem_filterMap.mpr ⟨w, hw, hk⟩)
      cases hz : f z with
      | none =>
          rw [List.filterMap_cons_none hz] at h
          have hmem : ∀ w ∈ z :: l, ∀ k, f w = some k → w ∈ l := by
            intro w hw k hk
            rcases List.mem_cons.mp hw with rfl | hw
            · rw [hz] at hk
              cases hk
            · exact hw
          exact ih h (hmem x hx i hi) (hmem y hy j hj)
      | some k =>
          rw [List.filterMap_cons_some hz, List.map_cons, List.nodup_cons] at h
          rcases List.mem_cons.mp hx with rfl | hx'
          · rcases List.mem_cons.mp hy with rfl | hy'
            · rfl
            · rw [hi] at hz
              cases hz
              exact absurd (heq ▸ hlater y hy' j hj) h.1
          · rcases List.mem_cons.mp hy with rfl | hy'
            · rw [hj] at hz
              cases hz
              exact absurd (heq ▸ hlater x hx' i hi) h.1
            · exact ih h.2 hx' hy'

end Items

/-! ## The variables that the two readers leave -/

section Targets

variable {δ : Type*} {D : Doubles δ} {table : List (LocParam δ)} {text : List Char}
  {e : LocParam δ}

/-- The items for which `loc_update_conf` no longer looks: it has set all entries but one. -/
def itemsLeftOver (table : List (LocParam δ)) (text : List Char) :
    List (List Char × List Char) :=
  ((bufferItems text).filter fun item => Taken table item).drop (table.length - 1)

/-- The entry is the one for which `loc_update_conf` no longer looks. -/
def LeftOver (table : List (LocParam δ)) (text : List Char) (e : LocParam δ) : Prop :=
  ∃ item ∈ itemsLeftOver table text, e.Takes item

/-- Where nothing but blanks stands for the value of the entry, the same is stored with the newline,
or the variable has it already if there is nothing but the newline. -/
def BlanksAgree (D : Doubles δ) (text : List Char) (e : LocParam δ) : Prop :=
  ∀ line ∈ (lines text).1, line.length < locMaxParamLine - 1 →
    ∀ item ∈ blankValue line, e.Takes item →
      e.stored (confValue D (item.1, item.2 ++ ['\n'])) =
        if item.2 = [] then e.paramPtr else e.stored (confValue D item)

/-- The entry that is left over has the value that the file gives it, and another one agrees in
blanks. -/
def Agrees (D : Doubles δ) (table : List (LocParam δ)) (text : List Char) (e : LocParam δ) :
    Prop :=
  (LeftOver table text e → ∀ item ∈ fileItems text, e.Takes item →
    e.stored (confValue D item) = e.paramPtr) ∧
  (¬ LeftOver table text e → BlanksAgree D text e)

instance (table : List (LocParam δ)) (text : List Char) (e : LocParam δ) :
    Decidable (LeftOver table text e) :=
  inferInstanceAs (Decidable (∃ item ∈ itemsLeftOver table text, _))

instance [DecidableEq δ] (D : Doubles δ) (text : List Char) (e : LocParam δ) :
    Decidable (BlanksAgree D text e) :=
  inferInstanceAs (Decidable (∀ line ∈ (lines text).1, _ → ∀ item ∈ blankValue line, _ → _))

instance [DecidableEq δ] (D : Doubles δ) (table : List (LocParam δ)) (text : List Char)
    (e : LocParam δ) : Decidable (Agrees D table text e) :=
  inferInstanceAs (Decidable ((_ → ∀ item ∈ fileItems text, _ → _) ∧ (_ → _)))

/-- The validity bits do not matter for which items are taken. -/
lemma taken_cleared (table : List (LocParam δ)) (item : List Char × List Char) :
    Taken (table.map fun e => { e with paramSet := e.paramSet.map fun _ => false }) item ↔
      Taken table item := by
  constructor
  · rintro ⟨e, he, htakes⟩
    obtain ⟨e', he', rfl⟩ := List.mem_map.mp he
    exact ⟨e', he', htakes⟩
  · rintro ⟨e, he, htakes⟩
    exact ⟨_, List.mem_map_of_mem he, htakes⟩

/-- What the file reader leaves in the variables: what the items make of them that some entry takes,
as many of them as there are entries. -/
lemma paramPtr_locReadConfR (D : Doubles δ) (hnum : table.length < 2 ^ 32)
    (hnames : (table.map LocParam.paramName).Nodup) (hshort : ShortLines text) :
    (locReadConfR D (some text) table).1.map LocParam.paramPtr =
      table.map fun e => (e.fillAll D (((fileItems text).filter fun item =>
        Taken table item).take table.length)).paramPtr := by
  have hnames' : ((table.map fun e => { e with paramSet := e.paramSet.map fun _ => false }).map
      LocParam.paramName).Nodup := by
    rw [List.map_map]
    exact hnames
  simp only [locReadConfR]
  rw [fillLines_eq D _ hnames' hnum, filterMap_fgetsAll hshort, List.map_map, List.map_map]
  simp only [taken_cleared]
  exact List.map_congr_left fun e _ => LocParam.paramPtr_fillAll_paramSet D _ e _

/-- The file reader sets every entry that the text names. -/
lemma targets_locReadConfR (hnum : table.length < 2 ^ 32)
    (hnames : (table.map LocParam.paramName).Nodup) (hshort : ShortLines text)
    (hkeys : ((fileItems text).map Prod.fst).Nodup) :
    ∃ items, (∀ item, item ∈ items ↔ item ∈ fileItems text ∧ Taken table item) ∧
      (items.map Prod.fst).Nodup ∧
      (locReadConfR D (some text) table).1.map LocParam.paramPtr =
        table.map fun e => (e.fillAll D items).paramPtr := by
  have hle : ((fileItems text).filter fun item => Taken table item).length ≤ table.length :=
    length_filter_taken_le hkeys
  refine ⟨(fileItems text).filter fun item => Taken table item, fun item => ?_, ?_, ?_⟩
  · rw [List.mem_filter, decide_eq_true_eq]
  · exact hkeys.sublist (List.filter_sublist.map Prod.fst)
  · rw [paramPtr_locReadConfR D hnum hnames hshort, List.take_of_length_le hle]

/-- The buffer reader sets every entry that the text names, but the one left over. -/
lemma targets_locUpdateConf (hne : table ≠ []) (hnum : table.length < 2 ^ 32)
    (htext : text.length < 2 ^ 31) (hnames : (table.map LocParam.paramName).Nodup)
    (hkeys : ((fileItems text).map Prod.fst).Nodup) :
    ∃ items, (∀ item, item ∈ items ↔
        (item ∈ bufferItems text ∧ Taken table item) ∧ item ∉ itemsLeftOver table text) ∧
      (items.map Prod.fst).Nodup ∧
      (locUpdateConf D text (longToInt text.length) table).1.map LocParam.paramPtr =
        table.map fun e => (e.fillAll D items).paramPtr := by
  have hkeys' := nodup_bufferItems hkeys
  have hfiltered : (((bufferItems text).filter fun item => Taken table item).map Prod.fst).Nodup :=
    hkeys'.sublist (List.filter_sublist.map Prod.fst)
  have hlength : longToInt text.length = text.length :=
    longToInt_of_lt (Int.natCast_nonneg _) (by exact_mod_cast htext)
  refine ⟨((bufferItems text).filter fun item => Taken table item).take (table.length - 1),
    fun item => ?_, ?_, ?_⟩
  · have hnodup := List.Nodup.of_map Prod.fst hfiltered
    rw [← List.take_append_drop (table.length - 1)
      ((bufferItems text).filter fun item => Taken table item), List.nodup_append] at hnodup
    have hmem : item ∈ bufferItems text ∧ Taken table item ↔
        item ∈ (bufferItems text).filter fun item => Taken table item := by
      rw [List.mem_filter, decide_eq_true_eq]
    rw [hmem, itemsLeftOver]
    constructor
    · intro htake
      exact ⟨List.mem_of_mem_take htake, fun hdrop => hnodup.2.2 item htake item hdrop rfl⟩
    · rintro ⟨hin, hdrop⟩
      rw [← List.take_append_drop (table.length - 1)
        ((bufferItems text).filter fun item => Taken table item)] at hin
      exact (List.mem_append.mp hin).resolve_right hdrop
  · exact hfiltered.sublist ((List.take_sublist _ _).map Prod.fst)
  · rw [hlength]
    by_cases hnil : text = []
    · subst hnil
      have hitems : bufferItems [] = [] := rfl
      rw [locUpdateConf, if_pos (.inl rfl), hitems, List.filter_nil, List.take_nil]
      rfl
    · have hpos := List.length_pos_iff.mpr hnil
      rw [locUpdateConf, if_neg (by rw [not_or]; exact ⟨by omega, hne⟩), if_neg (by omega),
        Int.toNat_natCast, List.take_length]
      simp only
      rw [fillLines_eq D _ hnames (by omega), filterMap_tokens, List.map_map]
      rfl

/-- What an entry holds when it takes one of the items, or none. -/
lemma target_cases {items : List (List Char × List Char)} (hnodup : (items.map Prod.fst).Nodup)
    (e : LocParam δ) :
    (∃ item ∈ items, e.Takes item ∧
      (e.fillAll D items).paramPtr = e.stored (confValue D item)) ∨
    ((∀ item ∈ items, ¬ e.Takes item) ∧ (e.fillAll D items).paramPtr = e.paramPtr) := by
  by_cases h : ∃ item ∈ items, e.Takes item
  · obtain ⟨item, hitem, htakes⟩ := h
    exact .inl ⟨item, hitem, htakes, LocParam.paramPtr_fillAll hnodup hitem htakes⟩
  · have hnone : ∀ item ∈ items, ¬ e.Takes item := fun item hitem htakes =>
      h ⟨item, hitem, htakes⟩
    exact .inr ⟨hnone, by rw [LocParam.fillAll_of_forall_not_takes hnone]⟩

/-- An entry takes at most one item of the text, from one of its lines. -/
lemma piece_of_takes (hkeys : ((fileItems text).map Prod.fst).Nodup) {p q : List Char × Bool}
    (hp : p ∈ pieces text) (hq : q ∈ pieces text) {i j : List Char × List Char}
    (hi : pieceItem p = some i) (hj : pieceItem q = some j) (htakes : e.Takes i)
    (htakes' : e.Takes j) : p = q := by
  rw [fileItems_eq] at hkeys
  exact eq_of_nodup_filterMap hkeys hp hq hi hj (htakes.1.symm.trans htakes'.1)

lemma fileItem_of_blankValue {line : List Char} (hlength : line.length < locMaxParamLine - 1)
    {item : List Char × List Char} (h : blankValue line = some item) :
    fileItem line = some (item.1, item.2 ++ ['\n']) := by
  rw [fileItem, if_pos hlength]
  rcases confItem_newline line with ⟨hnone, -⟩ | ⟨name, blanks, hsome, hfile, -⟩
  · rw [hnone] at h
    cases h
  · rw [hsome] at h
    cases h
    exact hfile

/-- An entry that no item of the text names. -/
lemma agrees_of_forall_not_takes (h : ∀ item ∈ fileItems text, ¬ e.Takes item) :
    Agrees D table text e := by
  refine ⟨fun _ item hitem htakes => absurd htakes (h item hitem), fun _ => ?_⟩
  intro line hline hlength item hitem htakes
  have hfile := fileItem_of_blankValue hlength hitem
  have hmem : (item.1, item.2 ++ ['\n']) ∈ fileItems text :=
    List.mem_append_left _ (List.mem_filterMap.mpr ⟨line, hline, hfile⟩)
  exact absurd ⟨htakes.1, htakes.2⟩ (h _ hmem)

/-- How the one line that names an entry is read from a file and from a buffer. -/
lemma piece_cases {p : List Char × Bool} (hp : p ∈ pieces text) {item : List Char × List Char}
    (hitem : pieceItem p = some item) :
    confItem p.1 = some item ∧ (p.2 = true → p.1.length < locMaxParamLine - 1 →
        blankValue p.1 = none) ∨
      p.2 = true ∧ p.1 ∈ (lines text).1 ∧ p.1.length < locMaxParamLine - 1 ∧
        ∃ blanks, blankValue p.1 = some (item.1, blanks) ∧ item.2 = blanks ++ ['\n'] ∧
          confItem p.1 = if blanks = [] then none else some (item.1, blanks) := by
  rw [pieces] at hp
  rcases List.mem_append.mp hp with hp | hp
  · obtain ⟨line, hline, rfl⟩ := List.mem_map.mp hp
    change fileItem line = some item at hitem
    rw [fileItem] at hitem
    split at hitem
    · rename_i hlength
      rcases confItem_newline line with ⟨hnone, heq⟩ | ⟨name, blanks, hsome, hfile, hbuffer⟩
      · exact .inl ⟨heq ▸ hitem, fun _ _ => hnone⟩
      · rw [hfile] at hitem
        cases hitem
        exact .inr ⟨rfl, hline, hlength, blanks, hsome, rfl, hbuffer⟩
    · rename_i hlength
      exact .inl ⟨hitem, fun _ hlt => absurd hlt hlength⟩
  · rw [List.mem_singleton.mp hp] at hitem ⊢
    exact .inl ⟨hitem, fun hfalse => absurd hfalse Bool.false_ne_true⟩

/-- **One entry.** The two readers leave the same value in its variable when it agrees. -/
theorem target_eq_iff (he : e ∈ table) (hkeys : ((fileItems text).map Prod.fst).Nodup)
    {items items' : List (List Char × List Char)}
    (hfile : ∀ item, item ∈ items ↔ item ∈ fileItems text ∧ Taken table item)
    (hnodup : (items.map Prod.fst).Nodup)
    (hbuffer : ∀ item, item ∈ items' ↔
      (item ∈ bufferItems text ∧ Taken table item) ∧ item ∉ itemsLeftOver table text)
    (hnodup' : (items'.map Prod.fst).Nodup) :
    (e.fillAll D items').paramPtr = (e.fillAll D items).paramPtr ↔ Agrees D table text e := by
  rcases target_cases (D := D) hnodup e with ⟨fi, hfi, htakes, hF⟩ | ⟨hnone, hF⟩
  · obtain ⟨p, hp, hpi⟩ := List.mem_filterMap.mp (fileItems_eq text ▸ ((hfile fi).mp hfi).1)
    -- everything that the entry takes stands in this line
    have hfromFile : ∀ item ∈ fileItems text, e.Takes item → item = fi := by
      intro item hitem htakes'
      obtain ⟨q, hq, hqi⟩ := List.mem_filterMap.mp (fileItems_eq text ▸ hitem)
      rw [piece_of_takes hkeys hq hp hqi hpi htakes' htakes, hpi] at hqi
      exact (Option.some.inj hqi).symm
    have hfromBuffer : ∀ item ∈ bufferItems text, e.Takes item → confItem p.1 = some item := by
      intro item hitem htakes'
      obtain ⟨q, hq, hqi⟩ := List.mem_filterMap.mp (bufferItems_eq text ▸ hitem)
      obtain ⟨item', hqi', hname⟩ := exists_pieceItem hqi
      have htakes'' : e.Takes item' := ⟨htakes'.1.trans hname.symm, htakes'.2⟩
      rw [← piece_of_takes hkeys hq hp hqi' hpi htakes'' htakes]
      exact hqi
    have hblankLine : ∀ line ∈ (lines text).1, line.length < locMaxParamLine - 1 →
        ∀ item ∈ blankValue line, e.Takes item → p = (line, true) := by
      intro line hline hlength item hitem htakes'
      have hq : (line, true) ∈ pieces text :=
        List.mem_append_left _ (List.mem_map_of_mem hline)
      exact piece_of_takes hkeys hp hq hpi (fileItem_of_blankValue hlength hitem) htakes htakes'
    have hset : ¬ LeftOver table text e → ∀ item, confItem p.1 = some item → e.Takes item →
        (e.fillAll D items').paramPtr = e.stored (confValue D item) := by
      intro hleft item hitem htakes'
      have hmem : item ∈ bufferItems text :=
        bufferItems_eq text ▸ List.mem_filterMap.mpr ⟨p, hp, hitem⟩
      exact LocParam.paramPtr_fillAll hnodup' ((hbuffer item).mpr ⟨⟨hmem, e, he, htakes'⟩,
        fun hover => hleft ⟨item, hover, htakes'⟩⟩) htakes'
    rw [hF]
    by_cases hleft : LeftOver table text e
    · obtain ⟨li, hli, hlt⟩ := hleft
      have hlbuf : li ∈ bufferItems text := (List.mem_filter.mp (List.mem_of_mem_drop hli)).1
      have hB : (e.fillAll D items').paramPtr = e.paramPtr := by
        rcases target_cases (D := D) hnodup' e with ⟨bi, hbi, htakes', -⟩ | ⟨-, hB⟩
        · obtain ⟨⟨hbuf, -⟩, hover⟩ := (hbuffer bi).mp hbi
          have hbi' := hfromBuffer bi hbuf htakes'
          rw [hfromBuffer li hlbuf hlt] at hbi'
          exact absurd (Option.some.inj hbi' ▸ hli) hover
        · exact hB
      rw [hB]
      constructor
      · intro heq
        refine ⟨fun _ item hitem htakes' => ?_, fun hnot => absurd ⟨li, hli, hlt⟩ hnot⟩
        rw [hfromFile item hitem htakes', heq]
      · intro hagrees
        exact (hagrees.1 ⟨li, hli, hlt⟩ fi ((hfile fi).mp hfi).1 htakes).symm
    · rcases piece_cases hp hpi with
        ⟨hsame, hnoblank⟩ | ⟨-, hline, hlength, blanks, hblank, hfi2, hbuf⟩
      · -- the line is read alike
        refine iff_of_true (hset hleft fi hsame htakes) ⟨fun h => absurd h hleft, fun _ => ?_⟩
        intro line hline hlength item hitem htakes'
        have hpline := hblankLine line hline hlength item hitem htakes'
        subst hpline
        rw [hnoblank rfl hlength] at hitem
        cases hitem
      · -- nothing but blanks stands for the value
        have hfi' : fi = (fi.1, blanks ++ ['\n']) := by rw [← hfi2]
        have hiff : Agrees D table text e ↔ e.stored (confValue D fi) =
            if blanks = [] then e.paramPtr else e.stored (confValue D (fi.1, blanks)) := by
          constructor
          · intro hagrees
            rw [hfi']
            exact hagrees.2 hleft p.1 hline hlength _ hblank htakes
          · intro heq
            refine ⟨fun h => absurd h hleft, fun _ => ?_⟩
            intro line hline' hlength' item hitem htakes'
            have hpline := hblankLine line hline' hlength' item hitem htakes'
            rw [hpline] at hblank
            rw [Option.mem_def.mp hitem] at hblank
            cases hblank
            rw [← hfi2]
            exact heq
        rw [hiff]
        by_cases hnil : blanks = []
        · have hB : (e.fillAll D items').paramPtr = e.paramPtr := by
            rcases target_cases (D := D) hnodup' e with ⟨bi, hbi, htakes', -⟩ | ⟨-, hB⟩
            · have hbi' := hfromBuffer bi ((hbuffer bi).mp hbi).1.1 htakes'
              rw [hbuf, if_pos hnil] at hbi'
              cases hbi'
            · exact hB
          rw [hB, if_pos hnil, eq_comm]
        · rw [if_neg hnil] at hbuf ⊢
          rw [hset hleft _ hbuf ⟨htakes.1, htakes.2⟩, eq_comm]
  · have hnot : ∀ item ∈ fileItems text, ¬ e.Takes item := fun item hitem htakes =>
      hnone item ((hfile item).mpr ⟨hitem, e, he, htakes⟩) htakes
    refine iff_of_true ?_ (agrees_of_forall_not_takes hnot)
    rcases target_cases (D := D) hnodup' e with ⟨bi, hbi, htakes, -⟩ | ⟨-, hB⟩
    · obtain ⟨q, hq, hqi⟩ := List.mem_filterMap.mp
        (bufferItems_eq text ▸ ((hbuffer bi).mp hbi).1.1)
      obtain ⟨item', hqi', hname⟩ := exists_pieceItem hqi
      have hmem : item' ∈ fileItems text :=
        fileItems_eq text ▸ List.mem_filterMap.mpr ⟨q, hq, hqi'⟩
      exact absurd ⟨htakes.1.trans hname.symm, htakes.2⟩ (hnot item' hmem)
    · rw [hB, hF]

/-- **Buffer and file.** A text read from a buffer leaves the same values in the variables of a
table as the text read from a file, exactly when all its entries agree. -/
theorem targets_eq_iff (D : Doubles δ) (table : List (LocParam δ)) (text : List Char)
    (hne : table ≠ []) (hnum : table.length < 2 ^ 32) (htext : text.length < 2 ^ 31)
    (hnames : (table.map LocParam.paramName).Nodup) (hshort : ShortLines text)
    (hkeys : ((fileItems text).map Prod.fst).Nodup) :
    (locUpdateConf D text (longToInt text.length) table).1.map LocParam.paramPtr =
        (locReadConfR D (some text) table).1.map LocParam.paramPtr ↔
      ∀ e ∈ table, Agrees D table text e := by
  obtain ⟨items, hfile, hnodup, hF⟩ := targets_locReadConfR (D := D) hnum hnames hshort hkeys
  obtain ⟨items', hbuffer, hnodup', hB⟩ :=
    targets_locUpdateConf (D := D) hne hnum htext hnames hkeys
  rw [hF, hB, List.map_inj_left]
  constructor
  · intro heq e he
    exact (target_eq_iff he hkeys hfile hnodup hbuffer hnodup').mp (heq e he)
  · intro hagrees e he
    exact (target_eq_iff he hkeys hfile hnodup hbuffer hnodup').mpr (hagrees e he)

end Targets

/-- Whole numbers for `double`, where `atof` reads no fraction. -/
def wholeDoubles : Doubles ℤ := ⟨0, strtol 10⟩

/-- A table of three parameters, of which a text sets two. -/
theorem targets_eq_two_of_three :
    (locUpdateConf wholeDoubles ['A', '=', '7', '\n', ' ', 'B', ' ', '=', 'x', 'y']
        (longToInt 10) [⟨['A'], some (.int 0), none, 'n'⟩, ⟨['B'], some (.string []), none, 's'⟩,
          ⟨['C'], some (.double 0), none, 'f'⟩]).1.map LocParam.paramPtr =
      (locReadConfR wholeDoubles (some ['A', '=', '7', '\n', ' ', 'B', ' ', '=', 'x', 'y'])
        [⟨['A'], some (.int 0), none, 'n'⟩, ⟨['B'], some (.string []), none, 's'⟩,
          ⟨['C'], some (.double 0), none, 'f'⟩]).1.map LocParam.paramPtr :=
  (targets_eq_iff wholeDoubles _ _ (by decide) (by decide) (by decide) (by decide) (by decide)
    (by decide)).mpr (by decide)

/-- From a buffer the only parameter of a table is not set. -/
theorem only_parameter_not_set :
    ¬ ∀ (table : List (LocParam ℤ)) (text : List Char), table ≠ [] → table.length < 2 ^ 32 →
      text.length < 2 ^ 31 → (table.map LocParam.paramName).Nodup → ShortLines text →
      ((fileItems text).map Prod.fst).Nodup →
      (locUpdateConf wholeDoubles text (longToInt text.length) table).1.map LocParam.paramPtr =
        (locReadConfR wholeDoubles (some text) table).1.map LocParam.paramPtr := by
  intro h
  have heq := h [⟨['A'], some (.int 0), none, 'n'⟩] ['A', '=', '1'] (by decide) (by decide)
    (by decide) (by decide) (by decide) (by decide)
  have hlines : fgetsAll (locMaxParamLine - 2) ['A', '=', '1'] = [['A', '=', '1']] := by
    rw [fgetsAll_of_ne_nil (List.cons_ne_nil _ _), fgets_last (by decide) (by decide),
      fgetsAll_nil]
  have hfile : (locReadConfR wholeDoubles (some ['A', '=', '1'])
      [⟨['A'], some (.int 0), none, 'n'⟩]).1.map LocParam.paramPtr = [some (.int 1)] := by
    rw [locReadConfR, hlines]
    decide
  have hbuffer : (locUpdateConf wholeDoubles ['A', '=', '1'] (longToInt 3)
      [⟨['A'], some (.int 0), none, 'n'⟩]).1.map LocParam.paramPtr = [some (.int 0)] := by
    have htake : ['A', '=', '1'].take (longToInt 3).toNat = ['A', '=', '1'] := by decide
    have htokens : tokens '\n' ['A', '=', '1'] = [['A', '=', '1']] := by
      rw [tokens_of_some (strtok_of_notMem (List.cons_ne_nil _ _) (by decide)),
        tokens_of_none rfl]
    rw [locUpdateConf, htake, htokens]
    decide
  rw [hfile] at heq
  exact absurd (hbuffer.symm.trans heq) (by decide)

end LocHal
