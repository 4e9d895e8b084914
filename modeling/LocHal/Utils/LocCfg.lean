import LocHal.Lib.Numeral
import LocHal.Lib.Tokens
import Mathlib.Data.Int.Basic
import Mathlib.Data.Int.Order.Basic
import Mathlib.Data.List.Perm.Subperm

/-!
# Configuration tables (`gps/utils/loc_cfg.cpp`)

A table says which parameters a configuration may set, where each is stored and of what type it is.
`loc_read_conf_r` fills a table from a file and `loc_update_conf` from a buffer; both do it line by
line with `loc_fill_conf_item`, until as many parameters have been set as they look for.

`fillLines_eq`: each entry ends up with the values of the items that name it, among the items up to
the last that is looked for.  `filter_drop_fillLines`: the items after that are left to be read.
-/

namespace LocHal

/-- `LOC_MAX_PARAM_STRING`. -/
def locMaxParamString : ℕ := 80

/-- `LOC_MAX_PARAM_LINE`. -/
def locMaxParamLine : ℕ := 160

/-- The type `double`, with its zero and what `atof` reads from a string. -/
structure Doubles (δ : Type*) where
  zero : δ
  atof : List Char → δ

/-- What a variable that an entry points to holds.  A string is what stands before its end
character. -/
inductive LocParamTarget (δ : Type*) where
  | string (s : List Char)
  | int (n : ℤ)
  | double (d : δ)
deriving DecidableEq

/-- `loc_param_s_type`, with what its pointers point to, `none` for `NULL`. -/
structure LocParam (δ : Type*) where
  paramName : List Char
  paramPtr : Option (LocParamTarget δ)
  paramSet : Option Bool
  paramType : Char
deriving DecidableEq

/-- `loc_param_v_type`. -/
structure LocParamValue (δ : Type*) where
  paramName : List Char
  paramStrValue : List Char
  paramIntValue : ℤ
  paramDoubleValue : δ

section Functions

variable {δ : Type*} (D : Doubles δ)

/-- A `long` that is stored in an `int`. -/
def longToInt (n : ℤ) : ℤ := Int.bmod n (2 ^ 32)

lemma longToInt_of_lt {n : ℤ} (hpos : 0 ≤ n) (hlt : n < 2 ^ 31) : longToInt n = n := by
  rw [longToInt, Int.bmod_def]
  omega

lemma longToInt_lt (n : ℤ) : longToInt n < 2 ^ 31 := by
  rw [longToInt, Int.bmod_def]
  omega

/-- A length that becomes negative counts for nothing. -/
lemma toNat_longToInt (n : ℕ) :
    (longToInt n).toNat = if n % 2 ^ 32 < 2 ^ 31 then n % 2 ^ 32 else 0 := by
  rw [longToInt, Int.bmod_def]
  split_ifs
  all_goals omega

/-- What the entry's variable holds when the value has been stored in it; `none` for a type of which
no value is stored. -/
def LocParam.stored (e : LocParam δ) (v : LocParamValue δ) : Option (LocParamTarget δ) :=
  match e.paramType with
  | 's' =>
      if v.paramStrValue = ['N', 'U', 'L', 'L'] then some (.string [])
      else some (.string (v.paramStrValue.take locMaxParamString))
  | 'n' => some (.int v.paramIntValue)
  | 'f' => some (.double v.paramDoubleValue)
  | _ => none

/-- `loc_set_config_entry`: the entry, and the return value. -/
def locSetConfigEntry (e : LocParam δ) (v : LocParamValue δ) : LocParam δ × ℤ :=
  if e.paramName = v.paramName ∧ e.paramPtr.isSome then
    match e.stored v with
    | some target =>
        ({ e with paramPtr := some target, paramSet := e.paramSet.map fun _ => true }, 0)
    | none => (e, -1)
  else (e, -1)

/-- The loop of `loc_util_trim_space`: what has been written, and how much of it goes up to the last
character that is not blank. -/
def trimLoop : List Char → List Char → Option ℕ → List Char × Option ℕ
  | [], written, lastNonspace => (written, lastNonspace)
  | c :: cs, written, lastNonspace =>
      if isSpace c ∧ written = [] then trimLoop cs written lastNonspace
      else
        let written := written ++ [c]
        trimLoop cs written (if isSpace c then lastNonspace else some written.length)

/-- `loc_util_trim_space`: a string of blanks is left as it is. -/
def locUtilTrimSpace (s : List Char) : List Char :=
  match trimLoop s [] none with
  | (written, some n) => written.take n
  | (_, none) => s

/-- The name and the value of a line, with the spaces around them trimmed. -/
def confItem (inputBuf : List Char) : Option (List Char × List Char) :=
  match strtok '=' inputBuf with
  | none => none
  | some (paramName, rest) =>
      match strtok '=' rest with
      | none => none
      | some (paramStrValue, _) =>
          some (locUtilTrimSpace paramName, locUtilTrimSpace paramStrValue)

/-- The numbers that the value of a line is read as. -/
def confValue (item : List Char × List Char) : LocParamValue δ :=
  match item.2 with
  | '0' :: x :: c :: cs =>
      if x = 'x' ∨ x = 'X' then ⟨item.1, item.2, longToInt (strtol 16 (c :: cs)), D.zero⟩
      else ⟨item.1, item.2, longToInt (strtol 10 item.2), D.atof item.2⟩
  | _ => ⟨item.1, item.2, longToInt (strtol 10 item.2), D.atof item.2⟩

/-- `loc_fill_conf_item`: the table, and how many of its entries have been set. -/
def locFillConfItem (table : List (LocParam δ)) (inputBuf : List Char) : List (LocParam δ) × ℕ :=
  match confItem inputBuf with
  | none => (table, 0)
  | some item =>
      let set := table.map fun e => locSetConfigEntry e (confValue D item)
      (set.map Prod.fst, set.countP fun r => r.2 = 0)

/-- The loops of the two readers, over the lines that they go through: the table, and how many lines
they have gone through.  `numParams` is unsigned. -/
def fillLines : ℕ → List (List Char) → List (LocParam δ) → List (LocParam δ) × ℕ
  | _, [], table => (table, 0)
  | numParams, line :: lines, table =>
      if numParams = 0 then (table, 0)
      else
        let filled := locFillConfItem D table line
        let rest := fillLines ((numParams + 2 ^ 32 - filled.2) % 2 ^ 32) lines filled.1
        (rest.1, rest.2 + 1)

/-- `loc_read_conf_r`, of a file with this text, `none` for `NULL`: the table, and the return
value. -/
def locReadConfR (confFp : Option (List Char)) (table : List (LocParam δ)) :
    List (LocParam δ) × ℤ :=
  match confFp with
  | none => (table, -1)
  | some text =>
      let cleared := table.map fun e => { e with paramSet := e.paramSet.map fun _ => false }
      ((fillLines D table.length (fgetsAll (locMaxParamLine - 2) text) cleared).1, 0)

/-- `loc_update_conf`, where memory can be allocated for the buffer: the table, and the return
value.  An empty table stands for `NULL` as well, and for a negative length there is no memory. -/
def locUpdateConf (confData : List Char) (length : ℤ) (table : List (LocParam δ)) :
    List (LocParam δ) × ℤ :=
  if length = 0 ∨ table = [] then (table, -1)
  else if length < 0 then (table, -1)
  else
    let filled := fillLines D (table.length - 1) (tokens '\n' (confData.take length.toNat)) table
    (filled.1, filled.2)

end Functions

/-! ## Entries and the items that name them -/

section Entries

variable {δ : Type*} {D : Doubles δ} {e : LocParam δ} {item : List Char × List Char}

/-- The entry has a variable, of a type that values are stored of. -/
def LocParam.Settable (e : LocParam δ) : Prop :=
  e.paramPtr.isSome ∧ (e.paramType = 's' ∨ e.paramType = 'n' ∨ e.paramType = 'f')

/-- The item names the entry, and its value is stored. -/
def LocParam.Takes (e : LocParam δ) (item : List Char × List Char) : Prop :=
  e.paramName = item.1 ∧ e.Settable

instance (e : LocParam δ) : Decidable e.Settable :=
  inferInstanceAs (Decidable (_ ∧ _))

instance (e : LocParam δ) (item : List Char × List Char) : Decidable (e.Takes item) :=
  inferInstanceAs (Decidable (_ ∧ _))

lemma paramName_confValue (D : Doubles δ) (item : List Char × List Char) :
    (confValue D item).paramName = item.1 := by
  rw [confValue]
  split
  · split
    · rfl
    · rfl
  · rfl

lemma paramStrValue_confValue (D : Doubles δ) (item : List Char × List Char) :
    (confValue D item).paramStrValue = item.2 := by
  rw [confValue]
  split
  · split
    · rfl
    · rfl
  · rfl

lemma LocParam.Settable.isSome_stored (h : e.Settable) (v : LocParamValue δ) :
    (e.stored v).isSome := by
  rcases h.2 with ht | ht | ht
  · simp only [LocParam.stored, ht]
    split
    · rfl
    · rfl
  · simp only [LocParam.stored, ht]
    rfl
  · simp only [LocParam.stored, ht]
    rfl

lemma LocParam.stored_eq_none (h : ¬ (e.paramType = 's' ∨ e.paramType = 'n' ∨ e.paramType = 'f'))
    (v : LocParamValue δ) : e.stored v = none := by
  rw [LocParam.stored]
  split
  · rename_i ht
    exact absurd (.inl ht) h
  · rename_i ht
    exact absurd (.inr (.inl ht)) h
  · rename_i ht
    exact absurd (.inr (.inr ht)) h
  · rfl

/-- An entry that takes an item stores its value. -/
lemma locSetConfigEntry_of_takes (h : e.Takes item) :
    locSetConfigEntry e (confValue D item) =
      ({ e with
          paramPtr := e.stored (confValue D item)
          paramSet := e.paramSet.map fun _ => true }, 0) := by
  have hname : e.paramName = (confValue D item).paramName ∧ e.paramPtr.isSome :=
    ⟨h.1.trans (paramName_confValue D item).symm, h.2.1⟩
  obtain ⟨target, htarget⟩ := Option.isSome_iff_exists.mp (h.2.isSome_stored (confValue D item))
  rw [locSetConfigEntry, if_pos hname, htarget]

/-- An entry that does not take an item is left as it is. -/
lemma locSetConfigEntry_of_not_takes (h : ¬ e.Takes item) :
    locSetConfigEntry e (confValue D item) = (e, -1) := by
  rw [locSetConfigEntry]
  split
  · rename_i hname
    have htype : ¬ (e.paramType = 's' ∨ e.paramType = 'n' ∨ e.paramType = 'f') := fun htype =>
      h ⟨hname.1.trans (paramName_confValue D item), hname.2, htype⟩
    rw [LocParam.stored_eq_none htype]
  · rfl

/-- What one item makes of an entry. -/
def LocParam.fill (D : Doubles δ) (e : LocParam δ) (item : List Char × List Char) : LocParam δ :=
  (locSetConfigEntry e (confValue D item)).1

lemma LocParam.fill_of_not_takes (h : ¬ e.Takes item) : e.fill D item = e := by
  rw [LocParam.fill, locSetConfigEntry_of_not_takes h]

lemma LocParam.paramPtr_fill (h : e.Takes item) :
    (e.fill D item).paramPtr = e.stored (confValue D item) := by
  rw [LocParam.fill, locSetConfigEntry_of_takes h]

/-- Which items an entry takes does not depend on what is stored. -/
lemma LocParam.takes_fill (D : Doubles δ) (e : LocParam δ) (item item' : List Char × List Char) :
    (e.fill D item).Takes item' ↔ e.Takes item' := by
  by_cases h : e.Takes item
  · have hsome := h.2.isSome_stored (confValue D item)
    rw [LocParam.fill, locSetConfigEntry_of_takes h]
    simp only [LocParam.Takes, LocParam.Settable, hsome, h.2.1]
  · rw [LocParam.fill_of_not_takes h]

lemma LocParam.paramName_fill (D : Doubles δ) (e : LocParam δ) (item : List Char × List Char) :
    (e.fill D item).paramName = e.paramName := by
  by_cases h : e.Takes item
  · rw [LocParam.fill, locSetConfigEntry_of_takes h]
  · rw [LocParam.fill_of_not_takes h]

/-- What items one after the other make of an entry. -/
def LocParam.fillAll (D : Doubles δ) (items : List (List Char × List Char)) (e : LocParam δ) :
    LocParam δ :=
  items.foldl (LocParam.fill D) e

lemma LocParam.fillAll_cons (item : List Char × List Char)
    (items : List (List Char × List Char)) (e : LocParam δ) :
    e.fillAll D (item :: items) = (e.fill D item).fillAll D items := rfl

/-- Items that an entry does not take. -/
lemma LocParam.fillAll_of_forall_not_takes {items : List (List Char × List Char)}
    (h : ∀ item ∈ items, ¬ e.Takes item) : e.fillAll D items = e := by
  induction items with
  | nil => rfl
  | cons item items ih =>
      rw [LocParam.fillAll_cons, LocParam.fill_of_not_takes (h item List.mem_cons_self),
        ih fun item' hitem' => h item' (List.mem_cons_of_mem item hitem')]

/-- Items of which an entry takes one. -/
lemma LocParam.paramPtr_fillAll {items : List (List Char × List Char)}
    (hnames : (items.map Prod.fst).Nodup) (hmem : item ∈ items) (h : e.Takes item) :
    (e.fillAll D items).paramPtr = e.stored (confValue D item) := by
  induction items with
  | nil => cases hmem
  | cons item' items ih =>
      rw [List.map_cons, List.nodup_cons] at hnames
      rw [LocParam.fillAll_cons]
      by_cases heq : item' = item
      · subst heq
        have hrest : ∀ i ∈ items, ¬ (e.fill D item').Takes i := by
          intro i hi htakes
          have hname := ((LocParam.takes_fill D e item' i).mp htakes).1
          exact hnames.1 (List.mem_map.mpr ⟨i, hi, hname.symm.trans h.1⟩)
        rw [LocParam.fillAll_of_forall_not_takes hrest, LocParam.paramPtr_fill h]
      · have hin : item ∈ items := (List.mem_cons.mp hmem).resolve_left (Ne.symm heq)
        have hnot : ¬ e.Takes item' := fun htakes =>
          hnames.1 (List.mem_map.mpr ⟨item, hin, h.1.symm.trans htakes.1⟩)
        rw [LocParam.fill_of_not_takes hnot]
        exact ih hnames.2 hin

/-- What is stored does not depend on the validity bit. -/
lemma LocParam.paramPtr_fillAll_paramSet (D : Doubles δ) (items : List (List Char × List Char))
    (e : LocParam δ) (set : Option Bool) :
    (LocParam.fillAll D items { e with paramSet := set }).paramPtr =
      (e.fillAll D items).paramPtr := by
  induction items generalizing e set with
  | nil => rfl
  | cons item items ih =>
      rw [LocParam.fillAll_cons, LocParam.fillAll_cons]
      by_cases h : e.Takes item
      · have h' : LocParam.Takes { e with paramSet := set } item := h
        rw [LocParam.fill, LocParam.fill, locSetConfigEntry_of_takes h,
          locSetConfigEntry_of_takes h']
        exact (ih _ _).trans (ih { e with paramPtr := e.stored (confValue D item) } _).symm
      · have h' : ¬ LocParam.Takes { e with paramSet := set } item := h
        rw [LocParam.fill_of_not_takes h, LocParam.fill_of_not_takes h']
        exact ih e set

end Entries

/-! ## Tables -/

section Tables

variable {δ : Type*} {D : Doubles δ} {table : List (LocParam δ)}
  {item : List Char × List Char} {items : List (List Char × List Char)}

/-- Some entry of the table takes the item. -/
def Taken (table : List (LocParam δ)) (item : List Char × List Char) : Prop :=
  ∃ e ∈ table, e.Takes item

instance (table : List (LocParam δ)) (item : List Char × List Char) :
    Decidable (Taken table item) :=
  inferInstanceAs (Decidable (∃ e ∈ table, e.Takes item))

lemma taken_map_fill (D : Doubles δ) (table : List (LocParam δ))
    (item item' : List Char × List Char) :
    Taken (table.map fun e => e.fill D item) item' ↔ Taken table item' := by
  constructor
  · rintro ⟨e, he, htakes⟩
    obtain ⟨e', he', rfl⟩ := List.mem_map.mp he
    exact ⟨e', he', (LocParam.takes_fill D e' item item').mp htakes⟩
  · rintro ⟨e, he, htakes⟩
    exact ⟨_, List.mem_map_of_mem he, (LocParam.takes_fill D e item item').mpr htakes⟩

/-- Of entries with different names at most one takes an item. -/
lemma countP_takes (hnames : (table.map LocParam.paramName).Nodup)
    (item : List Char × List Char) :
    table.countP (fun e => e.Takes item) = if Taken table item then 1 else 0 := by
  induction table with
  | nil => simp [Taken]
  | cons e table ih =>
      rw [List.map_cons, List.nodup_cons] at hnames
      have hrest := ih hnames.2
      by_cases htakes : e.Takes item
      · have hnone : ¬ Taken table item := by
          rintro ⟨e', he', htakes'⟩
          exact hnames.1 (List.mem_map.mpr ⟨e', he', htakes'.1.trans htakes.1.symm⟩)
        have hsome : Taken (e :: table) item := ⟨e, List.mem_cons_self, htakes⟩
        rw [List.countP_cons_of_pos (by simpa using htakes), hrest, if_neg hnone, if_pos hsome]
      · have hiff : Taken (e :: table) item ↔ Taken table item := by
          simp only [Taken, List.mem_cons, exists_eq_or_imp, htakes, false_or]
        rw [List.countP_cons_of_neg (by simpa using htakes), hrest]
        simp only [hiff]

/-- A line without a name or a value does nothing. -/
lemma locFillConfItem_of_none {line : List Char} (h : confItem line = none) :
    locFillConfItem D table line = (table, 0) := by
  rw [locFillConfItem, h]

/-- A line fills the entries that take its item, and counts them. -/
lemma locFillConfItem_of_some {line : List Char} (h : confItem line = some item) :
    locFillConfItem D table line =
      (table.map fun e => e.fill D item, table.countP fun e => e.Takes item) := by
  have hcount : (fun r : LocParam δ × ℤ => decide (r.2 = 0)) ∘
      (fun e => locSetConfigEntry e (confValue D item)) = fun e => decide (e.Takes item) := by
    funext e
    by_cases htakes : e.Takes item
    · simp [locSetConfigEntry_of_takes htakes, htakes]
    · simp [locSetConfigEntry_of_not_takes htakes, htakes]
  rw [locFillConfItem, h]
  simp only [List.map_map, List.countP_map, hcount]
  rfl

lemma nodup_map_fill (hnames : (table.map LocParam.paramName).Nodup) :
    ((table.map fun e => e.fill D item).map LocParam.paramName).Nodup := by
  rw [List.map_map]
  have hname : (LocParam.paramName ∘ fun e => e.fill D item) =
      (LocParam.paramName : LocParam δ → List Char) :=
    funext fun e => LocParam.paramName_fill D e item
  rwa [hname]

lemma fillLines_zero (lines : List (List Char)) : fillLines D 0 lines table = (table, 0) := by
  cases lines with
  | nil => rfl
  | cons line lines => rw [fillLines, if_pos rfl]

/-- A line that is read and does nothing. -/
lemma fillLines_cons_of_not_taken {numParams : ℕ} (hzero : numParams ≠ 0)
    (hnum : numParams < 2 ^ 32) (hnames : (table.map LocParam.paramName).Nodup)
    {line : List Char} (h : ∀ item ∈ confItem line, ¬ Taken table item)
    (lines : List (List Char)) :
    fillLines D numParams (line :: lines) table =
      ((fillLines D numParams lines table).1, (fillLines D numParams lines table).2 + 1) := by
  have hmod : (numParams + 2 ^ 32 - 0) % 2 ^ 32 = numParams := by omega
  have hfilled : locFillConfItem D table line = (table, 0) := by
    cases hitem : confItem line with
    | none => exact locFillConfItem_of_none hitem
    | some item =>
        have hnot := h item hitem
        have hsame : (table.map fun e => e.fill D item) = table := by
          refine (List.map_congr_left fun e he => ?_).trans (List.map_id table)
          exact LocParam.fill_of_not_takes fun htakes => hnot ⟨e, he, htakes⟩
        rw [locFillConfItem_of_some hitem, countP_takes hnames, if_neg hnot, hsame]
  rw [fillLines, if_neg hzero, hfilled]
  simp only [hmod]

/-- A line that is read and fills an entry. -/
lemma fillLines_cons_of_taken {numParams : ℕ} (hnum : numParams + 1 < 2 ^ 32)
    (hnames : (table.map LocParam.paramName).Nodup) {line : List Char}
    (hitem : confItem line = some item) (htaken : Taken table item)
    (lines : List (List Char)) :
    fillLines D (numParams + 1) (line :: lines) table =
      ((fillLines D numParams lines (table.map fun e => e.fill D item)).1,
        (fillLines D numParams lines (table.map fun e => e.fill D item)).2 + 1) := by
  have hmod : (numParams + 1 + 2 ^ 32 - 1) % 2 ^ 32 = numParams := by omega
  rw [fillLines, if_neg (Nat.succ_ne_zero numParams), locFillConfItem_of_some hitem,
    countP_takes hnames, if_pos htaken]
  simp only [hmod]

/-- The items of the first line, and of the others, that some entry takes. -/
lemma filter_taken_cons (line : List Char) (lines : List (List Char)) :
    ((line :: lines).filterMap confItem).filter (fun item => Taken table item) =
      ((confItem line).toList.filter fun item => Taken table item) ++
        (lines.filterMap confItem).filter fun item => Taken table item := by
  cases hitem : confItem line with
  | none =>
      rw [List.filterMap_cons_none hitem, Option.toList_none, List.filter_nil, List.nil_append]
  | some item =>
      rw [List.filterMap_cons_some hitem, Option.toList_some, ← List.singleton_append,
        List.filter_append]

/-- A line is read that fills an entry, or does nothing. -/
lemma taken_cases (table : List (LocParam δ)) (line : List Char) :
    (∃ item, confItem line = some item ∧ Taken table item ∧
        ((confItem line).toList.filter fun item => Taken table item) = [item]) ∨
      (∀ item ∈ confItem line, ¬ Taken table item) ∧
        ((confItem line).toList.filter fun item => Taken table item) = [] := by
  cases hitem : confItem line with
  | none => exact .inr ⟨by simp, rfl⟩
  | some item =>
      by_cases htaken : Taken table item
      · exact .inl ⟨item, rfl, htaken, by simp [htaken]⟩
      · exact .inr ⟨by simpa using htaken, by simp [htaken]⟩

/-- **Filling a table.** The entries are filled from the items that some entry takes, as many of
them as are looked for. -/
theorem fillLines_eq (D : Doubles δ) {numParams : ℕ} (lines : List (List Char))
    (hnames : (table.map LocParam.paramName).Nodup) (hnum : numParams < 2 ^ 32) :
    (fillLines D numParams lines table).1 = table.map (LocParam.fillAll D
      (((lines.filterMap confItem).filter fun item => Taken table item).take numParams)) := by
  have hid : LocParam.fillAll D [] = id := rfl
  induction lines generalizing numParams table with
  | nil =>
      rw [List.filterMap_nil, List.filter_nil, List.take_nil, hid, List.map_id]
      rfl
  | cons line lines ih =>
      cases numParams with
      | zero => rw [fillLines_zero, List.take_zero, hid, List.map_id]
      | succ numParams =>
          rcases taken_cases table line with ⟨item, hitem, htaken, hfilter⟩ | ⟨hnot, hfilter⟩
          · have hlater : ∀ items : List (List Char × List Char),
                (table.map fun e => e.fill D item).map (LocParam.fillAll D items) =
                  table.map (LocParam.fillAll D (item :: items)) := by
              intro items
              rw [List.map_map]
              rfl
            rw [fillLines_cons_of_taken hnum hnames hitem htaken,
              ih (nodup_map_fill hnames) (by omega), hlater, filter_taken_cons, hfilter,
              List.singleton_append, List.take_succ_cons]
            simp only [taken_map_fill]
          · rw [fillLines_cons_of_not_taken (Nat.succ_ne_zero numParams) hnum hnames hnot,
              filter_taken_cons, hfilter, List.nil_append]
            exact ih hnames hnum

/-- **What is left of a file.** The items that some entry takes are left but for as many as have
been looked for. -/
theorem filter_drop_fillLines (D : Doubles δ) {numParams : ℕ} (lines : List (List Char))
    (hnames : (table.map LocParam.paramName).Nodup) (hnum : numParams < 2 ^ 32) :
    ((lines.drop (fillLines D numParams lines table).2).filterMap confItem).filter
        (fun item => Taken table item) =
      ((lines.filterMap confItem).filter fun item => Taken table item).drop numParams := by
  induction lines generalizing numParams table with
  | nil => rw [List.drop_nil, List.filterMap_nil, List.filter_nil, List.drop_nil]
  | cons line lines ih =>
      cases numParams with
      | zero => rw [fillLines_zero, List.drop_zero, List.drop_zero]
      | succ numParams =>
          rcases taken_cases table line with ⟨item, hitem, htaken, hfilter⟩ | ⟨hnot, hfilter⟩
          · have hmapped : ((table.map fun e => e.fill D item).map LocParam.paramName).Nodup :=
              nodup_map_fill hnames
            have hlt : numParams < 2 ^ 32 := by omega
            have hrest := ih hmapped hlt
            simp only [taken_map_fill] at hrest
            rw [fillLines_cons_of_taken hnum hnames hitem htaken, List.drop_succ_cons, hrest,
              filter_taken_cons, hfilter, List.singleton_append, List.drop_succ_cons]
          · rw [fillLines_cons_of_not_taken (Nat.succ_ne_zero numParams) hnum hnames hnot,
              List.drop_succ_cons, filter_taken_cons, hfilter, List.nil_append]
            exact ih hnames hnum

/-- The items that are read are those that the entries are filled from. -/
theorem filter_take_fillLines (D : Doubles δ) {numParams : ℕ} (lines : List (List Char))
    (hnames : (table.map LocParam.paramName).Nodup) (hnum : numParams < 2 ^ 32) :
    ((lines.take (fillLines D numParams lines table).2).filterMap confItem).filter
        (fun item => Taken table item) =
      ((lines.filterMap confItem).filter fun item => Taken table item).take numParams := by
  have happend :
      ((lines.take (fillLines D numParams lines table).2).filterMap confItem).filter
            (fun item => Taken table item) ++
          ((lines.drop (fillLines D numParams lines table).2).filterMap confItem).filter
            (fun item => Taken table item) =
        (lines.filterMap confItem).filter fun item => Taken table item := by
    rw [← List.filter_append, ← List.filterMap_append, List.take_append_drop]
  rw [filter_drop_fillLines D lines hnames hnum] at happend
  exact List.append_cancel_right (happend.trans (List.take_append_drop numParams _).symm)

/-- Items with different names that are taken are not more than the entries. -/
lemma length_filter_taken_le (hitems : (items.map Prod.fst).Nodup) :
    (items.filter fun item => Taken table item).length ≤ table.length := by
  have hnodup : ((items.filter fun item => Taken table item).map Prod.fst).Nodup :=
    hitems.sublist (List.filter_sublist.map Prod.fst)
  have hsubset : (items.filter fun item => Taken table item).map Prod.fst ⊆
      table.map LocParam.paramName := by
    intro name hname
    obtain ⟨item, hitem, rfl⟩ := List.mem_map.mp hname
    obtain ⟨e, he, htakes⟩ := of_decide_eq_true (List.mem_filter.mp hitem).2
    exact List.mem_map.mpr ⟨e, he, htakes.1⟩
  have hle := (List.subperm_of_subset hnodup hsubset).length_le
  rwa [List.length_map, List.length_map] at hle

end Tables

end LocHal
