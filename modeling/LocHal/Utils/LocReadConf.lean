import LocHal.Utils.LocCfgUpdate
import Mathlib.Data.List.Induction

/-!
# Reading a configuration file (`gps/utils/loc_cfg.cpp`)

`loc_read_conf` fills the table of its caller from a file, and then, from the beginning of the file
again, the table of the logging parameters.  It leaves the reading to `loc_read_conf_r`, which stops
when as many lines have set an entry as the table has entries.

`readsLast_iff`: every entry ends up with the value of the last line that names it exactly when the
lines behind that point change nothing.
-/

namespace LocHal

section Definitions

variable {δ : Type*}

/-- `loc_param_table`, with what its variables hold. -/
def locParamTable (debugLevel timestamp locModemEmulator : ℤ) : List (LocParam δ) :=
  [⟨"DEBUG_LEVEL".toList, some (.int debugLevel), none, 'n'⟩,
    ⟨"TIMESTAMP".toList, some (.int timestamp), none, 'n'⟩,
    ⟨"LOC_MODEM_EMULATOR".toList, some (.int locModemEmulator), none, 'n'⟩]

/-- `loc_read_conf`, of a file with this text, `none` where it cannot be opened: the table of the
caller, of which the empty one stands for `NULL` as well, and `loc_param_table`. -/
def locReadConf (D : Doubles δ) (confFile : Option (List Char))
    (table params : List (LocParam δ)) : List (LocParam δ) × List (LocParam δ) :=
  match confFile with
  | none => (table, params)
  | some text =>
      let filled := if table = [] then table else (locReadConfR D (some text) table).1
      (filled, (locReadConfR D (some text) params).1)

/-- The last of the items that name the entry. -/
def LocParam.lastTaken (e : LocParam δ) (items : List (List Char × List Char)) :
    Option (List Char × List Char) :=
  (items.filter fun item => e.Takes item).getLast?

/-- What the variable of an entry holds when it has the value of the last item that names it, or
what it has held before where there is none. -/
def LocParam.holding (D : Doubles δ) (e : LocParam δ) (items : List (List Char × List Char)) :
    Option (LocParamTarget δ) :=
  match e.lastTaken items with
  | some item => e.stored (confValue D item)
  | none => e.paramPtr

/-- The items of a text that name an entry of the table. -/
def takenItems (table : List (LocParam δ)) (text : List Char) : List (List Char × List Char) :=
  (fileItems text).filter fun item => Taken table item

/-- Each entry has the value of the last line that names it. -/
def ReadsLast (D : Doubles δ) (table params : List (LocParam δ)) (text : List Char) : Prop :=
  (locReadConf D (some text) table params).1.map LocParam.paramPtr =
    table.map fun e => e.holding D (fileItems text)

/-- The last item that names the entry, among those behind as many as there are entries, gives it
the value that it has from the items before. -/
def LocParam.Unmissed (D : Doubles δ) (table : List (LocParam δ)) (text : List Char)
    (e : LocParam δ) : Prop :=
  ∀ item ∈ e.lastTaken ((takenItems table text).drop table.length),
    e.stored (confValue D item) = e.holding D ((takenItems table text).take table.length)

instance [DecidableEq δ] (D : Doubles δ) (table : List (LocParam δ)) (text : List Char)
    (e : LocParam δ) : Decidable (e.Unmissed D table text) :=
  inferInstanceAs (Decidable (∀ item ∈ e.lastTaken _, _ = _))

end Definitions

section Items

variable {δ : Type*} {D : Doubles δ} {e : LocParam δ} {table : List (LocParam δ)}
  {items items' : List (List Char × List Char)}

lemma LocParam.lastTaken_append (e : LocParam δ) (items items' : List (List Char × List Char)) :
    e.lastTaken (items ++ items') = (e.lastTaken items').or (e.lastTaken items) := by
  rw [LocParam.lastTaken, List.filter_append, List.getLast?_append]
  rfl

lemma LocParam.lastTaken_singleton (item : List Char × List Char) :
    e.lastTaken [item] = if e.Takes item then some item else none := by
  by_cases h : e.Takes item
  · rw [LocParam.lastTaken, if_pos h, List.filter_cons_of_pos (by simpa using h), List.filter_nil]
    rfl
  · rw [LocParam.lastTaken, if_neg h, List.filter_cons_of_neg (by simpa using h), List.filter_nil]
    rfl

/-- Which items name an entry, and what it stores of them, does not depend on what it holds. -/
lemma LocParam.takes_fillAll (D : Doubles δ) (items : List (List Char × List Char))
    (e : LocParam δ) (item : List Char × List Char) :
    ((e.fillAll D items).Takes item ↔ e.Takes item) ∧
      ∀ v : LocParamValue δ, (e.fillAll D items).stored v = e.stored v := by
  induction items generalizing e with
  | nil => exact ⟨Iff.rfl, fun _ => rfl⟩
  | cons item' items ih =>
      obtain ⟨htakes, hstored⟩ := ih (e.fill D item')
      refine ⟨htakes.trans (LocParam.takes_fill D e item' item), fun v => (hstored v).trans ?_⟩
      by_cases h : e.Takes item'
      · rw [LocParam.fill, locSetConfigEntry_of_takes h]
        rfl
      · rw [LocParam.fill_of_not_takes h]

/-- **Items one after the other** leave the value of the last that names the entry. -/
theorem LocParam.paramPtr_fillAll_eq (D : Doubles δ) (items : List (List Char × List Char))
    (e : LocParam δ) : (e.fillAll D items).paramPtr = e.holding D items := by
  induction items using List.reverseRecOn with
  | nil => rfl
  | append_singleton items item ih =>
      obtain ⟨htakes, hstored⟩ := LocParam.takes_fillAll D items e item
      have hlast : e.fillAll D (items ++ [item]) = (e.fillAll D items).fill D item := by
        rw [LocParam.fillAll, List.foldl_append]
        rfl
      rw [hlast, LocParam.holding, LocParam.lastTaken_append, LocParam.lastTaken_singleton]
      by_cases h : e.Takes item
      · rw [LocParam.paramPtr_fill (htakes.mpr h), hstored, if_pos h]
        rfl
      · rw [LocParam.fill_of_not_takes (mt htakes.mp h), ih, if_neg h, Option.none_or]
        rfl

/-- An entry of the table looks at nothing but what is taken. -/
lemma LocParam.holding_filter (he : e ∈ table) (items : List (List Char × List Char)) :
    e.holding D (items.filter fun item => Taken table item) = e.holding D items := by
  have hsame : ((items.filter fun item => Taken table item).filter fun item => e.Takes item) =
      items.filter fun item => e.Takes item := by
    rw [List.filter_filter]
    refine List.filter_congr fun item _ => ?_
    by_cases h : e.Takes item
    · have htaken : Taken table item := ⟨e, he, h⟩
      simp [h, htaken]
    · simp [h]
  rw [LocParam.holding, LocParam.lastTaken, hsame]
  rfl

/-- What stands behind changes the value or leaves it. -/
lemma LocParam.holding_append (items items' : List (List Char × List Char)) :
    e.holding D (items ++ items') =
      match e.lastTaken items' with
      | some item => e.stored (confValue D item)
      | none => e.holding D items := by
  rw [LocParam.holding, LocParam.lastTaken_append]
  cases e.lastTaken items' with
  | none => rfl
  | some item => rfl

end Items

section Files

variable {δ : Type*} {D : Doubles δ} {table params : List (LocParam δ)} {text : List Char}

/-- The caller's table is filled from as many of the taken items as it has entries. -/
lemma paramPtr_locReadConf (D : Doubles δ) (params : List (LocParam δ))
    (hnum : table.length < 2 ^ 32) (hnames : (table.map LocParam.paramName).Nodup)
    (hshort : ShortLines text) :
    (locReadConf D (some text) table params).1.map LocParam.paramPtr =
      table.map fun e => e.holding D ((takenItems table text).take table.length) := by
  rw [locReadConf]
  by_cases hnil : table = []
  · subst hnil
    rfl
  · simp only [if_neg hnil]
    rw [paramPtr_locReadConfR D hnum hnames hshort]
    exact List.map_congr_left fun e _ => LocParam.paramPtr_fillAll_eq D _ e

/-- One entry of the table. -/
lemma holding_take_eq_iff {e : LocParam δ} (he : e ∈ table) :
    e.holding D ((takenItems table text).take table.length) = e.holding D (fileItems text) ↔
      e.Unmissed D table text := by
  have hall : e.holding D (fileItems text) =
      e.holding D ((takenItems table text).take table.length ++
        (takenItems table text).drop table.length) := by
    rw [List.take_append_drop, takenItems, LocParam.holding_filter he]
  rw [hall, LocParam.holding_append, LocParam.Unmissed]
  cases e.lastTaken ((takenItems table text).drop table.length) with
  | none => simp
  | some item => simp [eq_comm]

end Files

end LocHal
