import LocHal.Lib.ByteMemory
import LocHal.Utils.LocConfLine
import LocHal.Utils.LocProcessConf

/-!
# The process configuration in memory (`gps/utils/loc_cfg.cpp`)

`loc_launcher_conf` is one stretch of memory: its arrays and numbers stand one behind the other.
`loc_set_config_entry` writes to the address of an entry, and knows nothing of the size of the array
there.

`storesInside_iff`: what it stores of a line stays inside the array of its entry, and ends there,
exactly when the value is shorter than the array, or is `NULL`.  For such values the memory holds
the strings that the table of the entries has (`stringIn_eq_str`).
-/

namespace LocHal

/-! ## The layout -/

/-- The members of `loc_launcher_conf`. -/
inductive LauncherField where
  | procName
  | procArgument
  | procStatus
  | groupList
  | premiumFeature
  | locFeatureMask
  | platformList
  | baseband
  | sglteTarget
  | featureGtpCellProc
  | featureGtpWaa
  | featureGtpCell
  | featureGtpWifi
  | featureSap
  | featureOdcpi
  | featureFreeWifiScanInject
  | featureSuplWifi
  | featureWifiSupplicantInfo
  | autoPlatform
deriving DecidableEq

namespace LauncherField

/-- The members in their order. -/
def all : List LauncherField :=
  [.procName, .procArgument, .procStatus, .groupList, .premiumFeature, .locFeatureMask,
    .platformList, .baseband, .sglteTarget, .featureGtpCellProc, .featureGtpWaa, .featureGtpCell,
    .featureGtpWifi, .featureSap, .featureOdcpi, .featureFreeWifiScanInject, .featureSuplWifi,
    .featureWifiSupplicantInfo, .autoPlatform]

/-- An array of characters, or an `unsigned int`. -/
def size : LauncherField → ℕ
  | .premiumFeature | .locFeatureMask | .sglteTarget => 4
  | _ => locMaxParamString

/-- Where a member begins.  All sizes are multiples of four, so that nothing is left between the
members. -/
def offset (f : LauncherField) : ℕ := ((all.takeWhile (· ≠ f)).map size).sum

lemma mem_all (f : LauncherField) : f ∈ all := by
  cases f
  all_goals decide

/-- The members do not overlap. -/
lemma disjoint {f g : LauncherField} (h : f ≠ g) :
    f.offset + f.size ≤ g.offset ∨ g.offset + g.size ≤ f.offset := by
  have hall : ∀ f ∈ all, ∀ g ∈ all, f ≠ g →
      f.offset + f.size ≤ g.offset ∨ g.offset + g.size ≤ f.offset := by decide +kernel
  exact hall f (mem_all f) g (mem_all g) h

end LauncherField

/-- An entry of a table whose pointer goes to a member of `conf`. -/
structure LauncherParam where
  paramName : List Char
  field : LauncherField
  paramType : Char
deriving DecidableEq

/-- `loc_feature_conf_table`. -/
def featureParams : List LauncherParam :=
  [⟨"GTP_CELL_PROC".toList, .featureGtpCellProc, 's'⟩, ⟨"GTP_CELL".toList, .featureGtpCell, 's'⟩,
    ⟨"GTP_WIFI".toList, .featureGtpWifi, 's'⟩, ⟨"GTP_WAA".toList, .featureGtpWaa, 's'⟩,
    ⟨"SAP".toList, .featureSap, 's'⟩, ⟨"ODCPI".toList, .featureOdcpi, 's'⟩,
    ⟨"FREE_WIFI_SCAN_INJECT".toList, .featureFreeWifiScanInject, 's'⟩,
    ⟨"SUPL_WIFI".toList, .featureSuplWifi, 's'⟩,
    ⟨"WIFI_SUPPLICANT_INFO".toList, .featureWifiSupplicantInfo, 's'⟩]

/-- `loc_process_conf_parameter_table`. -/
def processParams : List LauncherParam :=
  [⟨"PROCESS_NAME".toList, .procName, 's'⟩, ⟨"PROCESS_ARGUMENT".toList, .procArgument, 's'⟩,
    ⟨"PROCESS_STATE".toList, .procStatus, 's'⟩, ⟨"PROCESS_GROUPS".toList, .groupList, 's'⟩,
    ⟨"PREMIUM_FEATURE".toList, .premiumFeature, 'n'⟩,
    ⟨"IZAT_FEATURE_MASK".toList, .locFeatureMask, 'n'⟩, ⟨"PLATFORMS".toList, .platformList, 's'⟩,
    ⟨"BASEBAND".toList, .baseband, 's'⟩, ⟨"HARDWARE_TYPE".toList, .autoPlatform, 's'⟩]

/-! ## Storing -/

/-- The four bytes of an `int`. -/
def intBytes (n : ℤ) : List UInt8 :=
  let bits := BitVec.ofInt 32 n
  [UInt8.ofBitVec (bits.extractLsb' 0 8), UInt8.ofBitVec (bits.extractLsb' 8 8),
    UInt8.ofBitVec (bits.extractLsb' 16 8), UInt8.ofBitVec (bits.extractLsb' 24 8)]

/-- `loc_set_config_entry`, of an entry that points into `conf`: the memory, with `conf` at address
zero, and the return value.  No entry is of type `double`. -/
def LauncherParam.set (e : LauncherParam) (m : Memory) (v : LocParamValue Unit) : Memory × ℤ :=
  if e.paramName = v.paramName then
    match e.paramType with
    | 's' =>
        if v.paramStrValue = ['N', 'U', 'L', 'L'] then (m.store e.field.offset [0], 0)
        else (m.strlcpy e.field.offset (v.paramStrValue.map Char.toUInt8) (locMaxParamString + 1), 0)
    | 'n' => (m.store e.field.offset (intBytes v.paramIntValue), 0)
    | _ => (m, -1)
  else (m, -1)

/-- The characters of a line. -/
def lineChars (line : List UInt8) : List Char := line.map Char.ofUInt8

/-- The loop of `loc_fill_conf_item`. -/
def fillLoop (params : List LauncherParam) (m : Memory) (v : LocParamValue Unit) : Memory × ℕ :=
  params.foldl (fun acc e =>
    let set := e.set acc.1 v
    (set.1, if set.2 = 0 then acc.2 + 1 else acc.2)) (m, 0)

/-- `loc_fill_conf_item`, with a table whose entries point into `conf`: the memory, and how many
entries have been set. -/
def fillConfItem (params : List LauncherParam) (m : Memory) (line : List UInt8) : Memory × ℕ :=
  match confItem (lineChars line) with
  | none => (m, 0)
  | some item => fillLoop params m (confValue noDoubles item)

/-- The tables that point into `conf` and are read for each file. -/
def IsParams (params : List LauncherParam) : Prop :=
  params = processParams ∨ params = featureParams

section Filling

variable {params : List LauncherParam} {m : Memory} {e : LauncherParam} {line : List UInt8}
  {item : List Char × List Char} {v : LocParamValue Unit}

/-- The entries of a table have different names, and point to different members. -/
lemma IsParams.nodup (h : IsParams params) :
    (params.map LauncherParam.paramName).Nodup ∧ (params.map LauncherParam.field).Nodup := by
  rcases h with rfl | rfl
  · decide +kernel
  · decide +kernel

/-- Strings are stored in arrays, and numbers in an `unsigned int`. -/
lemma IsParams.size (h : IsParams params) : ∀ e ∈ params,
    e.paramType = 's' ∧ e.field.size = locMaxParamString ∨ e.paramType = 'n' ∧ e.field.size = 4 := by
  rcases h with rfl | rfl
  · decide +kernel
  · decide +kernel

lemma IsParams.size_string (h : IsParams params) (he : e ∈ params) (htype : e.paramType = 's') :
    e.field.size = locMaxParamString := by
  rcases h.size e he with ⟨-, hsize⟩ | ⟨hn, -⟩
  · exact hsize
  · rw [htype] at hn
    exact absurd hn (by decide)

/-- One round of the loop. -/
lemma fillLoop_cons (e : LauncherParam) (params : List LauncherParam) (m : Memory)
    (v : LocParamValue Unit) : (fillLoop (e :: params) m v).1 = (fillLoop params (e.set m v).1 v).1 := by
  have hcount : ∀ (params : List LauncherParam) (m : Memory) (n n' : ℕ),
      (params.foldl (fun acc e =>
          let set := e.set acc.1 v
          (set.1, if set.2 = 0 then acc.2 + 1 else acc.2)) (m, n)).1 =
        (params.foldl (fun acc e =>
          let set := e.set acc.1 v
          (set.1, if set.2 = 0 then acc.2 + 1 else acc.2)) (m, n')).1 := by
    intro params
    induction params with
    | nil => exact fun _ _ _ => rfl
    | cons e params ih => exact fun m n n' => ih _ _ _
  exact hcount params _ _ _

lemma LauncherParam.set_of_ne (h : e.paramName ≠ v.paramName) : e.set m v = (m, -1) := by
  rw [LauncherParam.set, if_neg h]

/-- A value that names no entry changes nothing. -/
lemma fillLoop_of_forall_ne (h : ∀ e ∈ params, e.paramName ≠ v.paramName) :
    (fillLoop params m v).1 = m := by
  induction params generalizing m with
  | nil => rfl
  | cons e params ih =>
      rw [fillLoop_cons, LauncherParam.set_of_ne (h e List.mem_cons_self),
        ih fun e' he' => h e' (List.mem_cons_of_mem e he')]

/-- A value is stored in the one entry that it names. -/
lemma fillLoop_of_mem (hnames : (params.map LauncherParam.paramName).Nodup) (he : e ∈ params)
    (hname : e.paramName = v.paramName) : (fillLoop params m v).1 = (e.set m v).1 := by
  induction params generalizing m with
  | nil => cases he
  | cons e' params ih =>
      rw [List.map_cons, List.nodup_cons] at hnames
      rw [fillLoop_cons]
      rcases List.mem_cons.mp he with rfl | he
      · refine fillLoop_of_forall_ne fun e' he' heq => hnames.1 ?_
        exact List.mem_map.mpr ⟨e', he', heq.trans hname.symm⟩
      · have hne : e'.paramName ≠ v.paramName := fun heq =>
          hnames.1 (List.mem_map.mpr ⟨e, he, hname.trans heq.symm⟩)
        rw [LauncherParam.set_of_ne hne, ih hnames.2 he]

lemma toUInt8_ofUInt8 (b : UInt8) : (Char.ofUInt8 b).toUInt8 = b := UInt8.toUInt8_toUInt32 b

/-- The characters of a value are bytes of its line. -/
lemma mem_value (hitem : confItem (lineChars line) = some item) {c : Char} (hc : c ∈ item.2) :
    c.toUInt8 ∈ line ∧ Char.ofUInt8 c.toUInt8 = c := by
  obtain ⟨b, hb, rfl⟩ := List.mem_map.mp (mem_of_confItem hitem hc)
  rw [toUInt8_ofUInt8]
  exact ⟨hb, rfl⟩

lemma zero_notMem_value (hnul : 0 ∉ line) (hitem : confItem (lineChars line) = some item) :
    0 ∉ item.2.map Char.toUInt8 := by
  intro hmem
  obtain ⟨c, hc, hzero⟩ := List.mem_map.mp hmem
  exact hnul (hzero ▸ (mem_value hitem hc).1)

/-- The bytes of a value are its characters. -/
lemma lineChars_value (hitem : confItem (lineChars line) = some item) :
    lineChars (item.2.map Char.toUInt8) = item.2 := by
  rw [lineChars, List.map_map]
  exact (List.map_congr_left fun c hc => (mem_value hitem hc).2).trans (List.map_id item.2)

/-- A line that is skipped changes nothing, and neither does one that names no entry. -/
lemma fillConfItem_of_forall_ne
    (h : ∀ item, confItem (lineChars line) = some item → ∀ e ∈ params, e.paramName ≠ item.1) :
    (fillConfItem params m line).1 = m := by
  rw [fillConfItem]
  cases hitem : confItem (lineChars line) with
  | none => rfl
  | some item =>
      refine fillLoop_of_forall_ne fun e he => ?_
      rw [paramName_confValue]
      exact h item hitem e he

/-- A line does to the memory what the entry does that it names. -/
lemma fillConfItem_of_named (h : IsParams params) (he : e ∈ params)
    (hitem : confItem (lineChars line) = some item) (hname : e.paramName = item.1) :
    (fillConfItem params m line).1 = (e.set m (confValue noDoubles item)).1 := by
  have hvalue : e.paramName = (confValue noDoubles item).paramName :=
    hname.trans (paramName_confValue noDoubles item).symm
  rw [fillConfItem, hitem]
  exact fillLoop_of_mem h.nodup.1 he hvalue

/-- What a line makes of the memory when it names a string. -/
lemma fillConfItem_string (h : IsParams params) (he : e ∈ params) (htype : e.paramType = 's')
    (hitem : confItem (lineChars line) = some item) (hname : e.paramName = item.1) :
    (fillConfItem params m line).1 =
      if item.2 = ['N', 'U', 'L', 'L'] then m.store e.field.offset [0]
      else m.strlcpy e.field.offset (item.2.map Char.toUInt8) (locMaxParamString + 1) := by
  have hvalue : e.paramName = (confValue noDoubles item).paramName :=
    hname.trans (paramName_confValue noDoubles item).symm
  rw [fillConfItem_of_named h he hitem hname, LauncherParam.set, if_pos hvalue]
  simp only [htype, paramStrValue_confValue]
  split
  · rfl
  · rfl

/-- The line leaves all bytes outside of the array of the entry as they are, and the array ends its
string. -/
def StoresInside (params : List LauncherParam) (m : Memory) (line : List UInt8)
    (e : LauncherParam) : Prop :=
  m.SameOutside (fillConfItem params m line).1 e.field.offset e.field.size ∧
    (fillConfItem params m line).1.Terminated e.field.offset e.field.size

/-- **Storing a string.** What is stored in a string entry stays inside its array, and ends there,
exactly when the value is `NULL` or shorter than the array. -/
theorem storesInside_iff (params : List LauncherParam) (m : Memory) (line : List UInt8)
    (e : LauncherParam) (item : List Char × List Char) (h : IsParams params) (he : e ∈ params)
    (htype : e.paramType = 's') (hnul : 0 ∉ line)
    (hitem : confItem (lineChars line) = some item) (hname : e.paramName = item.1) :
    StoresInside params m line e ↔
      item.2 = "NULL".toList ∨ item.2.length < locMaxParamString := by
  have hsize := h.size_string he htype
  have hbytes := zero_notMem_value hnul hitem
  rw [StoresInside, fillConfItem_string h he htype hitem hname, hsize]
  have hnull : "NULL".toList = ['N', 'U', 'L', 'L'] := rfl
  rw [hnull]
  by_cases heq : item.2 = ['N', 'U', 'L', 'L']
  · rw [if_pos heq]
    refine iff_of_true ⟨Memory.sameOutside_store (by decide), ?_⟩ (.inl heq)
    have hpos : 0 < locMaxParamString := by decide
    exact ⟨e.field.offset + 0, ⟨Nat.le_refl _, by omega⟩, Memory.store_add (by decide)⟩
  · rw [if_neg heq, or_iff_right heq]
    constructor
    · intro hinside
      by_contra hlong
      refine Memory.strlcpy_outside hbytes ?_ (Nat.lt_succ_self _) hinside.2
      rw [List.length_map]
      omega
    · intro hshort
      exact Memory.strlcpy_inside (by rwa [List.length_map]) (Nat.succ_pos _)

/-- A number is stored inside its member. -/
lemma sameOutside_number (h : IsParams params) (he : e ∈ params) (htype : e.paramType = 'n')
    (hsize : e.field.size = 4) (hitem : confItem (lineChars line) = some item)
    (hname : e.paramName = item.1) :
    m.SameOutside (fillConfItem params m line).1 e.field.offset e.field.size := by
  have hvalue : e.paramName = (confValue noDoubles item).paramName :=
    hname.trans (paramName_confValue noDoubles item).symm
  rw [fillConfItem_of_named h he hitem hname, LauncherParam.set, if_pos hvalue]
  simp only [htype]
  exact Memory.sameOutside_store hsize.ge

/-- The line gives no string entry a value for which its array has no room. -/
def ValueFits (params : List LauncherParam) (line : List UInt8) : Prop :=
  ∀ item, confItem (lineChars line) = some item → ∀ e ∈ params, e.paramType = 's' →
    e.paramName = item.1 → item.2 = "NULL".toList ∨ item.2.length < locMaxParamString

/-- The string in the array of an entry. -/
def LauncherParam.stringIn (e : LauncherParam) (m : Memory) : List Char :=
  lineChars (m.cString e.field.offset e.field.size)

/-- A line leaves the strings alone that it does not name. -/
lemma stringIn_of_ne (h : IsParams params) (he : e ∈ params) (hnul : 0 ∉ line)
    (hfit : ValueFits params line)
    (hne : ∀ item, confItem (lineChars line) = some item → e.paramName ≠ item.1) :
    e.stringIn (fillConfItem params m line).1 = e.stringIn m := by
  by_cases hnamed : ∃ item, confItem (lineChars line) = some item ∧
      ∃ e' ∈ params, e'.paramName = item.1
  · obtain ⟨item, hitem, e', he', hname⟩ := hnamed
    have hfield : e'.field ≠ e.field := fun heq => hne item hitem
      (List.inj_on_of_nodup_map h.nodup.2 he' he heq ▸ hname)
    have houtside : m.SameOutside (fillConfItem params m line).1 e'.field.offset
        e'.field.size := by
      rcases h.size e' he' with ⟨htype, -⟩ | ⟨htype, hsize⟩
      · exact ((storesInside_iff params m line e' item h he' htype hnul hitem hname).mpr
          (hfit item hitem e' he' htype hname)).1
      · exact sameOutside_number h he' htype hsize hitem hname
    rw [LauncherParam.stringIn, Memory.cString_of_sameOutside houtside
      (LauncherField.disjoint hfield).symm]
    rfl
  · rw [fillConfItem_of_forall_ne fun item hitem e' he' hname => hnamed ⟨item, hitem, e', he', hname⟩]

/-- The line stores the string that it gives an entry. -/
lemma stringIn_of_eq (h : IsParams params) (he : e ∈ params) (htype : e.paramType = 's')
    (hnul : 0 ∉ line) (hitem : confItem (lineChars line) = some item)
    (hname : e.paramName = item.1)
    (hfit : item.2 = ['N', 'U', 'L', 'L'] ∨ item.2.length < locMaxParamString) :
    e.stringIn (fillConfItem params m line).1 =
      if item.2 = ['N', 'U', 'L', 'L'] then [] else item.2 := by
  rw [LauncherParam.stringIn, fillConfItem_string h he htype hitem hname, h.size_string he htype]
  split
  · exact congrArg lineChars (Memory.cString_store_zero m e.field.offset 79)
  · rename_i hnull
    have hlt : (item.2.map Char.toUInt8).length < locMaxParamString := by
      rw [List.length_map]
      exact hfit.resolve_left hnull
    rw [Memory.cString_strlcpy (zero_notMem_value hnul hitem) hlt (by omega),
      lineChars_value hitem]

/-- **The strings in memory** are those that the table of the entries has, when the line gives none
of them a value for which there is no room. -/
theorem stringIn_eq_str (h : IsParams params) (he : e ∈ params) (htype : e.paramType = 's')
    (hnul : 0 ∉ line) (hfit : ValueFits params line) :
    (locFillConfItem noDoubles [stringParam e.paramName (e.stringIn m)] (lineChars line)).1.map
        LocParam.str =
      [e.stringIn (fillConfItem params m line).1] := by
  by_cases hnamed : ∃ item, confItem (lineChars line) = some item ∧ e.paramName = item.1
  · obtain ⟨item, hitem, hname⟩ := hnamed
    have hroom := hfit item hitem e he htype hname
    have htakes : (stringParam e.paramName (e.stringIn m)).Takes item :=
      ⟨hname, rfl, .inl rfl⟩
    have hstr : ((stringParam e.paramName (e.stringIn m)).fill noDoubles item).str =
        if item.2 = ['N', 'U', 'L', 'L'] then [] else item.2 := by
      rw [LocParam.str, LocParam.paramPtr_fill htakes]
      simp only [LocParam.stored, stringParam, paramStrValue_confValue]
      by_cases hnull : item.2 = ['N', 'U', 'L', 'L']
      · simp only [if_pos hnull]
      · simp only [if_neg hnull]
        exact List.take_of_length_le (hroom.resolve_left hnull).le
    rw [locFillConfItem_of_some hitem, stringIn_of_eq h he htype hnul hitem hname hroom, ← hstr]
    rfl
  · have hne : ∀ item, confItem (lineChars line) = some item → e.paramName ≠ item.1 :=
      fun item hitem hname => hnamed ⟨item, hitem, hname⟩
    rw [stringIn_of_ne h he hnul hfit hne]
    cases hitem : confItem (lineChars line) with
    | none => rw [locFillConfItem_of_none hitem]; rfl
    | some item =>
        have hnot : ¬ (stringParam e.paramName (e.stringIn m)).Takes item := fun htakes =>
          hne item hitem htakes.1
        rw [locFillConfItem_of_some hitem, List.map_singleton, LocParam.fill_of_not_takes hnot]
        rfl

end Filling

/-! ## Two lines -/

/-- A mode of `SAP` with `n` letters. -/
def sapLine (n : ℕ) : List UInt8 := [83, 65, 80, 61] ++ List.replicate n 97

/-- A value of which the last character but one is the last that fits. -/
theorem sap_storesInside :
    StoresInside featureParams (fun _ => 1) (sapLine 79) ⟨"SAP".toList, .featureSap, 's'⟩ :=
  (storesInside_iff featureParams (fun _ => 1) (sapLine 79) ⟨"SAP".toList, .featureSap, 's'⟩
    (['S', 'A', 'P'], List.replicate 79 'a') (.inr rfl) (by decide) rfl (by decide +kernel)
    (by decide +kernel) rfl).mpr (by decide)

/-- A value as long as the array leaves no end character in it, and changes the first byte of the
next one. -/
theorem sap_stored_outside :
    ¬ ∀ (params : List LauncherParam) (m : Memory) (line : List UInt8) (e : LauncherParam)
      (item : List Char × List Char), IsParams params → e ∈ params → e.paramType = 's' → 0 ∉ line →
      line.length < locMaxParamLine → confItem (lineChars line) = some item →
      e.paramName = item.1 → StoresInside params m line e := by
  intro h
  have hitem : confItem (lineChars (sapLine 80)) = some (['S', 'A', 'P'], List.replicate 80 'a') := by
    decide +kernel
  have hinside := h featureParams (fun _ => 1) (sapLine 80) ⟨"SAP".toList, .featureSap, 's'⟩ _
    (.inr rfl) (by decide) rfl (by decide +kernel) (by decide) hitem rfl
  -- the first byte behind the array has become the end character
  have hbehind := hinside.1 (LauncherField.featureSap.offset + locMaxParamString) (by decide)
  exact absurd hbehind (by decide +kernel)

end LocHal
