import LocHal.Utils.LocProcessConf

/-!
# Blocks of a process configuration (`gps/utils/loc_cfg.cpp`)

A file lists the parameters of one process after the other, in blocks that start with the name of
the process.  `loc_read_process_conf` does not look for the end of a block: its second pass takes
the next nine parameters, whichever block they stand in, and what a block leaves out stays in `conf`
from the block before.

`processInfoTable_eq`: as many processes are returned as there are blocks exactly when there are
less than 256 blocks, and each process is what its own block makes of it when all blocks have all
nine parameters, or when there is only one block and nothing has been read before it.
-/

namespace LocHal

/-! ## Parameters by name -/

section Parameters

variable {conf : LocLauncherConf} {item : List Char × List Char}
  {items : List (List Char × List Char)} {name : List Char}

/-- The names in `loc_process_conf_parameter_table`. -/
def processKeys : List (List Char) :=
  ({} : LocLauncherConf).locProcessConfParameterTable.map LocParam.paramName

/-- The names in `loc_feature_conf_table`. -/
def featureKeys : List (List Char) :=
  ({} : LocLauncherConf).locFeatureConfTable.map LocParam.paramName

/-- The names of the strings in a table. -/
def stringNames (table : List (LocParam Unit)) : List (List Char) :=
  (table.filter fun e => e.paramType = 's').map LocParam.paramName

/-- The names that stand for strings. -/
def stringKeys : List (List Char) :=
  stringNames ({} : LocLauncherConf).locFeatureConfTable ++
    stringNames ({} : LocLauncherConf).locProcessConfParameterTable

/-- There is room for the strings. -/
def ValuesFit (items : List (List Char × List Char)) : Prop :=
  ∀ item ∈ items, item.1 ∈ stringKeys → item.2.length < locMaxParamString

instance (items : List (List Char × List Char)) : Decidable (ValuesFit items) :=
  inferInstanceAs (Decidable (∀ item ∈ items, _ → _))

lemma nodup_processKeys : processKeys.Nodup := by decide +kernel

lemma nodup_featureKeys : featureKeys.Nodup := by decide +kernel

lemma paramName_locProcessConfParameterTable (conf : LocLauncherConf) :
    conf.locProcessConfParameterTable.map LocParam.paramName = processKeys := rfl

lemma paramName_locFeatureConfTable (conf : LocLauncherConf) :
    conf.locFeatureConfTable.map LocParam.paramName = featureKeys := rfl

lemma stringParam_takes_iff {value : List Char} :
    (stringParam name value).Takes item ↔ name = item.1 :=
  ⟨fun h => h.1, fun h => ⟨h, rfl, .inl rfl⟩⟩

lemma intParam_takes_iff {value : ℤ} : (intParam name value).Takes item ↔ name = item.1 :=
  ⟨fun h => h.1, fun h => ⟨h, rfl, .inr (.inl rfl)⟩⟩

lemma settable_stringParam (value : List Char) : (stringParam name value).Settable :=
  ⟨rfl, .inl rfl⟩

lemma settable_intParam (value : ℤ) : (intParam name value).Settable :=
  ⟨rfl, .inr (.inl rfl)⟩

/-- A table of which all entries can be set takes the items that name one of them. -/
lemma taken_iff {table : List (LocParam Unit)} (h : ∀ e ∈ table, e.Settable) :
    Taken table item ↔ item.1 ∈ table.map LocParam.paramName := by
  rw [List.mem_map]
  constructor
  · rintro ⟨e, he, htakes⟩
    exact ⟨e, he, htakes.1⟩
  · rintro ⟨e, he, hname⟩
    exact ⟨e, he, hname, h e he⟩

lemma settable_locProcessConfParameterTable (conf : LocLauncherConf) :
    ∀ e ∈ conf.locProcessConfParameterTable, e.Settable := by
  simp only [LocLauncherConf.locProcessConfParameterTable, List.forall_mem_cons,
    settable_stringParam, settable_intParam, true_and]
  exact fun e he => absurd he List.not_mem_nil

lemma settable_locFeatureConfTable (conf : LocLauncherConf) :
    ∀ e ∈ conf.locFeatureConfTable, e.Settable := by
  simp only [LocLauncherConf.locFeatureConfTable, List.forall_mem_cons, settable_stringParam,
    true_and]
  exact fun e he => absurd he List.not_mem_nil

/-- Values for which there is room are not stored beyond an array. -/
lemma not_overflows {table : List (LocParam Unit)} (hnames : stringNames table ⊆ stringKeys)
    (hfit : item.1 ∈ stringKeys → item.2.length < locMaxParamString) :
    ∀ e ∈ table, ¬ e.Overflows item := by
  rintro e he ⟨htakes, htype, -, hlength⟩
  have hkey : e.paramName ∈ stringNames table :=
    List.mem_map.mpr ⟨e, List.mem_filter.mpr ⟨he, decide_eq_true htype⟩, rfl⟩
  have hlt := hfit (htakes.1 ▸ hnames hkey)
  omega

lemma stringNames_feature (conf : LocLauncherConf) :
    stringNames conf.locFeatureConfTable ⊆ stringKeys :=
  List.subset_append_left (stringNames ({} : LocLauncherConf).locFeatureConfTable) _

lemma stringNames_process (conf : LocLauncherConf) :
    stringNames conf.locProcessConfParameterTable ⊆ stringKeys :=
  List.subset_append_right _ (stringNames ({} : LocLauncherConf).locProcessConfParameterTable)

/-- What a string that no item names holds. -/
lemma str_fillAll_of_notMem {value : List Char} (h : name ∉ items.map Prod.fst) :
    ((stringParam name value).fillAll noDoubles items).str = value := by
  have hnot : ∀ item ∈ items, ¬ (stringParam name value).Takes item := fun item hitem htakes =>
    h (List.mem_map.mpr ⟨item, hitem, (stringParam_takes_iff.mp htakes).symm⟩)
  rw [LocParam.fillAll_of_forall_not_takes hnot]
  rfl

/-- What a string that an item names holds does not depend on what it has held. -/
lemma str_fillAll_congr (hnodup : (items.map Prod.fst).Nodup) (h : name ∈ items.map Prod.fst)
    (value value' : List Char) :
    ((stringParam name value).fillAll noDoubles items).str =
      ((stringParam name value').fillAll noDoubles items).str := by
  obtain ⟨item, hitem, rfl⟩ := List.mem_map.mp h
  rw [LocParam.str, LocParam.str,
    LocParam.paramPtr_fillAll hnodup hitem (stringParam_takes_iff.mpr rfl),
    LocParam.paramPtr_fillAll hnodup hitem (stringParam_takes_iff.mpr rfl)]
  rfl

lemma num_fillAll_congr (hnodup : (items.map Prod.fst).Nodup) (h : name ∈ items.map Prod.fst)
    (value value' : ℤ) :
    ((intParam name value).fillAll noDoubles items).num =
      ((intParam name value').fillAll noDoubles items).num := by
  obtain ⟨item, hitem, rfl⟩ := List.mem_map.mp h
  rw [LocParam.num, LocParam.num,
    LocParam.paramPtr_fillAll hnodup hitem (intParam_takes_iff.mpr rfl),
    LocParam.paramPtr_fillAll hnodup hitem (intParam_takes_iff.mpr rfl)]
  rfl

/-- A string that is not `NULL` and for which there is room is stored as it is. -/
lemma str_fillAll_of_mem {value : List Char} (hnodup : (items.map Prod.fst).Nodup)
    (hmem : item ∈ items) (hname : name = item.1) (hnull : item.2 ≠ ['N', 'U', 'L', 'L'])
    (hfit : item.2.length < locMaxParamString) :
    ((stringParam name value).fillAll noDoubles items).str = item.2 := by
  have hstored : (stringParam name value).stored (confValue noDoubles item) =
      some (.string item.2) := by
    simp only [LocParam.stored, stringParam, paramStrValue_confValue]
    rw [if_neg hnull, List.take_of_length_le hfit.le]
  rw [LocParam.str, LocParam.paramPtr_fillAll hnodup hmem (stringParam_takes_iff.mpr hname),
    hstored]

lemma str_fillAll_singleton {value : List Char} (hname : name = item.1)
    (hnull : item.2 ≠ ['N', 'U', 'L', 'L']) (hfit : item.2.length < locMaxParamString) :
    ((stringParam name value).fillAll noDoubles [item]).str = item.2 :=
  str_fillAll_of_mem (List.nodup_singleton _) List.mem_cons_self hname hnull hfit

end Parameters

/-! ## Reading a table -/

section Reading

variable {lines : List (List Char)} {table : List (LocParam Unit)} {keys : List (List Char)}

lemma filter_taken_eq (h : ∀ item, Taken table item ↔ item.1 ∈ keys)
    (items : List (List Char × List Char)) :
    (items.filter fun item => Taken table item) = withKeys keys items :=
  List.filter_congr fun item _ => decide_eq_decide.mpr (h item)

/-- **Reading from where a file has come to.** The table takes as many items as it has entries, and
the items after them are left. -/
theorem readConfR_eq (hnodup : keys.Nodup) (hkeys : table.map LocParam.paramName = keys)
    (hnum : table.length < 2 ^ 32) (hset : ∀ e ∈ table, e.Settable)
    (hfit : ∀ item ∈ withKeys keys (lines.filterMap confItem), ∀ e ∈ table, ¬ e.Overflows item) :
    ∃ rest, readConfR lines table =
        some (table.map (LocParam.fillAll noDoubles
          ((withKeys keys (lines.filterMap confItem)).take table.length)), rest) ∧
      withKeys keys (rest.filterMap confItem) =
        (withKeys keys (lines.filterMap confItem)).drop table.length := by
  have hnames : (table.map LocParam.paramName).Nodup := hkeys ▸ hnodup
  have htaken : ∀ item, Taken table item ↔ item.1 ∈ keys := fun item => by
    rw [taken_iff hset, hkeys]
  have hread := filter_take_fillLines noDoubles lines hnames hnum
  have hfilled := fillLines_eq noDoubles lines hnames hnum
  have hleft := filter_drop_fillLines noDoubles lines hnames hnum
  rw [filter_taken_eq htaken] at hfilled
  rw [filter_taken_eq htaken, filter_taken_eq htaken] at hread hleft
  refine ⟨lines.drop (fillLines noDoubles table.length lines table).2, ?_, hleft⟩
  have hsafe : ¬ ∃ item ∈ (lines.take (fillLines noDoubles table.length lines table).2).filterMap
      confItem, ∃ e ∈ table, e.Overflows item := by
    rintro ⟨item, hitem, e, he, hover⟩
    have hmem : item ∈ withKeys keys
        ((lines.take (fillLines noDoubles table.length lines table).2).filterMap confItem) :=
      List.mem_filter.mpr ⟨hitem, decide_eq_true ((htaken item).mp ⟨e, he, hover.1⟩)⟩
    rw [hread] at hmem
    exact hfit item (List.mem_of_mem_take hmem) e he hover
  rw [readConfR, if_neg hsafe, hfilled]

end Reading

/-! ## Settings and the parameters of a process -/

section Settings

variable {conf : LocLauncherConf} {items : List (List Char × List Char)}

namespace LocLauncherConf

/-- `conf` with what these items set of the parameters of a process. -/
def fill (conf : LocLauncherConf) (items : List (List Char × List Char)) : LocLauncherConf :=
  conf.setProcess (conf.locProcessConfParameterTable.map (LocParam.fillAll noDoubles items))

/-- `conf` with what these items set of the features. -/
def fillFeatures (conf : LocLauncherConf) (items : List (List Char × List Char)) :
    LocLauncherConf :=
  conf.setFeatures (conf.locFeatureConfTable.map (LocParam.fillAll noDoubles items))

/-- The features in `conf`, and the target, as they are when no process has been read. -/
def settings (conf : LocLauncherConf) : LocLauncherConf :=
  { conf with
    procName := []
    procArgument := []
    procStatus := []
    groupList := []
    premiumFeature := 0
    locFeatureMask := 0
    platformList := []
    baseband := []
    autoPlatform := [] }

end LocLauncherConf

@[simp]
lemma settings_fill (conf : LocLauncherConf) (items : List (List Char × List Char)) :
    (conf.fill items).settings = conf.settings := rfl

/-- What a process makes of `conf` leaves the settings as they are. -/
@[simp]
lemma settings_launch (sys : LocSystem) (serviceMask : BitVec 32) (conf : LocLauncherConf) :
    (conf.launch sys serviceMask).2.settings = conf.settings := by
  rw [LocLauncherConf.launch]
  split
  · rfl
  · split
    · rfl
    · split
      · rfl
      · dsimp only
        split
        · rfl
        · rfl

/-- Where every parameter is set, nothing but the settings is left of what `conf` has been. -/
lemma fill_settings (hnodup : (items.map Prod.fst).Nodup)
    (hall : ∀ key ∈ processKeys, key ∈ items.map Prod.fst) :
    conf.fill items = conf.settings.fill items := by
  have hstr : ∀ {name : List Char} (value : List Char), name ∈ items.map Prod.fst →
      ((stringParam name value).fillAll noDoubles items).str =
        ((stringParam name []).fillAll noDoubles items).str :=
    fun value hkey => str_fillAll_congr hnodup hkey value []
  have hnum : ∀ {name : List Char} (value : ℤ), name ∈ items.map Prod.fst →
      ((intParam name value).fillAll noDoubles items).num =
        ((intParam name 0).fillAll noDoubles items).num :=
    fun value hkey => num_fillAll_congr hnodup hkey value 0
  simp only [processKeys, LocLauncherConf.locProcessConfParameterTable, List.map_cons,
    List.forall_mem_cons, stringParam, intParam] at hall
  obtain ⟨hname, hargument, hstate, hgroups, hpremium, hmask, hplatforms, hbaseband, hhardware,
    -⟩ := hall
  simp only [LocLauncherConf.fill, LocLauncherConf.locProcessConfParameterTable, List.map_cons,
    List.map_nil, LocLauncherConf.setProcess, LocLauncherConf.settings]
  rw [hstr conf.procName hname, hstr conf.procArgument hargument, hstr conf.procStatus hstate,
    hstr conf.groupList hgroups, hnum conf.premiumFeature hpremium,
    hnum conf.locFeatureMask hmask, hstr conf.platformList hplatforms,
    hstr conf.baseband hbaseband, hstr conf.autoPlatform hhardware]

/-- The parameters that every process needs. -/
def requiredKeys : List (List Char) :=
  ["PROCESS_NAME".toList, "PROCESS_GROUPS".toList, "PLATFORMS".toList, "BASEBAND".toList,
    "PROCESS_STATE".toList, "HARDWARE_TYPE".toList]

/-- Where one of the parameters is not set that a process needs, and none has been before, the
process misses it. -/
lemma missesRequired_fill (h : ∃ key ∈ requiredKeys, key ∉ items.map Prod.fst) :
    (conf.settings.fill items).missesRequired = true := by
  obtain ⟨key, hkey, hnot⟩ := h
  simp only [requiredKeys, List.mem_cons, List.not_mem_nil, or_false] at hkey
  rw [LocLauncherConf.missesRequired, decide_eq_true_eq]
  rcases hkey with rfl | rfl | rfl | rfl | rfl | rfl
  · exact .inl (str_fillAll_of_notMem hnot)
  · exact .inr (.inl (str_fillAll_of_notMem hnot))
  · exact .inr (.inr (.inl (str_fillAll_of_notMem hnot)))
  · exact .inr (.inr (.inr (.inl (str_fillAll_of_notMem hnot))))
  · exact .inr (.inr (.inr (.inr (.inl (str_fillAll_of_notMem hnot)))))
  · exact .inr (.inr (.inr (.inr (.inr (str_fillAll_of_notMem hnot)))))

end Settings

/-! ## The two passes -/

section Passes

variable {lines : List (List Char)} {conf : LocLauncherConf}
  {items names : List (List Char × List Char)}

def nameKey : List Char := "PROCESS_NAME".toList

/-- The values name processes, and there is room for them. -/
def Names (names : List (List Char × List Char)) : Prop :=
  ∀ item ∈ names, item.2 ≠ [] ∧ item.2 ≠ ['N', 'U', 'L', 'L'] ∧ item.2.length < locMaxParamString

instance (names : List (List Char × List Char)) : Decidable (Names names) :=
  inferInstanceAs (Decidable (∀ item ∈ names, _ ∧ _ ∧ _))

/-- What one round of the first loop reads. -/
lemma readConfR_name (hnames : withKeys [nameKey] (lines.filterMap confItem) = names)
    (hgood : Names names) :
    ∃ rest, readConfR lines [stringParam nameKey []] =
        some ([(stringParam nameKey []).fillAll noDoubles (names.take 1)], rest) ∧
      withKeys [nameKey] (rest.filterMap confItem) = names.drop 1 := by
  subst hnames
  refine readConfR_eq (List.nodup_singleton nameKey) rfl (by decide) ?_ ?_
  · intro e he
    rw [List.mem_singleton.mp he]
    exact settable_stringParam []
  · intro item hitem e he
    exact not_overflows (stringNames_process {}) (fun _ => (hgood item hitem).2.2) e
      (List.mem_singleton.mp he ▸ List.mem_cons_self)

lemma take_one_table (conf : LocLauncherConf) :
    conf.clearName.locProcessConfParameterTable.take 1 = [stringParam nameKey []] := rfl

/-- **The first pass** counts the names, in an `unsigned char`. -/
theorem countLoop_eq {rounds procListLength : ℕ}
    (hnames : withKeys [nameKey] (lines.filterMap confItem) = names) (hgood : Names names)
    (hrounds : names.length < rounds) (hcount : procListLength < 2 ^ 8) :
    countLoop rounds lines conf procListLength =
      some ((procListLength + names.length) % 2 ^ 8, conf.clearName) := by
  induction names generalizing rounds lines conf procListLength with
  | nil =>
      obtain ⟨rounds, rfl⟩ := Nat.exists_eq_add_one.mpr (Nat.zero_lt_of_lt hrounds)
      obtain ⟨rest, hread, -⟩ := readConfR_name hnames hgood
      have hstr : ((stringParam nameKey []).fillAll noDoubles []).str = [] := rfl
      rw [countLoop, take_one_table, hread]
      simp only [List.take_nil, LocLauncherConf.setProcess, hstr]
      rw [if_neg (not_not_intro rfl), List.length_nil, Nat.add_zero, Nat.mod_eq_of_lt hcount]
      rfl
  | cons item names ih =>
      obtain ⟨rounds, rfl⟩ := Nat.exists_eq_add_one.mpr (Nat.zero_lt_of_lt hrounds)
      obtain ⟨rest, hread, hrest⟩ := readConfR_name hnames hgood
      obtain ⟨hne, hnull, hfit⟩ := hgood item List.mem_cons_self
      have hkey : nameKey = item.1 := by
        have hmem : item ∈ withKeys [nameKey] (lines.filterMap confItem) :=
          hnames ▸ List.mem_cons_self
        exact (List.mem_singleton.mp (of_decide_eq_true (List.mem_filter.mp hmem).2)).symm
      have hstr : ((stringParam nameKey []).fillAll noDoubles [item]).str = item.2 :=
        str_fillAll_singleton hkey hnull hfit
      have hgood' : Names names := fun i hi => hgood i (List.mem_cons_of_mem item hi)
      have hmod : ((procListLength + 1) % 2 ^ 8 + names.length) % 2 ^ 8 =
          (procListLength + (names.length + 1)) % 2 ^ 8 := by omega
      rw [List.length_cons] at hrounds
      rw [countLoop, take_one_table, hread]
      simp only [List.take_succ_cons, List.take_zero, LocLauncherConf.setProcess, hstr]
      rw [if_pos hne, ih hrest hgood' (by omega) (by omega), List.length_cons, hmod]
      rfl

/-- What the second pass makes of items, nine of them for each process. -/
def processesOf (sys : LocSystem) (serviceMask : BitVec 32) :
    ℕ → List (List Char × List Char) → LocLauncherConf → List LocProcessInfo × LocLauncherConf
  | 0, _, conf => ([], conf)
  | rounds + 1, items, conf =>
      let launched := (conf.fill (items.take processKeys.length)).launch sys serviceMask
      let later := processesOf sys serviceMask rounds (items.drop processKeys.length) launched.2
      (launched.1 :: later.1, later.2)

lemma length_processesOf (sys : LocSystem) (serviceMask : BitVec 32) (rounds : ℕ)
    (items : List (List Char × List Char)) (conf : LocLauncherConf) :
    (processesOf sys serviceMask rounds items conf).1.length = rounds := by
  induction rounds generalizing items conf with
  | zero => rfl
  | succ rounds ih => rw [processesOf, List.length_cons, ih]

/-- What one round of the second loop reads. -/
lemma readConfR_process (conf : LocLauncherConf)
    (hfit : ValuesFit (withKeys processKeys (lines.filterMap confItem))) :
    ∃ rest, readConfR lines conf.locProcessConfParameterTable =
        some (conf.locProcessConfParameterTable.map (LocParam.fillAll noDoubles
          ((withKeys processKeys (lines.filterMap confItem)).take processKeys.length)), rest) ∧
      withKeys processKeys (rest.filterMap confItem) =
        (withKeys processKeys (lines.filterMap confItem)).drop processKeys.length :=
  readConfR_eq nodup_processKeys (paramName_locProcessConfParameterTable conf)
    (show processKeys.length < 2 ^ 32 by decide) (settable_locProcessConfParameterTable conf)
    fun item hitem => not_overflows (stringNames_process conf) (hfit item hitem)

/-- **The second pass** goes by the number of parameters that it has read. -/
theorem processLoop_eq (sys : LocSystem) (serviceMask : BitVec 32) {rounds : ℕ}
    (hitems : withKeys processKeys (lines.filterMap confItem) = items) (hfit : ValuesFit items) :
    processLoop sys serviceMask rounds lines conf =
      some (processesOf sys serviceMask rounds items conf) := by
  induction rounds generalizing lines items conf with
  | zero => rfl
  | succ rounds ih =>
      subst hitems
      obtain ⟨rest, hread, hrest⟩ := readConfR_process conf hfit
      have hlater : ValuesFit ((withKeys processKeys (lines.filterMap confItem)).drop
          processKeys.length) := fun item hitem => hfit item (List.mem_of_mem_drop hitem)
      rw [processLoop, hread]
      simp only
      rw [ih hrest hlater]
      rfl

end Passes

/-! ## A file -/

section Files

variable {text : List Char}

/-- The features in a file. -/
def featureItems (text : List Char) : List (List Char × List Char) :=
  withKeys featureKeys (fileItems text)

/-- The parameters of processes in a file. -/
def processItems (text : List Char) : List (List Char × List Char) :=
  withKeys processKeys (fileItems text)

/-- `conf` with what is read from `gps.conf`. -/
def LocLauncherConf.readGps (sys : LocSystem) (conf : LocLauncherConf) : LocLauncherConf :=
  ((readConf sys.gpsConf conf.gpsConfParameterTable).map conf.setGps).getD conf

/-- `conf` with what is read from `gps.conf` and with these features. -/
def LocLauncherConf.withFeatures (sys : LocSystem) (conf : LocLauncherConf)
    (features : List (List Char × List Char)) : LocLauncherConf :=
  (conf.readGps sys).fillFeatures (features.take featureKeys.length)

lemma settings_setGps (conf : LocLauncherConf) (table : List (LocParam Unit)) :
    (conf.setGps table).settings = conf.settings.setGps table := by
  match table with
  | [] => rfl
  | [_] => rfl
  | _ :: _ :: _ => rfl

/-- What is read for the settings does not depend on the processes that have been read. -/
lemma settings_withFeatures (sys : LocSystem) (conf : LocLauncherConf)
    (features : List (List Char × List Char)) :
    (conf.withFeatures sys features).settings = conf.settings.withFeatures sys features := by
  have hgps : (conf.readGps sys).settings = conf.settings.readGps sys := by
    have htable : conf.settings.gpsConfParameterTable = conf.gpsConfParameterTable := rfl
    rw [LocLauncherConf.readGps, LocLauncherConf.readGps, htable]
    cases readConf sys.gpsConf conf.gpsConfParameterTable with
    | none => rfl
    | some table => exact settings_setGps conf table
  rw [LocLauncherConf.withFeatures, LocLauncherConf.withFeatures, ← hgps]
  rfl

/-- `gps.conf` can always be read: it has no strings. -/
lemma readConf_gps (sys : LocSystem) (conf : LocLauncherConf) :
    ∃ table, readConf sys.gpsConf conf.gpsConfParameterTable = some table ∧
      conf.readGps sys = conf.setGps table := by
  have hread : ∃ table, readConf sys.gpsConf conf.gpsConfParameterTable = some table := by
    cases hgps : sys.gpsConf with
    | none => exact ⟨_, rfl⟩
    | some gpsText =>
        have hset : ∀ e ∈ conf.gpsConfParameterTable, e.Settable := by
          intro e he
          rw [List.mem_singleton.mp he]
          exact settable_intParam _
        have hnot : ∀ item ∈ withKeys ["SGLTE_TARGET".toList]
            ((fgetsAll (locMaxParamLine - 2) gpsText).filterMap confItem),
            ∀ e ∈ conf.gpsConfParameterTable, ¬ e.Overflows item := by
          intro item _ e he hover
          rw [List.mem_singleton.mp he] at hover
          exact absurd (show 'n' = 's' from hover.2.1) (by decide)
        have hnum : conf.gpsConfParameterTable.length < 2 ^ 32 := show 1 < 2 ^ 32 by decide
        obtain ⟨rest, hrest, -⟩ := readConfR_eq (List.nodup_singleton _) rfl hnum hset hnot
        rw [readConf, hrest]
        exact ⟨_, rfl⟩
  obtain ⟨table, htable⟩ := hread
  refine ⟨table, htable, ?_⟩
  rw [LocLauncherConf.readGps, htable]
  rfl

/-- The settings are what `gps.conf` and the features in the file say. -/
lemma readSettings_eq (sys : LocSystem) (conf : LocLauncherConf) (hshort : ShortLines text)
    (hfit : ValuesFit (fileItems text)) :
    conf.readSettings sys (some text) = some (conf.withFeatures sys (featureItems text)) := by
  obtain ⟨table, htable, hgps⟩ := readConf_gps sys conf
  have hitems := filterMap_fgetsAll hshort
  have hnot : ∀ item ∈ withKeys featureKeys ((fgetsAll (locMaxParamLine - 2) text).filterMap
      confItem), ∀ e ∈ (conf.setGps table).locFeatureConfTable, ¬ e.Overflows item := by
    intro item hitem
    rw [hitems] at hitem
    exact not_overflows (stringNames_feature _) (hfit item (List.mem_of_mem_filter hitem))
  obtain ⟨rest, hread, -⟩ := readConfR_eq nodup_featureKeys
    (paramName_locFeatureConfTable (conf.setGps table))
    (show featureKeys.length < 2 ^ 32 by decide) (settable_locFeatureConfTable _) hnot
  rw [LocLauncherConf.readSettings, htable]
  simp only [readConf]
  rw [hread, hitems, LocLauncherConf.withFeatures, hgps]
  rfl

/-- What the second pass makes of a file with these items. -/
def fileProcesses (sys : LocSystem) (conf : LocLauncherConf)
    (items : List (List Char × List Char)) : List LocProcessInfo × LocLauncherConf :=
  let conf := conf.withFeatures sys (withKeys featureKeys items)
  processesOf sys conf.locServiceMask ((withKeys [nameKey] items).length % 2 ^ 8)
    (withKeys processKeys items) conf.clearName

/-- **The function** on a file in which no string is too long and every name is one: as many
processes as names, and nine parameters for each. -/
theorem locReadProcessConf_eq (sys : LocSystem) (conf : LocLauncherConf)
    (hshort : ShortLines text) (hfit : ValuesFit (fileItems text))
    (hnames : Names (withKeys [nameKey] (fileItems text))) :
    locReadProcessConf sys conf (some text) =
      some ⟨0, (fileProcesses sys conf (fileItems text)).1,
        (fileProcesses sys conf (fileItems text)).2⟩ := by
  have hitems := filterMap_fgetsAll hshort
  have hrounds : (withKeys [nameKey] (fileItems text)).length <
      (fgetsAll (locMaxParamLine - 2) text).length + 1 := by
    rw [← hitems]
    exact Nat.lt_succ_of_le ((List.length_filter_le _ _).trans (List.length_filterMap_le _ _))
  have hprocess : ValuesFit (processItems text) := fun item hitem =>
    hfit item (List.mem_of_mem_filter hitem)
  rw [locReadProcessConf, readSettings_eq sys conf hshort hfit]
  simp only
  rw [countLoop_eq (hitems ▸ rfl) hnames hrounds (by decide), Nat.zero_add]
  simp only
  rw [processLoop_eq sys _ (hitems ▸ rfl) hprocess]
  rfl

end Files

/-! ## Blocks -/

/-- The parameters of one process: a name, and then others, none of them twice. -/
structure ProcessBlock where
  name : List Char
  others : List (List Char × List Char)
  name_ne : name ≠ [] ∧ name ≠ "NULL".toList
  keys : ∀ item ∈ others, item.1 ∈ processKeys.tail
  nodup : (others.map Prod.fst).Nodup

namespace ProcessBlock

variable (b : ProcessBlock)

def items : List (List Char × List Char) := (nameKey, b.name) :: b.others

/-- All parameters are there. -/
def Complete : Prop := ∀ key ∈ processKeys, key ∈ b.items.map Prod.fst

/-- One of the parameters is missing that a process needs. -/
def MissesRequired : Prop := ∃ key ∈ requiredKeys, key ∉ b.items.map Prod.fst

instance : Decidable b.Complete :=
  inferInstanceAs (Decidable (∀ key ∈ processKeys, key ∈ b.items.map Prod.fst))

instance : Decidable b.MissesRequired :=
  inferInstanceAs (Decidable (∃ key ∈ requiredKeys, key ∉ b.items.map Prod.fst))

/-- What the block makes of a process on a device with these settings. -/
def process (sys : LocSystem) (settings : LocLauncherConf) : LocProcessInfo :=
  ((settings.settings.fill b.items).launch sys settings.locServiceMask).1

end ProcessBlock

/-- The text has these blocks, one after the other, and whatever is not about processes. -/
def MadeOf (text : List Char) (blocks : List ProcessBlock) : Prop :=
  ShortLines text ∧ processItems text = blocks.flatMap ProcessBlock.items

section Blocks

variable {text : List Char} {b : ProcessBlock} {blocks : List ProcessBlock}
  {sys : LocSystem} {conf : LocLauncherConf}

lemma ProcessBlock.mem_keys (b : ProcessBlock) :
    ∀ key ∈ b.items.map Prod.fst, key ∈ processKeys := by
  intro key hkey
  obtain ⟨item, hitem, rfl⟩ := List.mem_map.mp hkey
  rcases List.mem_cons.mp hitem with rfl | hitem
  · exact List.mem_cons_self
  · exact List.mem_cons_of_mem nameKey (b.keys item hitem)

lemma ProcessBlock.nodup_items (b : ProcessBlock) : (b.items.map Prod.fst).Nodup := by
  refine List.nodup_cons.mpr ⟨fun hmem => ?_, b.nodup⟩
  obtain ⟨item, hitem, hname⟩ := List.mem_map.mp hmem
  have hkey : item.1 = nameKey := hname
  have htail : nameKey ∈ processKeys.tail := hkey ▸ b.keys item hitem
  exact (List.nodup_cons.mp nodup_processKeys).1 htail

lemma ProcessBlock.length_items_le (b : ProcessBlock) : b.items.length ≤ processKeys.length := by
  have hle := (List.subperm_of_subset b.nodup_items b.mem_keys).length_le
  rwa [List.length_map] at hle

lemma ProcessBlock.length_items (h : b.Complete) : b.items.length = processKeys.length := by
  have hle := (List.subperm_of_subset nodup_processKeys h).length_le
  rw [List.length_map] at hle
  exact Nat.le_antisymm b.length_items_le hle

/-- Each block has one name. -/
lemma names_blocks (blocks : List ProcessBlock) :
    withKeys [nameKey] (blocks.flatMap ProcessBlock.items) =
      blocks.map fun b => (nameKey, b.name) := by
  induction blocks with
  | nil => rfl
  | cons b blocks ih =>
      have hothers : withKeys [nameKey] b.others = [] := by
        refine List.filter_eq_nil_iff.mpr fun item hitem hname => ?_
        have htail := b.keys item hitem
        rw [List.mem_singleton.mp (of_decide_eq_true hname)] at htail
        exact (List.nodup_cons.mp nodup_processKeys).1 htail
      have hself : withKeys [nameKey] b.items = [(nameKey, b.name)] := by
        rw [ProcessBlock.items, withKeys, List.filter_cons_of_pos (by simp)]
        exact congrArg _ hothers
      have happend : withKeys [nameKey] (b.items ++ blocks.flatMap ProcessBlock.items) =
          withKeys [nameKey] b.items ++ withKeys [nameKey] (blocks.flatMap ProcessBlock.items) :=
        List.filter_append _ _
      rw [List.flatMap_cons, happend, hself, ih]
      rfl

lemma names_processItems (text : List Char) :
    withKeys [nameKey] (processItems text) = withKeys [nameKey] (fileItems text) := by
  rw [processItems, withKeys, withKeys, withKeys, List.filter_filter]
  refine List.filter_congr fun item _ => ?_
  by_cases hname : item.1 ∈ [nameKey]
  · have hkey : item.1 ∈ processKeys := by
      rw [List.mem_singleton.mp hname]
      exact List.mem_cons_self
    simp only [hname, hkey, decide_true, Bool.and_self]
  · simp only [hname, decide_false, Bool.false_and]

/-- Nine parameters are read of a block that has all of them, and nothing is left in `conf` of the
blocks before it. -/
theorem processesOf_complete (sys : LocSystem) (serviceMask : BitVec 32) (conf : LocLauncherConf)
    (hall : ∀ b ∈ blocks, b.Complete) :
    (processesOf sys serviceMask blocks.length (blocks.flatMap ProcessBlock.items) conf).1 =
      blocks.map fun b => ((conf.settings.fill b.items).launch sys serviceMask).1 := by
  induction blocks generalizing conf with
  | nil => rfl
  | cons b blocks ih =>
      have hb := hall b List.mem_cons_self
      have htake : (b.items ++ blocks.flatMap ProcessBlock.items).take processKeys.length =
          b.items := by
        rw [← ProcessBlock.length_items hb, List.take_left]
      have hdrop : (b.items ++ blocks.flatMap ProcessBlock.items).drop processKeys.length =
          blocks.flatMap ProcessBlock.items := by
        rw [← ProcessBlock.length_items hb, List.drop_left]
      have hlater := ih ((conf.fill b.items).launch sys serviceMask).2
        fun b' hb' => hall b' (List.mem_cons_of_mem b hb')
      rw [settings_launch, settings_fill] at hlater
      rw [List.length_cons, List.flatMap_cons, processesOf, htake, hdrop, List.map_cons]
      simp only
      rw [hlater, fill_settings b.nodup_items hb]

/-- When no process has been read before, there is nothing in `conf` but the settings. -/
lemma clearName_withFeatures (hconf : conf = conf.settings)
    (features : List (List Char × List Char)) :
    (conf.withFeatures sys features).clearName = (conf.withFeatures sys features).settings := by
  have hsettings : conf.withFeatures sys features = (conf.withFeatures sys features).settings := by
    rw [settings_withFeatures, ← hconf]
  rw [hsettings]
  rfl

/-- A block that is the first to be read finds the settings in `conf`, and nothing else. -/
lemma processesOf_first (sys : LocSystem) (b : ProcessBlock) (hconf : conf = conf.settings)
    (features : List (List Char × List Char)) :
    (processesOf sys (conf.withFeatures sys features).locServiceMask 1 b.items
        (conf.withFeatures sys features).clearName).1 =
      [b.process sys (conf.withFeatures sys features)] := by
  rw [processesOf, List.take_of_length_le b.length_items_le, clearName_withFeatures hconf]
  rfl

lemma MadeOf.names (hmade : MadeOf text blocks) :
    withKeys [nameKey] (fileItems text) = blocks.map fun b => (nameKey, b.name) := by
  rw [← names_processItems, hmade.2, names_blocks]

lemma MadeOf.good_names (hmade : MadeOf text blocks) (hfit : ValuesFit (fileItems text)) :
    Names (withKeys [nameKey] (fileItems text)) := by
  intro item hitem
  have hlength := hfit item (List.mem_of_mem_filter hitem)
  rw [hmade.names] at hitem
  obtain ⟨b, -, rfl⟩ := List.mem_map.mp hitem
  exact ⟨b.name_ne.1, b.name_ne.2, hlength (stringNames_process {} List.mem_cons_self)⟩

/-- Each process is what its own block makes of it where all blocks have all parameters, and where
there is only one block and nothing has been read before it. -/
lemma fileProcesses_blocks (sys : LocSystem) (conf : LocLauncherConf) (hmade : MadeOf text blocks)
    (hlt : blocks.length < 256)
    (hcond : (∀ b ∈ blocks, b.Complete) ∨ (blocks.length = 1 ∧ conf = conf.settings)) :
    (fileProcesses sys conf (fileItems text)).1 =
      blocks.map fun b => b.process sys (conf.withFeatures sys (featureItems text)) := by
  have hmod : (withKeys [nameKey] (fileItems text)).length % 2 ^ 8 = blocks.length := by
    rw [hmade.names, List.length_map]
    exact Nat.mod_eq_of_lt hlt
  have hitems : withKeys processKeys (fileItems text) = blocks.flatMap ProcessBlock.items := hmade.2
  rw [fileProcesses, hmod, hitems]
  rcases hcond with hall | ⟨hone, hconf⟩
  · exact processesOf_complete sys _ _ hall
  · obtain ⟨b, rfl⟩ := List.length_eq_one_iff.mp hone
    rw [List.flatMap_singleton]
    exact processesOf_first sys b hconf (featureItems text)

/-- **Blocks and processes.**  Where no string is too long, the function returns as many processes
as there are blocks exactly when the blocks are less than 256.  Then each process is what its own
block makes of it if all blocks have all parameters, or if there is only one block and no process
has been read before; and a block without a parameter that a process needs leaves the process
disabled. -/
theorem processInfoTable_eq (sys : LocSystem) (conf : LocLauncherConf) (hmade : MadeOf text blocks)
    (hfit : ValuesFit (fileItems text)) :
    ∃ table conf', locReadProcessConf sys conf (some text) = some ⟨0, table, conf'⟩ ∧
      (table.length = blocks.length ↔ blocks.length < 256) ∧
      (blocks.length < 256 →
        (∀ b ∈ blocks, b.Complete) ∨ (blocks.length = 1 ∧ conf = conf.settings) →
        table = blocks.map fun b => b.process sys (conf.withFeatures sys (featureItems text))) ∧
      ∀ b ∈ blocks, b.MissesRequired →
        (b.process sys (conf.withFeatures sys (featureItems text))).procStatus = .DISABLED := by
  refine ⟨_, _, locReadProcessConf_eq sys conf hmade.1 hfit (hmade.good_names hfit), ?_,
    fun hlt hcond => fileProcesses_blocks sys conf hmade hlt hcond, fun b _ hmisses => ?_⟩
  · rw [fileProcesses, length_processesOf, hmade.names, List.length_map]
    exact Nat.mod_eq_iff_lt (by decide)
  · have hmiss : ((conf.withFeatures sys (featureItems text)).settings.fill
        b.items).missesRequired = true := missesRequired_fill hmisses
    rw [ProcessBlock.process, LocLauncherConf.launch, if_pos hmiss]

end Blocks

/-! ## Two files -/

section Examples

/-- A device without `gps.conf` and without users. -/
def plainDevice : LocSystem := ⟨none, "msm8996".toList, "msm".toList, [], fun _ => none⟩

/-- All parameters but the arguments, which no process needs. -/
def plainBlock : ProcessBlock :=
  ⟨['a'],
    [("PROCESS_STATE".toList, "ENABLED".toList), ("PROCESS_GROUPS".toList, ['g']),
      ("PREMIUM_FEATURE".toList, ['0']), ("IZAT_FEATURE_MASK".toList, ['0']),
      ("PLATFORMS".toList, ['a', 'l', 'l']), ("BASEBAND".toList, ['a', 'l', 'l']),
      ("HARDWARE_TYPE".toList, ['a', 'l', 'l'])],
    by decide, by decide +kernel, by decide +kernel⟩

def plainLines : List (List Char) :=
  ["PROCESS_NAME=a".toList, "PROCESS_STATE=ENABLED".toList, "PROCESS_GROUPS=g".toList,
    "PREMIUM_FEATURE=0".toList, "IZAT_FEATURE_MASK=0".toList, "PLATFORMS=all".toList,
    "BASEBAND=all".toList, "HARDWARE_TYPE=all".toList]

/-- Nothing but a name. -/
def nameBlock : ProcessBlock := ⟨['b'], [], by decide, by decide, by decide⟩

def nameLines : List (List Char) := ["PROCESS_NAME=b".toList]

/-- The lines are those of the blocks, without features, and what is launched has these names. -/
def PlainFile (lines : List (List Char)) (blocks : List ProcessBlock)
    (launched : List (List Char)) : Prop :=
  MadeOf (unlines lines []) blocks ∧ ValuesFit (fileItems (unlines lines [])) ∧
    featureItems (unlines lines []) = [] ∧
    Names (withKeys [nameKey] (fileItems (unlines lines []))) ∧
    (fileProcesses plainDevice {} (fileItems (unlines lines []))).1.map LocProcessInfo.name =
      launched

instance (lines : List (List Char)) (blocks : List ProcessBlock) (launched : List (List Char)) :
    Decidable (PlainFile lines blocks launched) :=
  inferInstanceAs (Decidable ((_ ∧ _) ∧ _ ∧ _ ∧ _ ∧ _))

lemma plainFiles : PlainFile plainLines [plainBlock] [['a']] ∧
    PlainFile (plainLines ++ nameLines) [plainBlock, nameBlock] [['b'], ['b']] := by
  decide +kernel

/-- A file with one block. -/
theorem plain_processInfoTable : ∃ conf',
    locReadProcessConf plainDevice {} (some (unlines plainLines [])) =
      some ⟨0, [plainBlock.process plainDevice (({} : LocLauncherConf).withFeatures plainDevice
        (featureItems (unlines plainLines [])))], conf'⟩ := by
  obtain ⟨hmade, hfit, -⟩ := plainFiles.1
  obtain ⟨table, conf', hread, -, htable, -⟩ := processInfoTable_eq plainDevice {} hmade hfit
  rw [htable (by decide) (.inr ⟨rfl, rfl⟩)] at hread
  exact ⟨conf', hread⟩

/-- No function of a block says what becomes of it: a block with all parameters but one is launched
under its own name where it stands alone, and under the name of the block behind it where there is
one. -/
theorem not_exists_processOf :
    ¬ ∃ processOf : ProcessBlock → LocProcessInfo, ∀ text blocks, MadeOf text blocks →
      ValuesFit (fileItems text) → featureItems text = [] →
      ∃ conf', locReadProcessConf plainDevice {} (some text) =
        some ⟨0, blocks.map processOf, conf'⟩ := by
  rintro ⟨processOf, h⟩
  have hlaunched : ∀ (lines : List (List Char)) (blocks : List ProcessBlock) launched,
      PlainFile lines blocks launched →
      (blocks.map processOf).map LocProcessInfo.name = launched := by
    rintro lines blocks launched ⟨hmade, hfit, hfeatures, hnames, rfl⟩
    obtain ⟨conf', hconf⟩ := h _ blocks hmade hfit hfeatures
    rw [locReadProcessConf_eq plainDevice {} hmade.1 hfit hnames] at hconf
    exact congrArg (fun r => r.processInfoTable.map LocProcessInfo.name)
      (Option.some.inj hconf).symm
  have hname : (processOf plainBlock).name = ['a'] :=
    (List.cons.inj (hlaunched _ _ _ plainFiles.1)).1
  have hnext : (processOf plainBlock).name = ['b'] :=
    (List.cons.inj (hlaunched _ _ _ plainFiles.2)).1
  exact absurd (hname.symm.trans hnext) (by decide)

end Examples

end LocHal
