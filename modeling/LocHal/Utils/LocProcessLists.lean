import LocHal.Utils.LocProcessBlocks
import Mathlib.Data.List.ReduceOption

/-!
# Lists of names in a process configuration (`gps/utils/loc_cfg.cpp`)

Which groups a process gets, and on which devices it is launched, is written as lists of names with
single spaces between them.  `loc_util_split_string` takes a list apart, and no more names of it
than there is room for.

`groups_iff`: the identities of the groups are where they are counted exactly when no known group
stands behind an unknown one, the root group apart.  `enabled_iff`: where what is read for a process
is what its block says, the process is enabled by its lists as far as their first twenty names go,
and by its features.  `readAs_of_complete`: that is so of every block up to the first that leaves a
parameter out.
-/

namespace LocHal

/-! ## Splitting -/

section Splitting

variable {name : List Char} {names : List (List Char)}

/-- The names with single spaces between them. -/
def joined : List (List Char) → List Char
  | [] => []
  | [name] => name
  | name :: names => name ++ ' ' :: joined names

/-- There are names, and none has a space in it. -/
def AreNames (names : List (List Char)) : Prop := names ≠ [] ∧ ∀ name ∈ names, ' ' ∉ name

instance (names : List (List Char)) : Decidable (AreNames names) :=
  inferInstanceAs (Decidable (_ ∧ ∀ name ∈ names, _))

lemma joined_eq_intercalate (names : List (List Char)) :
    joined names = [' '].intercalate names := by
  induction names with
  | nil => rfl
  | cons name names ih =>
      cases names with
      | nil => rw [List.intercalate_singleton, joined]
      | cons name' names =>
          have hjoined : joined (name :: name' :: names) = name ++ ' ' :: joined (name' :: names) :=
            rfl
          rw [hjoined, ih, List.intercalate_cons_cons, List.append_assoc, List.singleton_append]

/-- **Splitting** gives the names back, as many as are asked for. -/
theorem locUtilSplitString_joined (h : AreNames names) (n : ℕ) :
    locUtilSplitString (joined names) (n + 1) ' ' = names.take (n + 1) := by
  rw [locUtilSplitString_eq _ (Nat.succ_pos n), joined_eq_intercalate,
    List.splitOn_intercalate ' ' h.2 h.1]

end Splitting

/-! ## Groups -/

section Groups

variable {gids : List (Option ℕ)}

/-- No known group but that of root stands behind an unknown one. -/
def KnownFirst (gids : List (Option ℕ)) : Prop :=
  gids.Pairwise fun gid gid' => gid = none → gid'.getD 0 = 0

instance (gids : List (Option ℕ)) : Decidable (KnownFirst gids) :=
  inferInstanceAs (Decidable (gids.Pairwise _))

/-- The array as it is filled holds, where the known groups are counted, what they are. -/
def GroupsInPlace (gids : List (Option ℕ)) : Prop :=
  ((fillArray (gids.map (Option.getD · 0)) (List.replicate locProcessMaxNumGroups 0)).take
    (gids.countP Option.isSome)) = gids.reduceOption

/-- Behind zeros the known groups stand in the wrong places, unless all of them are zero. -/
lemma take_zeros_eq_iff (zeros : ℕ) (gids : List (Option ℕ)) :
    (List.replicate (zeros + 1) 0 ++ gids.map (Option.getD · 0)).take (gids.countP Option.isSome) =
        gids.reduceOption ↔
      ∀ gid ∈ gids, gid.getD 0 = 0 := by
  induction gids generalizing zeros with
  | nil => simp
  | cons gid gids ih =>
      have hmove : ∀ n : ℕ, List.replicate n 0 ++ 0 :: gids.map (Option.getD · 0) =
          List.replicate (n + 1) 0 ++ gids.map (Option.getD · 0) := by
        intro n
        rw [List.replicate_succ', List.append_assoc, List.singleton_append]
      rw [List.forall_mem_cons, List.map_cons]
      cases gid with
      | none =>
          rw [Option.getD_none, hmove, List.countP_cons_of_neg (by simp),
            List.reduceOption_cons_of_none, ih (zeros + 1), and_iff_right rfl]
      | some gid =>
          rw [Option.getD_some, List.countP_cons_of_pos rfl, List.reduceOption_cons_of_some,
            List.replicate_succ, List.cons_append, List.take_succ_cons, List.cons.injEq]
          constructor
          · rintro ⟨rfl, htake⟩
            rw [hmove] at htake
            exact ⟨rfl, (ih zeros).mp htake⟩
          · rintro ⟨rfl, hall⟩
            rw [hmove]
            exact ⟨rfl, (ih zeros).mpr hall⟩

/-- **The array of groups**, of which as many places count as groups are known. -/
theorem groupsInPlace_iff (gids : List (Option ℕ)) : GroupsInPlace gids ↔ KnownFirst gids := by
  have harray : (fillArray (gids.map (Option.getD · 0))
        (List.replicate locProcessMaxNumGroups 0)).take (gids.countP Option.isSome) =
      (gids.map (Option.getD · 0)).take (gids.countP Option.isSome) := by
    rw [fillArray, List.take_append_of_le_length]
    rw [List.length_map]
    exact List.countP_le_length
  rw [GroupsInPlace, harray]
  clear harray
  induction gids with
  | nil => simp [KnownFirst]
  | cons gid gids ih =>
      rw [KnownFirst, List.pairwise_cons]
      cases gid with
      | none =>
          have hzero := take_zeros_eq_iff 0 gids
          rw [List.map_cons, Option.getD_none, List.countP_cons_of_neg (by simp),
            List.reduceOption_cons_of_none]
          refine hzero.trans ⟨fun hall => ⟨fun gid hgid _ => hall gid hgid, ?_⟩,
            fun h gid hgid => h.1 gid hgid rfl⟩
          exact List.pairwise_of_forall_mem_list fun _ _ gid' hgid' _ => hall gid' hgid'
      | some gid =>
          rw [List.map_cons, Option.getD_some, List.countP_cons_of_pos rfl,
            List.reduceOption_cons_of_some, List.take_succ_cons, List.cons.injEq, and_iff_right rfl,
            and_iff_right fun _ _ hnone => absurd hnone (Option.some_ne_none gid)]
          exact ih

end Groups

/-! ## Selection -/

section Selection

variable {name : List Char} {listed : List Char → Bool} {names : List (List Char)}
  {P : Prop} {all found check bits : BitVec 8}

/-- A list selects the device: it is for all, or for all but some of which this device is none, or
it has a name that stands for the device. -/
def Selects (name : List Char) (listed : List Char → Bool) (names : List (List Char)) : Prop :=
  names = ["all".toList] ∨ names = ["all".toList, "exclude".toList] ∨
    (∃ excluded, excluded ≠ [] ∧ names = "all".toList :: "exclude".toList :: excluded ∧
      name ∉ excluded) ∨
    (names.head? ≠ some "all".toList ∧ ∃ n ∈ names, listed n = true)

/-- A list that has no way to exclude a device. -/
def SelectsHardware (name : List Char) (names : List (List Char)) : Prop :=
  names.head? = some "all".toList ∨ name ∈ names

/-- A list that does not start with `all` selects by its names. -/
lemma selects_cons_iff {first : List Char} (h : first ≠ "all".toList) (others : List (List Char)) :
    Selects name listed (first :: others) ↔ (first :: others).any listed = true := by
  rw [List.any_eq_true]
  constructor
  · rintro (heq | heq | ⟨excluded, -, heq, -⟩ | hlisted)
    · exact absurd (List.cons.inj heq).1 h
    · exact absurd (List.cons.inj heq).1 h
    · exact absurd (List.cons.inj heq).1 h
    · exact hlisted.2
  · intro hlisted
    exact .inr (.inr (.inr ⟨fun hhead => h (Option.some.inj hhead), hlisted⟩))

/-- A list that starts with `all` and goes on selects by what it excludes. -/
lemma selects_all_iff (second : List Char) (excluded : List (List Char)) :
    Selects name listed ("all".toList :: second :: excluded) ↔
      second = "exclude".toList ∧ name ∉ excluded := by
  constructor
  · rintro (heq | heq | ⟨excluded', -, heq, hnot⟩ | ⟨hhead, -⟩)
    · exact absurd (List.cons.inj heq).2 (List.cons_ne_nil _ _)
    · obtain ⟨hsecond, hnil⟩ := List.cons.inj (List.cons.inj heq).2
      exact ⟨hsecond, hnil ▸ List.not_mem_nil⟩
    · obtain ⟨hsecond, hexcluded⟩ := List.cons.inj (List.cons.inj heq).2
      exact ⟨hsecond, hexcluded ▸ hnot⟩
    · exact absurd rfl hhead
  · rintro ⟨rfl, hnot⟩
    cases excluded with
    | nil => exact .inr (.inl rfl)
    | cons e excluded => exact .inr (.inr (.inl ⟨e :: excluded, List.cons_ne_nil e _, rfl, hnot⟩))

/-- One of two bits is set, or neither, by what `P` says. -/
def SetFor (P : Prop) (all found bits : BitVec 8) : Prop :=
  (P ∧ (bits = all ∨ bits = found)) ∨ (¬ P ∧ bits = 0)

/-- **The bits of a list** are set exactly when the list selects the device. -/
theorem setFor_listMask (all found : BitVec 8) (name : List Char) (listed : List Char → Bool)
    (names : List (List Char)) :
    SetFor (Selects name listed names) all found (listMask all found name listed names) := by
  match names with
  | [] =>
      refine .inr ⟨?_, rfl⟩
      rintro (h | h | ⟨_, _, h, _⟩ | ⟨_, n, hn, _⟩)
      · exact List.cons_ne_nil _ _ h.symm
      · exact List.cons_ne_nil _ _ h.symm
      · exact List.cons_ne_nil _ _ h.symm
      · exact List.not_mem_nil hn
  | first :: others =>
      by_cases hall : first = "all".toList
      · subst hall
        match others with
        | [] => exact .inl ⟨.inl rfl, .inl rfl⟩
        | second :: excluded =>
            rw [SetFor, selects_all_iff, listMask, if_pos rfl]
            by_cases hexclude : second = "exclude".toList
            · rw [if_neg (not_not_intro hexclude)]
              by_cases hname : name ∈ excluded
              · have hnil : excluded ≠ [] := List.ne_nil_of_mem hname
                rw [if_neg hnil, if_pos hname]
                exact .inr ⟨fun h => h.2 hname, rfl⟩
              · rw [if_neg hname]
                refine .inl ⟨⟨hexclude, hname⟩, ?_⟩
                split
                · exact .inl rfl
                · exact .inr rfl
            · exact .inr ⟨fun h => hexclude h.1, if_pos hexclude⟩
      · have hmask : listMask all found name listed (first :: others) =
            if (first :: others).any listed then found else 0 := if_neg hall
        rw [SetFor, selects_cons_iff hall, hmask]
        by_cases hany : (first :: others).any listed = true
        · exact .inl ⟨hany, .inr (if_pos hany)⟩
        · exact .inr ⟨hany, if_neg hany⟩

lemma setFor_hardware (name : List Char) (names : List (List Char)) :
    SetFor (SelectsHardware name names) configMaskAutoplatformAll configMaskAutoplatformFound
      (if names.head? = some "all".toList then configMaskAutoplatformAll
        else if name ∈ names then configMaskAutoplatformFound else 0) := by
  by_cases hall : names.head? = some "all".toList
  · rw [if_pos hall]
    exact .inl ⟨.inl hall, .inl rfl⟩
  · rw [if_neg hall]
    by_cases hname : name ∈ names
    · rw [if_pos hname]
      exact .inl ⟨.inr hname, .inr rfl⟩
    · rw [if_neg hname]
      exact .inr ⟨not_or_intro hall hname, rfl⟩

lemma SetFor.and_ne_zero_iff (h : SetFor P all found bits) (hall : all &&& check ≠ 0)
    (hfound : found &&& check ≠ 0) : bits &&& check ≠ 0 ↔ P := by
  rcases h with ⟨hP, rfl | rfl⟩ | ⟨hP, rfl⟩
  · exact iff_of_true hall hP
  · exact iff_of_true hfound hP
  · exact iff_of_false (not_not_intro BitVec.zero_and) hP

lemma SetFor.and_eq_zero (h : SetFor P all found bits) (check : BitVec 8)
    (hall : all &&& check = 0) (hfound : found &&& check = 0) : bits &&& check = 0 := by
  rcases h with ⟨-, rfl | rfl⟩ | ⟨-, rfl⟩
  · exact hall
  · exact hfound
  · exact BitVec.zero_and

/-- The bits of three lists in one mask. -/
lemma masks_iff {Q R : Prop} {target baseband hardware : BitVec 8}
    (htarget : SetFor P configMaskTargetAll configMaskTargetFound target)
    (hbaseband : SetFor Q configMaskBasebandAll configMaskBasebandFound baseband)
    (hhardware : SetFor R configMaskAutoplatformAll configMaskAutoplatformFound hardware) :
    ((target ||| baseband ||| hardware) &&& configMaskTargetCheck ≠ 0 ∧
        (target ||| baseband ||| hardware) &&& configMaskBasebandCheck ≠ 0 ∧
        (target ||| baseband ||| hardware) &&& configMaskAutoplatformCheck ≠ 0) ↔
      P ∧ Q ∧ R := by
  simp only [BitVec.and_or_distrib_right]
  rw [hbaseband.and_eq_zero configMaskTargetCheck (by decide) (by decide),
    hhardware.and_eq_zero configMaskTargetCheck (by decide) (by decide),
    htarget.and_eq_zero configMaskBasebandCheck (by decide) (by decide),
    hhardware.and_eq_zero configMaskBasebandCheck (by decide) (by decide),
    htarget.and_eq_zero configMaskAutoplatformCheck (by decide) (by decide),
    hbaseband.and_eq_zero configMaskAutoplatformCheck (by decide) (by decide)]
  have hor : ∀ bits : BitVec 8, bits ||| 0 = bits := fun _ => BitVec.or_zero
  have hzero : ∀ bits : BitVec 8, 0 ||| bits = bits := fun _ => BitVec.zero_or
  simp only [hor, hzero]
  rw [htarget.and_ne_zero_iff (by decide) (by decide),
    hbaseband.and_ne_zero_iff (by decide) (by decide),
    hhardware.and_ne_zero_iff (by decide) (by decide)]

variable {conf : LocLauncherConf} {sys : LocSystem}

/-- The string stands for the baseband of the device. -/
def IsBaseband (sys : LocSystem) (conf : LocLauncherConf) (s : List Char) : Prop :=
  s = sys.basebandName ∨ s = "sglte".toList ∧ conf.sglteTarget ≠ 0

instance (sys : LocSystem) (conf : LocLauncherConf) : DecidablePred (IsBaseband sys conf) :=
  fun _ => inferInstanceAs (Decidable (_ ∨ _))

/-- All three lists select the device. -/
def LocLauncherConf.SelectsDevice (conf : LocLauncherConf) (sys : LocSystem) : Prop :=
  Selects sys.platformName (fun s => s = sys.platformName) conf.platformStrings ∧
    Selects sys.basebandName (fun s => IsBaseband sys conf s) conf.basebandStrings ∧
    SelectsHardware sys.autoPlatformName conf.autoPlatformStrings

/-- **The three lists** share one mask, and each has its own bits in it. -/
theorem matchesDevice_iff (sys : LocSystem) (conf : LocLauncherConf) :
    conf.matchesDevice sys = true ↔ conf.SelectsDevice sys := by
  rw [LocLauncherConf.matchesDevice, decide_eq_true_eq]
  exact masks_iff (setFor_listMask _ _ sys.platformName _ conf.platformStrings)
    (setFor_listMask _ _ sys.basebandName _ conf.basebandStrings)
    (setFor_hardware sys.autoPlatformName conf.autoPlatformStrings)

end Selection

/-! ## One process -/

section Launch

variable {conf : LocLauncherConf} {sys : LocSystem} {serviceMask : BitVec 32}

/-- The process is looked at: nothing that it needs is missing, it is not disabled in the file, and
there is room for its name. -/
def LocLauncherConf.Launchable (conf : LocLauncherConf) : Prop :=
  conf.missesRequired = false ∧ conf.procStatus ≠ "DISABLED".toList ∧
    conf.procName.length < locMaxParamString

instance (conf : LocLauncherConf) : Decidable conf.Launchable :=
  inferInstanceAs (Decidable (_ ∧ _ ∧ _))

/-- The groups that are counted, as the process has them. -/
def LocProcessInfo.groups (p : LocProcessInfo) : List ℕ := p.groupList.take p.numGroups

/-- A process that is not looked at has no groups and is not enabled. -/
lemma launch_of_not_launchable (h : ¬ conf.Launchable) :
    (conf.launch sys serviceMask).1.numGroups = 0 ∧
      (conf.launch sys serviceMask).1.procStatus ≠ .ENABLED := by
  rw [LocLauncherConf.launch]
  by_cases hmisses : conf.missesRequired = true
  · rw [if_pos hmisses]
    exact ⟨rfl, LocProcessStatus.noConfusion⟩
  · by_cases hdisabled : conf.procStatus = "DISABLED".toList
    · rw [if_neg hmisses, if_pos hdisabled]
      exact ⟨rfl, LocProcessStatus.noConfusion⟩
    · have hlong : locMaxParamString < conf.procName.length + 1 := by
        by_contra hroom
        exact h ⟨eq_false_of_ne_true hmisses, hdisabled, by omega⟩
      rw [if_neg hmisses, if_neg hdisabled, if_pos hlong]
      exact ⟨rfl, LocProcessStatus.noConfusion⟩

/-- What a process is that is looked at. -/
lemma launch_of_launchable (sys : LocSystem) (serviceMask : BitVec 32) (h : conf.Launchable) :
    (conf.launch sys serviceMask).1.groupList =
        fillArray ((conf.groupStrings.map sys.getpwnam).map (Option.getD · 0))
          (List.replicate locProcessMaxNumGroups 0) ∧
      (conf.launch sys serviceMask).1.numGroups =
        (conf.groupStrings.map sys.getpwnam).countP Option.isSome ∧
      ((conf.launch sys serviceMask).1.procStatus = .ENABLED ↔
        conf.matchesDevice sys = true ∧ conf.enabledBy serviceMask = true) := by
  obtain ⟨hmisses, hdisabled, hroom⟩ := h
  have hlength : ¬ locMaxParamString < conf.procName.length + 1 := by omega
  rw [LocLauncherConf.launch, if_neg (Bool.not_eq_true _ ▸ hmisses), if_neg hdisabled,
    if_neg hlength]
  dsimp only
  by_cases hmatches : conf.matchesDevice sys = true
  · rw [if_pos hmatches]
    refine ⟨rfl, rfl, ?_⟩
    rw [and_iff_right hmatches]
    dsimp only
    split
    · exact iff_of_true rfl ‹_›
    · exact iff_of_false LocProcessStatus.noConfusion ‹_›
  · rw [if_neg hmatches]
    exact ⟨rfl, rfl, iff_of_false LocProcessStatus.noConfusion fun henabled => hmatches henabled.1⟩

/-- **The groups of a process** whose list names so many that there is room for all of them. -/
theorem groups_launch_iff {names : List (List Char)} (hnames : AreNames names)
    (hnum : names.length ≤ locProcessMaxNumGroups) (hvalue : conf.groupList = joined names) :
    (conf.launch sys serviceMask).1.groups = names.filterMap sys.getpwnam ↔
      if conf.Launchable then KnownFirst (names.map sys.getpwnam)
      else ∀ name ∈ names, sys.getpwnam name = none := by
  rw [LocProcessInfo.groups]
  by_cases h : conf.Launchable
  · obtain ⟨hlist, hcount, -⟩ := launch_of_launchable sys serviceMask h
    have hstrings : conf.groupStrings = names := by
      rw [LocLauncherConf.groupStrings, hvalue]
      exact (locUtilSplitString_joined hnames 19).trans (List.take_of_length_le hnum)
    rw [if_pos h, hlist, hcount, hstrings, ← groupsInPlace_iff, GroupsInPlace,
      List.reduceOption, List.filterMap_map]
    rfl
  · rw [if_neg h, (launch_of_not_launchable h).1, List.take_zero, eq_comm,
      List.filterMap_eq_nil_iff]

end Launch

/-! ## Any file -/

section Reads

variable {sys : LocSystem} {conf : LocLauncherConf} {serviceMask : BitVec 32}

/-- What stands in `conf` in each round of the second loop, when the parameters of the process have
been read. -/
def processReads (sys : LocSystem) (serviceMask : BitVec 32) :
    ℕ → List (List Char) → LocLauncherConf → List LocLauncherConf
  | 0, _, _ => []
  | rounds + 1, lines, conf =>
      match readConfR lines conf.locProcessConfParameterTable with
      | none => []
      | some (table, lines) =>
          conf.setProcess table :: processReads sys serviceMask rounds lines
            ((conf.setProcess table).launch sys serviceMask).2

/-- What `loc_read_process_conf` has read for each of the processes, and the features that are
on. -/
def fileReads (sys : LocSystem) (conf : LocLauncherConf) (confFile : Option (List Char)) :
    List LocLauncherConf × BitVec 32 :=
  match conf.readSettings sys confFile with
  | none => ([], 0)
  | some conf =>
      match confFile with
      | none => ([], conf.locServiceMask)
      | some text =>
          let lines := fgetsAll (locMaxParamLine - 2) text
          match countLoop (lines.length + 1) lines conf 0 with
          | none => ([], conf.locServiceMask)
          | some (procListLength, conf) =>
              (processReads sys conf.locServiceMask procListLength lines conf, conf.locServiceMask)

/-- The loop makes a process of all that has been read for it, and of nothing else. -/
lemma processLoop_launch {rounds : ℕ} {lines : List (List Char)}
    {r : List LocProcessInfo × LocLauncherConf}
    (h : processLoop sys serviceMask rounds lines conf = some r) :
    r.1 = (processReads sys serviceMask rounds lines conf).map
      fun read => (read.launch sys serviceMask).1 := by
  induction rounds generalizing lines conf r with
  | zero =>
      rw [← Option.some.inj h]
      rfl
  | succ rounds ih =>
      rw [processLoop] at h
      rw [processReads]
      cases hread : readConfR lines conf.locProcessConfParameterTable with
      | none =>
          rw [hread] at h
          cases h
      | some read =>
          rw [hread] at h
          obtain ⟨later, hlater, rfl⟩ := Option.map_eq_some_iff.mp h
          rw [ih hlater]
          rfl

/-- **Every process** is made of what has been read for it. -/
theorem processInfoTable_launch {confFile : Option (List Char)} {r : LocReadProcess}
    (h : locReadProcessConf sys conf confFile = some r) :
    r.processInfoTable = (fileReads sys conf confFile).1.map
      fun read => (read.launch sys (fileReads sys conf confFile).2).1 := by
  rw [locReadProcessConf] at h
  rw [fileReads]
  cases hsettings : conf.readSettings sys confFile with
  | none =>
      rw [hsettings] at h
      cases h
  | some conf' =>
      rw [hsettings] at h
      cases confFile with
      | none =>
          rw [← Option.some.inj h]
          rfl
      | some text =>
          dsimp only at h ⊢
          cases hcount : countLoop ((fgetsAll (locMaxParamLine - 2) text).length + 1)
              (fgetsAll (locMaxParamLine - 2) text) conf' 0 with
          | none =>
              rw [hcount] at h
              cases h
          | some counted =>
              rw [hcount] at h
              obtain ⟨r', hloop, rfl⟩ := Option.map_eq_some_iff.mp h
              exact processLoop_launch hloop

/-- A device with two users, one of them in the group 5. -/
def groupDevice : LocSystem :=
  ⟨none, [], [], [], fun name => if name = ['y'] then some 5 else none⟩

def groupLines (groups : List Char) : List (List Char) :=
  ["PROCESS_NAME=a".toList, "PROCESS_ARGUMENT=b".toList, "PROCESS_STATE=ENABLED".toList,
    "PROCESS_GROUPS=".toList ++ groups, "PREMIUM_FEATURE=0".toList, "IZAT_FEATURE_MASK=0".toList,
    "PLATFORMS=all".toList, "BASEBAND=all".toList, "HARDWARE_TYPE=all".toList]

/-- The file that names these groups gives one process these groups. -/
def GroupsRead (groups : List Char) (gids : List ℕ) : Prop :=
  ((locReadProcessConf groupDevice {} (some (unlines (groupLines groups) []))).map
      fun r => r.processInfoTable.map LocProcessInfo.groups) = some [gids] ∧
    (fileReads groupDevice {} (some (unlines (groupLines groups) []))).1.map
      LocLauncherConf.groupList = [groups]

instance (groups : List Char) (gids : List ℕ) : Decidable (GroupsRead groups gids) :=
  inferInstanceAs (Decidable (_ ∧ _))

lemma GroupsRead.exists {groups : List Char} {gids : List ℕ} (h : GroupsRead groups gids) :
    ∃ r p read, locReadProcessConf groupDevice {} (some (unlines (groupLines groups) [])) = some r ∧
      r.processInfoTable[0]? = some p ∧ p.groups = gids ∧
      (fileReads groupDevice {} (some (unlines (groupLines groups) []))).1[0]? = some read ∧
      read.groupList = groups := by
  obtain ⟨htable, hreads⟩ := h
  obtain ⟨r, hr, hmap⟩ := Option.map_eq_some_iff.mp htable
  obtain ⟨p, hp, hgids⟩ := List.map_eq_singleton_iff.mp hmap
  obtain ⟨read, hread, hgroups⟩ := List.map_eq_singleton_iff.mp hreads
  exact ⟨r, p, read, hr, by rw [hp]; rfl, hgids, by rw [hread]; rfl, hgroups⟩

lemma groupsRead_known : GroupsRead "y x".toList [5] := by decide +kernel

lemma groupsRead_unknown : GroupsRead "x y".toList [0] := by decide +kernel

end Reads

/-! ## Blocks -/

section Blocks

variable {text : List Char} {blocks : List ProcessBlock} {b : ProcessBlock}
  {read : LocLauncherConf}

namespace ProcessBlock

/-- Everything that a process needs is there, with a value, and the process is not disabled. -/
def Launchable (b : ProcessBlock) : Prop :=
  (∀ key ∈ requiredKeys, ∃ item ∈ b.items, item.1 = key ∧ item.2 ≠ [] ∧ item.2 ≠ "NULL".toList) ∧
    ("PROCESS_STATE".toList, "DISABLED".toList) ∉ b.items

instance (b : ProcessBlock) : Decidable b.Launchable :=
  inferInstanceAs (Decidable ((∀ key ∈ requiredKeys, ∃ item ∈ b.items, _) ∧ _))

/-- The number that the block has for a parameter, 0 when the parameter is missing. -/
def number (b : ProcessBlock) (key : List Char) : ℤ :=
  ((intParam key 0).fillAll noDoubles b.items).num

/-- The process is no premium feature, or one of its features is on. -/
def FeatureOn (b : ProcessBlock) (serviceMask : BitVec 32) : Prop :=
  b.number "PREMIUM_FEATURE".toList = 0 ∨
    BitVec.ofInt 32 (b.number "IZAT_FEATURE_MASK".toList) &&& serviceMask ≠ 0

/-- What a parameter of the block is that a process needs. -/
lemma str_required (h : b.Launchable) (hfit : ValuesFit b.items) {key : List Char}
    (hkey : key ∈ requiredKeys) :
    ∃ item ∈ b.items, item.1 = key ∧ item.2 ≠ [] ∧ item.2.length < locMaxParamString ∧
      ((stringParam key []).fillAll noDoubles b.items).str = item.2 := by
  have hstring : requiredKeys ⊆ stringKeys := by decide +kernel
  obtain ⟨item, hitem, rfl, hne, hnull⟩ := h.1 key hkey
  have hlength := hfit item hitem (hstring hkey)
  exact ⟨item, hitem, rfl, hne, hlength,
    str_fillAll_of_mem b.nodup_items hitem rfl hnull hlength⟩

/-- What the block leaves in `conf` is looked at. -/
lemma launchable_fill (h : b.Launchable) (hfit : ValuesFit b.items) :
    (read.settings.fill b.items).Launchable := by
  have hne : ∀ key ∈ requiredKeys, ((stringParam key []).fillAll noDoubles b.items).str ≠ [] := by
    intro key hkey
    obtain ⟨item, -, -, hvalue, -, hstr⟩ := str_required h hfit hkey
    exact hstr ▸ hvalue
  refine ⟨?_, ?_, ?_⟩
  · simp only [requiredKeys, List.forall_mem_cons] at hne
    obtain ⟨hname, hgroups, hplatforms, hbaseband, hstate, hhardware, -⟩ := hne
    refine decide_eq_false fun hmisses => ?_
    rcases hmisses with hnil | hnil | hnil | hnil | hnil | hnil
    · exact hname hnil
    · exact hgroups hnil
    · exact hplatforms hnil
    · exact hbaseband hnil
    · exact hstate hnil
    · exact hhardware hnil
  · obtain ⟨item, hitem, hkey, -, -, hstr⟩ := str_required h hfit
      (show "PROCESS_STATE".toList ∈ requiredKeys by decide)
    intro hdisabled
    have hvalue : item.2 = "DISABLED".toList := hstr.symm.trans hdisabled
    exact h.2 ((Prod.ext hkey hvalue : item = (_, _)) ▸ hitem)
  · obtain ⟨item, -, -, -, hlength, hstr⟩ := str_required h hfit
      (show nameKey ∈ requiredKeys by decide)
    exact lt_of_eq_of_lt (congrArg List.length hstr) hlength

/-- What has been read for a process is what the block says, as far as it does not go to the
arguments of the process. -/
def ReadAs (b : ProcessBlock) (read : LocLauncherConf) : Prop :=
  { read with procArgument := [] } = { read.settings.fill b.items with procArgument := [] }

/-- A process for which its block is read is looked at. -/
lemma ReadAs.launchable (hown : b.ReadAs read) (h : b.Launchable) (hfit : ValuesFit b.items) :
    read.Launchable := by
  -- the arguments do not say whether a process is looked at
  have hsame : LocLauncherConf.Launchable { read.settings.fill b.items with procArgument := [] } :=
    launchable_fill h hfit
  rw [← hown] at hsame
  exact hsame

/-- A list of the block that a process needs is stored as it is. -/
lemma str_of_mem (h : b.Launchable) (hfit : ValuesFit b.items) {key value : List Char}
    (hkey : key ∈ requiredKeys) (hmem : (key, value) ∈ b.items) :
    ((stringParam key []).fillAll noDoubles b.items).str = value := by
  obtain ⟨item, hitem, hname, -, -, hstr⟩ := str_required h hfit hkey
  have hitem' : item = (key, value) := List.inj_on_of_nodup_map b.nodup_items hitem hmem hname
  rw [hstr, hitem']

/-- The rule by which a process is enabled, as far as its lists go: these are the names that count
of the platforms, the basebands and the types of hardware. -/
def Rule (b : ProcessBlock) (sys : LocSystem) (settings : LocLauncherConf)
    (platforms basebands hardware : List (List Char)) : Prop :=
  Selects sys.platformName (fun s => s = sys.platformName) platforms ∧
    Selects sys.basebandName (fun s => IsBaseband sys settings s) basebands ∧
    SelectsHardware sys.autoPlatformName hardware ∧ b.FeatureOn settings.locServiceMask

/-- **What a block says** decides whether the process is enabled for which it is read, as far as
twenty names of each of the lists go. -/
theorem enabled_read_iff {sys : LocSystem} {platforms basebands hardware : List (List Char)}
    (hown : b.ReadAs read) (h : b.Launchable) (hfit : ValuesFit b.items)
    (hplatforms : AreNames platforms) (hplatform : ("PLATFORMS".toList, joined platforms) ∈ b.items)
    (hbasebands : AreNames basebands)
    (hbaseband : ("BASEBAND".toList, joined basebands) ∈ b.items)
    (hhardware : AreNames hardware)
    (htype : ("HARDWARE_TYPE".toList, joined hardware) ∈ b.items) :
    (read.launch sys read.locServiceMask).1.procStatus = .ENABLED ↔
      b.Rule sys read (platforms.take maxNumStrings) (basebands.take maxNumStrings)
        (hardware.take maxNumStrings) := by
  have hstrings : ∀ names, AreNames names →
      locUtilSplitString (joined names) maxNumStrings ' ' = names.take maxNumStrings :=
    fun names hnames => locUtilSplitString_joined hnames 19
  have hplatformStrings : read.platformStrings = platforms.take maxNumStrings := by
    rw [← hstrings platforms hplatforms, ← str_of_mem h hfit (by decide) hplatform]
    exact congrArg (fun conf => LocLauncherConf.platformStrings conf) hown
  have hbasebandStrings : read.basebandStrings = basebands.take maxNumStrings := by
    rw [← hstrings basebands hbasebands, ← str_of_mem h hfit (by decide) hbaseband]
    exact congrArg (fun conf => LocLauncherConf.basebandStrings conf) hown
  have hhardwareStrings : read.autoPlatformStrings = hardware.take maxNumStrings := by
    rw [← hstrings hardware hhardware, ← str_of_mem h hfit (by decide) htype]
    exact congrArg (fun conf => LocLauncherConf.autoPlatformStrings conf) hown
  have hpremium : read.premiumFeature = b.number "PREMIUM_FEATURE".toList :=
    congrArg (fun conf => LocLauncherConf.premiumFeature conf) hown
  have hmask : read.locFeatureMask = b.number "IZAT_FEATURE_MASK".toList :=
    congrArg (fun conf => LocLauncherConf.locFeatureMask conf) hown
  have henabled : read.enabledBy read.locServiceMask = true ↔ b.FeatureOn read.locServiceMask := by
    rw [LocLauncherConf.enabledBy, decide_eq_true_eq, hpremium, hmask]
    rfl
  rw [(launch_of_launchable sys _ (hown.launchable h hfit)).2.2, matchesDevice_iff, henabled,
    LocLauncherConf.SelectsDevice, hplatformStrings, hbasebandStrings, hhardwareStrings, and_assoc,
    and_assoc]
  rfl

end ProcessBlock

lemma MadeOf.valuesFit (hmade : MadeOf text blocks) (hfit : ValuesFit (fileItems text))
    (hb : b ∈ blocks) : ValuesFit b.items := by
  intro item hitem
  have hmem : item ∈ processItems text := hmade.2 ▸ List.mem_flatMap.mpr ⟨b, hb, hitem⟩
  exact hfit item (List.mem_of_mem_filter hmem)

/-- What stands in `conf` in each round, nine of these items for each of them. -/
def readsOf (sys : LocSystem) (serviceMask : BitVec 32) :
    ℕ → List (List Char × List Char) → LocLauncherConf → List LocLauncherConf
  | 0, _, _ => []
  | rounds + 1, items, conf =>
      let read := conf.fill (items.take processKeys.length)
      read :: readsOf sys serviceMask rounds (items.drop processKeys.length)
        (read.launch sys serviceMask).2

lemma processReads_eq (sys : LocSystem) (serviceMask : BitVec 32) {rounds : ℕ}
    {lines : List (List Char)} {items : List (List Char × List Char)} {conf : LocLauncherConf}
    (hitems : withKeys processKeys (lines.filterMap confItem) = items) (hfit : ValuesFit items) :
    processReads sys serviceMask rounds lines conf =
      readsOf sys serviceMask rounds items conf := by
  induction rounds generalizing lines items conf with
  | zero => rfl
  | succ rounds ih =>
      subst hitems
      obtain ⟨rest, hread, hrest⟩ := readConfR_process conf hfit
      have hlater : ValuesFit ((withKeys processKeys (lines.filterMap confItem)).drop
          processKeys.length) := fun item hitem => hfit item (List.mem_of_mem_drop hitem)
      rw [processReads, hread]
      simp only
      rw [ih hrest hlater]
      rfl

/-- **What is read** for the processes of a file in which no string is too long and every name is
one. -/
theorem fileReads_eq (sys : LocSystem) (conf : LocLauncherConf)
    (hshort : ShortLines text) (hfit : ValuesFit (fileItems text))
    (hnames : Names (withKeys [nameKey] (fileItems text))) :
    fileReads sys conf (some text) =
      (readsOf sys (conf.withFeatures sys (featureItems text)).locServiceMask
        ((withKeys [nameKey] (fileItems text)).length % 2 ^ 8) (processItems text)
        (conf.withFeatures sys (featureItems text)).clearName,
      (conf.withFeatures sys (featureItems text)).locServiceMask) := by
  have hitems := filterMap_fgetsAll hshort
  have hrounds : (withKeys [nameKey] (fileItems text)).length <
      (fgetsAll (locMaxParamLine - 2) text).length + 1 := by
    rw [← hitems]
    exact Nat.lt_succ_of_le ((List.length_filter_le _ _).trans (List.length_filterMap_le _ _))
  have hprocess : ValuesFit (processItems text) := fun item hitem =>
    hfit item (List.mem_of_mem_filter hitem)
  rw [fileReads, readSettings_eq sys conf hshort hfit]
  simp only
  rw [countLoop_eq (hitems ▸ rfl) hnames hrounds (by decide), Nat.zero_add]
  simp only
  rw [processReads_eq sys _ (hitems ▸ rfl) hprocess]
  rfl

/-- The settings are the same for all processes. -/
lemma settings_of_mem_readsOf {sys : LocSystem} {serviceMask : BitVec 32} {rounds : ℕ}
    {items : List (List Char × List Char)} {conf : LocLauncherConf}
    (h : read ∈ readsOf sys serviceMask rounds items conf) : read.settings = conf.settings := by
  induction rounds generalizing items conf with
  | zero => cases h
  | succ rounds ih =>
      rcases List.mem_cons.mp h with rfl | h
      · rfl
      · rw [ih h, settings_launch, settings_fill]

/-- A block that is read where all that stands before it has been read, and no more, is read as it
is when nothing of it is missing. -/
lemma ProcessBlock.readAs_fill {conf : LocLauncherConf} (h : b.Complete) :
    b.ReadAs (conf.fill b.items) := by
  rw [ProcessBlock.ReadAs, settings_fill, fill_settings b.nodup_items h]

lemma take_items_append (h : b.Complete) (items : List (List Char × List Char)) :
    (b.items ++ items).take processKeys.length = b.items ∧
      (b.items ++ items).drop processKeys.length = items := by
  rw [← ProcessBlock.length_items h]
  exact ⟨List.take_left, List.drop_left⟩

lemma readsOf_complete (sys : LocSystem) (serviceMask : BitVec 32) {rounds j : ℕ}
    {conf : LocLauncherConf} (hb : blocks[j]? = some b) (hj : j < rounds)
    (hall : ∀ b ∈ blocks.take (j + 1), b.Complete) :
    ∃ read, (readsOf sys serviceMask rounds (blocks.flatMap ProcessBlock.items) conf)[j]? =
      some read ∧ b.ReadAs read := by
  induction j generalizing rounds blocks conf with
  | zero =>
      obtain ⟨rounds, rfl⟩ := Nat.exists_eq_add_one.mpr hj
      cases blocks with
      | nil => cases hb
      | cons first blocks =>
          obtain rfl : first = b := Option.some.inj hb
          have hfirst : first.Complete := hall first List.mem_cons_self
          rw [List.flatMap_cons, readsOf, (take_items_append hfirst _).1]
          exact ⟨_, rfl, ProcessBlock.readAs_fill hfirst⟩
  | succ j ih =>
      obtain ⟨rounds, rfl⟩ := Nat.exists_eq_add_one.mpr (Nat.zero_lt_of_lt hj)
      cases blocks with
      | nil => cases hb
      | cons first blocks =>
          have hfirst : first.Complete := hall first List.mem_cons_self
          rw [List.flatMap_cons, readsOf, (take_items_append hfirst _).2]
          exact ih hb (Nat.lt_of_succ_lt_succ hj) fun b hb => hall b (List.mem_cons_of_mem first hb)

/-- **Blocks are read as they are** up to the first that leaves a parameter out. -/
theorem readAs_of_complete (sys : LocSystem) (conf : LocLauncherConf) (hmade : MadeOf text blocks)
    (hfit : ValuesFit (fileItems text)) (hlt : blocks.length < 256) {j : ℕ}
    (hb : blocks[j]? = some b) (hall : ∀ b ∈ blocks.take (j + 1), b.Complete) :
    ∃ read, (fileReads sys conf (some text)).1[j]? = some read ∧ b.ReadAs read := by
  have hj : j < (withKeys [nameKey] (fileItems text)).length % 2 ^ 8 := by
    have hmod : blocks.length % 2 ^ 8 = blocks.length := Nat.mod_eq_of_lt hlt
    rw [hmade.names, List.length_map, hmod]
    exact (List.getElem?_eq_some_iff.mp hb).1
  rw [fileReads_eq sys conf hmade.1 hfit (hmade.good_names hfit), hmade.2]
  exact readsOf_complete sys _ hb hj hall

/-- The block of a file that has no other is read as it is when no process has been read before. -/
theorem readAs_of_first (sys : LocSystem) (conf : LocLauncherConf) (hconf : conf = conf.settings)
    (hmade : MadeOf text [b]) (hfit : ValuesFit (fileItems text)) :
    ∃ read, (fileReads sys conf (some text)).1[0]? = some read ∧ b.ReadAs read := by
  rw [fileReads_eq sys conf hmade.1 hfit (hmade.good_names hfit), hmade.2, hmade.names,
    List.flatMap_singleton, clearName_withFeatures hconf]
  refine ⟨_, rfl, ?_⟩
  rw [List.take_of_length_le b.length_items_le]
  rfl

/-- The settings with which a process is launched are what has been read of them. -/
lemma MadeOf.settings_read {sys : LocSystem} {conf : LocLauncherConf} (hmade : MadeOf text blocks)
    (hfit : ValuesFit (fileItems text)) (hread : read ∈ (fileReads sys conf (some text)).1) :
    read.settings = (conf.withFeatures sys (featureItems text)).settings ∧
      (fileReads sys conf (some text)).2 = read.locServiceMask := by
  rw [fileReads_eq sys conf hmade.1 hfit (hmade.good_names hfit)] at hread ⊢
  have hsettings : read.settings = (conf.withFeatures sys (featureItems text)).settings :=
    (settings_of_mem_readsOf hread).trans rfl
  have hmask : ∀ conf : LocLauncherConf, conf.locServiceMask = conf.settings.locServiceMask :=
    fun _ => rfl
  refine ⟨hsettings, ?_⟩
  rw [hmask read, hsettings, ← hmask]

/-- **What a block says** decides whether its process is enabled, where that is what is read for the
process. -/
lemma MadeOf.enabled_process_iff {sys : LocSystem} {conf : LocLauncherConf} {r : LocReadProcess}
    {j : ℕ} {platforms basebands hardware : List (List Char)}
    (hmade : MadeOf text blocks) (hfit : ValuesFit (fileItems text))
    (hr : locReadProcessConf sys conf (some text) = some r) (hb : b ∈ blocks) (h : b.Launchable)
    (hread : (fileReads sys conf (some text)).1[j]? = some read) (hown : b.ReadAs read)
    (hplatforms : AreNames platforms) (hbasebands : AreNames basebands)
    (hhardware : AreNames hardware)
    (hplatform : ("PLATFORMS".toList, joined platforms) ∈ b.items)
    (hbaseband : ("BASEBAND".toList, joined basebands) ∈ b.items)
    (htype : ("HARDWARE_TYPE".toList, joined hardware) ∈ b.items) :
    ∃ p, r.processInfoTable[j]? = some p ∧
      (p.procStatus = .ENABLED ↔
        b.Rule sys (conf.withFeatures sys (featureItems text)) (platforms.take maxNumStrings)
          (basebands.take maxNumStrings) (hardware.take maxNumStrings)) := by
  obtain ⟨hsettings, hmask⟩ := hmade.settings_read hfit (List.mem_of_getElem? hread)
  refine ⟨(read.launch sys read.locServiceMask).1, ?_, ?_⟩
  · rw [processInfoTable_launch hr, List.getElem?_map, hread, hmask]
    rfl
  · have hrule : ∀ settings : LocLauncherConf,
        b.Rule sys settings (platforms.take maxNumStrings) (basebands.take maxNumStrings)
            (hardware.take maxNumStrings) =
          b.Rule sys settings.settings (platforms.take maxNumStrings)
            (basebands.take maxNumStrings) (hardware.take maxNumStrings) := fun _ => rfl
    rw [ProcessBlock.enabled_read_iff hown h (hmade.valuesFit hfit hb) hplatforms hplatform
      hbasebands hbaseband hhardware htype, hrule read, hsettings, ← hrule]

/-- **Enabling.**  Where what is read for its process is what it says, a block with everything that
a process needs enables its process exactly when the first twenty names of its lists select the
device, and one of its features is on unless it is no premium feature. -/
theorem enabled_iff (sys : LocSystem) (conf : LocLauncherConf) (hmade : MadeOf text blocks)
    (hfit : ValuesFit (fileItems text)) :
    ∃ table conf', locReadProcessConf sys conf (some text) = some ⟨0, table, conf'⟩ ∧
      ∀ (j : ℕ) (b : ProcessBlock) (read : LocLauncherConf), blocks[j]? = some b → b.Launchable →
        (fileReads sys conf (some text)).1[j]? = some read → b.ReadAs read →
        ∀ platforms basebands hardware, AreNames platforms → AreNames basebands →
          AreNames hardware → ("PLATFORMS".toList, joined platforms) ∈ b.items →
          ("BASEBAND".toList, joined basebands) ∈ b.items →
          ("HARDWARE_TYPE".toList, joined hardware) ∈ b.items →
          ∃ p, table[j]? = some p ∧
            (p.procStatus = .ENABLED ↔
              b.Rule sys (conf.withFeatures sys (featureItems text))
                (platforms.take maxNumStrings) (basebands.take maxNumStrings)
                (hardware.take maxNumStrings)) := by
  have hrun := locReadProcessConf_eq sys conf hmade.1 hfit (hmade.good_names hfit)
  refine ⟨_, _, hrun, ?_⟩
  intro j b read hb hlaunch hread hown platforms basebands hardware hplatforms hbasebands hhardware
    hplatform hbaseband htype
  exact hmade.enabled_process_iff hfit hrun (List.mem_of_getElem? hb) hlaunch hread hown hplatforms
    hbasebands hhardware hplatform hbaseband htype

/-- Twenty platforms, none of which is the one of the device. -/
def otherPlatforms : List (List Char) := "abcdefghijklmnopqrst".toList.map fun c => [c]

/-- A process for these platforms. -/
def platformBlock : ProcessBlock :=
  ⟨['a'],
    [("PROCESS_STATE".toList, "ENABLED".toList), ("PROCESS_GROUPS".toList, ['g']),
      ("PREMIUM_FEATURE".toList, ['0']), ("IZAT_FEATURE_MASK".toList, ['0']),
      ("PLATFORMS".toList, joined (otherPlatforms ++ [plainDevice.platformName])),
      ("BASEBAND".toList, ['a', 'l', 'l']), ("HARDWARE_TYPE".toList, ['a', 'l', 'l'])],
    plainBlock.name_ne, by decide +kernel, by decide +kernel⟩

def platformLines : List (List Char) :=
  ["PROCESS_NAME=a".toList, "PROCESS_STATE=ENABLED".toList, "PROCESS_GROUPS=g".toList,
    "PREMIUM_FEATURE=0".toList, "IZAT_FEATURE_MASK=0".toList,
    "PLATFORMS=".toList ++ joined (otherPlatforms ++ [plainDevice.platformName]),
    "BASEBAND=all".toList, "HARDWARE_TYPE=all".toList]

lemma platformFile : (MadeOf (unlines platformLines []) [platformBlock] ∧
      ValuesFit (fileItems (unlines platformLines []))) ∧
    platformBlock.Launchable ∧
    AreNames (otherPlatforms ++ [plainDevice.platformName]) ∧ AreNames ["all".toList] ∧
    ("PLATFORMS".toList, joined (otherPlatforms ++ [plainDevice.platformName])) ∈
      platformBlock.items ∧
    ("BASEBAND".toList, joined ["all".toList]) ∈ platformBlock.items ∧
    ("HARDWARE_TYPE".toList, joined ["all".toList]) ∈ platformBlock.items := by
  rw [MadeOf]
  decide +kernel

/-- The platform of the device is none of the first twenty. -/
lemma platform_not_selected :
    ¬ Selects plainDevice.platformName (fun s => s = plainDevice.platformName)
      ((otherPlatforms ++ [plainDevice.platformName]).take maxNumStrings) := by
  have hnames : (otherPlatforms ++ [plainDevice.platformName]).take maxNumStrings =
      ['a'] :: otherPlatforms.tail := by decide +kernel
  rw [hnames, selects_cons_iff (by decide)]
  decide +kernel

lemma platformBlock_featureOn (serviceMask : BitVec 32) : platformBlock.FeatureOn serviceMask :=
  .inl (by decide +kernel)

/-- What the file says of its block. -/
theorem platform_enabled_iff : ∃ table conf',
    locReadProcessConf plainDevice {} (some (unlines platformLines [])) = some ⟨0, table, conf'⟩ ∧
      ∃ p, table[0]? = some p ∧
        (p.procStatus = .ENABLED ↔
          platformBlock.Rule plainDevice (({} : LocLauncherConf).withFeatures plainDevice
              (featureItems (unlines platformLines [])))
            ((otherPlatforms ++ [plainDevice.platformName]).take maxNumStrings)
            (["all".toList].take maxNumStrings) (["all".toList].take maxNumStrings)) := by
  obtain ⟨⟨hmade, hfit⟩, hlaunch, hnames, hall, hplatform, hbaseband, htype⟩ := platformFile
  obtain ⟨read, hread, hown⟩ := readAs_of_first plainDevice {} rfl hmade hfit
  obtain ⟨table, conf', hrun, hrule⟩ := enabled_iff plainDevice {} hmade hfit
  exact ⟨table, conf', hrun, hrule 0 platformBlock read rfl hlaunch hread hown _ _ _ hnames hall
    hall hplatform hbaseband htype⟩

/-- The platform of the device is the last of twenty-one names, and the process is not enabled. -/
theorem enabled_beyond_twenty :
    ¬ ∀ (sys : LocSystem) (conf : LocLauncherConf) (text : List Char) (blocks : List ProcessBlock),
      MadeOf text blocks → ValuesFit (fileItems text) →
      ∃ table conf', locReadProcessConf sys conf (some text) = some ⟨0, table, conf'⟩ ∧
        ∀ (j : ℕ) (b : ProcessBlock) (read : LocLauncherConf), blocks[j]? = some b → b.Launchable →
          (fileReads sys conf (some text)).1[j]? = some read → b.ReadAs read →
          ∀ platforms basebands hardware, AreNames platforms → AreNames basebands →
            AreNames hardware → ("PLATFORMS".toList, joined platforms) ∈ b.items →
            ("BASEBAND".toList, joined basebands) ∈ b.items →
            ("HARDWARE_TYPE".toList, joined hardware) ∈ b.items →
            ∃ p, table[j]? = some p ∧
              (p.procStatus = .ENABLED ↔
                b.Rule sys (conf.withFeatures sys (featureItems text)) platforms basebands
                  hardware) := by
  intro h
  obtain ⟨⟨hmade, hfit⟩, hlaunch, hnames, hall, hplatform, hbaseband, htype⟩ := platformFile
  obtain ⟨read, hread, hown⟩ := readAs_of_first plainDevice {} rfl hmade hfit
  obtain ⟨table, conf', hrun, hrule⟩ := h plainDevice {} _ _ hmade hfit
  obtain ⟨p, hp, hiff⟩ := hrule 0 platformBlock read rfl hlaunch hread hown _ _ _ hnames hall hall
    hplatform hbaseband htype
  have hselects : Selects plainDevice.platformName (fun s => s = plainDevice.platformName)
      (otherPlatforms ++ [plainDevice.platformName]) :=
    .inr (.inr (.inr ⟨by decide, plainDevice.platformName,
      List.mem_append_right _ List.mem_cons_self, decide_eq_true rfl⟩))
  have henabled : p.procStatus = .ENABLED :=
    hiff.mpr ⟨hselects, .inl rfl, .inl rfl, platformBlock_featureOn _⟩
  -- by the names that count it is not
  obtain ⟨p', hp', hcounted⟩ := hmade.enabled_process_iff hfit hrun List.mem_cons_self hlaunch hread
    hown hnames hall hall hplatform hbaseband htype
  obtain rfl : p = p' := Option.some.inj (hp.symm.trans hp')
  exact platform_not_selected (hcounted.mp henabled).1

/-- A block with everything that a process needs, and without two parameters that it does not. -/
def openBlock : ProcessBlock :=
  ⟨['a'],
    [("PROCESS_STATE".toList, "ENABLED".toList), ("PROCESS_GROUPS".toList, ['g']),
      ("PREMIUM_FEATURE".toList, ['0']), ("PLATFORMS".toList, joined ["all".toList]),
      ("BASEBAND".toList, joined ["all".toList]), ("HARDWARE_TYPE".toList, joined ["all".toList])],
    plainBlock.name_ne, by decide +kernel, by decide +kernel⟩

/-- A block for another platform. -/
def otherBlock : ProcessBlock :=
  ⟨['b'], [("PLATFORMS".toList, ['x'])], nameBlock.name_ne, by decide +kernel, by decide +kernel⟩

def openLines : List (List Char) :=
  ["PROCESS_NAME=a".toList, "PROCESS_STATE=ENABLED".toList, "PROCESS_GROUPS=g".toList,
    "PREMIUM_FEATURE=0".toList, "PLATFORMS=all".toList, "BASEBAND=all".toList,
    "HARDWARE_TYPE=all".toList, "PROCESS_NAME=b".toList, "PLATFORMS=x".toList]

lemma openFile : (MadeOf (unlines openLines []) [openBlock, otherBlock] ∧
      ValuesFit (fileItems (unlines openLines []))) ∧
    openBlock.Launchable ∧ AreNames ["all".toList] ∧
    (∀ key ∈ ["PLATFORMS".toList, "BASEBAND".toList, "HARDWARE_TYPE".toList],
      (key, joined ["all".toList]) ∈ openBlock.items) ∧
    openBlock.number "PREMIUM_FEATURE".toList = 0 ∧
    (locReadProcessConf plainDevice {} (some (unlines openLines []))).map
        (fun r => (r.processInfoTable.map LocProcessInfo.procStatus).head?) =
      some (some .DISABLED) := by
  rw [MadeOf]
  decide +kernel

/-- A block that leaves parameters out is not enabled by its own lists alone: of the block behind it
is read which platforms it is for. -/
theorem enabled_by_other_block :
    ¬ ∀ (sys : LocSystem) (conf : LocLauncherConf) (text : List Char) (blocks : List ProcessBlock),
      MadeOf text blocks → ValuesFit (fileItems text) →
      ∃ table conf', locReadProcessConf sys conf (some text) = some ⟨0, table, conf'⟩ ∧
        ∀ (j : ℕ) (b : ProcessBlock), blocks[j]? = some b → b.Launchable →
          ∀ platforms basebands hardware, AreNames platforms → AreNames basebands →
            AreNames hardware → ("PLATFORMS".toList, joined platforms) ∈ b.items →
            ("BASEBAND".toList, joined basebands) ∈ b.items →
            ("HARDWARE_TYPE".toList, joined hardware) ∈ b.items →
            ∃ p, table[j]? = some p ∧
              (p.procStatus = .ENABLED ↔
                b.Rule sys (conf.withFeatures sys (featureItems text))
                  (platforms.take maxNumStrings) (basebands.take maxNumStrings)
                  (hardware.take maxNumStrings)) := by
  intro h
  obtain ⟨⟨hmade, hfit⟩, hlaunch, hall, hlists, hpremium, hstatus⟩ := openFile
  obtain ⟨table, conf', hrun, hrule⟩ := h plainDevice {} _ _ hmade hfit
  obtain ⟨p, hp, hiff⟩ := hrule 0 openBlock rfl hlaunch _ _ _ hall hall hall
    (hlists _ (by decide)) (hlists _ (by decide)) (hlists _ (by decide))
  have henabled : p.procStatus = .ENABLED := hiff.mpr ⟨.inl rfl, .inl rfl, .inl rfl, .inl hpremium⟩
  rw [hrun, Option.map_some, Option.some.injEq, List.head?_eq_getElem?, List.getElem?_map, hp,
    Option.map_some, Option.some.injEq, henabled] at hstatus
  cases hstatus

end Blocks

end LocHal
