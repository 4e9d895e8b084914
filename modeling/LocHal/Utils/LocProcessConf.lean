import LocHal.Utils.LocCfgUpdate
import Mathlib.Data.Int.Notation

/-!
# Process configuration (`gps/utils/loc_cfg.cpp`)

`loc_read_process_conf` reads which processes are to be launched, and with which arguments, from a
file that lists the parameters of one process after the other.  It goes through the file twice: once
to count the lines that name a process, and once more to read nine parameters for each of them.
Both passes store what they read in one static structure, `conf`.
-/

namespace LocHal

/-- `LOC_PROCESS_MAX_NUM_GROUPS`. -/
def locProcessMaxNumGroups : ℕ := 20

/-- `LOC_PROCESS_MAX_NUM_ARGS`. -/
def locProcessMaxNumArgs : ℕ := 25

/-- `LOC_PROCESS_MAX_ARG_STR_LENGTH`. -/
def locProcessMaxArgStrLength : ℕ := 32

/-- `MAX_NUM_STRINGS`. -/
def maxNumStrings : ℕ := 20

/-! ## The structures -/

/-- `loc_launcher_conf`, as it is before anything has been read. -/
structure LocLauncherConf where
  procName : List Char := []
  procArgument : List Char := []
  procStatus : List Char := []
  groupList : List Char := []
  premiumFeature : ℤ := 0
  locFeatureMask : ℤ := 0
  platformList : List Char := []
  baseband : List Char := []
  sglteTarget : ℤ := 0
  featureGtpCellProc : List Char := []
  featureGtpWaa : List Char := []
  featureGtpCell : List Char := []
  featureGtpWifi : List Char := []
  featureSap : List Char := []
  featureOdcpi : List Char := []
  featureFreeWifiScanInject : List Char := []
  featureSuplWifi : List Char := []
  featureWifiSupplicantInfo : List Char := []
  autoPlatform : List Char := []
deriving DecidableEq

/-- `loc_process_e_status`. -/
inductive LocProcessStatus where
  | ENABLED
  | RUNNING
  | DISABLED
  | DISABLED_FROM_CONF
deriving DecidableEq

/-- `loc_process_info_s_type`, with the first of its names, as it is before anything has been
stored. -/
structure LocProcessInfo where
  procStatus : LocProcessStatus := .DISABLED
  name : List Char := []
  groupList : List ℕ := List.replicate locProcessMaxNumGroups 0
  numGroups : ℕ := 0
  args : List (List Char) := List.replicate locProcessMaxNumArgs []
  argumentString : List Char := []
deriving DecidableEq

/-- What the function takes from the system: the text of `gps.conf`, `none` where it cannot be
opened, three names from the properties, and the identities that `getpwnam` gives. -/
structure LocSystem where
  gpsConf : Option (List Char)
  platformName : List Char
  basebandName : List Char
  autoPlatformName : List Char
  getpwnam : List Char → Option ℕ

/-! ## Tables -/

/-- There are no parameters of type `double` here. -/
def noDoubles : Doubles Unit := ⟨(), fun _ => ()⟩

def stringParam (paramName value : List Char) : LocParam Unit :=
  ⟨paramName, some (.string value), none, 's'⟩

def intParam (paramName : List Char) (value : ℤ) : LocParam Unit :=
  ⟨paramName, some (.int value), none, 'n'⟩

/-- The string that an entry points to. -/
def LocParam.str (e : LocParam Unit) : List Char :=
  match e.paramPtr with
  | some (.string s) => s
  | _ => []

/-- The number that an entry points to. -/
def LocParam.num (e : LocParam Unit) : ℤ :=
  match e.paramPtr with
  | some (.int n) => n
  | _ => 0

namespace LocLauncherConf

variable (conf : LocLauncherConf)

/-- `gps_conf_parameter_table`. -/
def gpsConfParameterTable : List (LocParam Unit) :=
  [intParam "SGLTE_TARGET".toList conf.sglteTarget]

/-- `loc_feature_conf_table`. -/
def locFeatureConfTable : List (LocParam Unit) :=
  [stringParam "GTP_CELL_PROC".toList conf.featureGtpCellProc,
    stringParam "GTP_CELL".toList conf.featureGtpCell,
    stringParam "GTP_WIFI".toList conf.featureGtpWifi,
    stringParam "GTP_WAA".toList conf.featureGtpWaa,
    stringParam "SAP".toList conf.featureSap,
    stringParam "ODCPI".toList conf.featureOdcpi,
    stringParam "FREE_WIFI_SCAN_INJECT".toList conf.featureFreeWifiScanInject,
    stringParam "SUPL_WIFI".toList conf.featureSuplWifi,
    stringParam "WIFI_SUPPLICANT_INFO".toList conf.featureWifiSupplicantInfo]

/-- `loc_process_conf_parameter_table`. -/
def locProcessConfParameterTable : List (LocParam Unit) :=
  [stringParam "PROCESS_NAME".toList conf.procName,
    stringParam "PROCESS_ARGUMENT".toList conf.procArgument,
    stringParam "PROCESS_STATE".toList conf.procStatus,
    stringParam "PROCESS_GROUPS".toList conf.groupList,
    intParam "PREMIUM_FEATURE".toList conf.premiumFeature,
    intParam "IZAT_FEATURE_MASK".toList conf.locFeatureMask,
    stringParam "PLATFORMS".toList conf.platformList,
    stringParam "BASEBAND".toList conf.baseband,
    stringParam "HARDWARE_TYPE".toList conf.autoPlatform]

/-- `conf` with the empty name. -/
def clearName : LocLauncherConf := { conf with procName := [] }

/-- `conf` with what the entries of `gps_conf_parameter_table` point to. -/
def setGps : List (LocParam Unit) → LocLauncherConf
  | [sglteTarget] => { conf with sglteTarget := sglteTarget.num }
  | _ => conf

/-- `conf` with what the entries of `loc_feature_conf_table` point to. -/
def setFeatures : List (LocParam Unit) → LocLauncherConf
  | [gtpCellProc, gtpCell, gtpWifi, gtpWaa, sap, odcpi, freeWifi, suplWifi, supplicant] =>
      { conf with
        featureGtpCellProc := gtpCellProc.str
        featureGtpCell := gtpCell.str
        featureGtpWifi := gtpWifi.str
        featureGtpWaa := gtpWaa.str
        featureSap := sap.str
        featureOdcpi := odcpi.str
        featureFreeWifiScanInject := freeWifi.str
        featureSuplWifi := suplWifi.str
        featureWifiSupplicantInfo := supplicant.str }
  | _ => conf

/-- `conf` with what the entries of `loc_process_conf_parameter_table` point to, or the first of
them. -/
def setProcess : List (LocParam Unit) → LocLauncherConf
  | [name] => { conf with procName := name.str }
  | [name, argument, state, groups, premium, mask, platforms, baseband, hardwareType] =>
      { conf with
        procName := name.str
        procArgument := argument.str
        procStatus := state.str
        groupList := groups.str
        premiumFeature := premium.num
        locFeatureMask := mask.num
        platformList := platforms.str
        baseband := baseband.str
        autoPlatform := hardwareType.str }
  | _ => conf

end LocLauncherConf

/-! ## Reading a table from an open file -/

section Reading

variable {δ : Type*}

/-- The entry takes the item, and its array has no room for the value and the end character:
`strlcpy` gets one more than the size of the array. -/
def LocParam.Overflows (e : LocParam δ) (item : List Char × List Char) : Prop :=
  e.Takes item ∧ e.paramType = 's' ∧ item.2 ≠ "NULL".toList ∧ locMaxParamString ≤ item.2.length

instance (e : LocParam δ) (item : List Char × List Char) : Decidable (e.Overflows item) :=
  inferInstanceAs (Decidable (_ ∧ _ ∧ _ ∧ _))

/-- `loc_read_conf_r`, of a file of which these lines are still to be read, with a table that has no
validity bits: the table, and the lines that are left.  `none` where a value is stored beyond the
end of an array. -/
def readConfR (lines : List (List Char)) (table : List (LocParam Unit)) :
    Option (List (LocParam Unit) × List (List Char)) :=
  let filled := fillLines noDoubles table.length lines table
  if ∃ item ∈ (lines.take filled.2).filterMap confItem, ∃ e ∈ table, e.Overflows item then none
  else some (filled.1, lines.drop filled.2)

/-- `loc_read_conf`, of a file with this text, `none` where it cannot be opened. -/
def readConf (text : Option (List Char)) (table : List (LocParam Unit)) :
    Option (List (LocParam Unit)) :=
  match text with
  | none => some table
  | some text => (readConfR (fgetsAll (locMaxParamLine - 2) text) table).map Prod.fst

/-- The items with one of these names. -/
def withKeys (keys : List (List Char)) (items : List (List Char × List Char)) :
    List (List Char × List Char) :=
  items.filter fun item => item.1 ∈ keys

end Reading

/-! ## Strings -/

/-- The loop of `loc_util_split_string`: the strings, from the one on that has been begun, of which
at most `left` are taken. -/
def splitLoop (delimiter : Char) : List Char → List Char → ℕ → List (List Char)
  | [], begun, _ => [begun]
  | c :: cs, begun, left =>
      if c = delimiter then begun :: (if left ≤ 1 then [] else splitLoop delimiter cs [] (left - 1))
      else splitLoop delimiter cs (begun ++ [c]) left

/-- `loc_util_split_string`.  It puts end characters into the raw string, so that this is the first
of the strings from then on. -/
def locUtilSplitString (rawString : List Char) (maxNumSubstrings : ℕ) (delimiter : Char) :
    List (List Char) :=
  splitLoop delimiter rawString [] maxNumSubstrings

lemma splitLoop_append {delimiter : Char} {piece : List Char} (h : delimiter ∉ piece)
    (rest begun : List Char) (left : ℕ) :
    splitLoop delimiter (piece ++ rest) begun left =
      splitLoop delimiter rest (begun ++ piece) left := by
  induction piece generalizing begun with
  | nil => rw [List.nil_append, List.append_nil]
  | cons c cs ih =>
      have hc : c ≠ delimiter := fun heq => h (heq ▸ List.mem_cons_self)
      rw [List.cons_append, splitLoop, if_neg hc,
        ih fun hmem => h (List.mem_cons_of_mem c hmem), List.append_assoc, List.singleton_append]

/-- The strings are the first pieces between the delimiters. -/
theorem locUtilSplitString_eq (rawString : List Char) {maxNumSubstrings : ℕ}
    (hmax : 0 < maxNumSubstrings) (delimiter : Char) :
    locUtilSplitString rawString maxNumSubstrings delimiter =
      (rawString.splitOn delimiter).take maxNumSubstrings := by
  induction rawString using pieces_induction (d := delimiter) generalizing maxNumSubstrings with
  | last t ht =>
      have hloop := splitLoop_append ht [] [] maxNumSubstrings
      rw [List.append_nil, List.nil_append] at hloop
      rw [locUtilSplitString, hloop, splitLoop, List.splitOn_eq_singleton ht,
        List.take_of_length_le hmax]
  | cut t rest ht ih =>
      obtain ⟨left, rfl⟩ := Nat.exists_eq_add_one.mpr hmax
      rw [locUtilSplitString, splitLoop_append ht, splitLoop, if_pos rfl, List.nil_append,
        List.splitOn_append_cons_self_of_not_mem ht, List.take_succ_cons]
      cases left with
      | zero => rfl
      | succ left =>
          have hmore : ¬ left + 1 + 1 ≤ 1 := by omega
          rw [if_neg hmore, ← ih (Nat.succ_pos left)]
          rfl

/-- `strlcpy` into an array of this size. -/
def strlcpy (s : List Char) (size : ℕ) : List Char := s.take (size - 1)

/-- The array in which these come first, and then what has been there from the beginning. -/
def fillArray {α : Type*} (written : List α) (initial : List α) : List α :=
  written ++ initial.drop written.length

/-! ## The service mask -/

def locFeatureMaskGtpWifiBasic : BitVec 32 := 0x01
def locFeatureMaskGtpWifiPremium : BitVec 32 := 0x02
def locFeatureMaskGtpCellBasic : BitVec 32 := 0x04
def locFeatureMaskGtpCellPremium : BitVec 32 := 0x08
def locFeatureMaskGtpApCellBasic : BitVec 32 := locFeatureMaskGtpCellBasic
def locFeatureMaskGtpApCellPremium : BitVec 32 := locFeatureMaskGtpCellPremium
def locFeatureMaskSapBasic : BitVec 32 := 0x40
def locFeatureMaskSapPremium : BitVec 32 := 0x80
def locFeatureMaskGtpWaaBasic : BitVec 32 := 0x100
def locFeatureMaskGtpWaaPremium : BitVec 32 := 0x200
def locFeatureMaskGtpModemCellBasic : BitVec 32 := 0x400
def locFeatureMaskGtpModemCellPremium : BitVec 32 := 0x800
def locFeatureMaskOdcpi : BitVec 32 := 0x1000
def locFeatureMaskFreeWifiScanInject : BitVec 32 := 0x2000
def locFeatureMaskSuplWifi : BitVec 32 := 0x4000
def locFeatureMaskWifiSupplicantInfo : BitVec 32 := 0x8000

/-- The bits of a feature that is switched on in both modes, and off for any other value. -/
def onOffMask (feature : List Char) (mask : BitVec 32) : BitVec 32 :=
  if feature = "BASIC".toList then mask
  else if feature = "DISABLED".toList then 0
  else if feature = "PREMIUM".toList then mask
  else 0

namespace LocLauncherConf

variable (conf : LocLauncherConf)

def gtpWifiMask : BitVec 32 :=
  if conf.featureGtpWifi = "DISABLED".toList then 0
  else if conf.featureGtpWifi = "BASIC".toList then locFeatureMaskGtpWifiBasic
  else locFeatureMaskGtpWifiBasic

/-- `gtp_cell_ap_enabled` says on which of the two processors. -/
def gtpCellMask : BitVec 32 :=
  let enabled :=
    if conf.featureGtpCellProc = "AP".toList then locFeatureMaskGtpApCellBasic
    else locFeatureMaskGtpModemCellBasic
  if conf.featureGtpCell = "PREMIUM".toList then enabled
  else if conf.featureGtpCell = "BASIC".toList then enabled
  else if conf.featureGtpCell = "DISABLED".toList then 0
  else enabled

def gtpWaaMask : BitVec 32 :=
  if conf.featureGtpWaa = "PREMIUM".toList then locFeatureMaskGtpWaaBasic
  else if conf.featureGtpWaa = "BASIC".toList then locFeatureMaskGtpWaaBasic
  else if conf.featureGtpWaa = "DISABLED".toList then 0
  else 0

def sapMask : BitVec 32 :=
  if conf.featureSap = "PREMIUM".toList then locFeatureMaskSapPremium
  else if conf.featureSap = "BASIC".toList then locFeatureMaskSapBasic
  else if conf.featureSap = "DISABLED".toList then 0
  else locFeatureMaskSapBasic

/-- `loc_service_mask`. -/
def locServiceMask : BitVec 32 :=
  conf.gtpWifiMask ||| conf.gtpCellMask ||| conf.gtpWaaMask ||| conf.sapMask |||
    onOffMask conf.featureOdcpi locFeatureMaskOdcpi |||
    onOffMask conf.featureFreeWifiScanInject locFeatureMaskFreeWifiScanInject |||
    onOffMask conf.featureSuplWifi locFeatureMaskSuplWifi |||
    onOffMask conf.featureWifiSupplicantInfo locFeatureMaskWifiSupplicantInfo

end LocLauncherConf

/-! ## One process -/

/-- The bits of `config_mask` for a list of names that may start with `all` and go on with what is
excluded: `all` and `found` are the two bits of the list, `name` is the name of this device, and
`listed` says which strings stand for it. -/
def listMask (all found : BitVec 8) (name : List Char) (listed : List Char → Bool)
    (strings : List (List Char)) : BitVec 8 :=
  match strings with
  | [] => 0
  | first :: others =>
      if first = "all".toList then
        match others with
        | [] => all
        | second :: excluded =>
            if second ≠ "exclude".toList then 0
            else if excluded = [] then all
            else if name ∈ excluded then 0
            else found
      else if (first :: others).any listed then found
      else 0

def configMaskTargetAll : BitVec 8 := 0x01
def configMaskTargetFound : BitVec 8 := 0x02
def configMaskTargetCheck : BitVec 8 := 0x03
def configMaskBasebandAll : BitVec 8 := 0x04
def configMaskBasebandFound : BitVec 8 := 0x08
def configMaskBasebandCheck : BitVec 8 := 0x0c
def configMaskAutoplatformAll : BitVec 8 := 0x10
def configMaskAutoplatformFound : BitVec 8 := 0x20
def configMaskAutoplatformCheck : BitVec 8 := 0x30

/-- An argument that names a feature, and the mode in which the service mask has it. -/
def modeArgs (argument : List Char) (basic premium serviceMask : BitVec 32) : List (List Char) :=
  [argument,
    if serviceMask &&& basic ≠ 0 then "BASIC".toList
    else if serviceMask &&& premium ≠ 0 then "PREMIUM".toList
    else "DISABLED".toList]

/-- The arguments for cells, of the application processor and of the modem. -/
def gtpCellArgs (serviceMask : BitVec 32) : List (List Char) :=
  let argGtpApCell := "--gtp-ap-cell".toList
  let argGtpModemCell := "--gtp-modem-cell".toList
  if serviceMask &&& locFeatureMaskGtpApCellBasic ≠ 0 then
    [argGtpApCell, "BASIC".toList, argGtpModemCell, "DISABLED".toList]
  else if serviceMask &&& locFeatureMaskGtpApCellPremium ≠ 0 then
    [argGtpApCell, "PREMIUM".toList, argGtpModemCell, "DISABLED".toList]
  else if serviceMask &&& locFeatureMaskGtpModemCellBasic ≠ 0 then
    [argGtpModemCell, "BASIC".toList, argGtpApCell, "DISABLED".toList]
  else if serviceMask &&& locFeatureMaskGtpModemCellPremium ≠ 0 then
    [argGtpModemCell, "PREMIUM".toList, argGtpApCell, "DISABLED".toList]
  else [argGtpApCell, "DISABLED".toList, argGtpModemCell, "DISABLED".toList]

/-- The arguments for the features of a process. -/
def featureArgs (featureMask serviceMask : BitVec 32) : List (List Char) :=
  (if featureMask &&& (locFeatureMaskGtpWifiBasic ||| locFeatureMaskGtpWifiPremium) ≠ 0 then
      modeArgs "--gtp-wifi".toList locFeatureMaskGtpWifiBasic locFeatureMaskGtpWifiPremium
        serviceMask
    else []) ++
  (if featureMask &&& (locFeatureMaskGtpCellBasic ||| locFeatureMaskGtpCellPremium) ≠ 0 then
      gtpCellArgs serviceMask
    else []) ++
  (if featureMask &&& (locFeatureMaskGtpWaaBasic ||| locFeatureMaskGtpWaaPremium) ≠ 0 then
      modeArgs "--gtp-waa".toList locFeatureMaskGtpWaaBasic locFeatureMaskGtpWaaPremium serviceMask
    else []) ++
  (if featureMask &&& (locFeatureMaskSapBasic ||| locFeatureMaskSapPremium) ≠ 0 then
      modeArgs "--sap".toList locFeatureMaskSapBasic locFeatureMaskSapPremium serviceMask
    else [])

/-- The name of a process, without the directories of a path that starts at the root. -/
def processArg (name : List Char) : List Char :=
  match name with
  | '/' :: _ => (name.reverse.takeWhile (· ≠ '/')).reverse
  | _ => name

namespace LocLauncherConf

variable (sys : LocSystem) (serviceMask : BitVec 32) (conf : LocLauncherConf)

/-- One of the parameters that every process needs is missing. -/
def missesRequired : Bool :=
  conf.procName = [] ∨ conf.groupList = [] ∨ conf.platformList = [] ∨ conf.baseband = [] ∨
    conf.procStatus = [] ∨ conf.autoPlatform = []

def groupStrings : List (List Char) := locUtilSplitString conf.groupList maxNumStrings ' '
def platformStrings : List (List Char) := locUtilSplitString conf.platformList maxNumStrings ' '
def basebandStrings : List (List Char) := locUtilSplitString conf.baseband maxNumStrings ' '
def autoPlatformStrings : List (List Char) := locUtilSplitString conf.autoPlatform maxNumStrings ' '

/-- `config_mask`.  `ro.baseband` does not say whether the baseband is `sglte`. -/
def configMask : BitVec 8 :=
  listMask configMaskTargetAll configMaskTargetFound sys.platformName
      (fun s => s = sys.platformName) conf.platformStrings |||
    listMask configMaskBasebandAll configMaskBasebandFound sys.basebandName
      (fun s => s = sys.basebandName ∨ s = "sglte".toList ∧ conf.sglteTarget ≠ 0)
      conf.basebandStrings |||
    if conf.autoPlatformStrings.head? = some "all".toList then configMaskAutoplatformAll
    else if sys.autoPlatformName ∈ conf.autoPlatformStrings then configMaskAutoplatformFound
    else 0

/-- The process is to be launched on this device. -/
def matchesDevice : Bool :=
  conf.configMask sys &&& configMaskTargetCheck ≠ 0 ∧
    conf.configMask sys &&& configMaskBasebandCheck ≠ 0 ∧
    conf.configMask sys &&& configMaskAutoplatformCheck ≠ 0

/-- The process is no premium feature, or it has one of the features that are on. -/
def enabledBy : Bool :=
  conf.premiumFeature = 0 ∨ BitVec.ofInt 32 conf.locFeatureMask &&& serviceMask ≠ 0

/-- The arguments that do not stand in the file. -/
def ownArgs : List (List Char) :=
  strlcpy (processArg (strlcpy conf.procName locMaxParamString)) locProcessMaxArgStrLength ::
    if conf.premiumFeature ≠ 0 ∧ BitVec.ofInt 32 conf.locFeatureMask &&& serviceMask ≠ 0 then
      featureArgs (BitVec.ofInt 32 conf.locFeatureMask) serviceMask
    else []

/-- The arguments that stand in the file, where there are any. -/
def fileArgs : List (List Char) :=
  if conf.procArgument = [] then []
  else locUtilSplitString (strlcpy conf.procArgument locMaxParamString)
    (locProcessMaxNumArgs - (conf.ownArgs serviceMask).length) ' '

/-- One round of the second loop of `loc_read_process_conf`, when the parameters have been read: the
process, and `conf`, of which three lists are taken apart in place, and so is the list of groups. -/
def launch : LocProcessInfo × LocLauncherConf :=
  if conf.missesRequired then ({}, conf)
  else if conf.procStatus = "DISABLED".toList then ({ procStatus := .DISABLED_FROM_CONF }, conf)
  else if locMaxParamString < conf.procName.length + 1 then ({}, conf)
  else
    let gids := conf.groupStrings.map sys.getpwnam
    let process : LocProcessInfo :=
      { name := strlcpy conf.procName locMaxParamString
        groupList :=
          fillArray (gids.map (Option.getD · 0)) (List.replicate locProcessMaxNumGroups 0)
        numGroups := gids.countP Option.isSome }
    let split : LocLauncherConf :=
      { conf with
        groupList := conf.groupStrings.headD []
        platformList := conf.platformStrings.headD []
        baseband := conf.basebandStrings.headD []
        autoPlatform := conf.autoPlatformStrings.headD [] }
    if conf.matchesDevice sys then
      ({ process with
          procStatus := if conf.enabledBy serviceMask then .ENABLED else .DISABLED
          args := fillArray (conf.ownArgs serviceMask ++
            (conf.fileArgs serviceMask).map (strlcpy · locProcessMaxArgStrLength))
            (List.replicate locProcessMaxNumArgs [])
          argumentString := (conf.fileArgs serviceMask).headD [] }, split)
    else (process, split)

end LocLauncherConf

/-! ## The file -/

/-- The first loop: how many lines name a process, and `conf`.  The count is an `unsigned char`.
Every round but the last takes a line, so that there are at most as many as there are lines, and
one; `none` as for `readConfR`. -/
def countLoop : ℕ → List (List Char) → LocLauncherConf → ℕ → Option (ℕ × LocLauncherConf)
  | 0, _, _, _ => none
  | rounds + 1, lines, conf, procListLength =>
      let conf := conf.clearName
      match readConfR lines (conf.locProcessConfParameterTable.take 1) with
      | none => none
      | some (table, lines) =>
          let conf := conf.setProcess table
          if conf.procName ≠ [] then countLoop rounds lines conf ((procListLength + 1) % 2 ^ 8)
          else some (procListLength, conf)

/-- The second loop, for the number of processes that have been counted: the processes, and
`conf`. -/
def processLoop (sys : LocSystem) (serviceMask : BitVec 32) :
    ℕ → List (List Char) → LocLauncherConf → Option (List LocProcessInfo × LocLauncherConf)
  | 0, _, conf => some ([], conf)
  | rounds + 1, lines, conf =>
      match readConfR lines conf.locProcessConfParameterTable with
      | none => none
      | some (table, lines) =>
          let launched := (conf.setProcess table).launch sys serviceMask
          (processLoop sys serviceMask rounds lines launched.2).map fun r =>
            (launched.1 :: r.1, r.2)

/-- What `loc_read_process_conf` returns, what it stores for its caller, as many processes as it
counts, and the static `conf`. -/
structure LocReadProcess where
  ret : ℤ
  processInfoTable : List LocProcessInfo
  conf : LocLauncherConf
deriving DecidableEq

/-- `conf` with the parameters that are read from `gps.conf`, and then the features that are read
from the file. -/
def LocLauncherConf.readSettings (conf : LocLauncherConf) (sys : LocSystem)
    (confFile : Option (List Char)) : Option LocLauncherConf :=
  match readConf sys.gpsConf conf.gpsConfParameterTable with
  | none => none
  | some table =>
      let conf := conf.setGps table
      (readConf confFile conf.locFeatureConfTable).map conf.setFeatures

/-- `loc_read_process_conf`, of a file with this text, `none` where it cannot be opened; memory can
be allocated, also for no process.  `none` as for `readConfR`. -/
def locReadProcessConf (sys : LocSystem) (conf : LocLauncherConf) (confFile : Option (List Char)) :
    Option LocReadProcess :=
  match conf.readSettings sys confFile with
  | none => none
  | some conf =>
      match confFile with
      | none => some ⟨-1, [], conf⟩
      | some text =>
          let lines := fgetsAll (locMaxParamLine - 2) text
          match countLoop (lines.length + 1) lines conf 0 with
          | none => none
          | some (procListLength, conf) =>
              (processLoop sys conf.locServiceMask procListLength lines conf).map fun r =>
                ⟨0, r.1, r.2⟩

end LocHal
