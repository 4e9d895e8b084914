import LocHal.Utils.LocNmeaLength

/-!
# The sentences of a whole report (`gps/utils/loc_nmea.cpp`)

The GSA sentences of five constellations come before the other sentences of a position report, and
the GSV sentences of a satellite report walk through its satellites four at a time.  With the
lengths of both, every sentence of every report is complete (`reports_complete`).
-/

namespace LocHal.LocNmea

/-! ## The constellations -/

/-- What the table of the constellations holds. -/
structure SvMeta.InTable (m : SvMeta) : Prop where
  svIdOffset_le : m.svIdOffset ≤ glonassSvIdOffset
  signalId_lt : m.signalId < 10
  systemId_lt : m.systemId < 10

section Constellations

variable {cache : SvCacheInfo} {svType : GnssSvType} {needCombine : Bool} {m : SvMeta}

lemma init_eq_some (h : locNmeaSvMetaInit cache svType needCombine = some m) :
    m.InTable ∧ m.svCount = cache.count svType := by
  cases svType <;> simp only [locNmeaSvMetaInit, Option.some.injEq, reduceCtorEq] at h
  all_goals
    subst h
    refine ⟨⟨?_, ?_, ?_⟩, rfl⟩ <;> simp [glonassSvIdOffset]

end Constellations

/-- Texts of at most `n` characters, one after the other. -/
lemma length_flatMap_le {α : Type*} {l : List α} {f : α → List Char} {n : ℕ}
    (h : ∀ x ∈ l, (f x).length ≤ n) : (l.flatMap f).length ≤ l.length * n := by
  induction l with
  | nil => exact Nat.zero_le _
  | cons x l ih =>
      have hx := h x List.mem_cons_self
      have hl := ih fun y hy => h y (List.mem_cons_of_mem x hy)
      rw [List.flatMap_cons, List.length_append, List.length_cons, Nat.succ_mul]
      omega

/-! ## GSA -/

section Gsa

variable {m : SvMeta}

/-- The satellites of a mask have ids of two digits. -/
lemma svUsedList_lt (hm : m.InTable) : ∀ id ∈ svUsedList m.mask m.svIdOffset, id < 100 := by
  intro id hid
  obtain ⟨bit, hbit, rfl⟩ := List.mem_map.mp hid
  have hrange := List.mem_range.mp (List.mem_of_mem_filter hbit)
  have hoffset := hm.svIdOffset_le
  rw [glonassSvIdOffset] at hoffset
  omega

lemma length_gsaId_le {svUsed : List ℕ} (h : ∀ id ∈ svUsed, id < 100) (i : ℕ) :
    (gsaId svUsed i).length ≤ 3 := by
  cases hid : svUsed[i]? with
  | none =>
      simp only [gsaId, hid, List.length_cons, List.length_nil]
      decide
  | some id =>
      have hlt := h id (List.mem_of_getElem? hid)
      have hlength := length_formatIntPadded_nonneg_le (n := (id : ℤ)) (k := 2) (w := 2)
        (Int.natCast_nonneg id) (by decide) (by decide) (by omega)
      simp only [gsaId, hid, List.length_append, List.length_cons, List.length_nil]
      omega

lemma length_gsaDop_le (e : GpsLocationExtended) : (gsaDop e).length ≤ 129 := by
  apply length_ite_le _ (by decide)
  have hpdop := length_oneDecimal_le e.pdop
  have hhdop := length_oneDecimal_le e.hdop
  have hvdop := length_oneDecimal_le e.vdop
  simp only [List.length_append, List.length_cons, List.length_nil]
  omega

/-- The body of a GSA sentence. -/
def gsaBody (e : GpsLocationExtended) (m : SvMeta) (svUsed : List ℕ) : List Char :=
  m.talker.text ++ "GSA,A,".toList ++ [fixType svUsed.length, ','] ++
    (List.range 12).flatMap (gsaId svUsed) ++ gsaDop e ++ formatInt m.systemId

lemma appended_gsaAppends (e : GpsLocationExtended) (m : SvMeta) (svUsed : List ℕ) :
    appended (gsaAppends e m svUsed) = '$' :: gsaBody e m svUsed := by
  simp only [appended, gsaAppends, gsaBody, List.flatMap_append, List.flatMap_cons,
    List.flatMap_nil, List.flatMap_map, Append.text, List.append_nil, List.nil_append,
    List.cons_append, List.append_assoc]

/-- GSA: twelve ids and three numbers, for 177 characters at most. -/
lemma length_gsaAppends_lt (e : GpsLocationExtended) (hm : m.InTable) :
    (appended (gsaAppends e m (svUsedList m.mask m.svIdOffset))).length + 5 <
      nmeaSentenceMaxLength := by
  set svUsed := svUsedList m.mask m.svIdOffset with hsvUsed
  have hids : ((List.range 12).flatMap (gsaId svUsed)).length ≤ 12 * 3 := by
    apply (length_flatMap_le fun i _ => length_gsaId_le (svUsedList_lt hm) i).trans
    rw [List.length_range]
  have hdop := length_gsaDop_le e
  have hsystem := length_formatInt_nat_le (k := 1) (by decide) hm.systemId_lt
  rw [appended_gsaAppends]
  simp only [gsaBody, String.reduceToList, List.length_append, List.length_cons, List.length_nil,
    length_talker, nmeaSentenceMaxLength]
  omega

lemma complete_gsa (e : GpsLocationExtended) (hm : m.InTable) :
    (Sentence.print (gsaAppends e m (svUsedList m.mask m.svIdOffset))).Complete :=
  Sentence.complete_print (appended_gsaAppends e m _) (length_gsaAppends_lt e hm)

/-- Every sentence of a constellation. -/
lemma complete_generateGSA (e : GpsLocationExtended) {meta? : Option SvMeta}
    (hmeta : ∀ m, meta? = some m → m.InTable) :
    ∀ s ∈ (locNmeaGenerateGSA e meta?).2, s.Complete := by
  cases meta? with
  | none => exact List.forall_mem_nil _
  | some m =>
      simp only [locNmeaGenerateGSA]
      split
      · exact List.forall_mem_nil _
      · exact List.forall_mem_singleton.mpr (complete_gsa e (hmeta m rfl))

lemma complete_gsaStep (e : GpsLocationExtended) {r : GsaResult}
    (hr : ∀ s ∈ r.sentences, s.Complete) (svType : GnssSvType) (needCombine : Bool) :
    ∀ s ∈ (gsaStep e r svType needCombine).sentences, s.Complete := by
  intro s hs
  rcases List.mem_append.mp hs with hs | hs
  · exact hr s hs
  · exact complete_generateGSA e (fun m hm => (init_eq_some hm).1) s hs

lemma complete_gsaResult (e : GpsLocationExtended) :
    ∀ s ∈ (gsaResult e).sentences, s.Complete := by
  rw [gsaResult]
  apply List.foldlRecOn (motive := fun r : GsaResult => ∀ s ∈ r.sentences, s.Complete)
  · exact List.forall_mem_nil _
  · intro r hr constellation _
    exact complete_gsaStep e hr constellation.1 constellation.2

end Gsa

/-! ## Position reports -/

lemma forall_untilFailed {P : Sentence → Prop} {sentences : List Sentence}
    (h : ∀ s ∈ sentences, P s) : ∀ s ∈ untilFailed sentences, P s := by
  induction sentences with
  | nil => exact List.forall_mem_nil _
  | cons s rest ih =>
      obtain ⟨hs, hrest⟩ := List.forall_mem_cons.mp h
      apply List.forall_mem_cons.mpr ⟨hs, _⟩
      split_ifs
      · exact List.forall_mem_nil _
      · exact ih hrest

lemma complete_blank {text body : List Char} (hbody : text = '$' :: body)
    (hlength : text.length + 5 < nmeaSentenceMaxLength) : (Sentence.blank text).Complete := by
  have htake : text.take (nmeaSentenceMaxLength - 1) = text := List.take_of_length_le (by omega)
  have hfits : Sentence.Fits { text := text.take (nmeaSentenceMaxLength - 1) } := by
    refine ⟨rfl, List.forall_mem_nil _, ?_⟩
    show (nmeaSentenceMaxLength : ℤ) - _ ≤ nmeaSentenceMaxLength
    omega
  rw [htake] at hfits
  rw [Sentence.blank, htake]
  exact hfits.complete hbody hlength

/-- Every sentence of a position report. -/
theorem complete_generatePos {location : LocGpsLocation} (h : location.InRange)
    (e : GpsLocationExtended) (generate_nmea : Bool) :
    ∀ s ∈ locNmeaGeneratePos location e generate_nmea, s.Complete := by
  unfold locNmeaGeneratePos
  cases gmtime (location.timestamp.tdiv 1000) with
  | none => exact List.forall_mem_nil _
  | some tm =>
      cases generate_nmea with
      | true =>
          intro s hs
          rcases List.mem_append.mp hs with hs | hs
          · exact complete_gsaResult e s hs
          · refine forall_untilFailed ?_ s hs
            simp only [List.forall_mem_cons, List.not_mem_nil, false_imp_iff, implies_true,
              and_true]
            exact ⟨complete_vtg _ location e, complete_rmc h _ tm e, complete_gga h _ tm _ e⟩
      | false =>
          simp only [Bool.false_eq_true, if_false, List.forall_mem_map, List.forall_mem_cons,
            List.not_mem_nil, false_imp_iff, implies_true, and_true]
          refine ⟨?_, ?_, ?_, ?_, ?_, ?_⟩ <;> exact complete_blank rfl (by decide)

/-! ## Satellite reports -/

/-- The measurements are in the range of `int`. -/
structure MeasuredSv.InRange (sv : MeasuredSv) : Prop where
  elevation : sv.elevation.value.AbsLE (2 ^ 31)
  azimuth : sv.azimuth.value.AbsLE (2 ^ 31)
  cN0Dbhz : sv.cN0Dbhz.value.AbsLE (2 ^ 31)

section Satellites

variable {m : SvMeta} {svs : List MeasuredSv}

lemma half_within :
    (BinaryFloat.ofRat binary64 0.5).value.Within ((2 ^ 31 : ℕ) : ℚ≥0) := by
  have hvalue : (BinaryFloat.ofRat binary64 0.5).value = .finite false (1 / 2) := by
    decide +kernel
  rw [hvalue]
  show (1 / 2 : ℚ≥0) ≤ ((2 ^ 31 : ℕ) : ℚ≥0)
  decide +kernel

/-- What is rounded to an integer has ten digits. -/
lemma natAbs_rounded_lt {x : BinaryFloat binary32} (hx : x.value.AbsLE (2 ^ 31)) :
    (rounded x).natAbs < 10 ^ 10 := by
  have hconvert : (x.convert binary64).value.Within ((2 ^ 31 : ℕ) : ℚ≥0) :=
    FloatFormat.within_round (by decide) (by exact_mod_cast hx.within)
  have hwithin : (BinaryFloat.ofRat binary64 0.5 + x.convert binary64).value.Within
      ((2 ^ 32 : ℕ) : ℚ≥0) := FloatFormat.within_round_add (by decide) half_within hconvert
  exact (FloatValue.natAbs_toInt_le hwithin).trans_lt (by norm_num)

/-- An id has five digits. -/
lemma length_svId_le (hm : m.InTable) (sv : MeasuredSv) :
    (formatIntPadded 2 ((sv.svId.toNat : ℤ) + m.svIdOffset)).length ≤ 5 := by
  have hid : ((sv.svId.toNat : ℤ) + m.svIdOffset).natAbs < 10 ^ 5 := by
    have hsvId := sv.svId.isLt
    have hoffset := hm.svIdOffset_le
    rw [glonassSvIdOffset] at hoffset
    omega
  exact length_formatIntPadded_nonneg_le (by omega) (by decide) (by decide) hid

/-- A satellite takes 42 characters at most. -/
lemma length_gsvItem_le (hm : m.InTable) {sv : MeasuredSv} (hsv : sv.InRange) :
    (appended (gsvItem m sv)).length ≤ 42 := by
  have hidLength := length_svId_le hm sv
  have helevation := length_formatIntPadded_le (k := 10) (w := 2) (by decide) (by decide)
    (natAbs_rounded_lt hsv.elevation)
  have hazimuth := length_formatIntPadded_le (k := 10) (w := 3) (by decide) (by decide)
    (natAbs_rounded_lt hsv.azimuth)
  have hcN0 := length_formatIntPadded_le (k := 10) (w := 2) (by decide) (by decide)
    (natAbs_rounded_lt hsv.cN0Dbhz)
  rw [gsvItem]
  split_ifs <;>
    simp only [appended, List.flatMap_cons, List.flatMap_nil, Append.text, List.length_append,
      List.length_cons, List.length_nil] <;>
    omega

lemma gsvItems_zero (m : SvMeta) (svs : List MeasuredSv) : gsvItems m 0 svs = ([], svs) := by
  cases svs <;> rfl

/-- As many satellites as there is room for, each with the length of one. -/
lemma length_gsvItems_le (hm : m.InTable) (hsvs : ∀ sv ∈ svs, sv.InRange) (room : ℕ) :
    (appended (gsvItems m room svs).1).length ≤ room * 42 := by
  induction svs generalizing room with
  | nil =>
      rw [gsvItems]
      exact Nat.zero_le _
  | cons sv svs ih =>
      obtain ⟨hsv, hsvs⟩ := List.forall_mem_cons.mp hsvs
      cases room with
      | zero =>
          simp [gsvItems_zero, appended]
      | succ room =>
          rw [gsvItems]
          split_ifs
          · have hitem := length_gsvItem_le hm hsv
            have hlater := ih hsvs room
            simp only [appended, List.flatMap_append, List.length_append] at hitem hlater ⊢
            omega
          · exact ih hsvs (room + 1)

/-- The walk goes on in the rest of the report. -/
lemma gsvItems_suffix (m : SvMeta) (room : ℕ) (svs : List MeasuredSv) :
    (gsvItems m room svs).2 <:+ svs := by
  induction svs generalizing room with
  | nil => rw [gsvItems]
  | cons sv svs ih =>
      cases room with
      | zero =>
          simp only [gsvItems_zero]
          exact List.suffix_rfl
      | succ room =>
          rw [gsvItems]
          split_ifs
          · exact (ih room).trans (List.suffix_cons sv svs)
          · exact (ih (room + 1)).trans (List.suffix_cons sv svs)

/-- The body of a GSV sentence. -/
def gsvBody (m : SvMeta) (sentenceCount sentenceNumber : ℕ) (items : List Char) : List Char :=
  m.talker.text ++ "GSV,".toList ++ formatInt sentenceCount ++ [','] ++
    formatInt sentenceNumber ++ [','] ++ formatIntPadded 2 m.svCount ++ items ++
    ',' :: formatInt m.signalId

lemma appended_gsvAppends (m : SvMeta) (sentenceCount sentenceNumber : ℕ) (items : List Append) :
    appended (gsvAppends m sentenceCount sentenceNumber items) =
      '$' :: gsvBody m sentenceCount sentenceNumber (appended items) := by
  simp only [appended, gsvAppends, gsvBody, List.flatMap_append, List.flatMap_cons,
    List.flatMap_nil, Append.text, List.append_nil, List.nil_append, List.cons_append,
    List.append_assoc]

/-- GSV: four satellites, for 185 characters at most. -/
lemma length_gsvAppends_lt (hm : m.InTable) (hcount : m.svCount < 100)
    {sentenceCount sentenceNumber : ℕ} (hsentenceCount : sentenceCount < 100)
    (hsentenceNumber : sentenceNumber < 100) {items : List Append}
    (hitems : (appended items).length ≤ 4 * 42) :
    (appended (gsvAppends m sentenceCount sentenceNumber items)).length + 5 <
      nmeaSentenceMaxLength := by
  have hfirst := length_formatInt_nat_le (k := 2) (by decide) hsentenceCount
  have hsecond := length_formatInt_nat_le (k := 2) (by decide) hsentenceNumber
  have hthird := length_formatIntPadded_nonneg_le (n := (m.svCount : ℤ)) (k := 2) (w := 2)
    (Int.natCast_nonneg _) (by decide) (by decide) (by omega)
  have hsignal := length_formatInt_nat_le (k := 1) (by decide) hm.signalId_lt
  rw [appended_gsvAppends]
  simp only [gsvBody, String.reduceToList, List.length_append, List.length_cons, List.length_nil,
    length_talker, nmeaSentenceMaxLength]
  omega

lemma complete_gsv (hm : m.InTable) (hcount : m.svCount < 100) {sentenceCount sentenceNumber : ℕ}
    (hsentenceCount : sentenceCount < 100) (hsentenceNumber : sentenceNumber < 100)
    {items : List Append} (hitems : (appended items).length ≤ 4 * 42) :
    (Sentence.print (gsvAppends m sentenceCount sentenceNumber items)).Complete :=
  Sentence.complete_print (appended_gsvAppends m sentenceCount sentenceNumber items)
    (length_gsvAppends_lt hm hcount hsentenceCount hsentenceNumber hitems)

/-- The sentences from one on. -/
lemma complete_gsvSentences (hm : m.InTable) (hcount : m.svCount < 100) {sentenceCount : ℕ}
    (hsentenceCount : sentenceCount < 100) (hsvs : ∀ sv ∈ svs, sv.InRange)
    {left sentenceNumber : ℕ} (hnumber : sentenceNumber + left ≤ sentenceCount + 1) :
    ∀ s ∈ gsvSentences m sentenceCount left sentenceNumber svs, s.Complete := by
  induction left generalizing sentenceNumber svs with
  | zero => exact List.forall_mem_nil _
  | succ left ih =>
      rw [gsvSentences]
      refine List.forall_mem_cons.mpr ⟨?_, ?_⟩
      · exact complete_gsv hm hcount hsentenceCount (by omega) (length_gsvItems_le hm hsvs 4)
      · split_ifs
        · exact List.forall_mem_nil _
        · have hrest : ∀ sv ∈ (gsvItems m 4 svs).2, sv.InRange :=
            fun sv hsv => hsvs sv ((gsvItems_suffix m 4 svs).subset hsv)
          exact ih hrest (by omega)

/-- The sentences of one constellation. -/
lemma complete_generateGSV (hm : m.InTable) (hcount : m.svCount ≤ gnssSvMax)
    {svNotify : GnssSvNotification} (hsvs : ∀ sv ∈ svNotify.gnssSvs, sv.InRange) :
    ∀ s ∈ locNmeaGenerateGSV svNotify m, s.Complete := by
  rw [gnssSvMax] at hcount
  by_cases hzero : m.svCount = 0
  · rw [locNmeaGenerateGSV, if_pos hzero]
    refine List.forall_mem_singleton.mpr ?_
    have hsignal := length_formatInt_nat_le (k := 1) (by decide) hm.signalId_lt
    apply Sentence.complete_print rfl
    simp only [appended, List.flatMap_cons, List.flatMap_nil, Append.text, String.reduceToList,
      List.length_append, List.length_cons, List.length_nil, length_talker, nmeaSentenceMaxLength]
    omega
  · have hsentences : (m.svCount / 4 + if m.svCount % 4 = 0 then 0 else 1) < 100 := by
      split_ifs <;> omega
    rw [locNmeaGenerateGSV, if_neg hzero]
    exact complete_gsvSentences hm (by omega) hsentences hsvs (Nat.le_of_eq (Nat.add_comm _ _))

/-- No more satellites are counted than there are. -/
lemma count_foldl_le (undefinedShift : ℤ → BitVec 32) (cache : SvCacheInfo) (svType : GnssSvType) :
    (svs.foldl (countSv undefinedShift) cache).count svType ≤ cache.count svType + svs.length := by
  induction svs generalizing cache with
  | nil => exact Nat.le_refl _
  | cons sv svs ih =>
      have hstep : (countSv undefinedShift cache sv).count svType ≤ cache.count svType + 1 := by
        by_cases hother : sv.type = .unknown ∨ sv.type = .sbas
        · rw [countSv, if_pos hother]
          exact Nat.le_succ _
        · rw [countSv, if_neg hother]
          show Function.update cache.count sv.type _ svType ≤ _
          rw [Function.update_apply]
          split_ifs with htype
          · rw [htype]
          · exact Nat.le_succ _
      have hrest := ih (countSv undefinedShift cache sv)
      rw [List.foldl_cons, List.length_cons]
      omega

/-- Every sentence of a satellite report. -/
theorem complete_generateSv (undefinedShift : ℤ → BitVec 32) {svNotify : GnssSvNotification}
    (hsvs : ∀ sv ∈ svNotify.gnssSvs, sv.InRange) :
    ∀ s ∈ locNmeaGenerateSv undefinedShift svNotify, s.Complete := by
  intro s hs
  obtain ⟨svType, -, hs⟩ := List.mem_flatMap.mp hs
  set cache := svNotify.gnssSvs.foldl (countSv undefinedShift) {} with hcache
  cases hmeta : locNmeaSvMetaInit cache svType false with
  | none =>
      rw [hmeta] at hs
      exact absurd hs List.not_mem_nil
  | some m =>
      rw [hmeta] at hs
      obtain ⟨hm, hcount⟩ := init_eq_some hmeta
      refine complete_generateGSV hm ?_ hsvs s hs
      calc m.svCount = cache.count svType := hcount
        _ ≤ 0 + svNotify.gnssSvs.length := count_foldl_le undefinedShift {} svType
        _ = svNotify.gnssSvs.length := Nat.zero_add _
        _ ≤ gnssSvMax := svNotify.count_le

end Satellites

/-! ## All reports -/

lemma isNmea_of_complete {sentences : List Sentence} (h : ∀ s ∈ sentences, s.Complete) :
    ∀ text ∈ nmeaArraystr sentences, IsNmea text := by
  intro text htext
  obtain ⟨s, hs, rfl⟩ := List.mem_map.mp htext
  exact (h s (List.mem_of_mem_filter hs)).isNmea

/-- Every sentence of every report is complete, and what is pushed are such sentences.  A `float`
field may be anything; its format bounds it. -/
theorem reports_complete (undefinedShift : ℤ → BitVec 32) {location : LocGpsLocation}
    (e : GpsLocationExtended) (generate_nmea : Bool) {svNotify : GnssSvNotification}
    (hlocation : location.InRange) (hsvs : ∀ sv ∈ svNotify.gnssSvs, sv.InRange) :
    ((∀ s ∈ locNmeaGeneratePos location e generate_nmea, s.Complete) ∧
      ∀ text ∈ nmeaArraystr (locNmeaGeneratePos location e generate_nmea), IsNmea text) ∧
    (∀ s ∈ locNmeaGenerateSv undefinedShift svNotify, s.Complete) ∧
      ∀ text ∈ nmeaArraystr (locNmeaGenerateSv undefinedShift svNotify), IsNmea text := by
  have hpos := complete_generatePos hlocation e generate_nmea
  have hsv := complete_generateSv undefinedShift hsvs
  exact ⟨⟨hpos, isNmea_of_complete hpos⟩, hsv, isNmea_of_complete hsv⟩

section Sample

def sampleLocation : LocGpsLocation where
  flags := 0x000f
  latitude := .ofRat binary64 (-89.99)
  longitude := .ofRat binary64 (-179.99)
  altitude := .ofRat binary64 (-10 ^ 38)
  speed := .ofRat binary32 (-3 * 10 ^ 38)
  bearing := .ofRat binary32 (-3 * 10 ^ 38)
  timestamp := -999

def sampleExtended : GpsLocationExtended where
  flags := 0x1007
  altitudeMeanSeaLevel := .ofRat binary32 (3 * 10 ^ 38)
  pdop := .ofRat binary32 1.5
  hdop := .ofRat binary32 0.9
  vdop := .ofRat binary32 1.2
  magneticDeviation := .ofRat binary32 (-3 * 10 ^ 38)
  gnss_sv_used_ids := ⟨0x1f, 0x0c, 0, 0, 0⟩
  navSolutionMask := 0
  tech_mask := 0

def sampleNotification : GnssSvNotification where
  gnssSvs :=
    [{ svId := 7, type := .gps, gnssSvOptionsMask := 4, cN0Dbhz := .ofRat binary32 33.5
       elevation := .ofRat binary32 (-2 ^ 31), azimuth := .ofRat binary32 359.5 }]
  count_le := by decide

/-- Fields near the end of their ranges, in a report before 1970. -/
theorem reports_complete_sample :
    ((∀ s ∈ locNmeaGeneratePos sampleLocation sampleExtended true, s.Complete) ∧
      ∀ text ∈ nmeaArraystr (locNmeaGeneratePos sampleLocation sampleExtended true),
        IsNmea text) ∧
    (∀ s ∈ locNmeaGenerateSv (fun _ => 0) sampleNotification, s.Complete) ∧
      ∀ text ∈ nmeaArraystr (locNmeaGenerateSv (fun _ => 0) sampleNotification), IsNmea text :=
  reports_complete (fun _ => 0) sampleExtended true
    ⟨by decide +kernel, by decide +kernel, by decide +kernel⟩
    (List.forall_mem_singleton.mpr ⟨by decide +kernel, by decide +kernel, by decide +kernel⟩)

end Sample

end LocHal.LocNmea
