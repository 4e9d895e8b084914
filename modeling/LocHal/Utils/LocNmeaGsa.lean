import LocHal.Utils.LocNmeaGsv

/-!
# The satellites used (`gps/utils/loc_nmea.cpp`)

The GSA sentences of a position report are made from masks that go through `loc_sv_cache_info`,
where they have 32 bits, and where the masks of QZSS and BeiDou are each the other's.

`reportsUsed_iff`: what is read back from the sentences are the first twelve satellites of every
mask exactly when nothing of that shows, that is when they are the first twelve of the lower half of
the mask that was read.
-/

namespace LocHal.LocNmea

/-! ## Reading a sentence -/

/-- The fields of a sentence, between the commas. -/
def fieldsOf (text : List Char) : List (List Char) := text.splitOn ','

def isGsa (text : List Char) : Bool := (text.drop 3).take 3 = ['G', 'S', 'A']

/-- The system id of a GSA sentence, which the checksum follows. -/
def gsaSystemId (text : List Char) : Option ℕ :=
  (fieldsOf text)[18]?.map fun field => Nat.ofDigitChars 10 (field.takeWhile (· ≠ '*')) 0

/-- The satellites of a GSA sentence. -/
def gsaSatellites (text : List Char) : List ℕ :=
  ((((fieldsOf text).drop 3).take 12).filter (· ≠ [])).map fun field =>
    Nat.ofDigitChars 10 field 0

section Fields

variable {field : List Char} {n : ℕ}

lemma comma_notMem (h : ∀ c ∈ field, IsNumberChar c) : ',' ∉ field := fun hc =>
  absurd (h ',' hc) (by decide)

lemma star_notMem (h : ∀ c ∈ field, IsNumberChar c) : '*' ∉ field := fun hc =>
  absurd (h '*' hc) (by decide)

lemma fieldsOf_cons (h : ',' ∉ field) (rest : List Char) :
    fieldsOf (field ++ ',' :: rest) = field :: fieldsOf rest :=
  List.splitOn_append_cons_self_of_not_mem h rest

/-- A run of fields, each with its comma. -/
lemma fieldsOf_flatMap {α : Type*} (l : List α) (f : α → List Char) (h : ∀ a ∈ l, ',' ∉ f a)
    (rest : List Char) :
    fieldsOf (l.flatMap (fun a => f a ++ [',']) ++ rest) = l.map f ++ fieldsOf rest := by
  induction l with
  | nil => rfl
  | cons a l ih =>
      obtain ⟨ha, hl⟩ := List.forall_mem_cons.mp h
      rw [List.flatMap_cons, List.append_assoc, List.append_assoc, List.singleton_append,
        fieldsOf_cons ha, ih hl, List.map_cons, List.cons_append]

/-- The field of the `i`th satellite. -/
def satelliteField (svUsed : List ℕ) (i : ℕ) : List Char :=
  (svUsed[i]?.map fun id : ℕ => formatIntPadded 2 id).getD []

lemma gsaId_eq (svUsed : List ℕ) (i : ℕ) : gsaId svUsed i = satelliteField svUsed i ++ [','] := by
  rw [gsaId, satelliteField]
  cases svUsed[i]? with
  | none => rfl
  | some id => rfl

lemma comma_notMem_satelliteField (svUsed : List ℕ) (i : ℕ) :
    ',' ∉ satelliteField svUsed i := by
  rw [satelliteField]
  cases svUsed[i]? with
  | none => exact List.not_mem_nil
  | some id => exact comma_notMem (isNumberChar_formatIntPadded 2 id)

/-- The fields that are not empty are those of the satellites. -/
lemma filter_satelliteField (svUsed : List ℕ) (n : ℕ) :
    ((List.range n).map (satelliteField svUsed)).filter (· ≠ []) =
      (svUsed.take n).map fun id : ℕ => formatIntPadded 2 id := by
  induction n generalizing svUsed with
  | zero => rfl
  | succ n ih =>
      rw [List.range_succ_eq_map, List.map_cons, List.map_map]
      cases svUsed with
      | nil =>
          have hempty : ∀ i, satelliteField [] i = [] := fun i => by
            rw [satelliteField, List.getElem?_nil, Option.map_none, Option.getD_none]
          simp [hempty]
      | cons id svUsed =>
          have hhead : satelliteField (id :: svUsed) 0 = formatIntPadded 2 id := rfl
          have htail : satelliteField (id :: svUsed) ∘ Nat.succ = satelliteField svUsed := rfl
          rw [hhead, htail, List.filter_cons_of_pos (by simp [formatIntPadded_ne_nil]), ih,
            List.take_succ_cons, List.map_cons]

lemma comma_notMem_oneDecimal {f : FloatFormat} (x : BinaryFloat f) : ',' ∉ oneDecimal x :=
  comma_notMem (isNumberChar_formatFixed 1 x.value)

/-- The dilutions of precision take three fields, printed or not. -/
lemma exists_fieldsOf_gsaDop (e : GpsLocationExtended) :
    ∃ pdop hdop vdop, ∀ rest,
      fieldsOf (gsaDop e ++ rest) = pdop :: hdop :: vdop :: fieldsOf rest := by
  by_cases hdop : e.hasDop = true
  · refine ⟨oneDecimal e.pdop, oneDecimal e.hdop, oneDecimal e.vdop, fun rest => ?_⟩
    rw [gsaDop, if_pos hdop]
    simp only [List.append_assoc, List.cons_append, List.nil_append]
    rw [fieldsOf_cons (comma_notMem_oneDecimal _), fieldsOf_cons (comma_notMem_oneDecimal _),
      fieldsOf_cons (comma_notMem_oneDecimal _)]
  · refine ⟨[], [], [], fun rest => ?_⟩
    rw [gsaDop, if_neg hdop]
    exact (fieldsOf_cons List.not_mem_nil _).trans (congrArg _ ((fieldsOf_cons
      List.not_mem_nil _).trans (congrArg _ (fieldsOf_cons List.not_mem_nil _))))

lemma upperHexDigit_ne {n : ℕ} (h : n < 16) : upperHexDigit n ≠ ',' := by
  have hall : ∀ n < 16, upperHexDigit n ≠ ',' := by decide
  exact hall n h

/-- The checksum has no comma. -/
lemma nmeaText_eq (body : List Char) :
    ∃ mark, ',' ∉ mark ∧ nmeaText body = '$' :: body ++ '*' :: mark := by
  refine ⟨_, ?_, rfl⟩
  have hbyte := (Sentence.checksum body).toNat_lt
  have hhigh := upperHexDigit_ne (by omega : (Sentence.checksum body).toNat / 16 < 16)
  have hlow := upperHexDigit_ne (by omega : (Sentence.checksum body).toNat % 16 < 16)
  simp [hhigh.symm, hlow.symm]

end Fields

section GsaFields

variable {m : SvMeta} {svUsed : List ℕ}

/-- The fields of a GSA sentence. -/
lemma fieldsOf_gsa (e : GpsLocationExtended) (htalker : ',' ∉ m.talker.text) (svUsed : List ℕ) :
    ∃ pdop hdop vdop mark, fieldsOf (nmeaText (gsaBody e m svUsed)) =
      [('$' :: m.talker.text) ++ ['G', 'S', 'A'], ['A'], [fixType svUsed.length]] ++
        (List.range 12).map (satelliteField svUsed) ++
        [pdop, hdop, vdop, formatInt m.systemId ++ '*' :: mark] := by
  obtain ⟨mark, hmark, htext⟩ := nmeaText_eq (gsaBody e m svUsed)
  obtain ⟨pdop, hdop, vdop, hdops⟩ := exists_fieldsOf_gsaDop e
  refine ⟨pdop, hdop, vdop, mark, ?_⟩
  have hhead : ',' ∉ ('$' :: m.talker.text) ++ ['G', 'S', 'A'] := by simp [htalker]
  have hfix : ',' ∉ [fixType svUsed.length] := by
    rw [fixType]
    split_ifs <;> decide
  have hlast : ',' ∉ formatInt m.systemId ++ '*' :: mark := by
    have hnumber : ',' ∉ formatInt m.systemId := comma_notMem (isNumberChar_formatInt _)
    simp [hnumber, hmark]
  have hids : ∀ i, gsaId svUsed i = satelliteField svUsed i ++ [','] := gsaId_eq svUsed
  have hsplit : nmeaText (gsaBody e m svUsed) =
      (('$' :: m.talker.text) ++ ['G', 'S', 'A']) ++ ',' :: (['A'] ++ ',' ::
        ([fixType svUsed.length] ++ ',' ::
          ((List.range 12).flatMap (fun i => satelliteField svUsed i ++ [',']) ++
            (gsaDop e ++ (formatInt m.systemId ++ '*' :: mark))))) := by
    rw [htext, gsaBody, funext hids]
    simp
  rw [hsplit, fieldsOf_cons hhead, fieldsOf_cons (by decide), fieldsOf_cons hfix,
    fieldsOf_flatMap _ _ (fun i _ => comma_notMem_satelliteField svUsed i), hdops]
  show _ :: _ :: _ :: (_ ++ pdop :: hdop :: vdop :: fieldsOf _) = _
  rw [fieldsOf, List.splitOn_eq_singleton hlast]
  simp

lemma isGsa_gsa (e : GpsLocationExtended) (m : SvMeta) (svUsed : List ℕ) :
    isGsa (nmeaText (gsaBody e m svUsed)) = true := rfl

lemma gsaSystemId_gsa (e : GpsLocationExtended) (htalker : ',' ∉ m.talker.text)
    (svUsed : List ℕ) : gsaSystemId (nmeaText (gsaBody e m svUsed)) = some m.systemId := by
  obtain ⟨pdop, hdop, vdop, mark, hfields⟩ := fieldsOf_gsa e htalker svUsed
  have hbefore : ∀ c ∈ formatInt m.systemId, decide (c ≠ '*') = true := fun c hc =>
    decide_eq_true fun heq => star_notMem (isNumberChar_formatInt _) (heq ▸ hc)
  have hlast : ([('$' :: m.talker.text) ++ ['G', 'S', 'A'], ['A'], [fixType svUsed.length]] ++
        (List.range 12).map (satelliteField svUsed) ++
        [pdop, hdop, vdop, formatInt m.systemId ++ '*' :: mark])[18]? =
      some (formatInt m.systemId ++ '*' :: mark) := rfl
  have htake : (formatInt m.systemId ++ '*' :: mark).takeWhile (fun c => decide (c ≠ '*')) =
      formatInt m.systemId := by
    rw [List.takeWhile_append_of_pos hbefore, List.takeWhile_cons_of_neg (by decide),
      List.append_nil]
  rw [gsaSystemId, hfields, hlast, Option.map_some, htake, ofDigitChars_formatInt]

lemma gsaSatellites_gsa (e : GpsLocationExtended) (htalker : ',' ∉ m.talker.text)
    (svUsed : List ℕ) :
    gsaSatellites (nmeaText (gsaBody e m svUsed)) = svUsed.take 12 := by
  obtain ⟨pdop, hdop, vdop, mark, hfields⟩ := fieldsOf_gsa e htalker svUsed
  have hids : (([('$' :: m.talker.text) ++ ['G', 'S', 'A'], ['A'], [fixType svUsed.length]] ++
        (List.range 12).map (satelliteField svUsed) ++
        [pdop, hdop, vdop, formatInt m.systemId ++ '*' :: mark]).drop 3).take 12 =
      (List.range 12).map (satelliteField svUsed) := rfl
  have hdecode : (fun field => Nat.ofDigitChars 10 field 0) ∘
      (fun id : ℕ => formatIntPadded 2 id) = id :=
    funext fun id => ofDigitChars_formatIntPadded 2 id
  rw [gsaSatellites, hfields, hids, filter_satelliteField, List.map_map, hdecode, List.map_id]

end GsaFields

/-! ## The sentences of a report -/

section Report

variable {e : GpsLocationExtended} {svType : GnssSvType}

/-- The constellations whose sentences may have a common talker. -/
def combines : GnssSvType → Bool
  | .gps | .glonass | .galileo => true
  | _ => false

/-- What the table holds for a constellation. -/
lemma exists_gsaInit (cache : SvCacheInfo) (hsvType : svType ∈ constellations) :
    ∃ m m₀, locNmeaSvMetaInit cache svType (combines svType) = some m ∧
      locNmeaSvMetaInit {} svType false = some m₀ ∧ m.svType = svType ∧
      m.mask = cache.usedMask svType ∧ m.svIdOffset = m₀.svIdOffset ∧
      m.systemId = m₀.systemId ∧ ',' ∉ m.talker.text := by
  have htalker : ∀ (c : Bool) (talker : Talker), ',' ∉ talker.text →
      ',' ∉ (if c then ('G', 'N') else talker : Talker).text := by
    intro c talker h
    cases c with
    | true => exact (by decide : ',' ∉ Talker.text ('G', 'N'))
    | false => exact h
  cases svType with
  | unknown => exact absurd hsvType (by decide)
  | sbas => exact absurd hsvType (by decide)
  | gps | glonass | galileo | qzss | beidou =>
      exact ⟨_, _, rfl, rfl, rfl, rfl, rfl, rfl, htalker _ _ (by decide)⟩

/-- Each constellation has a system id of its own. -/
lemma systemId_inj {t t' : GnssSvType} {m m' : SvMeta} (ht : t ∈ constellations)
    (ht' : t' ∈ constellations) (hm : locNmeaSvMetaInit {} t false = some m)
    (hm' : locNmeaSvMetaInit {} t' false = some m') (h : m.systemId = m'.systemId) : t = t' := by
  have hall : ∀ t ∈ constellations, ∀ t' ∈ constellations,
      (locNmeaSvMetaInit {} t false).map SvMeta.systemId =
        (locNmeaSvMetaInit {} t' false).map SvMeta.systemId → t = t' := by decide
  exact hall t ht t' ht' (by rw [hm, hm', Option.map_some, Option.map_some, h])

/-- The GSA sentences of a constellation, as they are pushed. -/
def gsaTexts (e : GpsLocationExtended) (svType : GnssSvType) : List (List Char) :=
  nmeaArraystr
    (locNmeaGenerateGSA e (locNmeaSvMetaInit (usedCache e) svType (combines svType))).2

lemma gsaResult_sentences (e : GpsLocationExtended) :
    nmeaArraystr (gsaResult e).sentences = constellations.flatMap (gsaTexts e) := by
  have hsentences : (gsaResult e).sentences = constellations.flatMap fun svType =>
      (locNmeaGenerateGSA e
        (locNmeaSvMetaInit (usedCache e) svType (combines svType))).2 := by
    simp [gsaResult, gsaStep, constellations, combines]
  rw [hsentences, nmeaArraystr_flatMap]
  rfl

lemma nmeaArraystr_append (l r : List Sentence) :
    nmeaArraystr (l ++ r) = nmeaArraystr l ++ nmeaArraystr r := by
  rw [nmeaArraystr, List.filter_append, List.map_append]
  rfl

/-- A constellation has one sentence, or none when it has no satellite and is not GPS. -/
lemma gsaTexts_eq {m : SvMeta}
    (hm : locNmeaSvMetaInit (usedCache e) svType (combines svType) = some m)
    (htype : m.svType = svType) :
    gsaTexts e svType =
      if (svUsedList m.mask m.svIdOffset).length = 0 ∧ svType ≠ .gps then []
      else [nmeaText (gsaBody e m (svUsedList m.mask m.svIdOffset))] := by
  have htable := (init_eq_some hm).1
  have hfailed := (complete_gsa e htable).not_failed
  have htext := Sentence.text_print (appended_gsaAppends e m _) (length_gsaAppends_lt e htable)
  rw [gsaTexts, hm, locNmeaGenerateGSA, htype]
  simp only
  split
  · rfl
  · rw [nmeaArraystr_cons hfailed, htext]
    rfl

/-- The sentences of the report with a system id. -/
def gsaOf (systemId : ℕ) (text : List Char) : Bool := isGsa text && gsaSystemId text = some systemId

/-- Of the GSA sentences, those with the system id of a constellation are its own. -/
lemma filter_gsaTexts (e : GpsLocationExtended) (hsvType : svType ∈ constellations) {m₀ : SvMeta}
    (hm₀ : locNmeaSvMetaInit {} svType false = some m₀) :
    (constellations.flatMap (gsaTexts e)).filter (gsaOf m₀.systemId) = gsaTexts e svType := by
  have hone : ∀ t ∈ constellations, (gsaTexts e t).filter (gsaOf m₀.systemId) =
      if t = svType then gsaTexts e t else [] := by
    intro t ht
    obtain ⟨m, m₁, hm, hm₁, htype, -, -, hid, htalker⟩ := exists_gsaInit (usedCache e) ht
    rw [gsaTexts_eq hm htype]
    split
    · split <;> rfl
    · rw [List.filter_singleton, gsaOf, isGsa_gsa, gsaSystemId_gsa e htalker, hid]
      by_cases htt : t = svType
      · subst htt
        have hsame : m₁ = m₀ := Option.some.inj (hm₁.symm.trans hm₀)
        simp [hsame]
      · have hne : m₁.systemId ≠ m₀.systemId := fun heq =>
          htt (systemId_inj ht hsvType hm₁ hm₀ heq)
        simp [htt, hne]
  rw [List.filter_flatMap, List.flatMap_congr hone]
  cases svType with
  | unknown => exact absurd hsvType (by decide)
  | sbas => exact absurd hsvType (by decide)
  | gps | glonass | galileo | qzss | beidou => simp [constellations]

end Report

/-! ## The other sentences -/

section Others

variable {s : Sentence} {a : Append} {appends : List Append} {text : List Char}

lemma text_le_append (s : Sentence) (a : Append) : s.text <+: (s.append a).text := by
  by_cases hf : s.failed = true
  · simp only [Sentence.append, hf, if_true]
    exact List.prefix_rfl
  · rw [Bool.not_eq_true] at hf
    cases a with
    | checked text =>
        simp only [Sentence.append, hf, Bool.false_eq_true, if_false]
        split
        · exact List.prefix_append _ _
        · exact List.prefix_append _ _
    | unchecked text =>
        simp only [Sentence.append, hf, Bool.false_eq_true, if_false]
        exact List.prefix_append _ _
    | last text =>
        simp only [Sentence.append, hf, Bool.false_eq_true, if_false]
        exact List.prefix_append _ _

lemma text_le_foldl (s : Sentence) (appends : List Append) :
    s.text <+: (appends.foldl Sentence.append s).text := by
  induction appends generalizing s with
  | nil => exact List.prefix_rfl
  | cons a appends ih => exact (text_le_append s a).trans (ih (s.append a))

/-- A sentence begins with what is printed first, whatever becomes of the rest. -/
lemma text_le_print (h : a.text.length < nmeaSentenceMaxLength) (appends : List Append) :
    a.text <+: (Sentence.print (a :: appends)).text := by
  have hfirst : (Sentence.append {} a).text = a.text := by
    have hroom : ([] : List Char).length + a.text.length < nmeaSentenceMaxLength := by
      rw [List.length_nil]
      omega
    exact (Sentence.fits_empty.append hroom).2.trans (List.nil_append _)
  have hrest := text_le_foldl (Sentence.append {} a) appends
  rw [hfirst] at hrest
  rw [Sentence.print, List.foldl_cons]
  split
  · exact hrest
  · exact hrest.trans (List.prefix_append _ _)

lemma isGsa_print (talker : Talker) (name rest : List Char) (hlength : name.length = 3)
    (hname : name ≠ ['G', 'S', 'A']) (ha : a.text = '$' :: talker.text ++ name ++ rest)
    (hroom : rest.length < 100) (appends : List Append) :
    isGsa (Sentence.print (a :: appends)).text = false := by
  have hlt : a.text.length < nmeaSentenceMaxLength := by
    rw [ha, List.length_append, List.length_append, List.length_cons, length_talker, hlength,
      nmeaSentenceMaxLength]
    omega
  obtain ⟨more, hmore⟩ := text_le_print hlt appends
  have hread : (((Sentence.print (a :: appends)).text).drop 3).take 3 = name := by
    have hdrop : ('$' :: talker.text ++ name ++ rest ++ more).drop 3 = name ++ (rest ++ more) :=
      List.append_assoc name rest more
    rw [← hmore, ha, hdrop, List.take_left' hlength]
  rw [isGsa, hread]
  exact decide_eq_false hname

/-- VTG, RMC and GGA are no GSA sentences, even where they do not come to their end. -/
lemma isGsa_others (talker : Talker) (tm : Tm) (svUsedCount : ℕ) (location : LocGpsLocation)
    (e : GpsLocationExtended) : ∀ text ∈ nmeaArraystr (untilFailed
      [.print (vtgAppends talker location e), .print (rmcAppends talker tm location e),
        .print (ggaAppends talker tm svUsedCount location e)]), isGsa text = false := by
  have htrack := length_vtgTrack_le location
  have hutc := length_utcText_le tm location.timestamp
  have hvtg : isGsa (Sentence.print (vtgAppends talker location e)).text = false := by
    refine isGsa_print talker ['V', 'T', 'G'] (',' :: vtgTrack location) rfl (by decide) rfl ?_ _
    rw [List.length_cons]
    omega
  have hrmc : isGsa (Sentence.print (rmcAppends talker tm location e)).text = false := by
    refine isGsa_print talker ['R', 'M', 'C']
      (',' :: (utcText tm location.timestamp ++ [',', 'A', ','])) rfl (by decide) ?_ ?_ _
    · exact List.append_assoc _ _ _
    · simp only [List.length_append, List.length_cons, List.length_nil]
      omega
  have hgga : isGsa (Sentence.print (ggaAppends talker tm svUsedCount location e)).text =
      false := by
    refine isGsa_print talker ['G', 'G', 'A']
      (',' :: (utcText tm location.timestamp ++ [','])) rfl (by decide) ?_ ?_ _
    · exact List.append_assoc _ _ _
    · simp only [List.length_append, List.length_cons, List.length_nil]
      omega
  have hall : ∀ s ∈ untilFailed
      [.print (vtgAppends talker location e), .print (rmcAppends talker tm location e),
        .print (ggaAppends talker tm svUsedCount location e)], isGsa s.text = false := by
    refine forall_untilFailed ?_
    simp only [List.forall_mem_cons, List.not_mem_nil, false_imp_iff, implies_true, and_true]
    exact ⟨hvtg, hrmc, hgga⟩
  intro text htext
  obtain ⟨s, hs, rfl⟩ := List.mem_map.mp htext
  exact hall s (List.mem_of_mem_filter hs)

end Others

/-! ## The masks -/

/-- The first twelve of the bits below `n` that are set. -/
def firstUsed (n : ℕ) (mask : BitVec 64) : List ℕ :=
  ((List.range n).filter mask.getLsbD).take maxSatellitesInUse

/-- The mask that is read for a constellation. -/
def readMask (used : GnssSvUsedInPosition) : GnssSvType → BitVec 64
  | .qzss => used.bds_sv_used_ids_mask
  | .beidou => used.qzss_sv_used_ids_mask
  | svType => SvReport.usedIdsMask used svType

/-- There is one GSA sentence with the system id of the constellation, and its satellites are the
first twelve of the mask, as ids. -/
def ReportsUsed (texts : List (List Char)) (used : GnssSvUsedInPosition) (svType : GnssSvType) :
    Prop :=
  ∃ m text, locNmeaSvMetaInit {} svType false = some m ∧
    texts.filter (gsaOf m.systemId) = [text] ∧
    gsaSatellites text = (firstUsed 64 (SvReport.usedIdsMask used svType)).map
      fun bit => bit + 1 + m.svIdOffset

section Masks

variable {e : GpsLocationExtended} {svType : GnssSvType}

lemma usedMask_eq (hused : e.hasGnssSvUsedData = true) (hsvType : svType ∈ constellations) :
    (usedCache e).usedMask svType = (readMask e.gnss_sv_used_ids svType).truncate 32 := by
  cases svType with
  | unknown => exact absurd hsvType (by decide)
  | sbas => exact absurd hsvType (by decide)
  | gps | glonass | galileo | qzss | beidou => simp only [usedCache, hused, if_true]; rfl

/-- The satellites that are printed are the first twelve in the lower half of the mask. -/
lemma take_svUsedList (mask : BitVec 64) (svIdOffset : ℕ) :
    (svUsedList (mask.truncate 32) svIdOffset).take 12 =
      (firstUsed 32 mask).map fun bit => bit + 1 + svIdOffset := by
  have hbits : (List.range 32).filter (mask.truncate 32).getLsbD =
      (List.range 32).filter mask.getLsbD := by
    refine List.filter_congr fun i hi => ?_
    rw [BitVec.truncate_eq_setWidth, BitVec.getLsbD_setWidth,
      decide_eq_true (List.mem_range.mp hi), Bool.true_and]
  rw [svUsedList, hbits, firstUsed, List.map_take]
  rfl

lemma firstUsed_ne_nil {mask : BitVec 64} (h : mask ≠ 0) : firstUsed 64 mask ≠ [] := by
  intro hnil
  refine h (BitVec.eq_of_getLsbD_eq fun i hi => ?_)
  have hempty : (List.range 64).filter mask.getLsbD = [] :=
    (List.take_eq_nil_iff.mp hnil).resolve_left (by decide)
  have hbit := List.filter_eq_nil_iff.mp hempty i (List.mem_range.mpr hi)
  rw [Bool.not_eq_true] at hbit
  exact hbit.trans BitVec.getLsbD_zero.symm

/-- A constellation with satellites, when the sentences are printed. -/
lemma reportsUsed_gsaTexts (hused : e.hasGnssSvUsedData = true) (hsvType : svType ∈ constellations)
    (hmask : SvReport.usedIdsMask e.gnss_sv_used_ids svType ≠ 0) {others : List (List Char)}
    (hothers : ∀ text ∈ others, isGsa text = false) :
    ReportsUsed (constellations.flatMap (gsaTexts e) ++ others) e.gnss_sv_used_ids svType ↔
      firstUsed 64 (SvReport.usedIdsMask e.gnss_sv_used_ids svType) =
        firstUsed 32 (readMask e.gnss_sv_used_ids svType) := by
  obtain ⟨m, m₀, hm, hm₀, htype, hmaskm, hoffset, -, htalker⟩ :=
    exists_gsaInit (usedCache e) hsvType
  have hfilter : (constellations.flatMap (gsaTexts e) ++ others).filter (gsaOf m₀.systemId) =
      gsaTexts e svType := by
    rw [List.filter_append, filter_gsaTexts e hsvType hm₀,
      List.filter_eq_nil_iff.mpr fun text htext => by simp [gsaOf, hothers text htext],
      List.append_nil]
  have htake : (svUsedList m.mask m.svIdOffset).take 12 =
      (firstUsed 32 (readMask e.gnss_sv_used_ids svType)).map fun bit =>
        bit + 1 + m₀.svIdOffset := by
    rw [hmaskm, usedMask_eq hused hsvType, take_svUsedList, hoffset]
  have hinj : Function.Injective fun bit => bit + 1 + m₀.svIdOffset := fun _ _ h =>
    Nat.add_right_cancel (Nat.add_right_cancel h)
  constructor
  · rintro ⟨m₁, text, hm₁, hone, hsatellites⟩
    have hsame : m₁ = m₀ := Option.some.inj (hm₁.symm.trans hm₀)
    subst hsame
    rw [hfilter, gsaTexts_eq hm htype] at hone
    split at hone
    · cases hone
    · rw [← List.singleton_inj.mp hone, gsaSatellites_gsa e htalker, htake] at hsatellites
      exact (List.map_injective_iff.mpr hinj hsatellites).symm
  · intro hfirst
    have hnil : ¬ ((svUsedList m.mask m.svIdOffset).length = 0 ∧ svType ≠ .gps) := by
      rintro ⟨hlength, -⟩
      rw [List.length_eq_zero_iff] at hlength
      rw [hlength, List.take_nil, ← hfirst] at htake
      exact firstUsed_ne_nil hmask (List.map_eq_nil_iff.mp htake.symm)
    refine ⟨m₀, nmeaText (gsaBody e m (svUsedList m.mask m.svIdOffset)), hm₀, ?_, ?_⟩
    · rw [hfilter, gsaTexts_eq hm htype, if_neg hnil]
    · rw [gsaSatellites_gsa e htalker, htake, hfirst]

/-- The blank GSA sentences have no field for the system id. -/
lemma gsaSystemId_blank (location : LocGpsLocation) (e : GpsLocationExtended) :
    ∀ text ∈ nmeaArraystr (locNmeaGeneratePos location e false),
      isGsa text = true → gsaSystemId text = none := by
  unfold locNmeaGeneratePos
  cases gmtime (location.timestamp.tdiv 1000) with
  | none => exact List.forall_mem_nil _
  | some tm =>
      simp only [Bool.false_eq_true, if_false]
      decide +kernel

lemma not_reportsUsed_blank (location : LocGpsLocation) (used : GnssSvUsedInPosition) :
    ¬ ReportsUsed (nmeaArraystr (locNmeaGeneratePos location e false)) used svType := by
  rintro ⟨m, text, -, hone, -⟩
  obtain ⟨htext, hgsa⟩ := List.mem_filter.mp (hone ▸ List.mem_singleton_self text)
  rw [gsaOf, Bool.and_eq_true] at hgsa
  have hid := gsaSystemId_blank location e text htext hgsa.1
  rw [hid] at hgsa
  exact absurd (of_decide_eq_true hgsa.2) nofun

/-- One constellation of a report. -/
lemma reportsUsed_generatePos (location : LocGpsLocation) (generate_nmea : Bool)
    (hused : e.hasGnssSvUsedData = true) (hsvType : svType ∈ constellations)
    (hmask : SvReport.usedIdsMask e.gnss_sv_used_ids svType ≠ 0) :
    ReportsUsed (nmeaArraystr (locNmeaGeneratePos location e generate_nmea)) e.gnss_sv_used_ids
        svType ↔
      generate_nmea = true ∧ gmtime (location.timestamp.tdiv 1000) ≠ none ∧
        firstUsed 64 (SvReport.usedIdsMask e.gnss_sv_used_ids svType) =
          firstUsed 32 (readMask e.gnss_sv_used_ids svType) := by
  cases generate_nmea with
  | false => exact iff_of_false (not_reportsUsed_blank location _) fun h => nomatch h.1
  | true =>
      unfold locNmeaGeneratePos
      cases gmtime (location.timestamp.tdiv 1000) with
      | none =>
          refine iff_of_false ?_ fun h => h.2.1 rfl
          rintro ⟨m, text, -, hone, -⟩
          cases hone
      | some tm =>
          simp only [if_true, nmeaArraystr_append, gsaResult_sentences]
          rw [reportsUsed_gsaTexts hused hsvType hmask (isGsa_others _ tm _ location e)]
          exact ⟨fun h => ⟨trivial, Option.some_ne_none tm, h⟩, fun h => h.2.2⟩

end Masks

/-- **The satellites used.** The sentences report every mask that is not empty exactly when they are
asked for, the time is one that the calendar has, and of each such mask the first twelve satellites
are the first twelve in the lower half of the mask that is read: its own for GPS, GLONASS and
Galileo, and the other's for QZSS and BeiDou. -/
theorem reportsUsed_iff (location : LocGpsLocation) {e : GpsLocationExtended}
    (generate_nmea : Bool) (hused : e.hasGnssSvUsedData = true) :
    (∀ svType ∈ constellations, SvReport.usedIdsMask e.gnss_sv_used_ids svType ≠ 0 →
      ReportsUsed (nmeaArraystr (locNmeaGeneratePos location e generate_nmea)) e.gnss_sv_used_ids
        svType) ↔
      ∀ svType ∈ constellations, SvReport.usedIdsMask e.gnss_sv_used_ids svType ≠ 0 →
        generate_nmea = true ∧ gmtime (location.timestamp.tdiv 1000) ≠ none ∧
          firstUsed 64 (SvReport.usedIdsMask e.gnss_sv_used_ids svType) =
            firstUsed 32 (readMask e.gnss_sv_used_ids svType) :=
  forall_congr' fun _ => forall_congr' fun hsvType => forall_congr' fun hmask =>
    reportsUsed_generatePos location generate_nmea hused hsvType hmask

section Sample

/-- The first satellite of QZSS has been used, and no other. -/
def qzssExtended : GpsLocationExtended :=
  { sampleExtended with gnss_sv_used_ids := ⟨0, 0, 0, 0, 1⟩ }

/-- The five satellites of GPS and the two of GLONASS are reported. -/
theorem reportsUsed_sample :
    ReportsUsed (nmeaArraystr (locNmeaGeneratePos sampleLocation sampleExtended true))
        sampleExtended.gnss_sv_used_ids .gps ∧
      ReportsUsed (nmeaArraystr (locNmeaGeneratePos sampleLocation sampleExtended true))
        sampleExtended.gnss_sv_used_ids .glonass := by
  have hall := (reportsUsed_iff sampleLocation true (e := sampleExtended) (by decide +kernel)).mpr
    (by decide +kernel)
  exact ⟨hall .gps (by decide) (by decide), hall .glonass (by decide) (by decide)⟩

/-- A satellite of QZSS is reported under the system id of BeiDou, and not as what it is. -/
theorem qzss_not_reported :
    qzssExtended.hasGnssSvUsedData = true ∧ GnssSvType.qzss ∈ constellations ∧
      SvReport.usedIdsMask qzssExtended.gnss_sv_used_ids .qzss ≠ 0 ∧
      ¬ ReportsUsed (nmeaArraystr (locNmeaGeneratePos sampleLocation qzssExtended true))
        qzssExtended.gnss_sv_used_ids .qzss := by
  have hqzss : GnssSvType.qzss ∈ constellations := by decide
  have hmask : SvReport.usedIdsMask qzssExtended.gnss_sv_used_ids .qzss ≠ 0 := by decide
  have hused : qzssExtended.hasGnssSvUsedData = true := by decide +kernel
  refine ⟨hused, hqzss, hmask, fun hreported => ?_⟩
  have hfirst :=
    ((reportsUsed_generatePos sampleLocation true hused hqzss hmask).mp hreported).2.2
  exact absurd hfirst (by decide)

end Sample

end LocHal.LocNmea
