import LocHal.Utils.LocNmeaReports

/-!
# The satellites of a report (`gps/utils/loc_nmea.cpp`)

The number of GSV sentences of a constellation is computed from its count, and the loop that fills
them walks through the satellites of all constellations with an index that goes on from one sentence
to the next.

`satellites_listed`: the two agree.  Every satellite of a constellation stands in one of its
sentences, in the order of the report and four to a sentence at most, and the sentences are numbered
through; a constellation without satellites has a blank sentence.
-/

namespace LocHal.LocNmea

/-- The constellations that are reported, in the order of their sentences. -/
def constellations : List GnssSvType := [.gps, .glonass, .galileo, .qzss, .beidou]

/-- The satellites of a constellation, in the order of the report. -/
def satellitesOf (svType : GnssSvType) (svs : List MeasuredSv) : List MeasuredSv :=
  svs.filter fun sv => svType = sv.type

/-- The numbers of a satellite are printed with five characters at most, the signal strength if it
is printed.  An id never takes more. -/
structure MeasuredSv.ShortFields (sv : MeasuredSv) : Prop where
  elevation : (formatIntPadded 2 (rounded sv.elevation)).length ≤ 5
  azimuth : (formatIntPadded 3 (rounded sv.azimuth)).length ≤ 5
  cN0Dbhz : sv.cN0Dbhz.value.isPositive = true →
    (formatIntPadded 2 (rounded sv.cN0Dbhz)).length ≤ 5

/-- The text of the `number`th of `total` sentences of a constellation that has `count` satellites,
with the entries of a group of them. -/
def gsvText (m : SvMeta) (count total number : ℕ) (group : List MeasuredSv) : List Char :=
  nmeaText (m.talker.text ++ "GSV,".toList ++ formatInt total ++ [','] ++ formatInt number ++
    [','] ++ formatIntPadded 2 count ++ group.flatMap (fun sv => appended (gsvItem m sv)) ++
    ',' :: formatInt m.signalId)

/-- The text of the sentence of a constellation without satellites. -/
def gsvBlankText (m : SvMeta) : List Char :=
  nmeaText (m.talker.text ++ "GSV,1,1,0,".toList ++ formatInt m.signalId)

/-- The texts list the satellites: they are cut into groups of at most four, and each group has its
sentence, with its number, how many sentences there are, and how many satellites. -/
def ListsSatellites (m : SvMeta) (svs : List MeasuredSv) (texts : List (List Char)) : Prop :=
  if svs = [] then texts = [gsvBlankText m]
  else
    ∃ groups : List (List MeasuredSv),
      groups.flatten = svs ∧ (∀ group ∈ groups, group.length ≤ 4) ∧
      groups.length = (svs.length + 3) / 4 ∧
      texts = groups.mapIdx fun i group => gsvText m svs.length groups.length (i + 1) group

/-! ## The walk through the report -/

section Walk

variable {m : SvMeta} {svs : List MeasuredSv}

lemma satellitesOf_cons_of_eq {svType : GnssSvType} {sv : MeasuredSv} (h : svType = sv.type)
    (svs : List MeasuredSv) :
    satellitesOf svType (sv :: svs) = sv :: satellitesOf svType svs :=
  List.filter_cons_of_pos (by simpa using h)

lemma satellitesOf_cons_of_ne {svType : GnssSvType} {sv : MeasuredSv} (h : ¬ svType = sv.type)
    (svs : List MeasuredSv) : satellitesOf svType (sv :: svs) = satellitesOf svType svs :=
  List.filter_cons_of_neg (by simpa using h)

/-- A sentence takes the next satellites of the constellation, and the walk goes on behind them. -/
lemma gsvItems_eq (m : SvMeta) (room : ℕ) (svs : List MeasuredSv) :
    (gsvItems m room svs).1 = ((satellitesOf m.svType svs).take room).flatMap (gsvItem m) ∧
      satellitesOf m.svType (gsvItems m room svs).2 = (satellitesOf m.svType svs).drop room := by
  induction svs generalizing room with
  | nil =>
      rw [gsvItems, satellitesOf, List.filter_nil, List.take_nil, List.drop_nil]
      exact ⟨rfl, rfl⟩
  | cons sv svs ih =>
      cases room with
      | zero =>
          rw [gsvItems_zero, List.take_zero, List.drop_zero]
          exact ⟨rfl, rfl⟩
      | succ room =>
          rw [gsvItems]
          by_cases htype : m.svType = sv.type
          · obtain ⟨hitems, hrest⟩ := ih room
            rw [if_pos htype, satellitesOf_cons_of_eq htype, List.take_succ_cons,
              List.flatMap_cons, List.drop_succ_cons]
            exact ⟨congrArg (gsvItem m sv ++ ·) hitems, hrest⟩
          · rw [if_neg htype, satellitesOf_cons_of_ne htype]
            exact ih (room + 1)

/-- A satellite takes 24 characters at most. -/
lemma length_gsvItem_short_le (hm : m.InTable) {sv : MeasuredSv} (hsv : sv.ShortFields) :
    (appended (gsvItem m sv)).length ≤ 24 := by
  have hidLength := length_svId_le hm sv
  have helevation := hsv.elevation
  have hazimuth := hsv.azimuth
  rw [gsvItem]
  by_cases hpositive : sv.cN0Dbhz.value.isPositive = true
  · have hcN0 := hsv.cN0Dbhz hpositive
    simp only [if_pos hpositive, appended, List.flatMap_cons, List.flatMap_nil, Append.text,
      List.length_append, List.length_cons, List.length_nil]
    omega
  · simp only [if_neg hpositive, appended, List.flatMap_cons, List.flatMap_nil, Append.text,
      List.length_append, List.length_cons, List.length_nil]
    omega

lemma appended_flatMap (f : MeasuredSv → List Append) (group : List MeasuredSv) :
    appended (group.flatMap f) = group.flatMap fun sv => appended (f sv) :=
  List.flatMap_assoc ..

/-- The entries of four satellites. -/
lemma length_group_le (hm : m.InTable) {group : List MeasuredSv}
    (hgroup : ∀ sv ∈ group, sv.ShortFields) (hfour : group.length ≤ 4) :
    (appended (group.flatMap (gsvItem m))).length ≤ 4 * 42 := by
  have hle := length_flatMap_le fun sv hsv => length_gsvItem_short_le hm (hgroup sv hsv)
  rw [appended_flatMap]
  omega

/-- One sentence. -/
lemma print_gsv (hm : m.InTable) (hcount : m.svCount < 100) {total number : ℕ}
    (htotal : total < 100) (hnumber : number < 100) {group : List MeasuredSv}
    (hgroup : ∀ sv ∈ group, sv.ShortFields) (hfour : group.length ≤ 4) :
    (Sentence.print (gsvAppends m total number (group.flatMap (gsvItem m)))).failed = false ∧
      (Sentence.print (gsvAppends m total number (group.flatMap (gsvItem m)))).text =
        gsvText m m.svCount total number group := by
  have hroom := length_gsvAppends_lt hm hcount htotal hnumber (length_group_le hm hgroup hfour)
  have happended := appended_gsvAppends m total number (group.flatMap (gsvItem m))
  refine ⟨(Sentence.complete_print happended hroom).not_failed, ?_⟩
  rw [Sentence.text_print happended hroom, appended_flatMap]
  rfl

lemma nmeaArraystr_cons {s : Sentence} (hs : s.failed = false) (sentences : List Sentence) :
    nmeaArraystr (s :: sentences) = s.text :: nmeaArraystr sentences := by
  rw [nmeaArraystr, List.filter_cons_of_pos (by simp [hs])]
  rfl

/-- The sentences from one on.  There are as many to come as the satellites to come need, so that
the loop ends with the last of them. -/
lemma gsvSentences_texts (hm : m.InTable) (hcount : m.svCount < 100) {total : ℕ}
    (htotal : total < 100) (hsvs : ∀ sv ∈ svs, sv.ShortFields) {left number : ℕ}
    (hnumber : number + left ≤ total + 1)
    (hleft : left = ((satellitesOf m.svType svs).length + 3) / 4) :
    ∃ groups : List (List MeasuredSv), groups.flatten = satellitesOf m.svType svs ∧
      (∀ group ∈ groups, group.length ≤ 4) ∧ groups.length = left ∧
      nmeaArraystr (gsvSentences m total left number svs) =
        groups.mapIdx fun i group => gsvText m m.svCount total (number + i) group := by
  induction left generalizing number svs with
  | zero =>
      have hnil : satellitesOf m.svType svs = [] := by
        rw [← List.length_eq_zero_iff]
        omega
      exact ⟨[], by rw [hnil, List.flatten_nil], List.forall_mem_nil _, rfl, rfl⟩
  | succ left ih =>
      obtain ⟨hitems, hrest⟩ := gsvItems_eq m 4 svs
      set group := (satellitesOf m.svType svs).take 4 with hgroup
      have hfour : group.length ≤ 4 := List.length_take_le 4 _
      have hshort : ∀ sv ∈ group, sv.ShortFields := fun sv hsv =>
        hsvs sv (List.mem_of_mem_filter (List.mem_of_mem_take hsv))
      obtain ⟨hfailed, htext⟩ := print_gsv hm hcount htotal (by omega : number < 100) hshort hfour
      have hshort' : ∀ sv ∈ (gsvItems m 4 svs).2, sv.ShortFields := fun sv hsv =>
        hsvs sv ((gsvItems_suffix m 4 svs).subset hsv)
      have hleft' : left = ((satellitesOf m.svType (gsvItems m 4 svs).2).length + 3) / 4 := by
        rw [hrest, List.length_drop]
        omega
      obtain ⟨groups, hflatten, hgroups, hlength, htexts⟩ :=
        ih hshort' (by omega : number + 1 + left ≤ total + 1) hleft'
      refine ⟨group :: groups, ?_, List.forall_mem_cons.mpr ⟨hfour, hgroups⟩, ?_, ?_⟩
      · rw [List.flatten_cons, hflatten, hrest, hgroup, List.take_append_drop]
      · rw [List.length_cons, hlength]
      · rw [gsvSentences]
        simp only [hitems, hfailed, Bool.false_eq_true, if_false]
        rw [nmeaArraystr_cons hfailed, htext, htexts, List.mapIdx_cons]
        simp only [Nat.add_zero, Nat.add_assoc, Nat.add_comm 1]

/-- The sentences of one constellation. -/
lemma generateGSV_texts (hm : m.InTable) {svNotify : GnssSvNotification}
    (hcount : m.svCount = (satellitesOf m.svType svNotify.gnssSvs).length)
    (hsvs : ∀ sv ∈ svNotify.gnssSvs, sv.ShortFields) :
    ListsSatellites m (satellitesOf m.svType svNotify.gnssSvs)
      (nmeaArraystr (locNmeaGenerateGSV svNotify m)) := by
  have hle : (satellitesOf m.svType svNotify.gnssSvs).length ≤ gnssSvMax :=
    (List.length_filter_le _ _).trans svNotify.count_le
  rw [gnssSvMax] at hle
  by_cases hzero : m.svCount = 0
  · have hnil : satellitesOf m.svType svNotify.gnssSvs = [] :=
      List.length_eq_zero_iff.mp (hcount.symm.trans hzero)
    have hsignal := length_formatInt_nat_le (k := 1) (by decide) hm.signalId_lt
    have happended : appended
        [.last ('$' :: m.talker.text ++ "GSV,1,1,0,".toList ++ formatInt m.signalId)] =
          '$' :: (m.talker.text ++ "GSV,1,1,0,".toList ++ formatInt m.signalId) := by
      rw [appended, List.flatMap_cons, List.flatMap_nil, List.append_nil, Append.text,
        List.cons_append, List.cons_append]
    have hroom : (appended [.last ('$' :: m.talker.text ++ "GSV,1,1,0,".toList ++
        formatInt m.signalId)]).length + 5 < nmeaSentenceMaxLength := by
      rw [happended]
      simp only [String.reduceToList, List.length_append, List.length_cons, List.length_nil,
        length_talker, nmeaSentenceMaxLength]
      omega
    rw [ListsSatellites, if_pos hnil, locNmeaGenerateGSV, if_pos hzero,
      nmeaArraystr_cons (Sentence.complete_print happended hroom).not_failed,
      Sentence.text_print happended hroom]
    rfl
  · have hne : ¬ satellitesOf m.svType svNotify.gnssSvs = [] := fun hnil =>
      hzero (hcount.trans (List.length_eq_zero_iff.mpr hnil))
    have htotal : m.svCount / 4 + (if m.svCount % 4 = 0 then 0 else 1) =
        ((satellitesOf m.svType svNotify.gnssSvs).length + 3) / 4 := by
      rw [← hcount]
      split
      · omega
      · omega
    rw [locNmeaGenerateGSV, if_neg hzero, ListsSatellites, if_neg hne, htotal]
    obtain ⟨groups, hflatten, hfour, hlength, htexts⟩ :=
      gsvSentences_texts hm (by omega) (by omega) hsvs (Nat.le_of_eq (Nat.add_comm 1 _)) rfl
    refine ⟨groups, hflatten, hfour, hlength, ?_⟩
    rw [htexts, hlength, hcount]
    simp only [Nat.add_comm 1]

end Walk

/-! ## The count -/

/-- Every satellite of a constellation is counted. -/
lemma count_foldl_eq (undefinedShift : ℤ → BitVec 32) (svs : List MeasuredSv) (cache : SvCacheInfo)
    {svType : GnssSvType} (hsvType : svType ∈ constellations) :
    (svs.foldl (countSv undefinedShift) cache).count svType =
      cache.count svType + (satellitesOf svType svs).length := by
  induction svs generalizing cache with
  | nil => rfl
  | cons sv svs ih =>
      rw [List.foldl_cons, ih]
      by_cases htype : svType = sv.type
      · subst htype
        have hother : ¬ (sv.type = .unknown ∨ sv.type = .sbas) := by
          rintro (h | h)
          · rw [h] at hsvType
            exact absurd hsvType (by decide)
          · rw [h] at hsvType
            exact absurd hsvType (by decide)
        have hstep : (countSv undefinedShift cache sv).count sv.type =
            cache.count sv.type + 1 := by
          rw [countSv, if_neg hother]
          exact Function.update_self ..
        rw [hstep, satellitesOf_cons_of_eq rfl, List.length_cons]
        omega
      · rw [satellitesOf_cons_of_ne htype, countSv]
        split
        · rfl
        · exact congrArg (· + _) (Function.update_of_ne htype ..)

/-- A constellation of the table.  What is printed of it does not depend on the counts. -/
lemma exists_init (cache : SvCacheInfo) {svType : GnssSvType}
    (hsvType : svType ∈ constellations) :
    ∃ m m₀, locNmeaSvMetaInit cache svType false = some m ∧ m.svType = svType ∧
      locNmeaSvMetaInit {} svType false = some m₀ ∧
      ∀ svs texts, ListsSatellites m svs texts → ListsSatellites m₀ svs texts := by
  cases svType with
  | unknown => exact absurd hsvType (by decide)
  | sbas => exact absurd hsvType (by decide)
  | gps | glonass | galileo | qzss | beidou => exact ⟨_, _, rfl, rfl, rfl, fun _ _ h => h⟩

lemma nmeaArraystr_flatMap {α : Type*} (l : List α) (f : α → List Sentence) :
    nmeaArraystr (l.flatMap f) = l.flatMap fun a => nmeaArraystr (f a) := by
  simp only [nmeaArraystr, List.filter_flatMap, List.map_flatMap]

/-- **The satellites of a report.** The sentences are those of the five constellations, and those of
a constellation list its satellites. -/
theorem satellites_listed (undefinedShift : ℤ → BitVec 32) {svNotify : GnssSvNotification}
    (hsvs : ∀ sv ∈ svNotify.gnssSvs, sv.ShortFields) :
    ∃ texts : GnssSvType → List (List Char),
      nmeaArraystr (locNmeaGenerateSv undefinedShift svNotify) =
        constellations.flatMap texts ∧
      ∀ svType ∈ constellations, ∃ m, locNmeaSvMetaInit {} svType false = some m ∧
        ListsSatellites m (satellitesOf svType svNotify.gnssSvs) (texts svType) := by
  refine ⟨_, nmeaArraystr_flatMap constellations _, fun svType hsvType => ?_⟩
  set cache := svNotify.gnssSvs.foldl (countSv undefinedShift) {} with hcache
  obtain ⟨m, m₀, hinit, htype, hinit₀, hsame⟩ := exists_init cache hsvType
  obtain ⟨hm, hcount⟩ := init_eq_some hinit
  have hcount' : m.svCount = (satellitesOf m.svType svNotify.gnssSvs).length := by
    rw [hcount, hcache, count_foldl_eq undefinedShift _ _ hsvType, htype]
    exact Nat.zero_add _
  have hlists := generateGSV_texts hm hcount' hsvs
  rw [htype] at hlists
  rw [hinit]
  exact ⟨m₀, hinit₀, hsame _ _ hlists⟩

section Sample

/-- Five satellites of GPS, and one of GLONASS between them. -/
def mixedNotification : GnssSvNotification where
  gnssSvs := [(1, .gps), (2, .gps), (1, .glonass), (3, .gps), (4, .gps), (5, .gps)].map
    fun (svId, svType) =>
      { svId := svId, type := svType, gnssSvOptionsMask := 0, cN0Dbhz := .ofRat binary32 33.5
        elevation := .ofRat binary32 45, azimuth := .ofRat binary32 359.5 }
  count_le := by decide

theorem satellites_listed_mixed :
    ∃ texts : GnssSvType → List (List Char),
      nmeaArraystr (locNmeaGenerateSv (fun _ => 0) mixedNotification) =
        constellations.flatMap texts ∧
      ∀ svType ∈ constellations, ∃ m, locNmeaSvMetaInit {} svType false = some m ∧
        ListsSatellites m (satellitesOf svType mixedNotification.gnssSvs) (texts svType) :=
  satellites_listed (fun _ => 0) fun sv hsv => by
    have hfields : ∀ sv ∈ mixedNotification.gnssSvs,
        (formatIntPadded 2 (rounded sv.elevation)).length ≤ 5 ∧
          (formatIntPadded 3 (rounded sv.azimuth)).length ≤ 5 ∧
          (formatIntPadded 2 (rounded sv.cN0Dbhz)).length ≤ 5 := by decide +kernel
    obtain ⟨helevation, hazimuth, hcN0⟩ := hfields sv hsv
    exact ⟨helevation, hazimuth, fun _ => hcN0⟩

end Sample

end LocHal.LocNmea
