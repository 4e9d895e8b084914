import LocHal.Lib.UnorderedSet

/-!
# Maps of sets (`gps/utils/LocUnorderedSetMap.h`)

`LocUnorderedSetMap` keeps a set of values for each key.  A key with no values has no entry; the
operations that take values away drop an entry they leave empty.

An optional out-parameter (`goneVals`, `goneKeys`, `newKeys`) is returned here, and a caller that
passes `nullptr` ignores it.  Two places of the header go on using an iterator after the element it
designates was erased, which the language leaves undefined; what they then read is a parameter
(`FreedNode`), so that nothing proved here depends on it.
-/

namespace LocHal

/-- What an iterator gives once the element it designates has been erased: the key that
`iter->first` still reads after `mMap.erase(iter)`, and whether `b++` still finds the rest of the
set after `s2.erase(b)` or compares equal to `end()`. -/
structure FreedNode (κ ν : Type*) where
  key : κ → κ
  resumes : ν → Bool

section SetLoops

variable {α : Type*} [DecidableEq α]

/-- `trimSet`: `*fromSet` and `*goneVals` after the loop over `rVals`. -/
def trimSet (fromSet rVals goneVals : UnorderedSet α) : UnorderedSet α × UnorderedSet α :=
  rVals.elems.foldl
    (fun p val => if val ∈ p.1 then (p.1.erase val, p.2.insert val) else p) (fromSet, goneVals)

/-- The loop of `removeAndReturnInterset` over what `b` has yet to visit of `s2`: the common
elements so far and the two sets. -/
def intersetLoop (resumes : α → Bool) : List α → UnorderedSet α → UnorderedSet α → UnorderedSet α →
    UnorderedSet α × UnorderedSet α × UnorderedSet α
  | [], common, s1, s2 => (common, s1, s2)
  | b :: rest, common, s1, s2 =>
      if b ∈ s1 then
        -- `s2.erase(b)` invalidates `b`, and the loop increments it all the same
        if resumes b then intersetLoop resumes rest (common.insert b) (s1.erase b) (s2.erase b)
        else (common.insert b, s1.erase b, s2.erase b)
      else intersetLoop resumes rest common s1 s2

/-- `removeAndReturnInterset`: the returned set, and `*s1` and `*s2` as the call leaves them. -/
def removeAndReturnInterset (resumes : α → Bool) (s1 s2 : UnorderedSet α) :
    UnorderedSet α × UnorderedSet α × UnorderedSet α :=
  intersetLoop resumes s2.elems ∅ s1 s2

lemma mem_trimSet_fst {fromSet rVals goneVals : UnorderedSet α} {v : α} :
    v ∈ (trimSet fromSet rVals goneVals).1 ↔ v ∈ fromSet ∧ v ∉ rVals := by
  rw [trimSet, ← UnorderedSet.mem_elems (s := rVals)]
  generalize rVals.elems = l
  induction l generalizing fromSet goneVals with
  | nil => simp
  | cons a l ih =>
      rw [List.foldl_cons]
      split_ifs with ha
      · rw [ih, UnorderedSet.mem_erase, List.mem_cons]
        grind
      · rw [ih, List.mem_cons]
        constructor
        · rintro ⟨hv, hl⟩
          exact ⟨hv, by rintro (rfl | h); exacts [ha hv, hl h]⟩
        · rintro ⟨hv, hl⟩
          exact ⟨hv, fun h => hl (.inr h)⟩

lemma mem_trimSet_snd {fromSet rVals goneVals : UnorderedSet α} {v : α} :
    v ∈ (trimSet fromSet rVals goneVals).2 ↔ v ∈ goneVals ∨ (v ∈ fromSet ∧ v ∈ rVals) := by
  rw [trimSet, ← UnorderedSet.mem_elems (s := rVals)]
  generalize rVals.elems = l
  induction l generalizing fromSet goneVals with
  | nil => simp
  | cons a l ih =>
      rw [List.foldl_cons]
      split_ifs with ha
      · rw [ih, UnorderedSet.mem_insert, UnorderedSet.mem_erase, List.mem_cons]
        by_cases hva : v = a
        · subst hva
          grind
        · grind
      · rw [ih, List.mem_cons]
        by_cases hva : v = a
        · subst hva
          grind
        · grind

lemma subset_intersetLoop (resumes : α → Bool) (l : List α) (common s1 s2 : UnorderedSet α) {v : α}
    (hv : v ∈ common) : v ∈ (intersetLoop resumes l common s1 s2).1 := by
  induction l generalizing common s1 s2 with
  | nil => exact hv
  | cons b rest ih =>
      simp only [intersetLoop]
      split_ifs
      · exact ih _ _ _ (UnorderedSet.mem_insert.mpr (.inr hv))
      · exact UnorderedSet.mem_insert.mpr (.inr hv)
      · exact ih _ _ _ hv

/-- Whatever the loop finds, it found in both sets. -/
lemma mem_of_mem_intersetLoop {resumes : α → Bool} {l : List α} {common s1 s2 : UnorderedSet α}
    {v : α} (hv : v ∈ (intersetLoop resumes l common s1 s2).1) :
    v ∈ common ∨ (v ∈ s1 ∧ v ∈ l) := by
  induction l generalizing common s1 s2 with
  | nil => exact .inl hv
  | cons b rest ih =>
      simp only [intersetLoop] at hv
      split_ifs at hv with hb hr
      · rcases ih hv with h | ⟨h1, h2⟩
        · rcases UnorderedSet.mem_insert.mp h with rfl | h
          · exact .inr ⟨hb, List.mem_cons_self⟩
          · exact .inl h
        · exact .inr ⟨(UnorderedSet.mem_erase.mp h1).2, List.mem_cons_of_mem _ h2⟩
      · rcases UnorderedSet.mem_insert.mp hv with rfl | h
        · exact .inr ⟨hb, List.mem_cons_self⟩
        · exact .inl h
      · rcases ih hv with h | ⟨h1, h2⟩
        · exact .inl h
        · exact .inr ⟨h1, List.mem_cons_of_mem _ h2⟩

/-- The second set loses exactly what the loop finds. -/
lemma mem_intersetLoop_snd {resumes : α → Bool} {l : List α} {common s1 s2 : UnorderedSet α}
    (hdisj : ∀ v ∈ common, v ∉ s1) {v : α} :
    v ∈ (intersetLoop resumes l common s1 s2).2.2 ↔
      v ∈ s2 ∧ (v ∈ common ∨ v ∉ (intersetLoop resumes l common s1 s2).1) := by
  induction l generalizing common s1 s2 with
  | nil => simp only [intersetLoop]; grind
  | cons b rest ih =>
      simp only [intersetLoop]
      split_ifs with hb hr
      · have hb' : b ∉ common := fun h => hdisj b h hb
        have hfound :
            b ∈ (intersetLoop resumes rest (common.insert b) (s1.erase b) (s2.erase b)).1 :=
          subset_intersetLoop _ _ _ _ _ (UnorderedSet.mem_insert.mpr (.inl rfl))
        have hdisj' : ∀ v ∈ common.insert b, v ∉ s1.erase b := by
          intro v hv hv1
          obtain ⟨hne, hv1⟩ := UnorderedSet.mem_erase.mp hv1
          rcases UnorderedSet.mem_insert.mp hv with rfl | hv
          · exact hne rfl
          · exact hdisj v hv hv1
        rw [ih hdisj', UnorderedSet.mem_erase, UnorderedSet.mem_insert]
        by_cases hvb : v = b
        · subst hvb
          grind
        · grind
      · have hb' : b ∉ common := fun h => hdisj b h hb
        rw [UnorderedSet.mem_erase, UnorderedSet.mem_insert]
        by_cases hvb : v = b
        · subst hvb
          grind
        · grind
      · exact ih hdisj

/-- If the sets meet at all, the loop finds something. -/
lemma exists_mem_intersetLoop {resumes : α → Bool} {l : List α} {common s1 s2 : UnorderedSet α}
    {v : α} (hv1 : v ∈ s1) (hvl : v ∈ l) : ∃ w, w ∈ (intersetLoop resumes l common s1 s2).1 := by
  induction l generalizing common s1 s2 with
  | nil => cases hvl
  | cons b rest ih =>
      simp only [intersetLoop]
      split_ifs with hb hr
      · exact ⟨b, subset_intersetLoop _ _ _ _ _ (UnorderedSet.mem_insert.mpr (.inl rfl))⟩
      · exact ⟨b, UnorderedSet.mem_insert.mpr (.inl rfl)⟩
      · rcases List.mem_cons.mp hvl with rfl | hvl
        · exact absurd hv1 hb
        · exact ih hv1 hvl

section Interset

variable {resumes : α → Bool} {s1 s2 : UnorderedSet α} {v : α}

lemma mem_of_mem_interset (hv : v ∈ (removeAndReturnInterset resumes s1 s2).1) :
    v ∈ s1 ∧ v ∈ s2 :=
  (mem_of_mem_intersetLoop hv).resolve_left (UnorderedSet.notMem_empty v)

lemma mem_interset_snd :
    v ∈ (removeAndReturnInterset resumes s1 s2).2.2 ↔
      v ∈ s2 ∧ v ∉ (removeAndReturnInterset resumes s1 s2).1 := by
  have hdisj : ∀ w ∈ (∅ : UnorderedSet α), w ∉ s1 := fun w hw =>
    absurd hw (UnorderedSet.notMem_empty w)
  simpa only [removeAndReturnInterset, UnorderedSet.notMem_empty, false_or] using
    mem_intersetLoop_snd hdisj

lemma exists_mem_interset (hv1 : v ∈ s1) (hv2 : v ∈ s2) :
    ∃ w, w ∈ (removeAndReturnInterset resumes s1 s2).1 :=
  exists_mem_intersetLoop hv1 hv2

end Interset

end SetLoops

/-! ## The map -/

/-- `LocUnorderedSetMap`: the entries of `mMap`. -/
structure LocUnorderedSetMap (κ ν : Type*) where
  mMap : AList (fun _ : κ => UnorderedSet ν)

namespace LocUnorderedSetMap

variable {κ ν : Type*}

/-- The map without entries. -/
def init : LocUnorderedSetMap κ ν := ⟨∅⟩

/-- `empty`. -/
def empty (m : LocUnorderedSetMap κ ν) : Bool := m.mMap.keys.isEmpty

/-- `getKeys`. -/
def getKeys (m : LocUnorderedSetMap κ ν) : UnorderedSet κ := ⟨m.mMap.keys, m.mMap.keys_nodup⟩

variable [DecidableEq κ]

/-- `getValSetPtr`: the set stored under the key, if there is an entry. -/
def getValSetPtr (m : LocUnorderedSetMap κ ν) (key : κ) : Option (UnorderedSet ν) :=
  m.mMap.lookup key

/-- `getValSet`: a copy of the set stored under the key, empty without an entry. -/
def getValSet (m : LocUnorderedSetMap κ ν) (key : κ) : UnorderedSet ν :=
  (m.getValSetPtr key).getD ∅

/-- `remove`. -/
def remove (m : LocUnorderedSetMap κ ν) (key : κ) : LocUnorderedSetMap κ ν := ⟨m.mMap.erase key⟩

/-! ### What a key holds -/

/-- The value is stored under the key. -/
def Holds (m : LocUnorderedSetMap κ ν) (key : κ) (val : ν) : Prop := val ∈ m.getValSet key

instance [DecidableEq ν] (m : LocUnorderedSetMap κ ν) (key : κ) (val : ν) :
    Decidable (m.Holds key val) :=
  inferInstanceAs (Decidable (val ∈ m.getValSet key))

/-- No entry holds an empty set. -/
def NoEmptyEntry (m : LocUnorderedSetMap κ ν) : Prop :=
  ∀ key entry, m.getValSetPtr key = some entry → entry.isEmpty = false

lemma holds_of_ptr {m : LocUnorderedSetMap κ ν} {key : κ} {entry : UnorderedSet ν}
    (h : m.getValSetPtr key = some entry) (val : ν) : m.Holds key val ↔ val ∈ entry := by
  simp [Holds, getValSet, h]

lemma not_holds_of_ptr_none {m : LocUnorderedSetMap κ ν} {key : κ}
    (h : m.getValSetPtr key = none) (val : ν) : ¬ m.Holds key val := by
  simp [Holds, getValSet, h]

@[simp] lemma getValSetPtr_init (key : κ) :
    (init : LocUnorderedSetMap κ ν).getValSetPtr key = none := rfl

@[simp] lemma getValSetPtr_insert (m : LocUnorderedSetMap κ ν) (k key : κ) (s : UnorderedSet ν) :
    (LocUnorderedSetMap.mk (m.mMap.insert k s)).getValSetPtr key =
      if key = k then some s else m.getValSetPtr key := by
  split_ifs with h
  · subst h
    exact AList.lookup_insert m.mMap
  · exact AList.lookup_insert_ne h

@[simp] lemma getValSetPtr_remove (m : LocUnorderedSetMap κ ν) (k key : κ) :
    (m.remove k).getValSetPtr key = if key = k then none else m.getValSetPtr key := by
  split_ifs with h
  · subst h
    exact AList.lookup_erase key m.mMap
  · exact AList.lookup_erase_ne h

@[simp] lemma init_holds (key : κ) (val : ν) :
    ¬ (init : LocUnorderedSetMap κ ν).Holds key val :=
  not_holds_of_ptr_none rfl val

lemma noEmptyEntry_init : (init : LocUnorderedSetMap κ ν).NoEmptyEntry :=
  fun _ _ h => absurd h (by simp)

lemma insert_holds {m : LocUnorderedSetMap κ ν} {k key : κ} {s : UnorderedSet ν} {val : ν} :
    (LocUnorderedSetMap.mk (m.mMap.insert k s)).Holds key val ↔
      if key = k then val ∈ s else m.Holds key val := by
  rw [Holds, getValSet, getValSetPtr_insert]
  split_ifs
  · rfl
  · rfl

lemma remove_holds {m : LocUnorderedSetMap κ ν} {k key : κ} {val : ν} :
    (m.remove k).Holds key val ↔ key ≠ k ∧ m.Holds key val := by
  rw [Holds, getValSet, getValSetPtr_remove]
  split_ifs with h
  · simp [h]
  · exact ⟨fun hv => ⟨h, hv⟩, fun hv => hv.2⟩

lemma NoEmptyEntry.insert {m : LocUnorderedSetMap κ ν} (hm : m.NoEmptyEntry) (k : κ)
    {s : UnorderedSet ν} (hs : s.isEmpty = false) :
    (LocUnorderedSetMap.mk (m.mMap.insert k s)).NoEmptyEntry := by
  intro key entry h
  rw [getValSetPtr_insert] at h
  split_ifs at h
  · exact Option.some.inj h ▸ hs
  · exact hm key entry h

lemma NoEmptyEntry.remove {m : LocUnorderedSetMap κ ν} (hm : m.NoEmptyEntry) (k : κ) :
    (m.remove k).NoEmptyEntry := by
  intro key entry h
  rw [getValSetPtr_remove] at h
  split_ifs at h
  exact hm key entry h

/-! ### The operations on several keys -/

variable [DecidableEq ν]

/-- The private `trimOrRemove` on the entry `iter` of `key`: the map, whether the entry was
erased, and `*goneVals`. -/
def trimOrRemoveEntry (m : LocUnorderedSetMap κ ν) (key : κ)
    (entry rVals goneVals : UnorderedSet ν) :
    LocUnorderedSetMap κ ν × Bool × UnorderedSet ν :=
  let p := trimSet entry rVals goneVals
  if p.1.isEmpty then (⟨m.mMap.erase key⟩, true, p.2) else (⟨m.mMap.insert key p.1⟩, false, p.2)

/-- What `trimOrRemove` threads through its loop: the map, `*goneKeys` and `*goneVals`. -/
structure Trimmed (κ ν : Type*) where
  map : LocUnorderedSetMap κ ν
  goneKeys : UnorderedSet κ
  goneVals : UnorderedSet ν

/-- One round of the loop of `trimOrRemove`. -/
def trimOrRemoveKey (freed : FreedNode κ ν) (rVals : UnorderedSet ν) (t : Trimmed κ ν) (key : κ) :
    Trimmed κ ν :=
  match t.map.getValSetPtr key with
  | none => t
  | some entry =>
      let p := t.map.trimOrRemoveEntry key entry rVals t.goneVals
      -- the key recorded is read through the iterator whose entry has just been erased
      ⟨p.1, if p.2.1 then t.goneKeys.insert (freed.key key) else t.goneKeys, p.2.2⟩

/-- `trimOrRemove`, with `*goneKeys` and `*goneVals` empty before the call. -/
def trimOrRemove (freed : FreedNode κ ν) (m : LocUnorderedSetMap κ ν) (keys : UnorderedSet κ)
    (rVals : UnorderedSet ν) : Trimmed κ ν :=
  keys.elems.foldl (trimOrRemoveKey freed rVals) ⟨m, ∅, ∅⟩

/-- `add` of values to one key: the map, and whether a new entry was made. -/
def addKey (m : LocUnorderedSetMap κ ν) (key : κ) (newVals : UnorderedSet ν) :
    LocUnorderedSetMap κ ν × Bool :=
  if newVals.isEmpty then (m, false)
  else
    match m.getValSetPtr key with
    | some entry => (⟨m.mMap.insert key (entry.insertAll newVals.elems)⟩, false)
    | none => (⟨m.mMap.insert key newVals⟩, true)

/-- `add` of values to several keys: the map and `*newKeys`, empty before the call. -/
def add (m : LocUnorderedSetMap κ ν) (keys : UnorderedSet κ) (newVals : UnorderedSet ν) :
    LocUnorderedSetMap κ ν × UnorderedSet κ :=
  keys.elems.foldl
    (fun p key => ((p.1.addKey key newVals).1,
      if (p.1.addKey key newVals).2 then p.2.insert key else p.2)) (m, ∅)

/-- `update`: the map, the returned `goneVals`, and `*newVals` as the call leaves it. -/
def update (freed : FreedNode κ ν) (m : LocUnorderedSetMap κ ν) (key : κ)
    (newVals : UnorderedSet ν) : LocUnorderedSetMap κ ν × UnorderedSet ν × UnorderedSet ν :=
  if newVals.isEmpty then (⟨m.mMap.erase key⟩, ∅, newVals)
  else
    let curVals := m.getValSet key
    let p := removeAndReturnInterset freed.resumes curVals newVals
    (⟨m.mMap.insert key newVals⟩, p.1, p.2.2)

/-! ### What `trimOrRemove` leaves -/

lemma trimOrRemoveEntry_holds {m : LocUnorderedSetMap κ ν} {k key : κ}
    {entry rVals goneVals : UnorderedSet ν} (hk : m.getValSetPtr k = some entry) {val : ν} :
    (m.trimOrRemoveEntry k entry rVals goneVals).1.Holds key val ↔
      m.Holds key val ∧ ¬(key = k ∧ val ∈ rVals) := by
  rw [trimOrRemoveEntry]
  by_cases hkey : key = k
  · subst hkey
    split_ifs with hempty
    · have hnone := UnorderedSet.isEmpty_iff.mp hempty val
      rw [mem_trimSet_fst] at hnone
      rw [show (LocUnorderedSetMap.mk (m.mMap.erase key)) = m.remove key from rfl, remove_holds,
        holds_of_ptr hk]
      grind
    · rw [insert_holds, if_pos rfl, mem_trimSet_fst, holds_of_ptr hk]
      grind
  · split_ifs with hempty
    · rw [show (LocUnorderedSetMap.mk (m.mMap.erase k)) = m.remove k from rfl, remove_holds]
      grind
    · rw [insert_holds, if_neg hkey]
      grind

lemma NoEmptyEntry.trimOrRemoveEntry {m : LocUnorderedSetMap κ ν} (hm : m.NoEmptyEntry) (k : κ)
    (entry rVals goneVals : UnorderedSet ν) :
    (m.trimOrRemoveEntry k entry rVals goneVals).1.NoEmptyEntry := by
  rw [LocUnorderedSetMap.trimOrRemoveEntry]
  split_ifs with hempty
  · exact hm.remove k
  · exact hm.insert k (Bool.not_eq_true _ ▸ hempty)

lemma trimOrRemoveKey_map_holds (freed : FreedNode κ ν) {rVals : UnorderedSet ν}
    {t : Trimmed κ ν} {k key : κ} {val : ν} :
    (trimOrRemoveKey freed rVals t k).map.Holds key val ↔
      t.map.Holds key val ∧ ¬(key = k ∧ val ∈ rVals) := by
  rw [trimOrRemoveKey]
  cases hk : t.map.getValSetPtr k with
  | none =>
      refine ⟨fun h => ⟨h, ?_⟩, fun h => h.1⟩
      rintro ⟨rfl, -⟩
      exact not_holds_of_ptr_none hk val h
  | some entry => exact trimOrRemoveEntry_holds hk

lemma mem_trimOrRemoveKey_goneVals (freed : FreedNode κ ν) {rVals : UnorderedSet ν}
    {t : Trimmed κ ν} {k : κ} {val : ν} :
    val ∈ (trimOrRemoveKey freed rVals t k).goneVals ↔
      val ∈ t.goneVals ∨ (t.map.Holds k val ∧ val ∈ rVals) := by
  rw [trimOrRemoveKey]
  cases hk : t.map.getValSetPtr k with
  | none =>
      have := not_holds_of_ptr_none hk val
      grind
  | some entry =>
      have hgone : (t.map.trimOrRemoveEntry k entry rVals t.goneVals).2.2 =
          (trimSet entry rVals t.goneVals).2 := by
        rw [trimOrRemoveEntry]
        split_ifs <;> rfl
      simp only [hgone, mem_trimSet_snd, holds_of_ptr hk]

lemma getValSetPtr_trimOrRemoveKey_of_ne (freed : FreedNode κ ν) {rVals : UnorderedSet ν}
    {t : Trimmed κ ν} {k key : κ} (hne : key ≠ k) :
    (trimOrRemoveKey freed rVals t k).map.getValSetPtr key = t.map.getValSetPtr key := by
  rw [trimOrRemoveKey]
  cases t.map.getValSetPtr k with
  | none => rfl
  | some entry =>
      simp only [trimOrRemoveEntry]
      split_ifs
      · exact (getValSetPtr_remove _ _ _).trans (if_neg hne)
      · exact (getValSetPtr_insert _ _ _ _).trans (if_neg hne)

/-- What each round adds to by what the map has under its key: the round of a key changes nothing
under the keys still to come. -/
lemma foldl_trimOrRemoveKey_iff (freed : FreedNode κ ν) {rVals : UnorderedSet ν}
    {motive : Trimmed κ ν → Prop} {loses : κ → LocUnorderedSetMap κ ν → Prop}
    (hlocal : ∀ k m m', m.getValSetPtr k = m'.getValSetPtr k → (loses k m ↔ loses k m'))
    (hstep : ∀ t k, motive (trimOrRemoveKey freed rVals t k) ↔ motive t ∨ loses k t.map)
    {l : List κ} (hl : l.Nodup) (t : Trimmed κ ν) :
    motive (l.foldl (trimOrRemoveKey freed rVals) t) ↔ motive t ∨ ∃ k ∈ l, loses k t.map := by
  induction l generalizing t with
  | nil => simp
  | cons k l ih =>
      obtain ⟨hk, hl⟩ := List.nodup_cons.mp hl
      have hrest : (∃ k' ∈ l, loses k' (trimOrRemoveKey freed rVals t k).map) ↔
          ∃ k' ∈ l, loses k' t.map := by
        refine exists_congr fun k' => and_congr_right fun hk' => ?_
        have hne : k' ≠ k := fun h => hk (h ▸ hk')
        exact hlocal k' _ _ (getValSetPtr_trimOrRemoveKey_of_ne freed hne)
      rw [List.foldl_cons, ih hl, hrest, hstep]
      simp only [List.mem_cons, exists_eq_or_imp, or_assoc]

lemma NoEmptyEntry.trimOrRemoveKey (freed : FreedNode κ ν) (rVals : UnorderedSet ν)
    {t : Trimmed κ ν} (ht : t.map.NoEmptyEntry) (k : κ) :
    (trimOrRemoveKey freed rVals t k).map.NoEmptyEntry := by
  rw [LocUnorderedSetMap.trimOrRemoveKey]
  cases hk : t.map.getValSetPtr k with
  | none => exact ht
  | some entry => exact ht.trimOrRemoveEntry k entry rVals t.goneVals

/-- **What `trimOrRemove` leaves.** Each key keeps its values, except the listed keys, which lose
the listed values. -/
theorem trimOrRemove_holds (freed : FreedNode κ ν) {m : LocUnorderedSetMap κ ν}
    {keys : UnorderedSet κ} {rVals : UnorderedSet ν} {key : κ} {val : ν} :
    (m.trimOrRemove freed keys rVals).map.Holds key val ↔
      m.Holds key val ∧ ¬(key ∈ keys ∧ val ∈ rVals) := by
  have h : ∀ (l : List κ) (t : Trimmed κ ν),
      (l.foldl (trimOrRemoveKey freed rVals) t).map.Holds key val ↔
        t.map.Holds key val ∧ ¬(key ∈ l ∧ val ∈ rVals) := by
    intro l
    induction l with
    | nil => intro t; simp
    | cons k l ih =>
        intro t
        rw [List.foldl_cons, ih, trimOrRemoveKey_map_holds, List.mem_cons]
        grind
  exact h keys.elems ⟨m, ∅, ∅⟩

/-- `*goneVals` after `trimOrRemove`: the values that some listed key lost. -/
theorem mem_trimOrRemove_goneVals (freed : FreedNode κ ν) {m : LocUnorderedSetMap κ ν}
    {keys : UnorderedSet κ} {rVals : UnorderedSet ν} {val : ν} :
    val ∈ (m.trimOrRemove freed keys rVals).goneVals ↔
      ∃ key ∈ keys, m.Holds key val ∧ val ∈ rVals := by
  have hlocal : ∀ k (m m' : LocUnorderedSetMap κ ν), m.getValSetPtr k = m'.getValSetPtr k →
      (m.Holds k val ∧ val ∈ rVals ↔ m'.Holds k val ∧ val ∈ rVals) := fun k m m' hptr => by
    simp only [Holds, getValSet, hptr]
  have h := foldl_trimOrRemoveKey_iff (motive := fun t => val ∈ t.goneVals) freed hlocal
    (fun _ _ => mem_trimOrRemoveKey_goneVals freed) keys.nodup ⟨m, ∅, ∅⟩
  exact h.trans (or_iff_right (UnorderedSet.notMem_empty val))

/-- What the map has under a key that is not listed. -/
lemma getValSetPtr_trimOrRemove_of_notMem (freed : FreedNode κ ν) {m : LocUnorderedSetMap κ ν}
    {keys : UnorderedSet κ} {rVals : UnorderedSet ν} {key : κ} (hkey : key ∉ keys) :
    (m.trimOrRemove freed keys rVals).map.getValSetPtr key = m.getValSetPtr key := by
  have h : ∀ (l : List κ) (t : Trimmed κ ν), key ∉ l →
      (l.foldl (trimOrRemoveKey freed rVals) t).map.getValSetPtr key = t.map.getValSetPtr key := by
    intro l
    induction l with
    | nil => exact fun _ _ => rfl
    | cons k l ih =>
        intro t hl
        obtain ⟨hne, hl⟩ := not_or.mp (List.mem_cons.not.mp hl)
        rw [List.foldl_cons, ih _ hl, getValSetPtr_trimOrRemoveKey_of_ne freed hne]
  exact h keys.elems ⟨m, ∅, ∅⟩ hkey

lemma NoEmptyEntry.trimOrRemove (freed : FreedNode κ ν) {m : LocUnorderedSetMap κ ν}
    (hm : m.NoEmptyEntry) (keys : UnorderedSet κ) (rVals : UnorderedSet ν) :
    (m.trimOrRemove freed keys rVals).map.NoEmptyEntry :=
  List.foldlRecOn (motive := fun t => t.map.NoEmptyEntry) keys.elems
    (LocUnorderedSetMap.trimOrRemoveKey freed rVals) hm
    (fun _ ht k _ => NoEmptyEntry.trimOrRemoveKey freed rVals ht k)

/-! ### What `add` and `update` leave -/

lemma addKey_holds {m : LocUnorderedSetMap κ ν} {k key : κ} {newVals : UnorderedSet ν} {val : ν} :
    (m.addKey k newVals).1.Holds key val ↔ m.Holds key val ∨ (key = k ∧ val ∈ newVals) := by
  rw [addKey]
  split_ifs with hempty
  · have := UnorderedSet.isEmpty_iff.mp hempty val
    grind
  · cases hk : m.getValSetPtr k with
    | none =>
        have := not_holds_of_ptr_none hk val
        rw [insert_holds]
        split_ifs with hkey
        · subst hkey
          grind
        · grind
    | some entry =>
        have := holds_of_ptr hk val
        rw [insert_holds, UnorderedSet.mem_insertAll]
        split_ifs with hkey
        · subst hkey
          simp only [UnorderedSet.mem_elems]
          grind
        · grind

lemma NoEmptyEntry.addKey {m : LocUnorderedSetMap κ ν} (hm : m.NoEmptyEntry) (k : κ)
    (newVals : UnorderedSet ν) : (m.addKey k newVals).1.NoEmptyEntry := by
  rw [LocUnorderedSetMap.addKey]
  split_ifs with hempty
  · exact hm
  · obtain ⟨v, hv⟩ := UnorderedSet.isEmpty_eq_false_iff.mp (Bool.not_eq_true _ ▸ hempty)
    cases hk : m.getValSetPtr k with
    | none => exact hm.insert k (UnorderedSet.isEmpty_eq_false_iff.mpr ⟨v, hv⟩)
    | some entry =>
        exact hm.insert k (UnorderedSet.isEmpty_eq_false_iff.mpr
          ⟨v, UnorderedSet.mem_insertAll.mpr (.inr hv)⟩)

/-- **What `add` leaves.** Each key keeps its values, and the listed keys gain the listed ones. -/
theorem add_holds {m : LocUnorderedSetMap κ ν} {keys : UnorderedSet κ} {newVals : UnorderedSet ν}
    {key : κ} {val : ν} :
    (m.add keys newVals).1.Holds key val ↔ m.Holds key val ∨ (key ∈ keys ∧ val ∈ newVals) := by
  have h : ∀ (l : List κ) (p : LocUnorderedSetMap κ ν × UnorderedSet κ),
      (l.foldl (fun p key => ((p.1.addKey key newVals).1,
        if (p.1.addKey key newVals).2 then p.2.insert key else p.2)) p).1.Holds key val ↔
        p.1.Holds key val ∨ (key ∈ l ∧ val ∈ newVals) := by
    intro l
    induction l with
    | nil => intro p; simp
    | cons k l ih =>
        intro p
        rw [List.foldl_cons, ih, addKey_holds, List.mem_cons]
        grind
  exact h keys.elems (m, ∅)

lemma NoEmptyEntry.add {m : LocUnorderedSetMap κ ν} (hm : m.NoEmptyEntry) (keys : UnorderedSet κ)
    (newVals : UnorderedSet ν) : (m.add keys newVals).1.NoEmptyEntry :=
  List.foldlRecOn (motive := fun p : LocUnorderedSetMap κ ν × UnorderedSet κ => p.1.NoEmptyEntry)
    keys.elems _ hm (fun _ hp k _ => hp.addKey k newVals)

lemma update_holds (freed : FreedNode κ ν) {m : LocUnorderedSetMap κ ν} {k key : κ}
    {newVals : UnorderedSet ν} {val : ν} :
    (m.update freed k newVals).1.Holds key val ↔
      if key = k then val ∈ newVals else m.Holds key val := by
  rw [update]
  by_cases hempty : newVals.isEmpty = true
  · rw [if_pos hempty, show (LocUnorderedSetMap.mk (m.mMap.erase k)) = m.remove k from rfl,
      remove_holds]
    have := UnorderedSet.isEmpty_iff.mp hempty val
    split_ifs with hkey
    · grind
    · grind
  · rw [if_neg hempty]
    exact insert_holds

lemma NoEmptyEntry.update (freed : FreedNode κ ν) {m : LocUnorderedSetMap κ ν}
    (hm : m.NoEmptyEntry) (k : κ) (newVals : UnorderedSet ν) :
    (m.update freed k newVals).1.NoEmptyEntry := by
  rw [LocUnorderedSetMap.update]
  split_ifs with hempty
  · exact hm.remove k
  · exact hm.insert k (Bool.not_eq_true _ ▸ hempty)

lemma mem_of_mem_update_goneVals (freed : FreedNode κ ν) {m : LocUnorderedSetMap κ ν} {k : κ}
    {newVals : UnorderedSet ν} {val : ν} (hv : val ∈ (m.update freed k newVals).2.1) :
    m.Holds k val ∧ val ∈ newVals := by
  rw [update] at hv
  split_ifs at hv with hempty
  · exact absurd hv (UnorderedSet.notMem_empty val)
  · exact mem_of_mem_interset hv

/-- `*newVals` loses exactly the values that `update` returns. -/
lemma mem_update_newVals (freed : FreedNode κ ν) {m : LocUnorderedSetMap κ ν} {k : κ}
    {newVals : UnorderedSet ν} {val : ν} :
    val ∈ (m.update freed k newVals).2.2 ↔
      val ∈ newVals ∧ val ∉ (m.update freed k newVals).2.1 := by
  rw [update]
  split_ifs with hempty
  · simp
  · exact mem_interset_snd

/-- **The values `update` returns.** It returns something exactly when the old and the new values
meet: the returned values are the kept ones, although the caller takes them for the removed ones. -/
theorem exists_mem_update_goneVals (freed : FreedNode κ ν) {m : LocUnorderedSetMap κ ν} {k : κ}
    {newVals : UnorderedSet ν} :
    (∃ val, val ∈ (m.update freed k newVals).2.1) ↔ ∃ val, m.Holds k val ∧ val ∈ newVals := by
  constructor
  · rintro ⟨val, hv⟩
    exact ⟨val, mem_of_mem_update_goneVals freed hv⟩
  · rintro ⟨val, hold, hnew⟩
    have hempty : newVals.isEmpty = false := UnorderedSet.isEmpty_eq_false_iff.mpr ⟨val, hnew⟩
    rw [update, hempty]
    exact exists_mem_interset hold hnew

/-! ### The keys that come and go -/

omit [DecidableEq ν] in
lemma getValSetPtr_eq_none_iff {m : LocUnorderedSetMap κ ν} (hm : m.NoEmptyEntry) {key : κ} :
    m.getValSetPtr key = none ↔ ∀ val, ¬ m.Holds key val := by
  constructor
  · exact not_holds_of_ptr_none
  · intro hnone
    cases hptr : m.getValSetPtr key with
    | none => rfl
    | some entry =>
        obtain ⟨val, hval⟩ := UnorderedSet.isEmpty_eq_false_iff.mp (hm key entry hptr)
        exact absurd ((holds_of_ptr hptr val).mpr hval) (hnone val)

omit [DecidableEq ν] in
lemma mem_getKeys {m : LocUnorderedSetMap κ ν} {key : κ} :
    key ∈ m.getKeys ↔ m.getValSetPtr key ≠ none := by
  rw [← Option.isSome_iff_ne_none, getValSetPtr, AList.lookup_isSome]
  exact Iff.rfl

lemma addKey_snd {m : LocUnorderedSetMap κ ν} {k : κ} {newVals : UnorderedSet ν}
    (hne : newVals.isEmpty = false) :
    (m.addKey k newVals).2 = true ↔ m.getValSetPtr k = none := by
  rw [addKey, hne]
  cases m.getValSetPtr k with
  | none => simp
  | some entry => simp

lemma getValSetPtr_addKey_of_ne {m : LocUnorderedSetMap κ ν} {k key : κ}
    {newVals : UnorderedSet ν} (hne : key ≠ k) :
    (m.addKey k newVals).1.getValSetPtr key = m.getValSetPtr key := by
  rw [addKey]
  split_ifs
  · rfl
  · cases m.getValSetPtr k with
    | none => exact (getValSetPtr_insert _ _ _ _).trans (if_neg hne)
    | some entry => exact (getValSetPtr_insert _ _ _ _).trans (if_neg hne)

/-- `*newKeys` after `add`: the listed keys that had no entry. -/
theorem mem_add_newKeys {m : LocUnorderedSetMap κ ν} {keys : UnorderedSet κ}
    {newVals : UnorderedSet ν} (hne : newVals.isEmpty = false) {key : κ} :
    key ∈ (m.add keys newVals).2 ↔ key ∈ keys ∧ m.getValSetPtr key = none := by
  have h : ∀ (l : List κ), l.Nodup → ∀ p : LocUnorderedSetMap κ ν × UnorderedSet κ,
      key ∈ (l.foldl (fun p key => ((p.1.addKey key newVals).1,
        if (p.1.addKey key newVals).2 then p.2.insert key else p.2)) p).2 ↔
        key ∈ p.2 ∨ (key ∈ l ∧ p.1.getValSetPtr key = none) := by
    intro l
    induction l with
    | nil => intro _ p; simp
    | cons k l ih =>
        intro hl p
        obtain ⟨hk, hl⟩ := List.nodup_cons.mp hl
        rw [List.foldl_cons, ih hl]
        have hround : key ∈ (if (p.1.addKey k newVals).2 then p.2.insert k else p.2) ↔
            key ∈ p.2 ∨ (key = k ∧ p.1.getValSetPtr k = none) := by
          rw [← addKey_snd hne]
          split_ifs with hadded
          · rw [UnorderedSet.mem_insert]
            grind
          · grind
        rw [hround, List.mem_cons]
        by_cases hkey : key = k
        · subst hkey
          grind
        · rw [getValSetPtr_addKey_of_ne hkey]
          grind
  exact (h keys.elems keys.nodup (m, ∅)).trans (or_iff_right (UnorderedSet.notMem_empty key))

/-- One round records the key it erases, as it reads it afterwards. -/
lemma mem_trimOrRemoveKey_goneKeys (freed : FreedNode κ ν) {rVals : UnorderedSet ν}
    {t : Trimmed κ ν} {k key : κ} :
    key ∈ (trimOrRemoveKey freed rVals t k).goneKeys ↔ key ∈ t.goneKeys ∨
      (key = freed.key k ∧ t.map.getValSetPtr k ≠ none ∧
        ∀ val, t.map.Holds k val → val ∈ rVals) := by
  rw [trimOrRemoveKey]
  cases hptr : t.map.getValSetPtr k with
  | none => simp
  | some entry =>
      have hgone : (t.map.trimOrRemoveEntry k entry rVals t.goneVals).2.1 = true ↔
          ∀ val, t.map.Holds k val → val ∈ rVals := by
        have hempty : (t.map.trimOrRemoveEntry k entry rVals t.goneVals).2.1 =
            (trimSet entry rVals t.goneVals).1.isEmpty := by
          simp only [trimOrRemoveEntry]
          split_ifs with h
          · exact h.symm
          · exact (Bool.eq_false_iff.mpr h).symm
        rw [hempty, UnorderedSet.isEmpty_iff]
        simp only [mem_trimSet_fst, holds_of_ptr hptr, not_and, not_not]
      simp only [← hgone]
      split_ifs with h
      · rw [UnorderedSet.mem_insert]
        simp [h, or_comm]
      · simp [h]

/-- `*goneKeys` after `trimOrRemove`: the listed keys whose values were all listed, as they are read
after their entries are gone. -/
theorem mem_trimOrRemove_goneKeys (freed : FreedNode κ ν) {m : LocUnorderedSetMap κ ν}
    {keys : UnorderedSet κ} {rVals : UnorderedSet ν} {key : κ} :
    key ∈ (m.trimOrRemove freed keys rVals).goneKeys ↔ ∃ k ∈ keys, key = freed.key k ∧
      m.getValSetPtr k ≠ none ∧ ∀ val, m.Holds k val → val ∈ rVals := by
  have hlocal : ∀ k (m m' : LocUnorderedSetMap κ ν), m.getValSetPtr k = m'.getValSetPtr k →
      (key = freed.key k ∧ m.getValSetPtr k ≠ none ∧ (∀ val, m.Holds k val → val ∈ rVals) ↔
        key = freed.key k ∧ m'.getValSetPtr k ≠ none ∧ ∀ val, m'.Holds k val → val ∈ rVals) :=
    fun k m m' hptr => by simp only [Holds, getValSet, hptr]
  have h := foldl_trimOrRemoveKey_iff (motive := fun t => key ∈ t.goneKeys) freed hlocal
    (fun _ _ => mem_trimOrRemoveKey_goneKeys freed) keys.nodup ⟨m, ∅, ∅⟩
  exact h.trans (or_iff_right (UnorderedSet.notMem_empty key))

/-! ### `update` as a difference -/

omit [DecidableEq ν] in
lemma getValSetPtr_erase (m : LocUnorderedSetMap κ ν) (k key : κ) :
    (LocUnorderedSetMap.mk (m.mMap.erase k)).getValSetPtr key =
      if key = k then none else m.getValSetPtr key :=
  getValSetPtr_remove m k key

lemma getValSetPtr_update (freed : FreedNode κ ν) (m : LocUnorderedSetMap κ ν) (k key : κ)
    (newVals : UnorderedSet ν) :
    (m.update freed k newVals).1.getValSetPtr key =
      if key = k then (if newVals.isEmpty then none else some newVals)
      else m.getValSetPtr key := by
  rw [update]
  by_cases hempty : newVals.isEmpty = true
  · simp only [if_pos hempty, getValSetPtr_erase]
  · simp only [if_neg hempty, getValSetPtr_insert]

/-- What the comment above `update` promises of a call: the values that the key loses are returned,
the entry of the key becomes the new values, and what is left of `*newVals` are the added ones. -/
structure UpdatesByDifference (freed : FreedNode κ ν) (m : LocUnorderedSetMap κ ν) (key : κ)
    (newVals : UnorderedSet ν) : Prop where
  returned : ∀ val, val ∈ (m.update freed key newVals).2.1 ↔ m.Holds key val ∧ val ∉ newVals
  entry : (m.update freed key newVals).1.getValSetPtr key =
    if newVals.isEmpty then none else some newVals
  others : ∀ other, other ≠ key →
    (m.update freed key newVals).1.getValSetPtr other = m.getValSetPtr other
  left : ∀ val, val ∈ (m.update freed key newVals).2.2 ↔ val ∈ newVals ∧ ¬ m.Holds key val

/-- A key that held nothing has nothing in common with the new values. -/
lemma updatesByDifference_of_nothing_held (freed : FreedNode κ ν) {m : LocUnorderedSetMap κ ν}
    {key : κ} (hold : ∀ val, ¬ m.Holds key val) (newVals : UnorderedSet ν) :
    UpdatesByDifference freed m key newVals := by
  have hgone : ∀ val, val ∉ (m.update freed key newVals).2.1 := fun val hv =>
    hold val (mem_of_mem_update_goneVals freed hv).1
  refine ⟨fun val => ?_, ?_, fun other hne => ?_, fun val => ?_⟩
  · exact iff_of_false (hgone val) fun h => hold val h.1
  · rw [getValSetPtr_update, if_pos rfl]
  · rw [getValSetPtr_update, if_neg hne]
  · rw [mem_update_newVals]
    exact and_congr_right fun _ => iff_of_true (hgone val) (hold val)

/-- **`update` and the difference.** What `update` returns lies in both the old and the new values,
where the removed values lie in the old ones only; so a call does what its comment says exactly
when the key held nothing before it, whatever the erased iterator goes on to do. -/
theorem updatesByDifference_iff (freed : FreedNode κ ν) (m : LocUnorderedSetMap κ ν) (key : κ)
    (newVals : UnorderedSet ν) :
    UpdatesByDifference freed m key newVals ↔ ∀ val, ¬ m.Holds key val := by
  constructor
  · intro h val hold
    by_cases hnew : val ∈ newVals
    · -- a value kept makes the call return something, and that is in `newVals` too
      obtain ⟨w, hw⟩ := (exists_mem_update_goneVals freed).mpr ⟨val, hold, hnew⟩
      have hkept : w ∈ newVals := (mem_of_mem_update_goneVals freed hw).2
      have hlost : w ∉ newVals := ((h.returned w).mp hw).2
      exact hlost hkept
    · have hgone : val ∈ (m.update freed key newVals).2.1 := (h.returned val).mpr ⟨hold, hnew⟩
      exact hnew (mem_of_mem_update_goneVals freed hgone).2
  · exact fun hold => updatesByDifference_of_nothing_held freed hold newVals

/-- One key with the value 7 that is updated to 8: the 7 is not returned. -/
theorem removed_value_not_returned :
    ¬ ∀ (freed : FreedNode ℕ ℕ) (m : LocUnorderedSetMap ℕ ℕ) (key : ℕ) (newVals : UnorderedSet ℕ),
      UpdatesByDifference freed m key newVals := by
  intro h
  have hret := (h ⟨id, fun _ => true⟩ ⟨(∅ : AList fun _ : ℕ => UnorderedSet ℕ).insert 1
    (UnorderedSet.singleton 7)⟩ 1 (UnorderedSet.singleton 8)).returned 7
  revert hret
  decide

end LocUnorderedSetMap

end LocHal
