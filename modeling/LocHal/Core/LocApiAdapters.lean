import LocHal.Lib.Machine
import Mathlib.Data.Finset.Card
import Mathlib.Data.List.Nodup
import Mathlib.Data.List.ReduceOption

/-!
# The table of the adapters (`gps/core/LocApiBase.cpp`)

`LocApiBase` keeps its adapters in an array of ten.  Every event goes to the adapters up to the
first null pointer, so that the array may have no holes: what is removed is replaced by the last
entry, which the loop of `removeAdapter` looks for with its own variable.

`adapters_follow`: after any calls the entries are those of a set that ignores what is added twice
or beyond ten, `close` has been called exactly when a removal has left the set empty, and the event
mask has the bits that some adapter of the set asks for, without the excluded ones.
-/

namespace LocHal
namespace LocApiBase

/-- `MAX_ADAPTERS`. -/
def maxAdapters : ℕ := 10

/-- `mLocAdapters`. -/
abbrev LocAdapters (α : Type*) := Vector (Option α) maxAdapters

/-- What `addAdapter` and `removeAdapter` have done besides: `close()`, or a `LocOpenMsg` sent. -/
inductive AdapterAction where
  | close
  | sendLocOpenMsg
deriving DecidableEq, Repr

variable {α : Type*}

/-- The array after the constructor. -/
def init : LocAdapters α := Vector.replicate maxAdapters none

/-- `while (++i < MAX_ADAPTERS && mLocAdapters[i] != NULL)`, from the first `++i` on. -/
def skipAdapters (t : LocAdapters α) (i : ℕ) : ℕ :=
  if h : i < maxAdapters then
    if t[i] ≠ none then skipAdapters t (i + 1) else i
  else i
termination_by maxAdapters - i

lemma le_skipAdapters (t : LocAdapters α) (i : ℕ) : i ≤ skipAdapters t i := by
  induction i using skipAdapters.induct t with
  | case1 i h hi ih =>
      rw [skipAdapters, dif_pos h, if_pos hi]
      omega
  | case2 i h hi => rw [skipAdapters, dif_pos h, if_neg hi]
  | case3 i h => rw [skipAdapters, dif_neg h]

lemma skipAdapters_le (t : LocAdapters α) {i : ℕ} (hi : i ≤ maxAdapters) :
    skipAdapters t i ≤ maxAdapters := by
  induction i using skipAdapters.induct t with
  | case1 i h hne ih =>
      rw [skipAdapters, dif_pos h, if_pos hne]
      exact ih h
  | case2 i h hne => rwa [skipAdapters, dif_pos h, if_neg hne]
  | case3 i h => rwa [skipAdapters, dif_neg h]

/-- `i` behind the loop and `i--`: the last adapter, or `j` itself. -/
def lastAdapter (t : LocAdapters α) (j : ℕ) : ℕ := skipAdapters t (j + 1) - 1

lemma le_lastAdapter (t : LocAdapters α) (j : ℕ) : j ≤ lastAdapter t j :=
  Nat.le_sub_one_of_lt (le_skipAdapters t (j + 1))

lemma lastAdapter_lt (t : LocAdapters α) {j : ℕ} (h : j < maxAdapters) :
    lastAdapter t j < maxAdapters := by
  have hle : skipAdapters t (j + 1) ≤ maxAdapters := skipAdapters_le t (Nat.succ_le_of_lt h)
  have hpos := le_skipAdapters t (j + 1)
  rw [lastAdapter]
  omega

/-- What `removeAdapter` does to the array when the adapter is at `j`. -/
def removeAt (t : LocAdapters α) (j : ℕ) (h : j < maxAdapters) : LocAdapters α :=
  let t := t.set j none
  have hlast := lastAdapter_lt t h
  (t.set j t[lastAdapter t j]).set (lastAdapter t j) none

variable [DecidableEq α]

/-- The loop of `addAdapter`, from `i` on. -/
def addLoop (adapter : α) (t : LocAdapters α) (i : ℕ) : LocAdapters α × List AdapterAction :=
  if h : i < maxAdapters then
    if t[i] ≠ some adapter then
      if t[i] = none then (t.set i (some adapter), [.sendLocOpenMsg])
      else addLoop adapter t (i + 1)
    else (t, [])
  else (t, [])
termination_by maxAdapters - i

/-- `addAdapter`. -/
def addAdapter (adapter : α) (t : LocAdapters α) : LocAdapters α × List AdapterAction :=
  addLoop adapter t 0

/-- The loop of `removeAdapter`, from `i` on.  After a removal it goes on behind the last
adapter. -/
def removeLoop (adapter : α) (t : LocAdapters α) (i : ℕ) : LocAdapters α × List AdapterAction :=
  if h : i < maxAdapters then
    if t[i] ≠ none then
      if t[i] = some adapter then
        let last := lastAdapter (t.set i none) i
        have : i ≤ last := le_lastAdapter _ i
        let r := removeLoop adapter (removeAt t i h) (last + 1)
        (r.1, (if last = 0 then .close else .sendLocOpenMsg) :: r.2)
      else removeLoop adapter t (i + 1)
    else (t, [])
  else (t, [])
termination_by maxAdapters - i

/-- `removeAdapter`. -/
def removeAdapter (adapter : α) (t : LocAdapters α) : LocAdapters α × List AdapterAction :=
  removeLoop adapter t 0

/-- The adapters that `TO_ALL_ADAPTERS` goes to. -/
def toAllAdapters (t : LocAdapters α) : List α := (t.toList.takeWhile Option.isSome).reduceOption

/-- `getEvtMask`, with the masks that the adapters have at the time. -/
def getEvtMask (mExcludedMask : BitVec 64) (evtMask : α → BitVec 64) (t : LocAdapters α) :
    BitVec 64 :=
  (toAllAdapters t).foldl (fun mask a => mask ||| evtMask a) 0 &&& ~~~mExcludedMask

/-! ## The entries -/

/-- The entries up to the first null pointer are `xs`, without repetitions, and behind them are null
pointers only. -/
structure Lists (t : LocAdapters α) (xs : List α) : Prop where
  nodup : xs.Nodup
  length_le : xs.length ≤ maxAdapters
  entry : ∀ (i : ℕ) (h : i < maxAdapters), t[i] = xs[i]?

section Entries

variable {t : LocAdapters α} {xs l r : List α} {a : α} {i n : ℕ}

omit [DecidableEq α] in
lemma lists_init : Lists (init : LocAdapters α) [] where
  nodup := List.nodup_nil
  length_le := Nat.zero_le _
  entry i h := by rw [init, Vector.getElem_replicate, List.getElem?_nil]

omit [DecidableEq α] in
lemma Lists.entry_of_lt (h : Lists t xs) (hlt : i < xs.length) (hmax : i < maxAdapters) :
    t[i] = some xs[i] := by
  rw [h.entry i hmax, List.getElem?_eq_getElem hlt]

omit [DecidableEq α] in
/-- The first null pointer. -/
lemma Lists.entry_length (h : Lists t xs) (hmax : xs.length < maxAdapters) :
    t[xs.length] = none := by
  rw [h.entry _ hmax, List.getElem?_length]

/-- The loop of `addAdapter` stops at the adapter, at the first null pointer, or at the end. -/
lemma Lists.addLoop (h : Lists t xs) (hi : i ≤ xs.length) (ha : a ∉ xs.take i) :
    LocApiBase.addLoop a t i =
      if hroom : a ∉ xs ∧ xs.length < maxAdapters then
        (t.set xs.length (some a) hroom.2, [.sendLocOpenMsg])
      else (t, []) := by
  obtain ⟨n, hn⟩ := Nat.exists_eq_add_of_le hi
  induction n generalizing i with
  | zero =>
      have hlen : i = xs.length := by omega
      rw [hlen, List.take_length] at ha
      subst hlen
      rw [LocApiBase.addLoop]
      by_cases hroom : xs.length < maxAdapters
      · have hnull := h.entry_length hroom
        rw [dif_pos hroom, dif_pos ⟨ha, hroom⟩, if_pos (by rw [hnull]; exact nofun), if_pos hnull]
      · rw [dif_neg hroom, dif_neg fun hr => hroom hr.2]
  | succ n ih =>
      have hlt : i < xs.length := by omega
      have hmax : i < maxAdapters := Nat.lt_of_lt_of_le hlt h.length_le
      have hentry := h.entry_of_lt hlt hmax
      rw [LocApiBase.addLoop, dif_pos hmax]
      by_cases hai : xs[i] = a
      · have hmem : a ∈ xs := hai ▸ List.getElem_mem hlt
        rw [if_neg (by rw [hentry, hai]; exact fun hne => hne rfl),
          dif_neg fun hr => hr.1 hmem]
      · have htake : a ∉ xs.take (i + 1) := by
          rw [List.take_succ_eq_append_getElem hlt, List.mem_append, List.mem_singleton]
          exact fun hor => hor.elim ha fun heq => hai heq.symm
        rw [if_pos (by rw [hentry]; exact fun heq => hai (Option.some.inj heq)),
          if_neg (by rw [hentry]; exact nofun), ih hlt htake (by omega)]

omit [DecidableEq α] in
/-- A new adapter stands behind the others. -/
lemma Lists.push (h : Lists t xs) (ha : a ∉ xs) (hroom : xs.length < maxAdapters) :
    Lists (t.set xs.length (some a) hroom) (xs ++ [a]) where
  nodup := List.nodup_append.mpr ⟨h.nodup, List.nodup_singleton a, fun x hx y hy => by
    rw [List.mem_singleton.mp hy]
    exact fun heq => ha (heq ▸ hx)⟩
  length_le := by
    rw [List.length_append, List.length_singleton]
    exact hroom
  entry i hi := by
    rw [Vector.getElem_set]
    split
    · rename_i heq
      rw [← heq, List.getElem?_concat_length]
    · rename_i hne
      rw [h.entry i hi]
      rcases Nat.lt_or_gt_of_ne hne with hgt | hlt
      · rw [List.getElem?_eq_none (by omega), List.getElem?_eq_none (by simp; omega)]
      · rw [List.getElem?_append_left hlt]

/-- The loop of `removeAdapter` passes over other adapters. -/
lemma Lists.removeLoop_skip (h : Lists t xs) (hi : i + n ≤ xs.length)
    (ha : a ∉ xs.take (i + n)) :
    LocApiBase.removeLoop a t i = LocApiBase.removeLoop a t (i + n) := by
  induction n generalizing i with
  | zero => rfl
  | succ n ih =>
      have hlt : i < xs.length := by omega
      have hmax : i < maxAdapters := Nat.lt_of_lt_of_le hlt h.length_le
      have hentry := h.entry_of_lt hlt hmax
      have hne : xs[i] ≠ a := fun heq => ha
        (List.mem_take_iff_getElem.mpr ⟨i, by omega, heq⟩)
      have hstep : i + (n + 1) = i + 1 + n := by omega
      rw [LocApiBase.removeLoop, dif_pos hmax, if_pos (by rw [hentry]; exact nofun),
        if_neg (by rw [hentry]; exact fun heq => hne (Option.some.inj heq)), hstep]
      exact ih (by omega) (hstep ▸ ha)

/-- At the first null pointer, and at the end, the loop of `removeAdapter` stops. -/
lemma removeLoop_stop (hstop : ∀ h : i < maxAdapters, t[i] = none) :
    LocApiBase.removeLoop a t i = (t, []) := by
  rw [LocApiBase.removeLoop]
  by_cases h : i < maxAdapters
  · rw [dif_pos h, if_neg fun hne => hne (hstop h)]
  · rw [dif_neg h]

omit [DecidableEq α] in
/-- The search for the last adapter does not see the hole. -/
lemma Lists.skipAdapters (h : Lists t xs) (hn : n < maxAdapters) (hni : n < i)
    (hi : i ≤ xs.length) : LocApiBase.skipAdapters (t.set n none) i = xs.length := by
  obtain ⟨k, hk⟩ := Nat.exists_eq_add_of_le hi
  induction k generalizing i with
  | zero =>
      have hlen : i = xs.length := by omega
      subst hlen
      rw [LocApiBase.skipAdapters]
      by_cases hmax : xs.length < maxAdapters
      · have hnull : (t.set n none)[xs.length] = none := by
          rw [Vector.getElem_set_ne _ _ (by omega), h.entry_length hmax]
        rw [dif_pos hmax, if_neg fun hne => hne hnull]
      · rw [dif_neg hmax]
  | succ k ih =>
      have hlt : i < xs.length := by omega
      have hmax : i < maxAdapters := Nat.lt_of_lt_of_le hlt h.length_le
      have hentry : (t.set n none)[i] ≠ none := by
        rw [Vector.getElem_set_ne _ _ (by omega), h.entry_of_lt hlt hmax]
        exact nofun
      rw [LocApiBase.skipAdapters, dif_pos hmax, if_pos hentry]
      exact ih (by omega) hlt (by omega)

omit [DecidableEq α] in
lemma Lists.lastAdapter (h : Lists t (l ++ a :: r)) (hj : l.length < maxAdapters) :
    LocApiBase.lastAdapter (t.set l.length none) l.length = l.length + r.length := by
  have hlen : (l ++ a :: r).length = l.length + r.length + 1 := by
    rw [List.length_append, List.length_cons, Nat.add_assoc]
  rw [LocApiBase.lastAdapter, h.skipAdapters hj (Nat.lt_succ_self _) (by omega), hlen]
  rfl

omit [DecidableEq α] in
/-- The entries after a removal: the last adapter's is null, and it stands in the place of the one
that is removed. -/
lemma Lists.getElem_removeAt (h : Lists t (l ++ a :: r)) (hj : l.length < maxAdapters) (k : ℕ)
    (hk : k < maxAdapters) : (LocApiBase.removeAt t l.length hj)[k] =
      if l.length + r.length = k then none
      else if l.length = k then
        (if r = [] then none else (l ++ a :: r)[l.length + r.length]?)
      else (l ++ a :: r)[k]? := by
  have hlast := h.lastAdapter hj
  have hlt : l.length + r.length < maxAdapters := hlast ▸ lastAdapter_lt _ hj
  have hmoved : (t.set l.length none)[l.length + r.length] =
      if r = [] then none else (l ++ a :: r)[l.length + r.length]? := by
    rw [Vector.getElem_set, h.entry _ hlt]
    cases r with
    | nil => simp
    | cons b r => simp
  simp only [LocApiBase.removeAt, hlast, Vector.getElem_set (i := l.length + r.length), hmoved]
  split
  · rfl
  · rw [Vector.getElem_set]
    split
    · rfl
    · rename_i hne
      rw [Vector.getElem_set_ne _ _ hne, h.entry k hk]

omit [DecidableEq α] in
/-- **Removing an adapter.** The last one takes its place, and leaves no hole. -/
lemma Lists.removeAt (h : Lists t (l ++ a :: r)) (hj : l.length < maxAdapters) :
    ∃ xs, xs.Perm (l ++ r) ∧ Lists (LocApiBase.removeAt t l.length hj) xs := by
  have hentry := h.getElem_removeAt hj
  rcases List.eq_nil_or_concat r with rfl | ⟨r, z, rfl⟩
  · refine ⟨l, by rw [List.append_nil], h.nodup.of_append_left, Nat.le_of_lt hj, fun k hk => ?_⟩
    rw [hentry k hk]
    split
    · rename_i heq
      rw [List.getElem?_eq_none (by simp at heq; omega)]
    · rename_i hne
      rw [if_neg (by simpa using hne)]
      rcases Nat.lt_or_ge k l.length with hkl | hkl
      · rw [List.getElem?_append_left hkl]
      · rw [List.getElem?_eq_none (by simp at hne ⊢; omega), List.getElem?_eq_none hkl]
  · rw [List.concat_eq_append] at *
    have hperm : (l ++ z :: r).Perm (l ++ (r ++ [z])) :=
      (List.perm_append_singleton z r).symm.append_left l
    have hnodup : (l ++ (r ++ [z])).Nodup :=
      h.nodup.sublist ((List.sublist_cons_self a _).append_left l)
    refine ⟨l ++ z :: r, hperm, hperm.nodup_iff.mpr hnodup, ?_, fun k hk => ?_⟩
    · have := h.length_le
      simp at this ⊢
      omega
    · rw [hentry k hk]
      split
      · rename_i heq
        rw [List.getElem?_eq_none (by simp at heq ⊢; omega)]
      · rename_i hne
        split
        · rename_i heq
          subst heq
          simp
        · rename_i hnj
          rcases Nat.lt_or_gt_of_ne hnj with hgt | hkl
          · obtain ⟨m, rfl⟩ := Nat.exists_eq_add_of_lt hgt
            have hm : m ≠ r.length := fun heq => hne (by simp [heq]; omega)
            have hk' : l.length + m + 1 - l.length = m + 1 := by omega
            rw [List.getElem?_append_right (by omega), List.getElem?_append_right (by omega), hk',
              List.getElem?_cons_succ, List.getElem?_cons_succ]
            rcases Nat.lt_or_gt_of_ne hm with hlt' | hge
            · rw [List.getElem?_append_left hlt']
            · rw [List.getElem?_eq_none (by simp; omega), List.getElem?_eq_none (by omega)]
          · rw [List.getElem?_append_left hkl, List.getElem?_append_left hkl]

/-- The loop of `removeAdapter` on an adapter of the table. -/
lemma Lists.removeAdapter (h : Lists t (l ++ a :: r)) :
    ∃ t' xs, LocApiBase.removeAdapter a t =
        (t', [if l ++ r = [] then .close else .sendLocOpenMsg]) ∧
      xs.Perm (l ++ r) ∧ Lists t' xs := by
  have hlen : (l ++ a :: r).length = l.length + r.length + 1 := by
    rw [List.length_append, List.length_cons, Nat.add_assoc]
  have hle := h.length_le
  have hj : l.length < maxAdapters := by omega
  have hentry : t[l.length] = some a := by
    rw [h.entry _ hj, List.getElem?_append_right (Nat.le_refl _), Nat.sub_self,
      List.getElem?_cons_zero]
  have hskip : LocApiBase.removeAdapter a t = LocApiBase.removeLoop a t l.length := by
    have hnotMem : a ∉ l := by
      have := List.nodup_append.mp h.nodup
      exact fun ha => this.2.2 a ha a List.mem_cons_self rfl
    have := h.removeLoop_skip (a := a) (i := 0) (n := l.length) (by omega)
      (by rwa [Nat.zero_add, List.take_left])
    rwa [Nat.zero_add] at this
  obtain ⟨xs, hperm, hxs⟩ := h.removeAt hj
  have hstop : ∀ hi : l.length + r.length + 1 < maxAdapters,
      (LocApiBase.removeAt t l.length hj)[l.length + r.length + 1] = none := fun hi => by
    rw [hxs.entry _ hi, List.getElem?_eq_none]
    rw [hperm.length_eq, List.length_append]
    omega
  have hempty : l.length + r.length = 0 ↔ l ++ r = [] := by
    rw [← List.length_append, List.length_eq_zero_iff]
  refine ⟨_, xs, ?_, hperm, hxs⟩
  rw [hskip, LocApiBase.removeLoop, dif_pos hj, if_pos (by rw [hentry]; exact nofun),
    if_pos hentry]
  simp only [h.lastAdapter hj, removeLoop_stop hstop, hempty]

/-- An adapter that is not in the table is not found. -/
lemma Lists.removeAdapter_of_notMem (h : Lists t xs) (ha : a ∉ xs) :
    LocApiBase.removeAdapter a t = (t, []) := by
  have hskip := h.removeLoop_skip (a := a) (i := 0) (n := xs.length) (by omega)
    (by rwa [Nat.zero_add, List.take_length])
  rw [Nat.zero_add] at hskip
  rw [LocApiBase.removeAdapter, hskip]
  exact removeLoop_stop h.entry_length

omit [DecidableEq α] in
/-- An event goes to every adapter of the table. -/
lemma Lists.toAllAdapters (h : Lists t xs) : LocApiBase.toAllAdapters t = xs := by
  have hlist : t.toList = xs.map some ++ List.replicate (maxAdapters - xs.length) none := by
    refine List.ext_getElem ?_ fun i hi _ => ?_
    · have := h.length_le
      simp
      omega
    · rw [Vector.length_toList] at hi
      rw [Vector.getElem_toList, h.entry i hi]
      rcases Nat.lt_or_ge i xs.length with hlt | hge
      · rw [List.getElem_append_left (by simpa using hlt), List.getElem_map,
          List.getElem?_eq_getElem hlt]
      · rw [List.getElem_append_right (by simpa using hge), List.getElem_replicate,
          List.getElem?_eq_none hge]
  have hsome : ∀ o ∈ xs.map some, o.isSome = true := by simp
  have hrest : (List.replicate (maxAdapters - xs.length) (none : Option α)).takeWhile
      Option.isSome = [] := by
    cases maxAdapters - xs.length with
    | zero => rfl
    | succ n => rfl
  rw [LocApiBase.toAllAdapters, hlist, List.takeWhile_append_of_pos hsome, hrest, List.append_nil,
    List.reduceOption, List.filterMap_map]
  exact List.filterMap_some

end Entries

/-! ## Sequences of calls -/

/-- The calls that change the table. -/
inductive AdapterCall (α : Type*) where
  | addAdapter (adapter : α)
  | removeAdapter (adapter : α)

/-- The table as a machine. -/
def machine (α : Type*) [DecidableEq α] :
    Machine (LocAdapters α) (AdapterCall α) AdapterAction where
  step t
    | .addAdapter adapter => addAdapter adapter t
    | .removeAdapter adapter => removeAdapter adapter t

/-- What the table is for: a set of up to `maxAdapters` adapters, which is closed when it becomes
empty and opened anew when it changes otherwise. -/
def registry (α : Type*) [DecidableEq α] : Machine (Finset α) (AdapterCall α) AdapterAction where
  step s
    | .addAdapter adapter =>
        if adapter ∈ s ∨ s.card = maxAdapters then (s, [])
        else (insert adapter s, [.sendLocOpenMsg])
    | .removeAdapter adapter =>
        if adapter ∈ s then
          (s.erase adapter, [if s.erase adapter = ∅ then .close else .sendLocOpenMsg])
        else (s, [])

/-- The table holds the set: its entries, up to the first null pointer, are the adapters of the set,
each once. -/
def Holds (t : LocAdapters α) (s : Finset α) : Prop := ∃ xs, Lists t xs ∧ xs.toFinset = s

section Runs

variable {t : LocAdapters α} {s : Finset α}

lemma Holds.addAdapter (h : Holds t s) (a : α) :
    (addAdapter a t).2 = ((registry α).step s (.addAdapter a)).2 ∧
      Holds (addAdapter a t).1 ((registry α).step s (.addAdapter a)).1 := by
  obtain ⟨xs, hxs, rfl⟩ := h
  have hcard : xs.toFinset.card = xs.length := List.toFinset_card_of_nodup hxs.nodup
  have hrun := hxs.addLoop (a := a) (Nat.zero_le _) List.not_mem_nil
  have hle := hxs.length_le
  simp only [LocApiBase.addAdapter, hrun, registry, hcard, List.mem_toFinset]
  by_cases hroom : a ∉ xs ∧ xs.length < maxAdapters
  · have hfull : ¬ (a ∈ xs ∨ xs.length = maxAdapters) := by
      rintro (ha | hlen)
      · exact hroom.1 ha
      · omega
    rw [dif_pos hroom, if_neg hfull]
    exact ⟨rfl, _, hxs.push hroom.1 hroom.2, by simp [List.toFinset_append]⟩
  · have hfull : a ∈ xs ∨ xs.length = maxAdapters := by
      by_cases ha : a ∈ xs
      · exact .inl ha
      · exact .inr (Nat.le_antisymm hle (not_lt.mp fun hlt => hroom ⟨ha, hlt⟩))
    rw [dif_neg hroom, if_pos hfull]
    exact ⟨rfl, xs, hxs, rfl⟩

lemma Holds.removeAdapter (h : Holds t s) (a : α) :
    (removeAdapter a t).2 = ((registry α).step s (.removeAdapter a)).2 ∧
      Holds (removeAdapter a t).1 ((registry α).step s (.removeAdapter a)).1 := by
  obtain ⟨xs, hxs, rfl⟩ := h
  by_cases ha : a ∈ xs
  · obtain ⟨l, r, rfl⟩ := List.append_of_mem ha
    obtain ⟨t', ys, hrun, hperm, hys⟩ := hxs.removeAdapter
    have herase : (l ++ a :: r).toFinset.erase a = (l ++ r).toFinset := by
      have hsplit : a ∉ l ++ r := (List.nodup_middle.mp hxs.nodup).notMem
      rw [List.toFinset_eq_of_perm _ _ List.perm_middle, List.toFinset_cons, Finset.erase_insert]
      rwa [List.mem_toFinset]
    have hempty : (l ++ r).toFinset = ∅ ↔ l ++ r = [] := List.toFinset_eq_empty_iff _
    simp only [registry, List.mem_toFinset, if_pos ha, herase, hrun, hempty, true_and]
    exact ⟨ys, hys, List.toFinset_eq_of_perm _ _ hperm⟩
  · simp only [registry, List.mem_toFinset, if_neg ha, hxs.removeAdapter_of_notMem ha, true_and]
    exact ⟨xs, hxs, rfl⟩

omit [DecidableEq α] in
/-- The bits of a mask that is put together from others. -/
lemma getLsbD_foldl_or (evtMask : α → BitVec 64) (xs : List α) (mask : BitVec 64) (i : ℕ) :
    (xs.foldl (fun mask a => mask ||| evtMask a) mask).getLsbD i = true ↔
      mask.getLsbD i = true ∨ ∃ a ∈ xs, (evtMask a).getLsbD i = true := by
  induction xs generalizing mask with
  | nil => simp
  | cons a xs ih =>
      rw [List.foldl_cons, ih, BitVec.getLsbD_or, Bool.or_eq_true, or_assoc]
      simp

/-- The event mask asks for what the adapters ask for, without the excluded bits. -/
lemma Holds.getEvtMask (h : Holds t s) (mExcludedMask : BitVec 64) (evtMask : α → BitVec 64)
    (i : ℕ) : (LocApiBase.getEvtMask mExcludedMask evtMask t).getLsbD i = true ↔
      (∃ a ∈ s, (evtMask a).getLsbD i = true) ∧ mExcludedMask.getLsbD i = false := by
  obtain ⟨xs, hxs, rfl⟩ := h
  have hzero : (0 : BitVec 64).getLsbD i = false := BitVec.getLsbD_zero
  rw [LocApiBase.getEvtMask, hxs.toAllAdapters, BitVec.getLsbD_and, Bool.and_eq_true,
    getLsbD_foldl_or, BitVec.getLsbD_not, hzero]
  simp only [List.mem_toFinset, Bool.false_eq_true, false_or, Bool.and_eq_true,
    decide_eq_true_eq, Bool.not_eq_true']
  refine and_congr_right ?_
  rintro ⟨a, -, ha⟩
  exact and_iff_right (BitVec.lt_of_getLsbD ha)

end Runs

/-- **The adapter table.** After any calls the table holds the adapters of the set, each once and
without holes; what has been closed and opened is what a set closes when it becomes empty and opens
when it changes otherwise; and the event mask is made of the masks of the set. -/
theorem adapters_follow (calls : List (AdapterCall α)) (mExcludedMask : BitVec 64)
    (evtMask : α → BitVec 64) :
    let t := (machine α).run init calls
    let s := (registry α).run ∅ calls
    Holds t s ∧ (machine α).outs init calls = (registry α).outs ∅ calls ∧
      ∀ i, (getEvtMask mExcludedMask evtMask t).getLsbD i = true ↔
        (∃ a ∈ s, (evtMask a).getLsbD i = true) ∧ mExcludedMask.getLsbD i = false := by
  have h0 : Holds (init : LocAdapters α) ∅ := ⟨[], lists_init, rfl⟩
  obtain ⟨houts, hholds⟩ := Machine.outs_eq_of_steps (M := machine α) (N := registry α)
    (R := Holds) (fun t s call h => by
      cases call with
      | addAdapter adapter => exact h.addAdapter adapter
      | removeAdapter adapter => exact h.removeAdapter adapter) h0 calls
  exact ⟨hholds, houts, hholds.getEvtMask mExcludedMask evtMask⟩

end LocApiBase
end LocHal
