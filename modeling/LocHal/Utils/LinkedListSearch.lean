import LocHal.Utils.LinkedList

/-!
# Searching the doubly linked list (`gps/utils/linked_list.c`)

`linked_list_search` walks from the head to the first element that the caller's predicate accepts,
and takes it out of the chain when it is asked to.  The element may stand at the head, at the tail,
between two others or alone, and each of its two neighbours is patched by a statement of its own
(`detachPrev`, `detachNext`).

`linkedList_refines`: every sequence of calls on a list does what it does to a sequence that is
added to at the front and removed from at the back, and leaves a chain whose `next` and `prev` are
inverse to each other.  The deallocation functions are called for what is flushed, and for what a
search removes without handing it out.
-/

namespace LocHal

open ListMemory

variable {M D : Type*}

/-! ## The search -/

/-- `tmp->prev->next = tmp->next`, or the head when there is no `tmp->prev`. -/
def detachPrev (p_list : ListState M D) (tmp : ℕ) : Option (ListState M D) := do
  let e ← p_list.memory[tmp]?
  match e.prev with
  | none => some { p_list with p_head := e.next }
  | some prev => do
      let memory ← store p_list.memory prev fun p => { p with next := e.next }
      some { p_list with memory := memory }

/-- `tmp->next->prev = tmp->prev`, or the tail when there is no `tmp->next`. -/
def detachNext (p_list : ListState M D) (tmp : ℕ) : Option (ListState M D) := do
  let e ← p_list.memory[tmp]?
  match e.next with
  | none => some { p_list with p_tail := e.prev }
  | some next => do
      let memory ← store p_list.memory next fun n => { n with prev := e.prev }
      some { p_list with memory := memory }

/-- What `linked_list_search` does to the element that it has found, if it is to remove it: the list
and the calls of deallocation functions. -/
def removeFound (data_p : Bool) (p_list : ListState M D) (tmp : ℕ) :
    Option (ListState M D × List (D × M)) := do
  let p_list ← detachPrev p_list tmp
  let p_list ← detachNext p_list tmp
  let memory ← store p_list.memory tmp fun e => { e with next := none, prev := none }
  let e ← memory[tmp]?
  some ({ p_list with memory := memory.erase tmp },
    -- the data is the caller's when it has been copied out
    if data_p then [] else deallocCalls [(e.data_ptr, e.dealloc_func)])

/-- The loop of `linked_list_search`, from the element at `tmp` on: the list, the data found, and
the calls of deallocation functions. -/
def searchLoop (data_p : Bool) (equal : M → Bool) (rm_if_found : Bool) :
    ℕ → Option ℕ → ListState M D → Option (ListState M D × Option M × List (D × M))
  | _, none, p_list => some (p_list, none, [])
  | 0, some _, _ => none
  | fuel + 1, some tmp, p_list => do
      let e ← p_list.memory[tmp]?
      if equal e.data_ptr then
        if rm_if_found then do
          let r ← removeFound data_p p_list tmp
          some (r.1, some e.data_ptr, r.2)
        else some (p_list, some e.data_ptr, [])
      else searchLoop data_p equal rm_if_found fuel e.next p_list

/-- `linked_list_search`, with `equal` applied to `data_0`; `data_p` says whether there is a place
for the data.  What is stored there comes after the error code, and then the calls of deallocation
functions. -/
def linkedListSearch (p_list : ListState M D) (data_p : Bool) (equal : Option (M → Bool))
    (rm_if_found : Bool) :
    Option (ListState M D × LinkedListErrType × Option (Option M) × List (D × M)) :=
  match equal with
  | none => some (p_list, .invalidHandle, none, [])
  | some equal =>
      match p_list.p_tail with
      | none => some (p_list, .unavailableResource, none, [])
      | some _ => do
          let r ← searchLoop data_p equal rm_if_found p_list.memory.size p_list.p_head p_list
          some (r.1, .success, if data_p then some r.2.1 else none, r.2.2)

/-! ## Taking an element out -/

section Unlink

variable {p_list : ListState M D} {cells before after : List (Cell M D)} {c : Cell M D}
  {e : ListElement M D} {tmp : ℕ}

lemma detachPrev_eq (htmp : p_list.memory[tmp]? = some e)
    (hprev : ∀ p, e.prev = some p → p ∈ p_list.memory) :
    ∃ p_list', detachPrev p_list tmp = some p_list' ∧
      p_list'.p_head = (if e.prev = none then e.next else p_list.p_head) ∧
      p_list'.p_tail = p_list.p_tail ∧
      ∀ q : ℕ, p_list'.memory[q]? = p_list.memory[q]?.map fun x =>
        if e.prev = some q then { x with next := e.next } else x := by
  simp only [detachPrev, htmp, Option.bind_eq_bind, Option.bind_some]
  cases hp : e.prev with
  | none =>
      refine ⟨_, rfl, rfl, rfl, fun q => ?_⟩
      simp
  | some p =>
      obtain ⟨x, hx⟩ := Option.isSome_iff_exists.mp
        (Std.TreeMap.mem_iff_isSome_getElem?.mp (hprev p hp))
      simp only [store_of_getElem? hx, Option.bind_some]
      refine ⟨_, rfl, rfl, rfl, fun q => ?_⟩
      rw [getElem?_insert]
      by_cases hqp : q = p
      · subst hqp
        simp [hx]
      · have hpq : ¬ p = q := fun h => hqp h.symm
        simp [hqp, hpq]

lemma detachNext_eq (htmp : p_list.memory[tmp]? = some e)
    (hnext : ∀ p, e.next = some p → p ∈ p_list.memory) :
    ∃ p_list', detachNext p_list tmp = some p_list' ∧
      p_list'.p_head = p_list.p_head ∧
      p_list'.p_tail = (if e.next = none then e.prev else p_list.p_tail) ∧
      ∀ q : ℕ, p_list'.memory[q]? = p_list.memory[q]?.map fun x =>
        if e.next = some q then { x with prev := e.prev } else x := by
  simp only [detachNext, htmp, Option.bind_eq_bind, Option.bind_some]
  cases hn : e.next with
  | none =>
      refine ⟨_, rfl, rfl, rfl, fun q => ?_⟩
      simp
  | some n =>
      obtain ⟨x, hx⟩ := Option.isSome_iff_exists.mp
        (Std.TreeMap.mem_iff_isSome_getElem?.mp (hnext n hn))
      simp only [store_of_getElem? hx, Option.bind_some]
      refine ⟨_, rfl, rfl, rfl, fun q => ?_⟩
      rw [getElem?_insert]
      by_cases hqn : q = n
      · subst hqn
        simp [hx]
      · have hnq : ¬ n = q := fun h => hqn h.symm
        simp [hqn, hnq]

/-- The last cell of a list of cells is one of them. -/
lemma exists_of_getLast?_addr {a : ℕ} (h : before.getLast?.map Cell.addr = some a) :
    ∃ b ∈ before, b.addr = a := by
  obtain ⟨b, hb, hba⟩ := Option.map_eq_some_iff.mp h
  exact ⟨b, List.mem_of_getLast? hb, hba⟩

lemma exists_of_head?_addr {a : ℕ} (h : after.head?.map Cell.addr = some a) :
    ∃ b ∈ after, b.addr = a := by
  obtain ⟨b, hb, hba⟩ := Option.map_eq_some_iff.mp h
  exact ⟨b, List.mem_of_head? hb, hba⟩

/-- A cell of two lists stands in one of them. -/
lemma append_split {b a : List (Cell M D)} {x : Cell M D} (h : before ++ after = b ++ x :: a) :
    (∃ mid, after = mid ++ x :: a ∧ b = before ++ mid) ∨
      ∃ mid, before = b ++ x :: mid ∧ a = mid ++ after := by
  rcases List.append_eq_append_iff.mp h with ⟨mid, hb, ha⟩ | ⟨mid, hb, ha⟩
  · exact .inl ⟨mid, ha, hb⟩
  · cases mid with
    | nil => exact .inl ⟨[], ha.symm, by rw [hb, List.append_nil, List.append_nil]⟩
    | cons y mid =>
        obtain ⟨rfl, rfl⟩ := List.cons.inj ha
        exact .inr ⟨mid, hb, rfl⟩

/-- What both assignments leave of an element of a chain is its element in the chain without
`c`. -/
lemma linked_of_removed (hnodup : ((before ++ c :: after).map Cell.addr).Nodup)
    (hlinked : ∀ b x a, before ++ c :: after = b ++ x :: a →
      p_list.memory[x.addr]? = some ⟨a.head?.map Cell.addr, b.getLast?.map Cell.addr,
        x.data_ptr, x.dealloc_func⟩)
    {b a : List (Cell M D)} {x : Cell M D} (hsplit : before ++ after = b ++ x :: a) :
    ((p_list.memory[x.addr]?.map fun y =>
        if before.getLast?.map Cell.addr = some x.addr then
          { y with next := after.head?.map Cell.addr } else y).map fun y =>
        if after.head?.map Cell.addr = some x.addr then
          { y with prev := before.getLast?.map Cell.addr } else y) =
      some ⟨a.head?.map Cell.addr, b.getLast?.map Cell.addr, x.data_ptr, x.dealloc_func⟩ := by
  have hdisjoint : ∀ y ∈ before, ∀ z ∈ after, y.addr ≠ z.addr := by
    intro y hy z hz
    rw [List.map_append, List.nodup_append'] at hnodup
    exact fun heq => hnodup.2.2 (List.mem_map_of_mem hy)
      (heq ▸ List.mem_map_of_mem (List.mem_cons_of_mem c hz))
  rcases append_split hsplit with ⟨mid, hafter, rfl⟩ | ⟨mid, hbefore, rfl⟩
  · -- `x` stands behind `c`
    have hx := hlinked (before ++ c :: mid) x a (by rw [hafter]; simp)
    have hxafter : x ∈ after := hafter ▸ List.mem_append_right _ List.mem_cons_self
    have hprev : ¬ before.getLast?.map Cell.addr = some x.addr := fun h => by
      obtain ⟨y, hy, hyx⟩ := exists_of_getLast?_addr h
      exact hdisjoint y hy x hxafter hyx
    rw [hx, Option.map_some, if_neg hprev, Option.map_some]
    cases mid with
    | nil =>
        rw [hafter]
        simp
    | cons y mid =>
        have hne : x.addr ≠ y.addr := by
          have hx : ((before ++ c :: y :: mid ++ x :: a).map Cell.addr).Nodup := by
            simpa [hafter] using hnodup
          exact addr_ne hx (by simp)
        have hnext : ¬ after.head?.map Cell.addr = some x.addr := by
          rw [hafter]
          simpa using hne.symm
        rw [if_neg hnext]
        simp [List.getLast?_append]
  · -- `x` stands before `c`
    have hx := hlinked b x (mid ++ c :: after) (by rw [hbefore]; simp)
    have hxbefore : x ∈ before := hbefore ▸ List.mem_append_right _ List.mem_cons_self
    have hnext : ¬ after.head?.map Cell.addr = some x.addr := fun h => by
      obtain ⟨y, hy, hyx⟩ := exists_of_head?_addr h
      exact hdisjoint x hxbefore y hy hyx.symm
    rw [hx, Option.map_some, Option.map_some, if_neg hnext]
    rcases List.eq_nil_or_concat mid with rfl | ⟨front, y, rfl⟩
    · rw [hbefore]
      simp
    · have hne : y.addr ≠ x.addr := by
        have hy : ((b ++ x :: front ++ y :: c :: after).map Cell.addr).Nodup := by
          simpa [hbefore] using hnodup
        exact addr_ne hy (by simp)
      have hprev : ¬ before.getLast?.map Cell.addr = some x.addr := by
        rw [hbefore]
        simpa [List.getLast?_cons] using hne
      rw [if_neg hprev]
      simp [List.head?_append]

/-- **Removing what has been found.** The cell is gone from where it stood. -/
lemma Represents.removeFound (h : Represents p_list (before ++ c :: after)) (data_p : Bool) :
    ∃ p_list', LocHal.removeFound data_p p_list c.addr = some (p_list',
        if data_p then [] else deallocCalls [(c.data_ptr, c.dealloc_func)]) ∧
      Represents p_list' (before ++ after) := by
  have hc := h.linked before c after rfl
  have hnodup : ((before ++ after).map Cell.addr).Nodup :=
    h.nodup.sublist ((List.sublist_cons_self c after).append_left before |>.map _)
  have hcb : ∀ y ∈ before, c.addr ≠ y.addr := fun y hy => addr_ne h.nodup hy
  have hca : ∀ y ∈ after, y.addr ≠ c.addr := by
    intro y hy
    obtain ⟨l, r, rfl⟩ := List.append_of_mem hy
    have hy' : ((before ++ c :: l ++ y :: r).map Cell.addr).Nodup := by simpa using h.nodup
    exact addr_ne hy' (by simp)
  have hprev : ¬ before.getLast?.map Cell.addr = some c.addr := fun heq => by
    obtain ⟨y, hy, hyc⟩ := exists_of_getLast?_addr heq
    exact hcb y hy hyc.symm
  have hnext : ¬ after.head?.map Cell.addr = some c.addr := fun heq => by
    obtain ⟨y, hy, hyc⟩ := exists_of_head?_addr heq
    exact hca y hy hyc
  have hmem : ∀ p, (∃ y ∈ before ++ after, y.addr = p) → p ∈ p_list.memory := by
    rintro p ⟨y, hy, rfl⟩
    refine h.mem_memory ?_
    rcases List.mem_append.mp hy with hy | hy
    · exact List.mem_append_left _ hy
    · exact List.mem_append_right _ (List.mem_cons_of_mem c hy)
  obtain ⟨p_list₁, hrun₁, hhead₁, htail₁, hmem₁⟩ := detachPrev_eq hc fun p hp => by
    obtain ⟨y, hy, hyp⟩ := exists_of_getLast?_addr hp
    exact hmem p ⟨y, List.mem_append_left _ hy, hyp⟩
  have hc₁ : p_list₁.memory[c.addr]? = some ⟨after.head?.map Cell.addr,
      before.getLast?.map Cell.addr, c.data_ptr, c.dealloc_func⟩ := by
    rw [hmem₁, hc, Option.map_some]
    simp only [if_neg hprev]
  obtain ⟨p_list₂, hrun₂, hhead₂, htail₂, hmem₂⟩ := detachNext_eq hc₁ fun p hp => by
    obtain ⟨y, hy, hyp⟩ := exists_of_head?_addr hp
    have := hmem p ⟨y, List.mem_append_right _ hy, hyp⟩
    rw [Std.TreeMap.mem_iff_isSome_getElem?] at this ⊢
    rw [hmem₁, Option.isSome_map]
    exact this
  have hc₂ : p_list₂.memory[c.addr]? = some ⟨after.head?.map Cell.addr,
      before.getLast?.map Cell.addr, c.data_ptr, c.dealloc_func⟩ := by
    rw [hmem₂, hc₁, Option.map_some]
    simp only [if_neg hnext]
  have hself : ∀ (memory : ListMemory M D) (e : ListElement M D),
      (memory.insert c.addr e)[c.addr]? = some e := fun _ _ => Std.TreeMap.getElem?_insert_self
  refine ⟨⟨p_list₂.p_head, p_list₂.p_tail, (p_list₂.memory.insert c.addr
    ⟨none, none, c.data_ptr, c.dealloc_func⟩).erase c.addr⟩, ?_, ?_, ?_, hnodup, ?_, ?_⟩
  · simp only [LocHal.removeFound, hrun₁, hrun₂, Option.bind_eq_bind, Option.bind_some,
      store_of_getElem? hc₂, hself]
  · show p_list₂.p_head = _
    rw [hhead₂, hhead₁, h.head]
    cases before with
    | nil => rfl
    | cons b before => simp [List.getLast?_cons]
  · show p_list₂.p_tail = _
    rw [htail₂, htail₁, h.tail]
    cases after with
    | nil => simp
    | cons a after => simp [List.getLast?_append, List.getLast?_cons]
  · intro b x a hsplit
    have hxc : x.addr ≠ c.addr := by
      have hx : x ∈ before ++ after := hsplit ▸ List.mem_append_right _ List.mem_cons_self
      rcases List.mem_append.mp hx with hx | hx
      · exact (hcb x hx).symm
      · exact hca x hx
    rw [getElem?_erase, if_neg hxc, getElem?_insert, if_neg hxc, hmem₂, hmem₁]
    exact linked_of_removed h.nodup h.linked hsplit
  · intro p hp
    rw [getElem?_erase]
    split_ifs with hpc
    · rfl
    · have hpall : p ∉ (before ++ c :: after).map Cell.addr := by
        rw [List.map_append, List.map_cons, List.mem_append, List.mem_cons]
        rw [List.map_append, List.mem_append] at hp
        tauto
      rw [getElem?_insert, if_neg hpc, hmem₂, hmem₁, h.owned p hpall]
      rfl

/-- What an element is to the caller. -/
def Cell.item (c : Cell M D) : M × Option D := (c.data_ptr, c.dealloc_func)

/-- The calls of deallocation functions for an element that a search has found. -/
def foundCalls (data_p rm_if_found : Bool) (found : Option (M × Option D)) : List (D × M) :=
  if rm_if_found && !data_p then deallocCalls found.toList else []

/-- **The walk.** It stops at the first of the cells to come that the predicate accepts. -/
lemma Represents.searchLoop (data_p : Bool) (equal : M → Bool) (rm_if_found : Bool) {fuel : ℕ}
    (h : Represents p_list (before ++ after)) (hfuel : after.length ≤ fuel) :
    ∃ p_list', LocHal.searchLoop data_p equal rm_if_found fuel (after.head?.map Cell.addr) p_list =
        some (p_list', (after.find? fun c => equal c.data_ptr).map Cell.data_ptr,
          foundCalls data_p rm_if_found
            ((after.find? fun c => equal c.data_ptr).map Cell.item)) ∧
      Represents p_list' (before ++
        if rm_if_found then after.eraseP fun c => equal c.data_ptr else after) := by
  induction after generalizing before fuel with
  | nil =>
      refine ⟨p_list, ?_, by simpa using h⟩
      cases fuel with
      | zero => simp [LocHal.searchLoop, foundCalls, deallocCalls]
      | succ fuel => simp [LocHal.searchLoop, foundCalls, deallocCalls]
  | cons c after ih =>
      obtain ⟨fuel, rfl⟩ := Nat.exists_eq_succ_of_ne_zero (Nat.ne_of_gt
        (Nat.lt_of_lt_of_le (Nat.zero_lt_succ _) hfuel))
      have hc := h.linked before c after rfl
      simp only [List.head?_cons, Option.map_some, LocHal.searchLoop, hc, Option.bind_eq_bind,
        Option.bind_some]
      cases hequal : equal c.data_ptr with
      | false =>
          have h' : Represents p_list ((before ++ [c]) ++ after) := by
            rwa [List.append_assoc, List.singleton_append]
          obtain ⟨p_list', hrun, hrep⟩ := ih h' (Nat.le_of_succ_le_succ hfuel)
          refine ⟨p_list', ?_, ?_⟩
          · simpa [hequal] using hrun
          · rw [List.append_assoc, List.singleton_append] at hrep
            cases rm_if_found with
            | false => simpa using hrep
            | true => simpa [hequal] using hrep
      | true =>
          cases rm_if_found with
          | false =>
              refine ⟨p_list, ?_, by simpa using h⟩
              simp [hequal, foundCalls]
          | true =>
              obtain ⟨p_list', hrun, hrep⟩ := h.removeFound data_p
              refine ⟨p_list', ?_, by simpa [hequal] using hrep⟩
              cases data_p with
              | false => simp [hequal, hrun, foundCalls, Cell.item]
              | true => simp [hequal, hrun, foundCalls]

/-- **Searching.** -/
lemma Represents.search (data_p : Bool) (equal : M → Bool) (rm_if_found : Bool)
    (h : Represents p_list cells) (hne : cells ≠ []) :
    ∃ p_list', linkedListSearch p_list data_p (some equal) rm_if_found =
        some (p_list', .success,
          if data_p then some ((cells.find? fun c => equal c.data_ptr).map Cell.data_ptr) else none,
          foundCalls data_p rm_if_found
            ((cells.find? fun c => equal c.data_ptr).map Cell.item)) ∧
      Represents p_list'
        (if rm_if_found then cells.eraseP fun c => equal c.data_ptr else cells) := by
  have h' : Represents p_list ([] ++ cells) := h
  obtain ⟨p_list', hrun, hrep⟩ := h'.searchLoop data_p equal rm_if_found h.length_le_size
  obtain ⟨c, hc⟩ := Option.ne_none_iff_exists'.mp (mt List.getLast?_eq_none_iff.mp hne)
  have htail : p_list.p_tail = some c.addr := by rw [h.tail, hc, Option.map_some]
  refine ⟨p_list', ?_, hrep⟩
  rw [← h.head] at hrun
  simp only [linkedListSearch, htail, hrun, Option.bind_eq_bind, Option.bind_some]

lemma Represents.search_nil (data_p : Bool) (equal : M → Bool) (rm_if_found : Bool)
    (h : Represents p_list []) : linkedListSearch p_list data_p (some equal) rm_if_found =
      some (p_list, .unavailableResource, none, []) := by
  have htail : p_list.p_tail = none := h.tail
  simp only [linkedListSearch, htail]

end Unlink

/-! ## The chain -/

/-- The elements of a list are chained from the head to the tail: the head has no `prev`, the tail
no `next`, and `next` and `prev` are inverse to each other. -/
structure ConsistentChain (p_list : ListState M D) : Prop where
  ends : p_list.p_head = none ↔ p_list.p_tail = none
  head : ∀ p : ℕ, p_list.p_head = some p → ∃ e, p_list.memory[p]? = some e ∧ e.prev = none
  tail : ∀ p : ℕ, p_list.p_tail = some p → ∃ e, p_list.memory[p]? = some e ∧ e.next = none
  next : ∀ (p q : ℕ) e, p_list.memory[p]? = some e → e.next = some q →
    ∃ e', p_list.memory[q]? = some e' ∧ e'.prev = some p
  prev : ∀ (p q : ℕ) e, p_list.memory[p]? = some e → e.prev = some q →
    ∃ e', p_list.memory[q]? = some e' ∧ e'.next = some p

section Chain

variable {p_list : ListState M D} {cells : List (Cell M D)}

/-- An element in memory is that of a cell. -/
lemma Represents.exists_cell (h : Represents p_list cells) {p : ℕ} {e : ListElement M D}
    (he : p_list.memory[p]? = some e) :
    ∃ before c after, cells = before ++ c :: after ∧ c.addr = p ∧
      e = ⟨after.head?.map Cell.addr, before.getLast?.map Cell.addr, c.data_ptr,
        c.dealloc_func⟩ := by
  by_cases hp : p ∈ cells.map Cell.addr
  · obtain ⟨c, hc, rfl⟩ := List.mem_map.mp hp
    obtain ⟨before, after, rfl⟩ := List.append_of_mem hc
    exact ⟨before, c, after, rfl, rfl,
      Option.some.inj (he.symm.trans (h.linked before c after rfl))⟩
  · rw [h.owned p hp] at he
    cases he

lemma Represents.consistentChain (h : Represents p_list cells) : ConsistentChain p_list where
  ends := by
    rw [h.head, h.tail, Option.map_eq_none_iff, Option.map_eq_none_iff, List.head?_eq_none_iff,
      List.getLast?_eq_none_iff]
  head p hp := by
    cases cells with
    | nil =>
        rw [h.head] at hp
        cases hp
    | cons c after =>
        rw [h.head] at hp
        cases hp
        exact ⟨_, h.linked [] c after rfl, rfl⟩
  tail p hp := by
    rcases List.eq_nil_or_concat cells with rfl | ⟨before, c, rfl⟩
    · rw [h.tail] at hp
      cases hp
    · rw [List.concat_eq_append] at h
      rw [h.tail, List.getLast?_concat] at hp
      cases hp
      exact ⟨_, h.linked before c [] rfl, rfl⟩
  next p q e he hq := by
    obtain ⟨before, c, after, rfl, rfl, rfl⟩ := h.exists_cell he
    cases after with
    | nil => cases hq
    | cons c' after =>
        cases hq
        have hc' := h.linked (before ++ [c]) c' after (by simp)
        exact ⟨_, hc', by simp⟩
  prev p q e he hq := by
    obtain ⟨before, c, after, rfl, rfl, rfl⟩ := h.exists_cell he
    rcases List.eq_nil_or_concat before with rfl | ⟨before, c', rfl⟩
    · cases hq
    · rw [List.concat_eq_append] at h hq
      have hc' := h.linked before c' (c :: after) (by simp)
      have hq' : c'.addr = q := by simpa using hq
      exact ⟨_, hq' ▸ hc', rfl⟩

end Chain

/-! ## Sequences of calls -/

/-- The calls on a list; `elem` is what `malloc` returns to `linked_list_add`.  `data_obj` of
`remove` and `data_p` say whether there is a place for the data. -/
inductive ListCall (M D : Type*) where
  | add (data_obj : Option M) (dealloc : Option D) (elem : ℕ)
  | remove (data_obj : Bool)
  | search (data_p : Bool) (equal : Option (M → Bool)) (rm_if_found : Bool)
  | flush

/-- What a call gives back: the error code, what is stored in the place for the data, if anything,
and the calls of deallocation functions. -/
structure CallResult (M D : Type*) where
  status : LinkedListErrType
  stored : Option (Option M)
  deallocs : List (D × M)

namespace ListCall

/-- A call on a list. -/
def exec (p_list : ListState M D) : ListCall M D → Option (ListState M D × CallResult M D)
  | add data_obj dealloc elem =>
      (linkedListAdd p_list data_obj dealloc elem).map fun r => (r.1, ⟨r.2, none, []⟩)
  | remove false => some (p_list, ⟨.invalidParameter, none, []⟩)
  | remove true =>
      (linkedListRemove p_list).map fun r => (r.1, ⟨r.2.1, r.2.2.map some, []⟩)
  | search data_p equal rm_if_found =>
      (linkedListSearch p_list data_p equal rm_if_found).map fun r =>
        (r.1, ⟨r.2.1, r.2.2.1, r.2.2.2⟩)
  | flush => (linkedListFlush p_list).map fun r => (r.1, ⟨r.2.1, none, deallocCalls r.2.2⟩)

/-- `malloc` returns memory that is not in use. -/
def MallocFresh (p_list : ListState M D) : ListCall M D → Prop
  | add _ _ elem => elem ∉ p_list.memory
  | _ => True

instance (p_list : ListState M D) : ∀ call, Decidable (MallocFresh p_list call)
  | add _ _ elem => inferInstanceAs (Decidable (elem ∉ p_list.memory))
  | remove _ | search _ _ _ | flush => isTrue trivial

/-- The elements that a call takes out of a sequence without handing their data to the caller. -/
def dropped (xs : List (M × Option D)) : ListCall M D → List (M × Option D)
  | search false (some equal) true => (xs.find? fun x => equal x.1).toList
  | flush => xs
  | _ => []

/-- The sequence after a call. -/
def after (xs : List (M × Option D)) : ListCall M D → List (M × Option D)
  | add (some data_obj) dealloc _ => (data_obj, dealloc) :: xs
  | remove true => xs.dropLast
  | search _ (some equal) true => xs.eraseP fun x => equal x.1
  | flush => []
  | _ => xs

/-- What a call on a sequence gives back. -/
def result (xs : List (M × Option D)) (call : ListCall M D) : CallResult M D :=
  let deallocs := deallocCalls (call.dropped xs)
  match call with
  | add none _ _ => ⟨.invalidParameter, none, deallocs⟩
  | add (some _) _ _ => ⟨.success, none, deallocs⟩
  | remove false => ⟨.invalidParameter, none, deallocs⟩
  | remove true =>
      match xs.getLast? with
      | none => ⟨.unavailableResource, none, deallocs⟩
      | some x => ⟨.success, some (some x.1), deallocs⟩
  | search _ none _ => ⟨.invalidHandle, none, deallocs⟩
  | search data_p (some equal) _ =>
      if xs.isEmpty then ⟨.unavailableResource, none, deallocs⟩
      else ⟨.success,
        if data_p then some ((xs.find? fun x => equal x.1).map Prod.fst) else none, deallocs⟩
  | flush => ⟨.success, none, deallocs⟩

/-- Searching the cells is searching what they hold. -/
lemma find?_item (equal : M → Bool) (cells : List (Cell M D)) :
    (cells.map Cell.item).find? (fun x => equal x.1) =
      (cells.find? fun c => equal c.data_ptr).map Cell.item :=
  List.find?_map

lemma eraseP_item (equal : M → Bool) (cells : List (Cell M D)) :
    (cells.map Cell.item).eraseP (fun x => equal x.1) =
      (cells.eraseP fun c => equal c.data_ptr).map Cell.item :=
  List.eraseP_map

lemma deallocCalls_dropped_search (data_p : Bool) (equal : M → Bool) (rm_if_found : Bool)
    (xs : List (M × Option D)) :
    deallocCalls (dropped xs (search data_p (some equal) rm_if_found)) =
      foundCalls data_p rm_if_found (xs.find? fun x => equal x.1) := by
  cases data_p with
  | false =>
      cases rm_if_found with
      | false => rfl
      | true => rfl
  | true =>
      cases rm_if_found with
      | false => rfl
      | true => rfl

/-- **One call.** It is defined, and it does to the list what it does to the sequence. -/
lemma exec_refines {p_list : ListState M D} {cells : List (Cell M D)} (h : Represents p_list cells)
    {call : ListCall M D} (hfresh : call.MallocFresh p_list) :
    ∃ p_list' cells', call.exec p_list =
        some (p_list', call.result (cells.map Cell.item)) ∧
      Represents p_list' cells' ∧ cells'.map Cell.item = call.after (cells.map Cell.item) := by
  cases call with
  | add data_obj dealloc elem =>
      cases data_obj with
      | none => exact ⟨p_list, cells, rfl, h, rfl⟩
      | some data_obj =>
          obtain ⟨p_list', hrun, hrep⟩ := h.add hfresh data_obj dealloc
          refine ⟨p_list', _, ?_, hrep, rfl⟩
          rw [exec, hrun]
          rfl
  | remove data_obj =>
      cases data_obj with
      | false => exact ⟨p_list, cells, rfl, h, rfl⟩
      | true =>
          rcases List.eq_nil_or_concat cells with rfl | ⟨front, c, rfl⟩
          · refine ⟨p_list, [], ?_, h, rfl⟩
            rw [exec, h.remove_nil]
            rfl
          · rw [List.concat_eq_append] at h ⊢
            obtain ⟨p_list', hrun, hrep⟩ := h.remove
            refine ⟨p_list', front, ?_, hrep, ?_⟩
            · rw [exec, hrun, result, List.map_append, List.map_singleton, List.getLast?_concat]
              rfl
            · rw [after, List.map_append, List.map_singleton, List.dropLast_concat]
  | search data_p equal rm_if_found =>
      cases equal with
      | none =>
          have hdropped : dropped (cells.map Cell.item) (search data_p none rm_if_found) = [] := by
            cases data_p with
            | false => rfl
            | true => rfl
          refine ⟨p_list, cells, ?_, h, rfl⟩
          rw [exec, linkedListSearch, result, hdropped]
          rfl
      | some equal =>
          by_cases hnil : cells = []
          · subst hnil
            refine ⟨p_list, [], ?_, h, by cases rm_if_found <;> rfl⟩
            rw [exec, h.search_nil data_p equal rm_if_found, result,
              deallocCalls_dropped_search, foundCalls]
            simp [deallocCalls]
          · obtain ⟨p_list', hrun, hrep⟩ := h.search data_p equal rm_if_found hnil
            have hnil' : ¬ (cells.map Cell.item).isEmpty = true := by simpa using hnil
            refine ⟨p_list', _, ?_, hrep, ?_⟩
            · rw [exec, hrun, result, deallocCalls_dropped_search, find?_item]
              simp only [if_neg hnil', Option.map_some, Option.map_map]
              rfl
            · cases rm_if_found with
              | false => rfl
              | true => exact (eraseP_item equal cells).symm
  | flush =>
      obtain ⟨p_list', hrun, hrep⟩ := h.flush
      refine ⟨p_list', [], ?_, hrep, rfl⟩
      rw [exec, hrun]
      rfl

end ListCall

/-- A sequence of calls on a list, and what they give back. -/
def execAll : List (ListCall M D) → ListState M D →
    Option (ListState M D × List (CallResult M D))
  | [], p_list => some (p_list, [])
  | call :: calls, p_list => do
      let r ← call.exec p_list
      let rest ← execAll calls r.1
      some (rest.1, r.2 :: rest.2)

/-- In each of the calls `malloc` returns memory that is not in use. -/
def AllFresh : List (ListCall M D) → ListState M D → Prop
  | [], _ => True
  | call :: calls, p_list =>
      call.MallocFresh p_list ∧ ∀ r ∈ call.exec p_list, AllFresh calls r.1

instance decidableAllFresh : ∀ (calls : List (ListCall M D)) (p_list : ListState M D),
    Decidable (AllFresh calls p_list)
  | [], _ => isTrue trivial
  | call :: calls, p_list =>
      have : ∀ r : ListState M D × CallResult M D, Decidable (AllFresh calls r.1) :=
        fun r => decidableAllFresh calls r.1
      inferInstanceAs (Decidable (call.MallocFresh p_list ∧
        ∀ r ∈ call.exec p_list, AllFresh calls r.1))

/-- The sequence after the calls, and what they give back. -/
def execSeq : List (ListCall M D) → List (M × Option D) →
    List (M × Option D) × List (CallResult M D)
  | [], xs => (xs, [])
  | call :: calls, xs =>
      ((execSeq calls (call.after xs)).1, call.result xs :: (execSeq calls (call.after xs)).2)

lemma execAll_refines {calls : List (ListCall M D)} {p_list : ListState M D}
    {cells : List (Cell M D)} (h : Represents p_list cells) (hfresh : AllFresh calls p_list) :
    ∃ p_list' cells', execAll calls p_list =
        some (p_list', (execSeq calls (cells.map Cell.item)).2) ∧
      Represents p_list' cells' ∧
      cells'.map Cell.item = (execSeq calls (cells.map Cell.item)).1 := by
  induction calls generalizing p_list cells with
  | nil => exact ⟨p_list, cells, rfl, h, rfl⟩
  | cons call calls ih =>
      obtain ⟨p_list₁, cells₁, hrun, hrep, hitems⟩ := ListCall.exec_refines h hfresh.1
      obtain ⟨p_list', cells', hrest, hrep', hitems'⟩ := ih hrep (hfresh.2 _ hrun)
      refine ⟨p_list', cells', ?_, hrep', ?_⟩
      · simp only [execAll, hrun, Option.bind_eq_bind, Option.bind_some, hrest, hitems]
        rfl
      · rw [hitems', hitems]
        rfl

/-- **The list is a sequence.** Calls on a list, from its creation on, are defined; they give back
what they give back on a sequence, their calls of deallocation functions included, and leave a
consistent chain of the elements of the sequence. -/
theorem linkedList_refines (calls : List (ListCall M D))
    (hfresh : AllFresh calls linkedListInit) :
    ∃ (p_list : ListState M D) (cells : List (Cell M D)),
      execAll calls linkedListInit = some (p_list, (execSeq calls []).2) ∧
      ConsistentChain p_list ∧ Represents p_list cells ∧
      cells.map Cell.item = (execSeq calls []).1 := by
  obtain ⟨p_list, cells, hrun, hrep, hitems⟩ := execAll_refines represents_init hfresh
  exact ⟨p_list, cells, hrun, hrep.consistentChain, hrep, hitems⟩

/-- Three elements, of which a search removes the middle one and calls its deallocation function;
the next one is removed from the tail. -/
theorem linkedList_refines_removed :
    let calls : List (ListCall ℕ ℕ) := [.add (some 10) none 1, .add (some 20) (some 7) 2,
      .add (some 30) none 3, .search false (some (· == 20)) true, .remove true]
    ∃ (p_list : ListState ℕ ℕ) (cells : List (Cell ℕ ℕ)),
      execAll calls linkedListInit = some (p_list, (execSeq calls []).2) ∧
      ConsistentChain p_list ∧ Represents p_list cells ∧
      cells.map Cell.item = (execSeq calls []).1 :=
  linkedList_refines _ (by decide)

end LocHal
