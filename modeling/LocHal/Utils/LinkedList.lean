import Mathlib.Data.List.Perm.Subperm
import Mathlib.Data.List.Nodup
import Std.Data.TreeMap.Lemmas

/-!
# The doubly linked list (`gps/utils/linked_list.c`)

The elements of a list are blocks of memory that point to each other: an element is added at the
head, removed at the tail, and a flush walks from the head to the end.  The memory is a map from
addresses to elements.  An access to an address with no element on it is what C leaves undefined;
here the function that does it returns `none`.

`Represents` ties a list state to the sequence of its cells, from the head on.  Each operation has
one lemma, which says that it is defined and what it does to the sequence.
-/

namespace LocHal

/-- `linked_list_err_type`. -/
inductive LinkedListErrType where
  | success
  | failureGeneral
  | invalidParameter
  | invalidHandle
  | unavailableResource
  | insufficientBuffer
deriving DecidableEq, Repr

/-- `list_element`: `M` is what `data_ptr` points to and `D` the deallocation functions. -/
structure ListElement (M D : Type*) where
  next : Option ℕ
  prev : Option ℕ
  data_ptr : M
  dealloc_func : Option D
deriving DecidableEq, Repr

/-- The memory of the elements, by their addresses. -/
abbrev ListMemory (M D : Type*) := Std.TreeMap ℕ (ListElement M D)

/-- `list_state`, and the memory of the elements. -/
structure ListState (M D : Type*) where
  p_head : Option ℕ
  p_tail : Option ℕ
  memory : ListMemory M D

variable {M D : Type*}

namespace ListMemory

/-- An assignment to fields of the element at `p`. -/
def store (memory : ListMemory M D) (p : ℕ)
    (assign : ListElement M D → ListElement M D) : Option (ListMemory M D) :=
  memory[p]?.map fun e => memory.insert p (assign e)

lemma store_of_getElem? {memory : ListMemory M D} {p : ℕ} {e : ListElement M D}
    (h : memory[p]? = some e) (assign : ListElement M D → ListElement M D) :
    memory.store p assign = some (memory.insert p (assign e)) := by
  rw [store, h]
  rfl

lemma getElem?_insert (memory : ListMemory M D) (p q : ℕ) (e : ListElement M D) :
    (memory.insert p e)[q]? = if q = p then some e else memory[q]? := by
  simp only [Std.TreeMap.getElem?_insert, Std.LawfulEqCmp.compare_eq_iff_eq, @eq_comm _ p]

lemma getElem?_erase (memory : ListMemory M D) (p q : ℕ) :
    (memory.erase p)[q]? = if q = p then none else memory[q]? := by
  simp only [Std.TreeMap.getElem?_erase, Std.LawfulEqCmp.compare_eq_iff_eq, @eq_comm _ p]

end ListMemory

open ListMemory

/-- `linked_list_init`. -/
def linkedListInit : ListState M D := ⟨none, none, ∅⟩

/-- `linked_list_add`; `elem` is what `malloc` returns. -/
def linkedListAdd (p_list : ListState M D) (data_obj : Option M) (dealloc : Option D)
    (elem : ℕ) : Option (ListState M D × LinkedListErrType) :=
  match data_obj with
  | none => some (p_list, .invalidParameter)
  | some data_obj => do
      let memory := p_list.memory.insert elem ⟨none, none, data_obj, dealloc⟩
      let tmp := p_list.p_head
      let memory ← store memory elem fun e => { e with next := tmp }
      match tmp with
      | some tmp => do
          let memory ← store memory tmp fun e => { e with prev := some elem }
          some (⟨some elem, p_list.p_tail, memory⟩, .success)
      | none => some (⟨some elem, some elem, memory⟩, .success)

/-- `linked_list_remove`.  What it stores in `*data_obj` is the last component. -/
def linkedListRemove (p_list : ListState M D) :
    Option (ListState M D × LinkedListErrType × Option M) :=
  match p_list.p_tail with
  | none => some (p_list, .unavailableResource, none)
  | some tmp => do
      let e ← p_list.memory[tmp]?
      match e.prev with
      | some p_tail => do
          let memory ← store p_list.memory p_tail fun e => { e with next := none }
          let e ← memory[tmp]?
          some (⟨p_list.p_head, some p_tail, memory.erase tmp⟩, .success, some e.data_ptr)
      | none => some (⟨none, none, p_list.memory.erase tmp⟩, .success, some e.data_ptr)

/-- `linked_list_empty`. -/
def linkedListEmpty (p_list : ListState M D) : Bool := p_list.p_head.isNone

/-- The loop of `linked_list_flush`, from the element at `p_head` on: the memory it leaves and the
elements it frees, in its order. -/
def flushLoop : ℕ → Option ℕ → ListMemory M D →
    Option (ListMemory M D × List (M × Option D))
  | _, none, memory => some (memory, [])
  | 0, some _, _ => none
  | fuel + 1, some p_head, memory => do
      let e ← memory[p_head]?
      let rest ← flushLoop fuel e.next (memory.erase p_head)
      some (rest.1, (e.data_ptr, e.dealloc_func) :: rest.2)

/-- `linked_list_flush`.  Each iteration frees an element, so that there are no more than there are
elements in the memory. -/
def linkedListFlush (p_list : ListState M D) :
    Option (ListState M D × LinkedListErrType × List (M × Option D)) := do
  let rest ← flushLoop p_list.memory.size p_list.p_head p_list.memory
  some (⟨none, none, rest.1⟩, .success, rest.2)

/-- The calls of deallocation functions that a flush makes for the elements it frees. -/
def deallocCalls (freed : List (M × Option D)) : List (D × M) :=
  freed.filterMap fun e => e.2.map fun dealloc => (dealloc, e.1)

/-! ## The sequence that a list represents -/

/-- An element of a list and where it is stored. -/
structure Cell (M D : Type*) where
  addr : ℕ
  data_ptr : M
  dealloc_func : Option D

/-- The list state holds `cells`, from the head on, and there is nothing else in its memory.  The
links are stated for a cell with what stands before it and after it, which does not depend on the
end from which one looks. -/
structure Represents (p_list : ListState M D) (cells : List (Cell M D)) : Prop where
  head : p_list.p_head = cells.head?.map Cell.addr
  tail : p_list.p_tail = cells.getLast?.map Cell.addr
  nodup : (cells.map Cell.addr).Nodup
  linked : ∀ before c after, cells = before ++ c :: after →
    p_list.memory[c.addr]? = some ⟨after.head?.map Cell.addr, before.getLast?.map Cell.addr,
      c.data_ptr, c.dealloc_func⟩
  owned : ∀ p ∉ cells.map Cell.addr, p_list.memory[p]? = none

section Represents

variable {p_list : ListState M D} {cells : List (Cell M D)} {c : Cell M D}

lemma represents_init : Represents (linkedListInit : ListState M D) [] where
  head := rfl
  tail := rfl
  nodup := List.nodup_nil
  linked before c after h := by simp at h
  owned p _ := Std.TreeMap.getElem?_emptyc

lemma Represents.mem_memory (h : Represents p_list cells) (hc : c ∈ cells) :
    c.addr ∈ p_list.memory := by
  obtain ⟨before, after, rfl⟩ := List.append_of_mem hc
  rw [Std.TreeMap.mem_iff_isSome_getElem?, h.linked before c after rfl]
  rfl

lemma Represents.length_le_size (h : Represents p_list cells) :
    cells.length ≤ p_list.memory.size := by
  have hsub : cells.map Cell.addr ⊆ p_list.memory.keys := by
    intro p hp
    obtain ⟨c, hc, rfl⟩ := List.mem_map.mp hp
    exact Std.TreeMap.mem_keys.mpr (h.mem_memory hc)
  calc cells.length = (cells.map Cell.addr).length := (List.length_map _).symm
    _ ≤ p_list.memory.keys.length := (List.subperm_of_subset h.nodup hsub).length_le
    _ = p_list.memory.size := Std.TreeMap.length_keys

/-- A cell with others before it has another address than each of them. -/
lemma addr_ne {before after : List (Cell M D)} {c c' : Cell M D}
    (h : ((before ++ c :: after).map Cell.addr).Nodup) (hc : c' ∈ before) : c.addr ≠ c'.addr := by
  rw [List.map_append, List.nodup_append'] at h
  exact fun heq => h.2.2 (List.mem_map_of_mem hc) (heq ▸ List.mem_map_of_mem List.mem_cons_self)

/-- **Adding an element.** It comes to stand at the head. -/
lemma Represents.add (h : Represents p_list cells) {elem : ℕ} (hfree : elem ∉ p_list.memory)
    (data_obj : M) (dealloc : Option D) :
    ∃ p_list', linkedListAdd p_list (some data_obj) dealloc elem = some (p_list', .success) ∧
      Represents p_list' (⟨elem, data_obj, dealloc⟩ :: cells) := by
  have hnew : ∀ c ∈ cells, c.addr ≠ elem := fun c hc hce => hfree (hce ▸ h.mem_memory hc)
  have hnodup : ((⟨elem, data_obj, dealloc⟩ :: cells).map Cell.addr).Nodup := by
    refine List.nodup_cons.mpr ⟨fun hmem => ?_, h.nodup⟩
    obtain ⟨c, hc, hce⟩ := List.mem_map.mp hmem
    exact hnew c hc hce
  -- the assignments to `elem` itself
  have hself : ∀ (memory : ListMemory M D) (e : ListElement M D),
      (memory.insert elem e)[elem]? = some e := fun _ _ => Std.TreeMap.getElem?_insert_self
  cases cells with
  | nil =>
      have hhead : p_list.p_head = none := h.head
      refine ⟨⟨some elem, some elem, (p_list.memory.insert elem
        ⟨none, none, data_obj, dealloc⟩).insert elem ⟨none, none, data_obj, dealloc⟩⟩, ?_,
        ⟨rfl, rfl, hnodup, ?_, ?_⟩⟩
      · simp only [linkedListAdd, hhead, store_of_getElem? (hself _ _)]
        rfl
      · intro before c after hsplit
        obtain ⟨rfl, hc⟩ | ⟨before', rfl, hc⟩ := List.cons_eq_append_iff.mp hsplit
        · obtain ⟨rfl, rfl⟩ := List.cons_eq_cons.mp hc
          exact hself _ _
        · simp at hc
      · intro p hp
        have hpe : p ≠ elem := by simpa using hp
        rw [getElem?_insert, if_neg hpe, getElem?_insert, if_neg hpe]
        exact h.owned p (by simp)
  | cons c rest =>
      have hhead : p_list.p_head = some c.addr := h.head
      have hc := h.linked [] c rest rfl
      have hce : c.addr ≠ elem := hnew c List.mem_cons_self
      refine ⟨⟨some elem, p_list.p_tail, ((p_list.memory.insert elem
        ⟨none, none, data_obj, dealloc⟩).insert elem
          ⟨some c.addr, none, data_obj, dealloc⟩).insert c.addr
            ⟨rest.head?.map Cell.addr, some elem, c.data_ptr, c.dealloc_func⟩⟩, ?_,
        ⟨rfl, h.tail, hnodup, ?_, ?_⟩⟩
      · have hold : ((p_list.memory.insert elem ⟨none, none, data_obj, dealloc⟩).insert elem
            ⟨some c.addr, none, data_obj, dealloc⟩)[c.addr]? =
              some ⟨rest.head?.map Cell.addr, none, c.data_ptr, c.dealloc_func⟩ := by
          rw [getElem?_insert, if_neg hce, getElem?_insert, if_neg hce]
          exact hc
        simp only [linkedListAdd, hhead, store_of_getElem? (hself _ _), Option.bind_eq_bind,
          Option.bind_some, store_of_getElem? hold]
      · intro before c' after hsplit
        obtain ⟨rfl, hc'⟩ | ⟨before', rfl, hc'⟩ := List.cons_eq_append_iff.mp hsplit
        · obtain ⟨rfl, rfl⟩ := List.cons_eq_cons.mp hc'
          rw [getElem?_insert, if_neg hce.symm]
          exact hself _ _
        · cases before' with
          | nil =>
              obtain ⟨rfl, rfl⟩ := List.cons_eq_cons.mp hc'
              exact Std.TreeMap.getElem?_insert_self
          | cons b before' =>
              obtain ⟨rfl, rfl⟩ := List.cons_eq_cons.mp hc'
              have hne : c'.addr ≠ c.addr := addr_ne h.nodup List.mem_cons_self
              have hne' : c'.addr ≠ elem := hnew c' (by simp)
              rw [getElem?_insert, if_neg hne, getElem?_insert, if_neg hne', getElem?_insert,
                if_neg hne', h.linked (c :: before') c' after rfl]
              simp
      · intro p hp
        obtain ⟨hpe, hp⟩ := List.ne_and_not_mem_of_not_mem_cons hp
        have hpc : p ≠ c.addr := List.ne_of_not_mem_cons hp
        rw [getElem?_insert, if_neg hpc, getElem?_insert, if_neg hpe, getElem?_insert, if_neg hpe]
        exact h.owned p hp

lemma Represents.remove_nil (h : Represents p_list []) :
    linkedListRemove p_list = some (p_list, .unavailableResource, none) := by
  have htail : p_list.p_tail = none := h.tail
  simp only [linkedListRemove, htail]

/-- **Removing an element.** It is the one at the tail. -/
lemma Represents.remove (h : Represents p_list (cells ++ [c])) :
    ∃ p_list', linkedListRemove p_list = some (p_list', .success, some c.data_ptr) ∧
      Represents p_list' cells := by
  have htail : p_list.p_tail = some c.addr := by simp [h.tail]
  have hc := h.linked cells c [] rfl
  have hnodup : (cells.map Cell.addr).Nodup := by
    have hall := h.nodup
    rw [List.map_append] at hall
    exact hall.of_append_left
  have hgone : ∀ p ∉ cells.map Cell.addr, p ≠ c.addr → p_list.memory[p]? = none := fun p hp hpc =>
    h.owned p (by simpa [hpc] using hp)
  rcases List.eq_nil_or_concat cells with rfl | ⟨front, b, rfl⟩
  · refine ⟨⟨none, none, p_list.memory.erase c.addr⟩, ?_, ⟨rfl, rfl, hnodup, ?_, ?_⟩⟩
    · simp only [linkedListRemove, htail, Option.bind_eq_bind, hc, Option.bind_some]
      rfl
    · intro before c' after hsplit
      simp at hsplit
    · intro p hp
      rw [getElem?_erase]
      split_ifs with hpc
      · rfl
      · exact hgone p hp hpc
  · rw [List.concat_eq_append] at *
    have hb := h.linked front b [c] (by simp)
    have hbc : c.addr ≠ b.addr := addr_ne h.nodup (by simp)
    refine ⟨⟨p_list.p_head, some b.addr, (p_list.memory.insert b.addr
      ⟨none, front.getLast?.map Cell.addr, b.data_ptr, b.dealloc_func⟩).erase c.addr⟩, ?_,
      ⟨?_, by simp, hnodup, ?_, ?_⟩⟩
    · have hprev : (front ++ [b]).getLast?.map Cell.addr = some b.addr := by simp
      rw [hprev] at hc
      have hkept : (p_list.memory.insert b.addr ⟨none, front.getLast?.map Cell.addr, b.data_ptr,
          b.dealloc_func⟩)[c.addr]? = some ⟨none, some b.addr, c.data_ptr, c.dealloc_func⟩ := by
        rw [getElem?_insert, if_neg hbc]
        exact hc
      simp only [linkedListRemove, htail, Option.bind_eq_bind, hc, Option.bind_some,
        store_of_getElem? hb, hkept]
    · rw [h.head]
      simp [List.head?_append]
    · intro before x after hsplit
      have hxc : x.addr ≠ c.addr := by
        refine (addr_ne h.nodup ?_).symm
        rw [hsplit]
        simp
      have hx := h.linked before x (after ++ [c]) (by simp [hsplit])
      rw [getElem?_erase, if_neg hxc, getElem?_insert]
      rcases List.eq_nil_or_concat after with rfl | ⟨middle, b', rfl⟩
      · obtain ⟨rfl, hbx⟩ := List.append_inj' hsplit rfl
        obtain rfl := List.singleton_inj.mp hbx
        rw [if_pos rfl]
        rfl
      · rw [List.concat_eq_append, ← List.cons_append, ← List.append_assoc] at hsplit
        obtain ⟨rfl, hbb⟩ := List.append_inj' hsplit rfl
        obtain rfl := List.singleton_inj.mp hbb
        have hxb : x.addr ≠ b.addr := (addr_ne hnodup (by simp)).symm
        rw [if_neg hxb, hx]
        simp [List.head?_append]
    · intro p hp
      have hpb : p ≠ b.addr := fun hpb => hp (by simp [hpb])
      rw [getElem?_erase]
      split_ifs with hpc
      · rfl
      · rw [getElem?_insert, if_neg hpb]
        exact hgone p hp hpc

/-- **Flushing.** The loop walks from the head to the end.  It reads no `prev`, which points to an
element that it has freed. -/
lemma flushLoop_eq {fuel : ℕ} {p_head : Option ℕ} {memory : ListMemory M D}
    (hfuel : cells.length ≤ fuel) (hhead : p_head = cells.head?.map Cell.addr)
    (hnodup : (cells.map Cell.addr).Nodup)
    (hlinked : ∀ before c after, cells = before ++ c :: after → ∃ prev,
      memory[c.addr]? = some ⟨after.head?.map Cell.addr, prev, c.data_ptr, c.dealloc_func⟩)
    (howned : ∀ p ∉ cells.map Cell.addr, memory[p]? = none) :
    ∃ memory', flushLoop fuel p_head memory =
        some (memory', cells.map fun c => (c.data_ptr, c.dealloc_func)) ∧
      ∀ p : ℕ, memory'[p]? = none := by
  induction cells generalizing fuel p_head memory with
  | nil =>
      subst hhead
      cases fuel with
      | zero => exact ⟨memory, rfl, fun p => howned p (by simp)⟩
      | succ fuel => exact ⟨memory, rfl, fun p => howned p (by simp)⟩
  | cons c rest ih =>
      subst hhead
      obtain ⟨hc, hrest⟩ := List.nodup_cons.mp hnodup
      cases fuel with
      | zero => simp at hfuel
      | succ fuel =>
          obtain ⟨prev, hget⟩ := hlinked [] c rest rfl
          have hlinked' : ∀ before c' after, rest = before ++ c' :: after → ∃ prev,
              (memory.erase c.addr)[c'.addr]? =
                some ⟨after.head?.map Cell.addr, prev, c'.data_ptr, c'.dealloc_func⟩ := by
            rintro before c' after rfl
            obtain ⟨prev', hget'⟩ := hlinked (c :: before) c' after rfl
            have hne : c'.addr ≠ c.addr := fun heq => hc (by simp [← heq])
            exact ⟨prev', by rw [getElem?_erase, if_neg hne, hget']⟩
          have howned' : ∀ p ∉ rest.map Cell.addr, (memory.erase c.addr)[p]? = none := by
            intro p hp
            rw [getElem?_erase]
            split_ifs with hpc
            · rfl
            · exact howned p (List.not_mem_cons_of_ne_of_not_mem hpc hp)
          obtain ⟨memory', hloop, hfree⟩ :=
            ih (Nat.le_of_succ_le_succ hfuel) rfl hrest hlinked' howned'
          refine ⟨memory', ?_, hfree⟩
          simp only [List.head?_cons, Option.map_some, flushLoop, hget, Option.bind_eq_bind,
            Option.bind_some, hloop, List.map_cons]

lemma Represents.flush (h : Represents p_list cells) :
    ∃ p_list', linkedListFlush p_list =
        some (p_list', .success, cells.map fun c => (c.data_ptr, c.dealloc_func)) ∧
      Represents p_list' [] := by
  obtain ⟨memory, hloop, hfree⟩ := flushLoop_eq h.length_le_size h.head h.nodup
    (fun before c after hsplit => ⟨_, h.linked before c after hsplit⟩) h.owned
  refine ⟨⟨none, none, memory⟩, ?_, ⟨rfl, rfl, List.nodup_nil, ?_, fun p _ => hfree p⟩⟩
  · simp only [linkedListFlush, hloop, Option.bind_eq_bind, Option.bind_some]
  · intro before c after hsplit
    simp at hsplit

end Represents

end LocHal
