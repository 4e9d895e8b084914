import LocHal.Utils.LocTrimSpace

/-!
# Splitting in place (`gps/utils/loc_misc_utils.cpp`)

`loc_util_split_string` writes end characters over the delimiters of a string and stores a pointer
to the beginning of each piece, as long as there is room.  Memory, the array of pointers and the
variables of the loop are those of the source; a pointer that is stored outside the array stops the
model.

`loop_takes`: the loop ends one piece after the other, and stores each pointer where the piece
begins.  `splits_iff`: the pieces are those between the delimiters, as many as are asked for,
exactly when the loop sees all of the string or enough delimiters; it sees less of a string whose
length is no `int`.  `locUtilSplitStringAt_strings`: the strings in memory are those that the
process configuration is read with.
-/

namespace LocHal

/-! ## The loop -/

/-- A pointer is stored in an array; `none` outside of it. -/
def storePtr (ptrs : List (Option ℕ)) (i p : ℕ) : Option (List (Option ℕ)) :=
  if i < ptrs.length then some (ptrs.set i (some p)) else none

/-- The memory, the array and the variables in the loop of `loc_util_split_string`. -/
structure SplitState where
  mem : Memory
  splitStringsPtr : List (Option ℕ)
  rawStringIndex : ℕ
  numSplitStrings : ℕ
  endString : Bool

namespace SplitState

variable (rawString : ℕ) (rawStringLength maxNumSubstrings : ℤ) (delimiter : UInt8)

/-- The end character is noted. -/
def noteEnd (st : SplitState) : SplitState :=
  if st.mem (rawString + st.rawStringIndex) = 0 then { st with endString := true } else st

/-- An end character is written over the one under the index, and a piece more is counted. -/
def cut (st : SplitState) : SplitState :=
  { st with
    mem := st.mem.store (rawString + st.rawStringIndex) [0]
    numSplitStrings := st.numSplitStrings + 1 }

/-- A piece is ended, and the next one begun where there is one and room for it; and whether the
loop goes on. -/
def endPiece (st : SplitState) : Option (SplitState × Bool) :=
  let st := st.cut rawString
  if (st.rawStringIndex : ℤ) + 1 < rawStringLength ∧
      (st.numSplitStrings : ℤ) < maxNumSubstrings then
    (storePtr st.splitStringsPtr st.numSplitStrings (rawString + (st.rawStringIndex + 1))).map
      fun ptrs => ({ st with splitStringsPtr := ptrs }, true)
  else some (st, false)

/-- One round of the loop, and whether there is another one. -/
def round (st : SplitState) : Option (SplitState × Bool) :=
  let st := st.noteEnd rawString
  let ended :=
    if st.mem (rawString + st.rawStringIndex) = delimiter ∨ st.endString = true then
      st.endPiece rawString rawStringLength maxNumSubstrings
    else some (st, true)
  ended.map fun r => (r.1, r.2 && !r.1.endString)

/-- The loop, with this many rounds up to `raw_string_length`. -/
def loop : ℕ → SplitState → Option SplitState
  | 0, st => some st
  | rounds + 1, st =>
      match st.round rawString rawStringLength maxNumSubstrings delimiter with
      | none => none
      | some (st, true) => loop rounds { st with rawStringIndex := st.rawStringIndex + 1 }
      | some (st, false) => some st

end SplitState

/-- What `loc_util_split_string` returns and leaves. -/
structure SplitResult where
  numSplitStrings : ℤ
  mem : Memory
  splitStringsPtr : Option (List (Option ℕ))

/-- The first pointer and the loop, for a `raw_string_length`; `none` when a pointer is stored
outside the array. -/
def splitOfLength (m : Memory) (rawString : ℕ) (splitStringsPtr : List (Option ℕ))
    (rawStringLength maxNumSubstrings : ℤ) (delimiter : UInt8) : Option SplitResult := do
  let ptrs ← storePtr splitStringsPtr 0 rawString
  let st ← SplitState.loop rawString rawStringLength maxNumSubstrings delimiter
    rawStringLength.toNat ⟨m, ptrs, 0, 0, false⟩
  some ⟨st.numSplitStrings, st.mem, some st.splitStringsPtr⟩

/-- `loc_util_split_string`; `none` also when the fuel does not reach the end of the string.  The
length, with the end character, is kept in an `int`. -/
def locUtilSplitStringAt (fuel : ℕ) (m : Memory) (rawString : Option ℕ)
    (splitStringsPtr : Option (List (Option ℕ))) (maxNumSubstrings : ℤ) (delimiter : UInt8) :
    Option SplitResult :=
  match rawString, splitStringsPtr with
  | some a, some ptrs =>
      (m.strlen fuel a).bind fun n =>
        splitOfLength m a ptrs (longToInt (n + 1)) maxNumSubstrings delimiter
  | _, _ => some ⟨-1, m, splitStringsPtr⟩

/-- Where pieces begin that stand one behind the other from `a` on, with one byte between them. -/
def pieceStarts : ℕ → List (List UInt8) → List ℕ
  | _, [] => []
  | a, piece :: pieces => a :: pieceStarts (a + (piece.length + 1)) pieces

/-! ## One piece -/

namespace SplitState

variable {st st' : SplitState} {a rounds n : ℕ} {length maxNum : ℤ} {d : UInt8}
  {piece rest : List UInt8} {first : List (List UInt8)} {x : Option ℕ} {done left : List (Option ℕ)}

/-- There is more of the string, and room for one more pointer. -/
def GoesOn (st : SplitState) (length maxNum : ℤ) : Prop :=
  (st.rawStringIndex : ℤ) + 1 < length ∧ ((st.numSplitStrings + 1 : ℕ) : ℤ) < maxNum

/-- Characters that are no delimiters are passed over. -/
lemma round_other (hend : st.endString = false) (hnul : st.mem (a + st.rawStringIndex) ≠ 0)
    (hd : st.mem (a + st.rawStringIndex) ≠ d) : st.round a length maxNum d = some (st, true) := by
  have hnote : st.noteEnd a = st := if_neg hnul
  have hother : ¬ (st.mem (a + st.rawStringIndex) = d ∨ st.endString = true) := by
    rintro (h | h)
    · exact hd h
    · rw [hend] at h
      cases h
  simp only [round, hnote]
  rw [if_neg hother, Option.map_some, hend]
  rfl

/-- The last piece that is asked for, or that there is. -/
lemma round_stop (hcut : st.mem (a + st.rawStringIndex) = d ∨ st.mem (a + st.rawStringIndex) = 0)
    (hstop : ¬ st.GoesOn length maxNum) :
    ∃ endString,
      st.round a length maxNum d = some ({ st.cut a with endString := endString }, false) := by
  have hnote : ∃ endString, st.noteEnd a = { st with endString := endString } ∧
      (st.mem (a + st.rawStringIndex) = 0 → endString = true) := by
    by_cases hnul : st.mem (a + st.rawStringIndex) = 0
    · exact ⟨true, if_pos hnul, fun _ => rfl⟩
    · exact ⟨st.endString, if_neg hnul, fun h => absurd h hnul⟩
  obtain ⟨endString, hnote, hend⟩ := hnote
  have hended : endPiece a length maxNum { st with endString := endString } =
      some ({ st.cut a with endString := endString }, false) := if_neg hstop
  refine ⟨endString, ?_⟩
  simp only [round, hnote]
  rw [if_pos (hcut.imp_right hend), hended]
  rfl

/-- A piece with another one behind it. -/
lemma round_next (hcut : st.mem (a + st.rawStringIndex) = d) (hd : d ≠ 0)
    (hend : st.endString = false) (hnext : st.GoesOn length maxNum)
    (hroom : st.numSplitStrings + 1 < st.splitStringsPtr.length) :
    st.round a length maxNum d = some ({ st.cut a with
      splitStringsPtr := st.splitStringsPtr.set (st.numSplitStrings + 1)
        (some (a + (st.rawStringIndex + 1))) }, true) := by
  have hnote : st.noteEnd a = st := if_neg (hcut ▸ hd)
  have hstored : storePtr st.splitStringsPtr (st.numSplitStrings + 1)
      (a + (st.rawStringIndex + 1)) = some (st.splitStringsPtr.set (st.numSplitStrings + 1)
        (some (a + (st.rawStringIndex + 1)))) := if_pos hroom
  have hended : endPiece a length maxNum st = some ({ st.cut a with
      splitStringsPtr := st.splitStringsPtr.set (st.numSplitStrings + 1)
        (some (a + (st.rawStringIndex + 1))) }, true) := by
    refine (if_pos hnext).trans ?_
    exact congrArg (Option.map _) hstored
  simp only [round, hnote]
  rw [if_pos (.inl hcut), hended, Option.map_some]
  simp only [cut, hend, Bool.not_false, Bool.and_true]

/-- The piece stands from the index on, and the loop does not end in it. -/
structure Reads (a : ℕ) (d : UInt8) (st : SplitState) (piece : List UInt8) : Prop where
  running : st.endString = false
  nul_notMem : 0 ∉ piece
  delimiter_notMem : d ∉ piece
  bytes : st.mem.bytesAt (a + st.rawStringIndex) piece.length = piece

/-- A piece is passed over. -/
lemma loop_piece (hpiece : Reads a d st piece) (rounds : ℕ) :
    loop a length maxNum d (piece.length + rounds) st =
      loop a length maxNum d rounds
        { st with rawStringIndex := st.rawStringIndex + piece.length } := by
  induction piece generalizing st with
  | nil => rw [List.length_nil, Nat.zero_add, Nat.add_zero]
  | cons c cs ih =>
      obtain ⟨hend, hnul, hd, hbytes⟩ := hpiece
      obtain ⟨hc, hcs⟩ := List.cons.inj ((Memory.bytesAt_succ st.mem _ cs.length).symm.trans hbytes)
      have hround : st.round a length maxNum d = some (st, true) :=
        round_other hend (fun h => hnul (h ▸ hc ▸ List.mem_cons_self))
          fun h => hd (h ▸ hc ▸ List.mem_cons_self)
      have hrounds : (c :: cs).length + rounds = cs.length + rounds + 1 := by
        rw [List.length_cons]
        omega
      rw [hrounds, loop, hround]
      have hrest := @ih { st with rawStringIndex := st.rawStringIndex + 1 }
        ⟨hend, fun h => hnul (List.mem_cons_of_mem c h), fun h => hd (List.mem_cons_of_mem c h),
          hcs⟩
      rw [List.length_cons, Nat.add_comm cs.length 1, ← Nat.add_assoc]
      exact hrest

/-- The loop ends behind a piece. -/
lemma loop_stop (hpiece : Reads a d st piece)
    (hcut : st.mem (a + (st.rawStringIndex + piece.length)) = d ∨
      st.mem (a + (st.rawStringIndex + piece.length)) = 0)
    (hstop : ¬ ((st.rawStringIndex : ℤ) + piece.length + 1 < length ∧
      (st.numSplitStrings : ℤ) + 1 < maxNum)) (rounds : ℕ) :
    ∃ st', loop a length maxNum d (piece.length + (rounds + 1)) st = some st' ∧
      st'.mem = st.mem.store (a + (st.rawStringIndex + piece.length)) [0] ∧
      st'.splitStringsPtr = st.splitStringsPtr ∧
      st'.numSplitStrings = st.numSplitStrings + 1 := by
  have hgoes : ¬ GoesOn { st with rawStringIndex := st.rawStringIndex + piece.length }
      length maxNum := by
    rintro ⟨hmore, hroom⟩
    push_cast at hmore hroom
    exact hstop ⟨hmore, hroom⟩
  obtain ⟨endString, hround⟩ :=
    @round_stop { st with rawStringIndex := st.rawStringIndex + piece.length } a length maxNum d
      hcut hgoes
  rw [loop_piece hpiece, loop, hround]
  exact ⟨_, rfl, rfl, rfl, rfl⟩

/-- The state behind a piece of `n` characters, with the next piece begun. -/
def next (st : SplitState) (a n : ℕ) : SplitState where
  mem := st.mem.store (a + (st.rawStringIndex + n)) [0]
  splitStringsPtr := st.splitStringsPtr.set (st.numSplitStrings + 1)
    (some (a + (st.rawStringIndex + (n + 1))))
  rawStringIndex := st.rawStringIndex + (n + 1)
  numSplitStrings := st.numSplitStrings + 1
  endString := false

@[simp] lemma next_rawStringIndex (st : SplitState) (a n : ℕ) :
    (st.next a n).rawStringIndex = st.rawStringIndex + (n + 1) := rfl

@[simp] lemma next_numSplitStrings (st : SplitState) (a n : ℕ) :
    (st.next a n).numSplitStrings = st.numSplitStrings + 1 := rfl

/-- The loop goes on behind a piece. -/
lemma loop_next (hpiece : Reads a d st piece)
    (hcut : st.mem (a + (st.rawStringIndex + piece.length)) = d) (hne : d ≠ 0)
    (hmore : (st.rawStringIndex : ℤ) + piece.length + 1 < length)
    (hmax : (st.numSplitStrings : ℤ) + 1 < maxNum)
    (hroom : st.numSplitStrings + 1 < st.splitStringsPtr.length) (rounds : ℕ) :
    loop a length maxNum d (piece.length + (rounds + 1)) st =
      loop a length maxNum d rounds (st.next a piece.length) := by
  have hgoes : GoesOn { st with rawStringIndex := st.rawStringIndex + piece.length }
      length maxNum := by
    refine ⟨?_, ?_⟩
    · push_cast
      exact hmore
    · push_cast
      exact hmax
  have hround :=
    @round_next { st with rawStringIndex := st.rawStringIndex + piece.length } a length maxNum d
      hcut hne hpiece.running hgoes hroom
  rw [loop_piece hpiece, loop, hround]
  simp only [cut, next, hpiece.running, Nat.add_assoc]

/-! ## The pieces of a string -/

/-- What the loop makes of the pieces from the index on: it takes the first of them, up to the
number that is asked for. -/
structure Takes (a : ℕ) (st st' : SplitState) (done left : List (Option ℕ))
    (first : List (List UInt8)) (n : ℕ) : Prop where
  number : st'.numSplitStrings = st.numSplitStrings + first.length
  pointers : st'.splitStringsPtr =
    done ++ fillArray ((pieceStarts (a + st.rawStringIndex) first).map some)
      (some (a + st.rawStringIndex) :: left)
  strings : List.Forall₂ st'.mem.HoldsString (pieceStarts (a + st.rawStringIndex) first) first
  outside : st.mem.SameOutside st'.mem (a + st.rawStringIndex) n

/-- The last piece that is taken. -/
lemma loop_takes_one (hpiece : Reads a d st piece)
    (hcut : st.mem (a + (st.rawStringIndex + piece.length)) = d ∨
      st.mem (a + (st.rawStringIndex + piece.length)) = 0)
    (hstop : ¬ ((st.rawStringIndex : ℤ) + piece.length + 1 < length ∧
      (st.numSplitStrings : ℤ) + 1 < maxNum))
    (hptrs : st.splitStringsPtr = done ++ some (a + st.rawStringIndex) :: left)
    (hn : piece.length + 1 ≤ n) (rounds : ℕ) :
    ∃ st', loop a length maxNum d (piece.length + (rounds + 1)) st = some st' ∧
      Takes a st st' done left [piece] n := by
  obtain ⟨st', hloop, hmem, hptrs', hnum⟩ := loop_stop hpiece hcut hstop rounds
  rw [← Nat.add_assoc] at hmem
  refine ⟨st', hloop, hnum, hptrs'.trans hptrs, .cons ?_ .nil, ?_⟩
  · rw [hmem]
    exact Memory.holdsString_store_zero hpiece.nul_notMem hpiece.bytes
  · rw [hmem]
    exact (Memory.sameOutside_store (Nat.le_refl 1)).mono (by omega) (by omega)

/-- The pointer to the next piece stands behind the one before. -/
lemma pointers_next (hptrs : st.splitStringsPtr = done ++ some (a + st.rawStringIndex) :: x :: left)
    (hdone : done.length = st.numSplitStrings) (n : ℕ) :
    (st.next a n).splitStringsPtr = (done ++ [some (a + st.rawStringIndex)]) ++
      some (a + (st.next a n).rawStringIndex) :: left := by
  show st.splitStringsPtr.set (st.numSplitStrings + 1) _ = _
  rw [hptrs, ← hdone, List.set_append_right _ _ (Nat.le_add_right _ 1), Nat.add_sub_cancel_left,
    List.set_cons_succ, List.set_cons_zero, List.append_assoc]
  rfl

/-- A piece with others behind it. -/
lemma Takes.cons (hpiece : Reads a d st piece) (hne : first ≠ [])
    (h : Takes a (st.next a piece.length) st' (done ++ [some (a + st.rawStringIndex)]) left first
      n) :
    Takes a st st' done (x :: left) (piece :: first) (piece.length + 1 + n) := by
  have hstart : a + (st.next a piece.length).rawStringIndex =
      a + st.rawStringIndex + (piece.length + 1) := (Nat.add_assoc _ _ _).symm
  obtain ⟨number, pointers, strings, outside⟩ := h
  rw [hstart] at pointers strings outside
  have hends : (st.next a piece.length).mem.HoldsString (a + st.rawStringIndex) piece := by
    rw [next, ← Nat.add_assoc]
    exact Memory.holdsString_store_zero hpiece.nul_notMem hpiece.bytes
  refine ⟨?_, ?_, .cons ?_ strings, ?_⟩
  · rw [number, next_numSplitStrings, List.length_cons, Nat.add_assoc, Nat.add_comm 1]
  · obtain ⟨piece', first, rfl⟩ := List.exists_cons_of_ne_nil hne
    rw [pointers, List.append_assoc]
    rfl
  · exact hends.of_sameOutside outside (.inl (Nat.le_refl _))
  · intro i hi
    rw [outside i (by omega)]
    exact Memory.store_of_not_inside (by rw [List.length_singleton]; omega)

/-- What is left of the string stands from the index on, and its first piece has been begun. -/
structure Begins (a : ℕ) (st : SplitState) (rest : List UInt8) (done left : List (Option ℕ)) :
    Prop where
  string : st.mem.HoldsString (a + st.rawStringIndex) rest
  running : st.endString = false
  pointers : st.splitStringsPtr = done ++ some (a + st.rawStringIndex) :: left
  length_done : done.length = st.numSplitStrings

lemma Begins.next (hst : Begins a st (piece ++ d :: rest) done (x :: left)) :
    Begins a (st.next a piece.length) rest (done ++ [some (a + st.rawStringIndex)]) left := by
  refine ⟨?_, rfl, pointers_next hst.pointers hst.length_done piece.length, ?_⟩
  · have hsame : st.mem.SameOutside (st.next a piece.length).mem
        (a + (st.rawStringIndex + piece.length)) 1 := Memory.sameOutside_store (Nat.le_refl 1)
    obtain ⟨-, -, hrest⟩ := Memory.holdsString_cons.mp hst.string.of_append.2.2
    rw [Nat.add_assoc, Nat.add_assoc] at hrest
    exact hrest.of_sameOutside hsame (.inr (Nat.le_refl _))
  · rw [List.length_append, hst.length_done]
    rfl

/-- So many rounds see the end of the string, or as many delimiters as pieces are asked for. -/
def Sees (d : UInt8) (maxNum : ℤ) (rounds : ℕ) (st : SplitState) (rest : List UInt8) : Prop :=
  rounds = rest.length + 1 ∨ maxNum ≤ st.numSplitStrings + ((rest.take rounds).count d : ℕ)

/-- Where no delimiter is left, all of the string is seen. -/
lemma Sees.of_notMem (h : Sees d maxNum rounds st piece) (hd : d ∉ piece)
    (hmax : (st.numSplitStrings : ℤ) < maxNum) : rounds = piece.length + 1 := by
  refine Or.resolve_right h fun hmany => ?_
  rw [List.count_eq_zero_of_not_mem fun hmem => hd (List.mem_of_mem_take hmem)] at hmany
  omega

/-- A delimiter is seen, and behind it what the next pieces need. -/
lemma Sees.next (h : Sees d maxNum rounds st (piece ++ d :: rest)) (hd : d ∉ piece)
    (hmax : (st.numSplitStrings : ℤ) < maxNum) :
    ∃ r, rounds = piece.length + (r + 1) ∧ Sees d maxNum r (st.next a piece.length) rest := by
  have hmany : piece.length + 1 ≤ rounds := by
    rcases h with hwhole | hmany
    · rw [hwhole, List.length_append, List.length_cons]
      omega
    · by_contra hlt
      rw [List.take_append_of_le_length (by omega),
        List.count_eq_zero_of_not_mem fun hmem => hd (List.mem_of_mem_take hmem)] at hmany
      omega
  obtain ⟨r, rfl⟩ := Nat.exists_eq_add_of_le hmany
  have hcount : ((piece ++ d :: rest).take (piece.length + 1 + r)).count d =
      (rest.take r).count d + 1 := by
    rw [List.take_append, List.take_of_length_le (by omega), Nat.add_assoc,
      Nat.add_sub_cancel_left, Nat.add_comm 1 r, List.take_succ_cons, List.count_append,
      List.count_eq_zero_of_not_mem hd, List.count_cons_self, Nat.zero_add]
  refine ⟨r, by omega, ?_⟩
  rw [Sees, hcount, List.length_append, List.length_cons] at h
  rw [Sees, next_numSplitStrings]
  omega

lemma Sees.pos (h : Sees d maxNum rounds st rest) (hmax : (st.numSplitStrings : ℤ) < maxNum) :
    0 < rounds := by
  rcases h with hwhole | hmany
  · omega
  · by_contra hzero
    rw [Nat.eq_zero_of_not_pos hzero, List.take_zero, List.count_nil] at hmany
    omega

/-- **The loop** takes the pieces from the index on, as many as are asked for, when it sees the end
of the string or enough delimiters. -/
theorem loop_takes (hst : Begins a st rest done left) (hd : d ≠ 0)
    (hmax : (st.numSplitStrings : ℤ) < maxNum) (hroom : maxNum ≤ st.splitStringsPtr.length)
    (hlength : length = st.rawStringIndex + rounds) (hsees : Sees d maxNum rounds st rest) :
    ∃ st', loop a length maxNum d rounds st = some st' ∧ Takes a st st' done left
      ((rest.splitOn d).take (maxNum - st.numSplitStrings).toNat) (rest.length + 1) := by
  obtain ⟨k, hk⟩ : ∃ k, (maxNum - st.numSplitStrings).toNat = k + 1 :=
    Nat.exists_eq_add_one.mpr (by omega)
  induction rest using pieces_induction (d := d) generalizing st done left rounds k with
  | last t ht =>
      have hsplit : st.mem.HoldsString (a + st.rawStringIndex) (t ++ []) := by
        rw [List.append_nil]
        exact hst.string
      obtain ⟨hnul, hbytes, hnil⟩ := hsplit.of_append
      have hend : st.mem (a + (st.rawStringIndex + t.length)) = 0 := by
        rw [← Nat.add_assoc]
        exact hnil.of_nil
      have hrounds := hsees.of_notMem ht hmax
      rw [List.splitOn_eq_singleton ht, hk, List.take_succ_cons, List.take_nil, hrounds]
      exact loop_takes_one ⟨hst.running, hnul, ht, hbytes⟩ (.inr hend) (by omega) hst.pointers
        (Nat.le_refl _) 0
  | cut t rest ht ih =>
      obtain ⟨hnul, hbytes, hbehind⟩ := hst.string.of_append
      have hpiece : Reads a d st t := ⟨hst.running, hnul, ht, hbytes⟩
      have hcut : st.mem (a + (st.rawStringIndex + t.length)) = d := by
        rw [← Nat.add_assoc]
        exact (Memory.holdsString_cons.mp hbehind).1
      obtain ⟨r, rfl, hsees'⟩ := hsees.next (a := a) ht hmax
      have hsize : (t ++ d :: rest).length + 1 = t.length + 1 + (rest.length + 1) := by
        rw [List.length_append, List.length_cons]
        omega
      rw [List.splitOn_append_cons_self_of_not_mem ht, hk, List.take_succ_cons, hsize]
      cases k with
      | zero => exact loop_takes_one hpiece (.inl hcut) (by omega) hst.pointers (by omega) r
      | succ k =>
          have hmax' : ((st.next a t.length).numSplitStrings : ℤ) < maxNum := by
            rw [next_numSplitStrings]
            omega
          have hmore := hsees'.pos hmax'
          have hroom' : st.numSplitStrings + 1 < st.splitStringsPtr.length := by omega
          obtain ⟨x, left, rfl⟩ : ∃ x left', left = x :: left' := by
            refine List.exists_cons_of_ne_nil ?_
            rintro rfl
            have hlast := hst.length_done
            rw [hst.pointers, List.length_append, List.length_singleton] at hroom'
            omega
          have hk' : (maxNum - (st.next a t.length).numSplitStrings).toNat = k + 1 := by
            rw [next_numSplitStrings]
            omega
          have hlength' : length = (st.next a t.length).rawStringIndex + r := by
            rw [next_rawStringIndex]
            omega
          obtain ⟨st', hloop, htakes⟩ := ih hst.next hmax'
            (hroom.trans_eq (by rw [next, List.length_set])) hlength' hsees' k hk'
          rw [hk'] at htakes
          have hne : (rest.splitOn d).take (k + 1) ≠ [] := by
            rw [Ne, List.take_eq_nil_iff, not_or]
            exact ⟨Nat.succ_ne_zero k, List.splitOn_ne_nil d rest⟩
          rw [loop_next hpiece hcut hd (by omega) (by omega) hroom' r]
          exact ⟨st', hloop, htakes.cons hpiece hne⟩

/-- The loop counts a piece for a delimiter only, as long as it does not see the end character. -/
lemma numSplitStrings_le (hend : st.endString = false)
    (hnul : 0 ∉ st.mem.bytesAt (a + st.rawStringIndex) rounds)
    (hroom : maxNum ≤ st.splitStringsPtr.length)
    (hloop : loop a length maxNum d rounds st = some st') :
    st'.numSplitStrings ≤
      st.numSplitStrings + (st.mem.bytesAt (a + st.rawStringIndex) rounds).count d := by
  induction rounds generalizing st with
  | zero =>
      obtain rfl := Option.some.inj hloop
      exact Nat.le_add_right _ _
  | succ rounds ih =>
      rw [Memory.bytesAt_succ, Nat.add_assoc] at hnul ⊢
      have hc : st.mem (a + st.rawStringIndex) ≠ 0 := fun h => hnul (h ▸ List.mem_cons_self)
      have hrest : 0 ∉ st.mem.bytesAt (a + (st.rawStringIndex + 1)) rounds := fun h =>
        hnul (List.mem_cons_of_mem _ h)
      by_cases hd : st.mem (a + st.rawStringIndex) = d
      · rw [hd, List.count_cons_self]
        by_cases hgoes : st.GoesOn length maxNum
        · obtain ⟨hmore, hmax⟩ := hgoes
          have hmore' : (st.rawStringIndex : ℤ) + ([] : List UInt8).length + 1 < length := by
            rw [List.length_nil, Nat.cast_zero, add_zero]
            exact hmore
          have hnone : Reads a d st [] := ⟨hend, List.not_mem_nil, List.not_mem_nil, rfl⟩
          have hnext := loop_next hnone hd (hd ▸ hc) hmore' (by exact_mod_cast hmax) (by omega)
            rounds
          rw [List.length_nil, Nat.zero_add] at hnext
          rw [hnext] at hloop
          have hroom' : maxNum ≤ (st.next a 0).splitStringsPtr.length := by
            rw [next, List.length_set]
            exact hroom
          have hbytes : (st.next a 0).mem.bytesAt (a + (st.rawStringIndex + 1)) rounds =
              st.mem.bytesAt (a + (st.rawStringIndex + 1)) rounds :=
            Memory.bytesAt_of_sameOutside (Memory.sameOutside_store (Nat.le_refl 1))
              (.inr (Nat.le_refl _))
          have hle := @ih (st.next a 0) rfl (hbytes.symm ▸ hrest) hroom' hloop
          rw [next_numSplitStrings, next_rawStringIndex, Nat.zero_add, hbytes] at hle
          omega
        · obtain ⟨endString, hround⟩ := round_stop (.inl hd) hgoes
          rw [loop, hround] at hloop
          obtain rfl := Option.some.inj hloop
          simp only [cut]
          omega
      · rw [loop, round_other hend hc hd] at hloop
        rw [List.count_cons_of_ne hd]
        exact @ih { st with rawStringIndex := st.rawStringIndex + 1 } hend hrest hroom hloop

end SplitState

/-! ## Strings in memory -/

section Splitting

variable {m : Memory} {a fuel : ℕ} {s : List UInt8} {ptrs : List (Option ℕ)}
  {maxNumSubstrings : ℤ} {delimiter : UInt8}

/-- The first pieces of a string, as many as are asked for. -/
def firstPieces (s : List UInt8) (maxNumSubstrings : ℤ) (delimiter : UInt8) : List (List UInt8) :=
  (s.splitOn delimiter).take maxNumSubstrings.toNat

/-- What the comment above `loc_util_split_string` promises: the number of the strings, the array,
in which nothing else has changed, and the strings in memory. -/
structure Splits (m : Memory) (a : ℕ) (s : List UInt8) (ptrs : List (Option ℕ))
    (maxNumSubstrings : ℤ) (delimiter : UInt8) (r : SplitResult) : Prop where
  number : r.numSplitStrings = min maxNumSubstrings (s.splitOn delimiter).length
  pointers : r.splitStringsPtr = some (fillArray
    ((pieceStarts a (firstPieces s maxNumSubstrings delimiter)).map some) ptrs)
  strings : List.Forall₂ r.mem.HoldsString
    (pieceStarts a (firstPieces s maxNumSubstrings delimiter))
    (firstPieces s maxNumSubstrings delimiter)
  outside : m.SameOutside r.mem a (s.length + 1)

lemma locUtilSplitStringAt_of_holdsString (hs : m.HoldsString a s) (hfuel : s.length < fuel)
    (ptrs : List (Option ℕ)) (maxNumSubstrings : ℤ) (delimiter : UInt8) :
    locUtilSplitStringAt fuel m (some a) (some ptrs) maxNumSubstrings delimiter =
      splitOfLength m a ptrs (longToInt (s.length + 1)) maxNumSubstrings delimiter := by
  rw [locUtilSplitStringAt, Memory.strlen_of_holdsString hs hfuel, Option.bind_some]

lemma splitOfLength_cons (m : Memory) (a : ℕ) (p : Option ℕ) (ptrs : List (Option ℕ))
    (length maxNumSubstrings : ℤ) (delimiter : UInt8) :
    splitOfLength m a (p :: ptrs) length maxNumSubstrings delimiter =
      (SplitState.loop a length maxNumSubstrings delimiter length.toNat
        ⟨m, some a :: ptrs, 0, 0, false⟩).map
          fun st => ⟨st.numSplitStrings, st.mem, some st.splitStringsPtr⟩ := by
  have hstored : storePtr (p :: ptrs) 0 a = some (some a :: ptrs) := if_pos (Nat.succ_pos _)
  rw [splitOfLength, hstored, Option.map_eq_bind]
  rfl

/-- The string is taken apart when all of it is seen, or enough delimiters are. -/
lemma exists_splits {length : ℤ} (hs : m.HoldsString a s) (hd : delimiter ≠ 0)
    (hmax : 1 ≤ maxNumSubstrings) (hroom : maxNumSubstrings ≤ ptrs.length)
    (hseen : length = s.length + 1 ∨
      maxNumSubstrings ≤ (s.take length.toNat).count delimiter) :
    ∃ r, splitOfLength m a ptrs length maxNumSubstrings delimiter = some r ∧
      Splits m a s ptrs maxNumSubstrings delimiter r := by
  obtain ⟨p, ptrs, rfl⟩ : ∃ p ptrs', ptrs = p :: ptrs' := by
    refine List.exists_cons_of_ne_nil ?_
    rintro rfl
    rw [List.length_nil] at hroom
    omega
  have hpos : 0 < length := by
    rcases hseen with hwhole | hmany
    · omega
    · by_contra hle
      rw [Int.toNat_of_nonpos (by omega), List.take_zero, List.count_nil] at hmany
      omega
  have hst : SplitState.Begins a ⟨m, some a :: ptrs, 0, 0, false⟩ s [] ptrs := ⟨hs, rfl, rfl, rfl⟩
  have hsees : SplitState.Sees delimiter maxNumSubstrings length.toNat
      ⟨m, some a :: ptrs, 0, 0, false⟩ s := by
    rw [SplitState.Sees, Nat.cast_zero, zero_add]
    omega
  have hlength : length = (0 : ℕ) + (length.toNat : ℤ) := by omega
  obtain ⟨st, hloop, htakes⟩ := SplitState.loop_takes hst hd hmax hroom hlength hsees
  have hfirst : (s.splitOn delimiter).take (maxNumSubstrings - ((0 : ℕ) : ℤ)).toNat =
      firstPieces s maxNumSubstrings delimiter := by
    rw [Nat.cast_zero, sub_zero, firstPieces]
  have htakes' : SplitState.Takes a ⟨m, some a :: ptrs, 0, 0, false⟩ st [] ptrs
      (firstPieces s maxNumSubstrings delimiter) (s.length + 1) := hfirst ▸ htakes
  obtain ⟨hnum, hptrs, hstrings, houtside⟩ := htakes'
  have hne : firstPieces s maxNumSubstrings delimiter ≠ [] := by
    rw [firstPieces, Ne, List.take_eq_nil_iff, not_or]
    exact ⟨by omega, List.splitOn_ne_nil delimiter s⟩
  refine ⟨⟨st.numSplitStrings, st.mem, some st.splitStringsPtr⟩, ?_, ?_, ?_, hstrings, houtside⟩
  · rw [splitOfLength_cons, hloop, Option.map_some]
  · have hlength : (firstPieces s maxNumSubstrings delimiter).length =
        min maxNumSubstrings.toNat (s.splitOn delimiter).length := List.length_take
    simp only [Nat.zero_add] at hnum
    show (st.numSplitStrings : ℤ) = _
    omega
  · obtain ⟨piece, pieces, hpieces⟩ := List.exists_cons_of_ne_nil hne
    rw [hpieces] at hptrs ⊢
    exact congrArg some hptrs

/-- A string of which not all is seen is taken apart at delimiters only. -/
lemma numSplitStrings_le_count {length : ℤ} {r : SplitResult} (hs : m.HoldsString a s)
    (hlt : length ≤ s.length) (hroom : maxNumSubstrings ≤ ptrs.length)
    (hrun : splitOfLength m a ptrs length maxNumSubstrings delimiter = some r) :
    r.numSplitStrings ≤ (s.take length.toNat).count delimiter := by
  cases ptrs with
  | nil => cases hrun
  | cons p ptrs =>
      rw [splitOfLength_cons] at hrun
      obtain ⟨st, hloop, rfl⟩ := Option.map_eq_some_iff.mp hrun
      have hle : length.toNat ≤ s.length := by omega
      have hbytes : m.bytesAt a length.toNat = s.take length.toNat := by
        rw [← Memory.take_bytesAt m a (Nat.le_succ_of_le hle), hs.2,
          List.take_append_of_le_length hle]
      have hnul : 0 ∉ m.bytesAt a length.toNat := by
        rw [hbytes]
        exact fun h => hs.1 (List.mem_of_mem_take h)
      have hcount :=
        @SplitState.numSplitStrings_le ⟨m, some a :: ptrs, 0, 0, false⟩ st a length.toNat length
          maxNumSubstrings delimiter rfl hnul hroom hloop
      simp only [Nat.zero_add, Nat.add_zero, hbytes] at hcount
      exact Int.ofNat_le.mpr hcount

/-- A string that is too long for an `int`. -/
lemma not_splits {r : SplitResult} (hs : m.HoldsString a s) (hfuel : s.length < fuel)
    (hlong : 2 ^ 31 ≤ s.length + 1)
    (hfew : (s.take (longToInt (s.length + 1)).toNat).count delimiter < maxNumSubstrings)
    (hroom : maxNumSubstrings ≤ ptrs.length)
    (hrun : locUtilSplitStringAt fuel m (some a) (some ptrs) maxNumSubstrings delimiter = some r) :
    ¬ Splits m a s ptrs maxNumSubstrings delimiter r := by
  intro h
  rw [locUtilSplitStringAt_of_holdsString hs hfuel] at hrun
  have hlt : longToInt (s.length + 1) ≤ s.length := by
    have := longToInt_lt (s.length + 1)
    omega
  generalize longToInt (s.length + 1) = length at hfew hrun hlt
  have hle := numSplitStrings_le_count hs hlt hroom hrun
  have hcount : (s.take length.toNat).count delimiter ≤ s.count delimiter :=
    (List.take_sublist _ _).count_le _
  rw [h.number, length_splitOn] at hle
  omega

/-- **Splitting.** The string is taken apart exactly when its length with the end character is an
`int`, or when it is so long that this wraps to a positive number and enough delimiters stand among
as many characters. -/
theorem splits_iff (hs : m.HoldsString a s) (hfuel : s.length < fuel) (hd : delimiter ≠ 0)
    (hmax : 1 ≤ maxNumSubstrings) (hroom : maxNumSubstrings ≤ ptrs.length) :
    (∃ r, locUtilSplitStringAt fuel m (some a) (some ptrs) maxNumSubstrings delimiter = some r ∧
        Splits m a s ptrs maxNumSubstrings delimiter r) ↔
      s.length + 1 < 2 ^ 31 ∨ (s.length + 1) % 2 ^ 32 < 2 ^ 31 ∧
        maxNumSubstrings ≤ (s.take ((s.length + 1) % 2 ^ 32)).count delimiter := by
  have hseen : maxNumSubstrings ≤ (s.take (longToInt (s.length + 1)).toNat).count delimiter ↔
      (s.length + 1) % 2 ^ 32 < 2 ^ 31 ∧
        maxNumSubstrings ≤ (s.take ((s.length + 1) % 2 ^ 32)).count delimiter := by
    have hcast : ((s.length : ℤ) + 1) = (s.length + 1 : ℕ) := rfl
    rw [hcast, toNat_longToInt]
    split_ifs with hpos
    · exact (and_iff_right hpos).symm
    · rw [List.take_zero, List.count_nil]
      exact iff_of_false (by omega) fun h => hpos h.1
  rw [← hseen]
  constructor
  · rintro ⟨r, hrun, hr⟩
    by_contra hnot
    obtain ⟨hlong, hfew⟩ := not_or.mp hnot
    exact not_splits hs hfuel (Nat.le_of_not_lt hlong) (Int.not_le.mp hfew) hroom hrun hr
  · intro h
    rw [locUtilSplitStringAt_of_holdsString hs hfuel]
    refine exists_splits hs hd hmax hroom (h.imp_left fun hlt => ?_)
    exact longToInt_of_lt (by omega) (by exact_mod_cast hlt)

end Splitting

/-- Two of three pieces, the second of them empty. -/
theorem splits_empty_piece :
    ∃ r, locUtilSplitStringAt 5 (Memory.store (fun _ => 0) 0 [97, 32, 32, 98]) (some 0)
        (some [none, none]) 2 32 = some r ∧
      Splits (Memory.store (fun _ => 0) 0 [97, 32, 32, 98]) 0 [97, 32, 32, 98] [none, none] 2 32
        r :=
  (splits_iff ⟨by decide, by decide⟩ (by decide) (by decide) (by decide) (by decide)).mpr
    (.inl (by decide))

/-- With its end character a string of `2 ^ 31 - 1` letters has a length that becomes negative. -/
theorem long_string_not_split :
    ¬ ∀ (fuel : ℕ) (m : Memory) (a : ℕ) (s : List UInt8) (ptrs : List (Option ℕ))
      (maxNumSubstrings : ℤ) (delimiter : UInt8), m.HoldsString a s → s.length < fuel →
      delimiter ≠ 0 → 1 ≤ maxNumSubstrings → maxNumSubstrings ≤ ptrs.length →
      ∃ r, locUtilSplitStringAt fuel m (some a) (some ptrs) maxNumSubstrings delimiter = some r ∧
        Splits m a s ptrs maxNumSubstrings delimiter r := by
  intro h
  obtain ⟨s, hnul, hlength⟩ : ∃ s : List UInt8, 0 ∉ s ∧ s.length = 2 ^ 31 - 1 := by
    refine ⟨List.replicate (2 ^ 31 - 1) 97, fun hmem => ?_, List.length_replicate⟩
    exact absurd (List.eq_of_mem_replicate hmem) (by decide)
  have hs := Memory.holdsString_store (m := fun _ => 0) (a := 0) hnul
  have hfew : (s.take (longToInt (s.length + 1)).toNat).count 32 < (1 : ℤ) := by
    have hcast : ((s.length : ℤ) + 1) = (s.length + 1 : ℕ) := rfl
    rw [hcast, toNat_longToInt, hlength, if_neg (by omega), List.take_zero, List.count_nil]
    decide
  have hroom : (1 : ℤ) ≤ ([none] : List (Option ℕ)).length := by decide
  obtain ⟨r, hrun, hr⟩ := h (s.length + 1) _ 0 s [none] 1 32 hs (Nat.lt_succ_self _) (by decide)
    (by decide) hroom
  exact not_splits hs (Nat.lt_succ_self _) (by omega) hfew hroom hrun hr

/-! ## Strings of characters -/

/-- What stands in memory at the pointers are the strings that `locUtilSplitString` gives. -/
theorem locUtilSplitStringAt_strings {m : Memory} {a fuel : ℕ} {s : List UInt8}
    {ptrs : List (Option ℕ)} {maxNumSubstrings : ℤ} {delimiter : UInt8} (hs : m.HoldsString a s)
    (hfuel : s.length < fuel) (hd : delimiter ≠ 0) (hmax : 1 ≤ maxNumSubstrings)
    (hroom : maxNumSubstrings ≤ ptrs.length) (hlt : s.length + 1 < 2 ^ 31) :
    ∃ r starts,
      locUtilSplitStringAt fuel m (some a) (some ptrs) maxNumSubstrings delimiter = some r ∧
      r.splitStringsPtr = some (fillArray (starts.map some) ptrs) ∧
      List.Forall₂ (fun p string => ∃ t, r.mem.HoldsString p t ∧ lineChars t = string) starts
        (locUtilSplitString (lineChars s) maxNumSubstrings.toNat (Char.ofUInt8 delimiter)) := by
  rw [locUtilSplitStringAt_of_holdsString hs hfuel]
  obtain ⟨r, hrun, hr⟩ := exists_splits hs hd hmax hroom
    (.inl (longToInt_of_lt (by omega) (by exact_mod_cast hlt)))
  refine ⟨r, _, hrun, hr.pointers, ?_⟩
  have hinj : Function.Injective Char.ofUInt8 := Function.LeftInverse.injective toUInt8_ofUInt8
  have hstrings : locUtilSplitString (lineChars s) maxNumSubstrings.toNat (Char.ofUInt8 delimiter) =
      (firstPieces s maxNumSubstrings delimiter).map lineChars := by
    rw [locUtilSplitString_eq _ (by omega), lineChars, splitOn_map hinj, firstPieces, List.map_take]
    rfl
  rw [hstrings, List.forall₂_map_right_iff]
  exact hr.strings.imp fun p t ht => ⟨t, ht, rfl⟩

end LocHal
