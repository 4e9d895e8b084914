import LocHal.Lib.WhileLoop
import LocHal.Shims.Strdup16to8

/-!
# From modified UTF-8 to UTF-16 (`libshims/strdup8to16.cpp`)

A string is the list of its bytes; the first zero ends it, and there is one behind the list.  Any
bytes are accepted: what is not the encoding of anything is replaced.

* `strdup8to16_strndup16to8`: what `strndup16to8` has written is read back as it was;
* `strcpy8to16_fits`: whatever the bytes are, no more units are written than have been counted;
* `strcpylen8to16_spec`: which strings `strcpylen8to16` never comes to the end of.

What `malloc` returns to `strdup8to16`, which does not check it, is not modelled.
-/

namespace LocHal
namespace Shims

/-- `UTF16_REPLACEMENT_CHAR`. -/
def utf16ReplacementChar : ℕ := 0xfffd

/-- `UNICODE_UPPER_LIMIT`. -/
def unicodeUpperLimit : ℕ := 0x10fffd

/-- `UTF8_SEQ_LENGTH`: it returns 1-4 depending on the leading bit sequence. -/
def utf8SeqLength (ch : ℕ) : ℕ := ((0xe5000000 >>> ((ch >>> 3) &&& 0x1e)) &&& 3) + 1

/-- `UTF8_SHIFT_AND_MASK`. -/
def utf8ShiftAndMask (unicode byte : ℕ) : ℕ := unicode <<< 6 ||| (0x3f &&& byte)

/-- The byte that a string begins with. -/
def peek (s : List UInt8) : UInt8 := s.headD 0

/-- The byte starts with bits `10`. -/
def isExtension (b : UInt8) : Bool := b.toNat &&& 0xc0 == 0x80

/-- A decrement of an `int`. -/
def decrInt (n : ℤ) : ℤ := (n - 1).bmod (2 ^ 32)

/-- The loop of `strlen8to16`.  There are at most twice as many units as bytes, so that `len` does
not overflow. -/
def strlen8to16Loop (len : ℕ) (expected : ℤ) : List UInt8 → ℕ
  | [] => len
  | ic :: utf8Str =>
      if ic = 0 then len
      else if isExtension ic then
        let expected := decrInt expected
        strlen8to16Loop (if expected < 0 then len + 1 else len) expected utf8Str
      else
        let len := len + 1
        let expected : ℤ := utf8SeqLength ic.toNat - 1
        -- this will result in a surrogate pair
        strlen8to16Loop (if expected = 3 then len + 1 else len) expected utf8Str

/-- `strlen8to16`. -/
def strlen8to16 (utf8Str : List UInt8) : ℕ := strlen8to16Loop 0 0 utf8Str

/-- `leaderMask`, by the length of the sequence. -/
def leaderMask : ℕ → ℕ
  | 1 => 0xff
  | 2 => 0x1f
  | 3 => 0x0f
  | _ => 0x07

/-- The loop of `getUtf32FromUtf8`, over the `n` bytes that are to follow. -/
def extend : ℕ → ℕ → List UInt8 → ℕ × List UInt8
  | 0, ret, utf8Ptr => (ret, utf8Ptr)
  | n + 1, ret, utf8Ptr =>
      if peek utf8Ptr = 0 then (utf16ReplacementChar, utf8Ptr)
      else if isExtension (peek utf8Ptr) then
        extend n (utf8ShiftAndMask ret (peek utf8Ptr).toNat) utf8Ptr.tail
      else (utf16ReplacementChar, utf8Ptr)

/-- `getUtf32FromUtf8`: the character, and the string after it. -/
def getUtf32FromUtf8 (utf8Ptr : List UInt8) : ℕ × List UInt8 :=
  if isExtension (peek utf8Ptr) then (utf16ReplacementChar, utf8Ptr.tail)
  else
    let seq_len := utf8SeqLength (peek utf8Ptr).toNat
    let ret := (peek utf8Ptr).toNat &&& leaderMask seq_len
    if peek utf8Ptr = 0 then (ret, utf8Ptr)
    else extend (seq_len - 1) ret utf8Ptr.tail

/-- The units that both copying loops write for a character. -/
def utf16Units (ret : ℕ) : List UInt16 :=
  if ret ≤ 0xffff then [.ofNat ret]
  else if ret ≤ unicodeUpperLimit then
    [.ofNat (0xd800 ||| (ret - 0x10000) >>> 10), .ofNat (0xdc00 ||| (ret - 0x10000) &&& 0x3ff)]
  else [.ofNat utf16ReplacementChar]

/-- The body of both copying loops. -/
def copyTurn (utf8Str : List UInt8) : List UInt16 × List UInt8 :=
  let r := getUtf32FromUtf8 utf8Str
  (utf16Units r.1, r.2)

/-- The loop of `strcpy8to16`. -/
def strcpy8to16Next (utf8Str : List UInt8) : Option (List UInt16 × List UInt8) :=
  if peek utf8Str = 0 then none else some (copyTurn utf8Str)

/-- `strcpy8to16`: the units that it writes.  Each turn takes a byte at least. -/
def strcpy8to16 (utf8Str : List UInt8) : List UInt16 :=
  ((whileLoop strcpy8to16Next (utf8Str.length + 1) utf8Str).getD []).flatten

/-- `strdup8to16`: the number of units that it allocates and the units that it writes. -/
def strdup8to16 (w : ℕ) (s : Option (List UInt8)) : Option (ℕ × List UInt16) :=
  match s with
  | none => none
  | some s =>
      let len := strlen8to16 s
      -- fail on overflow
      if len ≠ 0 ∧ sizeMax w / len < 2 then none else some (len, strcpy8to16 s)

/-- The loop of `strcpylen8to16`, which goes on while there are more than `behind` bytes left. -/
def strcpylen8to16Next (behind : ℤ) (utf8Str : List UInt8) :
    Option (List UInt16 × List UInt8) :=
  if behind < utf8Str.length then some (copyTurn utf8Str) else none

/-- `strcpylen8to16`, with `fuel` for the turns of its loop. -/
def strcpylen8to16 (fuel : ℕ) (utf8Str : List UInt8) (length : ℤ) : Option (List UInt16) :=
  (whileLoop (strcpylen8to16Next (utf8Str.length - length)) fuel utf8Str).map List.flatten

/-! ## Bytes -/

/-- The kinds of bytes. -/
lemma byte_kinds : ∀ n < 2 ^ 8,
    ((n &&& 0xc0 == 0x80) = true ↔ 0x80 ≤ n ∧ n < 0xc0) ∧
      utf8SeqLength n =
        if n < 0xc0 then 1 else if n < 0xe0 then 2 else if n < 0xf0 then 3 else 4 := by
  decide +kernel

lemma isExtension_iff (b : UInt8) : isExtension b = true ↔ 0x80 ≤ b.toNat ∧ b.toNat < 0xc0 :=
  (byte_kinds b.toNat b.toNat_lt).1

lemma utf8SeqLength_eq (b : UInt8) : utf8SeqLength b.toNat =
    if b.toNat < 0xc0 then 1 else if b.toNat < 0xe0 then 2 else if b.toNat < 0xf0 then 3 else 4 :=
  (byte_kinds b.toNat b.toNat_lt).2

lemma utf8ShiftAndMask_eq (unicode byte : ℕ) :
    utf8ShiftAndMask unicode byte = 2 ^ 6 * unicode + byte % 2 ^ 6 := by
  rw [utf8ShiftAndMask, Nat.and_comm, and_low, Nat.shiftLeft_eq, Nat.mul_comm,
    Nat.two_pow_add_eq_or_of_lt (Nat.mod_lt _ (by decide))]

/-- What a lead byte contributes. -/
lemma and_leaderMask (b : UInt8) : b.toNat &&& leaderMask (utf8SeqLength b.toNat) =
    if b.toNat < 0xc0 then b.toNat
    else if b.toNat < 0xe0 then b.toNat % 2 ^ 5
    else if b.toNat < 0xf0 then b.toNat % 2 ^ 4 else b.toNat % 2 ^ 3 := by
  have hlt : b.toNat < 2 ^ 8 := b.toNat_lt
  rw [utf8SeqLength_eq]
  split_ifs
  · exact (Nat.and_two_pow_sub_one_eq_mod _ 8).trans (Nat.mod_eq_of_lt hlt)
  · exact Nat.and_two_pow_sub_one_eq_mod _ 5
  · exact Nat.and_two_pow_sub_one_eq_mod _ 4
  · exact Nat.and_two_pow_sub_one_eq_mod _ 3

/-! ## Round trip -/

/-- One more byte of a sequence. -/
lemma extend_cons {n ret low : ℕ} (hlow : low < 2 ^ 6) (rest : List UInt8) :
    extend (n + 1) ret (.ofNat (0x80 + low) :: rest) = extend n (2 ^ 6 * ret + low) rest := by
  have hbyte : (UInt8.ofNat (0x80 + low)).toNat = 0x80 + low :=
    UInt8.toNat_ofNat_of_lt' (show 0x80 + low < 2 ^ 8 by omega)
  have hext : isExtension (.ofNat (0x80 + low)) = true := by
    rw [isExtension_iff, hbyte]
    omega
  have hzero : UInt8.ofNat (0x80 + low) ≠ 0 := by
    intro heq
    rw [heq] at hbyte
    exact absurd hbyte (by simp only [UInt8.toNat_zero]; omega)
  rw [extend, peek, List.headD_cons, if_neg hzero, if_pos hext, utf8ShiftAndMask_eq, hbyte,
    List.tail_cons]
  congr 2
  omega

/-- A lead byte. -/
lemma getUtf32FromUtf8_cons {b : UInt8} (hzero : b ≠ 0) (hext : isExtension b = false)
    (rest : List UInt8) : getUtf32FromUtf8 (b :: rest) = extend (utf8SeqLength b.toNat - 1)
      (b.toNat &&& leaderMask (utf8SeqLength b.toNat)) rest := by
  rw [getUtf32FromUtf8, peek, List.headD_cons, hext, if_neg Bool.false_ne_true, if_neg hzero,
    List.tail_cons]

/-- A lead byte that is written. -/
lemma getUtf32FromUtf8_ofNat {n : ℕ} (hn : n < 2 ^ 8) (hzero : n ≠ 0) (hext : n < 0x80 ∨ 0xc0 ≤ n)
    (rest : List UInt8) : peek (.ofNat n :: rest) ≠ 0 ∧ getUtf32FromUtf8 (.ofNat n :: rest) =
      if n < 0xc0 then (n, rest)
      else if n < 0xe0 then extend 1 (n % 2 ^ 5) rest
      else if n < 0xf0 then extend 2 (n % 2 ^ 4) rest else extend 3 (n % 2 ^ 3) rest := by
  have hbyte : (UInt8.ofNat n).toNat = n := UInt8.toNat_ofNat_of_lt' hn
  have hne : UInt8.ofNat n ≠ 0 := by
    intro heq
    rw [heq] at hbyte
    exact hzero hbyte.symm
  have hfalse : isExtension (.ofNat n) = false := by
    rw [← Bool.not_eq_true, isExtension_iff, hbyte]
    omega
  refine ⟨hne, ?_⟩
  rw [getUtf32FromUtf8_cons hne hfalse, and_leaderMask, utf8SeqLength_eq, hbyte]
  split_ifs
  · rfl
  · rfl
  · rfl
  · rfl

/-- **Reading back a unit.** -/
lemma strcpy8to16Next_encodeUnit (unit : UInt16) (rest : List UInt8) :
    strcpy8to16Next (encodeUnit unit ++ rest) = some ([unit], rest) := by
  have hlt : unit.toNat < 2 ^ 16 := unit.toNat_lt
  have hunits : utf16Units unit.toNat = [unit] := by
    rw [utf16Units, if_pos (show unit.toNat ≤ 0xffff by omega), UInt16.ofNat_toNat]
  have hread : peek (encodeUnit unit ++ rest) ≠ 0 ∧
      getUtf32FromUtf8 (encodeUnit unit ++ rest) = (unit.toNat, rest) := by
    rw [encodeUnit]
    split_ifs with h3 h2
    · obtain ⟨hpeek, hread⟩ := getUtf32FromUtf8_ofNat (n := 0xe0 + unit.toNat / 2 ^ 12) (by omega)
        (by omega) (by omega) (.ofNat (0x80 + unit.toNat / 2 ^ 6 % 2 ^ 6) ::
          .ofNat (0x80 + unit.toNat % 2 ^ 6) :: rest)
      refine ⟨hpeek, hread.trans ?_⟩
      rw [if_neg (by omega), if_neg (by omega), if_pos (by omega), extend_cons (by omega),
        extend_cons (by omega), extend]
      congr 1
      omega
    · obtain ⟨hpeek, hread⟩ := getUtf32FromUtf8_ofNat (n := 0xc0 + unit.toNat / 2 ^ 6) (by omega)
        (by omega) (by omega) (.ofNat (0x80 + unit.toNat % 2 ^ 6) :: rest)
      refine ⟨hpeek, hread.trans ?_⟩
      rw [if_neg (by omega), if_pos (by omega), extend_cons (by omega), extend]
      congr 1
      omega
    · obtain ⟨hpeek, hread⟩ := getUtf32FromUtf8_ofNat (n := unit.toNat) (by omega) (by omega)
        (by omega) rest
      refine ⟨hpeek, hread.trans ?_⟩
      rw [if_pos (by omega)]
  rw [strcpy8to16Next, if_neg hread.1, copyTurn, hread.2, hunits]

/-- What has been written is read back. -/
lemma strcpy8to16_strncpy16to8 (s : List UInt16) : strcpy8to16 (strncpy16to8 s) = s := by
  have hlength : s.length < (strncpy16to8 s).length + 1 := by
    rw [strncpy16to8_eq, List.length_append]
    have hle : s.length ≤ (s.flatMap encodeUnit).length := by
      induction s with
      | nil => exact Nat.le_refl _
      | cons unit s ih =>
          have hcount := (utf8Count_le unit.toNat).1
          rw [length_flatMap_encodeUnit_cons, List.length_cons]
          omega
    omega
  have hloop : whileLoop strcpy8to16Next ((strncpy16to8 s).length + 1)
      (s.flatMap encodeUnit ++ [0]) = some (s.map fun unit => [unit]) :=
    whileLoop_flatMap strcpy8to16Next_encodeUnit rfl s hlength
  rw [← strncpy16to8_eq] at hloop
  rw [strcpy8to16, hloop, Option.getD_some, ← List.flatMap_def, List.flatMap_singleton']

/-! ## The count -/

/-- A turn of the copying loop: the byte that it begins with and the units that it writes. -/
def turn (s : List UInt8) : Option ((UInt8 × List UInt16) × List UInt8) :=
  if peek s = 0 then none else some ((peek s, (copyTurn s).1), (copyTurn s).2)

/-- The turns of the copying loop. -/
def turns (s : List UInt8) : List (UInt8 × List UInt16) :=
  (whileLoop turn (s.length + 1) s).getD []

/-- What `extend` reads: bytes that are not lead bytes, as many as were to follow, unless what
follows is no extension byte. -/
lemma extend_spec (n ret : ℕ) (s : List UInt8) :
    ∃ pre, s = pre ++ (extend n ret s).2 ∧ (∀ b ∈ pre, isExtension b = true) ∧ pre.length ≤ n ∧
      (pre.length = n ∨ isExtension (peek (extend n ret s).2) = false) ∧
      ((extend n ret s).1 = utf16ReplacementChar ∨
        (extend n ret s).1 < 2 ^ (6 * n) * (ret + 1)) := by
  induction n generalizing ret s with
  | zero => exact ⟨[], rfl, nofun, Nat.le_refl _, .inl rfl, .inr (by simp [extend])⟩
  | succ n ih =>
      rw [extend]
      split_ifs with hzero hext
      · exact ⟨[], rfl, nofun, Nat.zero_le _, .inr (by rw [hzero]; rfl), .inl rfl⟩
      · cases s with
        | nil => exact absurd rfl hzero
        | cons b s =>
            obtain ⟨pre, hs, hpre, hlength, hstop, hret⟩ :=
              ih (utf8ShiftAndMask ret (peek (b :: s)).toNat) s
            refine ⟨b :: pre, congrArg _ hs, ?_, Nat.succ_le_succ hlength, ?_, ?_⟩
            · exact List.forall_mem_cons.mpr ⟨hext, hpre⟩
            · exact hstop.imp (congrArg _) id
            · refine hret.imp id fun hlt => hlt.trans_le ?_
              have hmod := Nat.mod_lt (peek (b :: s)).toNat (show 0 < 2 ^ 6 by decide)
              have hpow : 2 ^ (6 * (n + 1)) = 2 ^ (6 * n) * 2 ^ 6 := Nat.pow_add 2 (6 * n) 6
              rw [utf8ShiftAndMask_eq, hpow, Nat.mul_assoc]
              exact Nat.mul_le_mul_left _ (by omega)
      · exact ⟨[], rfl, nofun, Nat.zero_le _, .inr (by simpa using hext), .inl rfl⟩

/-- The counting loop is where the copying loop begins a turn: an extension byte that is met now
was not expected.  It has not counted down more than there were bytes. -/
structure AtTurn (expected : ℤ) (s : List UInt8) : Prop where
  unexpected : isExtension (peek s) = true → expected ≤ 0
  lower : (s.length : ℤ) - 2 ^ 31 ≤ expected
  upper : expected ≤ 3
  length : (s.length : ℤ) ≤ 2 ^ 31

lemma decrInt_eq {n : ℤ} (h : 1 - 2 ^ 31 ≤ n) (h' : n ≤ 3) : decrInt n = n - 1 := by
  rw [decrInt, Int.bmod_eq_of_le (by omega) (by omega)]

/-- Extension bytes that are expected are not counted. -/
lemma strlen8to16Loop_append {pre : List UInt8} (hpre : ∀ b ∈ pre, isExtension b = true)
    {expected : ℤ} (hle : pre.length ≤ expected) (hupper : expected ≤ 3) (len : ℕ)
    (s : List UInt8) :
    strlen8to16Loop len expected (pre ++ s) = strlen8to16Loop len (expected - pre.length) s := by
  induction pre generalizing expected with
  | nil => rw [List.nil_append, List.length_nil, Int.natCast_zero, sub_zero]
  | cons b pre ih =>
      obtain ⟨hb, hpre⟩ := List.forall_mem_cons.mp hpre
      rw [List.length_cons, Int.natCast_succ] at hle ⊢
      have hzero : b ≠ 0 := by
        rintro rfl
        cases hb
      rw [List.cons_append, strlen8to16Loop, if_neg hzero, if_pos hb,
        decrInt_eq (by omega) hupper]
      simp only
      rw [if_neg (by omega), ih hpre (by omega) (by omega)]
      congr 1
      omega

/-- What a turn counts for: two units if it begins with a byte that announces four. -/
def counted (b : UInt8) : ℕ := if 0xf0 ≤ b.toNat then 2 else 1

/-- **The count of a turn.** -/
lemma strlen8to16Loop_turn {expected : ℤ} {s : List UInt8} (h : AtTurn expected s)
    (hzero : peek s ≠ 0) (len : ℕ) : ∃ expected', AtTurn expected' (copyTurn s).2 ∧
      strlen8to16Loop len expected s =
        strlen8to16Loop (len + counted (peek s)) expected' (copyTurn s).2 := by
  obtain ⟨hunexpected, hlower, hupper, hbytes⟩ := h
  cases s with
  | nil => exact absurd rfl hzero
  | cons b s =>
      have hb : b ≠ 0 := hzero
      rw [List.length_cons, Int.natCast_succ] at hlower hbytes
      cases hext : isExtension b with
      | true =>
          have hcopy : (copyTurn (b :: s)).2 = s := by
            rw [copyTurn, getUtf32FromUtf8, peek, List.headD_cons, if_pos hext, List.tail_cons]
          have hle := hunexpected hext
          have hcounted : counted b = 1 := by
            have hkind := (isExtension_iff b).mp hext
            rw [counted, if_neg (by omega)]
          refine ⟨expected - 1, ⟨fun _ => by omega, ?_, by omega, ?_⟩, ?_⟩
          · rw [hcopy]
            omega
          · rw [hcopy]
            omega
          · rw [hcopy, peek, List.headD_cons, hcounted, strlen8to16Loop, if_neg hb, if_pos hext,
              decrInt_eq (by omega) hupper]
            simp only
            rw [if_pos (by omega)]
      | false =>
          obtain ⟨pre, hs, hpre, hlength, hstop, -⟩ := extend_spec (utf8SeqLength b.toNat - 1)
            (b.toNat &&& leaderMask (utf8SeqLength b.toNat)) s
          have hcopy : (copyTurn (b :: s)).2 = (extend (utf8SeqLength b.toNat - 1)
              (b.toNat &&& leaderMask (utf8SeqLength b.toNat)) s).2 := by
            rw [copyTurn, getUtf32FromUtf8_cons hb hext]
          rw [← hcopy] at hs hstop
          have hseq := utf8SeqLength_eq b
          have hbounds : 1 ≤ utf8SeqLength b.toNat ∧ utf8SeqLength b.toNat ≤ 4 := by
            rw [hseq]
            split_ifs <;> decide
          have hcounted : (if (utf8SeqLength b.toNat : ℤ) - 1 = 3 then len + 1 + 1 else len + 1) =
              len + counted b := by
            rw [counted, hseq]
            split_ifs <;> omega
          have hall := congrArg List.length hs
          rw [List.length_append] at hall
          refine ⟨utf8SeqLength b.toNat - 1 - pre.length,
            ⟨fun hnext => ?_, by omega, by omega, by omega⟩, ?_⟩
          · rcases hstop with hfull | hnone
            · omega
            · rw [hnone] at hnext
              cases hnext
          · rw [peek, List.headD_cons, ← hcounted, strlen8to16Loop, if_neg hb, hext,
              if_neg Bool.false_ne_true]
            simp only
            conv_lhs => rw [hs]
            rw [strlen8to16Loop_append hpre (by omega) (by omega)]

/-- The units of a turn. -/
lemma copyTurn_units {s : List UInt8} (hzero : peek s ≠ 0) :
    ((copyTurn s).1.length = 1 ∨ (copyTurn s).1.length = 2 ∧ 0xf0 ≤ (peek s).toNat) := by
  cases s with
  | nil => exact absurd rfl hzero
  | cons b s =>
      have hb : b ≠ 0 := hzero
      have hbig : ∀ ret, 0xffff < ret →
          (utf16Units ret).length = 1 ∨ (utf16Units ret).length = 2 := by
        intro ret hret
        rw [utf16Units, if_neg (by omega)]
        split_ifs
        · exact .inr rfl
        · exact .inl rfl
      have hsmall : ∀ ret, ret ≤ 0xffff → (utf16Units ret).length = 1 := by
        intro ret hret
        rw [utf16Units, if_pos hret]
        rfl
      rw [copyTurn]
      cases hext : isExtension b with
      | true =>
          rw [getUtf32FromUtf8, peek, List.headD_cons, if_pos hext]
          exact .inl rfl
      | false =>
          rw [getUtf32FromUtf8_cons hb hext]
          obtain ⟨-, -, -, -, -, hret⟩ := extend_spec (utf8SeqLength b.toNat - 1)
            (b.toNat &&& leaderMask (utf8SeqLength b.toNat)) s
          simp only
          generalize (extend (utf8SeqLength b.toNat - 1)
            (b.toNat &&& leaderMask (utf8SeqLength b.toNat)) s).1 = ret at hret ⊢
          by_cases hle : ret ≤ 0xffff
          · exact .inl (hsmall ret hle)
          · refine (hbig ret (by omega)).imp id fun htwo => ⟨htwo, ?_⟩
            -- three bytes give no more than sixteen bits
            by_contra hlt
            have hlead : b.toNat < 0xf0 := Nat.not_le.mp hlt
            rcases hret with rfl | hret
            · exact hle (by decide)
            · rw [and_leaderMask, utf8SeqLength_eq] at hret
              split_ifs at hret <;> omega

/-- The turn begins with a byte that announces four, and writes one unit all the same. -/
def short (t : UInt8 × List UInt16) : Bool := 0xf0 ≤ t.1.toNat && t.2.length == 1

/-- From the start of a turn on, the counting loop counts what the copying loop writes, and one more
for each short turn. -/
lemma strlen8to16Loop_turns {fuel : ℕ} {s : List UInt8} {l : List (UInt8 × List UInt16)}
    (h : whileLoop turn fuel s = some l) :
    ∀ len expected, AtTurn expected s → strlen8to16Loop len expected s =
      len + ((l.map Prod.snd).flatten.length + l.countP short) := by
  refine whileLoop_rel (R := fun s l => ∀ len expected, AtTurn expected s →
    strlen8to16Loop len expected s = len + ((l.map Prod.snd).flatten.length + l.countP short))
    ?_ ?_ h
  · intro s hstop len expected _
    have hzero : peek s = 0 := by
      by_contra hne
      rw [turn, if_neg hne] at hstop
      cases hstop
    cases s with
    | nil => rfl
    | cons b s =>
        obtain rfl : b = 0 := hzero
        rw [strlen8to16Loop, if_pos rfl]
        rfl
  · intro s t s' l hturn ih len expected hat
    have hzero : peek s ≠ 0 := by
      intro heq
      rw [turn, if_pos heq] at hturn
      cases hturn
    rw [turn, if_neg hzero] at hturn
    obtain ⟨rfl, rfl⟩ := Prod.mk.inj (Option.some.inj hturn)
    obtain ⟨expected', hat', hcount⟩ := strlen8to16Loop_turn hat hzero len
    have hone : counted (peek s) =
        (copyTurn s).1.length + (short (peek s, (copyTurn s).1)).toNat := by
      rw [counted, short]
      rcases copyTurn_units hzero with hlen | ⟨hlen, hlead⟩
      · rw [hlen]
        split_ifs with hlead
        · simp [hlead]
        · simp [hlead]
      · rw [hlen, if_pos hlead]
        simp
    rw [hcount, ih _ _ hat', hone, List.map_cons, List.flatten_cons, List.length_append,
      List.countP_cons]
    cases short (peek s, (copyTurn s).1) with
    | true =>
        simp only [Bool.toNat_true, if_true]
        omega
    | false =>
        simp only [Bool.toNat_false, Bool.false_eq_true, if_false]
        omega

/-- A turn takes a byte at least. -/
lemma copyTurn_lt {s : List UInt8} (hzero : peek s ≠ 0) : (copyTurn s).2.length < s.length := by
  cases s with
  | nil => exact absurd rfl hzero
  | cons b s =>
      have hb : b ≠ 0 := hzero
      rw [copyTurn]
      cases hext : isExtension b with
      | true =>
          rw [getUtf32FromUtf8, peek, List.headD_cons, if_pos hext]
          exact Nat.lt_succ_self _
      | false =>
          rw [getUtf32FromUtf8_cons hb hext]
          obtain ⟨pre, hs, -⟩ := extend_spec (utf8SeqLength b.toNat - 1)
            (b.toNat &&& leaderMask (utf8SeqLength b.toNat)) s
          have hall := congrArg List.length hs
          rw [List.length_append] at hall
          exact Nat.lt_succ_of_le (Nat.le_of_add_left_le hall.ge)

lemma turns_spec (s : List UInt8) : whileLoop turn (s.length + 1) s = some (turns s) := by
  have hends : ∃ l, whileLoop turn (s.length + 1) s = some l := by
    refine whileLoop_of_measure (I := fun _ => True) List.length (fun s t s' _ hturn => ?_) trivial
      (Nat.lt_succ_self _)
    have hzero : peek s ≠ 0 := by
      intro heq
      rw [turn, if_pos heq] at hturn
      cases hturn
    rw [turn, if_neg hzero] at hturn
    obtain ⟨-, rfl⟩ := Prod.mk.inj (Option.some.inj hturn)
    exact ⟨trivial, copyTurn_lt hzero⟩
  obtain ⟨l, hl⟩ := hends
  rw [turns, hl]
  rfl

lemma strcpy8to16_eq (s : List UInt8) : strcpy8to16 s = ((turns s).map Prod.snd).flatten := by
  have hnext : ∀ s, strcpy8to16Next s = (turn s).map (Prod.map Prod.snd id) := by
    intro s
    rw [strcpy8to16Next, turn]
    split_ifs
    · rfl
    · rfl
  rw [strcpy8to16, whileLoop_map hnext, turns_spec]
  rfl

/-- **The buffer.**  Whatever the bytes of the string are, `strcpy8to16` writes no more units than
`strlen8to16` has counted: it writes one less for each four-byte sequence that is cut short, that is
out of range or that is longer than it need be, and as many otherwise. -/
theorem strcpy8to16_fits (s : List UInt8) (hs : s.length ≤ 2 ^ 31) :
    strlen8to16 s = (strcpy8to16 s).length + (turns s).countP short := by
  have hat : AtTurn 0 s := by
    have hcast : (s.length : ℤ) ≤ 2 ^ 31 := by exact_mod_cast hs
    exact ⟨fun _ => le_rfl, by omega, by omega, hcast⟩
  rw [strlen8to16, strlen8to16Loop_turns (turns_spec s) 0 0 hat, Nat.zero_add, strcpy8to16_eq]

/-- A four-byte sequence that is cut short. -/
theorem strcpy8to16_fits_cut : strlen8to16 [0xf0, 0x9f, 0x61] =
    (strcpy8to16 [0xf0, 0x9f, 0x61]).length + (turns [0xf0, 0x9f, 0x61]).countP short :=
  strcpy8to16_fits _ (by decide)

/-- The count of a unit that has been written. -/
lemma strlen8to16Loop_encodeUnit (len : ℕ) (expected : ℤ) (unit : UInt16) (rest : List UInt8) :
    strlen8to16Loop len expected (encodeUnit unit ++ rest) = strlen8to16Loop (len + 1) 0 rest := by
  have hlt : unit.toNat < 2 ^ 16 := unit.toNat_lt
  have hext : ∀ low < 2 ^ 6, isExtension (.ofNat (0x80 + low)) = true := by
    intro low hlow
    rw [isExtension_iff, UInt8.toNat_ofNat_of_lt' (show 0x80 + low < 2 ^ 8 by omega)]
    omega
  -- a lead byte counts for one unit
  have hlead : ∀ n : ℕ, n < 0xf0 → n ≠ 0 → (n < 0x80 ∨ 0xc0 ≤ n) → ∀ s,
      strlen8to16Loop len expected (.ofNat n :: s) =
        strlen8to16Loop (len + 1) (if n < 0xc0 then 0 else if n < 0xe0 then 1 else 2) s := by
    intro n hn hzero hkind s
    have hbyte : (UInt8.ofNat n).toNat = n :=
      UInt8.toNat_ofNat_of_lt' (show n < 2 ^ 8 by omega)
    have hne : UInt8.ofNat n ≠ 0 := by
      intro heq
      rw [heq] at hbyte
      exact hzero hbyte.symm
    have hfalse : isExtension (.ofNat n) = false := by
      rw [← Bool.not_eq_true, isExtension_iff, hbyte]
      omega
    rw [strlen8to16Loop, if_neg hne, hfalse, if_neg Bool.false_ne_true, utf8SeqLength_eq, hbyte]
    simp only
    split_ifs <;> first | rfl | omega
  rw [encodeUnit]
  split_ifs with h3 h2
  · have hpre : ∀ b ∈ [UInt8.ofNat (0x80 + unit.toNat / 2 ^ 6 % 2 ^ 6),
        .ofNat (0x80 + unit.toNat % 2 ^ 6)], isExtension b = true :=
      List.forall_mem_cons.mpr
        ⟨hext _ (by omega), List.forall_mem_singleton.mpr (hext _ (by omega))⟩
    rw [List.cons_append, hlead _ (by omega) (by omega) (by omega), if_neg (by omega),
      if_neg (by omega)]
    exact (strlen8to16Loop_append hpre le_rfl (by simp) _ _).trans rfl
  · have hpre : ∀ b ∈ [UInt8.ofNat (0x80 + unit.toNat % 2 ^ 6)], isExtension b = true :=
      List.forall_mem_singleton.mpr (hext _ (by omega))
    rw [List.cons_append, hlead _ (by omega) (by omega) (by omega), if_neg (by omega),
      if_pos (by omega)]
    exact (strlen8to16Loop_append hpre le_rfl (by simp) _ _).trans rfl
  · rw [List.cons_append, hlead _ (by omega) (by omega) (by omega), if_pos (by omega)]
    rfl

lemma strlen8to16_strncpy16to8 (s : List UInt16) : strlen8to16 (strncpy16to8 s) = s.length := by
  have hloop : ∀ len : ℕ,
      strlen8to16Loop len 0 (s.flatMap encodeUnit ++ [0]) = len + s.length := by
    induction s with
    | nil => exact fun _ => rfl
    | cons unit s ih =>
        intro len
        rw [List.flatMap_cons, List.append_assoc, strlen8to16Loop_encodeUnit, ih, List.length_cons]
        omega
  rw [strlen8to16, strncpy16to8_eq, hloop, Nat.zero_add]

/-- **Round trip.**  What `strndup16to8` makes of a string, with zeros and unpaired surrogates in it
as they may be, is turned back by `strdup8to16` into the same string, in as much memory as it
takes. -/
theorem strdup8to16_strndup16to8 {w : ℕ} (malloc : ℕ → Bool) {s : List UInt16}
    (hs : 2 * s.length ≤ sizeMax w) {size : ℕ} {buf : List UInt8}
    (hbuf : strndup16to8 w malloc (some s) = some (size, buf)) :
    strdup8to16 w (some buf) = some (s.length, s) := by
  have hcopy : buf = strncpy16to8 s := by
    simp only [strndup16to8] at hbuf
    split_ifs at hbuf
    exact (Prod.mk.inj (Option.some.inj hbuf)).2.symm
  have hfits : ¬ (s.length ≠ 0 ∧ sizeMax w / s.length < 2) := by
    rintro ⟨hpos, hlt⟩
    rw [Nat.div_lt_iff_lt_mul (Nat.pos_of_ne_zero hpos)] at hlt
    omega
  rw [strdup8to16, hcopy, strlen8to16_strncpy16to8, strcpy8to16_strncpy16to8, if_neg hfits]

/-- A zero and half of a surrogate pair. -/
theorem strdup8to16_strndup16to8_zero :
    strdup8to16 32 (some [0xc0, 0x80, 0xed, 0xa0, 0x80, 0]) = some (2, [0x0, 0xd800]) :=
  @strdup8to16_strndup16to8 32 (fun _ => true) [0x0, 0xd800] (by decide) 6 _ (by decide)

/-! ## The loop that is given a length -/

/-- A turn moves on over bytes that are not zero. -/
lemma copyTurn_suffix {s : List UInt8} (hzero : peek s ≠ 0) :
    ∃ taken, s = taken ++ (copyTurn s).2 ∧ 0 ∉ taken := by
  cases s with
  | nil => exact absurd rfl hzero
  | cons b s =>
      have hb : b ≠ 0 := hzero
      rw [copyTurn]
      cases hext : isExtension b with
      | true =>
          rw [getUtf32FromUtf8, peek, List.headD_cons, if_pos hext]
          exact ⟨[b], rfl, by simpa using hb.symm⟩
      | false =>
          rw [getUtf32FromUtf8_cons hb hext]
          obtain ⟨pre, hs, hpre, -⟩ := extend_spec (utf8SeqLength b.toNat - 1)
            (b.toNat &&& leaderMask (utf8SeqLength b.toNat)) s
          refine ⟨b :: pre, congrArg _ hs, ?_⟩
          rw [List.mem_cons, not_or]
          exact ⟨hb.symm, fun hmem => Bool.false_ne_true (hpre 0 hmem)⟩

/-- A zero stands before the end. -/
def ZeroBefore (behind : ℤ) (s : List UInt8) : Prop :=
  ∃ i : ℕ, (i : ℤ) < s.length - behind ∧ s.getD i 0 = 0

/-- A turn moves on up to a zero at most. -/
lemma zeroBefore_copyTurn {behind : ℤ} {s : List UInt8} (hzero : peek s ≠ 0) :
    ZeroBefore behind (copyTurn s).2 ↔ ZeroBefore behind s := by
  obtain ⟨taken, hs, htaken⟩ := copyTurn_suffix hzero
  generalize (copyTurn s).2 = s' at hs ⊢
  subst hs
  rw [ZeroBefore, ZeroBefore, List.length_append]
  constructor
  · rintro ⟨i, hi, hget⟩
    refine ⟨taken.length + i, by omega, ?_⟩
    rw [List.getD_append_right _ _ _ _ (Nat.le_add_right _ _), Nat.add_sub_cancel_left]
    exact hget
  · rintro ⟨i, hi, hget⟩
    have hle : taken.length ≤ i := by
      by_contra hlt
      have hlt : i < taken.length := Nat.not_le.mp hlt
      rw [List.getD_append _ _ _ _ hlt, List.getD_eq_getElem _ _ hlt] at hget
      exact htaken (hget ▸ List.getElem_mem hlt)
    refine ⟨i - taken.length, by omega, ?_⟩
    rwa [List.getD_append_right _ _ _ _ hle] at hget

lemma copyTurn_of_zero {s : List UInt8} (hzero : peek s = 0) : (copyTurn s).2 = s := by
  rw [copyTurn, getUtf32FromUtf8, hzero, if_pos rfl]
  rfl

lemma zeroBefore_of_peek {behind : ℤ} {s : List UInt8} (hlt : behind < s.length)
    (hzero : peek s = 0) : ZeroBefore behind s := by
  refine ⟨0, by omega, ?_⟩
  rw [List.getD_eq_getElem?_getD, ← List.head?_eq_getElem?, ← List.headD_eq_head?_getD]
  exact hzero

/-- The loop goes on for ever from where a zero stands before the end, and ends otherwise. -/
lemma strcpylen8to16_loop (behind : ℤ) (s : List UInt8) :
    (∀ fuel, whileLoop (strcpylen8to16Next behind) fuel s = none) ↔ ZeroBefore behind s := by
  constructor
  · intro hnone
    by_contra hbefore
    have hends : ∃ l, whileLoop (strcpylen8to16Next behind) (s.length + 1) s = some l := by
      refine whileLoop_of_measure (I := fun s => ¬ ZeroBefore behind s) List.length
        (fun s units s' hbefore hturn => ?_) hbefore (Nat.lt_succ_self _)
      rw [strcpylen8to16Next] at hturn
      split_ifs at hturn with hlt
      obtain ⟨-, rfl⟩ := Prod.mk.inj (Option.some.inj hturn)
      have hzero : peek s ≠ 0 := fun heq => hbefore (zeroBefore_of_peek hlt heq)
      exact ⟨mt (zeroBefore_copyTurn hzero).mp hbefore, copyTurn_lt hzero⟩
    obtain ⟨l, hl⟩ := hends
    rw [hnone] at hl
    cases hl
  · refine fun hbefore => whileLoop_eq_none (I := ZeroBefore behind) (fun s hbefore => ?_) hbefore
    have hlt : behind < s.length := by
      obtain ⟨i, hi, -⟩ := hbefore
      omega
    refine ⟨(copyTurn s).1, (copyTurn s).2, by rw [strcpylen8to16Next, if_pos hlt], ?_⟩
    by_cases hzero : peek s = 0
    · rwa [copyTurn_of_zero hzero]
    · exact (zeroBefore_copyTurn hzero).mpr hbefore

/-- **`strcpylen8to16`.**  It never returns exactly when there is a zero among the `length` bytes
that it is given, where it stays for ever.  For a string with no zero in it that is given its
length, it does what `strcpy8to16` does. -/
theorem strcpylen8to16_spec (s : List UInt8) :
    (∀ length : ℤ, (∀ fuel, strcpylen8to16 fuel s length = none) ↔
        ∃ i : ℕ, (i : ℤ) < length ∧ s.getD i 0 = 0) ∧
      (0 ∉ s → strcpylen8to16 (s.length + 1) s s.length = some (strcpy8to16 s)) := by
  constructor
  · intro length
    have hbefore : (∃ i : ℕ, (i : ℤ) < length ∧ s.getD i 0 = 0) ↔
        ZeroBefore (s.length - length) s := by
      rw [ZeroBefore, sub_sub_cancel]
    simp only [strcpylen8to16, Option.map_eq_none_iff]
    rw [hbefore, strcpylen8to16_loop]
  · intro hzero
    have hsame : whileLoop (strcpylen8to16Next (s.length - s.length)) (s.length + 1) s =
        whileLoop strcpy8to16Next (s.length + 1) s := by
      refine whileLoop_congr (I := fun s => 0 ∉ s) (fun s hzero => ?_)
        (fun s units s' hzero hturn => ?_) hzero _
      · rw [strcpylen8to16Next, strcpy8to16Next, sub_self]
        cases s with
        | nil => rfl
        | cons b s =>
            have hb : peek (b :: s) ≠ 0 := fun heq => hzero (heq ▸ List.mem_cons_self)
            have hpos : (0 : ℤ) < (b :: s).length := Int.natCast_pos.mpr (Nat.succ_pos _)
            rw [if_neg hb, if_pos hpos]
      · rw [strcpylen8to16Next, sub_self] at hturn
        split_ifs at hturn with hlt
        obtain rfl : (copyTurn s).2 = s' := congrArg Prod.snd (Option.some.inj hturn)
        by_cases hpeek : peek s = 0
        · rwa [copyTurn_of_zero hpeek]
        · obtain ⟨taken, hs, -⟩ := copyTurn_suffix hpeek
          rw [hs, List.mem_append, not_or] at hzero
          exact hzero.2
    have hends : ∃ l, whileLoop strcpy8to16Next (s.length + 1) s = some l := by
      refine whileLoop_of_measure (I := fun _ => True) List.length
        (fun s units s' _ hturn => ?_) trivial (Nat.lt_succ_self _)
      rw [strcpy8to16Next] at hturn
      split_ifs at hturn with hpeek
      obtain ⟨-, rfl⟩ := Prod.mk.inj (Option.some.inj hturn)
      exact ⟨trivial, copyTurn_lt hpeek⟩
    obtain ⟨l, hl⟩ := hends
    rw [strcpylen8to16, hsame, strcpy8to16, hl]
    rfl

end Shims
end LocHal
