import Mathlib.Data.UInt
import Mathlib.Data.Nat.Bitwise
import Mathlib.Algebra.Ring.Nat

/-!
# From UTF-16 to modified UTF-8 (`libshims/strdup16to8.cpp`)

Each 16-bit unit is encoded by itself in one to three bytes, and the unit zero in two, so that the
result has no NUL in it and can be terminated by one.  `strnlen16to8` counts the bytes beforehand,
by a loop that need not look at overflows when there are few units, and by one that does.

`size_t` has `w` bits.
-/

namespace LocHal
namespace Shims

/-- `SIZE_MAX`. -/
def sizeMax (w : ℕ) : ℕ := 2 ^ w - 1

/-- The bytes that both loops of `strnlen16to8` count for a unit. -/
def utf8Count (uic : ℕ) : ℕ :=
  if 0x07ff < uic then 3
  else if 0x7f < uic ∨ uic = 0 then 2
  else 1

/-- The fast loop of `strnlen16to8`. -/
def strnlen16to8Fast (w : ℕ) (utf8Len : ℕ) : List UInt16 → ℕ
  | [] => utf8Len
  | uic :: utf16Str =>
      strnlen16to8Fast w ((utf8Len + utf8Count uic.toNat) % 2 ^ w) utf16Str

/-- The paranoid loop of `strnlen16to8`, and what follows it. -/
def strnlen16to8Slow (w : ℕ) (utf8Len : ℕ) : List UInt16 → ℕ
  -- don't return `SIZE_MAX` to avoid common user bug
  | [] => if utf8Len = sizeMax w then sizeMax w - 1 else utf8Len
  | uic :: utf16Str =>
      let utf8Cur := utf8Len
      let utf8Len := (utf8Len + utf8Count uic.toNat) % 2 ^ w
      if utf8Len < utf8Cur then sizeMax w - 1 else strnlen16to8Slow w utf8Len utf16Str

/-- `strnlen16to8`, for a string of `len` units. -/
def strnlen16to8 (w : ℕ) (utf16Str : List UInt16) : ℕ :=
  if utf16Str.length < (sizeMax w - 1) / 3 then strnlen16to8Fast w 0 utf16Str
  else strnlen16to8Slow w 0 utf16Str

/-- `strncpy16to8`: the bytes that it writes. -/
def strncpy16to8 : List UInt16 → List UInt8
  | [] => [0]
  | unit :: utf16Str =>
      let uic := unit.toNat
      if 0x07ff < uic then
        .ofNat (uic >>> 12 ||| 0xe0) :: .ofNat (uic >>> 6 &&& 0x3f ||| 0x80) ::
          .ofNat (uic &&& 0x3f ||| 0x80) :: strncpy16to8 utf16Str
      else if 0x7f < uic ∨ uic = 0 then
        .ofNat (uic >>> 6 ||| 0xc0) :: .ofNat (uic &&& 0x3f ||| 0x80) :: strncpy16to8 utf16Str
      else .ofNat uic :: if uic = 0 then [0] else strncpy16to8 utf16Str

/-- `strndup16to8`, where `malloc` says whether there is memory for so many bytes: the number of
bytes that it allocates and the bytes that it writes into them. -/
def strndup16to8 (w : ℕ) (malloc : ℕ → Bool) (s : Option (List UInt16)) :
    Option (ℕ × List UInt8) :=
  match s with
  | none => none
  | some s =>
      let len := strnlen16to8 w s
      if sizeMax w - 1 ≤ len then none
      else if malloc (len + 1) then some (len + 1, strncpy16to8 s) else none

/-! ## The encoding of a unit -/

/-- The bytes of a unit. -/
def encodeUnit (unit : UInt16) : List UInt8 :=
  if 0x07ff < unit.toNat then
    [.ofNat (0xe0 + unit.toNat / 2 ^ 12), .ofNat (0x80 + unit.toNat / 2 ^ 6 % 2 ^ 6),
      .ofNat (0x80 + unit.toNat % 2 ^ 6)]
  else if 0x7f < unit.toNat ∨ unit.toNat = 0 then
    [.ofNat (0xc0 + unit.toNat / 2 ^ 6), .ofNat (0x80 + unit.toNat % 2 ^ 6)]
  else [.ofNat unit.toNat]

/-- The bits of a number below the ones of a mask. -/
lemma lor_eq_add {n a i : ℕ} (h : n < 2 ^ i) : n ||| 2 ^ i * a = 2 ^ i * a + n := by
  rw [Nat.lor_comm, Nat.two_pow_add_eq_or_of_lt h]

lemma and_low (n : ℕ) : n &&& 0x3f = n % 2 ^ 6 := Nat.and_two_pow_sub_one_eq_mod n 6

/-- **Encoding.**  What is written is the encoding of the units and the terminating NUL. -/
lemma strncpy16to8_eq (s : List UInt16) : strncpy16to8 s = s.flatMap encodeUnit ++ [0] := by
  induction s with
  | nil => rfl
  | cons unit s ih =>
      have hlt : unit.toNat < 2 ^ 16 := unit.toNat_lt
      have hcont : ∀ n : ℕ, n % 2 ^ 6 ||| 0x80 = 0x80 + n % 2 ^ 6 := fun n =>
        lor_eq_add (i := 7) (a := 1) (lt_of_lt_of_le (Nat.mod_lt _ (by decide)) (by decide))
      rw [strncpy16to8, List.flatMap_cons, encodeUnit]
      simp only [and_low, Nat.shiftRight_eq_div_pow, hcont, ih]
      split_ifs with h3 h2 h0
      · have hlead : unit.toNat / 2 ^ 12 ||| 0xe0 = 0xe0 + unit.toNat / 2 ^ 12 :=
          lor_eq_add (i := 5) (a := 7) (by omega)
        rw [hlead]
        rfl
      · have hlead : unit.toNat / 2 ^ 6 ||| 0xc0 = 0xc0 + unit.toNat / 2 ^ 6 :=
          lor_eq_add (i := 6) (a := 3) (by omega)
        rw [hlead]
        rfl
      · exact absurd (.inr h0) h2
      · rfl

lemma length_encodeUnit (unit : UInt16) : (encodeUnit unit).length = utf8Count unit.toNat := by
  rw [encodeUnit, utf8Count]
  split_ifs <;> rfl

lemma utf8Count_le (uic : ℕ) : 1 ≤ utf8Count uic ∧ utf8Count uic ≤ 3 := by
  rw [utf8Count]
  split_ifs <;> decide

lemma zero_not_mem_encodeUnit (unit : UInt16) : 0 ∉ encodeUnit unit := by
  have hne : ∀ n : ℕ, n < 2 ^ 8 → n ≠ 0 → (0 : UInt8) ≠ .ofNat n := by
    intro n hn hzero heq
    have htoNat := congrArg UInt8.toNat heq
    rw [UInt8.toNat_ofNat_of_lt' hn] at htoNat
    exact hzero htoNat.symm
  have hlt : unit.toNat < 2 ^ 16 := unit.toNat_lt
  rw [encodeUnit]
  split_ifs with h3 h2
  · rw [List.mem_cons, List.mem_cons, List.mem_singleton, not_or, not_or]
    exact ⟨hne _ (by omega) (by omega), hne _ (by omega) (by omega), hne _ (by omega) (by omega)⟩
  · rw [List.mem_cons, List.mem_singleton, not_or]
    exact ⟨hne _ (by omega) (by omega), hne _ (by omega) (by omega)⟩
  · rw [List.mem_singleton]
    exact hne _ (by omega) (by omega)

/-! ## The length of the encoding -/

lemma length_flatMap_encodeUnit_cons (unit : UInt16) (s : List UInt16) :
    ((unit :: s).flatMap encodeUnit).length =
      utf8Count unit.toNat + (s.flatMap encodeUnit).length := by
  rw [List.flatMap_cons, List.length_append, length_encodeUnit]

lemma length_flatMap_encodeUnit_le (s : List UInt16) :
    (s.flatMap encodeUnit).length ≤ 3 * s.length := by
  induction s with
  | nil => exact Nat.le_refl _
  | cons unit s ih =>
      have hcount := (utf8Count_le unit.toNat).2
      rw [length_flatMap_encodeUnit_cons, List.length_cons]
      omega

/-- The fast loop counts right as long as the count fits. -/
lemma strnlen16to8Fast_eq {w n : ℕ} (s : List UInt16)
    (h : n + (s.flatMap encodeUnit).length < 2 ^ w) :
    strnlen16to8Fast w n s = n + (s.flatMap encodeUnit).length := by
  induction s generalizing n with
  | nil => rfl
  | cons unit s ih =>
      rw [length_flatMap_encodeUnit_cons, ← Nat.add_assoc] at h ⊢
      rw [strnlen16to8Fast, Nat.mod_eq_of_lt (Nat.lt_of_le_of_lt (Nat.le_add_right _ _) h), ih h]

/-- The paranoid loop counts right, or notices that the count does not fit. -/
lemma strnlen16to8Slow_eq {w n : ℕ} (hw : 2 ≤ w) (hn : n < 2 ^ w) (s : List UInt16) :
    strnlen16to8Slow w n s = min (n + (s.flatMap encodeUnit).length) (sizeMax w - 1) := by
  have hpow : 2 ^ 2 ≤ 2 ^ w := Nat.pow_le_pow_right (by decide) hw
  have hmax : sizeMax w = 2 ^ w - 1 := rfl
  induction s generalizing n with
  | nil =>
      rw [strnlen16to8Slow, List.flatMap_nil, List.length_nil]
      split_ifs <;> omega
  | cons unit s ih =>
      obtain ⟨hpos, hcount⟩ := utf8Count_le unit.toNat
      rw [strnlen16to8Slow, length_flatMap_encodeUnit_cons, ← Nat.add_assoc]
      by_cases hfits : n + utf8Count unit.toNat < 2 ^ w
      · rw [Nat.mod_eq_of_lt hfits, if_neg (by omega), ih hfits]
      · -- the sum wraps to something less than three
        have hwrap : (n + utf8Count unit.toNat) % 2 ^ w = n + utf8Count unit.toNat - 2 ^ w := by
          rw [Nat.mod_eq_sub_mod (Nat.not_lt.mp hfits), Nat.mod_eq_of_lt (by omega)]
        rw [hwrap, if_pos (by omega)]
        omega

/-- **The length.**  Both loops of `strnlen16to8` give the length of the encoding, or `SIZE_MAX - 1`
when it is more than that. -/
lemma strnlen16to8_eq {w : ℕ} (hw : 2 ≤ w) (s : List UInt16) :
    strnlen16to8 w s = min (s.flatMap encodeUnit).length (sizeMax w - 1) := by
  have hpow : 2 ^ 2 ≤ 2 ^ w := Nat.pow_le_pow_right (by decide) hw
  have hmax : sizeMax w = 2 ^ w - 1 := rfl
  rw [strnlen16to8]
  split_ifs with hfast
  · have hle := length_flatMap_encodeUnit_le s
    rw [strnlen16to8Fast_eq s (by omega), Nat.zero_add]
    omega
  · rw [strnlen16to8Slow_eq hw (by omega) s, Nat.zero_add]

/-- **`strndup16to8`.**  It fails exactly when the encoding and its NUL come to `SIZE_MAX` bytes or
more, or there is no memory for them.  Otherwise it fills what it has allocated to the last byte,
and the only NUL in it is the one at the end. -/
theorem strndup16to8_spec {w : ℕ} (hw : 2 ≤ w) (malloc : ℕ → Bool) (s : List UInt16) :
    (strndup16to8 w malloc (some s) = none ↔
        sizeMax w ≤ (s.flatMap encodeUnit).length + 1 ∨
          malloc ((s.flatMap encodeUnit).length + 1) = false) ∧
      ∀ size buf, strndup16to8 w malloc (some s) = some (size, buf) →
        buf.length = size ∧ buf = s.flatMap encodeUnit ++ [0] ∧ 0 ∉ s.flatMap encodeUnit := by
  have hpow : 2 ^ 2 ≤ 2 ^ w := Nat.pow_le_pow_right (by decide) hw
  have hmax : sizeMax w = 2 ^ w - 1 := rfl
  have hzero : 0 ∉ s.flatMap encodeUnit := by
    rw [List.mem_flatMap]
    rintro ⟨unit, -, hmem⟩
    exact zero_not_mem_encodeUnit unit hmem
  simp only [strndup16to8, strnlen16to8_eq hw s, strncpy16to8_eq s]
  generalize s.flatMap encodeUnit = body at hzero ⊢
  by_cases hlen : sizeMax w - 1 ≤ body.length
  · rw [if_pos (by omega)]
    exact ⟨iff_of_true rfl (.inl (by omega)), nofun⟩
  · have hmin : min body.length (sizeMax w - 1) = body.length := by omega
    rw [if_neg (by omega), hmin]
    cases hmalloc : malloc (body.length + 1) with
    | true =>
        refine ⟨iff_of_false nofun ?_, ?_⟩
        · rintro (hle | hfalse)
          · omega
          · cases hfalse
        · rintro size buf hsome
          obtain ⟨rfl, rfl⟩ := Prod.mk.inj (Option.some.inj hsome)
          exact ⟨by rw [List.length_append, List.length_singleton], rfl, hzero⟩
    | false => exact ⟨iff_of_true rfl (.inr rfl), nofun⟩

/-- Three units, one of each length, with a `size_t` of 64 bits. -/
theorem strndup16to8_spec_three :
    (strndup16to8 64 (fun _ => true) (some [0x61, 0x0, 0x20ac]) = none ↔
        sizeMax 64 ≤ ([0x61, 0x0, 0x20ac].flatMap encodeUnit).length + 1 ∨ true = false) ∧
      ∀ size buf, strndup16to8 64 (fun _ => true) (some [0x61, 0x0, 0x20ac]) = some (size, buf) →
        buf.length = size ∧ buf = [0x61, 0x0, 0x20ac].flatMap encodeUnit ++ [0] ∧
          0 ∉ [0x61, 0x0, 0x20ac].flatMap encodeUnit :=
  strndup16to8_spec (by decide) (fun _ => true) [0x61, 0x0, 0x20ac]

end Shims
end LocHal
