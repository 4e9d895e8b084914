import LocHal.Lib.Tokens
import Mathlib.Data.List.Basic

/-!
# The fields of a debug sentence (`gps/core/SystemStatus.cpp`, `gps/utils/loc_nmea.h`)

`SystemStatusNmeaBase` overwrites the marker of the checksum with a comma and then cuts the text at
commas until there is none left.  Nothing in the loop knows where the marker was: the fields end
there because a checksum has no comma.
-/

namespace LocHal
namespace SystemStatus

/-- `DEBUG_NMEA_MINSIZE`. -/
def debugNmeaMinsize : ℕ := 6

/-- `DEBUG_NMEA_MAXSIZE`. -/
def debugNmeaMaxsize : ℕ := 4096

/-- `loc_nmea_is_debug`, for a pointer that is not null; the `uint32_t` of its callers arrives as
an `int`. -/
def locNmeaIsDebug (nmea : List Char) (length : BitVec 32) : Bool :=
  decide ((debugNmeaMinsize : ℤ) ≤ length.toInt) &&
    decide (length.toInt ≤ (debugNmeaMaxsize : ℤ)) && nmea.take 4 == ['$', 'P', 'Q', 'W']

/-- The `mField` that the constructor of `SystemStatusNmeaBase` leaves. -/
def mField (str_in : List Char) (len_in : BitVec 32) : List (List Char) :=
  if locNmeaIsDebug str_in len_in then
    if '*' ∈ str_in then cutAll ',' (str_in.set (str_in.idxOf '*') ',') else []
  else []

variable {str before after : List Char} {len : BitVec 32}

lemma mField_of_notMem (h : '*' ∉ str) : mField str len = [] := by
  rw [mField, if_neg h]
  split
  · rfl
  · rfl

/-- The fields are the pieces before the marker, and those behind it that end with a comma. -/
lemma mField_of_star (hdebug : locNmeaIsDebug (before ++ '*' :: after) len = true)
    (hbefore : '*' ∉ before) :
    mField (before ++ '*' :: after) len = before.splitOn ',' ++ cutAll ',' after := by
  have hidx : (before ++ '*' :: after).idxOf '*' = before.length := by
    rw [List.idxOf_append_of_notMem hbefore, List.idxOf_cons_self, Nat.add_zero]
  have hset : (before ++ '*' :: after).set before.length ',' = before ++ ',' :: after := by
    rw [List.set_append_right _ _ (Nat.le_refl _), Nat.sub_self, List.set_cons_zero]
  rw [mField, if_pos hdebug, if_pos (List.mem_append_right _ List.mem_cons_self), hidx, hset,
    cutAll_append_cons]

/-- **The tokenizer.**  Without a marker there are no fields; with one, the fields are exactly the
pieces between commas before it if and only if no comma stands behind it. -/
theorem mField_eq_iff (str : List Char) (len : BitVec 32) (hdebug : locNmeaIsDebug str len = true) :
    ('*' ∉ str → mField str len = []) ∧
      ∀ before after, str = before ++ '*' :: after → '*' ∉ before →
        (mField str len = before.splitOn ',' ↔ ',' ∉ after) := by
  refine ⟨mField_of_notMem, ?_⟩
  rintro before after rfl hbefore
  rw [mField_of_star hdebug hbefore, List.append_right_eq_self]
  exact cutAll_eq_nil_iff

/-- The sentence `$PQWP6,1*5A` has its two fields. -/
theorem mField_of_sentence :
    mField ("$PQWP6,1".toList ++ '*' :: "5A".toList) 11 = "$PQWP6,1".toList.splitOn ',' :=
  ((mField_eq_iff _ 11 (by decide)).2 "$PQWP6,1".toList "5A".toList rfl (by decide)).2 (by decide)

/-- Behind the marker of `$PQWP6,1*5A,9` the piece `5A` becomes a field. -/
theorem field_behind_star :
    locNmeaIsDebug ("$PQWP6,1".toList ++ '*' :: "5A,9".toList) 13 = true ∧
      mField ("$PQWP6,1".toList ++ '*' :: "5A,9".toList) 13 ≠ "$PQWP6,1".toList.splitOn ',' := by
  have hdebug : locNmeaIsDebug ("$PQWP6,1".toList ++ '*' :: "5A,9".toList) 13 = true := by decide
  refine ⟨hdebug, ?_⟩
  rw [mField_of_star hdebug (by decide), ne_eq, List.append_right_eq_self, cutAll_eq_nil_iff]
  decide

end SystemStatus
end LocHal
