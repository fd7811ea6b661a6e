import Mathlib
import Timeshare.Text.Numeral

/-!
# What numerals say

A numeral is one or more decimal digits, which may have a sign in front. What it says is said here by the place values
of its digits (`Numeral.value`) and two relations, one for each kind of sign (`Numeral.Unsigned`, `Numeral.Signed`).
The readers give a text the integer that it says, and give it a word exactly if that integer fits
(`int64?_eq_some_iff`, `uint64?_eq_some_iff`). The decimal text of an integer is a numeral that says this integer
(`signedWord_repr`, `unsignedWord_repr`).
-/

namespace Timeshare.Numeral

/-- At least one character, and all of them digits from 0 to 9. -/
def Digits (cs : List Char) : Prop := cs ≠ [] ∧ ∀ c ∈ cs, c.isDigit = true

/-- The value of decimal digits, the last of which counts units. -/
def value (cs : List Char) : Nat := Nat.ofDigits 10 (cs.reverse.map fun c => c.toNat - '0'.toNat)

/-- The text is digits that say the number, after an optional plus sign. -/
inductive Unsigned : List Char → Nat → Prop where
  | digits {cs : List Char} (h : Digits cs) : Unsigned cs (value cs)
  | plus {cs : List Char} (h : Digits cs) : Unsigned ('+' :: cs) (value cs)

/-- The text is digits that say the integer, after an optional sign. -/
inductive Signed : List Char → Int → Prop where
  | unsigned {cs : List Char} {n : Nat} (h : Unsigned cs n) : Signed cs n
  | minus {cs : List Char} (h : Digits cs) : Signed ('-' :: cs) (-(value cs : Int))

/-- The text is a signed numeral, and the word is the integer that it says, from -2 ^ 63 on and below 2 ^ 63. -/
def SignedWord (cs : List Char) (v : Int64) : Prop :=
  ∃ n, Signed cs n ∧ -2 ^ 63 ≤ n ∧ n ≤ 2 ^ 63 - 1 ∧ Int64.ofInt n = v

/-- The text is an unsigned numeral, and the word is the number that it says, which is below 2 ^ 64. -/
def UnsignedWord (cs : List Char) (v : UInt64) : Prop := ∃ n, Unsigned cs n ∧ n < 2 ^ 64 ∧ UInt64.ofNat n = v

variable {cs : List Char}

/-! ## Digits -/

/-- No digits start with what is not a digit. -/
theorem not_digits_cons {c : Char} (hc : c.isDigit = false) (cs : List Char) : ¬Digits (c :: cs) := by
  intro h
  have hdigit := h.2 c List.mem_cons_self
  rw [hc] at hdigit
  cases hdigit

/-- The value read from left to right is that of the digits at their places. -/
theorem ofDigitChars_eq_value (cs : List Char) : Nat.ofDigitChars 10 cs 0 = value cs := by
  induction cs with
  | nil => rfl
  | cons c cs ih =>
    rw [Nat.ofDigitChars_cons, Nat.ofDigitChars_eq_ofDigitChars_zero, ih, value, value, List.reverse_cons,
      List.map_append, Nat.ofDigits_append, List.length_map, List.length_reverse, List.map_singleton,
      Nat.ofDigits_singleton, Nat.mul_zero, Nat.zero_add]
    exact Nat.add_comm _ _

/-- A run of digits is read as the number it says, and nothing else is read. -/
theorem digits?_eq_some_iff {n : Nat} : digits? cs = some n ↔ Digits cs ∧ n = value cs := by
  rw [digits?, Option.ite_none_right_eq_some, ofDigitChars_eq_value, List.all_eq_true, Option.some.injEq, Digits]
  exact and_congr_right fun _ => eq_comm

theorem digits_toDigits (n : Nat) : Digits (Nat.toDigits 10 n) ∧ value (Nat.toDigits 10 n) = n := by
  refine ⟨⟨Nat.toDigits_ne_nil, fun c hc => Nat.isDigit_of_mem_toDigits (by decide) (by decide) hc⟩, ?_⟩
  rw [← ofDigitChars_eq_value, Nat.ofDigitChars_ten_toDigits]

theorem exists_digit (n : Nat) : ∃ d ds, Nat.toDigits 10 n = d :: ds ∧ d.isDigit = true := by
  obtain ⟨d, ds, hdigits⟩ := List.exists_cons_of_ne_nil (digits_toDigits n).1.1
  exact ⟨d, ds, hdigits, (digits_toDigits n).1.2 d (by rw [hdigits]; exact List.mem_cons_self)⟩

/-! ## Signs -/

/-- An unsigned numeral is read as the number it says, and nothing else is read. -/
theorem unsigned?_eq_some_iff {n : Nat} : unsigned? cs = some n ↔ Unsigned cs n := by
  have hplus : ¬Digits ('+' :: cs.tail) := not_digits_cons (by decide) _
  unfold unsigned?
  split
  · rw [digits?_eq_some_iff]
    constructor
    · rintro ⟨h, rfl⟩
      exact .plus h
    · intro h
      cases h with
      | digits h => exact absurd h hplus
      | plus h => exact ⟨h, rfl⟩
  · rename_i hne
    rw [digits?_eq_some_iff]
    constructor
    · rintro ⟨h, rfl⟩
      exact .digits h
    · intro h
      cases h with
      | digits h => exact ⟨h, rfl⟩
      | plus h => exact absurd rfl (hne _)

/-- A signed numeral is read as the integer it says, and nothing else is read. -/
theorem signed?_eq_some_iff {n : Int} : signed? cs = some n ↔ Signed cs n := by
  unfold signed?
  split
  · rename_i cs
    have hminus : ∀ n, ¬Unsigned ('-' :: cs) n := by
      intro n h
      cases h with
      | digits h => exact not_digits_cons (by decide) cs h
    simp only [Option.map_eq_some_iff, Option.bind_eq_bind, Option.bind_eq_some_iff, Option.pure_def,
      digits?_eq_some_iff]
    constructor
    · rintro ⟨_, ⟨_, ⟨h, rfl⟩, ⟨⟩⟩, rfl⟩
      exact .minus h
    · intro h
      cases h with
      | unsigned h => exact absurd h (hminus _)
      | minus h => exact ⟨_, ⟨_, ⟨h, rfl⟩, rfl⟩, rfl⟩
  · rename_i hne
    simp only [Option.map_eq_some_iff, Option.bind_eq_bind, Option.bind_eq_some_iff, Option.pure_def,
      unsigned?_eq_some_iff]
    constructor
    · rintro ⟨_, ⟨_, h, ⟨⟩⟩, rfl⟩
      exact .unsigned h
    · intro h
      cases h with
      | unsigned h => exact ⟨_, ⟨_, h, rfl⟩, rfl⟩
      | minus h => exact absurd rfl (hne _)

/-- The decimal text of an integer is a numeral that says it. -/
theorem signed_repr (n : Int) : Signed n.repr.toList n := by
  cases n with
  | ofNat n =>
    obtain ⟨hdigits, hvalue⟩ := digits_toDigits n
    have h := Signed.unsigned (.digits hdigits)
    rw [hvalue] at h
    simpa [Int.repr] using h
  | negSucc n =>
    obtain ⟨hdigits, hvalue⟩ := digits_toDigits (n + 1)
    have h := Signed.minus hdigits
    rw [hvalue] at h
    simpa [Int.repr, Int.negSucc_eq] using h

/-- The decimal text of a number is a numeral that says it. -/
theorem unsigned_repr (n : Nat) : Unsigned n.repr.toList n := by
  obtain ⟨hdigits, hvalue⟩ := digits_toDigits n
  have h := Unsigned.digits hdigits
  rw [hvalue] at h
  simpa using h

/-! ## Words -/

/-- A signed numeral is read as a word exactly if the integer that it says fits. -/
theorem int64?_eq_some_iff {v : Int64} : int64? cs = some v ↔ SignedWord cs v := by
  have hmin : Int64.minValue.toInt = -2 ^ 63 := rfl
  have hmax : Int64.maxValue.toInt = 2 ^ 63 - 1 := rfl
  simp only [int64?, Option.bind_eq_some_iff, signed?_eq_some_iff, Word.int64?, Option.ite_none_right_eq_some, hmin,
    hmax, Option.some.injEq, and_assoc, SignedWord]

/-- An unsigned numeral is read as a word exactly if the number that it says fits. -/
theorem uint64?_eq_some_iff {v : UInt64} : uint64? cs = some v ↔ UnsignedWord cs v := by
  have hsize : UInt64.size = 2 ^ 64 := rfl
  simp only [uint64?, Option.bind_eq_some_iff, unsigned?_eq_some_iff, Word.uint64?, Option.ite_none_right_eq_some,
    hsize, Option.some.injEq, Int.natCast_nonneg, true_and, Int.toNat_natCast, UnsignedWord]

theorem signedWord_repr (v : Int64) : SignedWord v.toInt.repr.toList v := by
  have hlt := v.toInt_lt
  exact ⟨v.toInt, signed_repr _, v.le_toInt, by omega, Int64.ofInt_toInt v⟩

theorem unsignedWord_repr (v : UInt64) : UnsignedWord v.toNat.repr.toList v :=
  ⟨v.toNat, unsigned_repr _, v.toNat_lt, UInt64.ofNat_toNat⟩

end Timeshare.Numeral
