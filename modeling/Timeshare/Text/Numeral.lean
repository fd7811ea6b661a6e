import Timeshare.Word

/-!
# Numerals: decimal texts of bounded integers

A numeral is one or more of the digits 0 to 9 after an optional sign. A numeral of a signed word may have either
sign, one of an unsigned word only a plus sign, so `-0` is no unsigned numeral. Leading zeros are allowed in any
number. A numeral whose value does not fit the word is refused like one that is no numeral at all.
-/

namespace Timeshare.Numeral

/-- The value of a run of digits; none if it is empty or holds anything but the digits 0 to 9. -/
def digits? (cs : List Char) : Option Nat :=
  if cs ≠ [] ∧ cs.all Char.isDigit then some (Nat.ofDigitChars 10 cs 0) else none

/-- The value of digits after an optional plus sign. -/
def unsigned? : List Char → Option Nat
  | '+' :: cs => digits? cs
  | cs => digits? cs

/-- The value of digits after an optional sign. -/
def signed? : List Char → Option Int
  | '-' :: cs => (digits? cs).map (fun n => -(n : Int))
  | cs => (unsigned? cs).map (fun n => (n : Int))

/-- The signed 64-bit word that the text is a numeral of. -/
def int64? (cs : List Char) : Option Int64 := (signed? cs).bind Word.int64?

/-- The unsigned 64-bit word that the text is a numeral of. -/
def uint64? (cs : List Char) : Option UInt64 := (unsigned? cs).bind (fun n => Word.uint64? n)

/-- The byte that the text is a numeral of. -/
def uint8? (cs : List Char) : Option UInt8 := (unsigned? cs).bind (fun n => Word.uint8? n)

end Timeshare.Numeral
