/-!
# Words: the fixed-width integers of the simulated machine

Process numbers, priorities, counters and accumulators are words of fixed width, and their arithmetic wraps. An
integer becomes a word only where it fits (`Word.uint8?` and its kin): reading a numeral or a record never
wraps.
-/

namespace Timeshare

/-- A process number. -/
abbrev Pid := UInt32

/-- A priority level; 0 is the most urgent. -/
abbrev Priority := UInt8

/-- A time on the simulated clock, in ticks since the start. -/
abbrev Time := UInt64

/-- The contents of an accumulator. -/
abbrev Word := Int64

namespace Word

/-- The byte of this value, where it fits. -/
def uint8? (v : Int) : Option UInt8 :=
  if 0 ≤ v ∧ v.toNat < UInt8.size then some (UInt8.ofNat v.toNat) else none

/-- The unsigned 32-bit word of this value, where it fits. -/
def uint32? (v : Int) : Option UInt32 :=
  if 0 ≤ v ∧ v.toNat < UInt32.size then some (UInt32.ofNat v.toNat) else none

/-- The unsigned 64-bit word of this value, where it fits. -/
def uint64? (v : Int) : Option UInt64 :=
  if 0 ≤ v ∧ v.toNat < UInt64.size then some (UInt64.ofNat v.toNat) else none

/-- The signed 64-bit word of this value, where it fits. -/
def int64? (v : Int) : Option Int64 :=
  if Int64.minValue.toInt ≤ v ∧ v ≤ Int64.maxValue.toInt then some (Int64.ofInt v) else none

/-- The sum of two unsigned words, or the largest word where the sum does not fit. -/
def addSaturating (a b : UInt64) : UInt64 :=
  if a.toNat + b.toNat < UInt64.size then a + b else UInt64.ofNat (UInt64.size - 1)

/-- The saturated sum is the sum, cut at the largest word. -/
theorem toNat_addSaturating (a b : UInt64) :
    (addSaturating a b).toNat = min (a.toNat + b.toNat) (UInt64.size - 1) := by
  unfold addSaturating
  split
  · rename_i h
    rw [Nat.min_eq_left (by omega), UInt64.toNat_add]
    exact Nat.mod_eq_of_lt h
  · rename_i h
    rw [Nat.min_eq_right (by omega)]
    rfl

end Word

end Timeshare
