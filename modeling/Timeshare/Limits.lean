import Timeshare.Fault

/-!
# Limits: the levels a kernel may have and the quantum of each

A kernel has between 1 and 16 priority levels. A process of level l may execute 2 ^ l instructions each time it
is dispatched, so a less urgent process waits longer and runs longer. The quantum is a 32-bit word and stays at
the largest one for levels past 31.
-/

namespace Timeshare

/-- The number of levels where none is asked for: quanta 1, 2, 4 and 8. -/
def defaultLevels : UInt8 := 4

/-- The largest number of levels; the least urgent level then has a quantum of 2 ^ 15. -/
def maxLevels : UInt8 := 16

/-- The level of the process that a simulation starts with. -/
def initPriority : Priority := 0

/-- The program of the first process where none is asked for: some arithmetic, then five children, each with a
program of its own. -/
def initProgram : List String := [
  "S 1000", "A 19", "A 20", "D 53", "A 55", "F 1", "R file_a", "F 1", "R file_b", "F 1",
  "R file_c", "F 1", "R file_d", "F 1", "R file_e", "E"]

/-- The quantum of a level: 2 ^ level instructions for each dispatch, or the largest word past its width. -/
def quantum (level : Priority) : UInt32 :=
  if level.toNat < 32 then UInt32.ofNat (Nat.pow 2 level.toNat) else UInt32.ofNat (UInt32.size - 1)

/-- Whether a kernel may have this many levels. -/
def levelsInRange (levels : UInt8) : Bool := 1 ≤ levels && levels ≤ maxLevels

/-- Refuses a number of levels that no kernel may have. -/
def checkLevels (levels : UInt8) : Except Fault Unit :=
  if levelsInRange levels then .ok ()
  else .error (.invalidConfiguration s!"priority levels must be between 1 and {maxLevels}, got {levels}")

end Timeshare
