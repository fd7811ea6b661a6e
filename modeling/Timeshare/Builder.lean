import Timeshare.Kernel.Basic
import Timeshare.Settings
import Timeshare.Source.Directory

/-!
# Builders

A simulation is built of a number of levels and a source of programs, both of which may be left open: there are
then four levels, and no programs. A number of levels that no kernel may have is refused when the simulation is
built. A builder that is known to be in range is built unchecked, with its levels clamped to the range.
-/

namespace Timeshare

/-- The levels cut to the numbers that a kernel may have. -/
def clampLevels (levels : UInt8) : UInt8 :=
  if levels < 1 then 1 else if maxLevels < levels then maxLevels else levels

/-- Levels in range are not clamped. -/
theorem clampLevels_eq_self {levels : UInt8} (h : levelsInRange levels = true) : clampLevels levels = levels := by
  simp only [levelsInRange, Bool.and_eq_true, decide_eq_true_eq] at h
  rw [clampLevels, if_neg (UInt8.not_lt.mpr h.1), if_neg (UInt8.not_lt.mpr h.2)]

/-- What a simulation is to be built of. -/
structure Builder where
  levels : UInt8 := defaultLevels
  /-- Where programs come from; without one there are none. -/
  source : Option Source := none

namespace Builder

variable {C : Type}

/-- Takes the levels and the directory of programs from settings. -/
def withSettings (read : String → Except ReadFault ByteArray) (settings : Settings) (b : Builder) : Builder :=
  { b with levels := settings.levels, source := some (Source.directory read settings.programDir) }

/-- Asks for so many levels. -/
def withLevels (levels : UInt8) (b : Builder) : Builder := { b with levels := levels }

/-- Asks for this source. -/
def withSource (source : Source) (b : Builder) : Builder := { b with source := some source }

/-- The kernel and the source of a builder, with the levels clamped. -/
def buildUnchecked (b : Builder) : Kernel C × Source :=
  (Kernel.empty (clampLevels b.levels), b.source.getD Source.empty)

/-- The kernel and the source of a builder, where a kernel may have so many levels. -/
def build (b : Builder) : Except Fault (Kernel C × Source) :=
  (checkLevels b.levels).map fun _ => b.buildUnchecked

/-- A builder boots a kernel of its levels, and gives it its source. -/
theorem build_eq (b : Builder) :
    (b.build : Except Fault (Kernel C × Source)) = (Kernel.boot b.levels).map fun k =>
      (k, b.source.getD Source.empty) := by
  rw [build, Kernel.boot, checkLevels]
  split
  · rw [buildUnchecked, clampLevels_eq_self ‹_›]
    rfl
  · rfl

end Builder

end Timeshare
