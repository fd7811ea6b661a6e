import Timeshare.Kernel.Step

/-!
# Operations: what callers may ask of a kernel

A run of a kernel is a list of operations performed one after the other, whatever each of them answers. Here
operations and their answers are values, so that a statement about every run is a statement about every list.
-/

namespace Timeshare

/-- What a caller may ask of a kernel. -/
inductive Operation where
  /-- Make a process from lines. -/
  | create (priority : Priority) (lines : List String)
  /-- Make a process from the program of this name. -/
  | createFrom (priority : Priority) (name : String)
  /-- Make a process from a program. -/
  | createParsed (priority : Priority) (program : Program)
  /-- Execute one instruction. -/
  | step
  /-- Charge what was executed and fill the slot. -/
  | reschedule
  /-- Wake the process that has been blocked the longest. -/
  | wake
  /-- Advance the clock. -/
  | advanceClock
  deriving DecidableEq, Repr

/-- The answer to an operation. -/
inductive Answer where
  /-- The process that was made. -/
  | created (pid : Pid)
  /-- What the step did. -/
  | stepped (outcome : StepOutcome)
  /-- The process that is in the slot. -/
  | scheduled (running : Option Pid)
  /-- The process that was woken. -/
  | woken (pid : Option Pid)
  /-- The new time. -/
  | advanced (time : Time)
  deriving DecidableEq, Repr

namespace Operation

/-- Performs an operation on a kernel whose programs come from the source. -/
def perform {C : Type} [Machine C] (source : Source) : Operation → Action C Answer
  | create priority lines => .created <$> Kernel.create priority lines
  | createFrom priority name => .created <$> Kernel.createFrom source priority name
  | createParsed priority program => .created <$> Kernel.createParsed priority program
  | step => .stepped <$> Kernel.step source
  | reschedule => .scheduled <$> Kernel.reschedule
  | wake => .woken <$> Kernel.wake
  | advanceClock => .advanced <$> Kernel.advanceClock

/-- What an operation that makes a process asks for: the level, and the program or why there is none. -/
def making? (source : Source) : Operation → Option (Priority × Except Fault Program)
  | create priority lines => some (priority, Program.parse lines)
  | createFrom priority name =>
    match source name with
    | .ok lines => some (priority, Program.parse lines)
    | .error fault => some (priority, .error (Kernel.unavailable name fault))
  | createParsed priority program => some (priority, .ok program)
  | _ => none

end Operation

end Timeshare
