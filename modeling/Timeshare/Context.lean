import Timeshare.Instruction

/-!
# Contexts: what a process computes on

A machine is a kind of context together with what instructions do to it. The kernel is written for any machine,
so it cannot look at what its processes compute. `Context` is the machine of words: its accumulator wraps, its
place in the program is a word that moves on by wrapping addition and skips by saturating addition, so a fork
that skips too far goes past the end of any program and not to its start.
-/

namespace Timeshare

/-- What instructions do to contexts of the type. -/
class Machine (C : Type) where
  /-- The context of a process that starts a program. -/
  start : Program → C
  /-- The next instruction; none past the last one. -/
  next? : C → Option Instruction
  /-- The context one instruction further on. -/
  advance : C → C
  /-- The context past so many more instructions than one. -/
  skip : UInt64 → C → C
  /-- The context with this accumulator. -/
  setTo : Word → C → C
  /-- The context with this much more in the accumulator. -/
  add : Word → C → C
  /-- The context with this much less in the accumulator. -/
  sub : Word → C → C
  /-- The context at the start of another program. -/
  load : Program → C → C

/-- A program, a place in it and an accumulator, which are words. -/
structure Context where
  program : Program
  programCounter : UInt64 := 0
  accumulator : Word := 0
  deriving DecidableEq, Repr

namespace Context

/-- Whether the place is past the last instruction. -/
def exhausted (c : Context) : Bool := c.program.length ≤ c.programCounter.toNat

/-- The instruction at the place; none if the place is past the last one. -/
def next? (c : Context) : Option Instruction := c.program[c.programCounter.toNat]?

/-- The machine of words. -/
instance : Machine Context where
  start program := { program := program }
  next? := next?
  advance c := { c with programCounter := c.programCounter + 1 }
  skip n c := { c with programCounter := Word.addSaturating (Word.addSaturating c.programCounter n) 1 }
  setTo v c := { c with accumulator := v }
  add v c := { c with accumulator := c.accumulator + v }
  sub v c := { c with accumulator := c.accumulator - v }
  load program c := { c with program := program, programCounter := 0 }

/-- A context is exhausted exactly if it has no next instruction. -/
theorem exhausted_iff (c : Context) : c.exhausted = true ↔ c.next? = none := by
  simp [exhausted, next?]

end Context

end Timeshare
