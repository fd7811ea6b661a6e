import Timeshare.Context
import Timeshare.Limits

/-!
# Processes

A process is a record: who made it, its level, where it stands, what it has been charged, and its context. It
keeps its number, its maker, its level and its start for life. `ProcessRecord.info` is what reports show of it.
-/

namespace Timeshare

/-- Where a process stands. -/
inductive ProcessState where
  /-- It waits in the ready queue of its level. -/
  | ready
  /-- It is in the running slot. -/
  | running
  /-- It waits in the blocked queue. -/
  | blocked
  /-- It has ended; a table holds no such record. -/
  | terminated
  deriving DecidableEq, Repr

/-- The record of a process. -/
structure ProcessRecord (C : Type) where
  pid : Pid
  /-- The process that forked this one, which may have ended since; none for one made from outside. -/
  parent : Option Pid := none
  priority : Priority
  state : ProcessState := .ready
  /-- The clock when the process was made. -/
  startTime : Time := 0
  /-- The instructions charged since the last dispatch. -/
  cpuTimeUsed : UInt32 := 0
  context : C
  deriving DecidableEq, Repr

/-- What a report shows of a process. -/
structure ProcessInfo where
  pid : Pid
  parent : Option Pid
  priority : Priority
  accumulator : Word
  startTime : Time
  cpuTimeUsed : UInt32
  deriving DecidableEq, Repr

namespace ProcessRecord

/-- What a report shows of the process. -/
def info (p : ProcessRecord Context) : ProcessInfo :=
  { pid := p.pid, parent := p.parent, priority := p.priority, accumulator := p.context.accumulator,
    startTime := p.startTime, cpuTimeUsed := p.cpuTimeUsed }

/-- The record with its context changed. -/
def mapContext {C : Type} (f : C → C) (p : ProcessRecord C) : ProcessRecord C := { p with context := f p.context }

/-- The child of a fork by the process under the number `parent`: it has the level of that process and its context
after the fork, and it is ready and has not run. -/
def child {C : Type} [Machine C] (p : ProcessRecord C) (parent pid : Pid) (now : Time) : ProcessRecord C :=
  { pid := pid, parent := some parent, priority := p.priority, startTime := now,
    context := Machine.advance p.context }

end ProcessRecord

end Timeshare
