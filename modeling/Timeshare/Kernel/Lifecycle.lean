import Timeshare.Kernel.Schedule
import Timeshare.Source.Basic

/-!
# Lifecycle: how processes come and go

Making a process checks everything before it changes anything: the lines must load and parse, and then the level
must exist. Each of making, waking, blocking and ending a process is followed by an accounting, so the slot is
never empty while a process is ready.
-/

namespace Timeshare.Kernel

variable {C : Type} [Machine C]

/-- The fault of a program that does not load. -/
def unavailable (name : String) (fault : LoadFault) : Fault := .programUnavailable name fault.message

/-- Files a record under the next number, which is the answer. -/
def file (make : Kernel C → Pid → ProcessRecord C) : Action C Pid := do
  let pid := (← get).table.nextPid
  modify fun k => { k with table := k.table.insert (make k pid) }
  return pid

/-- Makes a process of a level that exists. -/
def spawn (priority : Priority) (program : Program) : Action C Pid := do
  let pid ← file fun k pid =>
    { pid := pid, priority := priority, startTime := k.clock, context := Machine.start program }
  makeReady pid
  let _ ← reschedule
  return pid

/-- Makes a process that runs the program. -/
def createParsed (priority : Priority) (program : Program) : Action C Pid := do
  let levels := (← get).queues.levels
  if priority < levels then spawn priority program else refuse (.invalidPriority priority levels)

/-- Makes a process that runs the program on the lines. -/
def create (priority : Priority) (lines : List String) : Action C Pid :=
  match Program.parse lines with
  | .ok program => createParsed priority program
  | .error fault => refuse fault

/-- Makes a process that runs the program of this name. -/
def createFrom (source : Source) (priority : Priority) (name : String) : Action C Pid :=
  match source name with
  | .ok lines => create priority lines
  | .error fault => refuse (unavailable name fault)

omit [Machine C] in
/-- Ends the running process. -/
def terminateRunning (pid : Pid) : Action C Unit := do
  let _ ← releaseRunning
  let _ ← require pid
  modify fun k => { k with table := k.table.erase pid }
  count fun s => { s with terminations := s.terminations + 1 }
  let _ ← reschedule

/-- Makes a child of the running process, which is ready before its parent goes on. -/
def fork (pid : Pid) (skip : UInt64) : Action C Pid := do
  let parent ← require pid
  let child ← file fun k child => parent.child pid child k.clock
  makeReady child
  let _ ← require pid
  amend pid (ProcessRecord.mapContext (Machine.skip skip))
  recordExecution pid
  count fun s => { s with forks := s.forks + 1 }
  return child

omit [Machine C] in
/-- Wakes the process that has been blocked the longest. -/
def wake : Action C (Option Pid) := do
  match ← unblock with
  | none => return none
  | some pid =>
    let _ ← reschedule
    return some pid

end Timeshare.Kernel
