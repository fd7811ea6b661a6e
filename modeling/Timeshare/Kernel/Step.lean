import Timeshare.Kernel.Lifecycle

/-!
# One step of the running process

A step executes one instruction of the process in the slot, if there is one, and says what became of it. Where
the next instruction is follows from the one executed: arithmetic and a block move on by one, a fork moves the
parent past what it skips, a replacement starts anew if the program loads and moves on by one if it does not. A
process ends at an exit, past its last instruction, or when a replacement loads lines that are no program.
-/

namespace Timeshare

/-- Why a process ended. -/
inductive EndReason where
  /-- It executed an exit. -/
  | exit
  /-- It went past its last instruction. -/
  | programExhausted
  /-- Its new program could not be read. -/
  | faulted (fault : Fault)
  deriving DecidableEq, Repr

/-- What a step did. -/
inductive StepOutcome where
  /-- No process was running. -/
  | idle
  /-- The process executed arithmetic. -/
  | executed (pid : Pid) (instruction : Instruction)
  /-- The process blocked. -/
  | blocked (pid : Pid)
  /-- The process ended. -/
  | terminated (pid : Pid) (reason : EndReason)
  /-- The process made a child. -/
  | forked (parent child : Pid)
  /-- The process started another program. -/
  | replaced (pid : Pid) (program : String)
  /-- The process keeps its program, since the other does not load. -/
  | replaceFailed (pid : Pid) (fault : Fault)
  deriving DecidableEq, Repr

namespace Kernel

variable {C : Type} [Machine C]

omit [Machine C] in
/-- Ends the running process for a reason. -/
def finish (pid : Pid) (reason : EndReason) : Action C StepOutcome := do
  terminateRunning pid
  return .terminated pid reason

omit [Machine C] in
/-- Changes the context of the running process, which has then executed an instruction. -/
def progress (pid : Pid) (change : C → C) : Action C Unit := do
  let _ ← require pid
  amend pid (ProcessRecord.mapContext change)
  recordExecution pid

/-- Executes arithmetic on the accumulator. -/
def compute (pid : Pid) (instruction : Instruction) (change : C → C) : Action C StepOutcome := do
  progress pid fun c => Machine.advance (change c)
  return .executed pid instruction

/-- Executes a block. -/
def blockStep (pid : Pid) : Action C StepOutcome := do
  let _ ← require pid
  amend pid (ProcessRecord.mapContext Machine.advance)
  let _ ← blockRunning
  let _ ← reschedule
  return .blocked pid

/-- Executes a replacement by the program of this name. -/
def replaceProgram (source : Source) (pid : Pid) (name : String) : Action C StepOutcome :=
  match source name with
  | .error fault => do
    progress pid Machine.advance
    return .replaceFailed pid (unavailable name fault)
  | .ok lines =>
    match Program.parse lines with
    | .error fault => finish pid (.faulted fault)
    | .ok program => do
      progress pid (Machine.load program)
      count fun s => { s with replacements := s.replacements + 1 }
      return .replaced pid name

/-- Executes an instruction of the running process. -/
def execute (source : Source) (pid : Pid) : Instruction → Action C StepOutcome
  | .set v => compute pid (.set v) (Machine.setTo v)
  | .add v => compute pid (.add v) (Machine.add v)
  | .sub v => compute pid (.sub v) (Machine.sub v)
  | .block => blockStep pid
  | .exit => finish pid .exit
  | .fork skip => do
    let child ← fork pid skip
    return .forked pid child
  | .replace name => replaceProgram source pid name

/-- Executes the next instruction of the running process, if there is one. -/
def step (source : Source) : Action C StepOutcome := do
  match (← get).running with
  | none => return .idle
  | some pid =>
    let record ← require pid
    match Machine.next? record.context with
    | none => finish pid .programExhausted
    | some instruction => execute source pid instruction

/-- The name of the program that the next step will load, if it loads one. -/
def wanted? (k : Kernel C) : Option String := do
  let pid ← k.running
  let record ← k.table.get? pid
  match ← Machine.next? record.context with
  | .replace name => some name
  | _ => none

end Kernel

end Timeshare
