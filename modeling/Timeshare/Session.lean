import Timeshare.Command
import Timeshare.Kernel.Step
import Timeshare.Report.Snapshot

/-!
# Sessions: a kernel driven by command lines

A session passes commands to a kernel until it is shut down. A tick executes one instruction, advances the clock
and does the accounting; a wake wakes one process; the other two report. After the shutdown every command is
refused and the kernel stays as it is. A line that is no command is refused before the session asks whether it
is shut down.
-/

namespace Timeshare

/-- A kernel under a session. -/
structure Session where
  kernel : Kernel Context
  shutDown : Bool := false
  deriving DecidableEq, Repr

/-- The answer to a command. -/
inductive Reply where
  /-- What the instruction did. -/
  | ticked (outcome : StepOutcome)
  /-- The process that was woken, if one was blocked. -/
  | woken (pid : Option Pid)
  /-- The state. -/
  | report (snapshot : Snapshot)
  /-- The last state; the session is over. -/
  | shutdown (snapshot : Snapshot)
  deriving DecidableEq, Repr

namespace Reply

/-- Whether the session is over. -/
def isShutdown : Reply → Bool
  | shutdown _ => true
  | _ => false

/-- The snapshot to print, if the command asked for one. -/
def snapshot? : Reply → Option Snapshot
  | report s | shutdown s => some s
  | _ => none

end Reply

namespace Session

/-- Performs an action on the kernel of a session. -/
def onKernel {α : Type} (action : Action Context α) : EStateM Halt Session α := fun s =>
  match action s.kernel with
  | .ok a k => .ok a { s with kernel := k }
  | .error halt k => .error halt { s with kernel := k }

/-- The state of the kernel as it is reported. -/
def inspect : EStateM Halt Session Snapshot := do
  match (← get).kernel.snapshot with
  | .ok snapshot => return snapshot
  | .error fault => throw (.fault fault)

/-- One tick of a kernel: a step, the clock, the accounting. -/
def tick {C : Type} [Machine C] (source : Source) : Action C StepOutcome := do
  let outcome ← Kernel.step source
  let _ ← Kernel.advanceClock
  let _ ← Kernel.reschedule
  return outcome

/-- Carries out a command of a session that is not shut down. -/
def perform (source : Source) : Command → EStateM Halt Session Reply
  | .tick => return .ticked (← onKernel (tick source))
  | .wake => return .woken (← onKernel Kernel.wake)
  | .inspect => return .report (← inspect)
  | .shutdown => do
    let snapshot ← inspect
    modify fun s => { s with shutDown := true }
    return .shutdown snapshot

/-- Carries out a command. -/
def dispatch (source : Source) (command : Command) : EStateM Halt Session Reply := do
  if (← get).shutDown then throw (.fault .simulationEnded)
  perform source command

/-- Carries out the command on a line. -/
def submit (source : Source) (line : String) : EStateM Halt Session Reply :=
  match Command.parse line with
  | .ok command => dispatch source command
  | .error fault => throw (.fault fault)

end Session

end Timeshare
