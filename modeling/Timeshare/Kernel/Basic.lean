import Timeshare.Queues
import Timeshare.Table

/-!
# The kernel and its actions

The kernel holds the clock, the process table, the queues, the running slot, a mark that names the process that
has executed since the last accounting, and the tally of what happened. An action works on a kernel and gives an
answer or halts. It halts on a fault, or because a number was to be put in a queue that does not exist, after
which no run goes on; in both cases what it had done until then stays done, as an action has no undo.
-/

namespace Timeshare

/-- How often each kind of scheduling event has happened. -/
structure Stats where
  /-- Processes put into the running slot. -/
  dispatches : UInt64 := 0
  /-- Processes that used up their quantum. -/
  preemptions : UInt64 := 0
  /-- Dispatches of another process than the one before. -/
  contextSwitches : UInt64 := 0
  blocks : UInt64 := 0
  wakes : UInt64 := 0
  terminations : UInt64 := 0
  forks : UInt64 := 0
  replacements : UInt64 := 0
  deriving DecidableEq, Repr

/-- The state of a simulated kernel, whose processes have contexts of the type. -/
structure Kernel (C : Type) where
  queues : Queues
  table : Table C := {}
  /-- The process in the running slot. -/
  running : Option Pid := none
  /-- The process that has executed an instruction since the last accounting. -/
  executed : Option Pid := none
  /-- The process that was dispatched last. -/
  lastDispatched : Option Pid := none
  stats : Stats := {}
  /-- The ticks since the start. -/
  clock : Time := 0
  deriving DecidableEq, Repr

/-- Why an action stops before its end. -/
inductive Halt where
  /-- A fault that is answered. -/
  | fault (fault : Fault)
  /-- There is no ready queue of this level: the run cannot go on. -/
  | noSuchLevel (level : Priority)
  deriving DecidableEq, Repr

/-- What a kernel can be made to do: it gives an answer or halts, and leaves a kernel either way. -/
abbrev Action (C : Type) := EStateM Halt (Kernel C)

namespace Kernel

variable {C : Type}

/-- A kernel of so many levels without processes. -/
def empty (levels : UInt8) : Kernel C := { queues := Queues.empty levels }

/-- A kernel of so many levels without processes, where a kernel may have so many. -/
def boot (levels : UInt8) : Except Fault (Kernel C) :=
  (checkLevels levels).map (fun _ => empty levels)

/-- Stops with a fault. -/
def refuse {α : Type} (fault : Fault) : Action C α := throw (.fault fault)

/-- The record of a process that must have one. -/
def require (pid : Pid) : Action C (ProcessRecord C) := do
  match (← get).table.get? pid with
  | some record => pure record
  | none => refuse (.missingProcess pid)

/-- Changes the record of a process. -/
def amend (pid : Pid) (change : ProcessRecord C → ProcessRecord C) : Action C Unit :=
  modify fun k => { k with table := k.table.modify pid change }

/-- Changes the tally. -/
def count (change : Stats → Stats) : Action C Unit := modify fun k => { k with stats := change k.stats }

/-- Puts a number at the tail of a level's ready queue. -/
def enqueueReady (pid : Pid) (level : Priority) : Action C Unit := do
  match (← get).queues.enqueueReady pid level with
  | some queues => modify fun k => { k with queues := queues }
  | none => throw (.noSuchLevel level)

/-- Advances the clock by one tick and gives the new time. -/
def advanceClock : Action C Time := do
  modify fun k => { k with clock := k.clock + 1 }
  return (← get).clock

/-- Whether no process runs. -/
def idle (k : Kernel C) : Bool := k.running.isNone

/-- The level of a process. -/
def levelOf (k : Kernel C) (pid : Pid) : Option Priority := (k.table.get? pid).map (·.priority)

/-! ## What each action leaves -/

/-- Asking for a record changes nothing; it is a fault if there is none. -/
theorem require_apply (pid : Pid) (k : Kernel C) :
    require pid k = match k.table.get? pid with
      | some record => .ok record k
      | none => .error (.fault (.missingProcess pid)) k := by
  change (match k.table.get? pid with
    | some record => (pure record : Action C _)
    | none => refuse (.missingProcess pid)) k = _
  cases k.table.get? pid <;> rfl

/-- A change of a record touches the table only. -/
theorem amend_apply (pid : Pid) (change : ProcessRecord C → ProcessRecord C) (k : Kernel C) :
    amend pid change k = .ok () { k with table := k.table.modify pid change } := rfl

/-- Putting a number in a queue touches the queues only; the run halts if there is no such queue. -/
theorem enqueueReady_apply (pid : Pid) (level : Priority) (k : Kernel C) :
    enqueueReady pid level k = match k.queues.enqueueReady pid level with
      | some queues => .ok () { k with queues := queues }
      | none => .error (.noSuchLevel level) k := by
  change (match k.queues.enqueueReady pid level with
    | some queues => (modify (fun (k : Kernel C) => { k with queues := queues }) : Action C Unit)
    | none => throw (Halt.noSuchLevel level)) k = _
  cases k.queues.enqueueReady pid level <;> rfl

/-- An advance of the clock touches the clock only. -/
theorem advanceClock_apply (k : Kernel C) :
    advanceClock k = .ok (k.clock + 1) { k with clock := k.clock + 1 } := rfl

end Kernel

end Timeshare
