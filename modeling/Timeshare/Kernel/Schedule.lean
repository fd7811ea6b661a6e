import Timeshare.Kernel.Basic

/-!
# Scheduling: static priorities, round robin within a level

A process keeps its level for life. The running process stays until it blocks, ends, or has executed as many
instructions as the quantum of its level allows; then it goes to the tail of its level's queue, and the slot
goes to the head of the most urgent queue that is not empty. An instruction is charged once, at the first
accounting after it, by the mark that it leaves.
-/

namespace Timeshare.Kernel

variable {C : Type}

/-- Makes a process ready, at the tail of its level's queue. -/
def makeReady (pid : Pid) : Action C Unit := do
  let record ← require pid
  amend pid fun r => { r with state := .ready }
  enqueueReady pid record.priority

/-- Leaves the mark that a process has executed an instruction. -/
def recordExecution (pid : Pid) : Action C Unit := modify fun k => { k with executed := some pid }

/-- Takes the running process out of the slot at the end of its quantum; it is ready again. -/
def preempt (pid : Pid) (level : Priority) : Action C Unit := do
  amend pid fun r => { r with state := .ready, cpuTimeUsed := 0 }
  enqueueReady pid level
  modify fun k => { k with running := none }
  count fun s => { s with preemptions := s.preemptions + 1 }

/-- Charges the running process for one instruction. -/
def charge (pid : Pid) : Action C Unit := do
  let record ← require pid
  let used := record.cpuTimeUsed + 1
  if used < quantum record.priority then
    amend pid fun r => { r with cpuTimeUsed := used }
  else
    preempt pid record.priority

/-- Puts a process that left its ready queue into the slot. -/
def occupy (pid : Pid) : Action C Unit := do
  let _ ← require pid
  amend pid fun r => { r with state := .running, cpuTimeUsed := 0 }
  modify fun k => { k with
    running := some pid
    lastDispatched := some pid
    stats := { k.stats with
      dispatches := k.stats.dispatches + 1
      contextSwitches :=
        if k.lastDispatched = some pid then k.stats.contextSwitches else k.stats.contextSwitches + 1 } }

/-- Puts the most urgent ready process into the slot; with none ready the slot stays empty. -/
def dispatch : Action C Unit := do
  match (← get).queues.dequeueReady with
  | none => pure ()
  | some (pid, queues) =>
    modify fun k => { k with queues := queues }
    occupy pid

/-- Takes the mark. -/
def takeMark : Action C (Option Pid) := do
  let marked := (← get).executed
  modify fun k => { k with executed := none }
  return marked

/-- Charges the running process if it is the one marked. -/
def account (marked : Option Pid) : Action C Unit := do
  match (← get).running with
  | none => pure ()
  | some pid => if marked = some pid then charge pid else pure ()

/-- Fills the slot if it is empty. -/
def fillSlot : Action C Unit := do
  match (← get).running with
  | none => dispatch
  | some _ => pure ()

/-- Takes the mark, charges the running process if it is the one marked, and fills the slot if it is empty. The
answer is the process that is then in the slot. -/
def reschedule : Action C (Option Pid) := do
  let marked ← takeMark
  account marked
  fillSlot
  return (← get).running

/-- Empties the slot and takes the mark, without making anything ready. -/
def releaseRunning : Action C (Option Pid) := do
  let pid := (← get).running
  modify fun k => { k with running := none, executed := none }
  return pid

/-- Moves the running process to the tail of the blocked queue. -/
def blockRunning : Action C (Option Pid) := do
  match ← releaseRunning with
  | none => return none
  | some pid =>
    let _ ← require pid
    amend pid fun r => { r with state := .blocked }
    modify fun k => { k with queues := k.queues.enqueueBlocked pid }
    count fun s => { s with blocks := s.blocks + 1 }
    return some pid

/-- Moves the process that has been blocked the longest to its ready queue. -/
def unblock : Action C (Option Pid) := do
  match (← get).queues.dequeueBlocked with
  | none => return none
  | some (pid, queues) =>
    modify fun k => { k with queues := queues }
    makeReady pid
    count fun s => { s with wakes := s.wakes + 1 }
    return some pid

end Timeshare.Kernel
