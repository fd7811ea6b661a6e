import Timeshare.Kernel.Basic

/-!
# Snapshots: the state as it is reported

A snapshot shows the clock, the running process, the blocked processes and, for each level, the processes that
are ready, all in the order of their queues. Taking one changes nothing. It fails only if a queue or the slot
names a process that the table does not hold.
-/

namespace Timeshare

/-- The ready processes of one level, in the order of their queue. -/
structure ReadyLevel where
  priority : Priority
  processes : List ProcessInfo
  deriving DecidableEq, Repr

/-- The state of a kernel as it is reported. -/
structure Snapshot where
  clock : Time
  running : Option ProcessInfo
  blocked : List ProcessInfo
  ready : List ReadyLevel
  deriving DecidableEq, Repr

namespace Kernel

/-- What a report shows of a process that must have a record. -/
def infoOf (k : Kernel Context) (pid : Pid) : Except Fault ProcessInfo :=
  match k.table.get? pid with
  | some record => .ok record.info
  | none => .error (.missingProcess pid)

/-- The ready processes of a level as they are reported. -/
def readyLevel (k : Kernel Context) (level : Priority) : Except Fault ReadyLevel := do
  let processes ← (k.queues.readyAt level).mapM k.infoOf
  return { priority := level, processes := processes }

/-- The levels of a kernel from the most urgent on. -/
def levelList (k : Kernel Context) : List Priority := (List.range k.queues.levels.toNat).map UInt8.ofNat

/-- The state of a kernel as it is reported. -/
def snapshot (k : Kernel Context) : Except Fault Snapshot := do
  let running ← k.running.mapM k.infoOf
  let blocked ← k.queues.blocked.mapM k.infoOf
  let ready ← k.levelList.mapM k.readyLevel
  return { clock := k.clock, running := running, blocked := blocked, ready := ready }

end Kernel

namespace Snapshot

/-- The running process. -/
def runningPid (s : Snapshot) : Option Pid := s.running.map (·.pid)

/-- The blocked processes in order. -/
def blockedPids (s : Snapshot) : List Pid := s.blocked.map (·.pid)

/-- The ready processes of a level in order: those of the first entry for it, none without one. -/
def readyPids (s : Snapshot) (level : Priority) : List Pid :=
  match s.ready.find? (fun entry => entry.priority = level) with
  | some entry => entry.processes.map (·.pid)
  | none => []

end Snapshot

end Timeshare
