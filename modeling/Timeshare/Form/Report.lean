import Timeshare.Json.Form
import Timeshare.Json.Printer
import Timeshare.Report.Snapshot

/-!
# The JSON forms of reports

Processes, levels, snapshots and the tally are objects with a member for each field, in the order of the fields;
a state is its name. `Snapshot.printed` is the report that a console writes where JSON is asked for.
-/

namespace Timeshare

/-- The JSON form of a process state. -/
def ProcessState.toJson : ProcessState → Json
  | ready => .str "ready"
  | running => .str "running"
  | blocked => .str "blocked"
  | terminated => .str "terminated"

/-- The process state that a JSON value is the form of. -/
def ProcessState.ofJson? (j : Json) : Option ProcessState :=
  match j.name? with
  | some "ready" => some ready
  | some "running" => some running
  | some "blocked" => some blocked
  | some "terminated" => some terminated
  | _ => none

/-- The JSON form of a reported process. -/
def ProcessInfo.toJson (p : ProcessInfo) : Json := .obj [
  ("pid", .ofUInt32 p.pid), ("parent_pid", .ofOption .ofUInt32 p.parent), ("priority", .ofUInt8 p.priority),
  ("accumulator", .ofInt64 p.accumulator), ("start_time", .ofUInt64 p.startTime),
  ("cpu_time_used", .ofUInt32 p.cpuTimeUsed)]

/-- The reported process that a JSON value is the form of. -/
def ProcessInfo.ofJson? (j : Json) : Option ProcessInfo := do
  match ← j.fields? ["pid", "parent_pid", "priority", "accumulator", "start_time", "cpu_time_used"] with
  | [pid, parent, priority, accumulator, startTime, cpuTimeUsed] =>
    return {
      pid := ← pid.uint32?
      parent := ← parent.optional? Json.uint32?
      priority := ← priority.uint8?
      accumulator := ← accumulator.int64?
      startTime := ← startTime.uint64?
      cpuTimeUsed := ← cpuTimeUsed.uint32? }
  | _ => none

/-- The JSON form of a reported level. -/
def ReadyLevel.toJson (l : ReadyLevel) : Json := .obj [
  ("priority", .ofUInt8 l.priority), ("processes", .ofList ProcessInfo.toJson l.processes)]

/-- The reported level that a JSON value is the form of. -/
def ReadyLevel.ofJson? (j : Json) : Option ReadyLevel := do
  match ← j.fields? ["priority", "processes"] with
  | [priority, processes] =>
    return { priority := ← priority.uint8?, processes := ← processes.list? ProcessInfo.ofJson? }
  | _ => none

/-- The JSON form of a snapshot. -/
def Snapshot.toJson (s : Snapshot) : Json := .obj [
  ("clock", .ofUInt64 s.clock), ("running", .ofOption ProcessInfo.toJson s.running),
  ("blocked", .ofList ProcessInfo.toJson s.blocked), ("ready", .ofList ReadyLevel.toJson s.ready)]

/-- The snapshot that a JSON value is the form of. -/
def Snapshot.ofJson? (j : Json) : Option Snapshot := do
  match ← j.fields? ["clock", "running", "blocked", "ready"] with
  | [clock, running, blocked, ready] =>
    return {
      clock := ← clock.uint64?
      running := ← running.optional? ProcessInfo.ofJson?
      blocked := ← blocked.list? ProcessInfo.ofJson?
      ready := ← ready.list? ReadyLevel.ofJson? }
  | _ => none

/-- The report as printed JSON. -/
def Snapshot.printed (s : Snapshot) : String := s.toJson.print

/-- The JSON form of a tally. -/
def Stats.toJson (s : Stats) : Json := .obj [
  ("dispatches", .ofUInt64 s.dispatches), ("preemptions", .ofUInt64 s.preemptions),
  ("context_switches", .ofUInt64 s.contextSwitches), ("blocks", .ofUInt64 s.blocks), ("wakes", .ofUInt64 s.wakes),
  ("terminations", .ofUInt64 s.terminations), ("forks", .ofUInt64 s.forks),
  ("replacements", .ofUInt64 s.replacements)]

/-- The tally that a JSON value is the form of. -/
def Stats.ofJson? (j : Json) : Option Stats := do
  match ← j.fields? ["dispatches", "preemptions", "context_switches", "blocks", "wakes", "terminations", "forks",
      "replacements"] with
  | [dispatches, preemptions, contextSwitches, blocks, wakes, terminations, forks, replacements] =>
    return {
      dispatches := ← dispatches.uint64?
      preemptions := ← preemptions.uint64?
      contextSwitches := ← contextSwitches.uint64?
      blocks := ← blocks.uint64?
      wakes := ← wakes.uint64?
      terminations := ← terminations.uint64?
      forks := ← forks.uint64?
      replacements := ← replacements.uint64? }
  | _ => none

end Timeshare
