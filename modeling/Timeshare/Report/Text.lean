import Timeshare.Report.Snapshot

/-!
# The text report

The text of a snapshot is a list of lines between banners. A process is one line of six words: its number, its
maker or a dash, its level, its accumulator, its start and the processor time charged. The running process and
the blocked ones have a heading only if there are any; each level has one in any case.
-/

namespace Timeshare

/-- The six words of a process. -/
def ProcessInfo.words (p : ProcessInfo) : List String := [
  p.pid.toNat.repr,
  match p.parent with
  | some parent => parent.toNat.repr
  | none => "-",
  p.priority.toNat.repr, p.accumulator.toInt.repr, p.startTime.toNat.repr, p.cpuTimeUsed.toNat.repr]

/-- The line of a process. -/
def ProcessInfo.text (p : ProcessInfo) : String := " ".intercalate p.words

namespace Snapshot

/-- The line above the title, below it, and at the end of a report. -/
def banner : String := String.ofList (List.replicate 64 '*')

/-- The lines for the running process: a heading and its line, or none. -/
def runningLines (s : Snapshot) : List String :=
  match s.running with
  | some p => ["RUNNING PROCESS:", p.text]
  | none => []

/-- The lines for the blocked processes: a heading and a line for each, or none. -/
def blockedLines (s : Snapshot) : List String :=
  match s.blocked with
  | [] => []
  | ps => "BLOCKED PROCESSES:" :: ps.map ProcessInfo.text

/-- The lines for one level: a heading and a line for each process. -/
def levelLines (entry : ReadyLevel) : List String :=
  ("Queue of processes with priority " ++ entry.priority.toNat.repr ++ ":") :: entry.processes.map ProcessInfo.text

/-- The lines of the report. -/
def lines (s : Snapshot) : List String :=
  [banner, "The current system state is as follows:", banner, "CURRENT TIME: " ++ s.clock.toNat.repr]
    ++ s.runningLines ++ s.blockedLines ++ ["PROCESSES READY TO EXECUTE:"] ++ s.ready.flatMap levelLines ++ [banner]

/-- The report as text, without a line feed at its end. -/
def text (s : Snapshot) : String := "\n".intercalate s.lines

end Snapshot

end Timeshare
