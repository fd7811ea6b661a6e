import Timeshare.Kernel.Operation
import Timeshare.Session

/-!
# Exchanges: what callers ask of a simulation, and what they see

A simulation is driven by requests: operations on its kernel, and commands or lines for the session of the moment.
Requests, answers and the states around them are values here, so that a run is a list of exchanges. What a caller can
tell of an exchange is read off the answer, the slot and the tally: which process was born, woken, executed, put into
the slot or preempted.
-/

namespace Timeshare

/-- What a caller may ask of a simulation. -/
inductive Request where
  /-- An operation on the kernel. -/
  | operation (operation : Operation)
  /-- A command for the session. -/
  | command (command : Command)
  /-- A line for the session. -/
  | line (text : String)
  /-- A new session on the same kernel. -/
  | newSession
  deriving DecidableEq, Repr

/-- Whether the request makes a process or goes to the session, and does not step, charge, wake or advance the clock
by hand. -/
def Request.commanded : Request → Bool
  | operation (.create _ _) | operation (.createFrom _ _) | operation (.createParsed _ _) => true
  | operation _ => false
  | command _ | line _ | newSession => true

/-- The answer to a request. -/
inductive Response where
  /-- The answer of the kernel. -/
  | answered (answer : Answer)
  /-- The reply of the session. -/
  | replied (reply : Reply)
  /-- There is a new session. -/
  | renewed
  deriving DecidableEq, Repr

namespace StepOutcome

/-- The process that executed an instruction and goes on. -/
def worked? : StepOutcome → Option Pid
  | executed pid _ | forked pid _ | replaced pid _ | replaceFailed pid _ => some pid
  | _ => none

/-- The process that executed an instruction and left the slot for it. -/
def released? : StepOutcome → Option Pid
  | blocked pid | terminated pid _ => some pid
  | _ => none

end StepOutcome

namespace Response

/-- What the instruction did, if one was executed. -/
def outcome? : Response → Option StepOutcome
  | answered (.stepped outcome) | replied (.ticked outcome) => some outcome
  | _ => none

/-- What the instruction of a tick did, if a tick was carried out. -/
def ticked? : Response → Option StepOutcome
  | replied (.ticked outcome) => some outcome
  | _ => none

/-- The process that was made or forked. -/
def born? : Response → Option Pid
  | answered (.created pid) => some pid
  | answered (.stepped (.forked _ child)) | replied (.ticked (.forked _ child)) => some child
  | _ => none

/-- The process that was woken. -/
def woken? : Response → Option Pid
  | answered (.woken pid) | replied (.woken pid) => pid
  | _ => none

end Response

/-- Carries out a request. -/
def Request.perform (source : Source) : Request → EStateM Halt Session Response
  | operation op => .answered <$> Session.onKernel (op.perform source)
  | command c => .replied <$> Session.dispatch source c
  | line text => .replied <$> Session.submit source text
  | newSession => do
    modify fun s => { s with shutDown := false }
    return .renewed

/-- A request, its answer, and the simulation before and after it. -/
structure Exchange where
  request : Request
  before : Session
  answer : Except Halt Response
  after : Session

namespace Session

/-- The exchange that a request leads to. -/
def exchange (source : Source) (s : Session) (request : Request) : Exchange :=
  match request.perform source s with
  | .ok response s' => { request := request, before := s, answer := .ok response, after := s' }
  | .error halt s' => { request := request, before := s, answer := .error halt, after := s' }

/-- The exchanges that requests lead to one after the other, whatever the answers, each with the programs that there
are by then. -/
def exchanges : Session → List (Source × Request) → List Exchange
  | _, [] => []
  | s, (source, request) :: requests =>
    s.exchange source request :: exchanges (s.exchange source request).after requests

/-- The simulation after the requests. -/
def after (s : Session) (requests : List (Source × Request)) : Session :=
  requests.foldl (fun s (source, request) => (s.exchange source request).after) s

end Session

namespace Exchange

/-- What the instruction did, if the exchange executed one. -/
def outcome? (x : Exchange) : Option StepOutcome := x.answer.toOption.bind Response.outcome?

/-- What the instruction of a tick did, if the exchange carried out a tick. -/
def ticked? (x : Exchange) : Option StepOutcome := x.answer.toOption.bind Response.ticked?

/-- The process that was made or forked. -/
def born? (x : Exchange) : Option Pid := x.answer.toOption.bind Response.born?

/-- The process that was woken. -/
def woken? (x : Exchange) : Option Pid := x.answer.toOption.bind Response.woken?

/-- The process that was in the slot for the step that the exchange executed. -/
def executing? (x : Exchange) : Option Pid := if x.outcome?.isSome then x.before.kernel.running else none

/-- The process that was put into the slot. -/
def dispatched? (x : Exchange) : Option Pid :=
  if x.after.kernel.stats.dispatches = x.before.kernel.stats.dispatches then none else x.after.kernel.running

/-- The process that used up its quantum. -/
def preempted? (x : Exchange) : Option Pid :=
  if x.after.kernel.stats.preemptions = x.before.kernel.stats.preemptions then none else x.before.kernel.running

/-- The process that executed an instruction and goes on. -/
def worked? (x : Exchange) : Option Pid := x.outcome?.bind StepOutcome.worked?

/-- The process that executed an instruction and left the slot for it: it blocked or ended. -/
def released? (x : Exchange) : Option Pid := x.outcome?.bind StepOutcome.released?

/-- The process leaves the slot in the exchange: its quantum is used up, it blocks or it ends. -/
def Leaves (pid : Pid) (x : Exchange) : Prop := x.preempted? = some pid ∨ x.released? = some pid

instance (pid : Pid) (x : Exchange) : Decidable (x.Leaves pid) :=
  inferInstanceAs (Decidable (x.preempted? = some pid ∨ x.released? = some pid))

/-- The number of ticks that were carried out. -/
def ticks (xs : List Exchange) : Nat := xs.countP fun x => x.ticked?.isSome

/-- Each of the processes with its level. -/
def leveled (x : Exchange) (pids : List Pid) : List (Pid × Priority) :=
  pids.filterMap fun pid => (x.after.kernel.levelOf pid).map fun level => (pid, level)

/-- The processes that were put in ready queues, in this order: the one that was made, forked or woken, and the
preempted one. -/
def admitted (x : Exchange) : List (Pid × Priority) :=
  x.leveled (x.born?.toList ++ x.woken?.toList ++ x.preempted?.toList)

/-- The process that was put into the slot, if one was. -/
def dispatched (x : Exchange) : List (Pid × Priority) := x.leveled x.dispatched?.toList

/-- The processes that were put in ready queues, one after the other. -/
def admissions (xs : List Exchange) : List (Pid × Priority) := xs.flatMap admitted

/-- The processes that were put into the slot, one after the other. -/
def dispatches (xs : List Exchange) : List (Pid × Priority) := xs.flatMap dispatched

/-- Those of one level. -/
def atLevel (level : Priority) (log : List (Pid × Priority)) : List Pid := (log.filter (·.2 = level)).map (·.1)

/-- The processes that waited at a level when the slot was to be filled: those that had waited there before, and those
that were put there in the exchange. -/
def waiting (x : Exchange) (level : Priority) : List Pid :=
  x.before.kernel.queues.readyAt level ++ atLevel level x.admitted

/-- The number of steps that a process has executed. -/
def steps (pid : Pid) (xs : List Exchange) : Nat := xs.countP fun x => x.executing? = some pid

/-- The number of processes that were made or forked. -/
def births (xs : List Exchange) : Nat := (xs.filterMap born?).length

end Exchange

end Timeshare
