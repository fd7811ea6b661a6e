import Timeshare.Text.Quoted
import Timeshare.Word

/-!
# Faults: what a simulation refuses, and how it says so

A fault is a cause with what it is about: the line, the name, the process. `Fault.message` is its wording, in
which texts are quoted; `Fault.code` groups faults by the part of the simulator that found them, and
`Fault.help` says what to do about one. Only a process that the scheduler still names but the table has lost is
fatal: it means that the simulator itself is at fault.
-/

namespace Timeshare

/-- Why the simulator refuses a line, a program, a setting or an operation. -/
inductive Fault where
  /-- The text is not the letter of a command. -/
  | unknownCommand (text : String)
  /-- The line's first word is not the letter of an instruction. -/
  | unknownOpcode (line opcode : String)
  /-- The line's arguments are not the ones its instruction takes. -/
  | invalidArgument (line reason : String)
  /-- The line holds no word. -/
  | emptyInstruction (line : String)
  /-- The process went past its last instruction. -/
  | programExhausted (pid : Pid)
  /-- The program of this name cannot be loaded. -/
  | programUnavailable (name reason : String)
  /-- There is no such level. -/
  | invalidPriority (priority : Priority) (levels : UInt8)
  /-- A setting is not acceptable. -/
  | invalidConfiguration (text : String)
  /-- The scheduler names a process that the table does not hold. -/
  | missingProcess (pid : Pid)
  /-- The session has been shut down. -/
  | simulationEnded
  deriving DecidableEq, Repr

namespace Fault

/-- The wording of a fault. -/
def message : Fault → String
  | unknownCommand text => "Unknown command: " ++ Text.quoted text
  | unknownOpcode line opcode => "Unknown opcode " ++ Text.quoted opcode ++ " in instruction " ++ Text.quoted line
  | invalidArgument line reason => "Invalid argument in instruction " ++ Text.quoted line ++ ": " ++ reason
  | emptyInstruction line => "Empty instruction " ++ Text.quoted line
  | programExhausted pid => s!"Process {pid} ran past the end of its program"
  | programUnavailable name reason => "Program " ++ Text.quoted name ++ " unavailable: " ++ reason
  | invalidPriority priority levels => s!"Priority {priority} out of range (levels: {levels})"
  | invalidConfiguration text => "Configuration error: " ++ text
  | missingProcess pid => s!"Process {pid} referenced by the scheduler is missing from the process table"
  | simulationEnded => "Simulation has shut down; command rejected"

/-- The code that a diagnostic shows for a fault: the part of the simulator, then the cause. -/
def code : Fault → String
  | unknownCommand _ => "dispatcher::unknown_command"
  | unknownOpcode _ _ => "program::unknown_opcode"
  | invalidArgument _ _ => "program::invalid_argument"
  | emptyInstruction _ => "program::empty_instruction"
  | programExhausted _ => "process::program_exhausted"
  | programUnavailable _ _ => "program::source_unavailable"
  | invalidPriority _ _ => "scheduler::invalid_priority"
  | invalidConfiguration _ => "sim::configuration_error"
  | missingProcess _ => "sim::missing_process"
  | simulationEnded => "dispatcher::simulation_ended"

/-- What a diagnostic advises; an empty instruction needs no advice. -/
def help : Fault → Option String
  | unknownCommand _ => some "Valid commands are Q (tick), U (wake), P (print) and T (terminate)."
  | unknownOpcode _ _ => some "Valid opcodes are S, A, D, B, E, F and R."
  | invalidArgument _ _ =>
    some "S, A and D take an integer, F takes a non-negative count, R takes a program name."
  | emptyInstruction _ => none
  | programExhausted _ => some "End programs with an E instruction to terminate explicitly."
  | programUnavailable _ _ => some "Check that the program exists under the configured program directory."
  | invalidPriority _ _ => some "Priority must be lower than the configured number of levels."
  | invalidConfiguration _ => some "Review the PROCSIM_* environment variables."
  | missingProcess _ => some "Internal consistency fault. Please report this issue."
  | simulationEnded => some "Start a new simulation to keep issuing commands."

/-- Whether the fault means that the simulator itself is inconsistent and must stop. -/
def isFatal : Fault → Bool
  | missingProcess _ => true
  | _ => false

end Fault

end Timeshare
