import Timeshare.Fault
import Timeshare.Json.Form

/-!
# The JSON form of faults

A fault is an object with its kind under `error_type` and what it is about under `details`: a string, a number,
or an object where there are names for the parts. The fault that is about nothing has no details.
-/

namespace Timeshare.Fault

/-- The name of a fault's kind. -/
def kind : Fault → String
  | unknownCommand _ => "unknown_command"
  | unknownOpcode _ _ => "unknown_opcode"
  | invalidArgument _ _ => "invalid_argument"
  | emptyInstruction _ => "empty_instruction"
  | programExhausted _ => "program_exhausted"
  | programUnavailable _ _ => "program_source_unavailable"
  | invalidPriority _ _ => "invalid_priority"
  | invalidConfiguration _ => "invalid_configuration"
  | missingProcess _ => "missing_process"
  | simulationEnded => "simulation_ended"

/-- What a fault is about; null if it is about nothing. -/
def details : Fault → Json
  | unknownCommand text => .str text
  | unknownOpcode line opcode => .obj [("line", .str line), ("opcode", .str opcode)]
  | invalidArgument line reason => .obj [("line", .str line), ("reason", .str reason)]
  | emptyInstruction line => .obj [("line", .str line)]
  | programExhausted pid => .ofUInt32 pid
  | programUnavailable name reason => .obj [("name", .str name), ("reason", .str reason)]
  | invalidPriority priority levels => .obj [("priority", .ofUInt8 priority), ("levels", .ofUInt8 levels)]
  | invalidConfiguration text => .str text
  | missingProcess pid => .ofUInt32 pid
  | simulationEnded => .null

/-- The JSON form of a fault. -/
def toJson : Fault → Json
  | simulationEnded => .obj [("error_type", .str simulationEnded.kind)]
  | fault => .obj [("error_type", .str fault.kind), ("details", fault.details)]

/-- Reads details that are an object of two strings. -/
def ofTwoStrings? (first second : String) (make : String → String → Fault) (j : Json) : Option Fault := do
  match ← j.membersOf? [first, second] with
  | [a, b] => return make (← a.string?) (← b.string?)
  | _ => none

/-- Reads the details of a fault of this kind. -/
def ofDetails? (kind : String) (j : Json) : Option Fault :=
  match kind with
  | "unknown_command" => j.string?.map unknownCommand
  | "unknown_opcode" => ofTwoStrings? "line" "opcode" unknownOpcode j
  | "invalid_argument" => ofTwoStrings? "line" "reason" invalidArgument j
  | "empty_instruction" => do
    match ← j.membersOf? ["line"] with
    | [line] => return emptyInstruction (← line.string?)
    | _ => none
  | "program_exhausted" => j.uint32?.map programExhausted
  | "program_source_unavailable" => ofTwoStrings? "name" "reason" programUnavailable j
  | "invalid_priority" => do
    match ← j.membersOf? ["priority", "levels"] with
    | [priority, levels] => return invalidPriority (← priority.uint8?) (← levels.uint8?)
    | _ => none
  | "invalid_configuration" => j.string?.map invalidConfiguration
  | "missing_process" => j.uint32?.map missingProcess
  | "simulation_ended" => j.bare? simulationEnded
  | _ => none

/-- The fault that a JSON value is the form of. -/
def ofJson? (j : Json) : Option Fault := do
  let (kind, details) ← j.tagged? "error_type" "details"
  ofDetails? kind details

end Timeshare.Fault
