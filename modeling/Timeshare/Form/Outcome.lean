import Timeshare.Form.Fault
import Timeshare.Form.Program
import Timeshare.Kernel.Step

/-!
# The JSON form of outcomes

An outcome is an object with its name under `outcome` and a member for each thing it is about. The reason for an
end has its own name, and the fault if there was one.
-/

namespace Timeshare

/-- The JSON form of the reason for an end. -/
def EndReason.toJson : EndReason → Json
  | exit => .obj [("reason", .str "exit")]
  | programExhausted => .obj [("reason", .str "program_exhausted")]
  | faulted fault => .obj [("reason", .str "faulted"), ("error", fault.toJson)]

/-- The name of an outcome. -/
def StepOutcome.name : StepOutcome → String
  | idle => "idle"
  | executed _ _ => "executed"
  | blocked _ => "blocked"
  | terminated _ _ => "terminated"
  | forked _ _ => "forked"
  | replaced _ _ => "replaced"
  | replaceFailed _ _ => "replace_failed"

/-- The process that acted; none if none was running. -/
def StepOutcome.actor? : StepOutcome → Option Pid
  | idle => none
  | executed pid _ | blocked pid | terminated pid _ | forked pid _ | replaced pid _ | replaceFailed pid _ =>
    some pid

/-- What an outcome is about. -/
def StepOutcome.particulars : StepOutcome → List (String × Json)
  | idle => []
  | executed pid instruction => [("pid", .ofUInt32 pid), ("instruction", instruction.toJson)]
  | blocked pid => [("pid", .ofUInt32 pid)]
  | terminated pid reason => [("pid", .ofUInt32 pid), ("reason", reason.toJson)]
  | forked parent child => [("parent", .ofUInt32 parent), ("child", .ofUInt32 child)]
  | replaced pid program => [("pid", .ofUInt32 pid), ("program", .str program)]
  | replaceFailed pid fault => [("pid", .ofUInt32 pid), ("error", fault.toJson)]

/-- The JSON form of an outcome. -/
def StepOutcome.toJson (o : StepOutcome) : Json := .obj (("outcome", .str o.name) :: o.particulars)

end Timeshare
