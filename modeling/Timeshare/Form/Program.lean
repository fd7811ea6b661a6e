import Timeshare.Command
import Timeshare.Instruction
import Timeshare.Json.Form

/-!
# The JSON forms of instructions and commands

An instruction is an object with its name under `op` and its argument, if it takes one, under `arg`. A command
is its name.
-/

namespace Timeshare

/-- The JSON form of an instruction. -/
def Instruction.toJson : Instruction → Json
  | set v => .obj [("op", .str "set"), ("arg", .ofInt64 v)]
  | add v => .obj [("op", .str "add"), ("arg", .ofInt64 v)]
  | sub v => .obj [("op", .str "sub"), ("arg", .ofInt64 v)]
  | block => .obj [("op", .str "block")]
  | exit => .obj [("op", .str "exit")]
  | fork n => .obj [("op", .str "fork"), ("arg", .ofUInt64 n)]
  | replace name => .obj [("op", .str "replace"), ("arg", .str name)]

/-- The instruction that a JSON value is the form of. -/
def Instruction.ofJson? (j : Json) : Option Instruction :=
  match j.tagged? "op" "arg" with
  | some ("set", arg) => arg.int64?.map set
  | some ("add", arg) => arg.int64?.map add
  | some ("sub", arg) => arg.int64?.map sub
  | some ("block", arg) => arg.bare? block
  | some ("exit", arg) => arg.bare? exit
  | some ("fork", arg) => arg.uint64?.map fork
  | some ("replace", arg) => arg.string?.map replace
  | _ => none

/-- The JSON form of a command. -/
def Command.toJson : Command → Json
  | tick => .str "tick"
  | wake => .str "wake"
  | inspect => .str "inspect"
  | shutdown => .str "shutdown"

/-- The command that a JSON value is the form of. -/
def Command.ofJson? (j : Json) : Option Command :=
  match j.name? with
  | some "tick" => some tick
  | some "wake" => some wake
  | some "inspect" => some inspect
  | some "shutdown" => some shutdown
  | _ => none

end Timeshare
