import Timeshare.Fault
import Timeshare.Text.Blank

/-!
# Commands

A session is driven by four commands, each a capital letter on a line of its own. Blanks around the letter do
not matter; any other text is refused, and the refusal names it without those blanks.
-/

namespace Timeshare

/-- What a line of a session asks for. -/
inductive Command where
  /-- Execute one instruction and advance the clock. -/
  | tick
  /-- Wake the process that has been blocked the longest. -/
  | wake
  /-- Report the state. -/
  | inspect
  /-- Report the state and end the session. -/
  | shutdown
  deriving DecidableEq, Repr

namespace Command

/-- The letter of a command. -/
def letter : Command → Char
  | tick => 'Q'
  | wake => 'U'
  | inspect => 'P'
  | shutdown => 'T'

/-- The line of a command. -/
def text (c : Command) : String := c.letter.toString

/-- The command that a line holds. -/
def parse (line : String) : Except Fault Command :=
  match Text.trim line.toList with
  | ['Q'] => .ok tick
  | ['U'] => .ok wake
  | ['P'] => .ok inspect
  | ['T'] => .ok shutdown
  | other => .error (.unknownCommand (String.ofList other))

end Command

end Timeshare
