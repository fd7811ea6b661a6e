import Timeshare.Form.Report
import Timeshare.Report.Text
import Timeshare.Session
import Timeshare.Settings
import Timeshare.Source.Directory

/-!
# The console: a session from variables, files and standard input

A console starts one process, by default that of the built-in program, and passes each line of its input to a
session. It prints the reports that the session gives, in the format that the settings ask for, and a fixed line
for every line that is no command. It exits with status 0 after a shutdown or at the end of its input, and with
status 1 if it cannot start, if the kernel halts, or when it comes to a line that is not UTF-8. `Console.run` is
the whole of this as a function of the variables, the files and the input.
-/

namespace Timeshare

/-- A console that has started. -/
structure Console where
  format : ReportFormat
  session : Session

namespace Console

/-- The line printed for a line that is no command. -/
def rejection : String := "Invalid command. Please enter Q, U, P, or T."

/-- A report in the format asked for. -/
def render (format : ReportFormat) (snapshot : Snapshot) : String :=
  match format with
  | .text => snapshot.text
  | .json => snapshot.printed

/-- Makes the first process: of the initial program, or of the built-in one. -/
def createInit (source : Source) (settings : Settings) : Action Context Pid :=
  match settings.initProgram with
  | some name => Kernel.createFrom source initPriority name
  | none => Kernel.create initPriority initProgram

/-- Starts a console with these settings. -/
def start (source : Source) (settings : Settings) : Except Halt Console :=
  match Kernel.boot settings.levels with
  | .error fault => .error (.fault fault)
  | .ok kernel =>
    match createInit source settings kernel with
    | .error halt _ => .error halt
    | .ok _ kernel => .ok { format := settings.format, session := { kernel := kernel } }

/-- What a line leads to: what is printed, and either the exit status or the console that goes on. -/
structure Turn where
  output : String
  next : Except UInt32 Console

/-- What a line of text leads to. -/
def feedText (source : Source) (console : Console) (line : String) : Turn :=
  match Session.submit source line console.session with
  | .ok reply session =>
    { output := match reply.snapshot? with
        | some snapshot => render console.format snapshot ++ "\n"
        | none => ""
      next := if reply.isShutdown then .error 0 else .ok { console with session := session } }
  | .error (.fault (.unknownCommand _)) session =>
    { output := rejection ++ "\n", next := .ok { console with session := session } }
  | .error (.fault fault) session =>
    { output := "", next := if fault.isFatal then .error 1 else .ok { console with session := session } }
  | .error (.noSuchLevel _) _ => { output := "", next := .error 1 }

/-- What a line of bytes leads to. -/
def feed (source : Source) (console : Console) (line : List UInt8) : Turn :=
  match String.fromUTF8? (ByteArray.mk line.toArray) with
  | some text => feedText source console text
  | none => { output := "", next := .error 1 }

/-- What the lines lead to one after the other: all that is printed, and the exit status. -/
def feedAll (source : Source) (console : Console) : List (List UInt8) → String × UInt32
  | [] => ("", 0)
  | line :: lines =>
    let turn := feed source console line
    match turn.next with
    | .error status => (turn.output, status)
    | .ok next =>
      let (output, status) := feedAll source next lines
      (turn.output ++ output, status)

/-- The whole run of a console: what it prints, and its exit status. -/
def run (lookup : String → Option String) (read : String → Except ReadFault ByteArray) (input : List UInt8) :
    String × UInt32 :=
  match Settings.read lookup with
  | .error _ => ("", 1)
  | .ok settings =>
    let source := Source.directory read settings.programDir
    match start source settings with
    | .error _ => ("", 1)
    | .ok console => feedAll source console (Lines.ofBytes input)

end Console

end Timeshare
