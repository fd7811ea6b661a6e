import Timeshare.Console

/-!
# The program

The console at a terminal. A line of input is read and answered before the next one is read, and a program is
read from its file when the next step is about to load it.
-/

namespace Timeshare.Terminal

/-- The content of a file, or why it cannot be read. -/
def readFile (path : String) : IO (Except ReadFault ByteArray) := do
  if path.toList.contains '\x00' then return .error .nullInName
  try
    return .ok (← IO.FS.readBinFile path)
  catch
    | .noFileOrDirectory _ _ _ => return .error .missing
    | fault => return .error (.other (toString fault))

/-- The source that has read the one program that is wanted. -/
def sourceFor (directory : String) : Option String → IO Source
  | none => return Source.empty
  | some name => do
    match Source.pathOf directory name with
    | .error fault => return fun _ => .error fault
    | .ok path => do
      let lines := Source.linesOf name path (← readFile path)
      return fun _ => lines

/-- The bytes of the input up to a line feed or its end. -/
partial def readBytes (input : IO.FS.Stream) (soFar : List UInt8) : IO (List UInt8) := do
  match (← input.read 1).toList with
  | [] => return soFar.reverse
  | byte :: _ => if byte = 10 then return (byte :: soFar).reverse else readBytes input (byte :: soFar)

/-- Asks for a line where somebody is there to be asked. -/
def prompt (interactive : Bool) : IO Unit := do
  if interactive then
    IO.print "Enter command (Q/U/P/T): "
    (← IO.getStdout).flush

/-- Answers the lines of the input one after the other. -/
partial def loop (directory : String) (interactive : Bool) (console : Console) : IO UInt32 := do
  prompt interactive
  match Lines.ofBytes (← readBytes (← IO.getStdin) []) with
  | [] => return 0
  | line :: _ => do
    let source ← sourceFor directory console.session.kernel.wanted?
    let turn := Console.feed source console line
    IO.print turn.output
    (← IO.getStdout).flush
    match turn.next with
    | .error status => return status
    | .ok next => loop directory interactive next

/-- Says why the program stops. -/
def complain (halt : Halt) : IO Unit :=
  match halt with
  | .fault fault => IO.eprintln fault.message
  | .noSuchLevel level => IO.eprintln s!"there is no ready queue of level {level}"

/-- Runs the console with the variables of the environment. -/
def run : IO UInt32 := do
  let keys := ["PROCSIM_PRIORITY_LEVELS", "PROCSIM_PROGRAM_DIR", "PROCSIM_INIT_PROGRAM", "PROCSIM_SNAPSHOT_FORMAT",
    "PROCSIM_TRACE_JSON"]
  let values ← keys.mapM fun key => return (key, ← IO.getEnv key)
  match Settings.read fun key => (values.lookup key).join with
  | .error fault => do
    complain (.fault fault)
    return 1
  | .ok settings => do
    let source ← sourceFor settings.programDir settings.initProgram
    match Console.start source settings with
    | .error halt => do
      complain halt
      return 1
    | .ok console => loop settings.programDir (← (← IO.getStdin).isTty) console

end Timeshare.Terminal

/-- The program: the exit status is that of the console. -/
def main : IO UInt32 := Timeshare.Terminal.run
