import Timeshare.Source.Basic
import Timeshare.Source.Disk
import Timeshare.Text.Lines

/-!
# Programs in files

A directory is a source: the program of a name is the file at that name below it, and its lines are the lines of
the file's text. The name must lead down from the directory; what reads the files is a parameter, so the same
source serves a disk in memory and the real one.
-/

namespace Timeshare.Source

/-- The lines of a program whose file was read. -/
def linesOf (name path : String) : Except ReadFault ByteArray → Except LoadFault (List String)
  | .error .missing => .error (.notFound name)
  | .error fault => .error (.unreadable path fault.message)
  | .ok content =>
    match String.fromUTF8? content with
    | some text => .ok (Lines.ofString text)
    | none => .error (.unreadable path "stream did not contain valid UTF-8")

/-- The path of a program below a directory, if the name leads there. -/
def pathOf (directory name : String) : Except LoadFault String :=
  if Path.isProgramName name then .ok (Path.join directory name) else .error (.invalidName name)

/-- The source of the programs below a directory. -/
def directory (read : String → Except ReadFault ByteArray) (root : String) : Source := fun name =>
  match pathOf root name with
  | .error fault => .error fault
  | .ok path => linesOf name path (read path)

end Timeshare.Source
