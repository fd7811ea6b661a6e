import Timeshare.Fault
import Timeshare.Text.Blank
import Timeshare.Text.Numeral

/-!
# Instructions and programs

A program is a list of instructions, written one a line: a letter and, for most letters, one argument, as words
between blanks. `Instruction.text` writes an instruction and `Instruction.parse` reads a line. Reading is
strict: the letter must be known, then the number of arguments right, then the argument a numeral that fits its
word. In a program, lines of blanks are skipped and the first line that cannot be read refuses the whole.
-/

namespace Timeshare

/-- One instruction of a simulated process. -/
inductive Instruction where
  /-- The accumulator becomes the value. -/
  | set (value : Word)
  /-- The value is added to the accumulator. -/
  | add (value : Word)
  /-- The value is subtracted from the accumulator. -/
  | sub (value : Word)
  /-- The process waits until it is woken. -/
  | block
  /-- The process ends. -/
  | exit
  /-- A child starts after this instruction; the parent skips so many more. -/
  | fork (skip : UInt64)
  /-- The process starts the program of this name. -/
  | replace (name : String)
  deriving DecidableEq, Repr

/-- A program: its instructions in order. -/
abbrev Program := List Instruction

namespace Instruction

/-- The letter that an instruction is written with. -/
def opcode : Instruction → Char
  | set _ => 'S'
  | add _ => 'A'
  | sub _ => 'D'
  | block => 'B'
  | exit => 'E'
  | fork _ => 'F'
  | replace _ => 'R'

/-- The argument that an instruction is written with, if it takes one. -/
def argument : Instruction → Option String
  | set v | add v | sub v => some (v.toInt.repr)
  | block | exit => none
  | fork n => some (n.toNat.repr)
  | replace name => some name

/-- The line of an instruction: its letter and, after one space, its argument. -/
def text (i : Instruction) : String :=
  match i.argument with
  | none => i.opcode.toString
  | some arg => i.opcode.toString ++ " " ++ arg

/-- The one argument of a line that must have one. -/
def oneArgument (line : String) : List (List Char) → Except Fault (List Char)
  | [] => .error (.invalidArgument line "missing argument")
  | [arg] => .ok arg
  | args => .error (.invalidArgument line s!"expected 1 argument, got {args.length}")

/-- A line that must have no argument. -/
def noArgument (line : String) : List (List Char) → Except Fault Unit
  | [] => .ok ()
  | _ :: _ => .error (.invalidArgument line "takes no arguments")

/-- The one argument of a line, read as a number. -/
def oneNumber {α : Type} (line : String) (read : List Char → Option α) (args : List (List Char)) :
    Except Fault α :=
  match oneArgument line args with
  | .error fault => .error fault
  | .ok arg =>
    match read arg with
    | some value => .ok value
    | none => .error (.invalidArgument line (Text.quoted (String.ofList arg) ++ " is not a valid number"))

/-- The instruction that a line holds, given its words. -/
def ofWords (line : String) : List (List Char) → Except Fault Instruction
  | [] => .error (.emptyInstruction line)
  | ['S'] :: args => (oneNumber line Numeral.int64? args).map set
  | ['A'] :: args => (oneNumber line Numeral.int64? args).map add
  | ['D'] :: args => (oneNumber line Numeral.int64? args).map sub
  | ['B'] :: args => (noArgument line args).map (fun _ => block)
  | ['E'] :: args => (noArgument line args).map (fun _ => exit)
  | ['F'] :: args => (oneNumber line Numeral.uint64? args).map fork
  | ['R'] :: args => (oneArgument line args).map (fun name => replace (String.ofList name))
  | letter :: _ => .error (.unknownOpcode (Text.trimmed line) (String.ofList letter))

/-- The instruction that a line holds. -/
def parse (line : String) : Except Fault Instruction := ofWords line (Text.words line.toList)

end Instruction

namespace Program

/-- The program that the lines hold: those of blanks are skipped, and the first that cannot be read refuses the
program. -/
def parse (lines : List String) : Except Fault Program :=
  (lines.filter (fun line => !Text.blankString line)).mapM Instruction.parse

end Program

end Timeshare
