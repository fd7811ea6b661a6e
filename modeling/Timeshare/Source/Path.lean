/-!
# Paths and program names

A path is a text of segments between slashes. Read as steps from a directory it has a step to the root if it
starts with a slash, no step for an empty segment or for a dot (but a dot that the path starts with is a step
that stays), a step up for two dots, and a step down for any other segment. A name is the name of a program only
if all its steps, and at least one, lead down: so a program is always found below the directory that its name is
joined to.
-/

namespace Timeshare.Path

/-- A step of a path. -/
inductive Step where
  /-- To the root of all directories. -/
  | root
  /-- Nowhere. -/
  | stay
  /-- To the directory above. -/
  | up
  /-- To the entry of this name. -/
  | down (name : List Char)
  deriving DecidableEq, Repr

/-- The parts of a path between its slashes, empty ones included. -/
def segments (path : List Char) : List (List Char) := path.splitOnP (· == '/')

/-- The step of a segment that is not the first of its path, if it is one. -/
def stepOf (segment : List Char) : Option Step :=
  if segment = [] ∨ segment = ['.'] then none
  else if segment = ['.', '.'] then some .up
  else some (.down segment)

/-- The steps of a path. -/
def steps (path : List Char) : List Step :=
  match segments path with
  | ['.'] :: rest => .stay :: rest.filterMap stepOf
  | [] :: (next :: rest) => .root :: (next :: rest).filterMap stepOf
  | parts => parts.filterMap stepOf

/-- Whether a step leads down. -/
def Step.isDown : Step → Bool
  | down _ => true
  | _ => false

/-- Whether a name may be the name of a program: it is not empty, and all its steps lead down. -/
def isProgramName (name : String) : Bool := !name.isEmpty && (steps name.toList).all Step.isDown

/-- The path of a name below a directory: a slash comes between unless the directory is empty or ends in one. -/
def join (directory name : String) : String :=
  match directory.toList.getLast? with
  | none => name
  | some '/' => directory ++ name
  | some _ => directory ++ "/" ++ name

end Timeshare.Path
