/-!
# Sources: where programs come from

A source gives the lines of a program by its name, or says why it cannot. Two sources are alike exactly if they
give the same answer for every name, so a source is a function. A shelf holds its programs in memory, under any
names; of two of one name the later counts.
-/

namespace Timeshare

/-- Why a source has no lines to give. -/
inductive LoadFault where
  /-- There is no program of this name. -/
  | notFound (name : String)
  /-- The name cannot be the name of a program here. -/
  | invalidName (name : String)
  /-- There is something at this path that cannot be read as a program. -/
  | unreadable (path reason : String)
  deriving DecidableEq, Repr

/-- The wording of a load fault. -/
def LoadFault.message : LoadFault → String
  | notFound name => "program not found: " ++ name
  | invalidName name => "invalid program name: " ++ name
  | unreadable path reason => "I/O error reading " ++ path ++ ": " ++ reason

/-- A source of programs: the lines under each name. -/
abbrev Source := String → Except LoadFault (List String)

namespace Source

/-- The source that holds these programs. -/
def shelf (programs : List (String × List String)) : Source := fun name =>
  match programs.reverse.lookup name with
  | some lines => .ok lines
  | none => .error (.notFound name)

/-- The source that holds nothing. -/
def empty : Source := shelf []

end Source

end Timeshare
