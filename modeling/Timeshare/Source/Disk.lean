import Timeshare.Source.Path

/-!
# Disks: files in directories

A disk is a tree of directories and files, held as the list of its entries by their places. The tree stands somewhere
in a larger one, of which only this is known: the directories above its top, and the root, are directories, and there
is nothing else in them but what is listed. A path is followed from the top, or from the root if it starts with a
slash, segment by segment. Whatever follows a file, an empty segment or a dot too, makes the path wrong, since a file
is no directory. A segment may have 255 bytes, which is checked where it is looked up, and a path less than 4096, and
no path holds the null character. An entry that is added makes each place that its path leads through a directory,
also one that the path leaves again.
-/

namespace Timeshare

/-- What stands at a place. -/
inductive Entry where
  | directory
  | file (content : ByteArray)

/-- A directory that is there in any case. -/
inductive Anchor where
  /-- The directory so many levels above the top of the disk; the top itself is 0 levels above. -/
  | above (levels : Nat)
  /-- The directory that no other lies above. -/
  | root
  deriving DecidableEq, Repr

/-- A place: where the segments lead, one down for each, from a directory that is there. -/
structure Place where
  start : Anchor := .above 0
  segments : List (List Char) := []
  deriving DecidableEq, Repr

/-- A tree of directories and files; of two entries of one place the later counts. -/
structure Disk where
  entries : List (Place × Entry) := []

/-- Why a path cannot be read. -/
inductive ReadFault where
  /-- There is nothing under the path. -/
  | missing
  /-- The path leads on from a file. -/
  | notDirectory
  /-- The path leads to a directory. -/
  | isDirectory
  /-- A segment of the path, or the path, is too long. -/
  | nameTooLong
  /-- The path holds the null character. -/
  | nullInName
  /-- Any other reason, in the words of the system. -/
  | other (text : String)
  deriving DecidableEq, Repr

/-- The wording of a read fault. -/
def ReadFault.message : ReadFault → String
  | missing => "No such file or directory (os error 2)"
  | notDirectory => "Not a directory (os error 20)"
  | isDirectory => "Is a directory (os error 21)"
  | nameTooLong => "File name too long (os error 36)"
  | nullInName => "file name contained an unexpected NUL byte"
  | other text => text

namespace Place

/-- The place above; the root is above itself. -/
def up : Place → Place
  | ⟨.root, []⟩ => ⟨.root, []⟩
  | ⟨.above levels, []⟩ => ⟨.above (levels + 1), []⟩
  | ⟨start, first :: rest⟩ => ⟨start, (first :: rest).dropLast⟩

/-- The place that a segment leads to. -/
def follow (here : Place) (segment : List Char) : Place :=
  if segment = [] ∨ segment = ['.'] then here
  else if segment = ['.', '.'] then here.up
  else { here with segments := here.segments ++ [segment] }

/-- The places that segments lead through one after the other, the last of them at the end. -/
def trail (here : Place) : List (List Char) → List Place
  | [] => []
  | segment :: rest => here.follow segment :: (here.follow segment).trail rest

/-- Where a path starts: at the root if it starts with a slash, and at the top otherwise. -/
def startOf (path : String) : Place := if path.toList.head? = some '/' then { start := .root } else {}

end Place

namespace Disk

/-- The disk with one more entry at the end of a path, and directories on the way to it. -/
def add (d : Disk) (path : String) (entry : Entry) : Disk :=
  let places := (Place.startOf path).trail (Path.segments path.toList)
  let way := places.dropLast.map (fun place => (place, Entry.directory))
  { entries := d.entries ++ way ++ places.getLast?.toList.map (fun place => (place, entry)) }

/-- What stands at a place: the last entry listed for it, or a directory that is there in any case. -/
def at? (d : Disk) (place : Place) : Option Entry :=
  match d.entries.reverse.lookup place with
  | some entry => some entry
  | none => if place.segments.isEmpty then some .directory else none

/-- Follows the segments of a path from a place. -/
def walk (d : Disk) (here : Place) : List (List Char) → Except ReadFault Entry
  | [] =>
    match d.at? here with
    | none => .error .missing
    | some entry => .ok entry
  | segment :: rest =>
    match d.at? here with
    | none => .error .missing
    | some (.file _) => .error .notDirectory
    | some .directory =>
      if 255 < (String.ofList segment).utf8ByteSize then .error .nameTooLong
      else d.walk (here.follow segment) rest

/-- The content of the file under a path. -/
def read (d : Disk) (path : String) : Except ReadFault ByteArray :=
  if '\x00' ∈ path.toList then .error .nullInName
  else if 4096 ≤ path.utf8ByteSize then .error .nameTooLong
  else
    match d.walk (Place.startOf path) (Path.segments path.toList) with
    | .error fault => .error fault
    | .ok .directory => .error .isDirectory
    | .ok (.file content) => .ok content

end Disk

end Timeshare
