/-!
# Lines

A line ends at a line feed, and one carriage return before that line feed is not part of it. What follows the
last line feed is a line of its own if it is not empty, and a carriage return it ends with stays. The rule is
the same for characters and for bytes, so `Lines.cut` takes the two terminators as arguments.
-/

namespace Timeshare.Lines

/-- The line without the one terminator `cr` it may end with. -/
def dropReturn {α : Type} [BEq α] (cr : α) (line : List α) : List α :=
  if line.getLast? == some cr then line.dropLast else line

/-- The lines of a list whose pieces were cut at the line feeds: each piece but the last was ended by one. -/
def ofPieces {α : Type} [BEq α] (cr : α) : List (List α) → List (List α)
  | [] => []
  | [last] => if last.isEmpty then [] else [last]
  | piece :: next :: rest => dropReturn cr piece :: ofPieces cr (next :: rest)

/-- The lines of a list, cut at the terminator `lf`. -/
def cut {α : Type} [BEq α] (cr lf : α) (cs : List α) : List (List α) := ofPieces cr (cs.splitOnP (· == lf))

/-- The lines of a string. -/
def ofString (s : String) : List String := (cut '\r' '\n' s.toList).map String.ofList

/-- The lines of a list of bytes, before they are decoded: no byte of a longer character is a terminator. -/
def ofBytes (bs : List UInt8) : List (List UInt8) := cut 13 10 bs

end Timeshare.Lines
