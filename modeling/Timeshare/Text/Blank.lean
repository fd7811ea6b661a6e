/-!
# Blanks and words

A blank is one of the 25 characters of the Unicode property White_Space. Blanks separate words and are cut away
at both ends of a text; every other character belongs to a word, the zero-width space and the byte order mark
too. The functions work on lists of characters, where their laws are inductions; `trimmed` and `blankString` are
their forms on strings.
-/

namespace Timeshare.Text

/-- A blank: a character of the Unicode property White_Space. -/
def isBlank (c : Char) : Bool :=
  let n := c.toNat
  (9 ≤ n && n ≤ 13) || n == 0x20 || n == 0x85 || n == 0xA0 || n == 0x1680 || (0x2000 ≤ n && n ≤ 0x200A)
    || n == 0x2028 || n == 0x2029 || n == 0x202F || n == 0x205F || n == 0x3000

/-- The text without the blanks it starts with. -/
def dropBlanks (cs : List Char) : List Char := cs.dropWhile isBlank

/-- The text without the blanks it starts and ends with. -/
def trim (cs : List Char) : List Char := (dropBlanks (dropBlanks cs).reverse).reverse

/-- The words of a text: its maximal runs of characters that are not blanks, in order. -/
def words (cs : List Char) : List (List Char) := (cs.splitOnP isBlank).filter (fun w => !w.isEmpty)

/-- The string without the blanks it starts and ends with. -/
def trimmed (s : String) : String := String.ofList (trim s.toList)

/-- A string of which trimming leaves nothing. -/
def blankString (s : String) : Bool := (trim s.toList).isEmpty

/-- A trimmed text does not start with a blank. -/
theorem isBlank_head_dropBlanks {cs r : List Char} {c : Char} (h : dropBlanks cs = c :: r) : isBlank c = false := by
  induction cs with
  | nil => simp [dropBlanks] at h
  | cons d cs ih =>
    by_cases hd : isBlank d
    · exact ih (by simpa [dropBlanks, List.dropWhile_cons, hd] using h)
    · have heq : d :: cs = c :: r := by simpa [dropBlanks, List.dropWhile_cons, hd] using h
      obtain ⟨rfl, _⟩ := List.cons.inj heq
      simpa using hd

end Timeshare.Text
