import Timeshare.Text.CaseTables
import Timeshare.Text.Hidden

/-!
# Lower case

The lower case of a text is written letter by letter from the table, with two exceptions that the standard
makes: a capital I with a dot becomes an i and a combining dot, and a capital sigma at the end of a word becomes
a final sigma. A sigma ends a word if a cased letter stands before it and none after it, where the characters
that case ignores are skipped on both sides.
-/

namespace Timeshare.Text

/-- The lower case of a single letter by the table; any other character is its own. -/
def lowerChar (c : Char) : Char :=
  let n := c.toNat
  match lowerRuns.find? (fun (first, last, step, _) => first ≤ n && n ≤ last && (n - first) % step == 0) with
  | some (_, _, _, shift) => Char.ofNat ((n : Int) + shift).toNat
  | none => c

/-- Whether the first character that case does not ignore is a cased letter. -/
def startsCased (cs : List Char) : Bool :=
  match cs.dropWhile (fun c => inRanges caseIgnorableRanges c.toNat) with
  | [] => false
  | c :: _ => inRanges casedRanges c.toNat

/-- The lower case of one character between what stands before it, the nearest first, and what stands after it. -/
def lowerBetween (before : List Char) (c : Char) (after : List Char) : List Char :=
  if c = 'Σ' then [if startsCased before && !startsCased after then 'ς' else 'σ']
  else if c = 'İ' then ['i', Char.ofNat 0x307]
  else [lowerChar c]

/-- The lower case of a text that stands after the reversed text `before`. -/
def lowerAfter : List Char → List Char → List Char
  | _, [] => []
  | before, c :: cs => lowerBetween before c cs ++ lowerAfter (c :: before) cs

/-- The lower case of a text. -/
def lowercase (cs : List Char) : List Char := lowerAfter [] cs

end Timeshare.Text
