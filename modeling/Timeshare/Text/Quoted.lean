import Timeshare.Text.Hidden

/-!
# Quoted texts

Messages name the text they are about between double quotes. A quote and a backslash inside it get a backslash
before them, the line feed, the carriage return, the tab and the null character are written as `\n`, `\r`, `\t`
and `\0`, and any other hidden character as `\u` and its number in base 16 between braces. What stands between
the quotes is thus visible on one line, and no two texts have the same quoted form.
-/

namespace Timeshare.Text

/-- A hidden character by its number: lower-case digits of base 16, no leading zeros. -/
def escapeByNumber (c : Char) : List Char := ['\\', 'u', '\x7b'] ++ Nat.toDigits 16 c.toNat ++ ['\x7d']

/-- One character inside a quoted text. -/
def escapeChar (c : Char) : List Char :=
  match c with
  | '"' => ['\\', '"']
  | '\\' => ['\\', '\\']
  | '\n' => ['\\', 'n']
  | '\r' => ['\\', 'r']
  | '\t' => ['\\', 't']
  | '\x00' => ['\\', '0']
  | c => if isHidden c then escapeByNumber c else [c]

/-- The text between double quotes, with what does not show escaped. -/
def quoted (s : String) : String := String.ofList (['"'] ++ s.toList.flatMap escapeChar ++ ['"'])

end Timeshare.Text
