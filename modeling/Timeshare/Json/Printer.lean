import Timeshare.Json.Basic

/-!
# Printing JSON

The printed form has each item of an array and each member of an object on a line of its own, indented by two
spaces for each level; an empty array or object is written in place. In a string the quote, the backslash and
the controls are escaped, five controls by a letter and the others by number, and every other character stands
for itself.
-/

namespace Timeshare.Json

/-- A character inside a JSON string. -/
def escapeChar (c : Char) : List Char :=
  match c with
  | '"' => ['\\', '"']
  | '\\' => ['\\', '\\']
  | '\x08' => ['\\', 'b']
  | '\t' => ['\\', 't']
  | '\n' => ['\\', 'n']
  | '\x0c' => ['\\', 'f']
  | '\r' => ['\\', 'r']
  | c =>
    if c.toNat < 0x20 then
      ['\\', 'u', '0', '0', Nat.digitChar (c.toNat / 16), Nat.digitChar (c.toNat % 16)]
    else [c]

/-- A JSON string, between its quotes. -/
def printString (s : String) : List Char := '"' :: (s.toList.flatMap escapeChar ++ ['"'])

/-- The start of a line at a depth of nesting. -/
def lineAt (depth : Nat) : List Char := '\n' :: List.replicate (2 * depth) ' '

mutual

/-- The printed form of a value that starts at this depth. -/
def printAt (depth : Nat) : Json → List Char
  | null => "null".toList
  | bool true => "true".toList
  | bool false => "false".toList
  | int value => value.repr.toList
  | real text => text.toList
  | str value => printString value
  | arr [] => ['[', ']']
  | arr (x :: xs) =>
    '[' :: (lineAt (depth + 1) ++ printAt (depth + 1) x ++ printItems (depth + 1) xs ++ lineAt depth ++ [']'])
  | obj [] => ['\x7b', '\x7d']
  | obj ((key, x) :: ms) =>
    '\x7b' :: (lineAt (depth + 1) ++ printString key ++ [':', ' '] ++ printAt (depth + 1) x
      ++ printMembers (depth + 1) ms ++ lineAt depth ++ ['\x7d'])

/-- The items of an array after its first. -/
def printItems (depth : Nat) : List Json → List Char
  | [] => []
  | x :: xs => ',' :: (lineAt depth ++ printAt depth x ++ printItems depth xs)

/-- The members of an object after its first. -/
def printMembers (depth : Nat) : List (String × Json) → List Char
  | [] => []
  | (key, x) :: ms =>
    ',' :: (lineAt depth ++ printString key ++ [':', ' '] ++ printAt depth x ++ printMembers depth ms)

end

/-- The printed form of a value. -/
def print (j : Json) : String := String.ofList (printAt 0 j)

end Timeshare.Json
