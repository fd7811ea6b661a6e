import Timeshare.Json.Basic

/-!
# Reading JSON

The reader takes one value from the front of a text and leaves the rest. A text is read as a whole when only
blanks are left. Each step of the reader costs one unit of a budget; `Json.read?` gives it two for each
character, which no text exceeds, since a step that takes no character is followed by one that does.
-/

namespace Timeshare.Json

/-- The four blanks that JSON allows between tokens. -/
def isGap (c : Char) : Bool := c == ' ' || c == '\t' || c == '\n' || c == '\r'

/-- The text without the blanks it starts with. -/
def skipGaps (cs : List Char) : List Char := cs.dropWhile isGap

/-- The value of a digit of base 16, in either case. -/
def hexDigit? (c : Char) : Option Nat :=
  let n := c.toNat
  if 48 ≤ n ∧ n ≤ 57 then some (n - 48)
  else if 97 ≤ n ∧ n ≤ 102 then some (n - 87)
  else if 65 ≤ n ∧ n ≤ 70 then some (n - 55)
  else none

/-- The value of four digits of base 16. -/
def hexFour? (a b c d : Char) : Option Nat := do
  let a ← hexDigit? a
  let b ← hexDigit? b
  let c ← hexDigit? c
  let d ← hexDigit? d
  pure (((a * 16 + b) * 16 + c) * 16 + d)

/-- Whether a number is the first of the two that stand for a character past U+FFFF. -/
def isHighHalf (n : Nat) : Bool := 0xD800 ≤ n && n ≤ 0xDBFF

/-- Whether a number is the second of the two that stand for a character past U+FFFF. -/
def isLowHalf (n : Nat) : Bool := 0xDC00 ≤ n && n ≤ 0xDFFF

/-- The character that an escape by one number stands for; half of a pair stands for none. -/
def escapedOne? (n : Nat) : Option Char := if isHighHalf n || isLowHalf n then none else some (Char.ofNat n)

/-- The character that an escape by two numbers stands for. -/
def escapedTwo? (high low : Nat) : Option Char :=
  if isHighHalf high && isLowHalf low then
    some (Char.ofNat (0x10000 + (high - 0xD800) * 0x400 + (low - 0xDC00)))
  else none

/-- The character that a letter after a backslash stands for. -/
def escapedLetter? : Char → Option Char
  | '"' => some '"'
  | '\\' => some '\\'
  | '/' => some '/'
  | 'b' => some '\x08'
  | 'f' => some '\x0c'
  | 'n' => some '\n'
  | 'r' => some '\r'
  | 't' => some '\t'
  | _ => none

/-- The characters of a string after its opening quote, and what follows its closing one. -/
def readString : List Char → Option (List Char × List Char)
  | [] => none
  | '"' :: r => some ([], r)
  | '\\' :: 'u' :: a :: b :: c :: d :: r =>
    match hexFour? a b c d with
    | none => none
    | some n =>
      if isHighHalf n then
        match r with
        | '\\' :: 'u' :: a :: b :: c :: d :: r => do
          let x ← escapedTwo? n (← hexFour? a b c d)
          let (xs, rest) ← readString r
          pure (x :: xs, rest)
        | _ => none
      else do
        let x ← escapedOne? n
        let (xs, rest) ← readString r
        pure (x :: xs, rest)
  | '\\' :: c :: r => do
    let x ← escapedLetter? c
    let (xs, rest) ← readString r
    pure (x :: xs, rest)
  | c :: r =>
    if c == '\\' || c.toNat < 0x20 then none
    else do
      let (xs, rest) ← readString r
      pure (c :: xs, rest)

/-- One or more digits at the front of a text. -/
def readDigits (cs : List Char) : Option (List Char × List Char) :=
  match cs.takeWhile Char.isDigit with
  | [] => none
  | ds => some (ds, cs.dropWhile Char.isDigit)

/-- The digits before the fraction: a single zero, or digits that start with another. -/
def readWhole (cs : List Char) : Option (List Char × List Char) :=
  match readDigits cs with
  | some ('0' :: _ :: _, _) => none
  | r => r

/-- The fraction at the front of a text, with its point; empty where there is none. -/
def readFraction : List Char → Option (List Char × List Char)
  | '.' :: cs => (readDigits cs).map (fun (ds, r) => ('.' :: ds, r))
  | cs => some ([], cs)

/-- The exponent at the front of a text, with its letter and sign; empty where there is none. -/
def readExponent : List Char → Option (List Char × List Char)
  | 'e' :: '-' :: cs => (readDigits cs).map (fun (ds, r) => ('e' :: '-' :: ds, r))
  | 'e' :: '+' :: cs => (readDigits cs).map (fun (ds, r) => ('e' :: '+' :: ds, r))
  | 'e' :: cs => (readDigits cs).map (fun (ds, r) => ('e' :: ds, r))
  | 'E' :: '-' :: cs => (readDigits cs).map (fun (ds, r) => ('E' :: '-' :: ds, r))
  | 'E' :: '+' :: cs => (readDigits cs).map (fun (ds, r) => ('E' :: '+' :: ds, r))
  | 'E' :: cs => (readDigits cs).map (fun (ds, r) => ('E' :: ds, r))
  | cs => some ([], cs)

/-- A number without its sign, and what follows it. -/
def readMagnitude (negative : Bool) (cs : List Char) : Option (Json × List Char) := do
  let (whole, r) ← readWhole cs
  let (fraction, r) ← readFraction r
  let (exponent, r) ← readExponent r
  let n := Nat.ofDigitChars 10 whole 0
  if fraction.isEmpty && exponent.isEmpty && !(negative && n == 0) then
    pure (int (if negative then -(n : Int) else n), r)
  else
    pure (real (String.ofList ((if negative then ['-'] else []) ++ whole ++ fraction ++ exponent)), r)

/-- A number at the front of a text. -/
def readNumber : List Char → Option (Json × List Char)
  | '-' :: cs => readMagnitude true cs
  | cs => readMagnitude false cs

mutual

/-- A value at the front of a text. -/
def readValue : Nat → List Char → Option (Json × List Char)
  | 0, _ => none
  | budget + 1, cs =>
    match skipGaps cs with
    | 'n' :: 'u' :: 'l' :: 'l' :: r => some (null, r)
    | 't' :: 'r' :: 'u' :: 'e' :: r => some (bool true, r)
    | 'f' :: 'a' :: 'l' :: 's' :: 'e' :: r => some (bool false, r)
    | '"' :: r => (readString r).map (fun (s, r) => (str (String.ofList s), r))
    | '[' :: r =>
      match skipGaps r with
      | ']' :: r => some (arr [], r)
      | r => (readItems budget r).map (fun (xs, r) => (arr xs, r))
    | '\x7b' :: r =>
      match skipGaps r with
      | '\x7d' :: r => some (obj [], r)
      | r => (readMembers budget r).map (fun (ms, r) => (obj ms, r))
    | r => readNumber r

/-- One or more items and the bracket that ends them. -/
def readItems : Nat → List Char → Option (List Json × List Char)
  | 0, _ => none
  | budget + 1, cs =>
    match readValue budget cs with
    | none => none
    | some (x, r) =>
      match skipGaps r with
      | ']' :: r => some ([x], r)
      | ',' :: r => (readItems budget r).map (fun (xs, r) => (x :: xs, r))
      | _ => none

/-- One or more members and the brace that ends them. -/
def readMembers : Nat → List Char → Option (List (String × Json) × List Char)
  | 0, _ => none
  | budget + 1, cs =>
    match skipGaps cs with
    | '"' :: r =>
      match readString r with
      | none => none
      | some (key, r) =>
        match skipGaps r with
        | ':' :: r =>
          match readValue budget r with
          | none => none
          | some (x, r) =>
            match skipGaps r with
            | '\x7d' :: r => some ([(String.ofList key, x)], r)
            | ',' :: r => (readMembers budget r).map (fun (ms, r) => ((String.ofList key, x) :: ms, r))
            | _ => none
        | _ => none
    | _ => none

end

/-- The value that a text holds, if it holds one and nothing else. -/
def read? (text : String) : Option Json :=
  let cs := text.toList
  match readValue (2 * cs.length + 2) cs with
  | some (j, r) => if (skipGaps r).isEmpty then some j else none
  | none => none

end Timeshare.Json
