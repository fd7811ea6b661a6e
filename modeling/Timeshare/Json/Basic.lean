/-!
# JSON values

A JSON value as a tree. Numbers are of two kinds: integers, which keep their value whatever its size, and all
others, which keep the text they were written with, since nothing here computes with them; a number written with
a fraction or an exponent is no integer even if its value is whole, and neither is `-0`. An object keeps its
members in the order in which they were written; where a key is written twice the last member counts.
-/

namespace Timeshare

/-- A JSON value. -/
inductive Json where
  | null
  | bool (value : Bool)
  | int (value : Int)
  | real (text : String)
  | str (value : String)
  | arr (items : List Json)
  | obj (members : List (String × Json))

namespace Json

/-- The value of the last member with this key. -/
def member? (members : List (String × Json)) (key : String) : Option Json := members.reverse.lookup key

end Json

end Timeshare
