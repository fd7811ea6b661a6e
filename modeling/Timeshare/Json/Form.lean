import Timeshare.Json.Basic
import Timeshare.Word

/-!
# Reading values out of JSON

The rules by which a JSON value is read as a value of a domain type. Integers must be written as integers and
fit their word. A record is read from an object, where other keys do not matter and a missing member counts as
null, or from an array of all its fields in order. A name is read from a string, or from an object with that one
key and null. A tagged value has its name under one key and its contents under another, or is an array of the
two in which the name is a string. Null is the absent value of an optional field and no value of any other.
-/

namespace Timeshare.Json

/-- The string that a value is. -/
def string? : Json → Option String
  | str s => some s
  | _ => none

/-- The truth value that a value is. -/
def bool? : Json → Option Bool
  | bool b => some b
  | _ => none

/-- The integer that a value is. -/
def int? : Json → Option Int
  | int v => some v
  | _ => none

/-- The byte that a value is. -/
def uint8? (j : Json) : Option UInt8 := j.int?.bind Word.uint8?

/-- The unsigned 32-bit word that a value is. -/
def uint32? (j : Json) : Option UInt32 := j.int?.bind Word.uint32?

/-- The unsigned 64-bit word that a value is. -/
def uint64? (j : Json) : Option UInt64 := j.int?.bind Word.uint64?

/-- The signed 64-bit word that a value is. -/
def int64? (j : Json) : Option Int64 := j.int?.bind Word.int64?

/-- A value that may be absent; null is its absence. -/
def optional? {α : Type} (read : Json → Option α) : Json → Option (Option α)
  | null => some none
  | j => (read j).map some

/-- The items of an array, each read alike. -/
def list? {α : Type} (read : Json → Option α) : Json → Option (List α)
  | arr items => items.mapM read
  | _ => none

/-- The members of an object under these keys, in the order of the keys; a missing one counts as null. -/
def membersOf? (keys : List String) : Json → Option (List Json)
  | obj members => some (keys.map (fun key => (member? members key).getD null))
  | _ => none

/-- The fields of a record: the members under its keys, or the items of an array that has one for each. -/
def fields? (keys : List String) : Json → Option (List Json)
  | arr items => if items.length = keys.length then some items else none
  | j => membersOf? keys j

/-- A name: a string, or the one key of an object whose member is null. -/
def name? : Json → Option String
  | str s => some s
  | obj [(s, null)] => some s
  | _ => none

/-- A tagged value: a name under the key `tag` and the contents under the key `content`, or an array of a string and
the contents. -/
def tagged? (tag content : String) : Json → Option (String × Json)
  | arr [str name, contents] => some (name, contents)
  | j =>
    match membersOf? [tag, content] j with
    | some [name, contents] => name.name?.map (fun n => (n, contents))
    | _ => none

/-- A tagged value of a name without contents. -/
def bare? {α : Type} (value : α) : Json → Option α
  | null => some value
  | _ => none

/-- A word as a JSON integer. -/
def ofUInt8 (n : UInt8) : Json := int n.toNat

/-- A word as a JSON integer. -/
def ofUInt32 (n : UInt32) : Json := int n.toNat

/-- A word as a JSON integer. -/
def ofUInt64 (n : UInt64) : Json := int n.toNat

/-- A word as a JSON integer. -/
def ofInt64 (n : Int64) : Json := int n.toInt

/-- A value that may be absent; null is its absence. -/
def ofOption {α : Type} (write : α → Json) : Option α → Json
  | none => null
  | some a => write a

/-- A list as an array. -/
def ofList {α : Type} (write : α → Json) (items : List α) : Json := arr (items.map write)

end Timeshare.Json
