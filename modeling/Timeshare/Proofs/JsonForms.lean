import Timeshare.Form.Fault
import Timeshare.Form.Program
import Timeshare.Form.Report
import Timeshare.Form.Settings
import Timeshare.Proofs.JsonText

/-!
# JSON forms keep values

Instructions, commands, faults, reported processes, snapshots, tallies and settings have JSON forms, from which they
are read back. A form that is read back and holds no number but integers is kept by every text of it, however that is
laid out (`Json.Faithful`), the printed one among them. All seven are kept (`Json.forms_faithful`).
-/

namespace Timeshare

/-! ## Words -/

namespace Word

theorem uint8?_toNat (n : UInt8) : uint8? n.toNat = some n := by
  have h : (n.toNat : Int).toNat < UInt8.size := n.toNat_lt
  rw [uint8?, if_pos ⟨Int.natCast_nonneg _, h⟩, Int.toNat_natCast, UInt8.ofNat_toNat]

theorem uint32?_toNat (n : UInt32) : uint32? n.toNat = some n := by
  have h : (n.toNat : Int).toNat < UInt32.size := n.toNat_lt
  rw [uint32?, if_pos ⟨Int.natCast_nonneg _, h⟩, Int.toNat_natCast, UInt32.ofNat_toNat]

theorem uint64?_toNat (n : UInt64) : uint64? n.toNat = some n := by
  have h : (n.toNat : Int).toNat < UInt64.size := n.toNat_lt
  rw [uint64?, if_pos ⟨Int.natCast_nonneg _, h⟩, Int.toNat_natCast, UInt64.ofNat_toNat]

/-- A signed 64-bit word fits such a word. -/
theorem int64?_toInt (n : Int64) : int64? n.toInt = some n := by
  have hmax : Int64.maxValue.toInt = 2 ^ 63 - 1 := rfl
  have hlt := n.toInt_lt
  rw [int64?, if_pos ⟨n.le_toInt, by omega⟩, Int64.ofInt_toInt]

end Word

namespace Json

/-! ## Reading what was written -/

variable {α : Type}

@[simp] theorem uint8?_ofUInt8 (n : UInt8) : (ofUInt8 n).uint8? = some n := Word.uint8?_toNat n

@[simp] theorem uint32?_ofUInt32 (n : UInt32) : (ofUInt32 n).uint32? = some n := Word.uint32?_toNat n

@[simp] theorem uint64?_ofUInt64 (n : UInt64) : (ofUInt64 n).uint64? = some n := Word.uint64?_toNat n

@[simp] theorem int64?_ofInt64 (n : Int64) : (ofInt64 n).int64? = some n := Word.int64?_toInt n

@[simp] theorem string?_str (s : String) : (str s).string? = some s := rfl

@[simp] theorem bool?_bool (b : Bool) : (bool b).bool? = some b := rfl

/-- A value that may be absent is read back if values are, and none of them is written as null. -/
theorem optional?_ofOption {write : α → Json} {read : Json → Option α} (hread : ∀ a, read (write a) = some a)
    (hnull : ∀ a, write a ≠ null) (x : Option α) : (ofOption write x).optional? read = some x := by
  cases x with
  | none => rfl
  | some a =>
    rw [ofOption, optional?]
    · rw [hread, Option.map_some]
    · exact hnull a

/-- A list is read back if its items are. -/
theorem list?_ofList {write : α → Json} {read : Json → Option α} (hread : ∀ a, read (write a) = some a) (xs : List α) :
    (ofList write xs).list? read = some xs := by
  rw [ofList, list?]
  induction xs with
  | nil => rfl
  | cons x xs ih => simp [hread, ih]

/-- A tagged value: its name under one key and, if it has contents, those under another. -/
def tagged (tag content name : String) (contents : Option Json) : Json :=
  obj ((tag, str name) :: contents.toList.map fun j => (content, j))

/-- A tagged value is read back, with null for contents that there are not. -/
theorem tagged?_tagged {tag content : String} (hne : tag ≠ content) (name : String) (contents : Option Json) :
    (tagged tag content name contents).tagged? tag content = some (name, contents.getD null) := by
  have hcontent : (content == tag) = false := beq_false_of_ne hne.symm
  have htag : (tag == content) = false := beq_false_of_ne hne
  cases contents with
  | none => simp [tagged, tagged?, membersOf?, member?, name?, List.lookup, hcontent]
  | some j => simp [tagged, tagged?, membersOf?, member?, name?, List.lookup, htag]

/-! ## Whole values -/

@[simp] theorem whole_ofUInt8 (n : UInt8) : Whole (ofUInt8 n) := .int _

@[simp] theorem whole_ofUInt32 (n : UInt32) : Whole (ofUInt32 n) := .int _

@[simp] theorem whole_ofUInt64 (n : UInt64) : Whole (ofUInt64 n) := .int _

@[simp] theorem whole_ofInt64 (n : Int64) : Whole (ofInt64 n) := .int _

@[simp] theorem whole_str (s : String) : Whole (str s) := .str s

@[simp] theorem whole_bool (b : Bool) : Whole (bool b) := .bool b

@[simp] theorem whole_obj_iff {ms : List (String × Json)} : Whole (obj ms) ↔ ∀ m ∈ ms, Whole m.2 :=
  ⟨fun h => (by cases h with | obj h => exact h), .obj⟩

/-- A value that may be absent is whole if values are. -/
theorem whole_ofOption {write : α → Json} (h : ∀ a, Whole (write a)) (x : Option α) : Whole (ofOption write x) := by
  cases x with
  | none => exact .null
  | some a => exact h a

theorem whole_ofList {write : α → Json} (h : ∀ a, Whole (write a)) (xs : List α) : Whole (ofList write xs) :=
  .arr (List.forall_mem_map.mpr fun a _ => h a)

/-- A tagged value is whole if its contents are. -/
theorem whole_tagged {tag content name : String} {contents : Option Json} (h : ∀ j ∈ contents, Whole j) :
    Whole (tagged tag content name contents) := by
  cases contents with
  | none => simp [tagged]
  | some j => simpa [tagged] using h j rfl

/-! ## Faithful forms -/

/-- What the form of a type keeps: everything. -/
structure Faithful (write : α → Json) (read : Json → Option α) : Prop where
  /-- A value is read back from its form. -/
  read_write : ∀ a, read (write a) = some a
  /-- No two values have one form. -/
  distinct : ∀ a b, write a = write b → a = b
  /-- A value is read back from any text of its form, however it is laid out. -/
  read_text : ∀ a text, Spelled (write a) text → (read? (String.ofList text)).bind read = some a
  /-- The printed form is such a text. -/
  printed : ∀ a, Spelled (write a) (write a).print.toList
  /-- No text is one of the forms of two values. -/
  apart : ∀ a b text, Spelled (write a) text → Spelled (write b) text → a = b

/-- A form that is read back and is whole keeps everything. -/
theorem Faithful.of_whole {write : α → Json} {read : Json → Option α} (hread : ∀ a, read (write a) = some a)
    (hwhole : ∀ a, Whole (write a)) : Faithful write read := by
  have hdistinct : ∀ a b, write a = write b → a = b := fun a b h => by
    have ha := hread a
    rw [h, hread] at ha
    exact (Option.some.inj ha).symm
  exact {
    read_write := hread
    distinct := hdistinct
    read_text := fun a text h => by rw [read?_of_spelled h, Option.bind_some, hread]
    printed := fun a => spelled_print (hwhole a)
    apart := fun a b _ ha hb => hdistinct a b (ha.unique hb) }

end Json

/-! ## Tagged values -/

namespace Fault

theorem toJson_eq_tagged (f : Fault) :
    f.toJson = Json.tagged "error_type" "details" f.kind (if f = simulationEnded then none else some f.details) := by
  cases f <;> rfl

theorem ofJson?_toJson (f : Fault) : ofJson? f.toJson = some f := by
  rw [toJson_eq_tagged, ofJson?, Json.tagged?_tagged (by decide)]
  cases f <;>
    simp [kind, details, ofDetails?, ofTwoStrings?, Json.membersOf?, Json.member?, List.lookup, Json.bare?]

theorem whole_toJson (f : Fault) : Json.Whole f.toJson := by
  rw [toJson_eq_tagged]
  refine Json.whole_tagged fun j hj => ?_
  cases f <;> simp [details] at hj <;> subst hj <;> simp

end Fault

namespace Instruction

/-- The name of an instruction in its form. -/
def formName : Instruction → String
  | set _ => "set"
  | add _ => "add"
  | sub _ => "sub"
  | block => "block"
  | exit => "exit"
  | fork _ => "fork"
  | replace _ => "replace"

/-- The argument of an instruction in its form; a block and an exit have none. -/
def formArgument : Instruction → Option Json
  | set v | add v | sub v => some (.ofInt64 v)
  | block | exit => none
  | fork n => some (.ofUInt64 n)
  | replace name => some (.str name)

theorem toJson_eq_tagged (i : Instruction) : i.toJson = Json.tagged "op" "arg" i.formName i.formArgument := by
  cases i <;> rfl

theorem ofJson?_toJson (i : Instruction) : ofJson? i.toJson = some i := by
  rw [toJson_eq_tagged, ofJson?, Json.tagged?_tagged (by decide)]
  cases i <;> simp [formName, formArgument, Json.bare?]

theorem whole_toJson (i : Instruction) : Json.Whole i.toJson := by
  rw [toJson_eq_tagged]
  refine Json.whole_tagged fun j hj => ?_
  cases i <;> simp [formArgument] at hj <;> subst hj <;> simp

end Instruction

/-! ## Records -/

theorem Command.ofJson?_toJson (c : Command) : ofJson? c.toJson = some c := by
  cases c <;> rfl

theorem Command.whole_toJson (c : Command) : Json.Whole c.toJson := by
  cases c <;> exact .str _

theorem ProcessInfo.ofJson?_toJson (p : ProcessInfo) : ofJson? p.toJson = some p := by
  have hparent := Json.optional?_ofOption Json.uint32?_ofUInt32 (fun n h => (by cases h)) p.parent
  simp [ofJson?, toJson, Json.fields?, Json.membersOf?, Json.member?, List.lookup, hparent]

theorem ProcessInfo.whole_toJson (p : ProcessInfo) : Json.Whole p.toJson := by
  simp [toJson, Json.whole_ofOption Json.whole_ofUInt32]

theorem ReadyLevel.ofJson?_toJson (l : ReadyLevel) : ofJson? l.toJson = some l := by
  have hprocesses := Json.list?_ofList ProcessInfo.ofJson?_toJson l.processes
  simp [ofJson?, toJson, Json.fields?, Json.membersOf?, Json.member?, List.lookup, hprocesses]

theorem ReadyLevel.whole_toJson (l : ReadyLevel) : Json.Whole l.toJson := by
  simp [toJson, Json.whole_ofList ProcessInfo.whole_toJson]

/-- A snapshot is read back from its form. -/
theorem Snapshot.ofJson?_toJson (s : Snapshot) : ofJson? s.toJson = some s := by
  have hrunning := Json.optional?_ofOption ProcessInfo.ofJson?_toJson (fun p h => (by cases h)) s.running
  have hblocked := Json.list?_ofList ProcessInfo.ofJson?_toJson s.blocked
  have hready := Json.list?_ofList ReadyLevel.ofJson?_toJson s.ready
  simp [ofJson?, toJson, Json.fields?, Json.membersOf?, Json.member?, List.lookup, hrunning, hblocked, hready]

theorem Snapshot.whole_toJson (s : Snapshot) : Json.Whole s.toJson := by
  simp [toJson, Json.whole_ofOption ProcessInfo.whole_toJson, Json.whole_ofList ProcessInfo.whole_toJson,
    Json.whole_ofList ReadyLevel.whole_toJson]

theorem Stats.ofJson?_toJson (s : Stats) : ofJson? s.toJson = some s := by
  simp [ofJson?, toJson, Json.fields?, Json.membersOf?, Json.member?, List.lookup]

theorem Stats.whole_toJson (s : Stats) : Json.Whole s.toJson := by
  simp [toJson]

theorem ReportFormat.ofJson?_toJson (f : ReportFormat) : ofJson? f.toJson = some f := by
  cases f <;> rfl

theorem ReportFormat.whole_toJson (f : ReportFormat) : Json.Whole f.toJson := by
  cases f <;> exact .str _

theorem Settings.ofJson?_toJson (s : Settings) : ofJson? s.toJson = some s := by
  have hinit := Json.optional?_ofOption Json.string?_str (fun p h => (by cases h)) s.initProgram
  simp [ofJson?, toJson, Json.fields?, Json.membersOf?, Json.member?, List.lookup, hinit, ReportFormat.ofJson?_toJson]

theorem Settings.whole_toJson (s : Settings) : Json.Whole s.toJson := by
  simp [toJson, Json.whole_ofOption Json.whole_str, ReportFormat.whole_toJson]

/-! ## All forms -/

/-- Instructions, commands, faults, reported processes, snapshots, tallies and settings are read back from their forms
and from every text of these, and no two of them have a form or a text in common. Faults and instructions are tagged,
with nothing beside the name where there is nothing to say. The report that is printed for a snapshot is the text of a
value from which the snapshot is read. -/
theorem Json.forms_faithful :
    Faithful Instruction.toJson Instruction.ofJson? ∧ Faithful Command.toJson Command.ofJson? ∧
      Faithful Fault.toJson Fault.ofJson? ∧
      Faithful ProcessInfo.toJson ProcessInfo.ofJson? ∧ Faithful Snapshot.toJson Snapshot.ofJson? ∧
      Faithful Stats.toJson Stats.ofJson? ∧ Faithful Settings.toJson Settings.ofJson? ∧
      (∀ f : Fault,
        f.toJson = tagged "error_type" "details" f.kind (if f = .simulationEnded then none else some f.details)) ∧
      (∀ i : Instruction, i.toJson = tagged "op" "arg" i.formName i.formArgument) ∧
      ∀ s : Snapshot, ∃ j, read? s.printed = some j ∧ Snapshot.ofJson? j = some s := by
  refine ⟨.of_whole Instruction.ofJson?_toJson Instruction.whole_toJson,
    .of_whole Command.ofJson?_toJson Command.whole_toJson, .of_whole Fault.ofJson?_toJson Fault.whole_toJson,
    .of_whole ProcessInfo.ofJson?_toJson ProcessInfo.whole_toJson,
    .of_whole Snapshot.ofJson?_toJson Snapshot.whole_toJson, .of_whole Stats.ofJson?_toJson Stats.whole_toJson,
    .of_whole Settings.ofJson?_toJson Settings.whole_toJson, Fault.toJson_eq_tagged, Instruction.toJson_eq_tagged,
    fun s => ?_⟩
  have hread := read?_of_spelled (spelled_print s.whole_toJson)
  rw [String.ofList_toList] at hread
  exact ⟨s.toJson, hread, s.ofJson?_toJson⟩

end Timeshare
