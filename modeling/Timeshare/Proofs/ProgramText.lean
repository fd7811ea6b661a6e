import Timeshare.Proofs.Programs
import Timeshare.Proofs.Rendering
import Timeshare.Proofs.Snapshots

/-!
# Programs are read line by line

The lines of a program that are written on (`Program.written`) are read one by one and in order, and the others do not
matter. So lines can be put together from parts that are read apart, blank lines can be put in and taken out anywhere,
and the texts of the instructions of a program are lines of it (`Program.parse_linewise`).
-/

namespace Timeshare

/-- A line without words is an empty instruction, and no other is. -/
theorem Instruction.parse_eq_emptyInstruction_iff {line text : String} :
    parse line = .error (.emptyInstruction text) ↔ text = line ∧ Text.Blank line.toList := by
  rw [(grammatical line).empty, Text.words_eq_nil_iff]

/-- The text of an instruction is not blank. -/
theorem Instruction.not_blank_text (i : Instruction) : ¬Text.Blank i.text.toList := by
  rw [← Text.words_eq_nil_iff]
  cases harg : i.argument with
  | none => simp [words_text_of_none harg]
  | some arg => simp [words_text_of_some harg]

namespace Program

/-- The lines that are not blank. -/
def written (lines : List String) : List String := lines.filter fun line => ¬Text.Blank line.toList

/-- How the reader treats the lines of a program. -/
structure Linewise (read : List String → Except Fault Program) : Prop where
  /-- Lines hold a program exactly if each of them that is not blank can be read, and it is of their instructions in
  order. -/
  accepts : ∀ lines p, read lines = .ok p ↔
    List.Forall₂ (fun line i => Instruction.parse line = .ok i) (written lines) p
  /-- If not, the fault is that of the first line that is not blank and cannot be read. -/
  refuses : ∀ lines fault, read lines = .error fault ↔ ∃ older line newer, lines = older ++ line :: newer ∧
    (∀ l ∈ older, Text.Blank l.toList ∨ ∃ i, Instruction.parse l = .ok i) ∧ ¬Text.Blank line.toList ∧
    Instruction.parse line = .error fault
  /-- It is never that a line is empty. -/
  never_empty : ∀ lines text, read lines ≠ .error (.emptyInstruction text)
  /-- Two parts hold a program exactly if both do, and it is theirs one after the other. -/
  append : ∀ a b r, read (a ++ b) = .ok r ↔ ∃ p q, r = p ++ q ∧ read a = .ok p ∧ read b = .ok q
  /-- The program is cut where the parts are. -/
  cut : ∀ a b p q, read (a ++ b) = .ok (p ++ q) ∧ p.length = (written a).length ↔ read a = .ok p ∧ read b = .ok q
  /-- The fault of the first part comes before that of the second. -/
  append_refused : ∀ a b fault, read (a ++ b) = .error fault ↔
    read a = .error fault ∨ (∃ p, read a = .ok p) ∧ read b = .error fault
  /-- Blank lines can be put in and taken out. -/
  insert : ∀ older blanks newer, (∀ l ∈ blanks, Text.Blank l.toList) → read (older ++ blanks ++ newer) =
    read (older ++ newer)
  /-- They can be put in and taken out anywhere: all that matters is which lines are not blank, and their order. -/
  respaced : ∀ lines lines', written lines = written lines' → read lines = read lines'
  /-- A program that was read is read from the texts of its instructions too, with any blank lines put in. -/
  rewritten : ∀ lines lines' p, read lines = .ok p → written lines' = written (p.map Instruction.text) →
    read lines' = .ok p

variable {a b lines lines' : List String} {p : Program} {fault : Fault}

/-! ## The lines that are written on -/

theorem blankString_eq_false_iff {line : String} : Text.blankString line = false ↔ ¬Text.Blank line.toList := by
  rw [← Text.blankString_iff, Bool.not_eq_true]

/-- What is read of lines are those that are written on. -/
theorem parse_eq (lines : List String) : parse lines = (written lines).mapM Instruction.parse := by
  have hfilter : (fun line => !Text.blankString line) = fun line => decide ¬Text.Blank line.toList := by
    funext line
    rw [Bool.eq_iff_iff, Bool.not_eq_true', decide_eq_true_eq, blankString_eq_false_iff]
  rw [parse, hfilter]
  rfl

theorem written_append (a b : List String) : written (a ++ b) = written a ++ written b := List.filter_append a b

/-- Nothing is written on blank lines. -/
theorem written_of_blank (h : ∀ l ∈ lines, Text.Blank l.toList) : written lines = [] := by
  rw [written, List.filter_eq_nil_iff]
  intro l hl
  simpa using h l hl

/-- All texts of instructions are written. -/
theorem written_map_text (p : Program) : written (p.map Instruction.text) = p.map Instruction.text := by
  rw [written, List.filter_eq_self]
  intro line hline
  obtain ⟨i, -, rfl⟩ := List.mem_map.mp hline
  simpa using i.not_blank_text

/-! ## Reading -/

/-- Lines hold a program exactly if its instructions are on those that are written on. -/
theorem parse_eq_ok_iff :
    parse lines = .ok p ↔ List.Forall₂ (fun line i => Instruction.parse line = .ok i) (written lines) p := by
  rw [parse_eq, mapM_eq_ok_iff]

/-- The first line that is not blank and cannot be read, where every line before it is blank or can be read. -/
theorem stops_iff : Stops lines fault ↔ ∃ older line newer, lines = older ++ line :: newer ∧
    (∀ l ∈ older, Text.Blank l.toList ∨ ∃ i, Instruction.parse l = .ok i) ∧ ¬Text.Blank line.toList ∧
    Instruction.parse line = .error fault := by
  simp only [Stops, Readable, blankString_eq_false_iff, or_iff_not_imp_left]

theorem parse_append (a b : List String) : parse (a ++ b) = (do let p ← parse a; let q ← parse b; return p ++ q) := by
  rw [parse_eq, parse_eq, parse_eq, written_append, List.mapM_append]

/-- Two parts hold a program exactly if both do. -/
theorem parse_append_eq_ok_iff {r : Program} :
    parse (a ++ b) = .ok r ↔ ∃ p q, r = p ++ q ∧ parse a = .ok p ∧ parse b = .ok q := by
  rw [parse_append]
  simp only [bind_eq_ok_iff]
  constructor
  · rintro ⟨p, hp, q, hq, h⟩
    exact ⟨p, q, (Except.ok.inj h).symm, hp, hq⟩
  · rintro ⟨p, q, rfl, hp, hq⟩
    exact ⟨p, hp, q, hq, rfl⟩

theorem length_of_parse (h : parse lines = .ok p) : p.length = (written lines).length :=
  (parse_eq_ok_iff.mp h).length_eq.symm

/-- The fault of the first part comes before that of the second. -/
theorem parse_append_eq_error_iff :
    parse (a ++ b) = .error fault ↔ parse a = .error fault ∨ (∃ p, parse a = .ok p) ∧ parse b = .error fault := by
  rw [parse_append]
  cases parse a with
  | error e => exact ⟨.inl, fun h => h.elim (fun h => h) fun ⟨⟨_, hp⟩, _⟩ => by cases hp⟩
  | ok p =>
    cases parse b with
    | error e => exact ⟨fun h => .inr ⟨⟨p, rfl⟩, h⟩, fun h => h.elim (fun h => by cases h) fun h => h.2⟩
    | ok q => exact ⟨fun h => (by cases h), fun h => h.elim (fun h => by cases h) fun h => by cases h.2⟩

/-- A program that was read is read from the texts of its instructions. -/
theorem parse_of_written (h : parse lines = .ok p) (hlines : written lines' = written (p.map Instruction.text)) :
    parse lines' = .ok p := by
  rw [parse_eq_ok_iff] at h ⊢
  rw [hlines, written_map_text, List.forall₂_map_left_iff, List.forall₂_same]
  intro i hi
  obtain ⟨line, -, hline⟩ := exists_of_forall₂ h hi
  exact Instruction.parse_text_of_parse hline

/-- Programs are read line by line, and blank lines do not matter. -/
theorem parse_linewise : Linewise parse where
  accepts _ _ := parse_eq_ok_iff
  refuses _ _ := parse_eq_error_iff.trans stops_iff
  never_empty lines text h := by
    obtain ⟨_, line, _, _, _, hsolid, hline⟩ := stops_iff.mp (parse_eq_error_iff.mp h)
    exact hsolid (Instruction.parse_eq_emptyInstruction_iff.mp hline).2
  append _ _ _ := parse_append_eq_ok_iff
  cut a b p q := by
    rw [parse_append_eq_ok_iff]
    constructor
    · rintro ⟨⟨p', q', hcut, hp, hq⟩, hlength⟩
      obtain ⟨rfl, rfl⟩ := List.append_inj hcut (hlength.trans (length_of_parse hp).symm)
      exact ⟨hp, hq⟩
    · exact fun ⟨hp, hq⟩ => ⟨⟨p, q, rfl, hp, hq⟩, length_of_parse hp⟩
  append_refused _ _ _ := parse_append_eq_error_iff
  insert older blanks newer h := by
    rw [parse_eq, parse_eq, written_append, written_append, written_of_blank h, List.append_nil, written_append]
  respaced lines lines' h := by rw [parse_eq, parse_eq, h]
  rewritten _ _ _ := parse_of_written

example : parse ["S 1", "", " \t ", "E"] = .ok [.set 1, .exit] := by decide

end Program

end Timeshare
