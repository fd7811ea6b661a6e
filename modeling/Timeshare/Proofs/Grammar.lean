import Timeshare.Instruction
import Timeshare.Proofs.Numerals
import Timeshare.Proofs.Words

/-!
# The grammar of instructions

Which words spell which instruction is said here once, without an algorithm (`Instruction.Spells`). A line is read as
an instruction exactly if its words spell it. Any other line is refused: because it has no words, because its first
word is no letter of an instruction, or because its arguments are not what the letter takes
(`Instruction.parse_grammatical`).
-/

namespace Timeshare.Instruction

/-- The words that instructions start with. -/
def letters : List (List Char) := [['S'], ['A'], ['D'], ['B'], ['E'], ['F'], ['R']]

/-- The words spell the instruction: its letter and what its argument may be written as, and no more. -/
def Spells (ws : List (List Char)) : Instruction → Prop
  | set v => ∃ x, ws = [['S'], x] ∧ Numeral.SignedWord x v
  | add v => ∃ x, ws = [['A'], x] ∧ Numeral.SignedWord x v
  | sub v => ∃ x, ws = [['D'], x] ∧ Numeral.SignedWord x v
  | block => ws = [['B']]
  | exit => ws = [['E']]
  | fork n => ∃ x, ws = [['F'], x] ∧ Numeral.UnsignedWord x n
  | replace name => ws = [['R'], name.toList]

/-- What becomes of a line that has these words. -/
structure Grammatical (line : String) (ws : List (List Char)) : Prop where
  /-- It is an empty instruction exactly if it has no words. -/
  empty : ∀ text, parse line = .error (.emptyInstruction text) ↔ text = line ∧ ws = []
  /-- It has an unknown opcode exactly if the first word is no letter of an instruction; the fault names the line,
  trimmed, and this word. -/
  unknown : ∀ text opcode, parse line = .error (.unknownOpcode text opcode) ↔
    Text.Trims line.toList text.toList ∧ ∃ args, ws = opcode.toList :: args ∧ opcode.toList ∉ letters
  /-- It is read as an instruction exactly if the words spell that. -/
  accepted : ∀ i, parse line = .ok i ↔ Spells ws i
  /-- It has an invalid argument exactly in every other case; the fault names the line as it is. -/
  invalid : ∀ text, (∃ reason, parse line = .error (.invalidArgument text reason)) ↔
    text = line ∧ (∃ letter args, ws = letter :: args ∧ letter ∈ letters) ∧ ∀ i, ¬Spells ws i

variable {line : String} {args ws : List (List Char)} {letter : List Char} {α β : Type}

/-! ## Arguments -/

theorem map_eq_ok_iff {x : Except Fault α} {f : α → β} {b : β} : x.map f = .ok b ↔ ∃ a, x = .ok a ∧ f a = b := by
  cases x <;> simp [Except.map]

theorem map_eq_error_iff {x : Except Fault α} {f : α → β} {fault : Fault} :
    x.map f = .error fault ↔ x = .error fault := by
  cases x <;> simp [Except.map]

theorem oneArgument_eq_ok_iff {x : List Char} : oneArgument line args = .ok x ↔ args = [x] := by
  match args with
  | [] | [_] | _ :: _ :: _ => simp [oneArgument]

/-- A wrong number of arguments is an invalid argument of the line. -/
theorem reason_of_oneArgument {fault : Fault} (h : oneArgument line args = .error fault) :
    ∃ reason, fault = .invalidArgument line reason := by
  match args with
  | [] | _ :: _ :: _ => exact ⟨_, (Except.error.inj h).symm⟩
  | [_] => cases h

theorem noArgument_eq_ok_iff {u : Unit} : noArgument line args = .ok u ↔ args = [] := by
  cases args <;> simp [noArgument]

/-- An argument too many is an invalid argument of the line. -/
theorem reason_of_noArgument {fault : Fault} (h : noArgument line args = .error fault) :
    ∃ reason, fault = .invalidArgument line reason := by
  cases args with
  | nil => cases h
  | cons => exact ⟨_, (Except.error.inj h).symm⟩

/-- The number is given exactly if there is one argument and no other, and it is read as the number. -/
theorem oneNumber_eq_ok_iff {read : List Char → Option α} {v : α} :
    oneNumber line read args = .ok v ↔ ∃ x, args = [x] ∧ read x = some v := by
  unfold oneNumber
  split
  · rename_i fault hfault
    have hnone : ∀ x, args ≠ [x] := fun x hx => by
      cases (oneArgument_eq_ok_iff.mpr hx).symm.trans hfault
    simp [hnone]
  · rename_i x hx
    obtain rfl := oneArgument_eq_ok_iff.mp hx
    cases hread : read x <;> simp [hread]

/-- What is not one number is an invalid argument of the line. -/
theorem reason_of_oneNumber {read : List Char → Option α} {fault : Fault}
    (h : oneNumber line read args = .error fault) :
    ∃ reason, fault = .invalidArgument line reason := by
  unfold oneNumber at h
  split at h
  · rename_i hargs
    cases h
    exact reason_of_oneArgument hargs
  · split at h
    · cases h
    · exact ⟨_, (Except.error.inj h).symm⟩

/-! ## Letters -/

/-- What spells an instruction starts with a letter of one. -/
theorem Spells.exists_letter {i : Instruction} (h : Spells ws i) :
    ∃ letter args, ws = letter :: args ∧ letter ∈ letters := by
  cases i with
  | block | exit | replace => exact ⟨_, _, h, by decide⟩
  | set | add | sub | fork =>
    obtain ⟨x, rfl, -⟩ := h
    exact ⟨_, _, rfl, by decide⟩

/-- Nothing spells no instruction. -/
theorem not_spells_nil (i : Instruction) : ¬Spells [] i := by
  intro h
  obtain ⟨letter, args, hws, -⟩ := h.exists_letter
  cases hws

/-- What starts with another word spells no instruction. -/
theorem not_spells_of_notMem (h : letter ∉ letters) (i : Instruction) : ¬Spells (letter :: args) i := by
  intro hi
  obtain ⟨_, _, hws, hletter⟩ := hi.exists_letter
  exact h ((List.cons.inj hws).1 ▸ hletter)

/-- A first word that is no letter is refused as such. -/
theorem ofWords_of_notMem (h : letter ∉ letters) :
    ofWords line (letter :: args) = .error (.unknownOpcode (Text.trimmed line) (String.ofList letter)) := by
  unfold ofWords
  split
  case h_1 heq => cases heq
  case h_9 heq =>
    obtain ⟨rfl, -⟩ := List.cons.inj heq
    rfl
  all_goals
    rename_i heq
    obtain ⟨rfl, -⟩ := List.cons.inj heq
    exact absurd (by decide) h

/-- Words that start with a letter are read as an instruction exactly if they spell it. -/
theorem ofWords_cons_eq_ok_iff (h : letter ∈ letters) {i : Instruction} :
    ofWords line (letter :: args) = .ok i ↔ Spells (letter :: args) i := by
  simp only [letters, List.mem_cons, List.not_mem_nil, or_false] at h
  rcases h with rfl | rfl | rfl | rfl | rfl | rfl | rfl
  -- words that start with a letter spell no instruction of another one, and that letter's are read argument by argument
  all_goals
    cases i <;> simp [ofWords, Spells, map_eq_ok_iff, oneNumber_eq_ok_iff, oneArgument_eq_ok_iff, noArgument_eq_ok_iff,
      Numeral.int64?_eq_some_iff, Numeral.uint64?_eq_some_iff, String.ofList_eq]

/-- Words that start with a letter and are not read have an invalid argument. -/
theorem reason_of_ofWords (h : letter ∈ letters) {fault : Fault}
    (hfault : ofWords line (letter :: args) = .error fault) :
    ∃ reason, fault = .invalidArgument line reason := by
  simp only [letters, List.mem_cons, List.not_mem_nil, or_false] at h
  rcases h with rfl | rfl | rfl | rfl | rfl | rfl | rfl
  all_goals
    simp only [ofWords, map_eq_error_iff] at hfault
    first
      | exact reason_of_oneNumber hfault
      | exact reason_of_noArgument hfault
      | exact reason_of_oneArgument hfault

/-! ## Lines -/

theorem trimmed_eq_iff {text : String} : Text.trimmed line = text ↔ Text.Trims line.toList text.toList := by
  rw [Text.trimmed, String.ofList_eq, Text.trim_eq_iff]

/-- A line without words. -/
theorem grammatical_nil (h : parse line = .error (.emptyInstruction line)) : Grammatical line [] where
  empty text := by simp [h, eq_comm]
  unknown text opcode := by simp [h]
  accepted i := by simp [h, not_spells_nil]
  invalid text := by simp [h]

/-- A line whose first word is no letter. -/
theorem grammatical_unknown (hletter : letter ∉ letters)
    (h : parse line = .error (.unknownOpcode (Text.trimmed line) (String.ofList letter))) :
    Grammatical line (letter :: args) where
  empty text := by simp [h]
  unknown text opcode := by
    rw [h, Except.error.injEq, Fault.unknownOpcode.injEq, trimmed_eq_iff, String.ofList_eq]
    refine and_congr_right fun _ => ⟨?_, ?_⟩
    · rintro rfl
      exact ⟨args, rfl, hletter⟩
    · rintro ⟨_, hws, -⟩
      exact (List.cons.inj hws).1
  accepted i := by simp [h, not_spells_of_notMem hletter]
  invalid text := by simp [h, hletter]

/-- A line whose first word is a letter. -/
theorem grammatical_known (hletter : letter ∈ letters) (hok : ∀ i, parse line = .ok i ↔ Spells (letter :: args) i)
    (herror : ∀ fault, parse line = .error fault → ∃ reason, fault = .invalidArgument line reason) :
    Grammatical line (letter :: args) where
  empty text := by
    refine ⟨fun h => ?_, fun h => by cases h.2⟩
    obtain ⟨_, heq⟩ := herror _ h
    cases heq
  unknown text opcode := by
    constructor
    · intro h
      obtain ⟨_, heq⟩ := herror _ h
      cases heq
    · rintro ⟨-, _, hws, hno⟩
      exact absurd ((List.cons.inj hws).1 ▸ hletter) hno
  accepted := hok
  invalid text := by
    constructor
    · rintro ⟨reason, h⟩
      obtain ⟨_, heq⟩ := herror _ h
      cases heq
      refine ⟨rfl, ⟨letter, args, rfl, hletter⟩, fun i hi => ?_⟩
      cases ((hok i).mpr hi).symm.trans h
    · rintro ⟨rfl, -, hnone⟩
      cases hparse : parse text with
      | ok i => exact absurd ((hok i).mp hparse) (hnone i)
      | error fault =>
        obtain ⟨reason, rfl⟩ := herror fault hparse
        exact ⟨reason, rfl⟩

/-- The words of a line decide what becomes of it. -/
theorem grammatical (line : String) : Grammatical line (Text.words line.toList) := by
  have hparse : parse line = ofWords line (Text.words line.toList) := rfl
  generalize Text.words line.toList = ws at hparse
  cases ws with
  | nil => exact grammatical_nil hparse
  | cons letter args =>
    by_cases hletter : letter ∈ letters
    · refine grammatical_known hletter (fun i => ?_) fun fault hfault => ?_
      · rw [hparse]
        exact ofWords_cons_eq_ok_iff hletter
      · exact reason_of_ofWords hletter (hparse.symm.trans hfault)
    · exact grammatical_unknown hletter (hparse.trans (ofWords_of_notMem hletter))

/-- A line that is refused has no words, or starts with a word that is no letter, or has an invalid argument. -/
theorem parse_error_cases {fault : Fault} (h : parse line = .error fault) : fault = .emptyInstruction line ∨
    (∃ opcode, fault = .unknownOpcode (Text.trimmed line) opcode) ∨ ∃ reason, fault = .invalidArgument line reason := by
  have hparse : ofWords line (Text.words line.toList) = .error fault := h
  generalize Text.words line.toList = ws at hparse
  cases ws with
  | nil => exact .inl (Except.error.inj hparse).symm
  | cons letter args =>
    by_cases hletter : letter ∈ letters
    · exact .inr (.inr (reason_of_ofWords hletter hparse))
    · exact .inr (.inl ⟨_, (Except.error.inj ((ofWords_of_notMem hletter).symm.trans hparse)).symm⟩)

/-- Every line has its words, which are its maximal runs of characters that are not blanks, and no others. They alone
decide whether the line is read as an instruction, and as which, and otherwise for which of three reasons it is
refused. -/
theorem parse_grammatical (line : String) :
    ∃ ws, (∀ ws', Text.Worded line.toList ws' ↔ ws' = ws) ∧ Grammatical line ws :=
  ⟨Text.words line.toList, fun _ => Text.words_eq_iff.symm.trans eq_comm, grammatical line⟩

example : parse "  S   +007 \n" = .ok (.set 7) := by decide

end Timeshare.Instruction
