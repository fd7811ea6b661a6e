import Timeshare.Proofs.Grammar

/-!
# The text of an instruction

The text of an instruction is its letter and, after a space, its argument. All but a replacement by a name that is
empty or has a blank in it are read back from their texts (`Instruction.parse_text_iff`). No line is read as such a
replacement, so what is read from a line has a text that is read as the same (`Instruction.text_round_trip`).
-/

namespace Timeshare

/-! ## Numerals are words -/

/-- A digit is not a blank. -/
theorem Text.isBlank_of_isDigit {c : Char} (h : c.isDigit = true) : isBlank c = false := by
  have hrange : '0'.toNat ≤ c.toNat ∧ c.toNat ≤ '9'.toNat := by simpa [Char.isDigit, UInt32.le_iff_toNat_le] using h
  have hlow : 48 ≤ c.toNat := hrange.1
  have hhigh : c.toNat ≤ 57 := hrange.2
  simp only [isBlank, Bool.or_eq_false_iff, Bool.and_eq_false_iff, decide_eq_false_iff_not, beq_eq_false_iff_ne]
  omega

namespace Numeral

variable {cs : List Char}

theorem Digits.solid (h : Digits cs) : Text.Solid cs := ⟨h.1, fun c hc => Text.isBlank_of_isDigit (h.2 c hc)⟩

theorem solid_cons {c : Char} (hc : Text.isBlank c = false) (h : Text.Solid cs) : Text.Solid (c :: cs) :=
  ⟨List.cons_ne_nil c cs, List.forall_mem_cons.mpr ⟨hc, h.2⟩⟩

theorem Unsigned.solid {n : Nat} (h : Unsigned cs n) : Text.Solid cs := by
  cases h with
  | digits h => exact h.solid
  | plus h => exact solid_cons (by decide) h.solid

theorem Signed.solid {n : Int} (h : Signed cs n) : Text.Solid cs := by
  cases h with
  | unsigned h => exact h.solid
  | minus h => exact solid_cons (by decide) h.solid

end Numeral

namespace Instruction

variable {i j : Instruction} {line line' : String}

/-! ## The words of a text -/

theorem solid_opcode (i : Instruction) : Text.Solid [i.opcode] := by
  cases i <;> exact ⟨List.cons_ne_nil _ _, by simp [opcode, Text.isBlank]⟩

/-- The text of an instruction without an argument is one word. -/
theorem words_text_of_none (h : i.argument = none) : Text.words i.text.toList = [[i.opcode]] := by
  have htext : i.text.toList = [i.opcode] := by
    simp [text, h]
  rw [htext, Text.words_of_solid i.solid_opcode]

/-- The text of an instruction with an argument has the letter for its first word; the others are those of the
argument. -/
theorem words_text_of_some {arg : String} (h : i.argument = some arg) :
    Text.words i.text.toList = [i.opcode] :: Text.words arg.toList := by
  have htext : i.text.toList = [i.opcode] ++ ' ' :: arg.toList := by
    simp [text, h]
  rw [htext, Text.words_append_of_solid i.solid_opcode (by simp [Text.isBlank]), Text.words_cons_of_blank (by decide)]

theorem words_text_of_solid {arg : String} (h : i.argument = some arg) (harg : Text.Solid arg.toList) :
    Text.words i.text.toList = [[i.opcode], arg.toList] := by
  rw [words_text_of_some h, Text.words_of_solid harg]

/-- The text of an instruction spells it, except for a replacement by a name that is not a word. -/
theorem spells_text_iff : Spells (Text.words i.text.toList) i ↔ ∀ name, i = .replace name → Text.Solid name.toList := by
  have hsigned : ∀ v : Word, Text.Solid v.toInt.repr.toList := fun v => (Numeral.signed_repr _).solid
  have hunsigned : ∀ n : UInt64, Text.Solid n.toNat.repr.toList := fun n => (Numeral.unsigned_repr _).solid
  cases i with
  | set v | add v | sub v =>
    rw [words_text_of_solid rfl (hsigned v)]
    exact ⟨fun _ _ hname => (by cases hname), fun _ => ⟨_, rfl, Numeral.signedWord_repr v⟩⟩
  | block | exit =>
    rw [words_text_of_none rfl]
    exact ⟨fun _ _ hname => (by cases hname), fun _ => rfl⟩
  | fork n =>
    rw [words_text_of_solid rfl (hunsigned n)]
    exact ⟨fun _ _ hname => (by cases hname), fun _ => ⟨_, rfl, Numeral.unsignedWord_repr n⟩⟩
  | replace name =>
    rw [words_text_of_some rfl]
    simp [Spells, Text.words_eq_singleton_iff, opcode]

/-! ## Reading texts -/

/-- An instruction is read from its text, except for a replacement by a name that is not a word. -/
theorem parse_text_iff : parse i.text = .ok i ↔ ∀ name, i = .replace name → Text.Solid name.toList :=
  ((grammatical i.text).accepted i).trans spells_text_iff

/-- What is read from a line is read from its own text. -/
theorem parse_text_of_parse (h : parse line = .ok i) : parse i.text = .ok i := by
  rw [parse_text_iff]
  rintro name rfl
  have hwords : Text.words line.toList = [['R'], name.toList] := ((grammatical line).accepted _).mp h
  exact (Text.words_eq_iff.mp hwords).solid _ (by simp)

/-- Instructions that are read from lines and have one text are the same. -/
theorem eq_of_text_eq (h : parse line = .ok i) (h' : parse line' = .ok j) (htext : i.text = j.text) : i = j := by
  have hi := parse_text_of_parse h
  rw [htext] at hi
  exact Except.ok.inj (hi.symm.trans (parse_text_of_parse h'))

/-- A name is not a word exactly if it is empty or has a blank in it. -/
theorem not_solid_iff {name : String} :
    ¬Text.Solid name.toList ↔ name = "" ∨ ∃ c ∈ name.toList, Text.isBlank c = true := by
  rw [Text.Solid, not_and_or, not_not, String.toList_eq_nil_iff]
  simp

/-- An instruction is read from its text exactly if it is not a replacement by a name that is empty or has a blank in
it. Whatever is read from a line is read from its text too, which is then the text of what is read; and no two
instructions that are read have one text. -/
theorem text_round_trip :
    (∀ i, parse i.text = .ok i ↔ ¬∃ name, i = .replace name ∧ (name = "" ∨ ∃ c ∈ name.toList, Text.isBlank c = true)) ∧
      (∀ line i, parse line = .ok i → parse i.text = .ok i ∧ ∀ j, parse i.text = .ok j → j.text = i.text) ∧
      ∀ line line' i j, parse line = .ok i → parse line' = .ok j → i.text = j.text → i = j := by
  refine ⟨fun i => ?_, fun line i h => ⟨parse_text_of_parse h, fun j hj => ?_⟩,
    fun _ _ _ _ h h' htext => eq_of_text_eq h h' htext⟩
  · rw [parse_text_iff]
    simp only [← not_solid_iff, not_exists, not_and, not_not]
  · rw [Except.ok.inj (hj.symm.trans (parse_text_of_parse h))]

/-- A line that is not written as texts are, with the least word there is, and a name of two words. -/
theorem text_round_trip_sample :
    parse " D\t-0009223372036854775808 " = .ok (.sub Int64.minValue) ∧
      parse (sub Int64.minValue).text = .ok (.sub Int64.minValue) ∧
        parse (replace "a b").text ≠ .ok (.replace "a b") := by
  have hline : parse " D\t-0009223372036854775808 " = .ok (.sub Int64.minValue) := by decide
  refine ⟨hline, (text_round_trip.2.1 _ _ hline).1, fun h => (text_round_trip.1 _).mp h ?_⟩
  exact ⟨"a b", rfl, .inr ⟨' ', by decide, by decide⟩⟩

end Instruction

end Timeshare
