import Timeshare.Proofs.Refusals

/-!
# Programs by their lines

Lines hold a program exactly if each of them is of blanks or can be read (`Program.Readable`). If not, the first one
that cannot be read is named as the fault (`Program.Stops`).
-/

namespace Timeshare.Program

variable {lines : List String} {fault : Fault}

/-- Every line that is not of blanks can be read. -/
def Readable (lines : List String) : Prop :=
  ∀ line ∈ lines, Text.blankString line = false → ∃ instruction, Instruction.parse line = .ok instruction

/-- The fault is that of the first line that is not of blanks and cannot be read. -/
def Stops (lines : List String) (fault : Fault) : Prop :=
  ∃ older line newer, lines = older ++ line :: newer ∧ Readable older ∧ Text.blankString line = false ∧
    Instruction.parse line = .error fault

/-- The lines that are read are those that are not of blanks. -/
theorem readable_iff : Readable lines ↔
    ∀ line ∈ lines.filter (fun line => !Text.blankString line), ∃ instruction,
      Instruction.parse line = .ok instruction := by
  simp only [Readable, List.mem_filter, and_imp, Bool.not_eq_true']

/-- Lines that stop the reading hold no program, and the fault is that of the first of them. -/
theorem parse_eq_error_iff : parse lines = .error fault ↔ Stops lines fault := by
  constructor
  · intro h
    obtain ⟨kept, line, rest, hfilter, hkept, hline⟩ := exists_first_of_mapM_error h
    obtain ⟨older, newer', rfl, rfl, hnewer⟩ := List.filter_eq_append_iff.mp hfilter
    obtain ⟨blanks, newer, rfl, hblanks, hsolid, -⟩ := List.filter_eq_cons_iff.mp hnewer
    refine ⟨older ++ blanks, line, newer, by rw [List.append_assoc], ?_, by simpa using hsolid, hline⟩
    rw [readable_iff, List.filter_append, List.filter_eq_nil_iff.mpr hblanks, List.append_nil]
    exact hkept
  · rintro ⟨older, line, newer, rfl, holder, hsolid, hline⟩
    unfold parse
    rw [List.filter_append, List.filter_cons_of_pos (by simpa using hsolid)]
    exact mapM_append_error (readable_iff.mp holder) hline

/-- Lines hold a program exactly if every line that is not of blanks can be read. -/
theorem exists_parse_iff : (∃ program, parse lines = .ok program) ↔ Readable lines := by
  constructor
  · rintro ⟨program, hprogram⟩
    exact readable_iff.mpr (exists_of_mapM_ok hprogram)
  · exact fun h => exists_mapM_ok (readable_iff.mp h)

end Timeshare.Program
