import Timeshare.Command
import Timeshare.Kernel.Operation
import Timeshare.Proofs.Grammar

/-!
# What a refusal says

A text is refused for what stands in it, and a program because it is not there or for what stands in one of its lines.
None of these refusals means that the simulator itself is at fault.
-/

namespace Timeshare

/-- The only fatal fault is a process that the scheduler names and the table does not hold. -/
theorem Fault.isFatal_iff {fault : Fault} : fault.isFatal = true ↔ ∃ pid, fault = .missingProcess pid := by
  cases fault <;> simp [isFatal]

/-- Whether the fault lies in what stands on a line of a program. -/
def Fault.ofLine : Fault → Bool
  | unknownOpcode _ _ | invalidArgument _ _ | emptyInstruction _ => true
  | _ => false

/-- What stands on a line is never a fault of the simulator itself. -/
theorem Fault.isFatal_of_ofLine {fault : Fault} (h : fault.ofLine = true) : fault.isFatal = false := by
  cases fault <;> first
    | rfl
    | cases h

/-! ## Walks -/

section

variable {α β ε : Type} {f : α → Except ε β} {x : α} {xs : List α} {e : ε}

/-- A walk stops at its first element, if that stops it. -/
theorem mapM_cons_error (hx : f x = .error e) : (x :: xs).mapM f = .error e := by
  rw [List.mapM_cons, hx]
  rfl

/-- A walk that its first element does not stop goes on with the others. -/
theorem mapM_cons_eq_error_iff {b : β} (hx : f x = .ok b) : (x :: xs).mapM f = .error e ↔ xs.mapM f = .error e := by
  rw [List.mapM_cons, hx]
  cases xs.mapM f with
  | error e' => exact ⟨fun h => h, fun h => h⟩
  | ok bs => exact ⟨fun h => (by cases h), fun h => (by cases h)⟩

/-- A walk stops at an element that stops it, if no earlier one does. -/
theorem mapM_append_error {older newer : List α} (holder : ∀ y ∈ older, ∃ b, f y = .ok b) (hx : f x = .error e) :
    (older ++ x :: newer).mapM f = .error e := by
  induction older with
  | nil => exact mapM_cons_error hx
  | cons y older ih =>
    obtain ⟨⟨b, hy⟩, hrest⟩ := List.forall_mem_cons.mp holder
    exact (mapM_cons_eq_error_iff hy).mpr (ih hrest)

/-- A walk that stops, stops at the first element that stops it. -/
theorem exists_first_of_mapM_error (h : xs.mapM f = .error e) :
    ∃ older x newer, xs = older ++ x :: newer ∧ (∀ y ∈ older, ∃ b, f y = .ok b) ∧ f x = .error e := by
  induction xs with
  | nil => cases h
  | cons x xs ih =>
    cases hx : f x with
    | error e' =>
      obtain rfl := Except.error.inj ((mapM_cons_error hx).symm.trans h)
      exact ⟨[], x, xs, rfl, by simp, hx⟩
    | ok b =>
      obtain ⟨older, x', newer, rfl, holder, hx'⟩ := ih ((mapM_cons_eq_error_iff hx).mp h)
      exact ⟨x :: older, x', newer, rfl, List.forall_mem_cons.mpr ⟨⟨b, hx⟩, holder⟩, hx'⟩

/-- A walk that stops, stops at an element. -/
theorem exists_of_mapM_error (h : xs.mapM f = .error e) : ∃ x ∈ xs, f x = .error e := by
  obtain ⟨older, x, newer, rfl, -, hx⟩ := exists_first_of_mapM_error h
  exact ⟨x, List.mem_append_right _ List.mem_cons_self, hx⟩

/-- A walk on which every element has a result has one. -/
theorem exists_mapM_ok (h : ∀ x ∈ xs, ∃ y, f x = .ok y) : ∃ ys, xs.mapM f = .ok ys := by
  cases hxs : xs.mapM f with
  | ok ys => exact ⟨ys, rfl⟩
  | error e =>
    obtain ⟨x, hmem, hx⟩ := exists_of_mapM_error hxs
    obtain ⟨y, hy⟩ := h x hmem
    cases hx.symm.trans hy

/-- A walk that has a result has one on every element. -/
theorem exists_of_mapM_ok {ys : List β} (h : xs.mapM f = .ok ys) : ∀ x ∈ xs, ∃ y, f x = .ok y := by
  induction xs generalizing ys with
  | nil => simp
  | cons x xs ih =>
    cases hx : f x with
    | error e => cases (mapM_cons_error hx).symm.trans h
    | ok y =>
      cases hxs : xs.mapM f with
      | error e => cases ((mapM_cons_eq_error_iff hx).mpr hxs).symm.trans h
      | ok zs => exact List.forall_mem_cons.mpr ⟨⟨y, hx⟩, ih hxs⟩

end

/-! ## Texts -/

theorem Instruction.ofLine_of_parse {line : String} {fault : Fault} (h : Instruction.parse line = .error fault) :
    fault.ofLine = true := by
  rcases Instruction.parse_error_cases h with rfl | ⟨_, rfl⟩ | ⟨_, rfl⟩ <;> rfl

/-- Lines that hold no program are refused for what stands on them. -/
theorem Program.ofLine_of_parse {lines : List String} {fault : Fault} (h : Program.parse lines = .error fault) :
    fault.ofLine = true := by
  obtain ⟨line, -, hline⟩ := exists_of_mapM_error h
  exact Instruction.ofLine_of_parse hline

/-- Text that is no command is refused as such. -/
theorem Command.exists_of_parse_error {line : String} {fault : Fault} (h : Command.parse line = .error fault) :
    ∃ text, fault = .unknownCommand text := by
  unfold Command.parse at h
  split at h
  case h_5 => exact ⟨_, (Except.error.inj h).symm⟩
  all_goals cases h

/-- The lines of a process that is to be made are refused for what stands on them, or because they are not there. -/
theorem Operation.isFatal_of_making {source : Source} {op : Operation} {priority : Priority} {fault : Fault}
    (h : op.making? source = some (priority, .error fault)) : fault.isFatal = false := by
  cases op with
  | create p lines => exact Fault.isFatal_of_ofLine (Program.ofLine_of_parse (Prod.mk.inj (Option.some.inj h)).2)
  | createFrom p name =>
    simp only [Operation.making?] at h
    split at h
    · exact Fault.isFatal_of_ofLine (Program.ofLine_of_parse (Prod.mk.inj (Option.some.inj h)).2)
    · obtain rfl := Except.error.inj (Prod.mk.inj (Option.some.inj h)).2
      rfl
  | createParsed p program => cases h
  | _ => cases h

end Timeshare
