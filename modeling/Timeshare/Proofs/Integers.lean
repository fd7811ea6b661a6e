import Mathlib
import Timeshare.Proofs.Driven

/-!
# Words compute like integers

`IdealContext` is the machine in which accumulators are integers and places are natural numbers without bounds. A
context of words represents an ideal one if its accumulator is the residue of the ideal one, and its place is the
ideal one or both are past the end of the program (`Context.Represents`). As long as programs are shorter than 2 ^ 63,
kernels of the two machines that are asked the same give the same answers, and differ in no more than this
(`Session.arithmetic_faithful`). `WatchedContext` is the machine of words in which a step by one that wraps is noted:
none is.
-/

namespace Timeshare

/-! ## Accumulators -/

/-- The word is the only integer from -2 ^ 63 up to below 2 ^ 63 that is congruent to the integer modulo 2 ^ 64. -/
def Word.Represents (w : Word) (n : Int) : Prop :=
  ∀ v : Int, v = w.toInt ↔ -2 ^ 63 ≤ v ∧ v < 2 ^ 63 ∧ v ≡ n [ZMOD 2 ^ 64]

namespace Word

variable {w : Word} {n : Int}

/-- It is the balanced residue of the integer. -/
theorem represents_iff : w.Represents n ↔ w.toInt = n.bmod (2 ^ 64) := by
  unfold Represents Int.ModEq
  have hword : w.toInt.bmod (2 ^ 64) = w.toInt := w.toInt_bmod
  constructor
  · intro h
    have hself := ((h w.toInt).mp rfl).2.2
    rw [← hword, Int.bmod_def, Int.bmod_def]
    push_cast
    split_ifs <;> omega
  · intro h v
    rw [h, Int.bmod_def]
    push_cast
    split_ifs <;> omega

theorem represents_toInt (v : Word) : v.Represents v.toInt := represents_iff.mpr v.toInt_bmod.symm

theorem Represents.add (h : w.Represents n) (v : Word) : (w + v).Represents (n + v.toInt) := by
  rw [represents_iff] at h ⊢
  rw [Int64.toInt_add, h, Int.bmod_add_bmod]

theorem Represents.sub (h : w.Represents n) (v : Word) : (w - v).Represents (n - v.toInt) := by
  rw [represents_iff] at h ⊢
  rw [Int64.toInt_sub, h, Int.bmod_sub_bmod]

end Word

/-! ## The ideal machine -/

/-- A program, a place in it and an accumulator, which are numbers without bounds. -/
structure IdealContext where
  program : Program
  programCounter : Nat := 0
  accumulator : Int := 0
  deriving DecidableEq, Repr

/-- The machine of numbers without bounds. -/
instance : Machine IdealContext where
  start program := { program := program }
  next? c := c.program[c.programCounter]?
  advance c := { c with programCounter := c.programCounter + 1 }
  skip n c := { c with programCounter := c.programCounter + n.toNat + 1 }
  setTo v c := { c with accumulator := v.toInt }
  add v c := { c with accumulator := c.accumulator + v.toInt }
  sub v c := { c with accumulator := c.accumulator - v.toInt }
  load program c := { c with program := program, programCounter := 0 }

/-- The context is in the same program, at the same place or past the end as the ideal one is, and its accumulator
represents that of the ideal one. -/
structure Context.Represents (c : Context) (d : IdealContext) : Prop where
  program : c.program = d.program
  short : c.program.length < 2 ^ 63
  place : c.programCounter.toNat = d.programCounter ∨
    (c.program.length ≤ c.programCounter.toNat ∧ c.program.length ≤ d.programCounter)
  accumulator : c.accumulator.Represents d.accumulator

/-- A place before the end of a short program moves on by one without wrapping. -/
theorem Context.toNat_succ {c : Context} (hshort : c.program.length < 2 ^ 63) (hnext : c.next?.isSome = true) :
    (c.programCounter + 1).toNat = c.programCounter.toNat + 1 ∧ c.programCounter.toNat + 1 < UInt64.size := by
  have hplace : c.programCounter.toNat < c.program.length := by
    obtain ⟨instruction, hi⟩ := Option.isSome_iff_exists.mp hnext
    exact (List.getElem?_eq_some_iff.mp hi).1
  have hfits : c.programCounter.toNat + 1 < UInt64.size := Nat.lt_trans (Nat.lt_of_le_of_lt hplace hshort) (by decide)
  exact ⟨(UInt64.toNat_add _ _).trans (Nat.mod_eq_of_lt hfits), hfits⟩

namespace Context.Represents

variable {c : Context} {d : IdealContext}

/-- Both have the same next instruction. -/
theorem next_eq (h : c.Represents d) : Machine.next? c = Machine.next? d := by
  change c.program[c.programCounter.toNat]? = d.program[d.programCounter]?
  rw [← h.program]
  rcases h.place with hplace | ⟨hpast, hpast'⟩
  · rw [hplace]
  · rw [List.getElem?_eq_none hpast, List.getElem?_eq_none hpast']

/-- Where there is an instruction both are at the same place. -/
theorem place_eq (h : c.Represents d) (hnext : c.next?.isSome = true) : c.programCounter.toNat = d.programCounter := by
  rcases h.place with hplace | ⟨hpast, -⟩
  · exact hplace
  · rw [next?, List.getElem?_eq_none hpast] at hnext
    cases hnext

/-- Where there is an instruction both move on by one alike. -/
theorem advance (h : c.Represents d) (hnext : c.next?.isSome = true) :
    (Machine.advance c).Represents (Machine.advance d) := by
  refine ⟨h.program, h.short, .inl ?_, h.accumulator⟩
  exact (toNat_succ h.short hnext).1.trans (congrArg (· + 1) (h.place_eq hnext))

/-- Both skip alike: where the word would not fit, both are past the end. -/
theorem skip (h : c.Represents d) (n : UInt64) : (Machine.skip n c).Represents (Machine.skip n d) := by
  refine ⟨h.program, h.short, ?_, h.accumulator⟩
  change (Word.addSaturating (Word.addSaturating c.programCounter n) 1).toNat = d.programCounter + n.toNat + 1 ∨
    (c.program.length ≤ (Word.addSaturating (Word.addSaturating c.programCounter n) 1).toNat ∧
      c.program.length ≤ d.programCounter + n.toNat + 1)
  rw [Word.toNat_addSaturating, Word.toNat_addSaturating]
  have hshort := h.short
  have hone : (1 : UInt64).toNat = 1 := rfl
  have hlargest : UInt64.size - 1 = 2 ^ 64 - 1 := rfl
  rw [hone, hlargest]
  rcases h.place with hplace | ⟨hpast, hpast'⟩ <;> omega

/-- Arithmetic on words represents arithmetic on integers. -/
theorem compute (h : c.Represents d) (i : Instruction) : (Machine.compute i c).Represents (Machine.compute i d) := by
  cases i with
  | set v => exact { h with accumulator := Word.represents_toInt v }
  | add v => exact { h with accumulator := h.accumulator.add v }
  | sub v => exact { h with accumulator := h.accumulator.sub v }
  | _ => exact h

end Context.Represents

/-! ## The watched machine -/

/-- A context of words, and whether a step by one has wrapped. -/
structure WatchedContext where
  context : Context
  wrapped : Bool := false
  deriving DecidableEq, Repr

/-- The machine of words, in which a step by one from the largest word is noted for good. -/
instance : Machine WatchedContext where
  start program := { context := Machine.start program }
  next? c := Machine.next? c.context
  advance c := {
    context := Machine.advance c.context
    wrapped := c.wrapped || decide (UInt64.size ≤ c.context.programCounter.toNat + 1) }
  skip n c := { c with context := Machine.skip n c.context }
  setTo v c := { c with context := Machine.setTo v c.context }
  add v c := { c with context := Machine.add v c.context }
  sub v c := { c with context := Machine.sub v c.context }
  load program c := { c with context := Machine.load program c.context }

/-- The watched context is this one, and nothing has wrapped. -/
structure Context.Unwrapped (c : Context) (d : WatchedContext) : Prop where
  context : c = d.context
  wrapped : d.wrapped = false
  short : c.program.length < 2 ^ 63

namespace Context

variable {c : Context} {d : WatchedContext}

/-- Where there is an instruction a step by one does not wrap. -/
theorem Unwrapped.advance (h : c.Unwrapped d) (hnext : c.next?.isSome = true) :
    (Machine.advance c).Unwrapped (Machine.advance d) := by
  obtain ⟨rfl, hwrapped, hshort⟩ := h
  refine ⟨rfl, ?_, hshort⟩
  change (d.wrapped || decide (UInt64.size ≤ d.context.programCounter.toNat + 1)) = false
  rw [hwrapped, Bool.false_or, decide_eq_false_iff_not]
  exact Nat.not_le_of_lt (toNat_succ hshort hnext).2

/-- Arithmetic takes no step. -/
theorem Unwrapped.compute (h : c.Unwrapped d) (i : Instruction) :
    (Machine.compute i c).Unwrapped (Machine.compute i d) := by
  obtain ⟨rfl, hwrapped, hshort⟩ := h
  cases i <;> exact ⟨rfl, hwrapped, hshort⟩

theorem next?_compute (i : Instruction) (c : Context) : (Machine.compute i c).next? = c.next? := by
  cases i <;> rfl

end Context

namespace Likeness

/-- Words are alike to the integers that they represent. -/
def integers : Likeness Context IdealContext where
  instruction := Eq
  program p q := p = q ∧ p.length < 2 ^ 63
  context := Context.Represents
  time := Eq
  control h := .inl h
  next := fun {c d} h => by
    rw [h.next_eq]
    cases Machine.next? d with
    | none => exact .none
    | some i => exact .some rfl
  start h := ⟨h.1, h.2, .inl rfl, Word.represents_toInt 0⟩
  load hp h := ⟨hp.1, hp.2, .inl rfl, h.accumulator⟩
  skip n h := h.skip n
  advance h hnext := h.advance hnext
  compute := fun {c d i j} h hnext hij _ => by
    subst hij
    exact (h.compute i).advance ((congrArg Option.isSome (c.next?_compute i)).trans hnext)
  tick h := congrArg (· + 1) h

/-- Contexts are alike to themselves where nothing has wrapped. -/
def watching : Likeness Context WatchedContext where
  instruction := Eq
  program p q := p = q ∧ p.length < 2 ^ 63
  context := Context.Unwrapped
  time := Eq
  control h := .inl h
  next := fun {c d} h => by
    rw [h.context]
    change Option.Rel Eq (Machine.next? d.context) (Machine.next? d.context)
    cases Machine.next? d.context with
    | none => exact .none
    | some i => exact .some rfl
  start h := ⟨congrArg Machine.start h.1, rfl, h.2⟩
  load hp h := ⟨by rw [hp.1, h.context]; rfl, h.wrapped, hp.2⟩
  skip n h := ⟨congrArg (Machine.skip n) h.context, h.wrapped, h.short⟩
  advance h hnext := h.advance hnext
  compute := fun {c d i j} h hnext hij _ => by
    subst hij
    exact (h.compute i).advance ((congrArg Option.isSome (c.next?_compute i)).trans hnext)
  tick h := congrArg (· + 1) h

end Likeness

/-! ## Every run -/

namespace Session

open Likeness

/-- Kernels of the three machines that booted with the same number of levels, and of which the same is asked, with
programs shorter than 2 ^ 63 from the same sources. The kernel of words and that of integers give the same answers,
and after each request they agree in the queues, the slot, the mark, the tally, the clock, the numbers and the
records, but for places past the end and for accumulators, which represent the integers. And no step by one ever
wraps. -/
theorem arithmetic_faithful {levels : UInt8} {k : Kernel Context} {k' : Kernel IdealContext}
    {k'' : Kernel WatchedContext} (hboot : Kernel.boot levels = .ok k) (hboot' : Kernel.boot levels = .ok k')
    (hboot'' : Kernel.boot levels = .ok k'') {requests : List (Source × Request)}
    (hdrives : ∀ asked ∈ requests, asked.2.drives = true)
    (hshort : ∀ asked ∈ requests, ∀ program, asked.2.Starts asked.1 program → program.length < 2 ^ 63) :
    List.Forall₂ (fun x y => x.answer = y.1 ∧ integers.Kernels x.after.kernel y.2)
        (exchanges { kernel := k } requests) (k'.reactions requests) ∧
      List.Forall₂ (fun x y => x.answer = y.1 ∧ watching.Kernels x.after.kernel y.2)
        (exchanges { kernel := k } requests) (k''.reactions requests) := by
  have hrun := exchanges_driven (s := { kernel := k }) rfl hdrives
  have hprograms : ∀ asked ∈ requests, ∀ program, asked.2.Starts asked.1 program → program = program ∧
    program.length < 2 ^ 63 :=
    fun asked hmem program hstarts => ⟨rfl, hshort asked hmem program hstarts⟩
  have hintegers : integers.Exact := ⟨fun h => h, fun h => h⟩
  have hwatching : watching.Exact := ⟨fun h => h, fun h => h⟩
  have hideal := hintegers.reactions (kernels_of_boot rfl hboot hboot') hprograms
  have hwatched := hwatching.reactions (kernels_of_boot rfl hboot hboot'') hprograms
  rw [← hrun, List.forall₂_map_left_iff] at hideal hwatched
  exact ⟨hideal, hwatched⟩

/-- A process that adds one to the largest word, and whose fork skips as many instructions as can be. -/
def wrapSample : List Request :=
  [.operation (.createParsed 0 [.set Int64.maxValue, .add 1, .fork 18446744073709551615, .exit]),
    .command .tick, .command .tick, .command .tick]

/-- In the sample the sum wraps to the least word where the ideal one is 2 ^ 63, and after the fork both are past the
end. -/
theorem arithmetic_faithful_sample :
    Kernel.boot 1 = .ok (Kernel.empty 1 : Kernel Context) ∧ Kernel.boot 1 = .ok (Kernel.empty 1 : Kernel IdealContext) ∧
      Kernel.boot 1 = .ok (Kernel.empty 1 : Kernel WatchedContext) ∧
      (∀ asked ∈ wrapSample.map (Prod.mk Source.empty), asked.2.drives = true) ∧
      (∀ asked ∈ wrapSample.map (Prod.mk Source.empty), ∀ program, asked.2.Starts asked.1 program →
        program.length < 2 ^ 63) ∧
      (exchanges { kernel := Kernel.empty 1 } (wrapSample.map (Prod.mk Source.empty))).map (fun x =>
        (x.after.kernel.table.get? 0).map fun r => (r.context.programCounter, r.context.accumulator)) =
          [some (0, 0), some (1, Int64.maxValue), some (2, Int64.minValue),
            some (18446744073709551615, Int64.minValue)] ∧
      ((Kernel.empty 1 : Kernel IdealContext).reactions (wrapSample.map (Prod.mk Source.empty))).map (fun y =>
        (y.2.table.get? 0).map fun r => (r.context.programCounter, r.context.accumulator)) =
          [some (0, 0), some (1, 2 ^ 63 - 1), some (2, 2 ^ 63), some (2 ^ 64 + 2, 2 ^ 63)] ∧
      List.Forall₂ (fun x y => x.answer = y.1 ∧ integers.Kernels x.after.kernel y.2)
        (exchanges { kernel := Kernel.empty 1 } (wrapSample.map (Prod.mk Source.empty)))
        ((Kernel.empty 1).reactions (wrapSample.map (Prod.mk Source.empty))) := by
  have hboot : Kernel.boot 1 = .ok (Kernel.empty 1 : Kernel Context) := rfl
  have hboot' : Kernel.boot 1 = .ok (Kernel.empty 1 : Kernel IdealContext) := rfl
  have hboot'' : Kernel.boot 1 = .ok (Kernel.empty 1 : Kernel WatchedContext) := rfl
  have hdrives : ∀ asked ∈ wrapSample.map (Prod.mk Source.empty), asked.2.drives = true := by decide
  have hshort : ∀ asked ∈ wrapSample.map (Prod.mk Source.empty), ∀ program, asked.2.Starts asked.1 program →
      program.length < 2 ^ 63 := by
    intro asked hasked program hstarts
    obtain ⟨request, hrequest, rfl⟩ := List.mem_map.mp hasked
    cases hstarts with
    | made hop =>
      simp only [wrapSample, List.mem_cons, Request.operation.injEq, reduceCtorEq, List.not_mem_nil,
        or_false] at hrequest
      subst hrequest
      cases hop
      decide
    | loaded hload => cases hload
  exact ⟨hboot, hboot', hboot'', hdrives, hshort, by decide +kernel, by decide +kernel,
    (arithmetic_faithful hboot hboot' hboot'' hdrives hshort).1⟩

end Session

end Timeshare
