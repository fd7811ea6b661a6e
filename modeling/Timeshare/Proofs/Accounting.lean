import Timeshare.Proofs.Run

/-!
# A second accounting does nothing

An accounting leaves a kernel at rest: nothing is left to charge, and the slot is empty only if nobody waits
(`Kernel.AtRest`). An accounting of a kernel at rest answers what is in the slot, and changes nothing. Neither needs a
consistent kernel. So of two accountings in a row the second is idle whatever the kernel, and after a step that did an
accounting itself, or that found the slot empty, so is the one of the tick (`Session.reschedule_idempotent`).
-/

namespace Timeshare

open Timeshare.Action

namespace Kernel

section

variable {C : Type} {k k' : Kernel C} {pid : Pid}

/-- Nothing is left to charge, and the slot is empty only if nobody waits. -/
structure AtRest (k : Kernel C) : Prop where
  unmarked : k.executed = none
  filled : k.running = none → k.queues.ready.flatten = []

/-- An accounting of a kernel at rest changes nothing. -/
theorem AtRest.reschedule (h : k.AtRest) : reschedule k = .ok k.running k := by
  have hcharged : account k.executed { k with executed := none } = .ok () k := by
    rw [unmark_eq_self h.unmarked, account_apply, h.unmarked]
    cases k.running <;> rfl
  refine reschedule_of_parts hcharged ?_
  rw [fillSlot_apply]
  cases hrun : k.running with
  | none =>
    have hnobody := (Queues.dequeueReady_eq_none_iff _).mpr (h.filled hrun)
    simp only [dispatch_apply, hnobody]
  | some pid => rfl

/-! ## What an accounting leaves, whatever the kernel -/

/-- A charge leaves the mark as it is. -/
theorem executed_of_charge (h : charge pid k = .ok () k') : k'.executed = k.executed := by
  cases hr : k.table.get? pid with
  | none =>
    rw [charge, bind_error (by rw [require_apply, hr])] at h
    cases h
  | some r =>
    by_cases hused : r.cpuTimeUsed + 1 < quantum r.priority
    · rw [charge_ok hr hused] at h
      cases h
      rfl
    · cases hq : k.queues.enqueueReady pid r.priority with
      | none =>
        rw [charge, bind_ok (require_ok hr)] at h
        simp only [hused, if_false] at h
        rw [preempt, bind_ok (amend_apply _ _ _), bind_error (by rw [enqueueReady_apply, hq])] at h
        cases h
      | some queues =>
        rw [charge_preempts hr hused hq] at h
        cases h
        rfl

/-- Charging the process in the slot, or not, leaves the mark as it is. -/
theorem executed_of_account {marked : Option Pid} (h : account marked k = .ok () k') : k'.executed = k.executed := by
  rw [account_apply] at h
  split at h
  · cases h
    rfl
  · split at h
    · exact executed_of_charge h
    · cases h
      rfl

/-- Filling the slot leaves the mark as it is, and the slot is empty then only if nobody waits. -/
theorem filled_of_fillSlot (h : fillSlot k = .ok () k') :
    k'.executed = k.executed ∧ (k'.running = none → k'.queues.ready.flatten = []) := by
  rw [fillSlot_apply] at h
  cases hrun : k.running with
  | some pid =>
    rw [hrun] at h
    cases h
    exact ⟨rfl, fun hnone => by cases hrun.symm.trans hnone⟩
  | none =>
    rw [hrun] at h
    change dispatch k = .ok () k' at h
    rw [dispatch_apply] at h
    cases hd : k.queues.dequeueReady with
    | none =>
      rw [hd] at h
      cases h
      exact ⟨rfl, fun _ => (Queues.dequeueReady_eq_none_iff _).mp hd⟩
    | some taken =>
      obtain ⟨pid, queues⟩ := taken
      rw [hd] at h
      change occupy pid { k with queues := queues } = .ok () k' at h
      cases hr : k.table.get? pid with
      | none =>
        rw [occupy, bind_error (by rw [require_apply, hr])] at h
        cases h
      | some r =>
        cases (occupy_ok (k := { k with queues := queues }) hr).symm.trans h
        exact ⟨rfl, fun hnone => by cases hnone⟩

/-- An accounting that does not halt answers what is in the slot then, and leaves a kernel at rest. -/
theorem atRest_of_reschedule {running : Option Pid} (h : reschedule k = .ok running k') :
    running = k'.running ∧ k'.AtRest := by
  rw [reschedule_eq] at h
  obtain ⟨⟨⟩, k₁, haccount, h⟩ := of_bind_ok h
  obtain ⟨⟨⟩, k₂, hfill, h⟩ := of_bind_ok h
  cases h
  obtain ⟨hmark, hfilled⟩ := filled_of_fillSlot hfill
  exact ⟨rfl, hmark.trans (executed_of_account haccount), hfilled⟩

/-- A second accounting answers what the first one did, and changes nothing. -/
theorem reschedule_twice {running : Option Pid} (h : reschedule k = .ok running k') :
    reschedule k' = .ok running k' := by
  obtain ⟨rfl, hrest⟩ := atRest_of_reschedule h
  exact hrest.reschedule

end

/-! ## Steps after which a kernel is at rest -/

variable {C : Type} [Machine C] {source : Source} {k k' : Kernel C} {outcome : StepOutcome} {es : List (Event C)}

/-- A step that finds the slot empty, or in which the process leaves the slot, leaves a kernel at rest. -/
theorem AtRest.of_steps (h : Steps source k outcome es k') (hk : k.Sound)
    (ho : outcome = .idle ∨ outcome.releases = true) :
    k'.AtRest := by
  cases h with
  | idle hrun => exact ⟨hk.consistent.executed_eq_none hrun, hk.filled⟩
  | worked hrun hr hdeed hstays hpath =>
    rcases ho with rfl | hreleases
    · cases hdeed
    · cases hstays.symm.trans hreleases
  | released hrun hr hdeed hleaves hpath hsettles => exact ⟨hsettles.unmarked, hsettles.filled⟩

/-- After such a step a tick only advances the clock. -/
theorem tick_of_atRest (hstep : step source k = .ok outcome k') (h : k'.AtRest) :
    reschedule { k' with clock := k'.clock + 1 } = .ok k'.running { k' with clock := k'.clock + 1 } ∧
      Session.tick source k = .ok outcome { k' with clock := k'.clock + 1 } := by
  have hrest : AtRest { k' with clock := k'.clock + 1 } := ⟨h.unmarked, h.filled⟩
  exact ⟨hrest.reschedule, tick_of_parts hstep hrest.reschedule⟩

end Kernel

/-! ## Every kernel, and every run -/

/-- An inconsistent kernel: the process in the slot, which is to be charged for the only instruction of its quantum,
waits too. -/
def Kernel.doubled : Kernel Context where
  queues := { ready := [[0]] }
  table := { nextPid := 1, entries := [(0, { pid := 0, priority := 0, context := Machine.start [] })] }
  running := some 0
  executed := some 0

namespace Session

/-- Whatever the kernel, consistent or not: if an accounting does not halt, a second one gives the same answer and
changes nothing. And in every run of a kernel since it booted, after a step that finds the slot empty, or in which the
process blocks or ends, the accounting of the tick changes nothing: the tick leaves what the step left, with the clock
advanced. -/
theorem reschedule_idempotent :
    (∀ {C : Type} {k k' : Kernel C} {running : Option Pid},
      Kernel.reschedule k = .ok running k' → Kernel.reschedule k' = .ok running k') ∧
    ∀ {levels : UInt8} {k : Kernel Context}, Kernel.boot levels = .ok k → ∀ requests : List (Source × Request),
      Exchange.births (exchanges { kernel := k } requests) < UInt32.size → ∀ source : Source,
        ∃ (outcome : StepOutcome) (k₁ : Kernel Context),
          Kernel.step source (after { kernel := k } requests).kernel = .ok outcome k₁ ∧
          (outcome = .idle ∨ outcome.releases = true →
            Kernel.reschedule { k₁ with clock := k₁.clock + 1 } = .ok k₁.running { k₁ with clock := k₁.clock + 1 } ∧
              tick source (after { kernel := k } requests).kernel = .ok outcome { k₁ with clock := k₁.clock + 1 }) := by
  refine ⟨Kernel.reschedule_twice, fun hboot requests hroom source => ?_⟩
  have hs := (sound_after hboot hroom).1
  obtain ⟨outcome, es, k₁, hstep, hsteps⟩ := Kernel.exists_steps hs.consistent hs.numbered source
  exact ⟨outcome, k₁, hstep, fun ho => Kernel.tick_of_atRest hstep (.of_steps hsteps hs ho)⟩

/-- The inconsistent kernel preempts its process and dispatches it again, and only once. In the sample the second
process ends in a tick. -/
theorem reschedule_idempotent_sample :
    (∃ k', Kernel.reschedule Kernel.doubled = .ok (some 0) k' ∧ k'.stats.preemptions = 1 ∧ k'.stats.dispatches = 1 ∧
      Kernel.reschedule k' = .ok (some 0) k') ∧
    Kernel.boot 2 = .ok (Kernel.empty 2 : Kernel Context) ∧
    Exchange.births (exchanges { kernel := Kernel.empty 2 } ((sample.take 5).map (Prod.mk Source.empty))) <
      UInt32.size ∧
    ∃ k₁ : Kernel Context,
      tick Source.empty (after { kernel := Kernel.empty 2 } ((sample.take 5).map (Prod.mk Source.empty))).kernel =
        .ok (.terminated 1 .exit) { k₁ with clock := k₁.clock + 1 } ∧
      Kernel.reschedule { k₁ with clock := k₁.clock + 1 } = .ok (some 2) { k₁ with clock := k₁.clock + 1 } := by
  have hboot : Kernel.boot 2 = .ok (Kernel.empty 2 : Kernel Context) := rfl
  have hroom : Exchange.births (exchanges { kernel := Kernel.empty 2 } ((sample.take 5).map (Prod.mk Source.empty))) <
      UInt32.size := by decide +kernel
  obtain ⟨outcome, k₁, hstep, h⟩ := reschedule_idempotent.2 hboot _ hroom Source.empty
  obtain ⟨rfl, rfl⟩ := EStateM.Result.ok.inj (hstep.symm.trans rfl)
  obtain ⟨hsettled, htick⟩ := h (.inr rfl)
  exact ⟨⟨_, rfl, rfl, rfl, reschedule_idempotent.1 (k := Kernel.doubled) rfl⟩, hboot, hroom, _, htick, hsettled⟩

end Session

end Timeshare
