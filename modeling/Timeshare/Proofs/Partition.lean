import Timeshare.Proofs.Run

/-!
# Every process has one place

Whatever was asked of a kernel since it booted, and in whatever order, the slot, the ready queues and the blocked
queue hold the numbers of the table and no others, each once, and every record says which of these places its number
has (`Session.partitioned_after`).
-/

namespace Timeshare
namespace Kernel

variable {C : Type} {k : Kernel C} {pid : Pid} {r : ProcessRecord C}

/-- A record says what number it has and where this is. -/
structure Tells (k : Kernel C) (pid : Pid) (r : ProcessRecord C) : Prop where
  keyed : r.pid = pid
  running : r.state = .running ↔ k.running = some pid
  ready : r.state = .ready ↔ pid ∈ k.queues.readyAt r.priority
  level : ∀ level, pid ∈ k.queues.readyAt level → level = r.priority
  blocked : r.state = .blocked ↔ pid ∈ k.queues.blocked
  live : r.state ≠ .terminated

/-- The numbers of the table have one place each, which their records tell, and no other number has a place. -/
structure Partitioned (k : Kernel C) : Prop where
  unique : k.table.pids.Nodup
  placed : ∀ pid, k.places.count pid = if (k.table.get? pid).isSome then 1 else 0
  tells : ∀ pid r, k.table.get? pid = some r → k.Tells pid r
  single : ∀ pid pid' r r', k.table.get? pid = some r → k.table.get? pid' = some r' →
    r.state = .running → r'.state = .running → pid = pid'

namespace Consistent

/-- A process is running, ready at its level, or blocked, and its record says so. -/
theorem place_cases (h : k.Consistent) (hr : k.table.get? pid = some r) :
    (k.running = some pid ∧ r.state = .running) ∨ (pid ∈ k.queues.readyAt r.priority ∧ r.state = .ready) ∨
      (pid ∈ k.queues.blocked ∧ r.state = .blocked) := by
  have hs := h.standing_of_get? hr
  have hp : pid ∈ k.places := h.placed.mem_iff.mpr (Table.mem_pids_iff.mpr ⟨r, hr⟩)
  rw [places, List.mem_append, List.mem_append, Option.mem_toList] at hp
  rcases hp with (hrun | hready) | hblocked
  · exact .inl ⟨hrun, hs.running hrun⟩
  · obtain ⟨level, hl⟩ := (Queues.mem_flatten_iff h.length_le).mp hready
    obtain ⟨hstate, rfl⟩ := hs.ready level hl
    exact .inr (.inl ⟨hl, hstate⟩)
  · exact .inr (.inr ⟨hblocked, hs.blocked hblocked⟩)

/-- Every record of a consistent kernel tells the place of its number. -/
theorem tells (h : k.Consistent) (hr : k.table.get? pid = some r) : k.Tells pid r := by
  have hs := h.standing_of_get? hr
  refine ⟨hs.keyed, ⟨fun hstate => ?_, hs.running⟩, ⟨fun hstate => ?_, fun hp => (hs.ready _ hp).1⟩,
    fun level hp => (hs.ready level hp).2, ⟨fun hstate => ?_, hs.blocked⟩, fun hstate => ?_⟩
  all_goals
    rcases h.place_cases hr with ⟨hp, hstate'⟩ | ⟨hp, hstate'⟩ | ⟨hp, hstate'⟩
    all_goals first
      | exact hp
      | cases hstate.symm.trans hstate'

/-- The number of places that a number has is one if it has a record, and none otherwise. -/
theorem count_places (h : k.Consistent) (pid : Pid) :
    k.places.count pid = if (k.table.get? pid).isSome then 1 else 0 := by
  have hmem : pid ∈ k.places ↔ (k.table.get? pid).isSome = true := by
    rw [h.placed.mem_iff, Table.mem_pids_iff, Option.isSome_iff_exists]
  split
  · rename_i hsome
    exact List.count_eq_one_of_mem h.nodup (hmem.mpr hsome)
  · rename_i hnone
    exact List.count_eq_zero.mpr fun hp => hnone (hmem.mp hp)

/-- A consistent kernel is partitioned. -/
theorem partitioned (h : k.Consistent) : k.Partitioned where
  unique := h.unique
  placed := h.count_places
  tells := fun _ _ hr => h.tells hr
  single := by
    intro pid pid' r r' hr hr' hstate hstate'
    have hrun := (h.tells hr).running.mp hstate
    have hrun' := (h.tells hr').running.mp hstate'
    exact Option.some.inj (hrun.symm.trans hrun')

end Consistent
end Kernel

/-- After every run of a kernel since it booted in which fewer numbers are given out than there are, every process has
one place, which its record tells. -/
theorem Session.partitioned_after {levels : UInt8} {k : Kernel Context} (hboot : Kernel.boot levels = .ok k)
    (requests : List (Source × Request)) (hroom : Exchange.births (exchanges { kernel := k } requests) < UInt32.size) :
    (after { kernel := k } requests).kernel.Partitioned :=
  (sound_after hboot hroom).1.consistent.partitioned

/-- Every process has one place after the sample. -/
theorem Session.partitioned_after_sample :
    Kernel.boot 2 = .ok (Kernel.empty 2 : Kernel Context) ∧
      Exchange.births (exchanges { kernel := Kernel.empty 2 } (sample.map (Prod.mk Source.empty))) < UInt32.size ∧
      (after { kernel := Kernel.empty 2 } (sample.map (Prod.mk Source.empty))).kernel.Partitioned := by
  have hboot : Kernel.boot 2 = .ok (Kernel.empty 2 : Kernel Context) := rfl
  have hroom : Exchange.births (exchanges { kernel := Kernel.empty 2 } (sample.map (Prod.mk Source.empty))) <
      UInt32.size := by
    decide +kernel
  exact ⟨hboot, hroom, partitioned_after hboot _ hroom⟩

end Timeshare
