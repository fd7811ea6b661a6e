import Timeshare.Kernel.Basic
import Timeshare.Proofs.Queues
import Timeshare.Proofs.Table

/-!
# Consistency: the slot, the queues and the table agree

A process has one place: the slot, one ready queue or the blocked queue. A kernel is consistent if the numbers in
these places are the numbers of the table, each once, and if every record says what its place is. Consistency is what
all that can happen in a kernel keeps, one thing at a time; that numbers are given out in order is kept as long as
they last (`Numbered`).
-/

namespace Timeshare

/-! ## Quanta -/

theorem toNat_quantum {level : Priority} (h : level.toNat < 32) : (quantum level).toNat = 2 ^ level.toNat := by
  rw [quantum, if_pos h]
  exact UInt32.toNat_ofNat_of_lt' (Nat.pow_lt_pow_right (by decide) h)

/-- Every quantum is at least one instruction. -/
theorem quantum_pos (level : Priority) : 0 < quantum level := by
  rw [UInt32.lt_iff_toNat_lt]
  by_cases h : level.toNat < 32
  · rw [toNat_quantum h]
    exact Nat.two_pow_pos _
  · rw [quantum, if_neg h]
    decide

namespace Kernel

variable {C : Type}

/-- The numbers in the slot, in the ready queues and in the blocked queue. -/
def places (k : Kernel C) : List Pid := k.running.toList ++ k.queues.ready.flatten ++ k.queues.blocked

theorem places_of_running {k : Kernel C} {pid : Pid} (h : k.running = some pid) :
    k.places = pid :: (k.queues.ready.flatten ++ k.queues.blocked) := by
  simp [places, h]

theorem places_of_idle {k : Kernel C} (h : k.running = none) :
    k.places = k.queues.ready.flatten ++ k.queues.blocked := by
  simp [places, h]

/-- The record bears the number it is filed under, and its state is the place that the number has; its level exists,
and it has not used up its quantum. -/
structure Standing (k : Kernel C) (pid : Pid) (r : ProcessRecord C) : Prop where
  keyed : r.pid = pid
  running : k.running = some pid → r.state = .running
  ready : ∀ level, pid ∈ k.queues.readyAt level → r.state = .ready ∧ level = r.priority
  blocked : pid ∈ k.queues.blocked → r.state = .blocked
  level : r.priority.toNat < k.queues.ready.length
  within : r.cpuTimeUsed < quantum r.priority

/-- What a record says of its place stays true as long as no queue and no slot gets its number. -/
theorem Standing.frame {k k' : Kernel C} {pid : Pid} {r : ProcessRecord C} (hs : k.Standing pid r)
    (hrun : k'.running = some pid → k.running = some pid)
    (hready : ∀ l, pid ∈ k'.queues.readyAt l → pid ∈ k.queues.readyAt l)
    (hblocked : pid ∈ k'.queues.blocked → pid ∈ k.queues.blocked)
    (hlength : k'.queues.ready.length = k.queues.ready.length) : k'.Standing pid r where
  keyed := hs.keyed
  running := fun hn => hs.running (hrun hn)
  ready := fun l hl => hs.ready l (hready l hl)
  blocked := fun hb => hs.blocked (hblocked hb)
  level := hlength ▸ hs.level
  within := hs.within

/-- The slot, the queues and the table agree. -/
structure Consistent (k : Kernel C) : Prop where
  levels : k.queues.ready.length ≤ maxLevels.toNat
  unique : k.table.pids.Nodup
  placed : k.places.Perm k.table.pids
  standing : ∀ pid r, (pid, r) ∈ k.table.entries → k.Standing pid r
  marked : ∀ pid, k.executed = some pid → k.running = some pid

/-- Every number of the table was given out before the next one. -/
def Numbered (k : Kernel C) : Prop := ∀ pid ∈ k.table.pids, pid.toNat < k.table.nextPid.toNat

theorem Numbered.fresh {k : Kernel C} (h : k.Numbered) : k.table.nextPid ∉ k.table.pids :=
  fun hmem => Nat.lt_irrefl _ (h _ hmem)

/-- A number that is in use is not the next one. -/
theorem Numbered.ne_nextPid {k : Kernel C} (h : k.Numbered) {pid : Pid} {r : ProcessRecord C}
    (hr : k.table.get? pid = some r) :
    pid ≠ k.table.nextPid := by
  intro heq
  exact h.fresh (heq ▸ Table.mem_pids_iff.mpr ⟨r, hr⟩)

/-- A kernel without processes is consistent. -/
theorem consistent_empty {levels : UInt8} (h : levelsInRange levels = true) : (empty levels : Kernel C).Consistent where
  levels := by
    simp only [levelsInRange, Bool.and_eq_true, decide_eq_true_eq] at h
    simpa [empty, Queues.empty] using UInt8.le_iff_toNat_le.mp h.2
  unique := List.nodup_nil
  placed := by simp [places, empty, Queues.empty, Table.pids]
  standing := by simp [empty]
  marked := by simp [empty]

theorem numbered_empty (levels : UInt8) : (empty levels : Kernel C).Numbered := by
  intro pid hpid
  cases hpid

/-- A kernel that boots is an empty one of a number of levels that is in range. -/
theorem boot_eq_ok_iff {levels : UInt8} {k : Kernel C} :
    boot levels = .ok k ↔ levelsInRange levels = true ∧ k = empty levels := by
  unfold boot checkLevels
  split
  · rename_i h
    simp only [Except.map, Except.ok.injEq, h, true_and]
    exact eq_comm
  · rename_i h
    simp [Except.map, h]

namespace Consistent

variable {k : Kernel C}

theorem length_le (h : k.Consistent) : k.queues.ready.length ≤ 256 :=
  Nat.le_trans h.levels (by decide)

theorem nodup (h : k.Consistent) : k.places.Nodup := h.placed.nodup_iff.mpr h.unique

theorem exists_record (h : k.Consistent) {pid : Pid} (hp : pid ∈ k.places) : ∃ r, k.table.get? pid = some r :=
  Table.mem_pids_iff.mp (h.placed.mem_iff.mp hp)

theorem standing_of_get? (h : k.Consistent) {pid : Pid} {r : ProcessRecord C} (hr : k.table.get? pid = some r) :
    k.Standing pid r := h.standing pid r (Table.mem_of_get? hr)

theorem exists_running (h : k.Consistent) {pid : Pid} (hrun : k.running = some pid) : ∃ r, k.table.get? pid = some r :=
  h.exists_record (by simp [places, hrun])

/-- A ready process has a record, which bears the level of its queue. -/
theorem exists_ready (h : k.Consistent) {pid : Pid} {level : Priority} (hp : pid ∈ k.queues.readyAt level) :
    ∃ r, k.table.get? pid = some r ∧ r.priority = level := by
  have hflat : pid ∈ k.queues.ready.flatten := (Queues.mem_flatten_iff h.length_le).mpr ⟨level, hp⟩
  have hplace : pid ∈ k.places := by
    simp only [places, List.mem_append]
    exact Or.inl (Or.inr hflat)
  obtain ⟨r, hr⟩ := h.exists_record hplace
  exact ⟨r, hr, ((h.standing_of_get? hr).ready level hp).2.symm⟩

theorem exists_blocked (h : k.Consistent) {pid : Pid} (hp : pid ∈ k.queues.blocked) : ∃ r, k.table.get? pid = some r :=
  h.exists_record (by simp [places, hp])

/-- The running process is in no queue. -/
theorem not_queued_of_running (h : k.Consistent) {pid : Pid} (hrun : k.running = some pid) :
    pid ∉ k.queues.ready.flatten ∧ pid ∉ k.queues.blocked := by
  have hn := h.nodup
  rw [places_of_running hrun, List.nodup_cons, List.mem_append, not_or] at hn
  exact hn.1

/-- The running process waits at no level. -/
theorem not_readyAt_of_running (h : k.Consistent) {pid : Pid} (hrun : k.running = some pid) (l : Priority) :
    pid ∉ k.queues.readyAt l := by
  intro hl
  exact (h.not_queued_of_running hrun).1 ((Queues.mem_flatten_iff h.length_le).mpr ⟨l, hl⟩)

/-- A blocked process waits at no level. -/
theorem not_readyAt_of_blocked (h : k.Consistent) {pid : Pid} (hp : pid ∈ k.queues.blocked) (l : Priority) :
    pid ∉ k.queues.readyAt l := by
  intro hl
  have hn := h.nodup
  rw [places, List.nodup_append] at hn
  have hflat : pid ∈ k.queues.ready.flatten := (Queues.mem_flatten_iff h.length_le).mpr ⟨l, hl⟩
  exact hn.2.2 pid (List.mem_append_right _ hflat) pid hp rfl

/-- Where a number is filed is the record that is found under it. -/
theorem eq_of_mem (h : k.Consistent) {pid p : Pid} {r r' : ProcessRecord C} (hr : k.table.get? pid = some r)
    (hr' : (p, r') ∈ k.table.entries) (hp : p = pid) : r' = r := by
  subst hp
  exact Option.some.inj ((Table.get?_of_mem h.unique hr').symm.trans hr)

end Consistent

end Kernel
end Timeshare
