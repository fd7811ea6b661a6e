import Mathlib
import Timeshare.Proofs.Faults

/-!
# What a snapshot shows

A snapshot shows the slot, the blocked queue and the ready queue of every level, each number by the record that is
found under it (`Snapshot.Shows`). So whoever is shown is alive: the table holds the record.
-/

namespace Timeshare

/-! ## Walks that succeed -/

section

variable {α β ε : Type}

/-- Two steps succeed exactly if the first one does, and then the second one. -/
theorem bind_eq_ok_iff {x : Except ε α} {f : α → Except ε β} {b : β} :
    x >>= f = .ok b ↔ ∃ a, x = .ok a ∧ f a = .ok b := by
  cases x with
  | error e => exact ⟨fun h => (by cases h), fun ⟨_, h, _⟩ => (by cases h)⟩
  | ok a => exact ⟨fun h => ⟨a, rfl, h⟩, fun ⟨_, ha, h⟩ => Except.ok.inj ha ▸ h⟩

/-- A walk succeeds exactly if it does on every element, and its result is made of theirs. -/
theorem mapM_eq_ok_iff {f : α → Except ε β} {xs : List α} {ys : List β} :
    xs.mapM f = .ok ys ↔ List.Forall₂ (fun x y => f x = .ok y) xs ys := by
  induction xs generalizing ys with
  | nil =>
    rw [List.mapM_nil, List.forall₂_nil_left_iff]
    exact ⟨fun h => (Except.ok.inj h).symm, fun h => h ▸ rfl⟩
  | cons x xs ih =>
    simp only [List.mapM_cons, List.forall₂_cons_left_iff, bind_eq_ok_iff, ih]
    constructor
    · rintro ⟨y, hy, zs, hzs, h⟩
      exact ⟨y, zs, hy, hzs, (Except.ok.inj h).symm⟩
    · rintro ⟨y, zs, hy, hzs, rfl⟩
      exact ⟨y, hy, zs, hzs, rfl⟩

/-- Of two lists whose elements are related in pairs, each element of the second is related to one of the first. -/
theorem exists_of_forall₂ {R : α → β → Prop} {xs : List α} {ys : List β} (h : List.Forall₂ R xs ys) {y : β}
    (hy : y ∈ ys) :
    ∃ x ∈ xs, R x y := by
  obtain ⟨i, hi, rfl⟩ := List.mem_iff_getElem.mp hy
  have hi' : i < xs.length := h.length_eq ▸ hi
  exact ⟨xs[i], List.getElem_mem hi', h.get hi' hi⟩

end

/-! ## Snapshots of a kernel -/

/-- All processes that a snapshot shows. -/
def Snapshot.processes (s : Snapshot) : List ProcessInfo :=
  s.running.toList ++ s.blocked ++ s.ready.flatMap (·.processes)

/-- The entries are what is reported of the numbers. -/
def Kernel.Reported (k : Kernel Context) : List Pid → List ProcessInfo → Prop :=
  List.Forall₂ fun pid info => k.infoOf pid = .ok info

/-- The snapshot shows the kernel: the time, and who is in the slot, in the blocked queue and in the ready queue of
each level. -/
structure Snapshot.Shows (s : Snapshot) (k : Kernel Context) : Prop where
  clock : s.clock = k.clock
  running : k.Reported k.running.toList s.running.toList
  blocked : k.Reported k.queues.blocked s.blocked
  ready : List.Forall₂ (fun level entry => entry.priority = level ∧ k.Reported (k.queues.readyAt level) entry.processes)
    k.levelList s.ready

namespace Kernel

variable {k : Kernel Context} {snapshot : Snapshot} {level : Priority} {entry : ReadyLevel} {pid : Pid}
    {info : ProcessInfo}

theorem infoOf_eq_ok_iff : k.infoOf pid = .ok info ↔ ∃ r, k.table.get? pid = some r ∧ r.info = info := by
  unfold infoOf
  cases k.table.get? pid <;> simp

/-- What is reported of a level is its ready queue. -/
theorem readyLevel_eq_ok_iff :
    k.readyLevel level = .ok entry ↔ entry.priority = level ∧ k.Reported (k.queues.readyAt level) entry.processes := by
  unfold readyLevel
  rw [bind_eq_ok_iff]
  constructor
  · rintro ⟨infos, hinfos, h⟩
    obtain rfl := Except.ok.inj h
    exact ⟨rfl, mapM_eq_ok_iff.mp hinfos⟩
  · rintro ⟨rfl, hinfos⟩
    exact ⟨entry.processes, mapM_eq_ok_iff.mpr hinfos, rfl⟩

/-- What is reported of the slot is who is in it. -/
theorem runningInfo_eq_ok_iff {running : Option ProcessInfo} :
    k.running.mapM k.infoOf = .ok running ↔ k.Reported k.running.toList running.toList := by
  unfold Reported
  cases k.running with
  | none => cases running <;> simp [pure, Except.pure]
  | some pid =>
    rw [Option.mapM_some]
    cases hinfo : k.infoOf pid <;> cases running <;> simp [hinfo]

/-- The snapshot of a kernel shows it. -/
theorem shows_of_snapshot (h : k.snapshot = .ok snapshot) : snapshot.Shows k := by
  unfold Kernel.snapshot at h
  obtain ⟨running, hrunning, h⟩ := bind_eq_ok_iff.mp h
  obtain ⟨blocked, hblocked, h⟩ := bind_eq_ok_iff.mp h
  obtain ⟨ready, hready, h⟩ := bind_eq_ok_iff.mp h
  obtain rfl := Except.ok.inj h
  refine ⟨rfl, runningInfo_eq_ok_iff.mp hrunning, mapM_eq_ok_iff.mp hblocked, ?_⟩
  simpa only [readyLevel_eq_ok_iff] using mapM_eq_ok_iff.mp hready

end Kernel

/-- Whoever a snapshot of a consistent kernel shows is alive, and is shown by the record. -/
theorem Snapshot.Shows.exists_record {s : Snapshot} {k : Kernel Context} (h : s.Shows k) (hk : k.Consistent)
    {info : ProcessInfo} (hinfo : info ∈ s.processes) : ∃ r, k.table.get? info.pid = some r ∧ r.info = info := by
  obtain ⟨pid, r, hr, rfl⟩ : ∃ pid r, k.table.get? pid = some r ∧ r.info = info := by
    rw [Snapshot.processes, List.mem_append, List.mem_append, List.mem_flatMap] at hinfo
    have hreported : ∀ {pids infos}, k.Reported pids infos → info ∈ infos → ∃ pid r, k.table.get? pid = some r ∧
        r.info = info := by
      intro pids infos hinfos hmem
      obtain ⟨pid, -, hpid⟩ := exists_of_forall₂ hinfos hmem
      exact ⟨pid, Kernel.infoOf_eq_ok_iff.mp hpid⟩
    rcases hinfo with (hrunning | hblocked) | ⟨entry, hentry, hready⟩
    · exact hreported h.running hrunning
    · exact hreported h.blocked hblocked
    · obtain ⟨level, -, -, hlevel⟩ := exists_of_forall₂ h.ready hentry
      exact hreported hlevel hready
  have hkeyed : r.info.pid = pid := (hk.standing_of_get? hr).keyed
  exact ⟨r, hkeyed ▸ hr, rfl⟩

end Timeshare
