import Timeshare.Proofs.Run
import Timeshare.Proofs.Snapshots

/-!
# Snapshots are complete and exact

Whatever was asked of a kernel since it booted, its state can be reported, and the report has one entry for each
process that is alive and no other: the slot, the blocked queue and the ready queue of every level, in order, each
number by what its record says (`Session.snapshot_exact`).
-/

namespace Timeshare

/-! ## Entries and numbers -/

section

variable {α β γ : Type}

/-- Of two lists whose elements are related in pairs by having the same image, the images are the same. -/
theorem map_eq_map_of_forall₂ {f : α → γ} {g : β → γ} {xs : List α} {ys : List β}
    (h : List.Forall₂ (fun x y => g y = f x) xs ys) : ys.map g = xs.map f := by
  induction h with
  | nil => rfl
  | cons hxy _ ih => rw [List.map_cons, List.map_cons, hxy, ih]

/-- Where no two elements have the same image, an element is the only one with its image. -/
theorem filter_eq_singleton [DecidableEq β] {f : α → β} {xs : List α} (hn : (xs.map f).Nodup) {x : α} (hx : x ∈ xs) :
    xs.filter (f · = f x) = [x] := by
  obtain ⟨older, newer, rfl⟩ := List.append_of_mem hx
  have hother : ∀ y, y ∈ older ∨ y ∈ newer → f y ≠ f x := by
    intro y hy heq
    rw [List.map_append, List.map_cons, List.nodup_append] at hn
    obtain ⟨-, hnewer, hdisjoint⟩ := hn
    rcases hy with hy | hy
    · exact hdisjoint (f y) (List.mem_map_of_mem hy) (f x) List.mem_cons_self heq
    · exact (List.nodup_cons.mp hnewer).1 (heq ▸ List.mem_map_of_mem hy)
  have hnone : ∀ ys : List α, (∀ y ∈ ys, f y ≠ f x) → ys.filter (f · = f x) = [] := by
    intro ys hys
    rw [List.filter_eq_nil_iff]
    intro y hy
    simpa using hys y hy
  rw [List.filter_append, List.filter_cons_of_pos (by simp), hnone older fun y hy => hother y (.inl hy),
    hnone newer fun y hy => hother y (.inr hy), List.nil_append]

end

namespace Kernel

variable {k : Kernel Context} {pid : Pid} {pids : List Pid} {infos : List ProcessInfo}

/-- The entries that are reported of numbers bear these numbers. -/
theorem Reported.map_pid (h : k.Reported pids infos) (hk : k.Consistent) : infos.map (·.pid) = pids := by
  have hkeyed : List.Forall₂ (fun (pid : Pid) (info : ProcessInfo) => info.pid = pid) pids infos := by
    refine List.Forall₂.imp ?_ h
    intro pid info hinfo
    obtain ⟨r, hr, rfl⟩ := infoOf_eq_ok_iff.mp hinfo
    exact (hk.standing_of_get? hr).keyed
  rw [map_eq_map_of_forall₂ (f := id) hkeyed, List.map_id]

theorem toNat_levels (hk : k.Consistent) : k.queues.levels.toNat = k.queues.ready.length :=
  UInt8.toNat_ofNat_of_lt' (Nat.lt_of_le_of_lt hk.levels (by decide))

/-- The levels that are reported count from 0. -/
theorem map_toNat_levelList (hk : k.Consistent) : k.levelList.map UInt8.toNat = List.range k.queues.ready.length := by
  rw [levelList, toNat_levels hk, List.map_map]
  refine (List.map_congr_left ?_).trans (List.map_id _)
  intro i hi
  exact UInt8.toNat_ofNat_of_lt' (Nat.lt_of_lt_of_le (List.mem_range.mp hi) hk.length_le)

/-- A level is reported exactly if it has a ready queue. -/
theorem mem_levelList_iff (hk : k.Consistent) (level : Priority) :
    level ∈ k.levelList ↔ level.toNat < k.queues.ready.length := by
  rw [← List.mem_range, ← map_toNat_levelList hk, List.mem_map]
  constructor
  · intro h
    exact ⟨level, h, rfl⟩
  · rintro ⟨l, hl, heq⟩
    exact UInt8.toNat_inj.mp heq ▸ hl

theorem readyAt_of_le {level : Priority} (h : k.queues.ready.length ≤ level.toNat) : k.queues.readyAt level = [] := by
  rw [Queues.readyAt, List.getElem?_eq_none h]
  rfl

/-- The ready queues are those of the levels that are reported, in order. -/
theorem map_readyAt_levelList (hk : k.Consistent) : k.levelList.map k.queues.readyAt = k.queues.ready := by
  have hqueues : (List.range k.queues.ready.length).map (fun i => (k.queues.ready[i]?).getD []) = k.queues.ready := by
    refine List.ext_getElem (by simp) ?_
    intro i hi hi'
    simp [List.getElem?_eq_getElem hi']
  rw [← map_toNat_levelList hk, List.map_map] at hqueues
  exact hqueues

end Kernel

/-! ## One snapshot -/

/-- The entry says of a process what its record says. -/
structure ProcessInfo.Describes (info : ProcessInfo) (r : ProcessRecord Context) : Prop where
  pid : info.pid = r.pid
  parent : info.parent = r.parent
  priority : info.priority = r.priority
  accumulator : info.accumulator = r.context.accumulator
  startTime : info.startTime = r.startTime
  cpuTimeUsed : info.cpuTimeUsed = r.cpuTimeUsed

theorem ProcessRecord.describes_info (r : ProcessRecord Context) : r.info.Describes r :=
  ⟨rfl, rfl, rfl, rfl, rfl, rfl⟩

/-- The snapshot lists exactly the processes of the kernel. -/
structure Snapshot.Exact (s : Snapshot) (k : Kernel Context) : Prop where
  clock : s.clock = k.clock
  /-- A process that is alive has one entry, which says what its record says. -/
  listed : ∀ pid r, k.table.get? pid = some r →
    ∃ info : ProcessInfo, s.processes.filter (·.pid = pid) = [info] ∧ info.Describes r
  /-- Nobody else has an entry. -/
  unlisted : ∀ pid, k.table.get? pid = none → s.processes.filter (·.pid = pid) = []
  running : s.runningPid = k.running
  blocked : s.blockedPids = k.queues.blocked
  /-- There is one entry for each level, from the most urgent on. -/
  levels : s.ready.map (·.priority.toNat) = List.range k.queues.ready.length
  /-- These entries are the ready queues. -/
  queues : s.ready.map (fun entry => entry.processes.map (·.pid)) = k.queues.ready
  ready : ∀ level, s.readyPids level = k.queues.readyAt level
  /-- Whoever is listed under a level is of this level. -/
  leveled : ∀ entry ∈ s.ready, ∀ p ∈ entry.processes, p.priority = entry.priority

namespace Snapshot.Shows

variable {s : Snapshot} {k : Kernel Context}

/-- The levels of a snapshot are the ready queues, in order. -/
theorem map_ready (h : s.Shows k) (hk : k.Consistent) :
    s.ready.map (fun entry => entry.processes.map (·.pid)) = k.queues.ready := by
  rw [← Kernel.map_readyAt_levelList hk]
  refine map_eq_map_of_forall₂ (List.Forall₂.imp ?_ h.ready)
  intro level entry hentry
  exact hentry.2.map_pid hk

/-- The processes that a snapshot shows are those that have a place. -/
theorem map_pid_perm (h : s.Shows k) (hk : k.Consistent) : (s.processes.map (·.pid)).Perm k.table.pids := by
  have hflat : (s.ready.flatMap (·.processes)).map (·.pid) = k.queues.ready.flatten := by
    rw [List.map_flatMap, List.flatMap_def, h.map_ready hk]
  have hpids : s.processes.map (·.pid) = k.running.toList ++ k.queues.blocked ++ k.queues.ready.flatten := by
    simp only [processes, List.map_append, h.running.map_pid hk, h.blocked.map_pid hk, hflat]
  refine List.Perm.trans ?_ hk.placed
  rw [hpids, Kernel.places, List.append_assoc, List.append_assoc]
  exact List.perm_append_comm.append_left _

/-- Under the number of a process that is alive a snapshot shows one entry, which says what the record says. -/
theorem exists_entry (h : s.Shows k) (hk : k.Consistent) {pid : Pid} {r : ProcessRecord Context}
    (hr : k.table.get? pid = some r) :
    ∃ info : ProcessInfo, s.processes.filter (·.pid = pid) = [info] ∧ info.Describes r := by
  have hperm := h.map_pid_perm hk
  have hmem : pid ∈ s.processes.map (·.pid) := hperm.mem_iff.mpr (Table.mem_pids_iff.mpr ⟨r, hr⟩)
  obtain ⟨info, hinfo, rfl⟩ := List.mem_map.mp hmem
  refine ⟨info, filter_eq_singleton (hperm.nodup_iff.mpr hk.unique) hinfo, ?_⟩
  obtain ⟨r', hr', rfl⟩ := h.exists_record hk hinfo
  obtain rfl := Option.some.inj (hr.symm.trans hr')
  exact r.describes_info

/-- Under a number that nobody has a snapshot shows nothing. -/
theorem filter_eq_nil (h : s.Shows k) (hk : k.Consistent) {pid : Pid} (hpid : k.table.get? pid = none) :
    s.processes.filter (·.pid = pid) = [] := by
  rw [List.filter_eq_nil_iff]
  intro info hinfo
  simp only [decide_eq_true_eq]
  rintro rfl
  obtain ⟨r, hr, -⟩ := h.exists_record hk hinfo
  cases hr.symm.trans hpid

/-- Under each level that has an entry a snapshot shows the ready queue. -/
theorem readyPids_of_forall₂ (hk : k.Consistent) {levels : List Priority} (h : List.Forall₂ (fun level entry =>
    entry.priority = level ∧ k.Reported (k.queues.readyAt level) entry.processes) levels s.ready) (level : Priority) :
    s.readyPids level = if level ∈ levels then k.queues.readyAt level else [] := by
  obtain ⟨clock, running, blocked, ready⟩ := s
  simp only at h
  induction h with
  | nil => rfl
  | @cons l entry levels entries hentry _ ih =>
    obtain ⟨hpriority, hreported⟩ := hentry
    unfold readyPids at ih ⊢
    by_cases hl : entry.priority = level
    · rw [List.find?_cons_of_pos (by simpa using hl), if_pos (by simp [← hl, hpriority])]
      exact (hreported.map_pid hk).trans (by rw [← hl, hpriority])
    · have hne : ¬level = l := by
        rintro rfl
        exact hl hpriority
      rw [List.find?_cons_of_neg (by simpa using hl), ih]
      simp only [List.mem_cons, hne, false_or]

/-- Under each level a snapshot shows the ready queue. -/
theorem readyPids_eq (h : s.Shows k) (hk : k.Consistent) (level : Priority) :
    s.readyPids level = k.queues.readyAt level := by
  rw [readyPids_of_forall₂ hk h.ready]
  by_cases hl : level.toNat < k.queues.ready.length
  · rw [if_pos ((Kernel.mem_levelList_iff hk level).mpr hl)]
  · rw [Kernel.readyAt_of_le (Nat.le_of_not_lt hl), ite_self]

/-- A snapshot that shows a consistent kernel is exact. -/
theorem exact (h : s.Shows k) (hk : k.Consistent) : s.Exact k where
  clock := h.clock
  listed _ _ hr := h.exists_entry hk hr
  unlisted _ hpid := h.filter_eq_nil hk hpid
  running := by
    have hrunning := h.running.map_pid hk
    unfold runningPid
    rw [← Option.head?_toList (o := k.running), ← hrunning]
    cases s.running <;> rfl
  blocked := h.blocked.map_pid hk
  levels := by
    have hlevels : s.ready.map (·.priority) = k.levelList := by
      rw [map_eq_map_of_forall₂ (f := id) (List.Forall₂.imp (fun _ _ hentry => hentry.1) h.ready), List.map_id]
    rw [← Kernel.map_toNat_levelList hk, ← hlevels, List.map_map]
    rfl
  queues := h.map_ready hk
  ready := h.readyPids_eq hk
  leveled := by
    intro entry hentry p hp
    obtain ⟨level, -, hpriority, hreported⟩ := exists_of_forall₂ h.ready hentry
    obtain ⟨pid, hpid, hinfo⟩ := exists_of_forall₂ hreported hp
    obtain ⟨r, hr, rfl⟩ := Kernel.infoOf_eq_ok_iff.mp hinfo
    obtain ⟨-, hlevel⟩ := (hk.standing_of_get? hr).ready level hpid
    rw [hpriority, hlevel]
    rfl

end Snapshot.Shows

/-! ## Every run -/

section

variable {C : Type} [Machine C] {k k' : Kernel C} {e : Event C} {es : List (Event C)}

/-- A move keeps the number of levels. -/
theorem Move.length_ready (h : Move k e k') (hk : k.Consistent) : k'.queues.ready.length = k.queues.ready.length := by
  cases h with
  | filed horigin hfresh hq => exact (Queues.joins_of_enqueueReady hq).length
  | woken hd hr hq => rw [(Queues.joins_of_enqueueReady hq).length, (Queues.dequeueBlocked_eq_some_iff.mp hd).2]
  | preempted hrun hmark hr hused hq => exact (Queues.joins_of_enqueueReady hq).length
  | dispatched hrun hd hr =>
    obtain ⟨level, hleaves⟩ := Queues.leaves_of_dequeueReady hk.length_le hd
    exact hleaves.length
  | _ => rfl

/-- A path keeps the number of levels. -/
theorem Path.length_ready (h : Path k es k') (hk : k.Consistent) : k'.queues.ready.length = k.queues.ready.length := by
  induction h with
  | nil => rfl
  | cons hm _ ih => rw [ih (hm.consistent hk), hm.length_ready hk]

end

namespace Session

variable {levels : UInt8} {k : Kernel Context}

/-- A kernel has the levels that it booted with. -/
theorem length_ready_after (hboot : Kernel.boot levels = .ok k) {requests : List (Source × Request)}
    (hroom : Exchange.births (exchanges { kernel := k } requests) < UInt32.size) :
    (after { kernel := k } requests).kernel.queues.ready.length = levels.toNat := by
  refine (run_invariant_of_boot (P := fun _ s => s.kernel.queues.ready.length = levels.toNat) hboot ?_ ?_ hroom).1
  · rw [(Kernel.boot_eq_ok_iff.mp hboot).2]
    exact List.length_replicate
  · intro xs s source request es _ ht hP
    exact (ht.course.path.length_ready ht.before.consistent).trans hP

/-- After every run of a kernel since it booted its state can be reported. The report lists exactly the processes that
are alive, each once and as its record says: the one in the slot, those in the blocked queue in order, and those in
the ready queue of each level in order. It has one entry for each level that the kernel booted with, and nobody is
ready past the last. -/
theorem snapshot_exact (hboot : Kernel.boot levels = .ok k) (requests : List (Source × Request))
    (hroom : Exchange.births (exchanges { kernel := k } requests) < UInt32.size) :
    ∃ snapshot, (after { kernel := k } requests).kernel.snapshot = .ok snapshot ∧
      snapshot.Exact (after { kernel := k } requests).kernel ∧
      snapshot.ready.map (·.priority.toNat) = List.range levels.toNat ∧
      ∀ level, levels ≤ level → snapshot.readyPids level = [] := by
  obtain ⟨hsound, -⟩ := sound_after hboot hroom
  obtain ⟨snapshot, hsnapshot⟩ := Kernel.exists_snapshot hsound.consistent
  have hexact := (Kernel.shows_of_snapshot hsnapshot).exact hsound.consistent
  have hlength := length_ready_after hboot hroom
  refine ⟨snapshot, hsnapshot, hexact, hlength ▸ hexact.levels, ?_⟩
  intro level hlevel
  rw [hexact.ready]
  refine Kernel.readyAt_of_le ?_
  rw [hlength]
  exact UInt8.le_iff_toNat_le.mp hlevel

/-- The sample and one more tick. -/
def tickedSample : List (Source × Request) := (sample ++ [Request.command .tick]).map (Prod.mk Source.empty)

/-- In the end the child is in the slot and has been charged for one instruction, while its parent is ready at their
level. -/
theorem snapshot_exact_sample :
    Kernel.boot 2 = .ok (Kernel.empty 2 : Kernel Context) ∧
      Exchange.births (exchanges { kernel := Kernel.empty 2 } tickedSample) < UInt32.size ∧
      ∃ snapshot, (after { kernel := Kernel.empty 2 } tickedSample).kernel.snapshot = .ok snapshot ∧
        snapshot.Exact (after { kernel := Kernel.empty 2 } tickedSample).kernel ∧
        snapshot.ready.map (·.priority.toNat) = [0, 1] ∧
        snapshot.processes = [
          { pid := 2, parent := some 0, priority := 1, accumulator := 7, startTime := 1, cpuTimeUsed := 1 },
          { pid := 0, parent := none, priority := 1, accumulator := 6, startTime := 0, cpuTimeUsed := 0 }] := by
  have hboot : Kernel.boot 2 = .ok (Kernel.empty 2 : Kernel Context) := rfl
  have hroom : Exchange.births (exchanges { kernel := Kernel.empty 2 } tickedSample) < UInt32.size := by decide +kernel
  obtain ⟨snapshot, hsnapshot, hexact, hlevels, -⟩ := snapshot_exact hboot _ hroom
  have hentries :
    (after { kernel := Kernel.empty 2 } tickedSample).kernel.snapshot.toOption.map Snapshot.processes = some [
      { pid := 2, parent := some 0, priority := 1, accumulator := 7, startTime := 1, cpuTimeUsed := 1 },
      { pid := 0, parent := none, priority := 1, accumulator := 6, startTime := 0, cpuTimeUsed := 0 }] := by
    decide +kernel
  rw [hsnapshot] at hentries
  exact ⟨hboot, hroom, snapshot, hsnapshot, hexact, hlevels, Option.some.inj hentries⟩

end Session

end Timeshare
