import Timeshare.Proofs.Move

/-!
# What every move keeps

Every move keeps a kernel consistent. It gives out at most one number, the next one, so the numbers of the table stay
below the next one until they have all been given out.
-/

namespace Timeshare
namespace Kernel

variable {C : Type} {k : Kernel C}

/-! ## Changes that keep a kernel consistent -/

/-- The numbers of a table without one of them, where that one came first. -/
theorem perm_erase {pid : Pid} {rest : List Pid} (hu : k.table.pids.Nodup) (h : (pid :: rest).Perm k.table.pids) :
    rest.Perm (k.table.erase pid).pids := by
  have hn : pid ∉ rest := (List.nodup_cons.mp (h.nodup_iff.mpr hu)).1
  have hrest : (pid :: rest).filter (· ≠ pid) = rest := by
    rw [List.filter_cons_of_neg (by simp), List.filter_eq_self]
    intro p hp
    simpa using fun heq : p = pid => hn (heq ▸ hp)
  rw [Table.pids_erase, ← hrest]
  exact h.filter _

namespace Consistent

/-- A consistent kernel stays so if its places and its numbers stay and its records change only in what they compute
or in what they have been charged, within their quanta. -/
theorem of_same_places (h : k.Consistent) {k' : Kernel C} (hqueues : k'.queues = k.queues)
    (hrun : k'.running = k.running) (hpids : k'.table.pids = k.table.pids)
    (hmark : ∀ pid, k'.executed = some pid → k'.running = some pid)
    (hr : ∀ pid r', (pid, r') ∈ k'.table.entries → ∃ r, (pid, r) ∈ k.table.entries ∧ r'.pid = r.pid ∧
      r'.state = r.state ∧
      r'.priority = r.priority ∧ r'.cpuTimeUsed < quantum r'.priority) : k'.Consistent where
  levels := hqueues ▸ h.levels
  unique := hpids ▸ h.unique
  placed := by
    rw [hpids, places, hqueues, hrun]
    exact h.placed
  standing := by
    intro pid r' hr'
    obtain ⟨r, hmem, hpid, hstate, hprio, hused⟩ := hr pid r' hr'
    have hs := h.standing pid r hmem
    refine ⟨hpid.trans hs.keyed, ?_, ?_, ?_, ?_, hused⟩
    · rw [hrun, hstate]
      exact hs.running
    · rw [hqueues, hstate, hprio]
      exact hs.ready
    · rw [hqueues, hstate]
      exact hs.blocked
    · rw [hqueues, hprio]
      exact hs.level
  marked := hmark

/-- Work keeps a kernel consistent: it changes a context and leaves a mark. -/
theorem work (h : k.Consistent) {pid : Pid} (hrun : k.running = some pid) (change : C → C) (stats : Stats) :
    Consistent { k with
      table := k.table.modify pid (ProcessRecord.mapContext change), executed := some pid, stats := stats } := by
  refine h.of_same_places rfl rfl (Table.pids_modify _ _ _) (fun p hp => by rw [← hp]; exact hrun) ?_
  refine Table.forall_mem_modify.mpr fun p r hr => ⟨r, hr, ?_⟩
  have hused := (h.standing p r hr).within
  split <;> exact ⟨rfl, rfl, rfl, hused⟩

/-- A charge within the quantum keeps a kernel consistent. -/
theorem charge (h : k.Consistent) {pid : Pid} {used : UInt32}
    (hused : ∀ r, k.table.get? pid = some r → used < quantum r.priority) :
    Consistent { k with table := k.table.modify pid fun r => { r with cpuTimeUsed := used }, executed := none } := by
  refine h.of_same_places rfl rfl (Table.pids_modify _ _ _) (fun _ hm => by cases hm) ?_
  refine Table.forall_mem_modify.mpr fun p r hr => ⟨r, hr, ?_⟩
  split
  · rename_i hpid
    subst hpid
    exact ⟨rfl, rfl, rfl, hused r (Table.get?_of_mem h.unique hr)⟩
  · exact ⟨rfl, rfl, rfl, (h.standing p r hr).within⟩

/-- A kernel stays consistent where a process goes from the slot to the tail of the blocked queue. -/
theorem block (h : k.Consistent) {pid : Pid} (hrun : k.running = some pid) (change : C → C) (stats : Stats) :
    Consistent { k with
      table := k.table.modify pid fun r => { r with state := .blocked, context := change r.context }
      queues := k.queues.enqueueBlocked pid, running := none, executed := none, stats := stats } where
  levels := h.levels
  unique := by
    rw [Table.pids_modify]
    exact h.unique
  placed := by
    have hp := h.placed
    rw [places_of_running hrun] at hp
    rw [Table.pids_modify, places_of_idle rfl]
    refine List.Perm.trans ?_ hp
    rw [Queues.enqueueBlocked, ← List.append_assoc]
    exact List.perm_append_singleton _ _
  standing := by
    refine Table.forall_mem_modify.mpr fun p r hr => ?_
    have hs := h.standing p r hr
    split
    · rename_i hpid
      subst hpid
      refine ⟨hs.keyed, (fun hn => by cases hn), fun l hl => ?_, fun _ => rfl, hs.level, hs.within⟩
      exact absurd hl (h.not_readyAt_of_running hrun l)
    · rename_i hpid
      refine hs.frame (fun hn => by cases hn) (fun _ hl => hl) (fun hb => ?_) rfl
      rcases List.mem_append.mp hb with hb | hb
      · exact hb
      · exact absurd (List.mem_singleton.mp hb) hpid
  marked := by
    intro p hm
    cases hm

/-- A kernel stays consistent where the running process is erased. -/
theorem erase (h : k.Consistent) {pid : Pid} (hrun : k.running = some pid) (stats : Stats) :
    Consistent { k with table := k.table.erase pid, running := none, executed := none, stats := stats } where
  levels := h.levels
  unique := by
    rw [Table.pids_erase]
    exact h.unique.filter _
  placed := by
    rw [places_of_idle rfl]
    exact perm_erase h.unique (places_of_running hrun ▸ h.placed)
  standing := by
    intro p r hr
    have hs := h.standing p r (Table.mem_erase_iff.mp hr).1
    exact hs.frame (fun hn => by cases hn) (fun _ hl => hl) (fun hb => hb) rfl
  marked := by
    intro p hm
    cases hm

/-- A kernel stays consistent where a process goes from the slot to the tail of its level. -/
theorem yield (h : k.Consistent) {pid : Pid} {r : ProcessRecord C} {queues : Queues} (hrun : k.running = some pid)
    (hr : k.table.get? pid = some r) (hq : k.queues.enqueueReady pid r.priority = some queues) (stats : Stats) :
    Consistent { k with
      table := k.table.modify pid fun r => { r with state := .ready, cpuTimeUsed := 0 }
      queues := queues, running := none, executed := none, stats := stats } where
  levels := (Queues.joins_of_enqueueReady hq).length ▸ h.levels
  unique := by
    rw [Table.pids_modify]
    exact h.unique
  placed := by
    have hp := h.placed
    have hj := Queues.joins_of_enqueueReady hq
    rw [places_of_running hrun] at hp
    rw [Table.pids_modify, places_of_idle rfl, hj.blocked]
    exact (hj.holds.append_right _).trans hp
  standing := by
    have hj := Queues.joins_of_enqueueReady hq
    refine Table.forall_mem_modify.mpr fun p r' hr' => ?_
    have hs := h.standing p r' hr'
    split
    · rename_i hpid
      obtain rfl := h.eq_of_mem hr hr' hpid
      subst hpid
      refine ⟨hs.keyed, (fun hn => by cases hn), fun l hl => ⟨rfl, ?_⟩, fun hb => ?_, hj.length ▸ hs.level,
        quantum_pos _⟩
      · exact hj.level_of_mem (h.not_readyAt_of_running hrun l) hl
      · rw [hj.blocked] at hb
        exact absurd hb (h.not_queued_of_running hrun).2
    · rename_i hpid
      exact hs.frame (fun hn => by cases hn) (fun _ hl => hj.mem_of_ne hpid hl) (fun hb => hj.blocked ▸ hb) hj.length
  marked := by
    intro p hm
    cases hm

/-- A kernel stays consistent where a process goes from the head of the blocked queue to the tail of its level. -/
theorem unblock (h : k.Consistent) {pid : Pid} {r : ProcessRecord C} {left queues : Queues}
    (hd : k.queues.dequeueBlocked = some (pid, left)) (hr : k.table.get? pid = some r)
    (hq : left.enqueueReady pid r.priority = some queues) (stats : Stats) :
    Consistent { k with
      table := k.table.modify pid fun r => { r with state := .ready }
      queues := queues, stats := stats } where
  levels := by
    rw [(Queues.joins_of_enqueueReady hq).length, (Queues.dequeueBlocked_eq_some_iff.mp hd).2]
    exact h.levels
  unique := by
    rw [Table.pids_modify]
    exact h.unique
  placed := by
    have hp := h.placed
    have hj := Queues.joins_of_enqueueReady hq
    obtain ⟨hb, hready⟩ := Queues.dequeueBlocked_eq_some_iff.mp hd
    simp only [places, hb] at hp
    simp only [places, Table.pids_modify, hj.blocked]
    refine List.Perm.trans ?_ hp
    rw [List.append_assoc, List.append_assoc]
    refine List.Perm.append_left _ ((hj.holds.append_right _).trans ?_)
    rw [hready]
    exact List.perm_middle.symm
  standing := by
    have hj := Queues.joins_of_enqueueReady hq
    obtain ⟨hb, hready⟩ := Queues.dequeueBlocked_eq_some_iff.mp hd
    have hmem : pid ∈ k.queues.blocked := hb ▸ List.mem_cons_self
    have hleft : ∀ l, left.readyAt l = k.queues.readyAt l := fun l => by rw [Queues.readyAt, hready, Queues.readyAt]
    refine Table.forall_mem_modify.mpr fun p r' hr' => ?_
    have hs := h.standing p r' hr'
    have hlength : queues.ready.length = k.queues.ready.length := by rw [hj.length, hready]
    split
    · rename_i hpid
      obtain rfl := h.eq_of_mem hr hr' hpid
      subst hpid
      refine ⟨hs.keyed, fun hn => ?_, fun l hl => ⟨rfl, ?_⟩, fun hb' => ?_, hlength ▸ hs.level, hs.within⟩
      · exact absurd hmem (h.not_queued_of_running hn).2
      · exact hj.level_of_mem (hleft l ▸ h.not_readyAt_of_blocked hmem l) hl
      · -- the number was the head of the blocked queue, and stood there once
        have hn := h.nodup
        rw [places, hb, List.nodup_append] at hn
        rw [hj.blocked] at hb'
        exact absurd hb' (List.nodup_cons.mp hn.2.1).1
    · rename_i hpid
      refine hs.frame (fun hn => hn) (fun l hl => hleft l ▸ hj.mem_of_ne hpid hl) (fun hb' => ?_) hlength
      rw [hj.blocked] at hb'
      exact hb ▸ List.mem_cons_of_mem _ hb'
  marked := h.marked

/-- A kernel stays consistent where a process goes from the head of its level to the empty slot. -/
theorem seat (h : k.Consistent) {pid : Pid} {queues : Queues} (hrun : k.running = none)
    (hd : k.queues.dequeueReady = some (pid, queues)) (last : Option Pid) (stats : Stats) :
    Consistent { k with
      table := k.table.modify pid fun r => { r with state := .running, cpuTimeUsed := 0 }
      queues := queues, running := some pid, lastDispatched := last, stats := stats } := by
  obtain ⟨level, hl⟩ := Queues.leaves_of_dequeueReady h.length_le hd
  have hplaces : k.places = pid :: (queues.ready.flatten ++ queues.blocked) := by
    rw [places_of_idle hrun, hl.holds, hl.blocked, List.cons_append]
  refine ⟨hl.length ▸ h.levels, ?_, ?_, ?_, ?_⟩
  · rw [Table.pids_modify]
    exact h.unique
  · rw [Table.pids_modify, places_of_running rfl, ← hplaces]
    exact h.placed
  · have hn := h.nodup
    rw [hplaces, List.nodup_cons, List.mem_append, not_or] at hn
    refine Table.forall_mem_modify.mpr fun p r hr => ?_
    have hs := h.standing p r hr
    split
    · rename_i hpid
      subst hpid
      refine ⟨hs.keyed, fun _ => rfl, fun l hr => ?_, fun hb => absurd hb hn.1.2, hl.length ▸ hs.level, quantum_pos _⟩
      exact absurd ((Queues.mem_flatten_iff (hl.length ▸ h.length_le)).mpr ⟨l, hr⟩) hn.1.1
    · rename_i hpid
      refine hs.frame (fun hp => absurd (Option.some.inj hp).symm hpid) (fun l hr => ?_)
        (fun hb => hl.blocked ▸ hb) hl.length
      rw [hl.readyAt l]
      split
      · exact List.mem_cons_of_mem _ hr
      · exact hr
  · intro p hp
    cases hrun.symm.trans (h.marked p hp)

/-- A kernel stays consistent where a new process, ready and uncharged, is filed and put at the tail of its level. -/
theorem file (h : k.Consistent) {r : ProcessRecord C} {queues : Queues} (hpid : r.pid = k.table.nextPid)
    (hfresh : r.pid ∉ k.table.pids) (hstate : r.state = .ready) (hused : r.cpuTimeUsed = 0)
    (hq : k.queues.enqueueReady r.pid r.priority = some queues) :
    Consistent { k with table := k.table.insert r, queues := queues } := by
  have hj := Queues.joins_of_enqueueReady hq
  have hnext : k.table.nextPid ∉ k.table.pids := hpid ▸ hfresh
  have hplaces : k.table.nextPid ∉ k.places := fun hm => hnext (h.placed.mem_iff.mp hm)
  simp only [places, List.mem_append, not_or, Option.mem_toList] at hplaces
  refine ⟨hj.length ▸ h.levels, ?_, ?_, ?_, h.marked⟩
  · rw [Table.pids_insert hnext]
    exact List.nodup_append.mpr ⟨h.unique, by simp, by simpa using fun p hp => ne_of_mem_of_not_mem hp hnext⟩
  · rw [Table.pids_insert hnext]
    refine List.Perm.trans ?_ (List.perm_append_singleton k.table.nextPid k.table.pids).symm
    refine List.Perm.trans ?_ (h.placed.cons _)
    rw [places, places, hj.blocked, ← hpid, List.append_assoc, List.append_assoc]
    exact ((hj.holds.append_right _).append_left _).trans List.perm_middle
  · rw [Table.entries_insert hnext]
    intro p r' hr'
    rcases List.mem_append.mp hr' with hr' | hr'
    · have hs := h.standing p r' hr'
      have hne : p ≠ r.pid := fun heq => hfresh (heq ▸ List.mem_map_of_mem hr')
      exact hs.frame (fun hn => hn) (fun _ hl => hj.mem_of_ne hne hl) (fun hb => hj.blocked ▸ hb) hj.length
    · obtain ⟨rfl, rfl⟩ := Prod.mk.inj (List.mem_singleton.mp hr')
      refine ⟨rfl, fun hn => ?_, fun l hl => ⟨hstate, ?_⟩, fun hb => ?_, ?_, ?_⟩
      · exact absurd hn hplaces.1.1
      · refine hj.level_of_mem (fun hl' => hplaces.1.2 ?_) (hpid ▸ hl)
        exact (Queues.mem_flatten_iff h.length_le).mpr ⟨l, hpid ▸ hl'⟩
      · exact absurd (hj.blocked ▸ hb) hplaces.2
      · rw [hj.length]
        refine Nat.lt_of_not_le fun hle => ?_
        rw [(Queues.enqueueReady_eq_none_iff _ _ _).mpr hle] at hq
        cases hq
      · rw [hused]
        exact quantum_pos _

end Consistent

theorem Origin.fields [Machine C] {r : ProcessRecord C} (h : k.Origin r) :
    r.pid = k.table.nextPid ∧ r.state = .ready ∧ r.cpuTimeUsed = 0 := by
  cases h <;> exact ⟨rfl, rfl, rfl⟩

end Kernel

/-! ## Every move, every path -/

variable {C : Type} [Machine C]

/-- Every move keeps a kernel consistent. -/
theorem Move.consistent {k k' : Kernel C} {e : Event C} (h : Move k e k') (hk : k.Consistent) : k'.Consistent := by
  cases h with
  | filed horigin hfresh hq =>
    obtain ⟨hpid, hstate, hused⟩ := horigin.fields
    exact hk.file hpid hfresh hstate hused hq
  | worked change work hrun => exact hk.work hrun change _
  | blocked hrun => exact hk.block hrun Machine.advance _
  | ended hrun => exact hk.erase hrun _
  | woken hd hr hq => exact hk.unblock hd hr hq _
  | charged hrun hmark hr hused => exact hk.charge fun r' hr' => Option.some.inj (hr.symm.trans hr') ▸ hused
  | preempted hrun hmark hr hused hq => exact hk.yield hrun hr hq _
  | dispatched hrun hd hr => exact hk.seat hrun hd _ _
  | ticked =>
    exact hk.of_same_places rfl rfl rfl hk.marked fun p r hr => ⟨r, hr, rfl, rfl, rfl, (hk.standing p r hr).within⟩

/-- Every path keeps a kernel consistent. -/
theorem Path.consistent {k k' : Kernel C} {es : List (Event C)} (h : Path k es k') (hk : k.Consistent) :
    k'.Consistent :=
  h.keeps (fun _ _ _ hm hk => hm.consistent hk) hk

omit [Machine C] in
/-- The number that an event gives out, if it gives out one. -/
def Event.born? : Event C → Option Pid
  | .filed r => some r.pid
  | _ => none

/-- A move that gives out no number keeps the next number and adds none to the table. -/
theorem Move.pids_subset {k k' : Kernel C} {e : Event C} (h : Move k e k') (he : e.born? = none) :
    k'.table.nextPid = k.table.nextPid ∧ k'.table.pids ⊆ k.table.pids := by
  cases h with
  | filed => cases he
  | ended hrun =>
    refine ⟨rfl, ?_⟩
    rw [Table.pids_erase]
    exact List.filter_sublist.subset
  | ticked => exact ⟨rfl, List.Subset.refl _⟩
  | _ =>
    refine ⟨rfl, ?_⟩
    rw [Table.pids_modify]
    exact List.Subset.refl _

/-- A move that gives out a number gives out the next one. -/
theorem Move.pids_born {k k' : Kernel C} {e : Event C} {pid : Pid} (h : Move k e k') (he : e.born? = some pid) :
    pid = k.table.nextPid ∧ k'.table.nextPid = k.table.nextPid + 1 ∧ k'.table.pids = k.table.pids ++ [pid] := by
  cases h with
  | filed horigin hfresh hq =>
    obtain rfl := Option.some.inj he
    obtain ⟨hpid, -, -⟩ := horigin.fields
    refine ⟨hpid, rfl, ?_⟩
    rw [Table.pids_insert (hpid ▸ hfresh), hpid]
  | _ => cases he

/-- While numbers last, a path gives out the next ones in order. -/
theorem Path.numbered {k k' : Kernel C} {es : List (Event C)} (h : Path k es k') (hk : k.Numbered)
    (hroom : k.table.nextPid.toNat + (es.filterMap Event.born?).length < UInt32.size) :
    k'.Numbered ∧ k'.table.nextPid.toNat = k.table.nextPid.toNat + (es.filterMap Event.born?).length := by
  induction h with
  | nil => exact ⟨hk, rfl⟩
  | @cons k k₁ k' e es hm _ ih =>
    cases he : e.born? with
    | none =>
      obtain ⟨hnext, hsub⟩ := hm.pids_subset he
      rw [List.filterMap_cons_none he] at hroom ⊢
      rw [← hnext] at hroom ⊢
      exact ih (fun p hp => hnext ▸ hk p (hsub hp)) hroom
    | some pid =>
      obtain ⟨hpid, hnext, hpids⟩ := hm.pids_born he
      rw [List.filterMap_cons_some he, List.length_cons] at hroom ⊢
      have hsucc : k₁.table.nextPid.toNat = k.table.nextPid.toNat + 1 := by
        rw [hnext, UInt32.toNat_add]
        exact Nat.mod_eq_of_lt (Nat.lt_of_le_of_lt (by simp) hroom)
      have hk₁ : k₁.Numbered := by
        intro p hp
        rw [hpids, List.mem_append, List.mem_singleton] at hp
        rcases hp with hp | rfl
        · have := hk p hp
          omega
        · rw [hpid]
          omega
      obtain ⟨hk', hnext'⟩ := ih hk₁ (by omega)
      exact ⟨hk', by omega⟩

end Timeshare
