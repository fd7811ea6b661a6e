import Timeshare.Kernel.Schedule
import Timeshare.Proofs.Invariant

/-!
# The accounting as a path

An accounting charges the running process at most once, and fills the slot: it is one of four sequences of moves
(`Turn`). It leaves no mark, and the slot is empty after it only if no process waits.
-/

namespace Timeshare

variable {C : Type}

/-! ## Running actions -/

namespace Action

variable {α β σ : Type} {x : EStateM Halt σ α} {f : α → EStateM Halt σ β} {k k₁ : σ}

theorem bind_ok {a : α} (h : x k = .ok a k₁) : (x >>= f) k = f a k₁ := by
  change EStateM.bind x f k = _
  rw [EStateM.bind, h]

theorem map_ok {a : α} {g : α → β} (h : x k = .ok a k₁) : (g <$> x) k = .ok (g a) k₁ := by
  change EStateM.map g x k = _
  rw [EStateM.map, h]

/-- Where an action after another gave an answer, the other gave one first. -/
theorem of_bind_ok {b : β} {k₂ : σ} (h : (x >>= f) k = .ok b k₂) : ∃ a k₁, x k = .ok a k₁ ∧ f a k₁ = .ok b k₂ := by
  change EStateM.bind x f k = _ at h
  rw [EStateM.bind] at h
  split at h
  · exact ⟨_, _, ‹_›, h⟩
  · cases h

theorem bind_error {halt : Halt} (h : x k = .error halt k₁) : (x >>= f) k = .error halt k₁ := by
  change EStateM.bind x f k = _
  rw [EStateM.bind, h]

theorem map_error {halt : Halt} {g : α → β} (h : x k = .error halt k₁) : (g <$> x) k = .error halt k₁ := by
  change EStateM.map g x k = _
  rw [EStateM.map, h]

/-- What halts after its answer would be rewritten, halts. -/
theorem of_map_error {halt : Halt} {g : α → β} (h : (g <$> x) k = .error halt k₁) : x k = .error halt k₁ := by
  cases hx : x k with
  | ok a k₂ => cases (map_ok hx).symm.trans h
  | error halt' k₂ =>
    obtain ⟨rfl, rfl⟩ := EStateM.Result.error.inj ((map_error hx).symm.trans h)
    rfl

end Action

open Timeshare.Action

namespace Kernel

variable {k : Kernel C} {pid : Pid} {r : ProcessRecord C}

theorem require_ok (hr : k.table.get? pid = some r) : require pid k = .ok r k := by
  rw [require_apply, hr]

theorem enqueueReady_ok {level : Priority} {queues : Queues} (hq : k.queues.enqueueReady pid level = some queues) :
    enqueueReady pid level k = .ok () { k with queues := queues } := by
  rw [enqueueReady_apply, hq]

/-- Making a process ready puts it at the tail of its level, if there is such a level. -/
theorem makeReady_ok (hr : k.table.get? pid = some r) {queues : Queues}
    (hq : k.queues.enqueueReady pid r.priority = some queues) :
    makeReady pid k = .ok () { k with
      table := k.table.modify pid fun r => { r with state := .ready }
      queues := queues } := by
  rw [makeReady, bind_ok (require_ok hr), bind_ok (amend_apply _ _ _)]
  exact enqueueReady_ok (k := { k with table := k.table.modify pid _ }) hq

/-! ## The accounting, part by part -/

/-- A charge within the quantum. -/
theorem charge_ok (hr : k.table.get? pid = some r) (hused : r.cpuTimeUsed + 1 < quantum r.priority) :
    charge pid k = .ok () { k with
      table := k.table.modify pid fun r' => { r' with cpuTimeUsed := r.cpuTimeUsed + 1 } } := by
  rw [charge, bind_ok (require_ok hr)]
  simp only [hused, if_true]
  rfl

/-- A charge that ends the quantum. -/
theorem charge_preempts (hr : k.table.get? pid = some r) (hused : ¬r.cpuTimeUsed + 1 < quantum r.priority)
    {queues : Queues} (hq : k.queues.enqueueReady pid r.priority = some queues) :
    charge pid k = .ok () { k with
      table := k.table.modify pid fun r => { r with state := .ready, cpuTimeUsed := 0 }
      queues := queues, running := none
      stats := { k.stats with preemptions := k.stats.preemptions + 1 } } := by
  rw [charge, bind_ok (require_ok hr)]
  simp only [hused, if_false]
  rw [preempt, bind_ok (amend_apply _ _ _)]
  exact bind_ok (enqueueReady_ok (k := { k with table := k.table.modify pid _ }) hq)

/-- The process in the slot is charged if it is the one marked. -/
theorem account_apply (marked : Option Pid) (k : Kernel C) :
    account marked k = match k.running with
      | none => .ok () k
      | some pid => if marked = some pid then charge pid k else .ok () k := by
  unfold account
  refine (bind_ok rfl).trans ?_
  cases k.running with
  | none => rfl
  | some pid =>
    simp only
    split <;> rfl

/-- An empty slot is filled with the head of the most urgent queue that has one. -/
theorem dispatch_apply (k : Kernel C) :
    dispatch k = match k.queues.dequeueReady with
      | none => .ok () k
      | some (pid, queues) => occupy pid { k with queues := queues } := by
  unfold dispatch
  refine (bind_ok rfl).trans ?_
  cases k.queues.dequeueReady <;> rfl

/-- A slot that is not empty is not filled. -/
theorem fillSlot_apply (k : Kernel C) :
    fillSlot k = match k.running with
      | none => dispatch k
      | some _ => .ok () k := by
  unfold fillSlot
  refine (bind_ok rfl).trans ?_
  cases k.running <;> rfl

/-- Putting a process that there is into the slot. -/
theorem occupy_ok (hr : k.table.get? pid = some r) :
    occupy pid k = .ok () { k with
      table := k.table.modify pid fun r => { r with state := .running, cpuTimeUsed := 0 }
      running := some pid, lastDispatched := some pid
      stats := { k.stats with
        dispatches := k.stats.dispatches + 1
        contextSwitches :=
          if k.lastDispatched = some pid then k.stats.contextSwitches else k.stats.contextSwitches + 1 } } := by
  rw [occupy, bind_ok (require_ok hr), bind_ok (amend_apply _ _ _)]
  rfl

end Kernel

/-! ## The accounting as a whole -/

/-- The sequences of events that an accounting can be. -/
inductive Turn : List (Event C) → Prop where
  /-- Nothing is charged, and the slot stays as it is. -/
  | kept : Turn []
  /-- The running process is charged, and goes on. -/
  | charged (pid : Pid) : Turn [.charged pid]
  /-- The empty slot is filled. -/
  | filled (pid : Pid) (level : Priority) : Turn [.dispatched pid level]
  /-- The running process used up its quantum, and the slot is filled again. -/
  | rotated (pid : Pid) (level : Priority) (pid' : Pid) (level' : Priority) :
    Turn [.preempted pid level, .dispatched pid' level']

/-- An accounting of the first kernel is these events, and leaves the second. -/
structure Settles [Machine C] (k : Kernel C) (es : List (Event C)) (k' : Kernel C) : Prop where
  path : Path k es k'
  turn : Turn es
  unmarked : k'.executed = none
  filled : k'.running = none → k'.queues.ready.flatten = []

namespace Kernel

variable [Machine C] {k : Kernel C}

omit [Machine C] in
/-- Taking a mark that is not there changes nothing. -/
theorem unmark_eq_self (h : k.executed = none) : { k with executed := none } = k := by
  obtain ⟨queues, table, running, executed, last, stats, clock⟩ := k
  obtain rfl : executed = none := h
  rfl

omit [Machine C] in
/-- An accounting takes the mark, charges and fills the slot. -/
theorem reschedule_eq (k : Kernel C) : reschedule k = (do
    account k.executed
    fillSlot
    return (← get).running : Action C (Option Pid)) { k with executed := none } := rfl

omit [Machine C] in
/-- The answer of an accounting is what is in the slot then. -/
theorem reschedule_of_parts {k₁ k₂ : Kernel C} (h₁ : account k.executed { k with executed := none } = .ok () k₁)
    (h₂ : fillSlot k₁ = .ok () k₂) : reschedule k = .ok k₂.running k₂ := by
  rw [reschedule_eq, bind_ok h₁, bind_ok h₂]
  rfl

/-- Filling the empty slot of a consistent kernel is a turn. -/
theorem exists_fillSlot (hk : k.Consistent) (hrun : k.running = none) (hmark : k.executed = none) :
    ∃ es k', fillSlot k = .ok () k' ∧ Path k es k' ∧ k'.executed = none ∧
      ((es = [] ∧ k'.running = none ∧ k'.queues.ready.flatten = []) ∨
        ∃ pid level, es = [.dispatched pid level] ∧ k'.running = some pid) := by
  cases hd : k.queues.dequeueReady with
  | none =>
    have hfill : fillSlot k = .ok () k := by simp only [fillSlot_apply, hrun, dispatch_apply, hd]
    exact ⟨[], k, hfill, .nil k, hmark, .inl ⟨rfl, hrun, (Queues.dequeueReady_eq_none_iff _).mp hd⟩⟩
  | some p =>
    obtain ⟨pid, queues⟩ := p
    obtain ⟨level, hl⟩ := Queues.leaves_of_dequeueReady hk.length_le hd
    have hmem : pid ∈ k.queues.readyAt level := by
      rw [hl.readyAt, if_pos rfl]
      exact List.mem_cons_self
    obtain ⟨r, hr, -⟩ := hk.exists_ready hmem
    have hfill : fillSlot k = occupy pid { k with queues := queues } :=
      by simp only [fillSlot_apply, hrun, dispatch_apply, hd]
    rw [occupy_ok (k := { k with queues := queues }) hr] at hfill
    exact ⟨_, _, hfill, .single (.dispatched hrun hd hr), hmark, .inr ⟨pid, r.priority, rfl, rfl⟩⟩

omit [Machine C] in
/-- With the slot empty there is no mark. -/
theorem Consistent.executed_eq_none (hk : k.Consistent) (hrun : k.running = none) : k.executed = none := by
  cases he : k.executed with
  | none => rfl
  | some p => cases hrun.symm.trans (hk.marked p he)

/-- With the slot empty an accounting fills the slot. -/
theorem exists_settles_of_idle (hk : k.Consistent) (hrun : k.running = none) :
    ∃ es k', reschedule k = .ok k'.running k' ∧ Settles k es k' := by
  have hmark := hk.executed_eq_none hrun
  obtain ⟨es, k', hfill, hpath, hmark', hturn⟩ := exists_fillSlot hk hrun hmark
  have hacc : account k.executed { k with executed := none } = .ok () k := by
    rw [unmark_eq_self hmark]
    simp only [account_apply, hrun]
  refine ⟨es, k', reschedule_of_parts hacc hfill, hpath, ?_, hmark', ?_⟩
  · rcases hturn with ⟨rfl, -, -⟩ | ⟨pid, level, rfl, -⟩
    · exact .kept
    · exact .filled pid level
  · intro hn
    rcases hturn with ⟨-, -, hempty⟩ | ⟨pid, level, -, hrun'⟩
    · exact hempty
    · cases hrun'.symm.trans hn

/-- A running process that is not marked is not charged, and an accounting does nothing. -/
theorem exists_settles_of_unmarked {pid : Pid} (hrun : k.running = some pid) (hmark : k.executed = none) :
    ∃ es k', reschedule k = .ok k'.running k' ∧ Settles k es k' := by
  have hacc : account k.executed { k with executed := none } = .ok () k := by
    rw [unmark_eq_self hmark]
    simp only [account_apply, hrun, hmark, reduceCtorEq, if_false]
  have hfill : fillSlot k = .ok () k := by simp only [fillSlot_apply, hrun]
  refine ⟨[], k, reschedule_of_parts hacc hfill, .nil k, .kept, hmark, ?_⟩
  intro hn
  cases hrun.symm.trans hn

/-- The running process that is marked is charged. If this uses up its quantum it gives the slot to the process that
waits first. -/
theorem exists_settles_of_marked (hk : k.Consistent) {pid : Pid} (hrun : k.running = some pid)
    (hmark : k.executed = some pid) :
    ∃ es k', reschedule k = .ok k'.running k' ∧ Settles k es k' := by
  obtain ⟨r, hr⟩ := hk.exists_running hrun
  have hacc : account k.executed { k with executed := none } = charge pid { k with executed := none } := by
    simp only [account_apply, hrun, hmark, if_true]
  by_cases hused : r.cpuTimeUsed + 1 < quantum r.priority
  · rw [charge_ok (k := { k with executed := none }) hr hused] at hacc
    have hm := Move.charged hrun hmark hr hused
    refine ⟨_, _, reschedule_of_parts hacc (by simp only [fillSlot_apply, hrun]), .single hm, .charged pid, rfl, ?_⟩
    intro hn
    cases hrun.symm.trans hn
  · obtain ⟨queues, hq⟩ := Queues.exists_enqueueReady (hk.standing_of_get? hr).level pid
    rw [charge_preempts (k := { k with executed := none }) hr hused hq] at hacc
    have hm := Move.preempted hrun hmark hr hused hq
    obtain ⟨es, k', hfill, hpath, hmark', hturn⟩ := exists_fillSlot (hm.consistent hk) rfl rfl
    rcases hturn with ⟨rfl, -, hempty⟩ | ⟨pid', level', rfl, hrun'⟩
    · -- the process that was preempted waits, so the slot cannot stay empty
      cases hpath
      have hp := (Queues.joins_of_enqueueReady hq).holds.mem_iff.mpr List.mem_cons_self
      exact absurd (hempty ▸ hp) List.not_mem_nil
    · refine ⟨_, k', reschedule_of_parts hacc hfill, .cons hm hpath, .rotated pid r.priority pid' level', hmark', ?_⟩
      intro hn
      cases hrun'.symm.trans hn

/-- An accounting of a consistent kernel never fails: it is a turn, and answers what is in the slot then. -/
theorem exists_settles (hk : k.Consistent) : ∃ es k', reschedule k = .ok k'.running k' ∧ Settles k es k' := by
  cases hrun : k.running with
  | none => exact exists_settles_of_idle hk hrun
  | some pid =>
    cases hmark : k.executed with
    | none => exact exists_settles_of_unmarked hrun hmark
    | some p =>
      obtain rfl : p = pid := Option.some.inj ((hk.marked p hmark).symm.trans hrun)
      exact exists_settles_of_marked hk hrun hmark

end Kernel
end Timeshare
