import Timeshare.Kernel.Step
import Timeshare.Proofs.Consistent

/-!
# Moves: what can happen in a kernel, one thing at a time

An action on a kernel is a sequence of moves (`Path`), each of which is one event: a process is filed, works, blocks,
ends, is woken, charged, preempted or dispatched, or the clock ticks. `Move` says when an event can happen and what it
leaves. Every move keeps a kernel consistent, so what is consistent after an action follows from the moves that it
makes.
-/

namespace Timeshare

/-- What the tally counts of an instruction after which its process goes on. -/
inductive Work where
  /-- Nothing: arithmetic, or a replacement that did not load. -/
  | plain
  | fork
  | replacement
  deriving DecidableEq

/-- The tally after an instruction. -/
def Work.tally : Work → Stats → Stats
  | plain, s => s
  | fork, s => { s with forks := s.forks + 1 }
  | replacement, s => { s with replacements := s.replacements + 1 }

/-- One thing that happens in a kernel. -/
inductive Event (C : Type) where
  /-- A new process is filed, and waits at the tail of its level. -/
  | filed (record : ProcessRecord C)
  /-- The running process executes an instruction that changes its context so, and goes on. -/
  | worked (pid : Pid) (change : C → C) (work : Work)
  /-- The running process executes a block. -/
  | blocked (pid : Pid)
  /-- The running process ends. -/
  | ended (pid : Pid)
  /-- The process that has been blocked the longest waits at the tail of its level again. -/
  | woken (pid : Pid) (level : Priority)
  /-- The running process is charged for an instruction, and goes on. -/
  | charged (pid : Pid)
  /-- The running process is charged for the last instruction of its quantum, and waits at the tail of its level. -/
  | preempted (pid : Pid) (level : Priority)
  /-- A process is put into the slot. -/
  | dispatched (pid : Pid) (level : Priority)
  /-- The clock advances. -/
  | ticked

/-- The tally after an event, given the process that was dispatched last. -/
def Event.tally {C : Type} (last : Option Pid) : Event C → Stats → Stats
  | filed _, s | charged _, s | ticked, s => s
  | worked _ _ work, s => work.tally s
  | blocked _, s => { s with blocks := s.blocks + 1 }
  | ended _, s => { s with terminations := s.terminations + 1 }
  | woken _ _, s => { s with wakes := s.wakes + 1 }
  | preempted _ _, s => { s with preemptions := s.preemptions + 1 }
  | dispatched pid _, s => { s with
      dispatches := s.dispatches + 1
      contextSwitches := if last = some pid then s.contextSwitches else s.contextSwitches + 1 }

/-- What is in the slot after an event, given what was in it before. -/
def Event.slot {C : Type} (running : Option Pid) : Event C → Option Pid
  | blocked _ | ended _ | preempted _ _ => none
  | dispatched pid _ => some pid
  | _ => running

/-- The mark after an event, given the one before. -/
def Event.mark {C : Type} (executed : Option Pid) : Event C → Option Pid
  | worked pid _ _ => some pid
  | blocked _ | ended _ | charged _ | preempted _ _ => none
  | _ => executed

variable {C : Type} [Machine C]

/-- A record that may be filed next: a root process at the start of a program, or a child of the running process. -/
inductive Kernel.Origin (k : Kernel C) : ProcessRecord C → Prop where
  | root (priority : Priority) (program : Program) :
      Origin k { pid := k.table.nextPid, priority := priority, startTime := k.clock, context := Machine.start program }
  | child {pid : Pid} {parent : ProcessRecord C} (hrun : k.running = some pid) (hr : k.table.get? pid = some parent) :
      Origin k (parent.child pid k.table.nextPid k.clock)

/-- The event can happen in the first kernel and leaves the second. -/
inductive Move (k : Kernel C) : Event C → Kernel C → Prop where
  | filed {r : ProcessRecord C} {queues : Queues} (horigin : k.Origin r) (hfresh : r.pid ∉ k.table.pids)
      (hq : k.queues.enqueueReady r.pid r.priority = some queues) :
      Move k (.filed r) { k with table := k.table.insert r, queues := queues }
  | worked {pid : Pid} (change : C → C) (work : Work) (hrun : k.running = some pid) :
      Move k (.worked pid change work) { k with
        table := k.table.modify pid (ProcessRecord.mapContext change), executed := some pid
        stats := work.tally k.stats }
  | blocked {pid : Pid} (hrun : k.running = some pid) :
      Move k (.blocked pid) { k with
        table := k.table.modify pid fun r => { r with state := .blocked, context := Machine.advance r.context }
        queues := k.queues.enqueueBlocked pid, running := none, executed := none
        stats := { k.stats with blocks := k.stats.blocks + 1 } }
  | ended {pid : Pid} (hrun : k.running = some pid) :
      Move k (.ended pid) { k with
        table := k.table.erase pid, running := none, executed := none
        stats := { k.stats with terminations := k.stats.terminations + 1 } }
  | woken {pid : Pid} {r : ProcessRecord C} {left queues : Queues} (hd : k.queues.dequeueBlocked = some (pid, left))
      (hr : k.table.get? pid = some r) (hq : left.enqueueReady pid r.priority = some queues) :
      Move k (.woken pid r.priority) { k with
        table := k.table.modify pid fun r => { r with state := .ready }
        queues := queues, stats := { k.stats with wakes := k.stats.wakes + 1 } }
  | charged {pid : Pid} {r : ProcessRecord C} (hrun : k.running = some pid) (hmark : k.executed = some pid)
      (hr : k.table.get? pid = some r) (hused : r.cpuTimeUsed + 1 < quantum r.priority) :
      Move k (.charged pid) { k with
        table := k.table.modify pid fun r' => { r' with cpuTimeUsed := r.cpuTimeUsed + 1 }
        executed := none }
  | preempted {pid : Pid} {r : ProcessRecord C} {queues : Queues} (hrun : k.running = some pid)
      (hmark : k.executed = some pid) (hr : k.table.get? pid = some r) (hused : ¬r.cpuTimeUsed + 1 < quantum r.priority)
      (hq : k.queues.enqueueReady pid r.priority = some queues) :
      Move k (.preempted pid r.priority) { k with
        table := k.table.modify pid fun r => { r with state := .ready, cpuTimeUsed := 0 }
        queues := queues, running := none, executed := none
        stats := { k.stats with preemptions := k.stats.preemptions + 1 } }
  | dispatched {pid : Pid} {r : ProcessRecord C} {queues : Queues} (hrun : k.running = none)
      (hd : k.queues.dequeueReady = some (pid, queues)) (hr : k.table.get? pid = some r) :
      Move k (.dispatched pid r.priority) { k with
        table := k.table.modify pid fun r => { r with state := .running, cpuTimeUsed := 0 }
        queues := queues, running := some pid, lastDispatched := some pid
        stats := { k.stats with
          dispatches := k.stats.dispatches + 1
          contextSwitches :=
            if k.lastDispatched = some pid then k.stats.contextSwitches else k.stats.contextSwitches + 1 } }
  | ticked : Move k .ticked { k with clock := k.clock + 1 }

namespace Move

variable {k k' : Kernel C} {e : Event C}

theorem running (h : Move k e k') : k'.running = e.slot k.running := by
  cases h <;> rfl

theorem executed (h : Move k e k') : k'.executed = e.mark k.executed := by
  cases h <;> rfl

theorem stats (h : Move k e k') : k'.stats = e.tally k.lastDispatched k.stats := by
  cases h <;> rfl

end Move

/-- The events happen one after the other. -/
inductive Path : Kernel C → List (Event C) → Kernel C → Prop where
  | nil (k : Kernel C) : Path k [] k
  | cons {k k₁ k' : Kernel C} {e : Event C} {es : List (Event C)} : Move k e k₁ → Path k₁ es k' → Path k (e :: es) k'

namespace Path

theorem single {k k' : Kernel C} {e : Event C} (h : Move k e k') : Path k [e] k' := .cons h (.nil k')

/-- Paths compose. -/
theorem append {k k₁ k' : Kernel C} {es es' : List (Event C)} (h : Path k es k₁) (h' : Path k₁ es' k') :
    Path k (es ++ es') k' := by
  induction h with
  | nil => exact h'
  | cons hm _ ih => exact .cons hm (ih h')

/-- What a path leaves in the slot. -/
theorem running {k k' : Kernel C} {es : List (Event C)} (h : Path k es k') :
    k'.running = es.foldl Event.slot k.running := by
  induction h with
  | nil => rfl
  | cons hm _ ih => rw [List.foldl_cons, ← hm.running, ih]

/-- What mark a path leaves. -/
theorem executed {k k' : Kernel C} {es : List (Event C)} (h : Path k es k') :
    k'.executed = es.foldl Event.mark k.executed := by
  induction h with
  | nil => rfl
  | cons hm _ ih => rw [List.foldl_cons, ← hm.executed, ih]

/-- What every move keeps, every path keeps. -/
theorem keeps {P : Kernel C → Prop} (hP : ∀ k e k', Move k e k' → P k → P k') {k k' : Kernel C} {es : List (Event C)}
    (h : Path k es k') (hk : P k) : P k' := by
  induction h with
  | nil => exact hk
  | cons hm _ ih => exact ih (hP _ _ _ hm hk)

end Path

end Timeshare
