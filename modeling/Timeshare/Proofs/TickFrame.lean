import Timeshare.Proofs.Idleness
import Timeshare.Proofs.Likeness
import Timeshare.Proofs.Quantum
import Timeshare.Proofs.Wakes

/-!
# What a tick changes

A tick with a process in the slot does what the record of this process and the programs that there are determine. It
touches the record of this process, adds that of the child if it forks one, and marks the process that is put into the
slot as running; every other record stays as it is. The queues change by the child and the preempted process that join
the tail of their level, by the process that is taken from the head of a level for the slot, and by the process that
joins the blocked queue (`Session.tick_frame`).
-/

namespace Timeshare

open Exchange

/-! ## Outcomes -/

/-- What an outcome says of the next instruction of the process that was in the slot, given its number and the number
that a child would get. -/
structure Context.Foretells (source : Source) (c : Context) (pid child : Pid) (outcome : StepOutcome) : Prop where
  exhausted : outcome = .terminated pid .programExhausted ↔ c.program.length ≤ c.programCounter.toNat
  exit : outcome = .terminated pid .exit ↔ c.program[c.programCounter.toNat]? = some .exit
  faulted : ∀ fault, outcome = .terminated pid (.faulted fault) ↔
    ∃ name lines, c.program[c.programCounter.toNat]? = some (.replace name) ∧ source name = .ok lines ∧
      Program.parse lines = .error fault
  replaceFailed : ∀ fault, outcome = .replaceFailed pid fault ↔
    ∃ name why, c.program[c.programCounter.toNat]? = some (.replace name) ∧ source name = .error why ∧
      .programUnavailable name why.message = fault
  replaced : ∀ name, outcome = .replaced pid name ↔
    c.program[c.programCounter.toNat]? = some (.replace name) ∧ ∃ lines program, source name = .ok lines ∧
      Program.parse lines = .ok program
  executed : ∀ i, outcome = .executed pid i ↔ c.program[c.programCounter.toNat]? = some i ∧ i.isArithmetic = true
  blocked : outcome = .blocked pid ↔ c.program[c.programCounter.toNat]? = some .block
  forked : outcome = .forked pid child ↔ ∃ skip, c.program[c.programCounter.toNat]? = some (.fork skip)

/-- The outcome of the next instruction says which instruction it was. -/
theorem Context.foretells (source : Source) (c : Context) (pid child : Pid) :
    c.Foretells source pid child (c.outcome source pid child) := by
  unfold Context.outcome
  cases hi : c.program[c.programCounter.toNat]? with
  | none =>
    have hpast := List.getElem?_eq_none_iff.mp hi
    constructor <;> simp [hpast]
  | some i =>
    have hthere : ¬c.program.length ≤ c.programCounter.toNat := by
      intro hpast
      cases hi.symm.trans (List.getElem?_eq_none_iff.mpr hpast)
    cases i with
    | replace name =>
      cases hload : source name with
      | error why => constructor <;> simp [hthere, hi, hload, Instruction.isArithmetic]
      | ok lines =>
        cases hparse : Program.parse lines with
        | ok program => constructor <;> simp [hthere, hi, hload, hparse, Instruction.isArithmetic]
        | error fault => constructor <;> simp [hthere, hi, hload, hparse, Instruction.isArithmetic]
    | _ => constructor <;> simp [hthere, hi, Instruction.isArithmetic]

/-! ## Records -/

namespace ProcessRecord

variable {C : Type}

/-- Whether the quantum of the process lasts for more than the next instruction that it is charged for. -/
def lasts (r : ProcessRecord C) : Bool := r.cpuTimeUsed + 1 < quantum r.priority

/-- The record after the process with this number was put into the slot, if one was. -/
def seat (dispatched : Option Pid) (r : ProcessRecord C) : ProcessRecord C :=
  if dispatched = some r.pid then { r with state := .running, cpuTimeUsed := 0 } else r

/-- The record after a tick in which the process was in the slot, but for a dispatch at its end; none if the process
ended. An instruction after which it goes on is charged, and makes it ready again if it is the last one of its
quantum. -/
def spent (source : Source) (r : ProcessRecord Context) : Option (ProcessRecord Context) :=
  match r.context.alone source with
  | .error _ => none
  | .ok c => some <|
    if r.context.program[r.context.programCounter.toNat]? = some .block then { r with context := c, state := .blocked }
    else if r.lasts then { r with context := c, cpuTimeUsed := r.cpuTimeUsed + 1 }
    else { r with context := c, state := .ready, cpuTimeUsed := 0 }

@[simp] theorem map_seat_none (o : Option (ProcessRecord C)) : o.map (seat none) = o := by
  cases o <;> rfl

theorem context_seat (dispatched : Option Pid) (r : ProcessRecord C) : (r.seat dispatched).context = r.context := by
  unfold seat
  split <;> rfl

theorem priority_seat (dispatched : Option Pid) (r : ProcessRecord C) : (r.seat dispatched).priority = r.priority := by
  unfold seat
  split <;> rfl

/-- What a tick leaves of a record is the record of the same process, with the context that the next instruction
makes. -/
theorem fields_of_spent {source : Source} {r r' : ProcessRecord Context} (h : r.spent source = some r') :
    r'.pid = r.pid ∧ r'.priority = r.priority ∧ r.context.alone source = .ok r'.context := by
  unfold spent at h
  split at h
  · cases h
  · rename_i c halone
    obtain rfl := Option.some.inj h
    rw [halone]
    by_cases hblock : r.context.program[r.context.programCounter.toNat]? = some .block
    · rw [if_pos hblock]
      exact ⟨rfl, rfl, rfl⟩
    · rw [if_neg hblock]
      split <;> exact ⟨rfl, rfl, rfl⟩

/-- A tick leaves the record of a process that does not end. -/
theorem exists_spent {source : Source} {r : ProcessRecord Context} {c : Context} (h : r.context.alone source = .ok c) :
    ∃ r', r.spent source = some r' ∧ r'.priority = r.priority ∧ r'.context = c := by
  cases hspent : r.spent source with
  | none =>
    unfold spent at hspent
    rw [h] at hspent
    cases hspent
  | some r' =>
    obtain ⟨-, hpriority, halone⟩ := fields_of_spent hspent
    exact ⟨r', rfl, hpriority, Except.ok.inj (halone.symm.trans h)⟩

end ProcessRecord

/-- Processes that are all of one level, by level. -/
theorem Exchange.atLevel_map (pids : List Pid) (l level : Priority) :
    atLevel l (pids.map fun pid => (pid, level)) = if l = level then pids else [] := by
  by_cases hl : l = level
  · simp [atLevel, hl, List.filter_map, Function.comp_def]
  · have hne : ¬level = l := fun heq => hl heq.symm
    simp [atLevel, hl, hne, List.filter_map, Function.comp_def]

/-- What a tick with the process of this record in the slot leaves, given the process that it puts into the slot. -/
structure Kernel.TickFrame (source : Source) (k : Kernel Context) (r : ProcessRecord Context) (outcome : StepOutcome)
    (dispatched : Option (Pid × Priority)) (k' : Kernel Context) : Prop where
  does : outcome = r.context.outcome source r.pid k.table.nextPid
  self : k'.table.get? r.pid = (r.spent source).map (ProcessRecord.seat (dispatched.map Prod.fst))
  /-- A child has the next number, which nobody had, and the level of its parent. It starts now, one instruction
  further on. -/
  child : ∀ pid, outcome.child? = some pid → pid = k.table.nextPid ∧ k.table.get? pid = none ∧
    k'.table.get? pid = some (ProcessRecord.seat (dispatched.map Prod.fst)
      { pid := pid, parent := some r.pid, priority := r.priority, state := .ready, startTime := k.clock,
        cpuTimeUsed := 0, context := { r.context with programCounter := r.context.programCounter + 1 } })
  others : ∀ pid ≠ r.pid, outcome.child? ≠ some pid →
    k'.table.get? pid = (k.table.get? pid).map (ProcessRecord.seat (dispatched.map Prod.fst))
  /-- The process that goes on stays in the slot; otherwise the slot is filled again, if somebody is ready. -/
  slot : k'.running = (outcome.worked?.filter fun _ => r.lasts).or (dispatched.map Prod.fst)
  stays : ∀ pid, outcome.worked? = some pid → r.lasts = true → dispatched = none
  /-- The child joins the tail of the level, then the preempted process, and the process for the slot is taken from
  the head of its level. -/
  ready : ∀ level, k.queues.readyAt level ++
      (if level = r.priority then outcome.child?.toList ++ (outcome.worked?.filter fun _ => !r.lasts).toList else []) =
    atLevel level dispatched.toList ++ k'.queues.readyAt level
  /-- Nobody waits at a more urgent level then. -/
  urgent : ∀ pid level, dispatched = some (pid, level) → ∀ l < level, k'.queues.readyAt l = []
  blocked : k'.queues.blocked = k.queues.blocked ++ outcome.blocked?.toList
  preempted : k'.stats.preemptions =
    k.stats.preemptions + UInt64.ofNat (outcome.worked?.filter fun _ => !r.lasts).toList.length
  clock : k'.clock = k.clock + 1

section

variable {C : Type} [Machine C] {source : Source} {k k' : Kernel C} {r : ProcessRecord C} {outcome : StepOutcome}
  {es : List (Event C)} {pid : Pid}

/-- A process that is put into the slot is seated, and every other record stays as it is. -/
theorem Event.revise_dispatched {o : Option (ProcessRecord C)} (ho : ∀ r' ∈ o, r'.pid = pid) (p : Pid)
    (level : Priority) :
    Event.revise pid o (.dispatched p level) = o.map (ProcessRecord.seat (some p)) := by
  cases o with
  | none => exact ite_self _
  | some r' =>
    obtain rfl := ho r' rfl
    simp only [Event.revise, Option.map_some, ProcessRecord.seat, Option.some.injEq, eq_comm (a := p)]
    split <;> rfl

/-- What a tick is after its step changes no other record than that of the process that was in the slot, but for the
one that is dispatched. -/
theorem Spends.exists_deed {d : Option (Pid × Priority)} (h : Spends source k r outcome es d k') :
    Path k es k' ∧ ∃ es₁ rest, es = es₁ ++ rest ∧ Deed source k r outcome es₁ ∧
      ∀ pid ≠ r.pid, ∀ o : Option (ProcessRecord C), (∀ r' ∈ o, r'.pid = pid) →
        rest.foldl (Event.revise pid) o = o.map (ProcessRecord.seat (d.map Prod.fst)) := by
  cases h with
  | charged hdeed hstays hused hpath =>
    refine ⟨hpath, _, _, rfl, hdeed, ?_⟩
    intro pid hne o ho
    simp [Event.revise, hne]
  | preempted hdeed hstays hused hpath =>
    refine ⟨hpath, _, _, rfl, hdeed, ?_⟩
    intro pid hne o ho
    rw [List.foldl_cons, List.foldl_cons, List.foldl_cons, List.foldl_nil]
    exact (congrArg (Event.revise pid · _) (if_neg hne)).trans (Event.revise_dispatched ho _ _)
  | emptied hdeed hleaves hempty hpath =>
    refine ⟨hpath, _, _, rfl, hdeed, ?_⟩
    intro pid hne o ho
    simp [Event.revise]
  | @refilled _ _ p level hdeed hleaves hpath =>
    refine ⟨hpath, _, _, rfl, hdeed, ?_⟩
    intro pid hne o ho
    exact Event.revise_dispatched ho p level

/-- A process that leaves the slot for its instruction does not go on. -/
theorem Deed.worked?_eq_none (h : Deed source k r outcome es) (hleaves : outcome.releases = true) :
    outcome.worked? = none := by
  cases h <;> first
    | rfl
    | cases hleaves

/-- Before any accounting a step puts into ready queues the child that it forks, and it blocks whom its outcome says. -/
theorem Deed.queued (h : Deed source k r outcome es) :
    es.filterMap Event.admitted? = outcome.child?.toList.map (fun pid => (pid, r.priority)) ∧
      es.filterMap Event.dispatched? = [] ∧ es.filterMap Event.preempted? = [] ∧
      es.filterMap Event.blocked? = outcome.blocked?.toList ∧ es.filterMap Event.woken? = [] := by
  cases h <;> exact ⟨rfl, rfl, rfl, rfl, rfl⟩

end

section

variable {source : Source} {k k' : Kernel Context} {r : ProcessRecord Context} {outcome : StepOutcome}
    {es : List (Event Context)}
  {d : Option (Pid × Priority)}

/-- A step after which the running process goes on makes of its record what its next instruction makes of its
context. -/
theorem Deed.revise_worked (h : Deed source k r outcome es) (hstays : outcome.releases = false)
    (hne : r.pid ≠ k.table.nextPid) :
    ∃ c, r.context.alone source = .ok c ∧ r.context.program[r.context.programCounter.toNat]? ≠ some .block ∧
      es.foldl (Event.revise r.pid) (some r) = some { r with context := c } := by
  have hrevise : ∃ c, es.foldl (Event.revise r.pid) (some r) = some { r with context := c } := by
    cases h with
    | fork hi =>
      have hpid : r.pid ≠ (r.child r.pid k.table.nextPid k.clock).pid := hne
      exact ⟨_, by simp only [List.foldl_cons, List.foldl_nil, Event.revise, if_neg hpid, if_true]; rfl⟩
    | set | add | sub | replaced | unavailable => exact ⟨_, if_pos rfl⟩
    | _ => cases hstays
  obtain ⟨c, hc⟩ := hrevise
  have hself := Event.map_foldl_revise r.pid (some r) es
  rw [hc, Option.map_some, Option.map_some, (h.compute_self hne).1] at hself
  refine ⟨c, ?_, ?_, hc⟩
  · cases halone : r.context.alone source with
    | ok c' =>
      rw [halone] at hself
      exact congrArg _ (Option.some.inj hself).symm
    | error reason =>
      rw [halone] at hself
      cases hself
  · intro hblock
    have hblocked := (r.context.foretells source r.pid k.table.nextPid).blocked.mpr hblock
    rw [← h.outcome_eq] at hblocked
    rw [hblocked] at hstays
    cases hstays

/-- A step after which the running process leaves the slot makes of its record what a tick makes of it. -/
theorem Deed.revise_released (h : Deed source k r outcome es) (hleaves : outcome.releases = true)
    (hne : r.pid ≠ k.table.nextPid) :
    es.foldl (Event.revise r.pid) (some r) = r.spent source := by
  have hend := (h.compute_self hne).2
  unfold ProcessRecord.spent
  cases h with
  | block hi =>
    rw [Context.next_eq] at hi
    simp [Context.alone, hi, Event.revise, Machine.advance]
  | exit hi => simp [(hend _).mpr rfl, Event.revise]
  | exhausted hi => simp [(hend _).mpr rfl, Event.revise]
  | faulted hi hload hparse => simp [(hend _).mpr rfl, Event.revise]
  | _ => cases hleaves

namespace Spends

/-- The record of the process that was in the slot. -/
theorem self (h : Spends source k r outcome es d k') (hr : k.table.get? r.pid = some r)
    (hne : r.pid ≠ k.table.nextPid) :
    k'.table.get? r.pid = (r.spent source).map (ProcessRecord.seat (d.map Prod.fst)) := by
  rw [h.exists_deed.1.get?, hr]
  cases h with
  | charged hdeed hstays hused hpath =>
    obtain ⟨c, halone, hblock, hrevise⟩ := hdeed.revise_worked hstays hne
    have hlasts : r.lasts = true := decide_eq_true hused
    rw [List.foldl_append, hrevise, Option.map_none, ProcessRecord.map_seat_none]
    simp [Event.revise, ProcessRecord.spent, halone, hblock, hlasts]
  | preempted hdeed hstays hused hpath =>
    obtain ⟨c, halone, hblock, hrevise⟩ := hdeed.revise_worked hstays hne
    have hlasts : r.lasts = false := decide_eq_false hused
    rw [List.foldl_append, hrevise, List.foldl_cons, List.foldl_cons, List.foldl_cons, List.foldl_nil,
      Event.revise_dispatched (by simp [Event.revise])]
    simp [Event.revise, ProcessRecord.spent, halone, hblock, hlasts]
  | emptied hdeed hleaves hempty hpath =>
    rw [List.foldl_append, hdeed.revise_released hleaves hne]
    simp [Event.revise]
  | @refilled _ _ p level hdeed hleaves hpath =>
    rw [List.foldl_append, hdeed.revise_released hleaves hne]
    exact Event.revise_dispatched (fun r' hr' => (ProcessRecord.fields_of_spent hr').1) p level

/-- The record of every other process, and that of a child. -/
theorem other (h : Spends source k r outcome es d k') (hk : k.Sound) {pid : Pid} (hne : pid ≠ r.pid)
    (hchild : outcome.child? ≠ some pid) :
    k'.table.get? pid = (k.table.get? pid).map (ProcessRecord.seat (d.map Prod.fst)) := by
  obtain ⟨hpath, es₁, rest, rfl, hdeed, hrest⟩ := h.exists_deed
  rw [hpath.get?, List.foldl_append, hdeed.revise_other hne hchild]
  exact hrest pid hne _ fun r' hr' => (hk.consistent.standing_of_get? hr').keyed

/-- A child has the next number, which nobody had. -/
theorem child (h : Spends source k r outcome es d k') (hk : k.Sound) (hr : k.table.get? r.pid = some r) {pid : Pid}
    (hchild : outcome.child? = some pid) : pid = k.table.nextPid ∧ k.table.get? pid = none ∧
      k'.table.get? pid = some (ProcessRecord.seat (d.map Prod.fst)
        { pid := pid, parent := some r.pid, priority := r.priority, state := .ready, startTime := k.clock,
          cpuTimeUsed := 0, context := { r.context with programCounter := r.context.programCounter + 1 } }) := by
  obtain ⟨hpath, es₁, rest, rfl, hdeed, hrest⟩ := h.exists_deed
  have hne := (hk.numbered.ne_nextPid hr).symm
  obtain ⟨rfl, hrevise⟩ := hdeed.revise_child hne hchild (k.table.get? pid)
  refine ⟨rfl, ?_, ?_⟩
  · rw [Option.eq_none_iff_forall_ne_some]
    intro r' hr'
    exact hk.numbered.ne_nextPid hr' rfl
  · rw [hpath.get?, List.foldl_append, hrevise]
    exact hrest _ hne _ fun r' hr' => by cases hr'; rfl

/-- What is in the slot. -/
theorem slot (h : Spends source k r outcome es d k') (hrun : k.running = some r.pid) (hne : r.pid ≠ k.table.nextPid) :
    k'.running = (outcome.worked?.filter fun _ => r.lasts).or (d.map Prod.fst) ∧
      ∀ pid, outcome.worked? = some pid → r.lasts = true → d = none := by
  rw [h.exists_deed.1.running, hrun]
  cases h with
  | charged hdeed hstays hused hpath =>
    obtain ⟨hwork, hslot, -⟩ := hdeed.worked hstays hne
    have hlasts : r.lasts = true := decide_eq_true hused
    rw [List.foldl_append, hslot, hwork, hlasts]
    exact ⟨rfl, fun _ _ _ => rfl⟩
  | preempted hdeed hstays hused hpath =>
    have hlasts : r.lasts = false := decide_eq_false hused
    rw [List.foldl_append, (hdeed.worked hstays hne).1, hlasts]
    exact ⟨rfl, fun _ _ h => by cases h⟩
  | emptied hdeed hleaves hempty hpath =>
    rw [List.foldl_append, (hdeed.released hleaves).2, hdeed.worked?_eq_none hleaves]
    exact ⟨rfl, fun _ h _ => by cases h⟩
  | refilled hdeed hleaves hpath =>
    rw [List.foldl_append, hdeed.worked?_eq_none hleaves]
    exact ⟨rfl, fun _ h _ => by cases h⟩

/-- What the events put into ready queues, take from them for the slot, preempt, block and wake. -/
theorem queued (h : Spends source k r outcome es d k') (hne : r.pid ≠ k.table.nextPid) :
    es.filterMap Event.admitted? =
        (outcome.child?.toList ++ (outcome.worked?.filter fun _ => !r.lasts).toList).map
          (fun pid => (pid, r.priority)) ∧
      es.filterMap Event.dispatched? = d.toList ∧
      (es.filterMap Event.preempted?).map Prod.fst = (outcome.worked?.filter fun _ => !r.lasts).toList ∧
      es.filterMap Event.blocked? = outcome.blocked?.toList ∧ es.filterMap Event.woken? = [] := by
  rw [List.map_append]
  cases h with
  | charged hdeed hstays hused hpath =>
    have hlasts : r.lasts = true := decide_eq_true hused
    obtain ⟨ha, hd, hp, hb, hw⟩ := hdeed.queued
    simp only [List.filterMap_append, ha, hd, hp, hb, hw, (hdeed.worked hstays hne).1, hlasts]
    exact ⟨rfl, rfl, rfl, List.append_nil _, rfl⟩
  | preempted hdeed hstays hused hpath =>
    have hlasts : r.lasts = false := decide_eq_false hused
    obtain ⟨ha, hd, hp, hb, hw⟩ := hdeed.queued
    simp only [List.filterMap_append, ha, hd, hp, hb, hw, (hdeed.worked hstays hne).1, hlasts]
    exact ⟨rfl, rfl, rfl, List.append_nil _, rfl⟩
  | emptied hdeed hleaves hempty hpath =>
    obtain ⟨ha, hd, hp, hb, hw⟩ := hdeed.queued
    simp only [List.filterMap_append, ha, hd, hp, hb, hw, hdeed.worked?_eq_none hleaves]
    exact ⟨rfl, rfl, rfl, List.append_nil _, rfl⟩
  | refilled hdeed hleaves hpath =>
    obtain ⟨ha, hd, hp, hb, hw⟩ := hdeed.queued
    simp only [List.filterMap_append, ha, hd, hp, hb, hw, hdeed.worked?_eq_none hleaves]
    exact ⟨rfl, rfl, rfl, List.append_nil _, rfl⟩

end Spends

/-- All that a tick with a process in the slot changes. -/
theorem Ticks.exists_frame {pid : Pid} (h : Ticks source k outcome es k') (hk : k.Sound) (hrun : k.running = some pid) :
    ∃ r d, k.table.get? pid = some r ∧ r.pid = pid ∧ k.TickFrame source r outcome d k' := by
  obtain ⟨r, hr⟩ := hk.consistent.exists_running hrun
  obtain ⟨rfl, d, hspends⟩ := h.spends hk.consistent hk.numbered hrun hr
  refine ⟨r, d, hr, rfl, ?_⟩
  have hne := hk.numbered.ne_nextPid hr
  obtain ⟨hpath, es₁, rest, -, hdeed, -⟩ := hspends.exists_deed
  obtain ⟨hslot, hstays⟩ := hspends.slot hrun hne
  obtain ⟨ha, hd, hp, hb, hw⟩ := hspends.queued hne
  refine ⟨hdeed.outcome_eq, hspends.self hr hne, fun pid hchild => hspends.child hk hr hchild, ?_, hslot, hstays, ?_,
    ?_, ?_, ?_, h.clock⟩
  · intro pid hother hchild
    exact hspends.other hk hother hchild
  · intro level
    have hflow := hpath.flow hk.consistent level
    rw [ha, hd] at hflow
    rw [← hflow, atLevel_map]
  · rintro pid level rfl
    have hmem : (pid, level) ∈ es.filterMap Event.dispatched? := by
      rw [hd]
      exact List.mem_cons_self
    exact h.shape.urgent hk.consistent hmem
  · have hflow := hpath.blocked_flow
    rw [hb, hw] at hflow
    exact hflow.symm
  · rw [hpath.tally.2, ← hp, List.length_map]

/-- The process that is put into the slot has not been charged since. -/
theorem Kernel.TickFrame.uncharged {p : Pid} {level : Priority}
    (h : k.TickFrame source r outcome (some (p, level)) k') (hk : k.Consistent) {r' : ProcessRecord Context}
    (hr' : k'.table.get? p = some r') : r'.cpuTimeUsed = 0 := by
  have hseat : ∀ o : Option (ProcessRecord Context), (∀ r₁ ∈ o, r₁.pid = p) →
      k'.table.get? p = o.map (ProcessRecord.seat (some p)) → r'.cpuTimeUsed = 0 := by
    intro o ho hget
    obtain ⟨r₁, hr₁, rfl⟩ := Option.map_eq_some_iff.mp (hget.symm.trans hr')
    obtain rfl := ho r₁ hr₁
    rw [ProcessRecord.seat, if_pos rfl]
  by_cases hself : p = r.pid
  · subst hself
    exact hseat _ (fun r₁ hr₁ => (ProcessRecord.fields_of_spent hr₁).1) h.self
  · by_cases hchild : outcome.child? = some p
    · exact hseat (some (r.child r.pid p k.clock)) (fun r₁ hr₁ => by cases hr₁; rfl) (h.child p hchild).2.2
    · exact hseat _ (fun r₁ hr₁ => (hk.standing_of_get? hr₁).keyed) (h.others p hself hchild)

/-- A replacement whose program does not load moves on by one instruction, and keeps the program and the accumulator. -/
theorem Kernel.TickFrame.kept (h : k.TickFrame source r outcome d k') {fault : Fault}
    (hfailed : outcome = .replaceFailed r.pid fault) :
    ∃ r', k'.table.get? r.pid = some r' ∧
      r'.context = { r.context with programCounter := r.context.programCounter + 1 } := by
  have hforetells := r.context.foretells source r.pid k.table.nextPid
  rw [← h.does] at hforetells
  obtain ⟨name, why, hi, hload, -⟩ := (hforetells.replaceFailed fault).mp hfailed
  have halone : r.context.alone source = .ok { r.context with programCounter := r.context.programCounter + 1 } := by
    simp only [Context.alone, hi, hload]
  obtain ⟨r', hspent, -, hcontext⟩ := ProcessRecord.exists_spent halone
  have hself := h.self
  rw [hspent, Option.map_some] at hself
  refine ⟨_, hself, ?_⟩
  rw [ProcessRecord.context_seat, hcontext]

end

/-! ## Every run -/

namespace Session

/-- After every run of a kernel since it booted a session that is not shut down carries out a tick. Whenever one is
carried out with a process in the slot, the record of this process and the programs that there are determine its
outcome, and with the process that is put into the slot all that the tick changes. A replacement whose program does
not load keeps the program and the accumulator. -/
theorem tick_frame {levels : UInt8} {k : Kernel Context} (hboot : Kernel.boot levels = .ok k)
    (requests : List (Source × Request)) (hroom : births (exchanges { kernel := k } requests) < UInt32.size) :
    (∀ source, (after { kernel := k } requests).shutDown = false →
      ((after { kernel := k } requests).exchange source (.command .tick)).ticked?.isSome = true) ∧
    ∀ source request pid outcome, (after { kernel := k } requests).kernel.running = some pid →
      ((after { kernel := k } requests).exchange source request).ticked? = some outcome →
      ∃ r dispatched, (after { kernel := k } requests).kernel.table.get? pid = some r ∧ r.pid = pid ∧
        r.context.Foretells source pid (after { kernel := k } requests).kernel.table.nextPid outcome ∧
        (after { kernel := k } requests).kernel.TickFrame source r outcome dispatched
          ((after { kernel := k } requests).exchange source request).after.kernel ∧
        ∀ fault, outcome = .replaceFailed pid fault → ∃ r',
          ((after { kernel := k } requests).exchange source request).after.kernel.table.get? pid = some r' ∧
            r'.context = { r.context with programCounter := r.context.programCounter + 1 } := by
  obtain ⟨hsound, -⟩ := sound_after hboot hroom
  refine ⟨fun source hup => isSome_ticked hsound hup source, ?_⟩
  intro source request pid outcome hrun houtcome
  obtain ⟨es, hcourse⟩ := exchange_course source hsound request
  obtain ⟨r, d, hr, rfl, hframe⟩ := (hcourse.exists_ticks houtcome).exists_frame hsound hrun
  refine ⟨r, d, hr, rfl, ?_, hframe, fun fault hfailed => hframe.kept hfailed⟩
  rw [hframe.does]
  exact r.context.foretells source r.pid _

/-- Requests after which a process is about to fork, while another is ready. -/
def forkSample : List Request :=
  [.operation (.createParsed 0 [.fork 1, .exit, .set 3]), .operation (.createParsed 0 [.add 1, .exit])]

/-- In the sample the child and then its parent join the queue behind the other process, which is put into the slot. -/
theorem tick_frame_sample :
    Kernel.boot 2 = .ok (Kernel.empty 2 : Kernel Context) ∧
      births (exchanges { kernel := Kernel.empty 2 } (forkSample.map (Prod.mk Source.empty))) < UInt32.size ∧
      (after { kernel := Kernel.empty 2 } (forkSample.map (Prod.mk Source.empty))).kernel.running = some 0 ∧
      ((after { kernel := Kernel.empty 2 } (forkSample.map (Prod.mk Source.empty))).exchange Source.empty
        (.command .tick)).ticked? = some (.forked 0 2) ∧
      ∃ r dispatched,
        (after { kernel := Kernel.empty 2 } (forkSample.map (Prod.mk Source.empty))).kernel.TickFrame Source.empty r
          (.forked 0 2) dispatched
          ((after { kernel := Kernel.empty 2 } (forkSample.map (Prod.mk Source.empty))).exchange Source.empty
            (.command .tick)).after.kernel := by
  have hboot : Kernel.boot 2 = .ok (Kernel.empty 2 : Kernel Context) := rfl
  have hroom : births (exchanges { kernel := Kernel.empty 2 } (forkSample.map (Prod.mk Source.empty))) <
      UInt32.size := by
    decide +kernel
  have hrun : (after { kernel := Kernel.empty 2 } (forkSample.map (Prod.mk Source.empty))).kernel.running = some 0 := by
    decide +kernel
  have houtcome : ((after { kernel := Kernel.empty 2 } (forkSample.map (Prod.mk Source.empty))).exchange Source.empty
      (.command .tick)).ticked? = some (.forked 0 2) := by
    decide +kernel
  obtain ⟨r, d, -, -, -, hframe, -⟩ := (tick_frame hboot _ hroom).2 Source.empty (.command .tick) 0 _ hrun houtcome
  exact ⟨hboot, hroom, hrun, houtcome, r, d, hframe⟩

end Session

end Timeshare
