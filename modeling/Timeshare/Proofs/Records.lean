import Timeshare.Proofs.Run

/-!
# What events do to records

An event changes the record of the process that it is about, or of none (`Event.revise`). Only work, a block, an end
and a filing touch a context, only charges, preemptions and dispatches touch a charge, and nothing changes an
identity. So an accounting touches no context, and of the events of a step each touches the process in the slot or the
child that it forks.
-/

namespace Timeshare

variable {C : Type} [Machine C] {k k' : Kernel C} {e : Event C} {es : List (Event C)} {pid : Pid} {level : Priority}

/-! ## Records -/

/-- The record of a process after an event, given the one before. -/
def Event.revise (pid : Pid) (r : Option (ProcessRecord C)) : Event C → Option (ProcessRecord C)
  | filed new => if pid = new.pid then some new else r
  | worked p change _ => if pid = p then r.map (ProcessRecord.mapContext change) else r
  | blocked p =>
    if pid = p then r.map fun r => { r with state := .blocked, context := Machine.advance r.context } else r
  | ended p => if pid = p then none else r
  | woken p _ => if pid = p then r.map fun r => { r with state := .ready } else r
  | charged p => if pid = p then r.map fun r => { r with cpuTimeUsed := r.cpuTimeUsed + 1 } else r
  | preempted p _ => if pid = p then r.map fun r => { r with state := .ready, cpuTimeUsed := 0 } else r
  | dispatched p _ => if pid = p then r.map fun r => { r with state := .running, cpuTimeUsed := 0 } else r
  | ticked => r

/-- What a move does to records. -/
theorem Move.get? (h : Move k e k') (pid : Pid) : k'.table.get? pid = Event.revise pid (k.table.get? pid) e := by
  have hmodify : ∀ (p : Pid) (f : ProcessRecord C → ProcessRecord C),
      (k.table.modify p f).get? pid = if pid = p then (k.table.get? pid).map f else k.table.get? pid := by
    intro p f
    rw [Table.get?_modify]
    by_cases hpid : pid = p
    · rw [if_pos hpid, if_pos hpid, hpid]
    · rw [if_neg hpid, if_neg hpid]
  cases h with
  | @filed r queues horigin hfresh hq =>
    have hpid : r.pid = k.table.nextPid := by
      cases horigin <;> rfl
    simp only [Table.get?_insert, Event.revise, ← hpid]
  | ended hrun => exact Table.get?_erase _ _ _
  | @charged p r hrun hmark hr hused =>
    refine (hmodify _ _).trans ?_
    simp only [Event.revise]
    by_cases hpid : pid = p
    · rw [if_pos hpid, if_pos hpid, hpid, hr]
      rfl
    · rw [if_neg hpid, if_neg hpid]
  | ticked => rfl
  | _ => exact hmodify _ _

/-- What a path does to records. -/
theorem Path.get? (h : Path k es k') (pid : Pid) :
    k'.table.get? pid = es.foldl (Event.revise pid) (k.table.get? pid) := by
  induction h with
  | nil => rfl
  | cons hm _ ih => rw [List.foldl_cons, ← hm.get?, ih]

section

variable {source : Source} {r : ProcessRecord C} {outcome : StepOutcome}

/-- A step touches the record of no process but the running one and the child that it forks. -/
theorem Deed.revise_other (h : Deed source k r outcome es) (hne : pid ≠ r.pid) (hchild : outcome.child? ≠ some pid)
    (o : Option (ProcessRecord C)) : es.foldl (Event.revise pid) o = o := by
  cases h with
  | fork hi =>
    have hpid : pid ≠ (r.child r.pid k.table.nextPid k.clock).pid := fun heq => hchild (congrArg some heq.symm)
    simp [Event.revise, hne, hpid]
  | _ => simp [Event.revise, hne]

/-- A forked child has the next number and the record of a child. -/
theorem Deed.revise_child (h : Deed source k r outcome es) (hne : k.table.nextPid ≠ r.pid)
    (hchild : outcome.child? = some pid) (o : Option (ProcessRecord C)) :
    pid = k.table.nextPid ∧ es.foldl (Event.revise pid) o = some (r.child r.pid pid k.clock) := by
  cases h with
  | fork hi =>
    obtain rfl := Option.some.inj hchild
    simp [Event.revise, hne, ProcessRecord.child]
  | _ => cases hchild

end

/-! ## Contexts -/

omit [Machine C] in
/-- The context of the process with this number, if there is one. -/
def Kernel.contextOf (k : Kernel C) (pid : Pid) : Option C := (k.table.get? pid).map (·.context)

/-- The context of a process after an event, given the one before. -/
def Event.compute (pid : Pid) (c : Option C) : Event C → Option C
  | filed r => if pid = r.pid then some r.context else c
  | worked p change _ => if pid = p then c.map change else c
  | blocked p => if pid = p then c.map Machine.advance else c
  | ended p => if pid = p then none else c
  | _ => c

/-- What an event does to a context is what it does to the record. -/
theorem Event.map_revise (pid : Pid) (r : Option (ProcessRecord C)) (e : Event C) :
    (Event.revise pid r e).map (·.context) = Event.compute pid (r.map (·.context)) e := by
  cases e with
  | ticked => rfl
  | _ =>
    simp only [Event.revise, Event.compute]
    split <;> cases r <;> rfl

/-- What events do to a context is what they do to the record. -/
theorem Event.map_foldl_revise (pid : Pid) (r : Option (ProcessRecord C)) (es : List (Event C)) :
    (es.foldl (Event.revise pid) r).map (·.context) = es.foldl (Event.compute pid) (r.map (·.context)) := by
  induction es generalizing r with
  | nil => rfl
  | cons e es ih => rw [List.foldl_cons, List.foldl_cons, ih, Event.map_revise]

theorem Move.contextOf (h : Move k e k') (pid : Pid) : k'.contextOf pid = Event.compute pid (k.contextOf pid) e := by
  unfold Kernel.contextOf
  rw [h.get?, Event.map_revise]

theorem Path.contextOf (h : Path k es k') (pid : Pid) :
    k'.contextOf pid = es.foldl (Event.compute pid) (k.contextOf pid) := by
  unfold Kernel.contextOf
  rw [h.get?, Event.map_foldl_revise]

theorem Settles.contextOf (h : Settles k es k') (pid : Pid) : k'.contextOf pid = k.contextOf pid := by
  rw [h.path.contextOf]
  cases h.turn <;> rfl

/-- A wake touches no context. -/
theorem Wakes.contextOf {woken : Option Pid} (h : Wakes k woken es k') (pid : Pid) :
    k'.contextOf pid = k.contextOf pid := by
  cases h with
  | none => rfl
  | some hmove hsettles => rw [hsettles.contextOf, hmove.contextOf]; rfl

/-! ## Charges -/

omit [Machine C] in
/-- The level of a process and what it has been charged since its dispatch. -/
def Kernel.chargeOf (k : Kernel C) (pid : Pid) : Option (Priority × UInt32) :=
  (k.table.get? pid).map fun r => (r.priority, r.cpuTimeUsed)

omit [Machine C] in
/-- The level and the charge of a process after an event, given those before. -/
def Event.charge (pid : Pid) (c : Option (Priority × UInt32)) : Event C → Option (Priority × UInt32)
  | filed r => if pid = r.pid then some (r.priority, r.cpuTimeUsed) else c
  | ended p => if pid = p then none else c
  | charged p => if pid = p then c.map fun (level, used) => (level, used + 1) else c
  | preempted p _ | dispatched p _ => if pid = p then c.map fun (level, _) => (level, 0) else c
  | _ => c

/-- What a move does to levels and charges. -/
theorem Move.chargeOf (h : Move k e k') (pid : Pid) : k'.chargeOf pid = Event.charge pid (k.chargeOf pid) e := by
  unfold Kernel.chargeOf
  rw [h.get?]
  cases e with
  | filed r => simp only [Event.revise, Event.charge]; split <;> rfl
  | ended p => simp only [Event.revise, Event.charge]; split <;> rfl
  | ticked => rfl
  | _ =>
    simp only [Event.revise, Event.charge]
    split <;> cases k.table.get? pid <;> rfl

/-- What a path does to levels and charges. -/
theorem Path.chargeOf (h : Path k es k') (pid : Pid) :
    k'.chargeOf pid = es.foldl (Event.charge pid) (k.chargeOf pid) := by
  induction h with
  | nil => rfl
  | cons hm _ ih => rw [List.foldl_cons, ← hm.chargeOf, ih]

omit [Machine C] in
/-- Whoever has a charge has a level. -/
theorem Kernel.levelOf_of_chargeOf {used : UInt32} (h : k.chargeOf pid = some (level, used)) :
    k.levelOf pid = some level := by
  obtain ⟨r, hr, heq⟩ := Option.map_eq_some_iff.mp h
  rw [levelOf, hr]
  exact congrArg some (Prod.mk.inj heq).1

omit [Machine C] in
/-- A charge is within the quantum of its level, which is one of the levels that there can be. -/
theorem Kernel.Consistent.charge_within (h : k.Consistent) {used : UInt32} (hc : k.chargeOf pid = some (level, used)) :
    used < quantum level ∧ level.toNat < 16 := by
  obtain ⟨r, hr, heq⟩ := Option.map_eq_some_iff.mp hc
  obtain ⟨rfl, rfl⟩ := Prod.mk.inj heq
  have hs := h.standing_of_get? hr
  exact ⟨hs.within, Nat.lt_of_lt_of_le hs.level h.levels⟩

/-! ## Identities -/

/-- What a record keeps for life. -/
structure Identity where
  pid : Pid
  /-- The process that forked it; none for one made from outside. -/
  parent : Option Pid
  priority : Priority
  startTime : Time
  deriving DecidableEq, Repr

omit [Machine C] in
/-- What the record keeps for life. -/
def ProcessRecord.identity (r : ProcessRecord C) : Identity :=
  { pid := r.pid, parent := r.parent, priority := r.priority, startTime := r.startTime }

omit [Machine C] in
/-- The identity of the process with this number, if there is one. -/
def Kernel.identityOf (k : Kernel C) (pid : Pid) : Option Identity := (k.table.get? pid).map ProcessRecord.identity

omit [Machine C] in
theorem Kernel.levelOf_eq (k : Kernel C) (pid : Pid) : k.levelOf pid = (k.identityOf pid).map (·.priority) := by
  rw [levelOf, identityOf, Option.map_map]
  rfl

omit [Machine C] in
/-- The identity of a process after an event, given the one before. -/
def Event.identify (pid : Pid) (i : Option Identity) : Event C → Option Identity
  | filed r => if pid = r.pid then some r.identity else i
  | ended p => if pid = p then none else i
  | _ => i

/-- What a move does to identities. -/
theorem Move.identityOf (h : Move k e k') (pid : Pid) :
    k'.identityOf pid = Event.identify pid (k.identityOf pid) e := by
  unfold Kernel.identityOf
  rw [h.get?]
  cases e with
  | filed r => simp only [Event.revise, Event.identify]; split <;> rfl
  | ended p => simp only [Event.revise, Event.identify]; split <;> rfl
  | ticked => rfl
  | _ =>
    simp only [Event.revise, Event.identify]
    split <;> cases k.table.get? pid <;> rfl

omit [Machine C] in
/-- The process that an event ends. -/
def Event.ended? : Event C → Option Pid
  | ended pid => some pid
  | _ => none

/-- A process that does not end keeps its identity. -/
theorem Move.keeps_identityOf {i : Identity} (h : Move k e k') (he : e.ended? = none) (hi : k.identityOf pid = some i) :
    k'.identityOf pid = some i := by
  rw [h.identityOf, hi]
  cases h with
  | filed horigin hfresh hq =>
    -- the number of a process that is made is not in use
    rw [Event.identify, if_neg]
    rintro rfl
    obtain ⟨r, hr, -⟩ := Option.map_eq_some_iff.mp hi
    exact hfresh (Table.mem_pids_iff.mpr ⟨r, hr⟩)
  | ended hrun => cases he
  | _ => rfl

/-- Over a path on which no process ends every process keeps its identity. -/
theorem Path.keeps_identityOf {i : Identity} (h : Path k es k') (he : ∀ e ∈ es, e.ended? = none)
    (hi : k.identityOf pid = some i) : k'.identityOf pid = some i := by
  induction h with
  | nil => exact hi
  | cons hm _ ih =>
    exact ih (fun e hmem => he e (List.mem_cons_of_mem _ hmem)) (hm.keeps_identityOf (he _ List.mem_cons_self) hi)

/-- Over a path on which no process ends every process keeps its level. -/
theorem Path.levelOf (h : Path k es k') (he : ∀ e ∈ es, e.ended? = none) (hl : k.levelOf pid = some level) :
    k'.levelOf pid = some level := by
  rw [Kernel.levelOf_eq] at hl ⊢
  obtain ⟨i, hi, hlevel⟩ := Option.map_eq_some_iff.mp hl
  rw [h.keeps_identityOf he hi]
  exact congrArg some hlevel

/-! ## The clock -/

omit [Machine C] in
/-- The time after an event, given the time before. -/
def Event.time (now : Time) : Event C → Time
  | ticked => now + 1
  | _ => now

theorem Move.clock (h : Move k e k') : k'.clock = e.time k.clock := by
  cases h <;> rfl

theorem Path.clock (h : Path k es k') : k'.clock = es.foldl Event.time k.clock := by
  induction h with
  | nil => rfl
  | cons hm _ ih => rw [List.foldl_cons, ← hm.clock, ih]

/-- An accounting takes no time. -/
theorem Settles.clock (h : Settles k es k') : k'.clock = k.clock := by
  rw [h.path.clock]
  cases h.turn <;> rfl

/-- A step takes no time. -/
theorem Steps.clock {source : Source} {outcome : StepOutcome} (h : Steps source k outcome es k') :
    k'.clock = k.clock := by
  have hdeed : ∀ {r : ProcessRecord C} {es₁ : List (Event C)} {k₁ : Kernel C}, Deed source k r outcome es₁ →
    Path k es₁ k₁ →
      k₁.clock = k.clock := by
    intro r es₁ k₁ hdeed hpath
    rw [hpath.clock]
    cases hdeed <;> rfl
  cases h with
  | idle => rfl
  | worked hrun hr hdoes hstays hpath => exact hdeed hdoes hpath
  | released hrun hr hdoes hleaves hpath hsettles => exact hsettles.clock.trans (hdeed hdoes hpath)

theorem Wakes.clock {woken : Option Pid} (h : Wakes k woken es k') : k'.clock = k.clock := by
  cases h with
  | none => rfl
  | some hmove hsettles => exact hsettles.clock.trans hmove.clock

theorem Ticks.clock {source : Source} {outcome : StepOutcome} (h : Ticks source k outcome es k') :
    k'.clock = k.clock + 1 := by
  cases h with
  | intro hsteps hsettles => rw [hsettles.clock, hsteps.clock]

end Timeshare
