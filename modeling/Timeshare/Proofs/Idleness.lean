import Timeshare.Proofs.Faults
import Timeshare.Proofs.Isolation
import Timeshare.Proofs.Observed
import Timeshare.Proofs.Partition

/-!
# No processor time is lost

The slot is empty only while every process is blocked. So a tick is idle exactly if every process is blocked, and then
it changes nothing but the clock; every other tick executes one instruction, or one exhaustion, of the process that
was in the slot (`Session.idle_iff_all_blocked`).
-/

namespace Timeshare

/-! ## Empty slots -/

/-- Every process is blocked. -/
def Kernel.AllBlocked {C : Type} (k : Kernel C) : Prop := ∀ r ∈ k.table.records, r.state = .blocked

instance {C : Type} (k : Kernel C) : Decidable k.AllBlocked :=
  inferInstanceAs (Decidable (∀ r ∈ k.table.records, r.state = .blocked))

/-- Where every process is blocked the slot is empty. -/
theorem Kernel.Consistent.running_of_allBlocked {C : Type} {k : Kernel C} (hk : k.Consistent) (h : k.AllBlocked) :
    k.running = none := by
  cases hrun : k.running with
  | none => rfl
  | some pid =>
    obtain ⟨r, hr⟩ := hk.exists_running hrun
    have hblocked := h r (List.mem_map_of_mem (Table.mem_of_get? hr))
    cases hblocked.symm.trans ((hk.standing_of_get? hr).running hrun)

/-- Where the slot is empty nobody is ready, so every process is blocked. -/
theorem Kernel.Sound.allBlocked {C : Type} {k : Kernel C} (hk : k.Sound) (hrun : k.running = none) :
    (∀ queue ∈ k.queues.ready, queue = []) ∧ k.AllBlocked := by
  refine ⟨List.flatten_eq_nil_iff.mp (hk.filled hrun), fun r hr => ?_⟩
  obtain ⟨⟨pid, r⟩, hentry, rfl⟩ := List.mem_map.mp hr
  rcases hk.consistent.place_cases (Table.get?_of_mem hk.consistent.unique hentry) with ⟨hp, -⟩ | ⟨hp, -⟩ | ⟨-, hstate⟩
  · cases hp.symm.trans hrun
  · rw [hk.readyAt_of_idle hrun] at hp
    exact absurd hp List.not_mem_nil
  · exact hstate

/-- The slot is empty exactly if every process is blocked. -/
theorem Kernel.Sound.running_eq_none_iff_allBlocked {C : Type} {k : Kernel C} (hk : k.Sound) :
    k.running = none ↔ k.AllBlocked :=
  ⟨fun hrun => (hk.allBlocked hrun).2, hk.consistent.running_of_allBlocked⟩

/-! ## One instruction -/

/-- What the step of a process with this context does, given its number and the number that a child would get. -/
def Context.outcome (source : Source) (c : Context) (pid child : Pid) : StepOutcome :=
  match c.program[c.programCounter.toNat]? with
  | none => .terminated pid .programExhausted
  | some (.set v) => .executed pid (.set v)
  | some (.add v) => .executed pid (.add v)
  | some (.sub v) => .executed pid (.sub v)
  | some .block => .blocked pid
  | some .exit => .terminated pid .exit
  | some (.fork _) => .forked pid child
  | some (.replace name) =>
    match source name with
    | .error fault => .replaceFailed pid (.programUnavailable name fault.message)
    | .ok lines =>
      match Program.parse lines with
      | .ok _ => .replaced pid name
      | .error fault => .terminated pid (.faulted fault)

/-- One instruction of this process is executed, the next of its context, or its exhaustion if there is none: the
outcome is that of this instruction, the process has the context that it makes, or ends if it makes none, a forked
child starts one instruction further on, and no other process computes anything. -/
structure Kernel.Executes (source : Source) (k : Kernel Context) (pid : Pid) (c : Context) (outcome : StepOutcome)
    (k' : Kernel Context) : Prop where
  running : k.running = some pid
  context : k.contextOf pid = some c
  does : outcome = c.outcome source pid k.table.nextPid
  self : k'.contextOf pid = (c.alone source).toOption
  child : ∀ p, outcome.child? = some p → k'.contextOf p = some { c with programCounter := c.programCounter + 1 }
  others : ∀ p ≠ pid, outcome.child? ≠ some p → k'.contextOf p = k.contextOf p

section

variable {source : Source} {k k' : Kernel Context} {outcome : StepOutcome} {es : List (Event Context)} {pid : Pid}

/-- A deed is what the next instruction does. -/
theorem Deed.outcome_eq {r : ProcessRecord Context} (h : Deed source k r outcome es) :
    outcome = r.context.outcome source r.pid k.table.nextPid := by
  cases h with
  | replaced hi hload hparse =>
    rw [Context.next_eq] at hi
    simp only [Context.outcome, hi, hload, hparse]
  | unavailable hi hload =>
    rw [Context.next_eq] at hi
    simp only [Context.outcome, hi, hload, Kernel.unavailable]
  | faulted hi hload hparse =>
    rw [Context.next_eq] at hi
    simp only [Context.outcome, hi, hload, hparse]
  | _ hi =>
    rw [Context.next_eq] at hi
    simp only [Context.outcome, hi]

/-- A step with a process in the slot executes one instruction of this process. -/
theorem Steps.executes (h : Steps source k outcome es k') (hk : k.Sound) (hrun : k.running = some pid) :
    ∃ c, k.Executes source pid c outcome k' := by
  rcases h.deed_or_idle with ⟨hidle, -, -⟩ | ⟨p, r, es₁, k₁, hrun', hr, hdeed, hpath, hrest⟩
  · cases hidle.symm.trans hrun
  · obtain rfl : p = pid := Option.some.inj (hrun'.symm.trans hrun)
    obtain rfl : r.pid = p := (hk.consistent.standing_of_get? hr).keyed
    have hc : k.contextOf r.pid = some r.context := by rw [Kernel.contextOf, hr]; rfl
    refine ⟨r.context, hrun, hc, hdeed.outcome_eq, ?_, fun p hp => ?_, fun p hne hp => ?_⟩
    · rw [hrest, hpath.contextOf, hc, (hdeed.compute_self (hk.numbered.ne_nextPid hr)).1]
    · rw [hrest, (hdeed.contextOf_child hpath (hk.numbered.ne_nextPid hr).symm hp).2]
      rfl
    · rw [hrest, hdeed.contextOf_other hpath hne hp]

/-- An idle step changes nothing. -/
theorem Steps.eq_of_idle (h : Steps source k .idle es k') : k' = k := by
  rcases h.deed_or_idle with ⟨-, -, heq⟩ | ⟨p, r, es₁, k₁, -, -, hdeed, -, -⟩
  · exact heq
  · cases hdeed

/-- A tick is idle exactly if every process is blocked, and then it changes the clock only; any other tick executes
one instruction of the process that was in the slot. -/
theorem Ticks.idle_or_executes (h : Ticks source k outcome es k') (hk : k.Sound) :
    (outcome = .idle ↔ k.AllBlocked) ∧ (outcome = .idle → k' = { k with clock := k.clock + 1 }) ∧
      (outcome ≠ .idle → ∃ pid c, k.Executes source pid c outcome k') := by
  cases h with
  | intro hsteps hsettles =>
    have hidle := hsteps.idle_iff.trans hk.running_eq_none_iff_allBlocked
    refine ⟨hidle, ?_, fun hbusy => ?_⟩
    · rintro rfl
      obtain rfl := hsteps.eq_of_idle
      have hrun := hsteps.idle_iff.mp rfl
      exact (hsettles.still (hk.consistent.executed_eq_none hrun) hk.filled).2
    · obtain ⟨pid, hrun⟩ := Option.ne_none_iff_exists'.mp fun hrun => hbusy (hsteps.idle_iff.mpr hrun)
      obtain ⟨c, hexecutes⟩ := hsteps.executes hk hrun
      -- the accounting after the step touches no context
      refine ⟨pid, c, hexecutes.running, hexecutes.context, hexecutes.does, ?_, fun p hp => ?_, fun p hne hp => ?_⟩
      · exact (hsettles.contextOf pid).trans hexecutes.self
      · exact (hsettles.contextOf p).trans (hexecutes.child p hp)
      · exact (hsettles.contextOf p).trans (hexecutes.others p hne hp)

/-- An exchange that carries out a tick is one. -/
theorem Course.exists_ticks {request : Request} {answer : Except Halt Response}
    (h : Course source k request answer es k') (houtcome : answer.toOption.bind Response.ticked? = some outcome) :
    Ticks source k outcome es k' := by
  cases h with
  | ticked hticks =>
    obtain rfl := Option.some.inj houtcome
    exact hticks
  | quiet hquiet => rcases hquiet with ⟨_, rfl⟩ | ⟨_, rfl⟩ | ⟨_, rfl⟩ | rfl <;> cases houtcome
  | _ => cases houtcome

end

/-! ## Every run -/

namespace Session

/-- A session that is not shut down carries out a tick. -/
theorem isSome_ticked {s : Session} (hs : s.kernel.Sound) (hup : s.shutDown = false) (source : Source) :
    (s.exchange source (.command .tick)).ticked?.isSome = true := by
  obtain ⟨reply, s', hd, -, hticked⟩ := exists_dispatch_ok hs hup source .tick
  have hperform : Request.perform source (.command .tick) s = .ok (.replied reply) s' := Action.map_ok hd
  rw [exchange_ok hperform]
  exact hticked.mpr rfl

/-- After every run of a kernel since it booted: if the slot is empty then every ready queue is empty and every
process is blocked. A session that is not shut down carries out a tick, and whenever a tick is carried out it is idle
exactly if every process is blocked; an idle tick changes nothing but the clock, and every other tick executes one
instruction of the process that was in the slot before it. -/
theorem idle_iff_all_blocked {levels : UInt8} {k : Kernel Context} (hboot : Kernel.boot levels = .ok k)
    (requests : List (Source × Request)) (hroom : Exchange.births (exchanges { kernel := k } requests) < UInt32.size) :
    ((after { kernel := k } requests).kernel.running = none →
      (∀ queue ∈ (after { kernel := k } requests).kernel.queues.ready, queue = []) ∧
        (after { kernel := k } requests).kernel.AllBlocked) ∧
    (∀ source, (after { kernel := k } requests).shutDown = false →
      ((after { kernel := k } requests).exchange source (.command .tick)).ticked?.isSome = true) ∧
    ∀ source request outcome, ((after { kernel := k } requests).exchange source request).ticked? = some outcome →
      (outcome = .idle ↔ (after { kernel := k } requests).kernel.AllBlocked) ∧
      (outcome = .idle → ((after { kernel := k } requests).exchange source request).after.kernel =
        { (after { kernel := k } requests).kernel with clock := (after { kernel := k } requests).kernel.clock + 1 }) ∧
      (outcome ≠ .idle → ∃ pid c, (after { kernel := k } requests).kernel.Executes source pid c outcome
        ((after { kernel := k } requests).exchange source request).after.kernel) := by
  obtain ⟨hsound, -⟩ := sound_after hboot hroom
  refine ⟨hsound.allBlocked, fun source hup => isSome_ticked hsound hup source,
    fun source request outcome houtcome => ?_⟩
  obtain ⟨es, hcourse⟩ := exchange_course source hsound request
  exact (hcourse.exists_ticks houtcome).idle_or_executes hsound

/-- Requests after which the only process is blocked. -/
def idleSample : List Request := [.operation (.createParsed 0 [.block, .add 1]), .command .tick]

/-- In the sample the next tick is idle. -/
theorem idle_iff_all_blocked_sample :
    Kernel.boot 2 = .ok (Kernel.empty 2 : Kernel Context) ∧
      Exchange.births (exchanges { kernel := Kernel.empty 2 } (idleSample.map (Prod.mk Source.empty))) < UInt32.size ∧
      (after { kernel := Kernel.empty 2 } (idleSample.map (Prod.mk Source.empty))).kernel.table.size = 1 ∧
      (after { kernel := Kernel.empty 2 } (idleSample.map (Prod.mk Source.empty))).kernel.running = none ∧
      ((after { kernel := Kernel.empty 2 } (idleSample.map (Prod.mk Source.empty))).exchange Source.empty
        (.command .tick)).ticked? =
        some .idle ∧
      (after { kernel := Kernel.empty 2 } (idleSample.map (Prod.mk Source.empty))).kernel.AllBlocked := by
  have hboot : Kernel.boot 2 = .ok (Kernel.empty 2 : Kernel Context) := rfl
  have hroom : Exchange.births (exchanges { kernel := Kernel.empty 2 } (idleSample.map (Prod.mk Source.empty))) <
      UInt32.size := by
    decide +kernel
  have hrun : (after { kernel := Kernel.empty 2 } (idleSample.map (Prod.mk Source.empty))).kernel.running = none := by
    decide +kernel
  exact ⟨hboot, hroom, by decide +kernel, hrun, by decide +kernel, ((idle_iff_all_blocked hboot _ hroom).1 hrun).2⟩

end Session

end Timeshare
