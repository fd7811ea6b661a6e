import Timeshare.Proofs.Balance
import Timeshare.Proofs.DispatchOrder
import Timeshare.Proofs.Quantum

/-!
# Priority inversion is bounded

A process that waits is held up by one of a less urgent level only while that one has the slot already. What is left
of its quantum bounds how long, and after that nobody comes into the slot from a less urgent level as long as the
process waits (`Session.bounded_inversion`).
-/

namespace Timeshare

/-- The level of the process that was in the slot for the step that the exchange executed. -/
def Exchange.level? (x : Exchange) : Option Priority := x.executing?.bind x.before.kernel.levelOf

namespace Session

variable {s : Session} {source : Source} {request : Request} {es : List (Event Context)} {q r : Pid} {l p : Priority}

/-! ## The slot in one exchange -/

namespace Takes

/-- Where nobody comes into the slot and it is not empty after the exchange, nobody has left it. -/
theorem kept (ht : s.Takes source request es) (hd : (s.exchange source request).dispatched? = none)
    (hrun : (s.exchange source request).after.kernel.running = some r) :
    s.kernel.running = some r ∧ Event.count .preemptions es = 0 ∧ Event.count .blocks es = 0 ∧
      Event.count .terminations es = 0 := by
  have hbefore : s.kernel.running = some r := by
    rcases ht.shows_dispatches.2 hd with h | h
    · exact h.symm.trans hrun
    · cases hrun.symm.trans h
  have hslot := (ht.course.path.flows ht.before.consistent).slot
  rw [Kernel.occupancy_of_running hbefore, Kernel.occupancy_of_running hrun, ht.count .dispatches,
    Exchange.tally_singleton, Exchange.shows, hd, Option.isSome_none, if_neg Bool.false_ne_true] at hslot
  exact ⟨hbefore, by omega, by omega, by omega⟩

/-- So nobody was preempted, blocked or ended. -/
theorem not_leaves (ht : s.Takes source request es) (hd : (s.exchange source request).dispatched? = none)
    (hrun : (s.exchange source request).after.kernel.running = some r) (pid : Pid) :
    ¬(s.exchange source request).Leaves pid := by
  obtain ⟨-, hpreemptions, hblocks, hends⟩ := ht.kept hd hrun
  rw [ht.count, Exchange.tally_singleton] at hpreemptions hblocks hends
  rintro (h | h)
  · simp [Exchange.shows, h] at hpreemptions
  · obtain ⟨outcome, houtcome, hreleased⟩ := Option.bind_eq_some_iff.mp h
    cases outcome with
    | blocked => simp [Exchange.shows, houtcome, StepOutcome.counter?] at hblocks
    | terminated => simp [Exchange.shows, houtcome, StepOutcome.counter?] at hends
    | _ => cases hreleased

/-- A tick with a process in the slot executes an instruction of this process. -/
theorem executes (ht : s.Takes source request es) (hrun : s.kernel.running = some r)
    (hl : s.kernel.levelOf r = some p) :
    (s.exchange source request).ticked? ≠ some .idle ∧ ((s.exchange source request).ticked?.isSome = true →
      (s.exchange source request).executing? = some r ∧ (s.exchange source request).level? = some p) := by
  constructor
  · intro hidle
    cases hrun.symm.trans ((ht.course.idle_iff (outcome_of_ticked hidle)).mp rfl)
  · intro hticked
    obtain ⟨outcome, houtcome⟩ := Option.isSome_iff_exists.mp hticked
    have hexecuting : (s.exchange source request).executing? = some r := by
      rw [Exchange.executing?, outcome_of_ticked houtcome, (exchange_before source s request).1, hrun]
      rfl
    rw [Exchange.level?, hexecuting, (exchange_before source s request).1]
    exact ⟨rfl, hl⟩

end Takes

/-- The process in the slot is at least as urgent as this level. -/
def Urgent (l : Priority) (s : Session) : Prop :=
  ∃ r level, s.kernel.running = some r ∧ s.kernel.levelOf r = some level ∧ level ≤ l

namespace Takes

/-- While a process waits, the slot is not empty. -/
theorem exists_running (ht : s.Takes source request es)
    (hq : q ∈ (s.exchange source request).after.kernel.queues.readyAt l) :
    ∃ r, (s.exchange source request).after.kernel.running = some r := by
  cases hrun : (s.exchange source request).after.kernel.running with
  | some r => exact ⟨r, rfl⟩
  | none =>
    rw [ht.after.readyAt_of_idle hrun] at hq
    exact absurd hq List.not_mem_nil

/-- While a process waits, nobody comes into the slot from a less urgent level. -/
theorem urgent_of_dispatched (ht : s.Takes source request es) (hq : q ∈ s.kernel.queues.readyAt l)
    (hd : (s.exchange source request).dispatched? = some r) : Urgent l (s.exchange source request).after := by
  obtain ⟨level, -, hlevel, hrun, -, hurgent⟩ := ht.waiting_of_dispatched hd
  refine ⟨r, level, hrun, hlevel, UInt8.not_lt.mp fun hlt => ?_⟩
  have hwaiting := hurgent l hlt
  rw [Exchange.waiting, (exchange_before source s request).1] at hwaiting
  exact absurd (List.append_eq_nil_iff.mp hwaiting).1 (List.ne_nil_of_mem hq)

/-- While a process waits, the process in the slot stays at least as urgent as its level. -/
theorem urgent (ht : s.Takes source request es) (hq : q ∈ s.kernel.queues.readyAt l)
    (hq' : q ∈ (s.exchange source request).after.kernel.queues.readyAt l) (hs : Urgent l s) :
    Urgent l (s.exchange source request).after := by
  cases hd : (s.exchange source request).dispatched? with
  | some r => exact ht.urgent_of_dispatched hq hd
  | none =>
    obtain ⟨r, hrun⟩ := ht.exists_running hq'
    obtain ⟨hbefore, -, -, hends⟩ := ht.kept hd hrun
    obtain ⟨r', level, hrun', hlevel, hle⟩ := hs
    obtain rfl : r' = r := Option.some.inj (hrun'.symm.trans hbefore)
    refine ⟨r', level, hrun, ht.course.path.levelOf (fun e he => ?_) hlevel, hle⟩
    have hcounter := List.countP_eq_zero.mp hends e he
    cases e with
    | ended => exact absurd rfl hcounter
    | _ => rfl

end Takes

/-! ## The visit of the process in the slot -/

section

variable {levels : UInt8} {k : Kernel Context} {requests : List (Source × Request)}

/-- The process in the slot was dispatched in some exchange, and has not left the slot since. -/
theorem exists_visit (hboot : Kernel.boot levels = .ok k)
    (hroom : Exchange.births (exchanges { kernel := k } requests) < UInt32.size)
    (hrun : (after { kernel := k } requests).kernel.running = some r) :
    ∃ older x during, exchanges { kernel := k } requests = older ++ x :: during ∧ x.dispatched? = some r ∧
      ∀ y ∈ during, ¬y.Leaves r := by
  refine (run_invariant_of_boot (P := fun xs s => s.kernel.running = some r →
    ∃ older x during, xs = older ++ x :: during ∧ x.dispatched? = some r ∧ ∀ y ∈ during,
      ¬y.Leaves r) hboot ?_ ?_ hroom).1 hrun
  · rw [(Kernel.boot_eq_ok_iff.mp hboot).2]
    intro hrun
    cases hrun
  · intro xs s source request es _ ht hs hrun
    cases hd : (s.exchange source request).dispatched? with
    | some p =>
      obtain ⟨-, -, -, hrun', -⟩ := ht.waiting_of_dispatched hd
      obtain rfl : p = r := Option.some.inj (hrun'.symm.trans hrun)
      exact ⟨xs, _, [], rfl, hd, fun y hy => absurd hy List.not_mem_nil⟩
    | none =>
      obtain ⟨older, x, during, rfl, hx, hstays⟩ := hs (ht.kept hd hrun).1
      refine ⟨older, x, during ++ [s.exchange source request], by simp, hx, ?_⟩
      rw [List.forall_mem_append]
      exact ⟨hstays, fun y hy => List.mem_singleton.mp hy ▸ ht.not_leaves hd hrun r⟩

/-- The process in the slot has been charged for the ticks of its visit. -/
theorem visited_of_running (hboot : Kernel.boot levels = .ok k)
    (hcommanded : ∀ asked ∈ requests, asked.2.commanded = true)
    (hroom : Exchange.births (exchanges { kernel := k } requests) < UInt32.size)
    (hrun : (after { kernel := k } requests).kernel.running = some r) {c : UInt32}
    (hc : (after { kernel := k } requests).kernel.chargeOf r = some (p, c)) :
    ∃ during, Visited r p during (after { kernel := k } requests) ∧ Exchange.ticks during = c.toNat := by
  obtain ⟨older, x, during, hsplit, hx, hstays⟩ := exists_visit hboot hroom hrun
  obtain ⟨level, -, hvisited⟩ := visited_of_dispatched hboot hcommanded hroom hsplit hx
  have hv := hvisited hstays
  obtain ⟨used, hused, hticks⟩ := hv.charged
  obtain ⟨rfl, rfl⟩ := Prod.mk.inj (Option.some.inj (hused.symm.trans hc))
  exact ⟨during, hv, hticks.symm⟩

end

/-! ## Runs while a process waits -/

section

variable {requests : List (Source × Request)} {during : List Exchange}

/-- As long as the process in the slot does not leave it, every tick executes an instruction of it. -/
theorem stay (hs : s.kernel.Sound) (hmark : s.kernel.executed = none) (hv : Visited r p during s)
    (hcommanded : ∀ asked ∈ requests, asked.2.commanded = true)
    (hroom : s.kernel.table.nextPid.toNat + Exchange.births (s.exchanges requests) < UInt32.size)
    (hstays : ∀ y ∈ s.exchanges requests, ¬y.Leaves r) :
    (s.after requests).kernel.executed = none ∧ Visited r p (during ++ s.exchanges requests) (s.after requests) ∧
      ∀ y ∈ s.exchanges requests, y.ticked? ≠ some .idle ∧
        (y.ticked?.isSome = true → y.executing? = some r ∧ y.level? = some p) := by
  refine (run_invariant (P := fun xs s' => (∀ y ∈ xs, ¬y.Leaves r) → s'.kernel.executed = none ∧
    Visited r p (during ++ xs) s' ∧
    ∀ y ∈ xs, y.ticked? ≠ some .idle ∧ (y.ticked?.isSome = true → y.executing? = some r ∧ y.level? = some p))
      hs ?_ ?_ hroom).1 hstays
  · intro _
    rw [List.append_nil]
    exact ⟨hmark, hv, fun y hy => absurd hy List.not_mem_nil⟩
  · intro xs s' source request es hmem ht hxs hstays'
    rw [List.forall_mem_append] at hstays'
    obtain ⟨hmark', hv', hticks⟩ := hxs hstays'.1
    have hrequest := hcommanded _ hmem
    obtain ⟨used, hused, -⟩ := hv'.charged
    refine ⟨ht.course.unmarked hrequest hmark', ?_, ?_⟩
    · rw [← List.append_assoc]
      exact ht.visited_succ hrequest hmark' hv' (hstays'.2 _ List.mem_cons_self)
    · rw [List.forall_mem_append]
      exact ⟨hticks, fun y hy => List.mem_singleton.mp hy ▸ ht.executes hv'.running (Kernel.levelOf_of_chargeOf hused)⟩

/-- As long as a process waits, and once the slot holds one at least as urgent, every tick executes an instruction of
one at least as urgent. -/
theorem urgent_after (hs : s.kernel.Sound) (hurgent : Urgent l s) (hq : q ∈ s.kernel.queues.readyAt l)
    (hroom : s.kernel.table.nextPid.toNat + Exchange.births (s.exchanges requests) < UInt32.size)
    (hwaits : ∀ y ∈ s.exchanges requests, q ∈ y.after.kernel.queues.readyAt l) :
    ∀ y ∈ s.exchanges requests, y.ticked? ≠ some .idle ∧
      (y.ticked?.isSome = true → ∃ level, level ≤ l ∧ y.level? = some level) := by
  refine ((run_invariant (P := fun xs s' => (∀ y ∈ xs, q ∈ y.after.kernel.queues.readyAt l) → Urgent l s' ∧
    q ∈ s'.kernel.queues.readyAt l ∧ ∀ y ∈ xs, y.ticked? ≠ some .idle ∧
      (y.ticked?.isSome = true → ∃ level, level ≤ l ∧ y.level? = some level)) hs ?_ ?_ hroom).1 hwaits).2.2
  · exact fun _ => ⟨hurgent, hq, fun y hy => absurd hy List.not_mem_nil⟩
  · intro xs s' source request es _ ht hxs hwaits'
    rw [List.forall_mem_append] at hwaits'
    obtain ⟨hurgent', hq', hticks⟩ := hxs hwaits'.1
    have hq'' := hwaits'.2 _ List.mem_cons_self
    refine ⟨ht.urgent hq' hq'' hurgent', hq'', ?_⟩
    obtain ⟨r', level, hrun, hlevel, hle⟩ := hurgent'
    obtain ⟨hidle, hexecutes⟩ := ht.executes hrun hlevel
    rw [List.forall_mem_append]
    exact ⟨hticks, fun y hy => List.mem_singleton.mp hy ▸ ⟨hidle, fun h => ⟨level, hle, (hexecutes h).2⟩⟩⟩

end

theorem ticks_append (xs ys : List Exchange) : Exchange.ticks (xs ++ ys) = Exchange.ticks xs + Exchange.ticks ys :=
  List.countP_append

/-- What happens while a process waits at a level: up to some time every tick executes an instruction of the process
that had the slot at first, and this one does not leave the slot before that time; after it every tick executes an
instruction of a process that is at least as urgent as the level. The first ticks are no more than the process had
left of its quantum, and no tick is idle. -/
structure Inverted (r : Pid) (p : Priority) (c : UInt32) (l : Priority) (visit rest : List Exchange) : Prop where
  executes : ∀ x ∈ visit, x.ticked?.isSome = true → x.executing? = some r ∧ x.level? = some p
  stays : ∀ x ∈ visit.dropLast, ¬x.Leaves r ∧ x.dispatched? = none
  urgent : ∀ x ∈ rest, x.ticked?.isSome = true → ∃ level, level ≤ l ∧ x.level? = some level
  bound : Exchange.ticks visit ≤ 2 ^ p.toNat - c.toNat
  busy : ∀ x ∈ visit ++ rest, x.ticked? ≠ some .idle

section

variable {requests : List (Source × Request)} {during : List Exchange} {c : UInt32}

/-- If the process does not leave the slot, all is its visit. -/
theorem inverted_of_stays (hs : s.kernel.Sound) (hmark : s.kernel.executed = none) (hv : Visited r p during s)
    (hc : Exchange.ticks during = c.toNat) (hcommanded : ∀ asked ∈ requests, asked.2.commanded = true)
    (hroom : s.kernel.table.nextPid.toNat + Exchange.births (s.exchanges requests) < UInt32.size)
    (hstays : ∀ y ∈ s.exchanges requests, ¬y.Leaves r) : Inverted r p c l (s.exchanges requests) [] := by
  obtain ⟨-, hv', hticks⟩ := stay hs hmark hv hcommanded hroom hstays
  have hlt := hv'.ticks_lt (sound_of_run hs hroom).1
  rw [ticks_append] at hlt
  refine ⟨fun x hx => (hticks x hx).2, fun x hx => ?_, fun x hx => absurd hx List.not_mem_nil, by omega, ?_⟩
  · have hmem := List.mem_of_mem_dropLast hx
    exact ⟨hstays x hmem, (hv'.worked x (List.mem_append_right _ hmem)).1⟩
  · rw [List.append_nil]
    exact fun x hx => (hticks x hx).1

/-- What waits after every exchange of a run waits after the run. -/
theorem waits_after (hq : q ∈ s.kernel.queues.readyAt l)
    (hwaits : ∀ y ∈ s.exchanges requests, q ∈ y.after.kernel.queues.readyAt l) :
    q ∈ (s.after requests).kernel.queues.readyAt l := by
  induction requests generalizing s with
  | nil => exact hq
  | cons asked requests ih =>
    rw [exchanges, List.forall_mem_cons] at hwaits
    exact ih hwaits.1 hwaits.2

/-- In the exchange in which the process leaves the slot, one that is at least as urgent as the level comes into it. -/
theorem Takes.urgent_of_leaves (ht : s.Takes source request es) (hq : q ∈ s.kernel.queues.readyAt l)
    (hq' : q ∈ (s.exchange source request).after.kernel.queues.readyAt l)
    (hleaves : (s.exchange source request).Leaves r) :
    Urgent l (s.exchange source request).after := by
  cases hd : (s.exchange source request).dispatched? with
  | some r' => exact ht.urgent_of_dispatched hq hd
  | none =>
    obtain ⟨r', hrun⟩ := ht.exists_running hq'
    exact absurd hleaves (ht.not_leaves hd hrun r)

/-- If the process leaves the slot, its visit ends with that exchange. -/
theorem inverted_of_leaves (hs : s.kernel.Sound) (hmark : s.kernel.executed = none) (hv : Visited r p during s)
    (hc : Exchange.ticks during = c.toNat) (hcommanded : ∀ asked ∈ requests, asked.2.commanded = true)
    (hroom : s.kernel.table.nextPid.toNat + Exchange.births (s.exchanges requests) < UInt32.size)
    (hq : q ∈ s.kernel.queues.readyAt l) (hwaits : ∀ y ∈ s.exchanges requests, q ∈ y.after.kernel.queues.readyAt l)
    {before rest : List Exchange} {y : Exchange} (hsplit : s.exchanges requests = before ++ y :: rest)
    (hstays : ∀ z ∈ before, ¬z.Leaves r) (hleaves : y.Leaves r) : Inverted r p c l (before ++ [y]) rest := by
  rw [hsplit, List.forall_mem_append, List.forall_mem_cons] at hwaits
  obtain ⟨hwaitsBefore, hwaitsThen, hwaitsRest⟩ := hwaits
  rw [hsplit, births_append, ← List.singleton_append, births_append] at hroom
  obtain ⟨earlier, source, request, later, rfl, rfl, rfl, rfl⟩ := exchanges_split hsplit
  rw [List.forall_mem_append, List.forall_mem_cons] at hcommanded
  obtain ⟨hearlier, hrequest, hlater⟩ := hcommanded
  have hroomBefore : s.kernel.table.nextPid.toNat + Exchange.births (s.exchanges earlier) < UInt32.size := by omega
  obtain ⟨hmark', hv', hticks⟩ := stay hs hmark hv hearlier hroomBefore hstays
  obtain ⟨hsound, hnext⟩ := sound_of_run hs hroomBefore
  obtain ⟨es, ht⟩ := exists_takes hsound source request (by omega)
  have hq' := waits_after hq hwaitsBefore
  have hrest :=
    urgent_after ht.after (ht.urgent_of_leaves hq' hwaitsThen hleaves) hwaitsThen (by rw [ht.next]; omega) hwaitsRest
  obtain ⟨htick, -, hquantum⟩ := ht.visited_end hrequest hmark' hv' hleaves
  obtain ⟨used, hused, -⟩ := hv'.charged
  have hlast := ht.executes hv'.running (Kernel.levelOf_of_chargeOf hused)
  rw [ticks_append] at hquantum
  refine ⟨?_, ?_, fun x hx => (hrest x hx).2, ?_, ?_⟩
  · rw [List.forall_mem_append, List.forall_mem_singleton]
    exact ⟨fun x hx => (hticks x hx).2, hlast.2⟩
  · rw [List.dropLast_concat]
    exact fun x hx => ⟨hstays x hx, (hv'.worked x (List.mem_append_right _ hx)).1⟩
  · have hone : Exchange.ticks [(s.after earlier).exchange source request] = 1 := by simp [Exchange.ticks, htick]
    rw [ticks_append, hone]
    omega
  · rw [List.append_assoc, List.forall_mem_append, List.singleton_append, List.forall_mem_cons]
    exact ⟨fun x hx => (hticks x hx).1, hlast.1, fun x hx => (hrest x hx).1⟩

end

/-- In every run of a kernel since it booted that is driven by commands, and in which processes are made at any time:
from any time on, as long as a process waits at a level, the ticks first execute instructions of the process that has
the slot, no more of them than are left of its quantum, and after that instructions of processes that are at least as
urgent as the level; and no tick is idle. -/
theorem bounded_inversion {levels : UInt8} {k : Kernel Context} (hboot : Kernel.boot levels = .ok k)
    (older newer : List (Source × Request)) (hcommanded : ∀ asked ∈ older ++ newer, asked.2.commanded = true)
    (hroom : Exchange.births (exchanges { kernel := k } (older ++ newer)) < UInt32.size) (q r : Pid) (l p : Priority)
    (c : UInt32) (hq : q ∈ (after { kernel := k } older).kernel.queues.readyAt l)
    (hrun : (after { kernel := k } older).kernel.running = some r)
    (hc : (after { kernel := k } older).kernel.chargeOf r = some (p, c))
    (hwaits : ∀ x ∈ (after { kernel := k } older).exchanges newer, q ∈ x.after.kernel.queues.readyAt l) :
    ∃ visit rest, (after { kernel := k } older).exchanges newer = visit ++ rest ∧ Inverted r p c l visit rest := by
  rw [List.forall_mem_append] at hcommanded
  rw [exchanges_append, births_append] at hroom
  have hroomOlder : Exchange.births (exchanges { kernel := k } older) < UInt32.size := by omega
  obtain ⟨hsound, hnext⟩ := sound_after hboot hroomOlder
  have hmark := unmarked_after hboot hcommanded.1 hroomOlder
  obtain ⟨during, hv, hticks⟩ := visited_of_running hboot hcommanded.1 hroomOlder hrun hc
  rw [← hnext] at hroom
  cases hfind : ((after { kernel := k } older).exchanges newer).find? fun x => decide (x.Leaves r) with
  | none =>
    have hstays : ∀ y ∈ (after { kernel := k } older).exchanges newer, ¬y.Leaves r := by
      simpa using List.find?_eq_none.mp hfind
    exact ⟨_, [], (List.append_nil _).symm, inverted_of_stays hsound hmark hv hticks hcommanded.2 hroom hstays⟩
  | some y =>
    obtain ⟨hleaves, before, rest, hsplit, hstays⟩ := List.find?_eq_some_iff_append.mp hfind
    refine ⟨before ++ [y], rest, by rw [hsplit, List.append_assoc]; rfl, ?_⟩
    exact inverted_of_leaves hsound hmark hv hticks hcommanded.2 hroom hq hwaits hsplit (by simpa using hstays)
      (by simpa using hleaves)

/-- Requests after which a process of level 1 waits while one of level 2 has the slot and has been charged for one
tick. -/
def inversionSample : List Request :=
  [.operation (.createParsed 2 (List.replicate 8 (.add 1))), .command .tick, .operation (.createParsed 1 [.set 1])]

/-- Requests during which the process of level 1 goes on waiting: the one of level 2 uses up its quantum, and one of
level 0 follows. -/
def inversionSampleRest : List Request :=
  [.command .tick, .operation (.createParsed 0 (List.replicate 4 (.add 1))), .command .tick, .command .tick,
   .command .inspect, .command .tick, .command .tick]

/-- In the sample the process of level 2 executes no more than the three instructions that are left of its quantum. -/
theorem bounded_inversion_sample :
    Kernel.boot 3 = .ok (Kernel.empty 3 : Kernel Context) ∧
      (∀ asked ∈ inversionSample.map (Prod.mk Source.empty) ++ inversionSampleRest.map (Prod.mk Source.empty),
        asked.2.commanded = true) ∧
      Exchange.births (exchanges { kernel := Kernel.empty 3 }
        (inversionSample.map (Prod.mk Source.empty) ++ inversionSampleRest.map (Prod.mk Source.empty))) < UInt32.size ∧
      1 ∈ (after { kernel := Kernel.empty 3 } (inversionSample.map (Prod.mk Source.empty))).kernel.queues.readyAt 1 ∧
      (after { kernel := Kernel.empty 3 } (inversionSample.map (Prod.mk Source.empty))).kernel.running = some 0 ∧
      (after { kernel := Kernel.empty 3 } (inversionSample.map (Prod.mk Source.empty))).kernel.chargeOf 0 =
        some (2, 1) ∧
      (∀ x ∈ (after { kernel := Kernel.empty 3 } (inversionSample.map (Prod.mk Source.empty))).exchanges
        (inversionSampleRest.map (Prod.mk Source.empty)), 1 ∈ x.after.kernel.queues.readyAt 1) ∧
      ∃ visit rest, (after { kernel := Kernel.empty 3 } (inversionSample.map (Prod.mk Source.empty))).exchanges
        (inversionSampleRest.map (Prod.mk Source.empty)) = visit ++ rest ∧ Inverted 0 2 1 1 visit rest := by
  have hboot : Kernel.boot 3 = .ok (Kernel.empty 3 : Kernel Context) := rfl
  have hcommanded :
    ∀ asked ∈ inversionSample.map (Prod.mk Source.empty) ++ inversionSampleRest.map (Prod.mk Source.empty),
      asked.2.commanded = true := by
    decide
  have hroom : Exchange.births (exchanges { kernel := Kernel.empty 3 }
      (inversionSample.map (Prod.mk Source.empty) ++ inversionSampleRest.map (Prod.mk Source.empty))) <
        UInt32.size := by
    decide +kernel
  have hq : 1 ∈
      (after { kernel := Kernel.empty 3 } (inversionSample.map (Prod.mk Source.empty))).kernel.queues.readyAt 1 := by
    decide +kernel
  have hrun : (after { kernel := Kernel.empty 3 } (inversionSample.map (Prod.mk Source.empty))).kernel.running =
      some 0 := by
    decide +kernel
  have hc : (after { kernel := Kernel.empty 3 } (inversionSample.map (Prod.mk Source.empty))).kernel.chargeOf 0 =
      some (2, 1) := by
    decide +kernel
  have hwaits : ∀ x ∈ (after { kernel := Kernel.empty 3 } (inversionSample.map (Prod.mk Source.empty))).exchanges
      (inversionSampleRest.map (Prod.mk Source.empty)), 1 ∈ x.after.kernel.queues.readyAt 1 := by
    decide +kernel
  exact ⟨hboot, hcommanded, hroom, hq, hrun, hc, hwaits,
    bounded_inversion hboot _ _ hcommanded hroom 1 0 1 2 1 hq hrun hc hwaits⟩

end Session

end Timeshare
