import Timeshare.Proofs.Isolation

/-!
# Numbers are fresh as long as they last

The number of a new process is the number of those that were made before, so no other process had it and no record is
overwritten (`Session.numbers_fresh`). This holds for the first 2 ^ 32 processes of a run, and not for the next:
numbers are words that wrap, and a run that forks and lets the children end comes to the point with one process alive,
whose record the next fork overwrites (`Session.numbers_run_out`).
-/

namespace Timeshare

section

variable {C : Type} [Machine C] {k k' : Kernel C} {e : Event C} {es : List (Event C)}

/-- A move that ends no process keeps the numbers of the table and adds the one that it gives out. -/
theorem Move.pids (h : Move k e k') (hends : e.ended? = none) : k'.table.pids = k.table.pids ++ e.born?.toList := by
  cases h with
  | filed horigin hfresh hq =>
    obtain ⟨hpid, -, -⟩ := horigin.fields
    rw [Table.pids_insert (hpid ▸ hfresh), ← hpid]
    rfl
  | ended => cases hends
  | ticked => exact (List.append_nil _).symm
  | _ =>
    rw [Table.pids_modify]
    exact (List.append_nil _).symm

/-- A path on which no process ends keeps the numbers of the table and adds those that it gives out. -/
theorem Path.pids (h : Path k es k') (hends : es.filterMap Event.ended? = []) :
    k'.table.pids = k.table.pids ++ es.filterMap Event.born? := by
  induction h with
  | nil => exact (List.append_nil _).symm
  | @cons k k₁ k' e es hm _ ih =>
    rw [List.filterMap_eq_nil_iff, List.forall_mem_cons] at hends
    rw [ih (List.filterMap_eq_nil_iff.mpr hends.2), hm.pids hends.1, List.append_assoc]
    cases he : e.born? <;> simp [he]

end

/-- A course in which a process is born adds its number to those of the table. -/
theorem Course.pids {source : Source} {k k' : Kernel Context} {request : Request} {answer : Except Halt Response}
    {es : List (Event Context)} {pid : Pid} (h : Course source k request answer es k')
    (hborn : answer.toOption.bind Response.born? = some pid) : k'.table.pids = k.table.pids ++ [pid] := by
  have hends : es.filterMap Event.ended? = [] := by
    rw [← Event.filterMap_opens fun e he => by cases e <;> first | rfl | cases he]
    have hopens := h.opens
    generalize es.filter Event.opens = opening at hopens ⊢
    cases hopens with
    | made => rfl
    | stepped hdeed | ticked hdeed =>
      cases hdeed with
      | fork => rfl
      | _ => cases hborn
    | woken level hresponse => rfl
    | nothing => rfl
  rw [h.path.pids hends, h.born, hborn]
  rfl

namespace Session

/-! ## The first 2 ^ 32 processes -/

section

variable {levels : UInt8} {k : Kernel Context} {requests : List (Source × Request)} {older newer : List Exchange}
    {x : Exchange}
  {pid : Pid}

/-- As long as numbers last, a process that is born gets the next one, which counts those that were born before, and
its record comes to the others. -/
theorem birth_of_split (hboot : Kernel.boot levels = .ok k)
    (hx : exchanges { kernel := k } requests = older ++ x :: newer) (hroom : Exchange.births older < UInt32.size)
    (hborn : x.born? = some pid) :
    pid.toNat = Exchange.births older ∧ pid ∉ x.before.kernel.table.pids ∧
      x.after.kernel.table.pids = x.before.kernel.table.pids ++ [pid] := by
  obtain ⟨before, source, request, rest, -, rfl, rfl, -⟩ := exchanges_split hx
  obtain ⟨hsound, hnext⟩ := sound_after hboot hroom
  obtain ⟨es, hcourse⟩ := exchange_course source hsound request
  obtain ⟨rfl, -⟩ := hcourse.birth hsound hborn
  rw [(exchange_before source _ request).1]
  exact ⟨hnext, hsound.numbered.fresh, hcourse.pids hborn⟩

/-- In every run of a kernel since it booted, each of the first 2 ^ 32 processes that are made or forked gets a number
that none had before. It overwrites no record, and there is one record more. -/
theorem numbers_fresh (hboot : Kernel.boot levels = .ok k)
    (hx : exchanges { kernel := k } requests = older ++ x :: newer) (hroom : Exchange.births older < UInt32.size)
    (hborn : x.born? = some pid) :
    pid.toNat = Exchange.births older ∧ (∀ y ∈ older, y.born? ≠ some pid) ∧ x.before.kernel.table.get? pid = none ∧
      x.after.kernel.table.pids = x.before.kernel.table.pids ++ [pid] ∧
      x.after.kernel.table.size = x.before.kernel.table.size + 1 := by
  obtain ⟨hnumber, hfresh, hpids⟩ := birth_of_split hboot hx hroom hborn
  refine ⟨hnumber, fun y hy hsame => ?_, ?_, hpids, ?_⟩
  · obtain ⟨older', between, rfl⟩ := List.append_of_mem hy
    have hcount :
        Exchange.births (older' ++ y :: between) = Exchange.births older' + (1 + Exchange.births between) := by
      simp [Exchange.births, hsame, Nat.add_comm]
    rw [List.append_assoc, List.cons_append] at hx
    have hearlier := (birth_of_split hboot hx (by omega) hsame).1
    omega
  · rw [Option.eq_none_iff_forall_ne_some]
    exact fun r hr => hfresh (Table.mem_pids_iff.mpr ⟨r, hr⟩)
  · have hsize : ∀ t : Table Context, t.size = t.pids.length := fun t => by
      rw [Table.size, Table.records, Table.pids]; simp
    rw [hsize, hsize, hpids, List.length_append]
    rfl

/-- The child in the sample gets the third number. -/
theorem numbers_fresh_sample :
    Kernel.boot 2 = .ok (Kernel.empty 2 : Kernel Context) ∧
      ∃ older x newer, exchanges { kernel := Kernel.empty 2 } (sample.map (Prod.mk Source.empty)) =
        older ++ x :: newer ∧
        Exchange.births older < UInt32.size ∧ x.born? = some 2 ∧ (∀ y ∈ older, y.born? ≠ some 2) ∧
        x.before.kernel.table.get? 2 = none ∧ x.after.kernel.table.pids = x.before.kernel.table.pids ++ [2] := by
  have hboot : Kernel.boot 2 = .ok (Kernel.empty 2 : Kernel Context) := rfl
  have hsplit :=
    (List.take_append_drop 3 (exchanges { kernel := Kernel.empty 2 } (sample.map (Prod.mk Source.empty)))).symm
  have hroom : Exchange.births ((exchanges { kernel := Kernel.empty 2 } (sample.map (Prod.mk Source.empty))).take 3) <
      UInt32.size := by
    decide +kernel
  obtain ⟨-, hnew, hfree, hpids, -⟩ := numbers_fresh hboot hsplit hroom rfl
  exact ⟨hboot, _, _, _, hsplit, hroom, rfl, hnew, hfree, hpids⟩

end

end Session

/-! ## The process after them -/

/-- Where the quantum of the marked process is over, the slot goes to the head of the most urgent queue. -/
theorem Kernel.reschedule_rotates {C : Type} {k : Kernel C} {pid head : Pid} {r r' : ProcessRecord C}
    {queues left : Queues} {t t' : Table C} (hrun : k.running = some pid) (hmark : k.executed = some pid)
    (hr : k.table.get? pid = some r) (hused : ¬r.cpuTimeUsed + 1 < quantum r.priority)
    (hq : k.queues.enqueueReady pid r.priority = some queues)
    (hpreempt : (k.table.modify pid fun r => { r with state := .ready, cpuTimeUsed := 0 }) = t)
    (hd : queues.dequeueReady = some (head, left)) (hhead : t.get? head = some r')
    (hseat : (t.modify head fun r => { r with state := .running, cpuTimeUsed := 0 }) = t') :
    ∃ stats, reschedule k = .ok (some head)
      { k with
        table := t', queues := left, running := some head, executed := none, lastDispatched := some head
        stats := stats } := by
  subst hpreempt hseat
  have hacc : account k.executed { k with executed := none } = charge pid { k with executed := none } := by
    simp only [account_apply, hrun, hmark, if_true]
  rw [charge_preempts (k := { k with executed := none }) hr hused hq] at hacc
  have hfill := fillSlot_apply { k with
    table := k.table.modify pid fun r => { r with state := .ready, cpuTimeUsed := 0 }
    queues := queues, running := none, executed := none
    stats := { k.stats with preemptions := k.stats.preemptions + 1 } }
  simp only [dispatch_apply, hd] at hfill
  rw [occupy_ok (k := { k with
    table := k.table.modify pid fun r => { r with state := .ready, cpuTimeUsed := 0 }
    queues := left, running := none, executed := none
    stats := { k.stats with preemptions := k.stats.preemptions + 1 } }) hhead] at hfill
  exact ⟨_, reschedule_of_parts hacc hfill⟩

namespace Spin

/-- A program that forks a child, which ends at once, and starts itself again. -/
def program : Program := [.fork 1, .exit, .replace "w"]

/-- The programs that there are. -/
def source : Source := Source.shelf [("w", ["F 1", "E", "R w"])]

/-- The process that spins. -/
def spinner (state : ProcessState) (place : UInt64) : ProcessRecord Context :=
  { pid := 0, priority := 0, state := state, context := { program := program, programCounter := place } }

/-- Its child, which is to end. -/
def child (pid : Pid) (state : ProcessState) (born : Time) : ProcessRecord Context :=
  { pid := pid, parent := some 0, priority := 0, state := state, startTime := born,
    context := { program := program, programCounter := 1 } }

/-- A kernel of one level in which the process spins alone. -/
def alone (next : Pid) (place : UInt64) (stats : Stats) (clock : Time) : Kernel Context :=
  { queues := { ready := [[]] }, table := { nextPid := next, entries := [(0, spinner .running place)] }
    running := some 0, lastDispatched := some 0, stats := stats, clock := clock }

/-- A kernel in which it has just forked, at the end of its quantum. -/
def forked (next : Pid) (stats : Stats) (born clock : Time) : Kernel Context :=
  { queues := { ready := [[next]] }
    table := { nextPid := next + 1, entries := [(0, spinner .running 2), (next, child next .ready born)] }
    running := some 0, executed := some 0, lastDispatched := some 0, stats := stats, clock := clock }

/-- A kernel in which its child runs. -/
def parted (next : Pid) (stats : Stats) (born clock : Time) : Kernel Context :=
  { queues := { ready := [[0]] }
    table := { nextPid := next + 1, entries := [(0, spinner .ready 2), (next, child next .running born)] }
    running := some next, lastDispatched := some next, stats := stats, clock := clock }

variable {next : Pid}

/-- In a table of two records each is found and changed under its number. -/
theorem pair_apply {C : Type} (h : next ≠ 0) (n : Pid) (a b : ProcessRecord C) :
    (Table.mk n [(0, a), (next, b)]).get? next = some b ∧
      (∀ f, (Table.mk n [(0, a), (next, b)]).modify 0 f = ⟨n, [(0, f a), (next, b)]⟩) ∧
      (∀ f, (Table.mk n [(0, a), (next, b)]).modify next f = ⟨n, [(0, a), (next, f b)]⟩) ∧
      (Table.mk n [(0, a), (next, b)]).erase next = ⟨n, [(0, a)]⟩ := by
  have h' : 0 ≠ next := h.symm
  refine ⟨?_, fun f => ?_, fun f => ?_, ?_⟩
  · simp [Table.get?_cons, h]
  · simp [Table.modify, h]
  · simp [Table.modify, h']
  · simp [Table.erase, h']

/-- A fork. -/
theorem fork_ok (h : next ≠ 0) (stats : Stats) (clock : Time) : Kernel.fork 0 1 (alone next 0 stats clock) =
    .ok next (forked next { stats with forks := stats.forks + 1 } clock clock) := by
  have hfresh : next ∉ (alone next 0 stats clock).table.pids := by simpa [alone, Table.pids] using h
  have hinsert : (alone next 0 stats clock).table.insert ((spinner .running 0).child 0 next clock) =
      ⟨next + 1, [(0, spinner .running 0), (next, child next .ready clock)]⟩ := by
    simp [alone, Table.insert, Table.erase, h.symm]
    rfl
  have htable :=
    (pair_apply h (next + 1) (spinner .running 0) (child next .ready clock)).2.1
      (ProcessRecord.mapContext (Machine.skip 1))
  rw [← hinsert] at htable
  have hqueues : (alone next 0 stats clock).queues.enqueueReady next 0 = some { ready := [[next]] } := rfl
  have hget : (alone next 0 stats clock).table.get? 0 = some (spinner .running 0) := rfl
  refine (Kernel.fork_ok hget h.symm hfresh hqueues 1).trans ?_
  exact congrArg
    (fun t =>
      EStateM.Result.ok next { forked next { stats with forks := stats.forks + 1 } clock clock with table := t })
    htable

/-- The process forks, its quantum is over, and its child gets the slot. -/
theorem tick_fork (h : next ≠ 0) (stats : Stats) (clock : Time) :
    ∃ stats', Session.tick source (alone next 0 stats clock) =
      .ok (.forked 0 next) (parted next stats' clock (clock + 1)) := by
  have hstep : Kernel.step source (alone next 0 stats clock) = .ok (.forked 0 next) _ :=
    Action.bind_ok (f := fun child => pure (StepOutcome.forked 0 child)) (fork_ok h stats clock)
  obtain ⟨-, hpreempt, -, -⟩ := pair_apply h (next + 1) (spinner .running 2) (child next .ready clock)
  obtain ⟨hhead, -, hseat, -⟩ := pair_apply h (next + 1) (spinner .ready 2) (child next .ready clock)
  have hqueues : (forked next { stats with forks := stats.forks + 1 } clock (clock + 1)).queues.enqueueReady 0 0 =
    some { ready := [[next, 0]] } := rfl
  have hleft : (Queues.mk [[next, 0]] []).dequeueReady = some (next, { ready := [[0]] }) := rfl
  obtain ⟨stats', hsettle⟩ :=
    Kernel.reschedule_rotates (r := spinner .running 2) rfl rfl rfl (by decide) hqueues (hpreempt _) hleft
    hhead (hseat _)
  exact ⟨stats', Kernel.tick_of_parts hstep hsettle⟩

/-- The child ends, and the process gets the slot back. -/
theorem tick_exit (h : next ≠ 0) (stats : Stats) (born clock : Time) :
    ∃ stats', Session.tick source (parted next stats born clock) =
    .ok (.terminated next .exit) (alone (next + 1) 2 stats' (clock + 1)) := by
  obtain ⟨hget, -, -, herase⟩ := pair_apply h (next + 1) (spinner .ready 2) (child next .running born)
  obtain ⟨stats', hsettle⟩ : ∃ stats', Kernel.reschedule { parted next stats born clock with
      table := ⟨next + 1, [(0, spinner .ready 2)]⟩, running := none, executed := none
      stats := { stats with terminations := stats.terminations + 1 } } =
        .ok (some 0) (alone (next + 1) 2 stats' clock) := ⟨_, rfl⟩
  rw [← herase] at hsettle
  have hstep : Kernel.step source (parted next stats born clock) =
      .ok (.terminated next .exit) (alone (next + 1) 2 stats' clock) := by
    rw [Kernel.step_apply]
    simp only [parted, hget]
    exact Action.bind_ok (Kernel.terminateRunning_ok hget hsettle)
  exact ⟨stats', Kernel.tick_of_parts hstep rfl⟩

/-- The process starts again: its quantum is over, and it gets the slot back. -/
theorem tick_replace (next : Pid) (stats : Stats) (clock : Time) :
    ∃ stats', Session.tick source (alone next 2 stats clock) =
    .ok (.replaced 0 "w") (alone next 0 stats' (clock + 1)) :=
  ⟨_, rfl⟩

/-- So many rounds of the process, of three ticks each. -/
def rounds (n : Nat) : List (Source × Request) := List.replicate (3 * n) (source, .command .tick)

/-- A tick that a session carries out. -/
theorem exchange_tick {k k' : Kernel Context} {outcome : StepOutcome} (h : Session.tick source k = .ok outcome k') :
    Session.exchange source { kernel := k } (.command .tick) =
      { request := .command .tick, before := { kernel := k }, answer := .ok (.replied (.ticked outcome)),
        after := { kernel := k' } } :=
  Session.exchange_ok (Action.map_ok (Session.dispatch_tick rfl h))

/-- In one round one number is given out, and the process is alone again. -/
theorem after_round (h : next ≠ 0) (stats : Stats) (clock : Time) : ∃ stats' clock',
    Session.after { kernel := alone next 0 stats clock } (rounds 1) = { kernel := alone (next + 1) 0 stats' clock' } ∧
      Exchange.births (Session.exchanges { kernel := alone next 0 stats clock } (rounds 1)) = 1 := by
  obtain ⟨stats₁, h₁⟩ := tick_fork h stats clock
  obtain ⟨stats₂, h₂⟩ := tick_exit h stats₁ clock (clock + 1)
  obtain ⟨stats₃, h₃⟩ := tick_replace (next + 1) stats₂ (clock + 1 + 1)
  have hrounds : rounds 1 = [(source, .command .tick), (source, .command .tick), (source, .command .tick)] := rfl
  refine ⟨stats₃, clock + 1 + 1 + 1, ?_, ?_⟩
  · rw [hrounds]
    simp only [Session.after, List.foldl_cons, List.foldl_nil, exchange_tick h₁, exchange_tick h₂, exchange_tick h₃]
  · rw [hrounds]
    simp only [Session.exchanges, exchange_tick h₁, exchange_tick h₂, exchange_tick h₃]
    rfl

/-- As long as numbers last, every round gives out one. -/
theorem after_rounds (stats : Stats) (clock : Time) (n : Nat) (hn : n < UInt32.size) : ∃ stats' clock',
    Session.after { kernel := alone 1 0 stats clock } (rounds n) =
      { kernel := alone (UInt32.ofNat (n + 1)) 0 stats' clock' } ∧
      Exchange.births (Session.exchanges { kernel := alone 1 0 stats clock } (rounds n)) = n := by
  induction n with
  | zero => exact ⟨stats, clock, rfl, rfl⟩
  | succ n ih =>
    obtain ⟨stats₁, clock₁, hafter, hbirths⟩ := ih (by omega)
    have hnext : UInt32.ofNat (n + 1) ≠ 0 := by
      intro h
      have := congrArg UInt32.toNat h
      rw [UInt32.toNat_ofNat_of_lt' hn] at this
      cases this
    obtain ⟨stats₂, clock₂, hafter', hbirths'⟩ := after_round hnext stats₁ clock₁
    have hrounds : rounds (n + 1) = rounds n ++ rounds 1 := by
      rw [rounds, rounds, rounds, Nat.mul_add, List.replicate_add]
    refine ⟨stats₂, clock₂, ?_, ?_⟩
    · rw [hrounds, Session.after_append, hafter, hafter', UInt32.ofNat_add (n + 1) 1]
      rfl
    · rw [hrounds, Session.exchanges_append, Session.births_append, hbirths, hafter, hbirths']

/-- Where the next number is that of the process itself, the record of the child takes the place of its own. -/
theorem tick_overwrites (stats : Stats) (clock : Time) :
    ∃ k', Session.tick source (alone 0 0 stats clock) = .ok (.forked 0 0) k' ∧ k'.table.size = 1 :=
  ⟨_, rfl, rfl⟩

/-- Making the process, and so many rounds. -/
def requests (n : Nat) : List (Source × Request) := (source, .operation (.createFrom 0 "w")) :: rounds n

/-- After as many processes as there are numbers the process is alone and the next number is its own. -/
theorem after_requests (n : Nat) (hn : n + 1 = UInt32.size) : ∃ stats clock,
    Session.after { kernel := Kernel.empty 1 } (requests n) = { kernel := alone 0 0 stats clock } ∧
      Exchange.births (Session.exchanges { kernel := Kernel.empty 1 } (requests n)) = UInt32.size ∧
      ∃ y ∈ Session.exchanges { kernel := Kernel.empty 1 } (requests n), y.born? = some 0 := by
  have hmade : (Session.exchange source { kernel := Kernel.empty 1 } (.operation (.createFrom 0 "w"))).after =
      { kernel := alone 1 0 { dispatches := 1, contextSwitches := 1 } 0 } := by decide +kernel
  have hborn : (Session.exchange source { kernel := Kernel.empty 1 } (.operation (.createFrom 0 "w"))).born? =
      some 0 := by
    decide +kernel
  obtain ⟨stats, clock, hafter, hbirths⟩ := after_rounds { dispatches := 1, contextSwitches := 1 } 0 n (by omega)
  have hnext : UInt32.ofNat (n + 1) = 0 := by
    rw [hn]
    rfl
  refine ⟨stats, clock, ?_, ?_, _, List.mem_cons_self, hborn⟩
  · change Session.after (Session.exchange source _ _).after (rounds n) = _
    rw [hmade, hafter, hnext]
  · rw [requests, Session.exchanges, ← List.singleton_append, Session.births_append, hmade, hbirths, Exchange.births,
      List.filterMap_cons_some hborn, ← hn, Nat.add_comm]
    rfl

end Spin

/-- After 2 ^ 32 processes the next one gets the number of a live process, whose record it overwrites: the limit on
the run cannot be left out. The process of this run forks one child after the other, each of which ends before the
next is forked. -/
theorem Session.numbers_run_out : Kernel.boot 1 = .ok (Kernel.empty 1 : Kernel Context) ∧
    ∃ older x,
      exchanges { kernel := Kernel.empty 1 } (Spin.requests (UInt32.size - 1) ++ [(Spin.source, .command .tick)]) =
        older ++ [x] ∧
      Exchange.births older = UInt32.size ∧ x.born? = some 0 ∧ (∃ y ∈ older, y.born? = some 0) ∧
      (x.before.kernel.table.get? 0).isSome = true ∧ x.after.kernel.table.size = x.before.kernel.table.size := by
  obtain ⟨stats, clock, hafter, hbirths, hgiven⟩ :=
    Spin.after_requests (UInt32.size - 1) (Nat.sub_add_cancel (by decide))
  obtain ⟨k', htick, hsize⟩ := Spin.tick_overwrites stats clock
  refine ⟨rfl, _, _, exchanges_append _ _ _, hbirths, ?_, hgiven, ?_, ?_⟩
  all_goals rw [hafter, Spin.exchange_tick htick]
  · rfl
  · rfl
  · exact hsize

end Timeshare
