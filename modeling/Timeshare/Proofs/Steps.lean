import Timeshare.Kernel.Operation
import Timeshare.Session
import Timeshare.Proofs.Settle

/-!
# Operations as paths

What a step does is decided by the record of the running process and by the source (`Deed`). Each operation on a
consistent kernel gives an answer and leaves what a path leads to: making a process files it, a step is a deed, waking
is a move, and an accounting follows each of these but a step after which its process goes on.
-/

namespace Timeshare

open Timeshare.Action

variable {C : Type} [Machine C]

/-- Whether the process leaves the slot in a step of this outcome. -/
def StepOutcome.releases : StepOutcome → Bool
  | .blocked _ | .terminated _ _ => true
  | _ => false

/-- What a step of the process with this record does: the outcome, and the events before any accounting. -/
inductive Deed (source : Source) (k : Kernel C) (r : ProcessRecord C) : StepOutcome → List (Event C) → Prop where
  | set {v : Word} (hi : Machine.next? r.context = some (.set v)) :
    Deed source k r (.executed r.pid (.set v)) [.worked r.pid (fun c => Machine.advance (Machine.setTo v c)) .plain]
  | add {v : Word} (hi : Machine.next? r.context = some (.add v)) :
    Deed source k r (.executed r.pid (.add v)) [.worked r.pid (fun c => Machine.advance (Machine.add v c)) .plain]
  | sub {v : Word} (hi : Machine.next? r.context = some (.sub v)) :
    Deed source k r (.executed r.pid (.sub v)) [.worked r.pid (fun c => Machine.advance (Machine.sub v c)) .plain]
  | fork {skip : UInt64} (hi : Machine.next? r.context = some (.fork skip)) :
    Deed source k r (.forked r.pid k.table.nextPid)
      [.filed (r.child r.pid k.table.nextPid k.clock), .worked r.pid (Machine.skip skip) .fork]
  | replaced {name : String} {lines : List String} {program : Program}
    (hi : Machine.next? r.context = some (.replace name)) (hload : source name = .ok lines)
    (hparse : Program.parse lines = .ok program) :
    Deed source k r (.replaced r.pid name) [.worked r.pid (Machine.load program) .replacement]
  | unavailable {name : String} {fault : LoadFault} (hi : Machine.next? r.context = some (.replace name))
    (hload : source name = .error fault) :
    Deed source k r (.replaceFailed r.pid (Kernel.unavailable name fault)) [.worked r.pid Machine.advance .plain]
  | block (hi : Machine.next? r.context = some .block) : Deed source k r (.blocked r.pid) [.blocked r.pid]
  | exit (hi : Machine.next? r.context = some .exit) : Deed source k r (.terminated r.pid .exit) [.ended r.pid]
  | exhausted (hi : Machine.next? r.context = none) :
    Deed source k r (.terminated r.pid .programExhausted) [.ended r.pid]
  | faulted {name : String} {lines : List String} {fault : Fault} (hi : Machine.next? r.context = some (.replace name))
    (hload : source name = .ok lines) (hparse : Program.parse lines = .error fault) :
    Deed source k r (.terminated r.pid (.faulted fault)) [.ended r.pid]

/-- A step of the first kernel has this outcome, is these events, and leaves the second. -/
inductive Steps (source : Source) (k : Kernel C) : StepOutcome → List (Event C) → Kernel C → Prop where
  /-- With the slot empty nothing happens. -/
  | idle (hrun : k.running = none) : Steps source k .idle [] k
  /-- The running process goes on, and has left its mark. -/
  | worked {pid : Pid} {r : ProcessRecord C} {outcome : StepOutcome} {es : List (Event C)} {k' : Kernel C}
    (hrun : k.running = some pid) (hr : k.table.get? pid = some r) (hdeed : Deed source k r outcome es)
    (hstays : outcome.releases = false) (hpath : Path k es k') : Steps source k outcome es k'
  /-- The running process leaves the slot, and the slot is filled again. -/
  | released {pid : Pid} {r : ProcessRecord C} {outcome : StepOutcome} {es turn : List (Event C)} {k₁ k' : Kernel C}
    (hrun : k.running = some pid) (hr : k.table.get? pid = some r) (hdeed : Deed source k r outcome es)
    (hleaves : outcome.releases = true) (hpath : Path k es k₁) (hsettles : Settles k₁ turn k') :
    Steps source k outcome (es ++ turn) k'

/-- Making a process of this level that starts the program is these events, and leaves the second kernel. -/
inductive Makes (k : Kernel C) (priority : Priority) (program : Program) : List (Event C) → Kernel C → Prop where
  | intro {r : ProcessRecord C} {k₁ k' : Kernel C} {turn : List (Event C)}
    (hr : r = { pid := k.table.nextPid, priority := priority, startTime := k.clock, context := Machine.start program })
    (hmove : Move k (.filed r) k₁) (hsettles : Settles k₁ turn k') : Makes k priority program (.filed r :: turn) k'

/-- A wake of the first kernel gives this answer, is these events, and leaves the second. -/
inductive Wakes (k : Kernel C) : Option Pid → List (Event C) → Kernel C → Prop where
  /-- With nothing blocked nothing happens. -/
  | none (hb : k.queues.blocked = []) : Wakes k none [] k
  /-- The process that has been blocked the longest is ready again, and the accounting follows. -/
  | some {pid : Pid} {level : Priority} {k₁ k' : Kernel C} {turn : List (Event C)}
    (hmove : Move k (.woken pid level) k₁) (hsettles : Settles k₁ turn k') :
    Wakes k (some pid) (.woken pid level :: turn) k'

/-- A tick of the first kernel has this outcome, is these events, and leaves the second: a step, the clock, the
accounting. -/
inductive Ticks (source : Source) (k : Kernel C) (outcome : StepOutcome) : List (Event C) → Kernel C → Prop where
  | intro {es turn : List (Event C)} {k₁ k' : Kernel C} (hsteps : Steps source k outcome es k₁)
    (hsettles : Settles { k₁ with clock := k₁.clock + 1 } turn k') : Ticks source k outcome (es ++ .ticked :: turn) k'

/-! ## The paths of operations -/

/-- A step is a path. -/
theorem Steps.path {source : Source} {k k' : Kernel C} {outcome : StepOutcome} {es : List (Event C)}
    (h : Steps source k outcome es k') : Path k es k' := by
  cases h with
  | idle => exact .nil k
  | worked hrun hr hdeed hstays hpath => exact hpath
  | released hrun hr hdeed hleaves hpath hsettles => exact hpath.append hsettles.path

theorem Makes.path {k k' : Kernel C} {priority : Priority} {program : Program} {es : List (Event C)}
    (h : Makes k priority program es k') : Path k es k' := by
  cases h with
  | intro hr hmove hsettles => exact .cons hmove hsettles.path

/-- A wake is a path. -/
theorem Wakes.path {k k' : Kernel C} {woken : Option Pid} {es : List (Event C)} (h : Wakes k woken es k') :
    Path k es k' := by
  cases h with
  | none => exact .nil k
  | some hmove hsettles => exact .cons hmove hsettles.path

theorem Ticks.path {source : Source} {k k' : Kernel C} {outcome : StepOutcome} {es : List (Event C)}
    (h : Ticks source k outcome es k') : Path k es k' := by
  cases h with
  | intro hsteps hsettles => exact hsteps.path.append (.cons .ticked hsettles.path)

namespace Kernel

variable {k : Kernel C}

/-! ## Making a process -/

omit [Machine C] in
theorem file_apply (make : Kernel C → Pid → ProcessRecord C) (k : Kernel C) :
    file make k = .ok k.table.nextPid { k with table := k.table.insert (make k k.table.nextPid) } := rfl

omit [Machine C] in
/-- A new record is ready already, so making it ready only puts it at the tail of its level. -/
theorem makeReady_new {r : ProcessRecord C} {queues : Queues} (hpid : r.pid = k.table.nextPid)
    (hfresh : r.pid ∉ k.table.pids) (hstate : r.state = .ready)
    (hq : k.queues.enqueueReady r.pid r.priority = some queues) :
    makeReady k.table.nextPid { k with table := k.table.insert r } =
      .ok () { k with table := k.table.insert r, queues := queues } := by
  obtain ⟨pid, parent, priority, state, startTime, used, context⟩ := r
  obtain rfl : pid = k.table.nextPid := hpid
  obtain rfl : state = .ready := hstate
  rw [makeReady_ok (k := { k with table := k.table.insert _ }) (by rw [Table.get?_insert, if_pos rfl]) hq]
  congr 2
  refine Table.modify_eq_self fun r hr => ?_
  rw [Table.entries_insert hfresh, List.mem_append, List.mem_singleton] at hr
  rcases hr with hr | hr
  · exact absurd (List.mem_map_of_mem hr) hfresh
  · obtain ⟨-, rfl⟩ := Prod.mk.inj hr
    rfl

/-- A process is made at a level that exists: it is filed under the next number, which is the answer, and the
accounting follows. -/
theorem exists_spawn (hk : k.Consistent) (hn : k.Numbered) {priority : Priority}
    (hlevel : priority.toNat < k.queues.ready.length) (program : Program) :
    ∃ es k', spawn priority program k = .ok k.table.nextPid k' ∧ Makes k priority program es k' := by
  have hfresh := hn.fresh
  obtain ⟨queues, hq⟩ := Queues.exists_enqueueReady hlevel k.table.nextPid
  have hm : Move k _ _ := .filed (.root priority program) hfresh hq
  obtain ⟨turn, k', hsettle, hturn⟩ := exists_settles (hm.consistent hk)
  refine ⟨_, k', ?_, .intro rfl hm hturn⟩
  rw [spawn, bind_ok (file_apply _ k), bind_ok (makeReady_new rfl hfresh rfl hq), bind_ok hsettle]
  rfl

omit [Machine C] in
/-- A level exists exactly if it is below the number of levels. -/
theorem lt_levels_iff (hk : k.Consistent) (priority : Priority) :
    priority < k.queues.levels ↔ priority.toNat < k.queues.ready.length := by
  have hlen : k.queues.ready.length < 256 := Nat.lt_of_le_of_lt hk.levels (by decide)
  rw [UInt8.lt_iff_toNat_lt, Queues.levels, UInt8.toNat_ofNat_of_lt' hlen]

/-- A process is made if its level is one of the kernel's, and refused otherwise. -/
theorem createParsed_apply (priority : Priority) (program : Program) (k : Kernel C) : createParsed priority program k =
    (if priority < k.queues.levels then spawn priority program
      else refuse (.invalidPriority priority k.queues.levels) : Action C Pid) k := by
  unfold createParsed
  exact bind_ok rfl

/-- A process is made at a level that there is. -/
theorem exists_createParsed (hk : k.Consistent) (hn : k.Numbered) {priority : Priority}
    (hlevel : priority < k.queues.levels) (program : Program) :
    ∃ es k', createParsed priority program k = .ok k.table.nextPid k' ∧ Makes k priority program es k' := by
  rw [createParsed_apply, if_pos hlevel]
  exact exists_spawn hk hn ((lt_levels_iff hk priority).mp hlevel) program

theorem createParsed_error {priority : Priority} (hlevel : ¬priority < k.queues.levels) (program : Program) :
    createParsed priority program k = .error (.fault (.invalidPriority priority k.queues.levels)) k := by
  rw [createParsed_apply, if_neg hlevel]
  rfl

/-- A process is made exactly if its level exists; otherwise the level is refused and nothing changes. -/
theorem createParsed_cases (hk : k.Consistent) (hn : k.Numbered) (priority : Priority) (program : Program) :
    (∃ es k', createParsed priority program k = .ok k.table.nextPid k' ∧ Makes k priority program es k') ∨
      createParsed priority program k = .error (.fault (.invalidPriority priority k.queues.levels)) k := by
  by_cases hlevel : priority < k.queues.levels
  · exact .inl (exists_createParsed hk hn hlevel program)
  · exact .inr (createParsed_error hlevel program)

/-- Makes a process of a program that there is, and stops where there is none. -/
def createOrRefuse (priority : Priority) : Except Fault Program → Action C Pid
  | .ok program => createParsed priority program
  | .error fault => refuse fault

/-- Making a process from lines is making one of the program on them. -/
theorem create_eq (priority : Priority) (lines : List String) :
    (create priority lines : Action C Pid) = createOrRefuse priority (Program.parse lines) := by
  rw [create]
  cases Program.parse lines <;> rfl

/-- An operation that makes a process goes by its level and its program only. -/
theorem perform_of_making? {source : Source} {op : Operation} {priority : Priority} {program : Except Fault Program}
    (h : op.making? source = some (priority, program)) :
    (op.perform source : Action C Answer) = Answer.created <$> createOrRefuse priority program := by
  cases op with
  | create p lines =>
    obtain ⟨rfl, rfl⟩ := Prod.mk.inj (Option.some.inj h)
    exact congrArg (Answer.created <$> ·) (create_eq p lines)
  | createFrom p name =>
    revert h
    simp only [Operation.making?, Operation.perform, createFrom]
    cases source name with
    | ok lines =>
      intro h
      obtain ⟨rfl, rfl⟩ := Prod.mk.inj (Option.some.inj h)
      exact congrArg (Answer.created <$> ·) (create_eq p lines)
    | error fault =>
      intro h
      obtain ⟨rfl, rfl⟩ := Prod.mk.inj (Option.some.inj h)
      rfl
  | createParsed p program =>
    obtain ⟨rfl, rfl⟩ := Prod.mk.inj (Option.some.inj h)
    rfl
  | _ => cases h

/-- An operation that makes a process makes it, or is refused and changes nothing. -/
theorem perform_making_cases (hk : k.Consistent) (hn : k.Numbered) {source : Source} {op : Operation}
    {priority : Priority} {program : Except Fault Program} (hop : op.making? source = some (priority, program)) :
    (∃ p es k', program = .ok p ∧ op.perform source k = .ok (.created k.table.nextPid) k' ∧ Makes k priority p es k') ∨
      ∃ fault, op.perform source k = .error (.fault fault) k := by
  rw [perform_of_making? hop]
  cases program with
  | error fault => exact .inr ⟨fault, map_error rfl⟩
  | ok p =>
    rcases createParsed_cases hk hn priority p with ⟨es, k', hok, hmakes⟩ | herr
    · exact .inl ⟨p, es, k', rfl, map_ok hok, hmakes⟩
    · exact .inr ⟨_, map_error herr⟩

/-! ## Steps -/

omit [Machine C] in
theorem releaseRunning_apply (k : Kernel C) :
    releaseRunning k = .ok k.running { k with running := none, executed := none } := rfl

omit [Machine C] in
/-- The running process is erased, and the accounting follows. -/
theorem terminateRunning_ok {k' : Kernel C} {pid : Pid} {r : ProcessRecord C} {running : Option Pid}
    (hr : k.table.get? pid = some r)
    (hsettle : reschedule { k with
      table := k.table.erase pid, running := none, executed := none
      stats := { k.stats with terminations := k.stats.terminations + 1 } } = .ok running k') :
    terminateRunning pid k = .ok () k' := by
  rw [terminateRunning, bind_ok (releaseRunning_apply k),
    bind_ok (require_ok (k := { k with running := none, executed := none }) hr)]
  exact bind_ok hsettle

/-- Ending the running process is a move that an accounting follows. -/
theorem exists_finish (hk : k.Consistent) {pid : Pid} {r : ProcessRecord C} (hrun : k.running = some pid)
    (hr : k.table.get? pid = some r) (reason : EndReason) :
    ∃ k₁ turn k', finish pid reason k = .ok (.terminated pid reason) k' ∧ Move k (.ended pid) k₁ ∧
      Settles k₁ turn k' := by
  have hm : Move k (.ended pid) _ := .ended hrun
  obtain ⟨turn, k', hsettle, hturn⟩ := exists_settles (hm.consistent hk)
  exact ⟨_, turn, k', bind_ok (terminateRunning_ok hr hsettle), hm, hturn⟩

omit [Machine C] in
/-- The running process is moved from the slot to the tail of the blocked queue. -/
theorem blockRunning_ok {pid : Pid} {r : ProcessRecord C} (hrun : k.running = some pid)
    (hr : k.table.get? pid = some r) :
    blockRunning k = .ok (some pid) { k with
      table := k.table.modify pid fun r => { r with state := .blocked }
      queues := k.queues.enqueueBlocked pid, running := none, executed := none
      stats := { k.stats with blocks := k.stats.blocks + 1 } } := by
  rw [blockRunning, bind_ok (releaseRunning_apply k), hrun]
  simp only
  rw [bind_ok (require_ok (k := { k with running := none, executed := none }) hr), bind_ok (amend_apply _ _ _)]
  rfl

/-- A block is a move that an accounting follows. -/
theorem exists_blockStep (hk : k.Consistent) {pid : Pid} {r : ProcessRecord C} (hrun : k.running = some pid)
    (hr : k.table.get? pid = some r) :
    ∃ k₁ turn k', blockStep pid k = .ok (.blocked pid) k' ∧ Move k (.blocked pid) k₁ ∧ Settles k₁ turn k' := by
  have hm : Move k (.blocked pid) _ := .blocked hrun
  obtain ⟨turn, k', hsettle, hturn⟩ := exists_settles (hm.consistent hk)
  refine ⟨_, turn, k', ?_, hm, hturn⟩
  have hr' : (k.table.modify pid (ProcessRecord.mapContext Machine.advance)).get? pid =
      some { r with context := Machine.advance r.context } := by
    rw [Table.get?_modify, if_pos rfl, hr]
    rfl
  have hblock :=
    blockRunning_ok (k := { k with table := k.table.modify pid (ProcessRecord.mapContext Machine.advance) }) hrun hr'
  rw [Table.modify_modify] at hblock
  rw [blockStep, bind_ok (require_ok hr), bind_ok (amend_apply _ _ _), bind_ok hblock]
  exact bind_ok hsettle

omit [Machine C] in
/-- Work is a move. -/
theorem progress_ok {pid : Pid} {r : ProcessRecord C} (hr : k.table.get? pid = some r) (change : C → C) :
    progress pid change k =
      .ok () { k with table := k.table.modify pid (ProcessRecord.mapContext change), executed := some pid } := by
  rw [progress, bind_ok (require_ok hr), bind_ok (amend_apply _ _ _)]
  rfl

/-- A fork files the child under a number that is free, and lets the parent go on. -/
theorem fork_ok {pid : Pid} {r : ProcessRecord C} {queues : Queues} (hr : k.table.get? pid = some r)
    (hne : pid ≠ k.table.nextPid) (hfresh : k.table.nextPid ∉ k.table.pids)
    (hq : k.queues.enqueueReady k.table.nextPid r.priority = some queues) (skip : UInt64) :
    fork pid skip k = .ok k.table.nextPid { k with
      table := (k.table.insert (r.child pid k.table.nextPid k.clock)).modify pid
        (ProcessRecord.mapContext (Machine.skip skip))
      queues := queues, executed := some pid, stats := { k.stats with forks := k.stats.forks + 1 } } := by
  have hr' : (k.table.insert (r.child pid k.table.nextPid k.clock)).get? pid = some r := by
    rw [Table.get?_insert, if_neg hne, hr]
  have hrequire :
      require pid { k with table := k.table.insert (r.child pid k.table.nextPid k.clock), queues := queues } = _ :=
    require_ok hr'
  rw [fork, bind_ok (require_ok hr), bind_ok (file_apply _ k), bind_ok (makeReady_new rfl hfresh rfl hq),
    bind_ok hrequire, bind_ok (amend_apply _ _ _)]
  rfl

/-- A fork is two moves: the child is filed, and the parent goes on. -/
theorem exists_fork (hk : k.Consistent) (hn : k.Numbered) {pid : Pid} {r : ProcessRecord C}
    (hrun : k.running = some pid) (hr : k.table.get? pid = some r) (skip : UInt64) :
    ∃ k', fork pid skip k = .ok k.table.nextPid k' ∧
      Path k [.filed (r.child pid k.table.nextPid k.clock), .worked pid (Machine.skip skip) .fork] k' := by
  have hfresh := hn.fresh
  obtain ⟨queues, hq⟩ := Queues.exists_enqueueReady (hk.standing_of_get? hr).level k.table.nextPid
  have hfiled := Move.filed (.child hrun hr) hfresh hq
  exact ⟨_, fork_ok hr (hn.ne_nextPid hr) hfresh hq skip,
    .cons hfiled (.single (.worked (Machine.skip skip) .fork hrun))⟩

/-- A step executes the next instruction of the running process, if there is one. -/
theorem step_apply (source : Source) (k : Kernel C) :
    step source k = match k.running with
      | none => .ok .idle k
      | some pid =>
        match k.table.get? pid with
        | none => .error (.fault (.missingProcess pid)) k
        | some r =>
          match Machine.next? r.context with
          | none => finish pid .programExhausted k
          | some instruction => execute source pid instruction k := by
  unfold step
  refine (bind_ok rfl).trans ?_
  cases k.running with
  | none => rfl
  | some pid =>
    simp only
    cases hr : k.table.get? pid with
    | none => exact bind_error (by rw [require_apply, hr])
    | some r =>
      rw [bind_ok (require_ok hr)]
      simp only
      cases Machine.next? r.context <;> rfl

section

variable {source : Source} {r : ProcessRecord C}

/-- Work after which the process goes on is a step. -/
theorem exists_worked (hrun : k.running = some r.pid) (hr : k.table.get? r.pid = some r) {change : C → C}
    {outcome : StepOutcome} (hstays : outcome.releases = false)
    (hdeed : Deed source k r outcome [.worked r.pid change .plain]) :
    ∃ o es k', (progress r.pid change >>= fun _ => (pure outcome : Action C StepOutcome)) k = .ok o k' ∧
      Steps source k o es k' := by
  have hm := Move.worked change .plain hrun
  exact ⟨_, _, _, bind_ok (progress_ok hr change), .worked hrun hr hdeed hstays (.single hm)⟩

/-- An end is a step. -/
theorem exists_ended (hk : k.Consistent) (hrun : k.running = some r.pid) (hr : k.table.get? r.pid = some r)
    {reason : EndReason} (hdeed : Deed source k r (.terminated r.pid reason) [.ended r.pid]) :
    ∃ outcome es k', finish r.pid reason k = .ok outcome k' ∧ Steps source k outcome es k' := by
  obtain ⟨k₁, turn, k', hok, hm, hturn⟩ := exists_finish hk hrun hr reason
  exact ⟨_, _, k', hok, .released hrun hr hdeed rfl (.single hm) hturn⟩

/-- A replacement is work if the program loads or is not there, and an end if it does not parse. -/
theorem exists_replaceProgram (hk : k.Consistent) (hrun : k.running = some r.pid) (hr : k.table.get? r.pid = some r)
    {name : String} (hi : Machine.next? r.context = some (.replace name)) :
    ∃ outcome es k', replaceProgram source r.pid name k = .ok outcome k' ∧ Steps source k outcome es k' := by
  unfold replaceProgram
  cases hload : source name with
  | error fault => exact exists_worked hrun hr rfl (.unavailable hi hload)
  | ok lines =>
    simp only
    cases hparse : Program.parse lines with
    | error fault => exact exists_ended hk hrun hr (.faulted hi hload hparse)
    | ok program =>
      have hm := Move.worked (Machine.load program) .replacement hrun
      exact ⟨_, _, _, bind_ok (progress_ok hr _), .worked hrun hr (.replaced hi hload hparse) rfl (.single hm)⟩

/-- Executing the next instruction of the running process is a step. -/
theorem exists_execute (hk : k.Consistent) (hn : k.Numbered) (hrun : k.running = some r.pid)
    (hr : k.table.get? r.pid = some r) {instruction : Instruction} (hi : Machine.next? r.context = some instruction) :
    ∃ outcome es k', execute source r.pid instruction k = .ok outcome k' ∧ Steps source k outcome es k' := by
  cases instruction with
  | set v => exact exists_worked hrun hr rfl (.set hi)
  | add v => exact exists_worked hrun hr rfl (.add hi)
  | sub v => exact exists_worked hrun hr rfl (.sub hi)
  | block =>
    obtain ⟨k₁, turn, k', hok, hm, hturn⟩ := exists_blockStep hk hrun hr
    exact ⟨_, _, k', hok, .released hrun hr (.block hi) rfl (.single hm) hturn⟩
  | exit => exact exists_ended hk hrun hr (.exit hi)
  | fork skip =>
    obtain ⟨k', hok, hpath⟩ := exists_fork hk hn hrun hr skip
    exact ⟨_, _, k', bind_ok hok, .worked hrun hr (.fork hi) rfl hpath⟩
  | replace name => exact exists_replaceProgram hk hrun hr hi

end

/-- A step of a consistent kernel never fails. -/
theorem exists_steps (hk : k.Consistent) (hn : k.Numbered) (source : Source) :
    ∃ outcome es k', step source k = .ok outcome k' ∧ Steps source k outcome es k' := by
  cases hrun : k.running with
  | none => exact ⟨.idle, [], k, by simp only [step_apply, hrun], .idle hrun⟩
  | some pid =>
    obtain ⟨r, hr⟩ := hk.exists_running hrun
    obtain rfl : r.pid = pid := (hk.standing_of_get? hr).keyed
    simp only [step_apply, hrun, hr]
    cases hi : Machine.next? r.context with
    | none => exact exists_ended hk hrun hr (.exhausted hi)
    | some instruction => exact exists_execute hk hn hrun hr hi

/-! ## Waking and ticking -/

omit [Machine C] in
/-- The head of the blocked queue, if it has one, is made ready. -/
theorem unblock_apply (k : Kernel C) : unblock k = match k.queues.dequeueBlocked with
    | none => .ok none k
    | some (pid, queues) => (do
      makeReady pid
      count fun s => { s with wakes := s.wakes + 1 }
      return some pid : Action C (Option Pid)) { k with queues := queues } := by
  unfold unblock
  refine (bind_ok rfl).trans ?_
  cases k.queues.dequeueBlocked <;> rfl

omit [Machine C] in
theorem unblock_none (hb : k.queues.blocked = []) : unblock k = .ok none k := by
  rw [unblock_apply, (Queues.dequeueBlocked_eq_none_iff _).mpr hb]

omit [Machine C] in
/-- The head of the blocked queue is woken. -/
theorem unblock_some {pid : Pid} {r : ProcessRecord C} {left queues : Queues}
    (hd : k.queues.dequeueBlocked = some (pid, left)) (hr : k.table.get? pid = some r)
    (hq : left.enqueueReady pid r.priority = some queues) :
    unblock k = .ok (some pid) { k with
      table := k.table.modify pid fun r => { r with state := .ready }
      queues := queues, stats := { k.stats with wakes := k.stats.wakes + 1 } } := by
  rw [unblock_apply, hd]
  exact bind_ok (makeReady_ok (k := { k with queues := left }) hr hq)

/-- Where somebody is blocked, the one that has been blocked the longest moves to the tail of its level. -/
theorem exists_unblock (hk : k.Consistent) {pid : Pid} {rest : List Pid} (hb : k.queues.blocked = pid :: rest) :
    ∃ r k₁, k.table.get? pid = some r ∧ unblock k = .ok (some pid) k₁ ∧ Move k (.woken pid r.priority) k₁ ∧
      k₁.queues.blocked = rest ∧
      ∀ l, k₁.queues.readyAt l = if l = r.priority then k.queues.readyAt l ++ [pid] else k.queues.readyAt l := by
  have hd : k.queues.dequeueBlocked = some (pid, { k.queues with blocked := rest }) :=
    Queues.dequeueBlocked_eq_some_iff.mpr ⟨hb, rfl⟩
  have hmem : pid ∈ k.queues.blocked := hb ▸ List.mem_cons_self
  obtain ⟨r, hr⟩ := hk.exists_blocked hmem
  obtain ⟨queues, hq⟩ :=
    Queues.exists_enqueueReady (q := { k.queues with blocked := rest }) (hk.standing_of_get? hr).level pid
  have hjoins := Queues.joins_of_enqueueReady hq
  exact ⟨r, _, hr, unblock_some hd hr hq, .woken hd hr hq, hjoins.blocked, hjoins.readyAt⟩

/-- A wake of a consistent kernel never fails. -/
theorem exists_wakes (hk : k.Consistent) : ∃ woken es k', wake k = .ok woken k' ∧ Wakes k woken es k' := by
  cases hb : k.queues.blocked with
  | nil => exact ⟨none, [], k, bind_ok (unblock_none hb), .none hb⟩
  | cons pid rest =>
    obtain ⟨r, k₁, -, hunblock, hm, -, -⟩ := exists_unblock hk hb
    obtain ⟨turn, k', hsettle, hturn⟩ := exists_settles (hm.consistent hk)
    exact ⟨some pid, _, k', (bind_ok hunblock).trans (bind_ok hsettle), .some hm hturn⟩

/-- A tick is a step and the accounting after it. -/
theorem tick_of_parts {source : Source} {k k₁ k' : Kernel C} {outcome : StepOutcome} {running : Option Pid}
    (hstep : step source k = .ok outcome k₁) (hsettle : reschedule { k₁ with clock := k₁.clock + 1 } = .ok running k') :
    Session.tick source k = .ok outcome k' := by
  rw [Session.tick, bind_ok hstep, bind_ok (advanceClock_apply k₁), bind_ok hsettle]
  rfl

/-- A tick of a consistent kernel never fails. -/
theorem exists_ticks (hk : k.Consistent) (hn : k.Numbered) (source : Source) :
    ∃ outcome es k', Session.tick source k = .ok outcome k' ∧ Ticks source k outcome es k' := by
  obtain ⟨outcome, es, k₁, hstep, hsteps⟩ := exists_steps hk hn source
  have hm : Move k₁ .ticked _ := .ticked
  obtain ⟨turn, k', hsettle, hturn⟩ := exists_settles (hm.consistent (hsteps.path.consistent hk))
  exact ⟨outcome, _, k', tick_of_parts hstep hsettle, .intro hsteps hturn⟩

end Kernel
end Timeshare
