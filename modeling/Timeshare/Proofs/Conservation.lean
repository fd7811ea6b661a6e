import Timeshare.Proofs.Balance
import Timeshare.Proofs.Faults
import Timeshare.Proofs.Work

/-!
# Work is conserved

While no process can start another program, the steps that were done and those that are left are together the work of
the programs that were started from outside, whatever was asked of the kernel and in whatever order
(`Session.work_conserved`). So where nothing blocks, the ticks that are not idle come first and are as many as that
work, and the last of them leaves no process.
-/

namespace Timeshare

/-! ## What runs start, and what they do -/

namespace Exchange

/-- The program that a process was made for from outside. -/
def founded? (source : Source) (x : Exchange) : Option Program :=
  match x.request, x.created? with
  | .operation op, some _ => (op.making? source).bind fun making => making.2.toOption
  | _, _ => none

/-- The programs that processes were made for from outside. -/
def programs (source : Source) (xs : List Exchange) : List Program := xs.filterMap (founded? source)

/-- The work of the programs that processes were made for from outside. -/
def totalWork (source : Source) (xs : List Exchange) : Nat :=
  ((programs source xs).map fun program => program.work source 0).sum

/-- The number of steps that were not idle. -/
def busy (xs : List Exchange) : Nat := xs.countP fun x => x.outcome?.any (· ≠ .idle)

/-- What the instructions of ticks did, one after the other. -/
def tickOutcomes (xs : List Exchange) : List StepOutcome := xs.filterMap ticked?

theorem tickOutcomes_append_singleton (xs : List Exchange) (x : Exchange) :
    tickOutcomes (xs ++ [x]) = tickOutcomes xs ++ x.ticked?.toList := by
  rw [tickOutcomes, List.filterMap_append, List.filterMap_cons, tickOutcomes]
  cases x.ticked? <;> rfl

theorem programs_append (source : Source) (xs ys : List Exchange) :
    programs source (xs ++ ys) = programs source xs ++ programs source ys :=
  List.filterMap_append

theorem totalWork_append (source : Source) (xs ys : List Exchange) :
    totalWork source (xs ++ ys) = totalWork source xs + totalWork source ys := by
  rw [totalWork, programs_append, List.map_append, List.sum_append, totalWork, totalWork]

theorem busy_append (xs ys : List Exchange) : busy (xs ++ ys) = busy xs + busy ys := List.countP_append

theorem busy_singleton (x : Exchange) : busy [x] = if x.outcome?.any (· ≠ .idle) then 1 else 0 := List.countP_singleton

end Exchange

section

variable {source : Source} {k k' : Kernel Context} {request : Request} {answer : Except Halt Response}
    {es : List (Event Context)}

/-- An exchange makes a process from outside, whose work is left then, or it does a step of those that are left or
none. -/
theorem Course.remaining (h : Course source k request answer es k') (hk : k.Sound)
    (hself : k.AllRun (Program.SelfContained source)) :
    (∃ op priority program pid, request = .operation op ∧ op.making? source = some (priority, .ok program) ∧
      answer = .ok (.answered (.created pid)) ∧ k'.remaining source = k.remaining source + program.work source 0) ∨
    (answer.toOption.bind Response.created? = none ∧
      k'.remaining source + (if (answer.toOption.bind Response.outcome?).any (· ≠ .idle) then 1 else 0) =
        k.remaining source) := by
  have hstill : answer.toOption.bind Response.outcome? = none → k'.remaining source = k.remaining source →
      k'.remaining source + (if (answer.toOption.bind Response.outcome?).any (· ≠ .idle) then 1 else 0) =
        k.remaining source := by
    intro houtcome hsame
    rw [houtcome]
    exact hsame
  have hstep : ∀ {outcome es₁ k₁}, answer.toOption.bind Response.outcome? = some outcome →
    Steps source k outcome es₁ k₁ →
      k'.remaining source = k₁.remaining source →
      k'.remaining source + (if (answer.toOption.bind Response.outcome?).any (· ≠ .idle) then 1 else 0) =
        k.remaining source := by
    intro outcome es₁ k₁ houtcome hsteps hrest
    rw [houtcome, hrest, ← hsteps.remaining hk hself]
    by_cases h : outcome = .idle <;> simp [h]
  cases h with
  | made hop hmakes => exact .inl ⟨_, _, _, _, rfl, hop, rfl, hmakes.weight _ hk.consistent⟩
  | stepped hsteps => exact .inr ⟨rfl, hstep rfl hsteps rfl⟩
  | scheduled hsettles => exact .inr ⟨rfl, hstill rfl (hsettles.weight _ hk.consistent)⟩
  | woken hwakes => exact .inr ⟨rfl, hstill rfl (hwakes.weight _ hk.consistent)⟩
  | advanced => exact .inr ⟨rfl, hstill rfl rfl⟩
  | ticked hticks =>
    cases hticks with
    | @intro es turn k₁ _ hsteps hsettles =>
      have hconsistent : Kernel.Consistent { k₁ with clock := k₁.clock + 1 } :=
        Move.ticked.consistent (hsteps.path.consistent hk.consistent)
      exact .inr ⟨rfl, hstep rfl hsteps (hsettles.weight _ hconsistent)⟩
  | wokenReply hwakes => exact .inr ⟨rfl, hstill rfl (hwakes.weight _ hk.consistent)⟩
  | quiet hquiet => rcases hquiet with ⟨_, rfl⟩ | ⟨_, rfl⟩ | ⟨_, rfl⟩ | rfl <;> exact .inr ⟨rfl, hstill rfl rfl⟩

/-- Where nobody is blocked, the slot is empty exactly if there is no process. -/
theorem Kernel.Sound.running_eq_none_iff (hk : k.Sound) (hb : k.queues.blocked = []) :
    k.running = none ↔ k.table.entries = [] := by
  have hplaced := hk.consistent.placed
  constructor
  · intro hrun
    rw [places_of_idle hrun, hk.filled hrun, hb] at hplaced
    exact List.map_eq_nil_iff.mp hplaced.nil_eq.symm
  · intro hentries
    rw [Table.pids, hentries] at hplaced
    cases hrun : k.running with
    | none => rfl
    | some pid =>
      rw [places_of_running hrun] at hplaced
      exact absurd hplaced.eq_nil (List.cons_ne_nil _ _)

/-- In a run that is driven by commands no step is done but in ticks. -/
theorem Course.outcome_eq_ticked (h : Course source k request answer es k') (hrequest : request.commanded = true) :
    answer.toOption.bind Response.outcome? = answer.toOption.bind Response.ticked? := by
  cases h with
  | made => rfl
  | ticked => rfl
  | wokenReply => rfl
  | quiet hquiet => rcases hquiet with ⟨_, rfl⟩ | ⟨_, rfl⟩ | ⟨_, rfl⟩ | rfl <;> rfl
  | _ => cases hrequest

end

namespace Session

variable {source : Source}

namespace Takes

variable {s : Session} {request : Request} {es : List (Event Context)}

/-- Where no process can start another program, the processes after an exchange run the programs that those before it
ran, or the one that was started in it. -/
theorem allRun (ht : s.Takes source request es) {P : Program → Prop}
    (hP : ∀ program, P program → program.SelfContained source) (hall : s.kernel.AllRun P)
    (hfounded : ∀ program ∈ Exchange.programs source [s.exchange source request], P program) :
    (s.exchange source request).after.kernel.AllRun P := by
  intro pid c hc
  by_cases hborn : (s.exchange source request).born? = some pid
  · obtain ⟨-, c', hbears⟩ := ht.exists_bears hborn
    obtain rfl : c' = c := Option.some.inj ((ht.compute_born hbears).2.symm.trans hc)
    cases hbears with
    | root hrequest hmaking hanswer =>
      refine hfounded _ (List.mem_filterMap.mpr ⟨_, List.mem_singleton_self _, ?_⟩)
      rw [Exchange.founded?, hrequest, Exchange.created?, hanswer]
      simp only [Except.toOption, Option.bind_some, Response.created?, hmaking]
    | child houtcome hparent =>
      rw [(exchange_before source s request).1] at hparent
      have hparent' := hall _ _ hparent
      exact hparent'
  · by_cases hx : (s.exchange source request).executing? = some pid
    · obtain ⟨c', hc', hself, -⟩ := ht.compute_self hx
      rw [hself] at hc
      have halone : c'.alone source = .ok c := by
        cases h : c'.alone source with
        | ok c₁ =>
          rw [h] at hc
          exact congrArg Except.ok (Option.some.inj hc)
        | error reason =>
          rw [h] at hc
          cases hc
      rw [Context.program_of_alone (hP _ (hall _ _ hc')) halone]
      exact hall _ _ hc'
    · rw [ht.compute_other hx hborn] at hc
      exact hall _ _ hc

/-- What is done in an exchange is no longer left, and what is started in it is left after it. -/
theorem remaining (ht : s.Takes source request es) (hself : s.kernel.AllRun (Program.SelfContained source)) :
    Exchange.busy [s.exchange source request] + (s.exchange source request).after.kernel.remaining source =
      s.kernel.remaining source + Exchange.totalWork source [s.exchange source request] := by
  have hrequest := (exchange_before source s request).2
  rw [Exchange.busy_singleton, Exchange.totalWork, Exchange.programs, List.filterMap_cons, Exchange.founded?,
    Exchange.created?, Exchange.outcome?, hrequest]
  rcases ht.course.remaining ht.before hself with ⟨op, priority, program, pid, rfl, hop, hanswer, hleft⟩
    | ⟨hcreated, hleft⟩
  · rw [hanswer, hleft]
    simp [Except.toOption, Response.created?, Response.outcome?, hop]
  · rw [hcreated, ← hleft]
    simp [Nat.add_comm]

end Takes

/-! ## Runs that start with all their processes -/

variable {s : Session}

/-- A request that makes a process does no step, and leaves the session as it is. -/
theorem exchange_making {op : Operation} (hop : (op.making? source).isSome = true) :
    (s.exchange source (.operation op)).outcome? = none ∧ (s.exchange source (.operation op)).ticked? = none ∧
      (s.exchange source (.operation op)).after.shutDown = s.shutDown := by
  obtain ⟨create, hcreate⟩ : ∃ create : Action Context Pid, op.perform source = Answer.created <$> create := by
    cases op with
    | create priority lines => exact ⟨_, rfl⟩
    | createFrom priority name => exact ⟨_, rfl⟩
    | createParsed priority program => exact ⟨_, rfl⟩
    | _ => cases hop
  cases hp : create s.kernel with
  | ok pid k' =>
    have hperform : op.perform source s.kernel = .ok (.created pid) k' := by rw [hcreate, Action.map_ok hp]
    have hrequest : Request.perform source (.operation op) s = .ok (.answered (.created pid)) { s with kernel := k' } :=
      Action.map_ok (onKernel_ok hperform)
    rw [exchange_ok hrequest]
    exact ⟨rfl, rfl, rfl⟩
  | error halt k' =>
    have hperform : op.perform source s.kernel = .error halt k' := by rw [hcreate, Action.map_error hp]
    have hrequest : Request.perform source (.operation op) s = .error halt { s with kernel := k' } :=
      Action.map_error (onKernel_error hperform)
    rw [exchange_error hrequest]
    exact ⟨rfl, rfl, rfl⟩

/-- A command that is not the last one is carried out, and the session goes on. -/
theorem exchange_command (hs : s.kernel.Sound) (hdown : s.shutDown = false) {c : Command} (hc : c ≠ .shutdown) :
    (s.exchange source (.command c)).after.shutDown = false ∧
      ((s.exchange source (.command c)).ticked?.isSome = true ↔ c = .tick) := by
  obtain ⟨reply, s', hd, hend, htick⟩ := exists_dispatch_ok hs hdown source c
  have hrequest : Request.perform source (.command c) s = .ok (.replied reply) s' := Action.map_ok hd
  rw [exchange_ok hrequest]
  exact ⟨Bool.eq_false_iff.mpr fun h => hc (hend.mp h), htick⟩

/-- Where no program has a block, nobody blocks. -/
theorem Takes.outcome_ne_blocked {request : Request} {es : List (Event Context)} (ht : s.Takes source request es)
    (hall : s.kernel.AllRun (.block ∉ ·)) (pid : Pid) : (s.exchange source request).outcome? ≠ some (.blocked pid) := by
  intro houtcome
  obtain ⟨c, hc, hi, -⟩ := ht.course.block ht.before houtcome
  exact hall pid c hc (List.mem_of_getElem? hi)

/-- An exchange in which nobody blocks leaves nobody blocked if nobody was blocked before. -/
theorem Takes.unblocked {request : Request} {es : List (Event Context)} (ht : s.Takes source request es)
    (hx : ∀ pid, (s.exchange source request).outcome? ≠ some (.blocked pid)) (hb : s.kernel.queues.blocked = []) :
    (s.exchange source request).after.kernel.queues.blocked = [] := by
  have hnone : Event.count .blocks es = 0 := by
    rw [ht.course.count rfl, if_neg]
    intro hcounter
    obtain ⟨outcome, houtcome, hblocks⟩ := Option.bind_eq_some_iff.mp hcounter
    cases outcome with
    | blocked pid => exact hx pid houtcome
    | _ => cases hblocks
  have hflow := (ht.course.path.flows ht.before.consistent).blocked
  rw [hnone, Queues.blockedCount, hb, Queues.blockedCount, List.length_nil] at hflow
  exact List.eq_nil_of_length_eq_zero (by omega)

/-- So much work was left to a run of commands on processes that neither block nor start other programs: the session
goes on, each tick so far has done a part of that work, and those after its end were idle. -/
structure Draining (source : Source) (work : Nat) (xs : List Exchange) (s : Session) : Prop where
  goesOn : s.shutDown = false
  programs : s.kernel.AllRun fun program => program.SelfContained source ∧ .block ∉ program
  unblocked : s.kernel.queues.blocked = []
  left : s.kernel.remaining source = work - (Exchange.tickOutcomes xs).length
  outcomes : ∀ i outcome, (Exchange.tickOutcomes xs)[i]? = some outcome → (outcome = .idle ↔ work ≤ i)

section

variable {c : Command} {es : List (Event Context)} {work : Nat} {xs : List Exchange}

/-- A command makes no process from outside. -/
theorem programs_command (source : Source) (s : Session) (c : Command) :
    Exchange.programs source [s.exchange source (.command c)] = [] := by
  rw [Exchange.programs, List.filterMap_cons, Exchange.founded?, (exchange_before source s _).2]
  rfl

/-- A run of commands makes no process from outside. -/
theorem programs_commands {newer : List (Source × Request)}
    (hnewer : ∀ asked ∈ newer, ∃ c, asked = (source, .command c)) :
    Exchange.programs source (s.exchanges newer) = [] := by
  induction newer generalizing s with
  | nil => rfl
  | cons asked newer ih =>
    rw [List.forall_mem_cons] at hnewer
    obtain ⟨⟨c, rfl⟩, hrest⟩ := hnewer
    rw [exchanges, ← List.singleton_append, Exchange.programs_append, programs_command, ih hrest]
    rfl

/-- In a run of commands a tick is idle exactly if no work is left. -/
theorem Draining.idle_iff (hd : Draining source work xs s) (ht : s.Takes source (.command c) es) {outcome : StepOutcome}
    (h : (s.exchange source (.command c)).ticked? = some outcome) :
    outcome = .idle ↔ work ≤ (Exchange.tickOutcomes xs).length := by
  have houtcome := (ht.course.outcome_eq_ticked rfl).trans h
  rw [ht.course.idle_iff houtcome, ht.before.running_eq_none_iff hd.unblocked, ← Kernel.remaining_eq_zero_iff, hd.left,
    Nat.sub_eq_zero_iff_le]

/-- In a run of commands every tick does a part of the work that is left, until none is. -/
theorem Draining.left_after (hd : Draining source work xs s) (ht : s.Takes source (.command c) es) :
    (s.exchange source (.command c)).after.kernel.remaining source =
      work - (Exchange.tickOutcomes (xs ++ [s.exchange source (.command c)])).length := by
  have hleft := ht.remaining fun pid context h => (hd.programs pid context h).1
  have houtcome : (s.exchange source (.command c)).outcome? = (s.exchange source (.command c)).ticked? :=
    ht.course.outcome_eq_ticked rfl
  rw [Exchange.totalWork, programs_command, List.map_nil, List.sum_nil, Exchange.busy_singleton, hd.left,
    houtcome] at hleft
  rw [Exchange.tickOutcomes_append_singleton, List.length_append]
  cases hticked : (s.exchange source (.command c)).ticked? with
  | none =>
    rw [hticked] at hleft
    simpa using hleft
  | some outcome =>
    have hidle := hd.idle_iff ht hticked
    rw [hticked] at hleft
    by_cases h : outcome = .idle
    · simp only [h, Option.any_some, ne_eq, not_true_eq_false, decide_false, Bool.false_eq_true, if_false,
        true_iff] at hleft hidle
      simp only [Option.toList_some, List.length_singleton]
      omega
    · simp only [h, Option.any_some, ne_eq, not_false_eq_true, decide_true, if_true, false_iff] at hleft hidle
      simp only [Option.toList_some, List.length_singleton]
      omega

/-- A run of commands goes on so with every command but the last one. -/
theorem Draining.next (hd : Draining source work xs s) (ht : s.Takes source (.command c) es) (hc : c ≠ .shutdown) :
    Draining source work (xs ++ [s.exchange source (.command c)]) (s.exchange source (.command c)).after where
  goesOn := (exchange_command ht.before hd.goesOn hc).1
  programs := by
    refine ht.allRun (fun _ h => h.1) hd.programs ?_
    rw [programs_command]
    exact fun program h => absurd h List.not_mem_nil
  unblocked := ht.unblocked (ht.outcome_ne_blocked fun pid context h => (hd.programs pid context h).2) hd.unblocked
  left := hd.left_after ht
  outcomes := by
    intro i outcome hi
    rw [Exchange.tickOutcomes_append_singleton, List.getElem?_append] at hi
    split at hi
    · exact hd.outcomes i outcome hi
    · rename_i hlast
      cases hticked : (s.exchange source (.command c)).ticked? with
      | none =>
        rw [hticked] at hi
        cases hi
      | some last =>
        rw [hticked, Option.toList_some, List.getElem?_singleton] at hi
        split at hi
        · obtain rfl := Option.some.inj hi
          rw [hd.idle_iff ht hticked]
          omega
        · cases hi

/-- A run of commands goes on so to its end, and carries out every tick. -/
theorem Draining.after (hs : s.kernel.Sound) (hd : Draining source work [] s) {newer : List (Source × Request)}
    (hnewer : ∀ asked ∈ newer, ∃ c, asked = (source, .command c) ∧ c ≠ .shutdown)
    (hroom : s.kernel.table.nextPid.toNat + Exchange.births (s.exchanges newer) < UInt32.size) :
    Draining source work (s.exchanges newer) (s.after newer) ∧
      (Exchange.tickOutcomes (s.exchanges newer)).length = newer.countP fun asked => asked.2 = .command .tick := by
  have hrun := run_invariant (P := fun xs s' => Draining source work xs s' ∧
    (Exchange.tickOutcomes xs).length = xs.countP fun x => x.request = .command .tick) hs ⟨hd, rfl⟩ ?_ hroom
  · refine ⟨hrun.1.1, hrun.1.2.trans ?_⟩
    have hrequests :=
      congrArg (List.countP fun request => decide (request = .command .tick)) (exchanges_requests s newer)
    rw [List.countP_map, List.countP_map] at hrequests
    exact hrequests
  · rintro xs s' source' request es hmem ht ⟨hd', hcount⟩
    obtain ⟨c, heq, hc⟩ := hnewer _ hmem
    obtain ⟨rfl, rfl⟩ := Prod.mk.inj heq
    refine ⟨hd'.next ht hc, ?_⟩
    have htick : (s'.exchange source' (.command c)).ticked?.isSome = true ↔ c = .tick :=
      (exchange_command ht.before hd'.goesOn hc).2
    rw [Exchange.tickOutcomes_append_singleton, List.length_append, hcount, List.countP_append, List.countP_singleton,
      (exchange_before source' s' _).2]
    congr 1
    cases hticked : (s'.exchange source' (.command c)).ticked? with
    | none => simpa [hticked] using htick
    | some outcome => simpa [hticked] using htick

end

section

variable {levels : UInt8} {k : Kernel Context}

/-- In a run of a kernel since it booted in which no process can start another program, what is done is no longer
left, and what is started is left. -/
theorem remaining_after (hboot : Kernel.boot levels = .ok k) {P : Program → Prop}
    (hP : ∀ program, P program → program.SelfContained source) {requests : List (Source × Request)}
    (hsource : ∀ asked ∈ requests, asked.1 = source)
    (hroom : Exchange.births (exchanges { kernel := k } requests) < UInt32.size)
    (hprograms : ∀ program ∈ Exchange.programs source (exchanges { kernel := k } requests), P program) :
    (after { kernel := k } requests).kernel.AllRun P ∧
      Exchange.busy (exchanges { kernel := k } requests) + (after { kernel := k } requests).kernel.remaining source =
        Exchange.totalWork source (exchanges { kernel := k } requests) := by
  refine (run_invariant_of_boot (P := fun xs s => (∀ program ∈ Exchange.programs source xs, P program) →
    s.kernel.AllRun P ∧
    Exchange.busy xs + s.kernel.remaining source = Exchange.totalWork source xs) hboot ?_ ?_ hroom).1 hprograms
  · rw [(Kernel.boot_eq_ok_iff.mp hboot).2]
    intro _
    refine ⟨fun pid c hc => ?_, rfl⟩
    cases hc
  · rintro xs s source' request es hmem ht hxs hprograms'
    obtain rfl : source' = source := hsource _ hmem
    rw [Exchange.programs_append, List.forall_mem_append] at hprograms'
    obtain ⟨hall, hleft⟩ := hxs hprograms'.1
    refine ⟨ht.allRun hP hall hprograms'.2, ?_⟩
    have hone := ht.remaining fun pid c hc => hP _ (hall pid c hc)
    rw [Exchange.busy_append, Exchange.totalWork_append]
    omega

/-- In a run that is driven by commands, steps are done in ticks only. -/
theorem busy_eq (hboot : Kernel.boot levels = .ok k) {requests : List (Source × Request)}
    (hcommanded : ∀ asked ∈ requests, asked.2.commanded = true)
    (hroom : Exchange.births (exchanges { kernel := k } requests) < UInt32.size) :
    Exchange.busy (exchanges { kernel := k } requests) =
      (Exchange.tickOutcomes (exchanges { kernel := k } requests)).countP (· ≠ .idle) := by
  rw [Exchange.busy, Exchange.tickOutcomes, List.countP_filterMap]
  refine List.countP_congr fun x hx => ?_
  obtain ⟨older, newer, hsplit⟩ := List.append_of_mem hx
  obtain ⟨before, source, request, rest, es, rfl, -, rfl, -, ht, -, -⟩ := takes_of_split hboot hroom hsplit
  have houtcome : ((after { kernel := k } before).exchange source request).outcome? =
      ((after { kernel := k } before).exchange source request).ticked? :=
    ht.course.outcome_eq_ticked (hcommanded _ (List.mem_append_right _ List.mem_cons_self))
  rw [houtcome]
  cases ((after { kernel := k } before).exchange source request).ticked? <;> simp

section

variable {older newer : List (Source × Request)}

/-- While processes are made nobody blocks, no step is done and the session goes on. -/
theorem founded_after (hboot : Kernel.boot levels = .ok k)
    (holder : ∀ asked ∈ older, ∃ op, asked = (source, .operation op) ∧ (op.making? source).isSome = true)
    (hroom : Exchange.births (exchanges { kernel := k } older) < UInt32.size) :
    (after { kernel := k } older).shutDown = false ∧ (after { kernel := k } older).kernel.queues.blocked = [] ∧
      Exchange.tickOutcomes (exchanges { kernel := k } older) = [] ∧
        Exchange.busy (exchanges { kernel := k } older) = 0 := by
  refine (run_invariant_of_boot (P := fun xs s => s.shutDown = false ∧ s.kernel.queues.blocked = [] ∧
    Exchange.tickOutcomes xs = [] ∧ Exchange.busy xs = 0) hboot ?_ ?_ hroom).1
  · rw [(Kernel.boot_eq_ok_iff.mp hboot).2]
    exact ⟨rfl, rfl, rfl, rfl⟩
  · rintro xs s source' request es hmem ht ⟨hdown, hb, houtcomes, hbusy⟩
    obtain ⟨op, heq, hop⟩ := holder _ hmem
    obtain ⟨rfl, rfl⟩ := Prod.mk.inj heq
    obtain ⟨houtcome, hticked, hdown'⟩ := exchange_making (s := s) hop
    refine ⟨hdown'.trans hdown, ht.unblocked (fun pid h => ?_) hb, ?_, ?_⟩
    · cases houtcome.symm.trans h
    · rw [Exchange.tickOutcomes_append_singleton, houtcomes, hticked]
      rfl
    · rw [Exchange.busy_append, hbusy, Exchange.busy_singleton, houtcome]
      rfl

/-- Processes that were made, and that can neither block nor start other programs, have their work left to them. -/
theorem draining_of_founded (hboot : Kernel.boot levels = .ok k)
    (holder : ∀ asked ∈ older, ∃ op, asked = (source, .operation op) ∧ (op.making? source).isSome = true)
    (hroom : Exchange.births (exchanges { kernel := k } older) < UInt32.size)
    (hprograms : ∀ program ∈ Exchange.programs source (exchanges { kernel := k } older),
      program.SelfContained source ∧ .block ∉ program) :
    Draining source (Exchange.totalWork source (exchanges { kernel := k } older)) [] (after { kernel := k } older) := by
  obtain ⟨hdown, hb, -, hbusy⟩ := founded_after hboot holder hroom
  have hsource : ∀ asked ∈ older, asked.1 = source := by
    intro asked hasked
    obtain ⟨op, rfl, -⟩ := holder asked hasked
    rfl
  obtain ⟨hall, hleft⟩ := remaining_after hboot (fun _ h => h.1) hsource hroom hprograms
  rw [hbusy, Nat.zero_add] at hleft
  exact ⟨hdown, hall, hb, hleft, fun i outcome h => by cases h⟩

/-- Where all processes are made first, none of which can block or start another program, every tick is carried out,
is idle exactly if the work was done before, and leaves no process exactly if it is done then. -/
theorem drained_after (hboot : Kernel.boot levels = .ok k)
    (holder : ∀ asked ∈ older, ∃ op, asked = (source, .operation op) ∧ (op.making? source).isSome = true)
    (hnewer : ∀ asked ∈ newer, ∃ c, asked = (source, .command c) ∧ c ≠ .shutdown)
    (hroom : Exchange.births (exchanges { kernel := k } (older ++ newer)) < UInt32.size)
    (hprograms : ∀ program ∈ Exchange.programs source (exchanges { kernel := k } (older ++ newer)),
      program.SelfContained source ∧ .block ∉ program) :
    (Exchange.tickOutcomes (exchanges { kernel := k } (older ++ newer))).length =
      newer.countP (fun asked => asked.2 = .command .tick) ∧
    (∀ i outcome, (Exchange.tickOutcomes (exchanges { kernel := k } (older ++ newer)))[i]? = some outcome →
      (outcome = .idle ↔ Exchange.totalWork source (exchanges { kernel := k } (older ++ newer)) ≤ i)) ∧
    ((after { kernel := k } (older ++ newer)).kernel.table.entries = [] ↔
      Exchange.totalWork source (exchanges { kernel := k } (older ++ newer)) ≤
        (Exchange.tickOutcomes (exchanges { kernel := k } (older ++ newer))).length) := by
  rw [exchanges_append] at hroom hprograms ⊢
  rw [births_append] at hroom
  rw [Exchange.programs_append, List.forall_mem_append] at hprograms
  have hroom' : Exchange.births (exchanges { kernel := k } older) < UInt32.size := by omega
  obtain ⟨hsound, hnext⟩ := sound_after hboot hroom'
  have houtcomes := (founded_after hboot holder hroom').2.2.1
  have hwork : Exchange.totalWork source ((after { kernel := k } older).exchanges newer) = 0 := by
    rw [Exchange.totalWork, programs_commands fun asked h => (hnewer asked h).imp fun _ hc => hc.1]
    rfl
  obtain ⟨hd, hcount⟩ := (draining_of_founded hboot holder hroom' hprograms.1).after hsound hnewer (by omega)
  have hticks :
    Exchange.tickOutcomes (exchanges { kernel := k } older ++ (after { kernel := k } older).exchanges newer) =
      Exchange.tickOutcomes ((after { kernel := k } older).exchanges newer) := by
    rw [Exchange.tickOutcomes, List.filterMap_append, ← Exchange.tickOutcomes, houtcomes]
    rfl
  rw [hticks, after_append, Exchange.totalWork_append, hwork, Nat.add_zero]
  refine ⟨hcount, hd.outcomes, ?_⟩
  rw [← Kernel.remaining_eq_zero_iff, hd.left, Nat.sub_eq_zero_iff_le]

end

/-- In every run of a kernel since it booted in which only such processes are made that cannot start other programs,
the steps that were done and those that are left are together the work of the programs that were started from outside;
where the run is driven by commands, the steps are those of ticks. So if all processes are made first, none of which
can block: every tick is carried out, as many ticks as there was work to do are not idle and all others come after
them, and no process is left exactly if there were as many ticks. -/
theorem work_conserved (hboot : Kernel.boot levels = .ok k) (source : Source) (requests : List Request)
    (hroom : Exchange.births (exchanges { kernel := k } (requests.map (Prod.mk source))) < UInt32.size)
    (hself : ∀ program ∈ Exchange.programs source (exchanges { kernel := k } (requests.map (Prod.mk source))),
      program.SelfContained source) :
    Exchange.busy (exchanges { kernel := k } (requests.map (Prod.mk source))) +
        (after { kernel := k } (requests.map (Prod.mk source))).kernel.remaining source =
      Exchange.totalWork source (exchanges { kernel := k } (requests.map (Prod.mk source))) ∧
    ((∀ request ∈ requests, request.commanded = true) →
      Exchange.busy (exchanges { kernel := k } (requests.map (Prod.mk source))) =
        (Exchange.tickOutcomes (exchanges { kernel := k } (requests.map (Prod.mk source)))).countP (· ≠ .idle)) ∧
    ∀ (founding : List Operation) (commands : List Command),
      requests = founding.map .operation ++ commands.map .command →
      (∀ op ∈ founding, (op.making? source).isSome = true) → .shutdown ∉ commands →
      (∀ program ∈ Exchange.programs source (exchanges { kernel := k } (requests.map (Prod.mk source))),
        .block ∉ program) →
      (Exchange.tickOutcomes (exchanges { kernel := k } (requests.map (Prod.mk source)))).length =
        commands.count .tick ∧
      (∀ i outcome, (Exchange.tickOutcomes (exchanges { kernel := k } (requests.map (Prod.mk source))))[i]? =
        some outcome →
        (outcome = .idle ↔ Exchange.totalWork source (exchanges { kernel := k } (requests.map (Prod.mk source))) ≤ i)) ∧
      ((after { kernel := k } (requests.map (Prod.mk source))).kernel.table.entries = [] ↔
        Exchange.totalWork source (exchanges { kernel := k } (requests.map (Prod.mk source))) ≤
          commands.count .tick) := by
  have hsource : ∀ asked ∈ requests.map (Prod.mk source), asked.1 = source := List.forall_mem_map.mpr fun _ _ => rfl
  refine ⟨(remaining_after hboot (fun _ h => h) hsource hroom hself).2, fun hcommanded => ?_, ?_⟩
  · exact busy_eq hboot (List.forall_mem_map.mpr hcommanded) hroom
  · rintro founding commands rfl hmaking hlast hblocks
    rw [List.map_append] at hroom hself hblocks ⊢
    have holder : ∀ asked ∈ (founding.map Request.operation).map (Prod.mk source),
        ∃ op, asked = (source, .operation op) ∧ (op.making? source).isSome = true :=
      List.forall_mem_map.mpr (List.forall_mem_map.mpr fun op hop => ⟨op, rfl, hmaking op hop⟩)
    have hnewer : ∀ asked ∈ (commands.map Request.command).map (Prod.mk source),
        ∃ c, asked = (source, .command c) ∧ c ≠ .shutdown :=
      List.forall_mem_map.mpr (List.forall_mem_map.mpr fun c hc => ⟨c, rfl, fun h => hlast (h ▸ hc)⟩)
    obtain ⟨hticks, houtcomes, hempty⟩ :=
      drained_after hboot holder hnewer hroom fun program h => ⟨hself program h, hblocks program h⟩
    have hcount : ((commands.map Request.command).map (Prod.mk source)).countP (fun asked => asked.2 = .command .tick) =
        commands.count .tick := by
      rw [List.countP_map, List.countP_map, List.count]
      exact List.countP_congr fun c _ => by simp
    rw [hticks, hcount] at hempty
    exact ⟨hticks.trans hcount, houtcomes, hempty⟩

end

/-- Requests to try statements about work on: two processes are made, of which the first forks and names a program
that is not there, and ten ticks follow. -/
def workSample : List Request :=
  ([.createParsed 1 [.fork 0, .replace "missing", .add 1], .createParsed 0 [.set 1, .exit]] :
    List Operation).map .operation ++
    (.wake :: List.replicate 10 .tick : List Command).map .command

/-- In the sample the work is nine steps, so the ninth of ten ticks leaves no process, and the tenth is idle. -/
theorem work_conserved_sample :
    Kernel.boot 2 = .ok (Kernel.empty 2 : Kernel Context) ∧
      Exchange.births (exchanges { kernel := Kernel.empty 2 } (workSample.map (Prod.mk Source.empty))) < UInt32.size ∧
      (∀ program ∈ Exchange.programs Source.empty
        (exchanges { kernel := Kernel.empty 2 } (workSample.map (Prod.mk Source.empty))),
        program.SelfContained Source.empty ∧ .block ∉ program) ∧
      Exchange.totalWork Source.empty
        (exchanges { kernel := Kernel.empty 2 } (workSample.map (Prod.mk Source.empty))) = 9 ∧
      Exchange.busy (exchanges { kernel := Kernel.empty 2 } (workSample.map (Prod.mk Source.empty))) = 9 ∧
      (∀ i outcome,
        (Exchange.tickOutcomes (exchanges { kernel := Kernel.empty 2 } (workSample.map (Prod.mk Source.empty))))[i]? =
        some outcome → (outcome = .idle ↔ 9 ≤ i)) ∧
      (after { kernel := Kernel.empty 2 } (workSample.map (Prod.mk Source.empty))).kernel.table.entries = [] := by
  have hboot : Kernel.boot 2 = .ok (Kernel.empty 2 : Kernel Context) := rfl
  have hroom : Exchange.births (exchanges { kernel := Kernel.empty 2 } (workSample.map (Prod.mk Source.empty))) <
      UInt32.size := by
    decide +kernel
  have hprograms :
    Exchange.programs Source.empty (exchanges { kernel := Kernel.empty 2 } (workSample.map (Prod.mk Source.empty))) =
      [[.fork 0, .replace "missing", .add 1], [.set 1, .exit]] := by
    decide +kernel
  have hall : ∀ program ∈ Exchange.programs Source.empty
      (exchanges { kernel := Kernel.empty 2 } (workSample.map (Prod.mk Source.empty))),
        program.SelfContained Source.empty ∧ .block ∉ program := by
    rw [hprograms]
    have halone : ∀ name lines, Source.empty name ≠ .ok lines := fun name lines h => by cases h
    have hshort : ∀ program ∈ ([[.fork 0, .replace "missing", .add 1], [.set 1, .exit]] : List Program),
        program.length < UInt64.size ∧ .block ∉ program := by
      decide
    intro program hprogram
    obtain ⟨hlength, hblock⟩ := hshort program hprogram
    exact ⟨⟨hlength, fun name lines other _ hload => absurd hload (halone name lines)⟩, hblock⟩
  have hwork : Exchange.totalWork Source.empty
      (exchanges { kernel := Kernel.empty 2 } (workSample.map (Prod.mk Source.empty))) = 9 := by
    decide +kernel
  obtain ⟨hconserved, -, hdrained⟩ := work_conserved hboot Source.empty workSample hroom fun program h =>
    (hall program h).1
  obtain ⟨-, houtcomes, hempty⟩ := hdrained _ _ rfl (by decide) (by decide) fun program h => (hall program h).2
  rw [hwork] at hconserved houtcomes hempty
  have hend := hempty.mpr (by decide)
  rw [Kernel.remaining_eq_zero_iff.mpr hend] at hconserved
  exact ⟨hboot, hroom, hall, hwork, hconserved, houtcomes, hend⟩

end Session

end Timeshare
