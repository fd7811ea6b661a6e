import Timeshare.Proofs.Records

/-!
# Scheduling does not change what a process computes

What an instruction does to the context of a process is a function of that context and of the programs that there are
(`Context.alone`). Whatever is asked of a kernel since it booted, a process that has executed n instructions since its
birth has the context that n instructions alone lead to from its first one, and it ends with the instruction that has
no context to lead to (`Session.isolated`).
-/

namespace Timeshare

/-! ## One process alone -/

namespace Context

/-- What the next instruction makes of a context, or why the process ends there. -/
def alone (source : Source) (c : Context) : Except EndReason Context :=
  match c.program[c.programCounter.toNat]? with
  | none => .error .programExhausted
  | some (.set v) => .ok { c with accumulator := v, programCounter := c.programCounter + 1 }
  | some (.add v) => .ok { c with accumulator := c.accumulator + v, programCounter := c.programCounter + 1 }
  | some (.sub v) => .ok { c with accumulator := c.accumulator - v, programCounter := c.programCounter + 1 }
  | some .block => .ok { c with programCounter := c.programCounter + 1 }
  | some .exit => .error .exit
  | some (.fork n) =>
    .ok { c with programCounter := UInt64.ofNat (min (c.programCounter.toNat + n.toNat + 1) (UInt64.size - 1)) }
  | some (.replace name) =>
    match source name with
    | .error _ => .ok { c with programCounter := c.programCounter + 1 }
    | .ok lines =>
      match Program.parse lines with
      | .ok program => .ok { c with program := program, programCounter := 0 }
      | .error fault => .error (.faulted fault)

/-- What so many instructions make of a context, or why the process ends before. -/
def runAlone (source : Source) (c : Context) : Nat → Except EndReason Context
  | 0 => .ok c
  | n + 1 => (c.runAlone source n).bind (alone source)

/-- The machine of words fetches what stands at the place. -/
theorem next_eq (c : Context) : Machine.next? c = c.program[c.programCounter.toNat]? := rfl

/-- Skipping moves on by as many instructions and one, and stops at the largest place. -/
theorem skip_eq (n : UInt64) (c : Context) : Machine.skip n c =
    { c with programCounter := UInt64.ofNat (min (c.programCounter.toNat + n.toNat + 1) (UInt64.size - 1)) } := by
  have hpc : Word.addSaturating (Word.addSaturating c.programCounter n) 1 =
      UInt64.ofNat (min (c.programCounter.toNat + n.toNat + 1) (UInt64.size - 1)) := by
    rw [← UInt64.toNat_inj, Word.toNat_addSaturating, Word.toNat_addSaturating,
      UInt64.toNat_ofNat_of_lt' (Nat.lt_of_le_of_lt (Nat.min_le_right _ _) (by decide))]
    have hone : (1 : UInt64).toNat = 1 := rfl
    omega
  exact congrArg (fun pc => { c with programCounter := pc }) hpc

end Context

/-! ## What steps and exchanges compute -/

section

variable {C : Type} [Machine C] {source : Source} {k k' : Kernel C} {r : ProcessRecord C} {outcome : StepOutcome}
  {es : List (Event C)} {pid : Pid}

/-- A step touches the context of no process but the running one and the child that it forks. -/
theorem Deed.contextOf_other (h : Deed source k r outcome es) (hpath : Path k es k') (hne : pid ≠ r.pid)
    (hchild : outcome.child? ≠ some pid) : k'.contextOf pid = k.contextOf pid := by
  unfold Kernel.contextOf
  rw [hpath.get?, h.revise_other hne hchild]

/-- A forked child has the next number, and starts with the context of its parent, one instruction further on. -/
theorem Deed.contextOf_child (h : Deed source k r outcome es) (hpath : Path k es k') (hne : k.table.nextPid ≠ r.pid)
    (hchild : outcome.child? = some pid) :
    pid = k.table.nextPid ∧ k'.contextOf pid = some (Machine.advance r.context) := by
  unfold Kernel.contextOf
  obtain ⟨hpid, hrevise⟩ := h.revise_child hne hchild (k.table.get? pid)
  rw [hpath.get?, hrevise]
  exact ⟨hpid, rfl⟩

end

section

variable {source : Source} {k k' : Kernel Context} {r : ProcessRecord Context} {outcome : StepOutcome}
  {es : List (Event Context)} {pid : Pid}

/-- A step makes of the running process what its next instruction makes of its context alone, and the process ends if
that is nothing. -/
theorem Deed.compute_self (h : Deed source k r outcome es) (hne : r.pid ≠ k.table.nextPid) :
    es.foldl (Event.compute r.pid) (some r.context) = (r.context.alone source).toOption ∧
      ∀ reason, r.context.alone source = .error reason ↔ outcome = .terminated r.pid reason := by
  cases h with
  | fork hi =>
    have hpid : r.pid ≠ (r.child r.pid k.table.nextPid k.clock).pid := hne
    rw [Context.next_eq] at hi
    rw [Context.alone, hi]
    refine ⟨?_, fun reason => by simp⟩
    simp [Event.compute, hpid, Context.skip_eq, Except.toOption]
  | replaced hi hload hparse =>
    rw [Context.next_eq] at hi
    simp [Context.alone, hi, hload, hparse, Event.compute, Except.toOption, Machine.load]
  | unavailable hi hload =>
    rw [Context.next_eq] at hi
    simp [Context.alone, hi, hload, Event.compute, Except.toOption, Machine.advance]
  | faulted hi hload hparse =>
    rw [Context.next_eq] at hi
    simp [Context.alone, hi, hload, hparse, Event.compute, Except.toOption]
  | _ hi =>
    rw [Context.next_eq] at hi
    simp [Context.alone, hi, Event.compute, Except.toOption, Machine.advance, Machine.setTo, Machine.add, Machine.sub]

/-- A step is the deed of the running process as far as contexts go, and without one it is nothing. -/
theorem Steps.deed_or_idle (h : Steps source k outcome es k') :
    (k.running = none ∧ outcome = .idle ∧ k' = k) ∨ ∃ p r es₁ k₁, k.running = some p ∧ k.table.get? p = some r ∧
      Deed source k r outcome es₁ ∧ Path k es₁ k₁ ∧ ∀ pid, k'.contextOf pid = k₁.contextOf pid := by
  cases h with
  | idle hrun => exact .inl ⟨hrun, rfl, rfl⟩
  | worked hrun hr hdeed hstays hpath => exact .inr ⟨_, _, _, _, hrun, hr, hdeed, hpath, fun _ => rfl⟩
  | released hrun hr hdeed hleaves hpath hsettles => exact .inr ⟨_, _, _, _, hrun, hr, hdeed, hpath, hsettles.contextOf⟩

/-- A step makes of the running process what its next instruction makes of its context alone. -/
theorem Steps.compute_self (h : Steps source k outcome es k') (hk : k.Sound) (hrun : k.running = some pid) :
    ∃ c, k.contextOf pid = some c ∧ k'.contextOf pid = (c.alone source).toOption ∧
      ∀ reason, c.alone source = .error reason ↔ outcome = .terminated pid reason := by
  rcases h.deed_or_idle with ⟨hidle, -, -⟩ | ⟨p, r, es₁, k₁, hrun', hr, hdeed, hpath, hrest⟩
  · cases hrun.symm.trans hidle
  · obtain rfl : p = pid := Option.some.inj (hrun'.symm.trans hrun)
    obtain rfl : r.pid = p := (hk.consistent.standing_of_get? hr).keyed
    have hc : k.contextOf r.pid = some r.context := by rw [Kernel.contextOf, hr]; rfl
    obtain ⟨hself, hend⟩ := hdeed.compute_self (hk.numbered.ne_nextPid hr)
    exact ⟨r.context, hc, by rw [hrest, hpath.contextOf, hc, hself], hend⟩

/-- A step leaves the context of every process as it is, but for the running one and the child that it forks. -/
theorem Steps.compute_other (h : Steps source k outcome es k') (hk : k.Sound) (hrun : k.running ≠ some pid)
    (hchild : outcome.child? ≠ some pid) : k'.contextOf pid = k.contextOf pid := by
  rcases h.deed_or_idle with ⟨-, -, rfl⟩ | ⟨p, r, es₁, k₁, hrun', hr, hdeed, hpath, hrest⟩
  · rfl
  · have hkeyed := (hk.consistent.standing_of_get? hr).keyed
    have hne : pid ≠ r.pid := fun heq => hrun (by rw [hrun', heq, hkeyed])
    rw [hrest, hdeed.contextOf_other hpath hne hchild]

/-- The child of a fork has the next number and starts with the context of its parent, one instruction further on. -/
theorem Steps.compute_child (h : Steps source k outcome es k') (hk : k.Sound) (hchild : outcome.child? = some pid) :
    ∃ r, outcome = .forked r.pid pid ∧ pid = k.table.nextPid ∧ k.table.get? r.pid = some r ∧
      k'.contextOf pid = some (Machine.advance r.context) := by
  rcases h.deed_or_idle with ⟨-, rfl, -⟩ | ⟨p, r, es₁, k₁, hrun', hr, hdeed, hpath, hrest⟩
  · cases hchild
  · obtain rfl : r.pid = p := (hk.consistent.standing_of_get? hr).keyed
    obtain ⟨hpid, hcontext⟩ := hdeed.contextOf_child hpath (hk.numbered.ne_nextPid hr).symm hchild
    have hforked : outcome = .forked r.pid pid := by
      cases hdeed with
      | fork hi => exact congrArg _ (Option.some.inj hchild)
      | _ => cases hchild
    exact ⟨r, hforked, hpid, hr, (hrest pid).trans hcontext⟩

/-- An exchange is a step as far as contexts go, or it touches the context of no process but the one it makes. -/
theorem Course.step_or_still {request : Request} {answer : Except Halt Response}
    (h : Course source k request answer es k') :
    (∃ outcome es₁ k₁, answer.toOption.bind Response.outcome? = some outcome ∧
      answer.toOption.bind Response.born? = outcome.child? ∧ Steps source k outcome es₁ k₁ ∧
      ∀ pid, k'.contextOf pid = k₁.contextOf pid) ∨
    (answer.toOption.bind Response.outcome? = none ∧
      ∀ pid, answer.toOption.bind Response.born? ≠ some pid → k'.contextOf pid = k.contextOf pid) := by
  cases h with
  | made hop hmakes =>
    refine .inr ⟨rfl, fun pid hpid => ?_⟩
    cases hmakes with
    | intro hr hmove hsettles =>
      have hne : pid ≠ k.table.nextPid := fun heq => hpid (congrArg some heq.symm)
      rw [hsettles.contextOf, hmove.contextOf]
      simp [Event.compute, hr, hne]
  | stepped hsteps =>
    rename_i outcome
    exact .inl ⟨outcome, _, _, rfl, by cases outcome <;> rfl, hsteps, fun _ => rfl⟩
  | ticked hticks =>
    rename_i outcome
    cases hticks with
    | intro hsteps hsettles => exact .inl ⟨outcome, _, _, rfl, by cases outcome <;> rfl, hsteps, hsettles.contextOf⟩
  | scheduled hsettles => exact .inr ⟨rfl, fun pid _ => hsettles.contextOf pid⟩
  | woken hwakes => exact .inr ⟨rfl, fun pid _ => hwakes.contextOf pid⟩
  | wokenReply hwakes => exact .inr ⟨rfl, fun pid _ => hwakes.contextOf pid⟩
  | advanced => exact .inr ⟨rfl, fun _ _ => rfl⟩
  | quiet hquiet =>
    refine .inr ⟨?_, fun _ _ => rfl⟩
    rcases hquiet with ⟨_, rfl⟩ | ⟨_, rfl⟩ | ⟨_, rfl⟩ | rfl <;> rfl

/-- A process blocks in a step only where its next instruction is a block, and then it stands after this one. -/
theorem Course.block {request : Request} {answer : Except Halt Response} (h : Course source k request answer es k')
    (hk : k.Sound) (houtcome : answer.toOption.bind Response.outcome? = some (.blocked pid)) :
    ∃ c, k.contextOf pid = some c ∧ c.next? = some .block ∧ k'.contextOf pid = some (Machine.advance c) := by
  rcases h.step_or_still with ⟨outcome, es₁, k₁, ho, -, hsteps, hrest⟩ | ⟨ho, -⟩
  · obtain rfl := Option.some.inj (ho.symm.trans houtcome)
    rcases hsteps.deed_or_idle with ⟨-, hidle, -⟩ | ⟨p, r, es₂, k₂, hrun, hr, hdeed, hpath, hrest'⟩
    · cases hidle
    · obtain rfl : r.pid = p := (hk.consistent.standing_of_get? hr).keyed
      have hc : k.contextOf r.pid = some r.context := by rw [Kernel.contextOf, hr]; rfl
      cases hdeed with
      | block hi =>
        refine ⟨r.context, hc, hi, ?_⟩
        rw [hrest, hrest', hpath.contextOf, hc]
        exact if_pos rfl
  · cases ho.symm.trans houtcome

/-- A process is born with the next number: it is made from outside and starts its program, or it is forked and starts
one instruction further on than its parent. -/
theorem Course.birth {request : Request} {answer : Except Halt Response} (h : Course source k request answer es k')
    (hk : k.Sound) (hborn : answer.toOption.bind Response.born? = some pid) : pid = k.table.nextPid ∧
      ((∃ op priority program, request = .operation op ∧ op.making? source = some (priority, .ok program) ∧
        answer = .ok (.answered (.created pid)) ∧ k'.contextOf pid = some (Machine.start program)) ∨
      ∃ r, answer.toOption.bind Response.outcome? = some (.forked r.pid pid) ∧ k.table.get? r.pid = some r ∧
        k'.contextOf pid = some (Machine.advance r.context)) := by
  rcases h.step_or_still with ⟨outcome, es₁, k₁, ho, hb, hsteps, hrest⟩ | ⟨ho, -⟩
  · obtain ⟨r, rfl, hnext, hr, hc⟩ := hsteps.compute_child hk (hb.symm.trans hborn)
    exact ⟨hnext, .inr ⟨r, ho, hr, (hrest pid).trans hc⟩⟩
  · cases h with
    | made hop hmakes =>
      obtain rfl := Option.some.inj hborn
      refine ⟨rfl, .inl ⟨_, _, _, rfl, hop, rfl, ?_⟩⟩
      cases hmakes with
      | intro hr hmove hsettles =>
        rw [hsettles.contextOf, hmove.contextOf]
        simp [Event.compute, hr]
    | stepped => cases ho
    | ticked => cases ho
    | quiet hquiet => rcases hquiet with ⟨_, rfl⟩ | ⟨_, rfl⟩ | ⟨_, rfl⟩ | rfl <;> cases hborn
    | _ => cases hborn

end

/-! ## One exchange -/

/-- The process is born in the exchange, and this is the context that it starts with. -/
inductive Exchange.Bears (source : Source) (x : Exchange) (pid : Pid) : Context → Prop where
  /-- It is made from outside, and starts the program. -/
  | root {op : Operation} {priority : Priority} {program : Program} (hrequest : x.request = .operation op)
    (hmaking : op.making? source = some (priority, .ok program)) (hanswer : x.answer = .ok (.answered (.created pid))) :
    Bears source x pid { program := program, programCounter := 0, accumulator := 0 }
  /-- It is forked, and starts one instruction after the fork with the accumulator of its parent. -/
  | child {parent : Pid} {c : Context} (houtcome : x.outcome? = some (.forked parent pid))
    (hparent : x.before.kernel.contextOf parent = some c) :
    Bears source x pid { program := c.program, programCounter := c.programCounter + 1, accumulator := c.accumulator }

namespace Session.Takes

variable {s : Session} {source : Source} {request : Request} {es : List (Event Context)} {pid : Pid}

/-- An exchange that steps makes of the running process what its next instruction makes of its context alone. -/
theorem compute_self (ht : s.Takes source request es) (hx : (s.exchange source request).executing? = some pid) :
    ∃ c, s.kernel.contextOf pid = some c ∧ (s.exchange source request).after.kernel.contextOf pid =
      (c.alone source).toOption ∧
      ∀ reason, c.alone source = .error reason ↔ (s.exchange source request).outcome? =
        some (.terminated pid reason) := by
  rw [Exchange.executing?, (exchange_before source s request).1] at hx
  rcases ht.course.step_or_still with ⟨outcome, es₁, k₁, ho, -, hsteps, hrest⟩ | ⟨ho, -⟩
  · split at hx
    · obtain ⟨c, hc, hself, hend⟩ := hsteps.compute_self ht.before hx
      exact ⟨c, hc, (hrest pid).trans hself, fun reason => by rw [hend, Exchange.outcome?, ho, Option.some.injEq]⟩
    · cases hx
  · rw [Exchange.outcome?, ho] at hx
    cases hx

/-- An exchange leaves the context of every process as it is, but for the one that steps and the one that is born. -/
theorem compute_other (ht : s.Takes source request es) (hx : (s.exchange source request).executing? ≠ some pid)
    (hborn : (s.exchange source request).born? ≠ some pid) :
    (s.exchange source request).after.kernel.contextOf pid = s.kernel.contextOf pid := by
  rw [Exchange.executing?, (exchange_before source s request).1] at hx
  rcases ht.course.step_or_still with ⟨outcome, es₁, k₁, ho, hb, hsteps, hrest⟩ | ⟨-, hstill⟩
  · have hstep : (s.exchange source request).outcome?.isSome = true := by rw [Exchange.outcome?, ho]; rfl
    rw [if_pos hstep] at hx
    rw [hrest, hsteps.compute_other ht.before hx fun hc => hborn (hb.trans hc)]
  · exact hstill pid hborn

/-- Every process that is born has the next number, and starts with some context. -/
theorem exists_bears (ht : s.Takes source request es) (hborn : (s.exchange source request).born? = some pid) :
    pid = s.kernel.table.nextPid ∧ ∃ c, (s.exchange source request).Bears source pid c := by
  obtain ⟨hbefore, hrequest⟩ := exchange_before source s request
  obtain ⟨hnext, ⟨op, priority, program, rfl, hmaking, hanswer, -⟩ | ⟨r, ho, hr, -⟩⟩ := ht.course.birth ht.before hborn
  · exact ⟨hnext, _, .root hrequest hmaking hanswer⟩
  · exact ⟨hnext, _, .child (c := r.context) ho (by rw [hbefore, Kernel.contextOf, hr]; rfl)⟩

/-- A process that is born has the context that it starts with. -/
theorem compute_born (ht : s.Takes source request es) {c : Context}
    (hbears : (s.exchange source request).Bears source pid c) :
    pid = s.kernel.table.nextPid ∧ (s.exchange source request).after.kernel.contextOf pid = some c := by
  obtain ⟨hbefore, hrequest⟩ := exchange_before source s request
  cases hbears with
  | root hop hmaking hanswer =>
    have hborn : (s.exchange source request).answer.toOption.bind Response.born? = some pid := by rw [hanswer]; rfl
    obtain ⟨hnext, ⟨op, priority, program, rfl, hmaking', -, hc⟩ | ⟨r, ho, -, -⟩⟩ := ht.course.birth ht.before hborn
    · obtain rfl := Request.operation.inj (hrequest.symm.trans hop)
      obtain ⟨-, hprogram⟩ := Prod.mk.inj (Option.some.inj (hmaking'.symm.trans hmaking))
      obtain rfl := Except.ok.inj hprogram
      exact ⟨hnext, hc⟩
    · rw [hanswer] at ho
      cases ho
  | child houtcome hparent =>
    have hborn : (s.exchange source request).answer.toOption.bind Response.born? = some pid := by
      rcases ht.course.step_or_still with ⟨outcome, es₁, k₁, ho, hb, -, -⟩ | ⟨ho, -⟩
      · obtain rfl := Option.some.inj (ho.symm.trans houtcome)
        exact hb
      · cases ho.symm.trans houtcome
    obtain ⟨hnext, ⟨op, priority, program, -, -, hanswer, -⟩ | ⟨r, ho, hr, hc⟩⟩ := ht.course.birth ht.before hborn
    · rw [Exchange.outcome?, hanswer] at houtcome
      cases houtcome
    · obtain ⟨rfl, -⟩ := StepOutcome.forked.inj (Option.some.inj (ho.symm.trans houtcome))
      rw [hbefore, Kernel.contextOf, hr] at hparent
      obtain rfl := Option.some.inj hparent
      exact ⟨hnext, hc⟩

end Session.Takes

/-! ## Every run -/

namespace Exchange

theorem steps_append (pid : Pid) (xs ys : List Exchange) : steps pid (xs ++ ys) = steps pid xs + steps pid ys :=
  List.countP_append

theorem steps_singleton_self {pid : Pid} {x : Exchange} (hx : x.executing? = some pid) : steps pid [x] = 1 := by
  rw [steps, List.countP_singleton, if_pos (decide_eq_true hx)]

theorem steps_singleton_other {pid : Pid} {x : Exchange} (hx : x.executing? ≠ some pid) : steps pid [x] = 0 := by
  rw [steps, List.countP_singleton, if_neg (by simpa using hx)]

end Exchange

namespace Session

variable {source : Source} {pid : Pid}

/-- An instruction of a process that has computed what it would compute alone makes what it would make alone, and the
process ends with it exactly if that is nothing. -/
theorem Takes.runAlone_succ {s : Session} {request : Request} {es : List (Event Context)}
    (ht : s.Takes source request es) {c : Context} {n : Nat}
    (hn : s.kernel.contextOf pid = (c.runAlone source n).toOption)
    (hx : (s.exchange source request).executing? = some pid) :
    (s.exchange source request).after.kernel.contextOf pid = (c.runAlone source (n + 1)).toOption ∧
      ∀ reason, c.runAlone source (n + 1) = .error reason ↔
        (s.exchange source request).outcome? = some (.terminated pid reason) := by
  obtain ⟨c', hc', hself, hend⟩ := ht.compute_self hx
  have hrun : c.runAlone source n = .ok c' := by
    rw [hc'] at hn
    cases hrun : c.runAlone source n with
    | ok c₁ =>
      rw [hrun] at hn
      exact congrArg Except.ok (Option.some.inj hn).symm
    | error reason =>
      rw [hrun] at hn
      cases hn
  have hsucc : c.runAlone source (n + 1) = c'.alone source := by rw [Context.runAlone, hrun]; rfl
  rw [hsucc]
  exact ⟨hself, hend⟩

/-- From any time in the life of a process on, it computes what it would compute alone. -/
theorem contextOf_after {s : Session} (hs : s.kernel.Sound) {c : Context} (hc : s.kernel.contextOf pid = some c)
    {requests : List (Source × Request)} (hsource : ∀ asked ∈ requests, asked.1 = source)
    (hroom : s.kernel.table.nextPid.toNat + Exchange.births (s.exchanges requests) < UInt32.size) :
    (s.after requests).kernel.contextOf pid =
      (c.runAlone source (Exchange.steps pid (s.exchanges requests))).toOption := by
  have hlive : pid.toNat < s.kernel.table.nextPid.toNat := by
    refine hs.numbered pid (Table.mem_pids_iff.mpr ?_)
    obtain ⟨r, hr, -⟩ := Option.map_eq_some_iff.mp hc
    exact ⟨r, hr⟩
  refine (run_invariant (P := fun xs s' => s'.kernel.contextOf pid =
    (c.runAlone source (Exchange.steps pid xs)).toOption ∧
    pid.toNat < s'.kernel.table.nextPid.toNat) hs ⟨hc, hlive⟩ ?_ hroom).1.1
  rintro xs s' source' request es hmem ht ⟨hP, hlt⟩
  obtain rfl : source' = source := hsource _ hmem
  refine ⟨?_, by rw [ht.next]; omega⟩
  rw [Exchange.steps_append]
  by_cases hx : (s'.exchange source' request).executing? = some pid
  · rw [Exchange.steps_singleton_self hx]
    exact (ht.runAlone_succ hP hx).1
  · have hborn : (s'.exchange source' request).born? ≠ some pid := fun hb => by
      rw [(ht.exists_bears hb).1] at hlt
      exact Nat.lt_irrefl _ hlt
    rw [ht.compute_other hx hborn, hP, Exchange.steps_singleton_other hx, Nat.add_zero]

section

variable {levels : UInt8} {k : Kernel Context}

/-- A process has, until it ends, the context that as many instructions alone lead to as it has executed since its
birth. -/
theorem contextOf_of_bears (hboot : Kernel.boot levels = .ok k) {requests : List (Source × Request)}
    (hsource : ∀ asked ∈ requests, asked.1 = source)
    (hroom : Exchange.births (exchanges { kernel := k } requests) < UInt32.size) {older newer : List Exchange}
    {x : Exchange} (hsplit : exchanges { kernel := k } requests = older ++ x :: newer) {c : Context}
    (hbears : x.Bears source pid c) :
    (after { kernel := k } requests).kernel.contextOf pid =
      (c.runAlone source (Exchange.steps pid newer)).toOption := by
  obtain ⟨before, source', request, rest, es, rfl, -, rfl, rfl, ht, hlast, hafter⟩ := takes_of_split hboot hroom hsplit
  rw [List.forall_mem_append, List.forall_mem_cons] at hsource
  obtain ⟨-, rfl, hrest⟩ := hsource
  rw [hafter]
  exact contextOf_after ht.after (ht.compute_born hbears).2 hrest hlast

/-- Every process that there is was born in some exchange. -/
theorem exists_bears_of_live (hboot : Kernel.boot levels = .ok k) {requests : List (Source × Request)}
    (hsource : ∀ asked ∈ requests, asked.1 = source)
    (hroom : Exchange.births (exchanges { kernel := k } requests) < UInt32.size)
    (hlive : ((after { kernel := k } requests).kernel.contextOf pid).isSome = true) :
    ∃ older x newer c, exchanges { kernel := k } requests = older ++ x :: newer ∧ x.Bears source pid c := by
  refine (run_invariant_of_boot (P := fun xs s => (s.kernel.contextOf pid).isSome = true →
    ∃ older x newer c, xs = older ++ x :: newer ∧ x.Bears source pid c) hboot ?_ ?_ hroom).1 hlive
  · rw [(Kernel.boot_eq_ok_iff.mp hboot).2]
    intro hlive
    cases hlive
  · intro xs s source' request es hmem ht hP hlive
    obtain rfl : source' = source := hsource _ hmem
    by_cases hborn : (s.exchange source' request).born? = some pid
    · obtain ⟨-, c, hc⟩ := ht.exists_bears hborn
      exact ⟨xs, _, [], c, rfl, hc⟩
    · have hbefore : (s.kernel.contextOf pid).isSome = true := by
        by_cases hx : (s.exchange source' request).executing? = some pid
        · obtain ⟨c, hc, -, -⟩ := ht.compute_self hx
          rw [hc]
          rfl
        · rwa [ht.compute_other hx hborn] at hlive
      obtain ⟨older, x, newer, c, rfl, hc⟩ := hP hbefore
      exact ⟨older, x, newer ++ [s.exchange source' request], c, by simp, hc⟩

/-- Whatever is asked of a kernel since it booted, in any order, while the programs that there are stay the same: a
process has, until it ends, the context that as many instructions alone lead to as it has executed since its birth, it
ends with the instruction that has no context to lead to, for the reason that this has alone, and every process that
there is was born in some exchange. -/
theorem isolated (hboot : Kernel.boot levels = .ok k) (source : Source)
    (requests : List Request)
    (hroom : Exchange.births (exchanges { kernel := k } (requests.map (Prod.mk source))) < UInt32.size) :
    (∀ older x newer pid c, exchanges { kernel := k } (requests.map (Prod.mk source)) = older ++ x :: newer →
      x.Bears source pid c →
      (after { kernel := k } (requests.map (Prod.mk source))).kernel.contextOf pid =
        (c.runAlone source (Exchange.steps pid newer)).toOption ∧
      ∀ between y later, newer = between ++ y :: later → y.executing? = some pid →
        y.after.kernel.contextOf pid = (c.runAlone source (Exchange.steps pid between + 1)).toOption ∧
        ∀ reason, c.runAlone source (Exchange.steps pid between + 1) = .error reason ↔
          y.outcome? = some (.terminated pid reason)) ∧
    ∀ pid, ((after { kernel := k } (requests.map (Prod.mk source))).kernel.contextOf pid).isSome = true →
      ∃ older x newer c, exchanges { kernel := k } (requests.map (Prod.mk source)) = older ++ x :: newer ∧
        x.Bears source pid c := by
  have hsource : ∀ asked ∈ requests.map (Prod.mk source), asked.1 = source := by
    intro asked hasked
    obtain ⟨request, -, rfl⟩ := List.mem_map.mp hasked
    rfl
  refine ⟨fun older x newer pid c hsplit hbears => ⟨contextOf_of_bears hboot hsource hroom hsplit hbears, ?_⟩,
    fun pid hlive => exists_bears_of_live hboot hsource hroom hlive⟩
  rintro between y later rfl hy
  rw [← List.cons_append, ← List.append_assoc] at hsplit
  obtain ⟨before, source', request, rest, es, hrequests, hbefore, rfl, -, ht, -, -⟩ := takes_of_split hboot hroom hsplit
  rw [hrequests, List.forall_mem_append, List.forall_mem_cons] at hsource
  obtain ⟨hearlier, rfl, -⟩ := hsource
  rw [hsplit, births_append, hbefore] at hroom
  exact ht.runAlone_succ (contextOf_of_bears hboot hearlier (by omega) hbefore.symm hbears) hy

end

/-- In the sample the parent executes four instructions, two of them after it was preempted, and the child one. -/
theorem isolated_sample :
    Kernel.boot 2 = .ok (Kernel.empty 2 : Kernel Context) ∧
      Exchange.births (exchanges { kernel := Kernel.empty 2 } (sample.map (Prod.mk Source.empty))) < UInt32.size ∧
      (after { kernel := Kernel.empty 2 } (sample.map (Prod.mk Source.empty))).kernel.contextOf 0 =
        (Context.runAlone Source.empty ⟨[.set 5, .fork 1, .block, .add 2, .sub 1], 0, 0⟩ 4).toOption ∧
      (after { kernel := Kernel.empty 2 } (sample.map (Prod.mk Source.empty))).kernel.contextOf 2 =
        (Context.runAlone Source.empty ⟨[.set 5, .fork 1, .block, .add 2, .sub 1], 2, 5⟩ 1).toOption := by
  have hboot : Kernel.boot 2 = .ok (Kernel.empty 2 : Kernel Context) := rfl
  have hroom : Exchange.births (exchanges { kernel := Kernel.empty 2 } (sample.map (Prod.mk Source.empty))) <
      UInt32.size := by
    decide +kernel
  have h := (isolated hboot Source.empty sample hroom).1
  exact ⟨hboot, hroom, (h [] _ _ 0 _ rfl (.root rfl rfl rfl)).1, (h [_, _, _] _ _ 2 _ rfl (.child rfl rfl)).1⟩

end Session

end Timeshare
