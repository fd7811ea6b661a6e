import Timeshare.Proofs.Observed
import Timeshare.Proofs.Records

/-!
# Every dispatch grants one quantum

As long as a kernel is driven by commands, and processes are made at any time, nobody is charged but for a tick, and
for each tick once. So the charge of a process counts the ticks since its dispatch, and a process of level l that is
preempted has executed 2 ^ l ticks (`Session.exact_quantum`).
-/

namespace Timeshare

variable {C : Type}

variable [Machine C] {k k' : Kernel C} {es : List (Event C)} {pid : Pid} {level : Priority} {used : UInt32}

/-! ## What can happen to the process in the slot -/

/-- The running process that is marked is charged, and preempted if its quantum is used up. -/
theorem Settles.of_marked (h : Settles k es k') (hrun : k.running = some pid) (hmark : k.executed = some pid)
    (hc : k.chargeOf pid = some (level, used)) :
    (used + 1 < quantum level ∧ es = [.charged pid]) ∨
      (¬used + 1 < quantum level ∧ ∃ pid' level', es = [.preempted pid level, .dispatched pid' level']) := by
  have hr' : ∀ {r}, k.table.get? pid = some r → r.priority = level ∧ r.cpuTimeUsed = used := by
    intro r hr
    rw [Kernel.chargeOf, hr] at hc
    exact Prod.mk.inj (Option.some.inj hc)
  have hpath := h.path
  cases h.turn with
  | kept =>
    cases hpath
    cases h.unmarked.symm.trans hmark
  | charged p =>
    cases hpath with
    | cons hm _ =>
      cases hm with
      | charged hrun' hmark' hr hused =>
        obtain rfl := Option.some.inj (hrun'.symm.trans hrun)
        obtain ⟨rfl, rfl⟩ := hr' hr
        exact .inl ⟨hused, rfl⟩
  | filled p l =>
    cases hpath with
    | cons hm _ =>
      cases hm with
      | dispatched hrun' hd hr => cases hrun'.symm.trans hrun
  | rotated p l p' l' =>
    cases hpath with
    | cons hm _ =>
      cases hm with
      | preempted hrun' hmark' hr hused hq =>
        obtain rfl := Option.some.inj (hrun'.symm.trans hrun)
        obtain ⟨rfl, rfl⟩ := hr' hr
        exact .inr ⟨hused, p', l', rfl⟩

/-- An accounting with the slot empty fills it, or nobody waits. -/
theorem Settles.of_idle (h : Settles k es k') (hrun : k.running = none) :
    (es = [] ∧ k'.queues.ready.flatten = []) ∨ ∃ pid level, es = [.dispatched pid level] := by
  have hpath := h.path
  cases h.turn with
  | kept =>
    cases hpath
    exact .inl ⟨rfl, h.filled hrun⟩
  | charged p =>
    cases hpath with
    | cons hm _ =>
      cases hm with
      | charged hrun' hmark hr hused => cases hrun.symm.trans hrun'
  | filled p l => exact .inr ⟨p, l, rfl⟩
  | rotated p l p' l' =>
    cases hpath with
    | cons hm _ =>
      cases hm with
      | preempted hrun' hmark hr hused hq => cases hrun.symm.trans hrun'

/-- In a deed after which the process goes on it has worked, the slot stays as it is, and so does its charge. -/
theorem Deed.worked {source : Source} {r : ProcessRecord C} {outcome : StepOutcome} (h : Deed source k r outcome es)
    (hstays : outcome.releases = false) (hne : r.pid ≠ k.table.nextPid) :
    outcome.worked? = some r.pid ∧ (∀ running, es.foldl Event.slot running = running) ∧
      ∀ c, es.foldl (Event.charge r.pid) c = c := by
  cases h with
  | fork hi =>
    have hpid : r.pid ≠ (r.child r.pid k.table.nextPid k.clock).pid := hne
    exact ⟨rfl, fun _ => rfl, fun c => by simp [Event.charge, hpid]⟩
  | set | add | sub | replaced | unavailable => exact ⟨rfl, fun _ => rfl, fun _ => rfl⟩
  | _ => cases hstays

/-- In any other deed it is released, and the slot is empty. -/
theorem Deed.released {source : Source} {r : ProcessRecord C} {outcome : StepOutcome} (h : Deed source k r outcome es)
    (hleaves : outcome.releases = true) :
    outcome.released? = some r.pid ∧ ∀ running, es.foldl Event.slot running = none := by
  cases h <;> first
    | exact ⟨rfl, fun _ => rfl⟩
    | cases hleaves

/-- What a tick is with the process of this record in the slot: its events, and the process that it puts into the
slot. -/
inductive Spends (source : Source) (k : Kernel C) (r : ProcessRecord C) (outcome : StepOutcome) :
    List (Event C) → Option (Pid × Priority) → Kernel C → Prop where
  /-- The process is charged, and goes on. -/
  | charged {es : List (Event C)} {k' : Kernel C} (hdeed : Deed source k r outcome es)
    (hstays : outcome.releases = false) (hused : r.cpuTimeUsed + 1 < quantum r.priority)
    (hpath : Path k (es ++ [.ticked, .charged r.pid]) k') :
    Spends source k r outcome (es ++ [.ticked, .charged r.pid]) none k'
  /-- The process used up its quantum, and the slot is filled again. -/
  | preempted {es : List (Event C)} {k' : Kernel C} {pid : Pid} {level : Priority} (hdeed : Deed source k r outcome es)
    (hstays : outcome.releases = false) (hused : ¬r.cpuTimeUsed + 1 < quantum r.priority)
    (hpath : Path k (es ++ [.ticked, .preempted r.pid r.priority, .dispatched pid level]) k') :
    Spends source k r outcome (es ++ [.ticked, .preempted r.pid r.priority, .dispatched pid level])
      (some (pid, level)) k'
  /-- The process left the slot, and nobody waits. -/
  | emptied {es : List (Event C)} {k' : Kernel C} (hdeed : Deed source k r outcome es)
    (hleaves : outcome.releases = true) (hempty : k'.queues.ready.flatten = []) (hpath : Path k (es ++ [.ticked]) k') :
    Spends source k r outcome (es ++ [.ticked]) none k'
  /-- The process left the slot, which is filled again. -/
  | refilled {es : List (Event C)} {k' : Kernel C} {pid : Pid} {level : Priority} (hdeed : Deed source k r outcome es)
    (hleaves : outcome.releases = true) (hpath : Path k (es ++ [.dispatched pid level, .ticked]) k') :
    Spends source k r outcome (es ++ [.dispatched pid level, .ticked]) (some (pid, level)) k'

/-- A tick with a process in the slot is one of these. -/
theorem Ticks.spends {source : Source} {outcome : StepOutcome} {r : ProcessRecord C} (h : Ticks source k outcome es k')
    (hk : k.Consistent) (hn : k.Numbered) (hrun : k.running = some pid) (hr : k.table.get? pid = some r) :
    r.pid = pid ∧ ∃ d, Spends source k r outcome es d k' := by
  have hkeyed := (hk.standing_of_get? hr).keyed
  refine ⟨hkeyed, ?_⟩
  subst hkeyed
  cases h with
  | intro hsteps hsettles =>
    cases hsteps with
    | idle hidle => cases hidle.symm.trans hrun
    | worked hrun' hr' hdeed hstays hpath =>
      rename_i es₁ turn k₁ p r'
      obtain rfl : p = r.pid := Option.some.inj (hrun'.symm.trans hrun)
      obtain rfl : r' = r := Option.some.inj (hr'.symm.trans hr)
      obtain ⟨hrun₁, hmark₁⟩ := hdeed.running_executed hstays hpath
      have hc₁ : k₁.chargeOf r'.pid = some (r'.priority, r'.cpuTimeUsed) := by
        rw [hpath.chargeOf, (hdeed.worked hstays (hn.ne_nextPid hr)).2.2, Kernel.chargeOf, hr]
        rfl
      have hpath' := hpath.append (.cons .ticked hsettles.path)
      rcases hsettles.of_marked (hrun₁.trans hrun) hmark₁ hc₁ with ⟨hused, rfl⟩ | ⟨hused, p', l', rfl⟩
      · exact ⟨none, .charged hdeed hstays hused hpath'⟩
      · exact ⟨some (p', l'), .preempted hdeed hstays hused hpath'⟩
    | released hrun' hr' hdeed hleaves hpath hsettles' =>
      rename_i turn' k₁ p r' es₁ turn k₂
      obtain rfl : p = r.pid := Option.some.inj (hrun'.symm.trans hrun)
      obtain rfl : r' = r := Option.some.inj (hr'.symm.trans hr)
      -- the accounting of the step has filled the slot, so the one after the clock does nothing
      obtain ⟨rfl, rfl⟩ := hsettles.still hsettles'.unmarked hsettles'.filled
      have hrun₂ := hpath.running.trans ((hdeed.released hleaves).2 _)
      have hpath' := (hpath.append hsettles'.path).append (.single .ticked)
      rw [List.append_assoc] at hpath' ⊢
      rcases hsettles'.of_idle hrun₂ with ⟨rfl, hempty⟩ | ⟨p', l', rfl⟩
      · exact ⟨none, .emptied hdeed hleaves hempty hpath'⟩
      · exact ⟨some (p', l'), .refilled hdeed hleaves hpath'⟩

/-- What an exchange of a run that is driven by commands makes of the process in the slot, given its level and its
charge. -/
inductive Visit (pid : Pid) (level : Priority) (used : UInt32) (answer : Except Halt Response) (es : List (Event C))
    (k' : Kernel C) : Prop where
  /-- It is no tick, and nothing changes. -/
  | rested (houtcome : answer.toOption.bind Response.outcome? = none)
    (htick : answer.toOption.bind Response.ticked? = none) (hd : es.filterMap Event.dispatched? = [])
    (hp : es.filterMap Event.preempted? = []) (hrun : k'.running = some pid)
    (hc : k'.chargeOf pid = some (level, used))
  /-- It is a tick, after which the process goes on. -/
  | charged {outcome : StepOutcome} (htick : answer.toOption.bind Response.ticked? = some outcome)
    (hwork : outcome.worked? = some pid) (hused : used + 1 < quantum level) (hd : es.filterMap Event.dispatched? = [])
    (hp : es.filterMap Event.preempted? = []) (hrun : k'.running = some pid)
    (hc : k'.chargeOf pid = some (level, used + 1))
  /-- It is the last tick of the quantum. -/
  | preempted {outcome : StepOutcome} (htick : answer.toOption.bind Response.ticked? = some outcome)
    (hwork : outcome.worked? = some pid) (hused : ¬used + 1 < quantum level)
    (hp : es.filterMap Event.preempted? = [(pid, level)])
  /-- It is a tick in which the process blocks or ends. -/
  | released {outcome : StepOutcome} (htick : answer.toOption.bind Response.ticked? = some outcome)
    (hrelease : outcome.released? = some pid) (hp : es.filterMap Event.preempted? = [])

/-- A tick charges the running process, or the process leaves the slot uncharged. -/
theorem Ticks.visit {source : Source} {outcome : StepOutcome} (h : Ticks source k outcome es k') (hk : k.Consistent)
    (hn : k.Numbered) (hrun : k.running = some pid) (hc : k.chargeOf pid = some (level, used)) :
    Visit pid level used (.ok (.replied (.ticked outcome))) es k' := by
  obtain ⟨r, hr, heq⟩ := Option.map_eq_some_iff.mp hc
  obtain ⟨rfl, rfl⟩ := Prod.mk.inj heq
  obtain ⟨rfl, d, hspends⟩ := h.spends hk hn hrun hr
  cases hspends with
  | charged hdeed hstays hused hpath =>
    obtain ⟨hwork, hslot, hcharge⟩ := hdeed.worked hstays (hn.ne_nextPid hr)
    obtain ⟨hd, hp, -⟩ := hdeed.opening.still
    refine .charged rfl hwork hused ?_ ?_ ?_ ?_
    · simp [List.filterMap_cons, hd, Event.dispatched?]
    · simp [List.filterMap_cons, hp, Event.preempted?]
    · rw [hpath.running, List.foldl_append, hslot, hrun]
      rfl
    · rw [hpath.chargeOf, List.foldl_append, hcharge, hc]
      simp [Event.charge]
  | preempted hdeed hstays hused hpath =>
    refine .preempted rfl (hdeed.worked hstays (hn.ne_nextPid hr)).1 hused ?_
    simp [List.filterMap_cons, hdeed.opening.still.2.1, Event.preempted?]
  | emptied hdeed hleaves hempty hpath =>
    refine .released rfl (hdeed.released hleaves).1 ?_
    simp [List.filterMap_cons, hdeed.opening.still.2.1, Event.preempted?]
  | refilled hdeed hleaves hpath =>
    refine .released rfl (hdeed.released hleaves).1 ?_
    simp [List.filterMap_cons, hdeed.opening.still.2.1, Event.preempted?]

/-- What is neither a step nor a dispatch, and what an accounting without a mark follows, leaves the process in the
slot as it is. -/
theorem Visit.of_move {answer : Except Halt Response} {e : Event C} {turn : List (Event C)} {k₁ : Kernel C}
    (hmove : Move k e k₁) (hsettles : Settles k₁ turn k') (houtcome : answer.toOption.bind Response.outcome? = none)
    (htick : answer.toOption.bind Response.ticked? = none) (hopening : Opening [e]) (hmark : e.mark k.executed = none)
    (hslot : e.slot (some pid) = some pid) (hrun : k.running = some pid)
    (hc : Event.charge pid (k.chargeOf pid) e = some (level, used)) : Visit pid level used answer (e :: turn) k' := by
  have hrun₁ : k₁.running = some pid := by rw [hmove.running, hrun, hslot]
  obtain ⟨rfl, rfl⟩ := hsettles.still (hmove.executed.trans hmark) fun hn => by cases hrun₁.symm.trans hn
  exact .rested houtcome htick hopening.still.1 hopening.still.2.1 hrun₁ ((hmove.chargeOf pid).trans hc)

section

variable {source : Source} {k k' : Kernel Context} {request : Request} {answer : Except Halt Response}
    {es : List (Event Context)}

/-- An exchange of a run that is driven by commands makes of the process in the slot what a tick makes of it, or
nothing. -/
theorem Course.visit (h : Course source k request answer es k') (hk : k.Sound) (hrequest : request.commanded = true)
    (hmark : k.executed = none) (hrun : k.running = some pid) (hc : k.chargeOf pid = some (level, used)) :
    Visit pid level used answer es k' := by
  obtain ⟨r, hr⟩ := hk.consistent.exists_running hrun
  have hwakes : ∀ {woken}, Wakes k woken es k' → answer = .ok (.replied (.woken woken)) →
      Visit pid level used answer es k' := by
    rintro woken hwakes rfl
    cases hwakes with
    | none hb => exact .rested rfl rfl rfl rfl hrun hc
    | some hmove hsettles => exact .of_move hmove hsettles rfl rfl (.woken _ _) hmark rfl hrun hc
  cases h with
  | made hop hmakes =>
    cases hmakes with
    | intro hnew hmove hsettles =>
      subst hnew
      have hne : pid ≠ k.table.nextPid := hk.numbered.ne_nextPid hr
      exact .of_move hmove hsettles rfl rfl (.filed _) hmark rfl hrun (by rw [Event.charge, if_neg hne, hc])
  | ticked hticks => exact hticks.visit hk.consistent hk.numbered hrun hc
  | wokenReply hwakes' => exact hwakes hwakes' rfl
  | quiet hquiet =>
    rcases hquiet with ⟨_, rfl⟩ | ⟨_, rfl⟩ | ⟨_, rfl⟩ | rfl <;> exact .rested rfl rfl rfl rfl hrun hc
  | _ => cases hrequest

/-- A run that is driven by commands leaves no mark between its exchanges. -/
theorem Course.unmarked (h : Course source k request answer es k') (hrequest : request.commanded = true)
    (hmark : k.executed = none) : k'.executed = none := by
  cases h with
  | made hop hmakes =>
    cases hmakes with
    | intro hr hmove hsettles => exact hsettles.unmarked
  | ticked hticks =>
    cases hticks with
    | intro hsteps hsettles => exact hsettles.unmarked
  | wokenReply hwakes =>
    cases hwakes with
    | none => exact hmark
    | some hmove hsettles => exact hsettles.unmarked
  | quiet => exact hmark
  | _ => cases hrequest

end

/-! ## Visits -/

namespace Session

/-- Since it was dispatched the process has stayed in the slot: it has worked in every tick, has been charged for each
of them, and nobody else was dispatched. -/
structure Visited (pid : Pid) (level : Priority) (xs : List Exchange) (s : Session) : Prop where
  running : s.kernel.running = some pid
  charged : ∃ used, s.kernel.chargeOf pid = some (level, used) ∧ used.toNat = Exchange.ticks xs
  worked : ∀ y ∈ xs, y.dispatched? = none ∧ (y.ticked?.isSome = true → y.worked? = some pid)

omit [Machine C] in
/-- A visit that lasts has not used up its quantum. -/
theorem Visited.ticks_lt {s : Session} {xs : List Exchange} (hv : Visited pid level xs s) (hs : s.kernel.Sound) :
    Exchange.ticks xs < 2 ^ level.toNat := by
  obtain ⟨used, hc, hused⟩ := hv.charged
  obtain ⟨hwithin, hlevel⟩ := hs.consistent.charge_within hc
  rw [← hused, ← toNat_quantum (Nat.lt_trans hlevel (by decide))]
  exact UInt32.lt_iff_toNat_lt.mp hwithin

namespace Takes

variable {s : Session} {source : Source} {request : Request} {es : List (Event Context)} {xs : List Exchange}

/-- A process that is dispatched is in the slot, and has not been charged. -/
theorem visited (ht : s.Takes source request es) (hd : (s.exchange source request).dispatched? = some pid) :
    ∃ level, Visited pid level [] (s.exchange source request).after := by
  have hobserved := ht.dispatched
  rw [hd, Option.toList_some] at hobserved
  have hpid : pid ∈ (es.filterMap Event.dispatched?).map Prod.fst := by
    rw [hobserved]
    exact List.mem_cons_self
  obtain ⟨⟨p, level⟩, hmem, rfl⟩ := List.mem_map.mp hpid
  obtain ⟨es₁, k₁, k₂, -, hm, -, htable, hrun⟩ := ht.course.shape.exists_dispatch hmem
  refine ⟨level, hrun.trans hm.running, ⟨0, ?_, rfl⟩, fun y hy => absurd hy List.not_mem_nil⟩
  rw [Kernel.chargeOf, htable]
  refine (hm.chargeOf p).trans ?_
  cases hm with
  | dispatched hidle hdequeue hr => simp [Event.charge, Kernel.chargeOf, hr]

/-- What an exchange makes of a visit, which has not used up its quantum. -/
theorem visit (ht : s.Takes source request es) (hrequest : request.commanded = true) (hmark : s.kernel.executed = none)
    (hv : Visited pid level xs s) : ∃ used, used.toNat = Exchange.ticks xs ∧ used < quantum level ∧ level.toNat < 16 ∧
      Visit pid level used (s.exchange source request).answer es (s.exchange source request).after.kernel := by
  obtain ⟨used, hc, hused⟩ := hv.charged
  obtain ⟨hwithin, hlevel⟩ := ht.before.consistent.charge_within hc
  exact ⟨used, hused, hwithin, hlevel, ht.course.visit ht.before hrequest hmark hv.running hc⟩

omit [Machine C] in
/-- A charge within a quantum does not wrap. -/
theorem toNat_succ_of_lt {used : UInt32} {level : Priority} (h : used < quantum level) :
    (used + 1).toNat = used.toNat + 1 := by
  have hlt := UInt32.lt_iff_toNat_lt.mp h
  have hsize := (quantum level).toNat_lt
  rw [UInt32.toNat_add]
  exact Nat.mod_eq_of_lt (by have : (1 : UInt32).toNat = 1 := rfl; omega)

omit [Machine C] in
/-- What a tick did is what its exchange did. -/
theorem outcome_of_ticked {x : Exchange} {outcome : StepOutcome} (h : x.ticked? = some outcome) :
    x.outcome? = some outcome := by
  obtain ⟨response, hresponse, ho⟩ := Option.bind_eq_some_iff.mp h
  rw [Exchange.outcome?, hresponse]
  cases response with
  | replied reply =>
    cases reply with
    | ticked => exact ho
    | _ => cases ho
  | _ => cases ho

omit [Machine C] in
/-- A process that goes on does not leave the slot. -/
theorem released_of_worked {outcome : StepOutcome} (h : outcome.worked? = some pid) : outcome.released? = none := by
  cases outcome with
  | blocked => cases h
  | terminated => cases h
  | _ => rfl

/-- A visit goes on as long as the process does not leave the slot. -/
theorem visited_succ (ht : s.Takes source request es) (hrequest : request.commanded = true)
    (hmark : s.kernel.executed = none) (hv : Visited pid level xs s)
    (hstays : ¬(s.exchange source request).Leaves pid) :
    Visited pid level (xs ++ [s.exchange source request]) (s.exchange source request).after := by
  obtain ⟨used, hused, hwithin, -, hvisit⟩ := ht.visit hrequest hmark hv
  have hworked : (s.exchange source request).dispatched? = none →
      ((s.exchange source request).ticked?.isSome = true → (s.exchange source request).worked? = some pid) →
      ∀ y ∈ xs ++ [s.exchange source request], y.dispatched? = none ∧
        (y.ticked?.isSome = true → y.worked? = some pid) := by
    intro hd hw y hy
    rcases List.mem_append.mp hy with hy | hy
    · exact hv.worked y hy
    · rw [List.mem_singleton.mp hy]
      exact ⟨hd, hw⟩
  cases hvisit with
  | rested houtcome htick hd hp hrun hc =>
    have htick' : (s.exchange source request).ticked? = none := htick
    refine ⟨hrun, ⟨used, hc, ?_⟩, hworked (ht.dispatched_eq_none hd) ?_⟩
    · simp [Exchange.ticks, List.countP_append, htick', hused]
    · rw [htick']
      intro hw
      cases hw
  | charged htick hwork hlt hd hp hrun hc =>
    have htick' : (s.exchange source request).ticked? = some _ := htick
    refine ⟨hrun, ⟨used + 1, hc, ?_⟩, hworked (ht.dispatched_eq_none hd) fun _ => ?_⟩
    · simp [toNat_succ_of_lt hwithin, Exchange.ticks, List.countP_append, htick', hused]
    · rw [Exchange.worked?, outcome_of_ticked htick']
      exact hwork
  | preempted htick hwork hlt hp =>
    have hpreempted := ht.preempted
    rw [hp] at hpreempted
    exact absurd (.inl (Option.mem_toList.mp (hpreempted ▸ List.mem_cons_self))) hstays
  | released htick hrelease hp =>
    refine absurd (.inr ?_) hstays
    rw [Exchange.released?, outcome_of_ticked htick]
    exact hrelease

/-- A visit ends with a tick. If the process is preempted it has used up its quantum, and if it blocks or ends it has
not used more. -/
theorem visited_end (ht : s.Takes source request es) (hrequest : request.commanded = true)
    (hmark : s.kernel.executed = none) (hv : Visited pid level xs s)
    (hleaves : (s.exchange source request).Leaves pid) :
    (s.exchange source request).ticked?.isSome = true ∧
      ((s.exchange source request).preempted? = some pid →
        (s.exchange source request).worked? = some pid ∧ Exchange.ticks xs + 1 = 2 ^ level.toNat) ∧
      Exchange.ticks xs + 1 ≤ 2 ^ level.toNat := by
  obtain ⟨used, hused, hwithin, hlevel, hvisit⟩ := ht.visit hrequest hmark hv
  have hquantum := toNat_quantum (Nat.lt_trans hlevel (by decide))
  have hle : Exchange.ticks xs + 1 ≤ 2 ^ level.toNat := hv.ticks_lt ht.before
  cases hvisit with
  | rested houtcome htick hd hp hrun hc =>
    have houtcome' : (s.exchange source request).outcome? = none := houtcome
    rw [Exchange.Leaves, ht.preempted_eq_none hp, Exchange.released?, houtcome'] at hleaves
    rcases hleaves with h | h <;> cases h
  | charged htick hwork hlt hd hp hrun hc =>
    rw [Exchange.Leaves, ht.preempted_eq_none hp, Exchange.released?, outcome_of_ticked htick, Option.bind_some,
      released_of_worked hwork] at hleaves
    rcases hleaves with h | h <;> cases h
  | preempted htick hwork hlt hp =>
    refine ⟨Option.isSome_of_mem htick, fun _ => ⟨?_, ?_⟩, hle⟩
    · rw [Exchange.worked?, outcome_of_ticked htick]
      exact hwork
    · rw [UInt32.lt_iff_toNat_lt, toNat_succ_of_lt hwithin, hquantum, hused] at hlt
      omega
  | released htick hrelease hp =>
    refine ⟨Option.isSome_of_mem htick, fun hpreempted => ?_, hle⟩
    cases (ht.preempted_eq_none hp).symm.trans hpreempted

end Takes

variable {levels : UInt8} {k : Kernel Context}

/-- A run that is driven by commands leaves no mark. -/
theorem unmarked_after (hboot : Kernel.boot levels = .ok k) {requests : List (Source × Request)}
    (hcommanded : ∀ asked ∈ requests, asked.2.commanded = true)
    (hroom : Exchange.births (exchanges { kernel := k } requests) < UInt32.size) :
    (after { kernel := k } requests).kernel.executed = none := by
  refine (run_invariant_of_boot (P := fun _ s => s.kernel.executed = none) hboot ?_ ?_ hroom).1
  · rw [(Kernel.boot_eq_ok_iff.mp hboot).2]
    rfl
  · exact fun _ _ _ _ _ hmem ht hP => ht.course.unmarked (hcommanded _ hmem) hP

/-- A visit lasts until the process leaves the slot. -/
theorem visited_after {s : Session} (hs : s.kernel.Sound) (hmark : s.kernel.executed = none)
    (hv : Visited pid level [] s) {requests : List (Source × Request)}
    (hcommanded : ∀ asked ∈ requests, asked.2.commanded = true)
    (hroom : s.kernel.table.nextPid.toNat + Exchange.births (s.exchanges requests) < UInt32.size)
    (hstays : ∀ y ∈ s.exchanges requests, ¬y.Leaves pid) :
    Visited pid level (s.exchanges requests) (s.after requests) := by
  refine (run_invariant (P := fun xs s' => s'.kernel.executed = none ∧
    ((∀ y ∈ xs, ¬y.Leaves pid) → Visited pid level xs s'))
    hs ⟨hmark, fun _ => hv⟩ ?_ hroom).1.2 hstays
  rintro xs s' source request es hmem ht ⟨hmark', hP⟩
  have hrequest := hcommanded _ hmem
  refine ⟨ht.course.unmarked hrequest hmark', fun hstays' => ?_⟩
  exact ht.visited_succ hrequest hmark' (hP fun y hy => hstays' y (List.mem_append_left _ hy))
    (hstays' _ (List.mem_append_right _ List.mem_cons_self))

/-- A dispatch begins a visit, uncharged, which lasts until the process leaves the slot. -/
theorem visited_of_dispatched (hboot : Kernel.boot levels = .ok k) {requests : List (Source × Request)}
    (hcommanded : ∀ asked ∈ requests, asked.2.commanded = true)
    (hroom : Exchange.births (exchanges { kernel := k } requests) < UInt32.size) {older during : List Exchange}
    {x : Exchange} (hsplit : exchanges { kernel := k } requests = older ++ x :: during)
    (hx : x.dispatched? = some pid) :
    ∃ level, x.after.kernel.chargeOf pid = some (level, 0) ∧
      ((∀ y ∈ during, ¬y.Leaves pid) → Visited pid level during (after { kernel := k } requests)) := by
  obtain ⟨before, source, request, rest, es, rfl, rfl, rfl, rfl, ht, hlast, hafter⟩ := takes_of_split hboot hroom hsplit
  rw [List.forall_mem_append, List.forall_mem_cons] at hcommanded
  obtain ⟨hearlier, hrequest, hrest⟩ := hcommanded
  obtain ⟨level, hv⟩ := ht.visited hx
  have hmark : (after { kernel := k } before).kernel.executed = none := by
    refine unmarked_after hboot hearlier ?_
    rw [hsplit, births_append] at hroom
    omega
  have hmark' := ht.course.unmarked hrequest hmark
  refine ⟨level, ?_, fun hstays => ?_⟩
  · obtain ⟨used, hc, hused⟩ := hv.charged
    rw [hc, UInt32.toNat_inj.mp (hused.trans rfl : used.toNat = (0 : UInt32).toNat)]
  · rw [hafter]
    exact visited_after ht.after hmark' hv hrest hlast hstays

/-- In every run of a kernel since it booted that is driven by commands, and in which processes are made at any time:
a process is dispatched uncharged, also in a tick in which another blocked or ended. After every exchange until it
leaves the slot its charge is the number of ticks since then, in each of which it worked. It leaves the slot in a
tick. Where it is preempted it has executed a whole quantum, all of it work, and where it blocks or ends it has
executed no more than a quantum. -/
theorem exact_quantum (hboot : Kernel.boot levels = .ok k) (requests : List (Source × Request))
    (hcommanded : ∀ asked ∈ requests, asked.2.commanded = true)
    (hroom : Exchange.births (exchanges { kernel := k } requests) < UInt32.size) (older during : List Exchange)
    (x : Exchange) (hsplit : exchanges { kernel := k } requests = older ++ x :: during) (pid : Pid)
    (hx : x.dispatched? = some pid) :
    ∃ level, x.after.kernel.chargeOf pid = some (level, 0) ∧
      ((∀ y ∈ during, ¬y.Leaves pid) → Visited pid level during (after { kernel := k } requests)) ∧
      ∀ stay y rest, during = stay ++ y :: rest → (∀ z ∈ stay, ¬z.Leaves pid) → y.Leaves pid →
        y.ticked?.isSome = true ∧ (∀ z ∈ stay, z.ticked?.isSome = true → z.worked? = some pid) ∧
        (y.preempted? = some pid → y.worked? = some pid ∧ Exchange.ticks (stay ++ [y]) = 2 ^ level.toNat) ∧
        (y.released? = some pid → 1 ≤ Exchange.ticks (stay ++ [y]) ∧ Exchange.ticks (stay ++ [y]) ≤
          2 ^ level.toNat) := by
  obtain ⟨level, hc, hvisited⟩ := visited_of_dispatched hboot hcommanded hroom hsplit hx
  refine ⟨level, hc, hvisited, ?_⟩
  rintro stay y rest rfl hstays hleaves
  rw [← List.cons_append, ← List.append_assoc] at hsplit
  obtain ⟨before, source, request, later, es, hrequests, hbefore, rfl, -, ht, -, -⟩ := takes_of_split hboot hroom hsplit
  rw [hrequests, List.forall_mem_append, List.forall_mem_cons] at hcommanded
  obtain ⟨hearlier, hrequest, -⟩ := hcommanded
  rw [hsplit, births_append, hbefore] at hroom
  have hroom' : Exchange.births (exchanges { kernel := k } before) < UInt32.size := by omega
  obtain ⟨level', hc', hvisited'⟩ := visited_of_dispatched hboot hearlier hroom' hbefore.symm hx
  obtain ⟨rfl, -⟩ := Prod.mk.inj (Option.some.inj (hc.symm.trans hc'))
  have hv := hvisited' hstays
  obtain ⟨htick, hpreempted, hle⟩ := ht.visited_end hrequest (unmarked_after hboot hearlier hroom') hv hleaves
  have hticks : ∀ z : Exchange, z.ticked?.isSome = true → Exchange.ticks (stay ++ [z]) = Exchange.ticks stay + 1 := by
    intro z hz
    simp [Exchange.ticks, List.countP_append, hz]
  rw [hticks _ htick]
  exact ⟨htick, fun z hz => (hv.worked z hz).2, hpreempted, fun _ => ⟨Nat.le_add_left _ _, hle⟩⟩

/-- In the sample the first process is dispatched again in the tick in which its child blocks, and preempted two ticks
later. -/
theorem exact_quantum_sample :
    Kernel.boot 2 = .ok (Kernel.empty 2 : Kernel Context) ∧
      (∀ asked ∈ sample.map (Prod.mk Source.empty), asked.2.commanded = true) ∧
      Exchange.births (exchanges { kernel := Kernel.empty 2 } (sample.map (Prod.mk Source.empty))) < UInt32.size ∧
      ∃ older x stay y, exchanges { kernel := Kernel.empty 2 } (sample.map (Prod.mk Source.empty)) =
        older ++ x :: (stay ++ [y]) ∧
        x.released? = some 2 ∧ x.dispatched? = some 0 ∧ y.preempted? = some 0 ∧
        ∃ level, x.after.kernel.chargeOf 0 = some (level, 0) ∧ Exchange.ticks (stay ++ [y]) = 2 ^ level.toNat := by
  have hboot : Kernel.boot 2 = .ok (Kernel.empty 2 : Kernel Context) := rfl
  have hcommanded : ∀ asked ∈ sample.map (Prod.mk Source.empty), asked.2.commanded = true := by decide
  have hroom : Exchange.births (exchanges { kernel := Kernel.empty 2 } (sample.map (Prod.mk Source.empty))) <
      UInt32.size := by
    decide +kernel
  have hsplit : exchanges { kernel := Kernel.empty 2 } (sample.map (Prod.mk Source.empty)) =
      [_, _, _, _, _, _] ++ _ :: ([_, _] ++ [_]) := rfl
  obtain ⟨level, hc, -, hend⟩ := exact_quantum hboot _ hcommanded hroom _ _ _ hsplit 0 (by decide +kernel)
  have hpreempted := (hend _ _ [] rfl (by decide +kernel) (.inl (by decide +kernel))).2.2.1 (by decide +kernel)
  exact ⟨hboot, hcommanded, hroom, _, _, _, _, hsplit, by decide +kernel, by decide +kernel, by decide +kernel, level,
    hc, hpreempted.2⟩

end Session

end Timeshare
