import Timeshare.Proofs.Conservation
import Timeshare.Proofs.Submissions
import Timeshare.Proofs.TickFrame

/-!
# Only a tick takes the slot away

As long as a kernel is driven by commands, nothing is left to charge between its exchanges, and with the slot empty
nobody waits. So the accounting after a process was made or woken charges nobody: the process waits at the tail of its
level where the slot is taken, and goes into the slot where it is empty (`Session.only_ticks_preempt`).
-/

namespace Timeshare

open Exchange

/-! ## Processes that are made or woken -/

/-- The process that was made, forked or woken. -/
def Exchange.arrived? (x : Exchange) : Option Pid := x.born?.or x.woken?

section

variable {C : Type}

/-- The event puts a process into a ready queue from outside: one that is made, or one that is woken. -/
inductive Event.Brings : Event C → Pid → Priority → Prop where
  | filed (r : ProcessRecord C) : Brings (.filed r) r.pid r.priority
  | woken (pid : Pid) (level : Priority) : Brings (.woken pid level) pid level

/-- The process waits at the tail of its level, and nothing else happened to the slot, to the others or to what the
tally says of them. -/
structure Kernel.Lengthens (k : Kernel C) (pid : Pid) (level : Priority) (k' : Kernel C) : Prop where
  slot : k'.running = k.running
  placed : k'.levelOf pid = some level
  ready : ∀ l, k'.queues.readyAt l = if l = level then k.queues.readyAt l ++ [pid] else k.queues.readyAt l
  others : ∀ q ≠ pid, k'.table.get? q = k.table.get? q
  dispatches : k'.stats.dispatches = k.stats.dispatches
  preemptions : k'.stats.preemptions = k.stats.preemptions
  contextSwitches : k'.stats.contextSwitches = k.stats.contextSwitches

/-- The process went into the slot, nobody waits, and nothing happened to the others. -/
structure Kernel.Seats (k : Kernel C) (pid : Pid) (level : Priority) (k' : Kernel C) : Prop where
  slot : k'.running = some pid
  placed : k'.levelOf pid = some level
  ready : ∀ l, k'.queues.readyAt l = []
  others : ∀ q ≠ pid, k'.table.get? q = k.table.get? q
  dispatches : k'.stats.dispatches = k.stats.dispatches + 1
  preemptions : k'.stats.preemptions = k.stats.preemptions

variable [Machine C] {k k₁ k' : Kernel C} {e : Event C} {pid : Pid} {level : Priority} {turn : List (Event C)}

namespace Event.Brings

omit [Machine C] in
/-- Such an event touches neither the slot nor the mark. -/
theorem still (h : e.Brings pid level) : (∀ running, e.slot running = running) ∧ ∀ mark, e.mark mark = mark := by
  cases h <;> exact ⟨fun _ => rfl, fun _ => rfl⟩

/-- Its process stands at the tail of its level. -/
theorem ready (h : e.Brings pid level) (hmove : Move k e k₁) (hk : k.Consistent) (l : Priority) :
    k₁.queues.readyAt l = if l = level then k.queues.readyAt l ++ [pid] else k.queues.readyAt l := by
  have hflow := hmove.flow hk l
  have hadmitted : atLevel l e.admitted?.toList = if l = level then [pid] else [] := by
    rw [← atLevel_map]
    cases h <;> rfl
  have hdispatched : atLevel l e.dispatched?.toList = [] := by cases h <;> rfl
  rw [hadmitted, hdispatched, List.nil_append] at hflow
  rw [← hflow]
  split
  · rfl
  · exact List.append_nil _

/-- It changes the record of its process only. -/
theorem others (h : e.Brings pid level) (hmove : Move k e k₁) {q : Pid} (hne : q ≠ pid) :
    k₁.table.get? q = k.table.get? q := by
  rw [hmove.get?]
  cases h <;> exact if_neg hne

/-- It is what a process does that comes to a level. -/
theorem lengthens (h : e.Brings pid level) (hmove : Move k e k₁) (hk : k.Consistent) : k.Lengthens pid level k₁ := by
  have hstats := hmove.stats
  refine ⟨?_, ?_, h.ready hmove hk, fun q hne => h.others hmove hne, ?_, ?_, ?_⟩
  · rw [hmove.running, h.still.1]
  · refine hmove.levelOf_of_mem (List.mem_append_left _ ?_)
    cases h <;> exact List.mem_singleton_self _
  all_goals
    rw [hstats]
    cases h <;> rfl

/-- Where the slot was empty it waits alone. -/
theorem alone (h : e.Brings pid level) (hmove : Move k e k₁) (hk : k.Sound) (hrun : k.running = none) (l : Priority) :
    k₁.queues.readyAt l = if l = level then [pid] else [] := by
  rw [h.ready hmove hk.consistent, hk.readyAt_of_idle hrun]
  rfl

/-- With nothing to charge, the accounting leaves it there if the slot is taken, and puts it into the slot if it is
empty. -/
theorem settles (h : e.Brings pid level) (hmove : Move k e k₁) (hsettles : Settles k₁ turn k') (hk : k.Sound)
    (hmark : k.executed = none) :
    (k.running.isSome = true ∧ turn = []) ∨ (k.running = none ∧ turn = [.dispatched pid level]) := by
  have hrun₁ : k₁.running = k.running := hmove.running.trans (h.still.1 _)
  have hmark₁ : k₁.executed = none := (hmove.executed.trans (h.still.2 _)).trans hmark
  cases hrun : k.running with
  | some p =>
    obtain ⟨rfl, -⟩ := hsettles.still hmark₁ fun hnone => by cases hrun.symm.trans (hrun₁.symm.trans hnone)
    exact .inl ⟨rfl, rfl⟩
  | none =>
    refine .inr ⟨rfl, ?_⟩
    have hk₁ := hmove.consistent hk.consistent
    have halone := h.alone hmove hk hrun
    have hpath := hsettles.path
    rcases hsettles.of_idle (hrun₁.trans hrun) with ⟨rfl, hempty⟩ | ⟨p, l, rfl⟩
    · cases hpath
      have hmem := (Queues.mem_flatten_iff hk₁.length_le).mpr
        ⟨level, by rw [halone, if_pos rfl]; exact List.mem_singleton_self pid⟩
      rw [hempty] at hmem
      cases hmem
    · cases hpath with
      | cons hm _ =>
        have hhead := (hm.leaves hk₁).readyAt l
        rw [if_pos rfl, halone] at hhead
        split at hhead
        · rename_i hl
          rw [hl, (List.cons.inj hhead).1]
        · cases hhead

/-- In the slot it has left nobody waiting. -/
theorem seats (h : e.Brings pid level) (hmove : Move k e k₁) (hm : Move k₁ (.dispatched pid level) k') (hk : k.Sound)
    (hrun : k.running = none) : k.Seats pid level k' := by
  have hlengthens := h.lengthens hmove hk.consistent
  have hstats := hm.stats
  refine ⟨hm.running, hm.levelOf_of_mem (List.mem_singleton_self _), fun l => ?_, fun q hne => ?_, ?_, ?_⟩
  · have hflow := hm.flow (hmove.consistent hk.consistent) l
    have hdispatched :
      atLevel l (Event.dispatched (C := C) pid level).dispatched?.toList = if l = level then [pid] else [] :=
      atLevel_map [pid] l level
    rw [h.alone hmove hk hrun, hdispatched] at hflow
    exact List.self_eq_append_right.mp ((List.append_nil _).symm.trans hflow)
  · rw [hm.get?]
    exact (if_neg hne).trans (h.others hmove hne)
  · rw [hstats, ← hlengthens.dispatches]
    rfl
  · rw [hstats, ← hlengthens.preemptions]
    rfl

omit [Machine C] in
/-- An answer that tells of it names its process. -/
theorem arrived (h : e.Brings pid level) {x : Exchange} (hborn : x.answer.toOption.bind Response.born? = e.born?)
    (hwoken : x.answer.toOption.bind Response.woken? = e.woken?.map Prod.fst) : x.arrived? = some pid := by
  rw [Exchange.arrived?, Exchange.born?, Exchange.woken?, hborn, hwoken]
  cases h <;> rfl

/-- It is not the process in the slot. -/
theorem ne_running (h : e.Brings pid level) (hmove : Move k e k₁) (hk : k.Consistent) {q : Pid}
    (hrun : k.running = some q) : q ≠ pid := by
  rintro rfl
  have hmem : q ∈ k₁.queues.readyAt level := by
    rw [h.ready hmove hk, if_pos rfl]
    exact List.mem_append_right _ (List.mem_singleton_self q)
  have hrun₁ : k₁.running = some q := by rw [hmove.running, h.still.1, hrun]
  exact (hmove.consistent hk).not_readyAt_of_running hrun₁ level hmem

/-- Of the processes that there were it is the one that is woken. -/
theorem ne_live (h : e.Brings pid level) (hmove : Move k e k₁) {q : Pid} {r : ProcessRecord C}
    (hr : k.table.get? q = some r) (hq : e.woken?.map Prod.fst ≠ some q) : q ≠ pid := by
  rintro rfl
  cases h with
  | filed r' =>
    cases hmove with
    | filed horigin hfresh hqueue => exact hfresh (Table.mem_pids_iff.mpr ⟨r, hr⟩)
  | woken => exact hq rfl

end Event.Brings

omit [Machine C] in
/-- The process that is woken is ready, and its record says nothing else that is new. -/
theorem Move.get?_of_woken [Machine C] (hmove : Move k e k₁) {q : Pid} {r : ProcessRecord C}
    (hq : e.woken?.map Prod.fst = some q) (hr : k.table.get? q = some r) :
    k₁.table.get? q = some { r with state := .ready } := by
  rw [hmove.get?, hr]
  cases e with
  | woken p l =>
    obtain rfl := Option.some.inj hq
    exact if_pos rfl
  | _ => cases hq

end

/-! ## Exchanges without a step -/

/-- Whether the request is for a tick or a step. -/
def Request.executes : Request → Bool
  | operation .step | command .tick => true
  | line text => Text.trimmed text = Command.tick.text
  | _ => false

/-- An exchange of this answer puts a process into a ready queue from outside and fills the slot, or it leaves the
kernel as it is. -/
inductive Arrives (source : Source) (k : Kernel Context) (request : Request) (answer : Except Halt Response) :
    Kernel Context → Prop where
  | nobody {k' : Kernel Context} (hborn : answer.toOption.bind Response.born? = none)
    (hwoken : answer.toOption.bind Response.woken? = none) (hsame : k' = k) : Arrives source k request answer k'
  | somebody {e : Event Context} {pid : Pid} {level : Priority} {turn : List (Event Context)} {k₁ k' : Kernel Context}
    (hbrings : e.Brings pid level) (hborn : answer.toOption.bind Response.born? = e.born?)
    (hwoken : answer.toOption.bind Response.woken? = e.woken?.map Prod.fst)
    (hlevel : ∀ op making, request = .operation op → op.making? source = some making → e.born? = some pid →
      level = making.1)
    (hmove : Move k e k₁) (hsettles : Settles k₁ turn k') : Arrives source k request answer k'

/-- In a run that is driven by commands this is what an exchange without a step is. -/
theorem Course.arrives {source : Source} {k k' : Kernel Context} {request : Request} {answer : Except Halt Response}
    {es : List (Event Context)} (h : Course source k request answer es k') (hrequest : request.commanded = true)
    (houtcome : answer.toOption.bind Response.outcome? = none) : Arrives source k request answer k' := by
  cases h with
  | made hop hmakes =>
    cases hmakes with
    | intro hr hmove hsettles =>
      subst hr
      refine .somebody (.filed _) rfl rfl ?_ hmove hsettles
      rintro op making ⟨⟩ hmaking -
      obtain rfl := Option.some.inj (hop.symm.trans hmaking)
      rfl
  | ticked => cases houtcome
  | wokenReply hwakes =>
    cases hwakes with
    | none => exact .nobody rfl rfl rfl
    | some hmove hsettles => exact .somebody (.woken _ _) rfl rfl (fun _ _ _ _ hborn => by cases hborn) hmove hsettles
  | quiet hquiet => rcases hquiet with ⟨_, rfl⟩ | ⟨_, rfl⟩ | ⟨_, rfl⟩ | rfl <;> exact .nobody rfl rfl rfl
  | _ => cases hrequest

namespace Exchange

/-- The process stays in the slot, and nothing happens to the others but that one is made or woken and waits. -/
structure Spares (x : Exchange) (pid : Pid) : Prop where
  slot : x.after.kernel.running = some pid
  record : x.after.kernel.table.get? pid = x.before.kernel.table.get? pid
  others : ∀ q r, x.before.kernel.table.get? q = some r → x.woken? ≠ some q → x.after.kernel.table.get? q = some r
  woken : ∀ q r, x.before.kernel.table.get? q = some r → x.woken? = some q →
    x.after.kernel.table.get? q = some { r with state := .ready }
  dispatches : x.after.kernel.stats.dispatches = x.before.kernel.stats.dispatches
  preemptions : x.after.kernel.stats.preemptions = x.before.kernel.stats.preemptions
  contextSwitches : x.after.kernel.stats.contextSwitches = x.before.kernel.stats.contextSwitches
  /-- Whoever is made or woken stands at the tail of its level. -/
  tail : ∀ q, x.arrived? = some q → ∃ level, x.after.kernel.levelOf q = some level ∧ ∀ l,
    x.after.kernel.queues.readyAt l =
      if l = level then x.before.kernel.queues.readyAt l ++ [q] else x.before.kernel.queues.readyAt l
  /-- If nobody is, nothing happens at all. -/
  still : x.arrived? = none → x.after.kernel = x.before.kernel

end Exchange

namespace Session

variable {s : Session} {source : Source} {request : Request}

/-- A request that is not for a tick or a step executes nothing. -/
theorem outcome?_of_executes (hs : s.kernel.Sound) (hrequest : request.commanded = true)
    (htick : request.executes = false) :
    (s.exchange source request).outcome? = none := by
  have hobeys : ∀ {c : Command} {answer : Except Halt Response} {s' : Session}, s.Obeys source c answer s' → c ≠ .tick →
      answer.toOption.bind Response.outcome? = none := by
    intro c answer s' h hc
    cases h with
    | ticked => exact absurd rfl hc
    | _ => rfl
  cases request with
  | operation op => exact (exchange_making (isSome_making? hrequest source)).1
  | command c =>
    refine hobeys (exchange_obeys hs source c) ?_
    rintro rfl
    cases htick
  | line text =>
    have hhears := exchange_hears hs source text
    unfold Exchange.outcome?
    generalize (s.exchange source (.line text)).answer = answer, (s.exchange source (.line text)).after = s' at hhears
    cases hhears with
    | unknown => rfl
    | command htext hcommand =>
      refine hobeys hcommand ?_
      rintro rfl
      exact absurd htext (of_decide_eq_false htick)
  | newSession => rfl

/-- What an exchange without a step does. -/
theorem exchange_arrives (hs : s.kernel.Sound) (hrequest : request.commanded = true)
    (htick : request.executes = false) :
    Arrives source s.kernel request (s.exchange source request).answer (s.exchange source request).after.kernel := by
  obtain ⟨es, hcourse⟩ := exchange_course source hs request
  exact hcourse.arrives hrequest (outcome?_of_executes hs hrequest htick)

end Session

namespace Arrives

variable {source : Source} {x : Exchange} {request : Request} {pid p : Pid}

/-- The process in the slot is spared. -/
theorem spares (h : Arrives source x.before.kernel request x.answer x.after.kernel) (hs : x.before.kernel.Sound)
    (hmark : x.before.kernel.executed = none) (hrun : x.before.kernel.running = some pid) : x.Spares pid := by
  cases h with
  | nobody hborn hwoken hsame =>
    have harrived : x.arrived? = none := Option.or_eq_none_iff.mpr ⟨hborn, hwoken⟩
    refine ⟨by rw [hsame, hrun], by rw [hsame], fun q r hr _ => by rw [hsame, hr], fun q r _ hq => ?_, by rw [hsame],
      by rw [hsame], by rw [hsame], fun q hq => ?_, fun _ => hsame⟩
    · cases hwoken.symm.trans hq
    · cases harrived.symm.trans hq
  | @somebody e p level turn k₁ _ hbrings hborn hwoken hlevel hmove hsettles =>
    rcases hbrings.settles hmove hsettles hs hmark with ⟨-, rfl⟩ | ⟨hidle, -⟩
    · have hpath := hsettles.path
      cases hpath
      have hlengthens := hbrings.lengthens hmove hs.consistent
      have harrived : x.arrived? = some p := hbrings.arrived hborn hwoken
      refine ⟨hlengthens.slot.trans hrun, hlengthens.others pid (hbrings.ne_running hmove hs.consistent hrun),
        fun q r hr hq => ?_, fun q r hr hq => hmove.get?_of_woken (hwoken.symm.trans hq) hr, hlengthens.dispatches,
        hlengthens.preemptions, hlengthens.contextSwitches, fun q hq => ?_, fun hnone => ?_⟩
      · rw [hlengthens.others q (hbrings.ne_live hmove hr fun hq' => hq (hwoken.trans hq')), hr]
      · obtain rfl := Option.some.inj (harrived.symm.trans hq)
        exact ⟨level, hlengthens.placed, hlengthens.ready⟩
      · cases harrived.symm.trans hnone
    · cases hidle.symm.trans hrun

/-- With the slot empty, whoever is made or woken goes into it. -/
theorem seats (h : Arrives source x.before.kernel request x.answer x.after.kernel) (hs : x.before.kernel.Sound)
    (hmark : x.before.kernel.executed = none) (hrun : x.before.kernel.running = none)
    (harrived : x.arrived? = some pid) :
    ∃ level, x.before.kernel.Seats pid level x.after.kernel := by
  cases h with
  | nobody hborn hwoken =>
    rw [arrived?, born?, woken?, hborn, hwoken] at harrived
    cases harrived
  | @somebody e p level turn k₁ _ hbrings hborn hwoken hlevel hmove hsettles =>
    obtain rfl := Option.some.inj ((hbrings.arrived hborn hwoken).symm.trans harrived)
    rcases hbrings.settles hmove hsettles hs hmark with ⟨hbusy, -⟩ | ⟨-, rfl⟩
    · rw [hrun] at hbusy
      cases hbusy
    · have hpath := hsettles.path
      cases hpath with
      | cons hm hrest =>
        cases hrest
        exact ⟨level, hbrings.seats hmove hm hs hrun⟩

/-- A process that is made has the level that was asked for. -/
theorem levelOf (h : Arrives source x.before.kernel request x.answer x.after.kernel) (hs : x.before.kernel.Sound)
    {op : Operation} {making : Priority × Except Fault Program} (hrequest : request = .operation op)
    (hop : op.making? source = some making) (hborn : x.born? = some pid) :
    x.after.kernel.levelOf pid = some making.1 := by
  cases h with
  | nobody hborn' => cases hborn'.symm.trans hborn
  | @somebody e p level turn k₁ _ hbrings hborn' hwoken hlevel hmove hsettles =>
    have harrived := hbrings.arrived hborn' hwoken
    rw [arrived?, hborn, Option.some_or] at harrived
    obtain rfl := Option.some.inj harrived
    obtain rfl := hlevel op making hrequest hop (hborn'.symm.trans hborn)
    refine hsettles.path.levelOf ?_ (hbrings.lengthens hmove hs.consistent).placed
    cases hsettles.turn <;> simp [Event.ended?]

end Arrives

/-! ## Every run -/

namespace Session

variable {levels : UInt8} {k : Kernel Context}

/-- In every run of a kernel since it booted that is driven by commands: an exchange that is not for a tick, whether
it is refused or not, leaves the process in the slot there, and changes no record, no queue and no dispatch but for
the process that it makes or wakes, which waits at the tail of its level. With the slot empty that process goes into
it at once. -/
theorem only_ticks_preempt (hboot : Kernel.boot levels = .ok k) {requests : List (Source × Request)}
    (hcommanded : ∀ asked ∈ requests, asked.2.commanded = true)
    (hroom : Exchange.births (exchanges { kernel := k } requests) < UInt32.size) {source : Source} {request : Request}
    {x : Exchange} (hx : x = (after { kernel := k } requests).exchange source request)
    (hrequest : request.commanded = true) (htick : request.executes = false) :
    (∀ pid, x.before.kernel.running = some pid → x.Spares pid) ∧
    (x.before.kernel.running = none → ∀ pid, x.arrived? = some pid → ∃ level,
      x.before.kernel.Seats pid level x.after.kernel) ∧
    ∀ op making pid, request = .operation op → op.making? source = some making → x.born? = some pid →
      x.after.kernel.levelOf pid = some making.1 := by
  have hs := (sound_after hboot hroom).1
  have hmark := unmarked_after hboot hcommanded hroom
  have harrives : Arrives source _ _ _ _ := exchange_arrives hs hrequest htick
  have hbefore : x.before = after { kernel := k } requests := hx ▸ (exchange_before source _ request).1
  rw [← hx, ← hbefore] at harrives
  rw [← hbefore] at hs hmark
  exact ⟨fun pid hrun => harrives.spares hs hmark hrun, fun hrun pid harrived => harrives.seats hs hmark hrun harrived,
    fun op making pid hop hmaking hborn => harrives.levelOf hs hop hmaking hborn⟩

/-- In the sample the first process goes into the empty slot at once, and later it is spared when its child is woken,
which then waits at their level. -/
theorem only_ticks_preempt_sample :
    Kernel.boot 2 = .ok (Kernel.empty 2 : Kernel Context) ∧
      (∀ asked ∈ (sample.take 7).map (Prod.mk Source.empty), asked.2.commanded = true) ∧
      Exchange.births (exchanges { kernel := Kernel.empty 2 } ((sample.take 7).map (Prod.mk Source.empty))) <
        UInt32.size ∧
      (∃ level, (Kernel.empty 2).Seats 0 level
        (exchange Source.empty { kernel := Kernel.empty 2 } (.operation (.createParsed 1 [.exit]))).after.kernel) ∧
      ((after { kernel := Kernel.empty 2 } ((sample.take 7).map (Prod.mk Source.empty))).exchange Source.empty
        (.command .wake)).woken? =
        some 2 ∧
      ((after { kernel := Kernel.empty 2 } ((sample.take 7).map (Prod.mk Source.empty))).exchange Source.empty
        (.command .wake)).Spares 0 := by
  have hboot : Kernel.boot 2 = .ok (Kernel.empty 2 : Kernel Context) := rfl
  have hcommanded : ∀ asked ∈ (sample.take 7).map (Prod.mk Source.empty), asked.2.commanded = true := by decide +kernel
  have hroom : Exchange.births (exchanges { kernel := Kernel.empty 2 } ((sample.take 7).map (Prod.mk Source.empty))) <
      UInt32.size := by
    decide +kernel
  have hnone : ∀ asked ∈ ([] : List (Source × Request)), asked.2.commanded = true := by simp
  refine ⟨hboot, hcommanded, hroom, ?_, by decide +kernel, ?_⟩
  · exact (only_ticks_preempt
      (x := exchange Source.empty { kernel := Kernel.empty 2 } (.operation (.createParsed 1 [.exit])))
      hboot hnone (by decide) rfl rfl rfl).2.1 rfl 0 rfl
  · exact (only_ticks_preempt hboot hcommanded hroom rfl rfl rfl).1 0 rfl

end Session

end Timeshare
