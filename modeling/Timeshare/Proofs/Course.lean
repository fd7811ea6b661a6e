import Timeshare.Exchange
import Timeshare.Proofs.Steps

/-!
# Exchanges as paths

Between requests a kernel is sound: consistent, with its numbers given out in order, and without a process that waits
for an empty slot. Every exchange on a sound kernel takes one of a few courses (`Course`), each a path that its answer
tells, and it leaves a sound kernel as long as numbers last. So all that is kept by every course holds after every
run.
-/

namespace Timeshare

/-! ## Sound kernels -/

section

variable {C : Type}

/-- What holds of a kernel between requests. -/
structure Kernel.Sound (k : Kernel C) : Prop where
  consistent : k.Consistent
  numbered : k.Numbered
  filled : k.running = none → k.queues.ready.flatten = []

theorem Kernel.sound_of_boot {levels : UInt8} {k : Kernel C} (h : boot levels = .ok k) : k.Sound := by
  obtain ⟨hlevels, rfl⟩ := boot_eq_ok_iff.mp h
  exact ⟨consistent_empty hlevels, numbered_empty levels, fun _ => by simp [empty, Queues.empty]⟩

/-- With the slot empty nobody waits at any level. -/
theorem Kernel.Sound.readyAt_of_idle {k : Kernel C} (hk : k.Sound) (hrun : k.running = none) (level : Priority) :
    k.queues.readyAt level = [] := by
  rw [List.eq_nil_iff_forall_not_mem]
  intro pid hwaits
  have hmem := (Queues.mem_flatten_iff hk.consistent.length_le).mpr ⟨level, hwaits⟩
  rw [hk.filled hrun] at hmem
  exact List.not_mem_nil hmem

variable [Machine C]

/-- In a deed after which the process goes on it stays in the slot, and it is marked. -/
theorem Deed.running_executed {source : Source} {k k' : Kernel C} {r : ProcessRecord C} {outcome : StepOutcome}
    {es : List (Event C)} (h : Deed source k r outcome es) (hstays : outcome.releases = false) (hpath : Path k es k') :
    k'.running = k.running ∧ k'.executed = some r.pid := by
  rw [hpath.running, hpath.executed]
  cases h <;> first
    | exact ⟨rfl, rfl⟩
    | cases hstays

/-- A step is idle exactly if the slot is empty. -/
theorem Steps.idle_iff {source : Source} {k k' : Kernel C} {outcome : StepOutcome} {es : List (Event C)}
    (h : Steps source k outcome es k') : outcome = .idle ↔ k.running = none := by
  have hbusy : ∀ {pid r es}, k.running = some pid → Deed source k r outcome es →
      (outcome = .idle ↔ k.running = none) := by
    intro pid r es hrun hdeed
    rw [hrun]
    cases hdeed <;> exact ⟨fun h => (by cases h), fun h => (by cases h)⟩
  cases h with
  | idle hrun => exact ⟨fun _ => hrun, fun _ => rfl⟩
  | worked hrun hr hdeed hstays hpath => exact hbusy hrun hdeed
  | released hrun hr hdeed hleaves hpath hsettles => exact hbusy hrun hdeed

/-- After a step the slot is empty only if no process waits. -/
theorem Steps.filled {source : Source} {k k' : Kernel C} {outcome : StepOutcome} {es : List (Event C)}
    (h : Steps source k outcome es k') (hk : k.Sound) : k'.running = none → k'.queues.ready.flatten = [] := by
  cases h with
  | idle => exact hk.filled
  | worked hrun hr hdeed hstays hpath =>
    intro hn
    rw [(hdeed.running_executed hstays hpath).1, hrun] at hn
    cases hn
  | released hrun hr hdeed hleaves hpath hsettles => exact hsettles.filled

end

/-! ## Courses -/

/-- An exchange of this request and this answer is these events, and leaves the second kernel. -/
inductive Course (source : Source) (k : Kernel Context) :
    Request → Except Halt Response → List (Event Context) → Kernel Context → Prop where
  | made {op : Operation} {priority : Priority} {program : Program} {es : List (Event Context)} {k' : Kernel Context}
    (hop : op.making? source = some (priority, .ok program)) (hmakes : Makes k priority program es k') :
    Course source k (.operation op) (.ok (.answered (.created k.table.nextPid))) es k'
  | stepped {outcome : StepOutcome} {es : List (Event Context)} {k' : Kernel Context}
    (hsteps : Steps source k outcome es k') :
    Course source k (.operation .step) (.ok (.answered (.stepped outcome))) es k'
  | scheduled {es : List (Event Context)} {k' : Kernel Context} (hsettles : Settles k es k') :
    Course source k (.operation .reschedule) (.ok (.answered (.scheduled k'.running))) es k'
  | woken {woken : Option Pid} {es : List (Event Context)} {k' : Kernel Context} (hwakes : Wakes k woken es k') :
    Course source k (.operation .wake) (.ok (.answered (.woken woken))) es k'
  | advanced : Course source k (.operation .advanceClock) (.ok (.answered (.advanced (k.clock + 1)))) [.ticked]
      { k with clock := k.clock + 1 }
  | ticked {request : Request} {outcome : StepOutcome} {es : List (Event Context)} {k' : Kernel Context}
    (hticks : Ticks source k outcome es k') : Course source k request (.ok (.replied (.ticked outcome))) es k'
  | wokenReply {request : Request} {woken : Option Pid} {es : List (Event Context)} {k' : Kernel Context}
    (hwakes : Wakes k woken es k') : Course source k request (.ok (.replied (.woken woken))) es k'
  /-- The kernel stays as it is: the request was refused, or it was for a report or a new session. -/
  | quiet {request : Request} {answer : Except Halt Response}
    (hquiet : (∃ halt, answer = .error halt) ∨ (∃ s, answer = .ok (.replied (.report s))) ∨
      (∃ s, answer = .ok (.replied (.shutdown s))) ∨ answer = .ok .renewed) : Course source k request answer [] k

namespace Course

variable {source : Source} {k k' : Kernel Context} {request : Request} {answer : Except Halt Response}
  {es : List (Event Context)}

/-- Every course is a path. -/
theorem path (h : Course source k request answer es k') : Path k es k' := by
  cases h with
  | made hop hmakes => exact hmakes.path
  | stepped hsteps => exact hsteps.path
  | scheduled hsettles => exact hsettles.path
  | woken hwakes => exact hwakes.path
  | advanced => exact .single .ticked
  | ticked hticks => exact hticks.path
  | wokenReply hwakes => exact hwakes.path
  | quiet => exact .nil k

/-- An instruction is executed unless the slot is empty. -/
theorem idle_iff (h : Course source k request answer es k') {outcome : StepOutcome}
    (houtcome : answer.toOption.bind Response.outcome? = some outcome) : outcome = .idle ↔ k.running = none := by
  cases h with
  | stepped hsteps =>
    obtain rfl := Option.some.inj houtcome
    exact hsteps.idle_iff
  | ticked hticks =>
    cases hticks with
    | intro hsteps hsettles =>
      obtain rfl := Option.some.inj houtcome
      exact hsteps.idle_iff
  | quiet hquiet => rcases hquiet with ⟨_, rfl⟩ | ⟨_, rfl⟩ | ⟨_, rfl⟩ | rfl <;> cases houtcome
  | _ => cases houtcome

/-- After every course the slot is empty only if no process waits. -/
theorem filled (h : Course source k request answer es k') (hk : k.Sound) :
    k'.running = none → k'.queues.ready.flatten = [] := by
  cases h with
  | made hop hmakes =>
    cases hmakes with
    | intro hr hmove hsettles => exact hsettles.filled
  | stepped hsteps => exact hsteps.filled hk
  | scheduled hsettles => exact hsettles.filled
  | woken hwakes =>
    cases hwakes with
    | none => exact hk.filled
    | some hmove hsettles => exact hsettles.filled
  | advanced => exact hk.filled
  | ticked hticks =>
    cases hticks with
    | intro hsteps hsettles => exact hsettles.filled
  | wokenReply hwakes =>
    cases hwakes with
    | none => exact hk.filled
    | some hmove hsettles => exact hsettles.filled
  | quiet => exact hk.filled

end Course

/-! ## What an exchange does before any accounting -/

section

variable {C : Type}

/-- Whether the event is what a request is about, and no part of an accounting and no tick. -/
def Event.opens : Event C → Bool
  | charged _ | preempted _ _ | dispatched _ _ | ticked => false
  | _ => true

/-- What accountings and ticks do not show is shown by the events before them. -/
theorem Event.filterMap_opens {α : Type} {f : Event C → Option α} (hf : ∀ e : Event C, e.opens = false → f e = none)
    (es : List (Event C)) : (es.filter Event.opens).filterMap f = es.filterMap f := by
  rw [List.filterMap_filter]
  refine congrArg (List.filterMap · es) (funext fun e => ?_)
  cases he : e.opens with
  | true => exact if_pos rfl
  | false => exact (hf e he).symm

theorem Turn.filter_opens {es : List (Event C)} (h : Turn es) : es.filter Event.opens = [] := by
  cases h <;> rfl

variable [Machine C] {source : Source} {k k' : Kernel C} {outcome : StepOutcome} {es : List (Event C)}

theorem Deed.filter_opens {r : ProcessRecord C} (h : Deed source k r outcome es) : es.filter Event.opens = es := by
  cases h <;> rfl

/-- Before any accounting a step is the deed of the running process, or nothing. -/
theorem Steps.opens (h : Steps source k outcome es k') :
    (outcome = .idle ∧ es.filter Event.opens = []) ∨ ∃ r, Deed source k r outcome (es.filter Event.opens) := by
  cases h with
  | idle => exact .inl ⟨rfl, rfl⟩
  | worked hrun hr hdeed hstays hpath => exact .inr ⟨_, hdeed.filter_opens.symm ▸ hdeed⟩
  | released hrun hr hdeed hleaves hpath hsettles =>
    rw [List.filter_append, hsettles.turn.filter_opens, List.append_nil, hdeed.filter_opens]
    exact .inr ⟨_, hdeed⟩

end

/-- An exchange of this answer is these events before any accounting. -/
inductive Opens (source : Source) (k : Kernel Context) : Except Halt Response → List (Event Context) → Prop where
  | made {r : ProcessRecord Context} (hr : r.pid = k.table.nextPid) :
    Opens source k (.ok (.answered (.created k.table.nextPid))) [.filed r]
  | stepped {r : ProcessRecord Context} {outcome : StepOutcome} {es : List (Event Context)}
    (hdeed : Deed source k r outcome es) :
    Opens source k (.ok (.answered (.stepped outcome))) es
  | ticked {r : ProcessRecord Context} {outcome : StepOutcome} {es : List (Event Context)}
    (hdeed : Deed source k r outcome es) :
    Opens source k (.ok (.replied (.ticked outcome))) es
  | woken {response : Response} {pid : Pid} (level : Priority)
    (hresponse : response = .answered (.woken (some pid)) ∨ response = .replied (.woken (some pid))) :
    Opens source k (.ok response) [.woken pid level]
  | nothing {answer : Except Halt Response}
    (houtcome : answer.toOption.bind Response.outcome? = none ∨ answer.toOption.bind Response.outcome? = some .idle)
    (hborn : answer.toOption.bind Response.born? = none) (hwoken : answer.toOption.bind Response.woken? = none) :
    Opens source k answer []

/-- What every course is before any accounting. -/
theorem Course.opens {source : Source} {k k' : Kernel Context} {request : Request} {answer : Except Halt Response}
    {es : List (Event Context)} (h : Course source k request answer es k') :
    Opens source k answer (es.filter Event.opens) := by
  cases h with
  | made hop hmakes =>
    cases hmakes with
    | intro hr hmove hsettles =>
      rw [List.filter_cons_of_pos rfl, hsettles.turn.filter_opens]
      exact .made (congrArg ProcessRecord.pid hr)
  | stepped hsteps =>
    rcases hsteps.opens with ⟨rfl, hnone⟩ | ⟨r, hdeed⟩
    · exact hnone ▸ .nothing (.inr rfl) rfl rfl
    · exact .stepped hdeed
  | ticked hticks =>
    cases hticks with
    | intro hsteps hsettles =>
      rw [List.filter_append, List.filter_cons_of_neg Bool.false_ne_true, hsettles.turn.filter_opens, List.append_nil]
      rcases hsteps.opens with ⟨rfl, hnone⟩ | ⟨r, hdeed⟩
      · exact hnone ▸ .nothing (.inr rfl) rfl rfl
      · exact .ticked hdeed
  | scheduled hsettles => exact hsettles.turn.filter_opens ▸ .nothing (.inl rfl) rfl rfl
  | advanced => exact .nothing (.inl rfl) rfl rfl
  | woken hwakes =>
    cases hwakes with
    | none => exact .nothing (.inl rfl) rfl rfl
    | some hmove hsettles =>
      rw [List.filter_cons_of_pos rfl, hsettles.turn.filter_opens]
      exact .woken _ (.inl rfl)
  | wokenReply hwakes =>
    cases hwakes with
    | none => exact .nothing (.inl rfl) rfl rfl
    | some hmove hsettles =>
      rw [List.filter_cons_of_pos rfl, hsettles.turn.filter_opens]
      exact .woken _ (.inr rfl)
  | quiet hquiet => rcases hquiet with ⟨_, rfl⟩ | ⟨_, rfl⟩ | ⟨_, rfl⟩ | rfl <;> exact .nothing (.inl rfl) rfl rfl

/-! ## Every exchange takes a course -/

namespace Session

variable {source : Source} {s : Session}

theorem onKernel_ok {α : Type} {action : Action Context α} {a : α} {k' : Kernel Context}
    (h : action s.kernel = .ok a k') :
    onKernel action s = .ok a { s with kernel := k' } := by
  rw [onKernel, h]

theorem onKernel_error {α : Type} {action : Action Context α} {halt : Halt} {k' : Kernel Context}
    (h : action s.kernel = .error halt k') : onKernel action s = .error halt { s with kernel := k' } := by
  rw [onKernel, h]

theorem exchange_ok {request : Request} {response : Response} {s' : Session}
    (h : request.perform source s = .ok response s') :
    s.exchange source request = { request := request, before := s, answer := .ok response, after := s' } := by
  rw [exchange, h]

theorem exchange_error {request : Request} {halt : Halt} {s' : Session}
    (h : request.perform source s = .error halt s') :
    s.exchange source request = { request := request, before := s, answer := .error halt, after := s' } := by
  rw [exchange, h]

/-- What is before an exchange, and what it asks. -/
theorem exchange_before (source : Source) (s : Session) (request : Request) :
    (s.exchange source request).before = s ∧ (s.exchange source request).request = request := by
  rw [exchange]
  split <;> exact ⟨rfl, rfl⟩

/-- Of the operations, those that make processes are the ones in runs that are driven by commands. -/
theorem isSome_making? {op : Operation} (h : (Request.operation op).commanded = true) (source : Source) :
    (op.making? source).isSome = true := by
  cases op with
  | create | createParsed => rfl
  | createFrom priority name =>
    simp only [Operation.making?]
    split <;> rfl
  | _ => cases h

/-- An operation on a sound kernel takes a course. -/
theorem operation_course (hs : s.kernel.Sound) (op : Operation) :
    ∃ es, Course source s.kernel (.operation op) (s.exchange source (.operation op)).answer es
      (s.exchange source (.operation op)).after.kernel := by
  have hok : ∀ {a : Answer} {k' : Kernel Context}, op.perform source s.kernel = .ok a k' →
      s.exchange source (.operation op) =
        { request := .operation op, before := s, answer := .ok (.answered a), after := { s with kernel := k' } } :=
    fun h => exchange_ok (Action.map_ok (onKernel_ok h))
  cases hmaking : op.making? source with
  | some making =>
    obtain ⟨priority, program⟩ := making
    rcases Kernel.perform_making_cases hs.consistent hs.numbered hmaking with ⟨p, es, k', rfl, hp, hmakes⟩ | ⟨fault, hp⟩
    · rw [hok hp]
      exact ⟨es, .made hmaking hmakes⟩
    · have hr : Request.perform source (.operation op) s = .error (.fault fault) s :=
        Action.map_error (onKernel_error hp)
      rw [exchange_error hr]
      exact ⟨[], .quiet (.inl ⟨_, rfl⟩)⟩
  | none =>
    cases op with
    | create => cases hmaking
    | createFrom priority name =>
      simp only [Operation.making?] at hmaking
      split at hmaking <;> cases hmaking
    | createParsed => cases hmaking
    | step =>
      obtain ⟨outcome, es, k', hp, hsteps⟩ := Kernel.exists_steps hs.consistent hs.numbered source
      rw [hok (Action.map_ok hp)]
      exact ⟨es, .stepped hsteps⟩
    | reschedule =>
      obtain ⟨es, k', hp, hsettles⟩ := Kernel.exists_settles hs.consistent
      rw [hok (Action.map_ok hp)]
      exact ⟨es, .scheduled hsettles⟩
    | wake =>
      obtain ⟨woken, es, k', hp, hwakes⟩ := Kernel.exists_wakes hs.consistent
      rw [hok (Action.map_ok hp)]
      exact ⟨es, .woken hwakes⟩
    | advanceClock =>
      rw [hok (Action.map_ok (Kernel.advanceClock_apply s.kernel))]
      exact ⟨[.ticked], .advanced⟩

/-- Reporting gives a snapshot or a fault, and changes nothing. -/
theorem inspect_apply (s : Session) :
    inspect s = match s.kernel.snapshot with
      | .ok snapshot => .ok snapshot s
      | .error fault => .error (.fault fault) s := by
  unfold inspect
  refine (Action.bind_ok rfl).trans ?_
  cases s.kernel.snapshot <;> rfl

/-- A session that is shut down refuses every command. -/
theorem dispatch_apply (source : Source) (c : Command) (s : Session) :
    dispatch source c s = if s.shutDown then .error (.fault .simulationEnded) s else perform source c s := by
  obtain ⟨k, shutDown⟩ := s
  cases shutDown <;> rfl

section

variable {woken : Option Pid} {outcome : StepOutcome} {k' : Kernel Context}

/-- After the shutdown every command is refused. -/
theorem dispatch_over (source : Source) (c : Command) (hdown : s.shutDown = true) :
    dispatch source c s = .error (.fault .simulationEnded) s := by
  rw [dispatch_apply, hdown]
  rfl

/-- A session that is not shut down carries out every command. -/
theorem dispatch_eq_perform (source : Source) (c : Command) (hup : s.shutDown = false) :
    dispatch source c s = perform source c s := by
  rw [dispatch_apply, hup]
  rfl

theorem dispatch_tick (hup : s.shutDown = false) (htick : tick source s.kernel = .ok outcome k') :
    dispatch source .tick s = .ok (.ticked outcome) { s with kernel := k' } :=
  (dispatch_eq_perform source .tick hup).trans (Action.bind_ok (onKernel_ok htick))

theorem dispatch_wake (source : Source) (hup : s.shutDown = false) (hwake : Kernel.wake s.kernel = .ok woken k') :
    dispatch source .wake s = .ok (.woken woken) { s with kernel := k' } :=
  (dispatch_eq_perform source .wake hup).trans (Action.bind_ok (onKernel_ok hwake))

/-- A report is what can be reported of the kernel. -/
theorem dispatch_inspect (source : Source) (hup : s.shutDown = false) :
    dispatch source .inspect s = match s.kernel.snapshot with
      | .ok snapshot => .ok (.report snapshot) s
      | .error fault => .error (.fault fault) s := by
  have hinspect := inspect_apply s
  refine (dispatch_eq_perform source .inspect hup).trans ?_
  cases hsnapshot : s.kernel.snapshot <;> rw [hsnapshot] at hinspect
  · exact Action.bind_error hinspect
  · exact Action.bind_ok hinspect

/-- The shutdown reports the kernel, and ends the session if it can. -/
theorem dispatch_shutdown (source : Source) (hup : s.shutDown = false) :
    dispatch source .shutdown s = match s.kernel.snapshot with
      | .ok snapshot => .ok (.shutdown snapshot) { s with shutDown := true }
      | .error fault => .error (.fault fault) s := by
  have hinspect := inspect_apply s
  refine (dispatch_eq_perform source .shutdown hup).trans ?_
  cases hsnapshot : s.kernel.snapshot <;> rw [hsnapshot] at hinspect
  · exact Action.bind_error hinspect
  · exact Action.bind_ok hinspect

end

/-- A line that holds a command is carried out as the command. -/
theorem perform_line {text : String} {c : Command} (h : Command.parse text = .ok c) (source : Source) (s : Session) :
    Request.perform source (.line text) s = (Response.replied <$> dispatch source c) s := by
  simp only [Request.perform, submit, h]

/-- A request that goes to the session as a command takes a course on a sound kernel. -/
theorem command_course (hs : s.kernel.Sound) {request : Request} {c : Command}
    (h : request.perform source s = (Response.replied <$> dispatch source c) s) :
    ∃ es, Course source s.kernel request (s.exchange source request).answer es
      (s.exchange source request).after.kernel := by
  have hok : ∀ {r : Reply} {s' : Session}, dispatch source c s = .ok r s' →
      s.exchange source request = { request := request, before := s, answer := .ok (.replied r), after := s' } :=
    fun hd => exchange_ok (h.trans (Action.map_ok hd))
  have herr : ∀ {halt : Halt}, dispatch source c s = .error halt s →
      ∃ es, Course source s.kernel request (s.exchange source request).answer es
        (s.exchange source request).after.kernel := by
    intro halt hd
    rw [exchange_error (h.trans (Action.map_error hd))]
    exact ⟨[], .quiet (.inl ⟨halt, rfl⟩)⟩
  cases hdown : s.shutDown with
  | true => exact herr (dispatch_over source c hdown)
  | false =>
    cases c with
    | tick =>
      obtain ⟨outcome, es, k', htick, hticks⟩ := Kernel.exists_ticks hs.consistent hs.numbered source
      rw [hok (dispatch_tick hdown htick)]
      exact ⟨es, .ticked hticks⟩
    | wake =>
      obtain ⟨woken, es, k', hwake, hwakes⟩ := Kernel.exists_wakes hs.consistent
      rw [hok (dispatch_wake source hdown hwake)]
      exact ⟨es, .wokenReply hwakes⟩
    | inspect =>
      have hd := dispatch_inspect source hdown
      cases hsnapshot : s.kernel.snapshot <;> rw [hsnapshot] at hd
      · exact herr hd
      · rw [hok hd]
        exact ⟨[], .quiet (.inr (.inl ⟨_, rfl⟩))⟩
    | shutdown =>
      have hd := dispatch_shutdown source hdown
      cases hsnapshot : s.kernel.snapshot <;> rw [hsnapshot] at hd
      · exact herr hd
      · rw [hok hd]
        exact ⟨[], .quiet (.inr (.inr (.inl ⟨_, rfl⟩)))⟩

/-- Every exchange on a sound kernel takes a course. -/
theorem exchange_course (source : Source) (hs : s.kernel.Sound) (request : Request) :
    ∃ es, Course source s.kernel request (s.exchange source request).answer es
      (s.exchange source request).after.kernel := by
  cases request with
  | operation op => exact operation_course hs op
  | command c => exact command_course hs rfl
  | line text =>
    cases hparse : Command.parse text with
    | error fault =>
      have hr : Request.perform source (.line text) s = .error (.fault fault) s := by
        simp only [Request.perform, submit, hparse]
        rfl
      rw [exchange_error hr]
      exact ⟨[], .quiet (.inl ⟨_, rfl⟩)⟩
    | ok c => exact command_course hs (perform_line hparse source s)
  | newSession =>
    have hr : Request.perform source .newSession s = .ok .renewed { s with shutDown := false } := rfl
    rw [exchange_ok hr]
    exact ⟨[], .quiet (.inr (.inr (.inr rfl)))⟩

end Session

end Timeshare
