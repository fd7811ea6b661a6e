import Timeshare.Proofs.Observed

/-!
# The tally balances

What a counter counts is what the answers, the slot and the tally of each exchange show (`Exchange.shows`). So each
counter tells how often that was shown since the kernel booted, and the counters balance: the processes that were made
or forked are those that ended and those of the table, and likewise for the slot, the ready queues and the blocked
queue (`Session.tally_balanced`).
-/

namespace Timeshare

/-! ## What an exchange shows -/

/-- The counter that counts steps of this outcome. -/
def StepOutcome.counter? : StepOutcome → Option Counter
  | blocked _ => some .blocks
  | terminated _ _ => some .terminations
  | forked _ _ => some .forks
  | replaced _ _ => some .replacements
  | _ => none

/-- Whether the exchange shows one of what the counter counts. -/
def Exchange.shows (x : Exchange) (c : Counter) : Bool :=
  match c with
  | .dispatches => x.dispatched?.isSome
  | .preemptions => x.preempted?.isSome
  | .wakes => x.woken?.isSome
  | .blocks | .terminations | .forks | .replacements => x.outcome?.bind StepOutcome.counter? = some c

/-- The process that was made from outside. -/
def Response.created? : Response → Option Pid
  | answered (.created pid) => some pid
  | _ => none

/-- The process that was made from outside. -/
def Exchange.created? (x : Exchange) : Option Pid := x.answer.toOption.bind Response.created?

/-- The number of processes that were made from outside. -/
def Exchange.creations (xs : List Exchange) : Nat := (xs.filterMap created?).length

/-- How often exchanges show what the counter counts. -/
def Exchange.tally (c : Counter) (xs : List Exchange) : Nat := xs.countP (·.shows c)

/-! ## The counts of an exchange -/

/-- Whether the counter counts steps by their outcome. -/
def Counter.ofStep : Counter → Bool
  | blocks | terminations | forks | replacements => true
  | _ => false

variable {C : Type} [Machine C] {source : Source} {es : List (Event C)} {c : Counter}

omit [Machine C] in
/-- What a step does is counted before any accounting. -/
theorem Event.count_opens (hc : c.ofStep = true) (es : List (Event C)) :
    count c (es.filter Event.opens) = count c es := by
  rw [count, count, List.countP_filter]
  refine List.countP_congr fun e _ => ?_
  cases c with
  | blocks | terminations | forks | replacements => cases e <;> simp [counter?, opens]
  | _ => cases hc

/-- A course counts the step that its answer tells. -/
theorem Course.count {k k' : Kernel Context} {request : Request} {answer : Except Halt Response}
    {es : List (Event Context)} (h : Course source k request answer es k') (hc : c.ofStep = true) :
    Event.count c es = if (answer.toOption.bind Response.outcome?).bind StepOutcome.counter? =
      some c then 1 else 0 := by
  rw [← Event.count_opens hc]
  have hopens := h.opens
  generalize es.filter Event.opens = opening at hopens ⊢
  cases hopens with
  | made hr => rfl
  | stepped hdeed => cases hdeed <;> cases c <;> rfl
  | ticked hdeed => cases hdeed <;> cases c <;> rfl
  | woken level hresponse =>
    cases c with
    | wakes => cases hc
    | _ => rcases hresponse with rfl | rfl <;> rfl
  | nothing houtcome hborn hwoken => rcases houtcome with h | h <;> rw [h] <;> rfl

namespace Exchange

theorem tally_append (c : Counter) (xs ys : List Exchange) : tally c (xs ++ ys) = tally c xs + tally c ys :=
  List.countP_append

theorem tally_singleton (c : Counter) (x : Exchange) : tally c [x] = if x.shows c then 1 else 0 := List.countP_singleton

/-- Every process that is born was made from outside or forked. -/
theorem births_eq (xs : List Exchange) : births xs = creations xs + tally .forks xs := by
  induction xs with
  | nil => rfl
  | cons x xs ih =>
    have hone : births [x] = creations [x] + tally .forks [x] := by
      rw [births, creations, tally_singleton, List.filterMap_cons, List.filterMap_cons, shows, born?,
        created?, outcome?]
      cases x.answer with
      | error => rfl
      | ok response =>
        cases response with
        | answered answer =>
          cases answer with
          | stepped outcome => cases outcome <;> rfl
          | _ => rfl
        | replied reply =>
          cases reply with
          | ticked outcome => cases outcome <;> rfl
          | _ => rfl
        | renewed => rfl
    have happend : ∀ f : Exchange → Option Pid, (([x] ++ xs).filterMap f).length =
        ([x].filterMap f).length + (xs.filterMap f).length :=
      fun f => by rw [List.filterMap_append, List.length_append]
    rw [births, creations] at hone ih
    rw [← List.singleton_append, tally_append, births, creations, happend, happend, hone, ih]
    omega

end Exchange

omit [Machine C] in
/-- Where an exchange shows one of what events are, its events count it. -/
theorem Event.count_of_shown {α : Type} {f : Event C → Option (Pid × α)} {shown : Option Pid}
    (hshown : (es.filterMap f).map Prod.fst = shown.toList) (hf : ∀ e, (f e).isSome = decide (e.counter? = some c)) :
    count c es = if shown.isSome then 1 else 0 := by
  rw [← length_filterMap hf, ← List.length_map Prod.fst, hshown]
  cases shown <;> rfl

/-- What an exchange shows is what its events count. -/
theorem Session.Takes.count {s : Session} {request : Request} {es : List (Event Context)}
    (ht : s.Takes source request es) (c : Counter) :
    Event.count c es = Exchange.tally c [s.exchange source request] := by
  rw [Exchange.tally_singleton]
  cases c with
  | dispatches => exact Event.count_of_shown ht.dispatched fun e => e.isSome_shown.1
  | preemptions => exact Event.count_of_shown ht.preempted fun e => e.isSome_shown.2.1
  | wakes => exact Event.count_of_shown ht.course.woken_eq fun e => e.isSome_shown.2.2
  | _ =>
    rw [ht.course.count rfl, Exchange.shows, Exchange.outcome?]
    simp only [decide_eq_true_eq]

/-! ## Every run -/

/-- The counters balance against the slot, the queues and the table, where so many processes were made from outside. -/
structure Kernel.Balanced (k : Kernel C) (creations : Nat) : Prop where
  slot : k.stats.dispatches.toNat =
    k.stats.preemptions.toNat + k.stats.blocks.toNat + k.stats.terminations.toNat + k.occupancy
  ready : creations + k.stats.forks.toNat + k.stats.preemptions.toNat + k.stats.wakes.toNat =
    k.stats.dispatches.toNat + k.queues.readyCount
  blocked : k.stats.blocks.toNat = k.stats.wakes.toNat + k.queues.blockedCount
  live : creations + k.stats.forks.toNat = k.stats.terminations.toNat + k.table.size
  placed : k.queues.readyCount + k.queues.blockedCount + k.occupancy = k.table.size

namespace Session

/-- The counters are what the exchanges of a run show, cut to their width, and this balances. -/
structure Tallied (xs : List Exchange) (s : Session) : Prop where
  slot : Exchange.tally .dispatches xs =
    Exchange.tally .preemptions xs + Exchange.tally .blocks xs + Exchange.tally .terminations xs + s.kernel.occupancy
  ready : Exchange.births xs + Exchange.tally .preemptions xs + Exchange.tally .wakes xs =
    Exchange.tally .dispatches xs + s.kernel.queues.readyCount
  blocked : Exchange.tally .blocks xs = Exchange.tally .wakes xs + s.kernel.queues.blockedCount
  value : ∀ c, s.kernel.stats.value c = UInt64.ofNat (Exchange.tally c xs)
  last : s.kernel.lastDispatched = (xs.filterMap Exchange.dispatched?).getLast?
  switched : s.kernel.stats.contextSwitches = UInt64.ofNat (switches none (xs.filterMap Exchange.dispatched?))

/-- A kernel that boots has tallied nothing. -/
theorem tallied_of_boot {levels : UInt8} {k : Kernel Context} (hboot : Kernel.boot levels = .ok k) :
    Tallied [] { kernel := k } := by
  have hempty : (List.replicate levels.toNat ([] : List Pid)).flatten = [] := by simp
  obtain ⟨-, rfl⟩ := Kernel.boot_eq_ok_iff.mp hboot
  refine ⟨rfl, ?_, rfl, fun c => by cases c <;> rfl, rfl, rfl⟩
  rw [Queues.readyCount, Kernel.empty, Queues.empty, hempty]
  rfl

/-- What an exchange puts into the slot is what its events put there. -/
theorem Takes.seated_eq {s : Session} {request : Request} {es : List (Event Context)} (ht : s.Takes source request es) :
    Event.seated es = [s.exchange source request].filterMap Exchange.dispatched? := by
  rw [Event.seated, ht.dispatched, List.filterMap_cons]
  cases (s.exchange source request).dispatched? <;> rfl

/-- Every exchange is tallied. -/
theorem Takes.tallied {xs : List Exchange} {s : Session} {request : Request} {es : List (Event Context)}
    (ht : s.Takes source request es) (h : Tallied xs s) :
    Tallied (xs ++ [s.exchange source request]) (s.exchange source request).after := by
  obtain ⟨hslot, hready, hblocked⟩ := ht.course.path.flows ht.before.consistent
  obtain ⟨hlast, hswitched⟩ := ht.course.path.switches
  simp only [ht.count, ← ht.course.births] at hslot hready hblocked
  constructor
  · have := h.slot
    simp only [Exchange.tally_append]
    omega
  · have := h.ready
    simp only [Exchange.tally_append, births_append]
    omega
  · have := h.blocked
    simp only [Exchange.tally_append]
    omega
  · intro c
    rw [ht.course.path.value c, h.value c, ht.count, Exchange.tally_append, UInt64.ofNat_add]
  · rw [hlast, ht.seated_eq, h.last, List.filterMap_append, List.getLast?_append]
  · rw [hswitched, ht.seated_eq, h.switched, h.last, List.filterMap_append, switches_append, Option.or_none,
      UInt64.ofNat_add]

/-- In every run of a kernel since it booted in which no counter overflows: the counters balance, every process that
ever came into the slot has left it in one of three ways or is there, and so on for the other places; each counter is
the number of what the exchanges of the run show, and the count of switches is the number of dispatches of another
process than the one dispatched before. -/
theorem tally_balanced {levels : UInt8} {k : Kernel Context} (hboot : Kernel.boot levels = .ok k)
    (requests : List (Source × Request)) (hroom : Exchange.births (exchanges { kernel := k } requests) < UInt32.size)
    (hcounters : ∀ c, Exchange.tally c (exchanges { kernel := k } requests) < UInt64.size) :
    (after { kernel := k } requests).kernel.Balanced (Exchange.creations (exchanges { kernel := k } requests)) ∧
    (∀ c, ((after { kernel := k } requests).kernel.stats.value c).toNat =
      Exchange.tally c (exchanges { kernel := k } requests)) ∧
    (after { kernel := k } requests).kernel.stats.contextSwitches.toNat =
      switches none ((exchanges { kernel := k } requests).filterMap Exchange.dispatched?) := by
  obtain ⟨htallied, hsound, -⟩ := run_invariant_of_boot hboot (tallied_of_boot hboot)
    (fun _ _ _ _ _ _ ht h => ht.tallied h) hroom
  have hvalue : ∀ c, ((after { kernel := k } requests).kernel.stats.value c).toNat =
      Exchange.tally c (exchanges { kernel := k } requests) := by
    intro c
    rw [htallied.value c]
    exact UInt64.toNat_ofNat_of_lt' (hcounters c)
  refine ⟨?_, hvalue, ?_⟩
  · have hslot := htallied.slot
    have hready := htallied.ready
    have hblocked := htallied.blocked
    have hsize := hsound.consistent.size_eq
    rw [Exchange.births_eq] at hready
    simp only [← hvalue, Stats.value] at hslot hready hblocked
    constructor
    · exact hslot
    · exact hready
    · exact hblocked
    · omega
    · exact hsize
  · have hle := switches_le_length none ((exchanges { kernel := k } requests).filterMap Exchange.dispatched?)
    have hlength : ((exchanges { kernel := k } requests).filterMap Exchange.dispatched?).length =
        Exchange.tally .dispatches (exchanges { kernel := k } requests) := List.length_filterMap_eq_countP
    have hdispatches := hcounters .dispatches
    rw [htallied.switched]
    exact UInt64.toNat_ofNat_of_lt' (by omega)

/-- In the sample two processes are made from outside and one is forked, and the second is dispatched twice in a row,
which is no switch. -/
theorem tally_balanced_sample :
    Kernel.boot 2 = .ok (Kernel.empty 2 : Kernel Context) ∧
      Exchange.births (exchanges { kernel := Kernel.empty 2 } (sample.map (Prod.mk Source.empty))) < UInt32.size ∧
      (∀ c, Exchange.tally c (exchanges { kernel := Kernel.empty 2 } (sample.map (Prod.mk Source.empty))) <
        UInt64.size) ∧
      (after { kernel := Kernel.empty 2 } (sample.map (Prod.mk Source.empty))).kernel.Balanced 2 ∧
      (after { kernel := Kernel.empty 2 } (sample.map (Prod.mk Source.empty))).kernel.stats.forks.toNat = 1 ∧
      (after { kernel := Kernel.empty 2 } (sample.map (Prod.mk Source.empty))).kernel.stats.contextSwitches.toNat =
        switches none [0, 1, 1, 2, 0, 2] := by
  have hboot : Kernel.boot 2 = .ok (Kernel.empty 2 : Kernel Context) := rfl
  have hroom : Exchange.births (exchanges { kernel := Kernel.empty 2 } (sample.map (Prod.mk Source.empty))) <
      UInt32.size := by
    decide +kernel
  have hcounters : ∀ c,
      Exchange.tally c (exchanges { kernel := Kernel.empty 2 } (sample.map (Prod.mk Source.empty))) < UInt64.size := by
    intro c
    cases c <;> decide +kernel
  obtain ⟨hbalanced, hvalue, hswitches⟩ := tally_balanced hboot _ hroom hcounters
  refine ⟨hboot, hroom, hcounters, hbalanced, (hvalue .forks).trans ?_, hswitches.trans (congrArg _ ?_)⟩
  · decide +kernel
  · decide +kernel

end Session

end Timeshare
