import Timeshare.Proofs.Invariant

/-!
# What the tally counts

Every event has a counter that counts it, or none, so each counter grows along a path by the number of its events
(`Path.value`). What comes into the slot or into a queue goes out of it again by an event of another counter, or it is
still there (`Path.flows`).
-/

namespace Timeshare

/-- What the tally counts, but for switches from one process to another. -/
inductive Counter where
  | dispatches
  | preemptions
  | blocks
  | wakes
  | terminations
  | forks
  | replacements
  deriving DecidableEq

/-- The value of a counter. -/
def Stats.value (s : Stats) : Counter → UInt64
  | .dispatches => s.dispatches
  | .preemptions => s.preemptions
  | .blocks => s.blocks
  | .wakes => s.wakes
  | .terminations => s.terminations
  | .forks => s.forks
  | .replacements => s.replacements

/-! ## Counting events -/

/-- The counter that counts the instruction. -/
def Work.counter? : Work → Option Counter
  | plain => none
  | fork => some .forks
  | replacement => some .replacements

namespace Event

variable {C : Type}

/-- The process that an event puts into the slot, and the level that it comes from. -/
def dispatched? : Event C → Option (Pid × Priority)
  | dispatched pid level => some (pid, level)
  | _ => none

/-- The process that an event preempts, and its level. -/
def preempted? : Event C → Option (Pid × Priority)
  | preempted pid level => some (pid, level)
  | _ => none

/-- The process that an event wakes, and its level. -/
def woken? : Event C → Option (Pid × Priority)
  | woken pid level => some (pid, level)
  | _ => none

/-- The counter that counts the event. -/
def counter? : Event C → Option Counter
  | worked _ _ work => work.counter?
  | blocked _ => some .blocks
  | ended _ => some .terminations
  | woken _ _ => some .wakes
  | preempted _ _ => some .preemptions
  | dispatched _ _ => some .dispatches
  | _ => none

/-- The number of events that the counter counts. -/
def count (c : Counter) (es : List (Event C)) : Nat := es.countP fun e => e.counter? = some c

theorem count_append (c : Counter) (es es' : List (Event C)) : count c (es ++ es') = count c es + count c es' :=
  List.countP_append

theorem count_cons (c : Counter) (e : Event C) (es : List (Event C)) : count c (e :: es) = count c [e] + count c es :=
  count_append c [e] es

theorem count_singleton (c : Counter) (e : Event C) : count c [e] = if e.counter? = some c then 1 else 0 := by
  simp only [count, List.countP_singleton, decide_eq_true_eq]

/-- An event is a dispatch, a preemption or a wake exactly if that is what counts it. -/
theorem isSome_shown (e : Event C) : e.dispatched?.isSome = decide (e.counter? = some .dispatches) ∧
    e.preempted?.isSome = decide (e.counter? = some .preemptions) ∧
      e.woken?.isSome = decide (e.counter? = some .wakes) := by
  cases e with
  | worked _ _ work => cases work <;> exact ⟨rfl, rfl, rfl⟩
  | _ => exact ⟨rfl, rfl, rfl⟩

/-- The events that show something are those that its counter counts. -/
theorem length_filterMap {α : Type} {f : Event C → Option α} {c : Counter} {es : List (Event C)}
    (hf : ∀ e, (f e).isSome = decide (e.counter? = some c)) : (es.filterMap f).length = count c es := by
  rw [List.length_filterMap_eq_countP, count]
  exact List.countP_congr fun e _ => by rw [hf e]

/-- The tally counts each event in its counter. -/
theorem value_tally (c : Counter) (last : Option Pid) (e : Event C) (s : Stats) :
    (e.tally last s).value c = s.value c + UInt64.ofNat (count c [e]) := by
  have hvalue : (e.tally last s).value c = if e.counter? = some c then s.value c + 1 else s.value c := by
    cases e with
    | worked pid change work => cases work <;> cases c <;> rfl
    | _ => cases c <;> rfl
  rw [hvalue, count_singleton]
  split <;> simp

end Event

variable {C : Type} [Machine C] {k k' k₁ : Kernel C} {e : Event C} {es es' : List (Event C)}

/-- The tally counts the events of a path. -/
theorem Path.value (h : Path k es k') (c : Counter) :
    k'.stats.value c = k.stats.value c + UInt64.ofNat (Event.count c es) := by
  induction h with
  | nil => simp [Event.count]
  | @cons k k₁ k' e es hm _ ih =>
    rw [ih, hm.stats, Event.value_tally, Event.count_cons c e es, UInt64.ofNat_add, UInt64.add_assoc]

/-! ## Switches -/

/-- The number of processes that differ from the one before, given the one before the first. -/
def switches : Option Pid → List Pid → Nat
  | _, [] => 0
  | last, pid :: pids => (if last = some pid then 0 else 1) + switches (some pid) pids

/-- The switches of a list that goes on are those before and those after, given the process in between. -/
theorem switches_append (last : Option Pid) (ps qs : List Pid) :
    switches last (ps ++ qs) = switches last ps + switches (ps.getLast?.or last) qs := by
  induction ps generalizing last with
  | nil => simp [switches]
  | cons p ps ih =>
    have hlast : ((p :: ps).getLast?).or last = ps.getLast?.or (some p) := by
      cases ps <;> simp [List.getLast?_cons]
    rw [List.cons_append, switches, switches, ih, hlast, Nat.add_assoc]

/-- There are no more switches than processes. -/
theorem switches_le_length (last : Option Pid) (ps : List Pid) : switches last ps ≤ ps.length := by
  induction ps generalizing last with
  | nil => exact Nat.le_refl _
  | cons p ps ih =>
    rw [switches, List.length_cons]
    have := ih (some p)
    split <;> omega

/-- The processes that events put into the slot, one after the other. -/
def Event.seated (es : List (Event C)) : List Pid := (es.filterMap Event.dispatched?).map Prod.fst

omit [Machine C] in
theorem Event.seated_cons (e : Event C) (es : List (Event C)) : seated (e :: es) = seated [e] ++ seated es := by
  rw [seated, ← List.singleton_append, List.filterMap_append, List.map_append]
  rfl

/-- What a move makes of the process that was dispatched last, and of the count of switches. -/
theorem Move.switches (h : Move k e k') : k'.lastDispatched = (Event.seated [e]).getLast?.or k.lastDispatched ∧
    k'.stats.contextSwitches =
      k.stats.contextSwitches + UInt64.ofNat (Timeshare.switches k.lastDispatched (Event.seated [e])) := by
  cases h with
  | dispatched hrun hd hr =>
    refine ⟨rfl, ?_⟩
    simp only [Event.seated, List.filterMap_cons, List.filterMap_nil, Event.dispatched?, List.map_cons, List.map_nil,
      Timeshare.switches]
    split <;> simp
  | worked change work hrun =>
    cases work <;> simp [Event.seated, List.filterMap_cons, Event.dispatched?, Timeshare.switches, Work.tally]
  | _ => simp [Event.seated, List.filterMap_cons, Event.dispatched?, Timeshare.switches]

/-- What a path makes of the process that was dispatched last, and of the count of switches. -/
theorem Path.switches (h : Path k es k') : k'.lastDispatched = (Event.seated es).getLast?.or k.lastDispatched ∧
    k'.stats.contextSwitches =
      k.stats.contextSwitches + UInt64.ofNat (Timeshare.switches k.lastDispatched (Event.seated es)) := by
  induction h with
  | nil => simp [Event.seated, Timeshare.switches]
  | @cons k k₁ k' e es hm _ ih =>
    obtain ⟨hlast, hcount⟩ := hm.switches
    rw [Event.seated_cons e es, switches_append, ← hlast, UInt64.ofNat_add, ← UInt64.add_assoc, ← hcount,
      List.getLast?_append, Option.or_assoc, ← hlast]
    exact ih

/-! ## Balances -/

omit [Machine C] in
/-- The number of processes in the slot. -/
def Kernel.occupancy (k : Kernel C) : Nat := if k.running.isSome then 1 else 0

/-- What comes into a place on the way from one kernel to another goes out of it again or stays there. -/
structure Flows (k : Kernel C) (es : List (Event C)) (k' : Kernel C) : Prop where
  slot : k.occupancy + Event.count .dispatches es =
    Event.count .preemptions es + Event.count .blocks es + Event.count .terminations es + k'.occupancy
  ready : k.queues.readyCount + (es.filterMap Event.born?).length + Event.count .preemptions es +
    Event.count .wakes es = Event.count .dispatches es + k'.queues.readyCount
  blocked : k.queues.blockedCount + Event.count .blocks es = Event.count .wakes es + k'.queues.blockedCount

omit [Machine C] in
/-- Flows compose. -/
theorem Flows.append (h : Flows k es k₁) (h' : Flows k₁ es' k') : Flows k (es ++ es') k' := by
  obtain ⟨hslot, hready, hblocked⟩ := h
  obtain ⟨hslot', hready', hblocked'⟩ := h'
  constructor
  all_goals
    simp only [Event.count_append, List.filterMap_append, List.length_append]
    omega

omit [Machine C] in
/-- Where a number joins a queue, one more is ready. -/
theorem Queues.Joins.readyCount {q q' : Queues} {pid : Pid} {level : Priority} (h : q.Joins pid level q') :
    q'.readyCount = q.readyCount + 1 ∧ q'.blockedCount = q.blockedCount := by
  refine ⟨?_, by rw [blockedCount, h.blocked, blockedCount]⟩
  rw [Queues.readyCount, h.holds.length_eq, List.length_cons, Queues.readyCount]

omit [Machine C] in
/-- Where a number leaves a queue, one less is ready. -/
theorem Queues.Leaves.readyCount {q q' : Queues} {pid : Pid} {level : Priority} (h : q.Leaves pid level q') :
    q.readyCount = q'.readyCount + 1 ∧ q'.blockedCount = q.blockedCount := by
  refine ⟨?_, by rw [blockedCount, h.blocked, blockedCount]⟩
  rw [Queues.readyCount, h.holds, List.length_cons, Queues.readyCount]

omit [Machine C] in
/-- What the slot and the queues gain and lose with an event that counts so many dispatches, preemptions, blocks,
ends, wakes and births is a flow. -/
theorem Flows.of_move (dispatches preemptions blocks terminations wakes births : Nat)
    (hcounts : [Event.count .dispatches [e], Event.count .preemptions [e], Event.count .blocks [e],
        Event.count .terminations [e], Event.count .wakes [e], ([e].filterMap Event.born?).length] =
      [dispatches, preemptions, blocks, terminations, wakes, births])
    (hslot : k.occupancy + dispatches = preemptions + blocks + terminations + k'.occupancy)
    (hready : k.queues.readyCount + births + preemptions + wakes = dispatches + k'.queues.readyCount)
    (hblocked : k.queues.blockedCount + blocks = wakes + k'.queues.blockedCount) : Flows k [e] k' := by
  simp only [List.cons.injEq, and_true] at hcounts
  obtain ⟨rfl, rfl, rfl, rfl, rfl, rfl⟩ := hcounts
  exact ⟨hslot, hready, hblocked⟩

omit [Machine C] in
theorem Kernel.occupancy_of_running {pid : Pid} (hrun : k.running = some pid) : k.occupancy = 1 := by
  rw [occupancy, hrun]
  rfl

/-- Every move is a flow. -/
theorem Move.flows (h : Move k e k') (hk : k.Consistent) : Flows k [e] k' := by
  have hslot : k'.running = k.running → k.occupancy + 0 = 0 + 0 + 0 + k'.occupancy := by
    intro hrun
    rw [Kernel.occupancy, Kernel.occupancy, hrun]
    omega
  have hsame : ∀ {n : Nat}, n + 0 = 0 + n := fun {n} => (Nat.add_zero n).trans (Nat.zero_add n).symm
  cases h with
  | filed horigin hfresh hq =>
    obtain ⟨hready, hblocked⟩ := (Queues.joins_of_enqueueReady hq).readyCount
    exact .of_move 0 0 0 0 0 1 rfl (hslot rfl) (by simp only [hready]; omega) (by simp only [hblocked]; omega)
  | worked change work hrun => cases work <;> exact .of_move 0 0 0 0 0 0 rfl (hslot rfl) hsame hsame
  | blocked hrun =>
    refine .of_move 0 0 1 0 0 0 rfl (by rw [Kernel.occupancy_of_running hrun]; rfl) hsame ?_
    simp only [Queues.blockedCount, Queues.enqueueBlocked, List.length_append, List.length_singleton]
    omega
  | ended hrun => exact .of_move 0 0 0 1 0 0 rfl (by rw [Kernel.occupancy_of_running hrun]; rfl) hsame hsame
  | @woken pid r left queues hd hr hq =>
    obtain ⟨hready, hblocked⟩ := (Queues.joins_of_enqueueReady hq).readyCount
    obtain ⟨hb, hleft⟩ := Queues.dequeueBlocked_eq_some_iff.mp hd
    have hreadyLeft : left.readyCount = k.queues.readyCount := by rw [Queues.readyCount, hleft, Queues.readyCount]
    have hblockedLeft : k.queues.blockedCount = left.blockedCount + 1 := by
      rw [Queues.blockedCount, hb, List.length_cons, Queues.blockedCount]
    exact .of_move 0 0 0 0 1 0 rfl (hslot rfl) (by simp only [hready, hreadyLeft]; omega)
      (by simp only [hblocked, hblockedLeft]; omega)
  | charged hrun hmark hr hused => exact .of_move 0 0 0 0 0 0 rfl (hslot rfl) hsame hsame
  | preempted hrun hmark hr hused hq =>
    obtain ⟨hready, hblocked⟩ := (Queues.joins_of_enqueueReady hq).readyCount
    exact .of_move 0 1 0 0 0 0 rfl (by rw [Kernel.occupancy_of_running hrun]; rfl) (by simp only [hready]; omega)
      (by simp only [hblocked]; omega)
  | dispatched hrun hd hr =>
    obtain ⟨level, hl⟩ := Queues.leaves_of_dequeueReady hk.length_le hd
    obtain ⟨hready, hblocked⟩ := hl.readyCount
    refine .of_move 1 0 0 0 0 0 rfl ?_ (by simp only [hready]; omega) (by simp only [hblocked]; omega)
    rw [Kernel.occupancy, hrun]
    rfl
  | ticked => exact .of_move 0 0 0 0 0 0 rfl (hslot rfl) hsame hsame

/-- Every path is a flow. -/
theorem Path.flows (h : Path k es k') (hk : k.Consistent) : Flows k es k' := by
  induction h with
  | nil => constructor <;> simp [Event.count]
  | cons hm _ ih => exact (hm.flows hk).append (ih (hm.consistent hk))

omit [Machine C] in
/-- The processes of a kernel are in the slot, in a ready queue or in the blocked queue. -/
theorem Kernel.Consistent.size_eq (h : k.Consistent) :
    k.queues.readyCount + k.queues.blockedCount + k.occupancy = k.table.size := by
  have hplaced := h.placed.length_eq
  have hslot : k.running.toList.length = k.occupancy := by
    rw [Kernel.occupancy]
    cases k.running <;> rfl
  simp only [Kernel.places, List.length_append, hslot, Table.pids, List.length_map] at hplaced
  rw [Table.size, Table.records, List.length_map, ← hplaced, Queues.readyCount, Queues.blockedCount]
  omega

end Timeshare
