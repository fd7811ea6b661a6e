import Timeshare.Proofs.Observed
import Timeshare.Proofs.Records

/-!
# Who is put into the slot

Every level is served first come, first served: what was ever put into the ready queue of a level is what was ever
taken from it for the slot, followed by what the queue holds. And a process is taken only while every more urgent
queue is empty. So the process that is put into the slot is the most urgent of those that wait, and of these the one
that has waited the longest (`Session.dispatch_order`).
-/

namespace Timeshare

open Exchange

variable {C : Type}

/-! ## What an event puts into ready queues and takes from them -/

/-- The process that an event puts into a ready queue, and the level. -/
def Event.admitted? : Event C → Option (Pid × Priority)
  | filed r => some (r.pid, r.priority)
  | woken pid level | preempted pid level => some (pid, level)
  | _ => none

variable [Machine C] {k k' : Kernel C} {e : Event C} {es : List (Event C)} {pid : Pid} {level : Priority}

/-- A process that is dispatched comes from the head of its own level, while every more urgent level is empty. -/
theorem Move.leaves (h : Move k (.dispatched pid level) k') (hk : k.Consistent) :
    k.queues.Leaves pid level k'.queues := by
  cases h with
  | dispatched hrun hd hr =>
    obtain ⟨l, hl⟩ := Queues.leaves_of_dequeueReady hk.length_le hd
    have hmem : pid ∈ k.queues.readyAt l := by
      rw [hl.readyAt, if_pos rfl]
      exact List.mem_cons_self
    obtain rfl := ((hk.standing_of_get? hr).ready l hmem).2
    exact hl

omit [Machine C] in
/-- A process that joins a queue is at its end. -/
theorem Queues.Joins.readyAt_append {q q' : Queues} {p : Pid} {l₀ : Priority} (h : q.Joins p l₀ q') (l : Priority) :
    q.readyAt l ++ atLevel l [(p, l₀)] = q'.readyAt l := by
  rw [h.readyAt]
  by_cases hl : l = l₀
  · simp [atLevel, hl]
  · have hne : ¬l₀ = l := fun heq => hl heq.symm
    simp [atLevel, hl, hne]

omit [Machine C] in
/-- A process that leaves a queue is at its head. -/
theorem Queues.Leaves.readyAt_append {q q' : Queues} {p : Pid} {l₀ : Priority} (h : q.Leaves p l₀ q') (l : Priority) :
    q.readyAt l = atLevel l [(p, l₀)] ++ q'.readyAt l := by
  rw [h.readyAt]
  by_cases hl : l = l₀
  · simp [atLevel, hl]
  · have hne : ¬l₀ = l := fun heq => hl heq.symm
    simp [atLevel, hl, hne]

/-- What a level holds before a move, with what the move puts there, is what the move takes from there, with what the
level holds after it. -/
theorem Move.flow (h : Move k e k') (hk : k.Consistent) (l : Priority) :
    k.queues.readyAt l ++ atLevel l e.admitted?.toList = atLevel l e.dispatched?.toList ++ k'.queues.readyAt l := by
  cases h with
  | filed horigin hfresh hq => exact (Queues.joins_of_enqueueReady hq).readyAt_append l
  | woken hd hr hq =>
    have hready := (Queues.dequeueBlocked_eq_some_iff.mp hd).2
    refine Eq.trans ?_ ((Queues.joins_of_enqueueReady hq).readyAt_append l)
    rw [Queues.readyAt, Queues.readyAt, hready]
    rfl
  | preempted hrun hmark hr hused hq => exact (Queues.joins_of_enqueueReady hq).readyAt_append l
  | dispatched hrun hd hr =>
    refine (List.append_nil _).trans ?_
    exact (Move.leaves (.dispatched hrun hd hr) hk).readyAt_append l
  -- every other event leaves the ready queues as they are
  | _ => exact List.append_nil _

omit [Machine C] in
theorem Exchange.atLevel_append (l : Priority) (xs ys : List (Pid × Priority)) :
    atLevel l (xs ++ ys) = atLevel l xs ++ atLevel l ys := by
  rw [atLevel, List.filter_append, List.map_append, atLevel, atLevel]

omit [Machine C] in
/-- What the first event shows comes before what the others show. -/
theorem Event.filterMap_cons {α : Type} (f : Event C → Option α) (e : Event C) (es : List (Event C)) :
    (e :: es).filterMap f = (f e).toList ++ es.filterMap f := by
  rw [List.filterMap_cons]
  cases f e <;> rfl

/-- What a level holds before a path, with what the path puts there, is what the path takes from there, with what the
level holds after it. -/
theorem Path.flow (h : Path k es k') (hk : k.Consistent) (l : Priority) :
    k.queues.readyAt l ++ atLevel l (es.filterMap Event.admitted?) =
      atLevel l (es.filterMap Event.dispatched?) ++ k'.queues.readyAt l := by
  induction h with
  | nil => exact List.append_nil _
  | @cons k k₁ k' e es hm _ ih =>
    rw [Event.filterMap_cons, Event.filterMap_cons, atLevel_append, atLevel_append, ← List.append_assoc, hm.flow hk,
      List.append_assoc, ih (hm.consistent hk), List.append_assoc]

/-! ## What an exchange shows of it -/

/-- The level that an event names is that of the process. -/
theorem Move.levelOf_of_mem (h : Move k e k') (he : (pid, level) ∈ e.admitted?.toList ++ e.dispatched?.toList) :
    k'.levelOf pid = some level := by
  have hmodify : ∀ {p : Pid} {r : ProcessRecord C} {f : ProcessRecord C → ProcessRecord C}, k.table.get? p = some r →
      (∀ r, (f r).priority = r.priority) → (pid, level) ∈ [(p, r.priority)] →
      ((k.table.modify p f).get? pid).map (·.priority) = some level := by
    intro p r f hr hf hmem
    obtain ⟨rfl, rfl⟩ := Prod.mk.inj (List.mem_singleton.mp hmem)
    rw [Table.map_get?_modify_eq _ _ _ hf, hr]
    rfl
  cases h with
  | filed horigin hfresh hq =>
    obtain ⟨rfl, rfl⟩ := Prod.mk.inj (List.mem_singleton.mp he)
    rw [Kernel.levelOf, Table.get?_insert, if_pos horigin.fields.1]
    rfl
  | woken hd hr hq => exact hmodify hr (fun _ => rfl) he
  | preempted hrun hmark hr hused hq => exact hmodify hr (fun _ => rfl) he
  | dispatched hrun hd hr => exact hmodify hr (fun _ => rfl) he
  | _ => cases he

/-- The levels that the events of a path name are those of the processes after it, if no process ends but in the first
event. -/
theorem Path.levelOf_of_mem (h : Path k es k') (hended : ∀ e ∈ es.tail, e.ended? = none)
    (he : (pid, level) ∈ es.filterMap Event.admitted? ++ es.filterMap Event.dispatched?) :
    k'.levelOf pid = some level := by
  induction h with
  | nil => cases he
  | @cons k k₁ k' e es hm hrest ih =>
    have hended' : ∀ e ∈ es.tail, e.ended? = none := fun e hmem => hended e (List.mem_of_mem_tail hmem)
    simp only [Event.filterMap_cons, List.mem_append] at he
    rcases he with (he | he) | he | he
    · exact hrest.levelOf hended (hm.levelOf_of_mem (List.mem_append_left _ he))
    · exact ih hended' (List.mem_append_left _ he)
    · exact hrest.levelOf hended (hm.levelOf_of_mem (List.mem_append_right _ he))
    · exact ih hended' (List.mem_append_right _ he)

namespace Shape

/-- In a shape no process ends but in the first event. -/
theorem ended_eq_none (h : Shape k es k') : ∀ e ∈ es.tail, e.ended? = none := by
  cases h with
  | @intro opening ticks turn rest k₁ k₂ _ hopening hticks hturn hrest hbefore hmiddle hafter =>
    have hlater : ∀ e ∈ ticks ++ (turn ++ rest), e.ended? = none := by
      have hnone : turn.filterMap Event.ended? = [] := by cases hturn <;> rfl
      rw [← List.filterMap_eq_nil_iff, List.filterMap_append, List.filterMap_append, filterMap_ticks _ rfl hticks,
        hnone, filterMap_ticks _ rfl hrest]
      rfl
    rw [List.append_assoc, List.append_assoc]
    cases hopening with
    | nothing => exact fun e he => hlater e (List.mem_of_mem_tail he)
    | forked r pid change =>
      intro e he
      rcases List.mem_cons.mp he with rfl | he
      · rfl
      · exact hlater e he
    | _ => exact hlater

/-- A shape that dispatches a process leaves every more urgent level empty. -/
theorem urgent (h : Shape k es k') (hk : k.Consistent) (hd : (pid, level) ∈ es.filterMap Event.dispatched?) :
    ∀ l < level, k'.queues.readyAt l = [] := by
  obtain ⟨es₁, k₁, k₂, hpath, hm, hqueues, -, -⟩ := h.exists_dispatch hd
  have hl := hm.leaves (hpath.consistent hk)
  intro l hlt
  have hready := hl.readyAt l
  rw [if_neg (UInt8.ne_of_lt hlt), hl.urgent l hlt] at hready
  rw [hqueues, ← hready]

/-- A shape puts into ready queues the process that is made or forked, or the one that is woken, and then the one that
is preempted. -/
theorem admitted (h : Shape k es k') : (es.filterMap Event.admitted?).map Prod.fst =
    es.filterMap Event.born? ++ (es.filterMap Event.woken?).map Prod.fst ++
      (es.filterMap Event.preempted?).map Prod.fst := by
  obtain ⟨opening, turn, k₁, k₂, hopening, hturn, -, -, -, hshows⟩ := h.exists_turn
  rw [hshows _ rfl, hshows _ rfl, hshows _ rfl, hshows _ rfl, hopening.still.2.1]
  have ho : (opening.filterMap Event.admitted?).map Prod.fst =
      opening.filterMap Event.born? ++ (opening.filterMap Event.woken?).map Prod.fst := by cases hopening <;> rfl
  have ht : (turn.filterMap Event.admitted?).map Prod.fst = (turn.filterMap Event.preempted?).map Prod.fst := by
    cases hturn <;> rfl
  have htb : turn.filterMap Event.born? = [] := by cases hturn <;> rfl
  have htw : turn.filterMap Event.woken? = [] := by cases hturn <;> rfl
  rw [List.map_append, ho, ht, htb, htw, List.append_nil, List.append_nil, List.nil_append]

end Shape

/-- Processes with their levels are the processes, each with the level that it has. -/
theorem Exchange.leveled_map (x : Exchange) {log : List (Pid × Priority)}
    (h : ∀ pid level, (pid, level) ∈ log → x.after.kernel.levelOf pid = some level) :
    x.leveled (log.map Prod.fst) = log := by
  induction log with
  | nil => rfl
  | cons entry log ih =>
    obtain ⟨pid, level⟩ := entry
    rw [List.map_cons, leveled, List.filterMap_cons, h pid level List.mem_cons_self]
    exact congrArg _ (ih fun pid level hmem => h pid level (List.mem_cons_of_mem _ hmem))

namespace Session.Takes

variable {s : Session} {source : Source} {request : Request} {es : List (Event Context)}

/-- The levels that the events of an exchange name are those of the processes after it. -/
theorem levelOf_of_mem (ht : s.Takes source request es) {pid : Pid} {level : Priority}
    (he : (pid, level) ∈ es.filterMap Event.admitted? ++ es.filterMap Event.dispatched?) :
    (s.exchange source request).after.kernel.levelOf pid = some level :=
  ht.course.path.levelOf_of_mem ht.course.shape.ended_eq_none he

/-- What an exchange shows as put into ready queues is what its events put there. -/
theorem admitted_eq (ht : s.Takes source request es) :
    (s.exchange source request).admitted = es.filterMap Event.admitted? := by
  have hpids : (es.filterMap Event.admitted?).map Prod.fst = (s.exchange source request).born?.toList ++
      (s.exchange source request).woken?.toList ++ (s.exchange source request).preempted?.toList := by
    rw [ht.course.shape.admitted, ht.course.born, ht.course.woken_eq, ht.preempted]
    rfl
  rw [Exchange.admitted, ← hpids]
  exact leveled_map _ fun _ _ hmem => ht.levelOf_of_mem (List.mem_append_left _ hmem)

/-- What an exchange shows as put into the slot is what its events put there. -/
theorem dispatched_eq (ht : s.Takes source request es) :
    (s.exchange source request).dispatched = es.filterMap Event.dispatched? := by
  rw [Exchange.dispatched, ← ht.dispatched]
  exact leveled_map _ fun _ _ hmem => ht.levelOf_of_mem (List.mem_append_right _ hmem)

/-- What waited at a level when the slot was to be filled was taken for the slot in the exchange or waits there after
it. -/
theorem waiting_eq (ht : s.Takes source request es) (l : Priority) : (s.exchange source request).waiting l =
    atLevel l (s.exchange source request).dispatched ++ (s.exchange source request).after.kernel.queues.readyAt l := by
  rw [waiting, (exchange_before source s request).1, ht.admitted_eq, ht.dispatched_eq]
  exact ht.course.path.flow ht.before.consistent l

/-- The process that is put into the slot comes from the head of its level, and nobody waited at a more urgent one. -/
theorem waiting_of_dispatched (ht : s.Takes source request es) {pid : Pid}
    (hx : (s.exchange source request).dispatched? = some pid) :
    ∃ level, (s.exchange source request).dispatched = [(pid, level)] ∧
      (s.exchange source request).after.kernel.levelOf pid = some level ∧
      (s.exchange source request).after.kernel.running = some pid ∧
      (s.exchange source request).waiting level = pid :: (s.exchange source request).after.kernel.queues.readyAt level ∧
      ∀ l < level, (s.exchange source request).waiting l = [] := by
  have hobserved := ht.dispatched
  rw [hx, Option.toList_some] at hobserved
  obtain ⟨⟨p, level⟩, hevents, rfl⟩ := List.map_eq_singleton_iff.mp hobserved
  have hmem : (p, level) ∈ es.filterMap Event.dispatched? := by
    rw [hevents]
    exact List.mem_cons_self
  obtain ⟨es₁, k₁, k₂, -, hm, -, -, hrun⟩ := ht.course.shape.exists_dispatch hmem
  have hdispatched := ht.dispatched_eq.trans hevents
  refine ⟨level, hdispatched, ht.levelOf_of_mem (List.mem_append_right _ hmem), hrun.trans hm.running, ?_,
    fun l hlt => ?_⟩
  · rw [ht.waiting_eq, hdispatched]
    simp [atLevel]
  · have hne : l ≠ level := UInt8.ne_of_lt hlt
    rw [ht.waiting_eq, hdispatched, ht.course.shape.urgent ht.before.consistent hmem l hlt]
    simp [atLevel, hne.symm]

end Session.Takes

/-! ## Every run -/

namespace Exchange

theorem mem_atLevel {log : List (Pid × Priority)} {pid : Pid} {level : Priority} :
    pid ∈ atLevel level log ↔ (pid, level) ∈ log := by
  simp [atLevel]

/-- A process of one level in a list, where it stands in the list. -/
theorem exists_of_atLevel {log : List (Pid × Priority)} {level : Priority} {pid : Pid} {older newer : List Pid}
    (h : atLevel level log = older ++ pid :: newer) :
    ∃ earlier later, log = earlier ++ (pid, level) :: later ∧ atLevel level later = newer := by
  obtain ⟨front, back, hfilter, -, hback⟩ := List.map_eq_append_iff.mp h
  obtain ⟨⟨p, l⟩, rest, rfl, rfl, hrest⟩ := List.map_eq_cons_iff.mp hback
  obtain ⟨log₁, log₂, rfl, -, hlog₂⟩ := List.filter_eq_append_iff.mp hfilter
  obtain ⟨gap, later, rfl, -, hl, rfl⟩ := List.filter_eq_cons_iff.mp hlog₂
  obtain rfl : l = level := by simpa using hl
  exact ⟨log₁ ++ gap, later, by rw [List.append_assoc], hrest⟩

end Exchange

namespace Session

variable {levels : UInt8} {k : Kernel Context}

/-- What was ever put into the ready queue of a level is what was ever taken from it for the slot, followed by what it
holds. -/
theorem admissions_eq (hboot : Kernel.boot levels = .ok k) {requests : List (Source × Request)}
    (hroom : Exchange.births (exchanges { kernel := k } requests) < UInt32.size) (level : Priority) :
    atLevel level (admissions (exchanges { kernel := k } requests)) =
      atLevel level (dispatches (exchanges { kernel := k } requests)) ++
        (after { kernel := k } requests).kernel.queues.readyAt level := by
  refine (run_invariant_of_boot (P := fun xs s =>
    atLevel level (admissions xs) = atLevel level (dispatches xs) ++ s.kernel.queues.readyAt level) hboot ?_ ?_ hroom).1
  · rw [(Kernel.boot_eq_ok_iff.mp hboot).2]
    exact (Queues.readyAt_empty levels level).symm
  · rintro xs s source request es - ht hP
    have hwaiting := ht.waiting_eq level
    rw [waiting, (exchange_before source s request).1] at hwaiting
    simp only [admissions, dispatches, List.flatMap_append, List.flatMap_singleton, atLevel_append] at hP ⊢
    rw [hP, List.append_assoc, hwaiting, List.append_assoc]

/-- A process that comes from the head of its level was put there before all that wait behind it. -/
theorem exists_admission (hboot : Kernel.boot levels = .ok k) {requests : List (Source × Request)}
    (hroom : Exchange.births (exchanges { kernel := k } requests) < UInt32.size) {source : Source} {request : Request}
    {pid : Pid} {level : Priority} {behind : List Pid}
    (hhead : ((after { kernel := k } requests).exchange source request).waiting level = pid :: behind) :
    ∃ earlier later,
      admissions (exchanges { kernel := k } requests ++ [(after { kernel := k } requests).exchange source request]) =
      earlier ++ (pid, level) :: later ∧ atLevel level later = behind := by
  have hlog : atLevel level (admissions (exchanges { kernel := k } requests ++
      [(after { kernel := k } requests).exchange source request])) =
        atLevel level (dispatches (exchanges { kernel := k } requests)) ++ pid :: behind := by
    rw [← hhead, waiting, (exchange_before source _ request).1, ← List.append_assoc, ← admissions_eq hboot hroom,
      ← atLevel_append, admissions, List.flatMap_append, List.flatMap_singleton]
    rfl
  exact exists_of_atLevel hlog

/-- In every run of a kernel since it booted: each level is served first come, first served. No process comes into the
slot unseen. And the process that is put into the slot comes from the head of its level while nobody waits at a more
urgent one: every other process that waits is of a less urgent level, or of the same and was put there later. -/
theorem dispatch_order (hboot : Kernel.boot levels = .ok k) (requests : List (Source × Request))
    (hroom : Exchange.births (exchanges { kernel := k } requests) < UInt32.size) :
    (∀ level, atLevel level (admissions (exchanges { kernel := k } requests)) =
      atLevel level (dispatches (exchanges { kernel := k } requests)) ++
        (after { kernel := k } requests).kernel.queues.readyAt level) ∧
    (∀ x ∈ exchanges { kernel := k } requests,
      x.after.kernel.stats.dispatches = x.before.kernel.stats.dispatches + UInt64.ofNat x.dispatched?.toList.length ∧
      (x.dispatched? = none → x.after.kernel.running = x.before.kernel.running ∨ x.after.kernel.running = none)) ∧
    ∀ older x newer pid, exchanges { kernel := k } requests = older ++ x :: newer → x.dispatched? = some pid →
      ∃ level, x.dispatched = [(pid, level)] ∧ x.after.kernel.levelOf pid = some level ∧
        (∀ l < level, x.waiting l = []) ∧ x.waiting level = pid :: x.after.kernel.queues.readyAt level ∧
        ∃ earlier later, admissions (older ++ [x]) = earlier ++ (pid, level) :: later ∧ (pid, level) ∉ later ∧
          ∀ q l, q ∈ x.waiting l → q ≠ pid → level < l ∨ (l = level ∧ (q, level) ∈ later) := by
  refine ⟨admissions_eq hboot hroom, fun x hx => ?_, fun older x newer pid hsplit hx => ?_⟩
  · obtain ⟨older, newer, hsplit⟩ := List.append_of_mem hx
    obtain ⟨before, source, request, rest, es, -, -, rfl, -, ht, -, -⟩ := takes_of_split hboot hroom hsplit
    rw [(exchange_before source _ request).1]
    exact ht.shows_dispatches
  · obtain ⟨before, source, request, rest, es, -, rfl, rfl, -, ht, -, -⟩ := takes_of_split hboot hroom hsplit
    obtain ⟨level, hdispatched, hlevel, hrun, hhead, hurgent⟩ := ht.waiting_of_dispatched hx
    have hroom' : Exchange.births (exchanges { kernel := k } before) < UInt32.size := by
      rw [hsplit, births_append] at hroom
      omega
    obtain ⟨earlier, later, heq, hlater⟩ := exists_admission hboot hroom' hhead
    refine ⟨level, hdispatched, hlevel, hurgent, hhead, earlier, later, heq, ?_, ?_⟩
    · intro hmem
      exact ht.after.consistent.not_readyAt_of_running hrun level (hlater ▸ mem_atLevel.mpr hmem)
    · intro q l hq hne
      by_cases hl : l = level
      · subst hl
        rw [hhead] at hq
        exact .inr ⟨rfl, mem_atLevel.mp (hlater ▸ (List.mem_cons.mp hq).resolve_left hne)⟩
      · refine .inl (UInt8.lt_of_le_of_ne (UInt8.not_lt.mp fun hlt => ?_) (Ne.symm hl))
        rw [hurgent l hlt] at hq
        cases hq

/-- In the sample the first process and its child take turns at their level, and the first one waits at last. -/
theorem dispatch_order_sample :
    Kernel.boot 2 = .ok (Kernel.empty 2 : Kernel Context) ∧
      Exchange.births (exchanges { kernel := Kernel.empty 2 } (sample.map (Prod.mk Source.empty))) < UInt32.size ∧
      atLevel 1 (dispatches (exchanges { kernel := Kernel.empty 2 } (sample.map (Prod.mk Source.empty)))) =
        [0, 2, 0, 2] ∧
      atLevel 1 (admissions (exchanges { kernel := Kernel.empty 2 } (sample.map (Prod.mk Source.empty)))) =
        [0, 2, 0, 2] ++
          (after { kernel := Kernel.empty 2 } (sample.map (Prod.mk Source.empty))).kernel.queues.readyAt 1 := by
  have hboot : Kernel.boot 2 = .ok (Kernel.empty 2 : Kernel Context) := rfl
  have hroom : Exchange.births (exchanges { kernel := Kernel.empty 2 } (sample.map (Prod.mk Source.empty))) <
      UInt32.size := by
    decide +kernel
  have hdispatches :
      atLevel 1 (dispatches (exchanges { kernel := Kernel.empty 2 } (sample.map (Prod.mk Source.empty)))) =
        [0, 2, 0, 2] := by
    decide +kernel
  have h := (dispatch_order hboot _ hroom).1 1
  rw [hdispatches] at h
  exact ⟨hboot, hroom, hdispatches, h⟩

end Session

end Timeshare
