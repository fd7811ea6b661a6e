import Timeshare.Proofs.DispatchOrder
import Timeshare.Proofs.Isolation
import Timeshare.Proofs.Partition

/-!
# Who is woken, and what a blocked process keeps

Processes are woken in the order in which they blocked, whatever their levels: those that ever blocked are those that
were ever woken, followed by those in the blocked queue. A wake takes the one that has been blocked the longest to the
tail of its own level before the slot is filled, and does nothing at all where nobody is blocked. From its block until
its wake a process keeps its record, which stands one instruction after the block (`Session.wake_order`).
-/

namespace Timeshare

/-- The process that blocked. -/
def StepOutcome.blocked? : StepOutcome → Option Pid
  | .blocked pid => some pid
  | _ => none

/-- The process that blocked in the exchange. -/
def Exchange.blocked? (x : Exchange) : Option Pid := x.outcome?.bind StepOutcome.blocked?

/-- An exchange blocks a process exactly if this is what its step did. -/
theorem Exchange.blocked?_eq_some_iff {x : Exchange} {pid : Pid} :
    x.blocked? = some pid ↔ x.outcome? = some (.blocked pid) := by
  rw [blocked?, Option.bind_eq_some_iff]
  constructor
  · rintro ⟨outcome, houtcome, hpid⟩
    cases outcome <;> cases hpid
    exact houtcome
  · exact fun h => ⟨_, h, rfl⟩

/-- An exchange does not both wake and block. -/
theorem Exchange.blocked?_of_woken? {x : Exchange} {pid : Pid} (h : x.woken? = some pid) : x.blocked? = none := by
  obtain ⟨response, hresponse, hwoken⟩ := Option.bind_eq_some_iff.mp h
  rw [blocked?, outcome?, hresponse]
  rcases response with (_ | _ | _ | _ | _) | (_ | _ | _ | _) | _ <;> first
    | rfl
    | cases hwoken

/-! ## The blocked queue -/

section

variable {C : Type}

/-- The process that an event blocks. -/
def Event.blocked? : Event C → Option Pid
  | blocked pid => some pid
  | _ => none

variable [Machine C] {source : Source} {k k' : Kernel C} {e : Event C} {es : List (Event C)} {pid : Pid}

/-- What the blocked queue holds before a move, with whom the move blocks, is whom the move wakes, with what it holds
after it. -/
theorem Move.blocked_flow (h : Move k e k') : k.queues.blocked ++ e.blocked?.toList =
    (e.woken?.map Prod.fst).toList ++ k'.queues.blocked := by
  cases h with
  | filed horigin hfresh hq => exact (List.append_nil _).trans (Queues.joins_of_enqueueReady hq).blocked.symm
  | woken hd hr hq =>
    rw [(Queues.joins_of_enqueueReady hq).blocked]
    exact (List.append_nil _).trans (Queues.dequeueBlocked_eq_some_iff.mp hd).1
  | preempted hrun hmark hr hused hq => exact (List.append_nil _).trans (Queues.joins_of_enqueueReady hq).blocked.symm
  | dispatched hrun hd hr =>
    obtain ⟨left, -, heq⟩ := Option.map_eq_some_iff.mp hd
    obtain ⟨-, rfl⟩ := Prod.mk.inj heq
    exact List.append_nil _
  | blocked hrun => rfl
  | _ => exact List.append_nil _

/-- What the blocked queue holds before a path, with those that it blocks, is those that it wakes, with what it holds
after it. -/
theorem Path.blocked_flow (h : Path k es k') : k.queues.blocked ++ es.filterMap Event.blocked? =
    (es.filterMap Event.woken?).map Prod.fst ++ k'.queues.blocked := by
  induction h with
  | nil => exact List.append_nil _
  | @cons k k₁ k' e es hm _ ih =>
    rw [Event.filterMap_cons, Event.filterMap_cons, ← List.append_assoc, hm.blocked_flow, List.append_assoc, ih,
      List.map_append, List.append_assoc]
    congr 1
    cases e.woken? <;> rfl

/-- A course blocks the process that its answer names. -/
theorem Course.blocked_eq {k k' : Kernel Context} {request : Request} {answer : Except Halt Response}
    {es : List (Event Context)} (h : Course source k request answer es k') :
    es.filterMap Event.blocked? = ((answer.toOption.bind Response.outcome?).bind StepOutcome.blocked?).toList := by
  rw [← Event.filterMap_opens fun e he => by cases e <;> first | rfl | cases he]
  have hopens := h.opens
  generalize es.filter Event.opens = opening at hopens ⊢
  cases hopens with
  | made hr => rfl
  | stepped hdeed => cases hdeed <;> rfl
  | ticked hdeed => cases hdeed <;> rfl
  | woken level hresponse => rcases hresponse with rfl | rfl <;> rfl
  | nothing houtcome hborn hwoken => rcases houtcome with h | h <;> rw [h] <;> rfl

/-! ## The record of a blocked process -/

/-- No move touches the record of a blocked process but the one that wakes it. -/
theorem Move.get?_of_blocked (h : Move k e k') (hk : k.Consistent) (hp : pid ∈ k.queues.blocked)
    (he : e.woken?.map Prod.fst ≠ some pid) : k'.table.get? pid = k.table.get? pid := by
  have hslot : ∀ {p}, k.running = some p → pid ≠ p := by
    rintro p hrun rfl
    exact (hk.not_queued_of_running hrun).2 hp
  have hother : ∀ {p} (f : ProcessRecord C → ProcessRecord C), pid ≠ p → (k.table.modify p f).get? pid =
      k.table.get? pid := by
    intro p f hne
    rw [Table.get?_modify, if_neg hne]
  cases h with
  | filed horigin hfresh hq =>
    have hne : pid ≠ k.table.nextPid := by
      rintro rfl
      exact hfresh (horigin.fields.1 ▸ Table.mem_pids_iff.mpr (hk.exists_blocked hp))
    exact (Table.get?_insert _ _ _).trans (if_neg hne)
  | worked change work hrun => exact hother _ (hslot hrun)
  | blocked hrun => exact hother _ (hslot hrun)
  | ended hrun => exact (Table.get?_erase _ _ _).trans (if_neg (hslot hrun))
  | woken hd hr hq => exact hother _ fun heq => he (congrArg some heq.symm)
  | charged hrun hmark hr hused => exact hother _ (hslot hrun)
  | preempted hrun hmark hr hused hq => exact hother _ (hslot hrun)
  | dispatched hrun hd hr =>
    refine hother _ ?_
    rintro rfl
    obtain ⟨l, hl⟩ := Queues.leaves_of_dequeueReady hk.length_le hd
    refine hk.not_readyAt_of_blocked hp l ?_
    rw [hl.readyAt, if_pos rfl]
    exact List.mem_cons_self
  | ticked => rfl

/-- No move takes a process out of the blocked queue but the one that wakes it. -/
theorem Move.mem_blocked (h : Move k e k') (hp : pid ∈ k.queues.blocked) (he : e.woken?.map Prod.fst ≠ some pid) :
    pid ∈ k'.queues.blocked := by
  have hmem := List.mem_append_left e.blocked?.toList hp
  rw [h.blocked_flow] at hmem
  rcases List.mem_append.mp hmem with hwoken | hp'
  · exact absurd (Option.mem_toList.mp hwoken) he
  · exact hp'

/-- A process that is blocked, and that no event of a path wakes, keeps its record and stays blocked. -/
theorem Path.still_blocked (h : Path k es k') (hk : k.Consistent) (hp : pid ∈ k.queues.blocked)
    (hes : ∀ e ∈ es, e.woken?.map Prod.fst ≠ some pid) :
    k'.table.get? pid = k.table.get? pid ∧ pid ∈ k'.queues.blocked := by
  induction h with
  | nil => exact ⟨rfl, hp⟩
  | cons hm _ ih =>
    have he := hes _ List.mem_cons_self
    obtain ⟨hget, hp'⟩ := ih (hm.consistent hk) (hm.mem_blocked hp he) fun e hmem => hes e (List.mem_cons_of_mem _ hmem)
    exact ⟨hget.trans (hm.get?_of_blocked hk hp he), hp'⟩

end

/-- The context stands one instruction after a block. Where the places are enough for the program, its place is not
the first one. -/
structure Context.FollowsBlock (c : Context) : Prop where
  block : c.program[(c.programCounter - 1).toNat]? = some .block
  pos : c.program.length < UInt64.size → 1 ≤ c.programCounter

/-- The context after a block stands one instruction after it. -/
theorem Context.followsBlock_advance {c : Context} (h : c.next? = some .block) : (Machine.advance c).FollowsBlock := by
  have hblock : c.program[(c.programCounter + 1 - 1).toNat]? = some .block := by rwa [UInt64.add_sub_cancel]
  refine ⟨hblock, fun (hshort : c.program.length < UInt64.size) => ?_⟩
  obtain ⟨hlt, -⟩ := List.getElem?_eq_some_iff.mp h
  change 1 ≤ c.programCounter + 1
  rw [UInt64.le_iff_toNat_le, UInt64.toNat_add, UInt64.toNat_one,
    Nat.mod_eq_of_lt (by simp only [UInt64.size] at hshort; omega)]
  exact Nat.le_add_left 1 _

/-! ## Wakes -/

/-- A wake that gives this answer and leaves the second kernel takes whoever has been blocked the longest to the tail
of its own level, and the accounting comes after that; it does nothing at all exactly if nobody is blocked. -/
structure Kernel.WakesOldest {C : Type} (k : Kernel C) (woken : Option Pid) (k' : Kernel C) : Prop where
  nobody : woken = none ↔ k.queues.blocked = []
  still : woken = none → k' = k
  oldest : ∀ pid, woken = some pid → ∃ rest r k₁, k.queues.blocked = pid :: rest ∧ k.table.get? pid = some r ∧
    unblock k = .ok (some pid) k₁ ∧ k₁.queues.blocked = rest ∧ k₁.running = k.running ∧
    (∀ level, k₁.queues.readyAt level =
      if level = r.priority then k.queues.readyAt level ++ [pid] else k.queues.readyAt level) ∧
    reschedule k₁ = .ok k'.running k'

/-- Every wake of a consistent kernel wakes whoever has been blocked the longest. -/
theorem Kernel.exists_wakesOldest {C : Type} [Machine C] {k : Kernel C} (hk : k.Consistent) :
    ∃ woken k', wake k = .ok woken k' ∧ k.WakesOldest woken k' := by
  cases hb : k.queues.blocked with
  | nil =>
    refine ⟨none, k, Action.bind_ok (unblock_none hb), ⟨fun _ => hb, fun _ => rfl⟩, fun _ => rfl, fun pid hpid => ?_⟩
    cases hpid
  | cons pid rest =>
    obtain ⟨r, k₁, hr, hunblock, hm, hblocked, hready⟩ := exists_unblock hk hb
    obtain ⟨turn, k', hsettle, -⟩ := exists_settles (hm.consistent hk)
    refine ⟨some pid, k', (Action.bind_ok hunblock).trans (Action.bind_ok hsettle), ?_, fun hnone => ?_, fun p hp => ?_⟩
    · simp [hb]
    · cases hnone
    · obtain rfl := Option.some.inj hp
      exact ⟨rest, r, k₁, hb, hr, hunblock, hblocked, hm.running, hready, hsettle⟩

namespace Session

variable {s : Session} {source : Source} {request : Request} {es : List (Event Context)} {pid : Pid}

namespace Takes

/-- What the blocked queue holds before an exchange, with who blocks in it, is who is woken in it, with what it holds
after it. -/
theorem blocked_flow (ht : s.Takes source request es) :
    s.kernel.queues.blocked ++ (s.exchange source request).blocked?.toList =
      (s.exchange source request).woken?.toList ++ (s.exchange source request).after.kernel.queues.blocked := by
  have hflow := ht.course.path.blocked_flow
  rwa [ht.course.blocked_eq, ht.course.woken_eq] at hflow

/-- A process that is blocked and not woken in an exchange keeps its record and stays blocked. -/
theorem still_blocked (ht : s.Takes source request es) (hp : pid ∈ s.kernel.queues.blocked)
    (hw : (s.exchange source request).woken? ≠ some pid) :
    (s.exchange source request).after.kernel.table.get? pid = s.kernel.table.get? pid ∧
      pid ∈ (s.exchange source request).after.kernel.queues.blocked := by
  refine ht.course.path.still_blocked ht.before.consistent hp fun e he hwoken => hw ?_
  obtain ⟨⟨p, level⟩, hshown, rfl⟩ := Option.map_eq_some_iff.mp hwoken
  have hmem : p ∈ (es.filterMap Event.woken?).map Prod.fst :=
    List.mem_map_of_mem (List.mem_filterMap.mpr ⟨e, he, hshown⟩)
  rw [ht.course.woken_eq] at hmem
  exact Option.mem_toList.mp hmem

/-- A process that blocks in an exchange is blocked after it. -/
theorem mem_blocked (ht : s.Takes source request es) (hx : (s.exchange source request).outcome? = some (.blocked pid)) :
    pid ∈ (s.exchange source request).after.kernel.queues.blocked := by
  have hblocked := Exchange.blocked?_eq_some_iff.mpr hx
  have hflow := ht.blocked_flow
  cases hw : (s.exchange source request).woken? with
  | some p => cases hblocked.symm.trans (Exchange.blocked?_of_woken? hw)
  | none =>
    rw [hblocked, hw] at hflow
    rw [Option.toList_none, List.nil_append] at hflow
    exact hflow ▸ List.mem_append_right _ (Option.mem_toList.mpr rfl)

/-- A process that is blocked after an exchange blocked in it, or was blocked before and is not woken in it. -/
theorem blocked_cases (ht : s.Takes source request es)
    (hp : pid ∈ (s.exchange source request).after.kernel.queues.blocked) :
    (s.exchange source request).outcome? = some (.blocked pid) ∨
      (pid ∈ s.kernel.queues.blocked ∧ (s.exchange source request).woken? ≠ some pid) := by
  have hflow := ht.blocked_flow
  have hmem := hflow ▸ List.mem_append_right (s.exchange source request).woken?.toList hp
  rcases List.mem_append.mp hmem with hbefore | hblocked
  · refine .inr ⟨hbefore, fun hw => ?_⟩
    -- whoever is woken was the first in the blocked queue, and stood there once
    rw [Exchange.blocked?_of_woken? hw, hw, Option.toList_none, List.append_nil] at hflow
    have hn := ht.before.consistent.nodup
    rw [Kernel.places, hflow, List.nodup_append] at hn
    exact (List.nodup_cons.mp hn.2.1).1 hp
  · exact .inl (Exchange.blocked?_eq_some_iff.mp (Option.mem_toList.mp hblocked))

/-- A process that blocks stands one instruction after the block. -/
theorem followsBlock (ht : s.Takes source request es)
    (hx : (s.exchange source request).outcome? = some (.blocked pid)) :
    ∃ c, (s.exchange source request).after.kernel.contextOf pid = some c ∧ c.FollowsBlock := by
  obtain ⟨c, -, hi, hc⟩ := ht.course.block ht.before hx
  exact ⟨_, hc, Context.followsBlock_advance hi⟩

end Takes

/-- Every blocked process stands one instruction after a block. -/
def AfterBlocks (s : Session) : Prop :=
  ∀ pid ∈ s.kernel.queues.blocked, ∃ c, s.kernel.contextOf pid = some c ∧ c.FollowsBlock

/-- In every exchange blocked processes stay where they are, and whoever blocks stands one instruction after a block. -/
theorem Takes.afterBlocks (ht : s.Takes source request es) (hs : s.AfterBlocks) :
    (s.exchange source request).after.AfterBlocks := by
  intro pid hp
  rcases ht.blocked_cases hp with hx | ⟨hbefore, hw⟩
  · exact ht.followsBlock hx
  · obtain ⟨c, hc, hfollows⟩ := hs pid hbefore
    refine ⟨c, ?_, hfollows⟩
    rw [Kernel.contextOf, (ht.still_blocked hbefore hw).1]
    exact hc

/-- A process that is blocked keeps its record over every run in which it is not woken. -/
theorem get?_of_blocked (hs : s.kernel.Sound) (hp : pid ∈ s.kernel.queues.blocked) {requests : List (Source × Request)}
    (hroom : s.kernel.table.nextPid.toNat + Exchange.births (s.exchanges requests) < UInt32.size)
    (hw : ∀ x ∈ s.exchanges requests, x.woken? ≠ some pid) :
    (s.after requests).kernel.table.get? pid = s.kernel.table.get? pid := by
  refine ((run_invariant (P := fun xs s' => (∀ x ∈ xs, x.woken? ≠ some pid) →
    s'.kernel.table.get? pid = s.kernel.table.get? pid ∧ pid ∈ s'.kernel.queues.blocked) hs ?_ ?_ hroom).1 hw).1
  · exact fun _ => ⟨rfl, hp⟩
  · intro xs s' source request es _ ht hP hxs
    rw [List.forall_mem_append, List.forall_mem_singleton] at hxs
    obtain ⟨hget, hmem⟩ := hP hxs.1
    obtain ⟨hget', hmem'⟩ := ht.still_blocked hmem hxs.2
    exact ⟨hget'.trans hget, hmem'⟩

/-- A request for a wake does what a wake of the kernel does, and shows it. -/
theorem exchange_wake {woken : Option Pid} {k' : Kernel Context} (hwake : Kernel.wake s.kernel = .ok woken k')
    (hrequest : request = .operation .wake ∨ (request = .command .wake ∧ s.shutDown = false)) :
    (s.exchange source request).woken? = woken ∧ (s.exchange source request).after = { s with kernel := k' } := by
  rcases hrequest with rfl | ⟨rfl, hdown⟩
  · rw [exchange_ok (Action.map_ok (onKernel_ok (Action.map_ok hwake)))]
    exact ⟨rfl, rfl⟩
  · rw [exchange_ok (Action.map_ok (dispatch_wake source hdown hwake))]
    exact ⟨rfl, rfl⟩

section

variable {levels : UInt8} {k : Kernel Context}

/-- Whoever ever blocked was woken since, in the same order, or is in the blocked queue; and every blocked process
stands one instruction after a block. -/
theorem blocks_eq (hboot : Kernel.boot levels = .ok k) {requests : List (Source × Request)}
    (hroom : Exchange.births (exchanges { kernel := k } requests) < UInt32.size) :
    (exchanges { kernel := k } requests).filterMap Exchange.blocked? =
        (exchanges { kernel := k } requests).filterMap Exchange.woken? ++
          (after { kernel := k } requests).kernel.queues.blocked ∧
      (after { kernel := k } requests).AfterBlocks := by
  refine (run_invariant_of_boot (P := fun xs s =>
    xs.filterMap Exchange.blocked? = xs.filterMap Exchange.woken? ++ s.kernel.queues.blocked ∧
      s.AfterBlocks) hboot ?_ ?_ hroom).1
  · obtain rfl := (Kernel.boot_eq_ok_iff.mp hboot).2
    exact ⟨rfl, fun pid hp => absurd hp List.not_mem_nil⟩
  · rintro xs s source request es - ht ⟨hP, hafter⟩
    refine ⟨?_, ht.afterBlocks hafter⟩
    rw [List.filterMap_eq_flatMap_toList, List.filterMap_eq_flatMap_toList] at hP ⊢
    rw [List.flatMap_append, List.flatMap_append, List.flatMap_singleton, List.flatMap_singleton, hP, List.append_assoc,
      ht.blocked_flow, List.append_assoc]

/-- In every run of a kernel since it booted the processes that blocked are, in the same order, those that were woken,
followed by those in the blocked queue. Then a wake takes the one that has been blocked the longest to the tail of its
level and fills the slot after that, and does nothing at all exactly if nobody is blocked. Every record that is
blocked stands one instruction after a block; and from its block until its wake no field of the record changes. -/
theorem wake_order (hboot : Kernel.boot levels = .ok k) (requests : List (Source × Request))
    (hroom : Exchange.births (exchanges { kernel := k } requests) < UInt32.size) :
    (exchanges { kernel := k } requests).filterMap Exchange.blocked? =
      (exchanges { kernel := k } requests).filterMap Exchange.woken? ++
        (after { kernel := k } requests).kernel.queues.blocked ∧
    (∃ woken k', Kernel.wake (after { kernel := k } requests).kernel = .ok woken k' ∧
      (after { kernel := k } requests).kernel.WakesOldest woken k' ∧
      ∀ source request, request = .operation .wake ∨
          (request = .command .wake ∧ (after { kernel := k } requests).shutDown = false) →
        ((after { kernel := k } requests).exchange source request).woken? = woken ∧
        ((after { kernel := k } requests).exchange source request).after =
          { after { kernel := k } requests with kernel := k' }) ∧
    (∀ pid r, (after { kernel := k } requests).kernel.table.get? pid = some r → r.state = .blocked →
      r.context.FollowsBlock) ∧
    ∀ older x during pid, exchanges { kernel := k } requests = older ++ x :: during → x.outcome? = some (.blocked pid) →
      (∀ y ∈ during, y.woken? ≠ some pid) →
      ∃ r, x.after.kernel.table.get? pid = some r ∧ r.state = .blocked ∧
        (after { kernel := k } requests).kernel.table.get? pid = some r := by
  obtain ⟨hflow, hafter⟩ := blocks_eq hboot hroom
  obtain ⟨hsound, -⟩ := sound_after hboot hroom
  refine ⟨hflow, ?_, fun pid r hr hstate => ?_, fun older x during pid hsplit hx hw => ?_⟩
  · obtain ⟨woken, k', hwake, holdest⟩ := Kernel.exists_wakesOldest hsound.consistent
    exact ⟨woken, k', hwake, holdest, fun source request hrequest => exchange_wake hwake hrequest⟩
  · obtain ⟨c, hc, hfollows⟩ := hafter pid ((hsound.consistent.tells hr).blocked.mp hstate)
    rw [Kernel.contextOf, hr] at hc
    obtain rfl : r.context = c := Option.some.inj hc
    exact hfollows
  · obtain ⟨before, source, request, rest, es, -, -, rfl, rfl, ht, hroom', hlast⟩ := takes_of_split hboot hroom hsplit
    have hp := ht.mem_blocked hx
    obtain ⟨r, hr⟩ := ht.after.consistent.exists_blocked hp
    refine ⟨r, hr, (ht.after.consistent.standing_of_get? hr).blocked hp, ?_⟩
    rw [hlast, get?_of_blocked ht.after hp hroom' hw, hr]

end

/-- In the sample the child blocks and is woken by the last wake. -/
theorem wake_order_sample :
    Kernel.boot 2 = .ok (Kernel.empty 2 : Kernel Context) ∧
      Exchange.births (exchanges { kernel := Kernel.empty 2 } (sample.map (Prod.mk Source.empty))) < UInt32.size ∧
      (exchanges { kernel := Kernel.empty 2 } (sample.map (Prod.mk Source.empty))).filterMap Exchange.blocked? = [2] ∧
      (exchanges { kernel := Kernel.empty 2 } (sample.map (Prod.mk Source.empty))).filterMap Exchange.blocked? =
        (exchanges { kernel := Kernel.empty 2 } (sample.map (Prod.mk Source.empty))).filterMap Exchange.woken? ++
          (after { kernel := Kernel.empty 2 } (sample.map (Prod.mk Source.empty))).kernel.queues.blocked := by
  have hboot : Kernel.boot 2 = .ok (Kernel.empty 2 : Kernel Context) := rfl
  have hroom : Exchange.births (exchanges { kernel := Kernel.empty 2 } (sample.map (Prod.mk Source.empty))) <
      UInt32.size := by
    decide +kernel
  have hblocked :
      (exchanges { kernel := Kernel.empty 2 } (sample.map (Prod.mk Source.empty))).filterMap Exchange.blocked?
        = [2] := by
    decide +kernel
  exact ⟨hboot, hroom, hblocked, (wake_order hboot _ hroom).1⟩

end Session

end Timeshare
