import Timeshare.Proofs.DispatchOrder

/-!
# Genealogy

A record keeps its number, its maker, its level and its start for life. The processes that were ever made, created and
forked ones together, have the numbers from 0 on in the order in which they were made, and none starts before one that
was made earlier. A child has the level of its parent, which was made before it. So the makers of a process lead back
to one that was made from outside, and all that descend from one such process have its level (`Session.genealogy`).
-/

namespace Timeshare

/-! ## Rosters -/

/-- By the roster the process descends from this one, which nobody forked. -/
inductive Descends (roster : List Identity) (root : Identity) : Identity → Prop where
  | root (hroot : root ∈ roster) (horphan : root.parent = none) : Descends roster root root
  | child {parent child : Identity} (h : Descends roster root parent) (hchild : child ∈ roster)
    (hparent : child.parent = some parent.pid) : Descends roster root child

/-- A roster of processes in the order in which they were made. -/
structure Lineage (roster : List Identity) : Prop where
  numbered : roster.map (·.pid.toNat) = List.range roster.length
  ordered : roster.Pairwise (·.startTime ≤ ·.startTime)
  /-- Whoever is forked has the level of the parent, which was made before. -/
  bred : ∀ i ∈ roster, ∀ q, i.parent = some q → ∃ p ∈ roster, p.pid = q ∧ q < i.pid ∧ p.priority = i.priority

/-- Who descends from a process is on the roster. -/
theorem Descends.mem {roster : List Identity} {root i : Identity} (h : Descends roster root i) : i ∈ roster := by
  cases h with
  | root hroot horphan => exact hroot
  | child h hchild hparent => exact hchild

namespace Lineage

variable {roster : List Identity} {root i j : Identity}

theorem nil : Lineage [] := ⟨rfl, .nil, fun _ hi => absurd hi List.not_mem_nil⟩

/-- A process is on the roster at its number. -/
theorem exists_getElem (h : Lineage roster) (hi : i ∈ roster) :
    ∃ hlt : i.pid.toNat < roster.length, roster[i.pid.toNat] = i := by
  obtain ⟨n, hn, hget⟩ := List.getElem_of_mem hi
  have hpid : (roster.map (·.pid.toNat))[n]? = some i.pid.toNat := by
    rw [List.getElem?_map, List.getElem?_eq_getElem hn, hget]
    rfl
  rw [h.numbered, List.getElem?_range hn] at hpid
  obtain rfl := Option.some.inj hpid
  exact ⟨hn, hget⟩

/-- No two processes have the same number. -/
theorem eq_of_pid (h : Lineage roster) (hi : i ∈ roster) (hj : j ∈ roster) (hpid : i.pid = j.pid) : i = j := by
  obtain ⟨hn, hgeti⟩ := h.exists_getElem hi
  obtain ⟨hm, hgetj⟩ := h.exists_getElem hj
  rw [← hgeti, ← hgetj]
  simp only [hpid]

/-- A process with a smaller number does not start later. -/
theorem startTime_le (h : Lineage roster) (hi : i ∈ roster) (hj : j ∈ roster) (hlt : i.pid < j.pid) :
    i.startTime ≤ j.startTime := by
  obtain ⟨hn, hgeti⟩ := h.exists_getElem hi
  obtain ⟨hm, hgetj⟩ := h.exists_getElem hj
  have hle := List.pairwise_iff_getElem.mp h.ordered i.pid.toNat j.pid.toNat hn hm (UInt32.lt_iff_toNat_lt.mp hlt)
  rwa [hgeti, hgetj] at hle

/-- The makers of a process lead back to one that nobody forked. -/
theorem exists_root (h : Lineage roster) (hi : i ∈ roster) : ∃ root, Descends roster root i := by
  -- the number of the parent is smaller than that of the child
  induction hn : i.pid.toNat using Nat.strongRecOn generalizing i with
  | ind n ih =>
    subst hn
    cases hparent : i.parent with
    | none => exact ⟨i, .root hi hparent⟩
    | some q =>
      obtain ⟨p, hp, rfl, hlt, -⟩ := h.bred i hi q hparent
      obtain ⟨root, hroot⟩ := ih p.pid.toNat (UInt32.lt_iff_toNat_lt.mp hlt) hp rfl
      exact ⟨root, .child hroot hi hparent⟩

/-- Who descends from a process has its level. -/
theorem priority_eq (h : Lineage roster) (hd : Descends roster root i) : i.priority = root.priority := by
  induction hd with
  | root hroot horphan => rfl
  | child hd hchild hparent ih =>
    obtain ⟨p, hp, hpid, -, hpriority⟩ := h.bred _ hchild _ hparent
    obtain rfl := h.eq_of_pid hp hd.mem hpid
    exact hpriority.symm.trans ih

/-- The next process that is made goes to the end of the roster. -/
theorem snoc (h : Lineage roster) (hpid : i.pid.toNat = roster.length)
    (hstart : ∀ j ∈ roster, j.startTime ≤ i.startTime)
    (hparent : ∀ q, i.parent = some q → ∃ p ∈ roster, p.pid = q ∧ p.priority = i.priority) :
    Lineage (roster ++ [i]) where
  numbered := by
    rw [List.map_append, h.numbered, List.length_append, List.length_singleton, List.range_succ, ← hpid]
    rfl
  ordered := by
    rw [List.pairwise_append]
    refine ⟨h.ordered, List.pairwise_singleton _ _, ?_⟩
    intro j hj i' hi'
    rw [List.mem_singleton.mp hi']
    exact hstart j hj
  bred := by
    intro j hj q hq
    rcases List.mem_append.mp hj with hj | hj
    · obtain ⟨p, hp, hbred⟩ := h.bred j hj q hq
      exact ⟨p, List.mem_append_left _ hp, hbred⟩
    · obtain rfl := List.mem_singleton.mp hj
      obtain ⟨p, hp, rfl, hpriority⟩ := hparent q hq
      obtain ⟨hlt, -⟩ := h.exists_getElem hp
      exact ⟨p, List.mem_append_left _ hp, rfl, UInt32.lt_iff_toNat_lt.mpr (hpid ▸ hlt), hpriority⟩

end Lineage

/-! ## Rosters of kernels -/

section

variable {C : Type}

/-- The process that an event makes. -/
def Event.made? : Event C → Option Identity
  | filed r => some r.identity
  | _ => none

/-- Whether the event advances the clock. -/
def Event.isTick : Event C → Bool
  | ticked => true
  | _ => false

/-- The roster of all processes that were made lists those of the kernel as they are, and they started by now. -/
structure Kernel.Enrolled (k : Kernel C) (roster : List Identity) : Prop where
  lineage : Lineage roster
  next : roster.length = k.table.nextPid.toNat
  started : ∀ i ∈ roster, i.startTime ≤ k.clock
  live : ∀ pid i, k.identityOf pid = some i → i.pid = pid ∧ i ∈ roster

/-- The numbers that events give out are those of the processes that they make. -/
theorem Event.map_made (es : List (Event C)) : (es.filterMap Event.made?).map (·.pid) = es.filterMap Event.born? := by
  rw [List.map_filterMap]
  refine congrArg (List.filterMap · es) (funext fun e => ?_)
  cases e <;> rfl

variable [Machine C] {k k' : Kernel C} {e : Event C} {es : List (Event C)} {roster : List Identity}

/-- The process that a move makes has the next number, starts now, and has the level of its parent if it is forked. -/
theorem Move.made (h : Move k e k') {i : Identity} (he : e.made? = some i) :
    i.pid = k.table.nextPid ∧ i.startTime = k.clock ∧
    ∀ q, i.parent = some q → ∃ p, k.identityOf q = some p ∧ p.priority = i.priority := by
  cases h with
  | filed horigin hfresh hq =>
    obtain rfl := Option.some.inj he
    cases horigin with
    | root priority program =>
      refine ⟨rfl, rfl, ?_⟩
      intro q hq
      cases hq
    | @child pid parent hrun hr =>
      refine ⟨rfl, rfl, ?_⟩
      intro q hq
      obtain rfl := Option.some.inj hq
      exact ⟨parent.identity, by rw [Kernel.identityOf, hr]; rfl, rfl⟩
  | _ => cases he

/-- Whoever is in the kernel after a move was made by it or was there before. -/
theorem Move.identityOf_cases (h : Move k e k') {pid : Pid} {i : Identity} (hi : k'.identityOf pid = some i) :
    (e.made? = some i ∧ i.pid = pid) ∨ k.identityOf pid = some i := by
  rw [h.identityOf] at hi
  cases e with
  | filed r =>
    rw [Event.identify] at hi
    split at hi
    · rename_i hpid
      obtain rfl := Option.some.inj hi
      exact .inl ⟨rfl, hpid.symm⟩
    · exact .inr hi
  | ended p =>
    rw [Event.identify] at hi
    split at hi
    · cases hi
    · exact .inr hi
  | _ => exact .inr hi

/-- Until it wraps the clock counts the ticks. -/
theorem Move.toNat_clock (h : Move k e k') (htime : k.clock.toNat + [e].countP Event.isTick < UInt64.size) :
    k'.clock.toNat = k.clock.toNat + [e].countP Event.isTick := by
  rw [h.clock]
  cases e with
  | ticked =>
    rw [Event.time, UInt64.toNat_add]
    exact Nat.mod_eq_of_lt htime
  | _ => rfl

/-- Every move adds to the roster the process that it makes, if any. -/
theorem Move.enrolled (h : Move k e k') (hk : k.Enrolled roster)
    (hroom : (roster ++ e.made?.toList).length < UInt32.size)
    (htime : k.clock.toNat + [e].countP Event.isTick < UInt64.size) : k'.Enrolled (roster ++ e.made?.toList) := by
  have hclock : k.clock ≤ k'.clock := by
    rw [UInt64.le_iff_toNat_le, h.toNat_clock htime]
    exact Nat.le_add_right _ _
  have hlive : ∀ pid i, k'.identityOf pid = some i → i.pid = pid ∧ i ∈ roster ++ e.made?.toList := by
    intro pid i hi
    rcases h.identityOf_cases hi with ⟨hmade, hpid⟩ | hi
    · exact ⟨hpid, by simp [hmade]⟩
    · obtain ⟨hpid, hmem⟩ := hk.live pid i hi
      exact ⟨hpid, List.mem_append_left _ hmem⟩
  cases hmade : e.made? with
  | none =>
    have hborn : e.born? = none := by cases e <;> first | rfl | cases hmade
    obtain ⟨hnext, -⟩ := h.pids_subset hborn
    rw [hmade, Option.toList_none, List.append_nil] at hlive
    rw [Option.toList_none, List.append_nil]
    exact ⟨hk.lineage, hnext.symm ▸ hk.next, fun i hi => UInt64.le_trans (hk.started i hi) hclock, hlive⟩
  | some i =>
    have hborn : e.born? = some i.pid := by cases e <;> cases hmade; rfl
    obtain ⟨hpid, hstart, hparent⟩ := h.made hmade
    obtain ⟨-, hnext, -⟩ := h.pids_born hborn
    rw [hmade, Option.toList_some] at hlive hroom
    rw [Option.toList_some]
    refine ⟨hk.lineage.snoc (hpid ▸ hk.next.symm) (fun j hj => hstart ▸ hk.started j hj) ?_, ?_, ?_, hlive⟩
    · intro q hq
      obtain ⟨p, hp, hpriority⟩ := hparent q hq
      obtain ⟨hpq, hmem⟩ := hk.live q p hp
      exact ⟨p, hmem, hpq, hpriority⟩
    · rw [List.length_append, hk.next] at hroom ⊢
      rw [hnext, UInt32.toNat_add]
      exact (Nat.mod_eq_of_lt hroom).symm
    · intro j hj
      rcases List.mem_append.mp hj with hj | hj
      · exact UInt64.le_trans (hk.started j hj) hclock
      · rw [List.mem_singleton.mp hj, hstart]
        exact hclock

/-- Every path adds to the roster the processes that it makes, while numbers and time last. -/
theorem Path.enrolled (h : Path k es k') (hk : k.Enrolled roster)
    (hroom : (roster ++ es.filterMap Event.made?).length < UInt32.size)
    (htime : k.clock.toNat + es.countP Event.isTick < UInt64.size) :
    k'.Enrolled (roster ++ es.filterMap Event.made?) ∧ k'.clock.toNat = k.clock.toNat + es.countP Event.isTick := by
  induction h generalizing roster with
  | nil =>
    rw [List.filterMap_nil, List.append_nil]
    exact ⟨hk, rfl⟩
  | @cons k k₁ k' e es hm _ ih =>
    rw [Event.filterMap_cons, ← List.append_assoc] at hroom ⊢
    rw [← List.singleton_append, List.countP_append, ← Nat.add_assoc] at htime ⊢
    have hclock := hm.toNat_clock (by omega)
    have hk₁ := hm.enrolled hk (by rw [List.length_append] at hroom; omega) (by omega)
    rw [← hclock] at htime ⊢
    exact ih hk₁ hroom htime

/-- If no process ends but in the first event, who is made by a path is in the kernel after it. -/
theorem Path.identityOf_of_made (h : Path k es k') (hended : ∀ e ∈ es.tail, e.ended? = none) {i : Identity}
    (hi : i ∈ es.filterMap Event.made?) : k'.identityOf i.pid = some i := by
  induction h with
  | nil => cases hi
  | @cons k k₁ k' e es hm hrest ih =>
    rw [Event.filterMap_cons, List.mem_append] at hi
    rcases hi with hi | hi
    · refine hrest.keeps_identityOf hended ?_
      rw [hm.identityOf]
      cases e with
      | filed r =>
        obtain rfl := List.mem_singleton.mp hi
        exact if_pos rfl
      | _ => cases hi
    · exact ih (fun e hmem => hended e (List.mem_of_mem_tail hmem)) hi

end

/-! ## Rosters of runs -/

/-- Whether the answer says that the clock advanced: a tick was carried out, or the clock was advanced by hand. -/
def Response.passesTime : Response → Bool
  | .replied (.ticked _) | .answered (.advanced _) => true
  | _ => false

namespace Exchange

/-- The number of times that the clock advanced. -/
def elapsed (xs : List Exchange) : Nat := xs.countP fun x => x.answer.toOption.any Response.passesTime

/-- The process that was made or forked, as it is then. -/
def made? (x : Exchange) : Option Identity := x.born?.bind x.after.kernel.identityOf

/-- The processes that were made or forked, one after the other. -/
def roster (xs : List Exchange) : List Identity := xs.filterMap made?

theorem elapsed_append (xs ys : List Exchange) : elapsed (xs ++ ys) = elapsed xs + elapsed ys := List.countP_append

theorem roster_append (xs ys : List Exchange) : roster (xs ++ ys) = roster xs ++ roster ys := List.filterMap_append

theorem roster_singleton (x : Exchange) : roster [x] = x.made?.toList := by
  rw [roster, List.filterMap_cons, List.filterMap_nil]
  cases x.made? <;> rfl

end Exchange

section

variable {C : Type} [Machine C] {k k' : Kernel C} {es : List (Event C)}

omit [Machine C] in
theorem Turn.countP_isTick (h : Turn es) : es.countP Event.isTick = 0 := by
  cases h <;> rfl

/-- A step is no tick. -/
theorem Steps.countP_isTick {source : Source} {outcome : StepOutcome} (h : Steps source k outcome es k') :
    es.countP Event.isTick = 0 := by
  have hdeed : ∀ {r : ProcessRecord C} {es : List (Event C)}, Deed source k r outcome es →
      es.countP Event.isTick = 0 := by
    intro r es hdeed
    cases hdeed <;> rfl
  cases h with
  | idle => rfl
  | worked hrun hr hdoes hstays hpath => exact hdeed hdoes
  | released hrun hr hdoes hleaves hpath hsettles => rw [List.countP_append, hdeed hdoes, hsettles.turn.countP_isTick]

theorem Wakes.countP_isTick {woken : Option Pid} (h : Wakes k woken es k') : es.countP Event.isTick = 0 := by
  cases h with
  | none => rfl
  | some hmove hsettles => exact hsettles.turn.countP_isTick

end

/-- The clock advances in a course as its answer says. -/
theorem Course.countP_isTick {source : Source} {k k' : Kernel Context} {request : Request}
    {answer : Except Halt Response} {es : List (Event Context)} (h : Course source k request answer es k') :
    es.countP Event.isTick = (answer.toOption.any Response.passesTime).toNat := by
  cases h with
  | made hop hmakes =>
    cases hmakes with
    | intro hr hmove hsettles => exact hsettles.turn.countP_isTick
  | stepped hsteps => exact hsteps.countP_isTick
  | scheduled hsettles => exact hsettles.turn.countP_isTick
  | woken hwakes => exact hwakes.countP_isTick
  | advanced => rfl
  | ticked hticks =>
    cases hticks with
    | intro hsteps hsettles =>
      rw [List.countP_append, hsteps.countP_isTick, List.countP_cons_of_pos rfl, hsettles.turn.countP_isTick]
      rfl
  | wokenReply hwakes => exact hwakes.countP_isTick
  | quiet hquiet => rcases hquiet with ⟨_, rfl⟩ | ⟨_, rfl⟩ | ⟨_, rfl⟩ | rfl <;> rfl

namespace Session

open Exchange

namespace Takes

variable {s : Session} {source : Source} {request : Request} {es : List (Event Context)} {older : List Identity}

/-- The process that an exchange shows as made is the one that its events make. -/
theorem made_eq (ht : s.Takes source request es) :
    (s.exchange source request).made?.toList = es.filterMap Event.made? := by
  have hborn := (Event.map_made es).trans ht.course.born
  have hmade : ∀ i ∈ es.filterMap Event.made?, (s.exchange source request).after.kernel.identityOf i.pid = some i :=
    fun i hi => ht.course.path.identityOf_of_made ht.course.shape.ended_eq_none hi
  unfold Exchange.made? Exchange.born?
  generalize es.filterMap Event.made? = made at hborn hmade ⊢
  cases hx : (s.exchange source request).answer.toOption.bind Response.born? with
  | none =>
    rw [hx, Option.toList_none, List.map_eq_nil_iff] at hborn
    rw [hborn]
    rfl
  | some pid =>
    rw [hx, Option.toList_some, List.map_eq_singleton_iff] at hborn
    obtain ⟨i, rfl, rfl⟩ := hborn
    rw [Option.bind_some, hmade i List.mem_cons_self]
    rfl

/-- The process that an exchange shows as made has the number that was given out. -/
theorem map_made (ht : s.Takes source request es) :
    (s.exchange source request).made?.toList.map (·.pid) = (s.exchange source request).born?.toList := by
  rw [ht.made_eq, Event.map_made, ht.course.born]
  rfl

/-- Every exchange adds to the roster the process that it makes, while time lasts. -/
theorem enrolled (ht : s.Takes source request es) (hs : s.kernel.Enrolled older)
    (htime : s.kernel.clock.toNat + elapsed [s.exchange source request] < UInt64.size) :
    (s.exchange source request).after.kernel.Enrolled (older ++ (s.exchange source request).made?.toList) ∧
      (s.exchange source request).after.kernel.clock.toNat =
        s.kernel.clock.toNat + elapsed [s.exchange source request] := by
  have helapsed : elapsed [s.exchange source request] = es.countP Event.isTick := by
    rw [ht.course.countP_isTick, elapsed, List.countP_singleton]
    cases (s.exchange source request).answer.toOption.any Response.passesTime <;> rfl
  have hlength : (older ++ es.filterMap Event.made?).length < UInt32.size := by
    have hnext := ht.next
    have hlt := (s.exchange source request).after.kernel.table.nextPid.toNat_lt
    rw [ht.course.births, ← Event.map_made, List.length_map] at hnext
    rw [List.length_append, hs.next, ← hnext]
    exact hlt
  rw [helapsed] at htime ⊢
  rw [ht.made_eq]
  exact ht.course.path.enrolled hs hlength htime

end Takes

variable {levels : UInt8} {k : Kernel Context}

/-- After every run the roster of the run lists the processes of the kernel as they are, under the numbers that were
given out, and the clock shows the time that passed. -/
theorem enrolled_after (hboot : Kernel.boot levels = .ok k) (requests : List (Source × Request))
    (hroom : births (exchanges { kernel := k } requests) < UInt32.size)
    (htime : elapsed (exchanges { kernel := k } requests) < UInt64.size) :
    (after { kernel := k } requests).kernel.Enrolled (roster (exchanges { kernel := k } requests)) ∧
      (after { kernel := k } requests).kernel.clock.toNat = elapsed (exchanges { kernel := k } requests) ∧
      (roster (exchanges { kernel := k } requests)).map (·.pid) =
        (exchanges { kernel := k } requests).filterMap born? := by
  refine (run_invariant_of_boot (P := fun xs s => elapsed xs < UInt64.size → s.kernel.Enrolled (roster xs) ∧
    s.kernel.clock.toNat = elapsed xs ∧ (roster xs).map (·.pid) = xs.filterMap born?) hboot ?_ ?_ hroom).1 htime
  · intro _
    rw [(Kernel.boot_eq_ok_iff.mp hboot).2]
    refine ⟨⟨.nil, rfl, fun _ hi => absurd hi List.not_mem_nil, ?_⟩, rfl, rfl⟩
    intro pid i hi
    cases hi
  · intro xs s source request es _ ht hP hlt
    rw [elapsed_append] at hlt
    obtain ⟨hs, hclock, hpids⟩ := hP (by omega)
    obtain ⟨hs', hclock'⟩ := ht.enrolled hs (by omega)
    refine ⟨?_, ?_, ?_⟩
    · rw [roster_append, roster_singleton]
      exact hs'
    · rw [elapsed_append, hclock', hclock]
    · rw [roster_append, roster_singleton, List.map_append, hpids, List.filterMap_append, ht.map_made]
      cases hborn : (s.exchange source request).born? <;> simp [hborn]

end Session

/-! ## Every run -/

/-- By the roster of all processes that were made, the live ones are ordered by their numbers as by their starts, and
each has the level of those that it descends from. -/
structure Kernel.Genealogy (k : Kernel Context) (roster : List Identity) : Prop where
  /-- Every live process is on the roster, under its number, as it was made. -/
  enlisted : ∀ pid r, k.table.get? pid = some r → r.pid = pid ∧ r.identity ∈ roster
  started : ∀ pid r, k.table.get? pid = some r → r.startTime ≤ k.clock
  ordered : ∀ p q a b, k.table.get? p = some a → k.table.get? q = some b → a.pid < b.pid → a.startTime ≤ b.startTime
  /-- Whoever is forked comes after the parent, and has its level. -/
  bred : ∀ pid r q, k.table.get? pid = some r → r.parent = some q → q < r.pid ∧
    ∀ parent, k.table.get? q = some parent → parent.priority = r.priority ∧ parent.startTime ≤ r.startTime
  rooted : ∀ pid r, k.table.get? pid = some r → ∃ root, Descends roster root r.identity
  leveled : ∀ pid r root, k.table.get? pid = some r → Descends roster root r.identity → r.priority = root.priority

/-- A kernel whose processes are all on the roster has the genealogy of the roster. -/
theorem Kernel.Enrolled.toGenealogy {k : Kernel Context} {roster : List Identity} (h : k.Enrolled roster) :
    k.Genealogy roster := by
  have hlive : ∀ pid r, k.table.get? pid = some r → r.pid = pid ∧ r.identity ∈ roster := by
    intro pid r hr
    exact h.live pid r.identity (by rw [Kernel.identityOf, hr]; rfl)
  refine ⟨hlive, ?_, ?_, ?_, ?_, ?_⟩
  · intro pid r hr
    exact h.started _ (hlive pid r hr).2
  · intro p q a b ha hb hlt
    exact h.lineage.startTime_le (hlive p a ha).2 (hlive q b hb).2 hlt
  · intro pid r q hr hq
    obtain ⟨i, hi, hpid, hlt, hpriority⟩ := h.lineage.bred _ (hlive pid r hr).2 q hq
    refine ⟨hlt, ?_⟩
    intro parent hparent
    obtain ⟨hkeyed, hmem⟩ := hlive q parent hparent
    obtain rfl := h.lineage.eq_of_pid hi hmem (hpid.trans hkeyed.symm)
    exact ⟨hpriority, h.lineage.startTime_le hmem (hlive pid r hr).2 (hpid ▸ hlt)⟩
  · intro pid r hr
    exact h.lineage.exists_root (hlive pid r hr).2
  · intro pid r root hr hd
    exact h.lineage.priority_eq hd

namespace Session

open Exchange

variable {levels : UInt8} {k : Kernel Context}

/-- In every run of a kernel since it booted the processes are numbered from 0 in the order in which they are made or
forked, and after it every live one has the genealogy that the roster of these shows. A process that is alive before
and after more requests has the same number, maker, level and start. -/
theorem genealogy (hboot : Kernel.boot levels = .ok k) (requests : List (Source × Request))
    (hroom : births (exchanges { kernel := k } requests) < UInt32.size)
    (htime : elapsed (exchanges { kernel := k } requests) < UInt64.size) :
    (roster (exchanges { kernel := k } requests)).map (·.pid) = (exchanges { kernel := k } requests).filterMap born? ∧
      (roster (exchanges { kernel := k } requests)).map (·.pid.toNat) =
        List.range (births (exchanges { kernel := k } requests)) ∧
      (after { kernel := k } requests).kernel.Genealogy (roster (exchanges { kernel := k } requests)) ∧
      ∀ older newer pid r r', requests = older ++ newer → (after { kernel := k } older).kernel.table.get? pid = some r →
        (after { kernel := k } requests).kernel.table.get? pid = some r' → r'.identity = r.identity := by
  obtain ⟨henrolled, -, hpids⟩ := enrolled_after hboot requests hroom htime
  refine ⟨hpids, ?_, henrolled.toGenealogy, ?_⟩
  · rw [henrolled.lineage.numbered, births, ← hpids, List.length_map]
  · intro older newer pid r r' hrequests hr hr'
    rw [hrequests, exchanges_append] at hroom htime
    rw [births_append] at hroom
    rw [elapsed_append] at htime
    obtain ⟨hbefore, -, -⟩ := enrolled_after hboot older (by omega) (by omega)
    obtain ⟨hpid, hmem⟩ := hbefore.toGenealogy.enlisted pid r hr
    obtain ⟨hpid', hmem'⟩ := henrolled.toGenealogy.enlisted pid r' hr'
    refine henrolled.lineage.eq_of_pid hmem' ?_ (hpid'.trans hpid.symm)
    rw [hrequests, exchanges_append, roster_append]
    exact List.mem_append_left _ hmem

/-- In the sample the child of the first process was made last, and has its level. -/
theorem genealogy_sample :
    Kernel.boot 2 = .ok (Kernel.empty 2 : Kernel Context) ∧
      births (exchanges { kernel := Kernel.empty 2 } (sample.map (Prod.mk Source.empty))) < UInt32.size ∧
      elapsed (exchanges { kernel := Kernel.empty 2 } (sample.map (Prod.mk Source.empty))) < UInt64.size ∧
      roster (exchanges { kernel := Kernel.empty 2 } (sample.map (Prod.mk Source.empty))) =
        [⟨0, none, 1, 0⟩, ⟨1, none, 0, 0⟩, ⟨2, some 0, 1, 1⟩] ∧
      (after { kernel := Kernel.empty 2 } (sample.map (Prod.mk Source.empty))).kernel.Genealogy
        (roster (exchanges { kernel := Kernel.empty 2 } (sample.map (Prod.mk Source.empty)))) := by
  have hboot : Kernel.boot 2 = .ok (Kernel.empty 2 : Kernel Context) := rfl
  have hroom : births (exchanges { kernel := Kernel.empty 2 } (sample.map (Prod.mk Source.empty))) < UInt32.size := by
    decide +kernel
  have htime : elapsed (exchanges { kernel := Kernel.empty 2 } (sample.map (Prod.mk Source.empty))) < UInt64.size := by
    decide +kernel
  exact ⟨hboot, hroom, htime, by decide +kernel, (genealogy hboot _ hroom htime).2.2.1⟩

end Session

end Timeshare
