import Timeshare.Proofs.Inversion

/-!
# Waiting within a level is bounded

As long as no process of a more urgent level is ready or running, a process that waits behind k others of its level
comes into the slot within what is left of the quantum in the slot and k quanta of its level
(`Session.bounded_waiting`). Whoever comes to the level meanwhile waits behind it, so those ahead of it only get
fewer.
-/

namespace Timeshare

/-- No process of a level that is more urgent than this one is ready or running. -/
def Kernel.Uncontested {C : Type} (k : Kernel C) (l : Priority) : Prop :=
  ∀ r ∈ k.table.records, r.priority < l → r.state ≠ .ready ∧ r.state ≠ .running

instance {C : Type} (k : Kernel C) (l : Priority) : Decidable (k.Uncontested l) :=
  inferInstanceAs (Decidable (∀ r ∈ k.table.records, r.priority < l → r.state ≠ .ready ∧ r.state ≠ .running))

namespace Session

variable {s : Session} {source : Source} {request : Request} {es : List (Event Context)} {q r : Pid} {l p : Priority}
  {ahead : List Pid} {n : Nat}

/-! ## What is left to wait for -/

/-- The process waits at the level behind these, and the process in the slot has so many instructions left of its
quantum. -/
structure WaitsBehind (q : Pid) (l : Priority) (ahead : List Pid) (n : Nat) (s : Session) : Prop where
  unmarked : s.kernel.executed = none
  queued : ∃ behind, s.kernel.queues.readyAt l = ahead ++ q :: behind
  visited : ∃ r p visit, Visited r p visit s ∧ n + Exchange.ticks visit = 2 ^ p.toNat

/-- The ticks that a process waits at most: the rest of the quantum in the slot, and a quantum for each of those ahead
of it. -/
def patience (l : Priority) (ahead : List Pid) (n : Nat) : Nat := n + ahead.length * 2 ^ l.toNat

/-- The process in the slot has at least one instruction left. -/
theorem WaitsBehind.left_pos (h : WaitsBehind q l ahead n s) (hs : s.kernel.Sound) : 0 < n := by
  obtain ⟨r, p, visit, hv, hn⟩ := h.visited
  have hlt := hv.ticks_lt hs
  omega

theorem ticks_singleton_le (x : Exchange) : Exchange.ticks [x] ≤ 1 := List.countP_le_length

namespace Takes

/-- Where nobody comes into the slot, those ahead stay, and a tick uses up an instruction of the quantum in the slot. -/
theorem waitsBehind_of_kept (ht : s.Takes source request es) (hrequest : request.commanded = true)
    (h : WaitsBehind q l ahead n s) (hd : (s.exchange source request).dispatched? = none) :
    ∃ n', WaitsBehind q l ahead n' (s.exchange source request).after ∧
      Exchange.ticks [s.exchange source request] + n' = n := by
  obtain ⟨behind, hqueue⟩ := h.queued
  obtain ⟨r, p, visit, hv, hn⟩ := h.visited
  have hwaiting := ht.waiting_eq l
  rw [Exchange.waiting, (exchange_before source s request).1, hqueue, Exchange.dispatched, hd] at hwaiting
  have hqueue' : (s.exchange source request).after.kernel.queues.readyAt l =
      ahead ++ q :: (behind ++ Exchange.atLevel l (s.exchange source request).admitted) := by
    rw [← List.cons_append, ← List.append_assoc, hwaiting]
    rfl
  obtain ⟨r', hrun⟩ := ht.exists_running (hqueue' ▸ List.mem_append_right _ List.mem_cons_self)
  have hv' := ht.visited_succ hrequest h.unmarked hv (ht.not_leaves hd hrun r)
  have hlt := hv'.ticks_lt ht.after
  rw [ticks_append] at hlt
  refine ⟨n - Exchange.ticks [s.exchange source request], ⟨ht.course.unmarked hrequest h.unmarked, ⟨_, hqueue'⟩, r, p,
    _, hv', ?_⟩, ?_⟩
  · rw [ticks_append]
    omega
  · omega

/-- Who comes into the slot is the first of those ahead or, with nobody ahead, the process itself; the one in front
gets a whole quantum. -/
theorem waitsBehind_of_dispatched (ht : s.Takes source request es) (hrequest : request.commanded = true)
    (h : WaitsBehind q l ahead n s) (huncontested : (s.exchange source request).after.kernel.Uncontested l)
    (hd : (s.exchange source request).dispatched? = some r) :
    (ahead = [] ∧ r = q) ∨
      ∃ ahead', ahead = r :: ahead' ∧ WaitsBehind q l ahead' (2 ^ l.toNat) (s.exchange source request).after := by
  obtain ⟨behind, hqueue⟩ := h.queued
  obtain ⟨level, -, hlevel, hrun, hwaiting, hurgent⟩ := ht.waiting_of_dispatched hd
  have hcontents : (s.exchange source request).waiting l =
      ahead ++ q :: (behind ++ Exchange.atLevel l (s.exchange source request).admitted) := by
    rw [Exchange.waiting, (exchange_before source s request).1, hqueue, List.append_assoc, List.cons_append]
  -- nobody comes from a level that is less urgent while the process waits, and nobody is of one that is more urgent
  obtain rfl : level = l := by
    refine UInt8.le_antisymm (UInt8.not_lt.mp fun hlt => ?_) (UInt8.not_lt.mp fun hlt => ?_)
    · rw [hurgent l hlt] at hcontents
      exact absurd hcontents.symm (by simp)
    · obtain ⟨record, hrecord, rfl⟩ := Option.map_eq_some_iff.mp hlevel
      have hmem : record ∈ (s.exchange source request).after.kernel.table.records :=
        List.mem_map_of_mem (Table.mem_of_get? hrecord)
      exact (huncontested record hmem hlt).2 ((ht.after.consistent.standing_of_get? hrecord).running hrun)
  obtain ⟨level', hv⟩ := ht.visited hd
  obtain ⟨used, hused, -⟩ := hv.charged
  obtain rfl : level' = level := Option.some.inj ((Kernel.levelOf_of_chargeOf hused).symm.trans hlevel)
  rw [hwaiting] at hcontents
  cases ahead with
  | nil => exact .inl ⟨rfl, (List.cons.inj hcontents).1⟩
  | cons a ahead' =>
    obtain ⟨rfl, hqueue'⟩ := List.cons.inj hcontents
    exact .inr ⟨ahead', rfl, ht.course.unmarked hrequest h.unmarked, ⟨_, hqueue'⟩, _, _, [], hv, rfl⟩

/-- In every exchange the process comes into the slot, or those ahead of it only get fewer, and a tick takes from its
patience. -/
theorem waitsBehind_succ (ht : s.Takes source request es) (hrequest : request.commanded = true)
    (h : WaitsBehind q l ahead n s) (huncontested : (s.exchange source request).after.kernel.Uncontested l)
    (hd : (s.exchange source request).dispatched? ≠ some q) :
    ∃ ahead' n', WaitsBehind q l ahead' n' (s.exchange source request).after ∧ ahead' <:+ ahead ∧
      Exchange.ticks [s.exchange source request] + patience l ahead' n' ≤ patience l ahead n := by
  cases hd' : (s.exchange source request).dispatched? with
  | none =>
    obtain ⟨n', h', hticks⟩ := ht.waitsBehind_of_kept hrequest h hd'
    refine ⟨ahead, n', h', List.suffix_rfl, ?_⟩
    rw [patience, patience]
    omega
  | some r =>
    rcases ht.waitsBehind_of_dispatched hrequest h huncontested hd' with ⟨-, rfl⟩ | ⟨ahead', rfl, h'⟩
    · exact absurd hd' hd
    · refine ⟨ahead', _, h', List.suffix_cons r ahead', ?_⟩
      have hone := ticks_singleton_le (s.exchange source request)
      have hpos := h.left_pos ht.before
      rw [patience, patience, List.length_cons, Nat.succ_mul]
      omega

end Takes

/-! ## Runs -/

/-- As long as a process does not come into the slot, the ticks and the patience that it has left are no more than
what it had. -/
theorem waitsBehind_after {requests : List (Source × Request)} (hs : s.kernel.Sound) (h : WaitsBehind q l ahead n s)
    (hcommanded : ∀ asked ∈ requests, asked.2.commanded = true)
    (hroom : s.kernel.table.nextPid.toNat + Exchange.births (s.exchanges requests) < UInt32.size)
    (huncontested : ∀ x ∈ s.exchanges requests, x.after.kernel.Uncontested l)
    (hd : ∀ x ∈ s.exchanges requests, x.dispatched? ≠ some q) :
    ∃ ahead' n', WaitsBehind q l ahead' n' (s.after requests) ∧ ahead' <:+ ahead ∧
      Exchange.ticks (s.exchanges requests) + patience l ahead' n' ≤ patience l ahead n := by
  refine (run_invariant (P := fun xs s' => (∀ x ∈ xs, x.after.kernel.Uncontested l) →
    (∀ x ∈ xs, x.dispatched? ≠ some q) →
    ∃ ahead' n', WaitsBehind q l ahead' n' s' ∧ ahead' <:+ ahead ∧ Exchange.ticks xs + patience l ahead' n' ≤
      patience l ahead n)
    hs ?_ ?_ hroom).1 huncontested hd
  · exact fun _ _ => ⟨ahead, n, h, List.suffix_rfl, (Nat.zero_add _).le⟩
  · intro xs s' source request es hmem ht hxs huncontested' hd'
    rw [List.forall_mem_append] at huncontested' hd'
    obtain ⟨ahead₁, n₁, h₁, hsuffix₁, hticks₁⟩ := hxs huncontested'.1 hd'.1
    obtain ⟨ahead₂, n₂, h₂, hsuffix₂, hticks₂⟩ :=
      ht.waitsBehind_succ (hcommanded _ hmem) h₁ (huncontested'.2 _ List.mem_cons_self)
      (hd'.2 _ List.mem_cons_self)
    refine ⟨ahead₂, n₂, h₂, hsuffix₂.trans hsuffix₁, ?_⟩
    rw [ticks_append]
    omega

/-- In every run of a kernel since it booted that is driven by commands, and in which processes are made at any time:
from any time on, as long as nobody of a more urgent level is ready or running, a process that waits at a level at
some place, counted from 0, comes into the slot within as many ticks as are left of the quantum in the slot and as
many quanta of the level as its place is. Until it does, those ahead of it are the last of those who were ahead at
first, whoever was made, forked, woken or preempted meanwhile. -/
theorem bounded_waiting {levels : UInt8} {k : Kernel Context} (hboot : Kernel.boot levels = .ok k)
    (older newer : List (Source × Request)) (hcommanded : ∀ asked ∈ older ++ newer, asked.2.commanded = true)
    (hroom : Exchange.births (exchanges { kernel := k } (older ++ newer)) < UInt32.size) (q r : Pid) (l p : Priority)
    (c : UInt32) (place : Nat) (hq : ((after { kernel := k } older).kernel.queues.readyAt l)[place]? = some q)
    (hrun : (after { kernel := k } older).kernel.running = some r)
    (hc : (after { kernel := k } older).kernel.chargeOf r = some (p, c))
    (huncontested : ∀ x ∈ (after { kernel := k } older).exchanges newer, x.after.kernel.Uncontested l) :
    (2 ^ p.toNat - c.toNat + place * 2 ^ l.toNat ≤ Exchange.ticks ((after { kernel := k } older).exchanges newer) →
      ∃ x ∈ (after { kernel := k } older).exchanges newer, x.dispatched? = some q) ∧
    ((∀ x ∈ (after { kernel := k } older).exchanges newer, x.dispatched? ≠ some q) →
      ∃ place' ≤ place, ((after { kernel := k } (older ++ newer)).kernel.queues.readyAt l)[place']? = some q ∧
        ((after { kernel := k } (older ++ newer)).kernel.queues.readyAt l).take place' <:+
          ((after { kernel := k } older).kernel.queues.readyAt l).take place) := by
  rw [List.forall_mem_append] at hcommanded
  rw [exchanges_append, births_append] at hroom
  have hroomOlder : Exchange.births (exchanges { kernel := k } older) < UInt32.size := by omega
  obtain ⟨hsound, hnext⟩ := sound_after hboot hroomOlder
  have hroomNewer : (after { kernel := k } older).kernel.table.nextPid.toNat +
      Exchange.births ((after { kernel := k } older).exchanges newer) < UInt32.size := by omega
  obtain ⟨visit, hv, hticks⟩ := visited_of_running hboot hcommanded.1 hroomOlder hrun hc
  have hlt := hv.ticks_lt hsound
  obtain ⟨hplace, hget⟩ := List.getElem?_eq_some_iff.mp hq
  have hlength := List.length_take_of_le hplace.le
  have hqueue : ((after { kernel := k } older).kernel.queues.readyAt l).take place ++
      q :: ((after { kernel := k } older).kernel.queues.readyAt l).drop (place + 1) =
        (after { kernel := k } older).kernel.queues.readyAt l := by
    rw [← hget, ← List.drop_eq_getElem_cons hplace, List.take_append_drop]
  have hwaits :
      WaitsBehind q l (((after { kernel := k } older).kernel.queues.readyAt l).take place) (2 ^ p.toNat - c.toNat)
        (after { kernel := k } older) :=
    ⟨unmarked_after hboot hcommanded.1 hroomOlder, ⟨_, hqueue.symm⟩, r, p, visit, hv, by omega⟩
  have hrest := waitsBehind_after hsound hwaits hcommanded.2 hroomNewer huncontested
  refine ⟨fun hbound => ?_, fun hd => ?_⟩
  · by_contra hnone
    obtain ⟨ahead', n', hwaits', -, hle⟩ := hrest fun x hx hd => hnone ⟨x, hx, hd⟩
    have hpos := hwaits'.left_pos (sound_of_run hsound hroomNewer).1
    rw [patience, patience, hlength] at hle
    omega
  · obtain ⟨ahead', n', hwaits', hsuffix, -⟩ := hrest hd
    obtain ⟨behind, hqueue⟩ := hwaits'.queued
    rw [after_append, hqueue]
    refine ⟨ahead'.length, hlength ▸ hsuffix.length_le, by simp, ?_⟩
    rw [List.take_left]
    exact hsuffix

/-- Requests after which the third of three processes of level 1 waits behind the second, and the first has one
instruction left. -/
def waitingSample : List Request :=
  [.operation (.createParsed 1 (List.replicate 8 (.add 1))), .operation (.createParsed 1 [.fork 0, .add 1, .add 1]),
    .operation (.createParsed 1 [.set 1]), .command .tick]

/-- Requests during which a process of the level is made and another one is forked, with three ticks. -/
def waitingSampleRest : List Request :=
  [.command .tick, .operation (.createParsed 1 [.set 2]), .command .tick, .command .wake, .command .inspect,
    .command .tick]

/-- In the sample the third process comes into the slot within one instruction and one quantum of two. -/
theorem bounded_waiting_sample :
    Kernel.boot 2 = .ok (Kernel.empty 2 : Kernel Context) ∧
      (∀ asked ∈ waitingSample.map (Prod.mk Source.empty) ++ waitingSampleRest.map (Prod.mk Source.empty),
        asked.2.commanded = true) ∧
      Exchange.births (exchanges { kernel := Kernel.empty 2 }
        (waitingSample.map (Prod.mk Source.empty) ++ waitingSampleRest.map (Prod.mk Source.empty))) < UInt32.size ∧
      ((after { kernel := Kernel.empty 2 } (waitingSample.map (Prod.mk Source.empty))).kernel.queues.readyAt 1)[1]? =
        some 2 ∧
      (after { kernel := Kernel.empty 2 } (waitingSample.map (Prod.mk Source.empty))).kernel.running = some 0 ∧
      (after { kernel := Kernel.empty 2 } (waitingSample.map (Prod.mk Source.empty))).kernel.chargeOf 0 = some (1, 1) ∧
      (∀ x ∈ (after { kernel := Kernel.empty 2 } (waitingSample.map (Prod.mk Source.empty))).exchanges
        (waitingSampleRest.map (Prod.mk Source.empty)), x.after.kernel.Uncontested 1) ∧
      2 ^ 1 - 1 + 1 * 2 ^ 1 ≤
        Exchange.ticks ((after { kernel := Kernel.empty 2 } (waitingSample.map (Prod.mk Source.empty))).exchanges
          (waitingSampleRest.map (Prod.mk Source.empty))) ∧
      ∃ x ∈ (after { kernel := Kernel.empty 2 } (waitingSample.map (Prod.mk Source.empty))).exchanges
        (waitingSampleRest.map (Prod.mk Source.empty)), x.dispatched? = some 2 := by
  have hboot : Kernel.boot 2 = .ok (Kernel.empty 2 : Kernel Context) := rfl
  have hcommanded : ∀ asked ∈ waitingSample.map (Prod.mk Source.empty) ++ waitingSampleRest.map (Prod.mk Source.empty),
      asked.2.commanded = true := by
    decide
  have hroom : Exchange.births (exchanges { kernel := Kernel.empty 2 }
      (waitingSample.map (Prod.mk Source.empty) ++ waitingSampleRest.map (Prod.mk Source.empty))) < UInt32.size := by
    decide +kernel
  have hq :
      ((after { kernel := Kernel.empty 2 } (waitingSample.map (Prod.mk Source.empty))).kernel.queues.readyAt 1)[1]? =
        some 2 := by
    decide +kernel
  have hrun : (after { kernel := Kernel.empty 2 } (waitingSample.map (Prod.mk Source.empty))).kernel.running =
      some 0 := by
    decide +kernel
  have hc : (after { kernel := Kernel.empty 2 } (waitingSample.map (Prod.mk Source.empty))).kernel.chargeOf 0 =
      some (1, 1) := by
    decide +kernel
  have huncontested : ∀ x ∈ (after { kernel := Kernel.empty 2 } (waitingSample.map (Prod.mk Source.empty))).exchanges
      (waitingSampleRest.map (Prod.mk Source.empty)), x.after.kernel.Uncontested 1 := by
    decide +kernel
  have hbound : 2 ^ 1 - 1 + 1 * 2 ^ 1 ≤ Exchange.ticks ((after { kernel := Kernel.empty 2 }
      (waitingSample.map (Prod.mk Source.empty))).exchanges (waitingSampleRest.map (Prod.mk Source.empty))) := by
    decide +kernel
  exact ⟨hboot, hcommanded, hroom, hq, hrun, hc, huncontested, hbound,
    (bounded_waiting hboot _ _ hcommanded hroom 2 0 1 1 1 1 hq hrun hc huncontested).1 hbound⟩

end Session

end Timeshare
