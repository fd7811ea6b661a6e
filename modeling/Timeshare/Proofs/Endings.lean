import Timeshare.Proofs.Isolation
import Timeshare.Proofs.Snapshots
import Timeshare.Proofs.Submissions

/-!
# A process that ended does not come back

A process that ended has no record and no place, and no report shows it; as numbers are given out in order, none that
is born later gets its number. So from the step on that ends it no answer names it, whatever is asked
(`Session.ended_for_good`).
-/

namespace Timeshare

/-! ## Whom answers name -/

/-- The processes that an outcome names. -/
def StepOutcome.named : StepOutcome → List Pid
  | idle => []
  | executed pid _ | blocked pid | terminated pid _ | replaced pid _ | replaceFailed pid _ => [pid]
  | forked parent child => [parent, child]

/-- The processes that an answer names: who was made, acts, is in the slot or was woken, and those that a report
shows. -/
def Response.named : Response → List Pid
  | answered (.created pid) => [pid]
  | answered (.stepped outcome) | replied (.ticked outcome) => outcome.named
  | answered (.scheduled pid) | answered (.woken pid) | replied (.woken pid) => pid.toList
  | replied (.report snapshot) | replied (.shutdown snapshot) => snapshot.processes.map (·.pid)
  | answered (.advanced _) | renewed => []

/-- The processes that a refusal names. -/
def Halt.named : Halt → List Pid
  | fault (.missingProcess pid) => [pid]
  | _ => []

/-- The processes that an exchange names. -/
def Exchange.named (x : Exchange) : List Pid :=
  match x.answer with
  | .ok response => response.named
  | .error halt => halt.named

/-- A refusal that is not internal names no process. -/
theorem Halt.named_of_not_internal {halt : Halt} (h : halt.isInternal = false) : halt.named = [] := by
  cases halt with
  | noSuchLevel => cases h
  | fault fault =>
    cases fault with
    | missingProcess pid => cases h
    | _ => rfl

section

variable {source : Source} {k k' : Kernel Context} {r : ProcessRecord Context} {outcome : StepOutcome}
    {es : List (Event Context)}
  {p : Pid}

/-- A step names the running process, and its child. -/
theorem Steps.named (h : Steps source k outcome es k') (hk : k.Sound) (hp : p ∈ outcome.named) :
    (∃ r, k.table.get? p = some r) ∨ p = k.table.nextPid := by
  rcases h.deed_or_idle with ⟨-, rfl, -⟩ | ⟨pid, r, es₁, k₁, -, hr, hdeed, -, -⟩
  · cases hp
  · obtain rfl : r.pid = pid := (hk.consistent.standing_of_get? hr).keyed
    cases hdeed with
    | fork hi =>
      rcases List.mem_pair.mp hp with rfl | rfl
      · exact .inl ⟨r, hr⟩
      · exact .inr rfl
    | _ =>
      obtain rfl := List.mem_singleton.mp hp
      exact .inl ⟨r, hr⟩

/-- The process that a step ends is the running one. -/
theorem Steps.running_of_terminated {reason : EndReason} (h : Steps source k (.terminated p reason) es k')
    (hk : k.Sound) :
    k.running = some p := by
  rcases h.deed_or_idle with ⟨-, hidle, -⟩ | ⟨pid, r, es₁, k₁, hrun, hr, hdeed, -, -⟩
  · cases hidle
  · obtain rfl : r.pid = pid := (hk.consistent.standing_of_get? hr).keyed
    cases hdeed <;> exact hrun

/-- A wake names the process that has been blocked the longest. -/
theorem exists_record_of_wakes {woken : Option Pid} (h : Wakes k woken es k') (hp : p ∈ woken.toList) :
    ∃ r, k.table.get? p = some r := by
  cases h with
  | none => cases hp
  | some hmove =>
    obtain rfl := List.mem_singleton.mp hp
    cases hmove with
    | woken hd hr hq => exact ⟨_, hr⟩

/-- After an accounting the slot holds a process that was there before. -/
theorem exists_record_of_settles (h : Settles k es k') (hk : k.Consistent) (hp : p ∈ k'.running.toList) :
    ∃ r, k.table.get? p = some r := by
  obtain ⟨r', hr'⟩ := (h.path.consistent hk).exists_running (Option.mem_toList.mp hp)
  have hcontext := h.contextOf p
  rw [Kernel.contextOf, Kernel.contextOf, hr'] at hcontext
  obtain ⟨r, hr, -⟩ := Option.map_eq_some_iff.mp hcontext.symm
  exact ⟨r, hr⟩

end

namespace Session

variable {s : Session} {source : Source} {request : Request} {es : List (Event Context)} {pid p : Pid}

/-- A session that is obeyed with a report shows the kernel. -/
theorem Obeys.snapshot {c : Command} {answer : Except Halt Response} {reply : Reply} {snapshot : Snapshot}
    {s' : Session} (h : s.Obeys source c answer s') (hanswer : answer = .ok (.replied reply))
    (hreply : reply.snapshot? = some snapshot) :
    s.kernel.snapshot = .ok snapshot := by
  cases h with
  | refused => cases hanswer
  | reported hup hsnapshot | ended hup hsnapshot =>
    cases hanswer
    obtain rfl := Option.some.inj hreply
    exact hsnapshot
  | ticked | woken =>
    cases hanswer
    cases hreply

/-- Whatever is reported in an exchange is the kernel before it. -/
theorem snapshot_of_answer (hs : s.kernel.Sound) {reply : Reply} {snapshot : Snapshot}
    (hanswer : (s.exchange source request).answer = .ok (.replied reply)) (hreply : reply.snapshot? = some snapshot) :
    s.kernel.snapshot = .ok snapshot := by
  cases request with
  | operation op =>
    cases hp : onKernel (op.perform source) s with
    | ok a s' =>
      rw [exchange_ok (Action.map_ok hp)] at hanswer
      cases hanswer
    | error halt s' =>
      rw [exchange_error (Action.map_error hp)] at hanswer
      cases hanswer
  | command c => exact (exchange_obeys hs source c).snapshot hanswer hreply
  | line text =>
    have hhears := exchange_hears hs source text
    rw [hanswer] at hhears
    cases hhears with
    | command htext hobeys => exact hobeys.snapshot rfl hreply
  | newSession => cases hanswer

namespace Takes

/-- Whoever an exchange names was alive before, or has the next number. -/
theorem named (ht : s.Takes source request es) (hp : p ∈ (s.exchange source request).named) :
    (∃ r, s.kernel.table.get? p = some r) ∨ p = s.kernel.table.nextPid := by
  have hshown : ∀ {reply snapshot}, (s.exchange source request).answer = .ok (.replied reply) →
    reply.snapshot? = some snapshot →
      p ∈ snapshot.processes.map (·.pid) → ∃ r, s.kernel.table.get? p = some r := by
    intro reply snapshot hanswer hreply hmem
    obtain ⟨info, hinfo, rfl⟩ := List.mem_map.mp hmem
    have hshows := Kernel.shows_of_snapshot (snapshot_of_answer ht.before hanswer hreply)
    obtain ⟨r, hr, -⟩ := hshows.exists_record ht.before.consistent hinfo
    exact ⟨r, hr⟩
  have hcourse := ht.course
  have hrefused : ∀ {halt}, (s.exchange source request).answer = .error halt → halt.named = [] :=
    fun hanswer => Halt.named_of_not_internal (isInternal_of_answer ht.before hanswer)
  rw [Exchange.named] at hp
  generalize (s.exchange source request).answer = answer, (s.exchange source request).after.kernel = k'
    at hp hcourse hshown hrefused
  cases hcourse with
  | made => exact .inr (List.mem_singleton.mp hp)
  | stepped hsteps => exact hsteps.named ht.before hp
  | ticked hticks =>
    cases hticks with
    | intro hsteps hsettles => exact hsteps.named ht.before hp
  | scheduled hsettles => exact .inl (exists_record_of_settles hsettles ht.before.consistent hp)
  | woken hwakes | wokenReply hwakes => exact .inl (exists_record_of_wakes hwakes hp)
  | advanced => cases hp
  | quiet hquiet =>
    rcases hquiet with ⟨halt, rfl⟩ | ⟨snapshot, rfl⟩ | ⟨snapshot, rfl⟩ | rfl
    · have hnamed : p ∈ halt.named := hp
      rw [hrefused rfl] at hnamed
      cases hnamed
    · exact .inl (hshown rfl rfl hp)
    · exact .inl (hshown rfl rfl hp)
    · cases hp

/-- A process that ends in an exchange has no record after it, and its number was given out. -/
theorem ended (ht : s.Takes source request es) {reason : EndReason}
    (hends : (s.exchange source request).outcome? = some (.terminated pid reason)) :
    (s.exchange source request).after.kernel.table.get? pid = none ∧
      pid.toNat < (s.exchange source request).after.kernel.table.nextPid.toNat := by
  rcases ht.course.step_or_still with ⟨outcome, es₁, k₁, houtcome, -, hsteps, hrest⟩ | ⟨hnone, -⟩
  · obtain rfl := Option.some.inj (houtcome.symm.trans hends)
    have hrun := hsteps.running_of_terminated ht.before
    obtain ⟨c, -, hself, hend⟩ := hsteps.compute_self ht.before hrun
    have hcontext : (s.exchange source request).after.kernel.contextOf pid = none := by
      rw [hrest, hself, (hend reason).mpr rfl]
      rfl
    obtain ⟨r, hr⟩ := ht.before.consistent.exists_running hrun
    have hgiven := ht.before.numbered pid (Table.mem_pids_iff.mpr ⟨r, hr⟩)
    exact ⟨Option.map_eq_none_iff.mp hcontext, Nat.lt_of_lt_of_le hgiven (ht.next ▸ Nat.le_add_right _ _)⟩
  · cases hnone.symm.trans hends

/-- A process without a record whose number was given out is not named in an exchange, and has no record after it. -/
theorem absent (ht : s.Takes source request es) (hnone : s.kernel.table.get? pid = none)
    (hgiven : pid.toNat < s.kernel.table.nextPid.toNat) :
    pid ∉ (s.exchange source request).named ∧ (s.exchange source request).after.kernel.table.get? pid = none ∧
      pid.toNat < (s.exchange source request).after.kernel.table.nextPid.toNat := by
  have hdead : ∀ r, s.kernel.table.get? pid ≠ some r := by
    intro r hr
    cases hnone.symm.trans hr
  have hold : pid ≠ s.kernel.table.nextPid := by
    rintro rfl
    exact Nat.lt_irrefl _ hgiven
  have hexecuting : (s.exchange source request).executing? ≠ some pid := by
    rw [Exchange.executing?, (exchange_before source s request).1]
    intro hrun
    split at hrun
    · obtain ⟨r, hr⟩ := ht.before.consistent.exists_running hrun
      exact hdead r hr
    · cases hrun
  have hborn : (s.exchange source request).born? ≠ some pid := fun hborn => hold (ht.exists_bears hborn).1
  have hcontext : (s.exchange source request).after.kernel.contextOf pid = none := by
    rw [ht.compute_other hexecuting hborn, Kernel.contextOf, hnone]
    rfl
  refine ⟨fun hnamed => ?_, Option.map_eq_none_iff.mp hcontext,
    Nat.lt_of_lt_of_le hgiven (ht.next ▸ Nat.le_add_right _ _)⟩
  rcases ht.named hnamed with ⟨r, hr⟩ | heq
  · exact hdead r hr
  · exact hold heq

end Takes

end Session

/-! ## Every run -/

/-- The process has no record and no place, nothing is charged to it, and no report shows it. -/
structure Kernel.Gone (k : Kernel Context) (pid : Pid) : Prop where
  record : k.table.get? pid = none
  running : k.running ≠ some pid
  ready : ∀ queue ∈ k.queues.ready, pid ∉ queue
  blocked : pid ∉ k.queues.blocked
  unmarked : k.executed ≠ some pid
  reports : ∃ snapshot, k.snapshot = .ok snapshot ∧ ∀ info ∈ snapshot.processes, info.pid ≠ pid

/-- In a consistent kernel a process without a record is gone. -/
theorem Kernel.Consistent.gone {k : Kernel Context} (hk : k.Consistent) {pid : Pid} (h : k.table.get? pid = none) :
    k.Gone pid := by
  have hplaces : pid ∉ k.places := by
    intro hp
    obtain ⟨r, hr⟩ := hk.exists_record hp
    cases h.symm.trans hr
  obtain ⟨snapshot, hsnapshot⟩ := exists_snapshot hk
  refine ⟨h, fun hrun => hplaces ?_, fun queue hqueue hp => hplaces ?_, fun hp => hplaces ?_, fun hmark => hplaces ?_,
    snapshot, hsnapshot, fun info hinfo heq => ?_⟩
  · simp [places, hrun]
  · simp only [places, List.mem_append, List.mem_flatten]
    exact .inl (.inr ⟨queue, hqueue, hp⟩)
  · simp [places, hp]
  · simp [places, hk.marked pid hmark]
  · obtain ⟨r, hr, -⟩ := (shows_of_snapshot hsnapshot).exists_record hk hinfo
    rw [heq, h] at hr
    cases hr

/-- In every run of a kernel since it booted in which fewer numbers are given out than there are, a process that ended
is gone from then on, and no later answer names it. -/
theorem Session.ended_for_good {levels : UInt8} {k : Kernel Context} (hboot : Kernel.boot levels = .ok k)
    (requests : List (Source × Request)) (hroom : Exchange.births (exchanges { kernel := k } requests) < UInt32.size)
    {older newer : List Exchange} {x : Exchange} (hx : exchanges { kernel := k } requests = older ++ x :: newer)
    {pid : Pid} {reason : EndReason} (hends : x.outcome? = some (.terminated pid reason)) :
    x.after.kernel.Gone pid ∧ ∀ y ∈ newer, pid ∉ y.named ∧ y.after.kernel.Gone pid := by
  obtain ⟨before, source, request, rest, es, -, -, rfl, rfl, ht, hrest, -⟩ := takes_of_split hboot hroom hx
  obtain ⟨hnone, hgiven⟩ := ht.ended hends
  refine ⟨ht.after.consistent.gone hnone, ?_⟩
  refine (run_invariant (P := fun xs s => (∀ y ∈ xs, pid ∉ y.named ∧ y.after.kernel.Gone pid) ∧
    s.kernel.table.get? pid = none ∧ pid.toNat < s.kernel.table.nextPid.toNat)
    ht.after ⟨by simp, hnone, hgiven⟩ ?_ hrest).1.1
  rintro xs s source' request' es' - ht' ⟨hxs, hnone', hgiven'⟩
  obtain ⟨hnamed, hafter⟩ := ht'.absent hnone' hgiven'
  refine ⟨fun y hy => ?_, hafter⟩
  rcases List.mem_append.mp hy with hy | hy
  · exact hxs y hy
  · obtain rfl := List.mem_singleton.mp hy
    exact ⟨hnamed, ht'.after.consistent.gone hafter.1⟩

/-- In the sample the second process ends before the child of the first one blocks and is woken. -/
theorem Session.ended_for_good_sample :
    Kernel.boot 2 = .ok (Kernel.empty 2 : Kernel Context) ∧
      Exchange.births (exchanges { kernel := Kernel.empty 2 } (sample.map (Prod.mk Source.empty))) < UInt32.size ∧
      ∃ older x newer, exchanges { kernel := Kernel.empty 2 } (sample.map (Prod.mk Source.empty)) =
        older ++ x :: newer ∧
        x.outcome? = some (.terminated 1 .exit) ∧ newer.map (·.named) = [[2], [2], [0], [0]] ∧
        x.after.kernel.Gone 1 ∧ ∀ y ∈ newer, 1 ∉ y.named ∧ y.after.kernel.Gone 1 := by
  have hboot : Kernel.boot 2 = .ok (Kernel.empty 2 : Kernel Context) := rfl
  have hroom : Exchange.births (exchanges { kernel := Kernel.empty 2 } (sample.map (Prod.mk Source.empty))) <
      UInt32.size := by
    decide +kernel
  have hsplit :=
    (List.take_append_drop 5 (exchanges { kernel := Kernel.empty 2 } (sample.map (Prod.mk Source.empty)))).symm
  exact ⟨hboot, hroom, _, _, _, hsplit, rfl, rfl, ended_for_good hboot _ hroom hsplit rfl⟩

end Timeshare
