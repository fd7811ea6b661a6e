import Timeshare.Proofs.Census
import Timeshare.Proofs.Driven

/-!
# More levels do not change a run

Two kernels, one with some levels and one with these and more, are asked the same, and no process for a level that
only the second has. Then nobody gets to such a level, as a child has the level of its parent and a process keeps its
level for life, and levels where nobody is ready do not count when the slot is filled. So the kernels are akin
throughout (`QueueLikeness.extension`), and all that a caller sees of them is the same, except that the reports of the
second list the additional levels, which are empty (`Session.more_levels`).
-/

namespace Timeshare

/-! ## Queues with more levels -/

namespace Queues

/-- The queues, with so many more levels where nobody is ready. -/
def extend (n : Nat) (q : Queues) : Queues := { q with ready := q.ready ++ List.replicate n [] }

variable {q : Queues} {n : Nat} {pid : Pid} {level : Priority} {few many : UInt8}

theorem toNat_add_sub (h : few ≤ many) : few.toNat + (many.toNat - few.toNat) = many.toNat :=
  Nat.add_sub_cancel' (UInt8.le_iff_toNat_le.mp h)

theorem extend_empty (h : few ≤ many) : (empty few).extend (many.toNat - few.toNat) = empty many := by
  rw [extend, empty, empty, List.replicate_append_replicate, toNat_add_sub h]

theorem levels_of_length (h : q.ready.length = few.toNat) : q.levels = few := by
  rw [levels, h, UInt8.ofNat_toNat]

/-- The additional levels count. -/
theorem levels_extend (hle : few ≤ many) (h : q.ready.length = few.toNat) :
    (q.extend (many.toNat - few.toNat)).levels = many := by
  refine levels_of_length ?_
  rw [extend, List.length_append, List.length_replicate, h, toNat_add_sub hle]

/-- At every level the same processes are ready. -/
theorem readyAt_extend : (q.extend n).readyAt level = q.readyAt level := by
  rw [readyAt, readyAt, extend]
  by_cases h : level.toNat < q.ready.length
  · rw [List.getElem?_append_left h]
  · -- past the levels that were there the queue is empty, and past all of them there is none
    rw [List.getElem?_append_right (Nat.le_of_not_lt h), List.getElem?_eq_none (Nat.le_of_not_lt h),
      List.getElem?_replicate]
    split <;> rfl

/-- At a level that is there without them, a number joins the same queue. -/
theorem enqueueReady_extend (h : level.toNat < q.ready.length) :
    (q.extend n).enqueueReady pid level = (q.enqueueReady pid level).map (extend n) := by
  have hlt : level.toNat < (q.extend n).ready.length := by
    rw [extend, List.length_append]
    exact Nat.lt_add_right _ h
  rw [enqueueReady, enqueueReady, if_pos h, if_pos hlt, Option.map_some]
  simp only [extend]
  rw [List.modify_eq_set, List.modify_eq_set, List.getElem?_append_left h, List.set_append_left _ _ h]

/-- Queues after all others where nobody waits do not matter to what is taken. -/
theorem popFirst_append_replicate (qs : List (List Pid)) (n : Nat) :
    popFirst (qs ++ List.replicate n []) = (popFirst qs).map fun taken =>
      (taken.1, taken.2 ++ List.replicate n []) := by
  induction qs with
  | nil =>
    rw [List.nil_append]
    exact (popFirst_eq_none_iff _).mpr (List.flatten_eq_nil_iff.mpr fun _ => List.eq_of_mem_replicate)
  | cons queue qs ih =>
    cases queue with
    | cons p rest => rfl
    | nil =>
      simp only [List.cons_append, popFirst, ih, Option.map_map]
      rfl

/-- The same number is taken for the slot. -/
theorem dequeueReady_extend :
    (q.extend n).dequeueReady = q.dequeueReady.map fun taken => (taken.1, taken.2.extend n) := by
  rw [dequeueReady, extend, popFirst_append_replicate, dequeueReady, Option.map_map, Option.map_map]
  rfl

/-- A queue is taken from, but none is taken away. -/
theorem length_of_dequeueReady {q' : Queues} (h : q.dequeueReady = some (pid, q')) :
    q'.ready.length = q.ready.length := by
  obtain ⟨⟨p, left⟩, hpop, heq⟩ := Option.map_eq_some_iff.mp h
  obtain ⟨rfl, rfl⟩ := Prod.mk.inj heq
  obtain ⟨empties, rest, more, hready, rfl, -⟩ := split_of_popFirst hpop
  simp [hready]

/-- The same number is taken from the blocked queue. -/
theorem dequeueBlocked_extend :
    (q.extend n).dequeueBlocked = q.dequeueBlocked.map fun taken => (taken.1, taken.2.extend n) := by
  obtain ⟨ready, blocked⟩ := q
  cases blocked <;> rfl

end Queues

/-- The second queues have more levels, where nobody is ready, and processes are of a level that both have. -/
def QueueLikeness.extension (few many : UInt8) (hle : few ≤ many) : QueueLikeness where
  queues q q' := q.ready.length = few.toNat ∧ q' = q.extend (many.toNat - few.toNat)
  level l := l < few
  levels := by
    rintro q _ l ⟨hlength, rfl⟩ hl
    rw [Queues.levels_of_length hlength, Queues.levels_extend hle hlength]
    exact .inl ⟨hl, UInt8.lt_of_lt_of_le hl hle⟩
  enqueueReady := by
    rintro q _ l pid ⟨hlength, rfl⟩ hl
    have hlt : l.toNat < q.ready.length := hlength ▸ UInt8.lt_iff_toNat_lt.mp hl
    obtain ⟨joined, hjoined⟩ := Queues.exists_enqueueReady hlt pid
    rw [Queues.enqueueReady_extend hlt, hjoined]
    exact .some ⟨(Queues.joins_of_enqueueReady hjoined).length.trans hlength, rfl⟩
  dequeueReady := by
    rintro q _ ⟨hlength, rfl⟩
    rw [Queues.dequeueReady_extend]
    cases htaken : q.dequeueReady with
    | none => exact .none
    | some taken => exact .some ⟨rfl, (Queues.length_of_dequeueReady htaken).trans hlength, rfl⟩
  enqueueBlocked := by
    rintro q _ pid ⟨hlength, rfl⟩
    exact ⟨hlength, rfl⟩
  dequeueBlocked := by
    rintro q _ ⟨hlength, rfl⟩
    rw [Queues.dequeueBlocked_extend]
    cases htaken : q.dequeueBlocked with
    | none => exact .none
    | some taken =>
      obtain ⟨-, hready⟩ := Queues.dequeueBlocked_eq_some_iff.mp htaken
      exact .some ⟨rfl, (congrArg List.length hready).trans hlength, rfl⟩

/-! ## What a caller sees -/

/-- The level that is asked for, if a process is. -/
def Request.level? : Request → Option Priority
  | operation (.create priority _) | operation (.createFrom priority _) | operation (.createParsed priority _) =>
    some priority
  | _ => none

/-- The levels of a kernel with many levels that one with few does not have, in order. -/
def levelsBetween (few many : UInt8) : List Priority := (List.range' few.toNat (many.toNat - few.toNat)).map UInt8.ofNat

/-- The report, with entries for the additional levels, at which nobody is ready. -/
def Snapshot.extend (few many : UInt8) (s : Snapshot) : Snapshot :=
  { s with ready := s.ready ++ (levelsBetween few many).map fun level => { priority := level, processes := [] } }

/-- The reply, with the additional levels in its report. -/
def Reply.extend (few many : UInt8) : Reply → Reply
  | report snapshot => report (snapshot.extend few many)
  | shutdown snapshot => shutdown (snapshot.extend few many)
  | reply => reply

/-- The response, with the additional levels in its report. -/
def Response.extend (few many : UInt8) : Response → Response
  | replied reply => replied (reply.extend few many)
  | response => response

/-- The second kernel has more levels, where nobody is ready, and nothing else tells the two apart. -/
structure Kernel.Extended (few many : UInt8) (k k' : Kernel Context) : Prop where
  records : ∀ pid, k'.table.get? pid = k.table.get? pid
  nextPid : k'.table.nextPid = k.table.nextPid
  running : k'.running = k.running
  executed : k'.executed = k.executed
  lastDispatched : k'.lastDispatched = k.lastDispatched
  stats : k'.stats = k.stats
  clock : k'.clock = k.clock
  blocked : k'.queues.blocked = k.queues.blocked
  levels : k.queues.levels = few ∧ k'.queues.levels = many
  ready : ∀ level < few, k'.queues.readyAt level = k.queues.readyAt level
  spare : ∀ level, few ≤ level → k.queues.readyAt level = [] ∧ k'.queues.readyAt level = []
  snapshot : k'.snapshot = k.snapshot.map (Snapshot.extend few many)

/-- Both exchanges are refused for the same reason or answered the same but for additional levels in a report, and
leave kernels that nothing but additional levels tells apart, under sessions that are both shut down or neither is. -/
structure Exchange.Extended (few many : UInt8) (x x' : Exchange) : Prop where
  answer : x'.answer = x.answer.map (Response.extend few many)
  shutDown : x'.after.shutDown = x.after.shutDown
  kernel : x.after.kernel.Extended few many x'.after.kernel

open Likeness

section

variable {few many : UInt8} {hle : few ≤ many} {k k' : Kernel Context}

/-! ## Kernels with more levels -/

/-- An additional level is past all that were there. -/
theorem le_of_mem_levelsBetween {level : Priority} (h : level ∈ levelsBetween few many) : few ≤ level := by
  obtain ⟨n, hn, rfl⟩ := List.mem_map.mp h
  obtain ⟨hfrom, hto⟩ := List.mem_range'_1.mp hn
  have hmany : many.toNat < UInt8.size := many.toNat_lt
  have hlevel : (UInt8.ofNat n).toNat = n := UInt8.toNat_ofNat_of_lt' (by omega)
  rw [UInt8.le_iff_toNat_le, hlevel]
  exact hfrom

namespace Likeness

/-- Records that are alike in everything are the same. -/
theorem Records.eq_of_identity {r r' : ProcessRecord Context} (h : (identity Context).Records r r') : r' = r := by
  obtain ⟨pid, parent, priority, state, startTime, cpuTimeUsed, context⟩ := r
  obtain ⟨rfl, rfl, rfl, rfl, rfl, rfl, rfl⟩ := h
  rfl

theorem exact_identity : (identity Context).Exact := ⟨id, id⟩

theorem sources_identity (source : Source) : (identity Context).Sources source source :=
  fun _ => .refl fun _ _ => .refl fun _ _ => rfl

namespace Akin

/-- Under every number both have the same record, or none. -/
theorem records_eq {M : QueueLikeness} (h : (identity Context).Akin M k k') (pid : Pid) :
    k'.table.get? pid = k.table.get? pid := by
  rcases h.get?_cases pid with ⟨hr, hr'⟩ | ⟨r, r', hr, hr', hrecords⟩
  · rw [hr, hr']
  · rw [hr, hr', hrecords.toRecords.eq_of_identity]

theorem infoOf_eq {M : QueueLikeness} (h : (identity Context).Akin M k k') : k'.infoOf = k.infoOf := by
  funext pid
  rw [Kernel.infoOf, Kernel.infoOf, h.records_eq]

/-- The first has some levels, and the second has all. -/
theorem levels_of_extension (h : (identity Context).Akin (.extension few many hle) k k') :
    k.queues.levels = few ∧ k'.queues.levels = many := by
  obtain ⟨hlength, hqueues⟩ := h.queues
  rw [hqueues]
  exact ⟨Queues.levels_of_length hlength, Queues.levels_extend hle hlength⟩

/-- The levels of the second are those of the first, and then the additional ones. -/
theorem levelList_of_extension (h : (identity Context).Akin (.extension few many hle) k k') :
    k'.levelList = k.levelList ++ levelsBetween few many := by
  obtain ⟨hfew, hmany⟩ := h.levels_of_extension
  have hrange : List.range many.toNat = List.range few.toNat ++ List.range' few.toNat (many.toNat - few.toNat) := by
    rw [List.range_eq_range', List.range_eq_range', ← Queues.toNat_add_sub hle, ← List.range'_append_1, Nat.zero_add,
      Queues.toNat_add_sub hle]
  rw [Kernel.levelList, Kernel.levelList, hfew, hmany, hrange, List.map_append, levelsBetween]

/-- At every level the same is reported. -/
theorem readyLevel_of_extension (h : (identity Context).Akin (.extension few many hle) k k') :
    k'.readyLevel = k.readyLevel := by
  funext level
  rw [Kernel.readyLevel, Kernel.readyLevel, h.infoOf_eq, h.queues.2, Queues.readyAt_extend]

/-- At the additional levels nobody is ready in either. -/
theorem spare_of_extension (h : (identity Context).Akin (.extension few many hle) k k') {level : Priority}
    (hl : few ≤ level) :
    k.queues.readyAt level = [] ∧ k'.queues.readyAt level = [] := by
  obtain ⟨hlength, hqueues⟩ := h.queues
  have hempty : k.queues.readyAt level = [] := Kernel.readyAt_of_le (hlength ▸ UInt8.le_iff_toNat_le.mp hl)
  rw [hqueues, Queues.readyAt_extend]
  exact ⟨hempty, hempty⟩

/-- The additional levels are reported with nobody in them. -/
theorem readyLevel_spare (h : (identity Context).Akin (.extension few many hle) k k') :
    (levelsBetween few many).mapM k.readyLevel =
      .ok ((levelsBetween few many).map fun level => { priority := level, processes := [] }) := by
  rw [mapM_eq_ok_iff, List.forall₂_map_right_iff, List.forall₂_same]
  intro level hlevel
  rw [Kernel.readyLevel, (h.spare_of_extension (le_of_mem_levelsBetween hlevel)).1]
  rfl

/-- The blocked queue is the same in both. -/
theorem blocked_of_extension (h : (identity Context).Akin (.extension few many hle) k k') :
    k'.queues.blocked = k.queues.blocked := by
  rw [h.queues.2]
  rfl

/-- The report of the second is that of the first with the additional levels, or both fail for the same reason. -/
theorem snapshot_of_extension (h : (identity Context).Akin (.extension few many hle) k k') :
    k'.snapshot = k.snapshot.map (Snapshot.extend few many) := by
  have hclock : k'.clock = k.clock := h.clock.symm
  rw [Kernel.snapshot, Kernel.snapshot, h.infoOf_eq, ← h.running, h.blocked_of_extension, h.levelList_of_extension,
    h.readyLevel_of_extension, List.mapM_append, h.readyLevel_spare, hclock]
  cases k.running.mapM k.infoOf with
  | error fault => rfl
  | ok running =>
    cases k.queues.blocked.mapM k.infoOf with
    | error fault => rfl
    | ok blocked =>
      cases k.levelList.mapM k.readyLevel with
      | error fault => rfl
      | ok ready => rfl

/-- Nothing but additional levels tells the kernels apart. -/
theorem extended (h : (identity Context).Akin (.extension few many hle) k k') : k.Extended few many k' where
  records := h.records_eq
  nextPid := h.nextPid.symm
  running := h.running.symm
  executed := h.executed.symm
  lastDispatched := h.lastDispatched.symm
  stats := h.stats.symm
  clock := h.clock.symm
  blocked := h.blocked_of_extension
  levels := h.levels_of_extension
  ready level _ := by rw [h.queues.2, Queues.readyAt_extend]
  spare _ := h.spare_of_extension
  snapshot := h.snapshot_of_extension

end Akin

end Likeness

/-! ## Sessions -/

/-- The sessions are both shut down or neither is, and the kernel of the second has more levels. -/
structure Session.Extended (hle : few ≤ many) (s s' : Session) : Prop where
  kernel : (identity Context).Akin (.extension few many hle) s.kernel s'.kernel
  shutDown : s.shutDown = s'.shutDown

/-- A process that an operation makes is of the level that it asks for. -/
theorem Operation.level?_of_making? {source : Source} {op : Operation} {priority : Priority}
    {program : Except Fault Program} (h : op.making? source = some (priority, program)) :
    (Request.operation op).level? = some priority := by
  cases op with
  | createFrom level name =>
    simp only [Operation.making?] at h
    split at h
    all_goals
      obtain ⟨rfl, -⟩ := Prod.mk.inj (Option.some.inj h)
      rfl
  | create => exact congrArg some (Prod.mk.inj (Option.some.inj h)).1
  | createParsed => exact congrArg some (Prod.mk.inj (Option.some.inj h)).1
  | _ => cases h

namespace Session

variable {s s' : Session} {source : Source} {request : Request}

/-- Reports. -/
theorem inspect_extended (hs : Extended hle s s') :
    Paired (Extended hle) (fun snapshot snapshot' => snapshot' = snapshot.extend few many) (inspect s)
      (inspect s') := by
  rw [inspect_apply, inspect_apply, hs.kernel.snapshot_of_extension]
  cases s.kernel.snapshot with
  | ok snapshot => exact .ok hs rfl
  | error fault => exact .error _ hs

/-- Commands of sessions that are not shut down. -/
theorem perform_extended (hs : Extended hle s s') (c : Command) :
    Paired (Extended hle) (fun reply reply' => reply' = reply.extend few many) (perform source c s)
      (perform source c s') := by
  have hkernels : ∀ k k', (identity Context).Akin (.extension few many hle) k k' →
      Extended hle { s with kernel := k } { s' with kernel := k' } := fun _ _ hk => ⟨hk, hs.shutDown⟩
  cases c with
  | tick =>
    have htick := onKernel_paired (exact_identity.tick hs.kernel (sources_identity source)) hkernels
    exact htick.bind fun _ _ _ _ hs heq => heq ▸ .ok hs rfl
  | wake => exact (onKernel_paired hs.kernel.wake hkernels).bind fun _ _ _ _ hs heq => heq ▸ .ok hs rfl
  | inspect => exact (inspect_extended hs).bind fun _ _ _ _ hs heq => .ok hs (congrArg Reply.report heq)
  | shutdown =>
    refine (inspect_extended hs).bind fun _ _ _ _ hs heq => ?_
    exact .bind (.modify ⟨hs.kernel, rfl⟩) fun _ _ _ _ hs _ => .ok hs (congrArg Reply.shutdown heq)

/-- Requests, none of them for a process of a level that the first kernel does not have. -/
theorem request_extended (hs : Extended hle s s') (hlevel : ∀ level, request.level? = some level → level < few) :
    Paired (Extended hle) (fun response response' => response' = response.extend few many) (request.perform source s)
      (request.perform source s') := by
  have hcommand : ∀ c : Command, Paired (Extended hle) (fun response response' => response' = response.extend few many)
      ((Response.replied <$> dispatch source c) s) ((Response.replied <$> dispatch source c) s') :=
    fun c => (dispatch_paired hs hs.shutDown (perform_extended hs c)).map fun _ _ heq => congrArg Response.replied heq
  cases request with
  | operation op =>
    have hmaking :
      ∀ priority program, op.making? source = some (priority, program) → priority < few ∧ Agree Eq program program :=
      fun _ _ hop => ⟨hlevel _ (Operation.level?_of_making? hop), .refl fun _ _ => rfl⟩
    have hperform := exact_identity.perform hs.kernel (sources_identity source) hmaking
    exact (onKernel_paired hperform fun _ _ hk => ⟨hk, hs.shutDown⟩).map fun _ _ heq => heq ▸ rfl
  | command c => exact hcommand c
  | line text =>
    cases hparse : Command.parse text with
    | ok c =>
      rw [perform_line hparse, perform_line hparse]
      exact hcommand c
    | error fault =>
      simp only [Request.perform, submit, hparse]
      exact .error _ hs
  | newSession => exact .ok ⟨hs.kernel, rfl⟩ rfl

/-- The exchange for such a request. -/
theorem exchange_extended (hs : Extended hle s s') (hlevel : ∀ level, request.level? = some level → level < few) :
    (s.exchange source request).Extended few many (s'.exchange source request) ∧
      Extended hle (s.exchange source request).after (s'.exchange source request).after := by
  have hperform : Paired _ _ (request.perform source s) (request.perform source s') := request_extended hs hlevel
  unfold exchange
  generalize request.perform source s = result, request.perform source s' = result' at hperform
  cases hperform with
  | ok hs' heq => exact ⟨⟨congrArg Except.ok heq, hs'.shutDown.symm, hs'.kernel.extended⟩, hs'⟩
  | error halt hs' => exact ⟨⟨rfl, hs'.shutDown.symm, hs'.kernel.extended⟩, hs'⟩

/-- The exchanges of a run of such requests. -/
theorem exchanges_extended {requests : List (Source × Request)} (hs : Extended hle s s')
    (hlevels : ∀ asked ∈ requests, ∀ level, asked.2.level? = some level → level < few) :
    List.Forall₂ (Exchange.Extended few many) (s.exchanges requests) (s'.exchanges requests) ∧
      Extended hle (s.after requests) (s'.after requests) := by
  induction requests generalizing s s' with
  | nil => exact ⟨.nil, hs⟩
  | cons asked requests ih =>
    obtain ⟨source, request⟩ := asked
    rw [List.forall_mem_cons] at hlevels
    obtain ⟨hexchange, hs'⟩ := exchange_extended hs hlevels.1
    obtain ⟨hrest, hlast⟩ := ih hs' hlevels.2
    exact ⟨.cons hexchange hrest, hlast⟩

end Session

end

namespace Session

/-- Of two kernels, one of which booted with some levels and one with as many or more, the same is asked, and no
process of a level that the first does not have. Then each request is refused by both for the same reason or answered
by both the same, and after it nothing tells the kernels apart, neither their records, slots, marks, queues, tallies
and clocks nor what is reported of them, except that the second has more levels: nobody is ready there, and they are
listed as empty at the end of its report. -/
theorem more_levels {few many : UInt8} (hle : few ≤ many) {k k' : Kernel Context} (hboot : Kernel.boot few = .ok k)
    (hboot' : Kernel.boot many = .ok k') {requests : List (Source × Request)}
    (hlevels : ∀ asked ∈ requests, ∀ level, asked.2.level? = some level → level < few) :
    List.Forall₂ (Exchange.Extended few many) (exchanges { kernel := k } requests)
      (exchanges { kernel := k' } requests) ∧
      (after { kernel := k } requests).kernel.Extended few many (after { kernel := k' } requests).kernel := by
  have hqueues : (QueueLikeness.extension few many hle).queues (Queues.empty few) (Queues.empty many) :=
    ⟨List.length_replicate, (Queues.extend_empty hle).symm⟩
  have hs : Extended hle { kernel := k } { kernel := k' } := ⟨akin_of_boot rfl hqueues hboot hboot', rfl⟩
  obtain ⟨hexchanges, hlast⟩ := exchanges_extended hs hlevels
  exact ⟨hexchanges, hlast.kernel.extended⟩

/-- The requests of the sample, a report, a line and a step, and a shutdown, after which a tick is refused. -/
def reportedSample : List Request :=
  sample ++ [.command .inspect, .line " Q ", .operation .step, .command .shutdown, .command .tick]

/-- With four levels instead of two they lead to the same, though not to the same reports. -/
theorem more_levels_sample :
    (2 : UInt8) ≤ 4 ∧ Kernel.boot 2 = .ok (Kernel.empty 2 : Kernel Context) ∧
      Kernel.boot 4 = .ok (Kernel.empty 4 : Kernel Context) ∧
      (∀ asked ∈ reportedSample.map (Prod.mk Source.empty), ∀ level, asked.2.level? = some level → level < 2) ∧
      (exchanges { kernel := Kernel.empty 2 } (reportedSample.map (Prod.mk Source.empty))).map (·.answer) ≠
        (exchanges { kernel := Kernel.empty 4 } (reportedSample.map (Prod.mk Source.empty))).map (·.answer) ∧
      List.Forall₂ (Exchange.Extended 2 4)
        (exchanges { kernel := Kernel.empty 2 } (reportedSample.map (Prod.mk Source.empty)))
        (exchanges { kernel := Kernel.empty 4 } (reportedSample.map (Prod.mk Source.empty))) ∧
      (after { kernel := Kernel.empty 2 } (reportedSample.map (Prod.mk Source.empty))).kernel.Extended 2 4
        (after { kernel := Kernel.empty 4 } (reportedSample.map (Prod.mk Source.empty))).kernel := by
  have hlevels : ∀ asked ∈ reportedSample.map (Prod.mk Source.empty), ∀ level, asked.2.level? = some level →
      level < 2 := by
    have hsample : ∀ request ∈ reportedSample, ∀ level ∈ request.level?, level < 2 := by decide +kernel
    intro asked hasked level hlevel
    obtain ⟨request, hrequest, rfl⟩ := List.mem_map.mp hasked
    exact hsample request hrequest level hlevel
  exact ⟨by decide, rfl, rfl, hlevels, by decide +kernel, more_levels (by decide) rfl rfl hlevels⟩

end Session

end Timeshare
