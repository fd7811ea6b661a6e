import Timeshare.Exchange
import Timeshare.Proofs.Steps

/-!
# Alike kernels do alike things

Two kernels, of two machines or of one, are alike if they differ only in what their processes compute on
(`Likeness.Kernels`), and akin if besides their queues are alike but not the same (`Likeness.Akin`). What a likeness
of the contexts has to keep is said once, in `Likeness`: the instructions that are not arithmetic are the same, and
each instruction leads from alike contexts to alike ones. What one of the queues has to keep is said in
`QueueLikeness`, one law for each thing that is done to queues. Then every action on akin kernels gives alike answers,
or halts for the same reason, and leaves akin kernels, whether they are consistent or not. One lemma for each action
says so, along its definition.
-/

namespace Timeshare

/-! ## Alike results -/

/-- Both are the same fault, or both are given and alike. -/
inductive Agree {ε α β : Type} (R : α → β → Prop) : Except ε α → Except ε β → Prop where
  | ok {a : α} {b : β} (h : R a b) : Agree R (.ok a) (.ok b)
  | error (e : ε) : Agree R (.error e) (.error e)

theorem Agree.refl {ε α : Type} {R : α → α → Prop} {x : Except ε α} (h : ∀ a, x = .ok a → R a a) : Agree R x x := by
  cases x with
  | ok a => exact .ok (h a rfl)
  | error e => exact .error e

/-- Both runs give alike answers or halt for the same reason, and leave alike states. -/
inductive Paired {σ τ α β : Type} (S : σ → τ → Prop) (Q : α → β → Prop) :
    EStateM.Result Halt σ α → EStateM.Result Halt τ β → Prop where
  | ok {a : α} {b : β} {s : σ} {t : τ} (hs : S s t) (ha : Q a b) : Paired S Q (.ok a s) (.ok b t)
  | error (halt : Halt) {s : σ} {t : τ} (hs : S s t) : Paired S Q (.error halt s) (.error halt t)

section

variable {α β : Type} {R R' : α → β → Prop} {o : Option α} {o' : Option β}

/-- What is there in both is related otherwise too. -/
theorem rel_mono (h : Option.Rel R o o') (hR : ∀ a b, R a b → R' a b) : Option.Rel R' o o' := by
  cases h with
  | some hab => exact .some (hR _ _ hab)
  | none => exact .none

/-- Whatever is there is related to itself. -/
theorem rel_of_eq {R : α → α → Prop} (hR : ∀ a, R a a) {o o' : Option α} (h : o = o') : Option.Rel R o o' := by
  subst h
  cases o with
  | some a => exact .some (hR a)
  | none => exact .none

end

namespace Paired

variable {σ τ α α' β β' : Type} {S : σ → τ → Prop} {Q : α → β → Prop} {R : α' → β' → Prop} {s : σ} {t : τ}
  {x : EStateM Halt σ α} {y : EStateM Halt τ β}

/-- What goes on from alike answers in alike states goes on from paired runs. -/
theorem bind (h : Paired S Q (x s) (y t)) {f : α → EStateM Halt σ α'} {g : β → EStateM Halt τ β'}
    (hfg : ∀ a b s t, S s t → Q a b → Paired S R (f a s) (g b t)) : Paired S R ((x >>= f) s) ((y >>= g) t) := by
  generalize hx : x s = rx at h
  generalize hy : y t = ry at h
  cases h with
  | ok hs ha =>
    rw [Action.bind_ok hx, Action.bind_ok hy]
    exact hfg _ _ _ _ hs ha
  | error halt hs =>
    rw [Action.bind_error hx, Action.bind_error hy]
    exact .error halt hs

/-- Less may be said of the states and the answers. -/
theorem mono {S' : σ → τ → Prop} {Q' : α → β → Prop} (h : Paired S Q (x s) (y t)) (hS : ∀ s t, S s t → S' s t)
    (hQ : ∀ a b, Q a b → Q' a b) : Paired S' Q' (x s) (y t) := by
  generalize x s = rx, y t = ry at h
  cases h with
  | ok hs ha => exact .ok (hS _ _ hs) (hQ _ _ ha)
  | error halt hs => exact .error halt (hS _ _ hs)

/-- Answers that are rewritten alike. -/
theorem map (h : Paired S Q (x s) (y t)) {f : α → α'} {g : β → β'} (hfg : ∀ a b, Q a b → R (f a) (g b)) :
    Paired S R ((f <$> x) s) ((g <$> y) t) := by
  generalize hx : x s = rx at h
  generalize hy : y t = ry at h
  cases h with
  | ok hs ha =>
    rw [Action.map_ok hx, Action.map_ok hy]
    exact .ok hs (hfg _ _ ha)
  | error halt hs =>
    rw [Action.map_error hx, Action.map_error hy]
    exact .error halt hs

theorem modify {f : σ → σ} {g : τ → τ} (h : S (f s) (g t)) :
    Paired S Eq ((modify f : EStateM Halt σ Unit) s) ((modify g : EStateM Halt τ Unit) t) := .ok h rfl

end Paired

/-! ## Likenesses -/

/-- Whether the instruction works on the accumulator only. -/
def Instruction.isArithmetic : Instruction → Bool
  | set _ | add _ | sub _ => true
  | _ => false

/-- What an arithmetic instruction does to the accumulator; the others leave it. -/
def Machine.compute {C : Type} [Machine C] : Instruction → C → C
  | .set v => Machine.setTo v
  | .add v => Machine.add v
  | .sub v => Machine.sub v
  | _ => id

/-- Which instructions, programs, contexts and times are alike, and that all that a process can do keeps its context
alike. An instruction moves a context on by one only where there is an instruction. -/
structure Likeness (C D : Type) [Machine C] [Machine D] where
  instruction : Instruction → Instruction → Prop
  program : Program → Program → Prop
  context : C → D → Prop
  time : Time → Time → Prop
  control : ∀ {i j}, instruction i j → i = j ∨ (i.isArithmetic = true ∧ j.isArithmetic = true)
  next : ∀ {c d}, context c d → Option.Rel instruction (Machine.next? c) (Machine.next? d)
  start : ∀ {p q}, program p q → context (Machine.start p) (Machine.start q)
  load : ∀ {p q c d}, program p q → context c d → context (Machine.load p c) (Machine.load q d)
  skip : ∀ {c d} (n : UInt64), context c d → context (Machine.skip n c) (Machine.skip n d)
  advance : ∀ {c d}, context c d → (Machine.next? c).isSome = true → context (Machine.advance c) (Machine.advance d)
  compute : ∀ {c d i j}, context c d → (Machine.next? c).isSome = true → instruction i j → i.isArithmetic = true →
    context (Machine.advance (Machine.compute i c)) (Machine.advance (Machine.compute j d))
  tick : ∀ {t u}, time t u → time (t + 1) (u + 1)

theorem Instruction.control_of_eq {i j : Instruction} (h : i = j) :
    i = j ∨ (i.isArithmetic = true ∧ j.isArithmetic = true) := .inl h

theorem tick_of_eq {t u : Time} (h : t = u) : t + 1 = u + 1 := congrArg (· + 1) h

/-- Only what is the same is alike. -/
def Likeness.identity (C : Type) [Machine C] : Likeness C C where
  instruction := Eq
  program := Eq
  context := Eq
  time := Eq
  control h := Instruction.control_of_eq h
  next h := rel_of_eq (fun _ => rfl) (congrArg Machine.next? h)
  start h := congrArg Machine.start h
  load hp hc := congrArg₂ Machine.load hp hc
  skip n h := congrArg (Machine.skip n) h
  advance h _ := congrArg Machine.advance h
  compute h _ hij _ := congrArg Machine.advance (congrArg₂ Machine.compute hij h)
  tick h := tick_of_eq h

/-- Which queues are alike, which levels processes have, and that with such levels all that is done to alike queues
leaves them alike. -/
structure QueueLikeness where
  queues : Queues → Queues → Prop
  level : Priority → Prop
  levels : ∀ {q q' l}, queues q q' → level l → (l < q.levels ∧ l < q'.levels) ∨ q.levels = q'.levels
  enqueueReady : ∀ {q q' l} (pid : Pid), queues q q' → level l →
    Option.Rel queues (q.enqueueReady pid l) (q'.enqueueReady pid l)
  dequeueReady :
    ∀ {q q'}, queues q q' → Option.Rel (fun t t' => t.1 = t'.1 ∧ queues t.2 t'.2) q.dequeueReady q'.dequeueReady
  enqueueBlocked : ∀ {q q'} (pid : Pid), queues q q' → queues (q.enqueueBlocked pid) (q'.enqueueBlocked pid)
  dequeueBlocked :
    ∀ {q q'}, queues q q' → Option.Rel (fun t t' => t.1 = t'.1 ∧ queues t.2 t'.2) q.dequeueBlocked q'.dequeueBlocked

namespace QueueLikeness

variable {M : QueueLikeness} {o o' : Option (Pid × Queues)}

/-- Nothing is taken in both, or the same number is, and the queues that are left are alike. -/
theorem taken_cases (h : Option.Rel (fun t t' => t.1 = t'.1 ∧ M.queues t.2 t'.2) o o') :
    (o = none ∧ o' = none) ∨ ∃ pid q q', o = some (pid, q) ∧ o' = some (pid, q') ∧ M.queues q q' := by
  cases h with
  | none => exact .inl ⟨rfl, rfl⟩
  | @some t t' htaken =>
    obtain ⟨pid, q⟩ := t
    obtain ⟨pid', q'⟩ := t'
    obtain ⟨rfl, hqueues⟩ := htaken
    exact .inr ⟨pid, q, q', rfl, rfl, hqueues⟩

end QueueLikeness

/-- The queues are the same, and the levels are any. -/
def QueueLikeness.same : QueueLikeness where
  queues := Eq
  level _ := True
  levels h _ := .inr (congrArg Queues.levels h)
  enqueueReady _ h _ := rel_of_eq (fun _ => rfl) (h ▸ rfl)
  dequeueReady h := rel_of_eq (fun _ => ⟨rfl, rfl⟩) (congrArg Queues.dequeueReady h)
  enqueueBlocked pid h := congrArg (·.enqueueBlocked pid) h
  dequeueBlocked h := rel_of_eq (fun _ => ⟨rfl, rfl⟩) (congrArg Queues.dequeueBlocked h)

namespace Likeness

variable {C D : Type} [Machine C] [Machine D] (L : Likeness C D) (M : QueueLikeness)

/-- The records differ only in their contexts, which are alike, and in their starts, which are too. -/
structure Records (r : ProcessRecord C) (r' : ProcessRecord D) : Prop where
  pid : r.pid = r'.pid
  parent : r.parent = r'.parent
  priority : r.priority = r'.priority
  state : r.state = r'.state
  cpuTimeUsed : r.cpuTimeUsed = r'.cpuTimeUsed
  startTime : L.time r.startTime r'.startTime
  context : L.context r.context r'.context

/-- The kernels differ only in their records, which are alike and filed under the same numbers, and in their clocks,
which are alike. -/
structure Kernels (k : Kernel C) (k' : Kernel D) : Prop where
  queues : k.queues = k'.queues
  nextPid : k.table.nextPid = k'.table.nextPid
  records : ∀ pid, Option.Rel L.Records (k.table.get? pid) (k'.table.get? pid)
  running : k.running = k'.running
  executed : k.executed = k'.executed
  lastDispatched : k.lastDispatched = k'.lastDispatched
  stats : k.stats = k'.stats
  clock : L.time k.clock k'.clock

/-- The records are alike, and of a level that processes may have. -/
structure Entries (r : ProcessRecord C) (r' : ProcessRecord D) : Prop extends L.Records r r' where
  level : M.level r.priority

/-- The kernels differ only in their queues, records and clocks, which are alike, and the records are filed under the
same numbers. -/
structure Akin (k : Kernel C) (k' : Kernel D) : Prop where
  queues : M.queues k.queues k'.queues
  nextPid : k.table.nextPid = k'.table.nextPid
  records : ∀ pid, Option.Rel (L.Entries M) (k.table.get? pid) (k'.table.get? pid)
  running : k.running = k'.running
  executed : k.executed = k'.executed
  lastDispatched : k.lastDispatched = k'.lastDispatched
  stats : k.stats = k'.stats
  clock : L.time k.clock k'.clock

/-- Under every name both have no lines for the same reason, or lines that are no program for the same reason, or
alike programs. -/
def Sources (source source' : Source) : Prop :=
  ∀ name, Agree (fun lines lines' => Agree L.program (Program.parse lines) (Program.parse lines')) (source name)
    (source' name)

/-- The steps did the same, but for the arithmetic that they executed, which is alike. -/
inductive Outcomes : StepOutcome → StepOutcome → Prop where
  | same (outcome : StepOutcome) : Outcomes outcome outcome
  | executed (pid : Pid) {i j : Instruction} (h : L.instruction i j) : Outcomes (.executed pid i) (.executed pid j)

/-- The answers are the same, but for what a step did and what time it is. -/
inductive Answers : Answer → Answer → Prop where
  | same (answer : Answer) : Answers answer answer
  | stepped {o o' : StepOutcome} (h : L.Outcomes o o') : Answers (.stepped o) (.stepped o')
  | advanced {t u : Time} (h : L.time t u) : Answers (.advanced t) (.advanced u)

variable {L M} {k : Kernel C} {k' : Kernel D} {α β : Type} {Q : α → β → Prop}

/-- Kernels that boot have no processes, so they are akin if their empty queues are alike. -/
theorem akin_of_boot {levels levels' : UInt8} (htime : L.time 0 0)
    (hqueues : M.queues (Queues.empty levels) (Queues.empty levels')) (hboot : Kernel.boot levels = .ok k)
    (hboot' : Kernel.boot levels' = .ok k') : L.Akin M k k' := by
  obtain ⟨-, rfl⟩ := Kernel.boot_eq_ok_iff.mp hboot
  obtain ⟨-, rfl⟩ := Kernel.boot_eq_ok_iff.mp hboot'
  exact ⟨hqueues, rfl, fun _ => .none, rfl, rfl, rfl, rfl, htime⟩

namespace Akin

/-! ## Changing a table -/

/-- Under every number both have no record, or alike ones. -/
theorem get?_cases (h : L.Akin M k k') (pid : Pid) : (k.table.get? pid = none ∧ k'.table.get? pid = none) ∨
    ∃ r r', k.table.get? pid = some r ∧ k'.table.get? pid = some r' ∧ L.Entries M r r' := by
  have hrecords := h.records pid
  generalize k.table.get? pid = o, k'.table.get? pid = o' at hrecords
  cases hrecords with
  | none => exact .inl ⟨rfl, rfl⟩
  | some hr => exact .inr ⟨_, _, rfl, rfl, hr⟩

/-- Records that are changed alike. -/
theorem of_modify (h : L.Akin M k k') {pid : Pid} {f : ProcessRecord C → ProcessRecord C}
    {g : ProcessRecord D → ProcessRecord D}
    (hfg : ∀ r r', k.table.get? pid = some r → k'.table.get? pid = some r' → L.Entries M r r' →
      L.Entries M (f r) (g r')) :
    L.Akin M { k with table := k.table.modify pid f } { k' with table := k'.table.modify pid g } := by
  refine { h with records := fun q => ?_ }
  rw [Table.get?_modify, Table.get?_modify]
  split
  · rcases h.get?_cases pid with ⟨hr, hr'⟩ | ⟨r, r', hr, hr', hrecords⟩
    · rw [hr, hr']
      exact .none
    · rw [hr, hr']
      exact .some (hfg r r' hr hr' hrecords)
  · exact h.records q

/-- Alike records that are filed. -/
theorem of_insert (h : L.Akin M k k') {r : ProcessRecord C} {r' : ProcessRecord D} (hr : L.Entries M r r') :
    L.Akin M { k with table := k.table.insert r } { k' with table := k'.table.insert r' } := by
  refine { h with nextPid := congrArg (· + 1) h.nextPid, records := fun q => ?_ }
  rw [Table.get?_insert, Table.get?_insert, h.nextPid]
  split
  · exact .some { hr with pid := rfl }
  · exact h.records q

/-- Records that are erased. -/
theorem of_erase (h : L.Akin M k k') (pid : Pid) :
    L.Akin M { k with table := k.table.erase pid } { k' with table := k'.table.erase pid } := by
  refine { h with records := fun q => ?_ }
  rw [Table.get?_erase, Table.get?_erase]
  split
  · exact .none
  · exact h.records q

/-! ## Parts of actions -/

/-- What goes on from a record that must be there. -/
theorem require_bind (h : L.Akin M k k') {pid : Pid} {f : ProcessRecord C → Action C α}
    {g : ProcessRecord D → Action D β}
    (hfg : ∀ r r', k.table.get? pid = some r → k'.table.get? pid = some r' → L.Entries M r r' →
      Paired (L.Akin M) Q (f r k) (g r' k')) :
    Paired (L.Akin M) Q ((Kernel.require pid >>= f) k) ((Kernel.require pid >>= g) k') := by
  rcases h.get?_cases pid with ⟨hr, hr'⟩ | ⟨r, r', hr, hr', hrecords⟩
  · rw [Action.bind_error (by rw [Kernel.require_apply, hr]), Action.bind_error (by rw [Kernel.require_apply, hr'])]
    exact .error _ h
  · rw [Action.bind_ok (Kernel.require_ok hr), Action.bind_ok (Kernel.require_ok hr')]
    exact hfg r r' hr hr' hrecords

/-- Records that are amended alike. -/
theorem amend (h : L.Akin M k k') {pid : Pid} {f : ProcessRecord C → ProcessRecord C}
    {g : ProcessRecord D → ProcessRecord D}
    (hfg : ∀ r r', k.table.get? pid = some r → k'.table.get? pid = some r' → L.Entries M r r' →
      L.Entries M (f r) (g r')) : Paired (L.Akin M) Eq (Kernel.amend pid f k) (Kernel.amend pid g k') :=
  .ok (h.of_modify hfg) rfl

theorem count (h : L.Akin M k k') (change : Stats → Stats) :
    Paired (L.Akin M) Eq (Kernel.count change k) (Kernel.count change k') :=
  .ok { h with stats := congrArg change h.stats } rfl

/-- Putting a number in a queue. -/
theorem enqueueReady (h : L.Akin M k k') (pid : Pid) {level : Priority} (hlevel : M.level level) :
    Paired (L.Akin M) Eq (Kernel.enqueueReady pid level k) (Kernel.enqueueReady pid level k') := by
  have hjoined := M.enqueueReady pid h.queues hlevel
  rw [Kernel.enqueueReady_apply, Kernel.enqueueReady_apply]
  generalize k.queues.enqueueReady pid level = joined, k'.queues.enqueueReady pid level = joined' at hjoined
  cases hjoined with
  | some hqueues => exact .ok { h with queues := hqueues } rfl
  | none => exact .error _ h

/-- Making a process ready. -/
theorem makeReady (h : L.Akin M k k') (pid : Pid) :
    Paired (L.Akin M) Eq (Kernel.makeReady pid k) (Kernel.makeReady pid k') := by
  unfold Kernel.makeReady
  refine h.require_bind fun r r' _ _ hr => ?_
  refine .bind (h.amend ?_) fun _ _ k k' h _ => ?_
  · exact fun _ _ _ _ hr => { hr with state := rfl }
  · rw [← hr.priority]
    exact h.enqueueReady pid hr.level

theorem recordExecution (h : L.Akin M k k') (pid : Pid) :
    Paired (L.Akin M) Eq (Kernel.recordExecution pid k) (Kernel.recordExecution pid k') :=
  .ok { h with executed := rfl } rfl

theorem releaseRunning (h : L.Akin M k k') :
    Paired (L.Akin M) Eq (Kernel.releaseRunning k) (Kernel.releaseRunning k') :=
  .ok { h with running := rfl, executed := rfl } h.running

theorem advanceClock (h : L.Akin M k k') : Paired (L.Akin M) L.time (Kernel.advanceClock k) (Kernel.advanceClock k') :=
  .ok { h with clock := L.tick h.clock } (L.tick h.clock)

/-! ## The accounting -/

/-- Preempting a process. -/
theorem preempt (h : L.Akin M k k') (pid : Pid) {level : Priority} (hlevel : M.level level) :
    Paired (L.Akin M) Eq (Kernel.preempt pid level k) (Kernel.preempt pid level k') := by
  unfold Kernel.preempt
  refine .bind (h.amend ?_) fun _ _ k k' h _ => ?_
  · exact fun _ _ _ _ hr => { hr with state := rfl, cpuTimeUsed := rfl }
  · refine (h.enqueueReady pid hlevel).bind fun _ _ k k' h _ => ?_
    refine .bind (.modify ?_) fun _ _ k k' h _ => h.count _
    exact { h with running := rfl }

/-- Charging a process. -/
theorem charge (h : L.Akin M k k') (pid : Pid) : Paired (L.Akin M) Eq (Kernel.charge pid k) (Kernel.charge pid k') := by
  unfold Kernel.charge
  refine h.require_bind fun r r' _ _ hr => ?_
  simp only [hr.cpuTimeUsed, ← hr.priority]
  split
  · exact h.amend fun _ _ _ _ hr => { hr with cpuTimeUsed := rfl }
  · exact h.preempt pid hr.level

/-- Charging the process in the slot, if it is the one marked. -/
theorem account (h : L.Akin M k k') (marked : Option Pid) :
    Paired (L.Akin M) Eq (Kernel.account marked k) (Kernel.account marked k') := by
  rw [Kernel.account_apply, Kernel.account_apply, h.running]
  split
  · exact .ok h rfl
  · split
    · exact h.charge _
    · exact .ok h rfl

/-- Putting a process into the slot. -/
theorem occupy (h : L.Akin M k k') (pid : Pid) : Paired (L.Akin M) Eq (Kernel.occupy pid k) (Kernel.occupy pid k') := by
  unfold Kernel.occupy
  refine h.require_bind fun r r' _ _ _ => ?_
  refine .bind (h.amend ?_) fun _ _ k k' h _ => ?_
  · exact fun _ _ _ _ hr => { hr with state := rfl, cpuTimeUsed := rfl }
  · refine .modify { h with running := rfl, lastDispatched := rfl, stats := ?_ }
    simp only [h.stats, h.lastDispatched]

/-- Filling an empty slot. -/
theorem dispatch (h : L.Akin M k k') : Paired (L.Akin M) Eq (Kernel.dispatch k) (Kernel.dispatch k') := by
  rw [Kernel.dispatch_apply, Kernel.dispatch_apply]
  rcases QueueLikeness.taken_cases (M.dequeueReady h.queues) with
    ⟨hnone, hnone'⟩ | ⟨pid, q, q', htaken, htaken', hqueues⟩
  · rw [hnone, hnone']
    exact .ok h rfl
  · rw [htaken, htaken']
    have hleft : L.Akin M { k with queues := q } { k' with queues := q' } := { h with queues := hqueues }
    exact hleft.occupy pid

/-- Filling the slot. -/
theorem fillSlot (h : L.Akin M k k') : Paired (L.Akin M) Eq (Kernel.fillSlot k) (Kernel.fillSlot k') := by
  rw [Kernel.fillSlot_apply, Kernel.fillSlot_apply, h.running]
  split
  · exact h.dispatch
  · exact .ok h rfl

/-- The accounting. -/
theorem reschedule (h : L.Akin M k k') : Paired (L.Akin M) Eq (Kernel.reschedule k) (Kernel.reschedule k') := by
  rw [Kernel.reschedule_eq, Kernel.reschedule_eq, h.executed]
  have hunmarked : L.Akin M { k with executed := none } { k' with executed := none } := { h with executed := rfl }
  refine (hunmarked.account _).bind fun _ _ k k' h _ => ?_
  exact h.fillSlot.bind fun _ _ k k' h _ => .ok h h.running

/-! ## Making, waking and ending -/

/-- Making a process of a program that there is. -/
theorem createParsed (h : L.Akin M k k') {priority : Priority} (hlevel : M.level priority) {p q : Program}
    (hp : L.program p q) :
    Paired (L.Akin M) Eq (Kernel.createParsed priority p k) (Kernel.createParsed priority q k') := by
  have hspawn : Paired (L.Akin M) Eq (Kernel.spawn priority p k) (Kernel.spawn priority q k') := by
    unfold Kernel.spawn
    rw [Action.bind_ok (Kernel.file_apply _ k), Action.bind_ok (Kernel.file_apply _ k'), h.nextPid]
    have hrecords : L.Entries M { pid := k'.table.nextPid, priority, startTime := k.clock, context := Machine.start p }
        { pid := k'.table.nextPid, priority, startTime := k'.clock, context := Machine.start q } :=
      ⟨⟨rfl, rfl, rfl, rfl, rfl, h.clock, L.start hp⟩, hlevel⟩
    refine ((h.of_insert hrecords).makeReady _).bind fun _ _ k k' h _ => ?_
    exact h.reschedule.bind fun _ _ k k' h _ => .ok h rfl
  rw [Kernel.createParsed_apply, Kernel.createParsed_apply]
  -- the level is one of both kernels, or both have the same levels
  rcases M.levels h.queues hlevel with ⟨hl, hl'⟩ | heq
  · rw [if_pos hl, if_pos hl']
    exact hspawn
  · rw [heq]
    split
    · exact hspawn
    · exact .error _ h

/-- Making a process of a program, or refusing it. -/
theorem createOrRefuse (h : L.Akin M k k') {priority : Priority} (hlevel : M.level priority)
    {p q : Except Fault Program} (hp : Agree L.program p q) :
    Paired (L.Akin M) Eq (Kernel.createOrRefuse priority p k) (Kernel.createOrRefuse priority q k') := by
  cases hp with
  | ok hp => exact h.createParsed hlevel hp
  | error fault => exact .error _ h

/-- Moving the process that has been blocked the longest to its ready queue. -/
theorem unblock (h : L.Akin M k k') : Paired (L.Akin M) Eq (Kernel.unblock k) (Kernel.unblock k') := by
  rw [Kernel.unblock_apply, Kernel.unblock_apply]
  rcases QueueLikeness.taken_cases (M.dequeueBlocked h.queues) with
    ⟨hnone, hnone'⟩ | ⟨pid, q, q', htaken, htaken', hqueues⟩
  · rw [hnone, hnone']
    exact .ok h rfl
  · rw [htaken, htaken']
    have hleft : L.Akin M { k with queues := q } { k' with queues := q' } := { h with queues := hqueues }
    refine (hleft.makeReady pid).bind fun _ _ k k' h _ => ?_
    exact (h.count _).bind fun _ _ k k' h _ => .ok h rfl

/-- Waking a process. -/
theorem wake (h : L.Akin M k k') : Paired (L.Akin M) Eq (Kernel.wake k) (Kernel.wake k') := by
  unfold Kernel.wake
  refine h.unblock.bind fun woken _ k k' h heq => ?_
  subst heq
  cases woken with
  | none => exact .ok h rfl
  | some pid => exact h.reschedule.bind fun _ _ k k' h _ => .ok h rfl

/-- Ending the running process. -/
theorem finish (h : L.Akin M k k') (pid : Pid) (reason : EndReason) :
    Paired (L.Akin M) L.Outcomes (Kernel.finish pid reason k) (Kernel.finish pid reason k') := by
  unfold Kernel.finish Kernel.terminateRunning
  refine Paired.bind (Q := Eq) ?_ fun _ _ k k' h _ => .ok h (.same _)
  refine h.releaseRunning.bind fun _ _ k k' h _ => ?_
  refine h.require_bind fun _ _ _ _ _ => ?_
  refine .bind (.modify (h.of_erase pid)) fun _ _ k k' h _ => ?_
  refine (h.count _).bind fun _ _ k k' h _ => ?_
  exact h.reschedule.bind fun _ _ k k' h _ => .ok h rfl

/-! ## Steps -/

/-- A process that works goes on with alike contexts. -/
theorem progress (h : L.Akin M k k') {pid : Pid} {f : C → C} {g : D → D}
    (hfg : ∀ r r', k.table.get? pid = some r → k'.table.get? pid = some r' → L.context r.context r'.context →
      L.context (f r.context) (g r'.context)) :
    Paired (L.Akin M) Eq (Kernel.progress pid f k) (Kernel.progress pid g k') := by
  unfold Kernel.progress
  refine h.require_bind fun _ _ _ _ _ => ?_
  refine .bind (h.amend fun r r' hr hr' hrecords => ?_) fun _ _ k k' h _ => h.recordExecution pid
  exact { hrecords with context := hfg r r' hr hr' hrecords.context }

/-- Moving the running process to the blocked queue. -/
theorem blockRunning (h : L.Akin M k k') : Paired (L.Akin M) Eq (Kernel.blockRunning k) (Kernel.blockRunning k') := by
  unfold Kernel.blockRunning
  refine h.releaseRunning.bind fun running _ k k' h heq => ?_
  subst heq
  cases running with
  | none => exact .ok h rfl
  | some pid =>
    refine h.require_bind fun _ _ _ _ _ => ?_
    refine .bind (h.amend ?_) fun _ _ k k' h _ => ?_
    · exact fun _ _ _ _ hr => { hr with state := rfl }
    · refine .bind (.modify ?_) fun _ _ k k' h _ => (h.count _).bind fun _ _ k k' h _ => .ok h rfl
      exact { h with queues := M.enqueueBlocked pid h.queues }

section

variable {pid : Pid} {r : ProcessRecord C} {r' : ProcessRecord D}

/-- The contexts under a number where there is an instruction move on by one alike. -/
theorem advance_context (hr : k.table.get? pid = some r) (hi : (Machine.next? r.context).isSome = true)
    {r₁ : ProcessRecord C} {r₁' : ProcessRecord D} (hr₁ : k.table.get? pid = some r₁)
    (h : L.context r₁.context r₁'.context) :
    L.context (Machine.advance r₁.context) (Machine.advance r₁'.context) := by
  obtain rfl := Option.some.inj (hr.symm.trans hr₁)
  exact L.advance h hi

/-- A block. -/
theorem blockStep (h : L.Akin M k k') (hr : k.table.get? pid = some r) (hi : (Machine.next? r.context).isSome = true) :
    Paired (L.Akin M) L.Outcomes (Kernel.blockStep pid k) (Kernel.blockStep pid k') := by
  unfold Kernel.blockStep
  refine h.require_bind fun _ _ _ _ _ => ?_
  refine .bind (h.amend fun _ _ hr₁ _ hrecords => ?_) fun _ _ k k' h _ => ?_
  · exact { hrecords with context := advance_context hr hi hr₁ hrecords.context }
  · refine h.blockRunning.bind fun _ _ k k' h _ => ?_
    exact h.reschedule.bind fun _ _ k k' h _ => .ok h (.same _)

/-- Arithmetic. -/
theorem compute (h : L.Akin M k k') (hr : k.table.get? pid = some r) (hi : (Machine.next? r.context).isSome = true)
    {i j : Instruction} (hij : L.instruction i j) (harith : i.isArithmetic = true) :
    Paired (L.Akin M) L.Outcomes (Kernel.compute pid i (Machine.compute i) k)
      (Kernel.compute pid j (Machine.compute j) k') := by
  unfold Kernel.compute
  refine (h.progress fun r₁ _ hr₁ _ hcontext => ?_).bind fun _ _ k k' h _ => .ok h (.executed pid hij)
  obtain rfl := Option.some.inj (hr.symm.trans hr₁)
  exact L.compute hcontext hi hij harith

/-- A fork. -/
theorem fork (h : L.Akin M k k') (hr : k.table.get? pid = some r) (hi : (Machine.next? r.context).isSome = true)
    (skip : UInt64) :
    Paired (L.Akin M) Eq (Kernel.fork pid skip k) (Kernel.fork pid skip k') := by
  unfold Kernel.fork
  refine h.require_bind fun parent parent' hparent _ hrecords => ?_
  rw [Action.bind_ok (Kernel.file_apply _ k), Action.bind_ok (Kernel.file_apply _ k'), h.nextPid]
  have hchild : L.Entries M (parent.child pid k'.table.nextPid k.clock) (parent'.child pid k'.table.nextPid k'.clock) :=
    ⟨⟨rfl, rfl, hrecords.priority, rfl, rfl, h.clock, advance_context hr hi hparent hrecords.context⟩, hrecords.level⟩
  refine ((h.of_insert hchild).makeReady _).bind fun _ _ k k' h _ => ?_
  -- where numbers wrapped the child may have taken the place of its parent, so what moves on is whatever is under the
  -- number now
  refine h.require_bind fun _ _ _ _ _ => ?_
  refine .bind (h.amend fun _ _ _ _ hrecords => ?_) fun _ _ k k' h _ => ?_
  · exact { hrecords with context := L.skip skip hrecords.context }
  · refine (h.recordExecution pid).bind fun _ _ k k' h _ => ?_
    exact (h.count _).bind fun _ _ k k' h _ => .ok h rfl

/-- A replacement. -/
theorem replaceProgram (h : L.Akin M k k') {source source' : Source} (hsource : L.Sources source source')
    (hr : k.table.get? pid = some r) (hi : (Machine.next? r.context).isSome = true) (name : String) :
    Paired (L.Akin M) L.Outcomes (Kernel.replaceProgram source pid name k)
      (Kernel.replaceProgram source' pid name k') := by
  have hlines := hsource name
  unfold Kernel.replaceProgram
  generalize source name = found, source' name = found' at hlines
  cases hlines with
  | error fault =>
    refine (h.progress fun _ _ hr₁ _ hcontext => ?_).bind fun _ _ k k' h _ => .ok h (.same _)
    exact advance_context hr hi hr₁ hcontext
  | @ok lines lines' hparse =>
    simp only
    generalize Program.parse lines = parsed, Program.parse lines' = parsed' at hparse
    cases hparse with
    | error fault => exact h.finish pid _
    | ok hprogram =>
      refine (h.progress fun _ _ _ _ hcontext => L.load hprogram hcontext).bind fun _ _ k k' h _ => ?_
      exact (h.count _).bind fun _ _ k k' h _ => .ok h (.same _)

omit [Machine D] in
/-- Arithmetic is executed on the accumulator. -/
theorem execute_of_arithmetic {source : Source} {i : Instruction} (h : i.isArithmetic = true) :
    (Kernel.execute source pid i : Action C StepOutcome) = Kernel.compute pid i (Machine.compute i) := by
  cases i <;> first
    | rfl
    | cases h

/-- Alike instructions. -/
theorem execute (h : L.Akin M k k') {source source' : Source} (hsource : L.Sources source source')
    (hr : k.table.get? pid = some r) {i j : Instruction} (hi : Machine.next? r.context = some i)
    (hij : L.instruction i j) :
    Paired (L.Akin M) L.Outcomes (Kernel.execute source pid i k) (Kernel.execute source' pid j k') := by
  have hsome : (Machine.next? r.context).isSome = true := by rw [hi]; rfl
  have harith : i.isArithmetic = true → j.isArithmetic = true →
      Paired (L.Akin M) L.Outcomes (Kernel.execute source pid i k) (Kernel.execute source' pid j k') := by
    intro hi' hj'
    rw [execute_of_arithmetic hi', execute_of_arithmetic hj']
    exact h.compute hr hsome hij hi'
  rcases L.control hij with rfl | ⟨hi', hj'⟩
  · cases i with
    | block => exact h.blockStep hr hsome
    | exit => exact h.finish pid _
    | fork skip => exact (h.fork hr hsome skip).bind fun child _ k k' h heq => heq ▸ .ok h (.same _)
    | replace name => exact h.replaceProgram hsource hr hsome name
    | _ => exact harith rfl rfl
  · exact harith hi' hj'

end

/-- A step. -/
theorem step (h : L.Akin M k k') {source source' : Source} (hsource : L.Sources source source') :
    Paired (L.Akin M) L.Outcomes (Kernel.step source k) (Kernel.step source' k') := by
  rw [Kernel.step_apply, Kernel.step_apply, h.running]
  cases k'.running with
  | none => exact .ok h (.same _)
  | some pid =>
    rcases h.get?_cases pid with ⟨hr, hr'⟩ | ⟨r, r', hr, hr', hrecords⟩
    · simp only [hr, hr']
      exact .error _ h
    · simp only [hr, hr']
      have hnext := L.next hrecords.context
      generalize hi : Machine.next? r.context = o, Machine.next? r'.context = o' at hnext
      cases hnext with
      | none => exact h.finish pid _
      | some hij => exact h.execute hsource hr hi hij

/-- A tick. -/
theorem tick (h : L.Akin M k k') {source source' : Source} (hsource : L.Sources source source') :
    Paired (L.Akin M) L.Outcomes (Session.tick source k) (Session.tick source' k') := by
  unfold Session.tick
  refine (h.step hsource).bind fun _ _ k k' h houtcome => ?_
  refine h.advanceClock.bind fun _ _ k k' h _ => ?_
  exact h.reschedule.bind fun _ _ k k' h _ => .ok h houtcome

/-! ## Operations -/

/-- Operations that make processes of the same level and of alike programs. -/
theorem perform_making (h : L.Akin M k k') {source source' : Source} {op op' : Operation} {priority : Priority}
    {p q : Except Fault Program} (hop : op.making? source = some (priority, p))
    (hop' : op'.making? source' = some (priority, q)) (hlevel : M.level priority) (hp : Agree L.program p q) :
    Paired (L.Akin M) L.Answers (op.perform source k) (op'.perform source' k') := by
  rw [Kernel.perform_of_making? hop, Kernel.perform_of_making? hop']
  exact (h.createOrRefuse hlevel hp).map fun _ _ heq => heq ▸ .same _

/-- An operation that makes no process. -/
theorem perform_other (h : L.Akin M k k') {source source' : Source} (hsource : L.Sources source source')
    {op : Operation} (hop : op.making? source = none) :
    Paired (L.Akin M) L.Answers (op.perform source k) (op.perform source' k') := by
  cases op with
  | createFrom priority name =>
    simp only [Operation.making?] at hop
    split at hop <;> cases hop
  | step => exact (h.step hsource).map fun _ _ houtcome => .stepped houtcome
  | reschedule => exact h.reschedule.map fun _ _ heq => heq ▸ .same _
  | wake => exact h.wake.map fun _ _ heq => heq ▸ .same _
  | advanceClock => exact h.advanceClock.map fun _ _ htime => .advanced htime
  | _ => cases hop

end Akin

/-! ## The same queues -/

/-- Kernels are alike exactly if they are akin with the same queues. -/
theorem kernels_iff : L.Kernels k k' ↔ L.Akin .same k k' := by
  constructor
  · exact fun h => { h with records := fun pid => rel_mono (h.records pid) fun _ _ hr => ⟨hr, trivial⟩ }
  · exact fun h => { h with records := fun pid => rel_mono (h.records pid) fun _ _ hr => hr.toRecords }

theorem kernels_of_boot {levels : UInt8} (htime : L.time 0 0) (hboot : Kernel.boot levels = .ok k)
    (hboot' : Kernel.boot levels = .ok k') : L.Kernels k k' :=
  kernels_iff.mpr (akin_of_boot htime rfl hboot hboot')

namespace Kernels

theorem paired {x : Action C α} {y : Action D β} (h : L.Kernels k k')
    (hxy : L.Akin .same k k' → Paired (L.Akin .same) Q (x k) (y k')) : Paired L.Kernels Q (x k) (y k') :=
  (hxy (kernels_iff.mp h)).mono (fun _ _ => kernels_iff.mpr) fun _ _ => id

theorem wake (h : L.Kernels k k') : Paired L.Kernels Eq (Kernel.wake k) (Kernel.wake k') := h.paired Akin.wake

theorem tick (h : L.Kernels k k') {source source' : Source} (hsource : L.Sources source source') :
    Paired L.Kernels L.Outcomes (Session.tick source k) (Session.tick source' k') := h.paired (·.tick hsource)

/-- Operations that make processes of the same level and of alike programs. -/
theorem perform_making (h : L.Kernels k k') {source source' : Source} {op op' : Operation} {priority : Priority}
    {p q : Except Fault Program} (hop : op.making? source = some (priority, p))
    (hop' : op'.making? source' = some (priority, q)) (hp : Agree L.program p q) :
    Paired L.Kernels L.Answers (op.perform source k) (op'.perform source' k') :=
  h.paired (·.perform_making hop hop' trivial hp)

/-- An operation that makes no process. -/
theorem perform_other (h : L.Kernels k k') {source source' : Source} (hsource : L.Sources source source')
    {op : Operation} (hop : op.making? source = none) :
    Paired L.Kernels L.Answers (op.perform source k) (op.perform source' k') :=
  h.paired (·.perform_other hsource hop)

end Kernels

end Likeness

end Timeshare
