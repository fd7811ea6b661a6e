import Timeshare.Proofs.Arrivals
import Timeshare.Proofs.Census
import Timeshare.Proofs.Rotation

/-!
# Processes of one level take turns

Where n processes of one level l are made first, and all others are less urgent, they form a line, and the n take
turns of 2 ^ l instructions each, in the order in which they were made, as long as each has only computed
(`Session.round_robin`).
-/

namespace Timeshare

open Exchange

/-! ## The line is formed -/

section

variable {k k' : Kernel Context} {level priority : Priority} {program : Program} {es : List (Event Context)}

/-- What is different when a process of this level and this program has been made, with nothing to charge. -/
structure Kernel.Gains (k : Kernel Context) (level : Priority) (program : Program) (k' : Kernel Context) : Prop where
  record : ∃ r, k'.table.get? k.table.nextPid = some r ∧ r.priority = level ∧ r.cpuTimeUsed = 0 ∧
    r.context = Machine.start program
  others : ∀ pid ≠ k.table.nextPid, k'.table.get? pid = k.table.get? pid
  slot : k'.running = k.running.or (some k.table.nextPid)
  /-- The process is the last one in the line of its level, which may be the slot. -/
  line : k'.running.toList ++ k'.queues.readyAt level = k.running.toList ++ k.queues.readyAt level ++ [k.table.nextPid]
  levels : ∀ l ≠ level, k'.queues.readyAt l = k.queues.readyAt l
  unmarked : k'.executed = none
  preemptions : k'.stats.preemptions = k.stats.preemptions

/-- Making a process, with nothing to charge, does that. -/
theorem Makes.gains (h : Makes k level program es k') (hk : k.Sound) (hmark : k.executed = none) :
    k.Gains level program k' := by
  cases h with
  | @intro r k₁ _ turn hr hmove hsettles =>
    have hbrings : (Event.filed r).Brings k.table.nextPid level := by
      subst hr
      exact .filed _
    have hlengthens := hbrings.lengthens hmove hk.consistent
    have hget : k₁.table.get? k.table.nextPid = some r :=
      (hmove.get? _).trans (if_pos (congrArg ProcessRecord.pid hr).symm)
    subst hr
    have hpath := hsettles.path
    rcases hbrings.settles hmove hsettles hk hmark with ⟨hbusy, rfl⟩ | ⟨hidle, rfl⟩
    · cases hpath
      obtain ⟨p, hrun⟩ := Option.isSome_iff_exists.mp hbusy
      refine ⟨⟨_, hget, rfl, rfl, rfl⟩, hlengthens.others, ?_, ?_, ?_, hsettles.unmarked, hlengthens.preemptions⟩
      · rw [hlengthens.slot, hrun]
        rfl
      · rw [hlengthens.slot, hlengthens.ready, if_pos rfl, List.append_assoc]
      · intro l hl
        rw [hlengthens.ready, if_neg hl]
    · cases hpath with
      | cons hm hrest =>
        cases hrest
        have hseats := hbrings.seats hmove hm hk hidle
        have hseated := (hm.get? k.table.nextPid).trans (if_pos rfl)
        rw [hget] at hseated
        refine ⟨⟨_, hseated, rfl, rfl, rfl⟩, hseats.others, ?_, ?_, ?_, hsettles.unmarked, hseats.preemptions⟩
        · rw [hseats.slot, hidle]
          rfl
        · rw [hseats.slot, hseats.ready, hidle, hk.readyAt_of_idle hidle]
          rfl
        · intro l _
          rw [hseats.ready, hk.readyAt_of_idle hidle]

end

namespace Kernel.Rotates

variable {k k' : Kernel Context} {level priority : Priority} {programs : List Program} {program : Program}

/-- Before the first tick the process in the slot has not been charged. -/
theorem charged_gains (h : k.Rotates level programs 0) (hgains : k.Gains priority program k') {pid : Pid}
    {r : ProcessRecord Context} (hrun : k'.running = some pid) (hr : k'.table.get? pid = some r) :
    r.cpuTimeUsed.toNat = 0 % 2 ^ level.toNat := by
  by_cases hnew : pid = k.table.nextPid
  · subst hnew
    obtain ⟨r', hr', -, hzero, -⟩ := hgains.record
    obtain rfl := Option.some.inj (hr.symm.trans hr')
    rw [hzero, Nat.zero_mod]
    rfl
  · rw [hgains.others pid hnew] at hr
    refine h.charged pid r ?_ hr
    rw [hgains.slot] at hrun
    cases hslot : k.running with
    | none =>
      rw [hslot] at hrun
      exact absurd (Option.some.inj hrun).symm hnew
    | some p =>
      rw [hslot] at hrun
      exact hrun

/-- A process that is made leaves those that there are where they are. -/
theorem shares_gains (h : k.Rotates level programs 0) (hk : k.Sound) (hgains : k.Gains priority program k') :
    k'.Shares level programs 0 := by
  intro j p hj
  obtain ⟨r, hr, hrecord⟩ := h.shares j p hj
  exact ⟨r, (hgains.others _ (hk.numbered.ne_nextPid hr)).trans hr, hrecord⟩

/-- A process of the level that is made next is the last one in the line. -/
theorem gains_own (h : k.Rotates level programs 0) (hk : k.Sound) (hgains : k.Gains level program k')
    (hnext : k.table.nextPid.toNat = programs.length) (hfew : programs.length + 1 < UInt32.size) :
    k'.Rotates level (programs ++ [program]) 0 := by
  have hpid : k.table.nextPid = UInt32.ofNat programs.length := by
    rw [← hnext, UInt32.ofNat_toNat]
  refine ⟨?_, hgains.unmarked, ?_, ?_, ?_, fun pid r hrun hr => h.charged_gains hgains hrun hr, ?_⟩
  · rw [List.length_append]
    exact hfew
  · have hline := h.line
    rw [Nat.zero_div, List.rotate_zero] at hline ⊢
    rw [hgains.line, hline, List.length_append, List.length_singleton, List.range_succ, List.map_append, hpid]
    rfl
  · intro l hl
    rw [hgains.levels l (UInt8.ne_of_lt hl), h.urgent l hl]
  · intro j p hj
    rw [share_zero]
    rcases Nat.lt_or_ge j programs.length with hlt | hge
    · rw [List.getElem?_append_left hlt] at hj
      have hshares := h.shares_gains hk hgains j p hj
      rwa [share_zero] at hshares
    · rw [List.getElem?_append_right hge, List.getElem?_singleton] at hj
      split at hj
      · rename_i hzero
        obtain rfl := Option.some.inj hj
        obtain rfl : j = programs.length := by omega
        obtain ⟨r, hr, hpriority, -, hcontext⟩ := hgains.record
        rw [hpid] at hr
        refine ⟨r, hr, hpriority, ?_⟩
        rw [hcontext]
        exact ⟨rfl, rfl⟩
      · cases hj
  · rw [hgains.preemptions, h.preemptions]

/-- A process that is made at a less urgent level leaves the line as it is, if there is one. -/
theorem gains_other (h : k.Rotates level programs 0) (hk : k.Sound) (hgains : k.Gains priority program k')
    (hlevel : level < priority) (hn : 0 < programs.length) : k'.Rotates level programs 0 := by
  have hslot : k'.running = k.running := by
    rw [hgains.slot, h.running hk hn]
    rfl
  have hready : ∀ l, l ≤ level → k'.queues.readyAt l = k.queues.readyAt l := by
    intro l hl
    refine hgains.levels l (UInt8.ne_of_lt ?_)
    rw [UInt8.lt_iff_toNat_lt] at hlevel ⊢
    exact Nat.lt_of_le_of_lt (UInt8.le_iff_toNat_le.mp hl) hlevel
  refine ⟨h.few, hgains.unmarked, ?_, ?_, h.shares_gains hk hgains,
    fun pid r hrun hr => h.charged_gains hgains hrun hr, ?_⟩
  · rw [hslot, hready level (UInt8.le_refl level), h.line]
  · intro l hl
    rw [hready l (UInt8.le_of_lt hl), h.urgent l hl]
  · rw [hgains.preemptions, h.preemptions]

end Kernel.Rotates

/-- Where nobody is there yet, the line is empty. -/
theorem Kernel.rotates_empty (levels : UInt8) (level : Priority) : (Kernel.empty levels).Rotates level [] 0 where
  few := by decide
  unmarked := rfl
  line := by
    rw [empty, Queues.readyAt_empty]
    rfl
  urgent := by
    intro l _
    exact Queues.readyAt_empty levels l
  shares := by
    intro j program hj
    cases hj
  charged := by
    intro pid r hrun
    cases hrun
  preemptions := by
    rw [Nat.zero_div]
    rfl

/-! ## Every run -/

namespace Session

variable {s : Session} {source : Source} {op : Operation} {level priority : Priority}

/-- A process is made at a level that there is. -/
theorem exchange_making_ok (hs : s.kernel.Sound) {program : Program}
    (hop : op.making? source = some (level, .ok program)) (hlevel : level.toNat < s.kernel.queues.ready.length) :
    ∃ es, Makes s.kernel level program es (s.exchange source (.operation op)).after.kernel ∧
      births [s.exchange source (.operation op)] = 1 := by
  have hexists := (Kernel.lt_levels_iff hs.consistent level).mpr hlevel
  obtain ⟨es, k', hcreate, hmakes⟩ := Kernel.exists_createParsed hs.consistent hs.numbered hexists program
  have hperform : op.perform source s.kernel = .ok (.created s.kernel.table.nextPid) k' := by
    rw [Kernel.perform_of_making? hop]
    exact Action.map_ok hcreate
  rw [exchange_ok (Action.map_ok (onKernel_ok hperform))]
  exact ⟨es, hmakes, rfl⟩

/-- An operation that makes a process makes it, or leaves the kernel as it is. -/
theorem exchange_making_cases (hs : s.kernel.Sound) {program : Except Fault Program}
    (hop : op.making? source = some (priority, program)) :
    (∃ p es, Makes s.kernel priority p es (s.exchange source (.operation op)).after.kernel) ∨
      (s.exchange source (.operation op)).after.kernel = s.kernel := by
  rcases Kernel.perform_making_cases hs.consistent hs.numbered hop with
    ⟨p, es, k', rfl, hperform, hmakes⟩ | ⟨fault, hperform⟩
  · rw [exchange_ok (Action.map_ok (onKernel_ok hperform))]
    exact .inl ⟨p, es, hmakes⟩
  · rw [exchange_error (Action.map_error (onKernel_error hperform))]
    exact .inr rfl

/-- A session that is not shut down carries out a tick. -/
theorem exists_ticks (hs : s.kernel.Sound) (hup : s.shutDown = false) (source : Source) : ∃ outcome es,
    (s.exchange source (.command .tick)).ticked? = some outcome ∧
      (s.exchange source (.command .tick)).after.shutDown = false ∧
      Ticks source s.kernel outcome es (s.exchange source (.command .tick)).after.kernel := by
  obtain ⟨hstays, hticks⟩ := exchange_command (c := .tick) hs hup (by decide)
  obtain ⟨outcome, houtcome⟩ := Option.isSome_iff_exists.mp (hticks.mpr rfl)
  obtain ⟨es, hcourse⟩ := exchange_course source hs (.command .tick)
  exact ⟨outcome, es, houtcome, hstays, hcourse.exists_ticks houtcome⟩

/-- Operations as requests, each with the programs that there are by then. -/
def asking (operations : List (Source × Operation)) : List (Source × Request) :=
  operations.map fun (source, op) => (source, .operation op)

/-- A tick for each of the sources that there are by then. -/
def ticking (sources : List Source) : List (Source × Request) := sources.map fun source => (source, .command .tick)

/-- Processes of the level that are made one after the other form a line. -/
theorem rotates_first {first : List (Source × Operation)} {programs : List Program} (made : List Program)
    (hs : s.kernel.Sound) (hup : s.shutDown = false) (hrotates : s.kernel.Rotates level made 0)
    (hnext : s.kernel.table.nextPid.toNat = made.length) (hlevel : level.toNat < s.kernel.queues.ready.length)
    (hfirst : first.map (fun asked => asked.2.making? asked.1) = programs.map fun program => some (level, .ok program))
    (hroom : s.kernel.table.nextPid.toNat + births (s.exchanges (asking first)) < UInt32.size) :
    (s.after (asking first)).shutDown = false ∧ (s.after (asking first)).kernel.Rotates level (made ++ programs) 0 := by
  induction first generalizing s made programs with
  | nil =>
    obtain rfl := List.map_eq_nil_iff.mp hfirst.symm
    rw [List.append_nil]
    exact ⟨hup, hrotates⟩
  | cons asked first ih =>
    obtain ⟨source, op⟩ := asked
    cases programs with
    | nil => cases hfirst
    | cons program programs =>
      obtain ⟨hop, hrest⟩ := List.cons.inj hfirst
      obtain ⟨es, ht, hroom'⟩ := exists_takes_cons hs source (.operation op) hroom
      obtain ⟨es', hmakes, hborn⟩ := exchange_making_ok hs hop hlevel
      have hnext' := ht.next
      rw [hborn, hnext] at hnext'
      have hfew : made.length + 1 < UInt32.size := by omega
      have hgains := hmakes.gains hs hrotates.unmarked
      have hsome : (op.making? source).isSome = true := Option.isSome_of_mem hop
      rw [List.append_cons]
      refine ih (made ++ [program]) ht.after ((exchange_making hsome).2.2.trans hup)
        (hrotates.gains_own hs hgains hnext hfew) ?_ ?_ hrest hroom'
      · rw [hnext', List.length_append, List.length_singleton]
      · rw [ht.course.path.length_ready hs.consistent]
        exact hlevel

/-- Processes that are made at less urgent levels then leave the line as it is. -/
theorem rotates_others {others : List (Source × Operation)} {programs : List Program} (hs : s.kernel.Sound)
    (hup : s.shutDown = false) (hrotates : s.kernel.Rotates level programs 0) (hn : 0 < programs.length)
    (hothers : ∀ asked ∈ others, ∃ priority program, asked.2.making? asked.1 = some (priority, program) ∧
      level < priority)
    (hroom : s.kernel.table.nextPid.toNat + births (s.exchanges (asking others)) < UInt32.size) :
    (s.after (asking others)).shutDown = false ∧ (s.after (asking others)).kernel.Rotates level programs 0 := by
  induction others generalizing s with
  | nil => exact ⟨hup, hrotates⟩
  | cons asked others ih =>
    obtain ⟨source, op⟩ := asked
    rw [List.forall_mem_cons] at hothers
    obtain ⟨⟨priority, program, hop, hless⟩, hrest⟩ := hothers
    obtain ⟨es, ht, hroom'⟩ := exists_takes_cons hs source (.operation op) hroom
    have hsome : (op.making? source).isSome = true := Option.isSome_of_mem hop
    have hrotates' : (s.exchange source (.operation op)).after.kernel.Rotates level programs 0 := by
      rcases exchange_making_cases hs hop with ⟨p, es', hmakes⟩ | hsame
      · exact hrotates.gains_other hs (hmakes.gains hs hrotates.unmarked) hless hn
      · rw [hsame]
        exact hrotates
    exact ih ht.after ((exchange_making hsome).2.2.trans hup) hrotates' hrest hroom'

section

variable {programs : List Program} {m : Nat}

/-- In ticks the processes of the line take their turns. -/
theorem rotates_ticking (hs : s.kernel.Sound) (hup : s.shutDown = false) (hrotates : s.kernel.Rotates level programs 0)
    (hsize : m * 2 ^ level.toNat < UInt64.size)
    (hcomputes : ∀ program ∈ programs, program.Computes (m * 2 ^ level.toNat)) {sources : List Source}
    (hshort : sources.length ≤ programs.length * m * 2 ^ level.toNat) :
    (s.after (ticking sources)).shutDown = false ∧ (s.after (ticking sources)).kernel.Sound ∧
      (s.after (ticking sources)).kernel.Rotates level programs sources.length := by
  induction sources using List.reverseRecOn with
  | nil => exact ⟨hup, hs, hrotates⟩
  | append_singleton sources source ih =>
    rw [List.length_append, List.length_singleton] at hshort ⊢
    obtain ⟨hup', hs', hrotates'⟩ := ih (by omega)
    obtain ⟨outcome, es, -, hstays, hticks⟩ := exists_ticks hs' hup' source
    obtain ⟨hs'', hrotates'', -⟩ := hrotates'.ticks hs' hsize hcomputes (by omega) hticks
    rw [ticking, List.map_append, after_append]
    exact ⟨hstays, hs'', hrotates''⟩

/-- In a kernel that booted let n processes of a level l be made first, each of a program that begins with m 2 ^ l
instructions that only compute, and then others at less urgent levels, or be refused. For every t < n m 2 ^ l the tick
after t ticks is that of process t / 2 ^ l mod n. It executes the instruction at place t / (n 2 ^ l) * 2 ^ l + t mod 2
^ l of the program, and t / 2 ^ l processes have been preempted by then. Places are 64-bit words, so the instructions
are fewer than 2 ^ 64. -/
theorem round_robin {levels : UInt8} {k : Kernel Context} (hboot : Kernel.boot levels = .ok k) (hlevel : level < levels)
    {first others : List (Source × Operation)}
    (hfirst : first.map (fun asked => asked.2.making? asked.1) = programs.map fun program => some (level, .ok program))
    (hothers : ∀ asked ∈ others, ∃ priority program, asked.2.making? asked.1 = some (priority, program) ∧
      level < priority)
    (hcomputes : ∀ program ∈ programs, program.Computes (m * 2 ^ level.toNat))
    (hsize : m * 2 ^ level.toNat < UInt64.size)
    (hroom : births (exchanges { kernel := k } (asking (first ++ others))) < UInt32.size) {t : Nat}
    (ht : t < programs.length * m * 2 ^ level.toNat) {sources : List Source} (hsources : sources.length = t)
    (source : Source) :
    ∃ program outcome, programs[t / 2 ^ level.toNat % programs.length]? = some program ∧
      ((after { kernel := k } (asking (first ++ others) ++ ticking sources)).exchange source (.command .tick)).ticked?
        = some outcome ∧
      (after { kernel := k } (asking (first ++ others) ++ ticking sources)).kernel.ExecutesAt
        (UInt32.ofNat (t / 2 ^ level.toNat % programs.length)) program
        (t / (programs.length * 2 ^ level.toNat) * 2 ^ level.toNat + t % 2 ^ level.toNat) outcome ∧
      (after { kernel := k } (asking (first ++ others) ++ ticking sources)).kernel.stats.preemptions =
        UInt64.ofNat (t / 2 ^ level.toNat) := by
  subst hsources
  have hn := pos_of_lt_rounds ht
  have hasked : asking (first ++ others) = asking first ++ asking others := List.map_append
  rw [hasked] at hroom ⊢
  have hboth := hroom
  rw [exchanges_append, births_append] at hboth
  have hnone := toNat_nextPid_of_boot hboot
  have hcount : level.toNat < k.queues.ready.length := by
    rw [(Kernel.boot_eq_ok_iff.mp hboot).2]
    exact (UInt8.lt_iff_toNat_lt.mp hlevel).trans_eq List.length_replicate.symm
  have hempty : k.Rotates level [] 0 := by
    rw [(Kernel.boot_eq_ok_iff.mp hboot).2]
    exact Kernel.rotates_empty levels level
  obtain ⟨hup₁, hrotates₁⟩ := rotates_first (s := { kernel := k }) [] (Kernel.sound_of_boot hboot) rfl hempty hnone
    hcount hfirst (by rw [hnone]; omega)
  obtain ⟨hs₁, hnext₁⟩ := sound_after hboot (by omega : births (exchanges { kernel := k } (asking first)) < UInt32.size)
  obtain ⟨hup₂, hrotates₂⟩ := rotates_others hs₁ hup₁ hrotates₁ hn hothers (by rw [hnext₁]; exact hboth)
  rw [← after_append] at hup₂ hrotates₂
  obtain ⟨hup, hs, hrotates⟩ :=
    rotates_ticking (sound_after hboot hroom).1 hup₂ hrotates₂ hsize hcomputes (Nat.le_of_lt ht)
  rw [← after_append] at hup hs hrotates
  obtain ⟨outcome, es, houtcome, -, hticks⟩ := exists_ticks hs hup source
  obtain ⟨-, -, program, hprogram, hexecutes⟩ := hrotates.ticks hs hsize hcomputes ht hticks
  exact ⟨program, outcome, hprogram, houtcome, hexecutes, hrotates.preemptions⟩

end

/-- Programs of two turns of two instructions. -/
def turnSample : List Program := [[.set 1, .add 2, .sub 3, .add 4], [.set 5, .set 6, .add 7, .sub 8, .exit]]

/-- Operations that make a process of each at level 1. -/
def firstSample : List (Source × Operation) := turnSample.map fun program => (Source.empty, .createParsed 1 program)

/-- Operations that make a process at a less urgent level, and fail to make one. -/
def otherSample : List (Source × Operation) :=
  [(Source.empty, .createParsed 2 [.exit]), (Source.empty, .create 2 ["S x"])]

/-- In the sample the sixth tick is the second one of the second turn of the first process. -/
theorem round_robin_sample :
    Kernel.boot 3 = .ok (Kernel.empty 3 : Kernel Context) ∧
      firstSample.map (fun asked => asked.2.making? asked.1) = turnSample.map (fun program => some (1, .ok program)) ∧
      (∀ asked ∈ otherSample, ∃ priority program, asked.2.making? asked.1 = some (priority, program) ∧ 1 < priority) ∧
      (∀ program ∈ turnSample, program.Computes (2 * 2 ^ (1 : Priority).toNat)) ∧
      births (exchanges { kernel := Kernel.empty 3 } (asking (firstSample ++ otherSample))) < UInt32.size ∧
      ∃ outcome, ((after { kernel := Kernel.empty 3 } (asking (firstSample ++ otherSample) ++
          ticking (List.replicate 5 Source.empty))).exchange Source.empty (.command .tick)).ticked? = some outcome ∧
        (after { kernel := Kernel.empty 3 } (asking (firstSample ++ otherSample) ++
          ticking (List.replicate 5 Source.empty))).kernel.ExecutesAt 0 [.set 1, .add 2, .sub 3, .add 4] 3 outcome := by
  have hboot : Kernel.boot 3 = .ok (Kernel.empty 3 : Kernel Context) := rfl
  have hfirst :
    firstSample.map (fun asked => asked.2.making? asked.1) =
      turnSample.map (fun program => some (1, .ok program)) := rfl
  have hothers : ∀ asked ∈ otherSample, ∃ priority program, asked.2.making? asked.1 = some (priority, program) ∧
      1 < priority := by
    intro asked hasked
    fin_cases hasked
    · exact ⟨2, _, rfl, by decide⟩
    · exact ⟨2, _, rfl, by decide⟩
  have hcomputes : ∀ program ∈ turnSample, program.Computes (2 * 2 ^ (1 : Priority).toNat) := by
    unfold Program.Computes
    decide
  have hroom : births (exchanges { kernel := Kernel.empty 3 } (asking (firstSample ++ otherSample))) < UInt32.size := by
    decide +kernel
  obtain ⟨program, outcome, hprogram, houtcome, hexecutes, -⟩ :=
    round_robin hboot (by decide) hfirst hothers hcomputes (by decide) hroom
      (by decide : 5 < turnSample.length * 2 * 2 ^ (1 : Priority).toNat)
      (List.length_replicate : (List.replicate 5 Source.empty).length = 5) Source.empty
  obtain rfl := Option.some.inj hprogram
  exact ⟨hboot, hfirst, hothers, hcomputes, hroom, outcome, houtcome, hexecutes⟩

end Session

end Timeshare
