import Timeshare.Proofs.TickFrame

/-!
# Turns of processes of one level

Processes of one level of which each only computes take turns in the slot: the line that the slot and the ready queue
of the level form stays as it is within a turn, and is rotated by one place at its end (`Kernel.Rotates.ticks`).
-/

namespace Timeshare

open Exchange

/-! ## Turns -/

/-- How many of the first t steps are those of the j-th of n processes that take turns of w steps each. -/
def share (n w j t : Nat) : Nat := t / (n * w) * w + min w (t % (n * w) - j * w)

/-- A step is within a turn, or it is the last one of its turn. -/
theorem turn_cases {w : Nat} (hw : 0 < w) (t : Nat) : (t % w + 1 < w ∧ (t + 1) / w = t / w ∧ (t + 1) % w = t % w + 1) ∨
    (t % w + 1 = w ∧ (t + 1) / w = t / w + 1 ∧ (t + 1) % w = 0) := by
  have hmod := Nat.mod_lt t hw
  have hdiv := Nat.div_add_mod t w
  by_cases hlast : t % w + 1 < w
  · refine .inl ⟨hlast, (Nat.div_mod_unique hw).mpr ⟨?_, hlast⟩⟩
    omega
  · refine .inr ⟨by omega, (Nat.div_mod_unique hw).mpr ⟨?_, hw⟩⟩
    rw [Nat.mul_add, Nat.mul_one]
    omega

theorem share_zero (n w j : Nat) : share n w j 0 = 0 := by
  simp [share]

/-- The step after the first t is that of the process whose turn it is. -/
theorem share_succ {n w j : Nat} (hw : 0 < w) (hj : j < n) (t : Nat) :
    share n w j (t + 1) = share n w j t + if t / w % n = j then 1 else 0 := by
  have hplace : j * w + w ≤ n * w := by
    rw [← Nat.succ_mul]
    exact Nat.mul_le_mul_right w hj
  have hturn : t / w % n = j ↔ j * w ≤ t % (n * w) ∧ t % (n * w) < j * w + w := by
    rw [← Nat.mod_mul_right_div_self, Nat.mul_comm w n, Nat.div_eq_iff hw]
    omega
  have hround : 0 < n * w := by omega
  unfold share
  simp only [hturn]
  rcases turn_cases hround t with ⟨hlt, hdiv, hmod⟩ | ⟨hlast, hdiv, hmod⟩
  · rw [hdiv, hmod]
    split <;> omega
  · rw [hdiv, hmod, Nat.add_mul, Nat.one_mul]
    split <;> omega

/-- The process whose turn it is has had its turns of the rounds before, and the steps of this turn. -/
theorem share_self {n w : Nat} (hw : 0 < w) (t : Nat) : share n w (t / w % n) t = t / (n * w) * w + t % w := by
  have hplace : t % (n * w) - t / w % n * w = t % w := by
    rw [← Nat.mod_mul_right_div_self, Nat.mul_comm w n, ← Nat.mod_mul_left_mod t n w]
    have hdiv := Nat.div_add_mod (t % (n * w)) w
    rw [Nat.mul_comm] at hdiv
    omega
  rw [share, hplace, Nat.min_eq_right (Nat.le_of_lt (Nat.mod_lt t hw))]

/-- In m rounds it has had fewer than m turns. -/
theorem share_lt {n m w t : Nat} (hw : 0 < w) (ht : t < n * m * w) : t / (n * w) * w + t % w < m * w := by
  have hrounds : t / (n * w) < m := by
    refine Nat.div_lt_of_lt_mul ?_
    rw [Nat.mul_right_comm]
    exact ht
  have hmod := Nat.mod_lt t hw
  have hle := Nat.mul_le_mul_right w hrounds
  rw [Nat.succ_mul] at hle
  omega

/-- Where there is a step in rounds of turns there is somebody to take it. -/
theorem pos_of_lt_rounds {n m w t : Nat} (ht : t < n * m * w) : 0 < n := by
  refine Nat.pos_of_ne_zero fun hzero => ?_
  rw [hzero, Nat.zero_mul, Nat.zero_mul] at ht
  exact Nat.not_lt_zero _ ht

/-! ## What only computes -/

/-- The first so many instructions of the program are there, and they only compute. -/
def Program.Computes (program : Program) (count : Nat) : Prop :=
  count ≤ program.length ∧ ∀ i ∈ program.take count, i.isArithmetic = true

/-- Each of them works on the accumulator. -/
theorem Program.Computes.exists_instruction {program : Program} {count place : Nat} (h : program.Computes count)
    (hplace : place < count) : ∃ i, program[place]? = some i ∧ i.isArithmetic = true := by
  have hlt : place < program.length := Nat.lt_of_lt_of_le hplace h.1
  refine ⟨program[place], List.getElem?_eq_getElem hlt, h.2 _ ?_⟩
  rw [List.mem_take_iff_getElem]
  exact ⟨place, Nat.lt_min.mpr ⟨hplace, hlt⟩, rfl⟩

/-- What a process that only computes does next, and what it makes of its context. -/
theorem Context.outcome_of_arithmetic {c : Context} {i : Instruction} (hi : c.program[c.programCounter.toNat]? = some i)
    (harith : i.isArithmetic = true) (source : Source) (pid child : Pid) :
    c.outcome source pid child = .executed pid i ∧
      ∃ c', c.alone source = .ok c' ∧ c'.program = c.program ∧ c'.programCounter = c.programCounter + 1 := by
  unfold Context.outcome Context.alone
  rw [hi]
  cases i with
  | set | add | sub => exact ⟨rfl, _, rfl, rfl, rfl⟩
  | _ => cases harith

theorem ProcessRecord.lasts_iff {r : ProcessRecord Context} (hwithin : r.cpuTimeUsed < quantum r.priority)
    (hlevel : r.priority.toNat < 32) : r.lasts = true ↔ r.cpuTimeUsed.toNat + 1 < 2 ^ r.priority.toNat := by
  rw [lasts, decide_eq_true_iff, UInt32.lt_iff_toNat_lt, Session.Takes.toNat_succ_of_lt hwithin, toNat_quantum hlevel]

/-! ## What a tick in which a process computes does to the line -/

namespace Kernel.TickFrame

variable {source : Source} {k k' : Kernel Context} {r : ProcessRecord Context} {i : Instruction}
    {d : Option (Pid × Priority)}

/-- A process whose quantum lasts stays in the slot, and nobody joins or leaves a ready queue. -/
theorem goes_on (h : k.TickFrame source r (.executed r.pid i) d k') (hlasts : r.lasts = true) :
    d = none ∧ k'.running = some r.pid ∧ (∀ l, k'.queues.readyAt l = k.queues.readyAt l) ∧
      k'.stats.preemptions = k.stats.preemptions := by
  obtain rfl := h.stays r.pid rfl hlasts
  refine ⟨rfl, ?_, ?_, ?_⟩
  · rw [h.slot, hlasts]
    rfl
  · intro l
    have hready := h.ready l
    simp only [StepOutcome.worked?, StepOutcome.child?, Option.filter_some, hlasts] at hready
    simpa [atLevel] using hready.symm
  · rw [h.preempted, hlasts]
    exact UInt64.add_zero _

/-- Where nobody more urgent waits, a process whose quantum is over joins the tail of its level, and the slot goes to
the head of the level. -/
theorem gives_way (h : k.TickFrame source r (.executed r.pid i) d k') (hlasts : r.lasts = false)
    (hurgent : ∀ l < r.priority, k.queues.readyAt l = []) (hk' : k'.Sound) :
    ∃ p, d = some (p, r.priority) ∧ k'.running = some p ∧
      k.queues.readyAt r.priority ++ [r.pid] = p :: k'.queues.readyAt r.priority ∧
      (∀ l < r.priority, k'.queues.readyAt l = []) ∧ k'.stats.preemptions = k.stats.preemptions + 1 := by
  have hslot : k'.running = d.map Prod.fst := by
    rw [h.slot, hlasts]
    rfl
  have hready : ∀ l, k.queues.readyAt l ++ (if l = r.priority then [r.pid] else []) =
      atLevel l d.toList ++ k'.queues.readyAt l := by
    intro l
    rw [← h.ready l, hlasts]
    rfl
  have hself := hready r.priority
  rw [if_pos rfl] at hself
  cases d with
  | none =>
    -- the process waits now, so the slot cannot stay empty
    have hsame : k.queues.readyAt r.priority ++ [r.pid] = k'.queues.readyAt r.priority := hself
    rw [hk'.readyAt_of_idle hslot, List.append_eq_nil_iff] at hsame
    cases hsame.2
  | some taken =>
    obtain ⟨p, level⟩ := taken
    -- nobody who is more urgent waited, and nobody who is less urgent is taken while the process waits
    have hlevel : level = r.priority := by
      refine UInt8.le_antisymm (UInt8.not_lt.mp fun hgt => ?_) (UInt8.not_lt.mp fun hlt => ?_)
      · rw [h.urgent p level rfl _ hgt, List.append_nil] at hself
        simp [atLevel, (UInt8.ne_of_lt hgt).symm] at hself
      · have hnone := hready level
        rw [hurgent level hlt, if_neg (UInt8.ne_of_lt hlt)] at hnone
        simp [atLevel] at hnone
    subst hlevel
    refine ⟨p, rfl, hslot, ?_, h.urgent p r.priority rfl, ?_⟩
    · rw [hself]
      simp [atLevel]
    · rw [h.preempted, hlasts]
      rfl

end Kernel.TickFrame

/-! ## The line -/

/-- The processes of the level that were made first, one for each of these programs, are where their shares of t steps
lead to. -/
def Kernel.Shares (level : Priority) (programs : List Program) (t : Nat) (k : Kernel Context) : Prop :=
  ∀ j program, programs[j]? = some program → ∃ r, k.table.get? (UInt32.ofNat j) = some r ∧ r.priority = level ∧
    r.context.program = program ∧ r.context.programCounter.toNat = share programs.length (2 ^ level.toNat) j t

/-- The t steps that the processes of these programs have done at their level were turns of 2 ^ level each: the line
that the slot and the ready queue of the level form is the one in which they were made, rotated by one place for each
turn that is over. -/
structure Kernel.Rotates (level : Priority) (programs : List Program) (t : Nat) (k : Kernel Context) : Prop where
  few : programs.length < UInt32.size
  unmarked : k.executed = none
  line : k.running.toList ++ k.queues.readyAt level =
    ((List.range programs.length).map UInt32.ofNat).rotate (t / 2 ^ level.toNat)
  urgent : ∀ l < level, k.queues.readyAt l = []
  shares : k.Shares level programs t
  charged : ∀ pid r, k.running = some pid → k.table.get? pid = some r → r.cpuTimeUsed.toNat = t % 2 ^ level.toNat
  preemptions : k.stats.preemptions = UInt64.ofNat (t / 2 ^ level.toNat)

/-- A tick of this outcome executes the instruction at this place of this program, which the process of this number
runs. -/
def Kernel.ExecutesAt (k : Kernel Context) (pid : Pid) (program : Program) (place : Nat)
    (outcome : StepOutcome) : Prop :=
  ∃ c i, k.contextOf pid = some c ∧ c.program = program ∧ c.programCounter.toNat = place ∧ program[place]? = some i ∧
    outcome = .executed pid i

namespace Kernel.Rotates

variable {source : Source} {k k' : Kernel Context} {level : Priority} {programs : List Program} {t : Nat}
    {outcome : StepOutcome}
  {es : List (Event Context)}

/-- Processes of the level that are not the same have not the same number. -/
theorem eq_of_ofNat_eq (h : k.Rotates level programs t) {i j : Nat} (hi : i < programs.length)
    (hj : j < programs.length) (heq : UInt32.ofNat i = UInt32.ofNat j) : i = j := by
  have hfew := h.few
  have hnat := congrArg UInt32.toNat heq
  rwa [UInt32.toNat_ofNat_of_lt' (by omega), UInt32.toNat_ofNat_of_lt' (by omega)] at hnat

/-- The process whose turn it is is in the slot. -/
theorem running (h : k.Rotates level programs t) (hk : k.Sound) (hn : 0 < programs.length) :
    k.running = some (UInt32.ofNat (t / 2 ^ level.toNat % programs.length)) := by
  have hmod := Nat.mod_lt (t / 2 ^ level.toNat) hn
  have hhead : (k.running.toList ++ k.queues.readyAt level).head? =
      some (UInt32.ofNat (t / 2 ^ level.toNat % programs.length)) := by
    rw [h.line, ← List.rotate_mod, List.length_map, List.length_range, List.head?_rotate (by simpa using hmod)]
    simp [hmod]
  cases hrun : k.running with
  | some pid =>
    rw [hrun] at hhead
    exact hhead
  | none =>
    -- nobody waits for an empty slot
    rw [hrun, hk.readyAt_of_idle hrun] at hhead
    cases hhead

/-- The process whose turn it is, and its next instruction, which only computes. -/
theorem exists_turn (h : k.Rotates level programs t) {m : Nat}
    (hcomputes : ∀ program ∈ programs, program.Computes (m * 2 ^ level.toNat))
    (ht : t < programs.length * m * 2 ^ level.toNat) : ∃ program i r,
      programs[t / 2 ^ level.toNat % programs.length]? = some program ∧ i.isArithmetic = true ∧
      program[t / (programs.length * 2 ^ level.toNat) * 2 ^ level.toNat + t % 2 ^ level.toNat]? = some i ∧
      k.table.get? (UInt32.ofNat (t / 2 ^ level.toNat % programs.length)) = some r ∧ r.priority = level ∧
        r.context.program = program ∧
      r.context.programCounter.toNat = t / (programs.length * 2 ^ level.toNat) * 2 ^ level.toNat + t % 2 ^ level.toNat ∧
      r.context.program[r.context.programCounter.toNat]? = some i := by
  have hw := Nat.two_pow_pos level.toNat
  have hmod := Nat.mod_lt (t / 2 ^ level.toNat) (pos_of_lt_rounds ht)
  have hprogram := List.getElem?_eq_getElem hmod
  obtain ⟨i, hi, harith⟩ := (hcomputes _ (List.getElem_mem hmod)).exists_instruction (share_lt hw ht)
  obtain ⟨r, hr, hpriority, hruns, hplace⟩ := h.shares _ _ hprogram
  rw [share_self hw] at hplace
  refine ⟨_, i, r, hprogram, harith, hi, hr, hpriority, hruns, hplace, ?_⟩
  rw [hruns, hplace]
  exact hi

variable {r : ProcessRecord Context} {i : Instruction} {d : Option (Pid × Priority)}

/-- In a tick the process whose turn it is moves on by one instruction, and nobody else does. -/
theorem shares_succ (h : k.Rotates level programs t) (hframe : k.TickFrame source r (.executed r.pid i) d k')
    (hpid : r.pid = UInt32.ofNat (t / 2 ^ level.toNat % programs.length)) (hr : k.table.get? r.pid = some r)
    (hi : r.context.program[r.context.programCounter.toNat]? = some i) (harith : i.isArithmetic = true)
    (hroom : r.context.programCounter.toNat + 1 < UInt64.size) :
    k'.Shares level programs (t + 1) := by
  intro j program hj
  have hlt : j < programs.length := (List.getElem?_eq_some_iff.mp hj).1
  obtain ⟨r₁, hr₁, hpriority, hruns, hplace⟩ := h.shares j program hj
  rw [share_succ (Nat.two_pow_pos _) hlt t]
  by_cases hturn : t / 2 ^ level.toNat % programs.length = j
  · subst hturn
    rw [← hpid] at hr₁ ⊢
    obtain rfl := Option.some.inj (hr.symm.trans hr₁)
    obtain ⟨-, c, halone, hprogram, hcounter⟩ := Context.outcome_of_arithmetic hi harith source r.pid k.table.nextPid
    obtain ⟨r', hspent, hpriority', hcontext⟩ := ProcessRecord.exists_spent halone
    have hself := hframe.self
    rw [hspent, Option.map_some] at hself
    refine ⟨_, hself, ?_, ?_, ?_⟩
    · rw [ProcessRecord.priority_seat, hpriority', hpriority]
    · rw [ProcessRecord.context_seat, hcontext, hprogram, hruns]
    · have hone : (1 : UInt64).toNat = 1 := rfl
      rw [ProcessRecord.context_seat, hcontext, hcounter, UInt64.toNat_add, hone, Nat.mod_eq_of_lt hroom, hplace,
        if_pos rfl]
  · have hne : UInt32.ofNat j ≠ r.pid := by
      rw [hpid]
      intro heq
      exact hturn (h.eq_of_ofNat_eq hlt (Nat.mod_lt _ (Nat.zero_lt_of_lt hlt)) heq).symm
    have hother := hframe.others _ hne (fun hchild => by cases hchild)
    rw [hr₁, Option.map_some] at hother
    refine ⟨_, hother, ?_, ?_, ?_⟩
    · rw [ProcessRecord.priority_seat, hpriority]
    · rw [ProcessRecord.context_seat, hruns]
    · rw [ProcessRecord.context_seat, hplace, if_neg hturn, Nat.add_zero]

/-- A tick within a turn charges the process whose turn it is, and leaves the line as it is. -/
theorem within_turn (h : k.Rotates level programs t) (hframe : k.TickFrame source r (.executed r.pid i) d k')
    (hrun : k.running = some r.pid) (hr : k.table.get? r.pid = some r)
    (hi : r.context.program[r.context.programCounter.toNat]? = some i) (harith : i.isArithmetic = true)
    (hlasts : r.lasts = true) (hdiv : (t + 1) / 2 ^ level.toNat = t / 2 ^ level.toNat)
    (hmod : (t + 1) % 2 ^ level.toNat = t % 2 ^ level.toNat + 1) (hwithin : r.cpuTimeUsed < quantum r.priority)
    (hmark : k'.executed = none)
    (hshares : k'.Shares level programs (t + 1)) :
    k'.Rotates level programs (t + 1) := by
  obtain ⟨rfl, hrun', hready, hpreempted⟩ := hframe.goes_on hlasts
  refine ⟨h.few, hmark, ?_, fun l hl => (hready l).trans (h.urgent l hl), hshares, ?_, ?_⟩
  · rw [hdiv, ← h.line, hrun', hrun, hready]
  · intro pid r' hpid hr'
    obtain rfl := Option.some.inj (hrun'.symm.trans hpid)
    obtain ⟨-, c, halone, -, -⟩ := Context.outcome_of_arithmetic hi harith source r.pid k.table.nextPid
    have hblock : ¬r.context.program[r.context.programCounter.toNat]? = some .block := by
      rw [hi]
      rintro ⟨⟩
      cases harith
    have hself := hframe.self
    rw [Option.map_none, ProcessRecord.map_seat_none, hr', ProcessRecord.spent, halone] at hself
    simp only [if_neg hblock, hlasts, if_true] at hself
    obtain rfl := Option.some.inj hself
    rw [hmod, Session.Takes.toNat_succ_of_lt hwithin, h.charged r.pid r hrun hr]
  · rw [hdiv, hpreempted, h.preemptions]

/-- The last tick of a turn rotates the line by one place. -/
theorem end_turn (h : k.Rotates level programs t) (hframe : k.TickFrame source r (.executed r.pid i) d k')
    (hrun : k.running = some r.pid) (hpriority : r.priority = level) (hlasts : r.lasts = false)
    (hdiv : (t + 1) / 2 ^ level.toNat = t / 2 ^ level.toNat + 1) (hmod : (t + 1) % 2 ^ level.toNat = 0)
    (hk : k.Consistent) (hk' : k'.Sound) (hmark : k'.executed = none)
    (hshares : k'.Shares level programs (t + 1)) :
    k'.Rotates level programs (t + 1) := by
  subst hpriority
  obtain ⟨p, rfl, hrun', hready, hurgent, hpreempted⟩ := hframe.gives_way hlasts h.urgent hk'
  refine ⟨h.few, hmark, ?_, hurgent, hshares, ?_, ?_⟩
  · calc k'.running.toList ++ k'.queues.readyAt r.priority
        = k.queues.readyAt r.priority ++ [r.pid] := by rw [hrun', hready]; rfl
      _ = (k.running.toList ++ k.queues.readyAt r.priority).rotate 1 := by
        rw [hrun, Option.toList_some, List.singleton_append, List.rotate_cons_succ, List.rotate_zero]
      _ = _ := by rw [h.line, List.rotate_rotate, hdiv]
  · intro pid r' hpid hr'
    obtain rfl := Option.some.inj (hrun'.symm.trans hpid)
    rw [hframe.uncharged hk hr', hmod]
    rfl
  · rw [hdiv, hpreempted, h.preemptions, UInt64.ofNat_add]
    rfl

/-- In every tick of the rounds the process whose turn it is executes its next instruction, and the turns go on. -/
theorem ticks (h : k.Rotates level programs t) (hk : k.Sound) {m : Nat} (hsize : m * 2 ^ level.toNat < UInt64.size)
    (hcomputes : ∀ program ∈ programs, program.Computes (m * 2 ^ level.toNat))
    (ht : t < programs.length * m * 2 ^ level.toNat) (hticks : Ticks source k outcome es k') :
    k'.Sound ∧ k'.Rotates level programs (t + 1) ∧
      ∃ program, programs[t / 2 ^ level.toNat % programs.length]? = some program ∧
        k.ExecutesAt (UInt32.ofNat (t / 2 ^ level.toNat % programs.length)) program
          (t / (programs.length * 2 ^ level.toNat) * 2 ^ level.toNat + t % 2 ^ level.toNat) outcome := by
  have hw := Nat.two_pow_pos level.toNat
  obtain ⟨program, i, r, hprogram, harith, hi, hr, hpriority, hruns, hplace, hnext⟩ := h.exists_turn hcomputes ht
  have hrun := h.running hk (Nat.zero_lt_of_lt (List.getElem?_eq_some_iff.mp hprogram).1)
  obtain ⟨r', d, hr', hpid, hframe⟩ := hticks.exists_frame hk hrun
  obtain rfl := Option.some.inj (hr.symm.trans hr')
  have houtcome := hframe.does.trans (Context.outcome_of_arithmetic hnext harith source _ _).1
  subst houtcome
  have hcourse : Course source k (.command .tick) (.ok (.replied (.ticked (.executed r.pid i)))) es k' := .ticked hticks
  have hk' : k'.Sound := by
    refine hcourse.sound hk ?_
    rw [hcourse.born]
    exact k.table.nextPid.toNat_lt
  have hmark : k'.executed = none := hcourse.unmarked rfl h.unmarked
  have hplaces := share_lt hw ht
  rw [← hpid] at hr hrun
  have hshares := h.shares_succ hframe hpid hr hnext harith (by omega)
  have hcharge : k.chargeOf r.pid = some (r.priority, r.cpuTimeUsed) := by
    rw [Kernel.chargeOf, hr]
    rfl
  obtain ⟨hwithin, hlevel⟩ := hk.consistent.charge_within hcharge
  have hlasts := ProcessRecord.lasts_iff hwithin (Nat.lt_trans hlevel (by decide))
  rw [h.charged r.pid r hrun hr, hpriority] at hlasts
  refine ⟨hk', ?_, program, hprogram, r.context, i, ?_, hruns, hplace, hi, congrArg (StepOutcome.executed · i) hpid⟩
  · rcases turn_cases hw t with ⟨hlt, hdiv, hmod⟩ | ⟨hlast, hdiv, hmod⟩
    · exact h.within_turn hframe hrun hr hnext harith (hlasts.mpr hlt) hdiv hmod hwithin hmark hshares
    · have hover : r.lasts = false := Bool.eq_false_iff.mpr fun hlt => by
        have := hlasts.mp hlt
        omega
      exact h.end_turn hframe hrun hpriority hover hdiv hmod hk.consistent hk' hmark hshares
  · rw [Kernel.contextOf, ← hpid, hr]
    rfl

end Kernel.Rotates

end Timeshare
