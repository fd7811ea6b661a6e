import Timeshare.Proofs.Isolation

/-!
# The work that is left

A process that never starts another program takes a number of steps that can be told from its program and its place
(`Program.work`), if the steps of the children that it forks from there are counted with its own. Every step does one
of the steps that are left to all processes together, and nothing else that can happen in a kernel changes their
number (`Steps.remaining`).
-/

namespace Timeshare

/-! ## The work of a program -/

namespace Program

/-- The steps that a process takes from a place of its program on, with those of all children that it forks from
there, as long as no program is loaded in place of it. -/
def work (source : Source) (program : Program) (place : Nat) : Nat :=
  match h : program[place]? with
  | none | some .exit => 1
  | some (.set _) | some (.add _) | some (.sub _) | some .block => 1 + work source program (place + 1)
  | some (.fork skip) => 1 + work source program (place + 1) + work source program (place + skip.toNat + 1)
  | some (.replace name) =>
    match source name with
    | .error _ => 1 + work source program (place + 1)
    | .ok _ => 1
termination_by program.length - place
decreasing_by
  all_goals
    have := (List.getElem?_eq_some_iff.mp h).1
    omega

/-- No program that this one names can start: it is not there, or its lines hold no program. And the places of this
one are words, as those of every program are that fits into memory. -/
structure SelfContained (source : Source) (program : Program) : Prop where
  short : program.length < UInt64.size
  alone : ∀ name lines other, .replace name ∈ program → source name = .ok lines → Program.parse lines ≠ .ok other

variable {source : Source} {program : Program} {place : Nat}

/-- The work from a place on is decided by the instruction there. -/
theorem work_eq (source : Source) (program : Program) (place : Nat) : program.work source place =
    match program[place]? with
    | none | some .exit => 1
    | some (.set _) | some (.add _) | some (.sub _) | some .block => 1 + program.work source (place + 1)
    | some (.fork skip) => 1 + program.work source (place + 1) + program.work source (place + skip.toNat + 1)
    | some (.replace name) =>
      match source name with
      | .error _ => 1 + program.work source (place + 1)
      | .ok _ => 1 := by
  rw [work]
  split <;> rename_i h <;> rw [h]

theorem work_of_le (h : program.length ≤ place) : program.work source place = 1 := by
  rw [work_eq, List.getElem?_eq_none h]

/-- A process takes at least one step. -/
theorem work_pos : 0 < program.work source place := by
  rw [work_eq]
  split
  case h_8 => split <;> positivity
  all_goals positivity

end Program

/-! ## The work of a process -/

namespace Context

/-- The steps that are left to a process with this context, and to the children that it is to fork. -/
def work (source : Source) (c : Context) : Nat := c.program.work source c.programCounter.toNat

variable {source : Source} {c : Context}

/-- A place in a program that is not too long is followed by the next one. -/
theorem work_advance (hshort : c.program.length < UInt64.size) {i : Instruction} (hi : c.next? = some i) :
    work source (Machine.advance c) = c.program.work source (c.programCounter.toNat + 1) := by
  have hlt : c.programCounter.toNat < c.program.length := (List.getElem?_eq_some_iff.mp hi).1
  have hsize : UInt64.size = 2 ^ 64 := rfl
  have hplace : (c.programCounter + 1).toNat = c.programCounter.toNat + 1 := by
    rw [UInt64.toNat_add]
    exact Nat.mod_eq_of_lt (by have : (1 : UInt64).toNat = 1 := rfl; omega)
  rw [work, ← hplace]
  rfl

/-- Skipping too far leads past the end, as it would if places were unbounded. -/
theorem work_skip (hshort : c.program.length < UInt64.size) (n : UInt64) :
    work source (Machine.skip n c) = c.program.work source (c.programCounter.toNat + n.toNat + 1) := by
  have hplace : (UInt64.ofNat (min (c.programCounter.toNat + n.toNat + 1) (UInt64.size - 1))).toNat =
      min (c.programCounter.toNat + n.toNat + 1) (UInt64.size - 1) :=
    UInt64.toNat_ofNat_of_lt' (Nat.lt_of_le_of_lt (Nat.min_le_right _ _) (by decide))
  rw [skip_eq]
  change c.program.work source (UInt64.ofNat (min (c.programCounter.toNat + n.toNat + 1) (UInt64.size - 1))).toNat = _
  rw [hplace]
  by_cases hfits : c.programCounter.toNat + n.toNat + 1 ≤ UInt64.size - 1
  · rw [Nat.min_eq_left hfits]
  · rw [Nat.min_eq_right (by omega), Program.work_of_le (by omega), Program.work_of_le (by omega)]

/-- The next instruction of a process is one of the steps that are left to it. The others are left to it after that,
and to its child. -/
theorem work_eq (hshort : c.program.length < UInt64.size) : work source c =
    match (Machine.next? c : Option Instruction) with
    | none | some .exit => 1
    | some (.fork n) => 1 + work source (Machine.advance c) + work source (Machine.skip n c)
    | some (.replace name) =>
      match source name with
      | .error _ => 1 + work source (Machine.advance c)
      | .ok _ => 1
    | some _ => 1 + work source (Machine.advance c) := by
  have hplace : c.program[c.programCounter.toNat]? = c.next? := rfl
  have hnext : (Machine.next? c : Option Instruction) = c.next? := rfl
  rw [hnext, work, Program.work_eq, hplace]
  cases hi : c.next? with
  | none => rfl
  | some i =>
    have hadvance : work source (Machine.advance c) = _ := work_advance hshort hi
    cases i with
    | fork n => simp only [hadvance, work_skip hshort]
    | exit => rfl
    | _ => simp only [hadvance]

/-- A process whose program is self-contained keeps it. -/
theorem program_of_alone (hself : c.program.SelfContained source) {c' : Context} (h : c.alone source = .ok c') :
    c'.program = c.program := by
  unfold alone at h
  split at h
  case h_8 name hi =>
    split at h
    · obtain rfl := Except.ok.inj h
      rfl
    · rename_i lines hload
      split at h
      · rename_i other hparse
        exact absurd hparse (hself.alone name lines other (List.mem_of_getElem? hi) hload)
      · cases h
  all_goals cases h <;> rfl

end Context

/-! ## The work of a table -/

namespace Table

variable {C : Type} {t : Table C} {pid : Pid} {r : ProcessRecord C}

/-- The sum of what each record counts. -/
def total (f : ProcessRecord C → Nat) (t : Table C) : Nat := (t.records.map f).sum

/-- Where numbers are unique, a record stands alone among those that are filed under other numbers. -/
theorem exists_split (hu : t.pids.Nodup) (hr : t.get? pid = some r) :
    ∃ older newer, t.entries = older ++ (pid, r) :: newer ∧ ∀ e ∈ older ++ newer, e.1 ≠ pid := by
  obtain ⟨older, newer, hentries, hfirst⟩ := List.lookup_eq_some_iff.mp hr
  refine ⟨older, newer, hentries, fun e he heq => ?_⟩
  rw [pids, hentries, List.map_append, List.map_cons, List.nodup_middle, List.nodup_cons, ← List.map_append] at hu
  exact hu.1 (List.mem_map.mpr ⟨e, he, heq⟩)

variable (f : ProcessRecord C → Nat)

/-- A change of one record changes what this one counts. -/
theorem total_modify (hu : t.pids.Nodup) (hr : t.get? pid = some r) (change : ProcessRecord C → ProcessRecord C) :
    (t.modify pid change).total f + f r = t.total f + f (change r) := by
  obtain ⟨older, newer, hentries, hother⟩ := exists_split hu hr
  have hsame : ∀ es : List (Pid × ProcessRecord C), (∀ e ∈ es, e.1 ≠ pid) →
      es.map (fun e => if e.1 = pid then (e.1, change e.2) else e) = es := by
    intro es hes
    refine (List.map_congr_left fun e he => ?_).trans (List.map_id es)
    rw [if_neg (hes e he)]
    rfl
  have hentries' : (t.modify pid change).entries = older ++ (pid, change r) :: newer := by
    rw [modify, hentries, List.map_append, List.map_cons, hsame older fun e he => hother e (List.mem_append_left _ he),
      hsame newer fun e he => hother e (List.mem_append_right _ he), if_pos rfl]
  simp only [total, records, hentries, hentries', List.map_append, List.map_cons, List.sum_append, List.sum_cons]
  omega

/-- A change that does not count changes no sum. -/
theorem total_modify_eq (pid : Pid) {change : ProcessRecord C → ProcessRecord C} (hf : ∀ r, f (change r) = f r) :
    (t.modify pid change).total f = t.total f := by
  simp only [total, records, modify, List.map_map]
  refine congrArg List.sum (List.map_congr_left fun e _ => ?_)
  simp only [Function.comp_apply]
  split
  · exact hf e.2
  · rfl

/-- An erased record takes along what it counts. -/
theorem total_erase (hu : t.pids.Nodup) (hr : t.get? pid = some r) : (t.erase pid).total f + f r = t.total f := by
  obtain ⟨older, newer, hentries, hother⟩ := exists_split hu hr
  have hkeep : ∀ es : List (Pid × ProcessRecord C), (∀ e ∈ es, e.1 ≠ pid) → es.filter (fun e => e.1 ≠ pid) = es :=
    fun es hes => List.filter_eq_self.mpr fun e he => decide_eq_true (hes e he)
  have hentries' : (t.erase pid).entries = older ++ newer := by
    rw [erase, hentries, List.filter_append, List.filter_cons_of_neg (by simp),
      hkeep older fun e he => hother e (List.mem_append_left _ he), hkeep newer fun e he =>
        hother e (List.mem_append_right _ he)]
  simp only [total, records, hentries, hentries', List.map_append, List.map_cons, List.sum_append, List.sum_cons]
  omega

/-- A new record adds what it counts. -/
theorem total_insert (hfresh : t.nextPid ∉ t.pids) (r : ProcessRecord C) :
    (t.insert r).total f = t.total f + f { r with pid := t.nextPid } := by
  simp only [total, records, entries_insert hfresh, List.map_append, List.map_cons, List.map_nil, List.sum_append,
    List.sum_cons, List.sum_nil, Nat.add_zero]

end Table

/-! ## The work of a kernel -/

section

variable {C : Type} [Machine C] {k k' : Kernel C} {e : Event C} {es : List (Event C)} (w : C → Nat)

omit [Machine C] in
/-- The sum of what the contexts of all processes count. -/
def Kernel.weight (w : C → Nat) (k : Kernel C) : Nat := k.table.total fun r => w r.context

/-- A move changes what one context counts, adds a context or takes one away. -/
theorem Move.weight (h : Move k e k') (hk : k.Consistent) :
    match e with
    | .filed r => k'.weight w = k.weight w + w r.context
    | .worked pid change _ => ∀ r, k.table.get? pid = some r →
      k'.weight w + w r.context = k.weight w + w (change r.context)
    | .blocked pid => ∀ r, k.table.get? pid = some r →
      k'.weight w + w r.context = k.weight w + w (Machine.advance r.context)
    | .ended pid => ∀ r, k.table.get? pid = some r → k'.weight w + w r.context = k.weight w
    | _ => k'.weight w = k.weight w := by
  cases h with
  | filed horigin hfresh hq => exact Table.total_insert _ (horigin.fields.1 ▸ hfresh) _
  | worked change work hrun => exact fun r hr => Table.total_modify _ hk.unique hr _
  | blocked hrun => exact fun r hr => Table.total_modify _ hk.unique hr _
  | ended hrun => exact fun r hr => Table.total_erase _ hk.unique hr
  | ticked => rfl
  | _ => exact Table.total_modify_eq _ _ fun _ => rfl

/-- An accounting changes nothing that contexts count. -/
theorem Settles.weight (h : Settles k es k') (hk : k.Consistent) : k'.weight w = k.weight w := by
  have hpath := h.path
  cases h.turn with
  | kept =>
    cases hpath
    rfl
  | charged pid =>
    cases hpath with
    | cons hm hnil =>
      cases hnil
      exact hm.weight w hk
  | filled pid level =>
    cases hpath with
    | cons hm hnil =>
      cases hnil
      exact hm.weight w hk
  | rotated pid level pid' level' =>
    cases hpath with
    | cons hm hrest =>
      cases hrest with
      | cons hm' hnil =>
        cases hnil
        exact (hm'.weight w (hm.consistent hk)).trans (hm.weight w hk)

/-- Making a process adds what the context of one that starts the program counts. -/
theorem Makes.weight {priority : Priority} {program : Program} (h : Makes k priority program es k')
    (hk : k.Consistent) :
    k'.weight w = k.weight w + w (Machine.start program) := by
  cases h with
  | intro hr hmove hsettles =>
    subst hr
    exact (hsettles.weight w (hmove.consistent hk)).trans (hmove.weight w hk)

/-- Waking changes nothing that contexts count. -/
theorem Wakes.weight {woken : Option Pid} (h : Wakes k woken es k') (hk : k.Consistent) : k'.weight w = k.weight w := by
  cases h with
  | none => rfl
  | some hmove hsettles => exact (hsettles.weight w (hmove.consistent hk)).trans (hmove.weight w hk)

end

section

variable {source : Source} {k k' : Kernel Context} {outcome : StepOutcome} {es : List (Event Context)}

/-- The steps that are left to all processes. -/
def Kernel.remaining (source : Source) (k : Kernel Context) : Nat := k.weight (Context.work source)

/-- A deed of a process whose program is self-contained does one of the steps that are left. -/
theorem Deed.remaining {r : ProcessRecord Context} (h : Deed source k r outcome es) (hpath : Path k es k')
    (hk : k.Consistent) (hn : k.Numbered) (hr : k.table.get? r.pid = some r)
    (hself : r.context.program.SelfContained source) :
    k'.remaining source + 1 = k.remaining source := by
  have hone : ∀ {e : Event Context}, Path k [e] k' → Move k e k' := by
    intro e hp
    cases hp with
    | cons hm hnil =>
      cases hnil
      exact hm
  have hwork : Context.work source r.context = _ := Context.work_eq hself.short
  have hdrop : ∀ {n : Nat}, k'.weight (Context.work source) + Context.work source r.context =
    k.weight (Context.work source) + n →
      Context.work source r.context = 1 + n → k'.remaining source + 1 = k.remaining source := by
    intro n hm hn
    rw [Kernel.remaining, Kernel.remaining]
    omega
  cases h with
  | @fork skip hi =>
    simp only [hi] at hwork
    cases hpath with
    | @cons _ k₁ _ _ _ hfiled hrest =>
      have hr₁ : k₁.table.get? r.pid = some r := by
        cases hfiled with
        | filed horigin hfresh hq => rw [Table.get?_insert, if_neg (hn.ne_nextPid hr), hr]
      have hchild :
        k₁.weight (Context.work source) =
          k.weight (Context.work source) + Context.work source (Machine.advance r.context) :=
        hfiled.weight _ hk
      cases hrest with
      | cons hm hnil =>
        cases hnil
        have hparent := hm.weight (Context.work source) (hfiled.consistent hk) r hr₁
        rw [hchild, Nat.add_assoc] at hparent
        exact hdrop hparent (hwork.trans (Nat.add_assoc _ _ _))
  | replaced hi hload hparse => exact absurd hparse (hself.alone _ _ _ (List.mem_of_getElem? hi) hload)
  | unavailable hi hload =>
    simp only [hi, hload] at hwork
    exact hdrop ((hone hpath).weight _ hk r hr) hwork
  | faulted hi hload hparse =>
    simp only [hi, hload] at hwork
    exact hdrop (n := 0) ((hone hpath).weight _ hk r hr) hwork
  | exit hi =>
    simp only [hi] at hwork
    exact hdrop (n := 0) ((hone hpath).weight _ hk r hr) hwork
  | exhausted hi =>
    simp only [hi] at hwork
    exact hdrop (n := 0) ((hone hpath).weight _ hk r hr) hwork
  | _ hi =>
    simp only [hi] at hwork
    exact hdrop ((hone hpath).weight _ hk r hr) hwork

/-- The program of every process is one of these. -/
def Kernel.AllRun (P : Program → Prop) (k : Kernel Context) : Prop := ∀ pid c, k.contextOf pid = some c → P c.program

/-- A step that is not idle does one of the steps that are left, if no process can start another program. -/
theorem Steps.remaining (h : Steps source k outcome es k') (hk : k.Sound)
    (hself : k.AllRun (Program.SelfContained source)) :
    k'.remaining source + (if outcome = .idle then 0 else 1) = k.remaining source := by
  have hbusy : ∀ {pid r es k₁}, k.running = some pid → k.table.get? pid = some r → Deed source k r outcome es →
    Path k es k₁ →
      k₁.remaining source + (if outcome = .idle then 0 else 1) = k.remaining source := by
    intro pid r es k₁ hrun hr hdeed hpath
    obtain rfl : r.pid = pid := (hk.consistent.standing_of_get? hr).keyed
    have hne : outcome ≠ .idle := by
      rw [ne_eq, h.idle_iff, hrun]
      exact Option.some_ne_none _
    have hc : k.contextOf r.pid = some r.context := by rw [Kernel.contextOf, hr]; rfl
    rw [if_neg hne]
    exact hdeed.remaining hpath hk.consistent hk.numbered hr (hself _ _ hc)
  cases h with
  | idle hrun => rfl
  | worked hrun hr hdeed hstays hpath => exact hbusy hrun hr hdeed hpath
  | released hrun hr hdeed hleaves hpath hsettles =>
    rw [← hbusy hrun hr hdeed hpath, Kernel.remaining, Kernel.remaining,
      hsettles.weight _ (hpath.consistent hk.consistent)]

/-- No step is left exactly if no process is. -/
theorem Kernel.remaining_eq_zero_iff : k.remaining source = 0 ↔ k.table.entries = [] := by
  rw [remaining, weight, Table.total, Table.records]
  cases k.table.entries with
  | nil => exact ⟨fun _ => rfl, fun _ => rfl⟩
  | cons e es =>
    have hpos : 0 < Context.work source e.2.context := Program.work_pos
    simp only [List.map_cons, List.sum_cons, reduceCtorEq, iff_false]
    omega

end

end Timeshare
