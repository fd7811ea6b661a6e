import Timeshare.Proofs.Quantum

/-!
# The charge counts accountings

Whoever executes an instruction is marked, and charged at the next accounting if it is still in the slot then. What a
caller sees of this is said here exchange by exchange: who is marked after it (`Exchange.pending`), who is charged in
it (`Exchange.charged?`), and what it makes of the number of charges since the last dispatch (`Exchange.spent`). In
whatever order steps and accountings are asked for, the mark and the charges of the kernel are these, and no charge
comes to a quantum (`Session.charges_accounted`).
-/

namespace Timeshare

/-! ## What is seen of charges -/

/-- Whether an accounting comes before the answer, and after everything else that the request does. -/
def Response.accounts : Response → Bool
  | answered (.created _) | answered (.scheduled _) | replied (.ticked _) => true
  | answered (.woken woken) | replied (.woken woken) => woken.isSome
  | _ => false

/-- Who is marked after a step of this outcome, given who was before: whoever has executed an instruction and goes on,
and nobody if it left the slot. -/
def StepOutcome.marks (marked : Option Pid) (outcome : StepOutcome) : Option Pid :=
  if outcome.released?.isSome then none else outcome.worked?.or marked

namespace Exchange

/-- Whether the exchange makes a process, wakes one, is a tick, or is for an accounting. -/
def accounts (x : Exchange) : Bool := x.answer.toOption.any Response.accounts

/-- Who is marked when it comes to an accounting in the exchange, given who was marked before. -/
def marks (marked : Option Pid) (x : Exchange) : Option Pid := x.outcome?.elim marked (StepOutcome.marks marked)

/-- Who is marked after the exchange, given who was before: nobody after an accounting. -/
def pending (marked : Option Pid) (x : Exchange) : Option Pid := if x.accounts then none else x.marks marked

/-- The process that is charged in the exchange: the one that is marked when it comes to an accounting. -/
def charged? (x : Exchange) : Option Pid := if x.accounts then x.marks x.before.kernel.executed else none

/-- The number of charges of the process since it was made, dispatched or preempted, given the number before the
exchange. -/
def spent (pid : Pid) (n : Nat) (x : Exchange) : Nat :=
  if x.born? = some pid ∨ x.dispatched? = some pid ∨ x.preempted? = some pid then 0
  else if x.charged? = some pid then n + 1 else n

end Exchange

/-! ## Who is charged -/

section

variable {C : Type}

/-- The process that an event charges. -/
def Event.charged? : Event C → Option Pid
  | charged pid | preempted pid _ => some pid
  | _ => none

theorem Opening.filterMap_charged? {es : List (Event C)} (h : Opening es) : es.filterMap Event.charged? = [] := by
  cases h <;> rfl

variable [Machine C] {source : Source} {k k' : Kernel C} {outcome : StepOutcome} {es : List (Event C)} {pid : Pid}

/-- An accounting charges whoever is marked. -/
theorem Settles.charged_eq (h : Settles k es k') (hk : k.Consistent) :
    es.filterMap Event.charged? = k.executed.toList := by
  cases hmark : k.executed with
  | none =>
    have hpath := h.path
    cases h.turn with
    | kept | filled => rfl
    | charged p =>
      cases hpath with
      | cons hm _ =>
        cases hm with
        | charged hrun hmark' hr hused => cases hmark.symm.trans hmark'
    | rotated p l p' l' =>
      cases hpath with
      | cons hm _ =>
        cases hm with
        | preempted hrun hmark' hr hused hq => cases hmark.symm.trans hmark'
  | some pid =>
    have hrun := hk.marked pid hmark
    obtain ⟨r, hr⟩ := hk.exists_running hrun
    have hc : k.chargeOf pid = some (r.priority, r.cpuTimeUsed) := by rw [Kernel.chargeOf, hr]; rfl
    rcases h.of_marked hrun hmark hc with ⟨-, rfl⟩ | ⟨-, p', l', rfl⟩ <;> rfl

/-- So it does if an event comes before it that charges nobody and leaves the mark as it is. -/
theorem Settles.charged_cons {k₁ : Kernel C} {e : Event C} (h : Settles k₁ es k') (hk : k.Consistent)
    (hmove : Move k e k₁) (hcharge : e.charged? = none) (hmark : e.mark k.executed = k.executed) :
    (e :: es).filterMap Event.charged? = k.executed.toList := by
  rw [List.filterMap_cons_none hcharge, h.charged_eq (hmove.consistent hk), hmove.executed, hmark]

/-- A step charges nobody, and marks whoever goes on after it. -/
theorem Steps.marks (h : Steps source k outcome es k') (hk : k.Consistent) (hn : k.Numbered) :
    es.filterMap Event.charged? = [] ∧ k'.executed = outcome.marks k.executed := by
  cases h with
  | idle hrun => exact ⟨rfl, rfl⟩
  | @worked pid r _ _ _ hrun hr hdeed hstays hpath =>
    have hkeyed := (hk.standing_of_get? hr).keyed
    obtain ⟨hwork, -, -⟩ := hdeed.worked hstays (hkeyed ▸ hn.ne_nextPid hr)
    rw [(hdeed.running_executed hstays hpath).2, StepOutcome.marks, hwork, Session.Takes.released_of_worked hwork]
    exact ⟨hdeed.opening.filterMap_charged?, rfl⟩
  | @released pid r _ _ _ k₁ _ hrun hr hdeed hleaves hpath hsettles =>
    obtain ⟨hrelease, hempty⟩ := hdeed.released hleaves
    have hk₁ := hpath.consistent hk
    have hmark : k₁.executed = none := hk₁.executed_eq_none (hpath.running.trans (hempty _))
    rw [List.filterMap_append, hdeed.opening.filterMap_charged?, hsettles.charged_eq hk₁, hmark, hsettles.unmarked,
      StepOutcome.marks, hrelease]
    exact ⟨rfl, rfl⟩

end

/-- A course charges whoever is marked when it comes to an accounting, and leaves no mark then. -/
theorem Course.charged_eq {source : Source} {k k' : Kernel Context} {request : Request} {answer : Except Halt Response}
    {es : List (Event Context)} (h : Course source k request answer es k') (hk : k.Sound) {marked : Option Pid}
    (hmarked : (answer.toOption.bind Response.outcome?).elim k.executed (StepOutcome.marks k.executed) = marked) :
    es.filterMap Event.charged? = (if answer.toOption.any Response.accounts then marked else none).toList ∧
      k'.executed = if answer.toOption.any Response.accounts then none else marked := by
  have hc := hk.consistent
  have hwakes : ∀ {woken}, Wakes k woken es k' →
      es.filterMap Event.charged? = (if woken.isSome then k.executed else none).toList ∧
        k'.executed = if woken.isSome then none else k.executed := by
    intro woken h
    cases h with
    | none hb => exact ⟨rfl, rfl⟩
    | some hmove hsettles => exact ⟨hsettles.charged_cons hc hmove rfl rfl, hsettles.unmarked⟩
  subst hmarked
  cases h with
  | made hop hmakes =>
    cases hmakes with
    | intro hr hmove hsettles => exact ⟨hsettles.charged_cons hc hmove rfl rfl, hsettles.unmarked⟩
  | stepped hsteps => exact hsteps.marks hc hk.numbered
  | scheduled hsettles => exact ⟨hsettles.charged_eq hc, hsettles.unmarked⟩
  | woken h => exact hwakes h
  | wokenReply h => exact hwakes h
  | advanced => exact ⟨rfl, rfl⟩
  | ticked hticks =>
    cases hticks with
    | intro hsteps hsettles =>
      obtain ⟨hnone, hmark⟩ := hsteps.marks hc hk.numbered
      refine ⟨?_, hsettles.unmarked⟩
      rw [List.filterMap_append, hnone, hsettles.charged_cons (hsteps.path.consistent hc) .ticked rfl rfl, hmark]
      rfl
  | quiet hquiet => rcases hquiet with ⟨_, rfl⟩ | ⟨_, rfl⟩ | ⟨_, rfl⟩ | rfl <;> exact ⟨rfl, rfl⟩

/-! ## What charges come to -/

section

variable {C : Type}

/-- The number of charges of the process after an event, given the number before. -/
def Event.spend (pid : Pid) (n : Nat) : Event C → Nat
  | filed r => if pid = r.pid then 0 else n
  | preempted p _ | dispatched p _ => if pid = p then 0 else n
  | charged p => if pid = p then n + 1 else n
  | _ => n

/-- The process, if there is one, has been charged so often. -/
def Kernel.Counts (k : Kernel C) (pid : Pid) (n : Nat) : Prop :=
  ∀ level used, k.chargeOf pid = some (level, used) → used.toNat = n

variable [Machine C] {k k' : Kernel C} {e : Event C} {es : List (Event C)} {pid : Pid} {n : Nat}

/-- A charge counts one, and never wraps. -/
theorem Move.counts (h : Move k e k') (hk : k.Consistent) (hn : k.Counts pid n) : k'.Counts pid (e.spend pid n) := by
  intro level used hc
  rw [h.chargeOf] at hc
  cases h with
  | filed horigin hfresh hq =>
    simp only [Event.charge, Event.spend] at hc ⊢
    split at hc
    · obtain ⟨-, rfl⟩ := Prod.mk.inj (Option.some.inj hc)
      rw [if_pos ‹_›, horigin.fields.2.2]
      rfl
    · rw [if_neg ‹_›]
      exact hn _ _ hc
  | ended hrun =>
    simp only [Event.charge] at hc
    split at hc
    · cases hc
    · exact hn _ _ hc
  | charged hrun hmark hr hused =>
    simp only [Event.charge, Event.spend] at hc ⊢
    split at hc
    · obtain ⟨⟨level', used'⟩, hc', heq⟩ := Option.map_eq_some_iff.mp hc
      obtain ⟨rfl, rfl⟩ := Prod.mk.inj heq
      rw [if_pos ‹_›, Session.Takes.toNat_succ_of_lt (hk.charge_within hc').1, hn _ _ hc']
    · rw [if_neg ‹_›]
      exact hn _ _ hc
  | preempted | dispatched =>
    simp only [Event.charge, Event.spend] at hc ⊢
    split at hc
    · obtain ⟨⟨level', used'⟩, hc', heq⟩ := Option.map_eq_some_iff.mp hc
      obtain ⟨rfl, rfl⟩ := Prod.mk.inj heq
      rw [if_pos ‹_›]
      rfl
    · rw [if_neg ‹_›]
      exact hn _ _ hc
  | _ => exact hn _ _ hc

/-- So does every path. -/
theorem Path.counts (h : Path k es k') (hk : k.Consistent) (hn : k.Counts pid n) :
    k'.Counts pid (es.foldl (Event.spend pid) n) := by
  induction h generalizing n with
  | nil => exact hn
  | cons hm _ ih => exact ih (hm.consistent hk) (hm.counts hk hn)

omit [Machine C] in
/-- Before any accounting only a process that is made changes its number of charges. -/
theorem Opening.spend (h : Opening es) (pid : Pid) (n : Nat) :
    es.foldl (Event.spend pid) n = if pid ∈ es.filterMap Event.born? then 0 else n := by
  cases h with
  | filed r | forked r => simp [Event.spend, Event.born?]
  | _ => rfl

omit [Machine C] in
/-- What an accounting makes of the number of charges. -/
theorem Turn.spend (h : Turn es) (pid : Pid) (n : Nat) : es.foldl (Event.spend pid) n =
    if pid ∈ (es.filterMap Event.dispatched?).map Prod.fst ∨ pid ∈ (es.filterMap Event.preempted?).map Prod.fst then 0
    else if pid ∈ es.filterMap Event.charged? then n + 1 else n := by
  cases h with
  | rotated p l p' l' =>
    by_cases hp : pid = p <;> by_cases hp' : pid = p' <;>
      simp [List.filterMap_cons, Event.spend, Event.dispatched?, Event.preempted?, Event.charged?, hp, hp']
  | _ => simp [Event.spend, Event.dispatched?, Event.preempted?, Event.charged?]

/-- A process that is made in an opening is not in the slot before. -/
theorem Opening.running_ne_of_born {rest : List (Event C)} (h : Opening es) (hk : k.Consistent)
    (hpath : Path k (es ++ rest) k') (hborn : pid ∈ es.filterMap Event.born?) : k.running ≠ some pid := by
  intro hrun
  obtain ⟨r, hr⟩ := hk.exists_running hrun
  have hlive : pid ∈ k.table.pids := Table.mem_pids_iff.mpr ⟨r, hr⟩
  cases h with
  | filed r | forked r =>
    obtain rfl := List.mem_singleton.mp hborn
    cases hpath with
    | cons hm _ =>
      cases hm with
      | filed horigin hfresh hq => exact hfresh hlive
  | _ => cases hborn

/-- Whoever is charged in an accounting is in the slot when it comes to it. -/
theorem Turn.running_of_charged (h : Turn es) (hpath : Path k es k') (hcharged : pid ∈ es.filterMap Event.charged?) :
    k.running = some pid := by
  cases h with
  | charged p =>
    obtain rfl := List.mem_singleton.mp hcharged
    cases hpath with
    | cons hm _ =>
      cases hm with
      | charged hrun hmark hr hused => exact hrun
  | rotated p l p' l' =>
    obtain rfl := List.mem_singleton.mp hcharged
    cases hpath with
    | cons hm _ =>
      cases hm with
      | preempted hrun hmark hr hused hq => exact hrun
  | _ => cases hcharged

/-- What a shape makes of the number of charges: it is that of its accounting, unless the process is made, and then it
is not charged. -/
theorem Shape.spend (h : Shape k es k') (hk : k.Consistent) (pid : Pid) (n : Nat) : es.foldl (Event.spend pid) n =
    if pid ∈ es.filterMap Event.born? ∨ pid ∈ (es.filterMap Event.dispatched?).map Prod.fst ∨
      pid ∈ (es.filterMap Event.preempted?).map Prod.fst then 0
    else if pid ∈ es.filterMap Event.charged? then n + 1 else n := by
  cases h with
  | @intro opening ticks turn rest k₁ k₂ _ hopening hticks hturn hrest hbefore hmiddle hafter =>
    have hshows : ∀ {α : Type} (f : Event C → Option α), f .ticked = none →
        (opening ++ ticks ++ turn ++ rest).filterMap f = opening.filterMap f ++ turn.filterMap f :=
      fun f hf => filterMap_between hf hticks hrest opening turn
    have hnone : turn.filterMap Event.born? = [] := by cases hturn <;> rfl
    obtain ⟨hd, hp, hslot⟩ := hopening.still
    have huncharged : pid ∈ opening.filterMap Event.born? → pid ∉ turn.filterMap Event.charged? := by
      intro hborn hcharged
      have hrun := hturn.running_of_charged hmiddle hcharged
      rw [hbefore.running, List.foldl_append, slot_ticks hticks] at hrun
      rcases hslot k.running with hs | hs <;> rw [hs] at hrun
      · exact hopening.running_ne_of_born hk hbefore hborn hrun
      · cases hrun
    rw [hshows _ rfl, hshows _ rfl, hshows _ rfl, hshows _ rfl, hd, hp, hnone, hopening.filterMap_charged?,
      List.foldl_append, List.foldl_append, List.foldl_append, foldl_ticks (f := Event.spend pid) (fun _ => rfl) hrest,
      foldl_ticks (f := Event.spend pid) (fun _ => rfl) hticks, hturn.spend, hopening.spend, List.append_nil,
      List.nil_append, List.nil_append, List.nil_append]
    by_cases hborn : pid ∈ opening.filterMap Event.born?
    · simp [hborn, huncharged hborn]
    · simp [hborn]

end

/-! ## Charges over a run -/

namespace Session

variable {s : Session} {source : Source} {request : Request} {es : List (Event Context)} {pid : Pid}

/-- What an exchange shows as charged is what its events charge, and its mark is that of the kernel. -/
theorem Takes.charged (ht : s.Takes source request es) :
    es.filterMap Event.charged? = (s.exchange source request).charged?.toList ∧
      (s.exchange source request).after.kernel.executed = (s.exchange source request).pending s.kernel.executed := by
  rw [Exchange.charged?, (exchange_before source s request).1]
  exact ht.course.charged_eq ht.before rfl

/-- An exchange makes of the number of charges what is seen of it. -/
theorem Takes.counts {n : Nat} (ht : s.Takes source request es) (hn : s.kernel.Counts pid n) :
    (s.exchange source request).after.kernel.Counts pid ((s.exchange source request).spent pid n) := by
  have hspend := ht.course.shape.spend ht.before.consistent pid n
  rw [ht.course.born, ht.dispatched, ht.preempted, ht.charged.1] at hspend
  simp only [Option.mem_toList] at hspend
  have hcounts := ht.course.path.counts ht.before.consistent hn
  rw [hspend] at hcounts
  exact hcounts

/-- What is seen of a run tells who is marked and what everybody has been charged, and nobody has used up its
quantum. -/
structure Charged (xs : List Exchange) (s : Session) : Prop where
  mark : s.kernel.executed = xs.foldl Exchange.pending none
  /-- The mark is on nobody but the process in the slot. -/
  marked : ∀ pid, s.kernel.executed = some pid → s.kernel.running = some pid
  /-- After an accounting nobody is marked. -/
  settled : ∀ x ∈ xs, x.accounts = true → x.after.kernel.executed = none
  counted : ∀ pid r, s.kernel.table.get? pid = some r → r.cpuTimeUsed.toNat = xs.foldl (Exchange.spent pid) 0
  /-- Whoever has not been charged since it was dispatched, or since it was made, has no charge. -/
  uncharged : ∀ older x during, xs = older ++ x :: during → ∀ pid r, x.dispatched? = some pid ∨ x.born? = some pid →
    (∀ y ∈ during, y.charged? ≠ some pid) → s.kernel.table.get? pid = some r → r.cpuTimeUsed = 0
  /-- Whatever state a process is in, its charge is below its quantum, and one more does not wrap. -/
  within : ∀ pid r, s.kernel.table.get? pid = some r → r.cpuTimeUsed < quantum r.priority ∧
    (quantum r.priority).toNat = 2 ^ r.priority.toNat ∧ (r.cpuTimeUsed + 1).toNat = r.cpuTimeUsed.toNat + 1

/-- A process that is not charged keeps having no charges. -/
theorem foldl_spent_eq_zero {xs : List Exchange} (h : ∀ y ∈ xs, y.charged? ≠ some pid) :
    xs.foldl (Exchange.spent pid) 0 = 0 := by
  induction xs with
  | nil => rfl
  | cons y xs ih =>
    have hy : Exchange.spent pid 0 y = 0 := by
      rw [Exchange.spent, if_neg (h y List.mem_cons_self), ite_self]
    rw [List.foldl_cons, hy]
    exact ih fun z hz => h z (List.mem_cons_of_mem _ hz)

variable {levels : UInt8} {k : Kernel Context}

/-- The mark and the charges after a run are what is seen of it. -/
theorem seen_after (hboot : Kernel.boot levels = .ok k) {requests : List (Source × Request)}
    (hroom : Exchange.births (exchanges { kernel := k } requests) < UInt32.size) :
    (after { kernel := k } requests).kernel.executed =
      (exchanges { kernel := k } requests).foldl Exchange.pending none ∧
      ∀ pid, (after { kernel := k } requests).kernel.Counts pid
        ((exchanges { kernel := k } requests).foldl (Exchange.spent pid) 0) := by
  refine (run_invariant_of_boot (P := fun xs s => s.kernel.executed = xs.foldl Exchange.pending none ∧
    ∀ pid, s.kernel.Counts pid (xs.foldl (Exchange.spent pid) 0)) hboot ?_ ?_ hroom).1
  · rw [(Kernel.boot_eq_ok_iff.mp hboot).2]
    exact ⟨rfl, fun pid level used hc => by cases hc⟩
  · rintro xs s source request es - ht ⟨hmark, hcounts⟩
    simp only [List.foldl_append, List.foldl_cons, List.foldl_nil]
    exact ⟨by rw [ht.charged.2, hmark], fun pid => ht.counts (hcounts pid)⟩

/-- In every run of a kernel since it booted, whatever is asked for and in whatever order: the mark is on nobody but
the process in the slot, and an accounting takes it; a charge is the number of accountings since the dispatch that
found the process marked, and is below the quantum. In a run that is driven by commands nobody is marked after any
exchange. -/
theorem charges_accounted (hboot : Kernel.boot levels = .ok k) (requests : List (Source × Request))
    (hroom : Exchange.births (exchanges { kernel := k } requests) < UInt32.size) :
    Charged (exchanges { kernel := k } requests) (after { kernel := k } requests) ∧
      ((∀ asked ∈ requests, asked.2.commanded = true) →
        ∀ x ∈ exchanges { kernel := k } requests, x.after.kernel.executed = none) := by
  obtain ⟨hmark, hcounts⟩ := seen_after hboot hroom
  have hk := (sound_after hboot hroom).1.consistent
  have hcharge : ∀ {pid : Pid} {r : ProcessRecord Context},
    (after { kernel := k } requests).kernel.table.get? pid = some r →
      (after { kernel := k } requests).kernel.chargeOf pid = some (r.priority, r.cpuTimeUsed) := by
    intro pid r hr
    rw [Kernel.chargeOf, hr]
    rfl
  refine ⟨⟨hmark, hk.marked, ?_, ?_, ?_, ?_⟩, ?_⟩
  · intro x hx haccounts
    obtain ⟨older, newer, hsplit⟩ := List.append_of_mem hx
    obtain ⟨before, source, request, rest, es, -, -, rfl, -, ht, -, -⟩ := takes_of_split hboot hroom hsplit
    rw [ht.charged.2, Exchange.pending, if_pos haccounts]
  · exact fun pid r hr => hcounts pid _ _ (hcharge hr)
  · intro older x during hsplit pid r hx hduring hr
    have hn := hcounts pid _ _ (hcharge hr)
    have hzero : Exchange.spent pid (older.foldl (Exchange.spent pid) 0) x = 0 := by
      rw [Exchange.spent, if_pos (hx.elim (.inr ∘ .inl) .inl)]
    rw [hsplit, List.foldl_append, List.foldl_cons, hzero, foldl_spent_eq_zero hduring] at hn
    exact UInt32.toNat_inj.mp hn
  · intro pid r hr
    obtain ⟨hwithin, hlevel⟩ := hk.charge_within (hcharge hr)
    exact ⟨hwithin, toNat_quantum (Nat.lt_trans hlevel (by decide)), Takes.toNat_succ_of_lt hwithin⟩
  · intro hcommanded x hx
    obtain ⟨older, newer, hsplit⟩ := List.append_of_mem hx
    obtain ⟨before, source, request, rest, es, rfl, rfl, rfl, -, ht, -, -⟩ := takes_of_split hboot hroom hsplit
    rw [List.forall_mem_append, List.forall_mem_cons] at hcommanded
    rw [hsplit, births_append] at hroom
    exact ht.course.unmarked hcommanded.2.1 (unmarked_after hboot hcommanded.1 (by omega))

/-- Requests of which some step more than once before an accounting. -/
def hastySample : List Request := [
  .operation (.createParsed 1 [.set 5, .add 2, .block, .add 1, .exit]), .operation .step, .operation .step,
  .operation .reschedule, .operation .step, .operation .wake, .operation .step]

/-- In the first run two instructions are charged once, the process blocks with that charge, and then it is dispatched
again. The second run is driven by commands. -/
theorem charges_accounted_sample :
    Kernel.boot 2 = .ok (Kernel.empty 2 : Kernel Context) ∧
      Exchange.births (exchanges { kernel := Kernel.empty 2 } (hastySample.map (Prod.mk Source.empty))) < UInt32.size ∧
      Charged (exchanges { kernel := Kernel.empty 2 } (hastySample.map (Prod.mk Source.empty)))
        (after { kernel := Kernel.empty 2 } (hastySample.map (Prod.mk Source.empty))) ∧
      (exchanges { kernel := Kernel.empty 2 } (hastySample.map (Prod.mk Source.empty))).map Exchange.charged? =
        [none, none, none, some 0, none, none, none] ∧
      (after { kernel := Kernel.empty 2 } (hastySample.map (Prod.mk Source.empty))).kernel.executed = some 0 ∧
      Exchange.births (exchanges { kernel := Kernel.empty 2 } (sample.map (Prod.mk Source.empty))) < UInt32.size ∧
      (∀ asked ∈ sample.map (Prod.mk Source.empty), asked.2.commanded = true) ∧
      ∀ x ∈ exchanges { kernel := Kernel.empty 2 } (sample.map (Prod.mk Source.empty)),
        x.after.kernel.executed = none := by
  have hboot : Kernel.boot 2 = .ok (Kernel.empty 2 : Kernel Context) := rfl
  have hroom : Exchange.births (exchanges { kernel := Kernel.empty 2 } (hastySample.map (Prod.mk Source.empty))) <
      UInt32.size := by
    decide +kernel
  have hroom' : Exchange.births (exchanges { kernel := Kernel.empty 2 } (sample.map (Prod.mk Source.empty))) <
      UInt32.size := by
    decide +kernel
  have hcommanded : ∀ asked ∈ sample.map (Prod.mk Source.empty), asked.2.commanded = true := by decide
  exact ⟨hboot, hroom, (charges_accounted hboot _ hroom).1, by decide +kernel, by decide +kernel, hroom', hcommanded,
    (charges_accounted hboot _ hroom').2 hcommanded⟩

end Session

end Timeshare
