import Timeshare.Proofs.Run
import Timeshare.Proofs.Tally

/-!
# What an exchange shows of its events

An exchange opens with what its request is about, and has at most one accounting that does something (`Course.shape`).
So at most one process is dispatched and at most one preempted, and the tally and the slot before and after tell
which.
-/

namespace Timeshare

variable {C : Type}

/-- What an exchange is before any accounting. -/
inductive Opening : List (Event C) → Prop where
  | nothing : Opening []
  | filed (r : ProcessRecord C) : Opening [.filed r]
  | woken (pid : Pid) (level : Priority) : Opening [.woken pid level]
  | worked (pid : Pid) (change : C → C) (work : Work) : Opening [.worked pid change work]
  | forked (r : ProcessRecord C) (pid : Pid) (change : C → C) : Opening [.filed r, .worked pid change .fork]
  | blocked (pid : Pid) : Opening [.blocked pid]
  | ended (pid : Pid) : Opening [.ended pid]

variable [Machine C] {source : Source} {k k' : Kernel C} {es : List (Event C)}

theorem Deed.opening {r : ProcessRecord C} {outcome : StepOutcome} (h : Deed source k r outcome es) : Opening es := by
  cases h <;> constructor

/-- Without a mark, and with the slot filled if anything waits, an accounting does nothing. -/
theorem Settles.still (h : Settles k es k') (hmark : k.executed = none)
    (hfilled : k.running = none → k.queues.ready.flatten = []) :
    es = [] ∧ k' = k := by
  have hpath := h.path
  cases h.turn with
  | kept =>
    cases hpath
    exact ⟨rfl, rfl⟩
  | charged pid =>
    cases hpath with
    | cons hm hrest =>
      cases hm with
      | charged hrun hmark' hr hused => cases hmark.symm.trans hmark'
  | filled pid level =>
    cases hpath with
    | cons hm hrest =>
      cases hm with
      | dispatched hrun hd hr =>
        rw [(Queues.dequeueReady_eq_none_iff _).mpr (hfilled hrun)] at hd
        cases hd
  | rotated pid level pid' level' =>
    cases hpath with
    | cons hm hrest =>
      cases hm with
      | preempted hrun hmark' hr hused hq => cases hmark.symm.trans hmark'

/-- A path is an opening, a turn and ticks. -/
inductive Shape (k : Kernel C) : List (Event C) → Kernel C → Prop where
  | intro {opening ticks turn rest : List (Event C)} {k₁ k₂ k' : Kernel C} (hopening : Opening opening)
    (hticks : ∀ e ∈ ticks, e = .ticked) (hturn : Turn turn) (hrest : ∀ e ∈ rest, e = .ticked)
    (hbefore : Path k (opening ++ ticks) k₁) (hmiddle : Path k₁ turn k₂) (hafter : Path k₂ rest k') :
    Shape k (opening ++ ticks ++ turn ++ rest) k'

namespace Shape

variable {opening turn : List (Event C)} {k₁ k₂ : Kernel C}

omit [Machine C] in
theorem forall_mem_nil : ∀ e ∈ ([] : List (Event C)), e = .ticked := fun _ he => absurd he List.not_mem_nil

/-- An opening that an accounting follows. -/
theorem of_settles (ho : Opening opening) (hpath : Path k opening k₁) (hsettles : Settles k₁ turn k') :
    Shape k (opening ++ turn) k' := by
  have hbefore : Path k (opening ++ []) k₁ := by rwa [List.append_nil]
  have h := Shape.intro ho forall_mem_nil hsettles.turn forall_mem_nil hbefore hsettles.path (.nil k')
  rwa [List.append_nil, List.append_nil] at h

/-- An opening alone. -/
theorem of_path (ho : Opening es) (hpath : Path k es k') : Shape k es k' := by
  have hbefore : Path k (es ++ []) k' := by rwa [List.append_nil]
  have h := Shape.intro ho forall_mem_nil .kept forall_mem_nil hbefore (.nil k') (.nil k')
  rwa [List.append_nil, List.append_nil, List.append_nil] at h

/-- An opening that a tick and an accounting follow. -/
theorem of_tick_settles (ho : Opening opening) (hpath : Path k opening k₁)
    (hsettles : Settles { k₁ with clock := k₁.clock + 1 } turn k') : Shape k (opening ++ .ticked :: turn) k' := by
  have hbefore : Path k (opening ++ [.ticked]) { k₁ with clock := k₁.clock + 1 } := hpath.append (.single .ticked)
  have h :=
    Shape.intro ho (fun _ => List.eq_of_mem_singleton) hsettles.turn forall_mem_nil hbefore hsettles.path (.nil k')
  rwa [List.append_nil, List.append_assoc] at h

/-- An opening that an accounting and a tick follow. -/
theorem of_settles_tick (ho : Opening opening) (hpath : Path k opening k₁) (hsettles : Settles k₁ turn k₂) :
    Shape k (opening ++ turn ++ [.ticked]) { k₂ with clock := k₂.clock + 1 } := by
  have hbefore : Path k (opening ++ []) k₁ := by rwa [List.append_nil]
  have h := Shape.intro ho forall_mem_nil hsettles.turn (fun _ => List.eq_of_mem_singleton) hbefore hsettles.path
    (.single .ticked)
  rwa [List.append_nil] at h

end Shape

/-- A step is an opening, and an accounting if the process leaves the slot. -/
theorem Steps.shape {outcome : StepOutcome} (h : Steps source k outcome es k') : Shape k es k' := by
  cases h with
  | idle => exact .of_path .nothing (.nil k)
  | worked hrun hr hdeed hstays hpath => exact .of_path hdeed.opening hpath
  | released hrun hr hdeed hleaves hpath hsettles => exact .of_settles hdeed.opening hpath hsettles

/-- A wake is an opening and an accounting. -/
theorem Wakes.shape {woken : Option Pid} (h : Wakes k woken es k') : Shape k es k' := by
  cases h with
  | none => exact .of_path .nothing (.nil k)
  | some hmove hsettles => exact .of_settles (.woken _ _) (.single hmove) hsettles

/-- A tick has one accounting that does something: that of its step if the process leaves the slot, and that after the
clock otherwise. -/
theorem Ticks.shape {outcome : StepOutcome} (h : Ticks source k outcome es k') : Shape k es k' := by
  cases h with
  | intro hsteps hsettles =>
    cases hsteps with
    | idle => exact .of_tick_settles .nothing (.nil k) hsettles
    | worked hrun hr hdeed hstays hpath => exact .of_tick_settles hdeed.opening hpath hsettles
    | released hrun hr hdeed hleaves hpath hsettles' =>
      obtain ⟨rfl, rfl⟩ := hsettles.still hsettles'.unmarked hsettles'.filled
      exact .of_settles_tick hdeed.opening hpath hsettles'

/-- Every course has at most one accounting that does something. -/
theorem Course.shape {k k' : Kernel Context} {request : Request} {answer : Except Halt Response}
    {es : List (Event Context)} (h : Course source k request answer es k') : Shape k es k' := by
  cases h with
  | made hop hmakes =>
    cases hmakes with
    | intro hr hmove hsettles => exact .of_settles (.filed _) (.single hmove) hsettles
  | stepped hsteps => exact hsteps.shape
  | scheduled hsettles => exact .of_settles .nothing (.nil k) hsettles
  | woken hwakes => exact hwakes.shape
  | advanced =>
    exact .intro .nothing (fun _ => List.eq_of_mem_singleton) .kept Shape.forall_mem_nil (.single .ticked)
      (.nil _) (.nil _)
  | ticked hticks => exact hticks.shape
  | wokenReply hwakes => exact hwakes.shape
  | quiet => exact .of_path .nothing (.nil k)

/-! ## Dispatches and preemptions -/

omit [Machine C] in
/-- Before any accounting nothing is dispatched or preempted, and the process in the slot stays there or leaves it
empty. -/
theorem Opening.still (h : Opening es) : es.filterMap Event.dispatched? = [] ∧ es.filterMap Event.preempted? = [] ∧
    ∀ running, es.foldl Event.slot running = running ∨ es.foldl Event.slot running = none := by
  cases h with
  | blocked => exact ⟨rfl, rfl, fun _ => .inr rfl⟩
  | ended => exact ⟨rfl, rfl, fun _ => .inr rfl⟩
  | _ => exact ⟨rfl, rfl, fun _ => .inl rfl⟩

omit [Machine C] in
theorem filterMap_ticks {α : Type} (f : Event C → Option α) (hf : f .ticked = none) (h : ∀ e ∈ es, e = .ticked) :
    es.filterMap f = [] :=
  List.filterMap_eq_nil_iff.mpr fun e he => by rw [h e he, hf]

omit [Machine C] in
/-- With ticks around it a turn shows, after what comes before it, what it shows alone. -/
theorem filterMap_between {α : Type} {f : Event C → Option α} (hf : f .ticked = none) {ticks rest : List (Event C)}
    (hticks : ∀ e ∈ ticks, e = .ticked) (hrest : ∀ e ∈ rest, e = .ticked) (opening turn : List (Event C)) :
    (opening ++ ticks ++ turn ++ rest).filterMap f = opening.filterMap f ++ turn.filterMap f := by
  simp only [List.filterMap_append, filterMap_ticks f hf hticks, filterMap_ticks f hf hrest, List.append_nil]

omit [Machine C] in
/-- What a tick leaves as it is, ticks leave as it is. -/
theorem foldl_ticks {β : Type} {f : β → Event C → β} (hf : ∀ b, f b .ticked = b) (h : ∀ e ∈ es, e = .ticked) (b : β) :
    es.foldl f b = b := by
  induction es with
  | nil => rfl
  | cons e es ih =>
    rw [List.foldl_cons, h e List.mem_cons_self, hf]
    exact ih fun e he => h e (List.mem_cons_of_mem _ he)

omit [Machine C] in
theorem slot_ticks (h : ∀ e ∈ es, e = .ticked) (running : Option Pid) : es.foldl Event.slot running = running :=
  foldl_ticks (fun _ => rfl) h running

/-- Ticks change nothing but the clock. -/
theorem Path.of_ticks (h : Path k es k') (hticks : ∀ e ∈ es, e = .ticked) :
    k'.queues = k.queues ∧ k'.table = k.table ∧ k'.running = k.running := by
  induction h with
  | nil => exact ⟨rfl, rfl, rfl⟩
  | cons hm _ ih =>
    obtain rfl := hticks _ List.mem_cons_self
    cases hm
    exact ih fun e he => hticks e (List.mem_cons_of_mem _ he)

/-- The tally counts the dispatches and the preemptions of a path. -/
theorem Path.tally (h : Path k es k') :
    k'.stats.dispatches = k.stats.dispatches + UInt64.ofNat (es.filterMap Event.dispatched?).length ∧
      k'.stats.preemptions = k.stats.preemptions + UInt64.ofNat (es.filterMap Event.preempted?).length := by
  rw [Event.length_filterMap fun e => e.isSome_shown.1, Event.length_filterMap fun e => e.isSome_shown.2.1]
  exact ⟨h.value .dispatches, h.value .preemptions⟩

namespace Shape

/-- A shape shows what its opening and its turn show. -/
theorem exists_turn (h : Shape k es k') :
    ∃ (opening turn : List (Event C)) (k₁ k₂ : Kernel C), Opening opening ∧ Turn turn ∧
    Path k₁ turn k₂ ∧ (k₁.running = k.running ∨ k₁.running = none) ∧ k'.running = k₂.running ∧
    ∀ {α : Type} (f : Event C → Option α), f .ticked = none →
      es.filterMap f = opening.filterMap f ++ turn.filterMap f := by
  cases h with
  | @intro opening ticks turn rest k₁ k₂ _ hopening hticks hturn hrest hbefore hmiddle hafter =>
    refine ⟨opening, turn, k₁, k₂, hopening, hturn, hmiddle, ?_, ?_,
      fun f hf => filterMap_between hf hticks hrest opening turn⟩
    · rw [hbefore.running, List.foldl_append, slot_ticks hticks]
      exact hopening.still.2.2 _
    · rw [hafter.running, slot_ticks hrest]

/-- The process that a path dispatches is the one in the slot after it, if the tally counts one more dispatch. -/
theorem dispatched (h : Shape k es k') (hpath : Path k es k') : (es.filterMap Event.dispatched?).map Prod.fst =
    (if k'.stats.dispatches = k.stats.dispatches then none else k'.running).toList := by
  obtain ⟨opening, turn, k₁, k₂, hopening, hturn, hmiddle, -, hrun, hshows⟩ := h.exists_turn
  rw [hpath.tally.1, hshows _ rfl, hopening.still.1, List.nil_append, hrun, hmiddle.running]
  cases hturn <;> simp [List.filterMap_cons, Event.dispatched?, Event.slot]

/-- The process that a path preempts is the one in the slot before it, if the tally counts one more preemption. -/
theorem preempted (h : Shape k es k') (hpath : Path k es k') : (es.filterMap Event.preempted?).map Prod.fst =
    (if k'.stats.preemptions = k.stats.preemptions then none else k.running).toList := by
  obtain ⟨opening, turn, k₁, k₂, hopening, hturn, hmiddle, hslot, -, hshows⟩ := h.exists_turn
  rw [hpath.tally.2, hshows _ rfl, hopening.still.2.1, List.nil_append]
  cases hturn with
  | rotated pid level pid' level' =>
    have hrun : k₁.running = some pid := by
      cases hmiddle with
      | cons hm hrest =>
        cases hm with
        | preempted hrun hmark hr hused hq => exact hrun
    rw [hrun] at hslot
    simp [List.filterMap_cons, Event.preempted?, ← hslot.resolve_right (by simp)]
  | _ => simp [List.filterMap_cons, Event.preempted?]

/-- Without a dispatch the process in the slot stays there, or leaves it empty. -/
theorem slot (h : Shape k es k') (hd : es.filterMap Event.dispatched? = []) :
    k'.running = k.running ∨ k'.running = none := by
  obtain ⟨opening, turn, k₁, k₂, hopening, hturn, hmiddle, hslot, hrun, hshows⟩ := h.exists_turn
  rw [hshows _ rfl, hopening.still.1, List.nil_append] at hd
  rw [hrun, hmiddle.running]
  cases hturn with
  | kept => exact hslot
  | charged => exact hslot
  | filled => cases hd
  | rotated => cases hd

/-- A path that dispatches a process ends with that, but for ticks. -/
theorem exists_dispatch (h : Shape k es k') {pid : Pid} {level : Priority}
    (hd : (pid, level) ∈ es.filterMap Event.dispatched?) :
    ∃ es₁ k₁ k₂, Path k es₁ k₁ ∧ Move k₁ (.dispatched pid level) k₂ ∧ k'.queues = k₂.queues ∧ k'.table = k₂.table ∧
      k'.running = k₂.running := by
  cases h with
  | @intro opening ticks turn rest k₁ k₂ _ hopening hticks hturn hrest hbefore hmiddle hafter =>
    have h₁ := filterMap_ticks Event.dispatched? rfl hticks
    have h₂ := filterMap_ticks Event.dispatched? rfl hrest
    simp only [List.filterMap_append, hopening.still.1, h₁, h₂, List.nil_append, List.append_nil] at hd
    have hsame := hafter.of_ticks hrest
    cases hturn with
    | filled p l =>
      obtain ⟨rfl, rfl⟩ := Prod.mk.inj (List.mem_singleton.mp hd)
      cases hmiddle with
      | cons hm hnil =>
        cases hnil
        exact ⟨_, _, _, hbefore, hm, hsame⟩
    | rotated p l p' l' =>
      obtain ⟨rfl, rfl⟩ := Prod.mk.inj (List.mem_singleton.mp hd)
      cases hmiddle with
      | cons hm hrest' =>
        cases hrest' with
        | cons hm' hnil =>
          cases hnil
          exact ⟨_, _, _, hbefore.append (.single hm), hm', hsame⟩
    | _ => cases hd

end Shape

/-! ## Wakes -/

/-- The process that a course wakes is the one that its answer names. -/
theorem Course.woken_eq {k k' : Kernel Context} {request : Request} {answer : Except Halt Response}
    {es : List (Event Context)} (h : Course source k request answer es k') :
    (es.filterMap Event.woken?).map Prod.fst = (answer.toOption.bind Response.woken?).toList := by
  rw [← Event.filterMap_opens fun e he => by cases e <;> first | rfl | cases he]
  have hopens := h.opens
  generalize es.filter Event.opens = opening at hopens ⊢
  cases hopens with
  | made hr => rfl
  | stepped hdeed => cases hdeed <;> rfl
  | ticked hdeed => cases hdeed <;> rfl
  | woken level hresponse => rcases hresponse with rfl | rfl <;> rfl
  | nothing houtcome hborn hwoken => rw [hwoken]; rfl

namespace Session.Takes

variable {s : Session} {source : Source} {request : Request} {es : List (Event Context)}

/-- What an exchange shows as dispatched is what its events dispatch. -/
theorem dispatched (ht : s.Takes source request es) :
    (es.filterMap Event.dispatched?).map Prod.fst = (s.exchange source request).dispatched?.toList := by
  rw [Exchange.dispatched?, (exchange_before source s request).1]
  exact ht.course.shape.dispatched ht.course.path

/-- What an exchange shows as preempted is what its events preempt. -/
theorem preempted (ht : s.Takes source request es) :
    (es.filterMap Event.preempted?).map Prod.fst = (s.exchange source request).preempted?.toList := by
  rw [Exchange.preempted?, (exchange_before source s request).1]
  exact ht.course.shape.preempted ht.course.path

/-- Every process that is put into the slot is shown: the tally counts it, and without one the slot stays as it is or
gets empty. -/
theorem shows_dispatches (ht : s.Takes source request es) :
    (s.exchange source request).after.kernel.stats.dispatches =
      s.kernel.stats.dispatches + UInt64.ofNat (s.exchange source request).dispatched?.toList.length ∧
    ((s.exchange source request).dispatched? = none →
      (s.exchange source request).after.kernel.running = s.kernel.running ∨
        (s.exchange source request).after.kernel.running = none) := by
  have hd := ht.dispatched
  refine ⟨?_, fun hnone => ht.course.shape.slot ?_⟩
  · rw [← hd, List.length_map]
    exact ht.course.path.tally.1
  · rw [hnone] at hd
    exact List.map_eq_nil_iff.mp hd

/-- Where no event dispatches, the exchange shows nothing as dispatched. -/
theorem dispatched_eq_none (ht : s.Takes source request es) (h : es.filterMap Event.dispatched? = []) :
    (s.exchange source request).dispatched? = none := by
  have hd := ht.dispatched
  rw [h] at hd
  exact Option.toList_eq_nil_iff.mp hd.symm

/-- Where no event preempts, the exchange shows nothing as preempted. -/
theorem preempted_eq_none (ht : s.Takes source request es) (h : es.filterMap Event.preempted? = []) :
    (s.exchange source request).preempted? = none := by
  have hp := ht.preempted
  rw [h] at hp
  exact Option.toList_eq_nil_iff.mp hp.symm

end Session.Takes

end Timeshare
