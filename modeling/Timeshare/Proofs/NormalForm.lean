import Timeshare.Proofs.Submissions

/-!
# The normal form of a session

A kernel is after a session what the ticks and the wakes before the shutdown make of it, whatever other lines there
were, and the clock counts these ticks. Every line is answered by what stands on it, by the kernel at that point, and
by whether the session is over by then; and a line that asks for a report, or that holds no command, can be left out
without any other effect (`Session.normal_form`).
-/

namespace Timeshare
namespace Session

/-- A new session on the same kernel. -/
def renewed (s : Session) : Session := { kernel := s.kernel }

/-- The lines before the first one that shuts the session down. -/
def beforeShutdown (lines : List (Source × String)) : List (Source × String) :=
  lines.takeWhile fun (_, text) => Text.trimmed text ≠ Command.shutdown.text

/-- The ticks and the wakes that lines ask for before the first one that shuts the session down. -/
def driven (lines : List (Source × String)) : List (Source × Request) :=
  (beforeShutdown lines).filterMap fun (source, text) =>
    if Text.trimmed text = Command.tick.text then some (source, .command .tick)
    else if Text.trimmed text = Command.wake.text then some (source, .operation .wake)
    else none

/-- The number of ticks that lines ask for before the first one that shuts the session down. -/
def ticksAsked (lines : List (Source × String)) : Nat :=
  (beforeShutdown lines).countP fun (_, text) => Text.trimmed text = Command.tick.text

/-! ## What the lines ask for -/

section

variable (source : Source) {text : String}

/-- From the line on that shuts the session down nothing counts. -/
theorem driven_of_shutdown (h : Text.trimmed text = Command.shutdown.text) (lines : List (Source × String)) :
    driven ((source, text) :: lines) = [] ∧ ticksAsked ((source, text) :: lines) = 0 := by
  simp [driven, ticksAsked, beforeShutdown, h]

/-- Any other line counts for itself. -/
theorem driven_cons (h : Text.trimmed text ≠ Command.shutdown.text) (lines : List (Source × String)) :
    driven ((source, text) :: lines) = driven [(source, text)] ++ driven lines ∧
      ticksAsked ((source, text) :: lines) = ticksAsked [(source, text)] + ticksAsked lines := by
  have hcut : ∀ lines, beforeShutdown ((source, text) :: lines) = (source, text) :: beforeShutdown lines :=
    fun lines => List.takeWhile_cons_of_pos (decide_eq_true h)
  have hnil : beforeShutdown [] = [] := rfl
  refine ⟨?_, ?_⟩
  · rw [driven, driven, hcut, hcut, hnil, ← List.singleton_append, List.filterMap_append]
    rfl
  · rw [ticksAsked, ticksAsked, hcut, hcut, hnil, ← List.singleton_append, List.countP_append]
    rfl

/-- A tick drives the kernel. -/
theorem driven_of_tick (h : Text.trimmed text = Command.tick.text) :
    driven [(source, text)] = [(source, .command .tick)] ∧ ticksAsked [(source, text)] = 1 := by
  have hne : Text.trimmed text ≠ Command.shutdown.text := Command.trimmed_ne_text h (by decide)
  rw [h] at hne
  simp [driven, ticksAsked, beforeShutdown, h, hne]

/-- A wake drives the kernel. -/
theorem driven_of_wake (h : Text.trimmed text = Command.wake.text) :
    driven [(source, text)] = [(source, .operation .wake)] ∧ ticksAsked [(source, text)] = 0 := by
  have hne : Text.trimmed text ≠ Command.shutdown.text := Command.trimmed_ne_text h (by decide)
  have hne' : Text.trimmed text ≠ Command.tick.text := Command.trimmed_ne_text h (by decide)
  rw [h] at hne hne'
  simp [driven, ticksAsked, beforeShutdown, h, hne, hne']

/-- An inert line does not drive the kernel. -/
theorem driven_of_inert (h : Inert text) : driven [(source, text)] = [] ∧ ticksAsked [(source, text)] = 0 := by
  have hne := inert_iff.mp h
  have htick := hne .tick (by decide)
  have hwake := hne .wake (by decide)
  have hshutdown := hne .shutdown (by decide)
  simp [driven, ticksAsked, beforeShutdown, hshutdown, htick, hwake]

end

/-! ## Sessions that are over -/

variable {s : Session}

/-- A session that is over stays as it is, whatever the line. -/
theorem after_of_over (source : Source) (text : String) (hdown : s.shutDown = true) :
    (s.exchange source (.line text)).after = s := by
  by_cases hknown : ∃ c : Command, Text.trimmed text = c.text
  · obtain ⟨c, hc⟩ := hknown
    have hperform := perform_line (Command.parse_eq_ok_iff.mpr hc) source s
    rw [exchange_error (hperform.trans (Action.map_error (dispatch_over source c hdown)))]
  · exact after_of_inert source s (.inr (not_exists.mp hknown))

/-- A session that is over stays as it is, whatever the lines. -/
theorem after_said_of_over (hdown : s.shutDown = true) (lines : List (Source × String)) : s.after (said lines) = s := by
  induction lines with
  | nil => rfl
  | cons line lines ih =>
    obtain ⟨source, text⟩ := line
    change (s.exchange source (.line text)).after.after (said lines) = s
    rw [after_of_over source text hdown, ih]

/-! ## Sessions that go on -/

/-- A line ends a session exactly if it holds the shutdown, or the session is over already. -/
theorem Hears.shutDown_iff {source : Source} {text : String} {answer : Except Halt Response} {s' : Session}
    (h : s.Hears source text answer s') :
    s'.shutDown = true ↔ s.shutDown = true ∨ Text.trimmed text = Command.shutdown.text := by
  cases h with
  | unknown hunknown => simp [hunknown .shutdown]
  | command hc hobeys =>
    cases hobeys with
    | refused c hdown => simp [hdown]
    | ended hup hsnapshot => simp [hc]
    | ticked hup => simp [hup, Command.trimmed_ne_text hc (d := .shutdown) (by decide)]
    | woken hup => simp [hup, Command.trimmed_ne_text hc (d := .shutdown) (by decide)]
    | reported hup => simp [hup, Command.trimmed_ne_text hc (d := .shutdown) (by decide)]

/-- The shutdown leaves the kernel as it is. -/
theorem Hears.kernel_of_shutdown {source : Source} {text : String} {answer : Except Halt Response} {s' : Session}
    (h : s.Hears source text answer s') (hend : Text.trimmed text = Command.shutdown.text) : s'.kernel = s.kernel := by
  cases h with
  | unknown => rfl
  | command hc hobeys =>
    obtain rfl := Command.eq_of_trimmed hc hend
    cases hobeys <;> rfl

/-- A session goes on after a line that does not hold the shutdown. -/
theorem Hears.goes_on {source : Source} {text : String} {answer : Except Halt Response} {s' : Session}
    (h : s.Hears source text answer s') (hup : s.shutDown = false) (hne : Text.trimmed text ≠ Command.shutdown.text) :
    s'.shutDown = false := by
  rw [Bool.eq_false_iff, ne_eq, h.shutDown_iff, hup]
  exact fun h => h.elim Bool.false_ne_true hne

/-- A session is over after lines exactly if one of them holds the shutdown, or it was over before. -/
theorem shutDown_after_iff (hs : s.kernel.Sound) {lines : List (Source × String)}
    (hroom : s.kernel.table.nextPid.toNat + Exchange.births (s.exchanges (said lines)) < UInt32.size) :
    (s.after (said lines)).shutDown = true ↔
      s.shutDown = true ∨ ∃ line ∈ lines, Text.trimmed line.2 = Command.shutdown.text := by
  induction lines generalizing s with
  | nil => simp [said, after]
  | cons line lines ih =>
    obtain ⟨source, text⟩ := line
    change s.kernel.table.nextPid.toNat + Exchange.births (s.exchange source (.line text) ::
      (s.exchange source (.line text)).after.exchanges (said lines)) < UInt32.size at hroom
    obtain ⟨es, ht, hrest⟩ := exists_takes_cons hs source (.line text) hroom
    have hlast := ih ht.after hrest
    change ((s.exchange source (.line text)).after.after (said lines)).shutDown = true ↔ _
    rw [hlast, (exchange_hears hs source text).shutDown_iff, List.exists_mem_cons_iff, or_assoc]

/-- In a session that goes on a line that does not hold the shutdown does what it drives the kernel to, and the clock
counts its tick. -/
theorem Hears.driven {source : Source} {text : String} {answer : Except Halt Response} {s' : Session}
    (h : s.Hears source text answer s') (hs : s.kernel.Sound) (hup : s.shutDown = false)
    (hne : Text.trimmed text ≠ Command.shutdown.text) :
    s' = s.after (driven [(source, text)]) ∧
      s'.kernel.clock = s.kernel.clock + UInt64.ofNat (ticksAsked [(source, text)]) := by
  have hinert : Inert text → s = s.after (Session.driven [(source, text)]) ∧
      s.kernel.clock = s.kernel.clock + UInt64.ofNat (ticksAsked [(source, text)]) := by
    intro h
    rw [(driven_of_inert source h).1, (driven_of_inert source h).2]
    exact ⟨rfl, (UInt64.add_zero _).symm⟩
  cases h with
  | unknown hunknown => exact hinert (.inr hunknown)
  | command hc hobeys =>
    cases hobeys with
    | refused c hdown => cases hup.symm.trans hdown
    | ended => exact absurd hc hne
    | reported => exact hinert (.inl hc)
    | ticked _ htick =>
      obtain ⟨hdriven, hasked⟩ := driven_of_tick source hc
      obtain ⟨outcome, es, k', htick', hticks⟩ := Kernel.exists_ticks hs.consistent hs.numbered source
      obtain ⟨rfl, rfl⟩ := EStateM.Result.ok.inj (htick'.symm.trans htick)
      have hrequest : Request.perform source (.command .tick) s = .ok (.replied (.ticked outcome)) _ :=
        Action.map_ok (dispatch_tick hup htick)
      have hx := exchange_ok hrequest
      rw [hdriven, hasked]
      exact ⟨(congrArg Exchange.after hx).symm, hticks.clock⟩
    | woken _ hwake =>
      obtain ⟨hdriven, hasked⟩ := driven_of_wake source hc
      obtain ⟨woken, es, k', hwake', hwakes⟩ := Kernel.exists_wakes hs.consistent
      obtain ⟨rfl, rfl⟩ := EStateM.Result.ok.inj (hwake'.symm.trans hwake)
      have hrequest : Request.perform source (.operation .wake) s = .ok (.answered (.woken woken)) _ :=
        Action.map_ok (onKernel_ok (Action.map_ok hwake))
      have hx := exchange_ok hrequest
      rw [hdriven, hasked]
      exact ⟨(congrArg Exchange.after hx).symm, hwakes.clock.trans (UInt64.add_zero _).symm⟩

/-- A kernel is after a session that was not over what the ticks and the wakes before the shutdown make of it, and the
clock counts these ticks. -/
theorem after_driven (hs : s.kernel.Sound) (hup : s.shutDown = false) {lines : List (Source × String)}
    (hroom : s.kernel.table.nextPid.toNat + Exchange.births (s.exchanges (said lines)) < UInt32.size) :
    (s.after (said lines)).kernel = (s.after (driven lines)).kernel ∧
      (s.after (said lines)).kernel.clock = s.kernel.clock + UInt64.ofNat (ticksAsked lines) := by
  induction lines generalizing s with
  | nil => exact ⟨rfl, (UInt64.add_zero _).symm⟩
  | cons line lines ih =>
    obtain ⟨source, text⟩ := line
    change s.kernel.table.nextPid.toNat + Exchange.births (s.exchange source (.line text) ::
      (s.exchange source (.line text)).after.exchanges (said lines)) < UInt32.size at hroom
    obtain ⟨es, ht, hroom'⟩ := exists_takes_cons hs source (.line text) hroom
    have hhears := exchange_hears hs source text
    change ((s.exchange source (.line text)).after.after (said lines)).kernel = _ ∧
      ((s.exchange source (.line text)).after.after (said lines)).kernel.clock = _
    by_cases hend : Text.trimmed text = Command.shutdown.text
    · have hdown := hhears.shutDown_iff.mpr (.inr hend)
      obtain ⟨hdriven, hasked⟩ := driven_of_shutdown source hend lines
      rw [hdriven, hasked, after_said_of_over hdown, hhears.kernel_of_shutdown hend]
      exact ⟨rfl, (UInt64.add_zero _).symm⟩
    · obtain ⟨hdriven, hasked⟩ := driven_cons source hend lines
      obtain ⟨hafter, hclock⟩ := hhears.driven hs hup hend
      obtain ⟨hkernel, hrest⟩ := ih ht.after (hhears.goes_on hup hend) hroom'
      rw [hdriven, hasked, after_append, ← hafter]
      refine ⟨hkernel, ?_⟩
      rw [hrest, hclock, UInt64.ofNat_add, UInt64.add_assoc]

/-! ## Every session -/

/-- Whatever was asked of a kernel since it booted: after a new session that is given lines the kernel is what the
ticks and the wakes before the shutdown make of it, and the clock counts these ticks; the session is over exactly if a
line holds the shutdown; every line is answered by what stands on it, by the kernel at that point, and by whether the
session is over by then; and inert lines that are left out are missing from the run, in which nothing else changes. -/
theorem normal_form {levels : UInt8} {k : Kernel Context} (hboot : Kernel.boot levels = .ok k)
    (requests : List (Source × Request)) {s : Session} (hnew : s = (after { kernel := k } requests).renewed)
    (lines : List (Source × String))
    (hroom : Exchange.births (exchanges { kernel := k } requests) + Exchange.births (s.exchanges (said lines)) <
      UInt32.size) :
    ((s.after (said lines)).kernel = (s.after (driven lines)).kernel ∧
      (s.after (said lines)).kernel.clock = s.kernel.clock + UInt64.ofNat (ticksAsked lines)) ∧
    ((s.after (said lines)).shutDown = true ↔ ∃ line ∈ lines, Text.trimmed line.2 = Command.shutdown.text) ∧
    (∀ older source text newer, lines = older ++ (source, text) :: newer →
      (s.after (said older)).Hears source text ((s.after (said older)).exchange source (.line text)).answer
        ((s.after (said older)).exchange source (.line text)).after ∧
      ((s.after (said older)).shutDown = true ↔ ∃ line ∈ older, Text.trimmed line.2 = Command.shutdown.text)) ∧
    ∀ marked : List (Bool × Source × String), marked.map Prod.snd = lines → (∀ l ∈ marked, l.1 = false → Inert l.2.2) →
      s.exchanges (said ((marked.filter Prod.fst).map Prod.snd)) =
        (((marked.map Prod.fst).zip (s.exchanges (said lines))).filter Prod.fst).map Prod.snd ∧
      s.after (said ((marked.filter Prod.fst).map Prod.snd)) = s.after (said lines) := by
  subst hnew
  have hbefore : Exchange.births (exchanges { kernel := k } requests) < UInt32.size := by omega
  obtain ⟨hsound, hnext⟩ := sound_after hboot hbefore
  have hs : (after { kernel := k } requests).renewed.kernel.Sound := hsound
  have hup : (after { kernel := k } requests).renewed.shutDown = false := rfl
  have hroom' : (after { kernel := k } requests).renewed.kernel.table.nextPid.toNat +
      Exchange.births ((after { kernel := k } requests).renewed.exchanges (said lines)) < UInt32.size := hnext ▸ hroom
  refine ⟨after_driven hs hup hroom', ?_, ?_, ?_⟩
  · simpa [hup] using shutDown_after_iff hs hroom'
  · rintro older source text newer rfl
    rw [said, List.map_append, exchanges_append, births_append] at hroom'
    have holder : (after { kernel := k } requests).renewed.kernel.table.nextPid.toNat +
        Exchange.births ((after { kernel := k } requests).renewed.exchanges (said older)) < UInt32.size :=
      Nat.lt_of_le_of_lt (Nat.add_le_add_left (Nat.le_add_right _ _) _) hroom'
    exact ⟨exchange_hears (sound_of_run hs holder).1 source text, by simpa [hup] using shutDown_after_iff hs holder⟩
  · rintro marked rfl h
    exact exchanges_thinned _ marked h

/-- Lines to try statements on, those marked that leave no trace: a tick with blanks around it, text that is no
command, a report, a wake, a tick, the shutdown, and a tick after it. -/
def lineSample : List (Bool × Source × String) :=
  [(true, " Q\t"), (false, "X"), (false, "P"), (true, "U"), (true, "Q"), (true, "T"), (true, "Q")].map
    fun (keep, text) =>
    (keep, Source.empty, text)

/-- In the sample two ticks and a wake count, the text that is no command is refused, and without it and the report
the session is the same after the lines. -/
theorem normal_form_sample :
    Kernel.boot 2 = .ok (Kernel.empty 2 : Kernel Context) ∧
      ∃ s : Session, s = (after { kernel := Kernel.empty 2 } (sample.map (Prod.mk Source.empty))).renewed ∧
        Exchange.births (exchanges { kernel := Kernel.empty 2 } (sample.map (Prod.mk Source.empty))) +
          Exchange.births (s.exchanges (said (lineSample.map Prod.snd))) < UInt32.size ∧
        (driven (lineSample.map Prod.snd)).map Prod.snd = [.command .tick, .operation .wake, .command .tick] ∧
        (s.after (said (lineSample.map Prod.snd))).kernel = (s.after (driven (lineSample.map Prod.snd))).kernel ∧
        (s.after (said (lineSample.map Prod.snd))).kernel.clock = s.kernel.clock + 2 ∧
        (s.after (said (lineSample.map Prod.snd))).shutDown = true ∧
        (∀ l ∈ lineSample, l.1 = false → Inert l.2.2) ∧
        s.after (said ((lineSample.filter Prod.fst).map Prod.snd)) = s.after (said (lineSample.map Prod.snd)) := by
  have hboot : Kernel.boot 2 = .ok (Kernel.empty 2 : Kernel Context) := rfl
  have hroom : Exchange.births (exchanges { kernel := Kernel.empty 2 } (sample.map (Prod.mk Source.empty))) +
      Exchange.births ((after { kernel := Kernel.empty 2 } (sample.map (Prod.mk Source.empty))).renewed.exchanges
        (said (lineSample.map Prod.snd))) < UInt32.size := by decide +kernel
  have hinert : ∀ l ∈ lineSample, l.1 = false → Inert l.2.2 := by decide +kernel
  obtain ⟨⟨hkernel, hclock⟩, hdown, -, hthinned⟩ := normal_form hboot _ rfl (lineSample.map Prod.snd) hroom
  have hasked : ticksAsked (lineSample.map Prod.snd) = 2 := by decide +kernel
  rw [hasked] at hclock
  refine ⟨hboot, _, rfl, hroom, by decide +kernel, hkernel, hclock, hdown.mpr ?_, hinert,
    (hthinned lineSample rfl hinert).2⟩
  decide +kernel

end Session
end Timeshare
