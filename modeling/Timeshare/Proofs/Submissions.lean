import Timeshare.Proofs.Faults
import Timeshare.Proofs.Records

/-!
# Sessions by their lines

What a session makes of a line is decided by what is left of the line without the blanks around it, and by whether the
session is over (`Session.Hears`). So the lines that are no commands and those that ask for a report leave no trace,
nothing happens after the shutdown, and a kernel is after a session what the ticks and the wakes before the shutdown
make of it (`Session.normal_form`).
-/

namespace Timeshare

/-! ## What stands on a line -/

namespace Command

variable {line : String} {c d : Command}

/-- What is left of a line without the blanks around it is the line of a command exactly if it is the letter of the
command. -/
theorem trimmed_eq_text_iff : Text.trimmed line = c.text ↔ Text.trim line.toList = [c.letter] := by
  have htext : c.text = String.ofList [c.letter] := by cases c <;> rfl
  rw [htext, Text.trimmed, String.ofList_inj]

/-- A line holds a command exactly if it is the line of the command, but for blanks around it. -/
theorem parse_eq_ok_iff : parse line = .ok c ↔ Text.trimmed line = c.text := by
  rw [trimmed_eq_text_iff]
  unfold parse
  split
  all_goals
    rename_i h
    cases c <;> simp_all [letter]

/-- Any other line is refused, and named without the blanks around it. -/
theorem parse_of_forall_ne (h : ∀ c : Command, Text.trimmed line ≠ c.text) :
    parse line = .error (.unknownCommand (Text.trimmed line)) := by
  cases hparse : parse line with
  | ok c => exact absurd (parse_eq_ok_iff.mp hparse) (h c)
  | error fault =>
    unfold parse at hparse
    split at hparse
    case h_5 =>
      rw [← Except.error.inj hparse]
      rfl
    all_goals cases hparse

theorem eq_of_trimmed (h : Text.trimmed line = c.text) (h' : Text.trimmed line = d.text) : c = d :=
  Except.ok.inj ((parse_eq_ok_iff.mpr h).symm.trans (parse_eq_ok_iff.mpr h'))

theorem trimmed_ne_text (h : Text.trimmed line = c.text) (hne : c ≠ d) : Text.trimmed line ≠ d.text :=
  fun h' => hne (eq_of_trimmed h h')

end Command

namespace Session

variable {source : Source} {s : Session} {text : String}

/-! ## What a session makes of a command, and of a line -/

/-- What a session answers to a command, and what it is afterwards. -/
inductive Obeys (source : Source) (s : Session) : Command → Except Halt Response → Session → Prop where
  /-- After the shutdown every command is refused. -/
  | refused (c : Command) (hdown : s.shutDown = true) : Obeys source s c (.error (.fault .simulationEnded)) s
  | ticked (hup : s.shutDown = false) {outcome : StepOutcome} {k' : Kernel Context}
    (htick : tick source s.kernel = .ok outcome k') :
    Obeys source s .tick (.ok (.replied (.ticked outcome))) { s with kernel := k' }
  | woken (hup : s.shutDown = false) {woken : Option Pid} {k' : Kernel Context}
    (hwake : Kernel.wake s.kernel = .ok woken k') :
    Obeys source s .wake (.ok (.replied (.woken woken))) { s with kernel := k' }
  | reported (hup : s.shutDown = false) {snapshot : Snapshot} (hsnapshot : s.kernel.snapshot = .ok snapshot) :
    Obeys source s .inspect (.ok (.replied (.report snapshot))) s
  | ended (hup : s.shutDown = false) {snapshot : Snapshot} (hsnapshot : s.kernel.snapshot = .ok snapshot) :
    Obeys source s .shutdown (.ok (.replied (.shutdown snapshot))) { s with shutDown := true }

/-- What a session answers to a line, and what it is afterwards. -/
inductive Hears (source : Source) (s : Session) (text : String) : Except Halt Response → Session → Prop where
  /-- A line that holds no command is refused, whether the session is over or not. -/
  | unknown (h : ∀ c : Command, Text.trimmed text ≠ c.text) :
    Hears source s text (.error (.fault (.unknownCommand (Text.trimmed text)))) s
  | command {c : Command} {answer : Except Halt Response} {s' : Session} (h : Text.trimmed text = c.text)
    (hobeys : s.Obeys source c answer s') : Hears source s text answer s'

/-- A request that goes to the session as a command is obeyed as this command. -/
theorem obeys_of_perform (hs : s.kernel.Sound) {request : Request} {c : Command}
    (h : request.perform source s = (Response.replied <$> dispatch source c) s) :
    s.Obeys source c (s.exchange source request).answer (s.exchange source request).after := by
  have hok : ∀ {r : Reply} {s' : Session}, dispatch source c s = .ok r s' →
      s.exchange source request = { request := request, before := s, answer := .ok (.replied r), after := s' } :=
    fun hd => exchange_ok (h.trans (Action.map_ok hd))
  cases hdown : s.shutDown with
  | true =>
    rw [exchange_error (h.trans (Action.map_error (dispatch_over source c hdown)))]
    exact .refused c hdown
  | false =>
    obtain ⟨snapshot, hsnapshot⟩ := Kernel.exists_snapshot hs.consistent
    cases c with
    | tick =>
      obtain ⟨outcome, es, k', htick, -⟩ := Kernel.exists_ticks hs.consistent hs.numbered source
      rw [hok (dispatch_tick hdown htick)]
      exact .ticked hdown htick
    | wake =>
      obtain ⟨woken, es, k', hwake, -⟩ := Kernel.exists_wakes hs.consistent
      rw [hok (dispatch_wake source hdown hwake)]
      exact .woken hdown hwake
    | inspect =>
      have hd := dispatch_inspect source hdown
      rw [hsnapshot] at hd
      rw [hok hd]
      exact .reported hdown hsnapshot
    | shutdown =>
      have hd := dispatch_shutdown source hdown
      rw [hsnapshot] at hd
      rw [hok hd]
      exact .ended hdown hsnapshot

/-- A session on a sound kernel obeys every command. -/
theorem exchange_obeys (hs : s.kernel.Sound) (source : Source) (c : Command) :
    s.Obeys source c (s.exchange source (.command c)).answer (s.exchange source (.command c)).after :=
  obeys_of_perform hs rfl

/-- A line that holds no command is refused, and leaves the session as it is. -/
theorem exchange_unknown (source : Source) (s : Session) (h : ∀ c : Command, Text.trimmed text ≠ c.text) :
    s.exchange source (.line text) =
      { request := .line text, before := s, answer := .error (.fault (.unknownCommand (Text.trimmed text))),
        after := s } := by
  refine exchange_error ?_
  simp only [Request.perform, submit, Command.parse_of_forall_ne h]
  rfl

/-- A session on a sound kernel hears every line. -/
theorem exchange_hears (hs : s.kernel.Sound) (source : Source) (text : String) :
    s.Hears source text (s.exchange source (.line text)).answer (s.exchange source (.line text)).after := by
  by_cases hknown : ∃ c : Command, Text.trimmed text = c.text
  · obtain ⟨c, hc⟩ := hknown
    exact .command hc (obeys_of_perform hs (perform_line (Command.parse_eq_ok_iff.mpr hc) source s))
  · have hunknown : ∀ c : Command, Text.trimmed text ≠ c.text := not_exists.mp hknown
    rw [exchange_unknown source s hunknown]
    exact .unknown hunknown

/-! ## Lines that leave no trace -/

/-- A line that asks for a report, or that holds no command. -/
def Inert (text : String) : Prop :=
  Text.trimmed text = Command.inspect.text ∨ ∀ c : Command, Text.trimmed text ≠ c.text

/-- A line is inert unless it asks for a tick, a wake or the shutdown. -/
theorem inert_iff : Inert text ↔ ∀ c ∈ [Command.tick, Command.wake, Command.shutdown], Text.trimmed text ≠ c.text := by
  constructor
  · intro h c hc
    rcases h with hinspect | hunknown
    · refine Command.trimmed_ne_text hinspect ?_
      rintro rfl
      exact absurd hc (by decide)
    · exact hunknown c
  · intro h
    by_cases hinspect : Text.trimmed text = Command.inspect.text
    · exact .inl hinspect
    · refine .inr fun c => ?_
      cases c with
      | inspect => exact hinspect
      | _ => exact h _ (by decide)

instance (text : String) : Decidable (Inert text) := decidable_of_iff _ inert_iff.symm

/-- An inert line leaves every session as it is. -/
theorem after_of_inert (source : Source) (s : Session) (h : Inert text) :
    (s.exchange source (.line text)).after = s := by
  rcases h with hinspect | hunknown
  · have hperform := perform_line (Command.parse_eq_ok_iff.mpr hinspect) source s
    cases hdown : s.shutDown with
    | true => rw [exchange_error (hperform.trans (Action.map_error (dispatch_over source .inspect hdown)))]
    | false =>
      have hd := dispatch_inspect source hdown
      cases hsnapshot : s.kernel.snapshot <;> rw [hsnapshot] at hd
      · rw [exchange_error (hperform.trans (Action.map_error hd))]
      · rw [exchange_ok (hperform.trans (Action.map_ok hd))]
  · rw [exchange_unknown source s hunknown]

/-- The requests of a session that is given these lines, each with the programs that there are by then. -/
def said (lines : List (Source × String)) : List (Source × Request) :=
  lines.map fun (source, text) => (source, .line text)

/-- Lines that are left out, if they are inert, are missing from the run and nothing else changes: the other exchanges
are the same, and so is the session after them. -/
theorem exchanges_thinned (s : Session) (marked : List (Bool × Source × String))
    (h : ∀ l ∈ marked, l.1 = false → Inert l.2.2) :
    s.exchanges (said ((marked.filter Prod.fst).map Prod.snd)) =
        (((marked.map Prod.fst).zip (s.exchanges (said (marked.map Prod.snd)))).filter Prod.fst).map Prod.snd ∧
      s.after (said ((marked.filter Prod.fst).map Prod.snd)) = s.after (said (marked.map Prod.snd)) := by
  induction marked generalizing s with
  | nil => exact ⟨rfl, rfl⟩
  | cons l marked ih =>
    obtain ⟨keep, source, text⟩ := l
    rw [List.forall_mem_cons] at h
    obtain ⟨hrest, hlast⟩ := ih (s.exchange source (.line text)).after h.2
    cases keep with
    | true => exact ⟨congrArg (s.exchange source (.line text) :: ·) hrest, hlast⟩
    | false =>
      have hafter := after_of_inert source s (h.1 rfl)
      rw [hafter] at hrest hlast
      refine ⟨hrest.trans ?_, hlast.trans ?_⟩
      · change _ = (((marked.map Prod.fst).zip
          ((s.exchange source (.line text)).after.exchanges (said (marked.map Prod.snd)))).filter Prod.fst).map Prod.snd
        rw [hafter]
      · change _ = (s.exchange source (.line text)).after.after (said (marked.map Prod.snd))
        rw [hafter]

end Session
end Timeshare
