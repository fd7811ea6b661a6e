import Timeshare.Proofs.Acceptance
import Timeshare.Proofs.LineBytes
import Timeshare.Proofs.NormalForm

/-!
# What a console prints

A console is a session whose replies are printed. It hears the lines of its input up to the shutdown, and prints for
each what the session makes of it: a report for a report and for the shutdown, a fixed line for a line that is no
command, nothing for a tick or a wake. Its exit status is 1 exactly if it cannot start, or if it comes to a line that
is not UTF-8 (`Console.transcribes`).
-/

namespace Timeshare

namespace Console

/-- The texts of the lines up to and including the first that holds the shutdown; a line that is not UTF-8 ends them
before. -/
def heard : List (List UInt8) → List String
  | [] => []
  | line :: lines =>
    match Lines.text? line with
    | none => []
    | some text => if Text.trimmed text = "T" then [text] else text :: heard lines

/-- The lines come to a shutdown, or all of them are UTF-8. -/
def Completes (lines : List (List UInt8)) : Prop :=
  (∃ text ∈ heard lines, Text.trimmed text = "T") ∨ ∀ line ∈ lines, (Lines.text? line).isSome = true

instance (lines : List (List UInt8)) : Decidable (Completes lines) :=
  inferInstanceAs (Decidable ((∃ text ∈ heard lines, Text.trimmed text = "T") ∨
    ∀ line ∈ lines, (Lines.text? line).isSome = true))

/-- The exchanges of a session with the lines that a console hears. -/
def dialogue (source : Source) (s : Session) (lines : List (List UInt8)) : List Exchange :=
  s.exchanges (Session.said ((heard lines).map (Prod.mk source)))

/-- What is printed for an exchange. -/
def printed (format : ReportFormat) (x : Exchange) : String :=
  match x.answer with
  | .ok (.replied (.report snapshot)) | .ok (.replied (.shutdown snapshot)) =>
    match format with
    | .text => snapshot.text ++ "\n"
    | .json => snapshot.printed ++ "\n"
  | .error (.fault (.unknownCommand _)) => "Invalid command. Please enter Q, U, P, or T.\n"
  | _ => ""

/-- What a line has printed by what stands on it. A report shows the kernel in the format asked for, and so does the
shutdown. -/
inductive Prints (format : ReportFormat) (x : Exchange) : String → Prop where
  | text {line : String} {snapshot : Snapshot} (hformat : format = .text) (hline : x.request = .line line)
    (h : Text.trimmed line = "P" ∨ Text.trimmed line = "T") (hsnapshot : x.before.kernel.snapshot = .ok snapshot) :
    Prints format x (snapshot.text ++ "\n")
  | json {line : String} {snapshot : Snapshot} (hformat : format = .json) (hline : x.request = .line line)
    (h : Text.trimmed line = "P" ∨ Text.trimmed line = "T") (hsnapshot : x.before.kernel.snapshot = .ok snapshot) :
    Prints format x (snapshot.printed ++ "\n")
  | nothing {line : String} (hline : x.request = .line line) (h : Text.trimmed line = "Q" ∨ Text.trimmed line = "U") :
    Prints format x ""
  | rejection {line : String} (hline : x.request = .line line)
    (h : Text.trimmed line ≠ "Q" ∧ Text.trimmed line ≠ "U" ∧ Text.trimmed line ≠ "P" ∧ Text.trimmed line ≠ "T") :
    Prints format x "Invalid command. Please enter Q, U, P, or T.\n"

/-! ## One line -/

section

variable {source : Source} {console : Console} {format : ReportFormat} {text : String}

/-- A report of the kernel is printed in the format asked for. -/
theorem prints_snapshot {x : Exchange} {snapshot : Snapshot} (hline : x.request = .line text)
    (h : Text.trimmed text = "P" ∨ Text.trimmed text = "T") (hsnapshot : x.before.kernel.snapshot = .ok snapshot) :
    Prints format x (match format with
      | .text => snapshot.text ++ "\n"
      | .json => snapshot.printed ++ "\n") := by
  cases format with
  | text => exact .text rfl hline h hsnapshot
  | json => exact .json rfl hline h hsnapshot

/-- A session that goes on has printed for a line what stands on it. -/
theorem prints_of_hears {x : Exchange} (hline : x.request = .line text)
    (h : x.before.Hears source text x.answer x.after) (hup : x.before.shutDown = false) :
    Prints format x (printed format x) := by
  obtain ⟨request, before, answer, after⟩ := x
  change before.Hears source text answer after at h
  change before.shutDown = false at hup
  cases h with
  | unknown hunknown =>
    exact .rejection hline ⟨hunknown .tick, hunknown .wake, hunknown .inspect, hunknown .shutdown⟩
  | command htext hobeys =>
    cases hobeys with
    | refused c hdown => cases hup.symm.trans hdown
    | ticked => exact .nothing hline (.inl htext)
    | woken => exact .nothing hline (.inr htext)
    | reported _ hsnapshot => exact prints_snapshot hline (.inl htext) hsnapshot
    | ended _ hsnapshot => exact prints_snapshot hline (.inr htext) hsnapshot

/-- A session that goes on has printed for every line what stands on it. -/
theorem prints_exchange (format : ReportFormat) {s : Session} (hs : s.kernel.Sound) (hup : s.shutDown = false)
    (source : Source) (text : String) :
    Prints format (s.exchange source (.line text)) (printed format (s.exchange source (.line text))) := by
  have hhears := Session.exchange_hears hs source text
  obtain ⟨hbefore, hrequest⟩ := Session.exchange_before source s (.line text)
  exact prints_of_hears hrequest (by rwa [hbefore]) (by rwa [hbefore])

/-- A console prints what is printed for the exchange of its session. -/
theorem feedText_output (source : Source) (console : Console) (text : String) :
    (feedText source console text).output = printed console.format (console.session.exchange source (.line text)) := by
  cases hp : Session.submit source text console.session with
  | ok reply s' =>
    have hline : Request.perform source (.line text) console.session = .ok (.replied reply) s' := Action.map_ok hp
    rw [Session.exchange_ok hline]
    cases reply with
    | ticked | woken => simp [feedText, hp, printed, Reply.snapshot?]
    | report | shutdown =>
      simp only [feedText, hp, printed, Reply.snapshot?]
      cases console.format <;> rfl
  | error halt s' =>
    have hline : Request.perform source (.line text) console.session = .error halt s' := Action.map_error hp
    rw [Session.exchange_error hline]
    simp only [feedText, hp, printed]
    cases halt with
    | noSuchLevel => rfl
    | fault fault => cases fault <;> rfl

/-- A console whose session goes on ends with a line exactly if the line holds the shutdown; otherwise it goes on with
the session after it. -/
theorem feedText_next_eq (hs : console.session.kernel.Sound) (hup : console.session.shutDown = false)
    (source : Source) (text : String) :
    (feedText source console text).next = if Text.trimmed text = "T" then .error 0
      else .ok { console with session := (console.session.exchange source (.line text)).after } := by
  have hhears := Session.exchange_hears hs source text
  cases hp : Session.submit source text console.session with
  | ok reply s' =>
    have hline : Request.perform source (.line text) console.session = .ok (.replied reply) s' := Action.map_ok hp
    rw [Session.exchange_ok hline] at hhears ⊢
    have hends : reply.isShutdown = true ↔ Text.trimmed text = "T" := by
      cases hhears with
      | @command c _ _ htext hobeys =>
        have hshutdown : Text.trimmed text = "T" ↔ c = .shutdown :=
          ⟨fun h => Command.eq_of_trimmed htext h, fun h => by subst h; exact htext⟩
        rw [hshutdown]
        cases hobeys <;> simp [Reply.isShutdown]
    simp only [feedText, hp, hends]
  | error halt s' =>
    have hline : Request.perform source (.line text) console.session = .error halt s' := Action.map_error hp
    rw [Session.exchange_error hline] at hhears ⊢
    cases hhears with
    | unknown hunknown =>
      have hgoes : Text.trimmed text ≠ "T" := hunknown .shutdown
      rw [if_neg hgoes]
      simp only [feedText, hp]
    | command htext hobeys =>
      cases hobeys with
      | refused c hdown => cases hup.symm.trans hdown

end

/-! ## All lines -/

section

variable {source : Source} {console : Console}

/-- A line that is not UTF-8 is not heard, and nothing after it. -/
theorem heard_of_none {line : List UInt8} (htext : Lines.text? line = none) (lines : List (List UInt8)) :
    heard (line :: lines) = [] ∧ ¬Completes (line :: lines) := by
  have hheard : heard (line :: lines) = [] := by rw [heard, htext]
  refine ⟨hheard, ?_⟩
  rintro (⟨text, hmem, -⟩ | htexts)
  · rw [hheard] at hmem
    cases hmem
  · have hline := htexts line List.mem_cons_self
    rw [htext] at hline
    cases hline

/-- The line that holds the shutdown is the last to be heard. -/
theorem heard_of_shutdown {line : List UInt8} {text : String} (htext : Lines.text? line = some text)
    (hend : Text.trimmed text = "T") (lines : List (List UInt8)) :
    heard (line :: lines) = [text] ∧ Completes (line :: lines) := by
  have hheard : heard (line :: lines) = [text] := by
    rw [heard, htext]
    exact if_pos hend
  exact ⟨hheard, .inl ⟨text, hheard ▸ List.mem_cons_self, hend⟩⟩

/-- After any other line the rest is heard. -/
theorem heard_cons {line : List UInt8} {text : String} (htext : Lines.text? line = some text)
    (hend : Text.trimmed text ≠ "T") (lines : List (List UInt8)) :
    heard (line :: lines) = text :: heard lines ∧ (Completes (line :: lines) ↔ Completes lines) := by
  have hheard : heard (line :: lines) = text :: heard lines := by
    rw [heard, htext]
    exact if_neg hend
  refine ⟨hheard, ?_⟩
  rw [Completes, Completes, hheard, List.exists_mem_cons_iff, List.forall_mem_cons, htext]
  simp [hend]

/-- The exchange with a line that does not hold the shutdown comes before those with the rest. -/
theorem dialogue_cons {line : List UInt8} {text : String} (htext : Lines.text? line = some text)
    (hend : Text.trimmed text ≠ "T") (source : Source) (s : Session) (lines : List (List UInt8)) :
    dialogue source s (line :: lines) =
      s.exchange source (.line text) :: dialogue source (s.exchange source (.line text)).after lines := by
  rw [dialogue, (heard_cons htext hend lines).1]
  rfl

/-- A console on a sound kernel whose session goes on prints the dialogue of its session, and ends with status 0
exactly if its lines come to a shutdown or are all UTF-8. -/
theorem feedAll_eq {lines : List (List UInt8)} (hs : console.session.kernel.Sound)
    (hup : console.session.shutDown = false)
    (hroom : console.session.kernel.table.nextPid.toNat + Exchange.births (dialogue source console.session lines) <
      UInt32.size) :
    feedAll source console lines = (String.join ((dialogue source console.session lines).map (printed console.format)),
        if Completes lines then 0 else 1) ∧
      ∀ x ∈ dialogue source console.session lines, Prints console.format x (printed console.format x) := by
  induction lines generalizing console with
  | nil => exact ⟨rfl, fun x hx => absurd hx List.not_mem_nil⟩
  | cons line lines ih =>
    rw [feedAll]
    cases htext : Lines.text? line with
    | none =>
      have hfeed : feed source console line = { output := "", next := .error 1 } := by
        rw [Lines.text?] at htext
        rw [feed, htext]
      obtain ⟨hheard, hstops⟩ := heard_of_none htext lines
      rw [hfeed, dialogue, hheard, if_neg hstops]
      exact ⟨rfl, fun x hx => absurd hx List.not_mem_nil⟩
    | some text =>
      have houtput := feedText_output source console text
      have hnext := feedText_next_eq hs hup source text
      have hprints := prints_exchange console.format hs hup source text
      rw [feed_of_text htext]
      by_cases hend : Text.trimmed text = "T"
      · obtain ⟨hheard, hcompletes⟩ := heard_of_shutdown htext hend lines
        rw [if_pos hend] at hnext
        rw [dialogue, hheard, if_pos hcompletes]
        simp only [hnext, houtput, Session.said, Session.exchanges, List.map_cons, List.map_nil, String.join_cons]
        exact ⟨by simp, by simpa using hprints⟩
      · rw [if_neg hend] at hnext
        rw [dialogue_cons htext hend] at hroom ⊢
        obtain ⟨es, ht, hroom'⟩ := Session.exists_takes_cons hs source (.line text) hroom
        have hup' := (Session.exchange_hears hs source text).goes_on hup hend
        obtain ⟨hrest, hall⟩ :=
          @ih { console with session := (console.session.exchange source (.line text)).after } ht.after hup' hroom'
        simp only [hnext, hrest, houtput, List.map_cons, String.join_cons, (heard_cons htext hend lines).2]
        exact ⟨trivial, List.forall_mem_cons.mpr ⟨hprints, hall⟩⟩

/-- Where lines are all UTF-8 and none holds the shutdown, they are heard, and then what comes after them. -/
theorem heard_append {older : List (List UInt8)}
    (holder : ∀ line ∈ older, ∃ text, Lines.text? line = some text ∧ Text.trimmed text ≠ "T")
    (lines : List (List UInt8)) :
    heard (older ++ lines) = heard older ++ heard lines ∧ (Completes (older ++ lines) ↔ Completes lines) := by
  induction older with
  | nil => exact ⟨rfl, Iff.rfl⟩
  | cons line older ih =>
    rw [List.forall_mem_cons] at holder
    obtain ⟨⟨text, htext, hgoes⟩, holder⟩ := holder
    obtain ⟨hheard, hcompletes⟩ := ih holder
    obtain ⟨hcons, -⟩ := heard_cons htext hgoes older
    obtain ⟨hcons', hcompletes'⟩ := heard_cons htext hgoes (older ++ lines)
    rw [List.cons_append, hcons', hcompletes', hheard, hcompletes, hcons, List.cons_append]
    exact ⟨rfl, Iff.rfl⟩

/-- What comes after a line that holds the shutdown does not matter. -/
theorem heard_congr_of_shutdown {line : List UInt8} {text : String} (htext : Lines.text? line = some text)
    (hend : Text.trimmed text = "T") (older lines lines' : List (List UInt8)) :
    heard (older ++ line :: lines) = heard (older ++ line :: lines') ∧
      (Completes (older ++ line :: lines) ↔ Completes (older ++ line :: lines')) := by
  induction older with
  | nil =>
    obtain ⟨hheard, hcompletes⟩ := heard_of_shutdown htext hend lines
    obtain ⟨hheard', hcompletes'⟩ := heard_of_shutdown htext hend lines'
    exact ⟨hheard.trans hheard'.symm, iff_of_true hcompletes hcompletes'⟩
  | cons first older ih =>
    simp only [List.cons_append]
    cases hfirst : Lines.text? first with
    | none =>
      obtain ⟨hheard, hstops⟩ := heard_of_none hfirst (older ++ line :: lines)
      obtain ⟨hheard', hstops'⟩ := heard_of_none hfirst (older ++ line :: lines')
      exact ⟨hheard.trans hheard'.symm, iff_of_false hstops hstops'⟩
    | some text' =>
      by_cases hfirst' : Text.trimmed text' = "T"
      · obtain ⟨hheard, hcompletes⟩ := heard_of_shutdown hfirst hfirst' (older ++ line :: lines)
        obtain ⟨hheard', hcompletes'⟩ := heard_of_shutdown hfirst hfirst' (older ++ line :: lines')
        exact ⟨hheard.trans hheard'.symm, iff_of_true hcompletes hcompletes'⟩
      · obtain ⟨hheard, hcompletes⟩ := heard_cons hfirst hfirst' (older ++ line :: lines)
        obtain ⟨hheard', hcompletes'⟩ := heard_cons hfirst hfirst' (older ++ line :: lines')
        rw [hheard, hheard', hcompletes, hcompletes', ih.1, ih.2]
        exact ⟨rfl, Iff.rfl⟩

/-- The lines of a text that is UTF-8 complete. -/
theorem completes_ofBytes {input : List UInt8} (h : (Lines.text? input).isSome = true) :
    Completes (Lines.ofBytes input) := by
  obtain ⟨text, htext⟩ := Option.isSome_iff_exists.mp h
  refine .inr fun line hline => ?_
  have hmem : Lines.text? line ∈ (Lines.ofString text).map some :=
    Lines.texts_ofBytes htext ▸ List.mem_map_of_mem hline
  obtain ⟨line', -, hline'⟩ := List.mem_map.mp hmem
  rw [← hline']
  rfl

end

/-! ## The whole run -/

section

variable {lookup : String → Option String} {read : String → Except ReadFault ByteArray} {settings : Settings}
    {k : Kernel Context}

/-- Settings that are read are in range, so that a kernel boots with their levels. -/
theorem boot_of_read (h : Settings.read lookup = .ok settings) :
    ∃ k : Kernel Context, Kernel.boot settings.levels = .ok k := by
  have hrange := (Settings.read_eq_ok_iff.mp h).inRange
  exact ⟨_, Kernel.boot_eq_ok_iff.mpr ⟨Settings.levelsInRange_iff.mpr hrange, rfl⟩⟩

/-- The programs of a run. -/
def programs (read : String → Except ReadFault ByteArray) (settings : Settings) : Source :=
  Source.directory read settings.programDir

/-- The exchange that makes the first process of a run. -/
def firstExchange (read : String → Except ReadFault ByteArray) (settings : Settings) (k : Kernel Context) : Exchange :=
  opening (programs read settings) settings k

/-- The exchanges of a run with lines, after the first. -/
def conversation (read : String → Except ReadFault ByteArray) (settings : Settings) (k : Kernel Context)
    (lines : List (List UInt8)) :
    List Exchange :=
  dialogue (programs read settings) (firstExchange read settings k).after lines

/-- What a console does with its input once its first process is made. -/
structure Transcribes (lookup : String → Option String) (read : String → Except ReadFault ByteArray)
    (settings : Settings) (k : Kernel Context) (input : List UInt8) : Prop where
  /-- Its lines end at the line feeds of the input. -/
  lines : Lines.Cuts input (Lines.ofBytes input)
  /-- It hears the lines up to the shutdown, in order. -/
  requests : (conversation read settings k (Lines.ofBytes input)).map Exchange.request =
    (heard (Lines.ofBytes input)).map Request.line
  /-- It prints what the session makes of each. -/
  run : run lookup read input =
    (String.join ((conversation read settings k (Lines.ofBytes input)).map (printed settings.format)),
    if Completes (Lines.ofBytes input) then 0 else 1)
  /-- This goes by what stands on the line. -/
  prints : ∀ x ∈ conversation read settings k (Lines.ofBytes input),
    Prints settings.format x (printed settings.format x)
  /-- All of a text is accepted. -/
  encoded : (Lines.text? input).isSome = true → (Console.run lookup read input).2 = 0
  /-- At a line that is not UTF-8 it stops, after all that it printed for the lines before. -/
  broken : ∀ older line newer, Lines.ofBytes input = older ++ line :: newer →
    (∀ l ∈ older, ∃ text, Lines.text? l = some text ∧ Text.trimmed text ≠ "T") → Lines.text? line = none →
    Console.run lookup read input =
      (String.join ((conversation read settings k older).map (printed settings.format)), 1)
  /-- After the shutdown nothing matters. -/
  last : ∀ input' older line newer newer' text, Lines.ofBytes input = older ++ line :: newer →
    Lines.ofBytes input' = older ++ line :: newer' → Lines.text? line = some text → Text.trimmed text = "T" →
    Console.run lookup read input' = Console.run lookup read input

variable {input : List UInt8}

/-- A console prints its conversation. -/
theorem run_eq (hread : Settings.read lookup = .ok settings) (hboot : Kernel.boot settings.levels = .ok k)
    {response : Response} (hanswer : (firstExchange read settings k).answer = .ok response)
    (hroom : Exchange.births (firstExchange read settings k :: conversation read settings k (Lines.ofBytes input)) <
      UInt32.size) :
    run lookup read input =
      (String.join ((conversation read settings k (Lines.ofBytes input)).map (printed settings.format)),
        if Completes (Lines.ofBytes input) then 0 else 1) ∧
      ∀ x ∈ conversation read settings k (Lines.ofBytes input),
        Prints settings.format x (printed settings.format x) := by
  obtain ⟨hstart, hup⟩ := start_eq hboot (programs read settings)
  obtain ⟨hs, hnext⟩ := sound_opening hboot (programs read settings)
  change start (Source.directory read settings.programDir) settings =
    (firstExchange read settings k).answer.map _ at hstart
  change (firstExchange read settings k).after.kernel.table.nextPid.toNat =
    Exchange.births [firstExchange read settings k] at hnext
  rw [← List.singleton_append, Session.births_append, ← hnext] at hroom
  rw [hanswer] at hstart
  rw [run, hread]
  simp only [hstart, Except.map]
  exact feedAll_eq hs hup hroom

/-- A console whose first process is made transcribes its input. -/
theorem transcribes_of_first (hread : Settings.read lookup = .ok settings) (hboot : Kernel.boot settings.levels = .ok k)
    {response : Response} (hanswer : (firstExchange read settings k).answer = .ok response)
    (hroom : Exchange.births (firstExchange read settings k :: conversation read settings k (Lines.ofBytes input)) <
      UInt32.size) :
    Transcribes lookup read settings k input := by
  obtain ⟨hrun, hprints⟩ := run_eq hread hboot hanswer hroom
  refine { lines := Lines.cuts_ofBytes input, requests := ?_, run := hrun, prints := hprints, encoded := ?_,
           broken := ?_, last := ?_ }
  · rw [conversation, dialogue]
    refine (Session.exchanges_requests _ _).trans ?_
    rw [Session.said, List.map_map, List.map_map]
    rfl
  · intro htext
    rw [hrun, if_pos (completes_ofBytes htext)]
  · intro older line newer hlines holder htext
    obtain ⟨hheard, hstops⟩ := heard_of_none htext newer
    obtain ⟨hheard', hcompletes⟩ := heard_append holder (line :: newer)
    rw [hheard, List.append_nil] at hheard'
    rw [hrun, hlines, if_neg (fun h => hstops (hcompletes.mp h)), conversation, dialogue, hheard']
    rfl
  · intro input' older line newer newer' text hlines hlines' htext hend
    obtain ⟨hheard, hcompletes⟩ := heard_congr_of_shutdown htext hend older newer newer'
    rw [← hlines, ← hlines'] at hheard hcompletes
    have hsame :
        conversation read settings k (Lines.ofBytes input') = conversation read settings k (Lines.ofBytes input) := by
      rw [conversation, conversation, dialogue, dialogue, hheard]
    rw [hrun, (run_eq hread hboot hanswer (by rw [hsame]; exact hroom)).1, hsame]
    simp only [hcompletes]

/-- Whatever the variables, the files and the input: a console whose settings are refused, or whose first process
cannot be made, prints nothing and fails. Any other one, if it makes fewer processes than there are numbers, prints
line by line what a session on the kernel with its first process makes of its input. -/
theorem transcribes (lookup : String → Option String) (read : String → Except ReadFault ByteArray)
    (input : List UInt8) :
    (∀ fault, Settings.read lookup = .error fault → run lookup read input = ("", 1)) ∧
    ∀ settings, Settings.read lookup = .ok settings → ∃ k : Kernel Context, Kernel.boot settings.levels = .ok k ∧
      (∀ halt, (firstExchange read settings k).answer = .error halt → run lookup read input = ("", 1)) ∧
      ∀ response, (firstExchange read settings k).answer = .ok response →
        Exchange.births (firstExchange read settings k :: conversation read settings k (Lines.ofBytes input)) <
          UInt32.size →
        Transcribes lookup read settings k input := by
  refine ⟨fun fault hread => by rw [run, hread], fun settings hread => ?_⟩
  obtain ⟨k, hboot⟩ := boot_of_read hread
  refine ⟨k, hboot, fun halt hanswer => ?_,
    fun response hanswer hroom => transcribes_of_first hread hboot hanswer hroom⟩
  have hstart : start (Source.directory read settings.programDir) settings =
    (firstExchange read settings k).answer.map _ :=
    (start_eq hboot (programs read settings)).1
  rw [hanswer] at hstart
  rw [run, hread]
  simp only [hstart, Except.map]

/-- What the sample prints for a report. -/
def sampleReport : String := String.join [
  "****************************************************************\n",
  "The current system state is as follows:\n",
  "****************************************************************\n",
  "CURRENT TIME: 1\n",
  "RUNNING PROCESS:\n",
  "0 - 0 1000 0 0\n",
  "PROCESSES READY TO EXECUTE:\n",
  "Queue of processes with priority 0:\n",
  "Queue of processes with priority 1:\n",
  "Queue of processes with priority 2:\n",
  "Queue of processes with priority 3:\n",
  "****************************************************************\n"]

/-- A console without variables and without files that hears a tick, a report, a line that is no command and the
shutdown, and a line after it. -/
theorem transcribes_sample :
    heard (Lines.ofBytes "Q\nP\nX\r\n T\nQ\n".toUTF8.toList) = ["Q", "P", "X", " T"] ∧
    (∃ k : Kernel Context,
      Transcribes (fun _ => none) (fun _ => .error .missing) {} k "Q\nP\nX\r\n T\nQ\n".toUTF8.toList) ∧
    run (fun _ => none) (fun _ => .error .missing) "Q\nP\nX\r\n T\nQ\n".toUTF8.toList =
      (sampleReport ++ "Invalid command. Please enter Q, U, P, or T.\n" ++ sampleReport, 0) := by
  have hread : Settings.read (fun _ => none) = .ok {} := rfl
  obtain ⟨-, hall⟩ := transcribes (fun _ => none) (fun _ => .error .missing) "Q\nP\nX\r\n T\nQ\n".toUTF8.toList
  obtain ⟨k, hboot, -, htranscribes⟩ := hall {} hread
  obtain rfl : (Kernel.empty defaultLevels : Kernel Context) = k := Except.ok.inj hboot
  refine ⟨by decide +kernel, ⟨_, htranscribes (.answered (.created 0)) rfl ?_⟩, by decide +kernel⟩
  decide +kernel

/-- Variables ask for JSON and for one level. -/
example :
    run (List.lookup · [("PROCSIM_SNAPSHOT_FORMAT", "json"), ("PROCSIM_PRIORITY_LEVELS", "1")])
      (fun _ => .error .missing) "T".toUTF8.toList = (String.join [
        "\x7b\n",
        "  \"clock\": 0,\n",
        "  \"running\": \x7b\n",
        "    \"pid\": 0,\n",
        "    \"parent_pid\": null,\n",
        "    \"priority\": 0,\n",
        "    \"accumulator\": 0,\n",
        "    \"start_time\": 0,\n",
        "    \"cpu_time_used\": 0\n",
        "  \x7d,\n",
        "  \"blocked\": [],\n",
        "  \"ready\": [\n",
        "    \x7b\n",
        "      \"priority\": 0,\n",
        "      \"processes\": []\n",
        "    \x7d\n",
        "  ]\n",
        "\x7d\n"], 0) := by
  decide +kernel

end

end Console
end Timeshare
