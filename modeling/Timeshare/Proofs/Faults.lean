import Mathlib
import Timeshare.Console
import Timeshare.Proofs.Refusals
import Timeshare.Proofs.Run

/-!
# No internal fault

The simulator is at fault itself where the scheduler names a process that the table has lost, or where a process is to
wait at a level that there is not. A sound kernel does neither, whatever it is asked: it does it, or it refuses it for
a reason that lies in what was asked (`Kernel.Serves`). So no run of a kernel that booted comes to an internal fault,
and a console that has started ends with its input or a shutdown (`Session.no_internal_fault`).
-/

namespace Timeshare

/-- Whether the halt means that the simulator itself is at fault: the fault is fatal, or there is no such queue. -/
def Halt.isInternal : Halt → Bool
  | fault f => f.isFatal
  | noSuchLevel _ => true

namespace Kernel

variable {k : Kernel Context}

/-! ## Reports -/

theorem infoOf_ok {pid : Pid} {r : ProcessRecord Context} (hr : k.table.get? pid = some r) :
    k.infoOf pid = .ok r.info := by
  rw [infoOf, hr]

/-- Each level of a consistent kernel can be reported. -/
theorem exists_readyLevel (hk : k.Consistent) (level : Priority) : ∃ entry, k.readyLevel level = .ok entry := by
  obtain ⟨infos, hinfos⟩ : ∃ infos, (k.queues.readyAt level).mapM k.infoOf = .ok infos :=
    exists_mapM_ok fun pid hpid => by
    obtain ⟨r, hr, -⟩ := hk.exists_ready hpid
    exact ⟨_, infoOf_ok hr⟩
  exact ⟨{ priority := level, processes := infos }, by rw [readyLevel, hinfos]; rfl⟩

/-- The running process of a consistent kernel can be reported. -/
theorem exists_runningInfo (hk : k.Consistent) : ∃ info, k.running.mapM k.infoOf = .ok info := by
  cases hrun : k.running with
  | none => exact ⟨none, rfl⟩
  | some pid =>
    obtain ⟨r, hr⟩ := hk.exists_running hrun
    exact ⟨some r.info, by rw [Option.mapM_some, infoOf_ok hr]; rfl⟩

/-- A consistent kernel can be reported. -/
theorem exists_snapshot (hk : k.Consistent) : ∃ snapshot, k.snapshot = .ok snapshot := by
  obtain ⟨running, hrunning⟩ := exists_runningInfo hk
  obtain ⟨blocked, hblocked⟩ : ∃ infos, k.queues.blocked.mapM k.infoOf = .ok infos := exists_mapM_ok fun pid hpid => by
    obtain ⟨r, hr⟩ := hk.exists_blocked hpid
    exact ⟨_, infoOf_ok hr⟩
  obtain ⟨ready, hready⟩ : ∃ entries, k.levelList.mapM k.readyLevel = .ok entries :=
    exists_mapM_ok fun level _ => exists_readyLevel hk level
  refine ⟨{ clock := k.clock, running := running, blocked := blocked, ready := ready }, ?_⟩
  rw [snapshot, hrunning, hblocked, hready]
  rfl

/-! ## Operations -/

/-- A process is made under the next number, or it is refused for a reason that lies in what was asked. -/
theorem perform_making (hk : k.Consistent) (hn : k.Numbered) {source : Source} {op : Operation} {priority : Priority}
    {program : Except Fault Program} (hop : op.making? source = some (priority, program)) :
    (∃ k', op.perform source k = .ok (.created k.table.nextPid) k') ∨
      ∃ fault, op.perform source k = .error (.fault fault) k ∧ fault.isFatal = false := by
  rw [perform_of_making? hop]
  cases program with
  | error fault => exact .inr ⟨fault, Action.map_error rfl, Operation.isFatal_of_making hop⟩
  | ok p =>
    rcases createParsed_cases hk hn priority p with ⟨es, k', hok, -⟩ | herr
    · exact .inl ⟨k', Action.map_ok hok⟩
    · exact .inr ⟨_, Action.map_error herr, rfl⟩

/-- What a kernel does when it is asked: it steps, charges, wakes and reports, and it makes every process that it can
make. The levels of its processes exist, and the step fetches an instruction only where the program has one. -/
structure Serves (k : Kernel Context) : Prop where
  steps : ∀ source, ∃ outcome k', step source k = .ok outcome k'
  schedules : ∃ k', reschedule k = .ok k'.running k'
  wakes : ∃ woken k', wake k = .ok woken k'
  reports : ∃ snapshot, k.snapshot = .ok snapshot
  makes : ∀ source (op : Operation) priority program, op.making? source = some (priority, program) →
    (∃ k', op.perform source k = .ok (.created k.table.nextPid) k') ∨
      ∃ fault, op.perform source k = .error (.fault fault) k ∧ fault.isFatal = false
  leveled : ∀ pid r, k.table.get? pid = some r → r.priority < k.queues.levels
  fetches : ∀ source pid r, k.running = some pid → k.table.get? pid = some r → r.context.exhausted = false →
    ∃ h : r.context.programCounter.toNat < r.context.program.length,
      step source k = execute source pid (r.context.program.get ⟨r.context.programCounter.toNat, h⟩) k

/-- An operation is carried out, or it is refused for a reason that lies in what was asked. -/
theorem perform_cases (hk : k.Sound) (source : Source) (op : Operation) :
    (∃ a k', op.perform source k = .ok a k') ∨
      ∃ fault, op.perform source k = .error (.fault fault) k ∧ fault.isFatal = false := by
  have hmaking : ∀ {making}, op.making? source = some making → (∃ a k', op.perform source k = .ok a k') ∨
      ∃ fault, op.perform source k = .error (.fault fault) k ∧ fault.isFatal = false := by
    rintro ⟨priority, program⟩ hop
    exact (perform_making hk.consistent hk.numbered hop).imp_left fun ⟨k', h⟩ => ⟨_, k', h⟩
  cases op with
  | create priority lines => exact hmaking rfl
  | createFrom priority name =>
    cases hop : (Operation.createFrom priority name).making? source with
    | some making => exact hmaking hop
    | none =>
      simp only [Operation.making?] at hop
      split at hop <;> cases hop
  | createParsed priority program => exact hmaking rfl
  | step =>
    obtain ⟨outcome, es, k', hstep, -⟩ := exists_steps hk.consistent hk.numbered source
    exact .inl ⟨_, k', Action.map_ok hstep⟩
  | reschedule =>
    obtain ⟨es, k', hsettle, -⟩ := exists_settles hk.consistent
    exact .inl ⟨_, k', Action.map_ok hsettle⟩
  | wake =>
    obtain ⟨woken, es, k', hwake, -⟩ := exists_wakes hk.consistent
    exact .inl ⟨_, k', Action.map_ok hwake⟩
  | advanceClock => exact .inl ⟨_, _, Action.map_ok (advanceClock_apply k)⟩

/-- A step of a process that is not past its last instruction executes the one at its place. -/
theorem step_of_not_exhausted {source : Source} {pid : Pid} {r : ProcessRecord Context} (hrun : k.running = some pid)
    (hr : k.table.get? pid = some r) (hplace : r.context.exhausted = false) :
    ∃ h : r.context.programCounter.toNat < r.context.program.length,
      step source k = execute source pid (r.context.program.get ⟨r.context.programCounter.toNat, h⟩) k := by
  have hlt : r.context.programCounter.toNat < r.context.program.length := by
    simpa [Context.exhausted] using hplace
  refine ⟨hlt, ?_⟩
  have hnext : Machine.next? r.context = some (r.context.program.get ⟨r.context.programCounter.toNat, hlt⟩) :=
    List.getElem?_eq_getElem hlt
  simp only [step_apply, hrun, hr, hnext]

/-- A sound kernel does all that it is asked. -/
theorem Sound.serves (hk : k.Sound) : k.Serves where
  steps := fun source => by
    obtain ⟨outcome, es, k', hstep, -⟩ := exists_steps hk.consistent hk.numbered source
    exact ⟨outcome, k', hstep⟩
  schedules := by
    obtain ⟨es, k', hsettle, -⟩ := exists_settles hk.consistent
    exact ⟨k', hsettle⟩
  wakes := by
    obtain ⟨woken, es, k', hwake, -⟩ := exists_wakes hk.consistent
    exact ⟨woken, k', hwake⟩
  reports := exists_snapshot hk.consistent
  makes := fun _ _ _ _ hop => perform_making hk.consistent hk.numbered hop
  leveled := fun pid r hr => (lt_levels_iff hk.consistent _).mpr (hk.consistent.standing_of_get? hr).level
  fetches := fun _ _ _ hrun hr hplace => step_of_not_exhausted hrun hr hplace

end Kernel

namespace Session

variable {s : Session} {source : Source}

/-! ## Requests -/

/-- A session that is not shut down carries out every command: a tick does a step, and nothing but the last command
ends it. -/
theorem exists_dispatch_ok (hs : s.kernel.Sound) (hdown : s.shutDown = false) (source : Source) (c : Command) :
    ∃ reply s', dispatch source c s = .ok reply s' ∧ (s'.shutDown = true ↔ c = .shutdown) ∧
      ((Response.replied reply).ticked?.isSome = true ↔ c = .tick) := by
  obtain ⟨snapshot, hsnapshot⟩ := Kernel.exists_snapshot hs.consistent
  cases c with
  | tick =>
    obtain ⟨outcome, es, k', htick, -⟩ := Kernel.exists_ticks hs.consistent hs.numbered source
    exact ⟨_, _, dispatch_tick hdown htick, by simp [hdown], by simp [Response.ticked?]⟩
  | wake =>
    obtain ⟨woken, es, k', hwake, -⟩ := Kernel.exists_wakes hs.consistent
    exact ⟨_, _, dispatch_wake source hdown hwake, by simp [hdown], by simp [Response.ticked?]⟩
  | inspect =>
    rw [dispatch_inspect source hdown, hsnapshot]
    exact ⟨_, _, rfl, by simp [hdown], by simp [Response.ticked?]⟩
  | shutdown =>
    rw [dispatch_shutdown source hdown, hsnapshot]
    exact ⟨_, _, rfl, by simp, by simp [Response.ticked?]⟩

/-- A command is refused only because the session is over. -/
theorem dispatch_error (hs : s.kernel.Sound) {c : Command} {halt : Halt} {s' : Session}
    (h : dispatch source c s = .error halt s') : halt = .fault .simulationEnded := by
  cases hdown : s.shutDown with
  | true =>
    exact (EStateM.Result.error.inj (h.symm.trans (dispatch_over source c hdown))).1
  | false =>
    obtain ⟨reply, s'', hd, -⟩ := exists_dispatch_ok hs hdown source c
    cases hd.symm.trans h

/-- A line is refused only because it is no command or because the session is over. -/
theorem submit_error (hs : s.kernel.Sound) {line : String} {halt : Halt} {s' : Session}
    (h : submit source line s = .error halt s') :
    (∃ text, halt = .fault (.unknownCommand text)) ∨ halt = .fault .simulationEnded := by
  unfold submit at h
  cases hparse : Command.parse line with
  | ok c =>
    rw [hparse] at h
    exact .inr (dispatch_error hs h)
  | error fault =>
    rw [hparse] at h
    obtain rfl := (EStateM.Result.error.inj h).1
    obtain ⟨text, rfl⟩ := Command.exists_of_parse_error hparse
    exact .inl ⟨text, rfl⟩

/-- What is refused in an exchange is refused when the request is carried out. -/
theorem perform_of_answer_error {request : Request} {halt : Halt}
    (h : (s.exchange source request).answer = .error halt) :
    ∃ s', request.perform source s = .error halt s' := by
  cases hp : request.perform source s with
  | ok response s' =>
    rw [exchange_ok hp] at h
    cases h
  | error halt' s' =>
    rw [exchange_error hp] at h
    obtain rfl := Except.error.inj h
    exact ⟨s', rfl⟩

/-- No request on a sound kernel is answered by an internal fault. -/
theorem isInternal_of_answer (hs : s.kernel.Sound) {request : Request} {halt : Halt}
    (h : (s.exchange source request).answer = .error halt) : halt.isInternal = false := by
  obtain ⟨s', hp⟩ := perform_of_answer_error h
  cases request with
  | operation op =>
    have hop := Action.of_map_error hp
    rcases Kernel.perform_cases hs source op with ⟨a, k', hok⟩ | ⟨fault, herr, hfault⟩
    · rw [onKernel_ok hok] at hop
      cases hop
    · rw [onKernel_error herr] at hop
      obtain rfl := (EStateM.Result.error.inj hop).1
      exact hfault
  | command c =>
    rw [dispatch_error hs (Action.of_map_error hp)]
    rfl
  | line text =>
    rcases submit_error hs (Action.of_map_error hp) with ⟨text', rfl⟩ | rfl <;> rfl
  | newSession => cases hp

end Session

/-! ## Consoles -/

/-- The text of a line of bytes, if it is UTF-8. -/
def Lines.text? (line : List UInt8) : Option String := String.fromUTF8? (ByteArray.mk line.toArray)

namespace Console

variable {source : Source} {console : Console}

/-- The lines of text that a console passes to its session, one after the other. -/
def requests (source : Source) (lines : List (List UInt8)) : List (Source × Request) :=
  (lines.filterMap Lines.text?).map fun text => (source, .line text)

/-- A line of text ends a console on a sound kernel only if it shuts the session down, and then with status 0.
Otherwise the session that goes on is the one after the line. -/
theorem feedText_next (hs : console.session.kernel.Sound) (source : Source) (text : String) :
    (feedText source console text).next = .error 0 ∨
      (feedText source console text).next =
        .ok { console with session := (console.session.exchange source (.line text)).after } := by
  cases hp : Session.submit source text console.session with
  | ok reply s' =>
    have hline : Request.perform source (.line text) console.session = .ok (.replied reply) s' := Action.map_ok hp
    have hafter : (console.session.exchange source (.line text)).after = s' := by rw [Session.exchange_ok hline]
    simp only [feedText, hp, hafter]
    by_cases hdown : reply.isShutdown = true
    · exact .inl (if_pos hdown)
    · exact .inr (if_neg hdown)
  | error halt s' =>
    have hline : Request.perform source (.line text) console.session = .error halt s' := Action.map_error hp
    have hafter : (console.session.exchange source (.line text)).after = s' := by rw [Session.exchange_error hline]
    refine .inr ?_
    rcases Session.submit_error hs hp with ⟨text', rfl⟩ | rfl
    · simp only [feedText, hp, hafter]
    · simp only [feedText, hp, hafter]
      rfl

/-- A line that is UTF-8 leads to what its text leads to. -/
theorem feed_of_text {line : List UInt8} {text : String} (h : Lines.text? line = some text) :
    feed source console line = feedText source console text := by
  rw [Lines.text?] at h
  rw [feed, h]

/-- A console on a sound kernel ends with status 0 if all its lines are UTF-8. -/
theorem feedAll_status (hs : console.session.kernel.Sound) {lines : List (List UInt8)}
    (htexts : ∀ line ∈ lines, (Lines.text? line).isSome = true)
    (hroom : console.session.kernel.table.nextPid.toNat +
      Exchange.births (console.session.exchanges (requests source lines)) < UInt32.size) :
    (feedAll source console lines).2 = 0 := by
  induction lines generalizing console with
  | nil => rfl
  | cons line lines ih =>
    rw [List.forall_mem_cons] at htexts
    obtain ⟨text, htext⟩ := Option.isSome_iff_exists.mp htexts.1
    have hrequests : requests source (line :: lines) = (source, .line text) :: requests source lines := by
      rw [requests, List.filterMap_cons_some htext, List.map_cons]
      rfl
    rw [hrequests, Session.exchanges] at hroom
    obtain ⟨es, ht, hrest⟩ := Session.exists_takes_cons hs source (.line text) hroom
    rw [feedAll, feed_of_text htext]
    rcases feedText_next hs source text with hend | hnext
    · simp only [hend]
    · have hlast :
        (feedAll source { console with session := (console.session.exchange source (.line text)).after } lines).2 = 0 :=
        ih ht.after htexts.2 hrest
      simp only [hnext]
      exact hlast

/-- The operation that makes the first process: of the initial program, or of the built-in one, at the most urgent
level. -/
def initOperation (settings : Settings) : Operation :=
  match settings.initProgram with
  | some name => .createFrom 0 name
  | none => .create 0 initProgram

/-- The exchange that makes the first process. -/
def opening (source : Source) (settings : Settings) (k : Kernel Context) : Exchange :=
  Session.exchange source { kernel := k } (.operation (initOperation settings))

/-- The opening makes the process that a console makes. -/
theorem perform_initOperation (source : Source) (settings : Settings) :
    (initOperation settings).perform source = Answer.created <$> createInit source settings := by
  unfold initOperation createInit
  cases settings.initProgram <;> rfl

/-- In a kernel that booted a console starts exactly if its opening is answered, and with the session after it. -/
theorem start_eq {settings : Settings} {k : Kernel Context} (hboot : Kernel.boot settings.levels = .ok k)
    (source : Source) :
    start source settings = (opening source settings k).answer.map (fun _ =>
        { format := settings.format, session := (opening source settings k).after }) ∧
      (opening source settings k).after.shutDown = false := by
  rw [start, hboot]
  cases hinit : createInit source settings k with
  | error halt k' =>
    have hperform : (initOperation settings).perform source k = .error halt k' := by
      rw [perform_initOperation, Action.map_error hinit]
    have hrequest :
      Request.perform source (.operation (initOperation settings)) { kernel := k } = .error halt { kernel := k' } :=
      Action.map_error (Session.onKernel_error (s := { kernel := k }) hperform)
    simp only [hinit]
    rw [opening, Session.exchange_error hrequest]
    exact ⟨rfl, rfl⟩
  | ok pid k' =>
    have hperform : (initOperation settings).perform source k = .ok (.created pid) k' := by
      rw [perform_initOperation, Action.map_ok hinit]
    have hrequest : Request.perform source (.operation (initOperation settings)) { kernel := k } =
        .ok (.answered (.created pid)) { kernel := k' } :=
      Action.map_ok (Session.onKernel_ok (s := { kernel := k }) hperform)
    simp only [hinit]
    rw [opening, Session.exchange_ok hrequest]
    exact ⟨rfl, rfl⟩

/-- A console that starts has made its first process in a kernel that booted. -/
theorem exists_of_start {settings : Settings} (h : start source settings = .ok console) :
    ∃ k, Kernel.boot settings.levels = .ok k ∧ console.session = (opening source settings k).after := by
  cases hboot : Kernel.boot settings.levels with
  | error fault =>
    rw [start, hboot] at h
    cases h
  | ok k =>
    rw [(start_eq hboot source).1] at h
    cases hanswer : (opening source settings k).answer with
    | error halt =>
      rw [hanswer] at h
      cases h
    | ok response =>
      rw [hanswer] at h
      exact ⟨k, rfl, congrArg Console.session (Except.ok.inj h).symm⟩

/-- The opening leaves a sound kernel, with the number of the next process as many as were born. -/
theorem sound_opening {settings : Settings} {k : Kernel Context} (hboot : Kernel.boot settings.levels = .ok k)
    (source : Source) :
    (opening source settings k).after.kernel.Sound ∧
      (opening source settings k).after.kernel.table.nextPid.toNat = Exchange.births [opening source settings k] := by
  have hone : Exchange.births [opening source settings k] ≤ 1 := List.length_filterMap_le _ _
  have hsize : 1 < UInt32.size := by decide
  have hnext := Session.toNat_nextPid_of_boot hboot
  have hroom : k.table.nextPid.toNat + Exchange.births [opening source settings k] < UInt32.size := by omega
  obtain ⟨es, ht⟩ := Session.exists_takes (s := { kernel := k }) (Kernel.sound_of_boot hboot) source
    (.operation (initOperation settings)) hroom
  have hborn : (opening source settings k).after.kernel.table.nextPid.toNat =
    k.table.nextPid.toNat + Exchange.births [opening source settings k] := ht.next
  exact ⟨ht.after, by omega⟩

/-- A console that starts ends with status 0 if all its lines are UTF-8. -/
theorem status_of_start {settings : Settings} (h : start source settings = .ok console) {lines : List (List UInt8)}
    (htexts : ∀ line ∈ lines, (Lines.text? line).isSome = true)
    (hroom : Exchange.births (console.session.exchanges (requests source lines)) + 1 < UInt32.size) :
    (feedAll source console lines).2 = 0 := by
  obtain ⟨k, hboot, hsession⟩ := exists_of_start h
  obtain ⟨hs, hnext⟩ := sound_opening hboot source
  have hone : Exchange.births [opening source settings k] ≤ 1 := List.length_filterMap_le _ _
  rw [← hsession] at hs hnext
  exact feedAll_status hs htexts (by omega)

end Console

namespace Session

/-- Whatever was asked of a kernel since it booted: no answer was an internal fault, and none is to come. The kernel
does all that it is asked, a session on it that is not shut down carries out every command, and a console that starts
is never stopped by a fault. -/
theorem no_internal_fault {levels : UInt8} {k : Kernel Context} (hboot : Kernel.boot levels = .ok k)
    (requests : List (Source × Request)) (hroom : Exchange.births (exchanges { kernel := k } requests) < UInt32.size) :
    (∀ fault : Fault, fault.isFatal = true ↔ ∃ pid, fault = .missingProcess pid) ∧
    (∀ x ∈ exchanges { kernel := k } requests, ∀ halt, x.answer = .error halt → halt.isInternal = false) ∧
    (after { kernel := k } requests).kernel.Serves ∧
    ((after { kernel := k } requests).shutDown = false →
      ∀ source c, ∃ reply s', dispatch source c (after { kernel := k } requests) = .ok reply s') ∧
    ∀ source settings console lines, Console.start source settings = .ok console →
      (∀ line ∈ lines, (Lines.text? line).isSome = true) →
      Exchange.births (console.session.exchanges (Console.requests source lines)) + 1 < UInt32.size →
      (Console.feedAll source console lines).2 = 0 := by
  have hsound := (sound_after hboot hroom).1
  refine ⟨fun _ => Fault.isFatal_iff, fun x hx halt hanswer => ?_, hsound.serves, fun hdown source c => ?_,
    fun source settings console lines hstart htexts hrest => Console.status_of_start hstart htexts hrest⟩
  · obtain ⟨older, newer, hsplit⟩ := List.append_of_mem hx
    obtain ⟨before, source, request, rest, es, -, -, rfl, -, ht, -, -⟩ := takes_of_split hboot hroom hsplit
    exact isInternal_of_answer ht.before hanswer
  · obtain ⟨reply, s', hd, -⟩ := exists_dispatch_ok hsound hdown source c
    exact ⟨reply, s', hd⟩

/-- After the sample the kernel does all that it is asked, and a console with the built-in program comes to its
shutdown. -/
theorem no_internal_fault_sample :
    Kernel.boot 2 = .ok (Kernel.empty 2 : Kernel Context) ∧
      Exchange.births (exchanges { kernel := Kernel.empty 2 } (sample.map (Prod.mk Source.empty))) < UInt32.size ∧
      (after { kernel := Kernel.empty 2 } (sample.map (Prod.mk Source.empty))).kernel.Serves ∧
      ∃ console, Console.start Source.empty {} = .ok console ∧
        (∀ line ∈ [[81], [85], [88], [84]], (Lines.text? line).isSome = true) ∧
        Exchange.births (console.session.exchanges (Console.requests Source.empty [[81], [85], [88], [84]])) + 1 <
          UInt32.size ∧
        (Console.feedAll Source.empty console [[81], [85], [88], [84]]).2 = 0 := by
  have hboot : Kernel.boot 2 = .ok (Kernel.empty 2 : Kernel Context) := rfl
  have hroom : Exchange.births (exchanges { kernel := Kernel.empty 2 } (sample.map (Prod.mk Source.empty))) <
      UInt32.size := by
    decide +kernel
  obtain ⟨-, -, hserves, -, hconsole⟩ := no_internal_fault hboot _ hroom
  have htexts : ∀ line ∈ [[81], [85], [88], [84]], (Lines.text? line).isSome = true := by decide +kernel
  refine ⟨hboot, hroom, hserves, _, rfl, htexts, ?_, hconsole _ {} _ _ rfl htexts ?_⟩
  · decide +kernel
  · decide +kernel

end Session

end Timeshare
