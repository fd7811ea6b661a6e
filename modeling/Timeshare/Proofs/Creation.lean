import Timeshare.Proofs.Census
import Timeshare.Proofs.Programs

/-!
# Processes are made or refused as a whole

A process is made exactly if its program can be had and its level exists, and the program is looked at first
(`Kernel.Screens`). All of this is looked at before anything changes, and nothing that comes after it can fail on a
sound kernel. So a refusal leaves no trace: a run without the requests that are refused is the same run
(`Session.creation_atomic`).
-/

namespace Timeshare

open Timeshare.Action

/-! ## What is granted and what is refused -/

/-- What a kernel of so many levels grants and refuses when a process is to be made. -/
structure Kernel.Screens (k : Kernel Context) (levels : UInt8) : Prop where
  /-- A process of these lines is made exactly if each of them is of blanks or can be read, and the level exists. -/
  create : ∀ priority lines,
    (∃ pid k', Kernel.create priority lines k = .ok pid k') ↔ Program.Readable lines ∧ priority < levels
  /-- The first line that cannot be read is refused, whatever the level. -/
  stops : ∀ priority lines fault, Program.Stops lines fault → Kernel.create priority lines k = .error (.fault fault) k
  /-- A level that does not exist is refused once all lines could be read. -/
  invalid : ∀ priority lines, Program.Readable lines → ¬priority < levels →
    Kernel.create priority lines k = .error (.fault (.invalidPriority priority levels)) k
  /-- A program that does not load is refused as such, whatever the level. -/
  unavailable : ∀ (source : Source) priority name fault, source name = .error fault →
    Kernel.createFrom source priority name k = .error (.fault (.programUnavailable name fault.message)) k
  /-- Nothing else is refused so. -/
  available : ∀ (source : Source) priority name program reason k',
    Kernel.createFrom source priority name k = .error (.fault (.programUnavailable program reason)) k' →
      ∃ fault, source name = .error fault
  /-- A program that loads is its lines. -/
  loaded : ∀ (source : Source) priority name lines, source name = .ok lines →
    Kernel.createFrom source priority name k = Kernel.create priority lines k
  /-- A process of a program that is there is made exactly if the level exists. -/
  createParsed : ∀ priority program, (∃ pid k', Kernel.createParsed priority program k = .ok pid k') ↔ priority < levels
  /-- Whoever is refused is refused for a reason that is told, and the kernel stays as it is. -/
  atomic : ∀ source (op : Operation) making halt k', op.making? source = some making →
    op.perform source k = .error halt k' →
    k' = k ∧ ∃ fault, halt = .fault fault
  /-- Whoever is made has the next number. -/
  numbered : ∀ source (op : Operation) making answer k', op.making? source = some making →
    op.perform source k = .ok answer k' →
    answer = .created k.table.nextPid

namespace Kernel

variable {k k' : Kernel Context} {priority : Priority} {lines : List String} {source : Source} {op : Operation}

theorem createParsed_ok (hk : k.Sound) (hlevel : priority < k.queues.levels) (program : Program) :
    ∃ k', createParsed priority program k = .ok k.table.nextPid k' := by
  obtain ⟨es, k', hok, -⟩ := exists_createParsed hk.consistent hk.numbered hlevel program
  exact ⟨k', hok⟩

theorem create_of_parse {program : Program} (h : Program.parse lines = .ok program) (priority : Priority) :
    (create priority lines : Action Context Pid) = createParsed priority program := by
  rw [create, h]

theorem create_error {fault : Fault} (h : Program.Stops lines fault) (priority : Priority) (k : Kernel Context) :
    create priority lines k = .error (.fault fault) k := by
  rw [create, Program.parse_eq_error_iff.mpr h]
  rfl

/-- Lines are granted or refused. -/
theorem create_cases (hk : k.Sound) (priority : Priority) (lines : List String) :
    (Program.Readable lines ∧ priority < k.queues.levels ∧ ∃ k', create priority lines k = .ok k.table.nextPid k') ∨
    (Program.Readable lines ∧ ¬priority < k.queues.levels ∧
      create priority lines k = .error (.fault (.invalidPriority priority k.queues.levels)) k) ∨
    ∃ fault, Program.Stops lines fault ∧ create priority lines k = .error (.fault fault) k := by
  cases hparse : Program.parse lines with
  | error fault =>
    have hstops := Program.parse_eq_error_iff.mp hparse
    exact .inr (.inr ⟨fault, hstops, create_error hstops priority k⟩)
  | ok program =>
    have hreadable := Program.exists_parse_iff.mp ⟨program, hparse⟩
    rw [create_of_parse hparse]
    by_cases hlevel : priority < k.queues.levels
    · exact .inl ⟨hreadable, hlevel, createParsed_ok hk hlevel program⟩
    · exact .inr (.inl ⟨hreadable, hlevel, createParsed_error hlevel program⟩)

/-- Lines are never refused because the program is not there. -/
theorem create_ne_unavailable (hk : k.Sound) {program reason : String} :
    create priority lines k ≠ .error (.fault (.programUnavailable program reason)) k' := by
  intro h
  rcases create_cases hk priority lines with ⟨-, -, k₁, hok⟩ | ⟨-, -, herror⟩ | ⟨fault, hstops, herror⟩
  · cases hok.symm.trans h
  · cases herror.symm.trans h
  · obtain rfl := Halt.fault.inj (EStateM.Result.error.inj (herror.symm.trans h)).1
    cases Program.ofLine_of_parse (Program.parse_eq_error_iff.mpr hstops)

/-- A request for a process is answered with the next number, or it is refused for a reason that is told and leaves
the kernel as it is. -/
theorem making_cases (hk : k.Sound) {making : Priority × Except Fault Program} (hop : op.making? source = some making) :
    (∃ k', op.perform source k = .ok (.created k.table.nextPid) k') ∨
      ∃ fault, op.perform source k = .error (.fault fault) k := by
  rcases perform_making_cases hk.consistent hk.numbered hop with ⟨p, es, k', -, hok, -⟩ | herror
  · exact .inl ⟨k', hok⟩
  · exact .inr herror

/-- A sound kernel grants and refuses processes so. -/
theorem Sound.screens (hk : k.Sound) : k.Screens k.queues.levels where
  create := by
    intro priority lines
    constructor
    · rintro ⟨pid, k', hok⟩
      rcases create_cases hk priority lines with ⟨hreadable, hlevel, -⟩ | ⟨-, -, herror⟩ | ⟨fault, -, herror⟩
      · exact ⟨hreadable, hlevel⟩
      · cases herror.symm.trans hok
      · cases herror.symm.trans hok
    · rintro ⟨hreadable, hlevel⟩
      obtain ⟨program, hparse⟩ := Program.exists_parse_iff.mpr hreadable
      obtain ⟨k', hok⟩ := createParsed_ok hk hlevel program
      exact ⟨_, k', by rw [create_of_parse hparse, hok]⟩
  stops := by
    intro priority lines fault hstops
    exact create_error hstops priority k
  invalid := by
    intro priority lines hreadable hlevel
    obtain ⟨program, hparse⟩ := Program.exists_parse_iff.mpr hreadable
    rw [create_of_parse hparse]
    exact createParsed_error hlevel program
  unavailable := by
    intro source priority name fault hload
    rw [createFrom, hload]
    rfl
  available := by
    intro source priority name program reason k' h
    cases hload : source name with
    | error fault => exact ⟨fault, rfl⟩
    | ok lines =>
      rw [createFrom, hload] at h
      exact absurd h (create_ne_unavailable hk)
  loaded := by
    intro source priority name lines hload
    rw [createFrom, hload]
  createParsed := by
    intro priority program
    constructor
    · rintro ⟨pid, k', hok⟩
      by_contra hlevel
      cases (createParsed_error hlevel program).symm.trans hok
    · intro hlevel
      exact ⟨_, createParsed_ok hk hlevel program⟩
  atomic := by
    intro source op making halt k' hop herror
    rcases making_cases hk hop with ⟨k₁, hok⟩ | ⟨fault, hrefused⟩
    · cases hok.symm.trans herror
    · obtain ⟨rfl, rfl⟩ := EStateM.Result.error.inj (hrefused.symm.trans herror)
      exact ⟨rfl, fault, rfl⟩
  numbered := by
    intro source op making answer k' hop hok
    rcases making_cases hk hop with ⟨k₁, hmade⟩ | ⟨fault, herror⟩
    · exact (EStateM.Result.ok.inj (hmade.symm.trans hok)).1.symm
    · cases herror.symm.trans hok

end Kernel

/-! ## Runs without what is refused -/

/-- Whether the request is for a process. -/
def Request.makes : Request → Bool
  | operation (.create _ _) | operation (.createFrom _ _) | operation (.createParsed _ _) => true
  | _ => false

/-- Whether the exchange refuses a process. -/
def Exchange.refuses (x : Exchange) : Bool := x.request.makes && x.answer.toOption.isNone

/-- A request for a process asks for a level and a program. -/
theorem Request.exists_making {request : Request} (h : request.makes = true) (source : Source) :
    ∃ op making, request = .operation op ∧ op.making? source = some making := by
  cases request with
  | operation op =>
    have hcommanded : (Request.operation op).commanded = true := by
      cases op <;> first
        | rfl
        | cases h
    obtain ⟨making, hop⟩ := Option.isSome_iff_exists.mp (Session.isSome_making? hcommanded source)
    exact ⟨op, making, rfl, hop⟩
  | _ => cases h

namespace Session

variable {s : Session} {source : Source} {request : Request}

/-- The requests, without those for a process that are refused. -/
def granted (s : Session) (requests : List (Source × Request)) : List (Source × Request) :=
  ((requests.zip (s.exchanges requests)).filter fun asked => !asked.2.refuses).map Prod.fst

/-- A process that is refused leaves the session as it is. -/
theorem after_of_refuses (hs : s.kernel.Sound) (h : (s.exchange source request).refuses = true) :
    (s.exchange source request).after = s := by
  obtain ⟨hmakes, hrefused⟩ := Bool.and_eq_true_iff.mp h
  rw [(exchange_before source s request).2] at hmakes
  obtain ⟨op, making, rfl, hop⟩ := Request.exists_making hmakes source
  rcases Kernel.making_cases hs hop with ⟨k', hok⟩ | ⟨fault, herror⟩
  · rw [exchange_ok (map_ok (onKernel_ok hok))] at hrefused
    cases hrefused
  · rw [exchange_error (map_error (onKernel_error herror))]

/-- A run without the processes that are refused is the same run. -/
theorem exchanges_granted (hs : s.kernel.Sound) {requests : List (Source × Request)}
    (hroom : s.kernel.table.nextPid.toNat + Exchange.births (s.exchanges requests) < UInt32.size) :
    s.exchanges (s.granted requests) = (s.exchanges requests).filter (fun x => !x.refuses) ∧
      s.after (s.granted requests) = s.after requests := by
  induction requests generalizing s with
  | nil => exact ⟨rfl, rfl⟩
  | cons asked requests ih =>
    obtain ⟨source, request⟩ := asked
    obtain ⟨es, ht, hroom'⟩ := exists_takes_cons hs source request hroom
    obtain ⟨hrest, hlast⟩ := ih ht.after hroom'
    have hgranted : s.granted ((source, request) :: requests) =
        if (s.exchange source request).refuses then (s.exchange source request).after.granted requests
          else (source, request) :: (s.exchange source request).after.granted requests := by
      simp only [granted, exchanges, List.zip_cons_cons, List.filter_cons]
      cases (s.exchange source request).refuses <;> rfl
    rw [hgranted, exchanges, List.filter_cons]
    cases hrefuses : (s.exchange source request).refuses with
    | true =>
      have hsame := after_of_refuses hs hrefuses
      rw [hsame] at hrest hlast ⊢
      refine ⟨hrest, hlast.trans ?_⟩
      change _ = (s.exchange source request).after.after requests
      rw [hsame]
    | false => exact ⟨congrArg (s.exchange source request :: ·) hrest, hlast⟩

variable {levels : UInt8} {k : Kernel Context}

/-- In every run of a kernel since it booted, as long as it can give out another number: a process is made exactly if
its program can be had and its level is one of those that the kernel booted with, and the program is looked at first.
Whoever is refused leaves the kernel as it is, so without the requests that are refused the run is the same: the other
exchanges, with the numbers that they give out, and what is there at last. -/
theorem creation_atomic (hboot : Kernel.boot levels = .ok k) (requests : List (Source × Request))
    (hroom : Exchange.births (exchanges { kernel := k } requests) < UInt32.size - 1) :
    (after { kernel := k } requests).kernel.Screens levels ∧
      exchanges { kernel := k } (granted { kernel := k } requests) =
        (exchanges { kernel := k } requests).filter (fun x => !x.refuses) ∧
      after { kernel := k } (granted { kernel := k } requests) = after { kernel := k } requests := by
  have hroom' : Exchange.births (exchanges { kernel := k } requests) < UInt32.size := by omega
  have hs := (sound_after hboot hroom').1
  have hlevels : (after { kernel := k } requests).kernel.queues.levels = levels := by
    rw [Queues.levels, length_ready_after hboot hroom', UInt8.ofNat_toNat]
  refine ⟨hlevels ▸ hs.screens, exchanges_granted (Kernel.sound_of_boot hboot) ?_⟩
  rw [toNat_nextPid_of_boot hboot, Nat.zero_add]
  exact hroom'

/-- Requests of which the first three are refused: a level too high, a line that cannot be read, and a program that is
not there. -/
def refusalSample : List Request :=
  [.operation (.create 2 ["S 1", "E"]), .operation (.create 2 ["S 1", "", "X"]), .operation (.createFrom 9 "w"),
    .operation (.create 1 ["S 1", "", "E"])]

/-- In the sample the last process is made as if it were the first. -/
theorem creation_atomic_sample :
    Kernel.boot 2 = .ok (Kernel.empty 2 : Kernel Context) ∧
      Exchange.births (exchanges { kernel := Kernel.empty 2 } (refusalSample.map (Prod.mk Source.empty))) <
        UInt32.size - 1 ∧
      (exchanges { kernel := Kernel.empty 2 } (refusalSample.map (Prod.mk Source.empty))).map (·.answer) =
        [.error (.fault (.invalidPriority 2 2)), .error (.fault (.unknownOpcode "X" "X")),
          .error (.fault (.programUnavailable "w" "program not found: w")), .ok (.answered (.created 0))] ∧
      exchanges { kernel := Kernel.empty 2 } [(Source.empty, .operation (.create 1 ["S 1", "", "E"]))] =
        (exchanges { kernel := Kernel.empty 2 } (refusalSample.map (Prod.mk Source.empty))).filter
          (fun x => !x.refuses) ∧
      ∃ pid k',
        Kernel.create 0 ["E"] (after { kernel := Kernel.empty 2 } (refusalSample.map (Prod.mk Source.empty))).kernel =
        .ok pid k' := by
  have hboot : Kernel.boot 2 = .ok (Kernel.empty 2 : Kernel Context) := rfl
  have hroom : Exchange.births (exchanges { kernel := Kernel.empty 2 } (refusalSample.map (Prod.mk Source.empty))) <
      UInt32.size - 1 := by decide +kernel
  have hgranted : granted { kernel := Kernel.empty 2 } (refusalSample.map (Prod.mk Source.empty)) =
      [(Source.empty, .operation (.create 1 ["S 1", "", "E"]))] := rfl
  obtain ⟨hscreens, hrun, -⟩ := creation_atomic hboot _ hroom
  rw [hgranted] at hrun
  have hreadable : Program.Readable ["E"] := by
    intro line hline _
    obtain rfl := List.mem_singleton.mp hline
    exact ⟨.exit, by decide +kernel⟩
  exact ⟨hboot, hroom, by decide +kernel, hrun, (hscreens.create 0 ["E"]).mpr ⟨hreadable, by decide⟩⟩

end Session
end Timeshare
