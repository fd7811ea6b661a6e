import Timeshare.Proofs.Course
import Timeshare.Proofs.Likeness

/-!
# Data does not influence scheduling

Two programs are alike if they have the same instructions but for the arithmetic, and the arithmetic at the same
places (`Program.Alike`). Two runs in which alike programs are run from alike sources, one of them with the clock
advanced by hand at any times besides, schedule alike: after each request the two kernels differ in no more than
accumulators, arithmetic, clock and starts, and each step does the same in both (`Session.noninterference`).
-/

namespace Timeshare

/-! ## The likeness up to data -/

/-- The instructions are the same, or both are arithmetic. -/
def Instruction.Alike (i j : Instruction) : Prop := i = j ∨ (i.isArithmetic = true ∧ j.isArithmetic = true)

/-- The programs are of one length, and alike at every place. -/
def Program.Alike (p q : Program) : Prop := List.Forall₂ Instruction.Alike p q

/-- The contexts are at the same place of alike programs. -/
structure Context.Alike (c d : Context) : Prop where
  program : Program.Alike c.program d.program
  programCounter : c.programCounter = d.programCounter

theorem Program.Alike.refl (p : Program) : Program.Alike p p := List.forall₂_same.mpr fun _ _ => .inl rfl

/-- At each place of alike programs there are alike instructions, or none. -/
theorem Program.Alike.getElem? {p q : Program} (h : Program.Alike p q) (n : Nat) :
    Option.Rel Instruction.Alike p[n]? q[n]? := by
  induction h generalizing n with
  | nil => exact .none
  | cons hij _ ih =>
    cases n with
    | zero => exact .some hij
    | succ n => exact ih n

theorem Context.compute_eq (i : Instruction) (c : Context) :
    (Machine.compute i c).program = c.program ∧ (Machine.compute i c).programCounter = c.programCounter := by
  cases i <;> exact ⟨rfl, rfl⟩

namespace Likeness

/-- What is alike up to data: any arithmetic is alike, and so are all accumulators and all times. -/
def upToData : Likeness Context Context where
  instruction := Instruction.Alike
  program := Program.Alike
  context := Context.Alike
  time := fun _ _ => True
  control h := h
  next := fun {c d} h => by
    change Option.Rel _ c.program[c.programCounter.toNat]? d.program[d.programCounter.toNat]?
    rw [h.programCounter]
    exact h.program.getElem? _
  start h := ⟨h, rfl⟩
  load h _ := ⟨h, rfl⟩
  skip n h := ⟨h.program, congrArg (fun pc => Word.addSaturating (Word.addSaturating pc n) 1) h.programCounter⟩
  advance h _ := ⟨h.program, congrArg (· + 1) h.programCounter⟩
  compute := fun {c d i j} h _ _ _ => by
    obtain ⟨hp, hpc⟩ := Context.compute_eq i c
    obtain ⟨hp', hpc'⟩ := Context.compute_eq j d
    refine ⟨?_, congrArg (· + 1) (by rw [hpc, hpc', h.programCounter])⟩
    change Program.Alike (Machine.compute i c).program (Machine.compute j d).program
    rw [hp, hp']
    exact h.program
  tick _ := trivial

/-! ## Sessions -/

variable (L : Likeness Context Context)

/-- The responses are the same, but for what a step did and what time it is. -/
inductive Responses : Response → Response → Prop where
  | answered {a a' : Answer} (h : L.Answers a a') : Responses (.answered a) (.answered a')
  | ticked {o o' : StepOutcome} (h : L.Outcomes o o') : Responses (.replied (.ticked o)) (.replied (.ticked o'))
  | woken (pid : Option Pid) : Responses (.replied (.woken pid)) (.replied (.woken pid))

/-- The sessions are both shut down or neither is, and their kernels are alike. -/
structure Sessions (s s' : Session) : Prop where
  kernel : L.Kernels s.kernel s'.kernel
  shutDown : s.shutDown = s'.shutDown

/-- Both exchanges are refused for the same reason or answered alike, and leave alike kernels. -/
structure Exchanges (x x' : Exchange) : Prop where
  answer : Agree L.Responses x.answer x'.answer
  after : L.Kernels x.after.kernel x'.after.kernel

end Likeness

open Likeness

/-! ## Requests -/

/-- Whether the request is an operation, a tick or a wake, and not for a report, a shutdown or a new session. -/
def Request.drives : Request → Bool
  | operation _ | command .tick | command .wake => true
  | _ => false

/-- The requests are the same, or make processes of the same level and of alike programs, or neither for the same
reason. -/
inductive Request.Alike (source source' : Source) : Request → Request → Prop where
  | made {op op' : Operation} {priority : Priority} {p q : Except Fault Program}
    (hop : op.making? source = some (priority, p)) (hop' : op'.making? source' = some (priority, q))
    (hp : Agree Program.Alike p q) :
    Alike source source' (.operation op) (.operation op')
  | same {request : Request} (h : request.drives = true) : Alike source source' request request

/-- The requests are alike, one by one, with alike sources each, but for times at which the clock is advanced in the
second run only. -/
inductive RunsAlike : List (Source × Request) → List (Source × Request) → Prop where
  | nil : RunsAlike [] []
  | cons {source source' : Source} {request request' : Request} {requests requests' : List (Source × Request)}
    (hsource : upToData.Sources source source') (hrequest : request.Alike source source' request')
    (h : RunsAlike requests requests') : RunsAlike ((source, request) :: requests) ((source', request') :: requests')
  | later (source' : Source) {requests requests' : List (Source × Request)} (h : RunsAlike requests requests') :
    RunsAlike requests ((source', .operation .advanceClock) :: requests')

/-- Whether the exchange is for an advance of the clock. -/
def Exchange.advances (x : Exchange) : Bool := x.request = .operation .advanceClock

section

variable {source source' : Source} {request request' : Request} {s s' : Session}

/-- An operation asks alike sources for alike programs. -/
theorem Operation.making_alike (hsource : upToData.Sources source source') {op : Operation} {priority : Priority}
    {p : Except Fault Program} (hop : op.making? source = some (priority, p)) :
    ∃ q, op.making? source' = some (priority, q) ∧ Agree Program.Alike p q := by
  cases op with
  | createFrom level name =>
    have hlines := hsource name
    simp only [Operation.making?] at hop ⊢
    generalize source name = found, source' name = found' at hop hlines
    cases hlines with
    | ok hparse =>
      obtain ⟨rfl, rfl⟩ := Prod.mk.inj (Option.some.inj hop)
      exact ⟨_, rfl, hparse⟩
    | error fault =>
      obtain ⟨rfl, rfl⟩ := Prod.mk.inj (Option.some.inj hop)
      exact ⟨_, rfl, .error _⟩
  | _ => exact ⟨p, hop, .refl fun p _ => .refl p⟩

/-- Of two requests that are alike both advance the clock or neither does. -/
theorem Request.Alike.advances_iff (h : request.Alike source source' request') :
    request = .operation .advanceClock ↔ request' = .operation .advanceClock := by
  cases h with
  | made hop hop' =>
    constructor
    · rintro ⟨⟩
      cases hop
    · rintro ⟨⟩
      cases hop'
  | same => exact Iff.rfl

namespace Session

/-- Actions on the kernels of two sessions. -/
theorem onKernel_paired {S : Kernel Context → Kernel Context → Prop} {T : Session → Session → Prop} {α β : Type}
    {Q : α → β → Prop} {action : Action Context α} {action' : Action Context β}
    (h : Paired S Q (action s.kernel) (action' s'.kernel))
    (hT : ∀ k k', S k k' → T { s with kernel := k } { s' with kernel := k' }) :
    Paired T Q (onKernel action s) (onKernel action' s') := by
  unfold onKernel
  generalize action s.kernel = result, action' s'.kernel = result' at h
  cases h with
  | ok hk ha => exact .ok (hT _ _ hk) ha
  | error halt hk => exact .error halt (hT _ _ hk)

/-- A command that both sessions carry out alike, or refuse because they are shut down. -/
theorem dispatch_paired {T : Session → Session → Prop} {c : Command} {Q : Reply → Reply → Prop} (hs : T s s')
    (hdown : s.shutDown = s'.shutDown) (h : Paired T Q (perform source c s) (perform source' c s')) :
    Paired T Q (dispatch source c s) (dispatch source' c s') := by
  rw [dispatch_apply, dispatch_apply, hdown]
  split
  · exact .error _ hs
  · exact h

/-- Requests that are alike, in alike sessions. -/
theorem perform_paired (hs : upToData.Sessions s s') (hsource : upToData.Sources source source')
    (hrequest : request.Alike source source' request') :
    Paired upToData.Sessions upToData.Responses (request.perform source s) (request'.perform source' s') := by
  have hkernels : ∀ k k', upToData.Kernels k k' → upToData.Sessions { s with kernel := k } { s' with kernel := k' } :=
    fun _ _ hk => ⟨hk, hs.shutDown⟩
  have hoperation : ∀ {op op' : Operation},
      Paired upToData.Kernels upToData.Answers (op.perform source s.kernel) (op'.perform source' s'.kernel) →
      Paired upToData.Sessions upToData.Responses ((Request.operation op).perform source s)
        ((Request.operation op').perform source' s') :=
    fun h => (onKernel_paired h hkernels).map fun _ _ ha => .answered ha
  cases hrequest with
  | made hop hop' hp => exact hoperation (hs.kernel.perform_making hop hop' hp)
  | same hdrives =>
    rcases request with op | c | text | _
    · cases hop : op.making? source with
      | none => exact hoperation (hs.kernel.perform_other hsource hop)
      | some making =>
        obtain ⟨q, hop', hp⟩ := Operation.making_alike hsource hop
        exact hoperation (hs.kernel.perform_making hop hop' hp)
    · have hcommand :
        ∀ {c : Command}, Paired upToData.Sessions (fun r r' => upToData.Responses (.replied r) (.replied r'))
          (perform source c s) (perform source' c s') → Paired upToData.Sessions upToData.Responses
            ((Request.command c).perform source s) ((Request.command c).perform source' s') :=
        fun h => (dispatch_paired hs hs.shutDown h).map fun _ _ hr => hr
      cases c with
      | tick =>
        exact hcommand ((onKernel_paired (hs.kernel.tick hsource) hkernels).bind fun _ _ _ _ hs ho =>
          .ok hs (.ticked ho))
      | wake =>
        exact hcommand ((onKernel_paired hs.kernel.wake hkernels).bind fun _ _ _ _ hs heq => heq ▸ .ok hs (.woken _))
      | _ => cases hdrives
    · cases hdrives
    · cases hdrives

/-- Exchanges of requests that are alike, in alike sessions. -/
theorem exchange_alike (hs : upToData.Sessions s s') (hsource : upToData.Sources source source')
    (hrequest : request.Alike source source' request') :
    upToData.Exchanges (s.exchange source request) (s'.exchange source' request') ∧
      upToData.Sessions (s.exchange source request).after (s'.exchange source' request').after := by
  have hperform := perform_paired hs hsource hrequest
  unfold exchange
  generalize request.perform source s = result, request'.perform source' s' = result' at hperform
  cases hperform with
  | ok hs' hr => exact ⟨⟨.ok hr, hs'.kernel⟩, hs'⟩
  | error halt hs' => exact ⟨⟨.error halt, hs'.kernel⟩, hs'⟩

theorem exchange_advanceClock_alike (hs : upToData.Sessions s s') (source' : Source) :
    upToData.Sessions s (s'.exchange source' (.operation .advanceClock)).after :=
  ⟨{ hs.kernel with clock := trivial }, hs.shutDown⟩

/-! ## Runs -/

/-- Runs that are alike, in alike sessions. -/
theorem exchanges_alike {requests requests' : List (Source × Request)} (h : RunsAlike requests requests')
    (hs : upToData.Sessions s s') :
    List.Forall₂ upToData.Exchanges ((s.exchanges requests).filter (!·.advances))
      ((s'.exchanges requests').filter (!·.advances)) ∧
      upToData.Sessions (s.after requests) (s'.after requests') := by
  induction h generalizing s s' with
  | nil => exact ⟨.nil, hs⟩
  | @cons source source' request request' requests requests' hsource hrequest _ ih =>
    obtain ⟨hexchange, hs'⟩ := exchange_alike hs hsource hrequest
    obtain ⟨hrest, hlast⟩ := ih hs'
    have hadvances : (s.exchange source request).advances = (s'.exchange source' request').advances := by
      rw [Exchange.advances, Exchange.advances, (exchange_before source s request).2,
        (exchange_before source' s' request').2, decide_eq_decide]
      exact hrequest.advances_iff
    refine ⟨?_, hlast⟩
    rw [exchanges, exchanges, List.filter_cons, List.filter_cons, hadvances]
    split
    · exact .cons hexchange hrest
    · exact hrest
  | later source' _ ih => exact ih (exchange_advanceClock_alike hs source')

end Session

end

namespace Session

/-- Two kernels that booted with the same number of levels, and of which the same is asked, with alike programs from
alike sources, except that in the second run the clock is advanced at any times besides: each request is refused in
both runs for the same reason or answered alike, each step does the same but for the arithmetic, and the kernels after
it agree in the slot, the queues, the mark, the tally and the live processes, and in all of their records but
accumulators, arithmetic and starts. -/
theorem noninterference {levels : UInt8} {k k' : Kernel Context} (hboot : Kernel.boot levels = .ok k)
    (hboot' : Kernel.boot levels = .ok k') {requests requests' : List (Source × Request)}
    (h : RunsAlike requests requests') :
    List.Forall₂ upToData.Exchanges ((exchanges { kernel := k } requests).filter (!·.advances))
        ((exchanges { kernel := k' } requests').filter (!·.advances)) ∧
      upToData.Kernels (after { kernel := k } requests).kernel (after { kernel := k' } requests').kernel := by
  have hs : upToData.Sessions { kernel := k } { kernel := k' } := ⟨kernels_of_boot trivial hboot hboot', rfl⟩
  obtain ⟨hexchanges, hlast⟩ := exchanges_alike h hs
  exact ⟨hexchanges, hlast.kernel⟩

/-- Requests for a process that computes, forks and blocks. -/
def dataSample : List Request :=
  [.operation (.createParsed 1 [.set 5, .fork 1, .block, .add 2]), .command .tick, .command .tick, .command .tick,
    .command .wake]

/-- Requests for one that computes something else, with the clock advanced once more. -/
def dataSampleElse : List Request :=
  [.operation (.createParsed 1 [.add 7, .fork 1, .block, .sub 1]), .command .tick, .operation .advanceClock,
   .command .tick, .command .tick, .command .wake]

/-- The two samples schedule alike. -/
theorem noninterference_sample :
    Kernel.boot 2 = .ok (Kernel.empty 2 : Kernel Context) ∧
      RunsAlike (dataSample.map (Prod.mk Source.empty)) (dataSampleElse.map (Prod.mk Source.empty)) ∧
      (after { kernel := Kernel.empty 2 } (dataSample.map (Prod.mk Source.empty))).kernel ≠
        (after { kernel := Kernel.empty 2 } (dataSampleElse.map (Prod.mk Source.empty))).kernel ∧
      upToData.Kernels (after { kernel := Kernel.empty 2 } (dataSample.map (Prod.mk Source.empty))).kernel
        (after { kernel := Kernel.empty 2 } (dataSampleElse.map (Prod.mk Source.empty))).kernel := by
  have hboot : Kernel.boot 2 = .ok (Kernel.empty 2 : Kernel Context) := rfl
  have hsource : upToData.Sources Source.empty Source.empty := fun _ => .error _
  have hprogram : Program.Alike [.set 5, .fork 1, .block, .add 2] [.add 7, .fork 1, .block, .sub 1] :=
    .cons (.inr ⟨rfl, rfl⟩) (.cons (.inl rfl) (.cons (.inl rfl) (.cons (.inr ⟨rfl, rfl⟩) .nil)))
  have halike : RunsAlike (dataSample.map (Prod.mk Source.empty)) (dataSampleElse.map (Prod.mk Source.empty)) :=
    .cons hsource (.made rfl rfl (.ok hprogram)) (.cons hsource (.same rfl) (.later _ (.cons hsource (.same rfl)
      (.cons hsource (.same rfl) (.cons hsource (.same rfl) .nil)))))
  exact ⟨hboot, halike, by decide +kernel, (noninterference hboot hboot halike).2⟩

end Session

end Timeshare
