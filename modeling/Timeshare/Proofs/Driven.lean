import Timeshare.Proofs.Noninterference

/-!
# Kernels of any machine under the same requests

Operations, ticks and wakes drive a kernel whatever its machine (`Kernel.reactions`). A session that is not shut down
answers them as its kernel does (`Session.exchanges_driven`). Two kernels that are alike up to what their processes
compute on give the same answers to the same requests, and stay alike (`Likeness.Exact.reactions`).
-/

namespace Timeshare

section

variable {C D : Type} [Machine C] [Machine D]

/-! ## Reactions -/

/-- Carries out a request that drives a kernel; any other one leaves the kernel as it is. -/
def Request.drive (source : Source) : Request → Action C Response
  | operation op => .answered <$> op.perform source
  | command .tick => (fun outcome => .replied (.ticked outcome)) <$> Session.tick source
  | command .wake => (fun woken => .replied (.woken woken)) <$> Kernel.wake
  | _ => return .renewed

/-- The answer of a kernel to a request, and the kernel after it. -/
def Kernel.react (source : Source) (k : Kernel C) (request : Request) : Except Halt Response × Kernel C :=
  match request.drive source k with
  | .ok response k' => (.ok response, k')
  | .error halt k' => (.error halt, k')

/-- What a kernel answers to requests that are made one after the other, whatever the answers, and what is there after
each. -/
def Kernel.reactions : Kernel C → List (Source × Request) → List (Except Halt Response × Kernel C)
  | _, [] => []
  | k, (source, request) :: requests => k.react source request :: reactions (k.react source request).2 requests

/-- A program that a request can make a process start. -/
inductive Request.Starts (source : Source) : Request → Program → Prop where
  | made {op : Operation} {priority : Priority} {program : Program}
    (hop : op.making? source = some (priority, .ok program)) :
    Starts source (.operation op) program
  | loaded {request : Request} {name : String} {lines : List String} {program : Program}
    (hload : source name = .ok lines) (hparse : Program.parse lines = .ok program) : Starts source request program

/-! ## Alike kernels -/

/-- Whatever is alike is the same instruction, and the same time. -/
structure Likeness.Exact (L : Likeness C D) : Prop where
  instruction : ∀ {i j}, L.instruction i j → i = j
  time : ∀ {t u}, L.time t u → t = u

namespace Likeness.Exact

variable {L : Likeness C D} {M : QueueLikeness} {k : Kernel C} {k' : Kernel D} {source : Source} {request : Request}

/-- Steps that are alike did the same. -/
theorem outcome_eq (hL : L.Exact) {o o' : StepOutcome} (h : L.Outcomes o o') : o = o' := by
  cases h with
  | same => rfl
  | executed pid h => rw [hL.instruction h]

/-- Answers that are alike are the same. -/
theorem answer_eq (hL : L.Exact) {a a' : Answer} (h : L.Answers a a') : a = a' := by
  cases h with
  | same => rfl
  | stepped h => rw [hL.outcome_eq h]
  | advanced h => rw [hL.time h]

theorem tick (hL : L.Exact) (hk : L.Akin M k k') (hsource : L.Sources source source) :
    Paired (L.Akin M) Eq (Session.tick source k) (Session.tick source k') :=
  (hk.tick hsource).mono (fun _ _ => id) fun _ _ h => hL.outcome_eq h

/-- Akin kernels give the same answer to the same operation, and stay akin. -/
theorem perform (hL : L.Exact) (hk : L.Akin M k k') (hsource : L.Sources source source) {op : Operation}
    (hmaking : ∀ priority program, op.making? source = some (priority, program) → M.level priority ∧
      Agree L.program program program) :
    Paired (L.Akin M) Eq (op.perform source k) (op.perform source k') := by
  refine Paired.mono (Q := L.Answers) ?_ (fun _ _ => id) fun _ _ h => hL.answer_eq h
  cases hop : op.making? source with
  | none => exact hk.perform_other hsource hop
  | some making =>
    obtain ⟨hlevel, hprogram⟩ := hmaking making.1 making.2 hop
    exact hk.perform_making hop hop hlevel hprogram

/-- Alike kernels give the same answer to the same request, and stay alike. -/
theorem drive (hL : L.Exact) (hk : L.Kernels k k')
    (hprograms : ∀ program, request.Starts source program → L.program program program) :
    Paired L.Kernels Eq (request.drive source k) (request.drive source k') := by
  have hsource : L.Sources source source :=
    fun _ => .refl fun _ hload => .refl fun program hparse => hprograms program (.loaded hload hparse)
  cases request with
  | operation op =>
    have hmaking :
      ∀ priority program, op.making? source = some (priority, program) → True ∧ Agree L.program program program :=
      fun _ _ hop => ⟨trivial, .refl fun program hprogram => hprograms program (.made (hprogram ▸ hop))⟩
    exact (hk.paired fun h => hL.perform h hsource hmaking).map fun _ _ h => congrArg Response.answered h
  | command c =>
    cases c with
    | tick => exact (hk.paired fun h => hL.tick h hsource).map fun _ _ h => by rw [h]
    | wake => exact hk.wake.map fun _ _ h => by rw [h]
    | _ => exact .ok hk rfl
  | _ => exact .ok hk rfl

/-- Reactions of alike kernels to the same requests: the answers are the same, and the kernels stay alike. -/
theorem reactions (hL : L.Exact) {requests : List (Source × Request)} (hk : L.Kernels k k')
    (hprograms : ∀ asked ∈ requests, ∀ program, asked.2.Starts asked.1 program → L.program program program) :
    List.Forall₂ (fun x y => x.1 = y.1 ∧ L.Kernels x.2 y.2) (k.reactions requests) (k'.reactions requests) := by
  induction requests generalizing k k' with
  | nil => exact .nil
  | cons asked requests ih =>
    obtain ⟨source, request⟩ := asked
    rw [List.forall_mem_cons] at hprograms
    have hreact : (k.react source request).1 = (k'.react source request).1 ∧
        L.Kernels (k.react source request).2 (k'.react source request).2 := by
      have hdrive := hL.drive hk hprograms.1
      unfold Kernel.react
      generalize request.drive source k = result, request.drive source k' = result' at hdrive
      cases hdrive with
      | ok hk' heq => exact ⟨congrArg _ heq, hk'⟩
      | error halt hk' => exact ⟨rfl, hk'⟩
    exact .cons hreact (ih hreact.2 hprograms.2)

end Likeness.Exact

end

/-! ## Sessions -/

namespace Session

variable {s : Session} {source : Source} {request : Request}

/-- A request that is an action of the kernel in the session is answered as by the kernel. -/
theorem exchange_of_lifts {α : Type} {action : Action Context α} {f : α → Response}
    (hdrive : request.drive source s.kernel = (f <$> action) s.kernel)
    (hok : ∀ a k', action s.kernel = .ok a k' → request.perform source s = .ok (f a) { s with kernel := k' })
    (herror : ∀ halt k', action s.kernel = .error halt k' →
      request.perform source s = .error halt { s with kernel := k' }) :
    (s.exchange source request).answer = (s.kernel.react source request).1 ∧
      (s.exchange source request).after = { s with kernel := (s.kernel.react source request).2 } := by
  rw [Kernel.react, hdrive]
  cases haction : action s.kernel with
  | ok a k' =>
    rw [exchange_ok (hok a k' haction), Action.map_ok haction]
    exact ⟨rfl, rfl⟩
  | error halt k' =>
    rw [exchange_error (herror halt k' haction), Action.map_error haction]
    exact ⟨rfl, rfl⟩

/-- A session that is not shut down answers a request that drives its kernel as the kernel does. -/
theorem exchange_driven (hup : s.shutDown = false) (hdrives : request.drives = true) :
    (s.exchange source request).answer = (s.kernel.react source request).1 ∧
      (s.exchange source request).after = { s with kernel := (s.kernel.react source request).2 } := by
  have hfails : ∀ {α : Type} {c : Command} {action : Action Context α} {f : α → Reply} {halt : Halt}
    {k' : Kernel Context},
      perform source c = (onKernel action >>= fun a => pure (f a)) → action s.kernel = .error halt k' →
        Request.perform source (.command c) s = .error halt { s with kernel := k' } := by
    intro α c action f halt k' hperform herror
    refine Action.map_error ((dispatch_eq_perform source c hup).trans ?_)
    rw [hperform]
    exact Action.bind_error (onKernel_error herror)
  cases request with
  | operation op =>
    exact exchange_of_lifts rfl (fun _ _ h => Action.map_ok (onKernel_ok h)) fun _ _ h =>
      Action.map_error (onKernel_error h)
  | command c =>
    cases c with
    | tick => exact exchange_of_lifts rfl (fun _ _ h => Action.map_ok (dispatch_tick hup h)) fun _ _ h => hfails rfl h
    | wake =>
      exact exchange_of_lifts rfl (fun _ _ h => Action.map_ok (dispatch_wake source hup h)) fun _ _ h => hfails rfl h
    | _ => cases hdrives
  | _ => cases hdrives

/-- So it does in a whole run. -/
theorem exchanges_driven (hup : s.shutDown = false) {requests : List (Source × Request)}
    (hdrives : ∀ asked ∈ requests, asked.2.drives = true) :
    (s.exchanges requests).map (fun x => (x.answer, x.after.kernel)) = s.kernel.reactions requests := by
  induction requests generalizing s with
  | nil => rfl
  | cons asked requests ih =>
    obtain ⟨source, request⟩ := asked
    obtain ⟨hdrive, hrest⟩ := List.forall_mem_cons.mp hdrives
    obtain ⟨hanswer, hafter⟩ : (s.exchange source request).answer = (s.kernel.react source request).1 ∧
        (s.exchange source request).after = { s with kernel := (s.kernel.react source request).2 } :=
      exchange_driven hup hdrive
    rw [exchanges, List.map_cons, Kernel.reactions, hanswer, hafter]
    exact congrArg _ (ih hup hrest)

end Session

end Timeshare
