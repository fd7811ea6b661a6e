import Timeshare.Proofs.Course

/-!
# The programs that a run asks for

A request asks the source of programs for one name at most: that of the process it makes, or of the replacement that
is the next instruction. The exchange depends on the source only through the answer to it (`Session.exchange_congr`),
and so a run only through the answers to the names that it asks for (`Session.exchanges_congr`).
-/

namespace Timeshare

variable {source source' : Source}

/-! ## Names that are asked for -/

/-- The name of the program that a command asks for, if it asks for one. -/
def Session.wanted? (s : Session) : Command → Option String
  | .tick => if s.shutDown then none else s.kernel.wanted?
  | _ => none

/-- The name of the program that a request asks for, if it asks for one. -/
def Request.wanted? (s : Session) : Request → Option String
  | operation (.createFrom _ name) => some name
  | operation .step => s.kernel.wanted?
  | operation _ | newSession => none
  | command c => s.wanted? c
  | line text => (Command.parse text).toOption.bind s.wanted?

/-- The name of the program that was asked for in the exchange, if one was. -/
def Exchange.wanted? (x : Exchange) : Option String := x.request.wanted? x.before

/-! ## One exchange -/

namespace Action

variable {α β σ : Type} {x y : EStateM Halt σ α} {k : σ}

theorem bind_congr (h : x k = y k) (f : α → EStateM Halt σ β) : (x >>= f) k = (y >>= f) k := by
  cases hx : x k with
  | ok a k₁ => rw [bind_ok hx, bind_ok (h ▸ hx)]
  | error halt k₁ => rw [bind_error hx, bind_error (h ▸ hx)]

theorem map_congr (h : x k = y k) (g : α → β) : (g <$> x) k = (g <$> y) k := by
  cases hx : x k with
  | ok a k₁ => rw [map_ok hx, map_ok (h ▸ hx)]
  | error halt k₁ => rw [map_error hx, map_error (h ▸ hx)]

end Action

namespace Kernel

variable {C : Type} [Machine C] {k : Kernel C}

/-- An instruction depends on the source only if it is a replacement, and then only through the program that replaces
the old one. -/
theorem execute_congr {instruction : Instruction}
    (h : ∀ name, instruction = .replace name → source name = source' name) (pid : Pid) :
    (execute source pid instruction : Action C StepOutcome) = execute source' pid instruction := by
  cases instruction with
  | replace name => simp only [execute, replaceProgram, h name rfl]
  | _ => rfl

/-- A step depends on the source only through the program that it asks for. -/
theorem step_congr (h : ∀ name ∈ k.wanted?, source name = source' name) : step source k = step source' k := by
  rw [step_apply, step_apply]
  cases hrun : k.running with
  | none => rfl
  | some pid =>
    simp only
    cases hr : k.table.get? pid with
    | none => rfl
    | some record =>
      simp only
      cases hnext : Machine.next? record.context with
      | none => rfl
      | some instruction =>
        have hreplace : ∀ name, instruction = .replace name → source name = source' name := by
          rintro name rfl
          exact h name (by simp [wanted?, hrun, hr, hnext])
        simp only [execute_congr hreplace]

end Kernel

namespace Session

variable {s : Session}

/-- A command depends on the source only through the program that it asks for. -/
theorem dispatch_congr {command : Command} (h : ∀ name ∈ s.wanted? command, source name = source' name) :
    dispatch source command s = dispatch source' command s := by
  rw [dispatch_apply, dispatch_apply]
  cases hdown : s.shutDown with
  | true => rfl
  | false =>
    cases command with
    | tick =>
      simp only [wanted?, hdown, Bool.false_eq_true, if_false] at h
      have htick : tick source s.kernel = tick source' s.kernel := Action.bind_congr (Kernel.step_congr h) _
      have hkernel : onKernel (tick source) s = onKernel (tick source') s := by rw [onKernel, onKernel, htick]
      exact Action.bind_congr hkernel _
    | _ => rfl

/-- A request depends on the source only through the program that it asks for. -/
theorem perform_congr {request : Request} (h : ∀ name ∈ request.wanted? s, source name = source' name) :
    request.perform source s = request.perform source' s := by
  cases request with
  | operation op =>
    have hop : op.perform source s.kernel = op.perform source' s.kernel := by
      cases op with
      | createFrom priority name => simp only [Operation.perform, Kernel.createFrom, h name rfl]
      | step => exact Action.map_congr (Kernel.step_congr h) _
      | _ => rfl
    have hkernel : onKernel (op.perform source) s = onKernel (op.perform source') s := by rw [onKernel, onKernel, hop]
    exact Action.map_congr hkernel _
  | command command => exact Action.map_congr (dispatch_congr h) _
  | line text =>
    have hsubmit : submit source text s = submit source' text s := by
      cases hparse : Command.parse text with
      | ok command =>
        simp only [submit, hparse]
        exact dispatch_congr fun name hname => h name (by simpa [Request.wanted?, hparse, Except.toOption] using hname)
      | error fault => simp only [submit, hparse]
    exact Action.map_congr hsubmit _
  | newSession => rfl

/-- An exchange depends on the source only through the program that is asked for in it. -/
theorem exchange_congr {request : Request} (h : ∀ name ∈ request.wanted? s, source name = source' name) :
    s.exchange source request = s.exchange source' request := by
  rw [exchange, exchange, perform_congr h]

/-- A run depends on the source only through the programs that are asked for in it. -/
theorem exchanges_congr {requests : List Request}
    (h : ∀ x ∈ s.exchanges (requests.map (Prod.mk source)), ∀ name ∈ x.wanted?, source name = source' name) :
    s.exchanges (requests.map (Prod.mk source)) = s.exchanges (requests.map (Prod.mk source')) := by
  induction requests generalizing s with
  | nil => rfl
  | cons request requests ih =>
    rw [List.map_cons, exchanges, List.forall_mem_cons] at h
    have hfirst : s.exchange source request = s.exchange source' request := by
      refine exchange_congr fun name hname => h.1 name ?_
      rw [Exchange.wanted?, (exchange_before source s request).1, (exchange_before source s request).2]
      exact hname
    rw [List.map_cons, List.map_cons, exchanges, exchanges, ih h.2, hfirst]

end Session
end Timeshare
