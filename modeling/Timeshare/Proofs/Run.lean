import Timeshare.Proofs.Course

/-!
# Runs

What every course keeps holds after every run in which fewer numbers are given out than there are
(`Session.run_invariant`). So the kernel is sound after each such run, whatever was asked of it and in whatever order.
-/

namespace Timeshare

/-! ## The numbers that are given out -/

/-- The number that a step gives out is that of the forked child. -/
def StepOutcome.child? : StepOutcome → Option Pid
  | .forked _ child => some child
  | _ => none

namespace Course

variable {source : Source} {k k' : Kernel Context} {request : Request} {answer : Except Halt Response}
  {es : List (Event Context)}

/-- The number that a course gives out is the one that its answer names. -/
theorem born (h : Course source k request answer es k') :
    es.filterMap Event.born? = (answer.toOption.bind Response.born?).toList := by
  rw [← Event.filterMap_opens fun e he => by cases e <;> first | rfl | cases he]
  have hopens := h.opens
  generalize es.filter Event.opens = opening at hopens ⊢
  cases hopens with
  | made hr => exact congrArg ([·]) hr
  | stepped hdeed => cases hdeed <;> rfl
  | ticked hdeed => cases hdeed <;> rfl
  | woken level hresponse => rcases hresponse with rfl | rfl <;> rfl
  | nothing houtcome hborn hwoken => rw [hborn]; rfl

/-- The births of an exchange are the numbers that its course gives out. -/
theorem births {x : Exchange} (h : Course source k request x.answer es k') :
    Exchange.births [x] = (es.filterMap Event.born?).length := by
  rw [h.born, Exchange.births, List.filterMap_cons, Exchange.born?]
  cases x.answer.toOption.bind Response.born? <;> rfl

/-- While numbers last, a course leaves a sound kernel. -/
theorem sound (h : Course source k request answer es k') (hk : k.Sound)
    (hroom : k.table.nextPid.toNat + (es.filterMap Event.born?).length < UInt32.size) : k'.Sound :=
  ⟨h.path.consistent hk.consistent, (h.path.numbered hk.numbered hroom).1, h.filled hk⟩

end Course

/-! ## Runs -/

namespace Session

/-- A run may be cut between two requests. -/
theorem exchanges_append (s : Session) (older newer : List (Source × Request)) :
    s.exchanges (older ++ newer) = s.exchanges older ++ (s.after older).exchanges newer := by
  induction older generalizing s with
  | nil => rfl
  | cons asked older ih =>
    rw [List.cons_append, exchanges, exchanges, List.cons_append, ih]
    rfl

/-- The exchanges of a run are those of its requests, in this order. -/
theorem exchanges_requests (s : Session) (requests : List (Source × Request)) :
    (s.exchanges requests).map (·.request) = requests.map Prod.snd := by
  induction requests generalizing s with
  | nil => rfl
  | cons asked requests ih =>
    rw [exchanges, List.map_cons, List.map_cons, ih]
    congr 1
    rw [exchange]
    split <;> rfl

theorem after_append (s : Session) (older newer : List (Source × Request)) :
    s.after (older ++ newer) = (s.after older).after newer := List.foldl_append

theorem births_append (xs ys : List Exchange) :
    Exchange.births (xs ++ ys) = Exchange.births xs + Exchange.births ys := by
  simp [Exchange.births]

/-- A run that is cut between exchanges is cut between requests. -/
theorem exchanges_split {s : Session} {requests : List (Source × Request)} {older newer : List Exchange} {x : Exchange}
    (h : s.exchanges requests = older ++ x :: newer) :
    ∃ before source request rest, requests = before ++ (source, request) :: rest ∧ older = s.exchanges before ∧
      x = (s.after before).exchange source request ∧ newer = x.after.exchanges rest := by
  induction requests generalizing s older with
  | nil => simp [exchanges] at h
  | cons asked requests ih =>
    obtain ⟨source, request⟩ := asked
    rw [exchanges] at h
    cases older with
    | nil =>
      obtain ⟨rfl, rfl⟩ := List.cons.inj h
      exact ⟨[], source, request, requests, rfl, rfl, rfl, rfl⟩
    | cons y older =>
      obtain ⟨rfl, hrest⟩ := List.cons.inj h
      obtain ⟨before, source', request', rest, rfl, rfl, hx, hnewer⟩ := ih hrest
      exact ⟨(source, request) :: before, source', request', rest, rfl, rfl, hx, hnewer⟩

/-- An exchange takes a course from a sound kernel to a sound one, and the next number counts the births. -/
structure Takes (s : Session) (source : Source) (request : Request) (es : List (Event Context)) : Prop where
  before : s.kernel.Sound
  after : (s.exchange source request).after.kernel.Sound
  course : Course source s.kernel request (s.exchange source request).answer es (s.exchange source request).after.kernel
  next : (s.exchange source request).after.kernel.table.nextPid.toNat =
    s.kernel.table.nextPid.toNat + Exchange.births [s.exchange source request]

/-- While numbers last, every exchange on a sound kernel takes a course to a sound one. -/
theorem exists_takes {s : Session} (hs : s.kernel.Sound) (source : Source) (request : Request)
    (hroom : s.kernel.table.nextPid.toNat + Exchange.births [s.exchange source request] < UInt32.size) :
    ∃ es, s.Takes source request es := by
  obtain ⟨es, hc⟩ := exchange_course source hs request
  rw [hc.births] at hroom
  exact ⟨es, hs, hc.sound hs hroom, hc, hc.births ▸ (hc.path.numbered hs.numbered hroom).2⟩

/-- While numbers last for an exchange and more, the exchange takes a course, and numbers last for the rest. -/
theorem exists_takes_cons {s : Session} (hs : s.kernel.Sound) (source : Source) (request : Request) {xs : List Exchange}
    (hroom : s.kernel.table.nextPid.toNat + Exchange.births (s.exchange source request :: xs) < UInt32.size) :
    ∃ es, s.Takes source request es ∧
      (s.exchange source request).after.kernel.table.nextPid.toNat + Exchange.births xs < UInt32.size := by
  rw [← List.singleton_append, births_append] at hroom
  obtain ⟨es, ht⟩ := exists_takes hs source request (by omega)
  have hnext := ht.next
  exact ⟨es, ht, by omega⟩

/-- What holds before a run, and what every exchange that takes a course keeps, holds after the run. -/
theorem run_invariant {P : List Exchange → Session → Prop} {s : Session} (hs : s.kernel.Sound) (hnil : P [] s)
    {requests : List (Source × Request)}
    (hstep : ∀ xs (s' : Session) source request es, (source, request) ∈ requests →
      s'.Takes source request es → P xs s' →
      P (xs ++ [s'.exchange source request]) (s'.exchange source request).after)
    (hroom : s.kernel.table.nextPid.toNat + Exchange.births (s.exchanges requests) < UInt32.size) :
    P (s.exchanges requests) (s.after requests) ∧ (s.after requests).kernel.Sound ∧
      (s.after requests).kernel.table.nextPid.toNat =
        s.kernel.table.nextPid.toNat + Exchange.births (s.exchanges requests) := by
  induction requests using List.reverseRecOn with
  | nil => exact ⟨hnil, hs, rfl⟩
  | append_singleton requests asked ih =>
    obtain ⟨source, request⟩ := asked
    rw [exchanges_append, births_append] at hroom ⊢
    rw [after_append]
    obtain ⟨hP, hsound, hnext⟩ := ih
      (fun xs s' source' request' es hmem => hstep xs s' source' request' es (List.mem_append_left _ hmem)) (by omega)
    obtain ⟨es, ht⟩ := exists_takes hsound source request (by rw [hnext]; exact Nat.add_assoc .. ▸ hroom)
    refine ⟨hstep _ _ _ _ es (List.mem_append_right _ List.mem_cons_self) ht hP, ht.after, ?_⟩
    rw [← Nat.add_assoc, ← hnext]
    exact ht.next

/-- A sound kernel is sound after every run in which numbers last, and its next number counts the births. -/
theorem sound_of_run {s : Session} (hs : s.kernel.Sound) {requests : List (Source × Request)}
    (hroom : s.kernel.table.nextPid.toNat + Exchange.births (s.exchanges requests) < UInt32.size) :
    (s.after requests).kernel.Sound ∧
      (s.after requests).kernel.table.nextPid.toNat =
        s.kernel.table.nextPid.toNat + Exchange.births (s.exchanges requests) :=
  (run_invariant (P := fun _ _ => True) hs trivial (fun _ _ _ _ _ _ _ _ => trivial) hroom).2

/-- A kernel that boots has given out no number. -/
theorem toNat_nextPid_of_boot {levels : UInt8} {k : Kernel Context} (hboot : Kernel.boot levels = .ok k) :
    k.table.nextPid.toNat = 0 := by
  rw [(Kernel.boot_eq_ok_iff.mp hboot).2]
  rfl

/-- What holds when a kernel boots, and what every exchange that takes a course keeps, holds after every run in which
numbers last. -/
theorem run_invariant_of_boot {P : List Exchange → Session → Prop} {levels : UInt8} {k : Kernel Context}
    (hboot : Kernel.boot levels = .ok k) (hnil : P [] { kernel := k }) {requests : List (Source × Request)}
    (hstep : ∀ xs (s' : Session) source request es, (source, request) ∈ requests →
      s'.Takes source request es → P xs s' →
      P (xs ++ [s'.exchange source request]) (s'.exchange source request).after)
    (hroom : Exchange.births (exchanges { kernel := k } requests) < UInt32.size) :
    P (exchanges { kernel := k } requests) (after { kernel := k } requests) ∧
      (after { kernel := k } requests).kernel.Sound ∧
      (after { kernel := k } requests).kernel.table.nextPid.toNat =
        Exchange.births (exchanges { kernel := k } requests) := by
  have hnext := toNat_nextPid_of_boot hboot
  have hrun :=
    run_invariant (s := { kernel := k }) (Kernel.sound_of_boot hboot) hnil hstep (by simpa [hnext] using hroom)
  simpa [hnext] using hrun

/-- A kernel that booted is sound after every run in which numbers last, and its next number counts the births. -/
theorem sound_after {levels : UInt8} {k : Kernel Context} (hboot : Kernel.boot levels = .ok k)
    {requests : List (Source × Request)} (hroom : Exchange.births (exchanges { kernel := k } requests) < UInt32.size) :
    (after { kernel := k } requests).kernel.Sound ∧
      (after { kernel := k } requests).kernel.table.nextPid.toNat =
        Exchange.births (exchanges { kernel := k } requests) :=
  (run_invariant_of_boot (P := fun _ _ => True) hboot trivial (fun _ _ _ _ _ _ _ _ => trivial) hroom).2

/-- Every exchange of a run of a kernel that booted takes a course, and numbers last for the rest of the run. -/
theorem takes_of_split {levels : UInt8} {k : Kernel Context} (hboot : Kernel.boot levels = .ok k)
    {requests : List (Source × Request)} (hroom : Exchange.births (exchanges { kernel := k } requests) < UInt32.size)
    {older newer : List Exchange} {x : Exchange} (h : exchanges { kernel := k } requests = older ++ x :: newer) :
    ∃ before source request rest es, requests = before ++ (source, request) :: rest ∧
      older = exchanges { kernel := k } before ∧ x = (after { kernel := k } before).exchange source request ∧
      newer = x.after.exchanges rest ∧ (after { kernel := k } before).Takes source request es ∧
      x.after.kernel.table.nextPid.toNat + Exchange.births newer < UInt32.size ∧
      after { kernel := k } requests = x.after.after rest := by
  obtain ⟨before, source, request, rest, hrequests, rfl, hx, hnewer⟩ := exchanges_split h
  rw [h, births_append, ← List.singleton_append, births_append] at hroom
  have hroom' : Exchange.births (exchanges { kernel := k } before) < UInt32.size := by omega
  obtain ⟨hsound, hnext⟩ := sound_after hboot hroom'
  obtain ⟨es, ht⟩ := exists_takes hsound source request (by rw [hnext, ← hx]; omega)
  refine ⟨before, source, request, rest, es, hrequests, rfl, hx, hnewer, ht, ?_, ?_⟩
  · rw [hx, ht.next, hnext, ← hx]
    omega
  · rw [hrequests, after_append, hx]
    rfl

/-- Requests to try statements on: of two processes the first forks, is preempted and goes on, its child blocks and is
woken, and the second ends. -/
def sample : List Request := [
  .operation (.createParsed 1 [.set 5, .fork 1, .block, .add 2, .sub 1]), .operation (.createParsed 0 [.set 1, .exit]),
  .command .tick, .command .tick, .command .tick, .command .tick, .command .tick, .command .wake, .command .tick,
  .command .tick]

end Session

end Timeshare
