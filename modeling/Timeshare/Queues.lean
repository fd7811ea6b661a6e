import Timeshare.Word

/-!
# Queues: who waits, and for what

One ready queue for each level and one queue of blocked processes, all of them first in, first out, and of
numbers only. A process is taken from the most urgent level that has one. There is no queue past the last level,
so a number cannot be put there.
-/

namespace Timeshare

/-- The ready queues from the most urgent level on, and the blocked queue. -/
structure Queues where
  ready : List (List Pid)
  blocked : List Pid := []
  deriving DecidableEq, Repr

namespace Queues

/-- Empty queues of so many levels. -/
def empty (levels : UInt8) : Queues := { ready := List.replicate levels.toNat [] }

/-- The number of levels. -/
def levels (q : Queues) : UInt8 := UInt8.ofNat q.ready.length

/-- The ready queue of a level; there is nothing ready at a level past the last. -/
def readyAt (q : Queues) (level : Priority) : List Pid := (q.ready[level.toNat]?).getD []

/-- Puts a number at the tail of a level's ready queue, if there is such a level. -/
def enqueueReady (q : Queues) (pid : Pid) (level : Priority) : Option Queues :=
  if level.toNat < q.ready.length then some { q with ready := q.ready.modify level.toNat (· ++ [pid]) } else none

/-- Takes the head of the first queue that has one, from queues in order of urgency. -/
def popFirst : List (List Pid) → Option (Pid × List (List Pid))
  | [] => none
  | (pid :: rest) :: more => some (pid, rest :: more)
  | [] :: more => (popFirst more).map (fun (pid, left) => (pid, [] :: left))

/-- Takes the head of the most urgent ready queue that is not empty. -/
def dequeueReady (q : Queues) : Option (Pid × Queues) :=
  (popFirst q.ready).map (fun (pid, left) => (pid, { q with ready := left }))

/-- Puts a number at the tail of the blocked queue. -/
def enqueueBlocked (q : Queues) (pid : Pid) : Queues := { q with blocked := q.blocked ++ [pid] }

/-- Takes the head of the blocked queue. -/
def dequeueBlocked (q : Queues) : Option (Pid × Queues) :=
  match q.blocked with
  | [] => none
  | pid :: rest => some (pid, { q with blocked := rest })

/-- The number of ready entries of all levels. -/
def readyCount (q : Queues) : Nat := q.ready.flatten.length

/-- The number of blocked entries. -/
def blockedCount (q : Queues) : Nat := q.blocked.length

/-! ## What each operation does to the queues -/

/-- A number cannot be put in a queue past the last one, and in any other it can. -/
theorem enqueueReady_eq_none_iff (q : Queues) (pid : Pid) (level : Priority) :
    q.enqueueReady pid level = none ↔ q.ready.length ≤ level.toNat := by
  simp [enqueueReady]

/-- A number that is put in a queue stands at its tail, and every other queue is as before. -/
theorem readyAt_of_enqueueReady {q q' : Queues} {pid : Pid} {level : Priority}
    (h : q.enqueueReady pid level = some q') (l : Priority) :
    q'.readyAt l = if l = level then q.readyAt l ++ [pid] else q.readyAt l := by
  simp only [enqueueReady] at h
  split at h
  · rename_i hl
    obtain rfl := Option.some.inj h
    by_cases hlv : l = level
    · subst hlv
      simp [readyAt, hl]
    · have hne : level.toNat ≠ l.toNat := fun hn => hlv (UInt8.toNat_inj.mp hn.symm)
      simp [readyAt, hlv, hne]
  · cases h

/-- Nothing can be taken exactly if all queues are empty. -/
theorem popFirst_eq_none_iff (qs : List (List Pid)) : popFirst qs = none ↔ qs.flatten = [] := by
  induction qs with
  | nil => simp [popFirst]
  | cons q qs ih => cases q <;> simp [popFirst, ih]

/-- What is taken is the first of all numbers in order of urgency, and the others stay in their order. -/
theorem flatten_of_popFirst {qs left : List (List Pid)} {pid : Pid} (h : popFirst qs = some (pid, left)) :
    qs.flatten = pid :: left.flatten := by
  induction qs generalizing left with
  | nil => simp [popFirst] at h
  | cons q qs ih =>
    cases q with
    | nil =>
      obtain ⟨⟨p, rest⟩, hp, heq⟩ := Option.map_eq_some_iff.mp h
      obtain ⟨rfl, rfl⟩ := Prod.mk.inj heq
      simpa using ih hp
    | cons p rest =>
      obtain ⟨rfl, rfl⟩ := Prod.mk.inj (Option.some.inj h)
      simp

end Queues

end Timeshare
