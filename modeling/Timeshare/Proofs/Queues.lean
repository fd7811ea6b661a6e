import Mathlib
import Timeshare.Queues

/-!
# What the queues hold

A number that is put in a queue joins what the queues hold, and one that is taken leaves it; nothing else changes. A
dispatch takes the head of one level's queue, and every more urgent level is empty then.
-/

namespace Timeshare
namespace Queues

/-! ## Levels -/

/-- The ready queues hold a number exactly if the queue of one level does. -/
theorem mem_flatten_iff {q : Queues} (hlen : q.ready.length ≤ 256) {pid : Pid} :
    pid ∈ q.ready.flatten ↔ ∃ level, pid ∈ q.readyAt level := by
  rw [List.mem_flatten]
  constructor
  · rintro ⟨queue, hqueue, hpid⟩
    obtain ⟨i, hi, rfl⟩ := List.mem_iff_getElem.mp hqueue
    have hlevel : (UInt8.ofNat i).toNat = i := UInt8.toNat_ofNat_of_lt' (Nat.lt_of_lt_of_le hi hlen)
    refine ⟨UInt8.ofNat i, ?_⟩
    simpa [readyAt, hlevel, hi] using hpid
  · rintro ⟨level, hpid⟩
    rw [readyAt] at hpid
    by_cases hl : level.toNat < q.ready.length
    · rw [List.getElem?_eq_getElem hl, Option.getD_some] at hpid
      exact ⟨_, List.getElem_mem hl, hpid⟩
    · rw [List.getElem?_eq_none (Nat.le_of_not_lt hl)] at hpid
      cases hpid

theorem readyAt_empty (levels : UInt8) (level : Priority) : (empty levels).readyAt level = [] := by
  rw [readyAt, empty, List.getElem?_replicate]
  split <;> rfl

/-! ## Putting a number in a ready queue -/

/-- Putting a number at the end of one of several queues adds it to what they hold. -/
theorem flatten_modify_perm (pid : Pid) : ∀ (qs : List (List Pid)) (i : Nat), i < qs.length →
    (qs.modify i (· ++ [pid])).flatten.Perm (pid :: qs.flatten) := by
  intro qs
  induction qs with
  | nil => intro i hi; exact absurd hi (Nat.not_lt_zero i)
  | cons queue qs ih =>
    intro i hi
    cases i with
    | zero =>
      rw [List.modify_zero_cons, List.flatten_cons, List.flatten_cons, List.append_assoc]
      exact List.perm_middle
    | succ i =>
      rw [List.modify_succ_cons, List.flatten_cons, List.flatten_cons]
      exact ((ih i (Nat.lt_of_succ_lt_succ hi)).append_left queue).trans List.perm_middle

/-- What it means that a number was put at the tail of a level's ready queue. -/
structure Joins (q : Queues) (pid : Pid) (level : Priority) (q' : Queues) : Prop where
  length : q'.ready.length = q.ready.length
  blocked : q'.blocked = q.blocked
  holds : q'.ready.flatten.Perm (pid :: q.ready.flatten)
  readyAt : ∀ l, q'.readyAt l = if l = level then q.readyAt l ++ [pid] else q.readyAt l

/-- A number that joined a queue waited nowhere before, so it waits at no other level. -/
theorem Joins.level_of_mem {q q' : Queues} {pid : Pid} {level l : Priority} (h : q.Joins pid level q')
    (hn : pid ∉ q.readyAt l) (hl : pid ∈ q'.readyAt l) : l = level := by
  rw [h.readyAt l] at hl
  by_cases heq : l = level
  · exact heq
  · rw [if_neg heq] at hl
    exact absurd hl hn

/-- Every other number waited where it waits. -/
theorem Joins.mem_of_ne {q q' : Queues} {pid p : Pid} {level l : Priority} (h : q.Joins pid level q') (hne : p ≠ pid)
    (hl : p ∈ q'.readyAt l) : p ∈ q.readyAt l := by
  rw [h.readyAt l] at hl
  split at hl
  · rcases List.mem_append.mp hl with hl | hl
    · exact hl
    · exact absurd (List.mem_singleton.mp hl) hne
  · exact hl

/-- A number that is put in a ready queue joins it. -/
theorem joins_of_enqueueReady {q q' : Queues} {pid : Pid} {level : Priority}
    (h : q.enqueueReady pid level = some q') : q.Joins pid level q' := by
  have hat := readyAt_of_enqueueReady h
  simp only [enqueueReady] at h
  split at h
  · rename_i hl
    obtain rfl := Option.some.inj h
    exact ⟨List.length_modify _ _ _, rfl, flatten_modify_perm pid _ _ hl, hat⟩
  · cases h

theorem exists_enqueueReady {q : Queues} {level : Priority} (hl : level.toNat < q.ready.length) (pid : Pid) :
    ∃ q', q.enqueueReady pid level = some q' := by
  simp [enqueueReady, hl]

/-! ## Taking a number from a ready queue -/

/-- The queue that a number is taken from is the first that is not empty. -/
theorem split_of_popFirst {qs left : List (List Pid)} {pid : Pid} (h : popFirst qs = some (pid, left)) :
    ∃ empties rest more, qs = empties ++ (pid :: rest) :: more ∧ left = empties ++ rest :: more ∧
      ∀ queue ∈ empties, queue = [] := by
  induction qs generalizing left with
  | nil => simp [popFirst] at h
  | cons queue qs ih =>
    cases queue with
    | nil =>
      obtain ⟨⟨p, left'⟩, hp, heq⟩ := Option.map_eq_some_iff.mp h
      obtain ⟨rfl, rfl⟩ := Prod.mk.inj heq
      obtain ⟨empties, rest, more, rfl, rfl, hempty⟩ := ih hp
      exact ⟨[] :: empties, rest, more, rfl, rfl, by simpa using hempty⟩
    | cons p rest =>
      obtain ⟨rfl, rfl⟩ := Prod.mk.inj (Option.some.inj h)
      exact ⟨[], rest, qs, rfl, rfl, by simp⟩

/-- What it means that a number was taken from the head of a level's ready queue while every more urgent queue was
empty. -/
structure Leaves (q : Queues) (pid : Pid) (level : Priority) (q' : Queues) : Prop where
  length : q'.ready.length = q.ready.length
  blocked : q'.blocked = q.blocked
  holds : q.ready.flatten = pid :: q'.ready.flatten
  urgent : ∀ l < level, q.readyAt l = []
  readyAt : ∀ l, q.readyAt l = if l = level then pid :: q'.readyAt l else q'.readyAt l

/-- A number that is taken for the slot leaves the queue of some level. -/
theorem leaves_of_dequeueReady {q q' : Queues} {pid : Pid} (hlen : q.ready.length ≤ 256)
    (h : q.dequeueReady = some (pid, q')) : ∃ level, q.Leaves pid level q' := by
  obtain ⟨⟨p, left⟩, hpop, heq⟩ := Option.map_eq_some_iff.mp h
  obtain ⟨rfl, rfl⟩ := Prod.mk.inj heq
  obtain ⟨empties, rest, more, hready, hleft, hempty⟩ := split_of_popFirst hpop
  have hsize : empties.length < 256 := by
    have := congrArg List.length hready
    simp only [List.length_append, List.length_cons] at this
    omega
  have hlevel : (UInt8.ofNat empties.length).toNat = empties.length := UInt8.toNat_ofNat_of_lt' hsize
  refine ⟨UInt8.ofNat empties.length, ⟨?_, rfl, flatten_of_popFirst hpop, ?_, ?_⟩⟩
  · simp [hready, hleft]
  · intro l hl
    have hlt : l.toNat < empties.length := hlevel ▸ UInt8.lt_iff_toNat_lt.mp hl
    have hat : q.readyAt l = empties[l.toNat] := by
      simp [Queues.readyAt, hready, List.getElem?_append_left hlt, hlt]
    rw [hat]
    exact hempty _ (List.getElem_mem hlt)
  · intro l
    simp only [Queues.readyAt, hready, hleft]
    split
    · rename_i heq
      subst heq
      simp [hlevel]
    · rename_i hne
      have hn : l.toNat ≠ empties.length := fun hl => hne (UInt8.toNat_inj.mp (hl.trans hlevel.symm))
      rcases Nat.lt_or_gt_of_ne hn with hl | hl
      · simp [List.getElem?_append_left hl]
      · obtain ⟨n, hn⟩ : ∃ n, l.toNat - empties.length = n + 1 := ⟨l.toNat - empties.length - 1, by omega⟩
        simp [List.getElem?_append_right (Nat.le_of_lt hl), hn]

theorem dequeueReady_eq_none_iff (q : Queues) : q.dequeueReady = none ↔ q.ready.flatten = [] := by
  rw [dequeueReady, Option.map_eq_none_iff, popFirst_eq_none_iff]

/-! ## Taking a number from the blocked queue -/

/-- The number taken from the blocked queue is its head, and the ready queues stay as they are. -/
theorem dequeueBlocked_eq_some_iff {q q' : Queues} {pid : Pid} :
    q.dequeueBlocked = some (pid, q') ↔ q.blocked = pid :: q'.blocked ∧ q'.ready = q.ready := by
  obtain ⟨ready, blocked⟩ := q
  obtain ⟨ready', blocked'⟩ := q'
  cases blocked with
  | nil => simp [dequeueBlocked]
  | cons p rest =>
    simp only [dequeueBlocked, Option.some.injEq, Prod.mk.injEq, Queues.mk.injEq, List.cons.injEq]
    constructor
    · rintro ⟨rfl, rfl, rfl⟩
      exact ⟨⟨rfl, rfl⟩, rfl⟩
    · rintro ⟨⟨rfl, rfl⟩, rfl⟩
      exact ⟨rfl, rfl, rfl⟩

theorem dequeueBlocked_eq_none_iff (q : Queues) : q.dequeueBlocked = none ↔ q.blocked = [] := by
  obtain ⟨ready, blocked⟩ := q
  cases blocked <;> simp [dequeueBlocked]

end Queues
end Timeshare
