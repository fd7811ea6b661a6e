import Timeshare.Process

/-!
# The process table

The table is the only holder of records; the queues and the running slot hold numbers. A record is filed under a
number, found by it, and bears it: new records get numbers in order from 0, which wrap after 2 ^ 32 of them, and a
record that is filed under a number in use takes the place of the one there. That the number a record bears stays the
one it is filed under is up to those who change it.
-/

namespace Timeshare

/-- The records of the live processes under their numbers, in the order in which they were filed. -/
structure Table (C : Type) where
  /-- The number of the next record. -/
  nextPid : Pid := 0
  entries : List (Pid × ProcessRecord C) := []
  deriving DecidableEq, Repr

namespace Table

variable {C : Type}

/-- The record under this number. -/
def get? (t : Table C) (pid : Pid) : Option (ProcessRecord C) := t.entries.lookup pid

/-- The table without the record under this number. -/
def erase (t : Table C) (pid : Pid) : Table C := { t with entries := t.entries.filter (fun e => e.1 ≠ pid) }

/-- Files a record under the next number, which it bears from then on. -/
def insert (t : Table C) (r : ProcessRecord C) : Table C :=
  { nextPid := t.nextPid + 1, entries := (t.erase t.nextPid).entries ++ [(t.nextPid, { r with pid := t.nextPid })] }

/-- Changes the record under this number. -/
def modify (t : Table C) (pid : Pid) (f : ProcessRecord C → ProcessRecord C) : Table C :=
  { t with entries := t.entries.map (fun e => if e.1 = pid then (e.1, f e.2) else e) }

/-- The records, in the order in which they were filed. -/
def records (t : Table C) : List (ProcessRecord C) := t.entries.map (·.2)

/-- The number of records. -/
def size (t : Table C) : Nat := t.records.length

/-! ## What each operation does to the records -/

/-- A record that is found is filed under the number it was looked up by. -/
theorem mem_of_get? {t : Table C} {pid : Pid} {r : ProcessRecord C} (h : t.get? pid = some r) :
    (pid, r) ∈ t.entries := by
  obtain ⟨older, newer, hentries, -⟩ := List.lookup_eq_some_iff.mp h
  rw [hentries]
  exact List.mem_append_right _ List.mem_cons_self

/-- The first of several entries answers for its number. -/
theorem get?_cons (n : Pid) (e : Pid × ProcessRecord C) (es : List (Pid × ProcessRecord C)) (q : Pid) :
    get? ⟨n, e :: es⟩ q = if q = e.1 then some e.2 else get? ⟨n, es⟩ q := by
  obtain ⟨p, r⟩ := e
  by_cases hq : q = p
  · simp [get?, hq]
  · have hne : (q == p) = false := beq_false_of_ne hq
    simp [get?, List.lookup_cons, hq, hne]

/-- After a change the record under the number is the changed one, and every other is as before. -/
theorem get?_modify (t : Table C) (pid q : Pid) (f : ProcessRecord C → ProcessRecord C) :
    (t.modify pid f).get? q = if q = pid then (t.get? pid).map f else t.get? q := by
  obtain ⟨n, es⟩ := t
  simp only [modify]
  induction es with
  | nil => simp [get?]
  | cons e es ih =>
    rw [List.map_cons, get?_cons, ih, get?_cons, get?_cons]
    by_cases hp : e.1 = pid
    · simp only [hp, if_true]
      split <;> rfl
    · by_cases hq : q = e.1
      · simp [hq, hp]
      · have hpid : ¬pid = e.1 := fun h => hp h.symm
        simp [hq, hp, hpid]

/-- The record under a number is gone after it was erased, and every other is as before. -/
theorem get?_erase (t : Table C) (pid q : Pid) : (t.erase pid).get? q = if q = pid then none else t.get? q := by
  obtain ⟨n, es⟩ := t
  simp only [erase]
  induction es with
  | nil => simp [get?]
  | cons e es ih =>
    rw [get?_cons]
    by_cases hp : e.1 = pid
    · rw [List.filter_cons_of_neg (by simp [hp]), ih, hp]
      split <;> rfl
    · rw [List.filter_cons_of_pos (by simp [hp]), get?_cons, ih]
      by_cases hq : q = e.1
      · simp [hq, hp]
      · simp [hq]

/-- A new record is found under its number, and every other is as before. -/
theorem get?_insert (t : Table C) (r : ProcessRecord C) (q : Pid) :
    (t.insert r).get? q = if q = t.nextPid then some { r with pid := t.nextPid } else t.get? q := by
  have erased := get?_erase t t.nextPid q
  have filed := get?_cons t.nextPid (t.nextPid, { r with pid := t.nextPid }) [] q
  simp only [get?, insert] at erased filed ⊢
  rw [List.lookup_append, erased, filed]
  by_cases hq : q = t.nextPid
  · simp [hq]
  · simp [hq]

end Table

end Timeshare
