import Mathlib
import Timeshare.Table

/-!
# The numbers of a table

No two records of a table bear the same number as long as every new record gets a number that is not in use. A change
of a record keeps its number, an erased record takes its number along, and a new one adds its own.
-/

namespace Timeshare
namespace Table

variable {C : Type}

/-- The numbers of the table, in the order in which its records were filed. -/
def pids (t : Table C) : List Pid := t.entries.map (·.1)

/-- A record is found under a number exactly if the number is one of the table's. -/
theorem mem_pids_iff {t : Table C} {pid : Pid} : pid ∈ t.pids ↔ ∃ r, t.get? pid = some r := by
  obtain ⟨n, es⟩ := t
  induction es with
  | nil => simp [pids, get?]
  | cons e es ih =>
    rw [get?_cons, pids, List.map_cons, List.mem_cons]
    by_cases hp : pid = e.1
    · simp [hp]
    · simp only [hp, if_false, false_or]
      exact ih

/-- Where numbers are unique, a record is what is found under its number. -/
theorem get?_of_mem {t : Table C} (hu : t.pids.Nodup) {pid : Pid} {r : ProcessRecord C} (hr : (pid, r) ∈ t.entries) :
    t.get? pid = some r := by
  obtain ⟨r', hr'⟩ := mem_pids_iff.mp (List.mem_map_of_mem hr)
  have heq : (pid, r') = (pid, r) := List.inj_on_of_nodup_map hu (mem_of_get? hr') hr rfl
  rw [hr', (Prod.mk.inj heq).2]

/-! ## Changing a record -/

/-- A change of a record keeps all numbers. -/
theorem pids_modify (t : Table C) (pid : Pid) (f : ProcessRecord C → ProcessRecord C) :
    (t.modify pid f).pids = t.pids := by
  simp only [pids, modify, List.map_map]
  refine List.map_congr_left fun e _ => ?_
  simp only [Function.comp_apply]
  split <;> rfl

/-- The records after a change are those before it, the one under the number changed. -/
theorem forall_mem_modify {t : Table C} {pid : Pid} {f : ProcessRecord C → ProcessRecord C}
    {P : Pid → ProcessRecord C → Prop} :
    (∀ p r, (p, r) ∈ (t.modify pid f).entries → P p r) ↔
      ∀ p r, (p, r) ∈ t.entries → P p (if p = pid then f r else r) := by
  constructor
  · intro h p r hr
    refine h p _ (List.mem_map.mpr ⟨(p, r), hr, ?_⟩)
    split <;> rfl
  · intro h p r hr
    obtain ⟨e, he, heq⟩ := List.mem_map.mp hr
    have := h e.1 e.2 he
    split at heq
    · rename_i hp
      obtain ⟨rfl, rfl⟩ := Prod.mk.inj heq
      rwa [if_pos hp] at this
    · rename_i hp
      obtain rfl := heq
      rwa [if_neg hp] at this

/-- What is told of a record after a change is what the change makes of it, and of every other record the same as
before. -/
theorem map_get?_modify {α : Type} (t : Table C) (pid p : Pid) {f : ProcessRecord C → ProcessRecord C}
    {tell : ProcessRecord C → α} {change : α → α} (hf : ∀ r, tell (f r) = change (tell r)) :
    ((t.modify p f).get? pid).map tell =
      if pid = p then ((t.get? pid).map tell).map change else (t.get? pid).map tell := by
  rw [get?_modify]
  split
  · rename_i hpid
    rw [hpid]
    cases t.get? p with
    | none => rfl
    | some r => simp [hf]
  · rfl

/-- What is told of records stays the same over a change that keeps it. -/
theorem map_get?_modify_eq {α : Type} (t : Table C) (pid p : Pid) {f : ProcessRecord C → ProcessRecord C}
    {tell : ProcessRecord C → α} (hf : ∀ r, tell (f r) = tell r) :
    ((t.modify p f).get? pid).map tell = (t.get? pid).map tell := by
  have hid : ∀ r, tell (f r) = id (tell r) := hf
  rw [map_get?_modify t pid p hid, Option.map_id, id, ite_self]

/-- Two changes of one record are one change. -/
theorem modify_modify (t : Table C) (pid : Pid) (f g : ProcessRecord C → ProcessRecord C) :
    (t.modify pid f).modify pid g = t.modify pid fun r => g (f r) := by
  simp only [modify, List.map_map, mk.injEq, true_and]
  refine List.map_congr_left fun e _ => ?_
  simp only [Function.comp_apply]
  split <;> simp_all

/-- A change that leaves the record under the number as it is changes nothing. -/
theorem modify_eq_self {t : Table C} {pid : Pid} {f : ProcessRecord C → ProcessRecord C}
    (h : ∀ r, (pid, r) ∈ t.entries → f r = r) : t.modify pid f = t := by
  obtain ⟨n, es⟩ := t
  simp only [modify, mk.injEq, true_and]
  refine (List.map_congr_left fun e he => ?_).trans (List.map_id es)
  split
  · rename_i hpid
    rw [h e.2 (hpid ▸ he)]
    rfl
  · rfl

/-! ## Erasing a record -/

theorem pids_erase (t : Table C) (pid : Pid) : (t.erase pid).pids = t.pids.filter (· ≠ pid) := by
  simp only [pids, erase, List.filter_map]
  rfl

theorem mem_erase_iff {t : Table C} {pid p : Pid} {r : ProcessRecord C} :
    (p, r) ∈ (t.erase pid).entries ↔ (p, r) ∈ t.entries ∧ p ≠ pid := by
  simp [erase]

/-! ## Filing a record -/

/-- Erasing under a number that is not in use changes nothing. -/
theorem erase_eq_self {t : Table C} {pid : Pid} (h : pid ∉ t.pids) : t.erase pid = t := by
  obtain ⟨n, es⟩ := t
  simp only [erase, mk.injEq, true_and, List.filter_eq_self]
  intro e he
  simp only [ne_eq, decide_not, Bool.not_eq_true', decide_eq_false_iff_not]
  exact fun heq => h (heq ▸ List.mem_map_of_mem he)

theorem entries_insert {t : Table C} (h : t.nextPid ∉ t.pids) (r : ProcessRecord C) :
    (t.insert r).entries = t.entries ++ [(t.nextPid, { r with pid := t.nextPid })] := by
  rw [insert, erase_eq_self h]

theorem pids_insert {t : Table C} (h : t.nextPid ∉ t.pids) (r : ProcessRecord C) :
    (t.insert r).pids = t.pids ++ [t.nextPid] := by
  simp [pids, entries_insert h]

end Table
end Timeshare
