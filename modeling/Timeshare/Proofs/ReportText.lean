import Timeshare.Proofs.Numerals
import Timeshare.Report.Text

/-!
# The text report loses nothing

The lines of a report are read off its text, since no line has a line feed in it. A line of a process starts with a
digit and no heading does, so the lines of processes end where the next heading stands, whether the part that it
belongs to is there or not. So no two snapshots have one text, and no two processes have one line
(`Snapshot.report_unambiguous`).
-/

namespace Timeshare

/-! ## Words and lines -/

/-- Texts with a character between them that none of them holds are read off the whole. -/
theorem intercalate_inj {c : Char} {xs ys : List String} (hxs : ∀ x ∈ xs, c ∉ x.toList) (hys : ∀ y ∈ ys, c ∉ y.toList)
    (hxs' : xs ≠ []) (hys' : ys ≠ []) (h : c.toString.intercalate xs = c.toString.intercalate ys) : xs = ys := by
  have hsplit : ∀ zs : List String, (∀ z ∈ zs, c ∉ z.toList) → zs ≠ [] →
      (c.toString.intercalate zs).toList.splitOn c = zs.map String.toList := fun zs hzs hne => by
    rw [String.toList_intercalate, Char.toString_eq_singleton, String.toList_singleton]
    exact List.splitOn_intercalate c (List.forall_mem_map.mpr hzs) (by simpa using hne)
  have hlists := hsplit xs hxs hxs'
  rw [h, hsplit ys hys hys'] at hlists
  exact (List.map_injective_iff.mpr (fun _ _ => String.toList_inj.mp) hlists).symm

/-- A character that is neither in the texts nor between them is not in the whole. -/
theorem notMem_intercalate {c d : Char} (hne : c ≠ d) {xs : List String} (hxs : ∀ x ∈ xs, c ∉ x.toList) :
    c ∉ (d.toString.intercalate xs).toList := by
  induction xs with
  | nil => simp
  | cons x xs ih =>
    rw [List.forall_mem_cons] at hxs
    cases xs with
    | nil => simpa using hxs.1
    | cons y ys => simpa [String.intercalate_cons_cons, hxs.1, hne] using ih hxs.2

namespace Numeral

variable {c : Char}

/-- The decimal text of a number holds digits only. -/
theorem notMem_repr (hc : c.isDigit = false) (n : Nat) : c ∉ n.repr.toList := by
  intro h
  have hdigit := (digits_toDigits n).1.2 c (by simpa using h)
  rw [hc] at hdigit
  cases hdigit

/-- The decimal text of an integer holds digits and perhaps a minus sign. -/
theorem notMem_int_repr (hc : c.isDigit = false) (hminus : c ≠ '-') (n : Int) : c ∉ n.repr.toList := by
  cases n with
  | ofNat n => simpa [Int.repr] using notMem_repr hc n
  | negSucc n => simpa [Int.repr, hminus] using notMem_repr hc (n + 1)

end Numeral

namespace ProcessInfo

variable {p p' : ProcessInfo}

/-- A word of a process holds digits and dashes only. -/
theorem notMem_of_mem_words {c : Char} (hc : c.isDigit = false) (hdash : c ≠ '-') {w : String} (hw : w ∈ p.words) :
    c ∉ w.toList := by
  have hnumber := Numeral.notMem_repr hc
  simp only [words, List.mem_cons, List.not_mem_nil, or_false] at hw
  rcases hw with rfl | rfl | rfl | rfl | rfl | rfl
  · exact hnumber _
  · cases p.parent with
    | none => simpa using hdash
    | some parent => exact hnumber _
  · exact hnumber _
  · exact Numeral.notMem_int_repr hc hdash _
  · exact hnumber _
  · exact hnumber _

/-- No two processes have the same words. -/
theorem words_injective (h : p.words = p'.words) : p = p' := by
  obtain ⟨pid, parent, priority, accumulator, startTime, cpuTimeUsed⟩ := p
  obtain ⟨pid', parent', priority', accumulator', startTime', cpuTimeUsed'⟩ := p'
  simp only [words, List.cons.injEq, Nat.repr_inj, Int.repr_inj, UInt32.toNat_inj, UInt8.toNat_inj, UInt64.toNat_inj,
    Int64.toInt_inj, and_true] at h
  obtain ⟨rfl, hparent, rfl, rfl, rfl, rfl⟩ := h
  have hdash : ∀ n : Nat, n.repr ≠ "-" := fun n hn => by
    have hmem := Numeral.notMem_repr (c := '-') rfl n
    rw [hn] at hmem
    exact hmem (by simp)
  cases parent with
  | none =>
    cases parent' with
    | none => rfl
    | some parent' => exact absurd hparent.symm (hdash _)
  | some parent =>
    cases parent' with
    | none => exact absurd hparent (hdash _)
    | some parent' => rw [UInt32.toNat_inj.mp (Nat.repr_injective hparent)]

/-- No two processes have the same line. -/
theorem text_injective : Function.Injective text := by
  intro p p' h
  refine words_injective (intercalate_inj (c := ' ') ?_ ?_ (List.cons_ne_nil _ _) (List.cons_ne_nil _ _) h)
  · exact fun w hw => notMem_of_mem_words rfl (by decide) hw
  · exact fun w hw => notMem_of_mem_words rfl (by decide) hw

theorem notMem_text (p : ProcessInfo) : '\n' ∉ p.text.toList :=
  notMem_intercalate (d := ' ') (by decide) fun _ hw => notMem_of_mem_words rfl (by decide) hw

theorem exists_digit_text (p : ProcessInfo) : ∃ d, p.text.toList.head? = some d ∧ d.isDigit = true := by
  obtain ⟨d, ds, hdigits, hdigit⟩ := Numeral.exists_digit p.pid.toNat
  exact ⟨d, by simp [text, words, String.intercalate_cons_cons, hdigits], hdigit⟩

end ProcessInfo

/-! ## Parts of a report -/

namespace Snapshot

/-- A line that is of no process. -/
def Heading (line : String) : Prop := ∀ p : ProcessInfo, line ≠ p.text

/-- A line that starts with another character than a digit is of no process. -/
theorem heading_of_head? {line : String} {c : Char} (hline : line.toList.head? = some c) (hc : c.isDigit = false) :
    Heading line := by
  rintro p rfl
  obtain ⟨d, htext, hdigit⟩ := p.exists_digit_text
  obtain rfl : d = c := Option.some.inj (htext.symm.trans hline)
  rw [hc] at hdigit
  cases hdigit

variable {ps ps' : List ProcessInfo} {heading line line' : String} {rest rest' : List String}

/-- The lines of processes end at the next heading. -/
theorem rows_append_inj (hline : Heading line) (hline' : Heading line')
    (h : ps.map ProcessInfo.text ++ line :: rest = ps'.map ProcessInfo.text ++ line' :: rest') :
    ps = ps' ∧ line = line' ∧ rest = rest' := by
  induction ps generalizing ps' with
  | nil =>
    cases ps' with
    | nil => exact ⟨rfl, List.cons.inj h⟩
    | cons p' ps' => exact absurd (List.cons.inj h).1 (hline p')
  | cons p ps ih =>
    cases ps' with
    | nil => exact absurd (List.cons.inj h).1.symm (hline' p)
    | cons p' ps' =>
      obtain ⟨htext, htail⟩ := List.cons.inj h
      obtain ⟨rfl, hrest⟩ := ih htail
      exact ⟨by rw [ProcessInfo.text_injective htext], hrest⟩

/-- A part of a report that is left out where it has no processes. -/
def part (heading : String) (ps : List ProcessInfo) : List String :=
  if ps = [] then [] else heading :: ps.map ProcessInfo.text

/-- Such a part ends at the next heading, and is left out exactly if this is the next line. -/
theorem part_append_inj (hline : Heading line) (hline' : Heading line') (hne : line ≠ heading) (hne' : line' ≠ heading)
    (h : part heading ps ++ line :: rest = part heading ps' ++ line' :: rest') :
    ps = ps' ∧ line = line' ∧ rest = rest' := by
  unfold part at h
  split at h <;> split at h
  · rename_i hps hps'
    exact ⟨hps.trans hps'.symm, List.cons.inj h⟩
  · exact absurd (List.cons.inj h).1 hne
  · exact absurd (List.cons.inj h).1.symm hne'
  · exact rows_append_inj hline hline' (List.cons.inj h).2

theorem runningLines_eq_part (s : Snapshot) : s.runningLines = part "RUNNING PROCESS:" s.running.toList := by
  rw [runningLines, part]
  cases s.running <;> rfl

theorem blockedLines_eq_part (s : Snapshot) : s.blockedLines = part "BLOCKED PROCESSES:" s.blocked := by
  rw [blockedLines, part]
  cases s.blocked <;> rfl

/-- With such a part, lines start with its heading or with the one that they started with. -/
theorem exists_part_append (hheading : Heading heading) (hline : Heading line) {other : String}
    (hne : heading ≠ other) (hne' : line ≠ other) :
    ∃ line' rest', part heading ps ++ line :: rest = line' :: rest' ∧ Heading line' ∧ line' ≠ other := by
  unfold part
  split
  · exact ⟨line, rest, rfl, hline, hne'⟩
  · exact ⟨heading, _, rfl, hheading, hne⟩

/-! ## Levels -/

/-- The heading of a level. -/
def levelHeading (level : Priority) : String := "Queue of processes with priority " ++ level.toNat.repr ++ ":"

/-- No two levels have the same heading. -/
theorem levelHeading_injective : Function.Injective levelHeading := by
  intro level level' h
  unfold levelHeading at h
  rw [String.append_left_inj, String.append_right_inj] at h
  exact UInt8.toNat_inj.mp (Nat.repr_injective h)

theorem head?_levelHeading (level : Priority) : (levelHeading level).toList.head? = some 'Q' := by
  unfold levelHeading
  simp

theorem levelLines_eq (entry : ReadyLevel) :
    levelLines entry = levelHeading entry.priority :: entry.processes.map ProcessInfo.text := rfl

/-- What comes after the processes of a level is the heading of the next, or the banner. -/
theorem exists_levels_append (entries : List ReadyLevel) :
    ∃ line rest, entries.flatMap levelLines ++ [banner] = line :: rest ∧ Heading line := by
  cases entries with
  | nil => exact ⟨banner, [], rfl, heading_of_head? (c := '*') (by decide) rfl⟩
  | cons entry entries =>
    exact ⟨levelHeading entry.priority, _, by rw [List.flatMap_cons, levelLines_eq]; rfl,
      heading_of_head? (head?_levelHeading _) rfl⟩

/-- The levels are read off their lines, up to the banner. -/
theorem levels_append_inj {entries entries' : List ReadyLevel}
    (h : entries.flatMap levelLines ++ [banner] = entries'.flatMap levelLines ++ [banner]) : entries = entries' := by
  have hbanner : ∀ level, levelHeading level ≠ banner := fun level heq => by
    have hhead := head?_levelHeading level
    rw [heq] at hhead
    exact absurd hhead (by decide)
  induction entries generalizing entries' with
  | nil =>
    cases entries' with
    | nil => rfl
    | cons entry' entries' => exact absurd (List.cons.inj h).1.symm (hbanner _)
  | cons entry entries ih =>
    cases entries' with
    | nil => exact absurd (List.cons.inj h).1 (hbanner _)
    | cons entry' entries' =>
      obtain ⟨line, rest, hlines, hline⟩ := exists_levels_append entries
      obtain ⟨line', rest', hlines', hline'⟩ := exists_levels_append entries'
      rw [List.flatMap_cons, List.flatMap_cons, levelLines_eq, levelLines_eq, List.append_assoc, List.append_assoc,
        List.cons_append, List.cons_append, List.cons.injEq, hlines, hlines'] at h
      obtain ⟨hprocesses, hnext⟩ := rows_append_inj hline hline' h.2
      have hentries : entries = entries' := ih (by rw [hlines, hlines', hnext.1, hnext.2])
      have hentry : entry = entry' := by
        obtain ⟨priority, processes⟩ := entry
        obtain ⟨priority', processes'⟩ := entry'
        rw [ReadyLevel.mk.injEq]
        exact ⟨levelHeading_injective h.1, hprocesses⟩
      rw [hentry, hentries]

/-! ## Reports -/

/-- The lines of a report, part by part. -/
theorem lines_eq (s : Snapshot) : s.lines =
    banner :: "The current system state is as follows:" :: banner :: ("CURRENT TIME: " ++ s.clock.toNat.repr) ::
      (part "RUNNING PROCESS:" s.running.toList ++ (part "BLOCKED PROCESSES:" s.blocked ++
        "PROCESSES READY TO EXECUTE:" :: (s.ready.flatMap levelLines ++ [banner]))) := by
  simp [lines, runningLines_eq_part, blockedLines_eq_part]

/-- No two snapshots have the same lines. -/
theorem lines_injective : Function.Injective lines := by
  intro s s' h
  have hready : Heading "PROCESSES READY TO EXECUTE:" := heading_of_head? (c := 'P') (by decide) rfl
  have hblocked : Heading "BLOCKED PROCESSES:" := heading_of_head? (c := 'B') (by decide) rfl
  rw [lines_eq, lines_eq] at h
  simp only [List.cons.injEq, true_and, String.append_right_inj] at h
  obtain ⟨hclock, hparts⟩ := h
  -- the part of the running process ends at the heading of the next part that is there
  have hnext : ∀ (ps : List ProcessInfo) (rest : List String), ∃ line' rest',
      part "BLOCKED PROCESSES:" ps ++ "PROCESSES READY TO EXECUTE:" :: rest = line' :: rest' ∧ Heading line' ∧
        line' ≠ "RUNNING PROCESS:" :=
    fun _ _ => exists_part_append hblocked hready (by decide) (by decide)
  obtain ⟨line, rest, hlines, hline, hne⟩ := hnext s.blocked (s.ready.flatMap levelLines ++ [banner])
  obtain ⟨line', rest', hlines', hline', hne'⟩ := hnext s'.blocked (s'.ready.flatMap levelLines ++ [banner])
  rw [hlines, hlines'] at hparts
  obtain ⟨hrunning, hfirst, hrest⟩ := part_append_inj hline hline' hne hne' hparts
  rw [hfirst, hrest, ← hlines'] at hlines
  obtain ⟨hblocked, -, hlevels⟩ := part_append_inj hready hready (by decide) (by decide) hlines
  obtain ⟨clock, running, blocked, ready⟩ := s
  obtain ⟨clock', running', blocked', ready'⟩ := s'
  have hslot : running = running' := by simpa using congrArg List.head? hrunning
  rw [Snapshot.mk.injEq]
  exact ⟨UInt64.toNat_inj.mp (Nat.repr_injective hclock), hslot, hblocked, levels_append_inj hlevels⟩

/-- A part of a report has no line feed in its lines if its heading has none. -/
theorem notMem_part (hheading : '\n' ∉ heading.toList) (hline : line ∈ part heading ps) : '\n' ∉ line.toList := by
  unfold part at hline
  split at hline
  · cases hline
  · rcases List.mem_cons.mp hline with rfl | hrow
    · exact hheading
    · obtain ⟨p, -, rfl⟩ := List.mem_map.mp hrow
      exact p.notMem_text

/-- The lines of a level have no line feed in them. -/
theorem notMem_levelLines {entry : ReadyLevel} (hline : line ∈ levelLines entry) : '\n' ∉ line.toList := by
  rw [levelLines_eq] at hline
  rcases List.mem_cons.mp hline with rfl | hrow
  · have hlevel := Numeral.notMem_repr (c := '\n') rfl entry.priority.toNat
    unfold levelHeading
    simpa using hlevel
  · obtain ⟨p, -, rfl⟩ := List.mem_map.mp hrow
    exact p.notMem_text

/-- No line of a report has a line feed in it. -/
theorem notMem_lines {s : Snapshot} (hline : line ∈ s.lines) : '\n' ∉ line.toList := by
  have hbanner : '\n' ∉ banner.toList := by decide
  have hclock := Numeral.notMem_repr (c := '\n') rfl s.clock.toNat
  rw [lines_eq] at hline
  simp only [List.mem_cons, List.mem_append, List.mem_flatMap, List.not_mem_nil, or_false] at hline
  rcases hline with rfl | rfl | rfl | rfl | hrunning | hblocked | rfl | ⟨entry, -, hlevel⟩ | rfl
  · exact hbanner
  · decide
  · exact hbanner
  · simpa using hclock
  · exact notMem_part (by decide) hrunning
  · exact notMem_part (by decide) hblocked
  · decide
  · exact notMem_levelLines hlevel
  · exact hbanner

/-- The text of a report tells which snapshot it is of, whatever that holds, and the line of a process tells which
process it is of. -/
theorem report_unambiguous : Function.Injective text ∧ Function.Injective ProcessInfo.text := by
  refine ⟨fun s s' h => ?_, ProcessInfo.text_injective⟩
  have hne : ∀ s : Snapshot, s.lines ≠ [] := fun s => by
    rw [lines_eq]
    exact List.cons_ne_nil _ _
  exact lines_injective (intercalate_inj (c := '\n') (fun _ hl => notMem_lines hl) (fun _ hl => notMem_lines hl)
    (hne s) (hne s') h)

end Snapshot
end Timeshare
