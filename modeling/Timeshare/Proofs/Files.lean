import Timeshare.Proofs.Descent
import Timeshare.Proofs.FileText
import Timeshare.Proofs.Requested

/-!
# Programs in files are programs on a shelf

A directory that holds a file for each of some programs, and nothing else, gives for the name of a file what a shelf
with these programs gives (`Source.directory_eq_shelf`): a path to the directory and then a name leads to what stands
there under the name, and the text of the file is cut into the lines of the program again. A run asks for nothing but
names, so over both sources it is the same. How the lines of a file are ended does not matter to any name at all
(`Disk.Relaid`).
-/

namespace Timeshare

/-! ## Names of files -/

namespace Path

/-- The name of a file in a directory: no slash and no null character is in it, it is not empty, and not one dot or
two. It is not too long, and the path to the file is not either. -/
@[mk_iff]
structure FileName (root name : String) : Prop where
  ne_empty : name ≠ ""
  slash : '/' ∉ name.toList
  null : '\x00' ∉ name.toList
  ne_dot : name ≠ "."
  ne_dots : name ≠ ".."
  size : name.utf8ByteSize ≤ 255
  pathSize : (join root name).utf8ByteSize < 4096

instance (root name : String) : Decidable (FileName root name) := decidable_of_iff' _ (fileName_iff root name)

namespace FileName

variable {root name : String}

theorem segments_eq (h : FileName root name) : segments name.toList = [name.toList] := Lines.splitOnP_of_notMem h.slash

theorem toList_ne (h : FileName root name) : name.toList ≠ [] ∧ name.toList ≠ ['.'] ∧ name.toList ≠ ['.', '.'] :=
  ⟨fun heq => h.ne_empty (String.toList_eq_nil_iff.mp heq), fun heq => h.ne_dot (String.toList_inj.mp heq),
    fun heq => h.ne_dots (String.toList_inj.mp heq)⟩

theorem head?_ne (h : FileName root name) : name.toList.head? ≠ some '/' :=
  fun heq => h.slash (List.mem_of_mem_head? heq)

/-- A program may have it. -/
theorem not_refused (h : FileName root name) : ¬Refused name := by
  obtain ⟨hempty, hdot, hdots⟩ := h.toList_ne
  simp only [Refused, h.segments_eq, List.mem_singleton, List.head?_cons, Option.some.injEq, not_or]
  exact ⟨h.ne_empty, h.head?_ne, Ne.symm hdots, hdot⟩

theorem notMem_join (h : FileName root name) (hroot : '\x00' ∉ root.toList) : '\x00' ∉ (join root name).toList := by
  unfold join
  split <;> simp [hroot, h.null]

end FileName
end Path

/-! ## Following paths -/

namespace Disk

variable {d d' : Disk} {here : Place} {segment : List Char} {segs : List (List Char)} {entry : Entry}
    {root name path : String}

/-- A path leads on from a directory, unless the next segment is too long. -/
theorem walk_cons (hat : d.at? here = some .directory) (hsize : (String.ofList segment).utf8ByteSize ≤ 255)
    (segs : List (List Char)) :
    d.walk here (segment :: segs) = d.walk (here.follow segment) segs := by
  rw [walk, hat]
  exact if_neg (Nat.not_lt.mpr hsize)

/-- A path leads on from a place if this is a directory, the next segment is not too long, and the rest leads on from
there. -/
theorem walk_cons_eq_ok_iff : d.walk here (segment :: segs) = .ok entry ↔
    d.at? here = some .directory ∧ (String.ofList segment).utf8ByteSize ≤ 255 ∧ d.walk (here.follow segment) segs =
      .ok entry := by
  rw [walk]
  cases hat : d.at? here with
  | none => simp
  | some found =>
    cases found with
    | file => simp
    | directory =>
      simp only [true_and]
      split
      · rename_i hlong
        simp [Nat.not_le.mpr hlong]
      · rename_i hshort
        simp [Nat.not_lt.mp hshort]

/-- A path that leads to a directory leads on from there. -/
theorem walk_append (h : d.walk here segs = .ok .directory) (rest : List (List Char)) :
    d.walk here (segs ++ rest) = d.walk (here.descend segs) rest := by
  induction segs generalizing here with
  | nil => rfl
  | cons segment segs ih =>
    obtain ⟨hat, hsize, hwalk⟩ := walk_cons_eq_ok_iff.mp h
    rw [List.cons_append, walk_cons hat hsize, Place.descend_cons, ih hwalk]

/-- A path that leads somewhere leads through directories. -/
theorem walk_of_append {rest : List (List Char)} (h : d.walk here (segs ++ segment :: rest) = .ok entry) :
    d.walk here segs = .ok .directory := by
  induction segs generalizing here with
  | nil => rw [walk, (walk_cons_eq_ok_iff.mp h).1]
  | cons first segs ih =>
    obtain ⟨hat, hsize, hwalk⟩ := walk_cons_eq_ok_iff.mp h
    exact walk_cons_eq_ok_iff.mpr ⟨hat, hsize, ih hwalk⟩

/-- Where a path leads there is what following it gives. -/
theorem at?_of_walk (h : d.walk here segs = .ok entry) : d.at? (here.descend segs) = some entry := by
  induction segs generalizing here with
  | nil =>
    rw [walk] at h
    cases hat : d.at? here <;> rw [hat] at h <;> cases h
    exact hat
  | cons segment segs ih => exact ih (walk_cons_eq_ok_iff.mp h).2.2

/-- Following a path does not fail because of what it leads to. -/
theorem walk_ne_isDirectory : d.walk here segs ≠ .error .isDirectory := by
  induction segs generalizing here with
  | nil =>
    rw [walk]
    split <;> exact fun h => by cases h
  | cons segment segs ih =>
    rw [walk]
    split
    · exact fun h => by cases h
    · exact fun h => by cases h
    · split
      · exact fun h => by cases h
      · exact ih

/-- A path that cannot be read because it leads to a directory leads to one. -/
theorem walk_of_read (h : d.read path = .error .isDirectory) :
    '\x00' ∉ path.toList ∧ d.walk (Place.startOf path) (Path.segments path.toList) = .ok .directory := by
  rw [read] at h
  split at h
  · cases h
  · rename_i hnull
    refine ⟨hnull, ?_⟩
    split at h
    · cases h
    · split at h
      · rename_i hwalk
        exact absurd (Except.error.inj h ▸ hwalk) walk_ne_isDirectory
      · assumption
      · cases h

/-- The path to a file in a directory leads to what stands in the directory under the name. -/
theorem walk_join (hroot : d.read root = .error .isDirectory) (hname : Path.FileName root name) :
    d.walk (Place.startOf (Path.join root name)) (Path.segments (Path.join root name).toList) =
      d.walk ((Place.ofPath root).follow name.toList) [] := by
  obtain ⟨above, habove, hsegments⟩ := Path.segments_join root name
  have hwalk : d.walk (Place.startOf root) above = .ok .directory := by
    have hwalk := (walk_of_read hroot).2
    rcases habove with habove | habove <;> rw [habove] at hwalk
    · exact hwalk
    · exact walk_of_append hwalk
  rw [hsegments, hname.segments_eq, Place.startOf_join hname.head?_ne, walk_append hwalk,
    Place.ofPath_eq_descend habove]
  exact walk_cons (at?_of_walk hwalk) (by simpa using hname.size) []

/-- What is read under the path to a file in a directory is what stands there under the name. -/
theorem read_join (hroot : d.read root = .error .isDirectory) (hname : Path.FileName root name) :
    d.read (Path.join root name) = match d.at? ((Place.ofPath root).follow name.toList) with
      | none => .error .missing
      | some .directory => .error .isDirectory
      | some (.file content) => .ok content := by
  rw [read, if_neg (hname.notMem_join (walk_of_read hroot).1), if_neg (Nat.not_le.mpr hname.pathSize),
    walk_join hroot hname, walk]
  cases d.at? ((Place.ofPath root).follow name.toList) with
  | none => rfl
  | some entry => cases entry <;> rfl

/-! ## Files of the same lines -/

/-- The same lines are laid out in both contents, each ended by a line feed, with a carriage return before it or
without. -/
def SameLines (content content' : ByteArray) : Prop :=
  ∃ lines text text', (∀ line ∈ lines, Lines.Plain line) ∧ Lines.Laid ["\n", "\r\n"] lines text ∧
    Lines.Laid ["\n", "\r\n"] lines text' ∧
    content = text.toUTF8 ∧ content' = text'.toUTF8

/-- The disks differ only in how the lines of files are ended. -/
def Relaid (d d' : Disk) : Prop :=
  ∀ place, d'.at? place = d.at? place ∨
    ∃ content content', d.at? place = some (.file content) ∧ d'.at? place = some (.file content') ∧
      SameLines content content'

/-- Following a path comes to the same on both disks, or it leads to files that differ only in this. -/
theorem Relaid.walk (h : d.Relaid d') (here : Place) (segs : List (List Char)) :
    d'.walk here segs = d.walk here segs ∨
      ∃ content content', d.walk here segs = .ok (.file content) ∧ d'.walk here segs = .ok (.file content') ∧
        SameLines content content' := by
  induction segs generalizing here with
  | nil =>
    rw [Disk.walk, Disk.walk]
    rcases h here with hat | ⟨content, content', hat, hat', hsame⟩
    · exact .inl (by rw [hat])
    · exact .inr ⟨content, content', by rw [hat], by rw [hat'], hsame⟩
  | cons segment segs ih =>
    rw [Disk.walk, Disk.walk]
    rcases h here with hat | ⟨content, content', hat, hat', -⟩
    · rw [hat]
      cases d.at? here with
      | none => exact .inl rfl
      | some entry =>
        cases entry with
        | file => exact .inl rfl
        | directory =>
          by_cases hsize : 255 < (String.ofList segment).utf8ByteSize
          · exact .inl (by simp only [hsize, if_true])
          · simpa only [hsize, if_false] using ih (here.follow segment)
    · -- what follows a file is wrong on both disks
      exact .inl (by rw [hat, hat'])

/-- Reading a path comes to the same on both disks, or it gives contents of the same lines. -/
theorem Relaid.read (h : d.Relaid d') (path : String) :
    d'.read path = d.read path ∨
      ∃ content content', d.read path = .ok content ∧ d'.read path = .ok content' ∧ SameLines content content' := by
  rw [Disk.read, Disk.read]
  by_cases hnull : '\x00' ∈ path.toList
  · exact .inl (by rw [if_pos hnull, if_pos hnull])
  · by_cases hsize : 4096 ≤ path.utf8ByteSize
    · exact .inl (by simp only [if_neg hnull, if_pos hsize])
    · simp only [if_neg hnull, if_neg hsize]
      rcases h.walk (Place.startOf path) (Path.segments path.toList) with
        hwalk | ⟨content, content', hwalk, hwalk', hsame⟩
      · exact .inl (by rw [hwalk])
      · exact .inr ⟨content, content', by rw [hwalk], by rw [hwalk'], hsame⟩

end Disk

/-! ## Loading from files -/

namespace Source

variable {d d' : Disk} {root name path text : String} {lines : List String} {programs : List (String × List String)}

theorem linesOf_toUTF8 (name path text : String) : linesOf name path (.ok text.toUTF8) = .ok (Lines.ofString text) := by
  have htext : String.fromUTF8? text.toUTF8 = some text := dif_pos text.isValidUTF8
  simp only [linesOf, htext]

/-- A file in which plain lines are laid out has these lines. -/
theorem linesOf_of_laid (hlines : ∀ line ∈ lines, Lines.Plain line) (htext : Lines.Laid ["\n", "\r\n"] lines text)
    (name path : String) :
    linesOf name path (.ok text.toUTF8) = .ok lines := by
  rw [linesOf_toUTF8, htext.ofString_eq hlines]

/-- How the lines of files are ended does not matter to the programs below a directory. -/
theorem directory_of_relaid (h : d.Relaid d') (root : String) : directory d'.read root = directory d.read root := by
  funext name
  rw [directory, directory]
  cases pathOf root name with
  | error => rfl
  | ok path =>
    simp only
    rcases h.read path with hread | ⟨_, _, hread, hread', lines, text, text', hlines, htext, htext', rfl, rfl⟩
    · rw [hread]
    · rw [hread, hread', linesOf_of_laid hlines htext, linesOf_of_laid hlines htext']

/-- The directory holds a file for each of the programs, with a line feed after each line, and nothing else under the
name of a file. The lines hold no line feeds, and do not end in carriage returns. -/
structure Stocked (d : Disk) (root : String) (programs : List (String × List String)) : Prop where
  directory : d.read root = .error .isDirectory
  plain : ∀ program ∈ programs, ∀ line ∈ program.2, Lines.Plain line
  files : ∀ name, Path.FileName root name → d.at? ((Place.ofPath root).follow name.toList) =
    (shelf programs name).toOption.map fun lines => .file (Lines.fileText lines).toUTF8

/-- What a shelf gives is one of its programs. -/
theorem mem_of_shelf (h : shelf programs name = .ok lines) : (name, lines) ∈ programs := by
  rw [shelf] at h
  split at h
  · rename_i hlookup
    obtain ⟨older, newer, hprograms, -⟩ := List.lookup_eq_some_iff.mp hlookup
    rw [← List.mem_reverse, hprograms, ← Except.ok.inj h]
    exact List.mem_append_right _ List.mem_cons_self
  · cases h

/-- Under the name of a file the directory gives what the shelf does. -/
theorem directory_eq_shelf (h : Stocked d root programs) (hname : Path.FileName root name) :
    directory d.read root name = shelf programs name := by
  have hfiles := h.files name hname
  rw [(confined_of_not_refused hname.not_refused).load, Disk.read_join h.directory hname, hfiles]
  cases hshelf : shelf programs name with
  | error fault =>
    rw [shelf] at hshelf
    split at hshelf <;> cases hshelf
    rfl
  | ok lines =>
    exact linesOf_of_laid (h.plain _ (mem_of_shelf hshelf)) ((Lines.laid_fileText lines).mono (by simp)) name _

/-- What the programs in the files of a directory have in common with those on a shelf. -/
structure Interchangeable (d : Disk) (root : String) (programs : List (String × List String)) : Prop where
  /-- Under the name of a file both give the same lines, or both say that there is no such program. -/
  load : ∀ name, Path.FileName root name →
    (∃ lines, directory d.read root name = .ok lines ∧ shelf programs name = .ok lines) ∨
      (directory d.read root name = .error (.notFound name) ∧ shelf programs name = .error (.notFound name))
  /-- A run that asks for names of files only is the same over both. -/
  run : ∀ (s : Session) (requests : List Request),
    (∀ x ∈ s.exchanges (requests.map (Prod.mk (shelf programs))), ∀ name ∈ x.wanted?, Path.FileName root name) →
      s.exchanges (requests.map (Prod.mk (directory d.read root))) =
        s.exchanges (requests.map (Prod.mk (shelf programs)))
  /-- A file that is rewritten has the same lines. -/
  rewritten : ∀ program ∈ programs, ∀ text, Lines.Rewritten program.2 text →
    Disk.SameLines (Lines.fileText program.2).toUTF8 text.toUTF8
  /-- The programs in the files are the same if files are rewritten, whatever the name. -/
  relaid : ∀ d', d.Relaid d' → directory d'.read root = directory d.read root
  /-- So is every run over them. -/
  rerun : ∀ d', d.Relaid d' → ∀ (s : Session) (requests : List Request),
    s.exchanges (requests.map (Prod.mk (directory d'.read root))) =
      s.exchanges (requests.map (Prod.mk (directory d.read root)))

/-- A directory that holds a file for each of some programs and a shelf that holds the programs can take each other's
place: under the name of a file they give the same, and every run that asks for names of files only is the same over
both. It makes no difference if the line feeds in the files become line feeds after carriage returns, or if the last
one is dropped after a line that is not empty. -/
theorem sources_interchangeable (h : Stocked d root programs) : Interchangeable d root programs where
  load := by
    intro name hname
    rw [directory_eq_shelf h hname, shelf]
    cases programs.reverse.lookup name with
    | none => exact .inr ⟨rfl, rfl⟩
    | some lines => exact .inl ⟨lines, rfl, rfl⟩
  run := by
    intro s requests hnames
    exact (Session.exchanges_congr fun x hx name hname => (directory_eq_shelf h (hnames x hx name hname)).symm).symm
  rewritten := by
    intro program hprogram text htext
    have hlines := h.plain program hprogram
    have hlaid : Lines.Laid ["\n", "\r\n"] program.2 (Lines.fileText program.2) :=
      (Lines.laid_fileText program.2).mono (by simp)
    exact ⟨program.2, _, text, hlines, hlaid, htext.laid fun line hline => (hlines line hline).1, rfl, rfl⟩
  relaid := fun d' hrelaid => directory_of_relaid hrelaid root
  rerun := by
    intro d' hrelaid s requests
    rw [directory_of_relaid hrelaid root]

/-- Two programs, of which the first asks for the second, and the second for one that there is not. -/
def pairSample : List (String × List String) := [("a", ["R b"]), ("b", ["R c", "E"])]

/-- A disk with two files in a directory. -/
def pairSampleDisk (a b : String) : Disk :=
  { entries := [
      ({ segments := ["progs".toList] }, .directory),
      ({ segments := ["progs".toList, ['a']] }, .file a.toUTF8),
      ({ segments := ["progs".toList, ['b']] }, .file b.toUTF8)] }

/-- What stands on a disk with two files in a directory. -/
theorem at?_pairSampleDisk (a b : String) (place : Place) : (pairSampleDisk a b).at? place =
    if place = { segments := ["progs".toList, ['b']] } then some (.file b.toUTF8)
    else if place = { segments := ["progs".toList, ['a']] } then some (.file a.toUTF8)
    else if place = { segments := ["progs".toList] } ∨ place.segments = [] then some .directory else none := by
  have hlookup : ∀ (listed : Place) (entry : Entry) (rest : List (Place × Entry)),
      ((listed, entry) :: rest).lookup place = if place = listed then some entry else rest.lookup place := by
    intro listed entry rest
    by_cases h : place = listed
    · rw [List.lookup_cons, if_pos h, beq_iff_eq.mpr h]
    · rw [List.lookup_cons, if_neg h, beq_false_of_ne h]
  have hentries : (pairSampleDisk a b).entries.reverse = [({ segments := ["progs".toList, ['b']] }, .file b.toUTF8),
      ({ segments := ["progs".toList, ['a']] }, .file a.toUTF8), ({ segments := ["progs".toList] }, .directory)] := rfl
  rw [Disk.at?, hentries, hlookup, hlookup, hlookup, List.lookup_nil]
  split_ifs with hb ha hdir htop <;> simp_all

/-- The two files of the disk may be rewritten. -/
theorem relaid_pairSampleDisk {a b a' b' : String} (ha : Disk.SameLines a.toUTF8 a'.toUTF8)
    (hb : Disk.SameLines b.toUTF8 b'.toUTF8) :
    (pairSampleDisk a b).Relaid (pairSampleDisk a' b') := by
  intro place
  rw [at?_pairSampleDisk, at?_pairSampleDisk]
  split_ifs
  · exact .inr ⟨_, _, rfl, rfl, hb⟩
  · exact .inr ⟨_, _, rfl, rfl, ha⟩
  · exact .inl rfl
  · exact .inl rfl

/-- The two programs in their files. -/
theorem stocked_pairSample : Stocked (pairSampleDisk "R b\n" "R c\nE\n") "progs" pairSample where
  directory := rfl
  plain := by decide
  files := by
    intro name hname
    obtain ⟨hempty, hdot, hdots⟩ := hname.toList_ne
    have hroot : Place.ofPath "progs" = { segments := ["progs".toList] } := by decide
    have hplace : (Place.ofPath "progs").follow name.toList = { segments := ["progs".toList, name.toList] } := by
      rw [hroot, Place.follow_of_down ⟨hempty, hdot⟩ hdots]
      rfl
    rw [hplace, at?_pairSampleDisk]
    by_cases hb : name = "b"
    · subst hb
      rfl
    · by_cases ha : name = "a"
      · subst ha
        rfl
      · have hshelf : shelf pairSample name = .error (.notFound name) := by
          simp [shelf, pairSample, List.lookup_cons, beq_false_of_ne hb, beq_false_of_ne ha]
        have hletters : name.toList ≠ ['b'] ∧ name.toList ≠ ['a'] :=
          ⟨fun heq => hb (String.toList_inj.mp heq), fun heq => ha (String.toList_inj.mp heq)⟩
        rw [hshelf]
        simp [hletters, Except.toOption]

/-- A process asks for a program, which asks for one that there is not, and then ends. -/
def pairSampleRequests : List Request := [.operation (.createFrom 0 "a"), .command .tick, .line "Q", .command .tick]

/-- One of the files without its last line feed, and carriage returns in the other. -/
theorem sources_interchangeable_sample :
    Stocked (pairSampleDisk "R b\n" "R c\nE\n") "progs" pairSample ∧
      (pairSampleDisk "R b\n" "R c\nE\n").Relaid (pairSampleDisk "R b" "R c\r\nE\r\n") ∧
      (∃ x ∈ Session.exchanges { kernel := Kernel.empty 1 } (pairSampleRequests.map (Prod.mk (shelf pairSample))),
        x.ticked? = some (.replaceFailed 0 (.programUnavailable "c" "program not found: c"))) ∧
      Session.exchanges { kernel := Kernel.empty 1 }
          (pairSampleRequests.map (Prod.mk (directory (pairSampleDisk "R b" "R c\r\nE\r\n").read "progs"))) =
        Session.exchanges { kernel := Kernel.empty 1 } (pairSampleRequests.map (Prod.mk (shelf pairSample))) := by
  have hshared := sources_interchangeable stocked_pairSample
  have hrelaid : (pairSampleDisk "R b\n" "R c\nE\n").Relaid (pairSampleDisk "R b" "R c\r\nE\r\n") := by
    refine relaid_pairSampleDisk (hshared.rewritten _ List.mem_cons_self _ ?_)
      (hshared.rewritten _ (List.mem_cons_of_mem _ List.mem_cons_self) _ ?_)
    · exact .unended (by decide) (by decide)
    · exact .returns
  have hfailed :
    ∃ x ∈ Session.exchanges { kernel := Kernel.empty 1 } (pairSampleRequests.map (Prod.mk (shelf pairSample))),
      x.ticked? = some (.replaceFailed 0 (.programUnavailable "c" "program not found: c")) := by
    decide +kernel
  have hnames :
    ∀ x ∈ Session.exchanges { kernel := Kernel.empty 1 } (pairSampleRequests.map (Prod.mk (shelf pairSample))),
      ∀ name ∈ x.wanted?, Path.FileName "progs" name := by
    decide +kernel
  exact ⟨stocked_pairSample, hrelaid, hfailed, (hshared.rerun _ hrelaid _ _).trans (hshared.run _ _ hnames)⟩

end Source
end Timeshare
