import Timeshare.Kernel.Step
import Timeshare.Source.Directory

/-!
# Program names lead down

Which names are refused is said here by the segments of a name (`Path.Refused`). From any directory a name that is not
refused leads down, and never back above it, and the path that is read for it leads to that place below the directory
of the programs (`Source.Confined`). So whatever an instruction asks for, nothing that is not below this directory
matters to it (`Source.names_confined`).
-/

namespace Timeshare

/-! ## Segments -/

namespace Path

variable {a b segment : List Char} {root name : String}

theorem segments_append (a b : List Char) : segments (a ++ '/' :: b) = segments a ++ segments b :=
  List.splitOnP_append_cons a b rfl

theorem segments_ne_nil (a : List Char) : segments a ≠ [] := List.splitOnP_ne_nil _ _

theorem segments_nil : segments [] = [[]] := rfl

/-- A slash ends an empty segment; any other character belongs to the segment that follows it. -/
theorem segments_cons (c : Char) (a : List Char) :
    segments (c :: a) = if c = '/' then [] :: segments a else (segments a).modifyHead (c :: ·) := by
  rw [segments, List.splitOnP_cons_eq_if_modifyHead]
  simp [segments]

/-- The path of a name has the segments of the directory and then those of the name. A directory that is written with
a slash at its end, or not at all, has an empty segment more. -/
theorem segments_join (root name : String) :
    ∃ above, (segments root.toList = above ∨ segments root.toList = above ++ [[]]) ∧
      segments (join root name).toList = above ++ segments name.toList := by
  unfold join
  split
  · rename_i hlast
    rw [List.getLast?_eq_none_iff.mp hlast]
    exact ⟨[], .inr rfl, rfl⟩
  · rename_i hlast
    obtain ⟨front, hroot⟩ := List.getLast?_eq_some_iff.mp hlast
    refine ⟨segments front, .inr ?_, ?_⟩
    · rw [hroot, segments_append, segments_nil]
    · rw [String.toList_append, hroot, List.append_assoc, List.singleton_append, segments_append]
  · refine ⟨segments root.toList, .inl rfl, ?_⟩
    simp [segments_append]

/-! ## Refused names -/

/-- A name that is empty, starts with a slash, has two dots for a segment, or a dot for its first. -/
def Refused (name : String) : Prop :=
  name = "" ∨ name.toList.head? = some '/' ∨ ['.', '.'] ∈ segments name.toList ∨
    (segments name.toList).head? = some ['.']

/-- Segments all lead down, or nowhere, exactly if none is two dots. -/
theorem all_isDown_stepOf_iff {segs : List (List Char)} :
    (segs.filterMap stepOf).all Step.isDown = true ↔ ['.', '.'] ∉ segs := by
  simp only [List.all_eq_true, List.mem_filterMap]
  constructor
  · intro h hmem
    exact absurd (h .up ⟨_, hmem, rfl⟩) Bool.false_ne_true
  · rintro h step ⟨segment, hmem, hstep⟩
    unfold stepOf at hstep
    split at hstep
    · cases hstep
    · have hup : segment ≠ ['.', '.'] := fun heq => h (heq ▸ hmem)
      rw [if_neg hup] at hstep
      obtain rfl := Option.some.inj hstep
      rfl

/-- The steps of a path that is not empty all lead down exactly if it does not start with a slash, has no two dots for
a segment, and no dot for its first. -/
theorem all_isDown_steps_iff (h : a ≠ []) : (steps a).all Step.isDown = true ↔
    a.head? ≠ some '/' ∧ ['.', '.'] ∉ segments a ∧ (segments a).head? ≠ some ['.'] := by
  obtain ⟨c, a, rfl⟩ := List.exists_cons_of_ne_nil h
  have hsegments := segments_cons c a
  obtain ⟨first, rest, hrest⟩ := List.exists_cons_of_ne_nil (segments_ne_nil a)
  unfold steps
  rw [hrest] at hsegments
  by_cases hc : c = '/'
  · -- the path starts with a slash, and its first step is to the root
    rw [if_pos hc] at hsegments
    rw [hsegments]
    simp [hc, Step.isDown]
  · rw [if_neg hc, List.modifyHead_cons] at hsegments
    rw [hsegments]
    split
    · rename_i heq
      simp [(List.cons.inj heq).1, Step.isDown]
    · rename_i heq
      cases (List.cons.inj heq).1
    · rename_i hdot _
      have hfirst : c :: first ≠ ['.'] := fun heq => hdot rest (by rw [heq])
      rw [all_isDown_stepOf_iff]
      simp [hc, hfirst]

/-- A name is that of a program exactly if it is not refused. -/
theorem isProgramName_iff : isProgramName name = true ↔ ¬Refused name := by
  by_cases hname : name = ""
  · subst hname
    exact iff_of_false (by decide) fun h => h (.inl rfl)
  · have hne : name.toList ≠ [] := fun h => hname (String.toList_eq_nil_iff.mp h)
    have hempty : name.isEmpty = false := by simpa using hname
    rw [isProgramName, hempty, Bool.not_false, Bool.true_and, all_isDown_steps_iff hne, Refused]
    simp [hname]

/-- A name that is not refused has a segment that leads down. -/
theorem exists_down (h : ¬Refused name) : ∃ segment ∈ segments name.toList, segment ≠ [] ∧ segment ≠ ['.'] := by
  obtain ⟨hempty, hslash, -, hdot⟩ : name ≠ "" ∧ name.toList.head? ≠ some '/' ∧ ['.', '.'] ∉ segments name.toList ∧
      (segments name.toList).head? ≠ some ['.'] := by simpa [Refused] using h
  obtain ⟨c, cs, hname⟩ := List.exists_cons_of_ne_nil fun h => hempty (String.toList_eq_nil_iff.mp h)
  obtain ⟨first, rest, hrest⟩ := List.exists_cons_of_ne_nil (segments_ne_nil cs)
  have hc : c ≠ '/' := fun hc => hslash (by rw [hname, hc]; rfl)
  have hsegments := segments_cons c cs
  rw [if_neg hc, hrest, List.modifyHead_cons] at hsegments
  rw [hname, hsegments] at hdot ⊢
  exact ⟨c :: first, List.mem_cons_self, List.cons_ne_nil _ _, fun heq => hdot (by rw [heq]; rfl)⟩

end Path

/-! ## Places -/

namespace Place

variable {here there root place : Place} {segment : List Char} {segs : List (List Char)}

/-- The place is this one or lies below it. -/
def Within (root place : Place) : Prop := place.start = root.start ∧ root.segments <+: place.segments

/-- The place lies below this one. -/
def Below (root place : Place) : Prop := root.Within place ∧ root.segments.length < place.segments.length

/-- Where segments lead. -/
def descend (here : Place) (segs : List (List Char)) : Place := segs.foldl follow here

/-- Where a path leads. -/
def ofPath (path : String) : Place := (startOf path).descend (Path.segments path.toList)

theorem Within.refl (here : Place) : here.Within here := ⟨rfl, List.prefix_refl _⟩

/-- What is within a place that is within this one is within this one. -/
theorem Within.trans (h : root.Within here) (h' : here.Within place) : root.Within place :=
  ⟨h'.1.trans h.1, h.2.trans h'.2⟩

theorem follow_of_stays (h : segment = [] ∨ segment = ['.']) : here.follow segment = here := by
  rw [follow, if_pos h]

theorem follow_of_down (h : segment ≠ [] ∧ segment ≠ ['.']) (hup : segment ≠ ['.', '.']) :
    here.follow segment = { here with segments := here.segments ++ [segment] } := by
  rw [follow, if_neg (not_or.mpr h), if_neg hup]

/-- A segment that is not two dots does not lead up. -/
theorem within_follow (hup : segment ≠ ['.', '.']) : here.Within (here.follow segment) := by
  by_cases h : segment = [] ∨ segment = ['.']
  · rw [follow_of_stays h]
    exact .refl here
  · rw [follow_of_down (not_or.mp h) hup]
    exact ⟨rfl, List.prefix_append _ _⟩

/-- Segments of which none is two dots lead nowhere above the place where they start. -/
theorem within_trail (hup : ['.', '.'] ∉ segs) : ∀ place ∈ here.trail segs, here.Within place := by
  induction segs generalizing here with
  | nil => exact fun _ h => (List.not_mem_nil h).elim
  | cons segment segs ih =>
    rw [List.mem_cons, not_or] at hup
    have hfirst : here.Within (here.follow segment) := within_follow (Ne.symm hup.1)
    exact List.forall_mem_cons.mpr ⟨hfirst, fun place hplace => hfirst.trans (ih hup.2 place hplace)⟩

theorem descend_append (here : Place) (segs segs' : List (List Char)) :
    here.descend (segs ++ segs') = (here.descend segs).descend segs' := List.foldl_append

theorem descend_cons (here : Place) (segment : List Char) (segs : List (List Char)) :
    here.descend (segment :: segs) = (here.follow segment).descend segs := rfl

/-- Where segments lead is the last of the places that they lead through. -/
theorem getLast?_trail (here : Place) (hne : segs ≠ []) : (here.trail segs).getLast? = some (here.descend segs) := by
  induction segs generalizing here with
  | nil => exact absurd rfl hne
  | cons segment segs ih =>
    cases segs with
    | nil => rfl
    | cons next segs => exact (List.getLast?_cons_cons).trans (ih (here.follow segment) (List.cons_ne_nil _ _))

/-- Where they lead is not above the place where they start either. -/
theorem within_descend (hup : ['.', '.'] ∉ segs) : here.Within (here.descend segs) := by
  cases segs with
  | nil => exact .refl here
  | cons segment segs => exact within_trail hup _ (List.mem_of_getLast? (getLast?_trail here (List.cons_ne_nil _ _)))

/-- Segments of which none is two dots, and one is a name, lead below the place where they start. -/
theorem below_descend (hup : ['.', '.'] ∉ segs) (hdown : ∃ segment ∈ segs, segment ≠ [] ∧ segment ≠ ['.']) :
    here.Below (here.descend segs) := by
  refine ⟨within_descend hup, ?_⟩
  obtain ⟨segment, hmem, hname⟩ := hdown
  obtain ⟨older, newer, rfl⟩ := List.append_of_mem hmem
  rw [List.mem_append, List.mem_cons, not_or, not_or] at hup
  obtain ⟨holder, hsegment, hnewer⟩ := hup
  have hfirst : here.segments.length ≤ (here.descend older).segments.length := (within_descend holder).2.length_le
  have hlast :
      ((here.descend older).follow segment).segments.length ≤
        (here.descend (older ++ segment :: newer)).segments.length := by
    rw [descend_append, descend_cons]
    exact (within_descend hnewer).2.length_le
  rw [follow_of_down hname (Ne.symm hsegment), List.length_append, List.length_singleton] at hlast
  omega

/-- A slash at the end of a path leads nowhere, and no path at all leads to where it starts. -/
theorem ofPath_eq_descend {above : List (List Char)} {path : String}
    (h : Path.segments path.toList = above ∨ Path.segments path.toList = above ++ [[]]) :
    ofPath path = (startOf path).descend above := by
  rw [ofPath]
  rcases h with h | h
  · rw [h]
  · rw [h, descend_append, descend_cons, follow_of_stays (.inl rfl)]
    rfl

/-- A path of a name in a directory starts where the path of the directory does. -/
theorem startOf_join {root name : String} (h : name.toList.head? ≠ some '/') :
    startOf (Path.join root name) = startOf root := by
  unfold Path.join
  split
  · rename_i hlast
    rw [startOf, if_neg h, startOf, List.getLast?_eq_none_iff.mp hlast]
    rfl
  all_goals
    rename_i hlast
    obtain ⟨front, hroot⟩ := List.getLast?_eq_some_iff.mp hlast
    simp only [startOf, String.toList_append, hroot]
    cases front <;> rfl

/-- The path of a name in a directory leads on from where the path of the directory leads. -/
theorem ofPath_join {root name : String} (h : name.toList.head? ≠ some '/') :
    ofPath (Path.join root name) = (ofPath root).descend (Path.segments name.toList) := by
  obtain ⟨above, habove, hsegments⟩ := Path.segments_join root name
  rw [ofPath, startOf_join h, hsegments, descend_append, ofPath_eq_descend habove]

end Place

/-! ## Programs below a directory -/

namespace Source

/-- The name leads down from the directory, and the path that is read for it leads where the name does. -/
structure Confined (root name : String) : Prop where
  /-- The path that is read is the name as it is written, in the directory. -/
  path : pathOf root name = .ok (Path.join root name)
  /-- The program is what stands there. -/
  load : ∀ read, directory read root name = linesOf name (Path.join root name) (read (Path.join root name))
  /-- On the way from the directory the name leads nowhere above it. -/
  within : ∀ place ∈ (Place.ofPath root).trail (Path.segments name.toList), (Place.ofPath root).Within place
  /-- The way ends below the directory. -/
  below : ∀ place ∈ ((Place.ofPath root).trail (Path.segments name.toList)).getLast?, (Place.ofPath root).Below place
  /-- The path that is read leads to this end. -/
  leads : ((Place.ofPath root).trail (Path.segments name.toList)).getLast? = some (Place.ofPath (Path.join root name))

variable {root name : String}

/-- A name is refused as such or not at all. -/
theorem pathOf_eq_error_iff {fault : LoadFault} :
    pathOf root name = .error fault ↔ fault = .invalidName name ∧ Path.Refused name := by
  rw [pathOf]
  split
  · rename_i h
    exact iff_of_false (fun heq => by cases heq) fun hrefused => Path.isProgramName_iff.mp h hrefused.2
  · rename_i h
    have hrefused : Path.Refused name := by simpa using mt Path.isProgramName_iff.mpr h
    simp [hrefused, eq_comm]

/-- A name that is not refused leads down from the directory. -/
theorem confined_of_not_refused (h : ¬Path.Refused name) : Confined root name := by
  have hslash : name.toList.head? ≠ some '/' := fun heq => h (.inr (.inl heq))
  have hup : ['.', '.'] ∉ Path.segments name.toList := fun hmem => h (.inr (.inr (.inl hmem)))
  have hlast := Place.getLast?_trail (Place.ofPath root) (Path.segments_ne_nil name.toList)
  have hpath : pathOf root name = .ok (Path.join root name) := by rw [pathOf, if_pos (Path.isProgramName_iff.mpr h)]
  refine { path := hpath, load := ?_, within := Place.within_trail hup, below := ?_, leads := ?_ }
  · intro read
    rw [directory, hpath]
  · intro place hplace
    rw [hlast] at hplace
    obtain rfl := Option.some.inj hplace
    exact Place.below_descend hup (Path.exists_down h)
  · rw [hlast, Place.ofPath_join hslash]

theorem Confined.below_join (h : Confined root name) : (Place.ofPath root).Below (Place.ofPath (Path.join root name)) :=
  h.below _ h.leads

/-- Nothing matters to the programs below a directory but what is read below it. -/
theorem directory_congr {read read' : String → Except ReadFault ByteArray}
    (h : ∀ path, (Place.ofPath root).Below (Place.ofPath path) → read path = read' path) :
    directory read root = directory read' root := by
  funext name
  by_cases hname : Path.Refused name
  · rw [directory, directory, pathOf_eq_error_iff.mpr ⟨rfl, hname⟩]
  · have hconfined : Confined root name := confined_of_not_refused hname
    rw [hconfined.load, hconfined.load, h _ hconfined.below_join]

/-- A name is refused exactly if it is empty, starts with a slash, has two dots for a segment, or a dot for its first;
and it is refused as such. Any other name leads down from the directory of the programs, never above it on the way,
and what is read for it is at the end of this way. So files that are not below this directory make no difference to an
instruction that loads a program, whatever its argument. -/
theorem names_confined :
    (∀ root name, pathOf root name = .error (.invalidName name) ↔
      name = "" ∨ name.toList.head? = some '/' ∨ ['.', '.'] ∈ Path.segments name.toList ∨
        (Path.segments name.toList).head? = some ['.']) ∧
    (∀ root name fault, pathOf root name = .error fault → fault = .invalidName name) ∧
    (∀ root name, pathOf root name ≠ .error (.invalidName name) → Confined root name) ∧
    ∀ (read read' : String → Except ReadFault ByteArray) root,
      (∀ path, (Place.ofPath root).Below (Place.ofPath path) → read path = read' path) →
        ∀ pid name, (Kernel.execute (directory read root) pid (.replace name) : Action Context StepOutcome) =
          Kernel.execute (directory read' root) pid (.replace name) := by
  refine ⟨fun root name => ?_, fun root name fault h => (pathOf_eq_error_iff.mp h).1, fun root name h => ?_,
    fun read read' root h pid name => ?_⟩
  · exact pathOf_eq_error_iff.trans (and_iff_right rfl)
  · exact confined_of_not_refused fun hrefused => h (pathOf_eq_error_iff.mpr ⟨rfl, hrefused⟩)
  · rw [directory_congr h]

/-- A name with two dots for a segment, and one with more dots than two, a dot for a segment that is not the first,
and slashes in a row. -/
theorem names_confined_sample :
    pathOf "progs" "a/../b" = .error (.invalidName "a/../b") ∧ pathOf "progs" "...//./.a/" ≠
      .error (.invalidName "...//./.a/") ∧
      Confined "progs" "...//./.a/" := by
  have haccepted : pathOf "progs" "...//./.a/" ≠ .error (.invalidName "...//./.a/") :=
    fun h => absurd ((names_confined.1 _ _).mp h) (by decide)
  exact ⟨(names_confined.1 _ _).mpr (by decide), haccepted, names_confined.2.2.1 _ _ haccepted⟩

end Source
end Timeshare
