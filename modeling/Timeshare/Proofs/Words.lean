import Timeshare.Text.Blank

/-!
# Words, trimming and blank texts

What the words of a text are is said here without an algorithm, as its maximal runs of characters that are not blanks
(`Text.Worded`), and so is what trimming leaves of it (`Text.Trims`). `words` and `trim` are the only lists that meet
these descriptions (`words_eq_iff`, `trim_eq_iff`). So the two ways to ask whether a text is blank agree: trimming
leaves nothing of it exactly if it has no words, which is if it has nothing but blanks.
-/

namespace Timeshare.Text

/-- Nothing but blanks. -/
def Blank (cs : List Char) : Prop := ∀ c ∈ cs, isBlank c = true

/-- At least one character, and none of them a blank. -/
def Solid (cs : List Char) : Prop := cs ≠ [] ∧ ∀ c ∈ cs, isBlank c = false

/-- The words of the text are its maximal runs of characters that are not blanks: what is between two of them, before
the first and after the last is blank, and none goes on after its end. -/
inductive Worded : List Char → List (List Char) → Prop where
  | blank {gap : List Char} (h : Blank gap) : Worded gap []
  | word {gap word rest : List Char} {words : List (List Char)} (hgap : Blank gap) (hword : Solid word)
    (hend : ∀ c ∈ rest.head?, isBlank c = true) (h : Worded rest words) : Worded (gap ++ word ++ rest) (word :: words)

/-- The text is this one with blanks around it, and this one neither starts nor ends with a blank. -/
def Trims (cs t : List Char) : Prop :=
  ∃ front back, cs = front ++ t ++ back ∧ Blank front ∧ Blank back ∧
    (∀ c ∈ t.head?, isBlank c = false) ∧ ∀ c ∈ t.getLast?, isBlank c = false

instance (cs : List Char) : Decidable (Blank cs) := inferInstanceAs (Decidable (∀ c ∈ cs, isBlank c = true))

instance (cs : List Char) : Decidable (Solid cs) := inferInstanceAs (Decidable (cs ≠ [] ∧ ∀ c ∈ cs, isBlank c = false))

variable {cs t gap word rest : List Char} {ws : List (List Char)}

/-! ## Words -/

theorem words_cons_of_blank {c : Char} (h : isBlank c = true) (cs : List Char) : words (c :: cs) = words cs := by
  rw [words, List.splitOnP_cons_eq_if_modifyHead, if_pos h, List.filter_cons_of_neg (by simp)]
  rfl

/-- Blanks at the front belong to no word. -/
theorem words_append_of_blank (h : Blank gap) (cs : List Char) : words (gap ++ cs) = words cs := by
  induction gap with
  | nil => rfl
  | cons c gap ih =>
    obtain ⟨hc, hgap⟩ := List.forall_mem_cons.mp h
    rw [List.cons_append, words_cons_of_blank hc, ih hgap]

theorem words_of_blank (h : Blank cs) : words cs = [] := by
  have hnil := words_append_of_blank h []
  rwa [List.append_nil] at hnil

theorem words_of_solid (h : Solid word) : words word = [word] := by
  rw [words, List.splitOnP_eq_singleton h.2, List.filter_cons_of_pos (by simpa using h.1)]
  rfl

/-- A run without blanks before a blank is a word. -/
theorem words_append_of_solid (h : Solid word) (hend : ∀ c ∈ rest.head?, isBlank c = true) :
    words (word ++ rest) = word :: words rest := by
  cases rest with
  | nil => rw [List.append_nil, words_of_solid h, words_of_blank (by simp [Blank])]
  | cons c rest =>
    have hc : isBlank c = true := hend c rfl
    rw [words_cons_of_blank hc, words, List.splitOnP_append_cons_of_forall_mem h.2 c hc,
      List.filter_cons_of_pos (by simpa using h.1)]
    rfl

/-- The words of a text are its maximal runs of characters that are not blanks. -/
theorem Worded.words_eq (h : Worded cs ws) : words cs = ws := by
  induction h with
  | blank h => exact words_of_blank h
  | word hgap hword hend _ ih =>
    rw [List.append_assoc, words_append_of_blank hgap, words_append_of_solid hword hend, ih]

/-- A blank more at the front belongs to no run. -/
theorem Worded.cons_blank (h : Worded cs ws) {c : Char} (hc : isBlank c = true) : Worded (c :: cs) ws := by
  cases h with
  | blank h => exact .blank (List.forall_mem_cons.mpr ⟨hc, h⟩)
  | word hgap hword hend h => exact .word (List.forall_mem_cons.mpr ⟨hc, hgap⟩) hword hend h

/-- A character more at the front that is no blank makes the first run longer, or is a run where the text starts with
a blank. -/
theorem Worded.exists_cons_solid (h : Worded cs ws) {c : Char} (hc : isBlank c = false) :
    ∃ ws', Worded (c :: cs) ws' := by
  have hnil : Blank [] := by simp [Blank]
  have hsingle : Solid [c] := ⟨by simp, by simpa using hc⟩
  cases h with
  | blank hgap =>
    refine ⟨_, .word hnil hsingle ?_ (.blank hgap)⟩
    exact fun d hd => hgap d (List.mem_of_mem_head? hd)
  | @word gap word rest ws hgap hword hend h =>
    -- a run that the text starts with is made longer; after a blank there is a run of one character
    cases gap with
    | nil => exact ⟨_, .word hnil ⟨by simp, List.forall_mem_cons.mpr ⟨hc, hword.2⟩⟩ hend h⟩
    | cons d gap =>
      have hrest : Worded (d :: gap ++ word ++ rest) (word :: ws) := .word hgap hword hend h
      refine ⟨_, .word hnil hsingle ?_ hrest⟩
      intro e he
      obtain rfl : d = e := by simpa using he
      exact hgap d List.mem_cons_self

/-- Every text has maximal runs of characters that are not blanks. -/
theorem exists_worded (cs : List Char) : ∃ ws, Worded cs ws := by
  induction cs with
  | nil => exact ⟨[], .blank (by simp [Blank])⟩
  | cons c cs ih =>
    obtain ⟨ws, h⟩ := ih
    cases hc : isBlank c with
    | true => exact ⟨ws, h.cons_blank hc⟩
    | false => exact h.exists_cons_solid hc

/-- The words of a text are its maximal runs of characters that are not blanks, and nothing else is. -/
theorem words_eq_iff : words cs = ws ↔ Worded cs ws := by
  constructor
  · rintro rfl
    obtain ⟨ws, h⟩ := exists_worded cs
    exact h.words_eq ▸ h
  · exact Worded.words_eq

/-- A text has no words exactly if it has nothing but blanks. -/
theorem words_eq_nil_iff : words cs = [] ↔ Blank cs := by
  constructor
  · intro h
    cases words_eq_iff.mp h with
    | blank h => exact h
  · exact words_of_blank

theorem Worded.solid (h : Worded cs ws) : ∀ word ∈ ws, Solid word := by
  induction h with
  | blank => simp
  | word _ hword _ _ ih => exact List.forall_mem_cons.mpr ⟨hword, ih⟩

theorem words_eq_singleton_iff : words cs = [cs] ↔ Solid cs :=
  ⟨fun h => (words_eq_iff.mp h).solid cs List.mem_cons_self, words_of_solid⟩

/-! ## Trimming -/

/-- What is left of a text without the blanks at its front. -/
theorem dropBlanks_append (hgap : Blank gap) (ht : ∀ c ∈ t.head?, isBlank c = false) : dropBlanks (gap ++ t) = t := by
  induction gap with
  | nil =>
    cases t with
    | nil => rfl
    | cons c t => simp [dropBlanks, ht c rfl]
  | cons c gap ih =>
    obtain ⟨hc, hgap⟩ := List.forall_mem_cons.mp hgap
    rw [List.cons_append, dropBlanks, List.dropWhile_cons_of_pos hc]
    exact ih hgap

/-- The blanks at the front of a text, and the text without them. -/
theorem exists_dropBlanks (cs : List Char) :
    ∃ front, cs = front ++ dropBlanks cs ∧ Blank front ∧ ∀ c ∈ (dropBlanks cs).head?, isBlank c = false := by
  refine ⟨cs.takeWhile isBlank, List.takeWhile_append_dropWhile.symm, fun c hc => ?_, fun c hc => ?_⟩
  · exact List.all_eq_true.mp List.all_takeWhile c hc
  · cases hd : dropBlanks cs with
    | nil => simp [hd] at hc
    | cons d r =>
      obtain rfl : d = c := by simpa [hd] using hc
      exact isBlank_head_dropBlanks hd

/-- Trimming cuts away all blanks at both ends, and no other text is left by that. -/
theorem trim_eq_iff : trim cs = t ↔ Trims cs t := by
  constructor
  · rintro rfl
    obtain ⟨front, hfront, hblank, hhead⟩ := exists_dropBlanks cs
    obtain ⟨back, hback, hblank', hlast⟩ := exists_dropBlanks (dropBlanks cs).reverse
    have hrest : dropBlanks cs = trim cs ++ back.reverse := by
      rw [trim, ← List.reverse_append, ← hback, List.reverse_reverse]
    refine ⟨front, back.reverse, ?_, hblank, fun c hc => hblank' c (List.mem_reverse.mp hc), fun c hc => hhead c ?_,
      fun c hc => hlast c ?_⟩
    · rw [List.append_assoc, ← hrest]
      exact hfront
    · rw [hrest, List.head?_append, Option.mem_def.mp hc]
      rfl
    · rwa [trim, List.getLast?_reverse] at hc
  · rintro ⟨front, back, rfl, hfront, hback, hhead, hlast⟩
    have hreverse : Blank back.reverse := fun c hc => hback c (List.mem_reverse.mp hc)
    cases t with
    | nil =>
      have hall : Blank (front ++ [] ++ back) := by
        rw [List.append_nil]
        exact List.forall_mem_append.mpr ⟨hfront, hback⟩
      have hnone := dropBlanks_append hall (t := []) (by simp)
      rw [List.append_nil] at hnone
      rw [trim, hnone]
      rfl
    | cons c t =>
      rw [trim, List.append_assoc, dropBlanks_append hfront (by simpa using hhead), List.reverse_append,
        dropBlanks_append hreverse (by rwa [List.head?_reverse]), List.reverse_reverse]

/-- Trimming leaves nothing of a text exactly if it has nothing but blanks. -/
theorem trim_eq_nil_iff : trim cs = [] ↔ Blank cs := by
  rw [trim_eq_iff]
  constructor
  · rintro ⟨front, back, rfl, hfront, hback, -, -⟩
    rw [List.append_nil]
    exact List.forall_mem_append.mpr ⟨hfront, hback⟩
  · intro h
    exact ⟨cs, [], by simp, h, by simp [Blank], by simp, by simp⟩

theorem blankString_iff {s : String} : blankString s = true ↔ Blank s.toList := by
  rw [blankString, List.isEmpty_iff, trim_eq_nil_iff]

end Timeshare.Text
