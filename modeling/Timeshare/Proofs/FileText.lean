import Timeshare.Proofs.LineBytes

/-!
# The text of a file and its lines

Lines are laid out in a text with an ending after each, and the last may do without one if it is not empty
(`Lines.Laid`). A text in which lines are laid out with line feeds, or with carriage returns before them, is cut into
these lines again (`Lines.Laid.ofString_eq`), provided that no line holds a line feed or ends in a carriage return.
-/

namespace Timeshare.Lines

variable {line text : String} {lines endings : List String}

/-! ## Layouts -/

/-- A line that the text of a file can give back: it holds no line feed, and does not end in a carriage return. -/
def Plain (line : String) : Prop := '\n' ∉ line.toList ∧ line.toList.getLast? ≠ some '\r'

instance (line : String) : Decidable (Plain line) :=
  inferInstanceAs (Decidable ('\n' ∉ line.toList ∧ line.toList.getLast? ≠ some '\r'))

/-- The text of a file that has these lines, each ended by a line feed. -/
def fileText (lines : List String) : String := String.join (lines.map (· ++ "\n"))

/-- The text with a carriage return put before every line feed. -/
def withReturns (text : String) : String :=
  String.ofList (text.toList.flatMap fun c => if c = '\n' then ['\r', '\n'] else [c])

/-- The lines are laid out in the text: each has one of the endings, but the last may have none if it is not empty. -/
inductive Laid (endings : List String) : List String → String → Prop where
  | nil : Laid endings [] ""
  | unended {line : String} (hline : line ≠ "") : Laid endings [line] line
  | ended {line ending text : String} {lines : List String} (hending : ending ∈ endings)
    (hrest : Laid endings lines text) :
    Laid endings (line :: lines) (line ++ ending ++ text)

namespace Laid

/-- More endings are no harm. -/
theorem mono (h : Laid endings lines text) {endings' : List String} (hsub : endings ⊆ endings') :
    Laid endings' lines text := by
  induction h with
  | nil => exact .nil
  | unended hline => exact .unended hline
  | ended hending _ ih => exact .ended (hsub hending) ih

end Laid

/-! ## Texts that are laid out -/

/-- The first line and its line feed stand before the text of the other lines. -/
theorem fileText_cons (line : String) (lines : List String) :
    fileText (line :: lines) = line ++ "\n" ++ fileText lines := by
  rw [fileText, List.map_cons, String.join_cons]
  rfl

/-- The lines of a file may be laid out in two parts. -/
theorem Laid.append (h : Laid ["\n"] lines text) (front : List String) :
    Laid ["\n"] (front ++ lines) (fileText front ++ text) := by
  induction front with
  | nil => simpa [fileText] using h
  | cons line front ih =>
    rw [fileText_cons, String.append_assoc]
    exact .ended List.mem_cons_self ih

/-- A file has its lines laid out in it. -/
theorem laid_fileText (lines : List String) : Laid ["\n"] lines (fileText lines) := by
  have hnone : Laid ["\n"] [] "" := .nil
  simpa using hnone.append lines

/-- They are still laid out if the last line feed is dropped, unless the last line is empty. -/
theorem laid_of_append_lineFeed (h : text ++ "\n" = fileText lines) (hlast : lines.getLast? ≠ some "") :
    Laid ["\n"] lines text := by
  rcases List.eq_nil_or_concat lines with rfl | ⟨front, last, rfl⟩
  · exact absurd (congrArg String.toList h) (by simp [fileText])
  · rw [List.concat_eq_append] at h hlast ⊢
    have hne : last ≠ "" := by simpa using hlast
    have htext : text ++ "\n" = fileText front ++ last ++ "\n" := by
      rw [h]
      simp [fileText, String.append_assoc]
    rw [(String.append_left_inj _).mp htext]
    exact (Laid.unended hne).append front

/-- Carriage returns are put in the second of two texts as if it stood alone. -/
theorem withReturns_append (a b : String) : withReturns (a ++ b) = withReturns a ++ withReturns b := by
  simp [withReturns]

/-- In a line there is nothing to put a carriage return before. -/
theorem withReturns_of_notMem (h : '\n' ∉ line.toList) : withReturns line = line := by
  have hsame : line.toList.flatMap (fun c => if c = '\n' then ['\r', '\n'] else [c]) = line.toList.flatMap ([·]) := by
    refine List.flatMap_congr fun c hc => if_neg ?_
    rintro rfl
    exact h hc
  rw [withReturns, hsame, List.flatMap_singleton', String.ofList_toList]

/-- A carriage return put before every line feed is one put in every ending. -/
theorem Laid.withReturns (h : Laid ["\n"] lines text) (hlines : ∀ line ∈ lines, '\n' ∉ line.toList) :
    Laid ["\r\n"] lines (withReturns text) := by
  induction h with
  | nil => exact .nil
  | unended hline =>
    rw [withReturns_of_notMem (hlines _ List.mem_cons_self)]
    exact .unended hline
  | ended hending _ ih =>
    rw [List.mem_singleton.mp hending, withReturns_append, withReturns_append,
      withReturns_of_notMem (hlines _ List.mem_cons_self)]
    exact .ended List.mem_cons_self (ih fun line hmem => hlines line (List.mem_cons_of_mem _ hmem))

/-- A text of a file with these lines, rewritten: a carriage return is put before every line feed, or the last line
feed is dropped where the last line is not empty, or both. -/
inductive Rewritten (lines : List String) : String → Prop where
  | returns : Rewritten lines (withReturns (fileText lines))
  | unended {text : String} (htext : text ++ "\n" = fileText lines) (hlast : lines.getLast? ≠ some "") :
    Rewritten lines text
  | unendedReturns {text : String} (htext : text ++ "\n" = fileText lines) (hlast : lines.getLast? ≠ some "") :
    Rewritten lines (withReturns text)

/-- The lines of a text that is rewritten are laid out in it. -/
theorem Rewritten.laid (h : Rewritten lines text) (hlines : ∀ line ∈ lines, '\n' ∉ line.toList) :
    Laid ["\n", "\r\n"] lines text := by
  have hfeed : ["\n"] ⊆ ["\n", "\r\n"] := by decide
  have hreturn : ["\r\n"] ⊆ ["\n", "\r\n"] := by decide
  cases h with
  | returns => exact ((laid_fileText lines).withReturns hlines).mono hreturn
  | unended htext hlast => exact (laid_of_append_lineFeed htext hlast).mono hfeed
  | unendedReturns htext hlast => exact ((laid_of_append_lineFeed htext hlast).withReturns hlines).mono hreturn

/-! ## Cutting -/

/-- A line that ends in a line feed, or in a carriage return and a line feed, is cut off. -/
theorem ofString_ended (hline : Plain line) {ending : String} (hending : ending ∈ ["\n", "\r\n"]) (text : String) :
    ofString (line ++ ending ++ text) = line :: ofString text := by
  have hcut : ∀ piece : List Char, '\n' ∉ piece → dropReturn '\r' piece = line.toList →
      cut '\r' '\n' (piece ++ '\n' :: text.toList) = line.toList :: cut '\r' '\n' text.toList := by
    intro piece hpiece hdrop
    rw [cut_append_cons hpiece, hdrop]
  have hlines : cut '\r' '\n' (line ++ ending ++ text).toList = line.toList :: cut '\r' '\n' text.toList := by
    rcases List.mem_cons.mp hending with rfl | hending
    · rw [← hcut line.toList hline.1 (by simp [dropReturn, hline.2])]
      simp
    · rw [List.mem_singleton.mp hending, ← hcut (line.toList ++ ['\r']) (by simp [hline.1]) (by simp [dropReturn])]
      simp
  rw [ofString, hlines, List.map_cons, String.ofList_toList]
  rfl

/-- Plain lines are given back by every text that they are laid out in. -/
theorem Laid.ofString_eq (h : Laid ["\n", "\r\n"] lines text) (hlines : ∀ line ∈ lines, Plain line) :
    ofString text = lines := by
  induction h with
  | nil => rfl
  | @unended line hline =>
    have hne : line.toList ≠ [] := fun h => hline (String.toList_eq_nil_iff.mp h)
    rw [ofString, cut_of_notMem (hlines line List.mem_cons_self).1 hne, List.map_singleton, String.ofList_toList]
  | ended hending _ ih =>
    rw [ofString_ended (hlines _ List.mem_cons_self) hending,
      ih fun line hmem => hlines line (List.mem_cons_of_mem _ hmem)]

end Timeshare.Lines
