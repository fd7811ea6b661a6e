import Mathlib
import Timeshare.Proofs.Faults

/-!
# The lines of encoded text

Lines are cut at a line feed, and in UTF-8 no byte of another character looks like one, or like a carriage return. So
the lines of the bytes of a text are the bytes of its lines, and a text that is UTF-8 has lines that are
(`Lines.texts_ofBytes`).
-/

namespace Timeshare
namespace Lines

/-! ## Lines under a code -/

section

variable {α β : Type} [BEq α] [LawfulBEq α] [BEq β] [LawfulBEq β]

/-- In the code a terminator stands for itself, and the codes of other letters do not contain it. -/
structure Marks (code : α → List β) (a : α) (b : β) : Prop where
  self : code a = [b]
  other : ∀ c, c ≠ a → b ∉ code c

variable {code : α → List β} {lf cr : α} {lf' cr' : β}

/-- A stretch without the terminator goes to the first piece. -/
theorem splitOnP_append_of_notMem {xs : List β} (h : lf' ∉ xs) (ys : List β) :
    (xs ++ ys).splitOnP (· == lf') = (ys.splitOnP (· == lf')).modifyHead (xs ++ ·) := by
  induction xs with
  | nil =>
    obtain ⟨head, rest, hpieces⟩ := List.exists_cons_of_ne_nil (List.splitOnP_ne_nil (· == lf') ys)
    rw [List.nil_append, hpieces]
    rfl
  | cons x xs ih =>
    rw [List.mem_cons, not_or] at h
    have hx : (x == lf') = false := beq_false_of_ne (Ne.symm h.1)
    rw [List.cons_append, List.splitOnP_cons_eq_if_modifyHead, hx, ih h.2]
    obtain ⟨head, rest, hpieces⟩ := List.exists_cons_of_ne_nil (List.splitOnP_ne_nil (· == lf') ys)
    rw [hpieces]
    rfl

theorem splitOnP_of_notMem {xs : List β} (h : lf' ∉ xs) : xs.splitOnP (· == lf') = [xs] := by
  simpa using splitOnP_append_of_notMem h []

/-- The first terminator ends the first line. -/
theorem cut_append_cons {piece : List β} (h : lf' ∉ piece) (rest : List β) :
    cut cr' lf' (piece ++ lf' :: rest) = dropReturn cr' piece :: cut cr' lf' rest := by
  obtain ⟨first, others, hrest⟩ := List.exists_cons_of_ne_nil (List.splitOnP_ne_nil (· == lf') rest)
  have hpieces : (piece ++ lf' :: rest).splitOnP (· == lf') = piece :: rest.splitOnP (· == lf') := by
    rw [List.splitOnP_append_cons _ _ (by exact beq_self_eq_true lf'), splitOnP_of_notMem h, List.singleton_append]
  rw [cut, hpieces, hrest, ofPieces, cut, hrest]

theorem cut_of_notMem {line : List β} (h : lf' ∉ line) (hne : line ≠ []) : cut cr' lf' line = [line] := by
  rw [cut, splitOnP_of_notMem h, ofPieces, if_neg (by simpa using hne)]

/-- The pieces of the code are the codes of the pieces. -/
theorem splitOnP_flatMap (hlf : Marks code lf lf') (cs : List α) :
    (cs.flatMap code).splitOnP (· == lf') = (cs.splitOnP (· == lf)).map (·.flatMap code) := by
  induction cs with
  | nil => rfl
  | cons c cs ih =>
    rw [List.flatMap_cons, List.splitOnP_cons_eq_if_modifyHead]
    by_cases hc : c = lf
    · subst hc
      rw [hlf.self, List.singleton_append, List.splitOnP_cons_eq_if_modifyHead, beq_self_eq_true, beq_self_eq_true, ih]
      rfl
    · rw [splitOnP_append_of_notMem (hlf.other c hc), ih, beq_false_of_ne hc]
      obtain ⟨head, rest, hpieces⟩ := List.exists_cons_of_ne_nil (List.splitOnP_ne_nil (· == lf) cs)
      rw [hpieces]
      rfl

/-- The return at the end of a code is the code of the return at the end. -/
theorem dropReturn_flatMap (hcr : Marks code cr cr') (hne : ∀ c, code c ≠ []) (line : List α) :
    dropReturn cr' (line.flatMap code) = (dropReturn cr line).flatMap code := by
  induction line using List.reverseRecOn with
  | nil => rfl
  | append_singleton line c _ =>
    rw [dropReturn, dropReturn, List.flatMap_append, List.flatMap_singleton, List.getLast?_concat]
    by_cases hc : c = cr
    · subst hc
      simp [hcr.self]
    · have hlast : (line.flatMap code ++ code c).getLast? ≠ some cr' := by
        rw [List.getLast?_append_of_ne_nil _ (hne c)]
        intro h
        exact hcr.other c hc (List.mem_of_getLast? h)
      have hlast' : some c ≠ some cr := fun h => hc (Option.some.inj h)
      rw [beq_false_of_ne hlast, beq_false_of_ne hlast', if_neg Bool.false_ne_true, if_neg Bool.false_ne_true,
        List.flatMap_append, List.flatMap_singleton]

/-- The lines of the code are the codes of the lines. -/
theorem cut_flatMap (hlf : Marks code lf lf') (hcr : Marks code cr cr') (hne : ∀ c, code c ≠ []) (cs : List α) :
    cut cr' lf' (cs.flatMap code) = (cut cr lf cs).map (·.flatMap code) := by
  have hpieces : ∀ pieces : List (List α),
      ofPieces cr' (pieces.map (·.flatMap code)) = (ofPieces cr pieces).map (·.flatMap code) := by
    intro pieces
    induction pieces using ofPieces.induct with
    | case1 => rfl
    | case2 last h =>
      have hlast : last = [] := List.isEmpty_iff.mp h
      subst hlast
      rfl
    | case3 last h =>
      obtain ⟨c, rest, rfl⟩ := List.exists_cons_of_ne_nil fun hlast => h (List.isEmpty_iff.mpr hlast)
      obtain ⟨b, bs, hcode⟩ := List.exists_cons_of_ne_nil (hne c)
      simp [ofPieces, hcode]
    | case4 piece next rest ih =>
      rw [List.map_cons, List.map_cons, ofPieces, ofPieces, List.map_cons, dropReturn_flatMap hcr hne,
        ← List.map_cons, ih]
  rw [cut, cut, splitOnP_flatMap hlf, hpieces]

end

/-! ## Lines of bytes -/

/-- The bytes are cut into these lines. Each ends at a line feed and does without one carriage return before it; what
follows the last line feed is a line as it stands, if there is anything. -/
inductive Cuts : List UInt8 → List (List UInt8) → Prop where
  | nil : Cuts [] []
  | unended {line : List UInt8} (hline : 10 ∉ line) (hne : line ≠ []) : Cuts line [line]
  | ended {line rest : List UInt8} {lines : List (List UInt8)} (hline : 10 ∉ line) (hrest : Cuts rest lines) :
    Cuts (line ++ 10 :: rest) ((if line.getLast? = some 13 then line.dropLast else line) :: lines)

/-- Every input is cut into its lines. -/
theorem cuts_ofBytes (input : List UInt8) : Cuts input (ofBytes input) := by
  by_cases hfeed : 10 ∈ input
  · obtain ⟨line, rest, rfl, hline⟩ := List.eq_append_cons_of_mem hfeed
    have hdrop : dropReturn 13 line = if line.getLast? = some 13 then line.dropLast else line := by
      simp only [dropReturn, beq_iff_eq]
    rw [ofBytes, cut_append_cons hline, hdrop]
    exact .ended hline (cuts_ofBytes rest)
  · by_cases hne : input = []
    · subst hne
      exact .nil
    · rw [ofBytes, cut_of_notMem hfeed hne]
      exact .unended hfeed hne
termination_by input.length

/-! ## Lines in UTF-8 -/

/-- A character with a byte below 128 in its code is this byte. -/
theorem toNat_of_mem_utf8EncodeChar {c : Char} {b : UInt8} (hb : b ∈ String.utf8EncodeChar c) (hlt : b.toNat < 128) :
    c.toNat = b.toNat := by
  have hbyte : ∀ {n : Nat}, n < 256 → (UInt8.ofNat n).toNat = n := fun hn => UInt8.toNat_ofNat_of_lt' hn
  have hlong : ∀ {n : Nat}, 128 ≤ n → n < 256 → b ≠ UInt8.ofNat n := by
    rintro n hn hsize rfl
    rw [hbyte hsize] at hlt
    omega
  unfold String.utf8EncodeChar at hb
  simp only at hb
  split at hb
  · rw [List.mem_singleton.mp hb, hbyte (by omega)]
    rfl
  -- every byte of a longer code is at least 128
  · split at hb
    · simp only [List.mem_cons, List.not_mem_nil, or_false] at hb
      rcases hb with hb | hb
      all_goals exact absurd hb (hlong (by omega) (by omega))
    · split at hb
      · simp only [List.mem_cons, List.not_mem_nil, or_false] at hb
        rcases hb with hb | hb | hb
        all_goals exact absurd hb (hlong (by omega) (by omega))
      · simp only [List.mem_cons, List.not_mem_nil, or_false] at hb
        rcases hb with hb | hb | hb | hb
        all_goals exact absurd hb (hlong (by omega) (by omega))

/-- In UTF-8 a character below 128 stands for itself, and is in no other code. -/
theorem marks_utf8 {c : Char} (hc : c.toNat < 128) : Marks String.utf8EncodeChar c (UInt8.ofNat c.toNat) where
  self := by
    unfold String.utf8EncodeChar
    simp only
    rw [if_pos]
    · rfl
    · exact Nat.le_of_lt_succ hc
  other := by
    intro d hne hmem
    have hb : (UInt8.ofNat c.toNat).toNat = c.toNat :=
      UInt8.toNat_ofNat_of_lt' (by have : UInt8.size = 256 := rfl; omega)
    exact hne (Char.toNat_inj.mp ((toNat_of_mem_utf8EncodeChar hmem (by omega)).trans hb))

/-- A line of bytes is UTF-8 exactly if it is the code of a text. -/
theorem text?_eq_some_iff {line : List UInt8} {text : String} :
    text? line = some text ↔ line = text.toList.flatMap String.utf8EncodeChar := by
  have hbytes : text.toByteArray = (text.toList.flatMap String.utf8EncodeChar).toByteArray :=
    String.utf8Encode_toList.symm
  have hline : ByteArray.mk line.toArray = line.toByteArray := ByteArray.ext List.data_toByteArray.symm
  unfold text? String.fromUTF8?
  rw [hline, ← List.toByteArray_inj, ← hbytes]
  constructor
  · intro h
    split at h
    · exact congrArg String.toByteArray (Option.some.inj h)
    · cases h
  · intro h
    rw [dif_pos (h ▸ text.isValidUTF8)]
    exact congrArg some (String.toByteArray_inj.mp h)

/-- The lines of the bytes of a text are the lines of the text. -/
theorem texts_ofBytes {input : List UInt8} {text : String} (h : text? input = some text) :
    (ofBytes input).map text? = (ofString text).map some := by
  have hcut :
    ofBytes (text.toList.flatMap String.utf8EncodeChar) =
      (cut '\r' '\n' text.toList).map (·.flatMap String.utf8EncodeChar) :=
    cut_flatMap (marks_utf8 (c := '\n') (by decide)) (marks_utf8 (c := '\r') (by decide))
      (fun _ => String.utf8EncodeChar_ne_nil) text.toList
  rw [text?_eq_some_iff.mp h, hcut, ofString, List.map_map, List.map_map]
  refine List.map_congr_left fun line _ => ?_
  rw [Function.comp_apply, Function.comp_apply, text?_eq_some_iff, String.toList_ofList]

end Lines
end Timeshare
