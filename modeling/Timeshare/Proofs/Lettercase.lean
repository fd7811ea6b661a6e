import Timeshare.Text.Lowercase

/-!
# Words that only their own letters spell

Lower case is written by a table of all letters, but few letters lie outside of the first 128 characters and have
their lower case among them: the Kelvin sign is written as k, and a capital I with a dot starts with an i. A word
without these two letters is therefore the lower case of exactly the texts that spell it in capitals and small letters
of the alphabet (`lowercase_eq_iff`).
-/

namespace Timeshare.Text

/-- A small letter of the alphabet but for i and k. -/
def Plain (c : Char) : Prop := 'a' ≤ c ∧ c ≤ 'z' ∧ c ≠ 'i' ∧ c ≠ 'k'

instance (c : Char) : Decidable (Plain c) := inferInstanceAs (Decidable (_ ∧ _))

theorem Plain.lt {c : Char} (h : Plain c) : c.toNat < 128 :=
  Nat.lt_of_le_of_lt (h.2.1 : c.toNat ≤ 'z'.toNat) (by decide)

/-! ## The table -/

theorem lowerChar_ascii : ∀ n ∈ List.range 128, lowerChar (Char.ofNat n) = (Char.ofNat n).toLower := by decide +kernel

/-- Runs of the table stay on either side of the first 128 characters, but for the Kelvin sign. -/
theorem lowerRuns_apart :
    ∀ run ∈ lowerRuns, run.2.1 < 128 ∨ 128 ≤ (run.1 : Int) + run.2.2.2 ∨ run = (0x212A, 0x212A, 1, -8383) := by
  decide +kernel

/-- The lower case of one of the first 128 characters is that of the alphabet. -/
theorem lowerChar_of_lt {c : Char} (h : c.toNat < 128) : lowerChar c = c.toLower := by
  rw [← Char.ofNat_toNat c]
  exact lowerChar_ascii c.toNat (List.mem_range.mpr h)

/-- The character of a number past the first 128 is no plain letter: it has this number, or the number is that of no
character. -/
theorem not_plain_ofNat {n : Nat} (h : 128 ≤ n) : ¬Plain (Char.ofNat n) := by
  by_cases hvalid : n.isValidChar
  · have hn : (Char.ofNat n).toNat = n := by rw [Char.ofNat, dif_pos hvalid]; rfl
    intro hplain
    have hlt := hplain.lt
    omega
  · rw [Char.ofNat, dif_neg hvalid]
    decide

/-- No character past the first 128 has a plain letter for its lower case. -/
theorem not_plain_lowerChar {c : Char} (h : 128 ≤ c.toNat) : ¬Plain (lowerChar c) := by
  simp only [lowerChar]
  split
  · rename_i first last step shift hfind
    have hwithin := List.find?_some hfind
    simp only [Bool.and_eq_true, decide_eq_true_eq] at hwithin
    have hapart := lowerRuns_apart _ (List.mem_of_find?_eq_some hfind)
    simp only [Prod.mk.injEq] at hapart
    rcases hapart with hrun | hrun | ⟨rfl, rfl, rfl, rfl⟩
    · omega
    · exact not_plain_ofNat (by omega)
    · have hn : c.toNat = 0x212A := by omega
      rw [hn]
      decide
  · exact fun hplain => absurd hplain.lt (Nat.not_lt.mpr h)

/-- The alphabet has no capital past the first 128 characters. -/
theorem toLower_eq_self {c : Char} (h : 128 ≤ c.toNat) : c.toLower = c := by
  refine dif_neg fun hcapital => ?_
  have hle : c.toNat ≤ 'Z'.toNat := UInt32.le_iff_toNat_le.mp hcapital.2
  exact absurd (Nat.le_trans h hle) (by decide)

/-- A character past the first 128 has no plain letter for its lower case in the alphabet either. -/
theorem lt_of_plain_toLower {c : Char} (h : Plain c.toLower) : c.toNat < 128 := by
  refine Nat.lt_of_not_le fun hc => ?_
  rw [toLower_eq_self hc] at h
  exact Nat.not_lt.mpr hc h.lt

/-! ## The lower case of a text -/

/-- Where either is plain, the lower case of a character, between whatever characters, is that of the alphabet. -/
theorem lowerBetween_eq_toLower {before after : List Char} {c : Char}
    (h : (∀ w ∈ lowerBetween before c after, Plain w) ∨ Plain c.toLower) :
    lowerBetween before c after = [c.toLower] := by
  have hlt : c.toNat < 128 := by
    refine h.elim (fun hplain => ?_) lt_of_plain_toLower
    refine Nat.lt_of_not_le fun hc => ?_
    unfold lowerBetween at hplain
    split at hplain
    · split at hplain <;> exact absurd (hplain _ List.mem_cons_self) (by decide)
    · split at hplain
      · exact absurd (hplain _ List.mem_cons_self) (by decide)
      · exact not_plain_lowerChar hc (hplain _ List.mem_cons_self)
  have hsigma : c ≠ 'Σ' := by
    rintro rfl
    exact absurd hlt (by decide)
  have hdotted : c ≠ 'İ' := by
    rintro rfl
    exact absurd hlt (by decide)
  rw [lowerBetween, if_neg hsigma, if_neg hdotted, lowerChar_of_lt hlt]

/-- A word of plain letters is the lower case of the texts that spell it, after whatever characters. -/
theorem lowerAfter_eq_iff {ws : List Char} (h : ∀ w ∈ ws, Plain w) {before cs : List Char} :
    lowerAfter before cs = ws ↔ cs.map Char.toLower = ws := by
  induction cs generalizing before ws with
  | nil => exact Iff.rfl
  | cons c cs ih =>
    rw [lowerAfter, List.map_cons]
    constructor
    · rintro rfl
      rw [List.forall_mem_append] at h
      rw [lowerBetween_eq_toLower (.inl h.1), List.singleton_append, List.cons.injEq]
      exact ⟨rfl, (ih h.2).mp rfl⟩
    · rintro rfl
      rw [List.forall_mem_cons] at h
      rw [lowerBetween_eq_toLower (.inr h.1), List.singleton_append, List.cons.injEq]
      exact ⟨rfl, (ih h.2).mpr rfl⟩

/-- A word of plain letters is the lower case of the texts that spell it in capitals and small letters of the
alphabet. -/
theorem lowercase_eq_iff {ws : List Char} (h : ∀ w ∈ ws, Plain w) {cs : List Char} :
    lowercase cs = ws ↔ cs.map Char.toLower = ws := lowerAfter_eq_iff h

/-- The Kelvin sign is why k is not plain. -/
example : lowercase ['\u212A'] = ['k'] ∧ ['\u212A'].map Char.toLower ≠ ['k'] := by decide +kernel

end Timeshare.Text
