import Timeshare.Json.Printer
import Timeshare.Json.Reader
import Timeshare.Proofs.Numerals

/-!
# Texts of JSON values

Which texts spell a JSON value is said here without an algorithm: its tokens in order, with blanks between them as one
likes (`Json.Spelled`). The reader finds the value in each of these texts (`Json.read?_of_spelled`), so no text spells
two values. The printed form is one of them for every value whose numbers are all integers (`Json.spelled_print`).
-/

namespace Timeshare.Json

/-! ## Spellings -/

/-- Nothing but the blanks that are allowed between tokens. -/
def Gap (cs : List Char) : Prop := ∀ c ∈ cs, isGap c = true

mutual

/-- The text spells the value. Between the tokens there may be blanks; before the first and after the last there are
none. -/
inductive Spelled : Json → List Char → Prop where
  | null : Spelled null ['n', 'u', 'l', 'l']
  | yes : Spelled (bool true) ['t', 'r', 'u', 'e']
  | no : Spelled (bool false) ['f', 'a', 'l', 's', 'e']
  | int (value : Int) : Spelled (int value) value.repr.toList
  | str (value : String) : Spelled (str value) (printString value)
  | noItems {gap : List Char} (hgap : Gap gap) : Spelled (arr []) ('[' :: (gap ++ [']']))
  | items {xs : List Json} {text : List Char} (h : SpelledItems xs text) : Spelled (arr xs) ('[' :: text)
  | noMembers {gap : List Char} (hgap : Gap gap) : Spelled (obj []) ('\x7b' :: (gap ++ ['\x7d']))
  | members {ms : List (String × Json)} {text : List Char} (h : SpelledMembers ms text) :
    Spelled (obj ms) ('\x7b' :: text)

/-- The text spells one or more items, with commas between them and the bracket that ends them. -/
inductive SpelledItems : List Json → List Char → Prop where
  | last {x : Json} {before text after : List Char} (hbefore : Gap before) (hx : Spelled x text) (hafter : Gap after) :
    SpelledItems [x] (before ++ (text ++ (after ++ [']'])))
  | more {x : Json} {xs : List Json} {before text after rest : List Char} (hbefore : Gap before) (hx : Spelled x text)
    (hafter : Gap after) (hxs : SpelledItems xs rest) :
    SpelledItems (x :: xs) (before ++ (text ++ (after ++ ',' :: rest)))

/-- The text spells one or more members, with commas between them and the brace that ends them. -/
inductive SpelledMembers : List (String × Json) → List Char → Prop where
  | last {key : String} {x : Json} {before afterKey beforeValue text after : List Char} (hbefore : Gap before)
    (hafterKey : Gap afterKey) (hbeforeValue : Gap beforeValue) (hx : Spelled x text) (hafter : Gap after) :
    SpelledMembers [(key, x)]
      (before ++ (printString key ++ (afterKey ++ ':' :: (beforeValue ++ (text ++ (after ++ ['\x7d']))))))
  | more {key : String} {x : Json} {ms : List (String × Json)} {before afterKey beforeValue text after rest : List Char}
    (hbefore : Gap before) (hafterKey : Gap afterKey) (hbeforeValue : Gap beforeValue) (hx : Spelled x text)
    (hafter : Gap after)
    (hms : SpelledMembers ms rest) :
    SpelledMembers ((key, x) :: ms)
      (before ++ (printString key ++ (afterKey ++ ':' :: (beforeValue ++ (text ++ (after ++ ',' :: rest))))))

end

variable {gap cs rest : List Char} {c : Char} {j : Json} {budget : Nat}

/-! ## Blanks -/

theorem gap_nil : Gap [] := fun _ h => (List.not_mem_nil h).elim

/-- The start of a line is blanks. -/
theorem gap_lineAt (depth : Nat) : Gap (lineAt depth) := by
  refine List.forall_mem_cons.mpr ⟨rfl, fun c hc => ?_⟩
  rw [List.eq_of_mem_replicate hc]
  rfl

theorem skipGaps_append (h : Gap gap) (cs : List Char) : skipGaps (gap ++ cs) = skipGaps cs := by
  rw [skipGaps, List.dropWhile_append_of_pos h, skipGaps]

theorem skipGaps_cons (h : isGap c = false) (cs : List Char) : skipGaps (c :: cs) = c :: cs := by
  rw [skipGaps, List.dropWhile_cons_of_neg (by rw [h]; exact Bool.false_ne_true)]

theorem skipGaps_skipGaps (cs : List Char) : skipGaps (skipGaps cs) = skipGaps cs := by
  rw [skipGaps, skipGaps, List.dropWhile_idempotent]

/-- A value is read past the blanks before it. -/
theorem readValue_skipGaps (budget : Nat) (cs : List Char) : readValue budget (skipGaps cs) = readValue budget cs := by
  cases budget with
  | zero => rw [readValue, readValue]
  | succ budget => rw [readValue, readValue, skipGaps_skipGaps]

/-- Items are read past the blanks before them. -/
theorem readItems_skipGaps (budget : Nat) (cs : List Char) : readItems budget (skipGaps cs) = readItems budget cs := by
  cases budget with
  | zero => rw [readItems, readItems]
  | succ budget => rw [readItems, readItems, readValue_skipGaps]

theorem readValue_append_gap (h : Gap gap) : readValue budget (gap ++ cs) = readValue budget cs := by
  rw [← readValue_skipGaps, skipGaps_append h, readValue_skipGaps]

/-- Members are read past the blanks before them. -/
theorem readMembers_skipGaps (budget : Nat) (cs : List Char) :
    readMembers budget (skipGaps cs) = readMembers budget cs := by
  cases budget with
  | zero => rw [readMembers, readMembers]
  | succ budget => rw [readMembers, readMembers, skipGaps_skipGaps]

/-! ## Strings -/

theorem hexDigit?_digitChar {n : Nat} (h : n < 16) : hexDigit? (Nat.digitChar n) = some n := by
  interval_cases n <;> rfl

/-- An escape by number stands for the character of this number. -/
theorem readString_escapeByNumber {n : Nat} (h : n < 0x20) (cs : List Char) :
    readString ('\\' :: 'u' :: '0' :: '0' :: Nat.digitChar (n / 16) :: Nat.digitChar (n % 16) :: cs) =
      (readString cs).map fun (xs, rest) => (Char.ofNat n :: xs, rest) := by
  have hnumber : hexFour? '0' '0' (Nat.digitChar (n / 16)) (Nat.digitChar (n % 16)) = some n := by
    have hzero : hexDigit? '0' = some 0 := rfl
    rw [hexFour?, hzero, hexDigit?_digitChar (by omega), hexDigit?_digitChar (by omega)]
    simp only [Option.bind_eq_bind, Option.bind_some, Option.pure_def, Option.some.injEq]
    omega
  have hhigh : isHighHalf n = false := by
    rw [isHighHalf, Bool.and_eq_false_iff, decide_eq_false_iff_not]
    omega
  have hlow : isLowHalf n = false := by
    rw [isLowHalf, Bool.and_eq_false_iff, decide_eq_false_iff_not]
    omega
  rw [readString]
  simp only [hnumber, hhigh, escapedOne?, hlow]
  cases readString cs <;> rfl

/-- A character is read from the way it is written in a string. -/
theorem readString_escapeChar (c : Char) (cs : List Char) :
    readString (escapeChar c ++ cs) = (readString cs).map fun (xs, rest) => (c :: xs, rest) := by
  unfold escapeChar
  split
  case h_8 hquote hbackslash _ _ _ _ _ =>
    split
    · rename_i hcontrol
      have h := readString_escapeByNumber hcontrol cs
      rw [Char.ofNat_toNat] at h
      exact h
    · rename_i hplain
      rw [List.singleton_append, readString.eq_def]
      split
      · rename_i heq
        cases heq
      · rename_i heq
        exact absurd (List.cons.inj heq).1 hquote
      · rename_i heq
        exact absurd (List.cons.inj heq).1 hbackslash
      · rename_i heq
        exact absurd (List.cons.inj heq).1 hbackslash
      · rename_i heq
        obtain ⟨rfl, rfl⟩ := List.cons.inj heq
        have hneither : ¬(c = '\\' ∨ c.toNat < 32) := not_or.mpr ⟨hbackslash, hplain⟩
        rw [if_neg (by simpa only [Bool.or_eq_true, beq_iff_eq, decide_eq_true_eq] using hneither)]
        cases readString cs <;> rfl
  all_goals
    rw [List.cons_append, List.singleton_append, readString]
    · simp only [escapedLetter?]
      cases readString cs <;> rfl
    all_goals simp

/-- A string is read from its printed form. -/
theorem readString_print (cs rest : List Char) :
    readString (cs.flatMap escapeChar ++ '"' :: rest) = some (cs, rest) := by
  induction cs with
  | nil => rw [List.flatMap_nil, List.nil_append, readString]
  | cons c cs ih =>
    rw [List.flatMap_cons, List.append_assoc, readString_escapeChar, ih]
    rfl

/-! ## Numbers -/

/-- What follows a number does not go on with it. -/
def Stops (rest : List Char) : Prop := ∀ c ∈ rest.head?, c.isDigit = false ∧ c ≠ '.' ∧ c ≠ 'e' ∧ c ≠ 'E'

/-- The decimal digits of a number that is not zero do not start with a zero. -/
theorem head?_toDigits_ne_zero {n : Nat} (h : n ≠ 0) : (Nat.toDigits 10 n).head? ≠ some '0' := by
  induction n using Nat.strong_induction_on with
  | _ n ih =>
    by_cases hlt : n < 10
    · rw [Nat.toDigits_of_lt_base hlt, List.head?_cons]
      simpa using h
    · have hn : n / 10 ≠ 0 := by omega
      rw [Nat.toDigits_of_base_le (by decide) (by omega), List.head?_append_of_ne_nil _ Nat.toDigits_ne_nil]
      exact ih _ (by omega) hn

/-- Digits are read up to what stops them. -/
theorem readDigits_append {ds : List Char} (hds : Numeral.Digits ds) (hrest : ∀ c ∈ rest.head?, c.isDigit = false) :
    readDigits (ds ++ rest) = some (ds, rest) := by
  have htake : rest.takeWhile Char.isDigit = [] ∧ rest.dropWhile Char.isDigit = rest := by
    cases rest with
    | nil => exact ⟨rfl, rfl⟩
    | cons c rest =>
      have hc : ¬c.isDigit = true := by rw [hrest c rfl]; exact Bool.false_ne_true
      exact ⟨List.takeWhile_cons_of_neg hc, List.dropWhile_cons_of_neg hc⟩
  rw [readDigits, List.takeWhile_append_of_pos hds.2, List.dropWhile_append_of_pos hds.2, htake.1, htake.2,
    List.append_nil]
  obtain ⟨d, ds, rfl⟩ := List.exists_cons_of_ne_nil hds.1
  rfl

/-- The whole part of a number is its digits. -/
theorem readWhole_toDigits (n : Nat) (h : Stops rest) :
    readWhole (Nat.toDigits 10 n ++ rest) = some (Nat.toDigits 10 n, rest) := by
  rw [readWhole, readDigits_append (Numeral.digits_toDigits n).1 fun c hc => (h c hc).1]
  split
  · rename_i heq
    obtain ⟨hdigits, -⟩ := Prod.mk.inj (Option.some.inj heq)
    by_cases hn : n = 0
    · subst hn
      cases hdigits
    · exact absurd (by rw [hdigits]; rfl) (head?_toDigits_ne_zero hn)
  · rfl

/-- There is no fraction. -/
theorem readFraction_of_stops (h : Stops rest) : readFraction rest = some ([], rest) := by
  unfold readFraction
  split
  · exact absurd rfl (h _ rfl).2.1
  · rfl

/-- There is no exponent. -/
theorem readExponent_of_stops (h : Stops rest) : readExponent rest = some ([], rest) := by
  unfold readExponent
  split
  case h_7 => rfl
  case h_1 | h_2 | h_3 => exact absurd rfl (h _ rfl).2.2.1
  case h_4 | h_5 | h_6 => exact absurd rfl (h _ rfl).2.2.2

/-- A number is read from its digits. -/
theorem readMagnitude_toDigits (negative : Bool) {n : Nat} (hn : negative = true → n ≠ 0) (h : Stops rest) :
    readMagnitude negative (Nat.toDigits 10 n ++ rest) = some (int (if negative then -(n : Int) else n), rest) := by
  simpa [readMagnitude, readWhole_toDigits n h, readFraction_of_stops h, readExponent_of_stops h,
    Nat.ofDigitChars_ten_toDigits]
    using hn

/-- An integer is read from its decimal text. -/
theorem readNumber_repr (value : Int) (h : Stops rest) :
    readNumber (value.repr.toList ++ rest) = some (int value, rest) := by
  cases value with
  | ofNat n =>
    have htext : (Int.ofNat n).repr.toList = Nat.toDigits 10 n := by simp [Int.repr]
    have hminus : ∀ cs, Nat.toDigits 10 n ++ rest ≠ '-' :: cs := by
      intro cs heq
      obtain ⟨d, ds, hdigits, hdigit⟩ := Numeral.exists_digit n
      rw [hdigits] at heq
      rw [(List.cons.inj heq).1] at hdigit
      cases hdigit
    rw [htext, readNumber]
    · exact readMagnitude_toDigits false (fun hfalse => by cases hfalse) h
    · exact hminus
  | negSucc n =>
    have htext : (Int.negSucc n).repr.toList = '-' :: Nat.toDigits 10 (n + 1) := by simp [Int.repr]
    rw [htext, List.cons_append, readNumber]
    exact readMagnitude_toDigits true (fun _ => Nat.succ_ne_zero n) h

/-! ## Values -/

/-- A character that a number starts with. -/
def StartsNumber (c : Char) : Prop := c.isDigit = true ∨ c = '-'

/-- No other character starts a number. -/
theorem StartsNumber.ne (h : StartsNumber c) {d : Char} (hd : d.isDigit = false ∧ d ≠ '-') : c ≠ d := by
  rintro rfl
  rcases h with h | h
  · rw [hd.1] at h
    cases h
  · exact hd.2 h

theorem StartsNumber.isGap_eq_false (h : StartsNumber c) : isGap c = false := by
  simp only [isGap, Bool.or_eq_false_iff, beq_eq_false_iff_ne]
  exact ⟨⟨⟨h.ne (by decide), h.ne (by decide)⟩, h.ne (by decide)⟩, h.ne (by decide)⟩

/-- The decimal text of an integer starts with a digit or a minus sign. -/
theorem startsNumber_repr (value : Int) : ∃ c cs, value.repr.toList = c :: cs ∧ StartsNumber c := by
  cases value with
  | ofNat n =>
    obtain ⟨d, ds, hdigits, hdigit⟩ := Numeral.exists_digit n
    exact ⟨d, ds, by simp [Int.repr, hdigits], .inl hdigit⟩
  | negSucc n => exact ⟨'-', Nat.toDigits 10 (n + 1), by simp [Int.repr], .inr rfl⟩

/-- A text of a value starts with a character that is no blank and ends no array. -/
theorem Spelled.exists_cons {text : List Char} (h : Spelled j text) :
    ∃ c cs, text = c :: cs ∧ isGap c = false ∧ c ≠ ']' := by
  cases h with
  | int value =>
    obtain ⟨c, cs, htext, hc⟩ := startsNumber_repr value
    exact ⟨c, cs, htext, hc.isGap_eq_false, hc.ne (by decide)⟩
  | null | yes | no | str | noItems | items | noMembers | members => exact ⟨_, _, rfl, rfl, by decide⟩

/-- A text of items does not start with the bracket that ends an array. -/
theorem SpelledItems.skipGaps_ne {xs : List Json} {text : List Char} (h : SpelledItems xs text) (rest cs : List Char) :
    skipGaps (text ++ rest) ≠ ']' :: cs := by
  cases h with
  | last hbefore hx | more hbefore hx =>
    obtain ⟨c, cs', rfl, hgap, hne⟩ := hx.exists_cons
    rw [List.append_assoc, skipGaps_append hbefore, List.cons_append, List.cons_append, skipGaps_cons hgap]
    exact fun heq => hne (List.cons.inj heq).1

/-- A text of members starts with a quote, past the blanks. -/
theorem SpelledMembers.skipGaps_ne {ms : List (String × Json)} {text : List Char} (h : SpelledMembers ms text)
    (rest cs : List Char) :
    skipGaps (text ++ rest) ≠ '\x7d' :: cs := by
  cases h with
  | last hbefore | more hbefore =>
    rw [List.append_assoc, skipGaps_append hbefore, List.append_assoc, printString, List.cons_append,
      skipGaps_cons rfl]
    exact fun heq => absurd (List.cons.inj heq).1 (by decide)

/-- A value that starts like a number is read as one. -/
theorem readValue_of_startsNumber (h : StartsNumber c) (cs : List Char) :
    readValue (budget + 1) (c :: cs) = readNumber (c :: cs) := by
  rw [readValue, skipGaps_cons h.isGap_eq_false]
  split
  case h_7 => rfl
  all_goals
    rename_i heq
    exact absurd (List.cons.inj heq).1 (h.ne (by decide))

/-- What follows a value in an array or an object stops a number. -/
theorem stops_append (hgap : Gap gap) (h : Stops rest) : Stops (gap ++ rest) := by
  cases gap with
  | nil => exact h
  | cons c gap =>
    intro d hd
    have hblank := hgap c List.mem_cons_self
    obtain rfl : c = d := Option.some.inj hd
    simp only [isGap, Bool.or_eq_true, beq_iff_eq] at hblank
    rcases hblank with ((rfl | rfl) | rfl) | rfl
    all_goals exact ⟨rfl, by decide, by decide, by decide⟩

/-- A sign between tokens stops a number. -/
theorem stops_cons (hdigit : c.isDigit = false) (hc : c ≠ '.' ∧ c ≠ 'e' ∧ c ≠ 'E') (cs : List Char) :
    Stops (c :: cs) := by
  intro d hd
  obtain rfl : c = d := Option.some.inj hd
  exact ⟨hdigit, hc⟩

/-- The last item is the one before the bracket. -/
theorem readItems_of_bracket {x : Json} (hgap : Gap gap) (h : readValue budget cs = some (x, gap ++ ']' :: rest)) :
    readItems (budget + 1) cs = some ([x], rest) := by
  rw [readItems, h]
  simp only [skipGaps_append hgap]
  rfl

/-- After a comma there are more items. -/
theorem readItems_of_comma {x : Json} (hgap : Gap gap) (h : readValue budget cs = some (x, gap ++ ',' :: rest)) :
    readItems (budget + 1) cs = (readItems budget rest).map fun (xs, r) => (x :: xs, r) := by
  rw [readItems, h]
  simp only [skipGaps_append hgap]
  rfl

section

variable {key : String} {x : Json} {before afterKey beforeValue : List Char}

/-- The last member is the one before the brace. -/
theorem readMembers_of_brace (hbefore : Gap before) (hafterKey : Gap afterKey) (hgap : Gap gap)
    (h : readValue budget cs = some (x, gap ++ '\x7d' :: rest)) :
    readMembers (budget + 1) (before ++ (printString key ++ (afterKey ++ ':' :: cs))) = some ([(key, x)], rest) := by
  rw [readMembers, skipGaps_append hbefore, printString, List.cons_append, List.append_assoc, skipGaps_cons rfl]
  simp only [List.singleton_append, readString_print, skipGaps_append hafterKey, String.ofList_toList]
  rw [skipGaps_cons rfl]
  simp only [h, skipGaps_append hgap]
  rfl

/-- After a comma there are more members. -/
theorem readMembers_of_comma (hbefore : Gap before) (hafterKey : Gap afterKey) (hgap : Gap gap)
    (h : readValue budget cs = some (x, gap ++ ',' :: rest)) :
    readMembers (budget + 1) (before ++ (printString key ++ (afterKey ++ ':' :: cs))) =
      (readMembers budget rest).map fun (ms, r) => ((key, x) :: ms, r) := by
  rw [readMembers, skipGaps_append hbefore, printString, List.cons_append, List.append_assoc, skipGaps_cons rfl]
  simp only [List.singleton_append, readString_print, skipGaps_append hafterKey, String.ofList_toList]
  rw [skipGaps_cons rfl]
  simp only [h, skipGaps_append hgap]
  rfl

end

mutual

/-- A value is read from each of its texts, and what follows is left. -/
theorem readValue_append {j : Json} {text rest : List Char} {budget : Nat} (h : Spelled j text)
    (hbudget : text.length ≤ budget) (hrest : Stops rest) : readValue budget (text ++ rest) = some (j, rest) := by
  obtain ⟨budget, rfl⟩ : ∃ b, budget = b + 1 := by
    obtain ⟨c, cs, rfl, -⟩ := h.exists_cons
    exact ⟨budget - 1, by rw [List.length_cons] at hbudget; omega⟩
  match h with
  | .null => rfl
  | .yes => rfl
  | .no => rfl
  | .int value =>
    obtain ⟨c, cs, htext, hc⟩ := startsNumber_repr value
    rw [← readNumber_repr value hrest, htext, List.cons_append, readValue_of_startsNumber hc]
  | .str value =>
    rw [printString, List.cons_append, List.append_assoc, readValue, skipGaps_cons rfl]
    simp [readString_print]
  | .noItems hgap =>
    rw [List.cons_append, List.append_assoc, readValue, skipGaps_cons rfl]
    simp only [skipGaps_append hgap]
    rfl
  | @Spelled.items xs text hitems =>
    have hread : readItems budget (text ++ rest) = some (xs, rest) :=
      readItems_append hitems (Nat.le_of_succ_le_succ hbudget)
    rw [← readItems_skipGaps] at hread
    rw [List.cons_append, readValue, skipGaps_cons rfl]
    simp only
    split
    · rename_i heq
      exact absurd heq (hitems.skipGaps_ne _ _)
    · rw [hread]
      rfl
  | .noMembers hgap =>
    rw [List.cons_append, List.append_assoc, readValue, skipGaps_cons rfl]
    simp only [skipGaps_append hgap]
    rfl
  | @Spelled.members ms text hmembers =>
    have hread : readMembers budget (text ++ rest) = some (ms, rest) :=
        readMembers_append hmembers (Nat.le_of_succ_le_succ hbudget)
    rw [← readMembers_skipGaps] at hread
    rw [List.cons_append, readValue, skipGaps_cons rfl]
    simp only
    split
    · rename_i heq
      exact absurd heq (hmembers.skipGaps_ne _ _)
    · rw [hread]
      rfl

/-- Items are read from each of their texts. -/
theorem readItems_append {xs : List Json} {text rest : List Char} {budget : Nat} (h : SpelledItems xs text)
    (hbudget : text.length ≤ budget) : readItems budget (text ++ rest) = some (xs, rest) := by
  obtain ⟨budget, rfl⟩ : ∃ b, budget = b + 1 := ⟨budget - 1, by cases h <;> simp at hbudget <;> omega⟩
  match h with
  | .last hbefore hx hafter =>
    simp only [List.append_assoc, List.singleton_append]
    refine readItems_of_bracket hafter ?_
    rw [readValue_append_gap hbefore]
    exact readValue_append hx (by simp at hbudget; omega) (stops_append hafter (stops_cons rfl (by decide) _))
  | .more hbefore hx hafter hxs =>
    simp only [List.append_assoc, List.cons_append]
    rw [readItems_of_comma hafter, readItems_append hxs (by simp at hbudget; omega)]
    · rfl
    · rw [readValue_append_gap hbefore]
      exact readValue_append hx (by simp at hbudget; omega) (stops_append hafter (stops_cons rfl (by decide) _))

/-- Members are read from each of their texts. -/
theorem readMembers_append {ms : List (String × Json)} {text rest : List Char} {budget : Nat}
    (h : SpelledMembers ms text) (hbudget : text.length ≤ budget) :
    readMembers budget (text ++ rest) = some (ms, rest) := by
  obtain ⟨budget, rfl⟩ : ∃ b, budget = b + 1 := ⟨budget - 1, by cases h <;> simp at hbudget <;> omega⟩
  match h with
  | .last hbefore hafterKey hbeforeValue hx hafter =>
    simp only [List.append_assoc, List.cons_append]
    refine readMembers_of_brace hbefore hafterKey hafter ?_
    rw [readValue_append_gap hbeforeValue]
    exact readValue_append hx (by simp at hbudget; omega) (stops_append hafter (stops_cons rfl (by decide) _))
  | .more hbefore hafterKey hbeforeValue hx hafter hms =>
    simp only [List.append_assoc, List.cons_append]
    rw [readMembers_of_comma hbefore hafterKey hafter, readMembers_append hms (by simp at hbudget; omega)]
    · rfl
    · rw [readValue_append_gap hbeforeValue]
      exact readValue_append hx (by simp at hbudget; omega) (stops_append hafter (stops_cons rfl (by decide) _))

end

/-- A value is read from each of its texts. -/
theorem read?_of_spelled (h : Spelled j cs) : read? (String.ofList cs) = some j := by
  have hvalue : readValue (2 * cs.length + 2) (cs ++ []) = some (j, []) :=
    readValue_append h (by omega) fun _ hc => (by cases hc)
  rw [List.append_nil] at hvalue
  simp only [read?, String.toList_ofList, hvalue]
  rfl

/-- No text spells two values. -/
theorem Spelled.unique {j' : Json} (h : Spelled j cs) (h' : Spelled j' cs) : j = j' :=
  Option.some.inj ((read?_of_spelled h).symm.trans (read?_of_spelled h'))

/-! ## The printed form -/

/-- All numbers in the value are integers. -/
inductive Whole : Json → Prop where
  | null : Whole null
  | bool (value : Bool) : Whole (bool value)
  | int (value : Int) : Whole (int value)
  | str (value : String) : Whole (str value)
  | arr {xs : List Json} (h : ∀ x ∈ xs, Whole x) : Whole (arr xs)
  | obj {ms : List (String × Json)} (h : ∀ m ∈ ms, Whole m.2) : Whole (obj ms)

/-- Items are printed as one of their texts. -/
theorem spelledItems_print (depth outer : Nat) {x : Json} {xs : List Json}
    (h : ∀ y ∈ x :: xs, Spelled y (printAt depth y)) :
    SpelledItems (x :: xs) (lineAt depth ++ (printAt depth x ++ (printItems depth xs ++ (lineAt outer ++ [']'])))) := by
  induction xs generalizing x with
  | nil => exact .last (gap_lineAt depth) (h x List.mem_cons_self) (gap_lineAt outer)
  | cons y ys ih =>
    rw [List.forall_mem_cons] at h
    have hrest := SpelledItems.more (gap_lineAt depth) h.1 gap_nil (ih h.2)
    simpa [printItems] using hrest

/-- Members are printed as one of their texts. -/
theorem spelledMembers_print (depth outer : Nat) {m : String × Json} {ms : List (String × Json)}
    (h : ∀ n ∈ m :: ms, Spelled n.2 (printAt depth n.2)) :
    SpelledMembers (m :: ms) (lineAt depth ++ (printString m.1 ++ (':' :: ' ' :: (printAt depth m.2 ++
      (printMembers depth ms ++ (lineAt outer ++ ['\x7d'])))))) := by
  have hspace : Gap [' '] := List.forall_mem_singleton.mpr rfl
  induction ms generalizing m with
  | nil => exact .last (gap_lineAt depth) gap_nil hspace (h m List.mem_cons_self) (gap_lineAt outer)
  | cons n ns ih =>
    rw [List.forall_mem_cons] at h
    have hrest := @SpelledMembers.more m.1 _ _ _ _ _ _ _ _ (gap_lineAt depth) gap_nil hspace h.1 gap_nil (ih h.2)
    simpa [printMembers] using hrest

/-- The printed form, at any depth, is one of the texts of a value. -/
theorem spelled_printAt (h : Whole j) (depth : Nat) : Spelled j (printAt depth j) := by
  induction h generalizing depth with
  | null =>
    rw [printAt]
    exact .null
  | bool value =>
    cases value with
    | true =>
      rw [printAt]
      exact .yes
    | false =>
      rw [printAt]
      exact .no
  | int value =>
    rw [printAt]
    exact .int value
  | str value =>
    rw [printAt]
    exact .str value
  | @arr xs h ih =>
    cases xs with
    | nil =>
      rw [printAt]
      exact .noItems gap_nil
    | cons x xs =>
      have hitems := spelledItems_print (depth + 1) depth fun y hy => ih y hy (depth + 1)
      rw [printAt]
      simpa using Spelled.items hitems
  | @obj ms h ih =>
    cases ms with
    | nil =>
      rw [printAt]
      exact .noMembers gap_nil
    | cons m ms =>
      have hmembers := spelledMembers_print (depth + 1) depth fun n hn => ih n hn (depth + 1)
      rw [printAt]
      simpa using Spelled.members hmembers

/-- The printed form is one of the texts of a value. -/
theorem spelled_print (h : Whole j) : Spelled j j.print.toList := by
  rw [print, String.toList_ofList]
  exact spelled_printAt h 0

end Timeshare.Json
