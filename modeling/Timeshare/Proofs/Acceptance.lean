import Timeshare.Builder
import Timeshare.Proofs.Lettercase
import Timeshare.Proofs.Numerals
import Timeshare.Proofs.Snapshots
import Timeshare.Proofs.Words

/-!
# Which settings are accepted

What the variables ask for is said here without reading them letter by letter: a number of levels is a numeral between
blanks (`AsksLevels`), and a format is its name between blanks, in letters of either case (`AsksFormat`). Settings are
read exactly if there is something that every variable that is set asks for, and the levels are in range; otherwise
the first of three faults is reported (`Settings.acceptance`). A simulation can be built of all settings that are
read, and has the levels that were asked for.
-/

namespace Timeshare

/-- The name of a format. -/
def ReportFormat.name : ReportFormat → String
  | text => "text"
  | json => "json"

/-- The names of formats have plain letters only. -/
theorem ReportFormat.plain_name (format : ReportFormat) : ∀ w ∈ format.name.toList, Text.Plain w := by
  have htext : Text.Plain 't' ∧ Text.Plain 'e' ∧ Text.Plain 'x' ∧ Text.Plain 't' := by decide
  have hjson : Text.Plain 'j' ∧ Text.Plain 's' ∧ Text.Plain 'o' ∧ Text.Plain 'n' := by decide
  cases format with
  | text => simpa [name] using htext
  | json => simpa [name] using hjson

namespace Settings

/-! ## What variables ask for -/

/-- The text asks for so many levels: between blanks it is digits that say the number, after an optional plus sign. -/
def AsksLevels (raw : String) (n : Nat) : Prop := ∃ cs, Text.Trims raw.toList cs ∧ Numeral.Unsigned cs n

/-- The text asks for the format: between blanks it is its name, spelled in capitals and small letters of the
alphabet. -/
def AsksFormat (raw : String) (format : ReportFormat) : Prop :=
  ∃ cs, Text.Trims raw.toList cs ∧ cs.map Char.toLower = format.name.toList

/-- So many levels are asked for, or none are and it is the default. -/
def GivesLevels (lookup : String → Option String) (n : Nat) : Prop :=
  (lookup "PROCSIM_PRIORITY_LEVELS" = none ∧ n = 4) ∨ ∃ raw, lookup "PROCSIM_PRIORITY_LEVELS" = some raw ∧
    AsksLevels raw n

/-- The format is asked for, or none is and it is the default. -/
def GivesFormat (lookup : String → Option String) (format : ReportFormat) : Prop :=
  (lookup "PROCSIM_SNAPSHOT_FORMAT" = none ∧ format = .text) ∨
    ∃ raw, lookup "PROCSIM_SNAPSHOT_FORMAT" = some raw ∧ AsksFormat raw format

/-- The settings are what the variables ask for. -/
structure Gives (lookup : String → Option String) (s : Settings) : Prop where
  levels : GivesLevels lookup s.levels.toNat
  inRange : 1 ≤ s.levels.toNat ∧ s.levels.toNat ≤ 16
  format : GivesFormat lookup s.format
  programDir : s.programDir = (lookup "PROCSIM_PROGRAM_DIR").getD "."
  /-- A name of nothing but blanks counts as absent. -/
  initProgram : ∀ name, s.initProgram = some name ↔ lookup "PROCSIM_INIT_PROGRAM" = some name ∧ ¬Text.Blank name.toList
  traceJson : s.traceJson = true ↔ lookup "PROCSIM_TRACE_JSON" = some "1" ∨ lookup "PROCSIM_TRACE_JSON" = some "true"

/-- Why settings are refused, in these words. -/
inductive Refuses (lookup : String → Option String) : String → Prop where
  /-- The levels are no numeral of a byte, whatever else is wrong. -/
  | levels {raw : String} (hraw : lookup "PROCSIM_PRIORITY_LEVELS" = some raw)
    (hnone : ∀ n, AsksLevels raw n → 256 ≤ n) :
    Refuses lookup ("PROCSIM_PRIORITY_LEVELS must be an integer, got " ++ Text.quoted raw)
  /-- The levels are, but the format is none, whether or not the levels are in range. -/
  | format {raw : String} {n : Nat} (hlevels : GivesLevels lookup n) (hbyte : n < 256)
    (hraw : lookup "PROCSIM_SNAPSHOT_FORMAT" = some raw) (hnone : ∀ format, ¬AsksFormat raw format) :
    Refuses lookup ("PROCSIM_SNAPSHOT_FORMAT must be text or json, got " ++
      Text.quoted (String.ofList (Text.lowercase (Text.trim raw.toList))))
  /-- Only the range of the levels is wrong. -/
  | range {n : Nat} {format : ReportFormat} (hlevels : GivesLevels lookup n) (hbyte : n < 256)
    (hformat : GivesFormat lookup format) (hrange : n < 1 ∨ 16 < n) :
    Refuses lookup ("priority levels must be between 1 and 16, got " ++ n.repr)

/-- The variables that are read. -/
def keys : List String := [
  "PROCSIM_PRIORITY_LEVELS", "PROCSIM_PROGRAM_DIR", "PROCSIM_INIT_PROGRAM", "PROCSIM_SNAPSHOT_FORMAT",
  "PROCSIM_TRACE_JSON"]

/-- What becomes of variables. -/
structure Acceptance (lookup : String → Option String) : Prop where
  accepted : (∃ s, read lookup = .ok s) ↔
    (∀ raw, lookup "PROCSIM_PRIORITY_LEVELS" = some raw → ∃ n, AsksLevels raw n ∧ 1 ≤ n ∧ n ≤ 16) ∧
      ∀ raw, lookup "PROCSIM_SNAPSHOT_FORMAT" = some raw → ∃ format, AsksFormat raw format
  /-- What is accepted is read as it is asked for. -/
  given : ∀ s, read lookup = .ok s ↔ Gives lookup s
  refused : ∀ fault, read lookup = .error fault ↔ ∃ text, fault = .invalidConfiguration text ∧ Refuses lookup text
  /-- No other variable matters. -/
  five : ∀ lookup' : String → Option String, (∀ key ∈ keys, lookup' key = lookup key) → read lookup' = read lookup
  /-- A simulation is built of all that is accepted, with as many ready queues as there are levels asked for, none
  more or less. -/
  built : ∀ s, read lookup = .ok s → clampLevels s.levels = s.levels ∧
    ∀ (files : String → Except ReadFault ByteArray) (b : Builder), ∃ k : Kernel Context,
      (b.withSettings files s).build = .ok (k, Source.directory files s.programDir) ∧ Kernel.boot s.levels = .ok k ∧
        k.queues.ready.length = s.levels.toNat ∧ k.queues.levels = s.levels

/-! ## Steps that fail -/

/-- Two steps fail exactly if the first one does, or else the second one. -/
theorem bind_eq_error_iff {α β ε : Type} {x : Except ε α} {f : α → Except ε β} {e : ε} :
    x >>= f = .error e ↔ x = .error e ∨ ∃ a, x = .ok a ∧ f a = .error e := by
  cases x with
  | error e' =>
    have hfails : Except.error e' >>= f = .error e' := rfl
    rw [hfails, Except.error.injEq, Except.error.injEq]
    exact ⟨.inl, fun h => h.elim id fun ⟨_, ha, _⟩ => (by cases ha)⟩
  | ok a =>
    exact ⟨fun h => .inr ⟨a, rfl, h⟩, fun h => h.elim (fun h => by cases h) fun ⟨_, ha, h⟩ => Except.ok.inj ha ▸ h⟩

/-! ## Levels -/

variable {lookup : String → Option String} {raw : String}

/-- At most one number of levels is asked for. -/
theorem asksLevels_iff {n : Nat} : AsksLevels raw n ↔ Numeral.unsigned? (Text.trim raw.toList) = some n := by
  constructor
  · rintro ⟨cs, htrims, hsays⟩
    rw [Text.trim_eq_iff.mpr htrims]
    exact Numeral.unsigned?_eq_some_iff.mpr hsays
  · exact fun h => ⟨_, Text.trim_eq_iff.mp rfl, Numeral.unsigned?_eq_some_iff.mp h⟩

theorem exists_byte {n : Nat} (h : n < 256) : ∃ v : UInt8, v.toNat = n := ⟨UInt8.ofNat n, UInt8.toNat_ofNat_of_lt' h⟩

/-- The byte that a number is read as has its value. -/
theorem uint8?_eq_some_iff {n : Nat} {v : UInt8} : Word.uint8? n = some v ↔ n = v.toNat := by
  rw [Word.uint8?, Option.ite_none_right_eq_some, Int.toNat_natCast, Option.some.injEq]
  constructor
  · rintro ⟨⟨-, hlt⟩, rfl⟩
    rw [UInt8.toNat_ofNat_of_lt' hlt]
  · rintro rfl
    exact ⟨⟨Int.natCast_nonneg _, v.toNat_lt⟩, UInt8.ofNat_toNat⟩

/-- The levels that a text asks for are read, if they are a byte. -/
theorem parseLevels_eq_ok_iff {v : UInt8} : parseLevels raw = .ok v ↔ AsksLevels raw v.toNat := by
  have hread : Numeral.uint8? (Text.trim raw.toList) = some v ↔ AsksLevels raw v.toNat := by
    rw [Numeral.uint8?, Option.bind_eq_some_iff, asksLevels_iff]
    constructor
    · rintro ⟨n, hn, hv⟩
      rw [hn, uint8?_eq_some_iff.mp hv]
    · exact fun h => ⟨_, h, uint8?_eq_some_iff.mpr rfl⟩
  rw [← hread, parseLevels]
  split
  · rename_i n hn
    rw [hn]
    simp
  · rename_i hn
    rw [hn]
    simp [refuse]

/-- Any other text is refused as it was written. -/
theorem parseLevels_eq_error_iff {fault : Fault} : parseLevels raw = .error fault ↔ (∀ n, AsksLevels raw n → 256 ≤ n) ∧
    fault = .invalidConfiguration ("PROCSIM_PRIORITY_LEVELS must be an integer, got " ++ Text.quoted raw) := by
  have hnone : (∀ v, parseLevels raw ≠ .ok v) ↔ ∀ n, AsksLevels raw n → 256 ≤ n := by
    simp only [ne_eq, parseLevels_eq_ok_iff]
    constructor
    · intro h n hasks
      refine Nat.le_of_not_lt fun hlt => ?_
      obtain ⟨v, rfl⟩ := exists_byte hlt
      exact h v hasks
    · exact fun h v hasks => Nat.not_le.mpr v.toNat_lt (h _ hasks)
  rw [← hnone, parseLevels]
  split
  · exact ⟨fun h => (by cases h), fun h => absurd rfl (h.1 _)⟩
  · rw [refuse, Except.error.injEq]
    exact ⟨fun h => ⟨fun v hv => (by cases hv), h.symm⟩, fun h => h.2.symm⟩

/-! ## Formats -/

/-- A format is asked for exactly if the lower case of the text is its name: no other letters have the letters of the
two names for their lower case. -/
theorem asksFormat_iff {format : ReportFormat} :
    AsksFormat raw format ↔ String.ofList (Text.lowercase (Text.trim raw.toList)) = format.name := by
  rw [← String.toList_inj, String.toList_ofList, Text.lowercase_eq_iff format.plain_name]
  constructor
  · rintro ⟨cs, htrims, hspells⟩
    rwa [Text.trim_eq_iff.mpr htrims]
  · exact fun h => ⟨_, Text.trim_eq_iff.mp rfl, h⟩

/-- The format that a text asks for is read. -/
theorem parseFormat_eq_ok_iff {format : ReportFormat} : parseFormat raw = .ok format ↔ AsksFormat raw format := by
  rw [asksFormat_iff, parseFormat]
  split
  · rename_i hname
    rw [hname]
    cases format <;> simp [ReportFormat.name]
  · rename_i hname
    rw [hname]
    cases format <;> simp [ReportFormat.name]
  · rename_i htext hjson
    cases format with
    | text => exact ⟨fun h => (by cases h), fun h => (htext h).elim⟩
    | json => exact ⟨fun h => (by cases h), fun h => (hjson h).elim⟩

/-- Any other text is refused as it reads in lower case and without the blanks around it. -/
theorem parseFormat_eq_error_iff {fault : Fault} : parseFormat raw = .error fault ↔ (∀ format, ¬AsksFormat raw format) ∧
    fault = .invalidConfiguration ("PROCSIM_SNAPSHOT_FORMAT must be text or json, got " ++
      Text.quoted (String.ofList (Text.lowercase (Text.trim raw.toList)))) := by
  simp only [← parseFormat_eq_ok_iff]
  rw [parseFormat]
  split
  · exact ⟨fun h => (by cases h), fun h => absurd rfl (h.1 _)⟩
  · exact ⟨fun h => (by cases h), fun h => absurd rfl (h.1 _)⟩
  · rw [refuse, Except.error.injEq]
    exact ⟨fun h => ⟨fun v hv => (by cases hv), h.symm⟩, fun h => h.2.symm⟩

/-! ## Settings -/

/-- The levels that are asked for, or the default. -/
def askedLevels (lookup : String → Option String) : Except Fault UInt8 :=
  match lookup "PROCSIM_PRIORITY_LEVELS" with
  | some raw => parseLevels raw
  | none => .ok defaultLevels

/-- The format that is asked for, or the default. -/
def askedFormat (lookup : String → Option String) : Except Fault ReportFormat :=
  match lookup "PROCSIM_SNAPSHOT_FORMAT" with
  | some raw => parseFormat raw
  | none => .ok .text

/-- The settings of these levels and this format, and with the other variables. -/
def assemble (lookup : String → Option String) (levels : UInt8) (format : ReportFormat) : Settings where
  levels := levels
  programDir := (lookup "PROCSIM_PROGRAM_DIR").getD "."
  initProgram := (lookup "PROCSIM_INIT_PROGRAM").filter fun name => !Text.blankString name
  format := format
  traceJson := lookup "PROCSIM_TRACE_JSON" == some "1" || lookup "PROCSIM_TRACE_JSON" == some "true"

/-- Settings are read in three parts: the levels, the format, and the range of the levels. -/
theorem read_eq (lookup : String → Option String) : read lookup = do
    let levels ← askedLevels lookup
    let format ← askedFormat lookup
    checkLevels levels
    return assemble lookup levels format := by
  unfold read askedLevels askedFormat
  cases lookup "PROCSIM_PRIORITY_LEVELS" <;> cases lookup "PROCSIM_SNAPSHOT_FORMAT" <;> rfl

/-- The levels that are read are those given. -/
theorem askedLevels_eq_ok_iff {v : UInt8} : askedLevels lookup = .ok v ↔ GivesLevels lookup v.toNat := by
  rw [askedLevels, GivesLevels]
  cases lookup "PROCSIM_PRIORITY_LEVELS" with
  | none => simp [← UInt8.toNat_inj, defaultLevels, eq_comm]
  | some raw => simp [parseLevels_eq_ok_iff]

/-- The format that is read is the one given. -/
theorem askedFormat_eq_ok_iff {format : ReportFormat} :
    askedFormat lookup = .ok format ↔ GivesFormat lookup format := by
  rw [askedFormat, GivesFormat]
  cases lookup "PROCSIM_SNAPSHOT_FORMAT" with
  | none => simp [eq_comm]
  | some raw => simp [parseFormat_eq_ok_iff]

/-- A kernel may have from 1 to 16 levels. -/
theorem levelsInRange_iff {levels : UInt8} : levelsInRange levels = true ↔ 1 ≤ levels.toNat ∧ levels.toNat ≤ 16 := by
  rw [levelsInRange, Bool.and_eq_true, decide_eq_true_eq, decide_eq_true_eq, UInt8.le_iff_toNat_le,
    UInt8.le_iff_toNat_le]
  exact Iff.rfl

/-- Levels in range are accepted. -/
theorem checkLevels_eq_ok_iff {levels : UInt8} {u : Unit} :
    checkLevels levels = .ok u ↔ 1 ≤ levels.toNat ∧ levels.toNat ≤ 16 := by
  rw [← levelsInRange_iff, checkLevels]
  split <;> simp [*]

/-- Any other number is refused by name. -/
theorem checkLevels_eq_error_iff {levels : UInt8} {fault : Fault} : checkLevels levels = .error fault ↔
    (levels.toNat < 1 ∨ 16 < levels.toNat) ∧
      fault = .invalidConfiguration ("priority levels must be between 1 and 16, got " ++ levels.toNat.repr) := by
  have hout : ¬levelsInRange levels = true ↔ levels.toNat < 1 ∨ 16 < levels.toNat := by
    rw [levelsInRange_iff]
    omega
  rw [← hout, checkLevels]
  split
  · simp [*]
  · rename_i hrange
    have htext : s!"priority levels must be between 1 and {maxLevels}, got {levels}" =
        "priority levels must be between 1 and 16, got " ++ levels.toNat.repr := rfl
    rw [Except.error.injEq, htext]
    exact ⟨fun h => ⟨hrange, h.symm⟩, fun h => h.2.symm⟩

/-- The settings that are read are what the variables ask for. -/
theorem read_eq_ok_iff {s : Settings} : read lookup = .ok s ↔ Gives lookup s := by
  have hname : ∀ name : String, (!Text.blankString name) = true ↔ ¬Text.Blank name.toList := by
    intro name
    rw [Bool.not_eq_true', ← Bool.not_eq_true, Text.blankString_iff]
  simp only [read_eq, bind_eq_ok_iff, askedLevels_eq_ok_iff, askedFormat_eq_ok_iff, checkLevels_eq_ok_iff]
  constructor
  · rintro ⟨levels, hlevels, format, hformat, -, hrange, hs⟩
    obtain rfl := Except.ok.inj hs
    refine ⟨hlevels, hrange, hformat, rfl, fun name => ?_, ?_⟩
    · rw [assemble, Option.filter_eq_some_iff, hname]
    · rw [assemble, Bool.or_eq_true, beq_iff_eq, beq_iff_eq]
  · intro h
    have hinit : ((lookup "PROCSIM_INIT_PROGRAM").filter fun name => !Text.blankString name) = s.initProgram := by
      ext name
      rw [Option.filter_eq_some_iff, hname, h.initProgram]
    have htrace :
        (lookup "PROCSIM_TRACE_JSON" == some "1" || lookup "PROCSIM_TRACE_JSON" == some "true") = s.traceJson := by
      rw [Bool.eq_iff_iff, Bool.or_eq_true, beq_iff_eq, beq_iff_eq, h.traceJson]
    refine ⟨s.levels, h.levels, s.format, h.format, (), h.inRange, ?_⟩
    rw [assemble, hinit, htrace, ← h.programDir]
    rfl

/-- The levels that are refused are no numeral of a byte. -/
theorem askedLevels_eq_error_iff {fault : Fault} : askedLevels lookup = .error fault ↔
    ∃ raw, lookup "PROCSIM_PRIORITY_LEVELS" = some raw ∧ (∀ n, AsksLevels raw n → 256 ≤ n) ∧
      fault = .invalidConfiguration ("PROCSIM_PRIORITY_LEVELS must be an integer, got " ++ Text.quoted raw) := by
  rw [askedLevels]
  cases lookup "PROCSIM_PRIORITY_LEVELS" with
  | none => simp
  | some raw => simp [parseLevels_eq_error_iff]

/-- The format that is refused is none. -/
theorem askedFormat_eq_error_iff {fault : Fault} : askedFormat lookup = .error fault ↔
    ∃ raw, lookup "PROCSIM_SNAPSHOT_FORMAT" = some raw ∧ (∀ format, ¬AsksFormat raw format) ∧
      fault = .invalidConfiguration ("PROCSIM_SNAPSHOT_FORMAT must be text or json, got " ++
        Text.quoted (String.ofList (Text.lowercase (Text.trim raw.toList)))) := by
  rw [askedFormat]
  cases lookup "PROCSIM_SNAPSHOT_FORMAT" with
  | none => simp
  | some raw => simp [parseFormat_eq_error_iff]

/-- The first thing that is wrong is reported. -/
theorem read_eq_error_iff {fault : Fault} :
    read lookup = .error fault ↔ ∃ text, fault = .invalidConfiguration text ∧ Refuses lookup text := by
  simp only [read_eq, bind_eq_error_iff, askedLevels_eq_ok_iff, askedFormat_eq_ok_iff, askedLevels_eq_error_iff,
    askedFormat_eq_error_iff, checkLevels_eq_error_iff]
  constructor
  · rintro (⟨raw, hraw, hnone, rfl⟩ | ⟨levels, hlevels, hrest⟩)
    · exact ⟨_, rfl, .levels hraw hnone⟩
    rcases hrest with ⟨raw, hraw, hnone, rfl⟩ | ⟨format, hformat, ⟨hrange, rfl⟩ | ⟨_, -, h⟩⟩
    · exact ⟨_, rfl, .format hlevels levels.toNat_lt hraw hnone⟩
    · exact ⟨_, rfl, .range hlevels levels.toNat_lt hformat hrange⟩
    · cases h
  · rintro ⟨_, rfl, hrefuses⟩
    cases hrefuses with
    | levels hraw hnone => exact .inl ⟨_, hraw, hnone, rfl⟩
    | format hlevels hlt hraw hnone =>
      obtain ⟨v, rfl⟩ := exists_byte hlt
      exact .inr ⟨v, hlevels, .inl ⟨_, hraw, hnone, rfl⟩⟩
    | range hlevels hlt hformat hrange =>
      obtain ⟨v, rfl⟩ := exists_byte hlt
      exact .inr ⟨v, hlevels, .inr ⟨_, hformat, .inl ⟨hrange, rfl⟩⟩⟩

/-- Levels in range are given exactly if the variable, where it is set, asks for such. -/
theorem exists_givesLevels_iff : (∃ v : UInt8, GivesLevels lookup v.toNat ∧ 1 ≤ v.toNat ∧ v.toNat ≤ 16) ↔
    ∀ raw, lookup "PROCSIM_PRIORITY_LEVELS" = some raw → ∃ n, AsksLevels raw n ∧ 1 ≤ n ∧ n ≤ 16 := by
  constructor
  · rintro ⟨v, ⟨hnone, -⟩ | ⟨raw', hraw', hasks⟩, hrange⟩ raw hraw
    · cases hraw.symm.trans hnone
    · obtain rfl := Option.some.inj (hraw.symm.trans hraw')
      exact ⟨_, hasks, hrange⟩
  · intro h
    cases hraw : lookup "PROCSIM_PRIORITY_LEVELS" with
    | none => exact ⟨4, .inl ⟨hraw, rfl⟩, by decide⟩
    | some raw =>
      obtain ⟨n, hasks, hrange⟩ := h raw hraw
      obtain ⟨v, rfl⟩ := exists_byte (show n < 256 by omega)
      exact ⟨v, .inr ⟨raw, hraw, hasks⟩, hrange⟩

/-- A format is given exactly if the variable, where it is set, asks for one. -/
theorem exists_givesFormat_iff : (∃ format, GivesFormat lookup format) ↔
    ∀ raw, lookup "PROCSIM_SNAPSHOT_FORMAT" = some raw → ∃ format, AsksFormat raw format := by
  constructor
  · rintro ⟨format, ⟨hnone, -⟩ | ⟨raw', hraw', hasks⟩⟩ raw hraw
    · cases hraw.symm.trans hnone
    · obtain rfl := Option.some.inj (hraw.symm.trans hraw')
      exact ⟨format, hasks⟩
  · intro h
    cases hraw : lookup "PROCSIM_SNAPSHOT_FORMAT" with
    | none => exact ⟨.text, .inl ⟨hraw, rfl⟩⟩
    | some raw =>
      obtain ⟨format, hasks⟩ := h raw hraw
      exact ⟨format, .inr ⟨raw, hraw, hasks⟩⟩

/-- Some settings are read exactly if the variables that are set ask for levels in range and for a format. -/
theorem exists_read_iff : (∃ s, read lookup = .ok s) ↔
    (∀ raw, lookup "PROCSIM_PRIORITY_LEVELS" = some raw → ∃ n, AsksLevels raw n ∧ 1 ≤ n ∧ n ≤ 16) ∧
      ∀ raw, lookup "PROCSIM_SNAPSHOT_FORMAT" = some raw → ∃ format, AsksFormat raw format := by
  rw [← exists_givesLevels_iff, ← exists_givesFormat_iff]
  constructor
  · rintro ⟨s, hs⟩
    have h := read_eq_ok_iff.mp hs
    exact ⟨⟨s.levels, h.levels, h.inRange⟩, s.format, h.format⟩
  · rintro ⟨⟨levels, hlevels, hrange⟩, format, hformat⟩
    refine ⟨assemble lookup levels format, ?_⟩
    simp only [read_eq, bind_eq_ok_iff, askedLevels_eq_ok_iff, askedFormat_eq_ok_iff, checkLevels_eq_ok_iff]
    exact ⟨levels, hlevels, format, hformat, (), hrange, rfl⟩

/-! ## Simulations -/

/-- A simulation of settings in range has the levels of the settings. -/
theorem build_of_inRange {s : Settings} (h : 1 ≤ s.levels.toNat ∧ s.levels.toNat ≤ 16)
    (files : String → Except ReadFault ByteArray) (b : Builder) :
    ∃ k : Kernel Context, (b.withSettings files s).build = .ok (k, Source.directory files s.programDir) ∧
      Kernel.boot s.levels = .ok k ∧ k.queues.ready.length = s.levels.toNat ∧ k.queues.levels = s.levels := by
  have hboot : Kernel.boot s.levels = .ok (Kernel.empty s.levels : Kernel Context) :=
    Kernel.boot_eq_ok_iff.mpr ⟨levelsInRange_iff.mpr h, rfl⟩
  have hlength : (Kernel.empty s.levels : Kernel Context).queues.ready.length = s.levels.toNat := List.length_replicate
  refine ⟨Kernel.empty s.levels, ?_, hboot, hlength, ?_⟩
  · have hlevels : (b.withSettings files s).levels = s.levels := rfl
    rw [Builder.build_eq, hlevels, hboot]
    rfl
  · rw [Queues.levels, hlength, UInt8.ofNat_toNat]

/-- Whatever the variables: settings are accepted exactly if the levels are unset or a numeral from 1 to 16, and the
format is unset or the name of one in either case; what is accepted is read as it is asked for, and otherwise the
first fault is reported in the order of levels that are no byte, format, range of the levels; only the five variables
matter; and all that is accepted can be built, with exactly the levels that were asked for. -/
theorem acceptance (lookup : String → Option String) : Acceptance lookup where
  accepted := exists_read_iff
  given := fun s => read_eq_ok_iff
  refused := fun fault => read_eq_error_iff
  five := by
    intro lookup' hsame
    simp only [keys, List.forall_mem_cons] at hsame
    obtain ⟨hlevels, hdir, hinit, hformat, htrace, -⟩ := hsame
    simp only [read, hlevels, hdir, hinit, hformat, htrace]
  built := by
    intro s hs
    have hrange := (read_eq_ok_iff.mp hs).inRange
    exact ⟨clampLevels_eq_self (levelsInRange_iff.mpr hrange), build_of_inRange hrange⟩

/-- Signs, leading zeros, blanks and capitals do not matter. -/
example : (read fun key => [("PROCSIM_PRIORITY_LEVELS", " +0016\t"), ("PROCSIM_SNAPSHOT_FORMAT", "JsOn")].lookup key) =
    .ok { levels := 16, format := .json } := by decide +kernel

/-- The format is reported before the range of the levels. -/
example : (read fun key => [("PROCSIM_PRIORITY_LEVELS", "17"), ("PROCSIM_SNAPSHOT_FORMAT", "xml")].lookup key) =
    .error (.invalidConfiguration "PROCSIM_SNAPSHOT_FORMAT must be text or json, got \"xml\"") := by decide +kernel

end Settings

end Timeshare
