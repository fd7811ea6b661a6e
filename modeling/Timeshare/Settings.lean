import Timeshare.Limits
import Timeshare.Text.Blank
import Timeshare.Text.Lowercase
import Timeshare.Text.Numeral

/-!
# Settings

A simulation is configured by five variables, each of which may be absent. The number of levels is a numeral
that fits a byte, the report format one of two words in any case; blanks around either do not matter. An initial
program whose name is only blanks counts as absent. Of several bad settings the first in this order is reported:
the numeral, the format, the range of the levels.
-/

namespace Timeshare

/-- How reports are written. -/
inductive ReportFormat where
  | text
  | json
  deriving DecidableEq, Repr

/-- The configuration of a simulation. -/
structure Settings where
  levels : UInt8 := defaultLevels
  /-- The directory that programs are loaded from. -/
  programDir : String := "."
  /-- The program of the first process; without one it runs the built-in program. -/
  initProgram : Option String := none
  format : ReportFormat := .text
  /-- Whether the log is written as JSON. -/
  traceJson : Bool := false
  deriving DecidableEq, Repr

namespace Settings

/-- A refusal of settings. -/
def refuse {α : Type} (text : String) : Except Fault α := .error (.invalidConfiguration text)

/-- The number of levels that a setting asks for, which may be out of range. -/
def parseLevels (raw : String) : Except Fault UInt8 :=
  match Numeral.uint8? (Text.trim raw.toList) with
  | some n => .ok n
  | none => refuse ("PROCSIM_PRIORITY_LEVELS must be an integer, got " ++ Text.quoted raw)

/-- The report format that a setting asks for. -/
def parseFormat (raw : String) : Except Fault ReportFormat :=
  match String.ofList (Text.lowercase (Text.trim raw.toList)) with
  | "text" => .ok .text
  | "json" => .ok .json
  | other => refuse ("PROCSIM_SNAPSHOT_FORMAT must be text or json, got " ++ Text.quoted other)

/-- Refuses settings that are out of range. -/
def validate (s : Settings) : Except Fault Unit := checkLevels s.levels

/-- The settings that the variables give, in the order in which bad ones are reported. -/
def read (lookup : String → Option String) : Except Fault Settings := do
  let levels ← match lookup "PROCSIM_PRIORITY_LEVELS" with
    | some raw => parseLevels raw
    | none => .ok defaultLevels
  let format ← match lookup "PROCSIM_SNAPSHOT_FORMAT" with
    | some raw => parseFormat raw
    | none => .ok .text
  let settings : Settings := {
    levels := levels
    programDir := (lookup "PROCSIM_PROGRAM_DIR").getD "."
    initProgram := (lookup "PROCSIM_INIT_PROGRAM").filter (fun name => !Text.blankString name)
    format := format
    traceJson := lookup "PROCSIM_TRACE_JSON" == some "1" || lookup "PROCSIM_TRACE_JSON" == some "true" }
  validate settings
  return settings

end Settings

end Timeshare
