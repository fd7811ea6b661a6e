import Timeshare.Json.Form
import Timeshare.Settings

/-!
# The JSON form of settings

Settings are an object with a member for each field; a report format is its name. Reading them checks the form
only, so settings that are out of range can be read, and are refused where they are used.
-/

namespace Timeshare

/-- The JSON form of a report format. -/
def ReportFormat.toJson : ReportFormat → Json
  | text => .str "text"
  | json => .str "json"

/-- The report format that a JSON value is the form of. -/
def ReportFormat.ofJson? (j : Json) : Option ReportFormat :=
  match j.name? with
  | some "text" => some text
  | some "json" => some json
  | _ => none

/-- The JSON form of settings. -/
def Settings.toJson (s : Settings) : Json := .obj [
  ("priority_levels", .ofUInt8 s.levels), ("program_dir", .str s.programDir),
  ("init_program", .ofOption .str s.initProgram), ("snapshot_format", s.format.toJson),
  ("trace_json", .bool s.traceJson)]

/-- The settings that a JSON value is the form of. -/
def Settings.ofJson? (j : Json) : Option Settings := do
  match ← j.fields? ["priority_levels", "program_dir", "init_program", "snapshot_format", "trace_json"] with
  | [levels, programDir, initProgram, format, traceJson] =>
    return {
      levels := ← levels.uint8?
      programDir := ← programDir.string?
      initProgram := ← initProgram.optional? Json.string?
      format := ← ReportFormat.ofJson? format
      traceJson := ← traceJson.bool? }
  | _ => none

end Timeshare
