import ManifestMigration.Output.Json
import ManifestMigration.Output.Settings
import ManifestMigration.Output.Style
import ManifestMigration.Restoration

/-! Showing what was done: the backup, the report of a migration, and the outcome of a restoration.

    A report as text lists the lines that still mention the old tool, since they need a look. -/

namespace ManifestMigration.Output

/-! ### As text -/

/-- A text that may be in a style. -/
def styled (s : Settings) (style : Style) (text : String) : String :=
  if s.color then style.paint text else text

/-- The last line of a success. -/
def doneLine (s : Settings) : String := styled s .boldGreen "done" ++ "\n"

/-- A mention of the old tool. -/
def mentionLine (s : Settings) (m : Mention) : String :=
  styled s .yellow s!"Found 'poetry' in line {m.line}:" ++ " " ++ m.content ++ "\n"

/-- A title and requirements below it, when there are any. -/
def requirementLines (s : Settings) (title : String) (requirements : List String) : String :=
  if requirements.isEmpty then ""
  else
    styled s .bold title ++ "\n" ++ String.join (requirements.map fun r => "  " ++ r ++ "\n")

/-- All requirements of a project. -/
def allRequirements (s : Settings) (r : Requirements) : String :=
  let interpreter := match r.interpreter with
    | some i => "requires-python: " ++ i ++ "\n"
    | none => ""
  interpreter ++ requirementLines s "dependencies:" r.main ++
    requirementLines s "dev-dependencies:" r.dev

/-- A report as text. -/
def reportText (s : Settings) (r : Report) : String :=
  let mentions := String.join (r.mentions.map (mentionLine s))
  let requirements :=
    if s.verbosity == .verbose then allRequirements s r.requirements else ""
  let lockfile := if r.lockfileRemoved then "removed poetry.lock\n" else ""
  let moved := match r.moduleMovedTo with
    | some target => "moved module to " ++ target.text ++ "\n"
    | none => ""
  mentions ++ requirements ++ lockfile ++ moved ++ doneLine s

/-! ### As JSON -/

/-- A list of texts. -/
def texts (ts : List String) : Json := .array (ts.map .string)

/-- A mention of the old tool, as an object. -/
def mentionJson (m : Mention) : Json :=
  .object [("line", .number m.line), ("content", .string m.content)]

/-- A report as an object. -/
def reportJson (r : Report) : Json := .object [
  ("project", .string r.project),
  ("project_path", .string r.projectPath.text),
  ("backup_path", .string r.backupPath.text),
  ("requires_python", .ofOption .string r.requirements.interpreter),
  ("dependencies", texts r.requirements.main),
  ("dev_dependencies", texts r.requirements.dev),
  ("virtual_project", .boolean r.virtualProject),
  ("lockfile_removed", .boolean r.lockfileRemoved),
  ("module_relocated_to", .ofOption (fun p => .string p.text) r.moduleMovedTo),
  ("poetry_mentions", .array (r.mentions.map mentionJson))]

/-- An outcome as an object. -/
def outcomeJson (restored : Bool) (backup : Path) : Json :=
  .object [("restored", .boolean restored), ("backup", .string backup.text)]

/-! ### In either format -/

/-- Says that a backup was made. A report in JSON says that itself. -/
def showBackup (s : Settings) (backup : Path) : String :=
  if s.format == .json || s.verbosity == .quiet then ""
  else "created backup: " ++ styled s .cyan backup.text ++ "\n"

/-- Shows a report. To be quiet leaves nothing of it as text, and no mentions in JSON. -/
def showReport (s : Settings) (r : Report) : String :=
  match s.format, s.verbosity with
  | .json, .quiet => (reportJson { r with mentions := [] }).text
  | .json, _ => (reportJson r).text
  | .text, .quiet => ""
  | .text, _ => reportText s r

/-- Shows an outcome. That nothing was restored is said even when quiet. -/
def showOutcome (s : Settings) (o : RestorationOutcome) : String :=
  match s.format, o with
  | .json, .restored backup => (outcomeJson true backup).text
  | .json, .aborted backup => (outcomeJson false backup).text
  | .text, .aborted _ => "aborting...\n"
  | .text, .restored backup =>
    if s.verbosity == .quiet then ""
    else "restored backup from " ++ backup.text ++ "\n" ++ doneLine s

end ManifestMigration.Output
