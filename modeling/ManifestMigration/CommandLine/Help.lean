import ManifestMigration.CommandLine.Invocation

/-! The help on each topic. -/

namespace ManifestMigration.CommandLine

/-- The name of the program. -/
def programName : String := "poetry2rye"

/-- The version of the program, on a line. -/
def versionLine : String := programName ++ " 0.3.0\n"

/-- Some lines as one text. -/
def ofLines (lines : List String) : String := String.join (lines.map (· ++ "\n"))

/-- The help on a topic. -/
def Topic.text : Topic → String
  | program => ofLines [
    "Migrate a Poetry-managed pyproject.toml to Rye",
    "",
    "Usage: poetry2rye [OPTIONS] [COMMAND]",
    "",
    "Commands:",
    "  migrate         Convert the project in place after backing it up [alias: mig]",
    "  restore-backup  Restore the project from one of its backups [alias: get-backup]",
    "  help            Print this message or the help of the given subcommand(s)",
    "",
    "Options:",
    "      --verbose  Enable debug logging on stderr",
    "  -q, --quiet    Enable quiet mode - no spinners, no text report",
    "  -h, --help     Print help",
    "  -V, --version  Print version"]
  | migrate => ofLines [
    "Convert the project in place after backing it up",
    "",
    "Usage: poetry2rye migrate [OPTIONS] <PATH>",
    "",
    "Arguments:",
    "  <PATH>  Project directory",
    "",
    "Options:",
    "      --ignore-src  Neither look for nor move the module source tree",
    "      --verbose     Enable debug logging on stderr",
    "  -q, --quiet       Enable quiet mode - no spinners, no text report",
    "      --virtual     Emit a virtual Rye project (no build system)",
    "      --json        Output the migration report in JSON format",
    "  -h, --help        Print help"]
  | restore => ofLines [
    "Restore the project from one of its backups",
    "",
    "Usage: poetry2rye restore-backup [OPTIONS] <PATH>",
    "",
    "Arguments:",
    "  <PATH>  Project directory",
    "",
    "Options:",
    "  -n, --backup-number <BACKUP_NUMBER>  Backup index (default: the latest one)",
    "      --verbose                        Enable debug logging on stderr",
    "  -q, --quiet                          Enable quiet mode - no spinners, no text report",
    "  -y, --yes                            Restore without asking for confirmation",
    "  -h, --help                           Print help"]
  | help => ofLines [
    "Print this message or the help of the given subcommand(s)",
    "",
    "Usage: poetry2rye help [COMMAND]...",
    "",
    "Arguments:",
    "  [COMMAND]...  Print help for the subcommand(s)"]

end ManifestMigration.CommandLine
