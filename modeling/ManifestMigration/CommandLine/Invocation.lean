import ManifestMigration.Output.Settings
import ManifestMigration.Restoration

/-! What the program can be asked for on its command line, and why it may refuse to start. -/

namespace ManifestMigration.CommandLine

/-- A command with its options. -/
inductive Command where
  | migrate (options : MigrationOptions) (json : Bool)
  | restore (options : RestorationOptions)
  deriving DecidableEq, Repr

/-- A command, if there is one, and how much is to be said. -/
structure Invocation where
  verbose : Bool
  quiet : Bool
  command : Option Command
  deriving DecidableEq, Repr

/-- What help is about. -/
inductive Topic where
  | program | migrate | restore | help
  deriving DecidableEq, Repr

/-- What is wrong with some arguments. -/
inductive Misuse where
  | missingArgument
  | unknownArgument
  | repeatedArgument
  | unexpectedValue
  | invalidNumber
  | emptyValue
  | unknownCommand
  deriving DecidableEq, Repr

/-- Why no command is run: it was asked for something else, or not asked properly. -/
inductive Stop where
  | help (topic : Topic)
  | version
  | misuse (cause : Misuse)
  deriving DecidableEq, Repr

namespace Invocation

/-- The results are in JSON. -/
def json (i : Invocation) : Bool :=
  match i.command with
  | some (.migrate _ json) => json
  | _ => false

/-- How results are shown, on a terminal or not. -/
def settings (i : Invocation) (terminal : Bool) : Output.Settings :=
  .ofFlags i.json i.verbose i.quiet terminal

/-- The least severity of the messages that are logged. -/
def logLevel (i : Invocation) : String := if i.verbose then "debug" else "warn"

end Invocation

/-- What is wrong, as a message. -/
def Misuse.message : Misuse → String
  | missingArgument => "a required argument was not provided"
  | unknownArgument => "unexpected argument found"
  | repeatedArgument => "an argument cannot be used multiple times"
  | unexpectedValue => "unexpected value for an argument found; no more were expected"
  | invalidNumber => "invalid value for an argument: not a number"
  | emptyValue => "a value is required for an argument but none was supplied"
  | unknownCommand => "unrecognized subcommand"

end ManifestMigration.CommandLine
