import ManifestMigration.CommandLine.Help
import ManifestMigration.CommandLine.Reader
import ManifestMigration.Output.Results

/-! Running the program on a file system: what it prints, what it changes, and its exit code. -/

namespace ManifestMigration.CommandLine

/-- What a run comes to. `log` holds the warnings. -/
structure Outcome where
  code : Nat
  output : String
  errors : String
  log : List String
  tree : Tree

/-- Where the program runs: its working directory, the line that answers its question, and whether
    the output goes to a terminal. -/
structure Setting where
  workingDirectory : Path
  line : String
  terminal : Bool

/-- What is said about a failure. -/
def complaint (f : Failure) : String :=
  if f.isFault then "unexpected error occurred!\n" ++ f.message ++ "\n"
  else "error: " ++ f.message ++ "\n"

/-- A warning about each requirement that allows more than its declaration. It is given as soon as
    the dependencies are read, so also when the migration fails later. -/
def warnings (t : Tree) (root : Path) (o : MigrationOptions) : List String :=
  match Project.load t root (!o.ignoreSource) with
  | .error _ => []
  | .ok project =>
    match project.dependencies with
    | .error _ => []
    | .ok ds =>
      (ds.filter fun d => d.interpreter?.isNone && d.isWidened).map fun d =>
        "union constraint widened, a gap has no specifier spelling: " ++ d.requirement

/-- Migrates a project. The backup is announced before anything else is done. -/
def runMigration (s : Setting) (settings : Output.Settings) (o : MigrationOptions) (t : Tree) :
    Outcome :=
  let backUp : Action (Path × Path) := do
    let root ← Migration.absolute s.workingDirectory o.path
    return (root, ← Backup.create root)
  match backUp t with
  | .error f t => ⟨1, "", complaint f, [], t⟩
  | .ok (root, backup) t =>
    let announced := Output.showBackup settings backup
    let log := warnings t root o
    match Migration.run root backup o t with
    | .error f t => ⟨1, announced, complaint f, log, t⟩
    | .ok report t => ⟨0, announced ++ Output.showReport settings report, "", log, t⟩

/-- Only the letter y confirms. -/
def confirms (line : String) : Bool :=
  match Text.trim (line.toList.takeWhile (· != '\n')) with
  | [c] => c == 'y' || c == 'Y'
  | _ => false

/-- Restores a project. -/
def runRestoration (s : Setting) (settings : Output.Settings) (o : RestorationOptions) (t : Tree) :
    Outcome :=
  match Restoration.restore s.workingDirectory (fun _ => confirms s.line) o t with
  | .error f t => ⟨1, "", complaint f, [], t⟩
  | .ok outcome t => ⟨0, Output.showOutcome settings outcome, "", [], t⟩

/-- What is asked before a run does anything, if it needs an answer. -/
def question? (workingDirectory : Path) (arguments : List String) (t : Tree) : Option String :=
  match Invocation.parse arguments with
  | .ok ⟨_, _, some (.restore o)⟩ =>
    match Restoration.choose workingDirectory o t with
    | .ok (_, backup) _ =>
      if o.assumeYes then none
      else some ("really restore backup from " ++ backup.text ++ "? [y/N] ")
    | .error _ _ => none
  | _ => none

/-- Runs the program. Without a command it prints help, and fails. -/
def run (s : Setting) (arguments : List String) (t : Tree) : Outcome :=
  match Invocation.parse arguments with
  | .error (.help topic) => ⟨0, topic.text, "", [], t⟩
  | .error .version => ⟨0, versionLine, "", [], t⟩
  | .error (.misuse cause) => ⟨2, "", "error: " ++ cause.message ++ "\n", [], t⟩
  | .ok invocation =>
    let settings := invocation.settings s.terminal
    match invocation.command with
    | none => ⟨1, Topic.program.text, "", [], t⟩
    | some (.migrate o _) => runMigration s settings o t
    | some (.restore o) => runRestoration s settings o t

end ManifestMigration.CommandLine
