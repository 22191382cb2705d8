import ManifestMigration.CommandLine.Invocation
import ManifestMigration.Text.Digit
import ManifestMigration.Text.Search

/-! Reading the command line.

    Arguments are read from left to right, and the first fault is reported. The value of an option
    and the path are checked only when the next argument is understood, so an argument that is
    unknown is reported before a value in front of it that is invalid. -/

namespace ManifestMigration.CommandLine

/-! ### Options -/

/-- An option of the program or of a command. -/
inductive Flag where
  | verbose | quiet | help | version | ignoreSource | virtualProject | json | number | yes
  deriving DecidableEq, Repr

namespace Flag

/-- The long name. -/
def long : Flag → String
  | verbose => "verbose"
  | quiet => "quiet"
  | help => "help"
  | version => "version"
  | ignoreSource => "ignore-src"
  | virtualProject => "virtual"
  | json => "json"
  | number => "backup-number"
  | yes => "yes"

/-- The short name, when there is one. -/
def short? : Flag → Option Char
  | quiet => some 'q'
  | help => some 'h'
  | version => some 'V'
  | number => some 'n'
  | yes => some 'y'
  | _ => none

end Flag

/-- The options that can be given for a topic. -/
def Topic.flags : Topic → List Flag
  | program => [.verbose, .quiet, .help, .version]
  | migrate => [.verbose, .quiet, .help, .ignoreSource, .virtualProject, .json]
  | restore => [.verbose, .quiet, .help, .number, .yes]
  | help => []

/-- The topic of a command's name. -/
def Topic.ofName? (name : String) : Option Topic :=
  if name == "migrate" || name == "mig" then some .migrate
  else if name == "restore-backup" || name == "get-backup" then some .restore
  else if name == "help" then some .help
  else none

/-! ### What was read so far -/

/-- A value that has still to be checked. The number of an option is first awaited. -/
inductive Pending where
  | path (text : String)
  | awaitedNumber
  | number (text : String)
  deriving DecidableEq, Repr

/-- The arguments of a command that were read. -/
structure Draft where
  given : List Flag
  path : Option String
  number : Option Nat
  pending : Option Pending
  deriving DecidableEq, Repr

namespace Draft

/-- Nothing was read. -/
def start : Draft := ⟨[], none, none, none⟩

/-- Reads a whole number that fits a word. It may have a plus sign. -/
def readNumber (text : String) : Except Stop Nat :=
  let digits := match text.toList with
    | '+' :: digits => digits
    | digits => digits
  match Text.word? digits with
  | some n => .ok n
  | none => .error (.misuse .invalidNumber)

/-- Takes a number, which can be given once. -/
def takeNumber (d : Draft) (text : String) : Except Stop Draft := do
  if d.number.isSome then throw (.misuse .repeatedArgument)
  return { d with number := some (← readNumber text) }

/-- Checks the value that has still to be checked. -/
def settle (d : Draft) : Except Stop Draft :=
  let checked := { d with pending := none }
  match d.pending with
  | none => .ok checked
  | some (.path text) =>
    if text.isEmpty then .error (.misuse .emptyValue)
    else .ok { checked with path := some text }
  | some .awaitedNumber => .error (.misuse .emptyValue)
  | some (.number text) => checked.takeNumber text

/-- Takes an option without a value, which can be given once. -/
def takeFlag (topic : Topic) (flag : Flag) (d : Draft) : Except Stop Draft := do
  let d ← d.settle
  match flag with
  | .help => throw (.help topic)
  | .version => throw .version
  | flag =>
    if d.given.contains flag then throw (.misuse .repeatedArgument)
    return { d with given := flag :: d.given }

/-- Takes a path. There is only one. -/
def takePath (d : Draft) (text : String) : Except Stop Draft := do
  let taken := match d.pending with
    | some (.path _) => true
    | _ => d.path.isSome
  if taken then throw (.misuse .unknownArgument)
  return { ← d.settle with pending := some (.path text) }

/-- Reads an argument that starts with two hyphens; the text is what follows them. -/
def readLong (topic : Topic) (d : Draft) (text : List Char) : Except Stop Draft := do
  let (name, value) := match Text.splitOnce? ['='] text with
    | some (name, value) => (name, some value)
    | none => (text, none)
  match topic.flags.find? fun f => f.long.toList == name, value with
  | none, _ => throw (.misuse .unknownArgument)
  | some .number, some value => (← d.settle).takeNumber (String.ofList value)
  | some .number, none => return { ← d.settle with pending := some .awaitedNumber }
  | some _, some _ => throw (.misuse .unexpectedValue)
  | some flag, none => d.takeFlag topic flag

/-- Reads short options that stand together; a number takes the rest of them as its value. -/
def readShort (topic : Topic) (d : Draft) : List Char → Except Stop Draft
  | [] => .ok d
  | c :: rest =>
    match topic.flags.find? fun f => f.short? == some c with
    | none => .error (.misuse .unknownArgument)
    | some .number =>
      match d.settle, rest with
      | .error e, _ => .error e
      | .ok d, [] => .ok { d with pending := some .awaitedNumber }
      | .ok d, '=' :: value => d.takeNumber (String.ofList value)
      | .ok d, value => d.takeNumber (String.ofList value)
    | some flag =>
      match d.takeFlag topic flag with
      | .error e => .error e
      | .ok d => readShort topic d rest

/-- Reads the arguments of a command. After two hyphens alone there are no options any more. -/
def readAll (topic : Topic) (d : Draft) (plain : Bool) : List String → Except Stop Draft
  | [] => d.settle
  | argument :: rest => do
    if plain then readAll topic (← d.takePath argument) plain rest
    else match argument.toList with
      | ['-', '-'] => readAll topic d true rest
      | '-' :: '-' :: text => readAll topic (← d.readLong topic text) plain rest
      | '-' :: c :: text => readAll topic (← d.readShort topic (c :: text)) plain rest
      | _ =>
        if d.pending == some .awaitedNumber then
          readAll topic { d with pending := some (.number argument) } plain rest
        else readAll topic (← d.takePath argument) plain rest

end Draft

/-! ### Commands -/

/-- Reads a command's arguments. -/
def readCommand (topic : Topic) (arguments : List String) : Except Stop (Draft × Command) := do
  let d ← Draft.start.readAll topic false arguments
  match d.path with
  | none => throw (.misuse .missingArgument)
  | some path =>
    if topic == .restore then
      return (d, .restore ⟨⟨path⟩, d.number, d.given.contains .yes⟩)
    else
      let options : MigrationOptions :=
        ⟨⟨path⟩, d.given.contains .ignoreSource, d.given.contains .virtualProject⟩
      return (d, .migrate options (d.given.contains .json))

/-- What help is asked for by the names after `help`. -/
def readTopic : List String → Stop
  | [] => .help .program
  | [name] =>
    match Topic.ofName? name with
    | some topic => .help topic
    | none => .misuse .unknownCommand
  | _ => .misuse .unknownCommand

/-- Reads the arguments before a command, and then the command. -/
def readProgram (d : Draft) (plain : Bool) : List String → Except Stop Invocation
  | [] => .ok ⟨d.given.contains .verbose, d.given.contains .quiet, none⟩
  | argument :: rest => do
    match Topic.ofName? argument with
    | some topic =>
      if plain then throw (.misuse .unknownArgument)
      if topic == .help then throw (readTopic rest)
      let (inner, command) ← readCommand topic rest
      let given := d.given ++ inner.given
      return ⟨given.contains .verbose, given.contains .quiet, some command⟩
    | none =>
      if plain then throw (.misuse .unknownCommand)
      match argument.toList with
      | ['-', '-'] => readProgram d true rest
      | '-' :: '-' :: text => readProgram (← d.readLong .program text) plain rest
      | '-' :: c :: text => readProgram (← d.readShort .program (c :: text)) plain rest
      | _ => throw (.misuse .unknownCommand)

/-- Reads the command line, without the name of the program. -/
def Invocation.parse (arguments : List String) : Except Stop Invocation :=
  readProgram .start false arguments

end ManifestMigration.CommandLine
