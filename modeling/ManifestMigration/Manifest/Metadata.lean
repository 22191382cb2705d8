import ManifestMigration.Dependency.Declaration
import ManifestMigration.Toml.Reader

/-! The manifest of a Poetry project: the metadata and the dependency tables under `tool.poetry`.

    A manifest with a `project` section has been migrated before, and is refused. -/

namespace ManifestMigration

/-- The metadata that is carried over. -/
structure Metadata where
  name : String
  version : String
  description : String
  authors : List String
  maintainers : List String
  homepage : Option String
  repository : Option String
  documentation : Option String
  deriving DecidableEq, Repr

/-- A manifest, as it is written and as what it says under `tool.poetry`. -/
structure Manifest where
  text : String
  poetry : List (String × Toml.Data)
  metadata : Metadata

/-- Why a text is no manifest that can be migrated. -/
inductive Manifest.Error where
  | invalidToml
  | alreadyMigrated
  | noPoetrySection
  | missingField (field : String)
  deriving DecidableEq, Repr

namespace Manifest

/-- A text that may be left out. A moment is taken as its text. -/
def optionalText (key : String) (table : List (String × Toml.Data)) :
    Except Error (Option String) :=
  match table.lookup key with
  | none => .ok none
  | some value =>
    match value.text? with
    | some text => .ok (some text)
    | none => .error .invalidToml

/-- A list of texts; left out, it is empty. -/
def textList (key : String) (table : List (String × Toml.Data)) : Except Error (List String) :=
  match table.lookup key with
  | none => .ok []
  | some value =>
    match value.array? >>= fun items => items.mapM Toml.Data.text? with
    | some texts => .ok texts
    | none => .error .invalidToml

/-- A text that must not be left out. -/
def required (field : String) (value : Option String) : Except Error String :=
  match value with
  | some text => .ok text
  | none => .error (.missingField field)

/-- Reads the metadata. A value of the wrong kind is noticed before a missing one. -/
def readMetadata (table : List (String × Toml.Data)) : Except Error Metadata := do
  let name ← optionalText "name" table
  let version ← optionalText "version" table
  let description ← optionalText "description" table
  let authors ← textList "authors" table
  let maintainers ← textList "maintainers" table
  let homepage ← optionalText "homepage" table
  let repository ← optionalText "repository" table
  let documentation ← optionalText "documentation" table
  return {
    name := ← required "name" name
    version := ← required "version" version
    description := ← required "description" description
    authors, maintainers, homepage, repository, documentation }

/-- Reads a manifest in the document of a text. -/
def ofDocument (text : String) (document : Toml.Document) : Except Error Manifest :=
  match document.data? with
  | none => .error .invalidToml
  | some data =>
    if (data.get? "project").isSome then .error .alreadyMigrated
    else match data.get? "tool" >>= Toml.Data.get? "poetry" with
      | some (.table poetry) => do
        return ⟨text, poetry, ← readMetadata poetry⟩
      | _ => .error .noPoetrySection

/-- Reads a manifest. -/
def parse (text : String) : Except Error Manifest :=
  match Toml.Document.parse? text with
  | none => .error .invalidToml
  | some document => ofDocument text document

/-- The table of a group's declarations; empty when there is none. The older key of the development
    group wins over the newer one. -/
def declarations (m : Manifest) (group : Group) : List (String × Toml.Data) :=
  let table? := match group with
    | .main => m.poetry.lookup "dependencies"
    | .dev =>
      match m.poetry.lookup "dev-dependencies" with
      | some table => some table
      | none =>
        m.poetry.lookup "group" >>= Toml.Data.get? "dev" >>= Toml.Data.get? "dependencies"
  (table? >>= Toml.Data.table?).getD []

/-- The dependencies of both groups, the main group first. -/
def dependencies (m : Manifest) : Except Dependency.Error (List Dependency) := do
  let main ← Dependency.ofDeclarations .main (m.declarations .main)
  let dev ← Dependency.ofDeclarations .dev (m.declarations .dev)
  return main ++ dev

end Manifest

end ManifestMigration
