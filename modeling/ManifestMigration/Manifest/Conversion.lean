import ManifestMigration.Dependency.Requirements
import ManifestMigration.Manifest.Metadata
import ManifestMigration.Person
import ManifestMigration.Toml.Printer

/-! Converting a manifest: a `project` section out of the metadata and the requirements, and every
    other section copied with its comments and spelling.

    `tool.poetry` is left out, the build backend is switched, and `tool.rye` and
    `tool.hatch.metadata` are added. -/

namespace ManifestMigration

namespace Conversion

open Toml

/-! ### The project section -/

/-- A person as an inline table. -/
def personValue (p : Person) : Value :=
  .inline [(.plain "name", .string p.name), (.plain "email", .string p.email)] false "" .plain

/-- The entries as people; the error is the first entry that is not one. -/
def peopleValue (entries : List String) : Except String Value := do
  let people ← entries.mapM fun entry =>
    match Person.parse? entry with
    | some p => .ok (personValue p)
    | none => .error entry
  return .list people

/-- The people under a key, if there are any. -/
def addPeople (key : String) (entries : List String) (t : Table) : Except String Table :=
  if entries.isEmpty then .ok t
  else return t.set key (.value (← peopleValue entries))

/-- Requirements as an array with one on each line. -/
def requirementsValue (requirements : List String) : Value :=
  if requirements.isEmpty then .list []
  else
    let lines := requirements.map fun r => (Value.string r).withMargin ⟨some "\n    ", none⟩
    .array lines true "\n" .plain

/-- A text under a key, if it is given. -/
def addText (key : String) (text? : Option String) (t : Table) : Table :=
  match text? with
  | some text => t.set key (.value (.string text))
  | none => t

/-- The metadata that is copied as it is written, when it is a value. -/
def copiedKeys : List String := ["readme", "keywords", "classifiers"]

/-- The value of a key as it is written, in a table or an inline table. -/
def valueOf? (key : String) : Item → Option Value
  | .table t =>
    match t.get? key with
    | some (.value v) => some v
    | _ => none
  | .value (.inline entries _ _ _) => (entries.find? fun e => e.1.name == key).map (·.2)
  | _ => none

/-- The item of a key in a table or an inline table. -/
def itemOf? (key : String) : Item → Option Item
  | .table t => t.get? key
  | .value (.inline entries _ _ _) =>
    (entries.find? fun e => e.1.name == key).map fun e => .value e.2
  | _ => none

/-- A copy of a value that is under the key in the old section. -/
def addCopy (poetry : Item) (t : Table) (key : String) : Table :=
  match valueOf? key poetry with
  | some v => t.set key (.value v.bare)
  | none => t

/-- The addresses of the project. -/
def urlTable (m : Metadata) : Table :=
  addText "Documentation" m.documentation <| addText "Repository" m.repository <|
    addText "Homepage" m.homepage .empty

/-- The project section. -/
def projectTable (poetry : Item) (m : Metadata) (r : Requirements) : Except String Table := do
  let t := addText "description" (some m.description) <| addText "version" (some m.version) <|
    addText "name" (some m.name) .empty
  let t ← addPeople "authors" m.authors t
  let t ← addPeople "maintainers" m.maintainers t
  let t := copiedKeys.foldl (addCopy poetry) t
  let t := t.set "dependencies" (.value (requirementsValue r.main))
  let t := addText "requires-python" r.interpreter t
  let urls := urlTable m
  return if urls.entries.isEmpty then t else t.set "urls" (.table urls)

/-! ### The other sections -/

/-- The settings of the new tool. -/
def ryeTable (virtualProject : Bool) (r : Requirements) : Table :=
  let t : Table := TableOf.empty.set "managed" (.value (.boolean true))
  let t := if virtualProject then t.set "virtual" (.value (.boolean true)) else t
  if r.dev.isEmpty then t else t.set "dev-dependencies" (.value (requirementsValue r.dev))

/-- The settings of the new build backend, which have to allow references to repositories. -/
def hatchTable : Table :=
  let settings : Table :=
    TableOf.empty.set "allow-direct-references" (.value (.boolean true))
  (TableOf.mentioned false).set "metadata" (.table settings)

/-- The tool section: the old one without the old tool, and the new settings. -/
def toolTable (old : Table) (virtualProject : Bool) (r : Requirements) : Table :=
  let kept := old.erase "poetry"
  let t := kept.set "rye" (.table (ryeTable virtualProject r))
  if virtualProject then t else t.set "hatch" (.table hatchTable)

/-- The requirement is one of the old build backend. -/
def isOldBackend (v : Value) : Bool :=
  match v.string? with
  | some s => Text.occursIn "poetry".toList s.toList
  | none => false

/-- The build requirements without the old backend, and the new one after them. -/
def buildRequirements (old : Option Item) : Value :=
  let kept := match old with
    | some (.value (.array items _ _ _)) =>
      (items.filter fun v => !isOldBackend v).map Value.bare
    | _ => []
  .list (kept ++ [.string "hatchling"])

/-- The build section with the new backend. -/
def buildTable (old : Table) : Table :=
  (old.set "requires" (.value (buildRequirements (old.get? "requires")))).set "build-backend"
    (.value (.string "hatchling.build"))

/-- A table that used to open the file gets an empty line before it. -/
def separated : Item → Item
  | .table t =>
    if t.implicit || (t.margin.before.getD "") != "" then .table t
    else .table { t with margin := { t.margin with before := some "\n" } }
  | i => i

/-- What becomes of a section, when it stays. -/
def section? (virtualProject : Bool) (r : Requirements) (key : String) (i : Item) : Option Item :=
  match key, i with
  | "project", _ => none
  | "tool", .table old => some (separated (.table (toolTable old virtualProject r)))
  | "build-system", i =>
    if virtualProject then none
    else match i with
      | .table old => some (separated (.table (buildTable old)))
      | i => some (separated i)
  | _, i => some (separated i)

/-- The section is a tool section that the new settings went into. -/
def isToolTable (e : Key × Item) : Bool :=
  match e.2 with
  | .table _ => e.1.name == "tool"
  | _ => false

/-- The new document. -/
def document (source : Document) (project : Table) (virtualProject : Bool) (r : Requirements) :
    Document :=
  let start : Table := TableOf.empty.set "project" (.table project)
  let copied := source.root.entries.foldl (fun t (e : Key × Item) =>
    match section? virtualProject r e.1.name e.2 with
    | some i => t.set e.1.name i
    | none => t) start
  let root :=
    if source.root.entries.any isToolTable then copied
    else copied.set "tool" (.table (toolTable (TableOf.mentioned false) virtualProject r))
  ⟨root, source.trailing⟩

/-- The old section of a document. -/
def poetryItem? (source : Document) : Option Item := source.root.get? "tool" >>= itemOf? "poetry"

/-- The item is a table or an inline table. -/
def isTableLike : Item → Bool
  | .table _ | .value (.inline _ _ _ _) => true
  | _ => false

/-- Why there is no conversion. -/
inductive Error where
  | manifest (cause : Manifest.Error)
  /-- An entry of the authors or maintainers is not a person. -/
  | malformedPerson (entry : String)
  deriving DecidableEq, Repr

end Conversion

/-- The text of the new manifest. The old text is read again, this time with its comments and
    spelling. -/
def Manifest.convert (m : Manifest) (virtualProject : Bool) (r : Requirements) :
    Except Conversion.Error String :=
  match Toml.Document.parse? m.text with
  | none => .error (.manifest .invalidToml)
  | some source =>
    match (Conversion.poetryItem? source).filter Conversion.isTableLike with
    | none => .error (.manifest .noPoetrySection)
    | some poetry =>
      match Conversion.projectTable poetry m.metadata r with
      | .error entry => .error (.malformedPerson entry)
      | .ok project => .ok (Conversion.document source project virtualProject r).print

end ManifestMigration
