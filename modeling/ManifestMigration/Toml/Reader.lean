import ManifestMigration.Toml.Statement

/-! Putting the statements of a document together into its tables.

    A table may be mentioned by the headers of others before its own, but it is defined once: a
    second header, or a dotted key into a table that has a header, is an error. A header moves a
    table that was only mentioned behind its neighbours. -/

namespace ManifestMigration.Toml

/-- Changes the table at a path, and makes the tables on the way that are missing. In an array of
    tables the last one is meant. A dotted path must not lead through a table with a header. -/
def TableOf.update (dotted : Bool) (f : Table → Option Table) : List Key → Table → Option Table
  | [], t => f t
  | k :: path, t =>
    match t.get? k.name with
    | none => (update dotted f path (.mentioned dotted)).map fun inside => t.push k (.table inside)
    | some (.value _) => none
    | some (.table inside) =>
      if dotted && !inside.implicit then none
      else (update dotted f path inside).map fun inside => t.replace k.name (.table inside)
    | some (.tables elements) =>
      match elements.getLast? with
      | none => none
      | some last =>
        (update dotted f path last).map fun last =>
          t.replace k.name (.tables (elements.dropLast ++ [last]))

/-- Defines a table by its header. -/
def TableOf.define (key : Key) (margin : Margin) (parent : Table) : Option Table :=
  match parent.get? key.name with
  | none => some (parent.push key (.table { TableOf.empty with margin }))
  | some (.table t) =>
    if t.implicit && !t.dotted then
      some ((parent.erase key.name).push key (.table { t with implicit := false, margin }))
    else none
  | some _ => none

/-- Adds an element to an array of tables by its header. -/
def TableOf.append (key : Key) (margin : Margin) (parent : Table) : Option Table :=
  let element : Table := { TableOf.empty with margin }
  match parent.get? key.name with
  | none => some (parent.push key (.tables [element]))
  | some (.tables elements) => some (parent.replace key.name (.tables (elements ++ [element])))
  | some _ => none

/-- Gives a new key a value. Only a table that a dotted key made can be meant by a dotted key. -/
def TableOf.assign (key : Key) (value : Value) (dotted : Bool) (t : Table) : Option Table :=
  if t.dotted != dotted || (t.get? key.name).isSome then none else some (t.push key (.value value))

/-- A document in the making: its root table, and the path of the table that assignments are for. -/
structure Draft where
  root : Table
  current : List Key

/-- Adds a statement to a document. -/
def Draft.add (d : Draft) : Statement → Option Draft
  | .header path element margin => do
    let open? := if element then TableOf.append path.leaf margin
      else TableOf.define path.leaf margin
    let root ← d.root.update false open? path.parents
    return ⟨root, path.parents ++ [path.leaf]⟩
  | .assign path value => do
    let assign := TableOf.assign path.leaf value (!path.parents.isEmpty)
    let root ← d.root.update false (TableOf.update true assign path.parents) d.current
    return { d with root }

/-- The document of some statements. -/
def Document.ofStatements? (statements : List Statement) (trailing : String) : Option Document :=
  (statements.foldlM Draft.add ⟨.empty, []⟩).map fun d => ⟨d.root, trailing⟩

/-- The text without a byte order mark at its start. -/
def dropMark : List Char → List Char
  | c :: s => if c.toNat == 0xFEFF then s else c :: s
  | [] => []

/-- Reads the characters of a document. -/
def Document.ofChars? (s : List Char) : Option Document := do
  let (statements, trailing) ← readStatements (dropMark s)
  Document.ofStatements? statements trailing

/-- Reads a document. A manifest is read twice, for what it says and for how it is written: this is the
    reader for both, as if whatever one of them accepts, the other did too. -/
def Document.parse? (s : String) : Option Document := Document.ofChars? s.toList

end ManifestMigration.Toml
