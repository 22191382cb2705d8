import ManifestMigration.Toml.Spelling

/-! Printing a document: the values of the root table, then the tables with their headers in the
    order of the tree, each before the tables inside it.

    Text around items is printed without carriage returns; every line ends with a line feed. -/

namespace ManifestMigration.Toml

/-- Text around an item, or the default in its place. -/
def around (text : Option String) (default : String) : String :=
  match text with
  | some t => String.ofList (t.toList.filter (· != '\r'))
  | none => default

/-- A dotted key before a value or in a header. The text around the whole is that of the last
    part, with defaults. -/
def printKeys (path : List Key) (before after : String) : String :=
  let outer := (path.getLast?.map Key.outer).getD .plain
  let inner := path.mapIdx fun i k =>
    (if i = 0 then "" else "." ++ around k.around.before "") ++ k.spell ++
      (if i + 1 = path.length then "" else around k.around.after "")
  around outer.before before ++ String.join inner ++ around outer.after after

mutual

/-- A value with the text around it, or with defaults. -/
def Value.print (before after : String) : Value → String
  | .scalar s spelling m =>
    around m.before before ++ spelling.getD s.spell ++ around m.after after
  | .array items comma tail m =>
    let close := (if comma && !items.isEmpty then "," else "") ++ around (some tail) "" ++ "]"
    around m.before before ++ "[" ++ printItems true items ++ close ++ around m.after after
  | .inline entries _ head m =>
    around m.before before ++ "\x7b" ++ around (some head) "" ++
      ",".intercalate (printFields [] true entries) ++ "\x7d" ++ around m.after after
termination_by structural v => v

/-- The elements of an array. -/
def printItems (first : Bool) : List Value → String
  | [] => ""
  | v :: rest =>
    (if first then v.print "" "" else "," ++ v.print " " "") ++ printItems false rest
termination_by structural vs => vs

/-- The entries of an inline table below a dotted key; `last` says that nothing follows them. -/
def printFields (parents : List Key) (last : Bool) : List (Key × Value) → List String
  | [] => []
  | (k, v) :: rest =>
    let path := parents ++ [k]
    let ends := last && rest.isEmpty
    (match v with
      | .inline entries true _ _ => printFields path ends entries
      | v =>
        [printKeys path " " " " ++ "=" ++ v.print " " (if ends then " " else "")]) ++
      printFields parents last rest
termination_by structural es => es

end

/-- The line of a value. -/
def printLine (path : List Key) (v : Value) : String :=
  printKeys path "" " " ++ "=" ++ v.print " " "" ++ "\n"

mutual

/-- The lines of a value in a table: one, unless it is an inline table of a dotted key. -/
def Value.lines (path : List Key) : Value → List String
  | .inline entries true _ _ => fieldLines path entries
  | v => [printLine path v]
termination_by structural v => v

/-- The lines of the entries of an inline table of a dotted key. -/
def fieldLines (parents : List Key) : List (Key × Value) → List String
  | [] => []
  | (k, v) :: rest => v.lines (parents ++ [k]) ++ fieldLines parents rest
termination_by structural es => es

end

mutual

/-- The lines that an item adds to the table it is in: those of a value, or of the table of a dotted
    key. Tables with headers add none. -/
def Item.lines (path : List Key) : Item → List String
  | .value v => v.lines path
  | .table ⟨entries, _, dotted, _⟩ => if dotted then entryLines path entries else []
  | .tables _ => []
termination_by structural i => i

/-- The lines of the entries of a table. -/
def entryLines (parents : List Key) : List (Key × Item) → List String
  | [] => []
  | (k, i) :: rest => i.lines (parents ++ [k]) ++ entryLines parents rest
termination_by structural es => es

end

/-- A table that is printed with a header or as the root. -/
structure Section where
  path : List Key
  element : Bool
  implicit : Bool
  margin : Margin
  lines : List String

mutual

/-- The sections of an item: a table comes before the tables in it. -/
def Item.sections (path : List Key) : Item → List Section
  | .value _ => []
  | .table ⟨entries, implicit, dotted, margin⟩ =>
    (if dotted then [] else [⟨path, false, implicit, margin, entryLines [] entries⟩]) ++
      entrySections path entries
  | .tables ts => elementSections path ts
termination_by structural i => i

/-- The sections of the entries of a table. -/
def entrySections (parents : List Key) : List (Key × Item) → List Section
  | [] => []
  | (k, i) :: rest => i.sections (parents ++ [k]) ++ entrySections parents rest
termination_by structural es => es

/-- The sections of the tables of an array. -/
def elementSections (path : List Key) : List (TableOf Item) → List Section
  | [] => []
  | ⟨entries, implicit, _, margin⟩ :: rest =>
    ⟨path, true, implicit, margin, entryLines [] entries⟩ :: entrySections path entries ++
      elementSections path rest
termination_by structural ts => ts

end

/-- A section has a header unless its table is only mentioned and has no values of its own. -/
def Section.hasHeader (s : Section) : Bool := s.element || !(s.implicit && s.lines.isEmpty)

/-- The header line of a section; by default it stands after an empty line, except at the top. -/
def Section.header (s : Section) (top : Bool) : String :=
  let name := printKeys s.path "" ""
  around s.margin.before (if top then "" else "\n") ++
    (if s.element then "[[" ++ name ++ "]]" else "[" ++ name ++ "]") ++
    around s.margin.after "" ++ "\n"

/-- The sections one after the other; `top` says that nothing was printed before them. -/
def printSections (top : Bool) : List Section → String
  | [] => ""
  | s :: rest =>
    if s.hasHeader then s.header top ++ String.join s.lines ++ printSections false rest
    else printSections top rest

/-- The text of a document. -/
def Document.print (d : Document) : String :=
  let lines := entryLines [] d.root.entries
  String.join lines ++ printSections lines.isEmpty (entrySections [] d.root.entries) ++
    around (some d.trailing) ""

end ManifestMigration.Toml
