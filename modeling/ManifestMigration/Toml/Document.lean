import ManifestMigration.Toml.Data

/-! TOML documents as they are written: besides their data they keep comments, blanks and the
    spelling of keys and values, so that what is copied from one document to another is printed
    the way it was read.

    Whatever is left open (`none`) gets a default when it is printed. -/

namespace ManifestMigration.Toml

/-- The text around an item, out of blanks and comments. -/
structure Margin where
  before : Option String
  after : Option String
  deriving DecidableEq, Repr

/-- The default text around an item. -/
def Margin.plain : Margin := ⟨none, none⟩

/-- A key, with the text around it as a part of a dotted key and the text around the whole dotted
    key when it is the last part. -/
structure Key where
  name : String
  spelling : Option String
  around : Margin
  outer : Margin
  deriving DecidableEq, Repr

/-- A key in default spelling. -/
def Key.plain (name : String) : Key := ⟨name, none, .plain, .plain⟩

/-- A value. `tail` stands before the closing bracket of an array, `head` after the opening brace
    of an inline table. A dotted inline table has no braces: it comes from a dotted key. -/
inductive Value where
  | scalar (s : Scalar) (spelling : Option String) (margin : Margin)
  | array (items : List Value) (comma : Bool) (tail : String) (margin : Margin)
  | inline (entries : List (Key × Value)) (dotted : Bool) (head : String) (margin : Margin)
  deriving Repr

/-- A table with items of type `ι`. An implicit table has no header of its own, since it is only
    mentioned by others; a dotted one comes from a dotted key. -/
structure TableOf (ι : Type) where
  entries : List (Key × ι)
  implicit : Bool
  dotted : Bool
  margin : Margin
  deriving Repr

/-- What a key stands for: a value, a table with a header, or an array of such tables. -/
inductive Item where
  | value (v : Value)
  | table (t : TableOf Item)
  | tables (ts : List (TableOf Item))

/-- A table of a document. -/
abbrev Table := TableOf Item

/-- A document: its root table, and the text after the last item. -/
structure Document where
  root : Table
  trailing : String

/-! ### Tables -/

namespace TableOf

variable {ι : Type}

/-- A table with a header and nothing in it. -/
def empty : TableOf ι := ⟨[], false, false, .plain⟩

/-- A table that is only mentioned, by a header or by a dotted key. -/
def mentioned (dotted : Bool) : TableOf ι := ⟨[], true, dotted, .plain⟩

/-- The item of a key. -/
def get? (t : TableOf ι) (name : String) : Option ι :=
  (t.entries.find? fun e => e.1.name == name).map (·.2)

/-- Adds an entry at the end. -/
def push (t : TableOf ι) (key : Key) (item : ι) : TableOf ι :=
  { t with entries := t.entries ++ [(key, item)] }

/-- Replaces the item of a key, and leaves the key as it is written. -/
def replace (t : TableOf ι) (name : String) (item : ι) : TableOf ι :=
  { t with entries := t.entries.map fun e => if e.1.name == name then (e.1, item) else e }

/-- Removes the entry of a key. -/
def erase (t : TableOf ι) (name : String) : TableOf ι :=
  { t with entries := t.entries.filter fun e => e.1.name != name }

/-- Sets the item of a key that is then in default spelling: in the place that it has, or at the
    end. -/
def set (t : TableOf ι) (name : String) (item : ι) : TableOf ι :=
  match t.get? name with
  | some _ =>
    { t with
      entries := t.entries.map fun e => if e.1.name == name then (.plain name, item) else e }
  | none => t.push (.plain name) item

end TableOf

/-! ### Values -/

namespace Value

/-- The text around the value. -/
def margin : Value → Margin
  | .scalar _ _ m => m
  | .array _ _ _ m => m
  | .inline _ _ _ m => m

/-- The value with other text around it. -/
def withMargin (m : Margin) : Value → Value
  | .scalar s spelling _ => .scalar s spelling m
  | .array items comma tail _ => .array items comma tail m
  | .inline entries dotted head _ => .inline entries dotted head m

/-- The value with default text around it. -/
def bare (v : Value) : Value := v.withMargin .plain

/-- A string in default spelling. -/
def string (s : String) : Value := .scalar (.string s) none .plain

/-- A truth value in default spelling. -/
def boolean (b : Bool) : Value := .scalar (.boolean b) none .plain

/-- An array on one line. -/
def list (items : List Value) : Value := .array items false "" .plain

/-- The text of a value that is a string. -/
def string? : Value → Option String
  | .scalar (.string s) _ _ => some s
  | _ => none

end Value

/-! ### The data of a document -/

mutual

/-- What a value says. -/
def Value.data : Value → Data
  | .scalar s _ _ => .scalar s
  | .array items _ _ _ => .array (valuesData items)
  | .inline entries _ _ _ => .table (inlineData entries)
termination_by structural v => v

/-- What the elements of an array say. -/
def valuesData : List Value → List Data
  | [] => []
  | v :: rest => v.data :: valuesData rest
termination_by structural vs => vs

/-- What the entries of an inline table say. -/
def inlineData : List (Key × Value) → List (String × Data)
  | [] => []
  | (k, v) :: rest => (k.name, v.data) :: inlineData rest
termination_by structural es => es

end

mutual

/-- What an item says. -/
def Item.data : Item → Data
  | .value v => v.data
  | .table ⟨entries, _, _, _⟩ => .table (itemsData entries)
  | .tables ts => .array (tablesData ts)
termination_by structural i => i

/-- What the entries of a table say. -/
def itemsData : List (Key × Item) → List (String × Data)
  | [] => []
  | (k, i) :: rest => (k.name, i.data) :: itemsData rest
termination_by structural es => es

/-- What the tables of an array say. -/
def tablesData : List (TableOf Item) → List Data
  | [] => []
  | ⟨entries, _, _, _⟩ :: rest => .table (itemsData entries) :: tablesData rest
termination_by structural ts => ts

end

/-- What a document says, if its marked tables stand for moments. The root table has no mark. -/
def Document.data? (d : Document) : Option Data :=
  (unmarkEntries? (itemsData d.root.entries)).map .table

end ManifestMigration.Toml
