import ManifestMigration.Toml.Moment

/-! TOML data: what a document says, apart from how it is written.

    Tables keep the order in which their keys were declared. -/

namespace ManifestMigration.Toml

/-- A value without parts. A float is kept as it is written. -/
inductive Scalar where
  | string (s : String)
  | integer (n : Int)
  | float (text : String)
  | boolean (b : Bool)
  | moment (m : Moment)
  deriving DecidableEq, Repr

/-- A value of a document. -/
inductive Data where
  | scalar (s : Scalar)
  | array (items : List Data)
  | table (entries : List (String × Data))
  deriving Repr

namespace Data

/-- The text, when the value is a string. -/
def string? : Data → Option String
  | .scalar (.string s) => some s
  | _ => none

/-- The text, when the value is a string or a moment. -/
def text? : Data → Option String
  | .scalar (.string s) => some s
  | .scalar (.moment m) => some m.text
  | _ => none

/-- The elements, when the value is an array. -/
def array? : Data → Option (List Data)
  | .array items => some items
  | _ => none

/-- The entries, when the value is a table. -/
def table? : Data → Option (List (String × Data))
  | .table entries => some entries
  | _ => none

/-- The value of a key, when the value is a table that has it. -/
def get? (key : String) : Data → Option Data
  | .table entries => entries.lookup key
  | _ => none

end Data

/-! ### Marked tables

    A table can stand for a moment: its first key says so, and the value of that key is the text of
    the moment. Whatever else is in the table does not count. -/

/-- The key that marks a table as a moment. -/
def Moment.mark : String := "$__toml_private_datetime"

/-- The moment that the value under the mark stands for. -/
def Data.marked? (value : Data) : Option Data :=
  (value.string? >>= fun s => Moment.parse? s.toList).map fun m => .scalar (.moment m)

mutual

/-- The value with the moments that marked tables stand for in their places, if each stands for
    one. -/
def Data.unmark? : Data → Option Data
  | .scalar s => some (.scalar s)
  | .array items => (unmarkItems? items).map .array
  | .table entries => unmarkTable? entries
termination_by structural d => d

/-- The elements of an array, unmarked. -/
def unmarkItems? : List Data → Option (List Data)
  | [] => some []
  | d :: rest => do return (← d.unmark?) :: (← unmarkItems? rest)
termination_by structural ds => ds

/-- A table, unmarked. -/
def unmarkTable? : List (String × Data) → Option Data
  | [] => some (.table [])
  | (key, value) :: rest =>
    if key == Moment.mark then value.marked?
    else do return .table ((key, ← value.unmark?) :: (← unmarkEntries? rest))
termination_by structural es => es

/-- The entries of a table, unmarked. -/
def unmarkEntries? : List (String × Data) → Option (List (String × Data))
  | [] => some []
  | (key, value) :: rest => do return (key, ← value.unmark?) :: (← unmarkEntries? rest)
termination_by structural es => es

end

end ManifestMigration.Toml
