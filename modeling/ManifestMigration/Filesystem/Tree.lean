/-! Trees of files: what is in a file system, as a list of locations and what is there.

    A directory is listed in the order in which its entries came. -/

namespace ManifestMigration

/-- Contents of files are equal when their bytes are, one after another. -/
instance decEqContent : DecidableEq ByteArray := fun a b =>
  match decEq a.data.toList b.data.toList with
  | isTrue h => isTrue (ByteArray.ext (Array.toList_inj.mp h))
  | isFalse h => isFalse fun heq => h (congrArg (fun bytes => bytes.data.toList) heq)

/-- What is at a location. A link leads to the path that it holds. -/
inductive Entry where
  | file (content : ByteArray)
  | link (target : String)
  | directory
  deriving DecidableEq

/-- A location: the names on the way to it from the root. A name is a text, so nothing of it is lost
    when it is read as one. -/
abbrev Location := List String

/-- The entries of a file system apart from the root, which is a directory. -/
structure Tree where
  entries : List (Location × Entry)

namespace Tree

/-- The tree with nothing in it. -/
def empty : Tree := ⟨[]⟩

/-- What is at a location. -/
def get? (t : Tree) (l : Location) : Option Entry :=
  if l.isEmpty then some .directory else t.entries.lookup l

/-- Two trees with the same entries, in whatever order. -/
def Same (t u : Tree) : Prop := ∀ l, t.get? l = u.get? l

/-- Puts an entry at a location: in the place of the one that is there, or after all others. -/
def put (t : Tree) (l : Location) (e : Entry) : Tree :=
  if (t.entries.lookup l).isSome then
    ⟨t.entries.map fun old => if old.1 == l then (l, e) else old⟩
  else ⟨t.entries ++ [(l, e)]⟩

/-- Removes what is at a location, and all that is below it. -/
def erase (t : Tree) (l : Location) : Tree := ⟨t.entries.filter fun e => !l.isPrefixOf e.1⟩

/-- Removes what is below a location. -/
def clear (t : Tree) (l : Location) : Tree :=
  ⟨t.entries.filter fun e => !l.isPrefixOf e.1 || e.1 == l⟩

/-- The entries below a location, by their locations from there. -/
def below (t : Tree) (l : Location) : List (Location × Entry) :=
  t.entries.filterMap fun e =>
    if l.isPrefixOf e.1 && e.1 != l then some (e.1.drop l.length, e.2) else none

/-- The entries of a directory, by name. -/
def listing (t : Tree) (l : Location) : List (String × Entry) :=
  (t.below l).filterMap fun e =>
    match e.1 with
    | [name] => some (name, e.2)
    | _ => none

/-- Moves what is at a location, and all that is below it. -/
def move (t : Tree) (source target : Location) : Tree :=
  ⟨(t.erase target).entries.map fun e =>
    if source.isPrefixOf e.1 then (target ++ e.1.drop source.length, e.2) else e⟩

end Tree

end ManifestMigration
