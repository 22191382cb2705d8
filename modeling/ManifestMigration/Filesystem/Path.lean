import ManifestMigration.Text.Blank

/-! Paths as texts: joining them, and taking the last name off.

    Only the text is looked at, never a file system. Empty pieces and dots in the middle of a path
    name nothing, so they are skipped, but they are kept in the text. -/

namespace ManifestMigration

/-- A path, as it is written. -/
structure Path where
  text : String
  deriving DecidableEq, Repr

namespace Path

/-- Starts at the root. -/
def isAbsolute (p : Path) : Bool := p.text.toList.head? == some '/'

/-- Ends with a slash. -/
def endsOpen (p : Path) : Bool := p.text.toList.getLast? == some '/'

/-- The pieces between the slashes. An absolute path starts with an empty piece. -/
def pieces (p : Path) : List String := (Text.pieces (· == '/') p.text.toList).map String.ofList

/-- The path that has these pieces. -/
def ofPieces : List String → Path
  | [""] => ⟨"/"⟩
  | ps => ⟨"/".intercalate ps⟩

/-- Follows a path from another one. An absolute path is followed from the root. -/
def join (base p : Path) : Path :=
  if p.isAbsolute then p
  else
    ⟨base.text ++ (if base.text.isEmpty || base.endsOpen then "" else "/") ++ p.text⟩

/-- The path of an entry of a directory. -/
def child (directory : Path) (name : String) : Path := directory.join ⟨name⟩

/-- Names nothing: an empty piece or a dot. -/
def isIdle (piece : String) : Bool := piece == "" || piece == "."

/-- The pieces without the idle ones at the end. The first piece is never idle: it is the root, or a
    name, or the dot that a relative path may start with. -/
def trimIdle : List String → List String
  | [] => []
  | first :: rest => first :: (rest.reverse.dropWhile isIdle).reverse

/-- The last name of a path. The root, and a path that ends with one or two dots, has none. -/
def name? (p : Path) : Option String :=
  match (trimIdle p.pieces).getLast? with
  | some piece => if isIdle piece || piece == ".." then none else some piece
  | none => none

/-- The path without its last piece. The root and the empty path have no parent. -/
def parent? (p : Path) : Option Path :=
  match trimIdle p.pieces with
  | [] => none
  | [first] => if first == "" then none else some ⟨""⟩
  | ps => some (ofPieces (trimIdle ps.dropLast))

/-- The pieces that name something, in order. -/
def names (p : Path) : List String := p.pieces.filter fun piece => !isIdle piece

/-- The same path from the root on, without idle pieces; a slash at the end is kept. A path may
    start with exactly two slashes, which differs from one. -/
def absolute (p workingDirectory : Path) : Path :=
  let start :=
    if p.isAbsolute then
      match p.text.toList with
      | '/' :: '/' :: rest => if rest.head? == some '/' then ⟨"/"⟩ else ⟨"//"⟩
      | _ => ⟨"/"⟩
    else workingDirectory
  let whole := p.names.foldl child start
  if p.endsOpen then whole.child "" else whole

end Path

end ManifestMigration
