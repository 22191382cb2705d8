import ManifestMigration.Text.Blank
import ManifestMigration.Text.Digit
import ManifestMigration.Text.Search

/-! Environment markers: the condition that may follow a version constraint after a semicolon, as in
    `>=1.1; python_version < '3.11'`.

    Only the condition on the interpreter's version is carried over. -/

namespace ManifestMigration.Marker

/-- The name of the interpreter's version in a marker. -/
def interpreterVersion : List Char := "python_version".toList

/-- The constraint and the marker of a declaration. The first semicolon separates them. -/
def split (declaration : String) : String × Option String :=
  match Text.splitOnce? [';'] declaration.toList with
  | some (range, marker) =>
    (String.ofList (Text.trim range), some (String.ofList (Text.trim marker)))
  | none => (String.ofList (Text.trim declaration.toList), none)

/-- What a marker says about the interpreter's version: all that follows its first mention, without
    quotes. -/
def interpreter? (marker : String) : Option String :=
  match Text.splitOnce? interpreterVersion marker.toList with
  | none => none
  | some (_, said) =>
    match Text.trim (said.filter fun c => c != '\'' && c != '"') with
    | [] => none
    | condition => some (String.ofList condition)

/-! ### Quotes around versions -/

/-- Where in a version a text is: outside, in the first number, or in the second. -/
inductive Place where
  | outside | first | second
  deriving DecidableEq, Repr

/-- The next character is a digit. -/
def startsWithDigit (s : List Char) : Bool := (s.head?.map Text.isDigit).getD false

/-- Puts each version of one or two numbers in single quotes, from a place on. -/
def quoteFrom (place : Place) : List Char → List Char
  | [] => if place = .outside then [] else ['\'']
  | c :: s =>
    match place with
    | .outside =>
      if Text.isDigit c then '\'' :: c :: quoteFrom .first s else c :: quoteFrom .outside s
    | .first =>
      if Text.isDigit c then c :: quoteFrom .first s
      else if c == '.' && startsWithDigit s then c :: quoteFrom .second s
      else '\'' :: c :: quoteFrom .outside s
    | .second =>
      if Text.isDigit c then c :: quoteFrom .second s else '\'' :: c :: quoteFrom .outside s

/-- The marker with each version of one or two numbers in single quotes. -/
def quoteVersions (marker : String) : String := String.ofList (quoteFrom .outside marker.toList)

end ManifestMigration.Marker
