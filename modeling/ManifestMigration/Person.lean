import ManifestMigration.Text.Blank

/-! People: the authors and maintainers of a project, as `Name <email>`.

    A name is a single word, so an entry of more or fewer than two words is refused. -/

namespace ManifestMigration

/-- An author or a maintainer. -/
structure Person where
  name : String
  email : String
  deriving DecidableEq, Repr

/-- The text without the angle brackets around it, when it has both. -/
def Person.dropBrackets (s : List Char) : List Char :=
  match s with
  | '<' :: t => if t.getLast? == some '>' then t.dropLast else s
  | _ => s

/-- Reads an entry of two words, or answers `none`. -/
def Person.parse? (entry : String) : Option Person :=
  match Text.words entry.toList with
  | [name, email] => some ⟨String.ofList name, String.ofList (dropBrackets email)⟩
  | _ => none

end ManifestMigration
