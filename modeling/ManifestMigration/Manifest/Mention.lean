import ManifestMigration.Text.Search

/-! Mentions: the lines of a text that still name something. -/

namespace ManifestMigration

/-- A line, by its number from one on, without its end. -/
structure Mention where
  line : Nat
  content : String
  deriving DecidableEq, Repr

/-- The lines from number `n` on in which the needle occurs. -/
def Mention.among (needle : List Char) (n : Nat) : List (List Char) → List Mention
  | [] => []
  | line :: rest =>
    if Text.occursIn needle line then ⟨n, String.ofList line⟩ :: among needle (n + 1) rest
    else among needle (n + 1) rest

/-- The lines of a text in which the needle occurs. -/
def Mention.find (needle content : String) : List Mention :=
  among needle.toList 1 (Text.lines content.toList)

end ManifestMigration
