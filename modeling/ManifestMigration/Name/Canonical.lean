import ManifestMigration.Name.Transliteration

/-! The canonical form of a project's name, and the name of its module.

    A canonical name is made of runs of lower-case ASCII letters and digits, with one hyphen between
    two of them; a module's name has low lines for hyphens. -/

namespace ManifestMigration.Name

/-- The runs of letters and digits of a text in ASCII, in lower case. -/
def runs (name : String) : List String :=
  let ascii := (name.toList.flatMap transliterate).map Char.toLower
  (Text.wordsBy (fun c => !c.isAlphanum) ascii).map String.ofList

/-- The canonical form of a name. -/
def canonical (name : String) : String := "-".intercalate (runs name)

/-- The name of the module of a project. -/
def moduleOf (name : String) : String := "_".intercalate (runs name)

end ManifestMigration.Name
