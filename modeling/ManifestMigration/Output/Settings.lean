/-! How results are shown: in which format, how much of them, and whether in color. -/

namespace ManifestMigration.Output

/-- Text is for a reader, JSON for another program. -/
inductive Format where
  | text | json
  deriving DecidableEq, Repr

/-- How much is shown. -/
inductive Verbosity where
  | quiet | normal | verbose
  deriving DecidableEq, Repr

/-- How results are shown. -/
structure Settings where
  format : Format
  verbosity : Verbosity
  color : Bool
  deriving DecidableEq, Repr

namespace Settings

/-- The settings that some flags ask for. To be quiet wins over being verbose, and JSON has no
    color. -/
def ofFlags (json verbose quiet terminal : Bool) : Settings where
  format := if json then .json else .text
  verbosity := if quiet then .quiet else if verbose then .verbose else .normal
  color := !json && terminal

/-- Progress may be shown beside the results. -/
def showsProgress (s : Settings) : Bool := s.format == .text && s.verbosity != .quiet

end Settings

end ManifestMigration.Output
