/-! Why an operation on files is refused. -/

namespace ManifestMigration

/-- The causes that can arise without lack of permission or of space. -/
inductive SystemError where
  | missing
  | busy
  | occupied
  | notDirectory
  | isDirectory
  | invalidArgument
  | nameTooLong
  | notEmpty
  | linkLoop
  | notText
  /-- A path has a NUL character, which ends names. -/
  | nulInName
  deriving DecidableEq, Repr

namespace SystemError

/-- The message of a cause that has a number. -/
def numbered (text : String) (number : Nat) : String := text ++ s!" (os error {number})"

/-- The cause as a message. -/
def message : SystemError → String
  | missing => numbered "No such file or directory" 2
  | busy => numbered "Device or resource busy" 16
  | occupied => numbered "File exists" 17
  | notDirectory => numbered "Not a directory" 20
  | isDirectory => numbered "Is a directory" 21
  | invalidArgument => numbered "Invalid argument" 22
  | nameTooLong => numbered "File name too long" 36
  | notEmpty => numbered "Directory not empty" 39
  | linkLoop => numbered "Too many levels of symbolic links" 40
  | notText => "stream did not contain valid UTF-8"
  | nulInName => "file name contained an unexpected NUL byte"

end SystemError

end ManifestMigration
