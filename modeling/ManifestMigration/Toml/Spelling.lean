import ManifestMigration.Toml.Document

/-! How keys and strings are spelled when nothing says how: with as few escapes as possible.

    A string is written in double quotes if it needs no escape there, otherwise in the first of
    single quotes, three double quotes and three single quotes that can hold it as it is, and only
    then with escapes. -/

namespace ManifestMigration.Toml

/-- A character that can only be written as an escape; tabs and line feeds are not meant. -/
def isControl (c : Char) : Bool := (c.toNat < 0x20 && c != '\t' && c != '\n') || c.toNat == 0x7F

/-- The length of the longest run of a character, when a run of length `n` has just gone by. -/
def longestRun (c : Char) (n : Nat) : List Char → Nat
  | [] => n
  | d :: s => if d == c then longestRun c (n + 1) s else max n (longestRun c 0 s)

/-- A hexadecimal digit, in upper case. -/
def hexDigit (n : Nat) : Char :=
  if n < 10 then Char.ofNat (0x30 + n) else Char.ofNat (0x37 + n)

/-- The escape for a character by its number, in four digits. -/
def codeEscape (c : Char) : List Char :=
  let n := c.toNat
  ['\\', 'u', hexDigit (n / 0x1000 % 16), hexDigit (n / 0x100 % 16), hexDigit (n / 0x10 % 16),
    hexDigit (n % 16)]

/-- The escape for a character that is not written as it is, quotes and line feeds apart. -/
def escape? (c : Char) : Option (List Char) :=
  if c == '\x08' then some ['\\', 'b']
  else if c == '\t' then some ['\\', 't']
  else if c == '\x0c' then some ['\\', 'f']
  else if c == '\r' then some ['\\', 'r']
  else if c == '\\' then some ['\\', '\\']
  else if isControl c then some (codeEscape c)
  else none

/-- The inside of a string in double quotes. -/
def escapeLine : List Char → List Char
  | [] => []
  | c :: s =>
    (if c == '"' then ['\\', '"'] else if c == '\n' then ['\\', 'n'] else (escape? c).getD [c])
      ++ escapeLine s

/-- The inside of a string in three double quotes, when `quotes` quotes have just gone by: the
    third of them in a row is escaped. -/
def escapeLines (quotes : Nat) : List Char → List Char
  | [] => []
  | c :: s =>
    if c == '"' then
      if quotes == 2 then ['\\', '"'] ++ escapeLines 0 s else '"' :: escapeLines (quotes + 1) s
    else (escape? c).getD [c] ++ escapeLines 0 s

/-- A text between three quotes; one of several lines starts on a line of its own. -/
def tripleQuoted (quote : Char) (several : Bool) (inside : List Char) : List Char :=
  let quotes := [quote, quote, quote]
  quotes ++ (if several then ['\n'] else []) ++ inside ++ quotes

/-- The default spelling of a string. -/
def spellString (s : List Char) : List Char :=
  let singles := longestRun '\'' 0 s
  let doubles := longestRun '"' 0 s
  let controls := s.any isControl
  let backslash := s.contains '\\'
  let several := s.contains '\n'
  if !controls && !backslash && doubles == 0 && !several then '"' :: escapeLine s ++ ['"']
  else if !controls && singles == 0 && !several then '\'' :: s ++ ['\'']
  else if !controls && !backslash && doubles ≤ 2 then tripleQuoted '"' several (escapeLines 0 s)
  else if !controls && singles ≤ 2 then tripleQuoted '\'' several s
  else if several then tripleQuoted '"' several (escapeLines 0 s)
  else '"' :: escapeLine s ++ ['"']

/-- A character of a key without quotes. -/
def isBareKeyChar (c : Char) : Bool :=
  ('a' ≤ c && c ≤ 'z') || ('A' ≤ c && c ≤ 'Z') || ('0' ≤ c && c ≤ '9') || c == '_' || c == '-'

/-- The default spelling of a key. -/
def spellKey (s : List Char) : List Char :=
  if !s.isEmpty && s.all isBareKeyChar then s
  else
    let controls := s.any isControl
    let several := s.contains '\n'
    if !controls && !s.contains '\\' && !s.contains '"' && !several then
      '"' :: escapeLine s ++ ['"']
    else if !controls && !s.contains '\'' && !several then '\'' :: s ++ ['\'']
    else '"' :: escapeLine s ++ ['"']

/-- The default spelling of a scalar. -/
def Scalar.spell : Scalar → String
  | .string s => String.ofList (spellString s.toList)
  | .integer n => toString n
  | .float text => text
  | .boolean b => if b then "true" else "false"
  | .moment m => m.text

/-- The spelling of a key. -/
def Key.spell (k : Key) : String := k.spelling.getD (String.ofList (spellKey k.name.toList))

end ManifestMigration.Toml
