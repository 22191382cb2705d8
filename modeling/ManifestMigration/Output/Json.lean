/-! JSON as text, with one member or element on a line. -/

namespace ManifestMigration.Output

/-- A JSON value without fractions. Members keep their order. -/
inductive Json where
  | null
  | boolean (b : Bool)
  | number (n : Nat)
  | string (s : String)
  | array (items : List Json)
  | object (members : List (String × Json))

namespace Json

/-- The value, or `null` when there is none. -/
def ofOption {α : Type} (f : α → Json) : Option α → Json
  | some a => f a
  | none => .null

/-- A hexadecimal digit. -/
def hexDigit (n : Nat) : Char := if n < 10 then Char.ofNat (48 + n) else Char.ofNat (87 + n)

/-- A character inside quotes. Only quotes, backslashes and control characters are escaped. -/
def escapeChar (c : Char) : List Char :=
  match c with
  | '"' => ['\\', '"']
  | '\\' => ['\\', '\\']
  | '\n' => ['\\', 'n']
  | '\r' => ['\\', 'r']
  | '\t' => ['\\', 't']
  | c =>
    if c.toNat = 8 then ['\\', 'b']
    else if c.toNat = 12 then ['\\', 'f']
    else if c.toNat < 32 then
      ['\\', 'u', '0', '0', hexDigit (c.toNat / 16), hexDigit (c.toNat % 16)]
    else [c]

/-- A text in quotes. -/
def quote (s : String) : String := "\"" ++ String.ofList (s.toList.flatMap escapeChar) ++ "\""

/-- The start of a line at a depth. -/
def indent (depth : Nat) : String := String.ofList (List.replicate (2 * depth) ' ')

/-- Puts lines between brackets; without lines the brackets stand together. -/
def bracketed (opening closing : String) (depth : Nat) (lines : List String) : String :=
  if lines.isEmpty then opening ++ closing
  else
    opening ++ "\n" ++ ",\n".intercalate (lines.map (indent (depth + 1) ++ ·)) ++ "\n" ++
      indent depth ++ closing

mutual

/-- A value at a depth. -/
def print (depth : Nat) : Json → String
  | .null => "null"
  | .boolean b => if b then "true" else "false"
  | .number n => toString n
  | .string s => quote s
  | .array items => bracketed "[" "]" depth (printItems (depth + 1) items)
  | .object members => bracketed "\x7b" "\x7d" depth (printMembers (depth + 1) members)
termination_by structural v => v

/-- The elements of an array at a depth. -/
def printItems (depth : Nat) : List Json → List String
  | [] => []
  | v :: rest => v.print depth :: printItems depth rest
termination_by structural vs => vs

/-- The members of an object at a depth. -/
def printMembers (depth : Nat) : List (String × Json) → List String
  | [] => []
  | (name, v) :: rest => (quote name ++ ": " ++ v.print depth) :: printMembers depth rest
termination_by structural ms => ms

end

/-- The text of a value, with the end of its last line. -/
def text (v : Json) : String := v.print 0 ++ "\n"

end Json

end ManifestMigration.Output
