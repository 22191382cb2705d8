import ManifestMigration.Toml.Number
import ManifestMigration.Toml.Rest

/-! Reading strings: between double quotes with escapes, or between single quotes as they are, on
    one line or between three quotes on several.

    A line break belongs to the string as it is, a carriage return included, unless it opens the
    string. A backslash at the end of a line leaves out the line break and all blanks and line breaks
    after it. -/

namespace ManifestMigration.Toml

/-- A character that may stand in a string or a comment as it is. -/
def isPrintable (c : Char) : Bool := c == '\t' || (0x20 ≤ c.toNat && c.toNat != 0x7F)

/-- The character with the given number, unless that is no character. -/
def charOf? (n : Nat) : Option Char :=
  if n < 0xD800 || (0xDFFF < n && n < 0x110000) then some (Char.ofNat n) else none

/-- The character that `n` hexadecimal digits write. -/
def codeChar? (n : Nat) (s : List Char) : Option (Char × Tail s) :=
  if (s.take n).length = n then do
    let digits ← (s.take n).mapM (digitValue? 16)
    let c ← charOf? (ofDigits 16 digits)
    return (c, ⟨s.drop n, by simp⟩)
  else none

/-- The character that stands for an escape without a number. -/
def shortEscape? (c : Char) : Option Char :=
  if c == 'b' then some '\x08'
  else if c == 't' then some '\t'
  else if c == 'n' then some '\n'
  else if c == 'f' then some '\x0c'
  else if c == 'r' then some '\r'
  else if c == 'e' then some '\x1b'
  else if c == '"' then some '"'
  else if c == '\\' then some '\\'
  else none

/-- Reads an escape after its backslash. -/
def readEscape : Reader Char
  | [] => none
  | c :: s =>
    match shortEscape? c with
    | some d => some (d, .ofCons c s)
    | none =>
      let length? := if c == 'x' then some 2 else if c == 'u' then some 4
        else if c == 'U' then some 8 else none
      match length? with
      | some n => (codeChar? n s).map fun (d, r) => (d, (Rest.ofCons c s).thenTail r)
      | none => none

/-- The text after blanks and line breaks. -/
def skipBreaks : (s : List Char) → Tail s
  | [] => .whole []
  | '\r' :: '\n' :: s => ((skipBreaks s).after '\n').after '\r'
  | c :: s =>
    if c == ' ' || c == '\t' || c == '\n' then
      (skipBreaks s).after c
    else .whole (c :: s)

/-- What follows the end of a line, when there are only blanks before it. -/
def lineEnd? (s : List Char) : Option (Rest s) :=
  match spanClass (fun c => c == ' ' || c == '\t') s with
  | (_, ⟨'\n' :: _, h⟩) => some (Tail.uncons h)
  | (_, ⟨'\r' :: '\n' :: _, h⟩) => some (.uncons (Nat.lt_of_succ_le h))
  | _ => none

/-- Reads up to the closing double quote. -/
def readBasic (s : List Char) : Option (List Char × Rest s) :=
  match s with
  | [] => none
  | c :: s =>
    if c == '"' then some ([], .ofCons c s)
    else if c == '\\' then
      match readEscape s with
      | some (d, r) =>
        (readBasic r.val).map fun (text, t) => (d :: text, (Rest.ofCons c s).trans (r.trans t))
      | none => none
    else if isPrintable c then
      (readBasic s).map fun (text, t) => (c :: text, (Rest.ofCons c s).trans t)
    else none
termination_by s.length
decreasing_by
  · have := r.property; simp only [List.length_cons]; omega
  · simp

/-- Reads up to the closing single quote. -/
def readLiteral : Reader (List Char)
  | [] => none
  | c :: s =>
    if c == '\'' then some ([], .ofCons c s)
    else if isPrintable c then
      (readLiteral s).map fun (text, t) => (c :: text, (Rest.ofCons c s).trans t)
    else none

/-- Splits off at most so many quotes. -/
def splitQuotes (quote : Char) : Nat → (s : List Char) → List Char × Tail s
  | n + 1, c :: s =>
    if c == quote then
      let (quotes, r) := splitQuotes quote n s
      (c :: quotes, r.after c)
    else ([], .whole (c :: s))
  | _, s => ([], .whole s)

/-- The end of a string in three quotes: up to two more quotes before them belong to it. -/
def closing? (quote : Char) (s : List Char) : Option (List Char × Rest s) :=
  match s with
  | a :: b :: c :: t =>
    if a == quote && b == quote && c == quote then
      let (quotes, r) := splitQuotes quote 2 t
      some (quotes, (((Rest.ofCons a _).trans (.ofCons b _)).trans (.ofCons c t)).thenTail r)
    else none
  | _ => none

/-- Reads up to the closing three double quotes. -/
def readBasicLines (s : List Char) : Option (List Char × Rest s) :=
  match closing? '"' s with
  | some found => some found
  | none =>
    match s with
    | [] => none
    | '\r' :: '\n' :: s =>
      (readBasicLines s).map fun (text, t) =>
        ('\r' :: '\n' :: text, ((Rest.ofCons '\r' _).trans (.ofCons '\n' s)).trans t)
    | '\\' :: s =>
      match readEscape s with
      | some (d, r) =>
        (readBasicLines r.val).map fun (text, t) =>
          (d :: text, (Rest.ofCons '\\' s).trans (r.trans t))
      | none =>
        match lineEnd? s with
        | some r =>
          (readBasicLines (r.thenTail (skipBreaks r.val)).val).map fun (text, t) =>
            (text, (Rest.ofCons '\\' s).trans ((r.thenTail (skipBreaks r.val)).trans t))
        | none => none
    | c :: s =>
      if c == '\n' || isPrintable c then
        (readBasicLines s).map fun (text, t) => (c :: text, (Rest.ofCons c s).trans t)
      else none
termination_by s.length
decreasing_by
  · simp only [List.length_cons]; omega
  · have := r.property; simp only [List.length_cons]; omega
  · have := (r.thenTail (skipBreaks r.val)).property; simp only [List.length_cons]; omega
  · simp

/-- Reads up to the closing three single quotes. -/
def readLiteralLines (s : List Char) : Option (List Char × Rest s) :=
  match closing? '\'' s with
  | some found => some found
  | none =>
    match s with
    | [] => none
    | '\r' :: '\n' :: s =>
      (readLiteralLines s).map fun (text, t) =>
        ('\r' :: '\n' :: text, ((Rest.ofCons '\r' _).trans (.ofCons '\n' s)).trans t)
    | c :: s =>
      if c == '\n' || isPrintable c then
        (readLiteralLines s).map fun (text, t) => (c :: text, (Rest.ofCons c s).trans t)
      else none
termination_by s.length
decreasing_by
  · simp only [List.length_cons]; omega
  · simp

/-- The text without a line break at its start. -/
def dropBreak : (s : List Char) → Tail s
  | '\n' :: s => (Tail.whole s).after '\n'
  | '\r' :: '\n' :: s => ((Tail.whole s).after '\n').after '\r'
  | s => .whole s

/-- Reads what starts after the first quote of a string; `single` and `lines` read the two forms. -/
def readAfterQuote (quote : Char) (single lines : Reader (List Char)) (s : List Char) :
    Option (List Char × Rest s) :=
  match s with
  | a :: b :: t =>
    if a == quote && b == quote then
      let start := ((Rest.ofCons a (b :: t)).trans (.ofCons b t)).thenTail (dropBreak t)
      (lines start.val).map fun (text, r) => (text, start.trans r)
    else single (a :: b :: t)
  | s => single s

/-- Reads a string that may be of one or of several lines. -/
def readString : Reader (List Char)
  | '"' :: s =>
    (readAfterQuote '"' readBasic readBasicLines s).map fun (text, r) =>
      (text, (Rest.ofCons '"' s).trans r)
  | '\'' :: s =>
    (readAfterQuote '\'' readLiteral readLiteralLines s).map fun (text, r) =>
      (text, (Rest.ofCons '\'' s).trans r)
  | _ => none

/-- Reads a string on one line. -/
def readLineString : Reader (List Char)
  | '"' :: s => (readBasic s).map fun (text, r) => (text, (Rest.ofCons '"' s).trans r)
  | '\'' :: s => (readLiteral s).map fun (text, r) => (text, (Rest.ofCons '\'' s).trans r)
  | _ => none

end ManifestMigration.Toml
