import ManifestMigration.Constraint.Clause
import ManifestMigration.Version.Reader

/-! Reading a version constraint: alternatives separated by `|` or `||`, each of them clauses
    separated by commas or blanks.

    An operator may stand apart from its version. An alternative without clauses allows every
    version. -/

namespace ManifestMigration

namespace Constraint

/-- A character of which operators are made. -/
def isOperator (c : Char) : Bool :=
  c == '<' || c == '>' || c == '=' || c == '!' || c == '~' || c == '^'

/-- A wildcard in place of a segment. -/
def isStar (piece : List Char) : Bool := piece == ['x'] || piece == ['X'] || piece == ['*']

/-- A segment, written with digits of any script. -/
def isSegment (piece : List Char) : Bool := !piece.isEmpty && piece.all Text.isDigit

/-- The pieces between dots. -/
def dotted (s : List Char) : List (List Char) := Text.pieces (· == '.') s

/-- Reads the version that a clause names. -/
def readVersion (text : List Char) : Except Error Version :=
  match Version.parse? (String.ofList text) with
  | some v => .ok v
  | none => .error (.invalidVersion (String.ofList text))

/-- The comparison that an operator stands for; no operator asks for equality. -/
def comparison? (op : List Char) : Option Comparison :=
  match String.ofList op with
  | "<" => some .less
  | "<=" => some .atMost
  | ">" => some .greater
  | ">=" => some .atLeast
  | "!=" | "<>" => some .different
  | "" | "=" | "==" => some .equal
  | _ => none

/-- The text without one leading lower-case `v`. -/
def dropLowerV : List Char → List Char
  | 'v' :: s => s
  | s => s

/-- The one to three segments of a series such as `1.2.*`, when the text is one. -/
def seriesSegments? (operand : List Char) : Option (List (List Char)) :=
  let parts := dotted (dropLowerV operand)
  let segments := parts.takeWhile isSegment
  let stars := parts.dropWhile isSegment
  if 1 ≤ segments.length && segments.length ≤ 3 && !stars.isEmpty && stars.all isStar then
    some segments
  else none

/-- The clause of a series, its numbers read from its segments. -/
def readSeries (segments : List (List Char)) (excluded : Bool) : Except Error Clause :=
  match segments.head? >>= Text.word? with
  | some major => .ok (.series major (segments[1]? >>= Text.word?) excluded)
  | none => .error .invalidWildcard

/-- Reads a clause that starts with no tilde and no caret. -/
def readPlain (token : List Char) : Except Error Clause :=
  let op := token.takeWhile isOperator
  let operand := token.dropWhile isOperator
  match comparison? op, operand with
  | none, _ | _, [] => .error (.unrecognized (String.ofList token))
  | some comparison, _ =>
    match seriesSegments? operand, String.ofList op with
    | some segments, "" | some segments, "==" | some segments, "!=" =>
      readSeries segments (comparison == .different)
    | _, _ => return .compare comparison (← readVersion operand)

/-- Reads a clause. -/
def readClause (token : List Char) : Except Error Clause :=
  if (dotted (Version.dropV token)).all isStar then .ok .anything
  else match token with
    | '~' :: '=' :: c :: s => Clause.compatible <$> readVersion (c :: s)
    | '~' :: c :: s => Clause.tilde <$> readVersion (c :: s)
    | '^' :: c :: s => Clause.caret <$> readVersion (c :: s)
    | _ => readPlain token

/-- Puts operators that stand apart in front of what follows them. -/
def attachOperators (pending : List Char) : List (List Char) → List (List Char)
  | [] => if pending.isEmpty then [] else [pending]
  | token :: rest =>
    if token.all isOperator then attachOperators (pending ++ token) rest
    else (pending ++ token) :: attachOperators [] rest

/-- The tokens of an alternative, one for each clause. -/
def tokens (alternative : List Char) : List (List Char) :=
  attachOperators [] (Text.wordsBy (fun c => c == ',' || Text.isBlank c) alternative)

/-- The alternatives of a text, between bars or double bars. -/
def alternatives : List Char → List (List Char)
  | [] => [[]]
  | '|' :: '|' :: s => [] :: alternatives s
  | '|' :: s => [] :: alternatives s
  | c :: s =>
    match alternatives s with
    | [] => [[c]]
    | a :: more => (c :: a) :: more

/-- Reads one clause and restricts the constraint so far by it. -/
def restrict (soFar : Constraint) (token : List Char) : Except Error Constraint := do
  let clause ← readClause token
  return soFar.inter (← clause.constraint)

/-- Reads an alternative and adds it to the constraint so far. -/
def extend (soFar : Constraint) (alternative : List Char) : Except Error Constraint := do
  return soFar.union (← (tokens alternative).foldlM restrict any)

/-- Reads a constraint, which has to allow at least one version. -/
def parse (s : String) : Except Error Constraint :=
  let text := Text.trim s.toList
  if text.isEmpty then .error .blank
  else do
    let c ← (alternatives text).foldlM extend empty
    if c.isEmpty then .error .matchesNothing else .ok c

end Constraint

end ManifestMigration
