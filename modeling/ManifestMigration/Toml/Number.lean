import ManifestMigration.Text.Blank
import ManifestMigration.Toml.Data

/-! Reading the values that are written without quotes: truth values, integers, floats and moments.

    An integer has to fit 64 bits and a float must not be too large for a double, although neither
    is computed with. -/

namespace ManifestMigration.Toml

/-- An ASCII digit. -/
def isDecimal (c : Char) : Bool := '0' ≤ c && c ≤ '9'

/-- A digit of a base up to sixteen, and its value. -/
def digitValue? (base : Nat) (c : Char) : Option Nat :=
  let value :=
    if isDecimal c then c.toNat - 0x30
    else if 'a' ≤ c && c ≤ 'f' then c.toNat - 0x57
    else if 'A' ≤ c && c ≤ 'F' then c.toNat - 0x37
    else 16
  if value < base then some value else none

/-- The digits of a number in which single underscores may stand between digits. -/
def digits? (base : Nat) (s : List Char) : Option (List Nat) :=
  let groups := Text.pieces (· == '_') s
  if groups.any List.isEmpty then none else (groups.flatten).mapM (digitValue? base)

/-- The number with the given digits. -/
def ofDigits (base : Nat) (digits : List Nat) : Nat := digits.foldl (fun n d => n * base + d) 0

/-- Splits off a sign; `true` stands for a minus. -/
def splitSign : List Char → Bool × List Char
  | '-' :: s => (true, s)
  | '+' :: s => (false, s)
  | s => (false, s)

/-- Decimal digits without a needless zero at the start. -/
def decimal? (s : List Char) : Option Nat :=
  match digits? 10 s with
  | some (0 :: _ :: _) => none
  | some digits => some (ofDigits 10 digits)
  | none => none

/-- Reads an integer: decimal with an optional sign, or hexadecimal, octal or binary without. -/
def integer? (s : List Char) : Option Int :=
  let n? : Option Int := match s with
    | '0' :: 'x' :: t => (digits? 16 t).map fun ds => (ofDigits 16 ds : Int)
    | '0' :: 'o' :: t => (digits? 8 t).map fun ds => (ofDigits 8 ds : Int)
    | '0' :: 'b' :: t => (digits? 2 t).map fun ds => (ofDigits 2 ds : Int)
    | _ =>
      let (minus, t) := splitSign s
      (decimal? t).map fun n => if minus then -(n : Int) else n
  match n? with
  | some n => if -0x8000000000000000 ≤ n && n < 0x8000000000000000 then some n else none
  | none => none

/-! ### Floats -/

/-- The number `m · 10 ^ e` rounds to a finite double. -/
def fitsDouble (m : Nat) (e : Int) : Bool :=
  let size := ((toString m).length : Int) + e
  let limit := Nat.pow 2 1024 - Nat.pow 2 970
  if m = 0 || size < 300 then true
  else if size > 320 then false
  else if e ≥ 0 then m * Nat.pow 10 e.toNat < limit
  else m < limit * Nat.pow 10 (-e).toNat

/-- Reads the exponent of a float; an absent one is zero. -/
def exponent? : List Char → Option Int
  | [] => some 0
  | _ :: s =>
    let (minus, t) := splitSign s
    (digits? 10 t).map fun ds => if minus then -(ofDigits 10 ds : Int) else ofDigits 10 ds

/-- Is a float: a whole part with a fraction, an exponent or both, or a special value. -/
def isFloat (s : List Char) : Bool :=
  let t := (splitSign s).2
  if t == ['i', 'n', 'f'] || t == ['n', 'a', 'n'] then true
  else
    let isMark := fun (c : Char) => c == 'e' || c == 'E'
    let mantissa := t.takeWhile (!isMark ·)
    let exponent := t.dropWhile (!isMark ·)
    let whole := mantissa.takeWhile (· != '.')
    let digits? := match mantissa.dropWhile (· != '.') with
      | [] => if exponent.isEmpty then none else some []
      | _ :: fraction => digits? 10 fraction
    match decimal? whole, digits?, exponent? exponent with
    | some n, some fraction, some e =>
      fitsDouble (n * Nat.pow 10 fraction.length + ofDigits 10 fraction) (e - fraction.length)
    | _, _, _ => false

/-! ### Any of them -/

/-- The value of a text without quotes. -/
def plainScalar? (s : List Char) : Option Scalar :=
  if s == ['t', 'r', 'u', 'e'] then some (.boolean true)
  else if s == ['f', 'a', 'l', 's', 'e'] then some (.boolean false)
  else match integer? s with
    | some n => some (.integer n)
    | none =>
      if isFloat s then some (.float (String.ofList s))
      else (Moment.parse? s).map .moment

end ManifestMigration.Toml
