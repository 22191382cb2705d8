/-! Dates and times: what they say, and how they are read and written.

    A moment can be read from several spellings: with a blank or a letter between date and time, and
    with or without seconds. It is written in one form only. -/

namespace ManifestMigration.Toml

/-- A day. -/
structure Date where
  year : Nat
  month : Nat
  day : Nat
  deriving DecidableEq, Repr

/-- A time of day. -/
structure Time where
  hour : Nat
  minute : Nat
  second : Nat
  nanosecond : Nat
  deriving DecidableEq, Repr

/-- The distance from universal time: none at all, or a number of minutes. -/
inductive Offset where
  | universal
  | minutes (n : Int)
  deriving DecidableEq, Repr

/-- A date, a time, or both with an optional offset. -/
inductive Moment where
  | date (d : Date)
  | time (t : Time)
  | dateTime (d : Date) (t : Time) (offset : Option Offset)
  deriving DecidableEq, Repr

/-! ### Writing -/

/-- A number in at least so many digits. -/
def padded (width n : Nat) : List Char :=
  let digits := Nat.toDigits 10 n
  List.replicate (width - digits.length) '0' ++ digits

/-- The date as a text. -/
def Date.text (d : Date) : List Char :=
  padded 4 d.year ++ '-' :: padded 2 d.month ++ '-' :: padded 2 d.day

/-- The fraction of a second as a text, without zeros at its end. -/
def fractionText (nanosecond : Nat) : List Char :=
  if nanosecond = 0 then []
  else '.' :: ((padded 9 nanosecond).reverse.dropWhile (· == '0')).reverse

/-- The time as a text. -/
def Time.text (t : Time) : List Char :=
  padded 2 t.hour ++ ':' :: padded 2 t.minute ++ ':' :: padded 2 t.second ++
    fractionText t.nanosecond

/-- The offset as a text. -/
def Offset.text : Offset → List Char
  | universal => ['Z']
  | minutes n =>
    (if n < 0 then '-' else '+') :: padded 2 (n.natAbs / 60) ++ ':' :: padded 2 (n.natAbs % 60)

/-- The moment as a text. -/
def Moment.text : Moment → String
  | date d => String.ofList d.text
  | time t => String.ofList t.text
  | dateTime d t offset =>
    String.ofList (d.text ++ 'T' :: t.text ++ (offset.map Offset.text).getD [])

/-! ### Reading

    Each reader answers what is left of the text. -/

/-- A number of exactly `n` digits. -/
def fixed? (n : Nat) (s : List Char) : Option (Nat × List Char) :=
  let digits := s.take n
  if digits.length = n && digits.all Char.isDigit then
    some (Nat.ofDigitChars 10 digits 0, s.drop n)
  else none

/-- The rest of a text that starts with the character. -/
def expect? (c : Char) : List Char → Option (List Char)
  | d :: s => if d == c then some s else none
  | [] => none

/-- The days of a month. -/
def daysIn (year month : Nat) : Nat :=
  if month = 2 then
    if year % 4 = 0 && (year % 100 != 0 || year % 400 = 0) then 29 else 28
  else if month = 4 || month = 6 || month = 9 || month = 11 then 30
  else 31

/-- Reads a date such as `1979-05-27`. -/
def Date.read? (s : List Char) : Option (Date × List Char) := do
  let (year, s) ← fixed? 4 s
  let (month, s) ← fixed? 2 (← expect? '-' s)
  let (day, s) ← fixed? 2 (← expect? '-' s)
  if 1 ≤ month && month ≤ 12 && 1 ≤ day && day ≤ daysIn year month then
    some (⟨year, month, day⟩, s)
  else none

/-- Reads the fraction of a second as nanoseconds, if there is one. What is finer is left out. -/
def fraction? : List Char → Option (Nat × List Char)
  | '.' :: s =>
    let digits := s.takeWhile Char.isDigit
    if digits.isEmpty then none
    else
      let kept := digits.take 9
      some (Nat.ofDigitChars 10 kept 0 * Nat.pow 10 (9 - kept.length), s.dropWhile Char.isDigit)
  | s => some (0, s)

/-- Reads the seconds of a time, with a fraction, if there are any; a leap second counts. -/
def seconds? : List Char → Option (Nat × Nat × List Char)
  | ':' :: s => do
    let (second, s) ← fixed? 2 s
    if second ≤ 60 then (fraction? s).map fun (fraction, s) => (second, fraction, s) else none
  | s => some (0, 0, s)

/-- Reads a time such as `07:32:00.5`; the seconds may be left out. -/
def Time.read? (s : List Char) : Option (Time × List Char) := do
  let (hour, s) ← fixed? 2 s
  let (minute, s) ← fixed? 2 (← expect? ':' s)
  if hour ≤ 23 && minute ≤ 59 then
    (seconds? s).map fun (second, fraction, s) => (⟨hour, minute, second, fraction⟩, s)
  else none

/-- Reads an offset that may be left out, up to the end of the text. -/
def Offset.read? : List Char → Option (Option Offset)
  | [] => some none
  | ['Z'] | ['z'] => some (some universal)
  | c :: s =>
    if c == '+' || c == '-' then do
      let (hour, s) ← fixed? 2 s
      let (minute, s) ← fixed? 2 (← expect? ':' s)
      let distance : Int := hour * 60 + minute
      if hour ≤ 23 && minute ≤ 59 && s.isEmpty then
        some (some (minutes (if c == '-' then -distance else distance)))
      else none
    else none

/-- Reads a whole text as a moment. -/
def Moment.parse? (s : List Char) : Option Moment :=
  match Date.read? s with
  | some (d, []) => some (date d)
  | some (d, c :: rest) =>
    if c == 'T' || c == 't' || c == ' ' then do
      let (t, rest) ← Time.read? rest
      return dateTime d t (← Offset.read? rest)
    else none
  | none =>
    match Time.read? s with
    | some (t, []) => some (time t)
    | _ => none

end ManifestMigration.Toml
