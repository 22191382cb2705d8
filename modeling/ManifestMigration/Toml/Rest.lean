/-! What is left of a text after something was read from its start.

    Readers answer with a rest that is known to be shorter, so that whatever reads again and again
    comes to an end. -/

namespace ManifestMigration.Toml

/-- A rest of `s` after at least one character. -/
abbrev Rest (s : List Char) := { r : List Char // r.length < s.length }

/-- A rest of `s` after any number of characters. -/
abbrev Tail (s : List Char) := { r : List Char // r.length ≤ s.length }

/-- Reads an `α` from the start of a text. -/
abbrev Reader (α : Type) := (s : List Char) → Option (α × Rest s)

namespace Rest

variable {s : List Char}

/-- The rest after the first character. -/
def ofCons (c : Char) (t : List Char) : Rest (c :: t) := ⟨t, by simp⟩

/-- The rest after a first character that something was read before. -/
def uncons {c : Char} {t : List Char} (h : (c :: t).length < s.length) : Rest s :=
  ⟨t, Nat.lt_of_succ_lt h⟩

/-- Reading on after something was read. -/
def trans (r : Rest s) (t : Rest r.val) : Rest s := ⟨t.val, Nat.lt_trans t.property r.property⟩

/-- Reading on, perhaps nothing, after something was read. -/
def thenTail (r : Rest s) (t : Tail r.val) : Rest s :=
  ⟨t.val, Nat.lt_of_le_of_lt t.property r.property⟩

end Rest

namespace Tail

variable {s : List Char}

/-- The whole text. -/
def whole (s : List Char) : Tail s := ⟨s, Nat.le_refl _⟩

/-- Reading on after perhaps nothing was read. -/
def thenRest (r : Tail s) (t : Rest r.val) : Rest s :=
  ⟨t.val, Nat.lt_of_lt_of_le t.property r.property⟩

/-- Reading on, perhaps nothing, after perhaps nothing was read. -/
def trans (r : Tail s) (t : Tail r.val) : Tail s := ⟨t.val, Nat.le_trans t.property r.property⟩

/-- What is left of the text after a character is left of the text with it. -/
def after (c : Char) {t : List Char} (r : Tail t) : Tail (c :: t) :=
  ⟨r.val, Nat.le_succ_of_le r.property⟩

/-- The rest after the first character of a tail. -/
def uncons {c : Char} {t : List Char} (h : (c :: t).length ≤ s.length) : Rest s := ⟨t, h⟩

/-- A tail that something was read before. -/
def ofRest (r : Rest s) : Tail s := ⟨r.val, Nat.le_of_lt r.property⟩

end Tail

/-- What was read from `s` when `r` is left. -/
def consumed (s r : List Char) : List Char := s.take (s.length - r.length)

/-- Splits off the longest prefix of characters of a class. -/
def spanClass (p : Char → Bool) : (s : List Char) → List Char × Tail s
  | [] => ([], .whole [])
  | c :: s =>
    if p c then
      let (taken, r) := spanClass p s
      (c :: taken, r.after c)
    else ([], .whole (c :: s))

end ManifestMigration.Toml
