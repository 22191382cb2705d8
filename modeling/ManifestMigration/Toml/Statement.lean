import ManifestMigration.Toml.Document
import ManifestMigration.Toml.Quoted
import ManifestMigration.Toml.Spelling

/-! Reading the statements of a document: headers, which name the table that follows, and
    assignments of a value to a key. Nothing is said here about which statements go together.

    Blanks, line breaks and comments go to the statement that they stand before, and those at the
    end of a line to what they stand after. -/

namespace ManifestMigration.Toml

/-- A dotted key: its last part and the parts before it. -/
structure DottedKey where
  parents : List Key
  leaf : Key

/-- A statement of a document. -/
inductive Statement where
  /-- A header; `element` says that it adds an element to an array of tables. -/
  | header (key : DottedKey) (element : Bool) (margin : Margin)
  | assign (key : DottedKey) (value : Value)

/-! ### Blanks and comments -/

/-- Splits off blanks on one line. -/
def blanks (s : List Char) : List Char × Tail s := spanClass (fun c => c == ' ' || c == '\t') s

/-- Splits off blanks on one line, as a text. -/
def blankText (s : List Char) : String × Tail s :=
  let (taken, r) := blanks s
  (String.ofList taken, r)

/-- The text after blanks, line breaks and comments. -/
def skipGap (comment : Bool) : (s : List Char) → Tail s
  | [] => .whole []
  | '\r' :: '\n' :: s =>
    ((skipGap false s).after '\n').after '\r'
  | c :: s =>
    let next? :=
      if c == '\n' then some false
      else if comment then if isPrintable c then some true else none
      else if c == '#' then some true
      else if c == ' ' || c == '\t' then some false
      else none
    match next? with
    | some comment => ⟨(skipGap comment s).val, Nat.le_succ_of_le (skipGap comment s).property⟩
    | none => .whole (c :: s)

/-- Splits off blanks, line breaks and comments. -/
def gap (s : List Char) : String × Tail s :=
  let r := skipGap false s
  (String.ofList (consumed s r.val), r)

/-- Reads a line break, which may be missing at the end of the text. -/
def lineBreak? : (s : List Char) → Option (Tail s)
  | [] => some (.whole [])
  | '\n' :: s => some ((Tail.whole s).after '\n')
  | '\r' :: '\n' :: s => some (((Tail.whole s).after '\n').after '\r')
  | _ => none

/-- Reads blanks and a comment up to the end of the line. -/
def lineEnd (s : List Char) : Option (String × Tail s) :=
  let (_, r) := blanks s
  let r : Tail s := match r.val.head? with
    | some '#' => r.trans (spanClass isPrintable r.val).2
    | _ => r
  (lineBreak? r.val).map fun t => (String.ofList (consumed s r.val), r.trans t)

/-! ### Keys -/

/-- Reads a part of a dotted key. -/
def readName (s : List Char) : Option (String × Rest s) :=
  match readLineString s with
  | some (text, r) => some (String.ofList text, r)
  | none =>
    match spanClass isBareKeyChar s with
    | (c :: name, r) =>
      if h : r.val.length < s.length then some (String.ofList (c :: name), ⟨r.val, h⟩) else none
    | ([], _) => none

/-- Reads a part of a dotted key with the blanks around it. -/
def readKey (s : List Char) : Option (Key × Rest s) :=
  let (before, r) := blanks s
  match readName r.val with
  | some (name, t) =>
    let spelling := String.ofList (consumed r.val t.val)
    let (after, u) := blanks t.val
    let around : Margin := ⟨some (String.ofList before), some (String.ofList after)⟩
    some (⟨name, some spelling, around, .plain⟩, (r.thenRest t).thenTail u)
  | none => none

/-- Reads the parts of a dotted key. -/
def readKeys (s : List Char) : Option (Key × List Key × Rest s) :=
  match readKey s with
  | none => none
  | some (k, r) =>
    match h : r.val with
    | '.' :: t =>
      match readKeys t with
      | some (second, more, u) => some (k, second :: more, (Rest.uncons (h ▸ r.property)).trans u)
      | none => none
    | _ => some (k, [], r)
termination_by s.length
decreasing_by
  have hr := r.property
  rw [h] at hr
  exact Nat.lt_of_succ_lt hr

/-- The key without the text before it. -/
def Key.dropBefore (k : Key) : Key := { k with around := { k.around with before := some "" } }

/-- The path of some parts. The text at either end becomes that around the whole. -/
def DottedKey.ofKeys (first : Key) (more : List Key) : DottedKey :=
  let keys := first.dropBefore :: more
  let leaf := keys.getLastD first
  let outer : Margin := ⟨first.around.before, leaf.around.after⟩
  ⟨keys.dropLast, { leaf with around := { leaf.around with after := some "" }, outer }⟩

/-- How many parts a dotted key can have. -/
def keyLimit : Nat := 80

/-- Reads a dotted key. -/
def readDottedKey : Reader DottedKey := fun s =>
  match readKeys s with
  | some (first, more, r) => if more.length < keyLimit then some (.ofKeys first more, r) else none
  | none => none

/-- The path with more text before the whole. -/
def DottedKey.after (text : String) (p : DottedKey) : DottedKey :=
  let outer := { p.leaf.outer with before := some (text ++ p.leaf.outer.before.getD "") }
  { p with leaf := { p.leaf with outer } }

/-- The path with more text after the whole. -/
def DottedKey.before (text : String) (p : DottedKey) : DottedKey :=
  let outer := { p.leaf.outer with after := some (p.leaf.outer.after.getD "" ++ text) }
  { p with leaf := { p.leaf with outer } }

/-! ### Values -/

/-- A character that ends a value without quotes. -/
def endsPlain (c : Char) : Bool :=
  c == ' ' || c == '\t' || c == '\n' || c == '\r' || c == ',' || c == ']' || c == '\x7d' || c == '#'

/-- Reads a value without quotes. A blank may stand between a date and a time. -/
def readPlain (s : List Char) : Option (Scalar × Rest s) :=
  let (word, r) := spanClass (!endsPlain ·) s
  let (text, r) : List Char × Tail s := match r with
    | ⟨' ' :: t, h⟩ =>
      let (next, u) := spanClass (!endsPlain ·) t
      if (Date.read? word).map (·.2) == some [] && (next.head?.map Char.isDigit).getD false then
        (word ++ ' ' :: next, (Tail.ofRest (Tail.uncons h)).trans u)
      else (word, ⟨' ' :: t, h⟩)
    | r => (word, r)
  match plainScalar? text with
  | some value => if h : r.val.length < s.length then some (value, ⟨r.val, h⟩) else none
  | none => none

/-- Reads a value that has no parts. -/
def readScalar (s : List Char) : Option (Value × Rest s) :=
  let found := match readString s with
    | some (text, r) => some (Scalar.string (String.ofList text), r)
    | none => readPlain s
  found.map fun (value, r) =>
    (.scalar value (some (String.ofList (consumed s r.val))) .plain, r)

/-- What an array or an inline table holds, and how it ends. -/
structure Listing (α : Type) where
  items : List α
  comma : Bool
  tail : String

/-- The listing with one more item before the others; the comma after it is the last if there are
    no others. -/
def Listing.cons {α : Type} (a : α) (l : Listing α) : Listing α :=
  ⟨a :: l.items, l.comma || l.items.isEmpty, l.tail⟩

/-- Reads the items of an array or an inline table up to the closing bracket. -/
def readListing {α : Type} (close : Char) (item : String → Reader α) (s : List Char) :
    Option (Listing α × Rest s) :=
  match gap s with
  | (_, ⟨[], _⟩) => none
  | (before, ⟨c :: t, h⟩) =>
    if c == close then some (⟨[], false, before⟩, Tail.uncons h)
    else
      match item before (c :: t) with
      | some (a, ⟨',' :: u, h'⟩) =>
        match readListing close item u with
        | some (more, r) => some (more.cons a, (Rest.uncons (Nat.lt_of_lt_of_le h' h)).trans r)
        | none => none
      | some (a, ⟨d :: u, h'⟩) =>
        if d == close then some (⟨[a], false, ""⟩, .uncons (Nat.lt_of_lt_of_le h' h)) else none
      | _ => none
termination_by s.length
decreasing_by exact Nat.lt_of_lt_of_le (Nat.lt_of_succ_lt h') h

/-- Reads an element of an array with the text after it. -/
def readElement (value : Reader Value) (before : String) : Reader Value := fun s =>
  (value s).map fun (v, r) =>
    let (after, t) := gap r.val
    (v.withMargin ⟨some before, some after⟩, r.thenTail t)

/-- Reads the equals sign and the value of an assignment. The value gets the text before it. -/
def readAssigned (space : (s : List Char) → String × Tail s) (value : Reader Value) : Reader Value
  | '=' :: s =>
    let (before, r) := space s
    (value r.val).map fun (v, t) =>
      (v.withMargin ⟨some before, none⟩, (Rest.ofCons '=' s).trans (r.thenRest t))
  | _ => none

/-- Reads a dotted key and its value; `space` splits off what may stand around the equals sign. -/
def readPair (space : (s : List Char) → String × Tail s) (value : Reader Value) (before : String) :
    Reader (DottedKey × Value) := fun s =>
  match readDottedKey s with
  | some (path, r) =>
    let (after, t) := space r.val
    (readAssigned space value t.val).map fun (v, u) =>
      (((path.after before).before after, v), (r.thenTail t).trans u)
  | none => none

/-- Reads an entry of an inline table with the text after it. -/
def readField (value : Reader Value) (before : String) : Reader (DottedKey × Value) := fun s =>
  (readPair gap value before s).map fun ((path, v), r) =>
    let (after, t) := gap r.val
    ((path, v.withMargin { v.margin with after := some after }), r.thenTail t)

/-- Puts a value under a dotted key of an inline table. The parts before the last may name tables
    that dotted keys made, and nothing else. -/
def insertField (leaf : Key) (v : Value) :
    List Key → List (Key × Value) → Option (List (Key × Value))
  | [], entries =>
    if entries.any fun e => e.1.name == leaf.name then none else some (entries ++ [(leaf, v)])
  | k :: parents, entries =>
    match entries.find? fun e => e.1.name == k.name with
    | none =>
      (insertField leaf v parents []).map fun inside =>
        entries ++ [(k, .inline inside true "" .plain)]
    | some (_, .inline inside true head margin) =>
      (insertField leaf v parents inside).map fun inside =>
        entries.map fun e =>
          if e.1.name == k.name then (e.1, .inline inside true head margin) else e
    | some _ => none

/-- The inline table with the given entries. -/
def inlineTable? (fields : Listing (DottedKey × Value)) : Option Value :=
  let build := fields.items.foldlM
    (fun entries (path, v) => insertField path.leaf v path.parents entries) []
  build.map fun entries => .inline entries false fields.tail .plain

/-- The deepest that arrays and inline tables may be nested. -/
def nestingLimit : Nat := 80

/-- Reads a value in which arrays and inline tables are nested at most so deep. -/
def readValue (depth : Nat) (s : List Char) : Option (Value × Rest s) :=
  match s, depth with
  | '[' :: _, 0 | '\x7b' :: _, 0 => none
  | '[' :: s, depth + 1 =>
    (readListing ']' (readElement (readValue depth)) s).map fun (l, r) =>
      (.array l.items l.comma l.tail .plain, (Rest.ofCons '[' s).trans r)
  | '\x7b' :: s, depth + 1 => do
    let (l, r) ← readListing '\x7d' (readField (readValue depth)) s
    let v ← inlineTable? l
    return (v, (Rest.ofCons '\x7b' s).trans r)
  | s, _ => readScalar s
termination_by structural depth

/-! ### Statements -/

/-- Reads the rest of a header after its opening brackets. -/
def readHeader (element : Bool) (before : String) (s : List Char) :
    Option (Statement × Rest s) :=
  match readDottedKey s with
  | some (path, ⟨']' :: t, h⟩) =>
    let closed? : Option (Rest s) := if element then
        match t with
        | ']' :: u => some ((Rest.uncons h).trans (.ofCons ']' u))
        | _ => none
      else some (.uncons h)
    match closed? with
    | some r =>
      (lineEnd r.val).map fun (after, u) =>
        (.header path element ⟨some before, some after⟩, r.thenTail u)
    | none => none
  | _ => none

/-- Reads a statement with the rest of its line. -/
def readStatement (before : String) : Reader Statement
  | '[' :: '[' :: s =>
    (readHeader true before s).map fun (st, r) =>
      (st, (Rest.ofCons '[' ('[' :: s)).trans ((Rest.ofCons '[' s).trans r))
  | '[' :: s =>
    (readHeader false before s).map fun (st, r) => (st, (Rest.ofCons '[' s).trans r)
  | s =>
    match readPair blankText (readValue nestingLimit) before s with
    | some ((path, v), r) =>
      (lineEnd r.val).map fun (after, t) =>
        (.assign path (v.withMargin { v.margin with after := some after }), r.thenTail t)
    | none => none

/-- Reads all statements, and the text after the last one. -/
def readStatements (s : List Char) : Option (List Statement × String) :=
  match gap s with
  | (text, ⟨[], _⟩) => some ([], text)
  | (before, ⟨c :: t, _h⟩) =>
    match readStatement before (c :: t) with
    | some (st, r) => (readStatements r.val).map fun (more, trailing) => (st :: more, trailing)
    | none => none
termination_by s.length
decreasing_by have := r.property; omega

end ManifestMigration.Toml
