import ManifestMigration.Proofs.Toml.Table
import ManifestMigration.Text.Search

/-! How a document is written at each of its places: the spelling of keys and values, and the
    comments around them.

    A place is reached from the root by steps, and says what key and what item is there. What counts
    as its writing is all that stands there besides blanks and the items inside. -/

namespace ManifestMigration.Toml

/-! ### Places -/

/-- What some steps lead to: an item, and its key unless it is an element of an array. -/
structure Place where
  key : Option Key
  item : Item

namespace Place

/-- The place that one more step leads to. -/
def inside? : Place → Step → Option Place
  | ⟨_, .table t⟩, .key k => (t.entries.find? fun e => e.1.name == k).map fun e => ⟨some e.1, e.2⟩
  | ⟨_, .value (.inline entries _ _ _)⟩, .key k =>
    (entries.find? fun e => e.1.name == k).map fun e => ⟨some e.1, .value e.2⟩
  | ⟨_, .value (.array items _ _ _)⟩, .element i => items[i]?.map fun v => ⟨none, .value v⟩
  | ⟨_, .tables ts⟩, .element i => ts[i]?.map fun t => ⟨none, .table t⟩
  | _, _ => none

/-- The place that some steps lead to. -/
def at? (p : Place) : List Step → Option Place
  | [] => some p
  | step :: path => p.inside? step >>= fun q => q.at? path

end Place

/-- The place in a document that some steps from its root lead to. -/
def Document.place? (d : Document) (path : List Step) : Option Place :=
  (⟨none, .table d.root⟩ : Place).at? path

theorem Document.place?_cons (d : Document) (k : String) (path : List Step) :
    d.place? (.key k :: path) = (d.root.entries.find? fun e => e.1.name == k) >>=
      fun e => (⟨some e.1, e.2⟩ : Place).at? path := by
  rw [place?, Place.at?, Place.inside?]
  cases d.root.entries.find? fun e => e.1.name == k <;> rfl

/-- The same is inside of two places when each step leads to the same from both. -/
theorem Place.at?_congr {p q : Place} {step : Step} (path : List Step)
    (h : p.inside? step = q.inside? step) : p.at? (step :: path) = q.at? (step :: path) := by
  rw [at?, at?, h]

/-! ### What is written there -/

/-- The comment that ends a line, if there is one. -/
def comment? (line : List Char) : Option String :=
  match line.dropWhile (· != '#') with
  | [] => none
  | comment => some (String.ofList comment)

/-- The comments in a text around an item, line by line. -/
def comments (text? : Option String) : List String :=
  (Text.lines (text?.getD "").toList).filterMap comment?

/-- The comments before an item and those after it. -/
def Margin.comments (m : Margin) : List String × List String :=
  (Toml.comments m.before, Toml.comments m.after)

/-- How a key is written: its spelling, and the comments around it and around the dotted key that
    it ends. -/
structure Key.Writing where
  spelling : String
  around : List String × List String
  outer : List String × List String
  deriving DecidableEq

def Key.writing (k : Key) : Key.Writing := ⟨k.spell, k.around.comments, k.outer.comments⟩

/-- How an item is written, apart from what is around it and from the items inside. -/
inductive Form where
  | scalar (spelling : String)
  | array (comma : Bool) (tail : List String)
  | inline (dotted : Bool) (head : List String)
  | table (implicit dotted : Bool)
  | tables
  deriving DecidableEq

def Item.form : Item → Form
  | .value (.scalar s spelling _) => .scalar (spelling.getD s.spell)
  | .value (.array _ comma tail _) => .array comma (comments (some tail))
  | .value (.inline _ dotted head _) => .inline dotted (comments (some head))
  | .table t => .table t.implicit t.dotted
  | .tables _ => .tables

/-- The text around an item. The elements of an array of tables have it, the array has none. -/
def Item.margin : Item → Margin
  | .value v => v.margin
  | .table t => t.margin
  | .tables _ => .plain

/-- How a place is written. -/
structure Writing where
  key : Option Key.Writing
  form : Form
  comments : List String × List String
  deriving DecidableEq

def Place.writing (p : Place) : Writing :=
  ⟨p.key.map Key.writing, p.item.form, p.item.margin.comments⟩

/-- How a document is written at the place that some steps lead to. -/
def Document.writing? (d : Document) (path : List Step) : Option Writing :=
  (d.place? path).map Place.writing

/-- What is written at a place below the root is written below the entry of its first key. -/
theorem Document.writing?_of_find? {d : Document} {k : String} {path : List Step} {e : Key × Item}
    (h : (d.root.entries.find? fun e => e.1.name == k) = some e) :
    d.writing? (.key k :: path) = ((⟨some e.1, e.2⟩ : Place).at? path).map Place.writing := by
  rw [writing?, place?_cons, h]
  rfl

theorem Document.exists_of_writing? {d : Document} {k : String} {path : List Step} {w : Writing}
    (h : d.writing? (.key k :: path) = some w) :
    ∃ e, (d.root.entries.find? fun e => e.1.name == k) = some e ∧
      ((⟨some e.1, e.2⟩ : Place).at? path).map Place.writing = some w := by
  obtain ⟨p, hp, rfl⟩ := Option.map_eq_some_iff.mp h
  rw [place?_cons] at hp
  obtain ⟨e, he, hp⟩ := Option.bind_eq_some_iff.mp hp
  exact ⟨e, he, by rw [hp, Option.map_some]⟩

/-- Items that are written alike are written alike under their keys when the keys are. -/
theorem Place.writing_eq_iff {key key' : Key} {item item' : Item} (hform : item.form = item'.form)
    (hcomments : item.margin.comments = item'.margin.comments) :
    (⟨some key, item⟩ : Place).writing = (⟨some key', item'⟩ : Place).writing ↔
      key.writing = key'.writing := by
  simp [writing, hform, hcomments]

/-- The text of a document can be read, and is written as the document is at every place. -/
def Document.WritesBack (d : Document) : Prop :=
  ∃ new, Document.parse? d.print = some new ∧ new.trailing = d.trailing ∧
    ∀ path, new.writing? path = d.writing? path

end ManifestMigration.Toml
