import ManifestMigration.Proofs.Sequence
import ManifestMigration.Toml.Printer
import ManifestMigration.Toml.Reader

/-! Tables by what is found under a key, and documents by what they say at a path of keys.

    Every change of a table is told by the lookups afterwards, so that no later proof opens the
    list of entries. The data of a document is then looked up along a path, one table at a time. -/

namespace ManifestMigration.Toml

variable {ι : Type}

namespace TableOf

/-- The names of the keys, in their order. -/
def names (t : TableOf ι) : List String := t.entries.map (·.1.name)

variable {t : TableOf ι} {key : Key} {name k : String} {item : ι}

theorem get?_eq_none_iff : t.get? name = none ↔ name ∉ t.names := by
  simp [get?, names]

theorem exists_mem_of_get? (h : t.get? name = some item) :
    ∃ key, key.name = name ∧ (key, item) ∈ t.entries := by
  obtain ⟨e, he, rfl⟩ := Option.map_eq_some_iff.mp h
  exact ⟨e.1, by simpa using List.find?_some he, List.mem_of_find?_eq_some he⟩

theorem mem_names_of_get? (h : t.get? name = some item) : name ∈ t.names := by
  obtain ⟨key, rfl, hmem⟩ := exists_mem_of_get? h
  exact List.mem_map_of_mem (f := fun e => e.1.name) hmem

theorem exists_get?_of_mem (h : name ∈ t.names) : ∃ item, t.get? name = some item := by
  rw [← Option.ne_none_iff_exists']
  exact fun hnone => get?_eq_none_iff.mp hnone h

@[simp] theorem get?_empty : (empty : TableOf ι).get? k = none := rfl

@[simp] theorem get?_mentioned {dotted : Bool} : (mentioned dotted : TableOf ι).get? k = none := rfl

/-! ### Changes -/

@[simp] theorem names_push : (t.push key item).names = t.names ++ [key.name] := by
  simp [push, names]

@[simp] theorem names_replace : (t.replace name item).names = t.names := by
  rw [replace, names, names, List.map_map]
  refine List.map_congr_left fun e _ => ?_
  rw [Function.comp_apply]
  split <;> rfl

@[simp] theorem implicit_set : (t.set name item).implicit = t.implicit := by
  rw [set]
  split <;> rfl

@[simp] theorem dotted_set : (t.set name item).dotted = t.dotted := by
  rw [set]
  split <;> rfl

@[simp] theorem margin_set : (t.set name item).margin = t.margin := by
  rw [set]
  split <;> rfl

theorem names_erase : (t.erase name).names = t.names.filter (· != name) := by
  rw [erase, names, names, List.filter_map]
  rfl

theorem find?_erase (hk : k ≠ name) : ((t.erase name).entries.find? fun e => e.1.name == k) =
    t.entries.find? fun e => e.1.name == k := by
  rw [erase, List.find?_filter]
  congr 1
  funext e
  by_cases he : e.1.name = k <;> simp [he, hk]

theorem get?_erase (hk : k ≠ name) : (t.erase name).get? k = t.get? k := by
  rw [get?, find?_erase hk, get?]

theorem get?_erase_self : (t.erase name).get? name = none := by
  rw [get?_eq_none_iff, names_erase]
  simp

theorem entries_set_of_notMem (h : name ∉ t.names) :
    (t.set name item).entries = t.entries ++ [(.plain name, item)] := by
  rw [set, get?_eq_none_iff.mpr h]
  rfl

theorem entries_set_of_mem (h : name ∈ t.names) :
    (t.set name item).entries =
      t.entries.map fun e => if e.1.name == name then (.plain name, item) else e := by
  rw [set]
  split
  · rfl
  · next h' => exact absurd h (get?_eq_none_iff.mp h')

theorem names_set (name : String) (item : ι) :
    (t.set name item).names = if name ∈ t.names then t.names else t.names ++ [name] := by
  split
  case isTrue h =>
    rw [names, entries_set_of_mem h, List.map_map]
    refine List.map_congr_left fun e _ => ?_
    rw [Function.comp_apply]
    split
    case isTrue he => exact (beq_iff_eq.mp he).symm
    case isFalse => rfl
  case isFalse h =>
    rw [names, entries_set_of_notMem h, List.map_append]
    rfl

/-- The first key stays the first. -/
theorem head?_names_set {first : String} (h : t.names.head? = some first) :
    (t.set name item).names.head? = some first := by
  rw [names_set]
  split
  · exact h
  · rw [List.head?_append, h]
    rfl

theorem find?_set (name k : String) (item : ι) : ∀ es : List (Key × ι),
    ((es.map fun e => if e.1.name == name then (Key.plain name, item) else e).find?
        fun e => e.1.name == k).map (·.2) =
      if k = name ∧ name ∈ es.map (·.1.name) then some item
      else (es.find? fun e => e.1.name == k).map (·.2)
  | [] => by simp
  | e :: es => by
    have ih := find?_set name k item es
    by_cases he : e.1.name = name
    · by_cases hk : k = name
      · subst hk
        simp [he, Key.plain]
      · have hek : (Key.plain name).name ≠ k := Ne.symm hk
        simpa [he, hk, Ne.symm hk, hek, List.find?_cons] using ih
    · by_cases hk : e.1.name = k
      · subst hk
        simp [he]
      · simpa [he, hk, Ne.symm he, List.mem_cons, -List.mem_map, List.find?_cons] using ih

/-- Setting a key changes what is found under that key, and nothing else. -/
@[simp] theorem get?_set : (t.set name item).get? k = if k = name then some item else t.get? k := by
  by_cases h : name ∈ t.names
  · rw [get?, entries_set_of_mem h, find?_set]
    simp only [show name ∈ t.entries.map (·.1.name) from h, and_true]
    rfl
  · rw [get?, entries_set_of_notMem h, List.find?_append, Option.map_or]
    change (t.get? k).or _ = _
    by_cases hk : k = name
    · subst hk
      simp [get?_eq_none_iff.mpr h, Key.plain]
    · simp [hk, Ne.symm hk, Key.plain]

theorem find?_set_other (hk : k ≠ name) (item : ι) : ∀ es : List (Key × ι),
    ((es.map fun e => if e.1.name == name then (Key.plain name, item) else e).find?
        fun e => e.1.name == k) = es.find? fun e => e.1.name == k
  | [] => rfl
  | e :: es => by
    have ih := find?_set_other hk item es
    by_cases he : e.1.name = name
    · simpa [he, Ne.symm hk, Key.plain, List.find?_cons] using ih
    · by_cases hek : e.1.name = k
      · simp [hek, hk]
      · simpa [he, hek, List.find?_cons] using ih

/-- The entries of other keys are left as they are written. -/
theorem find?_set_of_ne (hk : k ≠ name) : ((t.set name item).entries.find? fun e => e.1.name == k) =
    t.entries.find? fun e => e.1.name == k := by
  by_cases h : name ∈ t.names
  · rw [entries_set_of_mem h, find?_set_other hk]
  · rw [entries_set_of_notMem h, List.find?_append]
    simp [Key.plain, Ne.symm hk]

end TableOf

/-! ### Data -/

mutual

/-- Whether two values are equal. -/
def Data.decEq : (a b : Data) → Decidable (a = b)
  | .scalar s, .scalar s' => decidable_of_iff (s = s') ⟨congrArg Data.scalar, Data.scalar.inj⟩
  | .array as, .array bs => @decidable_of_iff _ _ ⟨congrArg Data.array, Data.array.inj⟩ (decEqItems as bs)
  | .table as, .table bs =>
    @decidable_of_iff _ _ ⟨congrArg Data.table, Data.table.inj⟩ (decEqEntries as bs)
  | .scalar _, .array _ | .scalar _, .table _ | .array _, .scalar _ | .array _, .table _
  | .table _, .scalar _ | .table _, .array _ => isFalse nofun
termination_by structural a => a

/-- Whether the elements of two arrays are equal. -/
def decEqItems : (as bs : List Data) → Decidable (as = bs)
  | [], [] => isTrue rfl
  | a :: as, b :: bs =>
    @decidable_of_iff _ (a = b ∧ as = bs) (by simp) (@instDecidableAnd _ _ (a.decEq b) (decEqItems as bs))
  | [], _ :: _ | _ :: _, [] => isFalse nofun
termination_by structural as => as

/-- Whether the entries of two tables are equal. -/
def decEqEntries : (as bs : List (String × Data)) → Decidable (as = bs)
  | [], [] => isTrue rfl
  | (k, a) :: as, (k', b) :: bs =>
    @decidable_of_iff _ (k = k' ∧ a = b ∧ as = bs) (by simp [and_assoc])
      (@instDecidableAnd _ _ _ (@instDecidableAnd _ _ (a.decEq b) (decEqEntries as bs)))
  | [], _ :: _ | _ :: _, [] => isFalse nofun
termination_by structural as => as

end

instance : DecidableEq Data := Data.decEq

/-! ### What a document says -/

theorem lookup_itemsData (name : String) : ∀ es : List (Key × Item),
    (itemsData es).lookup name = ((es.find? fun e => e.1.name == name).map (·.2)).map Item.data
  | [] => rfl
  | (k, i) :: es => by
    rw [itemsData, List.lookup_cons, List.find?_cons]
    by_cases h : k.name = name
    · simp [h]
    · have hname : (name == k.name) = false := by simpa using Ne.symm h
      have hk : (k.name == name) = false := by simpa using h
      rw [hname, hk]
      exact lookup_itemsData name es

theorem lookup_inlineData (name : String) : ∀ es : List (Key × Value),
    (inlineData es).lookup name = ((es.find? fun e => e.1.name == name).map (·.2)).map Value.data
  | [] => rfl
  | (k, v) :: es => by
    rw [inlineData, List.lookup_cons, List.find?_cons]
    by_cases h : k.name = name
    · simp [h]
    · have hname : (name == k.name) = false := by simpa using Ne.symm h
      have hk : (k.name == name) = false := by simpa using h
      rw [hname, hk]
      exact lookup_inlineData name es

theorem valuesData_eq_map : ∀ vs : List Value, valuesData vs = vs.map Value.data
  | [] => rfl
  | v :: vs => congrArg (List.cons v.data) (valuesData_eq_map vs)

/-- The value at a path of keys, each of which leads into a table. -/
def Data.at? (d : Data) : List String → Option Data
  | [] => some d
  | k :: path => d.get? k >>= fun inside => inside.at? path

theorem Data.at?_append (q : List String) : ∀ (p : List String) (d : Data),
    d.at? (p ++ q) = d.at? p >>= fun inside => inside.at? q
  | [], d => rfl
  | k :: p, d => by
    rw [List.cons_append, Data.at?, Data.at?]
    cases d.get? k with
    | none => rfl
    | some inside => exact at?_append q p inside

/-- What a document says, with marked tables as the tables that they are. -/
def Document.data (d : Document) : Data := .table (itemsData d.root.entries)

theorem data_table (t : Table) : (Item.table t).data = .table (itemsData t.entries) := by
  cases t
  rfl

@[simp] theorem get?_data_table (t : Table) (k : String) :
    (Item.table t).data.get? k = (t.get? k).map Item.data := by
  rw [data_table, Data.get?, lookup_itemsData, TableOf.get?]

@[simp] theorem get?_data_document (d : Document) (k : String) :
    d.data.get? k = (d.root.get? k).map Item.data := by
  rw [Document.data, ← data_table, get?_data_table]

/-! ### Marked tables -/

/-- Unmarking keeps the keys, and unmarks what is under each. -/
theorem lookup_unmarkEntries? (k : String) : ∀ {es us : List (String × Data)},
    unmarkEntries? es = some us → us.lookup k = es.lookup k >>= Data.unmark?
  | [], us, h => by
    rw [unmarkEntries?] at h
    cases h
    rfl
  | (name, value) :: es, us, h => by
    rw [unmarkEntries?] at h
    obtain ⟨value', hvalue, h⟩ := Option.bind_eq_some_iff.mp h
    obtain ⟨us', hus, h⟩ := Option.bind_eq_some_iff.mp h
    cases h
    have ih := lookup_unmarkEntries? k hus
    by_cases hk : k = name
    · simp [hk, hvalue]
    · have hk : (k == name) = false := by simpa using hk
      rw [List.lookup_cons, List.lookup_cons, hk]
      exact ih

theorem isSome_lookup_unmarkEntries? (k : String) : ∀ {es us : List (String × Data)},
    unmarkEntries? es = some us → (us.lookup k).isSome = (es.lookup k).isSome
  | [], us, h => by
    rw [unmarkEntries?] at h
    cases h
    rfl
  | (name, value) :: es, us, h => by
    rw [unmarkEntries?] at h
    obtain ⟨value', -, h⟩ := Option.bind_eq_some_iff.mp h
    obtain ⟨us', hus, h⟩ := Option.bind_eq_some_iff.mp h
    cases h
    rw [List.lookup_cons, List.lookup_cons]
    split
    · rfl
    · exact isSome_lookup_unmarkEntries? k hus

/-- A table with the moments in their places is written as a table with the same keys. -/
theorem Data.exists_entries_of_unmark? {d : Data} {us : List (String × Data)}
    (h : d.unmark? = some (.table us)) : ∃ es, d = .table es ∧ unmarkEntries? es = some us := by
  cases d with
  | scalar s => cases h
  | array items =>
    obtain ⟨items', -, h⟩ := Option.map_eq_some_iff.mp h
    cases h
  | table es =>
    refine ⟨es, rfl, ?_⟩
    change unmarkTable? es = some (.table us) at h
    cases es with
    | nil =>
      cases h
      rfl
    | cons e es =>
      obtain ⟨name, value⟩ := e
      rw [unmarkTable?] at h
      split at h
      · obtain ⟨moment, -, h⟩ := Option.map_eq_some_iff.mp h
        cases h
      · obtain ⟨value', hvalue, h⟩ := Option.bind_eq_some_iff.mp h
        obtain ⟨us', hus, h⟩ := Option.bind_eq_some_iff.mp h
        cases h
        rw [unmarkEntries?, hvalue, hus]
        rfl

/-- What is found in a value with the moments in their places is found in the value as it is
    written. -/
theorem Data.exists_of_unmark? {d u x : Data} {k : String} (h : d.unmark? = some u)
    (hx : u.get? k = some x) : ∃ y, d.get? k = some y ∧ y.unmark? = some x := by
  cases u with
  | scalar _ => cases hx
  | array _ => cases hx
  | table us =>
    obtain ⟨es, rfl, hus⟩ := exists_entries_of_unmark? h
    have hlookup := lookup_unmarkEntries? k hus
    rw [Data.get?] at hx
    rw [hx] at hlookup
    exact Option.bind_eq_some_iff.mp hlookup.symm

/-- A table that does not start with the mark stays a table. -/
theorem unmark?_table {t : Table} {u : Data} (hmark : t.names.head? ≠ some Moment.mark)
    (h : (Item.table t).data.unmark? = some u) :
    ∃ us, u = .table us ∧ unmarkEntries? (itemsData t.entries) = some us := by
  rw [data_table] at h
  change unmarkTable? (itemsData t.entries) = some u at h
  rw [TableOf.names, List.head?_map] at hmark
  cases hentries : t.entries with
  | nil =>
    rw [hentries] at h
    cases h
    exact ⟨[], rfl, rfl⟩
  | cons e es =>
    rw [hentries] at hmark h
    have hkey : (e.1.name == Moment.mark) = false :=
      beq_eq_false_iff_ne.mpr fun hname => hmark (congrArg some hname)
    obtain ⟨k, i⟩ := e
    rw [itemsData, unmarkTable?, hkey] at h
    obtain ⟨value, hvalue, h⟩ := Option.bind_eq_some_iff.mp h
    obtain ⟨us, hus, h⟩ := Option.bind_eq_some_iff.mp h
    cases h
    refine ⟨_, rfl, ?_⟩
    rw [itemsData, unmarkEntries?, hvalue, hus]
    rfl

/-- A table that stays a table does not start with the mark. -/
theorem head?_of_unmark? {t : Table} {us : List (String × Data)}
    (h : (Item.table t).data.unmark? = some (.table us)) : t.names.head? ≠ some Moment.mark := by
  intro hmark
  rw [data_table] at h
  change unmarkTable? (itemsData t.entries) = some (.table us) at h
  rw [TableOf.names, List.head?_map] at hmark
  cases hentries : t.entries with
  | nil =>
    rw [hentries] at hmark
    cases hmark
  | cons e es =>
    rw [hentries] at hmark h
    have hkey : (e.1.name == Moment.mark) = true := beq_iff_eq.mpr (Option.some.inj hmark)
    obtain ⟨k, i⟩ := e
    rw [itemsData, unmarkTable?, hkey] at h
    obtain ⟨moment, -, h⟩ := Option.map_eq_some_iff.mp h
    cases h

theorem Document.get?_data? {d : Document} {data : Data} (h : d.data? = some data) (k : String) :
    data.get? k = d.data.get? k >>= Data.unmark? := by
  obtain ⟨us, hus, rfl⟩ := Option.map_eq_some_iff.mp h
  exact lookup_unmarkEntries? k hus

theorem Document.isSome_get?_data? {d : Document} {data : Data} (h : d.data? = some data)
    (k : String) : (data.get? k).isSome = (d.root.get? k).isSome := by
  obtain ⟨us, hus, rfl⟩ := Option.map_eq_some_iff.mp h
  rw [Data.get?, isSome_lookup_unmarkEntries? k hus, lookup_itemsData, Option.isSome_map]
  rfl

/-! ### Documents that were read -/

theorem TableOf.nodup_push {t : TableOf ι} {key : Key} {item : ι} (ht : t.names.Nodup)
    (h : key.name ∉ t.names) : (t.push key item).names.Nodup := by
  rw [names_push, List.nodup_append]
  refine ⟨ht, by simp, ?_⟩
  rintro a ha b hb rfl
  rw [List.mem_singleton.mp hb] at ha
  exact h ha

/-- A change that leaves each key at most once. -/
def KeepsApart (change : Table → Option Table) : Prop :=
  ∀ t u, t.names.Nodup → change t = some u → u.names.Nodup

theorem TableOf.update_keepsApart {dotted : Bool} {f : Table → Option Table} (hf : KeepsApart f) :
    ∀ path, KeepsApart (TableOf.update dotted f path)
  | [], t, u, ht, h => hf t u ht h
  | k :: path, t, u, ht, h => by
    rw [TableOf.update] at h
    split at h
    · next hk =>
      obtain ⟨inside, -, rfl⟩ := Option.map_eq_some_iff.mp h
      exact nodup_push ht (get?_eq_none_iff.mp hk)
    · cases h
    · split at h
      · cases h
      · obtain ⟨inside, -, rfl⟩ := Option.map_eq_some_iff.mp h
        simpa using ht
    · split at h
      · cases h
      · obtain ⟨last, -, rfl⟩ := Option.map_eq_some_iff.mp h
        simpa using ht

theorem TableOf.define_keepsApart (key : Key) (margin : Margin) :
    KeepsApart (TableOf.define key margin) := by
  intro t u ht h
  rw [TableOf.define] at h
  split at h
  · next hk =>
    cases h
    exact nodup_push ht (get?_eq_none_iff.mp hk)
  · split at h
    · cases h
      refine nodup_push ?_ (get?_eq_none_iff.mp get?_erase_self)
      rw [names_erase]
      exact ht.filter _
    · cases h
  · cases h

theorem TableOf.append_keepsApart (key : Key) (margin : Margin) :
    KeepsApart (TableOf.append key margin) := by
  intro t u ht h
  rw [TableOf.append] at h
  split at h
  · next hk =>
    cases h
    exact nodup_push ht (get?_eq_none_iff.mp hk)
  · cases h
    simpa using ht
  · cases h

theorem TableOf.assign_keepsApart (key : Key) (value : Value) (dotted : Bool) :
    KeepsApart (TableOf.assign key value dotted) := by
  intro t u ht h
  rw [TableOf.assign] at h
  split at h
  · cases h
  · next hk =>
    cases h
    have hk : t.dotted = dotted ∧ t.get? key.name = none := by simpa using hk
    exact nodup_push ht (get?_eq_none_iff.mp hk.2)

theorem Draft.add_apart {d e : Draft} {st : Statement} (hd : d.root.names.Nodup)
    (h : d.add st = some e) : e.root.names.Nodup := by
  cases st with
  | header path element margin =>
    obtain ⟨root, hroot, he⟩ := Option.bind_eq_some_iff.mp h
    cases he
    refine TableOf.update_keepsApart ?_ _ _ _ hd hroot
    cases element with
    | true => exact TableOf.append_keepsApart _ _
    | false => exact TableOf.define_keepsApart _ _
  | assign path value =>
    obtain ⟨root, hroot, he⟩ := Option.bind_eq_some_iff.mp h
    cases he
    exact TableOf.update_keepsApart
      (TableOf.update_keepsApart (TableOf.assign_keepsApart _ _ _) _) _ _ _ hd hroot

theorem Draft.addAll_apart : ∀ {statements : List Statement} {d e : Draft},
    d.root.names.Nodup → statements.foldlM Draft.add d = some e → e.root.names.Nodup
  | [], d, e, hd, h => Option.some.inj h ▸ hd
  | st :: statements, d, e, hd, h => by
    rw [List.foldlM_cons] at h
    obtain ⟨d', hd', h⟩ := Option.bind_eq_some_iff.mp h
    exact addAll_apart (add_apart hd hd') h

/-- A document that was read has each key at most once at its root. -/
theorem Document.names_nodup {s : String} {d : Document} (h : Document.parse? s = some d) :
    d.root.names.Nodup := by
  obtain ⟨⟨statements, trailing⟩, -, h⟩ := Option.bind_eq_some_iff.mp h
  obtain ⟨draft, hdraft, rfl⟩ := Option.map_eq_some_iff.mp h
  have hstart : (TableOf.empty : Table).names.Nodup := List.nodup_nil
  exact Draft.addAll_apart hstart hdraft

/-! ### Documents that are read back -/

/-- A step into a value: to what is under a key of a table, or to an element of an array. -/
inductive Step where
  | key (name : String)
  | element (index : Nat)

namespace Data

/-- The part of a value that some steps lead to. -/
def part? : Data → List Step → Option Data
  | d, [] => some d
  | .table entries, .key k :: path => entries.lookup k >>= fun inside => inside.part? path
  | .array items, .element i :: path => items[i]? >>= fun inside => inside.part? path
  | _, _ :: _ => none

/-- The value without its parts. -/
def bare : Data → Data
  | .scalar s => .scalar s
  | .array _ => .array []
  | .table _ => .table []

/-- Two values say the same. The order of the keys in a table does not matter for that. -/
def Same (a b : Data) : Prop := ∀ path, (a.part? path).map bare = (b.part? path).map bare

theorem part?_keys : ∀ (path : List String) (d : Data), d.part? (path.map .key) = d.at? path
  | [], d => by
    rw [at?]
    cases d <;> rfl
  | k :: path, .table entries => by
    change (entries.lookup k >>= fun inside => inside.part? (path.map .key)) = _
    simp only [part?_keys path]
    rfl
  | _ :: _, .scalar _ => rfl
  | _ :: _, .array _ => rfl

/-- Two values say the same from some steps on. -/
def SameAt (p : List Step) (a b : Data) : Prop :=
  ∀ q, (a.part? (p ++ q)).map bare = (b.part? (p ++ q)).map bare

/-- Some steps lead to a part, and more steps from there on. -/
theorem part?_append (q : List Step) : ∀ (p : List Step) (d : Data),
    d.part? (p ++ q) = d.part? p >>= fun inside => inside.part? q
  | [], d => by cases d <;> rfl
  | .key k :: p, .table es => by
    change (es.lookup k >>= fun inside => inside.part? (p ++ q)) =
      (es.lookup k >>= fun inside => inside.part? p) >>= fun inside => inside.part? q
    simp only [part?_append q p, bind_assoc]
  | .element i :: p, .array items => by
    change (items[i]? >>= fun inside => inside.part? (p ++ q)) =
      (items[i]? >>= fun inside => inside.part? p) >>= fun inside => inside.part? q
    simp only [part?_append q p, bind_assoc]
  | .key _ :: _, .scalar _ => rfl
  | .key _ :: _, .array _ => rfl
  | .element _ :: _, .scalar _ => rfl
  | .element _ :: _, .table _ => rfl

variable {a b c : Data}

theorem Same.sameAt (h : a.Same b) (p : List Step) : SameAt p a b := fun q => h (p ++ q)

theorem SameAt.of_part?_eq {p : List Step} (h : a.part? p = b.part? p) : SameAt p a b := by
  intro q
  rw [part?_append, part?_append, h]

theorem SameAt.trans {p : List Step} (h : SameAt p a b) (h' : SameAt p b c) : SameAt p a c :=
  fun q => (h q).trans (h' q)

namespace Same

/-- What one value says at a path, the other says as well. -/
theorem at? (h : a.Same b) {path : List String} {y : Data} (hb : b.at? path = some y) :
    ∃ x, a.at? path = some x ∧ x.Same y := by
  have hpart := h (path.map .key)
  rw [part?_keys, part?_keys, hb] at hpart
  obtain ⟨x, hx, -⟩ := Option.map_eq_some_iff.mp hpart
  refine ⟨x, hx, fun q => ?_⟩
  have hinside := h (path.map .key ++ q)
  rwa [part?_append, part?_append, part?_keys, part?_keys, hx, hb] at hinside

/-- Scalars in an array have their order, so nothing is left open. -/
theorem eq_of_scalars {ss : List Scalar} (h : a.Same (.array (ss.map .scalar))) :
    a = .array (ss.map .scalar) := by
  have hbare : some a.bare = some (.array []) := by
    have htop := h []
    rwa [part?, part?] at htop
  cases a with
  | scalar s => cases hbare
  | table es => cases hbare
  | array items =>
    refine congrArg Data.array (List.ext_getElem? fun i => ?_)
    have hitem : (items[i]? >>= fun inside => inside.part? []).map bare =
        ((ss.map Data.scalar)[i]? >>= fun inside => inside.part? []).map bare := h [.element i]
    simp only [part?, Option.bind_eq_bind, List.getElem?_map] at hitem ⊢
    cases hs : ss[i]? with
    | none =>
      rw [hs] at hitem
      simpa using hitem
    | some s =>
      rw [hs] at hitem
      obtain ⟨x, hx, hscalar⟩ := Option.map_eq_some_iff.mp (by simpa using hitem)
      rw [hx]
      cases x <;> cases hscalar
      rfl

theorem at?_bare (h : a.Same b) (path : List String) :
    (a.at? path).map bare = (b.at? path).map bare := by
  rw [← part?_keys, ← part?_keys]
  exact h _

theorem at?_of_none (h : a.Same b) {path : List String} (hb : b.at? path = none) :
    a.at? path = none := by
  have hsame := h.at?_bare path
  rw [hb] at hsame
  exact Option.map_eq_none_iff.mp hsame

theorem at?_of_table (h : a.Same b) {path : List String} {entries : List (String × Data)}
    (hb : b.at? path = some (.table entries)) : ∃ entries', a.at? path = some (.table entries') := by
  have hsame := h.at?_bare path
  rw [hb] at hsame
  obtain ⟨x, hx, hbare⟩ := Option.map_eq_some_iff.mp hsame
  cases x with
  | table entries' => exact ⟨entries', hx⟩
  | scalar s => cases hbare
  | array items => cases hbare

end Same

end Data

/-- The text of a document can be read, and says what the document says. -/
def Document.ReadsBack (d : Document) : Prop :=
  ∃ old new, d.data? = some old ∧ (Document.parse? d.print >>= Document.data?) = some new ∧
    new.Same old

theorem Document.ReadsBack.of_eq {d : Document} (hsome : d.data?.isSome)
    (h : (Document.parse? d.print >>= Document.data?) = d.data?) : d.ReadsBack := by
  obtain ⟨data, hdata⟩ := Option.isSome_iff_exists.mp hsome
  exact ⟨data, data, hdata, h.trans hdata, fun _ => rfl⟩

end ManifestMigration.Toml
