import ManifestMigration.Project
import ManifestMigration.Proofs.Text.Ascii
import ManifestMigration.Proofs.Toml.Table
import Mathlib.Data.List.Nodup

/-! The document that a conversion makes, entry by entry.

    The conversion runs through the sections of the old document and sets each key anew. A document
    that was read has each key once, so nothing lands on anything that was set before: the new
    document is the project section, and behind it what becomes of each section, in the old order
    (`entries_document`). -/

namespace ManifestMigration

open Toml

namespace Conversion

variable {source : Document} {project : Table} {virtualProject : Bool} {r : Requirements}
  {key : Key} {i : Item}

/-! ### What becomes of a section -/

@[simp] theorem data_separated (i : Item) : (separated i).data = i.data := by
  cases i with
  | table t =>
    rw [separated]
    split
    · rfl
    · rw [data_table, data_table]
  | value v => rfl
  | tables ts => rfl

theorem section?_other {name : String} (hproject : name ≠ "project") (htool : name ≠ "tool")
    (hbuild : name ≠ "build-system") : section? virtualProject r name i = some (separated i) := by
  rw [section?]
  all_goals simp_all

theorem exists_section?_tool : ∀ i, ∃ i', section? virtualProject r "tool" i = some i'
  | .table _ => ⟨_, rfl⟩
  | .value _ => ⟨_, rfl⟩
  | .tables _ => ⟨_, rfl⟩

/-- The table that the new settings go into: what stood there otherwise is given up. -/
def oldTool : Item → Table
  | .table old => old
  | _ => .mentioned false

/-- What becomes of the tool section. -/
def newTool (virtualProject : Bool) (r : Requirements) : Item → Item
  | .table old => separated (.table (toolTable old virtualProject r))
  | _ => .table (toolTable (.mentioned false) virtualProject r)

theorem newTool_of_ne : ∀ {i : Item}, (∀ old, i ≠ .table old) →
    newTool virtualProject r i = .table (toolTable (.mentioned false) virtualProject r)
  | .table old, h => absurd rfl (h old)
  | .value _, _ => rfl
  | .tables _, _ => rfl

theorem data_newTool : ∀ i, (newTool virtualProject r i).data =
    (Item.table (toolTable (oldTool i) virtualProject r)).data
  | .table old => data_separated (.table (toolTable old virtualProject r))
  | .value _ => rfl
  | .tables _ => rfl

/-- What becomes of an entry of the root. -/
def renewed? (virtualProject : Bool) (r : Requirements) (e : Key × Item) : Option (Key × Item) :=
  let item? := if e.1.name = "tool" then some (newTool virtualProject r e.2)
    else section? virtualProject r e.1.name e.2
  item?.map fun i => (.plain e.1.name, i)

theorem renewed?_tool {e : Key × Item} (h : e.1.name = "tool") :
    renewed? virtualProject r e = some (.plain "tool", newTool virtualProject r e.2) := by
  rw [renewed?, if_pos h, h]
  rfl

theorem renewed?_of_ne {e : Key × Item} (h : e.1.name ≠ "tool") :
    renewed? virtualProject r e =
      (section? virtualProject r e.1.name e.2).map fun i => (.plain e.1.name, i) := by
  rw [renewed?, if_neg h]

theorem name_of_renewed? {e e' : Key × Item} (h : renewed? virtualProject r e = some e') :
    e'.1.name = e.1.name := by
  obtain ⟨i, -, rfl⟩ := Option.map_eq_some_iff.mp h
  rfl

/-! ### The entries of the new document -/

/-- Setting keys that are apart, and not in the table yet, adds them in their order. -/
theorem entries_foldl_set (f : Key × Item → Option Item) : ∀ (es : List (Key × Item)) (t : Table),
    (es.map (·.1.name)).Nodup → (∀ e ∈ es, e.1.name ∉ t.names) →
    (es.foldl (fun t e => match f e with
      | some i => t.set e.1.name i
      | none => t) t).entries =
      t.entries ++ es.filterMap fun e => (f e).map fun i => (.plain e.1.name, i)
  | [], t, _, _ => by simp
  | e :: es, t, hes, ht => by
    rw [List.map_cons, List.nodup_cons] at hes
    rw [List.foldl_cons]
    cases hf : f e with
    | none =>
      rw [entries_foldl_set f es t hes.2 fun e' he' => ht e' (List.mem_cons_of_mem _ he')]
      simp [hf]
    | some i =>
      have hset : (t.set e.1.name i).entries = t.entries ++ [(.plain e.1.name, i)] :=
        TableOf.entries_set_of_notMem (ht e (List.mem_cons_self ..))
      have hnames : ∀ e' ∈ es, e'.1.name ∉ (t.set e.1.name i).names := by
        intro e' he' hmem
        rw [TableOf.names, hset, List.map_append, List.mem_append] at hmem
        rcases hmem with hmem | hmem
        · exact ht e' (List.mem_cons_of_mem _ he') hmem
        · have hname : e'.1.name = e.1.name := by simpa [Key.plain] using hmem
          exact hes.1 (hname ▸ List.mem_map_of_mem (f := fun e => e.1.name) he')
      rw [entries_foldl_set f es _ hes.2 hnames, hset]
      simp [hf]

theorem exists_of_isToolTable {e : Key × Item} (h : isToolTable e = true) :
    e.1.name = "tool" ∧ ∃ old, e.2 = .table old := by
  rw [isToolTable] at h
  split at h
  · next old hold => exact ⟨by simpa using h, old, hold⟩
  · cases h

/-- What makes a document one that can be converted, as far as its root is concerned. -/
structure Convertible (d : Document) : Prop where
  apart : d.root.names.Nodup
  noProject : "project" ∉ d.root.names
  tool : "tool" ∈ d.root.names

/-- The new document before the settings take the place of a tool section that is no table. -/
def copied (source : Document) (project : Table) (virtualProject : Bool) (r : Requirements) :
    Table :=
  source.root.entries.foldl (fun t (e : Key × Item) =>
    match section? virtualProject r e.1.name e.2 with
    | some i => t.set e.1.name i
    | none => t) (TableOf.empty.set "project" (.table project))

theorem root_document : (document source project virtualProject r).root =
    if source.root.entries.any isToolTable then copied source project virtualProject r
    else (copied source project virtualProject r).set "tool"
      (.table (toolTable (.mentioned false) virtualProject r)) := rfl

theorem entries_copied (h : Convertible source) :
    (copied source project virtualProject r).entries = (.plain "project", .table project) ::
      source.root.entries.filterMap fun e =>
        (section? virtualProject r e.1.name e.2).map fun i => (.plain e.1.name, i) := by
  refine entries_foldl_set (fun e => section? virtualProject r e.1.name e.2) _ _ h.apart ?_
  intro e he hmem
  have hname : e.1.name = "project" := List.mem_singleton.mp hmem
  exact h.noProject (hname ▸ List.mem_map_of_mem (f := fun e => e.1.name) he)

/-- The new document is the project section, and then what becomes of each section. -/
theorem entries_document (h : Convertible source) :
    (document source project virtualProject r).root.entries =
      (.plain "project", .table project) ::
        source.root.entries.filterMap (renewed? virtualProject r) := by
  rw [root_document]
  by_cases htable : source.root.entries.any isToolTable
  · -- the one tool section is a table, and the settings went into it
    rw [if_pos htable, entries_copied h]
    refine congrArg (List.cons _) (List.filterMap_congr fun e he => ?_)
    by_cases hname : e.1.name = "tool"
    · obtain ⟨e', he', htool⟩ := List.any_eq_true.mp htable
      obtain ⟨hname', old, hold⟩ := exists_of_isToolTable htool
      obtain rfl : e = e' := List.inj_on_of_nodup_map h.apart he he' (hname.trans hname'.symm)
      rw [renewed?_tool hname, hname, hold]
      rfl
    · exact (renewed?_of_ne hname).symm
  · -- the tool section was copied as a value, whose place the settings take
    rw [if_neg htable]
    have htool : "tool" ∈ (copied source project virtualProject r).names := by
      obtain ⟨e, he, hname⟩ := List.mem_map.mp h.tool
      obtain ⟨i, hi⟩ : ∃ i, section? virtualProject r "tool" e.2 = some i :=
        exists_section?_tool e.2
      rw [TableOf.names, entries_copied h]
      refine List.mem_map.mpr ⟨(.plain "tool", i), List.mem_cons_of_mem _ ?_, rfl⟩
      exact List.mem_filterMap.mpr ⟨e, he, by rw [hname, hi]; rfl⟩
    rw [TableOf.entries_set_of_mem htool, entries_copied h, List.map_cons, List.map_filterMap]
    refine congrArg (List.cons _) (List.filterMap_congr fun e he => ?_)
    rw [Option.map_map]
    by_cases hname : e.1.name = "tool"
    · have hvalue : ∀ old, e.2 ≠ .table old := by
        intro old hold
        exact htable (List.any_eq_true.mpr ⟨e, he, by simp [isToolTable, hold, hname]⟩)
      obtain ⟨i, hi⟩ : ∃ i, section? virtualProject r "tool" e.2 = some i :=
        exists_section?_tool e.2
      rw [renewed?_tool hname, newTool_of_ne hvalue, hname, hi]
      rfl
    · rw [renewed?_of_ne hname]
      refine congrArg (Option.map · _) (funext fun i => ?_)
      simp [Key.plain, hname]

/-! ### What is found in the new document -/

theorem get?_document_project (h : Convertible source) :
    (document source project virtualProject r).root.get? "project" = some (.table project) := by
  rw [TableOf.get?, entries_document h]
  rfl

theorem find?_renewed {k : String} : ∀ {es : List (Key × Item)}, (es.map (·.1.name)).Nodup →
    ((es.filterMap (renewed? virtualProject r)).find? fun e => e.1.name == k) =
      (es.find? fun e => e.1.name == k) >>= renewed? virtualProject r
  | [], _ => rfl
  | e :: es, h => by
    rw [List.map_cons, List.nodup_cons] at h
    have ih := find?_renewed (k := k) h.2
    by_cases he : e.1.name = k
    · cases hr : renewed? virtualProject r e with
      | none =>
        -- a section that goes leaves no other of its name
        have hnone : (es.find? fun e => e.1.name == k) = none := by
          rw [List.find?_eq_none]
          rintro e' he' hname
          have hname : e'.1.name = e.1.name := (beq_iff_eq.mp hname).trans he.symm
          exact h.1 (hname ▸ List.mem_map_of_mem (f := fun e => e.1.name) he')
        rw [List.filterMap_cons_none hr, ih, hnone, List.find?_cons_of_pos (by simpa using he)]
        exact hr.symm
      | some e' =>
        have he' : e'.1.name = k := (name_of_renewed? hr).trans he
        rw [List.filterMap_cons_some hr, List.find?_cons_of_pos (by simpa using he'),
          List.find?_cons_of_pos (by simpa using he)]
        exact hr.symm
    · rw [List.find?_cons_of_neg (by simpa using he), ← ih]
      cases hr : renewed? virtualProject r e with
      | none => rw [List.filterMap_cons_none hr]
      | some e' =>
        have he' : e'.1.name ≠ k := name_of_renewed? hr ▸ he
        rw [List.filterMap_cons_some hr, List.find?_cons_of_neg (by simpa using he')]

/-- Under each key but that of the project section there is what becomes of the old entry. -/
theorem find?_document (h : Convertible source) {k : String} (hk : k ≠ "project") :
    ((document source project virtualProject r).root.entries.find? fun e => e.1.name == k) =
      (source.root.entries.find? fun e => e.1.name == k) >>= renewed? virtualProject r := by
  rw [entries_document h, List.find?_cons_of_neg (by simpa [Key.plain] using Ne.symm hk)]
  exact find?_renewed h.apart

theorem get?_document_tool (h : Convertible source) :
    (document source project virtualProject r).root.get? "tool" =
      (source.root.get? "tool").map (newTool virtualProject r) := by
  rw [TableOf.get?, find?_document h (by decide), TableOf.get?]
  cases hfind : source.root.entries.find? fun e => e.1.name == "tool" with
  | none => rfl
  | some e =>
    have htool : e.1.name = "tool" := by simpa using List.find?_some hfind
    simp [renewed?_tool htool]

theorem get?_document_of_ne (h : Convertible source) {k : String} (hk : k ≠ "project")
    (htool : k ≠ "tool") : (document source project virtualProject r).root.get? k =
      source.root.get? k >>= section? virtualProject r k := by
  rw [TableOf.get?, find?_document h hk, TableOf.get?]
  cases hfind : source.root.entries.find? fun e => e.1.name == k with
  | none => rfl
  | some e =>
    obtain rfl : e.1.name = k := by simpa using List.find?_some hfind
    simp [renewed?_of_ne htool, Function.comp_def]

/-- The new tool section: the old tool is gone, the new tool and the new build backend have their
    settings in the places of whatever was there, and all else is kept. -/
theorem get?_toolTable {old : Table} {k : String} : (toolTable old virtualProject r).get? k =
    if k = "hatch" ∧ virtualProject = false then some (.table hatchTable)
    else if k = "rye" then some (.table (ryeTable virtualProject r))
    else if k = "poetry" then none
    else old.get? k := by
  have hkept : ((old.erase "poetry").set "rye" (.table (ryeTable virtualProject r))).get? k =
      if k = "rye" then some (.table (ryeTable virtualProject r))
      else if k = "poetry" then none else old.get? k := by
    rw [TableOf.get?_set]
    by_cases hk : k = "poetry"
    · rw [if_pos hk, hk, TableOf.get?_erase_self]
    · rw [if_neg hk, TableOf.get?_erase hk]
  rw [toolTable]
  cases virtualProject with
  | true => simpa using hkept
  | false => simp only [Bool.false_eq_true, if_false, TableOf.get?_set, hkept, and_true]

/-! ### Where the old section is found -/

/-- The item of a key says what is said under that key. -/
theorem data_itemOf? (k : String) : ∀ i : Item, (itemOf? k i).map Item.data = i.data.get? k
  | .table t => (get?_data_table t k).symm
  | .value (.scalar _ _ _) => rfl
  | .value (.array _ _ _ _) => rfl
  | .value (.inline entries dotted head margin) => by
    change _ = (inlineData entries).lookup k
    rw [lookup_inlineData, itemOf?, Option.map_map, Option.map_map]
    rfl
  | .tables _ => rfl

/-- Only a table can say a table. -/
theorem isTableLike_of_unmark? {i : Item} {entries : List (String × Data)}
    (h : i.data.unmark? = some (.table entries)) : isTableLike i = true := by
  cases i with
  | table t => rfl
  | tables ts =>
    obtain ⟨items, -, h⟩ := Option.map_eq_some_iff.mp h
    cases h
  | value v =>
    cases v with
    | scalar s _ _ => cases h
    | inline _ _ _ _ => rfl
    | array _ _ _ _ =>
      obtain ⟨items, -, h⟩ := Option.map_eq_some_iff.mp h
      cases h

/-! ### The name comes first in the project section -/

section
variable {t u : Table} {first k : String} (ht : t.names.head? = some first)
include ht

theorem head?_addText (text? : Option String) : (addText k text? t).names.head? = some first := by
  cases text? with
  | none => exact ht
  | some text => exact TableOf.head?_names_set ht

theorem head?_addPeople {entries : List String} (h : addPeople k entries t = .ok u) :
    u.names.head? = some first := by
  rw [addPeople] at h
  split at h
  · cases h
    exact ht
  · obtain ⟨v, -, hset⟩ := bind_eq_ok.mp h
    cases hset
    exact TableOf.head?_names_set ht

theorem head?_addCopy (poetry : Item) : (addCopy poetry t k).names.head? = some first := by
  rw [addCopy]
  split
  · exact TableOf.head?_names_set ht
  · exact ht

end

theorem head?_addCopies (poetry : Item) {first : String} : ∀ (keys : List String) {t : Table},
    t.names.head? = some first → (keys.foldl (addCopy poetry) t).names.head? = some first
  | [], _, ht => ht
  | _ :: keys, _, ht => head?_addCopies poetry keys (head?_addCopy ht poetry)

theorem head?_projectTable {poetry : Item} {m : Metadata} (h : projectTable poetry m r = .ok project) :
    project.names.head? = some "name" := by
  obtain ⟨t, hauthors, h⟩ := bind_eq_ok.mp h
  obtain ⟨u, hmaintainers, h⟩ := bind_eq_ok.mp h
  have hstart : (addText "name" (some m.name) (.empty : Table)).names.head? = some "name" := rfl
  have ht := head?_addPeople (head?_addText (head?_addText hstart _) _) hauthors
  have hcopied := head?_addCopies poetry copiedKeys (head?_addPeople ht hmaintainers)
  have hmain : ((copiedKeys.foldl (addCopy poetry) u).set "dependencies"
      (.value (requirementsValue r.main))).names.head? = some "name" :=
    TableOf.head?_names_set hcopied
  have hall := head?_addText (k := "requires-python") hmain r.interpreter
  cases h
  split
  · exact hall
  · exact TableOf.head?_names_set hall

theorem projectTable_unmarked {poetry : Item} {m : Metadata}
    (h : projectTable poetry m r = .ok project) : project.names.head? ≠ some Moment.mark := by
  rw [head?_projectTable h]
  decide

/-- Nothing is wrong with the people of a project that has none. -/
theorem exists_projectTable {m : Metadata} (hauthors : m.authors = []) (hmaintainers : m.maintainers = [])
    (r : Requirements) (poetry : Item) : ∃ project, projectTable poetry m r = .ok project := by
  rw [projectTable, hauthors, hmaintainers]
  exact ⟨_, rfl⟩

end Conversion

namespace Manifest

variable {text out : String} {m : Manifest} {virtualProject : Bool} {r : Requirements}
  {d : Document}

/-- The document that the text of a manifest is, with its comments and spelling. -/
def document (m : Manifest) : Document := (Document.parse? m.text).getD ⟨.empty, ""⟩

/-- What is read when a text is a manifest. -/
theorem reads_of_parse (h : parse text = .ok m) : m.text = text ∧
    ∃ document data, Document.parse? text = some document ∧ document.data? = some data ∧
      data.get? "project" = none ∧ data.at? ["tool", "poetry"] = some (.table m.poetry) ∧
      readMetadata m.poetry = .ok m.metadata := by
  rw [parse] at h
  split at h
  · cases h
  · next document hdocument =>
    rw [ofDocument] at h
    split at h
    · cases h
    · next data hdata =>
      split at h
      · cases h
      · next hproject =>
        split at h
        · next poetry hpoetry =>
          obtain ⟨metadata, hmetadata, h⟩ := bind_eq_ok.mp h
          cases h
          obtain ⟨tool, htool, hpoetry⟩ := Option.bind_eq_some_iff.mp hpoetry
          refine ⟨rfl, document, data, hdocument, hdata, by simpa using hproject, ?_, hmetadata⟩
          simp [Data.at?, htool, hpoetry]
        · cases h

/-- What makes a text a manifest. -/
theorem exists_of_parse (h : parse text = .ok m) : Document.parse? text = some m.document ∧
    ∃ data, m.document.data? = some data ∧ data.get? "project" = none ∧
      data.at? ["tool", "poetry"] = some (.table m.poetry) ∧
      readMetadata m.poetry = .ok m.metadata := by
  obtain ⟨htext, document, data, hdocument, hdata⟩ := reads_of_parse h
  have hsame : m.document = document := by rw [Manifest.document, htext, hdocument, Option.getD_some]
  exact ⟨hsame ▸ hdocument, data, hsame ▸ hdata⟩

/-- A manifest has a tool section, no project section, and each section once. -/
theorem convertible (h : parse text = .ok m) : Conversion.Convertible m.document := by
  obtain ⟨hdocument, data, hdata, hproject, hpoetry, -⟩ := exists_of_parse h
  obtain ⟨tool, htool, -⟩ := Option.bind_eq_some_iff.mp hpoetry
  refine ⟨Document.names_nodup hdocument, ?_, ?_⟩
  · have hnone := Document.isSome_get?_data? hdata "project"
    rw [hproject] at hnone
    exact TableOf.get?_eq_none_iff.mp (by simpa using hnone.symm)
  · have hsome := Document.isSome_get?_data? hdata "tool"
    rw [htool] at hsome
    obtain ⟨i, hi⟩ := Option.isSome_iff_exists.mp hsome.symm
    exact TableOf.mem_names_of_get? hi

/-- The document that a conversion makes of a manifest. -/
def Converts (m : Manifest) (virtualProject : Bool) (r : Requirements) (d : Document) : Prop :=
  ∃ project, Conversion.projectTable ((Conversion.poetryItem? m.document).getD (.table .empty))
      m.metadata r = .ok project ∧ d = Conversion.document m.document project virtualProject r

/-- What a manifest says of the old tool is found in its document again. -/
theorem exists_poetryItem (h : parse text = .ok m) :
    ∃ poetry, Conversion.poetryItem? m.document = some poetry ∧
      Conversion.isTableLike poetry = true := by
  obtain ⟨-, data, hdata, -, hpoetry, -⟩ := exists_of_parse h
  obtain ⟨tool, htool, hpoetry⟩ := Option.bind_eq_some_iff.mp hpoetry
  obtain ⟨_, hsection, hpoetry⟩ := Option.bind_eq_some_iff.mp hpoetry
  cases hpoetry
  rw [Document.get?_data? hdata, get?_data_document] at htool
  obtain ⟨written, hwritten, htool⟩ := Option.bind_eq_some_iff.mp htool
  obtain ⟨item, hitem, rfl⟩ := Option.map_eq_some_iff.mp hwritten
  obtain ⟨said, hsaid, hunmark⟩ := Data.exists_of_unmark? htool hsection
  rw [← Conversion.data_itemOf?] at hsaid
  obtain ⟨poetry, hfound, rfl⟩ := Option.map_eq_some_iff.mp hsaid
  refine ⟨poetry, ?_, Conversion.isTableLike_of_unmark? hunmark⟩
  rw [Conversion.poetryItem?, hitem]
  exact hfound

/-- A manifest that was read is always read again, so that only the people can be wrong. -/
theorem convert_eq (h : parse text = .ok m) : m.convert virtualProject r =
    match Conversion.projectTable ((Conversion.poetryItem? m.document).getD (.table .empty))
      m.metadata r with
    | .error entry => .error (.malformedPerson entry)
    | .ok project => .ok (Conversion.document m.document project virtualProject r).print := by
  obtain ⟨poetry, hpoetry, hlike⟩ := exists_poetryItem h
  have hread : Document.parse? m.text = some m.document := by
    rw [(reads_of_parse h).1]
    exact (exists_of_parse h).1
  have hsection : (Conversion.poetryItem? m.document).filter Conversion.isTableLike = some poetry := by
    rw [hpoetry, Option.filter_some, if_pos hlike]
  have hgiven : (Conversion.poetryItem? m.document).getD (.table .empty) = poetry := by
    rw [hpoetry, Option.getD_some]
  rw [convert, hread, hgiven]
  cases hproject : Conversion.projectTable poetry m.metadata r with
  | error entry => simp only [hsection, hproject]
  | ok project => simp only [hsection, hproject]

theorem convert_eq_ok_iff (h : parse text = .ok m) :
    m.convert virtualProject r = .ok out ↔ ∃ d, m.Converts virtualProject r d ∧ out = d.print := by
  rw [convert_eq h]
  constructor
  · intro hout
    split at hout
    · cases hout
    · next project hproject => exact ⟨_, ⟨project, hproject, rfl⟩, (Except.ok.inj hout).symm⟩
  · rintro ⟨d, ⟨project, hproject, rfl⟩, rfl⟩
    rw [hproject]

/-- What comes out of a conversion is the text of the document that is made for some project section. -/
theorem exists_document_of_convert (h : parse text = .ok m)
    (hout : m.convert virtualProject r = .ok out) : ∃ project,
      m.Converts virtualProject r (Conversion.document m.document project virtualProject r) ∧
        out = (Conversion.document m.document project virtualProject r).print := by
  obtain ⟨d, ⟨project, hproject, rfl⟩, hprint⟩ := (convert_eq_ok_iff h).mp hout
  exact ⟨project, ⟨project, hproject, rfl⟩, hprint⟩

/-- A manifest without authors and maintainers is always converted. -/
theorem exists_convert_of_no_people (h : parse text = .ok m) (hauthors : m.metadata.authors = [])
    (hmaintainers : m.metadata.maintainers = []) (virtualProject : Bool) (r : Requirements) :
    ∃ out, m.convert virtualProject r = .ok out := by
  obtain ⟨project, hproject⟩ := Conversion.exists_projectTable hauthors hmaintainers r
    ((Conversion.poetryItem? m.document).getD (.table .empty))
  exact ⟨_, (convert_eq_ok_iff h).mpr ⟨_, ⟨project, hproject, rfl⟩, rfl⟩⟩

theorem Converts.unique {d' : Document} (h : m.Converts virtualProject r d)
    (h' : m.Converts virtualProject r d') : d = d' := by
  obtain ⟨project, hproject, rfl⟩ := h
  obtain ⟨project', hproject', rfl⟩ := h'
  obtain rfl := Except.ok.inj (hproject.symm.trans hproject')
  rfl

theorem parse?_of_asciiChars? {s : String} {document : Document}
    (h : Text.asciiChars? s >>= Document.ofChars? = some document) :
    Document.parse? s = some document := by
  obtain ⟨chars, hchars, hdocument⟩ := Option.bind_eq_some_iff.mp h
  rw [Document.parse?, Text.toList_of_asciiChars? hchars, hdocument]

/-- A text in ASCII is a manifest, and a check of its document and of itself comes out true. -/
def readsAs (text : String) (check : Document → Manifest → Bool) : Bool :=
  (Text.asciiChars? text >>= Document.ofChars?).any fun document =>
    (ofDocument text document).toOption.any (check document)

theorem exists_of_readsAs {check : Document → Manifest → Bool} (h : readsAs text check = true) :
    ∃ m, parse text = .ok m ∧ check m.document m = true := by
  obtain ⟨document, hdocument, h⟩ := (Option.any_eq_true ..).mp h
  obtain ⟨m, hm, hcheck⟩ := exists_ok_of_any h
  have hread : Document.parse? text = some document := parse?_of_asciiChars? hdocument
  have hparse : parse text = .ok m := by
    rw [parse, hread]
    exact hm
  have hsame : m.document = document := by
    rw [Manifest.document, (reads_of_parse hparse).1, hread, Option.getD_some]
  exact ⟨m, hparse, hsame ▸ hcheck⟩

/-- A text is a manifest, and something holds of it, of its document and of the document that a
    conversion without requirements makes of it. -/
def passes (text : String) (virtualProject : Bool) (P : Manifest → Document → Document → Prop)
    [∀ m source d, Decidable (P m source d)] : Bool :=
  readsAs text fun source m =>
    (Conversion.projectTable ((Conversion.poetryItem? source).getD (.table .empty))
      m.metadata ⟨none, [], []⟩).toOption.any fun project =>
        decide (P m source (Conversion.document source project virtualProject ⟨none, [], []⟩))

theorem exists_of_passes (text : String) (virtualProject : Bool)
    (P : Manifest → Document → Document → Prop) [∀ m source d, Decidable (P m source d)]
    (h : passes text virtualProject P = true) :
    ∃ m d, parse text = .ok m ∧ m.Converts virtualProject ⟨none, [], []⟩ d ∧ P m m.document d := by
  obtain ⟨m, hm, h⟩ := exists_of_readsAs h
  obtain ⟨project, hproject, h⟩ := exists_ok_of_any h
  exact ⟨m, _, hm, ⟨project, hproject, rfl⟩, of_decide_eq_true h⟩

/-- A new manifest has a project section. -/
theorem Converts.project (hm : parse text = .ok m) (hd : m.Converts virtualProject r d) {data : Data}
    (hdata : d.data? = some data) : ∃ entries, data.at? ["project"] = some (.table entries) := by
  have hsource := convertible hm
  obtain ⟨project, hproject, rfl⟩ := hd
  have hthere : (Conversion.document m.document project virtualProject r).root.get? "project" =
      some (.table project) := Conversion.get?_document_project hsource
  have hsome := Document.isSome_get?_data? hdata "project"
  have hlookup := Document.get?_data? hdata "project"
  rw [hthere] at hsome
  rw [get?_data_document, hthere] at hlookup
  obtain ⟨u, hu⟩ := Option.isSome_iff_exists.mp hsome
  rw [hu] at hlookup
  obtain ⟨entries, rfl, -⟩ := unmark?_table (Conversion.projectTable_unmarked hproject) hlookup.symm
  exact ⟨entries, by rw [Data.at?, hu]; rfl⟩

/-- A new manifest has no section of the old tool. -/
theorem Converts.noPoetry (hm : parse text = .ok m) (hd : m.Converts virtualProject r d) {data : Data}
    (hdata : d.data? = some data) : data.at? ["tool", "poetry"] = none := by
  have hsource := convertible hm
  obtain ⟨project, -, rfl⟩ := hd
  by_contra hsome
  obtain ⟨x, hx⟩ := Option.ne_none_iff_exists'.mp hsome
  obtain ⟨tool, htool, hx⟩ := Option.bind_eq_some_iff.mp hx
  obtain ⟨_, hpoetry, -⟩ := Option.bind_eq_some_iff.mp hx
  rw [Document.get?_data? hdata] at htool
  obtain ⟨written, hwritten, hunmark⟩ := Option.bind_eq_some_iff.mp htool
  obtain ⟨y, hy, -⟩ := Data.exists_of_unmark? hunmark hpoetry
  rw [get?_data_document, Conversion.get?_document_tool hsource] at hwritten
  obtain ⟨i, hi, rfl⟩ := Option.map_eq_some_iff.mp hwritten
  obtain ⟨old, -, rfl⟩ := Option.map_eq_some_iff.mp hi
  rw [Conversion.data_newTool, get?_data_table, Conversion.get?_toolTable] at hy
  simp at hy

/-- Whatever a manifest is converted to, the text of that is read back as what it says. -/
def ConvertsReadably (text : String) (virtualProject : Bool) : Prop :=
  ∀ m ds doc, parse text = .ok m → m.dependencies = .ok ds →
    m.Converts virtualProject (.ofDependencies ds) doc → doc.ReadsBack

end Manifest

namespace Project

/-- A project that is loaded has a manifest that is read. -/
theorem exists_parse_of_load {t : Tree} {root : Path} {locate : Bool} {project : Project}
    (h : load t root locate = .ok project) : ∃ text,
      readManifest t (manifestPath root) = .ok text ∧ Manifest.parse text = .ok project.manifest := by
  rw [load] at h
  simp only at h
  split at h
  · cases h
  obtain ⟨text, htext, h⟩ := bind_eq_ok.mp h
  split at h
  · cases h
  case h_2 manifest hparse =>
    split at h
    · obtain ⟨layout, -, h⟩ := bind_eq_ok.mp h
      cases h
      exact ⟨text, htext, hparse⟩
    · cases h
      exact ⟨text, htext, hparse⟩

end Project

end ManifestMigration
