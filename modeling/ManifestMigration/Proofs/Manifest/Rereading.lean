import ManifestMigration.Proofs.Manifest.BuildBackend
import ManifestMigration.Proofs.Manifest.Declarations
import ManifestMigration.Proofs.Manifest.Writing

/-! What the text of a new manifest says, and how it is written, when it is read again.

    What a conversion lists, keeps and switches is known of the document that is printed. As far as the
    text is read back as what the document says, it holds of the text, beside what the text of the old
    manifest says. The moments are in their places then, on either side. A tool section with the key that
    marks a moment would turn into one where only the old tool's section stood before that key, so such a
    tool section is left aside. -/

namespace ManifestMigration

open Toml

namespace Toml

/-! ### Marked tables and lists of texts -/

theorem TableOf.head?_names_set_ne {ι : Type} {t : TableOf ι} {name first : String} {item : ι}
    (h : t.names.head? ≠ some first) (hname : name ≠ first) :
    (t.set name item).names.head? ≠ some first := by
  rw [TableOf.names_set]
  split
  · exact h
  · cases hnames : t.names with
    | nil => simpa using hname
    | cons k names =>
      rw [hnames] at h
      exact h

/-- A table is a table or a moment, with the moments in their places. -/
theorem table_or_moment_of_unmark? {es : List (String × Data)} {u : Data}
    (h : (Data.table es).unmark? = some u) :
    (∃ us, u = .table us) ∨ ∃ moment, u = .scalar (.moment moment) := by
  change unmarkTable? es = some u at h
  cases es with
  | nil =>
    cases h
    exact .inl ⟨[], rfl⟩
  | cons e es =>
    rw [unmarkTable?] at h
    split at h
    · obtain ⟨moment, -, h⟩ := Option.map_eq_some_iff.mp h
      cases h
      exact .inr ⟨moment, rfl⟩
    · obtain ⟨value, -, h⟩ := Option.bind_eq_some_iff.mp h
      obtain ⟨us, -, h⟩ := Option.bind_eq_some_iff.mp h
      cases h
      exact .inl ⟨_, rfl⟩

theorem string?_of_unmark? {d u : Data} (h : d.unmark? = some u) : u.string? = d.string? := by
  cases d with
  | scalar s =>
    cases h
    rfl
  | array items =>
    obtain ⟨items', -, h⟩ := Option.map_eq_some_iff.mp h
    cases h
    rfl
  | table es =>
    obtain ⟨us, rfl⟩ | ⟨moment, rfl⟩ := table_or_moment_of_unmark? h
    · rfl
    · rfl

/-- A table that stays a table has its entries with the moments in their places. -/
theorem unmarkEntries?_of_unmark? {t : Table} {us : List (String × Data)}
    (h : (Item.table t).data.unmark? = some (.table us)) :
    unmarkEntries? (itemsData t.entries) = some us := by
  obtain ⟨es, hes, hus⟩ := Data.exists_entries_of_unmark? h
  rw [data_table] at hes
  cases hes
  exact hus

section
variable {t inside : Table} {us : List (String × Data)} {k : String} {i : Item}
  (hus : unmarkEntries? (itemsData t.entries) = some us)
include hus

theorem lookup_unmarked (k : String) : us.lookup k = (t.get? k).map Item.data >>= Data.unmark? := by
  rw [lookup_unmarkEntries? k hus, lookup_itemsData, TableOf.get?]

theorem isSome_lookup_unmarked (k : String) : (us.lookup k).isSome = (t.get? k).isSome := by
  rw [isSome_lookup_unmarkEntries? k hus, lookup_itemsData, Option.isSome_map, TableOf.get?]

/-- Under a key with a table that does not start with the mark, a table is said. -/
theorem exists_table_unmarked (hi : t.get? k = some i) (hdata : i.data = (Item.table inside).data)
    (hmark : inside.names.head? ≠ some Moment.mark) :
    ∃ us', us.lookup k = some (.table us') ∧ unmarkEntries? (itemsData inside.entries) = some us' := by
  have hlookup := lookup_unmarked hus k
  have hsome := isSome_lookup_unmarked hus k
  rw [hi] at hsome hlookup
  obtain ⟨u, hu⟩ := Option.isSome_iff_exists.mp hsome
  rw [hu, Option.map_some, Option.bind_eq_bind, Option.bind_some, hdata] at hlookup
  obtain ⟨us', rfl, hus'⟩ := unmark?_table hmark hlookup.symm
  exact ⟨us', hu, hus'⟩

end

end Toml

namespace Conversion

theorem unmark?_texts (rs : List String) : (texts rs).unmark? = some (texts rs) := by
  have hitems : ∀ rs : List String, unmarkItems? (rs.map fun s => .scalar (.string s)) =
      some (rs.map fun s => .scalar (.string s)) := by
    intro rs
    induction rs with
    | nil => rfl
    | cons s rs ih =>
      rw [List.map_cons, unmarkItems?, ih]
      rfl
  exact congrArg (Option.map Data.array) (hitems rs)

theorem lookup_requirements {t : Table} {us : List (String × Data)} {k : String} {rs : List String}
    (hus : unmarkEntries? (itemsData t.entries) = some us)
    (hk : t.get? k = some (.value (requirementsValue rs))) : us.lookup k = some (texts rs) := by
  rw [lookup_unmarked hus, hk]
  exact (congrArg Data.unmark? (data_requirementsValue rs)).trans (unmark?_texts rs)

/-- A list of texts is said in one way only. -/
theorem eq_of_same_texts {rs : List String} {a : Data} (h : a.Same (texts rs)) : a = texts rs := by
  have hscalars : texts rs = .array ((rs.map Scalar.string).map .scalar) := by
    rw [texts, List.map_map]
    rfl
  rw [hscalars] at h ⊢
  exact h.eq_of_scalars

/-! ### The switch of the build section, with the moments in their places -/

theorem unmarkItems?_kept : ∀ {items items' : List Data}, unmarkItems? items = some items' →
    unmarkItems? ((items.filter fun d => !asksForOldBackend d) ++ [newBackend]) =
      some ((items'.filter fun d => !asksForOldBackend d) ++ [newBackend])
  | [], items', h => by
    cases h
    rfl
  | d :: items, items', h => by
    rw [unmarkItems?] at h
    obtain ⟨u, hu, h⟩ := Option.bind_eq_some_iff.mp h
    obtain ⟨us, hus, h⟩ := Option.bind_eq_some_iff.mp h
    cases h
    have ih := unmarkItems?_kept hus
    have hasks : asksForOldBackend u = asksForOldBackend d := by
      rw [asksForOldBackend, string?_of_unmark? hu, asksForOldBackend]
    rw [List.filter_cons, List.filter_cons, hasks]
    split
    · rw [List.cons_append, unmarkItems?, hu, ih]
      rfl
    · exact ih

theorem unmark?_keptRequirements {old? : Option Data} (h : ∀ d ∈ old?, d.unmark?.isSome) :
    (Data.array (keptRequirements old? ++ [newBackend])).unmark? =
      some (.array (keptRequirements (old? >>= Data.unmark?) ++ [newBackend])) := by
  cases old? with
  | none => rfl
  | some d =>
    obtain ⟨u, hu⟩ := Option.isSome_iff_exists.mp (h d rfl)
    rw [Option.bind_eq_bind, Option.bind_some, hu]
    cases d with
    | scalar s =>
      cases hu
      rfl
    | array items =>
      obtain ⟨items', hitems, hu⟩ := Option.map_eq_some_iff.mp hu
      cases hu
      exact congrArg (Option.map Data.array) (unmarkItems?_kept hitems)
    | table es =>
      -- what a table turns into is no array, so nothing is kept of it either way
      obtain ⟨us, rfl⟩ | ⟨moment, rfl⟩ := table_or_moment_of_unmark? hu
      · rfl
      · rfl

variable {es es' us us' : List (String × Data)}

theorem isSome_of_lookup (hus : unmarkEntries? es = some us) (k : String) :
    ∀ d ∈ es.lookup k, d.unmark?.isSome := by
  intro d hd
  have hsome := isSome_lookup_unmarkEntries? k hus
  rw [lookup_unmarkEntries? k hus, hd] at hsome
  exact hsome

/-- A section that is switched is switched with the moments in their places as well. -/
theorem Switched.unmark (h : Switched es es') (hus : unmarkEntries? es = some us)
    (hus' : unmarkEntries? es' = some us') : Switched us us' where
  backend := by
    rw [lookup_unmarkEntries? _ hus', h.backend]
    rfl
  requires := by
    rw [lookup_unmarkEntries? _ hus', h.requires, lookup_unmarkEntries? _ hus]
    exact unmark?_keptRequirements (isSome_of_lookup hus "requires")
  others k hrequires hbackend := by
    rw [lookup_unmarkEntries? _ hus', h.others k hrequires hbackend, lookup_unmarkEntries? _ hus]

theorem unmarked_buildTable {old : Table} (h : old.names.head? ≠ some Moment.mark) :
    (buildTable old).names.head? ≠ some Moment.mark :=
  TableOf.head?_names_set_ne (TableOf.head?_names_set_ne h (by decide)) (by decide)

/-! ### The sections of the new document, with the moments in their places -/

section
variable {source : Document} {project old : Table} {virtualProject : Bool} {r : Requirements}
  {data said : List (String × Data)} {i : Item} {k : String}

theorem toolTable_unmarked (hmark : old.get? Moment.mark = none) :
    (toolTable old virtualProject r).names.head? ≠ some Moment.mark := by
  intro hhead
  have hnone : (toolTable old virtualProject r).get? Moment.mark = none := by
    rw [get?_toolTable, if_neg (by simp [Moment.mark]), if_neg (by decide), if_neg (by decide), hmark]
  exact TableOf.get?_eq_none_iff.mp hnone (List.mem_of_mem_head? hhead)

theorem ryeTable_unmarked : (ryeTable virtualProject r).names.head? ≠ some Moment.mark := by
  have hmanaged : ((TableOf.empty : Table).set "managed" (.value (.boolean true))).names.head? ≠
      some Moment.mark := by decide
  have hvirtual : (((TableOf.empty : Table).set "managed" (.value (.boolean true))).set "virtual"
      (.value (.boolean true))).names.head? ≠ some Moment.mark := by decide
  rw [ryeTable]
  cases virtualProject with
  | true =>
    simp only [if_true]
    split
    · exact hvirtual
    · exact TableOf.head?_names_set_ne hvirtual (by decide)
  | false =>
    simp only [Bool.false_eq_true, if_false]
    split
    · exact hmanaged
    · exact TableOf.head?_names_set_ne hmanaged (by decide)

section
variable (hdata : unmarkEntries? (itemsData source.root.entries) = some data)
  (hpoetry : ((Data.table data).at? ["tool", "poetry"]).isSome)
include hdata hpoetry

/-- A tool section that the old tool has a section in stays a table. -/
theorem exists_tool_told (hi : source.root.get? "tool" = some (.table old)) :
    ∃ us, data.lookup "tool" = some (.table us) ∧ unmarkEntries? (itemsData old.entries) = some us := by
  obtain ⟨poetry, hpoetry⟩ := Option.isSome_iff_exists.mp hpoetry
  obtain ⟨tool, htool, hpoetry⟩ := Option.bind_eq_some_iff.mp hpoetry
  obtain ⟨_, hsection, -⟩ := Option.bind_eq_some_iff.mp hpoetry
  have hlookup := lookup_unmarked hdata "tool"
  rw [Data.get?] at htool
  rw [hi, htool, Option.map_some, Option.bind_eq_bind, Option.bind_some] at hlookup
  cases tool with
  | scalar s => cases hsection
  | array items => cases hsection
  | table us => exact ⟨us, htool, unmarkEntries?_of_unmark? hlookup.symm⟩

theorem get?_oldTool_mark (hi : source.root.get? "tool" = some i)
    (hmark : (Data.table data).at? ["tool", Moment.mark] = none) :
    (oldTool i).get? Moment.mark = none := by
  cases i with
  | value v => exact TableOf.get?_mentioned
  | tables ts => exact TableOf.get?_mentioned
  | table old =>
    obtain ⟨us, hlookup, hus⟩ := exists_tool_told hdata hpoetry hi
    have hsome := isSome_lookup_unmarked hus Moment.mark
    have hnone : us.lookup Moment.mark = none := by
      simpa [Data.at?, Data.get?, hlookup] using hmark
    rw [hnone] at hsome
    exact Option.isNone_iff_eq_none.mp (by simpa [oldTool] using hsome.symm)

end

variable (h : Convertible source)
  (hsaid : unmarkEntries? (itemsData (document source project virtualProject r).root.entries) =
    some said)
include h hsaid

theorem at?_said_dependencies {poetry : Item} {m : Metadata}
    (hproject : projectTable poetry m r = .ok project) :
    (Data.table said).at? ["project", "dependencies"] = some (texts r.main) := by
  obtain ⟨us, hlookup, hus⟩ := exists_table_unmarked hsaid (get?_document_project h) rfl
    (projectTable_unmarked hproject)
  have hlisted := lookup_requirements hus (get?_projectTable hproject)
  simp [Data.at?, Data.get?, hlookup, hlisted]

theorem exists_tool_said (hi : source.root.get? "tool" = some i)
    (hmark : (oldTool i).get? Moment.mark = none) : ∃ us, said.lookup "tool" = some (.table us) ∧
      unmarkEntries? (itemsData (toolTable (oldTool i) virtualProject r).entries) = some us := by
  have htool : (document source project virtualProject r).root.get? "tool" =
      some (newTool virtualProject r i) := by rw [get?_document_tool h, hi, Option.map_some]
  exact exists_table_unmarked hsaid htool (data_newTool i) (toolTable_unmarked hmark)

theorem at?_said_devDependencies (hi : source.root.get? "tool" = some i)
    (hmark : (oldTool i).get? Moment.mark = none) :
    (Data.table said).at? ["tool", "rye", "dev-dependencies"] =
      if r.dev = [] then none else some (texts r.dev) := by
  obtain ⟨us, hlookup, hus⟩ := exists_tool_said h hsaid hi hmark
  have hrye : (toolTable (oldTool i) virtualProject r).get? "rye" =
      some (.table (ryeTable virtualProject r)) := by
    rw [get?_toolTable, if_neg (by simp), if_pos rfl]
  obtain ⟨us', hlookup', hus'⟩ := exists_table_unmarked hus hrye rfl ryeTable_unmarked
  have hdevKey := get?_ryeTable (r := r) virtualProject
  by_cases hdev : r.dev = []
  · rw [if_pos hdev] at hdevKey ⊢
    have hnone : us'.lookup "dev-dependencies" = none := by
      rw [lookup_unmarked hus', hdevKey]
      rfl
    simp [Data.at?, Data.get?, hlookup, hlookup', hnone]
  · rw [if_neg hdev] at hdevKey ⊢
    have hlisted := lookup_requirements hus' hdevKey
    simp [Data.at?, Data.get?, hlookup, hlookup', hlisted]

/-- A section that is not rewritten says what it said. -/
theorem at?_said_of_notMem (hdata : unmarkEntries? (itemsData source.root.entries) = some data)
    (hk : k ∉ rewrittenSections) : (Data.table said).at? [k] = (Data.table data).at? [k] := by
  simp only [rewrittenSections, List.mem_cons, List.not_mem_nil, or_false, not_or] at hk
  obtain ⟨hproject, htool, hbuild⟩ := hk
  have hlookup : said.lookup k = data.lookup k := by
    rw [lookup_unmarked hsaid, lookup_unmarked hdata, get?_document_of_ne h hproject htool]
    cases source.root.get? k with
    | none => rfl
    | some i =>
      simp only [Option.bind_eq_bind, Option.bind_some, section?_other hproject htool hbuild,
        Option.map_some, data_separated]
  simp only [Data.at?, Data.get?, hlookup]

/-- The settings of another tool say what they said, if they are no settings of the new build
    backend and not in a tool section that is replaced as a whole. -/
theorem at?_said_tool (hdata : unmarkEntries? (itemsData source.root.entries) = some data)
    (hpoetry : ((Data.table data).at? ["tool", "poetry"]).isSome)
    (hi : source.root.get? "tool" = some (.table old))
    (hmark : (Data.table data).at? ["tool", Moment.mark] = none) (hpoetryKey : k ≠ "poetry")
    (hrye : k ≠ "rye") (hhatch : ¬(k = "hatch" ∧ virtualProject = false)) :
    (Data.table said).at? ["tool", k] = (Data.table data).at? ["tool", k] := by
  obtain ⟨us, htold, hus⟩ := exists_tool_told hdata hpoetry hi
  obtain ⟨us', htool, hus'⟩ := exists_tool_said h hsaid hi (get?_oldTool_mark hdata hpoetry hi hmark)
  have hkept : us'.lookup k = us.lookup k := by
    rw [lookup_unmarked hus', lookup_unmarked hus, get?_toolTable, if_neg hhatch, if_neg hrye,
      if_neg hpoetryKey]
    rfl
  simp [Data.at?, Data.get?, htold, htool, hkept]

theorem at?_said_virtual (hvirtual : virtualProject = true) :
    (Data.table said).at? ["build-system"] = none := by
  have hlookup : said.lookup "build-system" = none := by
    rw [lookup_unmarked hsaid, get?_document_of_ne h (by decide) (by decide), hvirtual]
    cases source.root.get? "build-system" <;> rfl
  rw [Data.at?, Data.get?, hlookup]
  rfl

/-- A build section with a header or of dotted keys is switched. -/
theorem exists_switched_said (hdata : unmarkEntries? (itemsData source.root.entries) = some data)
    (hvirtual : virtualProject = false) {us : List (String × Data)}
    (hold : (Data.table data).at? ["build-system"] = some (.table us))
    (hswitchable : (source.root.get? "build-system").any isSwitchable = true) :
    ∃ us', (Data.table said).at? ["build-system"] = some (.table us') ∧ Switched us us' := by
  obtain ⟨i, hi, hswitchable⟩ := (Option.any_eq_true ..).mp hswitchable
  have hlookup := lookup_unmarked hdata "build-system"
  obtain ⟨_, hold, hsame⟩ := Option.bind_eq_some_iff.mp hold
  cases hsame
  rw [Data.get?] at hold
  rw [hi, hold, Option.map_some, Option.bind_eq_bind, Option.bind_some] at hlookup
  cases i with
  | value v => cases hswitchable
  | tables ts => cases hswitchable
  | table t =>
    have hus := unmarkEntries?_of_unmark? hlookup.symm
    have hget : (document source project virtualProject r).root.get? "build-system" =
        some (separated (.table (buildTable t))) := by
      rw [get?_document_of_ne h (by decide) (by decide), hi, hvirtual]
      rfl
    obtain ⟨us', hus', hentries⟩ := exists_table_unmarked hsaid hget (data_separated _)
      (unmarked_buildTable (head?_of_unmark? hlookup.symm))
    refine ⟨us', ?_, (switched_buildTable_iff.mpr hswitchable).unmark hus hentries⟩
    rw [Data.at?, Data.get?, hus']
    rfl

end

end Conversion

namespace Toml.Data.Same

variable {a b : Data} {path : List String}

theorem at?_of_texts (h : a.Same b) {rs : List String} (hb : b.at? path = some (Conversion.texts rs)) :
    a.at? path = some (Conversion.texts rs) := by
  obtain ⟨x, hx, hsame⟩ := h.at? hb
  rw [hx, Conversion.eq_of_same_texts hsame]

theorem sameAt_of_at?_eq (h : a.Same b) {c : Data} (hb : b.at? path = c.at? path) :
    SameAt (path.map .key) a c := by
  refine (h.sameAt _).trans (.of_part?_eq ?_)
  rw [part?_keys, part?_keys, hb]

end Toml.Data.Same

namespace Manifest

variable {text out : String} {m : Manifest} {ds : List Dependency} {virtualProject : Bool}

/-- What is said of a conversion: by the text before it, by the document that it makes and by the text
    that is printed. -/
structure Reread (text out : String) (m : Manifest) (virtualProject : Bool) (r : Requirements)
    (t : Table) (data said : List (String × Data)) (new : Data) : Prop where
  text : (Document.parse? text >>= Document.data?) = some (.table data)
  source : unmarkEntries? (itemsData m.document.root.entries) = some data
  poetry : (Data.table data).at? ["tool", "poetry"] = some (.table m.poetry)
  project : Conversion.projectTable ((Conversion.poetryItem? m.document).getD (.table .empty))
    m.metadata r = .ok t
  made : unmarkEntries?
    (itemsData (Conversion.document m.document t virtualProject r).root.entries) = some said
  out : (Document.parse? out >>= Document.data?) = some new
  same : new.Same (.table said)

theorem exists_reread (hm : parse text = .ok m) (hds : m.dependencies = .ok ds)
    (hout : m.convert virtualProject (.ofDependencies ds) = .ok out)
    (hreads : ConvertsReadably text virtualProject) : ∃ t data said new,
      Reread text out m virtualProject (.ofDependencies ds) t data said new := by
  obtain ⟨hparse, _, hdata, -, hpoetry, -⟩ := exists_of_parse hm
  obtain ⟨d, hd, rfl⟩ := (convert_eq_ok_iff hm).mp hout
  obtain ⟨_, new, hsaid, hnew, hsame⟩ := hreads m ds d hm hds hd
  obtain ⟨project, hproject, rfl⟩ := hd
  have htext : (Document.parse? text >>= Document.data?) = m.document.data? := by
    rw [hparse]
    rfl
  rw [hdata] at htext
  obtain ⟨data, hsource, rfl⟩ := Option.map_eq_some_iff.mp hdata
  obtain ⟨said, hmade, rfl⟩ := Option.map_eq_some_iff.mp hsaid
  exact ⟨project, data, said, new, htext, hsource, hpoetry, hproject, hmade, hnew, hsame⟩

/-- The text of the new manifest lists the requirements that the text of the old one asks for, one by
    one and in their order. -/
theorem requirements_read_back (hm : parse text = .ok m) (hds : m.dependencies = .ok ds)
    (hout : m.convert virtualProject (.ofDependencies ds) = .ok out)
    (hreads : ConvertsReadably text virtualProject) :
    ∃ data new, (Document.parse? text >>= Document.data?) = some data ∧
      (Document.parse? out >>= Document.data?) = some new ∧ ∃ main dev,
        List.Forall₂ (AsksFor .main)
          (declaredPackages (tableAt data (declarationPath data .main))) main ∧
        List.Forall₂ (AsksFor .dev)
          (declaredPackages (tableAt data (declarationPath data .dev))) dev ∧
        new.at? ["project", "dependencies"] = some (Conversion.texts main) ∧
        (data.at? ["tool", Moment.mark] = none →
          new.at? ["tool", "rye", "dev-dependencies"] =
            if dev = [] then none else some (Conversion.texts dev)) := by
  obtain ⟨project, data, said, new, h⟩ := exists_reread hm hds hout hreads
  have hsource := convertible hm
  obtain ⟨hmain, hdev⟩ := requirements_asked h.poetry hds
  refine ⟨_, new, h.text, h.out, _, _, hmain, hdev, ?_, fun hmark => ?_⟩
  · exact h.same.at?_of_texts (Conversion.at?_said_dependencies hsource h.made h.project)
  · obtain ⟨i, hi⟩ := TableOf.exists_get?_of_mem hsource.tool
    have hpoetry := Option.isSome_of_eq_some h.poetry
    have hunmarked := Conversion.get?_oldTool_mark h.source hpoetry hi hmark
    have hlisted := Conversion.at?_said_devDependencies hsource h.made hi hunmarked
    by_cases hempty : (Requirements.ofDependencies ds).dev = []
    · rw [if_pos hempty] at hlisted ⊢
      exact h.same.at?_of_none hlisted
    · rw [if_neg hempty] at hlisted ⊢
      exact h.same.at?_of_texts hlisted

/-- The text of the new manifest says in the sections that are not rewritten what the text of the old
    one says, and so it does of the settings of other tools. -/
theorem settings_read_back (hm : parse text = .ok m) (hds : m.dependencies = .ok ds)
    (hout : m.convert virtualProject (.ofDependencies ds) = .ok out)
    (hreads : ConvertsReadably text virtualProject) :
    ∃ data new, (Document.parse? text >>= Document.data?) = some data ∧
      (Document.parse? out >>= Document.data?) = some new ∧
      (∀ key ∉ Conversion.rewrittenSections, Data.SameAt [.key key] new data) ∧
      ∀ key, key ≠ "poetry" → key ≠ "rye" → ¬(key = "hatch" ∧ virtualProject = false) →
        (m.document.root.get? "tool").any Conversion.isTable = true →
        data.at? ["tool", Moment.mark] = none → Data.SameAt [.key "tool", .key key] new data := by
  obtain ⟨project, data, said, new, h⟩ := exists_reread hm hds hout hreads
  have hsource := convertible hm
  refine ⟨_, new, h.text, h.out, fun key hkey => ?_, fun key hpoetry hrye hhatch htable hmark => ?_⟩
  · exact h.same.sameAt_of_at?_eq (Conversion.at?_said_of_notMem hsource h.made h.source hkey)
  · obtain ⟨i, hi, htable⟩ := (Option.any_eq_true ..).mp htable
    obtain ⟨old, rfl⟩ := Conversion.isTable_iff.mp htable
    exact h.same.sameAt_of_at?_eq (Conversion.at?_said_tool hsource h.made
      h.source (Option.isSome_of_eq_some h.poetry) hi hmark hpoetry hrye hhatch)

/-- The text of the new manifest has no build section when the project is virtual, and a section that
    is switched when the old one is not inline and its requirements are no array of tables. -/
theorem backend_read_back (hm : parse text = .ok m) (hds : m.dependencies = .ok ds)
    (hout : m.convert virtualProject (.ofDependencies ds) = .ok out)
    (hreads : ConvertsReadably text virtualProject) :
    ∃ data new, (Document.parse? text >>= Document.data?) = some data ∧
      (Document.parse? out >>= Document.data?) = some new ∧
      (virtualProject = true → new.at? ["build-system"] = none) ∧
      (virtualProject = false →
        (m.document.root.get? "build-system").any Conversion.isSwitchable = true →
        ∀ old, data.at? ["build-system"] = some (.table old) →
          ∃ x switched, new.at? ["build-system"] = some x ∧ x.Same (.table switched) ∧
            Conversion.Switched old switched) := by
  obtain ⟨project, data, said, new, h⟩ := exists_reread hm hds hout hreads
  have hsource := convertible hm
  refine ⟨_, new, h.text, h.out, fun hvirtual => ?_, fun hvirtual hswitchable old hold => ?_⟩
  · exact h.same.at?_of_none (Conversion.at?_said_virtual hsource h.made hvirtual)
  · obtain ⟨switched, hsaid, hswitched⟩ := Conversion.exists_switched_said hsource h.made h.source
      hvirtual hold hswitchable
    obtain ⟨x, hx, hsame⟩ := h.same.at? hsaid
    exact ⟨x, switched, hx, hsame, hswitched⟩

/-- Whatever a manifest is converted to, the text of that is read back as it is written. -/
def ConvertsLegibly (text : String) (virtualProject : Bool) : Prop :=
  ∀ m ds doc, parse text = .ok m → m.dependencies = .ok ds →
    m.Converts virtualProject (.ofDependencies ds) doc → doc.WritesBack

/-- The text of the new manifest ends as that of the old one does, and in the sections that are copied
    it has the comments and the spelling of the old one where the document keeps them. -/
theorem writing_read_back (hm : parse text = .ok m) (hds : m.dependencies = .ok ds)
    (hout : m.convert virtualProject (.ofDependencies ds) = .ok out)
    (hlegible : ConvertsLegibly text virtualProject) :
    ∃ new, Document.parse? out = some new ∧ new.trailing = m.document.trailing ∧
      ∀ k path w, Conversion.Copied k path → m.document.writing? (.key k :: path) = some w →
        (new.writing? (.key k :: path) = some w ↔ Conversion.KeepsWriting m.document k path) := by
  obtain ⟨project, hd, rfl⟩ := exists_document_of_convert hm hout
  obtain ⟨new, hnew, htrailing, hwriting⟩ := hlegible m ds _ hm hds hd
  refine ⟨new, hnew, htrailing, fun k path w hcopied hw => ?_⟩
  rw [hwriting]
  exact Conversion.writing?_document_iff (convertible hm) hcopied hw

end Manifest

end ManifestMigration
