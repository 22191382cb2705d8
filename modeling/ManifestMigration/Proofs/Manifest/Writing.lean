import ManifestMigration.Proofs.Manifest.Settings
import ManifestMigration.Proofs.Toml.Writing

/-! Which comments and spellings survive a conversion.

    The sections that are copied are written as they were, at every depth, with two exceptions: the
    key of a section loses its comments and its spelling, and a tool section that is no table with a
    header or of dotted keys is replaced as a whole. -/

namespace ManifestMigration

open Toml

namespace Conversion

variable {source : Document} {project old : Table} {virtualProject : Bool} {r : Requirements}
  {k : String} {path : List Step} {step : Step} {w : Writing}

/-! ### What an item keeps -/

/-- An item is written as another one, and after a first step the same comes. -/
structure Keeps (step? : Option Step) (i i' : Item) : Prop where
  form : i'.form = i.form
  comments : i'.margin.comments = i.margin.comments
  inside : ∀ step ∈ step?, ∀ key key' : Option Key,
    (⟨key', i'⟩ : Place).inside? step = (⟨key, i⟩ : Place).inside? step

/-- With all else kept, it is up to the key of the item whether it is written as before. -/
theorem Keeps.writing_iff {key key' : Key} {i i' : Item} (h : Keeps path.head? i i')
    (hw : ((⟨some key, i⟩ : Place).at? path).map Place.writing = some w) :
    ((⟨some key', i'⟩ : Place).at? path).map Place.writing = some w ↔
      (path = [] → key'.writing = key.writing) := by
  cases path with
  | nil =>
    rw [← hw]
    simpa [Place.at?] using Place.writing_eq_iff h.form h.comments
  | cons step path =>
    have hsame := Place.at?_congr path (h.inside step rfl (some key) (some key'))
    rw [hsame, hw]
    simp

/-- A section may get an empty line before it, which is no comment. -/
theorem keeps_separated (step? : Option Step) (i : Item) : Keeps step? i (separated i) := by
  cases i with
  | value v => exact ⟨rfl, rfl, fun step _ _ _ => by cases v <;> cases step <;> rfl⟩
  | tables ts => exact ⟨rfl, rfl, fun step _ _ _ => by cases step <;> rfl⟩
  | table t =>
    rw [separated]
    split
    · exact ⟨rfl, rfl, fun step _ _ _ => by cases step <;> rfl⟩
    · next h =>
      have hbefore : t.margin.before.getD "" = "" := by
        simp only [Bool.or_eq_true, bne_iff_ne, not_or, not_not] at h
        exact h.2
      have hblank : comments (some "\n") = comments t.margin.before := by
        rw [comments, comments, hbefore]
        rfl
      refine ⟨rfl, ?_, fun step _ _ _ => by cases step <;> rfl⟩
      simp only [Item.margin, Margin.comments, hblank]

/-- The tools whose settings are taken out or put in. -/
def rewrittenTools : List String := ["poetry", "rye", "hatch"]

theorem find?_toolTable (hk : k ∉ rewrittenTools) :
    ((toolTable old virtualProject r).entries.find? fun e => e.1.name == k) =
      old.entries.find? fun e => e.1.name == k := by
  simp only [rewrittenTools, List.mem_cons, List.not_mem_nil, or_false, not_or] at hk
  obtain ⟨hpoetry, hrye, hhatch⟩ := hk
  have hkept : (((old.erase "poetry").set "rye" (.table (ryeTable virtualProject r))).entries.find?
      fun e => e.1.name == k) = old.entries.find? fun e => e.1.name == k := by
    rw [TableOf.find?_set_of_ne hrye, TableOf.find?_erase hpoetry]
  rw [toolTable]
  cases virtualProject with
  | true => exact hkept
  | false => exact (TableOf.find?_set_of_ne hhatch).trans hkept

theorem keeps_toolTable {step? : Option Step} (h : ∀ name ∈ rewrittenTools, step? ≠ some (.key name)) :
    Keeps step? (.table old) (.table (toolTable old virtualProject r)) := by
  refine ⟨?_, ?_, fun step hstep key key' => ?_⟩
  · cases virtualProject <;> simp [toolTable, Item.form, TableOf.erase]
  · cases virtualProject <;> simp [toolTable, Item.margin, TableOf.erase]
  · cases step with
    | element i => rfl
    | key name =>
      rw [Place.inside?, Place.inside?, find?_toolTable fun hmem => h name hmem hstep]

theorem Keeps.trans {step? : Option Step} {i i' i'' : Item} (h : Keeps step? i i')
    (h' : Keeps step? i' i'') : Keeps step? i i'' :=
  ⟨h'.form.trans h.form, h'.comments.trans h.comments, fun step hstep key key'' =>
    (h'.inside step hstep key key'').trans (h.inside step hstep key key)⟩

/-- What was written in a tool section that is replaced as a whole is not written there any more. -/
theorem writing_newTool_ne {key key' : Key} {i : Item} (hi : ∀ old, i ≠ .table old)
    (hpath : ∀ name ∈ rewrittenTools, path.head? ≠ some (.key name))
    (hw : ((⟨some key, i⟩ : Place).at? path).map Place.writing = some w) :
    ((⟨some key', newTool virtualProject r i⟩ : Place).at? path).map Place.writing ≠ some w := by
  have hempty : Keeps path.head? (.table (.mentioned false)) (newTool virtualProject r i) := by
    rw [newTool_of_ne hi]
    exact keeps_toolTable hpath
  cases path with
  | nil =>
    intro hnew
    have hform : (newTool virtualProject r i).form = i.form :=
      congrArg Writing.form (Option.some.inj (hnew.trans hw.symm))
    rw [hempty.form] at hform
    cases i with
    | table old => exact hi old rfl
    | tables ts => cases hform
    | value v => cases v <;> cases hform
  | cons step path =>
    rw [Place.at?, hempty.inside step rfl none]
    cases step <;> simp [Place.inside?, TableOf.mentioned]

/-! ### The new document -/

/-- A place in a section that is copied, `path` being the steps below the section. -/
structure Copied (k : String) (path : List Step) : Prop where
  noProject : k ≠ "project"
  noBuild : k ≠ "build-system"
  noTool : k = "tool" → ∀ name ∈ rewrittenTools, path.head? ≠ some (.key name)

/-- A table that has a header or comes from dotted keys. -/
def isTable : Item → Bool
  | .table _ => true
  | _ => false

theorem isTable_iff {i : Item} : isTable i = true ↔ ∃ old, i = .table old := by
  cases i <;> simp [isTable]

/-- A place in a section is written in the new document as it was: when it is the section itself, the
    key has no comments and its default spelling, and the tool section is a table with a header or of
    dotted keys. -/
structure KeepsWriting (source : Document) (k : String) (path : List Step) : Prop where
  key : path = [] → ∀ e ∈ source.root.entries.find? fun e => e.1.name == k,
    (Key.plain k).writing = e.1.writing
  tool : k = "tool" → (source.root.get? k).any isTable = true

theorem keepsWriting_iff {e : Key × Item}
    (hfind : (source.root.entries.find? fun e => e.1.name == k) = some e) :
    KeepsWriting source k path ↔ (path = [] → (Key.plain k).writing = e.1.writing) ∧
      (k = "tool" → isTable e.2 = true) := by
  have hget : (source.root.get? k).any isTable = isTable e.2 := by
    rw [TableOf.get?, hfind, Option.map_some, Option.any_some]
  constructor
  · intro h
    exact ⟨fun hpath => h.key hpath e hfind, fun htool => hget ▸ h.tool htool⟩
  · rintro ⟨hkey, htool⟩
    refine ⟨fun hpath e' he' => ?_, fun hk => hget ▸ htool hk⟩
    obtain rfl : e = e' := Option.some.inj (hfind.symm.trans he')
    exact hkey hpath

theorem writing?_document_iff (h : Convertible source) (hcopied : Copied k path)
    (hw : source.writing? (.key k :: path) = some w) :
    (document source project virtualProject r).writing? (.key k :: path) = some w ↔
      KeepsWriting source k path := by
  obtain ⟨e, hfind, hplace⟩ := Document.exists_of_writing? hw
  obtain rfl : e.1.name = k := by simpa using List.find?_some hfind
  rw [keepsWriting_iff hfind]
  have hnew {e' : Key × Item} (he' : renewed? virtualProject r e = some e') :
      (document source project virtualProject r).writing? (.key e.1.name :: path) =
        ((⟨some e'.1, e'.2⟩ : Place).at? path).map Place.writing := by
    refine Document.writing?_of_find? ?_
    rw [find?_document h hcopied.noProject, hfind]
    exact he'
  -- the new settings go into the tool section, and any other section is set as it is
  by_cases htool : e.1.name = "tool"
  · rw [hnew (renewed?_tool htool)]
    have hpath := hcopied.noTool htool
    by_cases htable : isTable e.2
    · have hkeeps : Keeps path.head? e.2 (newTool virtualProject r e.2) := by
        obtain ⟨old, hold⟩ := isTable_iff.mp htable
        rw [hold]
        exact (keeps_toolTable hpath).trans (keeps_separated _ _)
      rw [hkeeps.writing_iff hplace, htool]
      exact (and_iff_left fun _ => htable).symm
    · have hne : ∀ old, e.2 ≠ .table old := fun old hold => htable (isTable_iff.mpr ⟨old, hold⟩)
      exact iff_of_false (writing_newTool_ne hne hpath hplace) fun hkeeps => htable (hkeeps.2 htool)
  · have hanew : e.1.name ∉ rewrittenSections := by
      simp [rewrittenSections, hcopied.noProject, hcopied.noBuild, htool]
    rw [hnew (renewed?_of_notMem hanew), (keeps_separated _ _).writing_iff hplace]
    exact (and_iff_left fun h => absurd h htool).symm

end Conversion

namespace Manifest

variable {text out : String} {m : Manifest} {virtualProject : Bool} {r : Requirements}

/-- A conversion keeps the text at the end of a manifest, and at every place of the sections that it
    copies it keeps the comments and the spelling, but for those of the keys of the sections and those
    in a tool section that is replaced as a whole. -/
theorem convert_keeps_writing (hm : parse text = .ok m)
    (hout : m.convert virtualProject r = .ok out) :
    ∃ d, m.Converts virtualProject r d ∧ out = d.print ∧ d.trailing = m.document.trailing ∧
      ∀ k path w, Conversion.Copied k path → m.document.writing? (.key k :: path) = some w →
        (d.writing? (.key k :: path) = some w ↔ Conversion.KeepsWriting m.document k path) := by
  obtain ⟨project, hd, hprint⟩ := exists_document_of_convert hm hout
  refine ⟨_, hd, hprint, rfl, ?_⟩
  intro k path w hcopied hw
  exact Conversion.writing?_document_iff (convertible hm) hcopied hw

/-- A manifest with comments on a setting of another tool. -/
def commentText : String :=
  "[tool.poetry]\nname = \"demo\"\nversion = \"1\"\ndescription = \"\"\n\n" ++
    "[tool.black]\n# wide\nline-length = 0x58 # hex\n"

/-- How the setting is written. -/
def commentWriting : Writing :=
  ⟨some ⟨"line-length", ([], []), (["# wide"], [])⟩, .scalar "0x58", ([], ["# hex"])⟩

theorem convert_keeps_writing_of_black :
    ∃ m out, parse commentText = .ok m ∧ m.convert false ⟨none, [], []⟩ = .ok out ∧
      Conversion.Copied "tool" [.key "black", .key "line-length"] ∧
      m.document.writing? [.key "tool", .key "black", .key "line-length"] = some commentWriting ∧
      ∃ d, m.Converts false ⟨none, [], []⟩ d ∧ out = d.print ∧ d.trailing = m.document.trailing ∧
        d.writing? [.key "tool", .key "black", .key "line-length"] = some commentWriting := by
  obtain ⟨m, d, hm, hd, hwriting, htool⟩ := exists_of_passes commentText false
    (fun _ source _ => source.writing? [.key "tool", .key "black", .key "line-length"] =
      some commentWriting ∧ (source.root.get? "tool").any Conversion.isTable = true)
    (by decide +kernel)
  have hcopied : Conversion.Copied "tool" [.key "black", .key "line-length"] :=
    ⟨by decide, by decide, fun _ => by simp [Conversion.rewrittenTools]⟩
  have hkeeps : Conversion.KeepsWriting m.document "tool" [.key "black", .key "line-length"] :=
    ⟨nofun, fun _ => htool⟩
  have hout := (convert_eq_ok_iff hm).mpr ⟨d, hd, rfl⟩
  obtain ⟨d', hd', hprint, htrailing, hiff⟩ := convert_keeps_writing hm hout
  exact ⟨m, d.print, hm, hout, hcopied, hwriting, d', hd', hprint, htrailing,
    (hiff "tool" _ _ hcopied hwriting).mpr hkeeps⟩

/-- A conversion does not keep what is written at a place. -/
def LosesWriting (text : String) (path : List Step) (w : Writing) : Prop :=
  ∃ m d, parse text = .ok m ∧ m.Converts false ⟨none, [], []⟩ d ∧
    m.document.writing? path = some w ∧ d.writing? path ≠ some w

theorem losesWriting_of_passes {path : List Step} {w : Writing}
    (h : passes text false (fun _ source d => source.writing? path = some w ∧
      d.writing? path ≠ some w) = true) : LosesWriting text path w :=
  exists_of_passes _ _ _ h

/-- A manifest with a comment before a section of one value. -/
def commentedKeyText : String :=
  "# on top\ntitle = 1\n[tool.poetry]\nname = \"demo\"\nversion = \"1\"\ndescription = \"\"\n"

/-- A manifest with the key of a section in quotes. -/
def quotedKeyText : String :=
  "[tool.poetry]\nname = \"demo\"\nversion = \"1\"\ndescription = \"\"\n\n[\"title\"]\n"

/-- The comments and the spelling of the key of a section are lost, and what is written in an inline
    tool section. -/
theorem convert_loses_writing :
    LosesWriting commentedKeyText [.key "title"]
        ⟨some ⟨"title", ([], []), (["# on top"], [])⟩, .scalar "1", ([], [])⟩ ∧
      LosesWriting quotedKeyText [.key "title"]
        ⟨some ⟨"\"title\"", ([], []), ([], [])⟩, .table false false, ([], [])⟩ ∧
      LosesWriting inlineToolText [.key "tool", .key "black", .key "line-length"]
        ⟨some ⟨"line-length", ([], []), ([], [])⟩, .scalar "88", ([], [])⟩ :=
  ⟨losesWriting_of_passes (by decide +kernel), losesWriting_of_passes (by decide +kernel),
    losesWriting_of_passes (by decide +kernel)⟩

end Manifest

end ManifestMigration
