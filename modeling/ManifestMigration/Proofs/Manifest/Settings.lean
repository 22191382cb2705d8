import ManifestMigration.Proofs.Manifest.Conversion

/-! Which settings survive a conversion.

    Sections other than `project`, `tool` and `build-system` keep what they say, in their order. Of
    the settings under `tool`, those of the old tool are meant to go, and the new tool's and
    `tool.hatch.metadata.allow-direct-references` to be set. All others are kept, with two
    exceptions: a tool section that is written as an inline table is replaced as a whole, and unless
    the project is virtual the new build backend's settings replace everything under `tool.hatch`. -/

namespace ManifestMigration

open Toml

namespace Conversion

variable {source : Document} {project : Table} {virtualProject : Bool} {r : Requirements}

/-- The sections that a conversion writes anew. -/
def rewrittenSections : List String := ["project", "tool", "build-system"]

/-- What the other sections say, in their order. -/
def unrelated (entries : List (Key × Item)) : List (String × Data) :=
  (itemsData entries).filter fun e => !rewrittenSections.contains e.1

theorem unrelated_cons_of_mem {e : Key × Item} {es : List (Key × Item)}
    (h : e.1.name ∈ rewrittenSections) : unrelated (e :: es) = unrelated es := by
  rw [unrelated, itemsData, List.filter_cons_of_neg (by simpa using h)]
  rfl

theorem unrelated_cons_of_notMem {e : Key × Item} {es : List (Key × Item)}
    (h : e.1.name ∉ rewrittenSections) :
    unrelated (e :: es) = (e.1.name, e.2.data) :: unrelated es := by
  rw [unrelated, itemsData, List.filter_cons_of_pos (by simpa using h)]
  rfl

theorem renewed?_of_notMem {e : Key × Item} (h : e.1.name ∉ rewrittenSections) :
    renewed? virtualProject r e = some (.plain e.1.name, separated e.2) := by
  simp only [rewrittenSections, List.mem_cons, List.not_mem_nil, or_false, not_or] at h
  rw [renewed?_of_ne h.2.1, section?_other h.1 h.2.1 h.2.2]
  rfl

theorem unrelated_renewed : ∀ es : List (Key × Item),
    unrelated (es.filterMap (renewed? virtualProject r)) = unrelated es
  | [] => rfl
  | e :: es => by
    have ih := unrelated_renewed es
    by_cases he : e.1.name ∈ rewrittenSections
    · rw [unrelated_cons_of_mem he, List.filterMap_cons]
      split
      · exact ih
      · next e' hr => rw [unrelated_cons_of_mem (name_of_renewed? hr ▸ he), ih]
    · have hkept : (Key.plain e.1.name, separated e.2).1.name ∉ rewrittenSections := he
      rw [unrelated_cons_of_notMem he, List.filterMap_cons_some (renewed?_of_notMem he),
        unrelated_cons_of_notMem hkept, ih, data_separated]
      rfl

theorem unrelated_document (h : Convertible source) :
    unrelated (document source project virtualProject r).root.entries =
      unrelated source.root.entries := by
  rw [entries_document h, unrelated_cons_of_mem (by simp [rewrittenSections, Key.plain]),
    unrelated_renewed]

/-- Whether a setting at a key path under `tool` is kept. Under `tool.hatch` it is when it happens
    to be what the new build backend needs, or when there is none. -/
def Survives (source : Document) (virtualProject : Bool) (key : String) (path : List String)
    (x : Data) : Prop :=
  if key = "hatch" ∧ virtualProject = false then (Item.table hatchTable).data.at? path = some x
  else ∃ old, source.root.get? "tool" = some (.table old)

/-- A setting of another tool is kept exactly when it survives. -/
theorem at?_document_iff (h : Convertible source) {key : String} {path : List String} {x : Data}
    (hpoetry : key ≠ "poetry") (hrye : key ≠ "rye")
    (hx : source.data.at? ("tool" :: key :: path) = some x) :
    (document source project virtualProject r).data.at? ("tool" :: key :: path) = some x ↔
      Survives source virtualProject key path x := by
  have htool : (document source project virtualProject r).root.get? "tool" =
      (source.root.get? "tool").map (newTool virtualProject r) := get?_document_tool h
  rw [Data.at?, get?_data_document] at hx ⊢
  obtain ⟨_, hsaid, hx⟩ := Option.bind_eq_some_iff.mp hx
  obtain ⟨i, hi, rfl⟩ := Option.map_eq_some_iff.mp hsaid
  rw [htool, hi, Survives]
  simp only [Option.map_some, Option.bind_eq_bind, Option.bind_some, data_newTool, Data.at?,
    get?_data_table, get?_toolTable, if_neg hpoetry, if_neg hrye]
  by_cases hhatch : key = "hatch" ∧ virtualProject = false
  · rw [if_pos hhatch, if_pos hhatch]
    rfl
  · rw [if_neg hhatch, if_neg hhatch, hi]
    cases i with
    | table old =>
      rw [Data.at?, get?_data_table] at hx
      simpa [oldTool] using hx
    | value v => simp [oldTool]
    | tables ts => simp [oldTool]

end Conversion

namespace Manifest

variable {text out : String} {m : Manifest} {virtualProject : Bool} {r : Requirements}

/-- A conversion keeps what the unrelated sections say, in their order, and of the settings of other
    tools exactly those that survive. -/
theorem convert_keeps_settings (hm : parse text = .ok m)
    (hout : m.convert virtualProject r = .ok out) :
    ∃ d, m.Converts virtualProject r d ∧ out = d.print ∧
      Conversion.unrelated d.root.entries = Conversion.unrelated m.document.root.entries ∧
      ∀ key path x, key ≠ "poetry" → key ≠ "rye" →
        m.document.data.at? ("tool" :: key :: path) = some x →
        (d.data.at? ("tool" :: key :: path) = some x ↔
          Conversion.Survives m.document virtualProject key path x) := by
  obtain ⟨project, hd, hprint⟩ := exists_document_of_convert hm hout
  refine ⟨_, hd, hprint, Conversion.unrelated_document (convertible hm), ?_⟩
  intro key path x hpoetry hrye hx
  exact Conversion.at?_document_iff (convertible hm) hpoetry hrye hx

/-- A manifest with settings of another tool, and with a section of no tool. -/
def settingsText : String :=
  "[tool.poetry]\nname = \"demo\"\nversion = \"1\"\ndescription = \"\"\n\n" ++
    "[tool.black]\nline-length = 88\n\n[metadata]\nowner = \"none\"\n"

theorem convert_keeps_settings_of_black :
    ∃ m out, parse settingsText = .ok m ∧ m.convert false ⟨none, [], []⟩ = .ok out ∧
      ∃ d, m.Converts false ⟨none, [], []⟩ d ∧ out = d.print ∧
        Conversion.unrelated d.root.entries = Conversion.unrelated m.document.root.entries ∧
        (d.data.at? ["tool", "black", "line-length"] = some (.scalar (.integer 88)) ↔
          Conversion.Survives m.document false "black" ["line-length"]
            (.scalar (.integer 88))) := by
  obtain ⟨m, d, hm, hd, hblack⟩ := exists_of_passes settingsText false
    (fun _ source _ => source.data.at? ["tool", "black", "line-length"] =
      some (.scalar (.integer 88)))
    (by decide +kernel)
  have hout := (convert_eq_ok_iff hm).mpr ⟨d, hd, rfl⟩
  obtain ⟨d', hd', hprint, hunrelated, hsettings⟩ := convert_keeps_settings hm hout
  exact ⟨m, d.print, hm, hout, d', hd', hprint, hunrelated, hsettings "black" ["line-length"] _
    (by decide) (by decide) hblack⟩

/-- A conversion loses a setting. -/
def Loses (text : String) (virtualProject : Bool) (path : List String) (x : Data) : Prop :=
  ∃ m d, parse text = .ok m ∧ m.Converts virtualProject ⟨none, [], []⟩ d ∧
    m.document.data.at? path = some x ∧ d.data.at? path = none

theorem loses_of_passes {virtualProject : Bool} {path : List String} {x : Data}
    (h : passes text virtualProject (fun _ source d => source.data.at? path = some x ∧
      d.data.at? path = none) = true) : Loses text virtualProject path x :=
  exists_of_passes _ _ _ h

/-- A manifest whose tool section is an inline table. -/
def inlineToolText : String :=
  "tool = \x7b poetry = \x7b name = \"demo\", version = \"1\", description = \"\" \x7d, " ++
    "black = \x7b line-length = 88 \x7d \x7d\n"

/-- A manifest with settings of the new build backend. -/
def hatchText : String :=
  "[tool.poetry]\nname = \"demo\"\nversion = \"1\"\ndescription = \"\"\n\n" ++
    "[tool.hatch.version]\npath = \"demo/about.py\"\n"

/-- Settings beside an inline section of the old tool are lost, and settings of the new build
    backend. -/
theorem convert_loses_settings :
    Loses inlineToolText false ["tool", "black", "line-length"] (.scalar (.integer 88)) ∧
      Loses inlineToolText true ["tool", "black", "line-length"] (.scalar (.integer 88)) ∧
      Loses hatchText false ["tool", "hatch", "version", "path"]
        (.scalar (.string "demo/about.py")) :=
  ⟨loses_of_passes (by decide +kernel), loses_of_passes (by decide +kernel),
    loses_of_passes (by decide +kernel)⟩

end Manifest

end ManifestMigration
