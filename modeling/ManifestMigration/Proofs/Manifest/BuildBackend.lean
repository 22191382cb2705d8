import ManifestMigration.Proofs.Manifest.Conversion
import ManifestMigration.Proofs.Text.Search

/-! The build backend that a new manifest asks for.

    A virtual project is not built, so its build section goes. In any other project the section is
    switched to the new backend: the requirements that ask for the old one make room for the new one,
    and the other settings stay. This is so for a section with a header or of dotted keys, and as long
    as its requirements are no array of tables. An inline section is copied as it is, and the old
    backend with it. -/

namespace ManifestMigration

open Toml

namespace Conversion

variable {source : Document} {project : Table} {virtualProject : Bool} {r : Requirements}

/-! ### The switch -/

/-- A build requirement asks for the old backend: it is a text that names it. -/
def asksForOldBackend (d : Data) : Bool :=
  d.string?.any fun s => decide ("poetry".toList <:+: s.toList)

/-- The build requirements that stay, if there are any. -/
def keptRequirements : Option Data → List Data
  | some (.array items) => items.filter fun d => !asksForOldBackend d
  | _ => []

/-- The build requirement of the new backend. -/
def newBackend : Data := .scalar (.string "hatchling")

/-- A build section says what the old one said, for the new backend. -/
structure Switched (old new : List (String × Data)) : Prop where
  backend : new.lookup "build-backend" = some (.scalar (.string "hatchling.build"))
  requires : new.lookup "requires" =
    some (.array (keptRequirements (old.lookup "requires") ++ [newBackend]))
  others : ∀ k, k ≠ "requires" → k ≠ "build-backend" → new.lookup k = old.lookup k

theorem isOldBackend_eq (v : Value) : isOldBackend v = asksForOldBackend v.data := by
  cases v with
  | scalar s _ _ =>
    cases s with
    | string s => exact Bool.eq_iff_iff.mpr (Text.occursIn_iff.trans decide_eq_true_iff.symm)
    | _ => rfl
  | array _ _ _ _ => rfl
  | inline _ _ _ _ => rfl

theorem data_bare (v : Value) : v.bare.data = v.data := by
  cases v <;> rfl

theorem data_keptItems (items : List Value) :
    valuesData ((items.filter fun v => !isOldBackend v).map Value.bare) =
      (valuesData items).filter fun d => !asksForOldBackend d := by
  simp only [valuesData_eq_map, List.map_map, List.filter_map, isOldBackend_eq]
  exact List.map_congr_left fun v _ => data_bare v

/-- The requirements are those that stay and the new one, unless they are an array of tables, of
    which none stays. -/
theorem data_buildRequirements (old : Option Item) : (buildRequirements old).data =
    match old with
    | some (.tables _) => .array [newBackend]
    | old => .array (keptRequirements (old.map Item.data) ++ [newBackend]) := by
  cases old with
  | none => rfl
  | some i =>
    cases i with
    | table t => simp only [Option.map_some, data_table]; rfl
    | tables ts => rfl
    | value v =>
      cases v with
      | scalar s _ _ => rfl
      | inline _ _ _ _ => rfl
      | array items _ _ _ =>
        change Data.array (valuesData (((items.filter fun v => !isOldBackend v).map Value.bare) ++
            [.string "hatchling"])) =
          .array (((valuesData items).filter fun d => !asksForOldBackend d) ++ [newBackend])
        rw [← data_keptItems, valuesData_eq_map, List.map_append, ← valuesData_eq_map]
        rfl

theorem get?_buildTable {old : Table} {k : String} : (buildTable old).get? k =
    if k = "build-backend" then some (.value (.string "hatchling.build"))
    else if k = "requires" then some (.value (buildRequirements (old.get? "requires")))
    else old.get? k := by
  rw [buildTable, TableOf.get?_set, TableOf.get?_set]

/-- No table asks for the old backend. -/
theorem keptRequirements_tables : ∀ ts : List Table,
    keptRequirements (some (.array (tablesData ts))) = tablesData ts
  | [] => rfl
  | t :: ts => by
    have ih := keptRequirements_tables ts
    rw [keptRequirements] at ih ⊢
    obtain ⟨entries, _, _, _⟩ := t
    rw [tablesData, List.filter_cons_of_pos rfl, ih]

/-- A build section that is switched: it has a header or comes from dotted keys, and its requirements
    are no array of tables. -/
def isSwitchable : Item → Bool
  | .table t =>
    match t.get? "requires" with
    | some (.tables ts) => ts.isEmpty
    | _ => true
  | _ => false

theorem isSwitchable_table_iff {t : Table} : isSwitchable (.table t) = true ↔
    ∀ ts, t.get? "requires" = some (.tables ts) → ts = [] := by
  rw [isSwitchable]
  split
  · next ts hts => simp [hts]
  · next hnone => exact iff_of_true rfl fun ts hts => absurd hts (hnone ts)

theorem switched_buildTable_iff {old : Table} :
    Switched (itemsData old.entries) (itemsData (buildTable old).entries) ↔
      isSwitchable (.table old) = true := by
  rw [isSwitchable_table_iff]
  have hold (k : String) : (itemsData old.entries).lookup k = (old.get? k).map Item.data :=
    lookup_itemsData k _
  have hnew (k : String) : (itemsData (buildTable old).entries).lookup k =
      ((buildTable old).get? k).map Item.data := lookup_itemsData k _
  have hrequires : (itemsData (buildTable old).entries).lookup "requires" =
      some (buildRequirements (old.get? "requires")).data := by
    rw [hnew, get?_buildTable, if_neg (by decide), if_pos rfl]
    rfl
  constructor
  · intro h ts hts
    have hkept := h.requires
    rw [hrequires, data_buildRequirements, hold, hts, Option.map_some] at hkept
    change some (Data.array [newBackend]) = some (.array (keptRequirements
      (some (.array (tablesData ts))) ++ [newBackend])) at hkept
    rw [keptRequirements_tables] at hkept
    cases ts with
    | nil => rfl
    | cons t ts => simp [tablesData] at hkept
  · intro h
    refine ⟨?_, ?_, fun k hrequires hbackend => ?_⟩
    · rw [hnew, get?_buildTable, if_pos rfl]
      rfl
    · rw [hrequires, data_buildRequirements, hold]
      split
      · next ts hts => rw [hts, h ts hts]; rfl
      · rfl
    · rw [hnew, get?_buildTable, if_neg hbackend, if_neg hrequires, hold]

/-- A section that is left alone is not switched: it would have to be longer. -/
theorem not_switched_self (es : List (String × Data)) : ¬ Switched es es := by
  intro h
  have hrequires := h.requires
  cases hes : es.lookup "requires" with
  | none => simp [hes] at hrequires
  | some d =>
    rw [hes] at hrequires
    cases d with
    | array items =>
      have hitems : items = (items.filter fun d => !asksForOldBackend d) ++ [newBackend] := by
        simpa [keptRequirements] using hrequires
      -- the requirement of the new backend is there, so it stays, and then it is added once more
      have hcount := congrArg (List.count newBackend) hitems
      rw [List.count_append, List.count_filter (by decide), List.count_singleton_self] at hcount
      omega
    | scalar s => simp at hrequires
    | table entries => simp at hrequires

/-! ### The build section of the new document -/

theorem get?_document_virtual (h : Convertible source) :
    (document source project true r).data.get? "build-system" = none := by
  rw [get?_data_document, get?_document_of_ne h (by decide) (by decide)]
  cases source.root.get? "build-system" <;> rfl

theorem exists_buildSystem (h : Convertible source) {old : List (String × Data)}
    (hold : source.data.get? "build-system" = some (.table old)) :
    ∃ new, (document source project false r).data.get? "build-system" = some (.table new) ∧
      (Switched old new ↔ (source.root.get? "build-system").any isSwitchable = true) := by
  rw [get?_data_document] at hold
  obtain ⟨i, hi, hold⟩ := Option.map_eq_some_iff.mp hold
  rw [get?_data_document, get?_document_of_ne h (by decide) (by decide), hi]
  cases i with
  | table t =>
    rw [data_table] at hold
    cases hold
    refine ⟨itemsData (buildTable t).entries, ?_, ?_⟩
    · change some (separated (.table (buildTable t))).data = _
      rw [data_separated, data_table]
    · rw [switched_buildTable_iff, Option.any_some]
  | value v =>
    refine ⟨old, congrArg some hold, ?_⟩
    simp [not_switched_self, isSwitchable]
  | tables ts => cases hold

end Conversion

namespace Manifest

variable {text out : String} {m : Manifest} {virtualProject : Bool} {r : Requirements}

/-- A virtual project has no build section. The build section of any other is switched exactly when
    it is not inline and its requirements are no array of tables. -/
theorem convert_switches_backend (hm : parse text = .ok m)
    (hout : m.convert virtualProject r = .ok out) :
    ∃ d, m.Converts virtualProject r d ∧ out = d.print ∧
      (virtualProject = true → d.data.get? "build-system" = none) ∧
      (virtualProject = false → ∀ old,
        m.document.data.get? "build-system" = some (.table old) →
        ∃ new, d.data.get? "build-system" = some (.table new) ∧
          (Conversion.Switched old new ↔
            (m.document.root.get? "build-system").any Conversion.isSwitchable = true)) := by
  obtain ⟨project, hd, hprint⟩ := exists_document_of_convert hm hout
  refine ⟨_, hd, hprint, ?_, ?_⟩
  · rintro rfl
    exact Conversion.get?_document_virtual (convertible hm)
  · rintro rfl old hold
    exact Conversion.exists_buildSystem (convertible hm) hold

/-- A manifest with a build section that has a header. -/
def buildText : String :=
  "[tool.poetry]\nname = \"demo\"\nversion = \"1\"\ndescription = \"\"\n\n" ++
    "[build-system]\nrequires = [\"poetry-core\", 3]\nbackend-path = [\".\"]\n"

/-- What the build section says. -/
def buildSection : List (String × Data) :=
  [("requires", .array [.scalar (.string "poetry-core"), .scalar (.integer 3)]),
    ("backend-path", .array [.scalar (.string ".")])]

theorem convert_switches_backend_of_header :
    ∃ m out, parse buildText = .ok m ∧ m.convert false ⟨none, [], []⟩ = .ok out ∧
      m.document.data.get? "build-system" = some (.table buildSection) ∧
      ∃ d, m.Converts false ⟨none, [], []⟩ d ∧ out = d.print ∧
        ∃ new, d.data.get? "build-system" = some (.table new) ∧
          Conversion.Switched buildSection new := by
  obtain ⟨m, d, hm, hd, hsaid, hswitchable⟩ := exists_of_passes buildText false
    (fun _ source _ => source.data.get? "build-system" = some (.table buildSection) ∧
      (source.root.get? "build-system").any Conversion.isSwitchable = true)
    (by decide +kernel)
  have hout := (convert_eq_ok_iff hm).mpr ⟨d, hd, rfl⟩
  obtain ⟨d', hd', hprint, -, hswitch⟩ := convert_switches_backend hm hout
  obtain ⟨new, hnew, hiff⟩ := hswitch rfl buildSection hsaid
  exact ⟨m, d.print, hm, hout, hsaid, d', hd', hprint, new, hnew, hiff.mpr hswitchable⟩

/-- A conversion makes `y` of the `x` that is said at a path. -/
def Turns (text : String) (path : List String) (x y : Data) : Prop :=
  ∃ m d, parse text = .ok m ∧ m.Converts false ⟨none, [], []⟩ d ∧
    m.document.data.at? path = some x ∧ d.data.at? path = some y

theorem turns_of_passes {path : List String} {x y : Data}
    (h : passes text false (fun _ source d => source.data.at? path = some x ∧
      d.data.at? path = some y) = true) : Turns text path x y :=
  exists_of_passes _ _ _ h

/-- A manifest with an inline build section. -/
def inlineBuildText : String :=
  "build-system = \x7b build-backend = \"poetry\" \x7d\n" ++
    "[tool.poetry]\nname = \"demo\"\nversion = \"1\"\ndescription = \"\"\n"

/-- A manifest whose build requirements are an array of tables. -/
def tablesBuildText : String :=
  "[tool.poetry]\nname = \"demo\"\nversion = \"1\"\ndescription = \"\"\n\n" ++
    "[[build-system.requires]]\nurl = 1\n"

/-- An inline build section stays with the old backend, and requirements that are tables are lost. -/
theorem convert_leaves_backend :
    Turns inlineBuildText ["build-system", "build-backend"] (.scalar (.string "poetry"))
        (.scalar (.string "poetry")) ∧
      Turns tablesBuildText ["build-system", "requires"]
        (.array [.table [("url", .scalar (.integer 1))]]) (.array [Conversion.newBackend]) :=
  ⟨turns_of_passes (by decide +kernel), turns_of_passes (by decide +kernel)⟩

end Manifest

end ManifestMigration
