import ManifestMigration.Migration
import ManifestMigration.Proofs.Filesystem.Operations
import ManifestMigration.Proofs.Manifest.Conversion

/-! What is read of a project before anything is changed: its manifest, where its module is, and from
    there what the migration is going to write.

    A plan is made of what is read, one thing after another, and a plan that is made can be taken
    apart again. -/

namespace ManifestMigration

variable {t : Tree} {root path : Path} {text out : String} {m : Manifest} {l : Location}

namespace Project

theorem readManifest_of_locate (h : t.locate true path = .ok (l, some (.file text.toUTF8))) :
    t.isFile path = true ∧ readManifest t path = .ok text := by
  have hdecode : String.fromUTF8? text.toUTF8 = some text := dif_pos text.isValidUTF8
  have hread : t.read path = .ok text.toUTF8 := by
    rw [Tree.read, h]
    rfl
  refine ⟨Tree.isFile_iff.mpr ⟨l, _, h⟩, ?_⟩
  rw [readManifest, Tree.readText, hread, ok_bind, hdecode]
  rfl

/-- The text that is read is that of a file. -/
theorem file_of_readManifest (h : readManifest t path = .ok text) :
    ∃ l, t.locate true path = .ok (l, some (.file text.toUTF8)) := by
  rw [readManifest] at h
  split at h
  case h_2 => cases h
  case h_1 hread =>
    cases h
    obtain ⟨content, hcontent, hdecode⟩ := bind_eq_ok.mp hread
    obtain ⟨⟨l, there⟩, hlocate, hfile⟩ := bind_eq_ok.mp hcontent
    split at hdecode
    case h_2 => cases hdecode
    case h_1 hsome =>
      cases hdecode
      rw [String.fromUTF8?] at hsome
      split at hsome
      · cases hsome
        rcases there with _ | (_ | _ | _)
        case some.file =>
          cases hfile
          exact ⟨l, hlocate⟩
        all_goals cases hfile
      · cases hsome

/-- Where the module of a project with a name is, if that is to be looked for. -/
def seek (t : Tree) (root : Path) (locate : Bool) (name : String) : Except Failure (Option Layout) :=
  if locate then (Layout.find t root name).map some else .ok none

theorem load_eq {locate : Bool}
    (h : t.locate true (manifestPath root) = .ok (l, some (.file text.toUTF8)))
    (hparse : Manifest.parse text = .ok m) :
    load t root locate = (seek t root locate m.metadata.name).map fun layout => ⟨root, m, layout⟩ := by
  obtain ⟨hfile, hread⟩ := readManifest_of_locate h
  rw [load]
  simp only
  rw [hfile, hread]
  simp only [ok_bind, hparse]
  cases locate with
  | false => rfl
  | true =>
    rw [seek, if_pos rfl]
    cases Layout.find t root m.metadata.name <;> rfl

end Project

namespace Migration

open Toml

variable {o : MigrationOptions} {project : Project} {r : Requirements}

section
variable {layout : Option Layout}
  (h : t.locate true (Project.manifestPath root) = .ok (l, some (.file text.toUTF8)))
  (hparse : Manifest.parse text = .ok m)
  (hlayout : Project.seek t root (!o.ignoreSource) m.metadata.name = .ok layout)
include h hparse hlayout

theorem load_eq_ok : Project.load t root (!o.ignoreSource) = .ok ⟨root, m, layout⟩ := by
  rw [Project.load_eq h hparse, hlayout]
  rfl

/-- What is planned for a project, once it is known what is read of it. -/
theorem plan_eq_ok {ds : List Dependency} (hds : m.dependencies = .ok ds)
    (hout : m.convert o.virtualProject (.ofDependencies ds) = .ok out) :
    plan t root o = .ok (⟨root, m, layout⟩, .ofDependencies ds, out) := by
  have hdependencies : Project.dependencies ⟨root, m, layout⟩ = .ok ds := by
    rw [Project.dependencies, hds]
  have hconvert : Project.convert ⟨root, m, layout⟩ o.virtualProject (.ofDependencies ds) = .ok out := by
    rw [Project.convert, hout]
  rw [plan, load_eq_ok h hparse hlayout, ok_bind, hdependencies, ok_bind]
  simp only [hconvert, ok_bind]
  rfl

end

/-- What is planned is a conversion of the manifest. -/
theorem exists_converts_of_plan (h : plan t root o = .ok (project, r, text)) : ∃ old ds doc,
    Project.readManifest t (Project.manifestPath root) = .ok old ∧
      Manifest.parse old = .ok project.manifest ∧ project.manifest.dependencies = .ok ds ∧
      project.manifest.Converts o.virtualProject (.ofDependencies ds) doc ∧ text = doc.print := by
  obtain ⟨loaded, hload, h⟩ := bind_eq_ok.mp h
  obtain ⟨ds, hds, h⟩ := bind_eq_ok.mp h
  obtain ⟨converted, hconvert, h⟩ := bind_eq_ok.mp h
  cases h
  obtain ⟨old, hread, hparse⟩ := Project.exists_parse_of_load hload
  rw [Project.dependencies] at hds
  rw [Project.convert] at hconvert
  split at hds
  case h_2 => cases hds
  case h_1 hds' =>
    cases hds
    split at hconvert
    case h_2 => cases hconvert
    case h_3 => cases hconvert
    case h_1 hconverted =>
      cases hconvert
      obtain ⟨doc, hdoc, hprint⟩ := (Manifest.convert_eq_ok_iff hparse).mp hconverted
      exact ⟨old, ds, doc, hread, hparse, hds', hdoc, hprint⟩

end Migration

end ManifestMigration
