import ManifestMigration.Proofs.Migration.Confinement
import ManifestMigration.Proofs.Migration.Effect

/-! A project that has been migrated is refused when it is to be migrated again.

    What a migration leaves behind is the text of a document with a project section and without one of
    the old tool. As far as that text is read back as what the document says, the second migration
    gets no further than its backup. -/

namespace ManifestMigration

open Toml

namespace Tree

/-- The path of a project names its directory, unless it leads through the project itself. -/
theorem Stands.addresses {t : Tree} {root : Path} {above : Location} {name : String}
    (h : t.Stands root above name) (hline : '\n' ∉ name.toList) :
    t.Addresses root (above ++ [name]) above name :=
  Locates.addresses ⟨h.house.named, h.house.around⟩ h.isName h.flaw h.directory hline

end Tree

namespace Migration

open ManifestMigration.Tree

variable {t u : Tree} {root b workingDirectory : Path} {d above : Location} {o o₁ o₂ : MigrationOptions}
  {project : Project} {r : Requirements} {name text : String} {report : Report} {doc : Document}

/-! ### The text of a new manifest -/

/-- A manifest that says that it has been migrated. -/
def SaysMigrated (text : String) : Prop :=
  ∃ data, (Document.parse? text >>= Document.data?) = some data ∧
    (∃ entries, data.at? ["project"] = some (.table entries)) ∧ data.at? ["tool", "poetry"] = none

theorem saysMigrated_of_converts {old : String} {m : Manifest} {ds : List Dependency} {v : Bool}
    (hparse : Manifest.parse old = .ok m) (hconverts : m.Converts v (.ofDependencies ds) doc)
    (hreads : doc.ReadsBack) : SaysMigrated doc.print := by
  obtain ⟨said, data, hsaid, hdata, hsame⟩ := hreads
  obtain ⟨entries, hproject⟩ := hconverts.project hparse hsaid
  exact ⟨data, hdata, hsame.at?_of_table hproject,
    hsame.at?_of_none (hconverts.noPoetry hparse hsaid)⟩

theorem SaysMigrated.parse (h : SaysMigrated text) : Manifest.parse text = .error .alreadyMigrated := by
  obtain ⟨data, hdata, ⟨entries, hproject⟩, -⟩ := h
  obtain ⟨document, hdocument, hdata⟩ := Option.bind_eq_some_iff.mp hdata
  obtain ⟨x, hx, -⟩ := Option.bind_eq_some_iff.mp hproject
  rw [Manifest.parse, hdocument]
  simp only
  rw [Manifest.ofDocument, hdata]
  simp only
  rw [hx, Option.isSome_some, if_pos rfl]

/-- A manifest that has been migrated is not planned for again. -/
theorem plan_of_saysMigrated (hd : t.Reaches root d)
    (hflaw : (Project.manifestPath root).flaw? = none)
    (hfile : t.get? (d ++ ["pyproject.toml"]) = some (.file text.toUTF8)) (h : SaysMigrated text) :
    plan t root o = .error (.manifest (Project.manifestPath root) .alreadyMigrated) := by
  obtain ⟨hthere, hread⟩ := Project.readManifest_of_locate (locate_manifest hd hflaw hfile)
  have hload : ∀ locate, Project.load t root locate =
      .error (.manifest (Project.manifestPath root) .alreadyMigrated) := by
    intro locate
    rw [Project.load]
    simp only
    rw [hthere, hread]
    simp only [ok_bind, h.parse]
    rfl
  rw [plan, hload]
  rfl

/-! ### Two migrations -/

/-- What a migration that succeeds leaves behind says so. -/
theorem saysMigrated_of_migrate {content : ByteArray} (ht : t.WellFormed)
    (hline : ∀ name, (o.path.absolute workingDirectory).name? = some name → '\n' ∉ name.toList)
    (hindex : ∀ j, Backup.latest (o.path.absolute workingDirectory) t = .ok (some j) t →
      j + 1 < Text.wordLimit)
    (hleads : t.Leads (o.path.absolute workingDirectory) d)
    (hmanifest : t.get? (d ++ ["pyproject.toml"]) = some (.file content))
    (hreads : ∀ old, content = old.toUTF8 → Manifest.ConvertsReadably old o.virtualProject)
    (hok : migrate workingDirectory o t = .ok report u) :
    u.WellFormed ∧
      ∃ text, u.get? (d ++ ["pyproject.toml"]) = some (.file text.toUTF8) ∧ SaysMigrated text := by
  obtain ⟨b, v, hcreate, hrun⟩ := exists_of_migrate_eq_ok hok
  obtain ⟨d', above, name, i, hback⟩ := Backup.exists_backedUp ht hline hindex hcreate
  obtain rfl := hback.leads.unique hleads
  cases hplan : plan v (o.path.absolute workingDirectory) o with
  | error failure =>
    rw [run_of_error hplan] at hrun
    cases hrun
  | ok found =>
    obtain ⟨project, r, text⟩ := found
    obtain ⟨old, ds, doc, hread, hparse, hds, hconverts, rfl⟩ := exists_converts_of_plan hplan
    have hd : v.Reaches (o.path.absolute workingDirectory) d' :=
      (hback.leads.keep (hback.keeps ht)).reaches
    -- the backup stands beside the manifest, which is still the file that it was
    have hfile : v.get? (d' ++ ["pyproject.toml"]) = some (.file content) := by
      rw [hback.get?_project ht, hmanifest]
    obtain ⟨e, he⟩ := Project.file_of_readManifest hread
    obtain rfl := eq_of_locate_manifest hd (fun target => by simp [hfile]) he
    have hlocated : Located v (o.path.absolute workingDirectory) d' (d' ++ ["pyproject.toml"]) :=
      ⟨hd, _, he⟩
    have hold : content = old.toUTF8 := by
      rw [get?_of_locate he] at hfile
      cases hfile
      rfl
    exact ⟨wellFormed_of_run hback.wellFormed hlocated hplan hrun, _,
      (effect_of_run hback.wellFormed hlocated hplan hrun).manifest,
      saysMigrated_of_converts hparse hconverts (hreads old hold _ _ _ hparse hds hconverts)⟩

/-- A project that has been migrated is refused: all that a second migration does is to make one more
    backup. -/
theorem second_migration_refused {content : ByteArray} (ht : t.WellFormed)
    (hline : ∀ name, (o₁.path.absolute workingDirectory).name? = some name → '\n' ∉ name.toList)
    (hindex : ∀ j, Backup.latest (o₁.path.absolute workingDirectory) t = .ok (some j) t →
      j + 1 < Text.wordLimit)
    (hleads : t.Leads (o₁.path.absolute workingDirectory) d)
    (hmanifest : t.get? (d ++ ["pyproject.toml"]) = some (.file content))
    (hreads : ∀ old, content = old.toUTF8 → Manifest.ConvertsReadably old o₁.virtualProject)
    (hok : migrate workingDirectory o₁ t = .ok report u)
    (hpath : o₂.path.text.isEmpty = false)
    (hsame : u.Addresses (o₂.path.absolute workingDirectory) d above name)
    (hindex' : ∀ j, Backup.latest (o₂.path.absolute workingDirectory) u = .ok (some j) u →
      j + 1 < Text.wordLimit)
    (hsource : u.Fits d (o₂.path.absolute workingDirectory))
    (hslot : ∀ b, Backup.next (o₂.path.absolute workingDirectory) u = .ok b u →
      u.Fits d (b.child "")) :
    (∃ text, u.get? (d ++ ["pyproject.toml"]) = some (.file text.toUTF8) ∧ SaysMigrated text) ∧
      ∃ v b i,
        migrate workingDirectory o₂ u = .error (.manifest
          (Project.manifestPath (o₂.path.absolute workingDirectory)) .alreadyMigrated) v ∧
        (∀ m, v.get? (d ++ m) = u.get? (d ++ m)) ∧
        Backup.BackedUp u v (o₂.path.absolute workingDirectory) b d above name i := by
  obtain ⟨hu, text, hfile, hsays⟩ :=
    saysMigrated_of_migrate ht hline hindex hleads hmanifest hreads hok
  obtain ⟨b, i, v, hcreate, hback⟩ := Backup.exists_create hu hsame hindex' hsource hslot
  have hd : v.Reaches (o₂.path.absolute workingDirectory) d :=
    (hback.leads.keep (hback.keeps hu)).reaches
  have hflaw : (Project.manifestPath (o₂.path.absolute workingDirectory)).flaw? = none :=
    (hsource ["pyproject.toml"] (Option.isSome_of_eq_some hfile)).flaw
  have hthere : v.get? (d ++ ["pyproject.toml"]) = some (.file text.toUTF8) := by
    rw [hback.get?_project hu, hfile]
  refine ⟨⟨text, hfile, hsays⟩, v, b, i, ?_, hback.get?_project hu, hback⟩
  rw [migrate_of_created hpath hcreate]
  exact run_of_error (plan_of_saysMigrated hd hflaw hthere hsays)

/-- The flat project beside its backup. -/
def flatAndBackup : Tree := ⟨flat.entries ++ [(["w", ".__p2r_backup_demo_0"], .directory),
  (["w", ".__p2r_backup_demo_0", "pyproject.toml"], .file manifestText.toUTF8),
  (["w", ".__p2r_backup_demo_0", "demo"], .directory)]⟩

/-- The flat project when it has been migrated. -/
def flatMigrated : Tree := moved (flatAndBackup.put ["w", "demo", "pyproject.toml"]
  (.file convertedText.toUTF8)) ["w", "demo"] "demo"

/-- A path of the flat project that leads through its module. -/
def throughModule : Path := ⟨"/w/demo/demo/../../demo"⟩

/-- What is reported when the project has been migrated by that path. -/
def throughModuleReport : Report where
  project := "demo"
  projectPath := throughModule
  backupPath := ⟨"/w/demo/demo/../../.__p2r_backup_demo_0"⟩
  requirements := .ofDependencies []
  virtualProject := false
  lockfileRemoved := false
  moduleMovedTo := some ((throughModule.child sourceName).child "demo")
  mentions := []

theorem migrate_throughModule : migrate ⟨"/w"⟩ ⟨⟨"demo/demo/../../demo"⟩, false, false⟩ flat =
    .ok throughModuleReport flatMigrated := by
  have hcreate : Backup.create throughModule flat =
      .ok ⟨"/w/demo/demo/../../.__p2r_backup_demo_0"⟩ flatAndBackup := by
    refine Backup.create_of_sorted (l := ["w", "demo"]) (e := .directory) (i := 0) (j := 1)
      (u := flat.put ["w", ".__p2r_backup_demo_0"] .directory) ?_ ?_ ?_ ?_ ?_ ?_ <;>
    decide +kernel
  have hrun : run throughModule ⟨"/w/demo/demo/../../.__p2r_backup_demo_0"⟩
      ⟨⟨"demo/demo/../../demo"⟩, false, false⟩ flatAndBackup =
        .ok throughModuleReport flatMigrated := by
    have hlock : flatAndBackup.isFile (lockfile throughModule) = false := by decide +kernel
    have hleads : flatAndBackup.Leads throughModule ["w", "demo"] := by decide +kernel
    have hmanifest : flatAndBackup.locate true (Project.manifestPath throughModule) =
        .ok (["w", "demo", "pyproject.toml"], some (.file manifestText.toUTF8)) := by decide +kernel
    have hmoved := run_of_beside (o := ⟨⟨"demo/demo/../../demo"⟩, false, false⟩) (by decide +kernel)
      hleads.reaches hmanifest rfl (by decide +kernel) (by decide +kernel) (by decide +kernel)
      ⟨"/w/demo/demo/../../.__p2r_backup_demo_0"⟩
    rwa [hlock, rewritten, hlock, if_neg Bool.false_ne_true] at hmoved
  have hmigrate : migrate ⟨"/w"⟩ ⟨⟨"demo/demo/../../demo"⟩, false, false⟩ flat = run throughModule
      ⟨"/w/demo/demo/../../.__p2r_backup_demo_0"⟩ ⟨⟨"demo/demo/../../demo"⟩, false, false⟩
      flatAndBackup := migrate_of_created (by decide) hcreate
  exact hmigrate.trans hrun

/-- The text that the manifest is converted to is read back. -/
theorem convertsReadably_manifestText : Manifest.ConvertsReadably manifestText false := by
  intro m ds doc hm hds hdoc
  obtain ⟨m', d, hm', hd, hempty, hsome, heq⟩ := Manifest.exists_of_passes manifestText false
    (fun m _ d => m.dependencies.toOption.any List.isEmpty = true ∧ d.data?.isSome ∧
      (Text.asciiChars? d.print >>= Document.ofChars? >>= Document.data?) = d.data?)
    (by decide +kernel)
  obtain rfl := Except.ok.inj (hm.symm.trans hm')
  obtain ⟨_, hnone, hnil⟩ := exists_ok_of_any hempty
  rw [hds] at hnone
  cases hnone
  rw [List.isEmpty_iff.mp hnil] at hdoc
  obtain rfl := hdoc.unique hd
  obtain ⟨said, hsaid⟩ := Option.isSome_iff_exists.mp hsome
  obtain ⟨read, hread, hreads⟩ := Option.bind_eq_some_iff.mp (heq.trans hsaid)
  refine .of_eq hsome ?_
  rw [Manifest.parse?_of_asciiChars? hread, hsaid]
  exact hreads

theorem convertsReadably_of_manifestText (old : String) (h : manifestText.toUTF8 = old.toUTF8) :
    Manifest.ConvertsReadably old false := by
  obtain rfl : manifestText = old := String.toByteArray_inj.mp h
  exact convertsReadably_manifestText

/-- By a path that does not lead through the module, the project is found again, and refused. -/
theorem second_migration_refused_of_flat :
    migrate ⟨"/w"⟩ ⟨⟨"demo/demo/../../demo"⟩, false, false⟩ flat =
        .ok throughModuleReport flatMigrated ∧
      (∃ text, flatMigrated.get? (["w", "demo"] ++ ["pyproject.toml"]) =
        some (.file text.toUTF8) ∧ SaysMigrated text) ∧
      ∃ v b i, migrate ⟨"/w"⟩ ⟨⟨"demo/"⟩, true, true⟩ flatMigrated = .error (.manifest
          (Project.manifestPath (Path.absolute ⟨"demo/"⟩ ⟨"/w"⟩)) .alreadyMigrated) v ∧
        (∀ m, v.get? (["w", "demo"] ++ m) = flatMigrated.get? (["w", "demo"] ++ m)) ∧
        Backup.BackedUp flatMigrated v (Path.absolute ⟨"demo/"⟩ ⟨"/w"⟩) b ["w", "demo"] ["w"] "demo" i := by
  have hstands : flatMigrated.Stands (Path.absolute ⟨"demo/"⟩ ⟨"/w"⟩) ["w"] "demo" := {
    house := ⟨by decide +kernel, by decide +kernel, by decide +kernel⟩
    directory := by decide +kernel
    isName := by decide +kernel
    flaw := by decide +kernel }
  have hlatest : Backup.latest (Path.absolute ⟨"demo/"⟩ ⟨"/w"⟩) flatMigrated =
      .ok (some 0) flatMigrated := by decide +kernel
  have hnext : Backup.next (Path.absolute ⟨"demo/"⟩ ⟨"/w"⟩) flatMigrated =
      .ok ⟨"/w/.__p2r_backup_demo_1"⟩ flatMigrated := by decide +kernel
  have hname : ((⟨⟨"demo/demo/../../demo"⟩, false, false⟩ : MigrationOptions).path.absolute
      ⟨"/w"⟩).name? = some "demo" := by decide +kernel
  have hfile : flat.get? (["w", "demo"] ++ ["pyproject.toml"]) = some (.file manifestText.toUTF8) := by
    decide +kernel
  refine ⟨migrate_throughModule, second_migration_refused (by decide +kernel)
    (Backup.notMem_of_name? hname (by decide))
    (Backup.fits_of_latest_eq_none (by decide +kernel)) (by decide +kernel) hfile
    convertsReadably_of_manifestText migrate_throughModule (by decide)
    (hstands.addresses (by decide)) ?_ (.of_entries (by decide) (by decide +kernel)) ?_⟩
  · intro j hj
    rw [hlatest] at hj
    cases hj
    decide
  · intro b hb
    rw [hnext] at hb
    cases hb
    exact .of_entries (by decide) (by decide +kernel)

/-- By a path that leads through the module, the project is not found any more when the module has
    been moved: then it is not refused for what its manifest says, and there is no second backup. -/
theorem second_migration_misses_project : flat.WellFormed ∧
    throughModule.name? = some "demo" ∧ flat.Leads throughModule ["w", "demo"] ∧
    flat.get? ["w", "demo", "pyproject.toml"] = some (.file manifestText.toUTF8) ∧
    Manifest.ConvertsReadably manifestText false ∧
    migrate ⟨"/w"⟩ ⟨⟨"demo/demo/../../demo"⟩, false, false⟩ flat =
      .ok throughModuleReport flatMigrated ∧
    migrate ⟨"/w"⟩ ⟨⟨"demo/demo/../../demo"⟩, false, false⟩ flatMigrated =
      .error (.directoryNotFound throughModule) flatMigrated := by
  have hmissing : Backup.create throughModule flatMigrated =
      .error (.directoryNotFound throughModule) flatMigrated := by
    have hdir : flatMigrated.isDirectory throughModule = false := by decide +kernel
    rw [Backup.create, Action.look_bind, hdir]
    rfl
  refine ⟨by decide +kernel, by decide +kernel, by decide +kernel, by decide +kernel,
    convertsReadably_manifestText, migrate_throughModule, ?_⟩
  rw [migrate_eq]
  exact bind_of_error hmissing

end Migration

end ManifestMigration
