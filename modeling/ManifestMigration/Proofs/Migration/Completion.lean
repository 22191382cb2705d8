import ManifestMigration.Proofs.Migration.Steps
import ManifestMigration.Proofs.Project

/-! When a migration that has been planned succeeds.

    What the plan read is what the manifest is written over, and a lock file that is found can be
    removed, so neither fails. The module is another matter: the plan only asks whether `src` is a
    directory and whether the module is one, and something else can still be in its way. -/

namespace ManifestMigration.Migration

open ManifestMigration.Tree

variable {t : Tree} {root b : Path} {d e : Location} {o : MigrationOptions} {project : Project}
  {r : Requirements} {text : String} {layout : Option Layout}

/-- A planned run writes the manifest and removes the lock file. It succeeds unless a module that is to
    be moved finds something in the place of `src` that is no directory, has no name, or gets a path
    that is refused. -/
theorem run_completes_iff (ht : t.WellFormed) (hplan : plan t root o = .ok (project, r, text))
    (b : Path) :
    ∃ d u v removed, t.Reaches root d ∧
      Project.writeManifest (Project.manifestPath root) text t = .ok () u ∧
      removeLockfile root u = .ok removed v ∧
      ((∃ report w, run root b o t = .ok report w) ↔
        ∀ l, project.layout = some l → l.inSource = false → Unhindered t root d l) := by
  obtain ⟨d, hd⟩ := exists_reaches hplan
  obtain ⟨e, h⟩ := exists_located hd hplan
  refine ⟨d, _, _, _, hd, h.writeManifest text, h.removeLockfile text, ?_⟩
  rcases run_cases ht h hplan b with
    ⟨-, hsettled, hrun⟩ |
      ⟨-, l, hlayout, hbeside, -, -, ⟨hfree, hrun⟩ | ⟨hhindered, failure, u, hrun, -⟩⟩
  · refine ⟨fun _ l hlayout hbeside => ?_, fun _ => ⟨_, _, hrun⟩⟩
    rw [hsettled l hlayout] at hbeside
    cases hbeside
  · refine ⟨fun _ l' hlayout' _ => ?_, fun _ => ⟨_, _, hrun⟩⟩
    cases hlayout.symm.trans hlayout'
    exact hfree
  · constructor
    · rintro ⟨report, w, hok⟩
      rw [hrun] at hok
      cases hok
    · intro hall
      exact absurd (hall l hlayout hbeside) hhindered

/-- The text of a manifest that can be migrated. -/
def manifestText : String :=
  "[tool.poetry]\nname = \"demo\"\nversion = \"1\"\ndescription = \"\"\n"

/-- The text that it is converted to. -/
def convertedText : String :=
  "[project]\nname = \"demo\"\nversion = \"1\"\ndescription = \"\"\ndependencies = []\n\n" ++
    "[tool.rye]\nmanaged = true\n\n[tool.hatch.metadata]\nallow-direct-references = true\n"

/-- The manifest is read and converted, without a mention of the old tool in what comes out. -/
theorem exists_converted : ∃ m, Manifest.parse manifestText = .ok m ∧ m.metadata.name = "demo" ∧
    m.dependencies = .ok [] ∧ m.convert false (.ofDependencies []) = .ok convertedText := by
  obtain ⟨m, d, hm, hd, hname, hempty, hprint⟩ := Manifest.exists_of_passes manifestText false
    (fun m _ d => m.metadata.name = "demo" ∧ m.dependencies.toOption.any List.isEmpty = true ∧
      d.print = convertedText)
    (by decide +kernel)
  obtain ⟨ds, hds, hnil⟩ := exists_ok_of_any hempty
  rw [List.isEmpty_iff.mp hnil] at hds
  exact ⟨m, hm, hname, hds, (Manifest.convert_eq_ok_iff hm).mpr ⟨d, hd, hprint.symm⟩⟩

theorem find_convertedText : Mention.find oldTool convertedText = [] := by
  have hcheck : (Text.asciiChars? convertedText).any (fun chars =>
      decide (Mention.among oldTool.toList 1 (Text.lines chars) = [])) = true := by decide +kernel
  obtain ⟨chars, hchars, hnone⟩ := (Option.any_eq_true ..).mp hcheck
  rw [Mention.find, Text.toList_of_asciiChars? hchars]
  exact of_decide_eq_true hnone

/-- What is planned for a project with that manifest. -/
theorem exists_plan
    (h : t.locate true (Project.manifestPath root) = .ok (e, some (.file manifestText.toUTF8)))
    (hvirtual : o.virtualProject = false)
    (hlayout : Project.seek t root (!o.ignoreSource) "demo" = .ok layout) :
    ∃ project, plan t root o = .ok (project, .ofDependencies [], convertedText) ∧
      project.manifest.metadata.name = "demo" ∧ project.layout = layout := by
  obtain ⟨m, hm, hname, hds, hout⟩ := exists_converted
  rw [← hname] at hlayout
  rw [← hvirtual] at hout
  exact ⟨_, plan_eq_ok h hm hlayout hds hout, hname, rfl⟩

/-- What is reported of such a project. -/
theorem reportOf_eq (hname : project.manifest.metadata.name = "demo") (hvirtual : o.virtualProject = false)
    (movedTo : Option Path) :
    reportOf t root b o project (.ofDependencies []) convertedText movedTo =
      ⟨"demo", root, b, .ofDependencies [], false, t.isFile (lockfile root), movedTo, []⟩ := by
  rw [reportOf, hname, hvirtual, find_convertedText]

/-- A run that leaves the module of such a project where it is. -/
theorem run_of_ignored (hd : t.Reaches root d)
    (h : t.locate true (Project.manifestPath root) = .ok (e, some (.file manifestText.toUTF8)))
    (hvirtual : o.virtualProject = false) (hignore : o.ignoreSource = true) (b : Path) :
    run root b o t =
      .ok ⟨"demo", root, b, .ofDependencies [], false, t.isFile (lockfile root), none, []⟩
        (rewritten t root d e convertedText) := by
  have hnone : Project.seek t root (!o.ignoreSource) "demo" = .ok none := by
    rw [hignore]
    rfl
  obtain ⟨project, hplan, hname, hlayout⟩ := exists_plan h hvirtual hnone
  rw [run_of_settled ⟨hd, _, h⟩ hplan b (by simp [hlayout]), reportOf_eq hname hvirtual]

/-- A run that moves the module of such a project. -/
theorem run_of_beside (ht : t.WellFormed) (hd : t.Reaches root d)
    (h : t.locate true (Project.manifestPath root) = .ok (e, some (.file manifestText.toUTF8)))
    (hvirtual : o.virtualProject = false)
    (hlayout : Project.seek t root (!o.ignoreSource) "demo" =
      .ok (some ⟨"demo", root.child "demo", false⟩))
    (hvacant : t.get? (d ++ [sourceName]) = none)
    (htarget : ((root.child sourceName).child "demo").flaw? = none) (b : Path) :
    run root b o t =
      .ok ⟨"demo", root, b, .ofDependencies [], false, t.isFile (lockfile root),
          some ((root.child sourceName).child "demo"), []⟩
        (moved (rewritten t root d e convertedText) d "demo") := by
  obtain ⟨project, hplan, hname, hfound⟩ := exists_plan h hvirtual hlayout
  have hlocated : Located t root d e := ⟨hd, _, h⟩
  have hnamed : "demo" ≠ "" := by decide
  rcases layout_cases hplan with ⟨-, hsettled⟩ | ⟨-, l, hl, hbeside, hmovable, -⟩
  · cases hsettled _ hfound
  · cases hfound.symm.trans hl
    rw [run_of_unhindered hlocated hplan hl hbeside hmovable b ht ⟨hvacant, hnamed, htarget⟩,
      reportOf_eq hname hvirtual]
    rfl

/-- A project with its module beside the manifest. -/
def flat : Tree := ⟨[(["w"], .directory), (["w", "demo"], .directory),
  (["w", "demo", "pyproject.toml"], .file manifestText.toUTF8),
  (["w", "demo", "demo"], .directory)]⟩

/-- A file stands where the module of the project would have to go. -/
def blocked : Tree := ⟨flat.entries ++ [(["w", "demo", "src"], .file ByteArray.empty)]⟩

theorem run_completes_of_flat :
    ∃ project r text, plan flat ⟨"/w/demo"⟩ ⟨⟨"demo"⟩, false, false⟩ = .ok (project, r, text) ∧
      ∃ d u v removed, flat.Reaches ⟨"/w/demo"⟩ d ∧
        Project.writeManifest ⟨"/w/demo/pyproject.toml"⟩ text flat = .ok () u ∧
        removeLockfile ⟨"/w/demo"⟩ u = .ok removed v ∧
        ((∃ report w, run ⟨"/w/demo"⟩ ⟨"/w/b"⟩ ⟨⟨"demo"⟩, false, false⟩ flat = .ok report w) ↔
          ∀ l, project.layout = some l → l.inSource = false → Unhindered flat ⟨"/w/demo"⟩ d l) := by
  have hmanifest : flat.locate true (Project.manifestPath ⟨"/w/demo"⟩) =
      .ok (["w", "demo", "pyproject.toml"], some (.file manifestText.toUTF8)) := by decide +kernel
  have hlayout : Project.seek flat ⟨"/w/demo"⟩ true "demo" =
      .ok (some ⟨"demo", ⟨"/w/demo/demo"⟩, false⟩) := by decide +kernel
  obtain ⟨project, hplan, -⟩ := exists_plan (o := ⟨⟨"demo"⟩, false, false⟩) hmanifest rfl hlayout
  exact ⟨project, _, _, hplan, run_completes_iff (by decide +kernel) hplan ⟨"/w/b"⟩⟩

/-- The plan of a project in which `src` is a file goes well, and so does writing the manifest. Only
    then does the run fail. -/
theorem run_through_file_half_migrates : blocked.WellFormed ∧
    (plan blocked ⟨"/w/demo"⟩ ⟨⟨"demo"⟩, false, false⟩).isOk = true ∧
    run ⟨"/w/demo"⟩ ⟨"/w/b"⟩ ⟨⟨"demo"⟩, false, false⟩ blocked =
      .error (.system ⟨"/w/demo/src"⟩ .occupied)
        (blocked.put ["w", "demo", "pyproject.toml"] (.file convertedText.toUTF8)) ∧
    (blocked.put ["w", "demo", "pyproject.toml"] (.file convertedText.toUTF8)).get?
      ["w", "demo", "pyproject.toml"] ≠ blocked.get? ["w", "demo", "pyproject.toml"] := by
  have hd : blocked.Reaches ⟨"/w/demo"⟩ ["w", "demo"] := Leads.reaches (by decide +kernel)
  have hmanifest : blocked.locate true (Project.manifestPath ⟨"/w/demo"⟩) =
      .ok (["w", "demo", "pyproject.toml"], some (.file manifestText.toUTF8)) := by decide +kernel
  have hseek : Project.seek blocked ⟨"/w/demo"⟩ true "demo" =
      .ok (some ⟨"demo", ⟨"/w/demo/demo"⟩, false⟩) := by decide +kernel
  obtain ⟨project, hplan, -, hlayout⟩ :=
    exists_plan (o := ⟨⟨"demo"⟩, false, false⟩) hmanifest rfl hseek
  have hlock : ¬ blocked.isFile (lockfile ⟨"/w/demo"⟩) = true := by decide +kernel
  refine ⟨by decide +kernel, by rw [hplan]; rfl, ?_, by decide +kernel⟩
  rcases layout_cases hplan with ⟨-, hsettled⟩ | ⟨-, l, hl, hbeside, hmovable, -⟩
  · cases hsettled _ hlayout
  · have hrun := run_of_occupied ⟨hd, _, hmanifest⟩ hplan hl hbeside hmovable ⟨"/w/b"⟩
      (by decide +kernel)
    rwa [rewritten, if_neg hlock] at hrun

end ManifestMigration.Migration
