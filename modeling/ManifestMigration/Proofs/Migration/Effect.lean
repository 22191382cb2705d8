import ManifestMigration.Proofs.Backup.Slots
import ManifestMigration.Proofs.Migration.Completion

/-! What a migration that succeeds has changed, and what its report says about that.

    The backup comes first, and what follows looks at the tree with the backup in it: whether there is
    a lock file and whether `src` is a directory is asked then. -/

namespace ManifestMigration

namespace Migration

open ManifestMigration.Tree

variable {t u : Tree} {root b workingDirectory : Path} {d above : Location} {o : MigrationOptions}
  {project : Project} {r : Requirements} {name text : String} {report : Report}

/-- From one tree to another, the project at `d` has been migrated, with the new text of its manifest
    and the name of its module, and nothing else has been changed. This is what is reported. -/
structure Effect (t u : Tree) (root b : Path) (d : Location) (o : MigrationOptions)
    (text module : String) (report : Report) : Prop where
  manifest : u.get? (d ++ ["pyproject.toml"]) = some (.file text.toUTF8)
  lockfile : t.isFile (lockfile root) = true → ∀ m, u.get? (d ++ ["poetry.lock"] ++ m) = none
  lockfileKept : t.isFile (Migration.lockfile root) = false →
    ∀ m, u.get? (d ++ ["poetry.lock"] ++ m) = t.get? (d ++ ["poetry.lock"] ++ m)
  source : relocates t root o = true →
    t.get? (d ++ [sourceName]) = none ∧ u.get? (d ++ [sourceName]) = some .directory
  moved : relocates t root o = true →
    ∀ m, u.get? (d ++ [sourceName] ++ [module] ++ m) = t.get? (d ++ [module] ++ m)
  only : relocates t root o = true →
    ∀ n m, n ≠ module → u.get? (d ++ [sourceName] ++ [n] ++ m) = none
  left : relocates t root o = true → ∀ m, u.get? (d ++ [module] ++ m) = none
  rest : ∀ m, m ≠ d ++ ["pyproject.toml"] →
    (t.isFile (Migration.lockfile root) = true → ¬ d ++ ["poetry.lock"] <+: m) →
    (relocates t root o = true → ¬ d ++ [sourceName] <+: m ∧ ¬ d ++ [module] <+: m) →
    u.get? m = t.get? m
  backupPath : report.backupPath = b
  lockfileRemoved : report.lockfileRemoved = t.isFile (Migration.lockfile root)
  moduleMovedTo : report.moduleMovedTo =
    if relocates t root o then some ((root.child sourceName).child module) else none
  mentions : report.mentions = Mention.find oldTool text

theorem rewritten_lockfile {e : Location} (hfile : t.isFile (lockfile root) = true) (m : Location) :
    (rewritten t root d e text).get? (d ++ ["poetry.lock"] ++ m) = none := by
  rw [rewritten, if_pos hfile, get?_erase (List.concat_ne_nil _ d), if_pos (List.prefix_append _ m)]

theorem rewritten_lockfile_kept (h : Located t root d (d ++ ["pyproject.toml"]))
    (hfile : t.isFile (lockfile root) = false) (m : Location) :
    (rewritten t root d (d ++ ["pyproject.toml"]) text).get? (d ++ ["poetry.lock"] ++ m) =
      t.get? (d ++ ["poetry.lock"] ++ m) := by
  have hbeside : ¬ d ++ ["pyproject.toml"] <+: d ++ ["poetry.lock"] ++ m :=
    not_prefix_beside (by decide) m
  refine h.get?_rewritten text (fun heq => hbeside (heq ▸ List.prefix_rfl)) fun hthere => ?_
  rw [hfile] at hthere
  cases hthere

/-- A run that succeeds has its effect, when the manifest is in the project. -/
theorem effect_of_run (ht : t.WellFormed) (h : Located t root d (d ++ ["pyproject.toml"]))
    (hplan : plan t root o = .ok (project, r, text)) (hrun : run root b o t = .ok report u) :
    Effect t u root b d o text (Name.moduleOf project.manifest.metadata.name) report := by
  have hlock : ¬ d ++ ["poetry.lock"] <+: d ++ ["pyproject.toml"] := by
    rw [List.prefix_append_right_inj]
    decide
  have hmanifest := h.get?_rewritten_manifest text hlock
  rcases run_cases ht h hplan b with
    ⟨hstays, -, hok⟩ | ⟨hmoves, l, -, -, hmovable, hname, ⟨hfree, hok⟩ | ⟨-, failure, v, hfail, -⟩⟩
  · rw [hrun] at hok
    cases hok
    have hnot : relocates t root o ≠ true := by
      rw [hstays]
      exact Bool.false_ne_true
    exact {
      manifest := hmanifest
      lockfile := rewritten_lockfile
      lockfileKept := rewritten_lockfile_kept h
      source := fun h => absurd h hnot
      moved := fun h => absurd h hnot
      only := fun h => absurd h hnot
      left := fun h => absurd h hnot
      rest := fun m hm hlock _ => h.get?_rewritten text hm hlock
      backupPath := rfl
      lockfileRemoved := rfl
      moduleMovedTo := (if_neg hnot).symm
      mentions := rfl }
  · rw [hrun] at hok
    cases hok
    have hn := hmovable.ne_source
    have hdot : '.' ∉ l.moduleName.toList := hmovable.notMem (by decide) (by decide)
    have hnamed : "pyproject.toml" ≠ l.moduleName := fun heq => hdot (heq ▸ by decide)
    have hlocked : "poetry.lock" ≠ l.moduleName := fun heq => hdot (heq ▸ by decide)
    rw [← hname]
    exact {
      manifest := by
        have hout : (moved (rewritten t root d (d ++ ["pyproject.toml"]) text) d l.moduleName).get?
            (d ++ ["pyproject.toml"] ++ []) = _ := get?_moved_outside hnamed (by decide) []
        rwa [List.append_nil, hmanifest] at hout
      lockfile := fun hfile m => by
        rw [get?_moved_outside hlocked (by decide), rewritten_lockfile hfile]
      lockfileKept := fun hfile m => by
        rw [get?_moved_outside hlocked (by decide), rewritten_lockfile_kept h hfile]
      source := fun _ => ⟨hfree.vacant, get?_moved_directory hn⟩
      moved := fun _ m => by
        rw [get?_moved_target hn]
        have hapart : ¬ d ++ ["pyproject.toml"] <+: d ++ [l.moduleName] ++ m :=
          not_prefix_beside hnamed m
        exact h.get?_rewritten text (fun heq => hapart (heq ▸ List.prefix_rfl))
          fun _ => not_prefix_beside hlocked m
      only := fun _ n m hne => by
        rw [get?_moved_beside hn hne]
        refine h.get?_rewritten_of_none text ?_
        rw [List.append_assoc _ [n]]
        exact ht.vacant hfree.vacant _
      left := fun _ m => get?_moved_source hn m
      rest := fun m hm hlock hmodule => by
        obtain ⟨hsource, hmodule⟩ := hmodule hmoves
        rw [get?_moved hmodule fun hpre => hsource ((List.prefix_append _ _).trans hpre), if_neg]
        · exact h.get?_rewritten text hm hlock
        · exact fun heq => hsource (heq ▸ List.prefix_refl _)
      backupPath := rfl
      lockfileRemoved := rfl
      moduleMovedTo := (if_pos hmoves).symm
      mentions := rfl }
  · rw [hrun] at hfail
    cases hfail

/-- A run after a backup has its effect beside the backup. -/
theorem effect_of_backedUp {v : Tree} {i : Nat} (ht : t.WellFormed)
    (hback : Backup.BackedUp t v root b (above ++ [name]) above name i)
    (hmanifest : ∃ content, t.get? (above ++ [name] ++ ["pyproject.toml"]) = some (.file content))
    (hrun : run root b o v = .ok report u) :
    ∃ project r text, plan v root o = .ok (project, r, text) ∧
      Effect v u root b (above ++ [name]) o text (Name.moduleOf project.manifest.metadata.name) report ∧
      ∀ m, u.get? (above ++ [Slot.name ⟨name, i⟩] ++ m) = t.get? (above ++ [name] ++ m) := by
  cases hplan : plan v root o with
  | error failure =>
    rw [run_of_error hplan] at hrun
    cases hrun
  | ok found =>
    obtain ⟨project, r, text⟩ := found
    have hd : v.Reaches root (above ++ [name]) := (hback.leads.keep (hback.keeps ht)).reaches
    obtain ⟨e, h⟩ := exists_located hd hplan
    obtain rfl : e = above ++ [name] ++ ["pyproject.toml"] := by
      obtain ⟨content, he⟩ := h.manifest
      refine eq_of_locate_manifest hd (fun target => ?_) he
      obtain ⟨old, hfile⟩ := hmanifest
      rw [hback.get?_project ht, hfile]
      exact nofun
    have heffect := effect_of_run hback.wellFormed h hplan hrun
    have hbeside : ∀ m, ¬ above ++ [name] <+: above ++ [Slot.name ⟨name, i⟩] ++ m :=
      not_prefix_beside (Slot.name_ne_project ⟨name, i⟩).symm
    have hout : ∀ n m, ¬ above ++ [name] ++ [n] <+: above ++ [Slot.name ⟨name, i⟩] ++ m :=
      fun n m hpre => hbeside m ((List.prefix_append _ [n]).trans hpre)
    refine ⟨project, r, text, rfl, heffect, fun m => ?_⟩
    rw [heffect.rest, hback.copy.inside]
    · exact fun heq => hout "pyproject.toml" m (heq ▸ List.prefix_rfl)
    · exact fun _ => hout _ m
    · exact fun _ => ⟨hout _ m, hout _ m⟩

/-- What a migration that succeeds has done to a project that is a directory itself, with a manifest
    that is a file itself: there is a new backup, and of the tree with the backup in it nothing has
    been changed but what makes the project a migrated one. -/
theorem migrate_effect (ht : t.WellFormed)
    (hname : (o.path.absolute workingDirectory).name? = some name)
    (haround : t.Leads (o.path.absolute workingDirectory).around above)
    (hdir : t.get? (above ++ [name]) = some .directory) (hline : '\n' ∉ name.toList)
    (hmanifest : ∃ content, t.get? (above ++ [name] ++ ["pyproject.toml"]) = some (.file content))
    (hindex : ∀ j, Backup.latest (o.path.absolute workingDirectory) t = .ok (some j) t →
      j + 1 < Text.wordLimit)
    (hok : migrate workingDirectory o t = .ok report u) :
    ∃ i t₁ b project r text,
      Backup.BackedUp t t₁ (o.path.absolute workingDirectory) b (above ++ [name]) above name i ∧
      plan t₁ (o.path.absolute workingDirectory) o = .ok (project, r, text) ∧
      Effect t₁ u (o.path.absolute workingDirectory) b (above ++ [name]) o text
        (Name.moduleOf project.manifest.metadata.name) report ∧
      ∀ m, u.get? (above ++ [Slot.name ⟨name, i⟩] ++ m) = t.get? (above ++ [name] ++ m) := by
  obtain ⟨b, v, hcreate, hrun⟩ := exists_of_migrate_eq_ok hok
  obtain ⟨i, hback⟩ := Backup.backedUp ht hname haround hdir hline hindex hcreate
  obtain ⟨project, r, text, hplan, heffect, hslot⟩ := effect_of_backedUp ht hback hmanifest hrun
  exact ⟨i, v, b, project, r, text, hback, hplan, heffect, hslot⟩

/-- A project with its module beside the manifest and with a lock file. -/
def locked : Tree := ⟨flat.entries ++ [(["w", "demo", "poetry.lock"], .file ByteArray.empty)]⟩

/-- The project beside its backup. -/
def lockedAndBackup : Tree := ⟨locked.entries ++ [(["w", ".__p2r_backup_demo_0"], .directory),
  (["w", ".__p2r_backup_demo_0", "pyproject.toml"], .file manifestText.toUTF8),
  (["w", ".__p2r_backup_demo_0", "demo"], .directory),
  (["w", ".__p2r_backup_demo_0", "poetry.lock"], .file ByteArray.empty)]⟩

/-- What is reported when that project has been migrated. -/
def lockedReport : Report where
  project := "demo"
  projectPath := ⟨"/w/demo"⟩
  backupPath := ⟨"/w/.__p2r_backup_demo_0"⟩
  requirements := .ofDependencies []
  virtualProject := false
  lockfileRemoved := true
  moduleMovedTo := some ⟨"/w/demo/src/demo"⟩
  mentions := []

theorem migrate_effect_of_locked :
    ∃ u, migrate ⟨"/w"⟩ ⟨⟨"demo"⟩, false, false⟩ locked = .ok lockedReport u ∧
      ∃ i t₁ b project r text,
        Backup.BackedUp locked t₁ ⟨"/w/demo"⟩ b (["w"] ++ ["demo"]) ["w"] "demo" i ∧
        plan t₁ ⟨"/w/demo"⟩ ⟨⟨"demo"⟩, false, false⟩ = .ok (project, r, text) ∧
        Effect t₁ u ⟨"/w/demo"⟩ b (["w"] ++ ["demo"]) ⟨⟨"demo"⟩, false, false⟩ text
          (Name.moduleOf project.manifest.metadata.name) lockedReport ∧
        ∀ m, u.get? (["w"] ++ [Slot.name ⟨"demo", i⟩] ++ m) = locked.get? (["w"] ++ ["demo"] ++ m) := by
  have hcreate : Backup.create ⟨"/w/demo"⟩ locked =
      .ok ⟨"/w/.__p2r_backup_demo_0"⟩ lockedAndBackup := by
    refine Backup.create_of_sorted (l := ["w", "demo"]) (e := .directory) (i := 0) (j := 2)
      (u := locked.put ["w", ".__p2r_backup_demo_0"] .directory) ?_ ?_ ?_ ?_ ?_ ?_ <;>
    decide +kernel
  have hrun : run ⟨"/w/demo"⟩ ⟨"/w/.__p2r_backup_demo_0"⟩ ⟨⟨"demo"⟩, false, false⟩ lockedAndBackup =
      .ok lockedReport (moved (rewritten lockedAndBackup ⟨"/w/demo"⟩ ["w", "demo"]
        ["w", "demo", "pyproject.toml"] convertedText) ["w", "demo"] "demo") := by
    have hlock : lockedAndBackup.isFile (lockfile ⟨"/w/demo"⟩) = true := by decide +kernel
    have htarget : (Path.child ⟨"/w/demo"⟩ sourceName).child "demo" = ⟨"/w/demo/src/demo"⟩ := by
      decide +kernel
    have hleads : lockedAndBackup.Leads ⟨"/w/demo"⟩ ["w", "demo"] := by decide +kernel
    have hmanifest : lockedAndBackup.locate true (Project.manifestPath ⟨"/w/demo"⟩) =
        .ok (["w", "demo", "pyproject.toml"], some (.file manifestText.toUTF8)) := by decide +kernel
    have hbeside := run_of_beside (o := ⟨⟨"demo"⟩, false, false⟩) (by decide +kernel) hleads.reaches
      hmanifest rfl (by decide +kernel) (by decide +kernel) (by decide +kernel)
      ⟨"/w/.__p2r_backup_demo_0"⟩
    rwa [hlock, htarget] at hbeside
  have habsolute : Path.absolute ⟨"demo"⟩ ⟨"/w"⟩ = ⟨"/w/demo"⟩ := rfl
  have hname : (Path.absolute ⟨"demo"⟩ ⟨"/w"⟩).name? = some "demo" := by decide +kernel
  have haround : locked.Leads (Path.absolute ⟨"demo"⟩ ⟨"/w"⟩).around ["w"] := by decide +kernel
  have hmanifest : ∃ content, locked.get? (["w"] ++ ["demo"] ++ ["pyproject.toml"]) =
      some (.file content) := ⟨manifestText.toUTF8, by decide +kernel⟩
  have hmigrate : migrate ⟨"/w"⟩ ⟨⟨"demo"⟩, false, false⟩ locked = run ⟨"/w/demo"⟩
      ⟨"/w/.__p2r_backup_demo_0"⟩ ⟨⟨"demo"⟩, false, false⟩ lockedAndBackup :=
    migrate_of_created (by decide) hcreate
  obtain ⟨u, hok⟩ : ∃ u, migrate ⟨"/w"⟩ ⟨⟨"demo"⟩, false, false⟩ locked = .ok lockedReport u :=
    ⟨_, hmigrate.trans hrun⟩
  have heffect := migrate_effect (o := ⟨⟨"demo"⟩, false, false⟩) (by decide +kernel) hname haround
    (by decide +kernel) (by decide) hmanifest (Backup.fits_of_latest_eq_none (by decide +kernel)) hok
  rw [habsolute] at heffect
  exact ⟨u, hok, heffect⟩

/-- The lock file of a project is a link to where its backup is going to be. -/
def linkedAhead : Tree := ⟨[(["w"], .directory), (["w", "demo"], .directory),
  (["w", "demo", "pyproject.toml"], .file manifestText.toUTF8),
  (["w", "demo", "poetry.lock"], .link "../.__p2r_backup_demo_0/pyproject.toml")]⟩

/-- The project beside its backup. -/
def linkedAheadAndBackup : Tree := ⟨linkedAhead.entries ++ [(["w", ".__p2r_backup_demo_0"], .directory),
  (["w", ".__p2r_backup_demo_0", "pyproject.toml"], .file manifestText.toUTF8),
  (["w", ".__p2r_backup_demo_0", "poetry.lock"], .link "../.__p2r_backup_demo_0/pyproject.toml")]⟩

/-- A lock file that leads nowhere before a migration can lead to a file once the backup is there, and
    then it is removed. -/
theorem migrate_removes_link_into_backup : linkedAhead.WellFormed ∧
    linkedAhead.isFile (lockfile ⟨"/w/demo"⟩) = false ∧
    (linkedAhead.get? ["w", "demo", "poetry.lock"]).isSome ∧
    ∃ report u, migrate ⟨"/w"⟩ ⟨⟨"demo"⟩, true, false⟩ linkedAhead = .ok report u ∧
      report.lockfileRemoved = true ∧ u.get? ["w", "demo", "poetry.lock"] = none := by
  have hcreate : Backup.create ⟨"/w/demo"⟩ linkedAhead =
      .ok ⟨"/w/.__p2r_backup_demo_0"⟩ linkedAheadAndBackup := by
    refine Backup.create_of_sorted (l := ["w", "demo"]) (e := .directory) (i := 0) (j := 2)
      (u := linkedAhead.put ["w", ".__p2r_backup_demo_0"] .directory) ?_ ?_ ?_ ?_ ?_ ?_ <;>
    decide +kernel
  have hrun : run ⟨"/w/demo"⟩ ⟨"/w/.__p2r_backup_demo_0"⟩ ⟨⟨"demo"⟩, true, false⟩
      linkedAheadAndBackup = .ok { lockedReport with moduleMovedTo := none }
        (rewritten linkedAheadAndBackup ⟨"/w/demo"⟩ ["w", "demo"] ["w", "demo", "pyproject.toml"]
          convertedText) := by
    have hlock : linkedAheadAndBackup.isFile (lockfile ⟨"/w/demo"⟩) = true := by decide +kernel
    have hleads : linkedAheadAndBackup.Leads ⟨"/w/demo"⟩ ["w", "demo"] := by decide +kernel
    have hmanifest : linkedAheadAndBackup.locate true (Project.manifestPath ⟨"/w/demo"⟩) =
        .ok (["w", "demo", "pyproject.toml"], some (.file manifestText.toUTF8)) := by decide +kernel
    have hignored := run_of_ignored (o := ⟨⟨"demo"⟩, true, false⟩) hleads.reaches hmanifest rfl rfl
      ⟨"/w/.__p2r_backup_demo_0"⟩
    rwa [hlock] at hignored
  have hmigrate : migrate ⟨"/w"⟩ ⟨⟨"demo"⟩, true, false⟩ linkedAhead = run ⟨"/w/demo"⟩
      ⟨"/w/.__p2r_backup_demo_0"⟩ ⟨⟨"demo"⟩, true, false⟩ linkedAheadAndBackup :=
    migrate_of_created (by decide) hcreate
  exact ⟨by decide +kernel, by decide +kernel, by decide +kernel, _, _, hmigrate.trans hrun, rfl,
    by decide +kernel⟩

end Migration

end ManifestMigration
