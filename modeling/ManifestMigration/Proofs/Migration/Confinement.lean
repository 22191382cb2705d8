import ManifestMigration.Proofs.Backup.Slots
import ManifestMigration.Proofs.Migration.Completion

/-! What a migration leaves as it was: everything outside the project's directory, apart from the new
    backup and from the file that a link in the place of the manifest leads to.

    The lock file is removed and the module is moved under fixed names in the project, so only the
    manifest, which is written where it was read, can be elsewhere. -/

namespace ManifestMigration

/-! ### Changes in a directory -/

namespace Tree

variable {t u : Tree} {l m k : Location} {root : Path} {above : Location} {name : String}

theorem not_inside (hk : ¬ (l <+: k ∧ k ≠ l)) (hm : m ≠ []) : ¬ l ++ m <+: k := by
  rintro ⟨more, rfl⟩
  refine hk ⟨⟨m ++ more, (List.append_assoc ..).symm⟩, fun h => ?_⟩
  rw [List.append_assoc] at h
  exact hm (List.append_eq_nil_iff.mp (List.append_right_eq_self.mp h)).1

theorem Confined.erase (hm : m ≠ []) : Confined l t (t.erase (l ++ m)) := fun k hk => by
  rw [get?_erase (List.append_ne_nil_of_right_ne_nil l hm), if_neg (not_inside hk hm)]

theorem Confined.move (hm : m ≠ []) {n : Location} (hn : n ≠ []) :
    Confined l t (t.move (l ++ m) (l ++ n)) := fun _ hk =>
  get?_move (not_inside hk hm) (not_inside hk hn)

/-- A project is there, as a directory, and is found without leading through it. -/
structure Stands (t : Tree) (root : Path) (above : Location) (name : String) : Prop where
  house : t.Houses root above name
  directory : t.get? (above ++ [name]) = some .directory
  isName : IsName name
  flaw : root.flaw? = none

namespace Stands

theorem places (h : t.Stands root above name) : t.Places root above name :=
  h.house.places h.isName h.flaw

theorem leads (h : t.Stands root above name) : t.Leads root (above ++ [name]) :=
  h.places.leads h.directory

theorem keep (h : t.Stands root above name) (hc : Confined (above ++ [name]) t u) :
    u.Stands root above name where
  house := h.house.keep fun m hm => hc m fun hinside => hm hinside.1
  directory := by rw [hc _ fun hinside => hinside.2 rfl, h.directory]
  isName := h.isName
  flaw := h.flaw

end Stands

end Tree

namespace Migration

open ManifestMigration.Tree

variable {t u : Tree} {root b workingDirectory : Path} {d e m above : Location} {name text : String}
  {o : MigrationOptions}

theorem moved_confined (t : Tree) (d : Location) (name : String) : Confined d t (moved t d name) := by
  rw [moved, List.append_assoc d [sourceName]]
  exact (Confined.put (List.cons_ne_nil _ [])).trans
    (.move (List.cons_ne_nil _ []) (List.cons_ne_nil _ _))

/-- A run changes nothing that is not inside the project, apart from the file that its manifest is in. -/
theorem run_frame (ht : t.WellFormed) (hd : t.Reaches root d) (hm : ¬ (d <+: m ∧ m ≠ d))
    (hmanifest : ∀ found, t.locate true (Project.manifestPath root) ≠ .ok (m, found)) :
    ((run root b o).after t).get? m = t.get? m := by
  cases hplan : plan t root o with
  | error failure => rw [Action.after_of_error (run_of_error hplan)]
  | ok found =>
    obtain ⟨project, r, text⟩ := found
    obtain ⟨e, h⟩ := exists_located hd hplan
    have hrewritten : (rewritten t root d e text).get? m = t.get? m := by
      refine h.get?_rewritten text ?_ fun _ => not_inside hm (List.cons_ne_nil _ [])
      rintro rfl
      obtain ⟨content, he⟩ := h.manifest
      exact hmanifest _ he
    rcases run_cases ht h hplan b with
      ⟨-, -, hrun⟩ | ⟨-, l, -, -, -, -, ⟨-, hrun⟩ | ⟨-, failure, u, hrun, hu⟩⟩
    · rw [Action.after_of_ok hrun, hrewritten]
    · rw [Action.after_of_ok hrun, moved_confined _ d _ m hm, hrewritten]
    · rw [Action.after_of_error hrun, hu m, hrewritten]
      rintro rfl
      exact hm ⟨List.prefix_append d _, fun h => List.cons_ne_nil _ [] (List.append_right_eq_self.mp h)⟩

/-- A run changes nothing that is not inside a project with a manifest of its own. -/
theorem run_confined (ht : t.WellFormed) (h : t.Stands root above name)
    (hlink : ∀ target, t.get? (above ++ [name] ++ ["pyproject.toml"]) ≠ some (.link target)) :
    Confined (above ++ [name]) t ((run root b o).after t) := by
  intro m hm
  refine run_frame ht h.leads.reaches hm fun found hfound => hm ?_
  obtain rfl := eq_of_locate_manifest h.leads.reaches hlink hfound
  exact ⟨List.prefix_append _ _, fun h => List.cons_ne_nil _ [] (List.append_right_eq_self.mp h)⟩

/-- Whatever a migration comes to, it changes nothing outside the project but the slot of its new backup
    and the file that the manifest is in. Where the manifest is, is asked when the backup is there. -/
theorem migrate_frame (ht : t.WellFormed)
    (hline : ∀ name, (o.path.absolute workingDirectory).name? = some name → '\n' ∉ name.toList)
    (hindex : ∀ j, Backup.latest (o.path.absolute workingDirectory) t = .ok (some j) t →
      j + 1 < Text.wordLimit) :
    (migrate workingDirectory o).after t = t ∨
      ∃ d above name i,
        Backup.NextSlot t (o.path.absolute workingDirectory) d above name i ∧
        ∀ m, ¬ (d <+: m ∧ m ≠ d) → ¬ above ++ [Slot.name ⟨name, i⟩] <+: m →
          (∀ b v, Backup.create (o.path.absolute workingDirectory) t = .ok b v → ∀ found,
            v.locate true (Project.manifestPath (o.path.absolute workingDirectory)) ≠ .ok (m, found)) →
          ((migrate workingDirectory o).after t).get? m = t.get? m := by
  have hmigrate := migrate_eq workingDirectory o t
  split at hmigrate
  · exact .inl (Action.after_of_error hmigrate)
  rcases Backup.create_cases ht hline hindex with
    ⟨e, he⟩ | ⟨d, above, name, i, hnext, ⟨b, v, hcreate, hback⟩ | ⟨e, v, he, -, hv⟩⟩
  · rw [bind_of_error he] at hmigrate
    exact .inl (Action.after_of_error hmigrate)
  · refine .inr ⟨d, above, name, i, hnext, fun m hm hslot hmanifest => ?_⟩
    rw [bind_of_ok hcreate] at hmigrate
    have hd := (hback.leads.keep (hback.keeps ht)).reaches
    have hrun := run_frame (b := b) (o := o) hback.wellFormed hd hm (hmanifest b v hcreate)
    rw [Action.after, hmigrate, ← Action.after, hrun, hback.copy.outside m hslot]
  · refine .inr ⟨d, above, name, i, hnext, fun m _ hslot _ => ?_⟩
    rw [bind_of_error he] at hmigrate
    rw [Action.after_of_error hmigrate, hv m hslot]

/-- The manifest of a project is a link out of it. -/
def linkedOut : Tree := ⟨[(["w"], .directory), (["w", "real.toml"], .file manifestText.toUTF8),
  (["w", "demo"], .directory), (["w", "demo", "pyproject.toml"], .link "../real.toml")]⟩

/-- The project beside its backup. -/
def linkedOutAndBackup : Tree := ⟨linkedOut.entries ++ [(["w", ".__p2r_backup_demo_0"], .directory),
  (["w", ".__p2r_backup_demo_0", "pyproject.toml"], .link "../real.toml")]⟩

theorem create_linkedOut : Backup.create ⟨"/w/demo"⟩ linkedOut =
    .ok ⟨"/w/.__p2r_backup_demo_0"⟩ linkedOutAndBackup := by
  refine Backup.create_of_sorted (l := ["w", "demo"]) (e := .directory) (i := 0) (j := 1)
    (u := linkedOut.put ["w", ".__p2r_backup_demo_0"] .directory) ?_ ?_ ?_ ?_ ?_ ?_ <;>
  decide +kernel

theorem migrate_frame_of_linked : linkedOut.WellFormed ∧
    ((migrate ⟨"/w"⟩ ⟨⟨"demo"⟩, true, false⟩).after linkedOut = linkedOut ∨
      ∃ d above name i, Backup.NextSlot linkedOut ⟨"/w/demo"⟩ d above name i ∧
        ∀ m, ¬ (d <+: m ∧ m ≠ d) → ¬ above ++ [Slot.name ⟨name, i⟩] <+: m →
          (∀ b v, Backup.create ⟨"/w/demo"⟩ linkedOut = .ok b v → ∀ found,
            v.locate true (Project.manifestPath ⟨"/w/demo"⟩) ≠ .ok (m, found)) →
          ((migrate ⟨"/w"⟩ ⟨⟨"demo"⟩, true, false⟩).after linkedOut).get? m = linkedOut.get? m) := by
  have hname : (Path.absolute ⟨"demo"⟩ ⟨"/w"⟩).name? = some "demo" := by decide +kernel
  have ht : linkedOut.WellFormed := by decide +kernel
  exact ⟨ht, migrate_frame (o := ⟨⟨"demo"⟩, true, false⟩) ht
    (Backup.notMem_of_name? hname (by decide)) (Backup.fits_of_latest_eq_none (by decide +kernel))⟩

/-- A migration through a link writes outside the project, where nothing has been backed up. -/
theorem migrate_writes_through_link : linkedOut.WellFormed ∧
    ¬ ["w", "demo"] <+: ["w", "real.toml"] ∧
    ¬ ["w"] ++ [Slot.name ⟨"demo", 0⟩] <+: ["w", "real.toml"] ∧
    ∃ report u, migrate ⟨"/w"⟩ ⟨⟨"demo"⟩, true, false⟩ linkedOut = .ok report u ∧
      report.backupPath = ⟨"/w/.__p2r_backup_demo_0"⟩ ∧
      linkedOut.get? ["w", "real.toml"] = some (.file manifestText.toUTF8) ∧
      u.get? ["w", "real.toml"] = some (.file convertedText.toUTF8) ∧
      manifestText ≠ convertedText := by
  have hrun : run ⟨"/w/demo"⟩ ⟨"/w/.__p2r_backup_demo_0"⟩ ⟨⟨"demo"⟩, true, false⟩
      linkedOutAndBackup = .ok ⟨"demo", ⟨"/w/demo"⟩, ⟨"/w/.__p2r_backup_demo_0"⟩,
        .ofDependencies [], false, false, none, []⟩ (rewritten linkedOutAndBackup ⟨"/w/demo"⟩
          ["w", "demo"] ["w", "real.toml"] convertedText) := by
    have hlock : linkedOutAndBackup.isFile (lockfile ⟨"/w/demo"⟩) = false := by decide +kernel
    have hleads : linkedOutAndBackup.Leads ⟨"/w/demo"⟩ ["w", "demo"] := by decide +kernel
    have hmanifest : linkedOutAndBackup.locate true (Project.manifestPath ⟨"/w/demo"⟩) =
        .ok (["w", "real.toml"], some (.file manifestText.toUTF8)) := by decide +kernel
    have hignored := run_of_ignored (o := ⟨⟨"demo"⟩, true, false⟩) hleads.reaches hmanifest rfl rfl
      ⟨"/w/.__p2r_backup_demo_0"⟩
    rwa [hlock] at hignored
  have hmigrate : migrate ⟨"/w"⟩ ⟨⟨"demo"⟩, true, false⟩ linkedOut = run ⟨"/w/demo"⟩
      ⟨"/w/.__p2r_backup_demo_0"⟩ ⟨⟨"demo"⟩, true, false⟩ linkedOutAndBackup :=
    migrate_of_created (by decide) create_linkedOut
  exact ⟨by decide +kernel, by decide, by decide +kernel, _, _, hmigrate.trans hrun, rfl,
    by decide +kernel, by decide +kernel, by decide +kernel⟩

end Migration

end ManifestMigration
