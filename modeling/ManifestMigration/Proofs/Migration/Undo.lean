import ManifestMigration.Proofs.Migration.Confinement
import ManifestMigration.Proofs.Restoration

/-! A migration can be undone: restoring the latest backup gives back the tree as it was when the
    backup had just been made, whatever the migration came to and whatever is changed inside the
    project afterwards. -/

namespace ManifestMigration

open ManifestMigration.Tree

variable {t t₁ u : Tree} {root b workingDirectory : Path} {above : Location} {name : String} {i : Nat}

namespace Backup.BackedUp

/-- The backup is found where no changes are confined to. -/
theorem get?_slot (h : BackedUp t t₁ root b (above ++ [name]) above name i)
    (hedit : Confined (above ++ [name]) t₁ u) (m : Location) :
    u.get? (above ++ [Slot.name ⟨name, i⟩] ++ m) = t.get? (above ++ [name] ++ m) := by
  rw [hedit _ fun hinside => not_prefix_beside (Slot.name_ne_project ⟨name, i⟩).symm m hinside.1,
    h.copy.inside]

/-- The backup does not change how the project is found. -/
theorem stands (ht : t.WellFormed) (h : BackedUp t t₁ root b (above ++ [name]) above name i)
    (hstands : t.Stands root above name) : t₁.Stands root above name where
  house := by
    refine ⟨hstands.house.dots, hstands.house.named, hstands.house.leads.keep fun m e hm _ => ?_⟩
    rw [get?_erase (List.concat_ne_nil name above)] at hm ⊢
    split at hm
    · cases hm
    case isFalse hpre =>
      rw [if_neg hpre, h.copy.outside m, hm]
      rintro ⟨k, rfl⟩
      rw [ht.vacant h.vacant] at hm
      cases hm
  directory := by
    have hsame := h.get?_project ht []
    rwa [List.append_nil, hstands.directory] at hsame
  isName := hstands.isName
  flaw := hstands.flaw

/-- No slot is later than that of the backup. -/
theorem isGreatest_taken (h : BackedUp t t₁ root b (above ++ [name]) above name i) (hname : IsName name)
    (hline : '\n' ∉ name.toList) (hedit : Confined (above ++ [name]) t₁ u)
    (hdir : t.get? (above ++ [name]) = some .directory) : IsGreatest (taken u above name) i := by
  have hparse := Slot.parse?_name (s := ⟨name, i⟩) hname.ne_empty hline h.fits
  refine ⟨⟨_, ?_, hparse⟩, ?_⟩
  · have hslot := h.get?_slot hedit []
    rw [List.append_nil, List.append_nil, hdir] at hslot
    rw [hslot]
    rfl
  · rintro j ⟨n, hsome, hj⟩
    by_cases hn : n = Slot.name ⟨name, i⟩
    · rw [hn, hparse] at hj
      cases hj
      exact le_refl i
    · refine (h.newest j ⟨n, ?_, hj⟩).le
      rw [hedit, h.copy.outside] at hsome
      · exact hsome
      · exact not_prefix_sibling (Ne.symm hn)
      · rintro ⟨hpre, hne⟩
        rw [List.prefix_append_right_inj, List.cons_prefix_cons] at hpre
        exact hne (by rw [hpre.1])

/-- The backup can be put back after any changes inside the project. -/
theorem restorable (h : BackedUp t t₁ root b (above ++ [name]) above name i) (ht : t.WellFormed)
    (hu : u.WellFormed) (hstands : t.Stands root above name) (hedit : Confined (above ++ [name]) t₁ u)
    (hroot : t.Fits (above ++ [name]) (root.child ""))
    (hslot : t.Fits (above ++ [name]) (b.child "")) :
    Restorable u root b above name (Slot.name ⟨name, i⟩) := by
  have hafter : u.Stands root above name := (h.stands ht hstands).keep hedit
  have hname := hafter.isName
  have hpresent : ∀ {m}, (u.get? (above ++ [Slot.name ⟨name, i⟩] ++ m)).isSome →
      (t.get? (above ++ [name] ++ m)).isSome := fun {m} hsome => by rwa [h.get?_slot hedit] at hsome
  have hpath := h.path
  have hb : t.Fits (above ++ [name]) b :=
    hslot.of_child_empty ht (hpath ▸ names_slot_ne_nil h.named)
  refine ⟨hu, hafter.house, hname, ?_, ?_, Slot.name_ne_project _, fun m hsome => ?_,
    fun m hsome => hroot m (hpresent hsome)⟩
  · have hfits := hb.top (Option.isSome_of_eq_some hstands.directory)
    subst hpath
    exact places_slot hafter.house.leads h.named hfits.flaw (hfits.short _ (mem_names_slot h.named i))
  · have hsame := h.get?_slot hedit []
    rwa [List.append_nil, List.append_nil, hstands.directory] at hsame
  · exact hb m (hpresent hsome)

end Backup.BackedUp

namespace Restoration

section
variable {p : Path} (assumeYes : Bool) (hp : p.text.isEmpty = false)
  (hname : (p.absolute workingDirectory).name? = some name)
  (haround : u.Leads (p.absolute workingDirectory).around above)
include hp hname haround

/-- Without a number, the latest slot is looked up. -/
theorem choose_of_latest : choose workingDirectory ⟨p, none, assumeYes⟩ u =
    match Backup.latestAmong name ((u.listing above).map Prod.fst) with
    | none => .error (.noBackup (p.absolute workingDirectory)) u
    | some i =>
      if u.isDirectory (Backup.slot (p.absolute workingDirectory) name i) then
        .ok (p.absolute workingDirectory, Backup.slot (p.absolute workingDirectory) name i) u
      else .error (.backupNotFound (Backup.slot (p.absolute workingDirectory) name i)) u := by
  have habsolute : Migration.absolute workingDirectory p u =
      .ok (p.absolute workingDirectory) u := by
    rw [Migration.absolute, hp]
    rfl
  rw [choose, bind_of_ok habsolute]
  simp only
  rw [bind_of_ok (Backup.latest_eq hname haround)]
  cases Backup.latestAmong name ((u.listing above).map Prod.fst) with
  | none => rfl
  | some i =>
    change (Backup.pathOf _ i >>= _) u = if _ then _ else _
    rw [bind_of_ok (Backup.pathOf_eq hname), Action.look_bind]
    cases u.isDirectory (Backup.slot (p.absolute workingDirectory) name i) <;> rfl

/-- Without a number, the latest backup is chosen. -/
theorem choose_latest (hlatest : IsGreatest (Backup.taken u above name) i)
    (hdir : u.isDirectory (Backup.slot (p.absolute workingDirectory) name i) = true) :
    choose workingDirectory ⟨p, none, assumeYes⟩ u =
      .ok (p.absolute workingDirectory, Backup.slot (p.absolute workingDirectory) name i) u := by
  rw [choose_of_latest assumeYes hp hname haround, Backup.latestAmong_eq_some_iff.mpr hlatest]
  simp only [hdir, if_true]

end

end Restoration

namespace Migration

/-- A migration that got past its backup can be undone, as long as the way to the directory that the
    project stands in does not lead through the project. -/
theorem restore_undoes {o : MigrationOptions} (ht : t.WellFormed)
    (hdots : "." ∉ workingDirectory.pieces)
    (hname : (o.path.absolute workingDirectory).name? = some name)
    (hleads : (t.erase (above ++ [name])).Leads (o.path.absolute workingDirectory).around above)
    (hdir : t.get? (above ++ [name]) = some .directory) (hline : '\n' ∉ name.toList)
    (hlink : ∀ target, t.get? (above ++ [name] ++ ["pyproject.toml"]) ≠ some (.link target))
    (hindex : ∀ j, Backup.latest (o.path.absolute workingDirectory) t = .ok (some j) t →
      j + 1 < Text.wordLimit)
    (hroot : t.Fits (above ++ [name]) ((o.path.absolute workingDirectory).child ""))
    (hslot : t.Fits (above ++ [name]) (b.child ""))
    (hbackup : (absolute workingDirectory o.path >>= Backup.create) t = .ok b t₁)
    (hu : u.WellFormed) (hedit : Confined (above ++ [name]) ((migrate workingDirectory o).after t) u)
    (confirm : Path → Except Failure Bool) :
    ∃ w, Restoration.restoreAsking workingDirectory confirm ⟨o.path, none, true⟩ u =
        .ok (.restored b) w ∧
      (∀ m, w.get? (above ++ [name] ++ m) = t.get? (above ++ [name] ++ m)) ∧ Tree.Same w t₁ := by
  obtain ⟨root, t', habsolute, hcreate⟩ := exists_of_bind_eq_ok hbackup
  obtain ⟨rfl, rfl, hpath⟩ := Restoration.of_absolute habsolute
  have hhouse : t'.Houses (o.path.absolute workingDirectory) above name :=
    ⟨Path.dot_notMem_absolute hdots, hname, hleads⟩
  have hfits := hroot.of_child_empty ht (Path.names_ne_nil_of_name? hname)
  have hstands : t'.Stands (o.path.absolute workingDirectory) above name :=
    ⟨hhouse, hdir, ht.isName (Option.isSome_of_eq_some hdir),
      (hfits.top (Option.isSome_of_eq_some hdir)).flaw⟩
  obtain ⟨i, hback⟩ := Backup.backedUp ht hname hhouse.around hdir hline hindex hcreate
  have hrun : Confined (above ++ [name]) t₁ ((migrate workingDirectory o).after t') := by
    rw [migrate, Action.after_bind_of_ok habsolute, Action.after_bind_of_ok hcreate]
    refine run_confined hback.wellFormed (hback.stands ht hstands) fun target => ?_
    rw [hback.get?_project ht]
    exact hlink target
  have hinside := hrun.trans hedit
  have hafter := (hback.stands ht hstands).keep hinside
  have hrestorable := hback.restorable ht hu hstands hinside hroot hslot
  have hchoose := Restoration.choose_latest true hpath hname hafter.house.around
    (hback.isGreatest_taken hstands.isName hline hinside hdir)
    (hback.path ▸ hrestorable.isDirectory)
  obtain ⟨w, hrestore, hcopy⟩ := hrestorable.replaces_directory hafter.directory
  have hproject : ∀ m, w.get? (above ++ [name] ++ m) = t'.get? (above ++ [name] ++ m) := by
    intro m
    rw [hcopy.inside, get?_erase (List.concat_ne_nil name above),
      if_neg (hrestorable.not_prefix m), hback.get?_slot hinside]
  refine ⟨w, ?_, hproject, fun m => ?_⟩
  · rw [Restoration.restoreAsking, bind_of_ok hchoose, ← hback.path]
    simp only
    have hask : Restoration.ask ⟨o.path, none, true⟩ confirm b u = .ok true u := rfl
    rw [bind_of_ok hask, Bool.not_true, if_neg Bool.false_ne_true, bind_of_ok hrestore]
    rfl
  · by_cases hm : above ++ [name] <+: m
    · obtain ⟨k, rfl⟩ := hm
      rw [hproject, hback.get?_project ht]
    · rw [hcopy.outside m hm, get?_erase (List.concat_ne_nil name above), if_neg hm,
        hinside m fun h => hm h.1]

/-- A project in its directory, and nothing else. -/
def project : Tree := ⟨[(["w"], .directory), (["w", "demo"], .directory),
  (["w", "demo", "pyproject.toml"], .file "[tool.poetry]".toUTF8),
  (["w", "demo", "tests"], .directory), (["w", "demo", "latest"], .link "../demo/tests")]⟩

/-- The project beside its first backup. -/
def projectAndBackup : Tree := ⟨project.entries ++ [(["w", ".__p2r_backup_demo_0"], .directory),
  (["w", ".__p2r_backup_demo_0", "pyproject.toml"], .file "[tool.poetry]".toUTF8),
  (["w", ".__p2r_backup_demo_0", "tests"], .directory),
  (["w", ".__p2r_backup_demo_0", "latest"], .link "../demo/tests")]⟩

theorem ne_link_of_file {l : Location} (content : ByteArray) (h : t.get? l = some (.file content))
    (target : String) : t.get? l ≠ some (.link target) := by
  rw [h]
  nofun

theorem backup_project : (absolute ⟨"/w"⟩ ⟨"demo/"⟩ >>= Backup.create) project =
    .ok ⟨"/w/.__p2r_backup_demo_0"⟩ projectAndBackup := by
  have habsolute : absolute ⟨"/w"⟩ ⟨"demo/"⟩ project = .ok ⟨"/w/demo/"⟩ project := rfl
  rw [bind_of_ok habsolute]
  refine Backup.create_of_sorted (l := ["w", "demo"]) (e := .directory) (i := 0) (j := 2)
    (u := project.put ["w", ".__p2r_backup_demo_0"] .directory) ?_ ?_ ?_ ?_ ?_ ?_ <;>
  decide +kernel

/-- The whole content of a project comes back. -/
theorem restore_undoes_of_cleared :
    (absolute ⟨"/w"⟩ ⟨"demo/"⟩ >>= Backup.create) project =
        .ok ⟨"/w/.__p2r_backup_demo_0"⟩ projectAndBackup ∧
      ∃ w, Restoration.restoreAsking ⟨"/w"⟩ (fun _ => .ok false) ⟨⟨"demo/"⟩, none, true⟩
          (projectAndBackup.clear ["w", "demo"]) =
            .ok (.restored ⟨"/w/.__p2r_backup_demo_0"⟩) w ∧
        (∀ m, w.get? (["w", "demo"] ++ m) = project.get? (["w", "demo"] ++ m)) ∧
        w.Same projectAndBackup := by
  have hstands : projectAndBackup.Stands ⟨"/w/demo/"⟩ ["w"] "demo" := {
    house := ⟨by decide +kernel, by decide +kernel, by decide +kernel⟩
    directory := by decide +kernel
    isName := by decide +kernel
    flaw := by decide +kernel }
  have hname : (Path.absolute ⟨"demo/"⟩ ⟨"/w"⟩).name? = some "demo" := by decide +kernel
  have hleads : (project.erase (["w"] ++ ["demo"])).Leads
      (Path.absolute ⟨"demo/"⟩ ⟨"/w"⟩).around ["w"] := by decide +kernel
  refine ⟨backup_project, restore_undoes (o := ⟨⟨"demo/"⟩, false, false⟩) (by decide +kernel)
    (by decide +kernel) hname hleads (by decide +kernel) (by decide +kernel) ?_ ?_
    (.of_entries (by decide +kernel) (by decide +kernel))
    (.of_entries (by decide +kernel) (by decide +kernel)) backup_project (by decide +kernel) ?_ _⟩
  · exact ne_link_of_file "[tool.poetry]".toUTF8 (by decide +kernel)
  · intro j hj
    have hnone : Backup.latest ⟨"/w/demo/"⟩ project = .ok none project := by decide +kernel
    change Backup.latest ⟨"/w/demo/"⟩ project = _ at hj
    rw [hnone] at hj
    cases hj
  · have habsolute : absolute ⟨"/w"⟩ ⟨"demo/"⟩ project = .ok ⟨"/w/demo/"⟩ project := rfl
    have hcreate := backup_project
    rw [bind_of_ok habsolute] at hcreate
    rw [migrate, Action.after_bind_of_ok habsolute, Action.after_bind_of_ok hcreate]
    have hlink := ne_link_of_file "[tool.poetry]".toUTF8 (t := projectAndBackup)
      (l := ["w", "demo", "pyproject.toml"]) (by decide +kernel)
    exact (run_confined (by decide +kernel) hstands hlink).symm.trans (.clear _ _)

/-- A project with a directory in it. -/
def nested : Tree := ⟨[(["w"], .directory), (["w", "demo"], .directory),
  (["w", "demo", "sub"], .directory)]⟩

/-- The project with a directory in it, beside its first backup. -/
def nestedAndBackup : Tree := ⟨nested.entries ++ [(["w", ".__p2r_backup_demo_0"], .directory),
  (["w", ".__p2r_backup_demo_0", "sub"], .directory)]⟩

/-- When the path of a project leads through the project, what it leads through can be removed after
    the migration, and then there is no way to the backup. -/
theorem undo_misses_way_through_project :
    nested.WellFormed ∧ nested.Leads ⟨"/w/demo/sub/../../demo"⟩ ["w", "demo"] ∧
      (absolute ⟨"/w"⟩ ⟨"demo/sub/../../demo"⟩ >>= Backup.create) nested =
        .ok ⟨"/w/demo/sub/../../.__p2r_backup_demo_0"⟩ nestedAndBackup ∧
      (nestedAndBackup.erase ["w", "demo", "sub"]).WellFormed ∧
      Confined ["w", "demo"] ((migrate ⟨"/w"⟩ ⟨⟨"demo/sub/../../demo"⟩, false, false⟩).after nested)
        (nestedAndBackup.erase ["w", "demo", "sub"]) ∧
      Restoration.restoreAsking ⟨"/w"⟩ (fun _ => .ok false) ⟨⟨"demo/sub/../../demo"⟩, none, true⟩
          (nestedAndBackup.erase ["w", "demo", "sub"]) =
        .error (.system ⟨"/w/demo/sub/../.."⟩ .missing)
          (nestedAndBackup.erase ["w", "demo", "sub"]) := by
  have habsolute : absolute ⟨"/w"⟩ ⟨"demo/sub/../../demo"⟩ nested =
    .ok ⟨"/w/demo/sub/../../demo"⟩ nested := rfl
  have hcreate : Backup.create ⟨"/w/demo/sub/../../demo"⟩ nested =
      .ok ⟨"/w/demo/sub/../../.__p2r_backup_demo_0"⟩ nestedAndBackup := by
    refine Backup.create_of_sorted (l := ["w", "demo"]) (e := .directory) (i := 0) (j := 0)
      (u := nested.put ["w", ".__p2r_backup_demo_0"] .directory) ?_ ?_ ?_ ?_ ?_ ?_ <;>
    decide +kernel
  have hrun : (run ⟨"/w/demo/sub/../../demo"⟩ ⟨"/w/demo/sub/../../.__p2r_backup_demo_0"⟩
      ⟨⟨"demo/sub/../../demo"⟩, false, false⟩).after nestedAndBackup = nestedAndBackup := by
    decide +kernel
  refine ⟨by decide +kernel, by decide +kernel, ?_, by decide +kernel, ?_, by decide +kernel⟩
  · rw [bind_of_ok habsolute, hcreate]
  · rw [migrate, Action.after_bind_of_ok habsolute, Action.after_bind_of_ok hcreate, hrun]
    exact .erase (l := ["w", "demo"]) (m := ["sub"]) (List.cons_ne_nil _ _)

end Migration

end ManifestMigration
