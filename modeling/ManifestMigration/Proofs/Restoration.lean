import ManifestMigration.Restoration
import ManifestMigration.Proofs.Backup.Slots

/-! A restoration that fails, or that is declined, leaves everything as it was. -/

namespace ManifestMigration

open ManifestMigration.Action

variable {t u : Tree} {workingDirectory root b : Path} {o : RestorationOptions}

/-! ### Choosing the backup -/

namespace Restoration

/-- Nothing is changed before the backup is chosen. -/
theorem reads_choose (workingDirectory : Path) (o : RestorationOptions) :
    Reads (choose workingDirectory o) := by
  have hcheck : ∀ (root : Path) (index : Nat), Reads (do
      let backup ← Backup.pathOf root index
      if !(← Action.look fun t => t.isDirectory backup) then throw (.backupNotFound backup)
      return (root, backup)) := by
    intro root index
    refine (Backup.reads_pathOf root index).bind fun backup => (reads_look _).bind fun there => ?_
    cases there
    · exact (reads_throw _).bind fun _ => reads_pure _
    · exact reads_pure _
  rw [choose]
  refine Reads.bind ?_ fun root => ?_
  · rw [Migration.absolute]
    split
    · exact reads_throw _
    · exact reads_pure _
  cases o.number with
  | some index => exact hcheck root index
  | none =>
    refine (Backup.reads_latest root).bind fun latest => ?_
    cases latest with
    | some index => exact hcheck root index
    | none => exact (reads_throw _).bind fun index => hcheck root index

theorem of_absolute {p : Path} (h : Migration.absolute workingDirectory p t = .ok root u) :
    root = p.absolute workingDirectory ∧ u = t ∧ p.text.isEmpty = false := by
  rw [Migration.absolute] at h
  cases hempty : p.text.isEmpty <;> rw [hempty] at h <;> cases h
  exact ⟨rfl, rfl, rfl⟩

theorem of_pathOf {i : Nat} (h : Backup.pathOf root i t = .ok b u) :
    root.backup? i = some b ∧ u = t := by
  rw [Backup.pathOf] at h
  cases hbackup : root.backup? i <;> rw [hbackup] at h <;> cases h
  exact ⟨rfl, rfl⟩

/-- The chosen backup is one of the project, and a path of a directory. -/
theorem of_choose (h : choose workingDirectory o t = .ok (root, b) u) :
    root = o.path.absolute workingDirectory ∧ (∃ i, root.backup? i = some b) ∧
      t.isDirectory b = true := by
  have hcheck : ∀ {r : Path} {index : Nat} {t u : Tree}, (do
      let backup ← Backup.pathOf r index
      if !(← Action.look fun t => t.isDirectory backup) then throw (.backupNotFound backup)
      return (r, backup) : Action (Path × Path)) t = .ok (root, b) u →
      root = r ∧ (∃ i, root.backup? i = some b) ∧ t.isDirectory b = true := by
    intro r index t u h
    obtain ⟨backup, v, hpath, hrest⟩ := exists_of_bind_eq_ok h
    obtain ⟨hbackup, rfl⟩ := of_pathOf hpath
    rw [look_bind] at hrest
    cases hdir : v.isDirectory backup <;> rw [hdir] at hrest <;> cases hrest
    exact ⟨rfl, ⟨index, hbackup⟩, hdir⟩
  rw [choose] at h
  obtain ⟨r, v, habsolute, hrest⟩ := exists_of_bind_eq_ok h
  obtain ⟨rfl, rfl, -⟩ := of_absolute habsolute
  cases hnumber : o.number with
  | some index =>
    rw [hnumber] at hrest
    exact hcheck hrest
  | none =>
    rw [hnumber] at hrest
    obtain ⟨latest, w, hlatest, hfound⟩ := exists_of_bind_eq_ok hrest
    obtain rfl : w = v := (after_of_ok hlatest).symm.trans (Backup.reads_latest _ v)
    cases latest with
    | some index => exact hcheck hfound
    | none => cases hfound

/-! ### Putting it back -/

theorem reads_ask (o : RestorationOptions) (confirm : Path → Except Failure Bool) (b : Path) :
    Reads (ask o confirm b) := by
  rw [ask]
  split
  · exact reads_pure _
  · exact reads_attempt _

/-- The chosen backup can be put back: it is a directory itself and no link to one, the way to where
    the project stands does not lead through the project, a project that is a link is not written as
    a directory, and no path of what is copied is longer than the limits. -/
structure Grounded (t : Tree) (root b : Path) (above : Location) (name : String) (i : Nat) :
    Prop where
  named : root.name? = some name
  leads : (t.erase (above ++ [name])).Leads root.around above
  slot : b = Backup.slot root name i
  directory : t.get? (above ++ [Slot.name ⟨name, i⟩]) = some .directory
  project : root.endsOpen = true → ∀ target, t.get? (above ++ [name]) ≠ some (.link target)
  readable : t.Fits (above ++ [Slot.name ⟨name, i⟩]) b
  writable : t.Fits (above ++ [Slot.name ⟨name, i⟩]) (root.child "")

theorem Grounded.restorable {above : Location} {name : String} {i : Nat} (ht : t.WellFormed)
    (hdots : "." ∉ root.pieces) (h : Grounded t root b above name i) :
    Backup.Restorable t root b above name (Slot.name ⟨name, i⟩) := by
  obtain ⟨-, hidle, hup⟩ := Path.names_of_name? h.named
  have hsome : (t.get? (above ++ [Slot.name ⟨name, i⟩])).isSome :=
    Option.isSome_of_eq_some h.directory
  have hname : IsName name := Slot.isName_project (ht.isName hsome) hidle hup
  have hslot : b.Fits := h.readable.top hsome
  refine ⟨ht, ⟨hdots, h.named, h.leads⟩, hname, ?_, h.directory, Slot.name_ne_project _, h.readable,
    h.writable⟩
  obtain rfl := h.slot
  exact Backup.places_slot h.leads h.named hslot.flaw (hslot.short _ (Backup.mem_names_slot h.named i))

/-- A restoration that fails or is declined changes nothing, when the backup that it chooses can be
    put back, or is declined. -/
theorem failure_keeps_tree {confirm : Path → Except Failure Bool} (ht : t.WellFormed)
    (hdots : "." ∉ workingDirectory.pieces)
    (hgrounded : ∀ root b, choose workingDirectory o t = .ok (root, b) t →
      ask o confirm b t = .ok true t → ∃ above name i, Grounded t root b above name i) :
    (∀ e u, restoreAsking workingDirectory confirm o t = .error e u → u = t) ∧
      ∀ b u, restoreAsking workingDirectory confirm o t = .ok (.aborted b) u → u = t := by
  have hreads := reads_choose workingDirectory o t
  cases hchoose : choose workingDirectory o t with
  | error e v =>
    rw [after_of_error hchoose] at hreads
    rw [restoreAsking, bind_of_error hchoose]
    exact ⟨fun _ _ h => by cases h; exact hreads, nofun⟩
  | ok found v =>
    obtain ⟨root, b⟩ := found
    obtain rfl : t = v := hreads.symm.trans (after_of_ok hchoose)
    rw [restoreAsking, bind_of_ok hchoose]
    simp only
    have hasked := reads_ask o confirm b t
    cases hask : ask o confirm b t with
    | error e v =>
      rw [after_of_error hask] at hasked
      rw [bind_of_error hask]
      exact ⟨fun _ _ h => by cases h; exact hasked, nofun⟩
    | ok confirmed v =>
      obtain rfl : t = v := hasked.symm.trans (after_of_ok hask)
      rw [bind_of_ok hask]
      cases confirmed with
      | false => exact ⟨nofun, fun _ _ h => by cases h; rfl⟩
      | true =>
        obtain ⟨above, name, i, hground⟩ := hgrounded root b hchoose hask
        have hroot : "." ∉ root.pieces := by
          rw [(of_choose hchoose).1]
          exact Path.dot_notMem_absolute hdots
        rw [Bool.not_true, if_neg Bool.false_ne_true]
        rcases (hground.restorable ht hroot).restore_cases hground.project with
          ⟨w, hok, -⟩ | ⟨e, herror⟩
        · rw [bind_of_ok hok]
          exact ⟨nofun, nofun⟩
        · rw [bind_of_error herror]
          exact ⟨fun _ _ h => by cases h; rfl, nofun⟩

/-- A file has taken the place of a project of which there is a backup. -/
def occupied : Tree := ⟨[(["w"], .directory), (["w", "demo"], .file "taken".toUTF8),
  (["w", ".__p2r_backup_demo_0"], .directory),
  (["w", ".__p2r_backup_demo_0", "setup.cfg"], .file "[metadata]".toUTF8)]⟩

theorem failure_keeps_tree_of_occupied :
    restoreAsking ⟨"/w"⟩ (fun _ => .ok false) ⟨⟨"demo"⟩, none, true⟩ occupied =
        .error (.system ⟨"/w/demo"⟩ .notDirectory) occupied ∧
      (∀ e u, restoreAsking ⟨"/w"⟩ (fun _ => .ok false) ⟨⟨"demo"⟩, none, true⟩ occupied = .error e u →
        u = occupied) ∧
      ∀ b u, restoreAsking ⟨"/w"⟩ (fun _ => .ok false) ⟨⟨"demo"⟩, none, true⟩ occupied =
        .ok (.aborted b) u → u = occupied := by
  refine ⟨by decide +kernel, failure_keeps_tree (by decide +kernel) (by decide +kernel) ?_⟩
  intro root b h _
  have hchoose : choose ⟨"/w"⟩ ⟨⟨"demo"⟩, none, true⟩ occupied =
      .ok (⟨"/w/demo"⟩, ⟨"/w/.__p2r_backup_demo_0"⟩) occupied := by decide +kernel
  rw [hchoose] at h
  cases h
  exact ⟨["w"], "demo", 0, {
    named := by decide +kernel
    leads := by decide +kernel
    slot := by decide +kernel
    directory := by decide +kernel
    project := by
      intro h
      exact absurd h (by decide +kernel)
    readable := .of_entries (by decide +kernel) (by decide +kernel)
    writable := .of_entries (by decide +kernel) (by decide +kernel) }⟩

/-- A link to a directory stands where a backup is looked for. -/
def linked : Tree := ⟨[(["w"], .directory), (["w", "demo"], .directory),
  (["w", "demo", "setup.cfg"], .file "[metadata]".toUTF8), (["w", "saved"], .directory),
  (["w", ".__p2r_backup_demo_0"], .link "saved")]⟩

/-- When the backup is a link to a directory, the project is removed and the link is not copied. -/
theorem failure_through_link_loses_project : linked.WellFormed ∧
    restoreAsking ⟨"/w"⟩ (fun _ => .ok false) ⟨⟨"demo"⟩, none, true⟩ linked =
      .error (.system ⟨"/w/demo/"⟩ .missing) (linked.erase ["w", "demo"]) ∧
    (linked.erase ["w", "demo"]).get? ["w", "demo"] ≠ linked.get? ["w", "demo"] := by
  decide +kernel

end Restoration

end ManifestMigration
