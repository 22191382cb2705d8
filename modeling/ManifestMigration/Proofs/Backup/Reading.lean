import ManifestMigration.Proofs.Backup.Slots
import ManifestMigration.Proofs.Filesystem.Growth

/-! Slots are found again by their names.

    A slot's name says which project it is for and which index it has, so that the latest slot of a
    project is never before one that has been made. The name of a project may hold anything but a line
    feed: with one, the names of its slots still differ, but none of them is read. -/

namespace ManifestMigration

namespace Backup

variable {t u : Tree} {root b : Path} {above : Location} {name : String} {names : List String}
  {i j : Nat}

/-- The latest slot of a project is the one with an index, or comes after it. -/
def Sees (t : Tree) (root : Path) (i : Nat) : Prop := ∃ j, latest root t = .ok (some j) t ∧ i ≤ j

/-! ### The latest slot -/

theorem line_notMem_of_latestAmong (h : latestAmong name names = some i) : '\n' ∉ name.toList := by
  obtain ⟨s, hs, -⟩ := List.mem_map.mp (List.max?_eq_some_iff.mp h).1
  obtain ⟨hslot, hproject⟩ := List.mem_filter.mp hs
  obtain ⟨n, -, hparse⟩ := List.mem_filterMap.mp hslot
  rw [← beq_iff_eq.mp hproject]
  exact Slot.line_notMem_of_parse? hparse

/-- No slot is seen for a project with a line feed in its name. -/
theorem line_notMem_of_sees (hname : root.name? = some name) (h : Sees t root i) :
    '\n' ∉ name.toList := by
  obtain ⟨j, hlatest, -⟩ := h
  obtain ⟨-, above, -, haround⟩ := named_of_latest hlatest
  rw [latest_eq hname haround] at hlatest
  injection hlatest with hamong
  exact line_notMem_of_latestAmong hamong

theorem sees_of_mem_taken (hname : root.name? = some name) (haround : t.Leads root.around above)
    (h : i ∈ taken t above name) : Sees t root i := by
  have hlatest := latest_eq hname haround
  cases hamong : latestAmong name ((t.listing above).map Prod.fst) with
  | none =>
    rw [latestAmong_eq_none_iff.mp hamong] at h
    cases h
  | some j =>
    rw [hamong] at hlatest
    exact ⟨j, hlatest, (latestAmong_eq_some_iff.mp hamong).2 h⟩

theorem ne_empty_of_name? (hname : root.name? = some name) : name ≠ "" := by
  rintro rfl
  exact absurd (Path.names_of_name? hname).2.1 (by decide)

/-- A slot that stands beside the project is seen, unless there is a line feed in the project's name. -/
theorem sees_iff (hname : root.name? = some name) (hindex : i < Text.wordLimit)
    (haround : t.Leads root.around above)
    (hthere : (t.get? (above ++ [Slot.name ⟨name, i⟩])).isSome) :
    Sees t root i ↔ '\n' ∉ name.toList := by
  refine ⟨line_notMem_of_sees hname, fun hline => sees_of_mem_taken hname haround ⟨_, hthere, ?_⟩⟩
  exact Slot.parse?_name (s := ⟨name, i⟩) (ne_empty_of_name? hname) hline hindex

/-! ### Slots that have been made -/

theorem name?_slot (hname : root.name? = some name) (i : Nat) :
    (slot root name i).name? = some (Slot.name ⟨name, i⟩) :=
  Path.name?_child (slash_notMem_name hname i) (Slot.isIdle_name _) (Slot.name_ne (by decide))

theorem slot_injective (hname : root.name? = some name) (h : slot root name i = slot root name j) :
    i = j := by
  have hslot := (name?_slot hname i).symm.trans ((congrArg Path.name? h).trans (name?_slot hname j))
  exact (Slot.mk.inj (Slot.name_injective (Option.some.inj hslot))).2

/-- Making a backup takes nothing away, wherever it goes. -/
theorem adds_create (root : Path) : Action.Adds (create root) := by
  refine (Action.reads_look _).adds.bind fun isDirectory => ?_
  have hcopy : Action.Adds
      (next root >>= fun backup => copyTree root backup >>= fun _ => pure backup) :=
    (reads_next root).adds.bind fun backup =>
      (adds_copyTree root backup).bind fun _ => (Action.reads_pure backup).adds
  cases isDirectory with
  | true => exact hcopy
  | false => exact Action.Adds.bind (Action.reads_throw _).adds fun _ => hcopy

/-- The slots that there are stay. -/
theorem taken_subset (h : t.Grows u) : taken t above name ⊆ taken u above name :=
  fun _ ⟨n, hthere, hparse⟩ => ⟨n, h.isSome hthere, hparse⟩

/-- A slot is seen as soon as it has been made, unless there is a line feed in the project's name. -/
theorem sees_of_create (ht : t.WellFormed) (hname : root.name? = some name)
    (hindex : i < Text.wordLimit) (h : create root t = .ok (slot root name i) u) :
    Sees u root i ↔ '\n' ∉ name.toList := by
  refine ⟨line_notMem_of_sees hname, fun hline => ?_⟩
  by_cases hfits : ∀ j, latest root t = .ok (some j) t → j + 1 < Text.wordLimit
  · obtain ⟨d, above, n, j, hback⟩ := exists_backedUp ht (notMem_of_name? hname hline) hfits h
    obtain rfl : n = name := Option.some.inj (hback.named.symm.trans hname)
    obtain rfl := slot_injective hname hback.path
    have haround := hback.around.keep (hback.keeps ht)
    exact (sees_iff hname hindex haround (Option.isSome_of_eq_some hback.directory)).mpr hline
  · -- there is a slot with the largest index, which is still the latest one
    obtain ⟨j, hj, hlast⟩ : ∃ j, latest root t = .ok (some j) t ∧ Text.wordLimit ≤ j + 1 := by
      simpa using hfits
    have hgrows : t.Grows u := Action.after_of_ok h ▸ adds_create root t
    obtain ⟨-, above, -, haround⟩ := named_of_latest hj
    rw [latest_eq hname haround] at hj
    injection hj with hamong
    have hmem := taken_subset hgrows (latestAmong_eq_some_iff.mp hamong).1
    obtain ⟨k, hk, hle⟩ := sees_of_mem_taken hname (haround.keep hgrows.keeps) hmem
    exact ⟨k, hk, by omega⟩

/-- The name of a slot is read back as the project and the index that it was made of, and slots are
    seen, exactly if there is no line feed in the name of the project. Different slots have different
    names in any case. -/
theorem slots_decode (name : String) (i : Nat) (hname : name ≠ "") (hindex : i < Text.wordLimit) :
    Slot.parse? (Slot.name ⟨name, i⟩) = (if '\n' ∈ name.toList then none else some ⟨name, i⟩) ∧
      (∀ s : Slot, s.name = Slot.name ⟨name, i⟩ → s = ⟨name, i⟩) ∧
      ∀ root : Path, root.name? = some name → ∃ b, root.backup? i = some b ∧
        b.name? = some (Slot.name ⟨name, i⟩) ∧
        (∀ (t : Tree) (above : Location), t.Leads root.around above →
          (t.get? (above ++ [Slot.name ⟨name, i⟩])).isSome →
            (Sees t root i ↔ '\n' ∉ name.toList)) ∧
        ∀ t u : Tree, t.WellFormed → create root t = .ok b u →
          (Sees u root i ↔ '\n' ∉ name.toList) := by
  refine ⟨?_, fun s hs => Slot.name_injective hs, fun root hroot => ?_⟩
  · split
    case isTrue hline => exact Slot.parse?_name_of_line hline
    case isFalse hline => exact Slot.parse?_name (s := ⟨name, i⟩) hname hline hindex
  · refine ⟨slot root name i, ?_, name?_slot hroot i, fun t above haround hthere => ?_,
      fun t u ht hcreate => ?_⟩
    · rw [Path.backup?, hroot]
      rfl
    · exact sees_iff hroot hindex haround hthere
    · exact sees_of_create ht hroot hindex hcreate

/-- A project that has the name of a slot itself, beside a later slot of a project with a shorter
    name. -/
def namesake : Tree := ⟨[(["w"], .directory), (["w", ".__p2r_backup_a_1"], .directory),
  (["w", ".__p2r_backup_a_7"], .directory)]⟩

/-- The project beside its first backup. -/
def namesakeAndBackup : Tree :=
  ⟨namesake.entries ++ [(["w", ".__p2r_backup_.__p2r_backup_a_1_0"], .directory)]⟩

theorem create_namesake : create ⟨"/w/.__p2r_backup_a_1"⟩ namesake =
    .ok ⟨"/w/.__p2r_backup_.__p2r_backup_a_1_0"⟩ namesakeAndBackup := by
  refine create_of_sorted (l := ["w", ".__p2r_backup_a_1"]) (e := .directory) (i := 0) (j := 0)
    (u := namesakeAndBackup) ?_ ?_ ?_ ?_ ?_ ?_ <;>
  decide +kernel

/-- The backup is told from those of the other project, and is still seen when its own project is
    gone. -/
theorem slots_decode_of_namesake :
    Slot.parse? ".__p2r_backup_.__p2r_backup_a_1_0" = some ⟨".__p2r_backup_a_1", 0⟩ ∧
      Slot.name ⟨"a_1_0", 0⟩ ≠ ".__p2r_backup_.__p2r_backup_a_1_0" ∧
      Path.name? ⟨"/w/.__p2r_backup_a_1"⟩ = some ".__p2r_backup_a_1" ∧
      namesake.WellFormed ∧
      create ⟨"/w/.__p2r_backup_a_1"⟩ namesake =
        .ok ⟨"/w/.__p2r_backup_.__p2r_backup_a_1_0"⟩ namesakeAndBackup ∧
      Sees namesakeAndBackup ⟨"/w/.__p2r_backup_a_1"⟩ 0 ∧
      Sees (namesakeAndBackup.erase ["w", ".__p2r_backup_a_1"]) ⟨"/w/.__p2r_backup_a_1"⟩ 0 := by
  have hroot : Path.name? ⟨"/w/.__p2r_backup_a_1"⟩ = some ".__p2r_backup_a_1" := by decide +kernel
  have hslot : Slot.name ⟨".__p2r_backup_a_1", 0⟩ = ".__p2r_backup_.__p2r_backup_a_1_0" := by
    decide +kernel
  have hline : '\n' ∉ ".__p2r_backup_a_1".toList := by decide
  have htree : namesake.WellFormed := by decide +kernel
  obtain ⟨hparse, honly, hpaths⟩ := slots_decode ".__p2r_backup_a_1" 0 (by decide) (by decide)
  rw [hslot, if_neg hline] at hparse
  obtain ⟨b, hbackup, -, hthere, hmade⟩ := hpaths _ hroot
  have hpath : Path.backup? ⟨"/w/.__p2r_backup_a_1"⟩ 0 =
      some ⟨"/w/.__p2r_backup_.__p2r_backup_a_1_0"⟩ := by decide +kernel
  cases hbackup.symm.trans hpath
  refine ⟨hparse, fun h => ?_, hroot, htree, create_namesake,
    (hmade _ _ htree create_namesake).mpr hline,
    (hthere _ ["w"] (by decide +kernel) (by decide +kernel)).mpr hline⟩
  exact absurd (congrArg Slot.project (honly ⟨"a_1_0", 0⟩ (h.trans hslot.symm))) (by decide)

/-- A project with a line feed in its name. -/
def broken : Tree := ⟨[(["w"], .directory), (["w", "a\nb"], .directory)]⟩

/-- The project beside its first backup. -/
def brokenAndBackup : Tree :=
  ⟨broken.entries ++ [(["w", ".__p2r_backup_a\nb_0"], .directory)]⟩

/-- The first backup of a project with a line feed in its name is not found, and the next one goes to
    the same slot. -/
theorem slots_unread_after_line :
    Path.name? ⟨"/w/a\nb"⟩ = some "a\nb" ∧ '/' ∉ "a\nb".toList ∧
      Path.backup? ⟨"/w/a\nb"⟩ 0 = some ⟨"/w/.__p2r_backup_a\nb_0"⟩ ∧
      Path.name? ⟨"/w/.__p2r_backup_a\nb_0"⟩ = some ".__p2r_backup_a\nb_0" ∧
      Slot.parse? ".__p2r_backup_a\nb_0" = none ∧
      create ⟨"/w/a\nb"⟩ broken = .ok ⟨"/w/.__p2r_backup_a\nb_0"⟩ brokenAndBackup ∧
      latest ⟨"/w/a\nb"⟩ brokenAndBackup = .ok none brokenAndBackup ∧
      next ⟨"/w/a\nb"⟩ brokenAndBackup = .ok ⟨"/w/.__p2r_backup_a\nb_0"⟩ brokenAndBackup := by
  refine ⟨by decide +kernel, by decide, by decide +kernel, by decide +kernel, by decide +kernel, ?_,
    by decide +kernel, by decide +kernel⟩
  refine create_of_sorted (l := ["w", "a\nb"]) (e := .directory) (i := 0) (j := 0)
    (u := brokenAndBackup) ?_ ?_ ?_ ?_ ?_ ?_ <;>
  decide +kernel

end Backup

end ManifestMigration
