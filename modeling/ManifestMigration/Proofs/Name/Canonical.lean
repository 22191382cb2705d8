import ManifestMigration.Name.Canonical
import ManifestMigration.Proofs.Text.Ascii
import ManifestMigration.Proofs.Text.Pieces

/-! What the name of a module is made of: letters, digits and low lines, whatever the name of the
    project is. There may be none of them: a project whose name has no letters and no digits has a
    module with an empty name. -/

namespace ManifestMigration.Name

theorem of_mem_moduleOf {project : String} {c : Char} (h : c ∈ (moduleOf project).toList) :
    c = '_' ∨ c.isAlphanum = true := by
  rw [moduleOf, String.toList_intercalate] at h
  refine (Text.of_mem_intercalate h).imp_right ?_
  rintro ⟨w, hw, hc⟩
  obtain ⟨run, hrun, rfl⟩ := List.mem_map.mp hw
  obtain ⟨piece, hpiece, rfl⟩ := List.mem_map.mp hrun
  rw [String.toList_ofList] at hc
  simpa using Text.not_sep_of_mem_pieces hc (List.mem_of_mem_filter hpiece)

theorem notMem_moduleOf {project : String} {c : Char} (hline : c ≠ '_')
    (halphanum : c.isAlphanum = false) : c ∉ (moduleOf project).toList := by
  intro hc
  rcases of_mem_moduleOf hc with rfl | hc
  · exact hline rfl
  · rw [halphanum] at hc
    cases hc

/-! ### Empty names -/

theorem runs_eq_nil_iff {project : String} :
    runs project = [] ↔ ∀ c ∈ project.toList.flatMap transliterate, c.isAlphanum = false := by
  rw [runs, List.map_eq_nil_iff, Text.wordsBy_eq_nil_iff, List.forall_mem_map]
  simp only [Text.isAlphanum_toLower, Bool.not_eq_true']

/-- A project has a module without a name when nothing in its name is written with a letter or a
    digit. -/
theorem moduleOf_eq_empty_iff {project : String} : moduleOf project = "" ↔
    ∀ c ∈ project.toList.flatMap transliterate, c.isAlphanum = false := by
  have hline : "_".toList = ['_'] := rfl
  have hne : ∀ w ∈ (runs project).map String.toList, w ≠ [] := by
    intro w hw
    obtain ⟨run, hrun, rfl⟩ := List.mem_map.mp hw
    obtain ⟨piece, hpiece, rfl⟩ := List.mem_map.mp hrun
    rw [String.toList_ofList]
    exact Text.ne_nil_of_mem_wordsBy hpiece
  rw [← runs_eq_nil_iff, ← String.toList_eq_nil_iff, moduleOf, String.toList_intercalate, hline,
    Text.intercalate_eq_nil_iff hne, List.map_eq_nil_iff]

end ManifestMigration.Name
