import ManifestMigration.Backup.Name
import ManifestMigration.Proofs.Filesystem.Path
import ManifestMigration.Proofs.Text.Search

/-! The name of a backup is read back as the project and the index that it was made of.

    A project's name may hold low lines and digits, so what makes the reading unique is that the index
    holds no low line. -/

namespace ManifestMigration

namespace Slot

variable {s : Slot}

theorem toList_name (s : Slot) :
    s.name.toList = tag.toList ++ (s.project.toList ++ '_' :: Text.digits s.index) := by
  rw [name, String.toList_append, String.toList_append, String.toList_append, List.append_assoc,
    List.append_assoc]
  congr 2
  change '_' :: (toString s.index).toList = _
  simp

theorem underscore_notMem_digits (n : Nat) : '_' ∉ Text.digits n := fun h => by
  have := Text.isDigit_of_mem_digits h
  revert this
  decide

/-- The last low line is the one before the index. -/
theorem splitLast?_append {u v : List Char} (hv : '_' ∉ v) :
    splitLast? (u ++ '_' :: v) = some (u, v) := by
  have hrev : ∀ c ∈ v.reverse, (c != '_') = true := fun c hc =>
    bne_iff_ne.mpr fun h => hv (h ▸ List.mem_reverse.mp hc)
  have hstart : (u ++ '_' :: v).reverse = v.reverse ++ '_' :: u.reverse := by simp
  rw [splitLast?, hstart, List.dropWhile_append_of_pos hrev, List.takeWhile_append_of_pos hrev]
  simp

/-- The project and the index are told apart; what is left is whether they can be those of a slot. -/
theorem parse?_name_eq (s : Slot) : parse? s.name =
    if s.project.toList.isEmpty || s.project.toList.contains '\n' then none
    else (Text.word? (Text.digits s.index)).map fun index => ⟨s.project, index⟩ := by
  rw [parse?, toList_name, Text.dropPrefix?_eq_some_iff.mpr rfl]
  change (splitLast? (s.project.toList ++ '_' :: Text.digits s.index) >>= _) = _
  rw [splitLast?_append (underscore_notMem_digits s.index)]
  change (if _ then _ else _) = _
  rw [String.ofList_toList]
  cases Text.word? (Text.digits s.index) <;> rfl

theorem parse?_name (hproject : s.project ≠ "") (hline : '\n' ∉ s.project.toList)
    (hindex : s.index < Text.wordLimit) : parse? s.name = some s := by
  have hempty : s.project.toList.isEmpty = false := by simpa using hproject
  have hcontains : s.project.toList.contains '\n' = false := by simpa using hline
  rw [parse?_name_eq, hempty, hcontains, Bool.or_false, if_neg Bool.false_ne_true,
    Text.word?_digits hindex]
  rfl

/-- The name of a project with a line feed is not read back. -/
theorem parse?_name_of_line (hline : '\n' ∈ s.project.toList) : parse? s.name = none := by
  have hcontains : s.project.toList.contains '\n' = true := by simpa using hline
  rw [parse?_name_eq, hcontains, Bool.or_true, if_pos rfl]

/-- Different slots have different names, whatever their projects are called. -/
theorem name_injective : Function.Injective name := by
  rintro ⟨p, i⟩ ⟨q, j⟩ h
  have hlist := congrArg String.toList h
  rw [toList_name, toList_name, List.append_cancel_left_eq] at hlist
  have hsplit := congrArg splitLast? hlist
  rw [splitLast?_append (underscore_notMem_digits i), splitLast?_append (underscore_notMem_digits j)]
    at hsplit
  obtain ⟨htext, hdigits⟩ := Prod.mk.inj (Option.some.inj hsplit)
  have hproject : p = q := String.toList_inj.mp htext
  have hindex : i = j := Text.digits_injective hdigits
  rw [hproject, hindex]

theorem eq_of_splitLast? {u v text : List Char} (h : splitLast? text = some (u, v)) :
    text = u ++ '_' :: v := by
  rw [splitLast?] at h
  split at h
  case h_2 => cases h
  case h_1 before hdrop =>
    cases h
    have hsplit := List.takeWhile_append_dropWhile (p := (· != '_')) (l := text.reverse)
    rw [hdrop] at hsplit
    have hback := congrArg List.reverse hsplit
    rw [List.reverse_reverse] at hback
    refine hback.symm.trans ?_
    simp

/-- What is read as a slot is written like one, but maybe with other digits for the index. -/
theorem toList_of_parse? {n : String} (h : parse? n = some s) : ∃ digits,
    n.toList = tag.toList ++ (s.project.toList ++ '_' :: digits) ∧
      Text.word? digits = some s.index := by
  obtain ⟨⟨project, digits⟩, hsplit, h⟩ := Option.bind_eq_some_iff.mp h
  obtain ⟨rest, hdrop, hlast⟩ := Option.bind_eq_some_iff.mp hsplit
  simp only at h
  split at h
  · cases h
  obtain ⟨index, hindex, h⟩ := Option.bind_eq_some_iff.mp h
  cases h
  refine ⟨digits, ?_, hindex⟩
  rw [Text.dropPrefix?_eq_some_iff.mp hdrop, eq_of_splitLast? hlast, String.toList_ofList]

/-- No slot is read with a line feed in the name of its project. -/
theorem line_notMem_of_parse? {n : String} (h : parse? n = some s) : '\n' ∉ s.project.toList := by
  obtain ⟨⟨project, digits⟩, -, h⟩ := Option.bind_eq_some_iff.mp h
  simp only at h
  split at h
  · cases h
  case isFalse hproject =>
    obtain ⟨index, -, h⟩ := Option.bind_eq_some_iff.mp h
    cases h
    rw [Bool.or_eq_true, not_or] at hproject
    rw [String.toList_ofList, ← List.contains_iff_mem]
    exact hproject.2

/-- A slot of a project does not have the project's own name. -/
theorem ne_project_of_parse? {n : String} (h : parse? n = some s) : n ≠ s.project := by
  rintro rfl
  obtain ⟨digits, hlist, -⟩ := toList_of_parse? h
  have hlength := congrArg List.length hlist
  simp only [List.length_append, List.length_cons] at hlength
  omega

theorem name_ne_project (s : Slot) : s.name ≠ s.project := fun h => by
  have hlength := congrArg (fun n : String => n.toList.length) h
  simp only [toList_name, List.length_append, List.length_cons] at hlength
  omega

theorem name_ne {n : String} (hn : n.toList.length ≤ 2) : s.name ≠ n := fun h => by
  have hlength := congrArg (fun n : String => n.toList.length) h
  simp only [toList_name, List.length_append] at hlength
  have htag : tag.toList.length = 14 := rfl
  omega

theorem isIdle_name (s : Slot) : Path.isIdle s.name = false := by
  rw [Path.isIdle, Bool.or_eq_false_iff, beq_eq_false_iff_ne, beq_eq_false_iff_ne]
  exact ⟨name_ne (by decide), name_ne (by decide)⟩

theorem notMem_name {c : Char} (hproject : c ∉ s.project.toList) (htag : c ∉ tag.toList)
    (hline : c ≠ '_') (hdigit : Text.isDigit c = false) : c ∉ s.name.toList := by
  rw [toList_name, List.mem_append, List.mem_append, List.mem_cons]
  rintro (h | h | h | h)
  · exact htag h
  · exact hproject h
  · exact hline h
  · rw [Text.isDigit_of_mem_digits h] at hdigit
    cases hdigit

theorem slash_notMem_name (h : '/' ∉ s.project.toList) : '/' ∉ s.name.toList :=
  notMem_name h (by decide) (by decide) (by decide)

/-- A project whose backup has the name of a file has one too. -/
theorem isName_project (h : IsName s.name) (hnamed : Path.isIdle s.project = false)
    (hchild : s.project ≠ "..") : IsName s.project := by
  have hmem : ∀ c ∈ s.project.toList, c ∈ s.name.toList := by
    intro c hc
    rw [toList_name]
    exact List.mem_append_right _ (List.mem_append_left _ hc)
  refine ⟨hnamed, hchild, fun hc => h.piece (hmem _ hc), fun hc => h.proper (hmem _ hc), ?_⟩
  have hshort := h.short
  rw [name, String.utf8ByteSize_append, String.utf8ByteSize_append, String.utf8ByteSize_append]
    at hshort
  omega

end Slot

end ManifestMigration
