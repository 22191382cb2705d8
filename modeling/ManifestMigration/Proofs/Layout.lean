import ManifestMigration.Proofs.Migration.Steps

/-! The module that is found is a directory of the project, and in `src` it is the only one that is not
    hidden.

    What is found depends on what is there alone, not on the order in which it is listed. There is one
    project whose module is no directory of its own: when nothing in its name is written with a letter
    or a digit, the module has no name, and the path of the project with a slash after it passes for the
    path of the module. -/

namespace ManifestMigration.Layout

open ManifestMigration.Tree

variable {t u : Tree} {root source : Path} {project : String} {l : Layout} {d : Location}
  {names : List String} {n : String}

/-- A path goes on from another one, by a name at least. -/
def Below (root p : Path) : Prop := ∃ more, more ≠ [] ∧ p.names = root.names ++ more

/-- A layout says where the module of a project is. -/
structure IsLayout (t : Tree) (root : Path) (project : String) (l : Layout) : Prop where
  directory : t.isDirectory l.modulePath = true
  inSource : l.inSource = t.isDirectory (root.child sourceName)
  only : l.inSource = true → l.modulePath = (root.child sourceName).child l.moduleName ∧
    ∃ d, t.Leads (root.child sourceName) d ∧ ∀ n, (t.get? (d ++ [n])).isSome ∧
      n.toList.head? ≠ some '.' ∧ t.isDirectory ((root.child sourceName).child n) = true ↔
        n = l.moduleName
  beside : l.inSource = false → l.moduleName = Name.moduleOf project ∧
    l.modulePath = root.child l.moduleName ∧ l.modulePath.names ≠ (l.target root).names

/-! ### What is listed -/

theorem mem_candidates : n ∈ candidates t source names ↔
    n ∈ names ∧ n.toList.head? ≠ some '.' ∧ t.isDirectory (source.child n) = true := by
  simp [candidates, List.mem_mergeSort]

/-- Candidates are sorted, so they are the same however they are listed. -/
theorem candidates_perm {others : List String} (hperm : names.Perm others)
    (hdir : ∀ p, t.isDirectory p = u.isDirectory p) :
    candidates t source names = candidates u source others := by
  have hsorted : ∀ found : List String,
      (found.mergeSort fun a b => a ≤ b).Pairwise fun a b => a ≤ b := by
    intro found
    refine (List.pairwise_mergeSort (fun a b c hab hbc => ?_) (fun a b => ?_) found).imp
      fun h => of_decide_eq_true h
    · simp only [decide_eq_true_eq] at hab hbc ⊢
      exact String.le_trans hab hbc
    · simp only [Bool.or_eq_true, decide_eq_true_eq]
      exact String.le_total a b
  have hfound : (candidates t source names).Perm (candidates u source others) := by
    refine (List.mergeSort_perm _ _).trans (.trans ?_ (List.mergeSort_perm _ _).symm)
    simp only [hdir]
    exact hperm.filter _
  exact hfound.eq_of_pairwise (fun a b _ _ => String.le_antisymm) (hsorted _) (hsorted _)

theorem list_of_leads (h : t.Leads source d) : t.list source = .ok (t.listing d) := by
  rw [Tree.list, h]
  rfl

/-- What is found in `src` depends on its candidates. -/
theorem find_of_leads (h : t.Leads (root.child sourceName) d) : find t root project =
    match candidates t (root.child sourceName) ((t.listing d).map Prod.fst) with
    | [] => .error (.noModule (root.child sourceName))
    | [name] => .ok ⟨name, (root.child sourceName).child name, true⟩
    | names => .error (.manyModules (root.child sourceName) names) := by
  rw [find, isDirectory_iff.mpr ⟨d, h⟩, if_pos rfl]
  split
  case h_1 e herror => cases (list_of_leads h).symm.trans herror
  case h_2 entries hentries =>
    cases (list_of_leads h).symm.trans hentries
    rfl

theorem find_of_not (h : t.isDirectory (root.child sourceName) = false) : find t root project =
    if t.isDirectory (root.child (Name.moduleOf project)) then
      .ok ⟨Name.moduleOf project, root.child (Name.moduleOf project), false⟩
    else .error (.moduleNotFound (root.child (Name.moduleOf project))) := by
  rw [find, h, if_neg Bool.false_ne_true]

/-- Trees with the same entries have the same module, or none for the same reason. -/
theorem find_congr (ht : t.WellFormed) (hu : u.WellFormed) (hsame : t.Same u) :
    find t root project = find u root project := by
  have halike : t.Alike u := fun l => by rw [hsame]
  have hdir := halike.isDirectory
  cases hsource : t.isDirectory (root.child sourceName) with
  | true =>
    obtain ⟨d, hd⟩ := isDirectory_iff.mp hsource
    rw [find_of_leads hd, find_of_leads (hd.keep halike.keeps),
      candidates_perm (ht.listing_perm hu hsame d) hdir]
  | false =>
    rw [find_of_not hsource, find_of_not ((hdir _).symm.trans hsource), hdir]

/-! ### What is found -/

theorem names_source (root : Path) : (root.child sourceName).names = root.names ++ [sourceName] :=
  Path.names_child Migration.isName_source.piece Migration.isName_source.named

/-- The only directory in `src` that is not hidden. -/
theorem isLayout_of_leads (h : t.Leads (root.child sourceName) d) (hfind : find t root project = .ok l) :
    IsLayout t root project l ∧ l.inSource = true ∧ (t.get? (d ++ [l.moduleName])).isSome := by
  rw [find_of_leads h] at hfind
  split at hfind
  case h_2 name hfound =>
    cases hfind
    have honly : ∀ n, (t.get? (d ++ [n])).isSome ∧ n.toList.head? ≠ some '.' ∧
        t.isDirectory ((root.child sourceName).child n) = true ↔ n = name := by
      intro n
      rw [← mem_listing, ← mem_candidates, hfound, List.mem_singleton]
    obtain ⟨hsome, -, hdir⟩ := (honly name).mpr rfl
    refine ⟨⟨hdir, (isDirectory_iff.mpr ⟨d, h⟩).symm, fun _ => ⟨rfl, d, h, honly⟩, nofun⟩, rfl, hsome⟩
  all_goals cases hfind

/-- A module that is to be moved is not where it has to be. -/
theorem isLayout_of_movable (h : Migration.Movable t root l) (hbeside : l.inSource = false)
    (hname : l.moduleName = Name.moduleOf project) : IsLayout t root project l := by
  refine ⟨h.directory, by rw [hbeside, h.source], fun hin => ?_, fun _ => ⟨hname, h.path, ?_⟩⟩
  · rw [hbeside] at hin
    cases hin
  · intro hnames
    rw [h.path, target] at hnames
    have hlength := congrArg List.length hnames
    by_cases hempty : l.moduleName = ""
    · rw [hempty, Path.names_child_empty, Path.names_child_empty, names_source] at hlength
      simp at hlength
    · have hmodule := h.isName hempty
      rw [Path.names_child hmodule.piece hmodule.named, Path.names_child hmodule.piece hmodule.named,
        names_source] at hlength
      simp at hlength

theorem below_child {p : Path} {n : String} (hn : IsName n) (hp : p = root ∨ Below root p) :
    Below root (p.child n) := by
  rw [Below, Path.names_child hn.piece hn.named]
  rcases hp with rfl | ⟨more, -, hmore⟩
  · exact ⟨[n], List.cons_ne_nil n [], rfl⟩
  · exact ⟨more ++ [n], List.concat_ne_nil n more, by rw [hmore, List.append_assoc]⟩

/-- A module is found where it is, in trees with the same entries alike. It has a name, and a path below
    that of the project, unless it is named after a project without letters and digits. -/
theorem find_isLayout (ht : t.WellFormed) (h : find t root project = .ok l) :
    IsLayout t root project l ∧
    (IsName l.moduleName ∧ Below root l.modulePath ↔
      l.inSource = true ∨ ∃ c ∈ project.toList.flatMap Name.transliterate, c.isAlphanum = true) ∧
    ∀ u : Tree, u.WellFormed → t.Same u → find u root project = .ok l := by
  refine ⟨?_, ?_, fun u hu hsame => by rw [← find_congr ht hu hsame, h]⟩
  all_goals rcases Migration.find_cases h with ⟨hsource, hin⟩ | ⟨hmovable, hbeside, hname⟩
  · obtain ⟨d, hd⟩ := isDirectory_iff.mp hsource
    exact (isLayout_of_leads hd h).1
  · exact isLayout_of_movable hmovable hbeside hname
  · refine iff_of_true ?_ (.inl hin)
    obtain ⟨d, hd⟩ := isDirectory_iff.mp hsource
    obtain ⟨hlayout, -, hsome⟩ := isLayout_of_leads hd h
    have hmodule : IsName l.moduleName := ht.isName hsome
    rw [(hlayout.only hin).1]
    exact ⟨hmodule, below_child hmodule (.inr (below_child Migration.isName_source (.inl rfl)))⟩
  · have hletter : (∃ c ∈ project.toList.flatMap Name.transliterate, c.isAlphanum = true) ↔
        l.moduleName ≠ "" := by
      rw [hname, ne_eq, Name.moduleOf_eq_empty_iff]
      simp only [not_forall, Bool.not_eq_false, exists_prop]
    rw [hbeside, hletter, hmovable.path]
    constructor
    · exact fun hnamed => .inr hnamed.1.ne_empty
    · rintro (hin | hne)
      · cases hin
      · exact ⟨hmovable.isName hne, below_child (hmovable.isName hne) (.inl rfl)⟩

/-- A source directory with a link to the module, a hidden directory and a file. -/
def linkedSource : Tree := ⟨[
  (["w"], .directory),
  (["w", "src"], .directory),
  (["w", "src", ".cache"], .directory),
  (["w", "src", "notes"], .file ⟨#[]⟩),
  (["w", "src", "tool"], .link "../lib"),
  (["w", "lib"], .directory)]⟩

theorem find_linkedSource :
    (linkedSource.WellFormed ∧
      find linkedSource ⟨"/w"⟩ "other" = .ok ⟨"tool", ⟨"/w/src/tool"⟩, true⟩) ∧
    IsLayout linkedSource ⟨"/w"⟩ "other" ⟨"tool", ⟨"/w/src/tool"⟩, true⟩ ∧
    (IsName "tool" ∧ Below ⟨"/w"⟩ ⟨"/w/src/tool"⟩) ∧
    find ⟨linkedSource.entries.reverse⟩ ⟨"/w"⟩ "other" = .ok ⟨"tool", ⟨"/w/src/tool"⟩, true⟩ := by
  have hwell : linkedSource.WellFormed := by decide
  have hleads : linkedSource.Leads (Path.child ⟨"/w"⟩ sourceName) ["w", "src"] := by decide
  have hfilter : ((linkedSource.listing ["w", "src"]).map Prod.fst).filter (fun name =>
      !(name.toList.head? == some '.') &&
        linkedSource.isDirectory ((Path.child ⟨"/w"⟩ sourceName).child name)) = ["tool"] := by decide
  have hfind : find linkedSource ⟨"/w"⟩ "other" = .ok ⟨"tool", ⟨"/w/src/tool"⟩, true⟩ := by
    rw [find_of_leads hleads, candidates, hfilter, List.mergeSort_singleton]
    decide
  have hreverse : Tree.WellFormed ⟨linkedSource.entries.reverse⟩ := by decide
  obtain ⟨hlayout, hnamed, hsame⟩ := find_isLayout hwell hfind
  refine ⟨⟨hwell, hfind⟩, hlayout, hnamed.mpr (.inl rfl), hsame _ hreverse ?_⟩
  exact hwell.same_of_perm hreverse (List.reverse_perm _).symm

/-- The module of a project without letters and digits is the project itself. -/
theorem find_of_unnamed :
    find ⟨[(["w"], .directory), (["w", "demo"], .directory)]⟩ ⟨"/w/demo"⟩ "---" =
      .ok ⟨"", ⟨"/w/demo/"⟩, false⟩ ∧
    Tree.WellFormed ⟨[(["w"], .directory), (["w", "demo"], .directory)]⟩ ∧
    ¬ IsName "" ∧ ¬ Below ⟨"/w/demo"⟩ ⟨"/w/demo/"⟩ := by
  have hname : Name.moduleOf "---" = "" := by
    have hkept : ("---".toList.flatMap Name.transliterate).all (fun c => !c.isAlphanum) = true := by
      decide
    rw [Name.moduleOf_eq_empty_iff]
    exact fun c hc => by simpa using List.all_eq_true.mp hkept c hc
  refine ⟨?_, by decide, by decide, ?_⟩
  · rw [find_of_not (by decide), hname]
    decide
  · rintro ⟨more, hmore, hnames⟩
    have hsame : Path.names ⟨"/w/demo/"⟩ = Path.names ⟨"/w/demo"⟩ := by decide
    rw [hsame] at hnames
    exact hmore (List.append_right_eq_self.mp hnames.symm)

end ManifestMigration.Layout
