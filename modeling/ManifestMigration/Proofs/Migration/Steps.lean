import ManifestMigration.Migration
import ManifestMigration.Proofs.Filesystem.Copy
import ManifestMigration.Proofs.Name.Canonical

/-! What each step of a migration does, wherever the links in a project lead.

    A plan is only made when the manifest is a file, so the directory of the project is reached and
    the manifest can be written. Writing it and removing the lock file changes no directory and no link
    to one, so when the module is moved, its place is as it was planned. -/

namespace ManifestMigration

namespace Migration

open ManifestMigration.Tree

variable {t u : Tree} {root b : Path} {d e m : Location} {o : MigrationOptions} {project : Project}
  {r : Requirements} {text : String} {l : Layout}

theorem isName_manifest : IsName "pyproject.toml" := by decide +kernel

theorem isName_lockfile : IsName "poetry.lock" := by decide +kernel

theorem isName_source : IsName sourceName := by decide +kernel

/-! ### What a plan says -/

theorem load_of_plan (h : plan t root o = .ok (project, r, text)) :
    Project.load t root (!o.ignoreSource) = .ok project := by
  obtain ⟨loaded, hload, hrest⟩ := bind_eq_ok.mp h
  obtain ⟨ds, -, hrest⟩ := bind_eq_ok.mp hrest
  obtain ⟨converted, -, hplan⟩ := bind_eq_ok.mp hrest
  cases hplan
  exact hload

/-- The manifest of a project that is loaded is a file, and its module is looked for on demand. -/
theorem of_load {locate : Bool} (h : Project.load t root locate = .ok project) :
    t.isFile (Project.manifestPath root) = true ∧
      (locate = false ∧ project.layout = none ∨ locate = true ∧ ∃ l, project.layout = some l ∧
        Layout.find t root project.manifest.metadata.name = .ok l) := by
  rw [Project.load] at h
  simp only at h
  cases hfile : t.isFile (Project.manifestPath root) with
  | false =>
    rw [hfile] at h
    cases h
  | true =>
    rw [hfile] at h
    refine ⟨rfl, ?_⟩
    obtain ⟨text, -, hparse⟩ := bind_eq_ok.mp h
    split at hparse
    · cases hparse
    cases locate with
    | false =>
      cases hparse
      exact .inl ⟨rfl, rfl⟩
    | true =>
      obtain ⟨found, hfound, hproject⟩ := bind_eq_ok.mp hparse
      cases hproject
      exact .inr ⟨rfl, found, rfl, hfound⟩

/-- A project is in the directory at one location, and its manifest is in the file at another, which a
    link can lead to. -/
structure Located (t : Tree) (root : Path) (d e : Location) : Prop where
  reaches : t.Reaches root d
  manifest : ∃ content, t.locate true (Project.manifestPath root) = .ok (e, some (.file content))

theorem exists_located (hd : t.Reaches root d) (h : plan t root o = .ok (project, r, text)) :
    ∃ e, Located t root d e := by
  obtain ⟨e, content, he⟩ := isFile_iff.mp (of_load (load_of_plan h)).1
  exact ⟨e, hd, content, he⟩

theorem exists_reaches (h : plan t root o = .ok (project, r, text)) : ∃ d, t.Reaches root d := by
  obtain ⟨e, content, he⟩ := isFile_iff.mp (of_load (load_of_plan h)).1
  exact exists_reaches_of_locate isName_manifest he

/-- A manifest that is a file is found where it is. -/
theorem locate_manifest {content : ByteArray} (hd : t.Reaches root d)
    (hflaw : (Project.manifestPath root).flaw? = none)
    (hfile : t.get? (d ++ ["pyproject.toml"]) = some (.file content)) :
    t.locate true (Project.manifestPath root) =
      .ok (d ++ ["pyproject.toml"], some (.file content)) := by
  have hplaces : t.Places (Project.manifestPath root) d "pyproject.toml" :=
    .of_child hd isName_manifest hflaw
  rw [hplaces.locate (hplaces.steps (Places.endsOpen_child isName_manifest))
    fun _ target => by simp [hfile], hfile]

/-- A manifest that is no link is in the project. -/
theorem eq_of_locate_manifest {found : Option Entry} (hd : t.Reaches root d)
    (hlink : ∀ target, t.get? (d ++ ["pyproject.toml"]) ≠ some (.link target))
    (h : t.locate true (Project.manifestPath root) = .ok (e, found)) :
    e = d ++ ["pyproject.toml"] := by
  have hplaces := Places.of_child hd isName_manifest (flaw?_of_locate h)
  have hopen := Places.endsOpen_child (p := root) isName_manifest
  rw [Project.manifestPath, hplaces.locate (hplaces.steps hopen) fun _ => hlink] at h
  cases h
  rfl

/-- A module that is to be moved is a directory beside the manifest, and `src` is none. -/
structure Movable (t : Tree) (root : Path) (l : Layout) : Prop where
  source : t.isDirectory (root.child sourceName) = false
  named : ∃ project, l.moduleName = Name.moduleOf project
  path : l.modulePath = root.child l.moduleName
  directory : t.isDirectory l.modulePath = true

theorem find_cases {name : String} (h : Layout.find t root name = .ok l) :
    t.isDirectory (root.child sourceName) = true ∧ l.inSource = true ∨
      Movable t root l ∧ l.inSource = false ∧ l.moduleName = Name.moduleOf name := by
  rw [Layout.find] at h
  cases hsource : t.isDirectory (root.child sourceName) with
  | true =>
    rw [hsource, if_pos rfl] at h
    split at h
    · cases h
    · split at h <;> cases h
      exact .inl ⟨rfl, rfl⟩
  | false =>
    rw [hsource, if_neg Bool.false_ne_true] at h
    -- the name is not to be looked into
    generalize hname : Name.moduleOf name = module at h ⊢
    simp only at h
    split at h
    case isTrue hdir =>
      cases h
      exact .inr ⟨⟨hsource, ⟨name, hname.symm⟩, rfl, hdir⟩, rfl, rfl⟩
    case isFalse => cases h

/-- A module is to be moved under `src`, as long as it is not to be left alone. -/
def relocates (t : Tree) (root : Path) (o : MigrationOptions) : Bool :=
  !o.ignoreSource && !t.isDirectory (root.child sourceName)

/-- A plan has a module that is to be moved, or one that is not to be, or none. -/
theorem layout_cases (h : plan t root o = .ok (project, r, text)) :
    relocates t root o = false ∧ (∀ l, project.layout = some l → l.inSource = true) ∨
      relocates t root o = true ∧ ∃ l, project.layout = some l ∧ l.inSource = false ∧
        Movable t root l ∧ l.moduleName = Name.moduleOf project.manifest.metadata.name := by
  rcases (of_load (load_of_plan h)).2 with ⟨hignore, hlayout⟩ | ⟨hignore, l, hlayout, hfind⟩
  · refine .inl ⟨by rw [relocates, hignore, Bool.false_and], fun l hl => ?_⟩
    rw [hlayout] at hl
    cases hl
  · rcases find_cases hfind with ⟨hdir, hin⟩ | ⟨hmovable, hbeside, hname⟩
    · refine .inl ⟨by rw [relocates, hdir, Bool.not_true, Bool.and_false], fun l' hl => ?_⟩
      cases hlayout.symm.trans hl
      exact hin
    · exact .inr ⟨by rw [relocates, hignore, hmovable.source]; rfl, l, hlayout, hbeside, hmovable, hname⟩

namespace Movable

theorem congr (h : Movable t root l) (hsame : ∀ p, u.isDirectory p = t.isDirectory p) :
    Movable u root l :=
  ⟨(hsame _).trans h.source, h.named, h.path, (hsame _).trans h.directory⟩

theorem ne_source (h : Movable t root l) : l.moduleName ≠ sourceName := by
  intro hname
  have hdir := h.directory
  rw [h.path, hname, h.source] at hdir
  cases hdir

theorem notMem (h : Movable t root l) {c : Char} (hline : c ≠ '_') (halphanum : c.isAlphanum = false) :
    c ∉ l.moduleName.toList := by
  obtain ⟨name, hname⟩ := h.named
  rw [hname]
  exact Name.notMem_moduleOf hline halphanum

/-- Only a project without letters and digits has a module without a name. -/
theorem isName (h : Movable t root l) (hne : l.moduleName ≠ "") : IsName l.moduleName := by
  have hdots : '.' ∉ l.moduleName.toList := h.notMem (by decide) (by decide)
  have hslash : '/' ∉ l.moduleName.toList := h.notMem (by decide) (by decide)
  have hdot : l.moduleName ≠ "." := fun hdot => hdots (by rw [hdot]; decide)
  have hup : l.moduleName ≠ ".." := fun hup => hdots (by rw [hup]; decide)
  have hidle : Path.isIdle l.moduleName = false := by
    rw [Path.isIdle, Bool.or_eq_false_iff, beq_eq_false_iff_ne, beq_eq_false_iff_ne]
    exact ⟨hne, hdot⟩
  refine ⟨hidle, hup, hslash, h.notMem (by decide) (by decide), ?_⟩
  obtain ⟨x, hx⟩ := isDirectory_iff.mp h.directory
  obtain ⟨k, hgoes⟩ := hx.reaches
  refine hgoes.short ?_ hdot hup
  rw [h.path, Path.names_child hslash hidle]
  exact List.mem_append_right _ (List.mem_singleton_self _)

theorem flaw (h : Movable t root l) : (root.child l.moduleName).flaw? = none := by
  obtain ⟨x, hx⟩ := isDirectory_iff.mp h.directory
  rw [h.path] at hx
  exact hx.flaw

/-- Where the module is, there is a directory or a link to one. -/
theorem isSome (h : Movable t root l) (hd : t.Reaches root d) (hne : l.moduleName ≠ "") :
    (t.get? (d ++ [l.moduleName])).isSome := by
  have hplaces := Places.of_child hd (h.isName hne) h.flaw
  rw [Option.isSome_iff_ne_none]
  intro hnone
  obtain ⟨x, hx⟩ := isDirectory_iff.mp h.directory
  have hthere := hplaces.leadsSomewhere_of_none hnone
  rw [leadsSomewhere, entry?, ← h.path, hx] at hthere
  cases hthere

end Movable

/-! ### The manifest and the lock file -/

/-- The tree when the manifest has been written and the lock file removed. -/
def rewritten (t : Tree) (root : Path) (d e : Location) (text : String) : Tree :=
  if t.isFile (lockfile root) then (t.put e (.file text.toUTF8)).erase (d ++ ["poetry.lock"])
  else t.put e (.file text.toUTF8)

theorem removeLockfile_eq (hd : t.Reaches root d) : removeLockfile root t =
    .ok (t.isFile (lockfile root))
      (if t.isFile (lockfile root) then t.erase (d ++ ["poetry.lock"]) else t) := by
  rw [removeLockfile, Action.look_bind]
  cases hfile : t.isFile (lockfile root) with
  | false => rfl
  | true =>
    obtain ⟨there, content, hthere⟩ := isFile_iff.mp hfile
    have hplaces := Places.of_child hd isName_lockfile (flaw?_of_locate hthere)
    have hremove := hplaces.removeFile (Places.endsOpen_child isName_lockfile) hfile
    exact bind_of_ok (Action.perform_of_ok hremove)

namespace Located

theorem flaw (h : Located t root d e) : (Project.manifestPath root).flaw? = none := by
  obtain ⟨content, he⟩ := h.manifest
  exact flaw?_of_locate he

theorem isFile (h : Located t root d e) : ∃ content, t.get? e = some (.file content) := by
  obtain ⟨content, he⟩ := h.manifest
  exact ⟨content, get?_of_locate he⟩

theorem ne_nil (h : Located t root d e) : e ≠ [] := by
  obtain ⟨content, he⟩ := h.isFile
  rintro rfl
  cases he

theorem alike (h : Located t root d e) (content : ByteArray) : t.Alike (t.put e (.file content)) := by
  obtain ⟨old, he⟩ := h.isFile
  exact alike_put he

theorem flaw_source (h : Located t root d e) : (root.child sourceName).flaw? = none :=
  Path.flaw?_child_of_le isName_manifest.piece isName_source (by decide +kernel) h.flaw

/-- The manifest can be written where it was read. -/
theorem writeManifest (h : Located t root d e) (text : String) :
    Project.writeManifest (Project.manifestPath root) text t =
      .ok () (t.put e (.file text.toUTF8)) := by
  obtain ⟨content, he⟩ := h.manifest
  have hwrite : t.write (Project.manifestPath root) text.toUTF8 = .ok (t.put e (.file text.toUTF8)) := by
    rw [write, writable, Project.manifestPath, Places.endsOpen_child isName_manifest,
      ← Project.manifestPath, he]
    rfl
  exact Action.perform_of_ok hwrite

theorem removeLockfile (h : Located t root d e) (text : String) :
    Migration.removeLockfile root (t.put e (.file text.toUTF8)) =
      .ok (t.isFile (lockfile root)) (rewritten t root d e text) := by
  rw [removeLockfile_eq (h.reaches.keep (h.alike _).keeps), ← (h.alike _).isFile]
  rfl

theorem reaches_rewritten (h : Located t root d e) (text : String) :
    (rewritten t root d e text).Reaches root d := by
  have hwritten := h.reaches.keep (h.alike text.toUTF8).keeps
  rw [rewritten]
  split
  case isTrue hfile =>
    rw [(h.alike text.toUTF8).isFile] at hfile
    exact hwritten.erase isName_lockfile hfile hwritten
  case isFalse => exact hwritten

theorem isDirectory_rewritten (h : Located t root d e) (text : String) (p : Path) :
    (rewritten t root d e text).isDirectory p = t.isDirectory p := by
  have hwritten := h.reaches.keep (h.alike text.toUTF8).keeps
  rw [(h.alike text.toUTF8).isDirectory, rewritten]
  split
  case isTrue hfile =>
    rw [(h.alike text.toUTF8).isFile] at hfile
    exact hwritten.isDirectory_erase isName_lockfile hfile p
  case isFalse => rfl

theorem get?_rewritten (h : Located t root d e) (text : String) (hm : m ≠ e)
    (hlock : t.isFile (lockfile root) = true → ¬ d ++ ["poetry.lock"] <+: m) :
    (rewritten t root d e text).get? m = t.get? m := by
  have hwritten : (t.put e (.file text.toUTF8)).get? m = t.get? m := by
    rw [get?_put h.ne_nil, if_neg hm]
  rw [rewritten]
  split
  case isTrue hfile => rw [get?_erase (List.concat_ne_nil _ d), if_neg (hlock hfile), hwritten]
  case isFalse => exact hwritten

theorem get?_rewritten_manifest (h : Located t root d e) (text : String)
    (hlock : ¬ d ++ ["poetry.lock"] <+: e) :
    (rewritten t root d e text).get? e = some (.file text.toUTF8) := by
  have hwritten : (t.put e (.file text.toUTF8)).get? e = some (.file text.toUTF8) := by
    rw [get?_put h.ne_nil, if_pos rfl]
  rw [rewritten]
  split
  · rw [get?_erase (List.concat_ne_nil _ d), if_neg hlock, hwritten]
  · exact hwritten

/-- What is missing stays missing. -/
theorem get?_rewritten_of_none (h : Located t root d e) (text : String) (hnone : t.get? m = none) :
    (rewritten t root d e text).get? m = none := by
  have hm : m ≠ e := by
    rintro rfl
    obtain ⟨content, he⟩ := h.isFile
    rw [hnone] at he
    cases he
  have hwritten : (t.put e (.file text.toUTF8)).get? m = none := by
    rw [get?_put h.ne_nil, if_neg hm, hnone]
  rw [rewritten]
  split
  · rw [get?_erase (List.concat_ne_nil _ d), hwritten, ite_self]
  · exact hwritten

theorem wellFormed_rewritten (h : Located t root d e) (ht : t.WellFormed) (text : String) :
    (rewritten t root d e text).WellFormed := by
  obtain ⟨content, he⟩ := h.isFile
  rw [rewritten]
  split
  · exact (ht.overwrite he).erase (List.concat_ne_nil _ d)
  · exact ht.overwrite he

theorem vacant_rewritten (h : Located t root d e) (text : String) :
    (rewritten t root d e text).get? (d ++ [sourceName]) = none ↔ t.get? (d ++ [sourceName]) = none := by
  refine ⟨fun hnone => ?_, h.get?_rewritten_of_none text⟩
  have hlock : ¬ d ++ ["poetry.lock"] <+: d ++ [sourceName] := by
    rw [List.prefix_append_right_inj]
    decide
  by_cases hm : d ++ [sourceName] = e
  · rw [hm] at hlock hnone
    rw [h.get?_rewritten_manifest text hlock] at hnone
    cases hnone
  · rwa [h.get?_rewritten text hm fun _ => hlock] at hnone

end Located

/-! ### The module -/

/-- Nothing is in the way of a module that is to be moved under `src`. -/
structure Unhindered (t : Tree) (root : Path) (d : Location) (l : Layout) : Prop where
  vacant : t.get? (d ++ [sourceName]) = none
  named : l.moduleName ≠ ""
  target : (l.target root).flaw? = none

/-- The tree when a module has been moved under a new directory `src`. -/
def moved (t : Tree) (d : Location) (name : String) : Tree :=
  (t.put (d ++ [sourceName]) .directory).move (d ++ [name]) (d ++ [sourceName] ++ [name])

section
variable {n k : String}

theorem get?_moved_target (hn : n ≠ sourceName) (m : Location) :
    (moved t d n).get? (d ++ [sourceName] ++ [n] ++ m) = t.get? (d ++ [n] ++ m) := by
  have hapart : ¬ d ++ [sourceName] <+: d ++ [n] ++ m := not_prefix_beside hn.symm m
  rw [moved, get?_move_target (List.concat_ne_nil n d) (List.concat_ne_nil n _)
    fun hpre => hapart ((List.prefix_append _ [n]).trans hpre),
    get?_put (List.concat_ne_nil sourceName d), if_neg]
  exact fun heq => hapart (heq ▸ List.prefix_refl _)

theorem get?_moved_source (hn : n ≠ sourceName) (m : Location) :
    (moved t d n).get? (d ++ [n] ++ m) = none :=
  get?_move_source (List.concat_ne_nil n d) fun hpre =>
    not_prefix_beside hn.symm m ((List.prefix_append _ [n]).trans hpre)

/-- What is neither the module nor under its new place is not moved. -/
theorem get?_moved (hm : ¬ d ++ [n] <+: m) (hplace : ¬ d ++ [sourceName] ++ [n] <+: m) :
    (moved t d n).get? m = if m = d ++ [sourceName] then some .directory else t.get? m := by
  rw [moved, get?_move hm hplace, get?_put (List.concat_ne_nil sourceName d)]

theorem get?_moved_outside (hk : k ≠ n) (hsource : k ≠ sourceName) (m : Location) :
    (moved t d n).get? (d ++ [k] ++ m) = t.get? (d ++ [k] ++ m) := by
  have hout : ¬ d ++ [sourceName] <+: d ++ [k] ++ m := not_prefix_beside hsource.symm m
  rw [get?_moved (not_prefix_beside hk.symm m) fun hpre => hout ((List.prefix_append _ [n]).trans hpre),
    if_neg]
  exact fun heq => hout (heq ▸ List.prefix_refl _)

theorem get?_moved_directory (hn : n ≠ sourceName) :
    (moved t d n).get? (d ++ [sourceName]) = some .directory := by
  rw [get?_moved (not_prefix_sibling hn), if_pos rfl]
  intro hpre
  have hlength := hpre.length_le
  simp only [List.length_append, List.length_singleton] at hlength
  omega

theorem get?_moved_beside (hn : n ≠ sourceName) (hk : k ≠ n) (m : Location) :
    (moved t d n).get? (d ++ [sourceName] ++ [k] ++ m) = t.get? (d ++ [sourceName] ++ [k] ++ m) := by
  have hout : ¬ d ++ [n] <+: d ++ [sourceName] ++ ([k] ++ m) := not_prefix_beside hn _
  rw [← List.append_assoc] at hout
  rw [get?_moved hout (not_prefix_beside hk.symm m), if_neg]
  intro heq
  have hlength := congrArg List.length heq
  simp only [List.length_append, List.length_singleton] at hlength
  omega

end

theorem wellFormed_moved {n : String} (ht : t.WellFormed) (hdir : t.get? d = some .directory)
    (hvacant : t.get? (d ++ [sourceName]) = none) (hname : IsName n) (hn : n ≠ sourceName) :
    (moved t d n).WellFormed := by
  have hne := List.concat_ne_nil sourceName d
  have hmade : (t.put (d ++ [sourceName]) .directory).get? (d ++ [sourceName]) = some .directory := by
    rw [get?_put hne, if_pos rfl]
  have hput : (t.put (d ++ [sourceName]) .directory).WellFormed :=
    ht.put isName_source hdir hvacant trivial
  refine hput.move (List.concat_ne_nil n d) hname hmade (not_prefix_sibling hn) fun m hpre => ?_
  exact not_prefix_beside hn.symm m ((List.prefix_append _ [n]).trans hpre)

theorem makeSource_eq (hd : t.Reaches root d) (hflaw : (root.child sourceName).flaw? = none)
    (hsource : t.isDirectory (root.child sourceName) = false) :
    t.makeDirectories (root.child sourceName) =
      if (t.get? (d ++ [sourceName])).isNone then (.ok (), t.put (d ++ [sourceName]) .directory)
      else (.error .occupied, t) := by
  rw [(Places.of_child hd isName_source hflaw).makeDirectories, hsource]
  rfl

theorem moveModule_of_made (hbeside : l.inSource = false)
    (hmade : t.makeDirectories (root.child sourceName) = (.ok (), u)) :
    moveModule root (some l) t =
      (Action.perform (.system l.modulePath) (fun t => t.rename l.modulePath (l.target root)) >>=
        fun _ => pure (some (l.target root))) u := by
  rw [moveModule, hbeside, if_neg Bool.false_ne_true]
  exact bind_of_ok (Action.performPartly_of_ok hmade)

theorem reaches_made (hd : t.Reaches root d) (hvacant : t.get? (d ++ [sourceName]) = none) :
    (t.put (d ++ [sourceName]) .directory).Reaches root d :=
  hd.keep (keeps_put (List.concat_ne_nil sourceName d) hvacant)

theorem places_source (hd : t.Reaches root d) (hflaw : (root.child sourceName).flaw? = none)
    (hvacant : t.get? (d ++ [sourceName]) = none) :
    (t.put (d ++ [sourceName]) .directory).Places (root.child sourceName) d sourceName :=
  .of_child (reaches_made hd hvacant) isName_source hflaw

section
variable (hd : t.Reaches root d) (hflaw : (root.child sourceName).flaw? = none)
  (hmovable : Movable t root l) (hbeside : l.inSource = false)
include hd hflaw hmovable hbeside

/-- A module is moved when nothing is in its way. -/
theorem moveModule_ok (h : Unhindered t root d l)
    (hbelow : t.get? (d ++ [sourceName] ++ [l.moduleName]) = none) :
    moveModule root (some l) t = .ok (some (l.target root)) (moved t d l.moduleName) := by
  have hmade := makeSource_eq hd hflaw hmovable.source
  rw [h.vacant, Option.isNone_none, if_pos rfl] at hmade
  have hne := List.concat_ne_nil sourceName d
  have hname := hmovable.isName h.named
  have hold := Places.of_child (reaches_made hd h.vacant) hname hmovable.flaw
  have hdir : (t.put (d ++ [sourceName]) .directory).get? (d ++ [sourceName]) = some .directory := by
    rw [get?_put hne, if_pos rfl]
  have hnew := Places.of_child ((places_source hd hflaw h.vacant).leads hdir).reaches hname h.target
  have hrename := hold.rename hnew (Places.endsOpen_child hname) (Places.endsOpen_child hname)
    ?_ ?_ (not_prefix_beside hmovable.ne_source [l.moduleName]) ?_
  · rw [moveModule_of_made hbeside hmade, hmovable.path]
    exact bind_of_ok (Action.perform_of_ok hrename)
  · rw [get?_put hne, if_neg]
    · exact hmovable.isSome hd h.named
    · intro heq
      exact hmovable.ne_source (List.singleton_inj.mp (List.append_cancel_left heq))
  · rw [get?_put hne, if_neg, hbelow]
    exact fun heq => List.cons_ne_nil _ [] (List.append_right_eq_self.mp heq)
  · intro hpre
    have hlength := hpre.length_le
    simp only [List.length_append, List.length_singleton] at hlength
    omega

/-- A module is not moved when there is something in the place of `src`. -/
theorem moveModule_of_occupied (hthere : (t.get? (d ++ [sourceName])).isSome) :
    moveModule root (some l) t = .error (.system (root.child sourceName) .occupied) t := by
  have hmade := makeSource_eq hd hflaw hmovable.source
  rw [Option.isNone_eq_false_iff.mpr hthere, if_neg Bool.false_ne_true] at hmade
  rw [moveModule, hbeside, if_neg Bool.false_ne_true]
  exact bind_of_error (Action.performPartly_of_error hmade)

/-- A module that something is in the way of is not moved, and at most `src` is made. -/
theorem moveModule_refused (h : ¬ Unhindered t root d l) :
    ∃ e u, moveModule root (some l) t = .error e u ∧
      ∀ m, m ≠ d ++ [sourceName] → u.get? m = t.get? m := by
  cases hvacant : t.get? (d ++ [sourceName]) with
  | some found =>
    have hthere : (t.get? (d ++ [sourceName])).isSome := Option.isSome_of_eq_some hvacant
    exact ⟨_, t, moveModule_of_occupied hd hflaw hmovable hbeside hthere, fun _ _ => rfl⟩
  | none =>
    have hmade := makeSource_eq hd hflaw hmovable.source
    rw [hvacant, Option.isNone_none, if_pos rfl] at hmade
    have hrefused : ∃ e, (t.put (d ++ [sourceName]) .directory).rename l.modulePath (l.target root) =
        .error e := by
      by_cases htarget : (l.target root).flaw? = none
      · have hempty : l.moduleName = "" := by
          by_contra hnamed
          exact h ⟨hvacant, hnamed, htarget⟩
        -- without a name, the project itself would be moved into its own `src`
        rw [Layout.target, hempty] at htarget ⊢
        rw [hmovable.path, hempty]
        exact (reaches_made hd hvacant).rename_into
          ((places_source hd hflaw hvacant).child_empty htarget)
      · exact rename_of_flaw htarget
    obtain ⟨e, hrefused⟩ := hrefused
    refine ⟨.system l.modulePath e, t.put (d ++ [sourceName]) .directory, ?_, fun m hm => ?_⟩
    · rw [moveModule_of_made hbeside hmade]
      exact bind_of_error (Action.perform_of_error hrefused)
    · rw [get?_put (List.concat_ne_nil sourceName d), if_neg hm]

end

/-! ### The whole run -/

theorem migrate_eq (workingDirectory : Path) (o : MigrationOptions) (t : Tree) :
    migrate workingDirectory o t =
      if o.path.text.isEmpty then .error .emptyPath t
      else (Backup.create (o.path.absolute workingDirectory) >>= fun backup =>
        run (o.path.absolute workingDirectory) backup o) t := by
  rw [migrate, absolute]
  split <;> rfl

theorem migrate_of_created {workingDirectory : Path} (hpath : o.path.text.isEmpty = false)
    (hcreate : Backup.create (o.path.absolute workingDirectory) t = .ok b u) :
    migrate workingDirectory o t = run (o.path.absolute workingDirectory) b o u := by
  rw [migrate_eq, hpath, if_neg Bool.false_ne_true, bind_of_ok hcreate]

/-- Only a project that has been backed up is run. -/
theorem exists_of_migrate_eq_ok {workingDirectory : Path} {report : Report}
    (h : migrate workingDirectory o t = .ok report u) :
    ∃ b v, Backup.create (o.path.absolute workingDirectory) t = .ok b v ∧
      run (o.path.absolute workingDirectory) b o v = .ok report u := by
  rw [migrate_eq] at h
  split at h
  · cases h
  · exact exists_of_bind_eq_ok h

/-- Without a plan nothing is done. -/
theorem run_of_error {failure : Failure} (hplan : plan t root o = .error failure) :
    run root b o t = .error failure t := by
  have hattempt : Action.attempt (fun t => plan t root o) t = .error failure t := by
    rw [Action.attempt, hplan]
  rw [run, bind_of_error hattempt]

/-- What is reported of a plan, and of where the module was moved. -/
def reportOf (t : Tree) (root b : Path) (o : MigrationOptions) (project : Project) (r : Requirements)
    (text : String) (movedTo : Option Path) : Report where
  project := project.manifest.metadata.name
  projectPath := root
  backupPath := b
  requirements := r
  virtualProject := o.virtualProject
  lockfileRemoved := t.isFile (lockfile root)
  moduleMovedTo := movedTo
  mentions := Mention.find oldTool text

section
variable (h : Located t root d e) (hplan : plan t root o = .ok (project, r, text))
include h hplan

/-- What has been planned is written, and then the module is to be moved. -/
theorem run_of_plan (b : Path) : run root b o t =
    (moveModule root project.layout >>= fun movedTo =>
      pure (reportOf t root b o project r text movedTo)) (rewritten t root d e text) := by
  have hattempt : Action.attempt (fun t => plan t root o) t = .ok (project, r, text) t := by
    rw [Action.attempt, hplan]
  rw [run, bind_of_ok hattempt]
  simp only
  rw [bind_of_ok (h.writeManifest text), bind_of_ok (h.removeLockfile text)]
  rfl

/-- A module that is not to be moved stays where it is. -/
theorem run_of_settled (b : Path) (hsettled : ∀ l, project.layout = some l → l.inSource = true) :
    run root b o t = .ok (reportOf t root b o project r text none) (rewritten t root d e text) := by
  rw [run_of_plan h hplan]
  cases hlayout : project.layout with
  | none => rfl
  | some l =>
    refine bind_of_ok ?_
    rw [moveModule, hsettled l hlayout]
    rfl

variable (hlayout : project.layout = some l) (hbeside : l.inSource = false)
  (hmovable : Movable t root l)
include hlayout hbeside hmovable

/-- A module beside the manifest is moved, when nothing is in its way. -/
theorem run_of_unhindered (b : Path) (ht : t.WellFormed) (hfree : Unhindered t root d l) :
    run root b o t = .ok (reportOf t root b o project r text (some (l.target root)))
      (moved (rewritten t root d e text) d l.moduleName) := by
  have hfree' : Unhindered (rewritten t root d e text) root d l :=
    ⟨(h.vacant_rewritten text).mpr hfree.vacant, hfree.named, hfree.target⟩
  have hbelow : (rewritten t root d e text).get? (d ++ [sourceName] ++ [l.moduleName]) = none :=
    h.get?_rewritten_of_none text (ht.vacant hfree.vacant _)
  rw [run_of_plan h hplan, hlayout]
  exact bind_of_ok (moveModule_ok (h.reaches_rewritten text) h.flaw_source
    (hmovable.congr (h.isDirectory_rewritten text)) hbeside hfree' hbelow)

/-- With something in the place of `src` the run fails there. -/
theorem run_of_occupied (b : Path) (hthere : (t.get? (d ++ [sourceName])).isSome) :
    run root b o t =
      .error (.system (root.child sourceName) .occupied) (rewritten t root d e text) := by
  have hthere' : ((rewritten t root d e text).get? (d ++ [sourceName])).isSome := by
    rw [Option.isSome_iff_ne_none, ne_eq, h.vacant_rewritten text]
    exact Option.isSome_iff_ne_none.mp hthere
  rw [run_of_plan h hplan, hlayout]
  exact bind_of_error (moveModule_of_occupied (h.reaches_rewritten text) h.flaw_source
    (hmovable.congr (h.isDirectory_rewritten text)) hbeside hthere')

/-- Otherwise the run fails, when the manifest has been written and the lock file removed. -/
theorem run_of_hindered (b : Path) (hhindered : ¬ Unhindered t root d l) :
    ∃ failure u, run root b o t = .error failure u ∧
      ∀ m, m ≠ d ++ [sourceName] → u.get? m = (rewritten t root d e text).get? m := by
  have hhindered' : ¬ Unhindered (rewritten t root d e text) root d l := fun hfree =>
    hhindered ⟨(h.vacant_rewritten text).mp hfree.vacant, hfree.named, hfree.target⟩
  obtain ⟨failure, u, hmove, hu⟩ := moveModule_refused (h.reaches_rewritten text) h.flaw_source
    (hmovable.congr (h.isDirectory_rewritten text)) hbeside hhindered'
  refine ⟨failure, u, ?_, hu⟩
  rw [run_of_plan h hplan, hlayout]
  exact bind_of_error hmove

end

/-- A planned run succeeds, or it fails only because something is in the way of the module. -/
theorem run_cases (ht : t.WellFormed) (h : Located t root d e)
    (hplan : plan t root o = .ok (project, r, text)) (b : Path) :
    relocates t root o = false ∧ (∀ l, project.layout = some l → l.inSource = true) ∧
        run root b o t = .ok (reportOf t root b o project r text none) (rewritten t root d e text) ∨
      relocates t root o = true ∧ ∃ l, project.layout = some l ∧ l.inSource = false ∧
        Movable t root l ∧ l.moduleName = Name.moduleOf project.manifest.metadata.name ∧
        (Unhindered t root d l ∧
            run root b o t = .ok (reportOf t root b o project r text (some (l.target root)))
              (moved (rewritten t root d e text) d l.moduleName) ∨
          ¬ Unhindered t root d l ∧ ∃ failure u, run root b o t = .error failure u ∧
            ∀ m, m ≠ d ++ [sourceName] → u.get? m = (rewritten t root d e text).get? m) := by
  rcases layout_cases hplan with
    ⟨hstays, hsettled⟩ | ⟨hmoves, l, hlayout, hbeside, hmovable, hname⟩
  · exact .inl ⟨hstays, hsettled, run_of_settled h hplan b hsettled⟩
  · refine .inr ⟨hmoves, l, hlayout, hbeside, hmovable, hname, ?_⟩
    by_cases hfree : Unhindered t root d l
    · exact .inl ⟨hfree, run_of_unhindered h hplan hlayout hbeside hmovable b ht hfree⟩
    · exact .inr ⟨hfree, run_of_hindered h hplan hlayout hbeside hmovable b hfree⟩

/-- A run that succeeds leaves the tree of a file system. -/
theorem wellFormed_of_run {report : Report} (ht : t.WellFormed) (h : Located t root d e)
    (hplan : plan t root o = .ok (project, r, text)) (hrun : run root b o t = .ok report u) :
    u.WellFormed := by
  rcases run_cases ht h hplan b with
    ⟨-, -, hok⟩ | ⟨-, l, -, -, hmovable, -, ⟨hfree, hok⟩ | ⟨-, failure, v, hfail, -⟩⟩
  · rw [hrun] at hok
    cases hok
    exact h.wellFormed_rewritten ht text
  · rw [hrun] at hok
    cases hok
    exact wellFormed_moved (h.wellFormed_rewritten ht text) (h.reaches_rewritten text).directory
      ((h.vacant_rewritten text).mpr hfree.vacant) (hmovable.isName hfree.named) hmovable.ne_source
  · rw [hrun] at hfail
    cases hfail

end Migration

end ManifestMigration
