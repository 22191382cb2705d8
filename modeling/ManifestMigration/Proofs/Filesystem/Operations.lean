import ManifestMigration.Proofs.Filesystem.Ways
import ManifestMigration.Proofs.Sequence

/-! What each operation does at the path of an entry of a directory.

    The path places its last name in a directory that is there, so the outcome only depends on what is
    at that one location. -/

namespace ManifestMigration.Tree

namespace Places

variable {t : Tree} {p : Path} {above : Location} {name : String}

theorem steps (h : t.Places p above name) (hopen : p.endsOpen = false) : p.steps = p.names := by
  have hclosed := h.ends.steps_closed
  rwa [Path.closed_of_not_endsOpen h.names_ne_nil hopen] at hclosed

theorem endsOpen_child (hname : IsName name) : (p.child name).endsOpen = false :=
  Path.not_endsOpen_child hname.piece hname.ne_empty

/-- A directory is found, with or without a slash at the end of its path. -/
theorem locate_directory (last : Bool) (h : t.Places p above name)
    (hdir : t.get? (above ++ [name]) = some .directory) :
    t.locate last p = .ok (above ++ [name], some .directory) := by
  have hgoes : ∃ k, t.Goes linkLimit [] p.names k (above ++ [name]) :=
    (leads_iff.mp (h.leads hdir)).2
  obtain ⟨k, hgoes⟩ := hgoes
  rcases p.steps_eq with hsteps | hsteps
  · rw [h.locate hsteps fun _ target => by simp [hdir], hdir]
  · rw [Tree.locate, h.flaw, hsteps]
    simp only
    rw [hgoes.walkLinks_append (.inl (List.cons_ne_nil "." [])), walkLinks_dot, walkLinks_nil]

/-- What is neither a link nor a directory is found, unless a slash at the end of its path asks for a
    directory. -/
theorem locate_cases (last : Bool) (h : t.Places p above name)
    (hlink : ∀ target, t.get? (above ++ [name]) ≠ some (.link target))
    (hdir : t.get? (above ++ [name]) ≠ some .directory) :
    t.locate last p = .ok (above ++ [name], t.get? (above ++ [name])) ∨
      ∃ e, t.locate last p = .error e := by
  rcases p.steps_eq with hsteps | hsteps
  · exact .inl (h.locate hsteps fun _ => hlink)
  · right
    obtain ⟨before, k, hnames, hgoes⟩ := h.goes
    rw [Tree.locate, h.flaw, hsteps, hnames, List.append_assoc, List.singleton_append]
    simp only
    rw [hgoes.walkLinks_append (.inl (List.cons_ne_nil name _)), walkLinks_name h.ne_dot
      h.isName.child, if_neg (Nat.not_lt.mpr h.isName.short)]
    cases hfound : t.get? (above ++ [name]) with
    | none => exact ⟨_, rfl⟩
    | some e =>
      cases e with
      | file content => exact ⟨_, rfl⟩
      | link target => exact absurd hfound (hlink target)
      | directory => exact absurd hfound hdir

theorem leadsSomewhere_of_none (h : t.Places p above name) (hnone : t.get? (above ++ [name]) = none) :
    t.leadsSomewhere p = false := by
  rw [leadsSomewhere, entry?]
  rcases h.locate_cases true (by simp [hnone]) (by simp [hnone]) with
    hfound | ⟨e, he⟩
  · rw [hfound, hnone]
    rfl
  · rw [he]
    rfl

theorem leadsSomewhere_of_flaw {e : SystemError} (h : p.flaw? = some e) :
    t.leadsSomewhere p = false := by
  rw [leadsSomewhere, entry?, Tree.locate, h]
  rfl

/-- What leads to a directory is one, or a link. -/
theorem directory_or_link (h : t.Places p above name) (hdir : t.isDirectory p = true) :
    t.get? (above ++ [name]) = some .directory ∨
      ∃ target, t.get? (above ++ [name]) = some (.link target) := by
  obtain ⟨l, hl⟩ := isDirectory_iff.mp hdir
  by_cases hthere : t.get? (above ++ [name]) = some .directory
  · exact .inl hthere
  by_contra hnot
  rcases h.locate_cases true (fun target hlink => hnot (.inr ⟨target, hlink⟩)) hthere with
    hfound | ⟨e, he⟩
  · rw [hl] at hfound
    exact hthere (Prod.mk.inj (Except.ok.inj hfound)).2.symm
  · rw [hl] at he
    cases he

/-- A path is lost when something on the way to its last name is missing. -/
theorem locate_of_lost {before : List String} (last : Bool) (hflaw : p.flaw? = none)
    (hnames : p.names = before ++ [name])
    (hlost : ∀ {last rest}, rest ≠ [] →
      t.walkLinks last linkLimit [] (before ++ rest) = .error .missing) :
    t.locate last p = .error .missing := by
  rw [Tree.locate, hflaw]
  simp only
  rcases p.steps_eq with hsteps | hsteps
  · rw [hsteps, hnames, hlost (List.cons_ne_nil name [])]
  · rw [hsteps, hnames, List.append_assoc, List.singleton_append,
      hlost (List.cons_ne_nil name ["."])]

/-! ### Files and links -/

theorem read (h : t.Places p above name) (hopen : p.endsOpen = false) {content : ByteArray}
    (hfile : t.get? (above ++ [name]) = some (.file content)) : t.read p = .ok content := by
  rw [Tree.read, h.locate (h.steps hopen) fun _ target => by simp [hfile], hfile]
  rfl

theorem writable (h : t.Places p above name) (hopen : p.endsOpen = false)
    (hlink : ∀ target, t.get? (above ++ [name]) ≠ some (.link target))
    (hdir : t.get? (above ++ [name]) ≠ some .directory) : t.writable p = .ok (above ++ [name]) := by
  rw [Tree.writable, hopen, h.locate (h.steps hopen) fun _ => hlink]
  cases hfound : t.get? (above ++ [name]) with
  | none => rfl
  | some e =>
    cases e with
    | file content => rfl
    | link target => exact absurd hfound (hlink target)
    | directory => exact absurd hfound hdir

theorem copyFile {source : Path} {there : Location} {n : String} {content : ByteArray}
    (hsource : t.Places source there n) (hopen : source.endsOpen = false)
    (hfile : t.get? (there ++ [n]) = some (.file content))
    (h : t.Places p above name) (hopen' : p.endsOpen = false)
    (hnone : t.get? (above ++ [name]) = none) :
    t.copyFile source p = .ok (t.put (above ++ [name]) (.file content)) := by
  have hne : (above ++ [name] == there ++ [n]) = false := by
    refine beq_eq_false_iff_ne.mpr fun heq => ?_
    rw [heq, hfile] at hnone
    cases hnone
  rw [Tree.copyFile, hsource.read hopen hfile,
    hsource.locate (hsource.steps hopen) fun _ target => by simp [hfile],
    h.writable hopen' (by simp [hnone]) (by simp [hnone])]
  change Except.ok _ = _
  rw [hne]
  rfl

theorem makeLink {target : String} (h : t.Places p above name) (hopen : p.endsOpen = false)
    (hnone : t.get? (above ++ [name]) = none) (htarget : Path.flaw? ⟨target⟩ = none) :
    t.makeLink target p = .ok (t.put (above ++ [name]) (.link target)) := by
  rw [Tree.makeLink, htarget]
  simp only
  rw [h.locateClosed, hnone, ok_bind]
  simp only
  rw [hopen]
  rfl

/-- A file is removed, or a link to one. -/
theorem removeFile (h : t.Places p above name) (hopen : p.endsOpen = false)
    (hfile : t.isFile p = true) : t.removeFile p = .ok (t.erase (above ++ [name])) := by
  obtain ⟨l, content, hl⟩ := isFile_iff.mp hfile
  rw [Tree.removeFile, h.locateClosed]
  cases hfound : t.get? (above ++ [name]) with
  | none =>
    rw [h.locate (h.steps hopen) fun _ target => by simp [hfound], hfound] at hl
    cases hl
  | some e =>
    cases e with
    | directory =>
      rw [h.leads hfound] at hl
      cases hl
    | file _ | link _ =>
      rw [ok_bind]
      simp only [hopen]
      rfl

/-! ### Directories -/

/-- A directory is made where nothing is; where something is, it has to be one, or to lead to one. -/
theorem makeDirectories (h : t.Places p above name) : t.makeDirectories p =
    if (t.get? (above ++ [name])).isNone then (.ok (), t.put (above ++ [name]) .directory)
    else if t.isDirectory p then (.ok (), t) else (.error .occupied, t) := by
  obtain ⟨more, hmore⟩ := p.exists_ancestors
  rw [Tree.makeDirectories, hmore, makeNested, makeDirectory, h.locateClosed]
  cases t.get? (above ++ [name]) <;> rfl

/-- A directory is removed with its contents, if it can be found without them. -/
theorem removeAll (h : t.Places p above name) (hclear : (t.clear (above ++ [name])).Places p above name)
    (hdir : t.get? (above ++ [name]) = some .directory) :
    t.removeAll p = (.ok (), t.erase (above ++ [name])) := by
  have hstill : (t.clear (above ++ [name])).get? (above ++ [name]) = some .directory := by
    rw [get?_clear, if_neg fun h => h.2 rfl, hdir]
  have hremove : (t.clear (above ++ [name])).removeDirectory p = .ok (t.erase (above ++ [name])) := by
    rw [removeDirectory, h.ends.last]
    split
    case h_1 hdot => exact absurd (Option.some.inj hdot) h.ne_dot
    case h_2 hup => exact absurd (Option.some.inj hup) h.isName.child
    · rw [hclear.locateClosed, hstill]
      change (if ((t.clear (above ++ [name])).below (above ++ [name])).isEmpty = true then _ else _) = _
      rw [below_clear, erase_clear]
      rfl
  rw [Tree.removeAll, h.locate_directory false hdir]
  simp only
  rw [hremove]

/-- A directory is only emptied if it cannot be found without its contents. -/
theorem removeAll_of_lost {before : List String} (h : t.Places p above name)
    (hdir : t.get? (above ++ [name]) = some .directory) (hnames : p.names = before ++ [name])
    (hlost : ∀ {last rest}, rest ≠ [] →
      (t.clear (above ++ [name])).walkLinks last linkLimit [] (before ++ rest) = .error .missing) :
    t.removeAll p = (.ok (), t.clear (above ++ [name])) := by
  have hclosed : (t.clear (above ++ [name])).locateClosed p = .error .missing := by
    rw [Tree.locateClosed, h.flaw]
    exact locate_of_lost false (Path.flaw?_closed h.names_ne_nil h.flaw)
      (p.names_closed.trans hnames) hlost
  have hremove : (t.clear (above ++ [name])).removeDirectory p = .error .missing := by
    rw [removeDirectory, h.ends.last]
    split
    case h_1 hdot => exact absurd (Option.some.inj hdot) h.ne_dot
    case h_2 hup => exact absurd (Option.some.inj hup) h.isName.child
    · rw [hclosed]
      rfl
  rw [Tree.removeAll, h.locate_directory false hdir]
  simp only
  rw [hremove]

/-- A link is removed, not what it leads to. -/
theorem removeAll_link {target : String} (h : t.Places p above name) (hopen : p.endsOpen = false)
    (hlink : t.get? (above ++ [name]) = some (.link target)) :
    t.removeAll p = (.ok (), t.erase (above ++ [name])) := by
  rw [Tree.removeAll, h.locate (h.steps hopen) fun hlast => absurd hlast Bool.false_ne_true, hlink]

/-- A file is not removed with what is in it. -/
theorem removeAll_file {content : ByteArray} (h : t.Places p above name)
    (hfile : t.get? (above ++ [name]) = some (.file content)) :
    ∃ e, t.removeAll p = (.error e, t) := by
  rw [Tree.removeAll]
  rcases h.locate_cases false (by simp [hfile]) (by simp [hfile]) with
    hfound | ⟨e, he⟩
  · rw [hfound, hfile]
    exact ⟨_, rfl⟩
  · rw [he]
    exact ⟨_, rfl⟩

/-! ### Renaming -/

theorem namedBy (h : t.Places p above name) :
    t.namedBy p = .ok (above ++ [name], t.get? (above ++ [name])) := by
  rw [Tree.namedBy, h.locateClosed, ok_bind, h.ends.last]
  split
  case h_1 hempty => exact absurd (Option.some.inj hempty) h.isName.ne_empty
  case h_2 hdot => exact absurd (Option.some.inj hdot) h.ne_dot
  case h_3 hup => exact absurd (Option.some.inj hup) h.isName.child
  · rfl

end Places

theorem flaw?_of_writable {t : Tree} {p : Path} {l : Location} (h : t.writable p = .ok l) :
    p.flaw? = none := by
  rw [Tree.writable] at h
  split at h
  · obtain ⟨found, hfound, -⟩ := bind_eq_ok.mp h
    exact flaw?_of_locateClosed hfound
  · obtain ⟨found, hfound, -⟩ := bind_eq_ok.mp h
    exact flaw?_of_locate hfound

theorem flaw?_of_makeLink {t u : Tree} {target : String} {p : Path}
    (h : t.makeLink target p = .ok u) : p.flaw? = none := by
  rw [makeLink] at h
  split at h
  · cases h
  · obtain ⟨found, hfound, -⟩ := bind_eq_ok.mp h
    exact flaw?_of_locateClosed hfound

/-- A link cannot be made where a directory is asked for. -/
theorem not_endsOpen_of_makeLink {t u : Tree} {target : String} {p : Path}
    (h : t.makeLink target p = .ok u) : p.endsOpen = false := by
  rw [makeLink] at h
  split at h
  · cases h
  · obtain ⟨⟨l, found⟩, -, hmake⟩ := bind_eq_ok.mp h
    cases found with
    | some e => cases hmake
    | none =>
      cases hopen : p.endsOpen with
      | false => rfl
      | true =>
        simp only [hopen, if_true] at hmake
        cases hmake

/-- A link with a path that is refused is not made. -/
theorem makeLink_of_flaw {t : Tree} {p : Path} (target : String) (h : p.flaw? ≠ none) :
    ∃ e, t.makeLink target p = .error e := by
  cases hmake : t.makeLink target p with
  | error e => exact ⟨e, rfl⟩
  | ok u => exact absurd (flaw?_of_makeLink hmake) h

/-- A file is not copied when one of the two paths is refused. -/
theorem copyFile_of_flaw {t : Tree} {source target : Path}
    (h : ¬ (source.flaw? = none ∧ target.flaw? = none)) :
    ∃ e, t.copyFile source target = .error e := by
  cases hcopy : t.copyFile source target with
  | error e => exact ⟨e, rfl⟩
  | ok u =>
    refine absurd ⟨?_, ?_⟩ h
    · obtain ⟨content, hread, -⟩ := bind_eq_ok.mp hcopy
      obtain ⟨found, hfound, -⟩ := bind_eq_ok.mp hread
      exact flaw?_of_locate hfound
    · obtain ⟨content, -, hcopy⟩ := bind_eq_ok.mp hcopy
      obtain ⟨there, -, hcopy⟩ := bind_eq_ok.mp hcopy
      obtain ⟨l, hl, -⟩ := bind_eq_ok.mp hcopy
      exact flaw?_of_writable hl

/-- A directory with a path that is refused is not made, and neither is one above it. -/
theorem makeDirectories_of_flaw {t : Tree} {p : Path} {e : SystemError} (h : p.flaw? = some e)
    (hp : p.text ≠ "") : t.makeDirectories p = (.error e, t) := by
  obtain ⟨more, hmore⟩ := p.exists_ancestors
  have hmake : t.makeDirectory p = .error e := by
    rw [makeDirectory, locateClosed, h]
    rfl
  have hnot : t.isDirectory p = false := by
    rw [isDirectory, entry?, locate, h]
  rw [makeDirectories, hmore, makeNested, hmake]
  split
  case h_1 heq => cases heq
  case h_2 heq =>
    cases heq
    exact absurd h (Path.flaw?_ne_missing hp)
  case h_3 heq =>
    cases heq
    rw [hnot]
    rfl

/-- A directory with a name that is too long is not made, and neither is one above it. -/
theorem makeDirectories_of_long {t : Tree} {p : Path} {n : String} {before : List String} {k : Nat}
    {above : Location} (hflaw : p.flaw? = none) (hends : p.EndsIn n)
    (hnames : p.names = before ++ [n]) (hgoes : t.Goes linkLimit [] before k above)
    (hlong : nameLimit < n.utf8ByteSize) : t.makeDirectories p = (.error .nameTooLong, t) := by
  have hne : p.names ≠ [] := by
    rw [hnames]
    exact List.concat_ne_nil n _
  have hdot : n ≠ "." := by
    rintro rfl
    cases hends.named
  obtain ⟨more, hmore⟩ := p.exists_ancestors
  have hmake : t.makeDirectory p = .error .nameTooLong := by
    rw [makeDirectory, locateClosed, hflaw]
    simp only
    rw [locate, Path.flaw?_closed hne hflaw, hends.steps_closed, hnames]
    simp only
    rw [hgoes.walkLinks_append (.inl (List.cons_ne_nil n [])), walkLinks_name hdot hends.child,
      if_pos hlong]
    rfl
  have hnot : t.isDirectory p = false := by
    rw [Bool.eq_false_iff, ne_eq, isDirectory_iff]
    rintro ⟨d, hd⟩
    obtain ⟨i, hthere⟩ := hd.reaches
    refine absurd (hthere.short ?_ hdot hends.child) (Nat.not_le.mpr hlong)
    rw [hnames]
    exact List.mem_append_right _ (List.mem_singleton_self n)
  rw [makeDirectories, hmore, makeNested, hmake]
  simp only [hnot]
  rfl

/-- Nothing is renamed to a path that is refused. -/
theorem rename_of_flaw {t : Tree} {old new : Path} (h : new.flaw? ≠ none) :
    ∃ e, t.rename old new = .error e := by
  cases hrename : t.rename old new with
  | error e => exact ⟨e, rfl⟩
  | ok u =>
    obtain ⟨_, -, hrest⟩ := bind_eq_ok.mp hrename
    obtain ⟨_, hnew, -⟩ := bind_eq_ok.mp hrest
    obtain ⟨_, hfound, -⟩ := bind_eq_ok.mp hnew
    exact absurd (flaw?_of_locateClosed hfound) h

/-- What is there is renamed to where nothing is, unless that is inside of it. -/
theorem Places.rename {t : Tree} {old new : Path} {a b : Location} {n m : String}
    (hold : t.Places old a n) (hnew : t.Places new b m) (hopen : old.endsOpen = false)
    (hopen' : new.endsOpen = false) (hsome : (t.get? (a ++ [n])).isSome)
    (hvacant : t.get? (b ++ [m]) = none) (hinto : ¬ a ++ [n] <+: b ++ [m])
    (hover : ¬ b ++ [m] <+: a ++ [n]) :
    t.rename old new = .ok (t.move (a ++ [n]) (b ++ [m])) := by
  have hne : (a ++ [n] == b ++ [m]) = false :=
    beq_eq_false_iff_ne.mpr fun heq => hinto (heq ▸ List.prefix_refl (a ++ [n]))
  obtain ⟨e, he⟩ := Option.isSome_iff_exists.mp hsome
  rw [Tree.rename, hold.namedBy, hnew.namedBy, he, hvacant]
  cases e with
  | directory =>
    simp only [ok_bind, hne, isPrefixOf_eq_false hinto, isPrefixOf_eq_false hover]
    rfl
  | file _ | link _ =>
    simp only [ok_bind, hopen, hopen', hne, isPrefixOf_eq_false hover]
    rfl

/-- A directory is not renamed to a path inside of it, and a link to one is not renamed by a path with a
    slash at its end. -/
theorem Reaches.rename_into {t : Tree} {p new : Path} {d : Location} {n : String} (h : t.Reaches p d)
    (hnew : t.Places new d n) : ∃ e, t.rename (p.child "") new = .error e := by
  rw [Tree.rename]
  cases hold : t.namedBy (p.child "") with
  | error e => exact ⟨e, rfl⟩
  | ok found =>
    obtain ⟨there, hlocate, hfound⟩ := bind_eq_ok.mp hold
    have hreaches : t.Reaches (p.child "").closed d := by
      rwa [Reaches, Path.names_closed, Path.names_child_empty]
    have hflaw := flaw?_of_locateClosed hlocate
    rw [locateClosed, hflaw] at hlocate
    obtain rfl : there = found := by
      split at hfound
      case h_4 => exact Except.ok.inj hfound
      all_goals cases hfound
    rw [hnew.namedBy]
    rcases hreaches.locate_cases (flaw?_of_locate hlocate) with hdir | ⟨x, target, hlink⟩
    · rw [hdir] at hlocate
      cases hlocate
      have hne : (d == d ++ [n]) = false :=
        beq_eq_false_iff_ne.mpr fun heq => List.cons_ne_nil n [] (List.append_right_eq_self.mp heq.symm)
      have hinto : d.isPrefixOf (d ++ [n]) = true :=
        List.isPrefixOf_iff_prefix.mpr (List.prefix_append d [n])
      simp only [ok_bind, hne, hinto]
      exact ⟨_, rfl⟩
    · rw [hlink] at hlocate
      cases hlocate
      simp only [ok_bind, Path.endsOpen_child_empty hflaw]
      exact ⟨_, rfl⟩

end ManifestMigration.Tree
