import ManifestMigration.Backup.Slots
import ManifestMigration.Proofs.Backup.Name
import ManifestMigration.Proofs.Filesystem.Copy
import Mathlib.Order.Bounds.Basic

/-! The slots of a project: which is the latest, what a new backup is, and what putting one back does.

    A project and its backups stand beside each other, and a new backup has the index after the latest.
    Indices are words, so there has to be one after it: what follows the last word is left open. A
    backup is put back for a project whose path does not lead through the project itself: only then is
    the place still found when the project has been removed. -/

namespace ManifestMigration

/-- The path of the directory that a project stands in, with its backups. -/
def Path.around (p : Path) : Path := p.parent?.getD ⟨"."⟩

/-- A path ends with the name of a project, and leads to where the project stands. -/
structure Tree.Locates (t : Tree) (root : Path) (above : Location) (name : String) : Prop where
  named : root.name? = some name
  around : t.Leads root.around above

/-- A path names a directory, no link to one, under a name without a line feed in a directory that can
    be listed, and no backup that stands there is inside of the directory that is named. -/
structure Tree.Addresses (t : Tree) (root : Path) (d above : Location) (name : String) : Prop where
  leads : t.Leads root d
  origin : t.origin root = .ok (d, .directory)
  around : t.Leads root.around above
  named : root.name? = some name
  line : '\n' ∉ name.toList
  outside : ∀ i, ¬ d <+: above ++ [Slot.name ⟨name, i⟩]

/-- A directory is there, even without the project in it, for a project with this path and name. -/
structure Tree.Houses (t : Tree) (root : Path) (above : Location) (name : String) : Prop where
  dots : "." ∉ root.pieces
  named : root.name? = some name
  leads : (t.erase (above ++ [name])).Leads root.around above

namespace Tree

variable {t u : Tree} {root : Path} {above : Location} {name : String}

theorem Locates.places (h : t.Locates root above name) (hname : IsName name)
    (hdots : "." ∉ root.pieces) (hflaw : root.flaw? = none) : t.Places root above name := by
  obtain ⟨k, hgoes⟩ := h.around.reaches
  exact ⟨hflaw, .of_name? hdots h.named, hname, _, k, (Path.names_of_name? h.named).1, hgoes⟩

/-- A project that is there is found by its path. -/
theorem Locates.locate_directory (last : Bool) (h : t.Locates root above name) (hname : IsName name)
    (hflaw : root.flaw? = none) (hdir : t.get? (above ++ [name]) = some .directory) :
    t.locate last root = .ok (above ++ [name], some .directory) := by
  have hdot : name ≠ "." := by
    rintro rfl
    cases hname.named
  have hnames : root.names = root.around.names ++ [name] := (Path.names_of_name? h.named).1
  obtain ⟨k, hgoes⟩ := h.around.reaches
  have hthere : ∀ rest, t.walkLinks last linkLimit [] (root.around.names ++ name :: rest) =
      t.walkLinks last k (above ++ [name]) rest := by
    intro rest
    rw [hgoes.walkLinks_append (.inl (List.cons_ne_nil name rest)), walkLinks_name hdot hname.child,
      if_neg (Nat.not_lt.mpr hname.short), hdir]
  rw [Tree.locate, hflaw]
  simp only
  rcases root.steps_eq with hsteps | hsteps
  · rw [hsteps, hnames, hthere, walkLinks_nil]
  · rw [hsteps, hnames, List.append_assoc, List.singleton_append, hthere, walkLinks_dot,
      walkLinks_nil]

theorem Locates.addresses (h : t.Locates root above name) (hname : IsName name)
    (hflaw : root.flaw? = none) (hdir : t.get? (above ++ [name]) = some .directory)
    (hline : '\n' ∉ name.toList) : t.Addresses root (above ++ [name]) above name where
  leads := h.locate_directory true hname hflaw hdir
  origin := by
    rw [Tree.origin, h.locate_directory false hname hflaw hdir,
      h.locate_directory true hname hflaw hdir]
    rfl
  around := h.around
  named := h.named
  line := hline
  outside i := not_prefix_sibling (Slot.name_ne_project ⟨name, i⟩).symm

namespace Houses

theorem keep (h : t.Houses root above name)
    (hsame : ∀ m, ¬ above ++ [name] <+: m → u.get? m = t.get? m) : u.Houses root above name := by
  refine ⟨h.dots, h.named, h.leads.keep (keeps_of_erase (List.concat_ne_nil name above) ?_)⟩
  intro m hm
  rw [get?_erase (List.concat_ne_nil name above), if_neg hm, hsame m hm]

theorem around (h : t.Houses root above name) : t.Leads root.around above :=
  h.leads.keep (t.erase_keeps above name)

/-- The project has its place even if it is not there. -/
theorem places_erase (h : t.Houses root above name) (hname : IsName name)
    (hflaw : root.flaw? = none) : (t.erase (above ++ [name])).Places root above name :=
  Locates.places ⟨h.named, h.leads⟩ hname h.dots hflaw

theorem places (h : t.Houses root above name) (hname : IsName name) (hflaw : root.flaw? = none) :
    t.Places root above name :=
  (h.places_erase hname hflaw).keep (t.erase_keeps above name)

end Houses

end Tree

namespace Backup

variable {t u : Tree} {root b : Path} {d above : Location} {name : String} {i j : Nat}

/-! ### Which slots there are -/

/-- The indices of the slots of a project among what stands in a directory. -/
def taken (t : Tree) (above : Location) (name : String) : Set Nat :=
  {i | ∃ n, (t.get? (above ++ [n])).isSome ∧ Slot.parse? n = some ⟨name, i⟩}

theorem latest_eq (hname : root.name? = some name) (haround : t.Leads root.around above) :
    latest root t = .ok (latestAmong name ((t.listing above).map Prod.fst)) t := by
  have hlist : t.list root.around = .ok (t.listing above) := by
    rw [Tree.list, haround]
    rfl
  rw [latest, hname]
  simp only
  rw [Action.look_bind, ← Path.around, hlist]
  rfl

theorem mem_indices : i ∈ ((((t.listing above).map Prod.fst).filterMap Slot.parse?).filter
    fun s => s.project == name).map Slot.index ↔ i ∈ taken t above name := by
  simp only [List.mem_map, List.mem_filter, List.mem_filterMap, beq_iff_eq]
  constructor
  · rintro ⟨⟨project, index⟩, ⟨⟨n, hn, hparse⟩, rfl⟩, rfl⟩
    exact ⟨n, Tree.mem_listing.mp (List.mem_map.mpr hn), hparse⟩
  · rintro ⟨n, hn, hparse⟩
    exact ⟨⟨name, i⟩, ⟨⟨n, List.mem_map.mp (Tree.mem_listing.mpr hn), hparse⟩, rfl⟩, rfl⟩

/-- The latest slot is the one with the greatest index, whatever else stands beside it. -/
theorem latestAmong_eq_some_iff : latestAmong name ((t.listing above).map Prod.fst) = some i ↔
    IsGreatest (taken t above name) i := by
  rw [latestAmong, List.max?_eq_some_iff]
  simp only [mem_indices]
  rfl

theorem latestAmong_eq_none_iff : latestAmong name ((t.listing above).map Prod.fst) = none ↔
    taken t above name = ∅ := by
  rw [latestAmong, List.max?_eq_none_iff, List.eq_nil_iff_forall_not_mem, Set.eq_empty_iff_forall_notMem]
  simp only [mem_indices]

/-- The first slot fits a word. -/
theorem fits_of_latest_eq_none (h : latest root t = .ok none t) (j : Nat)
    (hj : latest root t = .ok (some j) t) : j + 1 < Text.wordLimit := by
  rw [h] at hj
  cases hj

/-- A path has one name only. -/
theorem notMem_of_name? {c : Char} (hname : root.name? = some name) (hc : c ∉ name.toList)
    (other : String) (hother : root.name? = some other) : c ∉ other.toList := by
  cases hname.symm.trans hother
  exact hc

/-- The path of a slot. -/
def slot (root : Path) (name : String) (i : Nat) : Path := root.around.child (Slot.name ⟨name, i⟩)

theorem pathOf_eq (hname : root.name? = some name) : pathOf root i t = .ok (slot root name i) t := by
  rw [pathOf, Path.backup?, hname]
  rfl

theorem reads_pathOf (root : Path) (i : Nat) : Action.Reads (pathOf root i) := by
  rw [pathOf]
  split
  · exact Action.reads_pure _
  · exact Action.reads_throw _

theorem reads_latest (root : Path) : Action.Reads (latest root) := by
  rw [latest]
  split
  · exact Action.reads_throw _
  · refine (Action.reads_look _).bind fun found => ?_
    split
    · exact Action.reads_pure _
    · exact Action.reads_throw _

theorem reads_next (root : Path) : Action.Reads (next root) := by
  refine (reads_latest root).bind fun found => ?_
  cases found with
  | none => exact reads_pathOf root 0
  | some index => exact reads_pathOf root (Text.nextWord index)

/-- Only beside a project with a name in a directory that can be listed there are slots. -/
theorem named_of_latest {found : Option Nat} (hlatest : latest root t = .ok found u) :
    ∃ name above, root.name? = some name ∧ t.Leads root.around above := by
  rw [latest] at hlatest
  cases hname : root.name? with
  | none =>
    rw [hname] at hlatest
    cases hlatest
  | some name =>
    rw [hname] at hlatest
    simp only at hlatest
    rw [Action.look_bind, ← Path.around] at hlatest
    cases hlist : t.list root.around with
    | error e =>
      rw [hlist] at hlatest
      cases hlatest
    | ok entries =>
      obtain ⟨⟨l, there⟩, hlocate, hentries⟩ := bind_eq_ok.mp hlist
      rcases there with _ | (_ | _ | _)
      case some.directory => exact ⟨name, l, rfl, hlocate⟩
      all_goals cases hentries

theorem named_of_next (h : next root t = .ok b u) :
    ∃ name above, root.name? = some name ∧ t.Leads root.around above := by
  obtain ⟨found, v, hlatest, -⟩ := exists_of_bind_eq_ok h
  exact named_of_latest hlatest

/-- A new slot comes after all that are there, as long as there is a next number. -/
theorem next_eq (hname : root.name? = some name) (haround : t.Leads root.around above)
    (hindex : ∀ j, latest root t = .ok (some j) t → j + 1 < Text.wordLimit) :
    ∃ i, next root t = .ok (slot root name i) t ∧ i < Text.wordLimit ∧
      ∀ j ∈ taken t above name, j < i := by
  have hlatest := latest_eq hname haround
  rw [next, bind_of_ok hlatest]
  cases hamong : latestAmong name ((t.listing above).map Prod.fst) with
  | none =>
    rw [latestAmong_eq_none_iff] at hamong
    exact ⟨0, pathOf_eq hname, by decide, by simp [hamong]⟩
  | some j =>
    rw [hamong] at hlatest
    have hfits := hindex j hlatest
    rw [latestAmong_eq_some_iff] at hamong
    simp only [Text.nextWord_of_lt hfits]
    exact ⟨j + 1, pathOf_eq hname, hfits, fun k hk => Nat.lt_succ_of_le (hamong.2 hk)⟩

theorem slash_notMem_name (hname : root.name? = some name) (i : Nat) :
    '/' ∉ (Slot.name ⟨name, i⟩).toList := by
  refine Slot.slash_notMem_name (Path.slash_notMem_of_mem_pieces (p := root) ?_)
  refine (List.mem_filter.mp (?_ : name ∈ root.names)).1
  rw [(Path.names_of_name? hname).1]
  exact List.mem_append_right _ (List.mem_singleton_self _)

theorem names_slot (hname : root.name? = some name) :
    (slot root name i).names = root.around.names ++ [Slot.name ⟨name, i⟩] :=
  Path.names_child (slash_notMem_name hname i) (Slot.isIdle_name _)

theorem names_slot_ne_nil (hname : root.name? = some name) : (slot root name i).names ≠ [] := by
  rw [names_slot hname]
  exact List.concat_ne_nil _ _

theorem mem_names_slot (hname : root.name? = some name) (i : Nat) :
    Slot.name ⟨name, i⟩ ∈ (slot root name i).names := by
  rw [names_slot hname]
  exact List.mem_append_right _ (List.mem_singleton_self _)

/-- What a limit does not refuse as a path of a slot, is one. -/
theorem places_slot (haround : t.Leads root.around above) (hname : root.name? = some name)
    (hflaw : (slot root name i).flaw? = none)
    (hshort : (Slot.name ⟨name, i⟩).utf8ByteSize ≤ nameLimit) :
    t.Places (slot root name i) above (Slot.name ⟨name, i⟩) := by
  have hslash := slash_notMem_name hname i
  exact .of_child haround.reaches ⟨Slot.isIdle_name _, Slot.name_ne (by decide), hslash,
    Path.nul_notMem_of_child hslash hflaw, hshort⟩ hflaw

/-! ### Making a backup -/

/-- The next backup of the project at a location goes to a slot that comes after all others. -/
structure NextSlot (t : Tree) (root : Path) (d above : Location) (name : String) (i : Nat) :
    Prop where
  leads : t.Leads root d
  around : t.Leads root.around above
  named : root.name? = some name
  fits : i < Text.wordLimit
  newest : ∀ j ∈ taken t above name, j < i
  vacant : t.get? (above ++ [Slot.name ⟨name, i⟩]) = none

/-- A backup of the project at a location has been made in a slot that comes after all others, and
    that is not inside of the project. -/
structure BackedUp (t u : Tree) (root b : Path) (d above : Location) (name : String) (i : Nat) :
    Prop extends NextSlot t root d above name i where
  path : b = slot root name i
  copy : t.CopyOf u d (above ++ [Slot.name ⟨name, i⟩])
  apart : ¬ d <+: above ++ [Slot.name ⟨name, i⟩]
  wellFormed : u.WellFormed

/-- The backup is not in the project. -/
theorem BackedUp.get?_project (h : BackedUp t u root b d above name i) (ht : t.WellFormed)
    (m : Location) : u.get? (d ++ m) = t.get? (d ++ m) := by
  refine h.copy.outside _ fun hslot => ?_
  rcases List.prefix_or_prefix_of_prefix hslot (List.prefix_append d m) with ⟨k, rfl⟩ | hinside
  · have hdir := h.leads.reaches.directory
    rw [ht.vacant h.vacant] at hdir
    cases hdir
  · exact h.apart hinside

theorem BackedUp.directory (h : BackedUp t u root b d above name i) :
    u.get? (above ++ [Slot.name ⟨name, i⟩]) = some .directory := by
  have htop := h.copy.inside []
  rwa [List.append_nil, List.append_nil, h.leads.reaches.directory] at htop

/-- What was there before is still there. -/
theorem BackedUp.keeps (h : BackedUp t u root b d above name i) (ht : t.WellFormed) : t.Keeps u := by
  intro m e hm _
  rw [h.copy.outside, hm]
  rintro ⟨k, rfl⟩
  rw [ht.vacant h.vacant] at hm
  cases hm

theorem create_of_isDirectory (h : t.isDirectory root = true) : create root t =
    (next root >>= fun backup => copyTree root backup >>= fun _ => pure backup) t := by
  rw [create, Action.look_bind]
  simp only [h]
  rfl

/-- What is listed with each directory before its contents is copied as it is listed. -/
theorem create_of_sorted {v : Tree} {l : Location} {e : Entry} (hdir : t.isDirectory root = true)
    (hnext : next root t = .ok b t) (horigin : t.origin root = .ok (l, e))
    (hsorted : (t.below l).Pairwise fun a b => a.1.length ≤ b.1.length)
    (htop : copyEntry root (b.child "") e t = .ok i u)
    (hbelow : copyEntries root b (t.below l) u = .ok j v ∧ v.encloses l b = false) :
    create root t = .ok b v := by
  have hcopy := Tree.copyTree_of_copied horigin htop ((Tree.preorder_of_sorted hsorted).symm ▸ hbelow.1)
  rw [hbelow.2, if_neg Bool.false_ne_true] at hcopy
  rw [create_of_isDirectory hdir, bind_of_ok hnext, bind_of_ok hcopy]
  rfl

/-- Nothing is copied to a slot with a path that a limit refuses. -/
theorem copyEntry_slot_refused (haround : t.Leads root.around above) (hname : root.name? = some name)
    (hrefused : ¬ (((slot root name i).child "").flaw? = none ∧
      (Slot.name ⟨name, i⟩).utf8ByteSize ≤ nameLimit)) :
    ∃ e, copyEntry root ((slot root name i).child "") .directory t = .error e t := by
  have hnames := names_slot (i := i) hname
  rw [← Path.names_child_empty] at hnames
  cases hflaw : ((slot root name i).child "").flaw? with
  | some e =>
    refine ⟨_, Tree.copyEntry_directory_of_flaw hflaw (Path.text_ne_empty ?_)⟩
    rw [hnames]
    exact List.concat_ne_nil _ _
  | none =>
    have hlong := Nat.not_le.mp fun hshort => hrefused ⟨hflaw, hshort⟩
    have hends := Path.EndsIn.of_child (p := root.around) (slash_notMem_name hname i)
      (Slot.isIdle_name _) (Slot.name_ne (by decide))
    obtain ⟨k, hgoes⟩ := haround.reaches
    exact ⟨_, bind_of_error (Action.performPartly_of_error
      (Tree.makeDirectories_of_long hflaw hends.child_empty hnames hgoes hlong))⟩

/-- Whatever copying the project to its next slot comes to, all that changed is that slot. -/
theorem NextSlot.copyTree_cases (h : NextSlot t root d above name i) (ht : t.WellFormed) :
    (∃ n u, copyTree root (slot root name i) t = .ok n u ∧
      BackedUp t u root (slot root name i) d above name i) ∨
    ∃ e u, copyTree root (slot root name i) t = .error e u ∧ u.WellFormed ∧
      ∀ m, ¬ above ++ [Slot.name ⟨name, i⟩] <+: m → u.get? m = t.get? m := by
  have hunchanged : ∀ {e}, copyTree root (slot root name i) t = .error e t →
      ∃ e u, copyTree root (slot root name i) t = .error e u ∧ u.WellFormed ∧
        ∀ m, ¬ above ++ [Slot.name ⟨name, i⟩] <+: m → u.get? m = t.get? m :=
    fun {e} he => ⟨e, t, he, ht, fun _ _ => rfl⟩
  rcases h.leads.origin_cases with horigin | ⟨l, target, horigin⟩
  · by_cases hslot : ((slot root name i).child "").flaw? = none ∧
        (Slot.name ⟨name, i⟩).utf8ByteSize ≤ nameLimit
    · have hflaw : (slot root name i).flaw? = none :=
        Path.flaw?_of_child (by decide) (Path.text_ne_empty (names_slot_ne_nil h.named)) hslot.1
      have hcopyable : t.Copyable root (slot root name i) d above (Slot.name ⟨name, i⟩) := {
        wellFormed := ht
        origin := horigin
        reaches := h.leads.reaches
        place := places_slot h.around h.named hflaw hslot.2
        vacant := h.vacant }
      rcases hcopyable.copyTree_cases with
        ⟨n, u, hok, hcopy, hu, hapart⟩ | ⟨-, e, u, he, hu, houtside, -⟩
      · exact .inl ⟨n, u, hok, h, rfl, hcopy, hapart, hu⟩
      · exact .inr ⟨e, u, he, hu, houtside⟩
    · obtain ⟨e, hrefused⟩ := copyEntry_slot_refused h.around h.named hslot
      exact .inr (hunchanged (Tree.copyTree_of_top_error horigin hrefused))
  · obtain ⟨e, hrefused⟩ : ∃ e, copyEntry root ((slot root name i).child "") (.link target) t =
        .error e t := Tree.copyEntry_link_refused target
    exact .inr (hunchanged (Tree.copyTree_of_top_error horigin hrefused))

/-- A project that is there, and that can be listed with its backups, has a next slot. -/
theorem exists_nextSlot (hname : root.name? = some name) (haround : t.Leads root.around above)
    (hleads : t.Leads root d) (hline : '\n' ∉ name.toList)
    (hindex : ∀ j, latest root t = .ok (some j) t → j + 1 < Text.wordLimit) :
    ∃ i, next root t = .ok (slot root name i) t ∧ NextSlot t root d above name i := by
  obtain ⟨i, hnext, hfits, hnewest⟩ := next_eq hname haround hindex
  have hne : name ≠ "" := by
    rintro rfl
    exact absurd (Path.names_of_name? hname).2.1 (by decide)
  refine ⟨i, hnext, hleads, haround, hname, hfits, hnewest, ?_⟩
  by_contra hthere
  refine Nat.lt_irrefl i (hnewest i ⟨_, Option.isSome_iff_ne_none.mpr hthere, ?_⟩)
  exact Slot.parse?_name hne hline hfits

/-- Whatever making a backup comes to, all that changed is the slot that it goes to. -/
theorem create_cases (ht : t.WellFormed)
    (hline : ∀ name, root.name? = some name → '\n' ∉ name.toList)
    (hindex : ∀ j, latest root t = .ok (some j) t → j + 1 < Text.wordLimit) :
    (∃ e, create root t = .error e t) ∨ ∃ d above name i, NextSlot t root d above name i ∧
      ((∃ b u, create root t = .ok b u ∧ BackedUp t u root b d above name i) ∨
        ∃ e u, create root t = .error e u ∧ u.WellFormed ∧
          ∀ m, ¬ above ++ [Slot.name ⟨name, i⟩] <+: m → u.get? m = t.get? m) := by
  cases hdir : t.isDirectory root with
  | false =>
    refine .inl ⟨.directoryNotFound root, ?_⟩
    rw [create, Action.look_bind, hdir]
    rfl
  | true =>
    obtain ⟨d, hleads⟩ := Tree.isDirectory_iff.mp hdir
    rw [create_of_isDirectory hdir]
    cases hnext : next root t with
    | error e u =>
      have hsame := reads_next root t
      rw [Action.after_of_error hnext] at hsame
      subst hsame
      exact .inl ⟨e, bind_of_error hnext⟩
    | ok b u =>
      obtain ⟨name, above, hname, haround⟩ := named_of_next hnext
      obtain ⟨i, hslot, h⟩ := exists_nextSlot hname haround hleads (hline name hname) hindex
      rw [hnext] at hslot
      cases hslot
      rw [bind_of_ok hnext]
      refine .inr ⟨d, above, name, i, h, ?_⟩
      rcases h.copyTree_cases ht with ⟨n, v, hcopy, hback⟩ | ⟨e, v, hcopy, hv⟩
      · exact .inl ⟨_, v, bind_of_ok hcopy, hback⟩
      · exact .inr ⟨e, v, bind_of_error hcopy, hv⟩

/-- A backup that succeeds has gone to a new slot. -/
theorem exists_backedUp (ht : t.WellFormed)
    (hline : ∀ name, root.name? = some name → '\n' ∉ name.toList)
    (hindex : ∀ j, latest root t = .ok (some j) t → j + 1 < Text.wordLimit)
    (hcreate : create root t = .ok b u) : ∃ d above name i, BackedUp t u root b d above name i := by
  rcases create_cases ht hline hindex with
    ⟨e, he⟩ | ⟨d, above, name, i, -, ⟨b', v, hok, hback⟩ | ⟨e, v, he, -⟩⟩
  · rw [he] at hcreate
    cases hcreate
  · rw [hok] at hcreate
    cases hcreate
    exact ⟨d, above, name, i, hback⟩
  · rw [he] at hcreate
    cases hcreate

/-- A project whose path names its directory can be backed up, as long as no path is too long. -/
theorem exists_create (ht : t.WellFormed) (h : t.Addresses root d above name)
    (hindex : ∀ j, latest root t = .ok (some j) t → j + 1 < Text.wordLimit) (hsource : t.Fits d root)
    (hslot : ∀ b, next root t = .ok b t → t.Fits d (b.child "")) :
    ∃ b i v, create root t = .ok b v ∧ BackedUp t v root b d above name i := by
  obtain ⟨i, hnext, hfree⟩ := exists_nextSlot h.named h.around h.leads h.line hindex
  have hwritable := hslot _ hnext
  have hdir : (t.get? d).isSome := Option.isSome_of_eq_some h.leads.reaches.directory
  have hfits : (slot root name i).Fits :=
    (hwritable.of_child_empty ht (names_slot_ne_nil h.named)).top hdir
  have hcopyable : t.Copyable root (slot root name i) d above (Slot.name ⟨name, i⟩) := {
    wellFormed := ht
    origin := h.origin
    reaches := h.leads.reaches
    place := places_slot h.around h.named hfits.flaw (hfits.short _ (mem_names_slot h.named i))
    vacant := hfree.vacant }
  obtain ⟨n, v, hcopy, -⟩ := hcopyable.copyTree hsource hwritable (h.outside i)
  have hcreate : create root t = .ok (slot root name i) v := by
    rw [create_of_isDirectory (Tree.isDirectory_iff.mpr ⟨d, h.leads⟩), bind_of_ok hnext,
      bind_of_ok hcopy]
    rfl
  rcases hfree.copyTree_cases ht with ⟨n', v', hok, hback⟩ | ⟨e, v', herror, -⟩
  · rw [hcopy] at hok
    cases hok
    exact ⟨_, i, v, hcreate, hback⟩
  · rw [hcopy] at herror
    cases herror

/-- Where a project that is a directory itself has been backed up. -/
theorem backedUp (ht : t.WellFormed) (hname : root.name? = some name)
    (haround : t.Leads root.around above) (hdir : t.get? (above ++ [name]) = some .directory)
    (hline : '\n' ∉ name.toList)
    (hindex : ∀ j, latest root t = .ok (some j) t → j + 1 < Text.wordLimit)
    (hcreate : create root t = .ok b u) : ∃ i, BackedUp t u root b (above ++ [name]) above name i := by
  obtain ⟨d, a, n, i, hback⟩ := exists_backedUp ht (notMem_of_name? hname hline) hindex hcreate
  obtain rfl : n = name := Option.some.inj (hback.named.symm.trans hname)
  obtain rfl := hback.around.unique haround
  have hlocated := Tree.Locates.locate_directory true ⟨hname, haround⟩
    (ht.isName (Option.isSome_of_eq_some hdir)) hback.leads.flaw hdir
  obtain rfl := hback.leads.unique hlocated
  exact ⟨i, hback⟩

/-! ### Putting a backup back -/

/-- A directory beside the place of a project is a backup that can be copied to that place. -/
structure Restorable (t : Tree) (root b : Path) (above : Location) (name n : String) : Prop where
  wellFormed : t.WellFormed
  house : t.Houses root above name
  isName : IsName name
  backup : (t.erase (above ++ [name])).Places b above n
  directory : t.get? (above ++ [n]) = some .directory
  apart : n ≠ name
  readable : t.Fits (above ++ [n]) b
  writable : t.Fits (above ++ [n]) (root.child "")

namespace Restorable

variable {n : String}

theorem not_prefix (h : Restorable t root b above name n) (m : Location) :
    ¬ above ++ [name] <+: above ++ [n] ++ m :=
  Tree.not_prefix_beside h.apart.symm m

theorem places (h : Restorable t root b above name n) :
    (t.erase (above ++ [name])).Places root above name := by
  have hroot := h.writable.of_child_empty h.wellFormed (Path.names_ne_nil_of_name? h.house.named)
  exact h.house.places_erase h.isName (hroot.top (Option.isSome_of_eq_some h.directory)).flaw

theorem directory_erase (h : Restorable t root b above name n) :
    (t.erase (above ++ [name])).get? (above ++ [n]) = some .directory := by
  rw [Tree.get?_erase (List.concat_ne_nil name above), if_neg, h.directory]
  simpa using h.not_prefix []

/-- When the project has been removed, the backup can be copied to its place. -/
theorem copyable (h : Restorable t root b above name n) :
    (t.erase (above ++ [name])).Copyable b root (above ++ [n]) above name where
  wellFormed := h.wellFormed.erase (List.concat_ne_nil name above)
  origin := h.backup.origin h.directory_erase
  reaches := (h.backup.leads h.directory_erase).reaches
  place := h.places
  vacant := by
    rw [Tree.get?_erase (List.concat_ne_nil name above), if_pos (List.prefix_refl _)]

/-- When the project has been removed, the backup is copied to its place. -/
theorem copied (h : Restorable t root b above name n) :
    ∃ i w, copyTree b root (t.erase (above ++ [name])) = .ok i w ∧
      (t.erase (above ++ [name])).CopyOf w (above ++ [n]) (above ++ [name]) := by
  refine h.copyable.copyTree (fun m hsome => h.readable m ?_) (fun m hsome => h.writable m ?_) ?_
  · rwa [Tree.get?_erase (List.concat_ne_nil name above), if_neg (h.not_prefix m)] at hsome
  · rwa [Tree.get?_erase (List.concat_ne_nil name above), if_neg (h.not_prefix m)] at hsome
  · exact Tree.not_prefix_sibling h.apart

theorem isDirectory (h : Restorable t root b above name n) : t.isDirectory b = true :=
  Tree.isDirectory_iff.mpr ⟨_, (h.backup.keep (t.erase_keeps above name)).leads h.directory⟩

end Restorable

theorem restore_of_isDirectory (h : t.isDirectory b = true) : restore root b t =
    (if t.leadsSomewhere root then
      Action.performPartly (.system root) (fun t => t.removeAll root) >>= fun _ =>
        copyTree b root >>= fun _ => pure ()
    else copyTree b root >>= fun _ => pure ()) t := by
  rw [restore, Action.look_bind]
  simp only [h]
  change (Action.look _ >>= _) t = _
  rw [Action.look_bind]

/-- A backup takes the place of the project when the project can be removed, or is not there. -/
theorem Restorable.replaces {n : String} (h : Restorable t root b above name n)
    (hremove : if t.leadsSomewhere root then t.removeAll root = (.ok (), t.erase (above ++ [name]))
      else t.erase (above ++ [name]) = t) :
    ∃ w, restore root b t = .ok () w ∧
      (t.erase (above ++ [name])).CopyOf w (above ++ [n]) (above ++ [name]) := by
  obtain ⟨k, w, hcopy, hcopyOf⟩ := h.copied
  refine ⟨w, ?_, hcopyOf⟩
  rw [restore_of_isDirectory h.isDirectory]
  split at hremove
  case isTrue hleads =>
    rw [if_pos hleads, bind_of_ok (Action.performPartly_of_ok hremove), bind_of_ok hcopy]
    rfl
  case isFalse hleads =>
    rw [hremove] at hcopy
    rw [if_neg hleads, bind_of_ok hcopy]
    rfl

/-- A directory is replaced by a backup. -/
theorem Restorable.replaces_directory {n : String} (h : Restorable t root b above name n)
    (hdir : t.get? (above ++ [name]) = some .directory) :
    ∃ w, restore root b t = .ok () w ∧
      (t.erase (above ++ [name])).CopyOf w (above ++ [n]) (above ++ [name]) := by
  have hplaces := h.places.keep (t.erase_keeps above name)
  have hclear : (t.clear (above ++ [name])).Places root above name := by
    refine h.places.keep (Tree.keeps_of_erase (List.concat_ne_nil name above) ?_)
    exact fun m hm => by rw [Tree.get?_clear, if_neg fun hpre => hm hpre.1]
  have hleads : t.leadsSomewhere root = true := by
    rw [Tree.leadsSomewhere, Tree.entry?, hplaces.leads hdir]
    rfl
  exact h.replaces (by rw [hleads, if_pos rfl]; exact hplaces.removeAll hclear hdir)

/-- Where something is that is no directory and leads to none, nothing is copied. -/
theorem Restorable.copyTree_refused {n : String} (h : Restorable t root b above name n)
    (hsome : (t.get? (above ++ [name])).isSome) (hleads : t.leadsSomewhere root = false) :
    ∃ e, copyTree b root t = .error e t := by
  have hbackup := h.backup.keep (t.erase_keeps above name)
  have hopen : t.Places (root.child "") above name :=
    (h.places.keep (t.erase_keeps above name)).child_empty
      (h.writable.top (Option.isSome_of_eq_some h.directory)).flaw
  have hnot : t.isDirectory (root.child "") = false := by
    rw [Bool.eq_false_iff]
    intro hdir
    obtain ⟨l, hl⟩ := Tree.isDirectory_iff.mp hdir
    have hreaches := hl.reaches
    rw [Tree.Reaches, Path.names_child_empty] at hreaches
    have hroot : t.Leads root l := Tree.leads_iff.mpr ⟨h.places.flaw, hreaches⟩
    rw [Tree.leadsSomewhere, Tree.entry?, hroot] at hleads
    cases hleads
  have hthere : (t.get? (above ++ [name])).isNone = false := by
    rw [← Option.not_isSome, hsome]
    rfl
  have hrefused : t.makeDirectories (root.child "") = (.error .occupied, t) := by
    rw [hopen.makeDirectories, hthere, hnot]
    rfl
  have hentry : copyEntry b (root.child "") .directory t =
      .error (.system (root.child "") .occupied) t :=
    bind_of_error (Action.performPartly_of_error hrefused)
  exact ⟨_, Tree.copyTree_of_top_error (hbackup.origin h.directory) hentry⟩

/-- A backup is put in the place of the project, or nothing changes. -/
theorem Restorable.restore_cases {n : String} (h : Restorable t root b above name n)
    (hopen : root.endsOpen = true → ∀ target, t.get? (above ++ [name]) ≠ some (.link target)) :
    (∃ w, restore root b t = .ok () w ∧
      (t.erase (above ++ [name])).CopyOf w (above ++ [n]) (above ++ [name])) ∨
    ∃ e, restore root b t = .error e t := by
  have hplaces := h.places.keep (t.erase_keeps above name)
  cases hleads : t.leadsSomewhere root with
  | false =>
    cases hfound : t.get? (above ++ [name]) with
    | none =>
      refine .inl (h.replaces ?_)
      rw [hleads, if_neg Bool.false_ne_true]
      exact h.wellFormed.erase_of_get?_eq_none (List.concat_ne_nil name above) hfound
    | some e =>
      obtain ⟨e, hrefused⟩ := h.copyTree_refused (Option.isSome_of_eq_some hfound) hleads
      refine .inr ⟨e, ?_⟩
      rw [restore_of_isDirectory h.isDirectory, if_neg (by rw [hleads]; decide), bind_of_error hrefused]
  | true =>
    cases hfound : t.get? (above ++ [name]) with
    | none =>
      rw [hplaces.leadsSomewhere_of_none hfound] at hleads
      cases hleads
    | some e =>
      cases e with
      | directory => exact .inl (h.replaces_directory hfound)
      | link target =>
        have hclosed : root.endsOpen = false := by
          by_contra hslash
          exact hopen ((Bool.not_eq_false _).mp hslash) target hfound
        refine .inl (h.replaces ?_)
        rw [hleads, if_pos rfl]
        exact hplaces.removeAll_link hclosed hfound
      | file content =>
        obtain ⟨e, hrefused⟩ := hplaces.removeAll_file hfound
        refine .inr ⟨.system root e, ?_⟩
        rw [restore_of_isDirectory h.isDirectory, if_pos hleads,
          bind_of_error (Action.performPartly_of_error hrefused)]

end Backup

end ManifestMigration
