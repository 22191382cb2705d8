import ManifestMigration.Proofs.Migration.Undo
import Mathlib.Logic.Relation

/-! What becomes of the slots of a project in the course of time, while backups are made, some are put
    back, and the project is changed.

    Each call is made by a path that, at that time, leads to where the project stands. The project may
    be gone after a call, because what was to be put back could not be copied, but then nothing else
    is in its place, and beside it nothing is lost. -/

namespace ManifestMigration

open ManifestMigration.Action

namespace Tree

variable {t u v : Tree} {root : Path} {above m : Location} {name n : String}

/-- A project has its place: a directory is there, or nothing. -/
structure Reserves (t : Tree) (above : Location) (name : String) : Prop where
  wellFormed : t.WellFormed
  isName : IsName name
  project : t.get? (above ++ [name]) = some .directory ∨ t.get? (above ++ [name]) = none

/-- Nothing changes but the project and what is new beside it. -/
def AddsBeside (above : Location) (name : String) (t u : Tree) : Prop :=
  ∀ m, ¬ above ++ [name] <+: m → (∀ n, above ++ [n] <+: m → (t.get? (above ++ [n])).isSome) →
    u.get? m = t.get? m

/-- A project still has its place, and nothing is lost beside it. -/
structure Passes (above : Location) (name : String) (t u : Tree) : Prop where
  reserves : u.Reserves above name
  adds : AddsBeside above name t u

/-- What stands beside the project stays as it is, with all that is in it. -/
theorem AddsBeside.get?_beside (h : AddsBeside above name t u) (hn : n ≠ name)
    (hsome : (t.get? (above ++ [n])).isSome) (m : Location) :
    u.get? (above ++ [n] ++ m) = t.get? (above ++ [n] ++ m) := by
  refine h _ (not_prefix_beside hn.symm m) fun k hk => ?_
  by_cases heq : k = n
  · rwa [heq]
  · exact absurd hk (not_prefix_beside heq m)

theorem AddsBeside.trans (h : AddsBeside above name t u) (h' : AddsBeside above name u v) :
    AddsBeside above name t v := by
  intro m hm hthere
  rw [h' m hm fun n hn => ?_, h m hm hthere]
  have hne : n ≠ name := by
    rintro rfl
    exact hm hn
  have hsame := h.get?_beside hne (hthere n hn) []
  rw [List.append_nil] at hsame
  rw [hsame]
  exact hthere n hn

namespace Passes

theorem refl (h : t.Reserves above name) : Passes above name t t := ⟨h, fun _ _ _ => rfl⟩

theorem trans (h : Passes above name t u) (h' : Passes above name u v) : Passes above name t v :=
  ⟨h'.reserves, h.adds.trans h'.adds⟩

/-- Only the project has changed. -/
theorem of_inside (hu : u.Reserves above name)
    (h : ∀ m, ¬ above ++ [name] <+: m → u.get? m = t.get? m) : Passes above name t u :=
  ⟨hu, fun m hm _ => h m hm⟩

/-- Only something beside the project has been made. -/
theorem of_beside (ht : t.Reserves above name) (hu : u.WellFormed) (hn : n ≠ name)
    (hvacant : t.get? (above ++ [n]) = none)
    (h : ∀ m, ¬ above ++ [n] <+: m → u.get? m = t.get? m) : Passes above name t u := by
  refine ⟨⟨hu, ht.isName, ?_⟩, fun m _ hthere => h m fun hm => ?_⟩
  · rw [h _ (not_prefix_sibling hn)]
    exact ht.project
  · have hsome := hthere n hm
    rw [hvacant] at hsome
    cases hsome

end Passes

/-- Where nothing is, there is no directory. -/
theorem Locates.isDirectory_eq_false (h : t.Locates root above name) (hname : IsName name)
    (hnone : t.get? (above ++ [name]) = none) : t.isDirectory root = false := by
  rw [Bool.eq_false_iff, ne_eq, isDirectory_iff]
  rintro ⟨d, hd⟩
  have hdot : name ≠ "." := by
    rintro rfl
    cases hname.named
  obtain ⟨k, hgoes⟩ := h.around.reaches
  obtain ⟨i, hto⟩ := hd.reaches
  have hfound : t.walkLinks true linkLimit [] (root.names ++ []) = t.walkLinks true i d [] :=
    hto.walkLinks_append (.inr rfl)
  rw [List.append_nil, (Path.names_of_name? h.named).1] at hfound
  have hmissed := (hgoes.walkLinks_append (.inl (List.cons_ne_nil name []))).symm.trans hfound
  rw [walkLinks_nil, walkLinks_name hdot hname.child, if_neg (Nat.not_lt.mpr hname.short), hnone]
    at hmissed
  cases hmissed

end Tree

namespace Backup

open ManifestMigration.Tree

variable {t u : Tree} {root b : Path} {above : Location} {name : String} {i : Nat}

/-! ### Making a backup -/

/-- Whatever making a backup comes to, all that is new is beside the project. -/
theorem passes_create (ht : t.Reserves above name) (hroot : t.Locates root above name)
    (hline : '\n' ∉ name.toList)
    (hindex : ∀ j, latest root t = .ok (some j) t → j + 1 < Text.wordLimit) :
    Passes above name t ((create root).after t) := by
  rcases create_cases ht.wellFormed (notMem_of_name? hroot.named hline) hindex with
    ⟨e, he⟩ | ⟨d, a, n, i, hnext, hcases⟩
  · rw [after_of_error he]
    exact .refl ht
  obtain rfl : n = name := Option.some.inj (hnext.named.symm.trans hroot.named)
  obtain rfl := hnext.around.unique hroot.around
  have hbeside := Slot.name_ne_project ⟨n, i⟩
  rcases hcases with ⟨b, u, hok, hback⟩ | ⟨e, u, he, hu, houtside⟩
  · rw [after_of_ok hok]
    exact .of_beside ht hback.wellFormed hbeside hnext.vacant hback.copy.outside
  · rw [after_of_error he]
    exact .of_beside ht hu hbeside hnext.vacant houtside

/-- The path of a backup led nowhere before. -/
theorem BackedUp.leadsSomewhere_eq_false {d : Location}
    (h : BackedUp t u root b d above name i) : t.leadsSomewhere b = false := by
  obtain rfl := h.path
  cases hflaw : (slot root name i).flaw? with
  | some e => exact Places.leadsSomewhere_of_flaw hflaw
  | none =>
    have hshort := (h.wellFormed.isName (Option.isSome_of_eq_some h.directory)).short
    exact (places_slot h.around h.named hflaw hshort).leadsSomewhere_of_none h.vacant

/-- A backup that has been made is that of the project, in a slot that comes after all others. -/
theorem exists_backedUp_of_locates (ht : t.Reserves above name) (hroot : t.Locates root above name)
    (hline : '\n' ∉ name.toList)
    (hindex : ∀ j, latest root t = .ok (some j) t → j + 1 < Text.wordLimit)
    (hcreate : create root t = .ok b u) :
    ∃ i, BackedUp t u root b (above ++ [name]) above name i := by
  rcases ht.project with hdir | hnone
  · exact backedUp ht.wellFormed hroot.named hroot.around hdir hline hindex hcreate
  · rw [create, look_bind, hroot.isDirectory_eq_false ht.isName hnone] at hcreate
    cases hcreate

/-! ### Putting a backup back -/

/-- A slot that is a directory, or leads to one, has a path. -/
theorem places_of_isDirectory (hroot : t.Locates root above name)
    (hdir : t.isDirectory (slot root name i) = true) :
    t.Places (slot root name i) above (Slot.name ⟨name, i⟩) := by
  obtain ⟨l, hl⟩ := Tree.isDirectory_iff.mp hdir
  obtain ⟨k, hgoes⟩ := hl.reaches
  exact places_slot hroot.around hroot.named hl.flaw (hgoes.short (mem_names_slot hroot.named i)
    (Slot.name_ne (by decide)) (Slot.name_ne (by decide)))

/-- Nothing is copied to a path that is refused. -/
theorem copyTree_of_flaw {e : SystemError} (hroot : root.name? = some name)
    (hflaw : root.flaw? = some e) (hdir : t.isDirectory b = true) :
    ∃ failure, copyTree b root t = .error failure t := by
  have hnames := Path.names_ne_nil_of_name? hroot
  obtain ⟨l, hl⟩ := Tree.isDirectory_iff.mp hdir
  rcases hl.origin_cases with horigin | ⟨x, target, horigin⟩
  · cases hopen : (root.child "").flaw? with
    | none =>
      rw [Path.flaw?_of_child (by decide) (Path.text_ne_empty hnames) hopen] at hflaw
      cases hflaw
    | some e =>
      have htext : (root.child "").text ≠ "" :=
        Path.text_ne_empty (by rwa [Path.names_child_empty])
      exact ⟨_, copyTree_of_top_error horigin (copyEntry_directory_of_flaw hopen htext)⟩
  · obtain ⟨e, he⟩ : ∃ e, copyEntry b (root.child "") (.link target) t = .error e t :=
      copyEntry_link_refused target
    exact ⟨e, copyTree_of_top_error horigin he⟩

/-- A copy of a slot is put where the project was, as far as it gets. -/
theorem passes_copyTree {n : String} (ht : t.Reserves above name)
    (hnone : t.get? (above ++ [name]) = none) (hroot : t.Places root above name)
    (hb : t.Places b above n) (hopen : b.endsOpen = false)
    (hthere : t.get? (above ++ [n]) = some .directory ∨
      ∃ target, t.get? (above ++ [n]) = some (.link target)) :
    Passes above name t ((copyTree b root).after t) := by
  rcases hthere with hdir | ⟨target, hlink⟩
  · have hcopyable : t.Copyable b root (above ++ [n]) above name := {
      wellFormed := ht.wellFormed
      origin := hb.origin hdir
      reaches := (hb.leads hdir).reaches
      place := hroot
      vacant := hnone }
    rcases hcopyable.copyTree_cases with
      ⟨i, u, hok, hcopy, hu, -⟩ | ⟨-, e, u, he, hu, houtside, hproject⟩
    · rw [after_of_ok hok]
      have htop := hcopy.inside []
      rw [List.append_nil, List.append_nil, hdir] at htop
      exact .of_inside ⟨hu, ht.isName, .inl htop⟩ hcopy.outside
    · rw [after_of_error he]
      refine .of_inside ⟨hu, ht.isName, ?_⟩ houtside
      rcases hproject with rfl | htop
      · exact .inr hnone
      · exact .inl htop
  · have hrefused : (copyTree b root).after t = t := by
      rcases hb.origin_link hopen hlink with horigin | ⟨e, horigin⟩
      · obtain ⟨e, he⟩ : ∃ e, copyEntry b (root.child "") (.link target) t = .error e t :=
          copyEntry_link_refused target
        exact after_of_error (copyTree_of_top_error horigin he)
      · exact after_of_error (copyTree_of_origin_error horigin)
    rw [hrefused]
    exact .refl ht

section
variable {v : Tree}

theorem after_restore_of_removed (hdir : t.isDirectory b = true) (hleads : t.leadsSomewhere root = true)
    (hremove : t.removeAll root = (.ok (), v)) :
    (restore root b).after t = (copyTree b root).after v := by
  rw [after, restore_of_isDirectory hdir, if_pos hleads, bind_of_ok (performPartly_of_ok hremove)]
  exact after_bind_pure

theorem after_restore_of_missing (hdir : t.isDirectory b = true)
    (hleads : t.leadsSomewhere root = false) :
    (restore root b).after t = (copyTree b root).after t := by
  rw [after, restore_of_isDirectory hdir, if_neg (by rw [hleads]; exact Bool.false_ne_true)]
  exact after_bind_pure

end

/-- A project that is there is replaced by a copy of a slot, as far as that gets. The way to both may
    lead through the project, and then there is nothing that is copied. -/
theorem passes_replace (ht : t.Reserves above name) (hroot : t.Locates root above name)
    (hplaces : t.Places root above name) (hb : t.Places (slot root name i) above (Slot.name ⟨name, i⟩))
    (hdir : t.isDirectory (slot root name i) = true)
    (hproject : t.get? (above ++ [name]) = some .directory) :
    Passes above name t ((restore root (slot root name i)).after t) := by
  have hne := List.concat_ne_nil name above
  have hleads : t.leadsSomewhere root = true := by
    rw [Tree.leadsSomewhere, Tree.entry?, hplaces.leads hproject]
    rfl
  have hnames := (Path.names_of_name? hroot.named).1
  have hslot := names_slot (i := i) hroot.named
  obtain ⟨k, hgoes⟩ := hroot.around.reaches
  -- the path may lead through what is in the project: then the project is emptied, and that is all
  rcases hgoes.within within_clear with hstill | hlost
  · have hremove := hplaces.removeAll
      ⟨hplaces.flaw, hplaces.ends, hplaces.isName, _, k, hnames, hstill⟩ hproject
    rw [after_restore_of_removed hdir hleads hremove]
    have hgone : (t.erase (above ++ [name])).get? (above ++ [name]) = none := by
      rw [get?_erase hne, if_pos (List.prefix_refl _)]
    have hother : ∀ m, ¬ above ++ [name] <+: m → (t.erase (above ++ [name])).get? m = t.get? m :=
      fun m hm => by rw [get?_erase hne, if_neg hm]
    have herased : (t.erase (above ++ [name])).Reserves above name :=
      ⟨ht.wellFormed.erase hne, ht.isName, .inr hgone⟩
    refine (Passes.of_inside herased hother).trans ?_
    -- or through the project itself: then the slot is not found without it
    rcases hgoes.within (within_erase hne) with hgoes' | hlost
    · refine passes_copyTree herased hgone
        ⟨hplaces.flaw, hplaces.ends, hplaces.isName, _, k, hnames, hgoes'⟩
        ⟨hb.flaw, hb.ends, hb.isName, _, k, hslot, hgoes'⟩ (Places.endsOpen_child hb.isName) ?_
      rw [hother _ (not_prefix_sibling (Slot.name_ne_project ⟨name, i⟩).symm)]
      exact hb.directory_or_link hdir
    · rw [after_of_error (copyTree_of_origin_error (origin_of_lost hb.flaw hslot hlost))]
      exact .refl herased
  · rw [after_restore_of_removed hdir hleads (hplaces.removeAll_of_lost hproject hnames hlost),
      after_of_error (copyTree_of_origin_error (origin_of_lost hb.flaw hslot hlost))]
    refine .of_inside ⟨ht.wellFormed.clear, ht.isName, .inl ?_⟩ fun m hm => ?_
    · rw [get?_clear, if_neg fun h => h.2 rfl, hproject]
    · rw [get?_clear, if_neg fun h => hm h.1]

/-- Whatever putting a backup back comes to, nothing is lost beside the project. -/
theorem passes_restore (ht : t.Reserves above name) (hroot : t.Locates root above name)
    (hdots : "." ∉ root.pieces) (hdir : t.isDirectory (slot root name i) = true) :
    Passes above name t ((restore root (slot root name i)).after t) := by
  have hb := places_of_isDirectory hroot hdir
  cases hflaw : root.flaw? with
  | some e =>
    obtain ⟨failure, hrefused⟩ := copyTree_of_flaw hroot.named hflaw hdir
    rw [after_restore_of_missing hdir (Places.leadsSomewhere_of_flaw hflaw),
      after_of_error hrefused]
    exact .refl ht
  | none =>
    have hplaces := hroot.places ht.isName hdots hflaw
    rcases ht.project with hproject | hnone
    · exact passes_replace ht hroot hplaces hb hdir hproject
    · rw [after_restore_of_missing hdir (hplaces.leadsSomewhere_of_none hnone)]
      exact passes_copyTree ht hnone hplaces hb (Places.endsOpen_child hb.isName)
        (hb.directory_or_link hdir)

end Backup

/-- A restoration does nothing, or puts a slot of the project back that leads to a directory. -/
theorem Restoration.after_restoreAsking {t : Tree} {workingDirectory : Path} {o : RestorationOptions}
    {name : String} (confirm : Path → Except Failure Bool)
    (hname : (o.path.absolute workingDirectory).name? = some name) :
    (restoreAsking workingDirectory confirm o).after t = t ∨
      ∃ i, t.isDirectory (Backup.slot (o.path.absolute workingDirectory) name i) = true ∧
        (restoreAsking workingDirectory confirm o).after t =
          (Backup.restore (o.path.absolute workingDirectory)
            (Backup.slot (o.path.absolute workingDirectory) name i)).after t := by
  have hreads := reads_choose workingDirectory o t
  cases hchoose : choose workingDirectory o t with
  | error e v =>
    rw [after_of_error hchoose] at hreads
    rw [restoreAsking, after_bind_of_error hchoose]
    exact .inl hreads
  | ok found v =>
    obtain ⟨root, b⟩ := found
    obtain rfl : t = v := hreads.symm.trans (after_of_ok hchoose)
    obtain ⟨rfl, ⟨i, hbackup⟩, hdir⟩ := of_choose hchoose
    have hslot := (of_pathOf (Backup.pathOf_eq (t := t) (i := i) hname)).1
    obtain rfl := Option.some.inj (hbackup.symm.trans hslot)
    rw [restoreAsking, after_bind_of_ok hchoose]
    simp only
    have hasked := reads_ask o confirm (Backup.slot (o.path.absolute workingDirectory) name i) t
    cases hask : ask o confirm (Backup.slot (o.path.absolute workingDirectory) name i) t with
    | error e v =>
      rw [after_of_error hask] at hasked
      rw [after_bind_of_error hask]
      exact .inl hasked
    | ok confirmed v =>
      obtain rfl : t = v := hasked.symm.trans (after_of_ok hask)
      rw [after_bind_of_ok hask]
      cases confirmed with
      | false => exact .inl rfl
      | true =>
        refine .inr ⟨i, hdir, ?_⟩
        rw [Bool.not_true, if_neg Bool.false_ne_true]
        exact after_bind_pure

namespace Backup

open ManifestMigration.Tree

variable {t t₀ u v : Tree} {root b : Path} {above : Location} {name : String} {i : Nat}

/-! ### Over time -/

/-- What can happen to a project: it is backed up, a backup is put back, or it is changed inside. Each
    call is made by a path of the project, and no backup needs an index beyond the last word. -/
inductive Step (above : Location) (name : String) : Tree → Tree → Prop
  | create {t : Tree} {root : Path} (hroot : t.Locates root above name)
      (hindex : ∀ j, latest root t = .ok (some j) t → j + 1 < Text.wordLimit) :
      Step above name t ((Backup.create root).after t)
  | restore {t : Tree} {workingDirectory : Path} {o : RestorationOptions}
      (confirm : Path → Except Failure Bool) (hdots : "." ∉ workingDirectory.pieces)
      (hroot : t.Locates (o.path.absolute workingDirectory) above name) :
      Step above name t ((Restoration.restoreAsking workingDirectory confirm o).after t)
  | edit {t u : Tree} (hu : u.WellFormed) (hinside : Confined (above ++ [name]) t u) :
      Step above name t u

/-- Any number of steps. -/
abbrev Run (above : Location) (name : String) : Tree → Tree → Prop :=
  Relation.ReflTransGen (Step above name)

theorem Step.passes (h : Step above name t u) (hline : '\n' ∉ name.toList)
    (ht : t.Reserves above name) : Passes above name t u := by
  cases h with
  | create hroot hindex => exact passes_create ht hroot hline hindex
  | restore confirm hdots hroot =>
    rcases Restoration.after_restoreAsking (t := t) confirm hroot.named with hsame | ⟨i, hdir, hafter⟩
    · rw [hsame]
      exact .refl ht
    · rw [hafter]
      exact passes_restore ht hroot (Path.dot_notMem_absolute hdots) hdir
  | edit hu hinside =>
    refine .of_inside ⟨hu, ht.isName, ?_⟩ fun m hm => hinside m fun h => hm h.1
    rw [hinside _ fun h => h.2 rfl]
    exact ht.project

theorem Run.passes (h : Run above name t u) (hline : '\n' ∉ name.toList)
    (ht : t.Reserves above name) : Passes above name t u := by
  induction h with
  | refl => exact .refl ht
  | tail _ hstep ih => exact ih.trans (hstep.passes hline ih.reserves)

theorem reserves_of_directory (ht : t.WellFormed)
    (hdir : t.get? (above ++ [name]) = some .directory) : t.Reserves above name :=
  ⟨ht, ht.isName (Option.isSome_of_eq_some hdir), .inl hdir⟩

/-- A slot stays taken. -/
theorem Run.taken_subset (h : Run above name t u) (hline : '\n' ∉ name.toList)
    (ht : t.Reserves above name) : taken t above name ⊆ taken u above name := by
  rintro i ⟨n, hsome, hparse⟩
  refine ⟨n, ?_, hparse⟩
  have hsame := (h.passes hline ht).adds.get?_beside (Slot.ne_project_of_parse? hparse) hsome []
  rw [List.append_nil] at hsame
  rwa [hsame]

/-- The slot of a new backup is taken. -/
theorem BackedUp.mem_taken (h : BackedUp t u root b (above ++ [name]) above name i)
    (hname : IsName name) (hline : '\n' ∉ name.toList) : i ∈ taken u above name :=
  ⟨_, Option.isSome_of_eq_some h.directory,
    Slot.parse?_name (s := ⟨name, i⟩) hname.ne_empty hline h.fits⟩

/-- A project can be backed up by a path: it is there, and no path of what is copied is too long. -/
structure Feasible (t : Tree) (root : Path) (above : Location) (name : String) : Prop where
  directory : t.get? (above ++ [name]) = some .directory
  readable : t.Fits (above ++ [name]) root
  writable : ∀ b, next root t = .ok b t → t.Fits (above ++ [name]) (b.child "")

theorem Feasible.exists_create (h : Feasible t root above name) (ht : t.Reserves above name)
    (hroot : t.Locates root above name) (hline : '\n' ∉ name.toList)
    (hindex : ∀ j, latest root t = .ok (some j) t → j + 1 < Text.wordLimit) :
    ∃ b u, create root t = .ok b u := by
  have hflaw := (h.readable.top (Option.isSome_of_eq_some h.directory)).flaw
  have haddress := hroot.addresses ht.isName hflaw h.directory hline
  obtain ⟨b, -, u, hcreate, -⟩ :=
    Backup.exists_create ht.wellFormed haddress hindex h.readable h.writable
  exact ⟨b, u, hcreate⟩

/-- Slots never collide. At any time a new backup goes to a place where nothing was, after all slots of
    the project, and its slot is taken from then on; what is in a slot never changes; and the slot that
    is put back without a number has the greatest index of the project. A project may have the name of
    a slot of another project itself. -/
theorem slots_never_collide (ht₀ : t₀.WellFormed)
    (hdir : t₀.get? (above ++ [name]) = some .directory) (hline : '\n' ∉ name.toList)
    (hrun : Run above name t₀ t) :
    (∀ root, t.Locates root above name →
      (∀ j, latest root t = .ok (some j) t → j + 1 < Text.wordLimit) →
      (Feasible t root above name → ∃ b u, create root t = .ok b u) ∧
      ∀ b u, create root t = .ok b u →
        ∃ i, BackedUp t u root b (above ++ [name]) above name i ∧ t.leadsSomewhere b = false ∧
          ∀ v, Run above name u v → i ∈ taken v above name) ∧
    (∀ u, Run above name t u → ∀ n s, Slot.parse? n = some s → s.project = name ∨ n ≠ name →
      (t.get? (above ++ [n])).isSome →
      ∀ m, u.get? (above ++ [n] ++ m) = t.get? (above ++ [n] ++ m)) ∧
    ∀ workingDirectory p assumeYes, p.text.isEmpty = false →
      t.Locates (p.absolute workingDirectory) above name →
      (taken t above name = ∅ → Restoration.choose workingDirectory ⟨p, none, assumeYes⟩ t =
        .error (.noBackup (p.absolute workingDirectory)) t) ∧
      ∀ i, IsGreatest (taken t above name) i →
        Restoration.choose workingDirectory ⟨p, none, assumeYes⟩ t =
          if t.isDirectory (slot (p.absolute workingDirectory) name i) then
            .ok (p.absolute workingDirectory, slot (p.absolute workingDirectory) name i) t
          else .error (.backupNotFound (slot (p.absolute workingDirectory) name i)) t := by
  have ht := (hrun.passes hline (reserves_of_directory ht₀ hdir)).reserves
  refine ⟨?_, ?_, ?_⟩
  · intro root hroot hindex
    refine ⟨fun h => h.exists_create ht hroot hline hindex, fun b u hcreate => ?_⟩
    obtain ⟨i, hback⟩ := exists_backedUp_of_locates ht hroot hline hindex hcreate
    have hu := (passes_create ht hroot hline hindex).reserves
    rw [after_of_ok hcreate] at hu
    refine ⟨i, hback, hback.leadsSomewhere_eq_false, fun v hv => ?_⟩
    exact hv.taken_subset hline hu (hback.mem_taken ht.isName hline)
  · intro u hu n s hparse hother hsome m
    have hne : n ≠ name := by
      rcases hother with rfl | hne
      · exact Slot.ne_project_of_parse? hparse
      · exact hne
    exact (hu.passes hline ht).adds.get?_beside hne hsome m
  · intro workingDirectory p assumeYes hp hroot
    have hchoose := Restoration.choose_of_latest assumeYes hp hroot.named hroot.around
    constructor
    · intro hempty
      rw [hchoose, latestAmong_eq_none_iff.mpr hempty]
    · intro i hgreatest
      rw [hchoose, latestAmong_eq_some_iff.mpr hgreatest]

/-- A project beside a slot with zeros before its index, a slot of another project, and no slot. -/
def crowded : Tree := ⟨[(["w"], .directory), (["w", "demo"], .directory),
  (["w", "demo", "setup.cfg"], .file "[metadata]".toUTF8),
  (["w", ".__p2r_backup_demo_007"], .directory), (["w", ".__p2r_backup_demo_9_3"], .directory),
  (["w", ".__p2r_backup_demo_12x"], .directory)]⟩

/-- The project beside a new backup. -/
def crowdedAndBackup : Tree := ⟨crowded.entries ++ [(["w", ".__p2r_backup_demo_8"], .directory),
  (["w", ".__p2r_backup_demo_8", "setup.cfg"], .file "[metadata]".toUTF8)]⟩

theorem create_crowded :
    create ⟨"/w/demo"⟩ crowded = .ok ⟨"/w/.__p2r_backup_demo_8"⟩ crowdedAndBackup := by
  refine create_of_sorted (l := ["w", "demo"]) (e := .directory) (i := 0) (j := 1)
    (u := crowded.put ["w", ".__p2r_backup_demo_8"] .directory) ?_ ?_ ?_ ?_ ?_ ?_ <;>
  decide +kernel

/-- The backup of a project that is emptied afterwards is the one to be put back, is not changed, and is
    followed by backups with greater indices. -/
theorem slots_never_collide_of_crowded :
    Run ["w"] "demo" crowded (crowdedAndBackup.clear ["w", "demo"]) ∧
      (∃ b u, create ⟨"/w/demo"⟩ (crowdedAndBackup.clear ["w", "demo"]) = .ok b u ∧
        ∃ i, 8 < i ∧ b = slot ⟨"/w/demo"⟩ "demo" i) ∧
      (∀ u, Run ["w"] "demo" (crowdedAndBackup.clear ["w", "demo"]) u →
        u.get? ["w", ".__p2r_backup_demo_8", "setup.cfg"] = some (.file "[metadata]".toUTF8)) ∧
      Restoration.choose ⟨"/w"⟩ ⟨⟨"demo"⟩, none, true⟩ (crowdedAndBackup.clear ["w", "demo"]) =
        .ok (⟨"/w/demo"⟩, ⟨"/w/.__p2r_backup_demo_8"⟩) (crowdedAndBackup.clear ["w", "demo"]) := by
  have hroot : crowded.Locates ⟨"/w/demo"⟩ ["w"] "demo" := ⟨by decide +kernel, by decide +kernel⟩
  have hroot' : (crowdedAndBackup.clear ["w", "demo"]).Locates ⟨"/w/demo"⟩ ["w"] "demo" :=
    ⟨by decide +kernel, by decide +kernel⟩
  have hcreated : Step ["w"] "demo" crowded crowdedAndBackup := by
    have hlatest : latest ⟨"/w/demo"⟩ crowded = .ok (some 7) crowded := by decide +kernel
    have hstep := Step.create hroot fun j hj => by
      rw [hlatest] at hj
      cases hj
      decide
    rwa [after_of_ok create_crowded] at hstep
  have hrun : Run ["w"] "demo" crowded (crowdedAndBackup.clear ["w", "demo"]) :=
    (Relation.ReflTransGen.single hcreated).tail (.edit (by decide +kernel) (.clear _ _))
  have hgreatest : IsGreatest (taken (crowdedAndBackup.clear ["w", "demo"]) ["w"] "demo") 8 :=
    latestAmong_eq_some_iff.mp (by decide +kernel)
  have hdir : crowded.get? (["w"] ++ ["demo"]) = some .directory := by decide +kernel
  obtain ⟨hcreate, hkeep, hchoose⟩ :=
    slots_never_collide (by decide +kernel) hdir (by decide) hrun
  refine ⟨hrun, ?_, fun u hu => ?_, ?_⟩
  · have hlatest : latest ⟨"/w/demo"⟩ (crowdedAndBackup.clear ["w", "demo"]) =
        .ok (some 8) (crowdedAndBackup.clear ["w", "demo"]) := by decide +kernel
    have hnext : next ⟨"/w/demo"⟩ (crowdedAndBackup.clear ["w", "demo"]) =
        .ok ⟨"/w/.__p2r_backup_demo_9"⟩ (crowdedAndBackup.clear ["w", "demo"]) := by decide +kernel
    have hfeasible : Feasible (crowdedAndBackup.clear ["w", "demo"]) ⟨"/w/demo"⟩ ["w"] "demo" := by
      refine ⟨by decide +kernel, .of_entries (by decide) (by decide +kernel), fun b hb => ?_⟩
      rw [hnext] at hb
      cases hb
      exact .of_entries (by decide) (by decide +kernel)
    obtain ⟨hexists, hbacked⟩ := hcreate _ hroot' fun j hj => by
      rw [hlatest] at hj
      cases hj
      decide
    obtain ⟨b, u, hok⟩ := hexists hfeasible
    obtain ⟨i, hback, -⟩ := hbacked b u hok
    exact ⟨b, u, hok, i, hback.newest 8 hgreatest.1, hback.path⟩
  · have hsame := hkeep u hu ".__p2r_backup_demo_8" ⟨"demo", 8⟩ (by decide +kernel) (.inl rfl)
      (by decide +kernel) ["setup.cfg"]
    exact hsame.trans (by decide +kernel)
  · refine ((hchoose ⟨"/w"⟩ ⟨"demo"⟩ true (by decide) hroot').2 8 hgreatest).trans ?_
    decide +kernel

/-- A project with directories in it, one of which has the name of the project. -/
def detour : Tree := ⟨[(["w"], .directory), (["w", "demo"], .directory),
  (["w", "demo", "sub"], .directory), (["w", "demo", "demo"], .directory),
  (["w", "demo", "sub", "deep"], .directory)]⟩

/-- The project beside its first backup. -/
def detourAndBackup : Tree := ⟨detour.entries ++ [(["w", ".__p2r_backup_demo_0"], .directory),
  (["w", ".__p2r_backup_demo_0", "sub"], .directory),
  (["w", ".__p2r_backup_demo_0", "demo"], .directory),
  (["w", ".__p2r_backup_demo_0", "sub", "deep"], .directory)]⟩

/-- In the project, a link into the backup has taken the place of a directory. -/
def detoured : Tree := (detourAndBackup.erase ["w", "demo", "sub"]).put ["w", "demo", "sub"]
  (.link "../.__p2r_backup_demo_0/sub/deep")

/-- A project with two slots, of which the later has zeros before its index. -/
def padded : Tree := ⟨[(["w"], .directory), (["w", "demo"], .directory),
  (["w", ".__p2r_backup_demo_3"], .directory), (["w", ".__p2r_backup_demo_007"], .directory)]⟩

/-- When the path of a project leads through the project, the same call can be answered twice with the
    same path, and the second backup can go into the first. And a slot with zeros before its index is
    not found under the name that its index has. -/
theorem slots_collide_on_detour :
    (detour.WellFormed ∧ detour.Leads ⟨"/w/demo/sub/../../demo"⟩ ["w", "demo"] ∧
      create ⟨"/w/demo/sub/../../demo"⟩ detour =
        .ok ⟨"/w/demo/sub/../../.__p2r_backup_demo_0"⟩ detourAndBackup ∧
      detoured.WellFormed ∧ Confined ["w", "demo"] detourAndBackup detoured ∧
      create ⟨"/w/demo/sub/../../demo"⟩ detoured =
        .ok ⟨"/w/demo/sub/../../.__p2r_backup_demo_0"⟩
          (detoured.put ["w", ".__p2r_backup_demo_0", ".__p2r_backup_demo_0"] .directory) ∧
      detoured.get? ["w", ".__p2r_backup_demo_0", ".__p2r_backup_demo_0"] = none) ∧
    padded.WellFormed ∧ Slot.parse? ".__p2r_backup_demo_007" = some ⟨"demo", 7⟩ ∧
      IsGreatest (taken padded ["w"] "demo") 7 ∧
      Restoration.restoreAsking ⟨"/w"⟩ (fun _ => .ok false) ⟨⟨"demo"⟩, none, true⟩ padded =
        .error (.backupNotFound ⟨"/w/.__p2r_backup_demo_7"⟩) padded := by
  refine ⟨⟨by decide +kernel, by decide +kernel, ?_, by decide +kernel, ?_, ?_, by decide +kernel⟩,
    by decide +kernel, by decide +kernel, latestAmong_eq_some_iff.mp (by decide +kernel),
    by decide +kernel⟩
  · refine create_of_sorted (l := ["w", "demo"]) (e := .directory) (i := 0) (j := 0)
      (u := detour.put ["w", ".__p2r_backup_demo_0"] .directory) ?_ ?_ ?_ ?_ ?_ ?_ <;>
    decide +kernel
  · have hgone : Confined ["w", "demo"] detourAndBackup
        (detourAndBackup.erase (["w", "demo"] ++ ["sub"])) := .erase (List.cons_ne_nil _ _)
    exact hgone.trans (.put (m := ["sub"]) (List.cons_ne_nil _ _))
  · refine create_of_sorted (l := ["w", ".__p2r_backup_demo_0", "demo"]) (e := .directory) (i := 0)
      (j := 0) (u := detoured.put ["w", ".__p2r_backup_demo_0", ".__p2r_backup_demo_0"] .directory)
      ?_ ?_ ?_ ?_ ?_ ?_ <;>
    decide +kernel

end Backup

end ManifestMigration
