import ManifestMigration.Proofs.Filesystem.Action
import ManifestMigration.Proofs.Filesystem.Operations

/-! A copy of a directory holds what the directory holds, and nothing else changes.

    The entries are copied in an order in which each finds the directory that it goes into; which
    order that is makes no difference. Before every entry the copy is complete as far as the entries
    before it go, and an entry that is refused, because a path is too long, changes nothing. So whatever
    a copy comes to, all that changed is where the copy goes, and a copy that succeeds is complete. -/

namespace ManifestMigration

namespace Tree

variable {t u : Tree} {s d m : Location} {p source target : Path}

/-- The second tree is the first with a copy of what is at `s` put at `d`. -/
structure CopyOf (t u : Tree) (s d : Location) : Prop where
  inside : ∀ m, u.get? (d ++ m) = t.get? (s ++ m)
  outside : ∀ m, ¬ d <+: m → u.get? m = t.get? m

/-- If what is at a location had the path `p`, no limit would refuse the paths of its entries. -/
def Fits (t : Tree) (l : Location) (p : Path) : Prop :=
  ∀ m, (t.get? (l ++ m)).isSome → (m.foldl Path.child p).Fits

theorem Fits.top (h : t.Fits s p) (hsome : (t.get? s).isSome) : p.Fits :=
  h [] (by rwa [List.append_nil])

/-- It is enough to look at what is listed. -/
theorem Fits.of_entries (hs : s ≠ []) (h : ∀ e ∈ t.entries, s <+: e.1 →
    ((e.1.drop s.length).foldl Path.child p).Fits) : t.Fits s p := by
  intro m hsome
  obtain ⟨e, he⟩ := (isSome_get? (List.append_ne_nil_of_left_ne_nil hs m)).mp hsome
  have hfits := h _ he (List.prefix_append s m)
  rwa [List.drop_left] at hfits

theorem Fits.of_child_empty (ht : t.WellFormed) (hp : p.names ≠ []) (h : t.Fits s (p.child "")) :
    t.Fits s p := by
  intro m hsome
  cases m with
  | nil => exact .of_child_empty hp (h [] hsome)
  | cons n m =>
    rw [← Path.foldl_child_empty (List.cons_ne_nil n m) fun k hk => (ht.isName_of_mem hsome hk).piece]
    exact h _ hsome

/-! ### Paths into a directory -/

theorem goes_down {n : Nat} : ∀ {m l : Location}, (∀ name ∈ m, IsName name) →
    (∀ k, k <+: m → t.get? (l ++ k) = some .directory) → t.Goes n l m n (l ++ m)
  | [], l, _, _ => by
    rw [List.append_nil]
    exact .stay n l
  | name :: m, l, hnames, hdirs => by
    obtain ⟨hname, hnames⟩ := List.forall_mem_cons.mp hnames
    have hdot : name ≠ "." := by
      rintro rfl
      cases hname.named
    refine .down hdot hname.child hname.short (hdirs [name] ⟨m, rfl⟩) ?_
    have hmore := goes_down (n := n) (l := l ++ [name]) hnames fun k hk => by
      rw [List.append_assoc]
      exact hdirs _ ((List.prefix_append_right_inj [name]).mpr hk)
    rwa [List.append_assoc] at hmore

theorem names_foldl_child : ∀ {m : Location} {p : Path}, (∀ name ∈ m, IsName name) →
    (m.foldl Path.child p).names = p.names ++ m
  | [], p, _ => (List.append_nil _).symm
  | name :: m, p, h => by
    obtain ⟨hname, h⟩ := List.forall_mem_cons.mp h
    rw [List.foldl_cons, names_foldl_child h, Path.names_child hname.piece hname.named,
      List.append_assoc, List.singleton_append]

/-- Paths of directories in a directory go to them. -/
theorem Reaches.foldl (h : t.Reaches p s) (hnames : ∀ name ∈ m, IsName name)
    (hdirs : ∀ k, k <+: m → t.get? (s ++ k) = some .directory) :
    t.Reaches (m.foldl Path.child p) (s ++ m) := by
  obtain ⟨k, hgoes⟩ := h
  refine ⟨k, ?_⟩
  rw [names_foldl_child hnames]
  exact hgoes.append (goes_down hnames hdirs)

/-! ### One entry -/

/-- So far, the given entries have been copied from `s` to `d`. -/
structure Copied (t u : Tree) (s d : Location) (done : List (Location × Entry)) : Prop where
  wellFormed : u.WellFormed
  outside : ∀ m, ¬ d <+: m → u.get? m = t.get? m
  top : u.get? d = some .directory
  made : ∀ m e, (m, e) ∈ done → u.get? (d ++ m) = some e
  only : ∀ m, m ≠ [] → (u.get? (d ++ m)).isSome → ∃ e, (m, e) ∈ done

theorem Copied.put {done : List (Location × Entry)} {e : Entry} {n : String}
    (h : t.Copied u s d done) (hname : IsName n) (hdir : u.get? (d ++ m) = some .directory)
    (hvacant : u.get? (d ++ m ++ [n]) = none) (hproper : e.Proper) :
    t.Copied (u.put (d ++ m ++ [n]) e) s d (done ++ [(m ++ [n], e)]) := by
  have hput : ∀ k, (u.put (d ++ m ++ [n]) e).get? (d ++ k) =
      if k = m ++ [n] then some e else u.get? (d ++ k) := by
    intro k
    rw [get?_put (List.concat_ne_nil n _), List.append_assoc]
    simp only [List.append_cancel_left_eq]
  refine ⟨h.wellFormed.put hname hdir hvacant hproper, fun k hk => ?_, ?_, fun k f hk => ?_,
    fun k hk hsome => ?_⟩
  · rw [get?_put (List.concat_ne_nil n _), if_neg, h.outside k hk]
    rintro rfl
    exact hk ⟨m ++ [n], (List.append_assoc ..).symm⟩
  · have htop := hput []
    rwa [List.append_nil, if_neg (List.concat_ne_nil n m).symm, h.top] at htop
  · rw [hput]
    rcases List.mem_append.mp hk with hold | hlast
    · rw [if_neg, h.made k f hold]
      rintro rfl
      rw [List.append_assoc, h.made _ f hold] at hvacant
      cases hvacant
    · cases List.mem_singleton.mp hlast
      exact if_pos rfl
  · rw [hput] at hsome
    split at hsome
    case isTrue heq => exact ⟨e, heq ▸ List.mem_append_right _ (List.mem_singleton_self _)⟩
    case isFalse =>
      obtain ⟨f, hf⟩ := h.only k hk hsome
      exact ⟨f, List.mem_append_left _ hf⟩

theorem copyEntry_directory {above : Location} {n : String} (h : t.Places target above n)
    (hnone : t.get? (above ++ [n]) = none) :
    copyEntry source target .directory t = .ok 0 (t.put (above ++ [n]) .directory) := by
  have hmake : t.makeDirectories target = (.ok (), t.put (above ++ [n]) .directory) := by
    rw [h.makeDirectories, hnone]
    rfl
  exact bind_of_ok (Action.performPartly_of_ok hmake)

/-- A directory is not made under a path that is refused. -/
theorem copyEntry_directory_of_flaw {e : SystemError} (h : target.flaw? = some e)
    (hp : target.text ≠ "") :
    copyEntry source target .directory t = .error (.system target e) t :=
  bind_of_error (Action.performPartly_of_error (makeDirectories_of_flaw h hp))

/-- An entry is copied into a directory that is there, and counted unless it is one, or else a path is
    refused and nothing changes. -/
theorem copyEntry_cases {e : Entry} {name : String} {from' : Location}
    (hsource : u.Reaches source from') (hentry : u.get? (from' ++ [name]) = some e)
    (htarget : u.Reaches target d) (hnone : u.get? (d ++ [name]) = none) (hname : IsName name)
    (hproper : e.Proper) :
    copyEntry (source.child name) (target.child name) e u =
        .ok (if e = .directory then 0 else 1) (u.put (d ++ [name]) e) ∨
      ¬ ((source.child name).flaw? = none ∧ (target.child name).flaw? = none) ∧
        ∃ err, copyEntry (source.child name) (target.child name) e u = .error err u := by
  have hopen := Places.endsOpen_child (p := target) hname
  cases e with
  | directory =>
    cases hto : (target.child name).flaw? with
    | none => exact .inl (copyEntry_directory (.of_child htarget hname hto) hnone)
    | some err =>
      refine .inr ⟨fun h => (nomatch h.2), _, copyEntry_directory_of_flaw hto (Path.text_ne_empty ?_)⟩
      rw [Path.names_child hname.piece hname.named]
      exact List.concat_ne_nil name _
  | link leads =>
    by_cases hto : (target.child name).flaw? = none
    · have hmake := (Places.of_child htarget hname hto).makeLink hopen hnone hproper
      exact .inl (bind_of_ok (Action.perform_of_ok hmake))
    · obtain ⟨err, hrefused⟩ := makeLink_of_flaw (t := u) leads hto
      exact .inr ⟨fun h => hto h.2, _, bind_of_error (Action.perform_of_error hrefused)⟩
  | file content =>
    by_cases hfits : (source.child name).flaw? = none ∧ (target.child name).flaw? = none
    · have hcopy := Places.copyFile (.of_child hsource hname hfits.1) (Places.endsOpen_child hname)
        hentry (.of_child htarget hname hfits.2) hopen hnone
      exact .inl (bind_of_ok (Action.perform_of_ok hcopy))
    · obtain ⟨err, hrefused⟩ := copyFile_of_flaw (t := u) hfits
      exact .inr ⟨hfits, _, bind_of_error (Action.perform_of_error hrefused)⟩

/-- A link is not copied to where a directory is asked for. -/
theorem copyEntry_link_refused (leads : String) :
    ∃ e, copyEntry source (target.child "") (.link leads) t = .error e t := by
  obtain ⟨e, hrefused⟩ : ∃ e, t.makeLink leads (target.child "") = .error e := by
    cases hmake : t.makeLink leads (target.child "") with
    | error e => exact ⟨e, rfl⟩
    | ok u =>
      have hopen := Path.endsOpen_child_empty (flaw?_of_makeLink hmake)
      rw [not_endsOpen_of_makeLink hmake] at hopen
      cases hopen
  exact ⟨_, bind_of_error (Action.perform_of_error hrefused)⟩

/-! ### All entries -/

theorem Places.origin {above : Location} {n : String} (h : t.Places source above n)
    (hdir : t.get? (above ++ [n]) = some .directory) :
    t.origin source = .ok (above ++ [n], .directory) := by
  rw [Tree.origin, h.locate_directory false hdir, h.locate_directory true hdir]
  rfl

/-- Nothing is copied from a path that is lost. -/
theorem origin_of_lost {n : String} {before : List String} (hflaw : source.flaw? = none)
    (hnames : source.names = before ++ [n])
    (hlost : ∀ {last rest}, rest ≠ [] →
      t.walkLinks last linkLimit [] (before ++ rest) = .error .missing) :
    t.origin source = .error .missing := by
  rw [Tree.origin, Places.locate_of_lost false hflaw hnames hlost]
  rfl

/-- A copy that is to start at a link does, unless the link leads nowhere. -/
theorem Places.origin_link {above : Location} {n leads : String} (h : t.Places source above n)
    (hopen : source.endsOpen = false) (hlink : t.get? (above ++ [n]) = some (.link leads)) :
    t.origin source = .ok (above ++ [n], .link leads) ∨ ∃ e, t.origin source = .error e := by
  have hfound : t.locate false source = .ok (above ++ [n], some (.link leads)) := by
    rw [h.locate (h.steps hopen) fun hlast => absurd hlast Bool.false_ne_true, hlink]
  rw [Tree.origin, hfound]
  rcases t.locate true source with e | ⟨l, _ | e⟩
  · exact .inr ⟨e, rfl⟩
  · exact .inr ⟨.missing, rfl⟩
  · exact .inl rfl

/-- A copy starts at the directory that the path leads to, or at a link to it. -/
theorem Leads.origin_cases (h : t.Leads source s) : t.origin source = .ok (s, .directory) ∨
    ∃ l target, t.origin source = .ok (l, .link target) := by
  rw [Tree.origin, h]
  rcases h.reaches.locate_cases h.flaw with hs | ⟨l, target, hl⟩
  · rw [hs]
    exact .inl rfl
  · rw [hl]
    exact .inr ⟨l, target, rfl⟩

section
variable {visit : Tree → Location → List (Location × Entry)} {l : Location} {e : Entry} {i j : Nat}
  {v : Tree} {failure : Failure}

/-- Copies what a path names, with what is below it in the order of `visit`. -/
def copyTreeBy (visit : Tree → Location → List (Location × Entry)) (source target : Path) :
    Action Nat := do
  match ← Action.look fun t => t.origin source with
  | .error e => throw (.walk source e)
  | .ok (l, e) =>
    let entries ← Action.look fun t => visit t l
    let copied ← copyEntry source (target.child "") e
    let others ← copyEntries source target entries
    if ← Action.look fun t => t.encloses l target then throw (.system target .nameTooLong)
    return copied + others

theorem copyTreeBy_preorder : copyTreeBy preorder = copyTree := rfl

theorem copyTree_of_origin_error {err : SystemError} (h : t.origin source = .error err) :
    copyTree source target t = .error (.walk source err) t := by
  rw [copyTree, Action.look_bind, h]
  rfl

theorem copyTreeBy_of_top_error (h : t.origin source = .ok (l, e))
    (htop : copyEntry source (target.child "") e t = .error failure u) :
    copyTreeBy visit source target t = .error failure u := by
  rw [copyTreeBy, Action.look_bind, h]
  simp only
  rw [Action.look_bind, bind_of_error htop]

theorem copyTree_of_top_error (h : t.origin source = .ok (l, e))
    (htop : copyEntry source (target.child "") e t = .error failure u) :
    copyTree source target t = .error failure u := by
  rw [← copyTreeBy_preorder, copyTreeBy_of_top_error h htop]

theorem copyTreeBy_of_below_error (h : t.origin source = .ok (l, e))
    (htop : copyEntry source (target.child "") e t = .ok i u)
    (hbelow : copyEntries source target (visit t l) u = .error failure v) :
    copyTreeBy visit source target t = .error failure v := by
  rw [copyTreeBy, Action.look_bind, h]
  simp only
  rw [Action.look_bind, bind_of_ok htop, bind_of_error hbelow]

/-- What has been copied is a copy, unless it is inside of what was copied. -/
theorem copyTreeBy_of_copied (h : t.origin source = .ok (l, e))
    (htop : copyEntry source (target.child "") e t = .ok i u)
    (hbelow : copyEntries source target (visit t l) u = .ok j v) :
    copyTreeBy visit source target t =
      if v.encloses l target then .error (.system target .nameTooLong) v else .ok (i + j) v := by
  rw [copyTreeBy, Action.look_bind, h]
  simp only
  rw [Action.look_bind, bind_of_ok htop, bind_of_ok hbelow, Action.look_bind]
  cases v.encloses l target <;> rfl

theorem copyTree_of_copied (h : t.origin source = .ok (l, e))
    (htop : copyEntry source (target.child "") e t = .ok i u)
    (hbelow : copyEntries source target (t.preorder l) u = .ok j v) :
    copyTree source target t = if v.encloses l target then .error (.system target .nameTooLong) v
      else .ok (i + j) v := by
  rw [← copyTreeBy_preorder, copyTreeBy_of_copied h htop hbelow]

end

section
variable {above : Location} {a b : String} {done order : List (Location × Entry)} {e : Entry}

/-- How many of some entries are files or links. -/
def countFiles (es : List (Location × Entry)) : Nat := es.countP fun e => e.2 ≠ .directory

theorem countFiles_cons (l : Location) (e : Entry) (es : List (Location × Entry)) :
    countFiles ((l, e) :: es) = (if e = .directory then 0 else 1) + countFiles es := by
  rw [countFiles, List.countP_cons, ← countFiles, Nat.add_comm]
  by_cases he : e = .directory <;> simp [he]

/-- A directory can be copied to a place where nothing is, as far as no path is too long. -/
structure Copyable (t : Tree) (source target : Path) (s above : Location) (b : String) : Prop where
  wellFormed : t.WellFormed
  origin : t.origin source = .ok (s, .directory)
  reaches : t.Reaches source s
  place : t.Places target above b
  vacant : t.get? (above ++ [b]) = none

/-- What stands beside something is not inside it. -/
theorem not_prefix_beside (h : a ≠ b) (m : Location) : ¬ above ++ [a] <+: above ++ [b] ++ m := by
  rw [List.append_assoc, List.prefix_append_right_inj, List.singleton_append, List.cons_prefix_cons]
  exact fun hpre => h hpre.1

theorem not_prefix_sibling (h : a ≠ b) : ¬ above ++ [a] <+: above ++ [b] := by
  have hbeside : ¬ above ++ [a] <+: above ++ [b] ++ [] := not_prefix_beside h []
  rwa [List.append_nil] at hbeside

namespace Copyable

/-- What there is, is not where the copy goes. -/
theorem not_prefix (h : t.Copyable source target s above b) (hsome : (t.get? m).isSome) :
    ¬ above ++ [b] <+: m := by
  rintro ⟨k, rfl⟩
  rw [h.wellFormed.vacant h.vacant] at hsome
  cases hsome

theorem keeps (h : t.Copyable source target s above b)
    (hcopied : t.Copied u s (above ++ [b]) done) : t.Keeps u := fun m e hm _ => by
  rw [hcopied.outside m (h.not_prefix (Option.isSome_of_eq_some hm)), hm]

/-- The next entry is copied, when the directories that it is in have been copied. -/
theorem step {n : String} (h : t.Copyable source target s above b)
    (hcopied : t.Copied u s (above ++ [b]) done) (hentry : t.get? (s ++ (m ++ [n])) = some e)
    (hparents : ∀ k, k <+: m → k ≠ [] → (k, .directory) ∈ done) (hnew : ∀ e, (m ++ [n], e) ∉ done) :
    (∃ v, copyEntry ((m ++ [n]).foldl Path.child source) ((m ++ [n]).foldl Path.child target) e u =
      .ok (if e = .directory then 0 else 1) v ∧
      t.Copied v s (above ++ [b]) (done ++ [(m ++ [n], e)])) ∨
    ¬ (t.Fits s source ∧ t.Fits s target) ∧
      ∃ err, copyEntry ((m ++ [n]).foldl Path.child source) ((m ++ [n]).foldl Path.child target) e u =
        .error err u := by
  have hsome : (t.get? (s ++ (m ++ [n]))).isSome := Option.isSome_of_eq_some hentry
  have hkeeps := h.keeps hcopied
  have hnames : ∀ name ∈ m, IsName name := fun name hname =>
    h.wellFormed.isName_of_mem hsome (List.mem_append_left _ hname)
  have hname : IsName n := h.wellFormed.isName_of_mem hsome (by simp)
  have hdir : ∀ k, k <+: m → t.get? (s ++ k) = some .directory := by
    rintro k ⟨more, rfl⟩
    refine h.wellFormed.directory (m := more ++ [n]) (List.concat_ne_nil _ _) ?_
    rwa [List.append_assoc _ k, ← List.append_assoc k]
  have hsource : u.Reaches (m.foldl Path.child source) (s ++ m) :=
    (h.reaches.keep hkeeps).foldl hnames fun k hk => hkeeps _ _ (hdir k hk) nofun
  have hmade : ∀ k, k <+: m → u.get? (above ++ [b] ++ k) = some .directory := by
    intro k hk
    cases k with
    | nil => rw [List.append_nil, hcopied.top]
    | cons x k => exact hcopied.made _ _ (hparents _ hk (List.cons_ne_nil x k))
  have htarget : u.Reaches (m.foldl Path.child target) (above ++ [b] ++ m) :=
    ((h.place.keep hkeeps).leads hcopied.top).reaches.foldl hnames hmade
  have hpresent : u.get? (s ++ m ++ [n]) = some e := by
    rw [hcopied.outside _ (h.not_prefix (by rwa [List.append_assoc])), List.append_assoc, hentry]
  have hvacant : u.get? (above ++ [b] ++ m ++ [n]) = none := by
    by_contra hthere
    rw [List.append_assoc _ m] at hthere
    obtain ⟨f, hf⟩ := hcopied.only _ (List.concat_ne_nil n m) (Option.isSome_iff_ne_none.mpr hthere)
    exact hnew f hf
  have hproper : e.Proper := h.wellFormed.proper hentry
  rw [List.foldl_append, List.foldl_append]
  rcases copyEntry_cases hsource hpresent htarget hvacant hname hproper with
    hcopy | ⟨hflaw, err, hrefused⟩
  · exact .inl ⟨_, hcopy, hcopied.put hname (hmade m (List.prefix_refl m)) hvacant hproper⟩
  · refine .inr ⟨fun hfits => hflaw ?_, err, hrefused⟩
    have hfrom := (hfits.1 _ hsome).flaw
    have hto := (hfits.2 _ hsome).flaw
    rw [List.foldl_append] at hfrom hto
    exact ⟨hfrom, hto⟩

/-- What comes next in an order is new, and what it is in came before. -/
theorem next {l : Location} {todo : List (Location × Entry)} (h : t.Copyable source target s above b)
    (hvisits : t.Visits s (done ++ (l, e) :: todo)) : ∃ m n, l = m ++ [n] ∧
      t.get? (s ++ (m ++ [n])) = some e ∧ (∀ k, k <+: m → k ≠ [] → (k, .directory) ∈ done) ∧
      ∀ f, (m ++ [n], f) ∉ done := by
  have hmem : ∀ {k f}, (k, f) ∈ done ++ (l, e) :: todo ↔ k ≠ [] ∧ t.get? (s ++ k) = some f := by
    intro k f
    rw [hvisits.perm.mem_iff, h.wellFormed.mem_below]
  obtain ⟨hne, hentry⟩ := hmem.mp (List.mem_append_right _ (List.mem_cons_self ..))
  obtain ⟨m, n, rfl⟩ : ∃ m n, l = m ++ [n] := ⟨_, _, (List.dropLast_concat_getLast hne).symm⟩
  obtain ⟨-, hlast, hbefore⟩ := List.pairwise_append.mp hvisits.above
  refine ⟨m, n, rfl, hentry, ?_, fun f hf => ?_⟩
  · rintro k ⟨more, rfl⟩ hk
    have hdir : t.get? (s ++ k) = some .directory := by
      refine h.wellFormed.directory (List.concat_ne_nil n more) ?_
      rw [List.append_assoc _ k, ← List.append_assoc k, hentry]
      rfl
    refine (List.mem_append.mp (hmem.mpr ⟨hk, hdir⟩)).resolve_right fun hlater => ?_
    rcases List.mem_cons.mp hlater with heq | hlater
    · have hlength := congrArg (fun x => x.1.length) heq
      simp only [List.length_append, List.length_singleton] at hlength
      omega
    · refine (List.pairwise_cons.mp hlast).1 _ hlater ?_
      rw [List.append_assoc]
      exact List.prefix_append ..
  · exact hbefore _ hf _ (List.mem_cons_self ..) (List.prefix_refl _)

/-- The entries are copied one after another, as far as no path is too long. -/
theorem steps (h : t.Copyable source target s above b) (hvisits : t.Visits s order) :
    ∀ {todo done : List (Location × Entry)} {u : Tree}, done ++ todo = order →
      t.Copied u s (above ++ [b]) done →
      (∃ v, copyEntries source target todo u = .ok (countFiles todo) v ∧
        t.Copied v s (above ++ [b]) order) ∨
      ¬ (t.Fits s source ∧ t.Fits s target) ∧
        ∃ err v some, copyEntries source target todo u = .error err v ∧
          t.Copied v s (above ++ [b]) some
  | [], done, u, hdone, hcopied => by
    rw [List.append_nil] at hdone
    exact .inl ⟨u, rfl, hdone ▸ hcopied⟩
  | (l, e) :: todo, done, u, hdone, hcopied => by
    obtain ⟨m, n, rfl, hentry, hparents, hnew⟩ := h.next (hdone ▸ hvisits)
    rcases h.step hcopied hentry hparents hnew with ⟨v, hfirst, hnext⟩ | ⟨hfits, err, hrefused⟩
    · rcases h.steps hvisits (by rw [List.append_assoc]; exact hdone) hnext with
        ⟨w, hrest, hall⟩ | ⟨hfits, err, w, some, hrest, hsome⟩
      · refine .inl ⟨w, ?_, hall⟩
        rw [copyEntries, bind_of_ok hfirst, bind_of_ok hrest, countFiles_cons]
        rfl
      · refine .inr ⟨hfits, err, w, some, ?_, hsome⟩
        rw [copyEntries, bind_of_ok hfirst, bind_of_error hrest]
    · refine .inr ⟨hfits, err, u, done, ?_, hcopied⟩
      rw [copyEntries, bind_of_error hrefused]

theorem start (h : t.Copyable source target s above b) :
    t.Copied (t.put (above ++ [b]) .directory) s (above ++ [b]) [] := by
  have hb := List.concat_ne_nil b above
  have habove : t.get? above = some .directory := by
    obtain ⟨_, k, -, hgoes⟩ := h.place.goes
    exact hgoes.rooted t.rooted_nil above (List.prefix_refl above)
  refine ⟨h.wellFormed.put h.place.isName habove h.vacant trivial, fun m hm => ?_, ?_,
    fun m e he => (nomatch he), fun m hm hsome => ?_⟩
  · rw [get?_put hb, if_neg fun heq : m = above ++ [b] => hm (heq ▸ List.prefix_refl m)]
  · rw [get?_put hb, if_pos rfl]
  · rw [get?_put hb, if_neg fun heq => hm (List.append_right_eq_self.mp heq),
      h.wellFormed.vacant h.vacant] at hsome
    cases hsome

/-- What has been copied is all that is there. -/
theorem copyOf (h : t.Copyable source target s above b) (hvisits : t.Visits s order)
    (hcopied : t.Copied u s (above ++ [b]) order) : t.CopyOf u s (above ++ [b]) := by
  have hmem : ∀ {k f}, (k, f) ∈ order ↔ k ≠ [] ∧ t.get? (s ++ k) = some f := by
    intro k f
    rw [hvisits.perm.mem_iff, h.wellFormed.mem_below]
  refine ⟨fun m => ?_, hcopied.outside⟩
  cases m with
  | nil => rw [List.append_nil, List.append_nil, hcopied.top, h.reaches.directory]
  | cons n k =>
    cases hentry : t.get? (s ++ n :: k) with
    | some e => exact hcopied.made _ _ (hmem.mpr ⟨List.cons_ne_nil n k, hentry⟩)
    | none =>
      by_contra hmade
      obtain ⟨e, he⟩ := hcopied.only _ (List.cons_ne_nil n k) (Option.isSome_iff_ne_none.mpr hmade)
      rw [hmem, hentry] at he
      cases he.2

/-- Whether what has been copied is inside of what was copied. -/
theorem encloses_eq (h : t.Copyable source target s above b)
    (hcopied : t.Copied u s (above ++ [b]) done) :
    u.encloses s target = true ↔ s <+: above ++ [b] := by
  have hne : above ++ [b] ≠ s := by
    rintro rfl
    have hdir := h.reaches.directory
    rw [h.vacant] at hdir
    cases hdir
  have hleads : u.Leads target (above ++ [b]) := (h.place.keep (h.keeps hcopied)).leads hcopied.top
  rw [encloses, hleads]
  simp [hne]

/-- Whatever a copy comes to, all that changed is where it goes, and if anything did, there is a
    directory. It is complete when it succeeds, and it fails only for a path that is too long, or
    inside of what is copied. -/
theorem copyTreeBy_cases {visit : Tree → Location → List (Location × Entry)}
    (h : t.Copyable source target s above b) (hvisits : t.Visits s (visit t s)) :
    (∃ u, copyTreeBy visit source target t = .ok (countFiles (t.below s)) u ∧
      t.CopyOf u s (above ++ [b]) ∧ u.WellFormed ∧ ¬ s <+: above ++ [b]) ∨
    ¬ (t.Fits s source ∧ t.Fits s (target.child "") ∧ ¬ s <+: above ++ [b]) ∧
      ∃ e u, copyTreeBy visit source target t = .error e u ∧ u.WellFormed ∧
        (∀ m, ¬ above ++ [b] <+: m → u.get? m = t.get? m) ∧
        (u = t ∨ u.get? (above ++ [b]) = some .directory) := by
  cases hflaw : (target.child "").flaw? with
  | some e =>
    have htop : copyEntry source (target.child "") .directory t =
        .error (.system (target.child "") e) t := by
      refine copyEntry_directory_of_flaw hflaw (Path.text_ne_empty ?_)
      rw [Path.names_child_empty]
      exact h.place.names_ne_nil
    refine .inr ⟨fun hfits => ?_, _, t, copyTreeBy_of_top_error h.origin htop, h.wellFormed,
      fun _ _ => rfl, .inl rfl⟩
    have hnone := (hfits.2.1.top (Option.isSome_of_eq_some h.reaches.directory)).flaw
    rw [hflaw] at hnone
    cases hnone
  | none =>
    have htop : copyEntry source (target.child "") .directory t = .ok 0 _ :=
      copyEntry_directory (h.place.child_empty hflaw) h.vacant
    rcases h.steps hvisits (List.nil_append _) h.start with
      ⟨u, hbelow, hcopied⟩ | ⟨hfits, err, u, some, hbelow, hcopied⟩
    · have hcopy := copyTreeBy_of_copied h.origin htop hbelow
      by_cases hinside : s <+: above ++ [b]
      · rw [(h.encloses_eq hcopied).mpr hinside, if_pos rfl] at hcopy
        exact .inr ⟨fun hfits => hfits.2.2 hinside, _, u, hcopy, hcopied.wellFormed, hcopied.outside,
          .inr hcopied.top⟩
      · have hcount : countFiles (visit t s) = countFiles (t.below s) := hvisits.perm.countP_eq _
        rw [if_neg (mt (h.encloses_eq hcopied).mp hinside), Nat.zero_add, hcount] at hcopy
        exact .inl ⟨u, hcopy, h.copyOf hvisits hcopied, hcopied.wellFormed, hinside⟩
    · refine .inr ⟨fun hall => hfits ⟨hall.1, ?_⟩, err, u,
        copyTreeBy_of_below_error h.origin htop hbelow, hcopied.wellFormed, hcopied.outside,
        .inr hcopied.top⟩
      exact hall.2.1.of_child_empty h.wellFormed h.place.names_ne_nil

theorem copyTree_cases (h : t.Copyable source target s above b) :
    (∃ i u, copyTree source target t = .ok i u ∧ t.CopyOf u s (above ++ [b]) ∧ u.WellFormed ∧
      ¬ s <+: above ++ [b]) ∨
    ¬ (t.Fits s source ∧ t.Fits s (target.child "") ∧ ¬ s <+: above ++ [b]) ∧
      ∃ e u, copyTree source target t = .error e u ∧ u.WellFormed ∧
        (∀ m, ¬ above ++ [b] <+: m → u.get? m = t.get? m) ∧
        (u = t ∨ u.get? (above ++ [b]) = some .directory) :=
  (h.copyTreeBy_cases (h.wellFormed.visits_preorder s)).imp_left fun hcopy => ⟨_, hcopy⟩

/-- A directory of which no path is too long is copied, with all that is in it, in whatever order. -/
theorem copyTreeBy {visit : Tree → Location → List (Location × Entry)}
    (h : t.Copyable source target s above b) (hvisits : t.Visits s (visit t s))
    (hsource : t.Fits s source) (htarget : t.Fits s (target.child ""))
    (hbeside : ¬ s <+: above ++ [b]) :
    ∃ u, copyTreeBy visit source target t = .ok (countFiles (t.below s)) u ∧
      t.CopyOf u s (above ++ [b]) ∧ u.WellFormed := by
  rcases h.copyTreeBy_cases hvisits with ⟨u, hcopy, hcopyOf, hu, -⟩ | ⟨hfits, -⟩
  · exact ⟨u, hcopy, hcopyOf, hu⟩
  · exact absurd ⟨hsource, htarget, hbeside⟩ hfits

theorem copyTree (h : t.Copyable source target s above b) (hsource : t.Fits s source)
    (htarget : t.Fits s (target.child "")) (hbeside : ¬ s <+: above ++ [b]) :
    ∃ i u, copyTree source target t = .ok i u ∧ t.CopyOf u s (above ++ [b]) := by
  obtain ⟨u, hcopy, hcopyOf, -⟩ :=
    h.copyTreeBy (h.wellFormed.visits_preorder s) hsource htarget hbeside
  exact ⟨_, u, hcopy, hcopyOf⟩

end Copyable

end

end Tree

end ManifestMigration
