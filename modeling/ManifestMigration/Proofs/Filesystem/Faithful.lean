import ManifestMigration.Proofs.Filesystem.Copy

/-! A real directory is copied to a place where nothing is, whatever is in it.

    The order in which its entries are listed makes no difference, as long as each directory comes
    before its contents: the copy is the same, nothing else changes, and the answer is the number of
    files and links. Only the limits of a file system can stop it: the path of an entry of the copy can
    be too long although that of the entry is not, because the path of the copy is longer. -/

namespace ManifestMigration

namespace Tree

variable {t u : Tree} {s d above : Location} {b : String} {source target : Path} {i : Nat}

/-- A directory can be copied to where nothing is, in a directory that is there. -/
theorem copyable_of_locate (ht : t.WellFormed)
    (hsource : t.locate false source = .ok (s, some .directory))
    (htarget : t.locateClosed target = .ok (d, none)) :
    ∃ above b, d = above ++ [b] ∧ t.Copyable source target s above b := by
  have hleads := leads_of_locate hsource
  obtain ⟨above, b, rfl, hplaces⟩ := Places.exists_of_locateClosed htarget
  have hvacant : t.get? (above ++ [b]) = none := by
    rw [hplaces.locateClosed] at htarget
    exact (Prod.mk.inj (Except.ok.inj htarget)).2
  have horigin : t.origin source = .ok (s, .directory) := by
    rw [origin, hsource, hleads]
    rfl
  exact ⟨above, b, rfl, ht, horigin, hleads.reaches, hplaces, hvacant⟩

/-- A directory that is no link is copied to where nothing is, as long as that is outside of it and no
    path is too long. -/
theorem copyTree_eq_ok_of_fits (ht : t.WellFormed)
    (hsource : t.locate false source = .ok (s, some .directory))
    (htarget : t.locateClosed target = .ok (d, none)) (houtside : ¬ s <+: d)
    (hfrom : t.Fits s source) (hto : t.Fits s (target.child "")) :
    (∃ u, copyTree source target t = .ok (countFiles (t.below s)) u ∧ t.CopyOf u s d ∧
      u.WellFormed) ∧
    ∀ visit, t.Visits s (visit t s) →
      ∃ u, copyTreeBy visit source target t = .ok (countFiles (t.below s)) u ∧ t.CopyOf u s d ∧
        u.WellFormed := by
  obtain ⟨above, b, rfl, h⟩ := copyable_of_locate ht hsource htarget
  refine ⟨?_, fun visit hvisits => h.copyTreeBy hvisits hfrom hto houtside⟩
  exact h.copyTreeBy (ht.visits_preorder s) hfrom hto houtside

/-- A directory with a file, an empty directory, and links: to a directory, to itself, out of the
    directory and to nothing. -/
def gallery : Tree := ⟨[
  (["w"], .directory),
  (["w", "a"], .directory),
  (["w", "a", "art"], .directory),
  (["w", "a", "art", "f"], .file ⟨#[104, 105]⟩),
  (["w", "a", "art", "self"], .link "self"),
  (["w", "a", "art", "up"], .link ".."),
  (["w", "a", "bare"], .directory),
  (["w", "a", "bench"], .link "art"),
  (["w", "a", "exit"], .link "/w/out"),
  (["w", "a", "lost"], .link "nowhere"),
  (["w", "out"], .file ⟨#[]⟩)]⟩

/-- It is listed with the contents of each directory right after it. -/
theorem copyTree_gallery :
    (gallery.WellFormed ∧ gallery.locate false ⟨"/w/a"⟩ = .ok (["w", "a"], some .directory) ∧
      gallery.locateClosed ⟨"/w/b/"⟩ = .ok (["w", "b"], none) ∧ ¬ ["w", "a"] <+: ["w", "b"] ∧
      gallery.Fits ["w", "a"] ⟨"/w/a"⟩ ∧ gallery.Fits ["w", "a"] (Path.child ⟨"/w/b/"⟩ "") ∧
      gallery.Visits ["w", "a"] (gallery.below ["w", "a"])) ∧
    (∃ u, copyTree ⟨"/w/a"⟩ ⟨"/w/b/"⟩ gallery = .ok 6 u ∧
      gallery.CopyOf u ["w", "a"] ["w", "b"] ∧ u.WellFormed) ∧
    ∃ u, copyTreeBy below ⟨"/w/a"⟩ ⟨"/w/b/"⟩ gallery = .ok 6 u ∧
      gallery.CopyOf u ["w", "a"] ["w", "b"] ∧ u.WellFormed := by
  have hwell : gallery.WellFormed := by decide
  have hsource : gallery.locate false ⟨"/w/a"⟩ = .ok (["w", "a"], some .directory) := by decide
  have htarget : gallery.locateClosed ⟨"/w/b/"⟩ = .ok (["w", "b"], none) := by decide
  have houtside : ¬ ["w", "a"] <+: ["w", "b"] := by decide
  have hfrom : gallery.Fits ["w", "a"] ⟨"/w/a"⟩ := .of_entries (by decide) (by decide)
  have hto : gallery.Fits ["w", "a"] (Path.child ⟨"/w/b/"⟩ "") := .of_entries (by decide) (by decide)
  have hvisits : gallery.Visits ["w", "a"] (gallery.below ["w", "a"]) := ⟨.refl _, by decide⟩
  have hcount : countFiles (gallery.below ["w", "a"]) = 6 := by decide
  obtain ⟨hcopy, hany⟩ := copyTree_eq_ok_of_fits hwell hsource htarget houtside hfrom hto
  have hlisted := hany below hvisits
  rw [hcount] at hcopy hlisted
  exact ⟨⟨hwell, hsource, htarget, houtside, hfrom, hto, hvisits⟩, hcopy, hlisted⟩

/-! ### Paths that are too long -/

theorem flaw?_of_copyEntry {e : Entry} (hp : target.text ≠ "")
    (h : copyEntry source target e t = .ok i u) : target.flaw? = none := by
  by_contra hflaw
  cases e with
  | directory =>
    obtain ⟨err, herr⟩ := Option.ne_none_iff_exists'.mp hflaw
    rw [copyEntry_directory_of_flaw herr hp] at h
    cases h
  | link leads =>
    obtain ⟨err, herr⟩ := makeLink_of_flaw (t := t) leads hflaw
    rw [copyEntry, bind_of_error (Action.perform_of_error herr)] at h
    cases h
  | file content =>
    have hboth : ¬ (source.flaw? = none ∧ target.flaw? = none) := fun hfits => hflaw hfits.2
    obtain ⟨err, herr⟩ := copyFile_of_flaw (t := t) hboth
    rw [copyEntry, bind_of_error (Action.perform_of_error herr)] at h
    cases h

theorem flaw?_of_copyEntries : ∀ {es : List (Location × Entry)} {t u : Tree} {i : Nat},
    (∀ e ∈ es, (e.1.foldl Path.child target).text ≠ "") →
    copyEntries source target es t = .ok i u → ∀ e ∈ es, (e.1.foldl Path.child target).flaw? = none
  | [], _, _, _, _, _ => by simp
  | (l, e) :: es, t, u, i, htext, h => by
    obtain ⟨hl, hes⟩ := List.forall_mem_cons.mp htext
    obtain ⟨j, v, hfirst, hrest⟩ := exists_of_bind_eq_ok h
    obtain ⟨k, w, hothers, -⟩ := exists_of_bind_eq_ok hrest
    exact List.forall_mem_cons.mpr ⟨flaw?_of_copyEntry hl hfirst, flaw?_of_copyEntries hes hothers⟩

/-- No path of a copy that succeeds is too long. -/
theorem Copyable.fits_of_copyTree (h : t.Copyable source target s above b)
    (hcopy : ManifestMigration.copyTree source target t = .ok i u) : t.Fits s target := by
  have hname : ∀ {m}, (t.get? (s ++ m)).isSome → ∀ n ∈ m, IsName n := fun hsome n hn =>
    h.wellFormed.isName_of_mem hsome hn
  have hentries : ∃ v w j, copyEntries source target (t.preorder s) v = .ok j w := by
    rw [ManifestMigration.copyTree, Action.look_bind, h.origin] at hcopy
    simp only at hcopy
    rw [Action.look_bind] at hcopy
    obtain ⟨k, v, -, hrest⟩ := exists_of_bind_eq_ok hcopy
    obtain ⟨j, w, hbelow, -⟩ := exists_of_bind_eq_ok hrest
    exact ⟨v, w, j, hbelow⟩
  obtain ⟨v, w, j, hentries⟩ := hentries
  have hmem : ∀ {e}, e ∈ t.preorder s ↔ e.1 ≠ [] ∧ t.get? (s ++ e.1) = some e.2 := by
    intro e
    rw [(h.wellFormed.visits_preorder s).perm.mem_iff, ← h.wellFormed.mem_below]
  have htext : ∀ e ∈ t.preorder s, (e.1.foldl Path.child target).text ≠ "" := by
    intro e he
    obtain ⟨hne, hentry⟩ := hmem.mp he
    refine Path.text_ne_empty ?_
    rw [names_foldl_child (hname (Option.isSome_of_eq_some hentry))]
    exact List.append_ne_nil_of_right_ne_nil _ hne
  have hflaw := flaw?_of_copyEntries htext hentries
  intro m hsome
  constructor
  · cases m with
    | nil => exact h.place.flaw
    | cons n m =>
      obtain ⟨e, he⟩ := Option.isSome_iff_exists.mp hsome
      exact hflaw (n :: m, e) (hmem.mpr ⟨List.cons_ne_nil n m, he⟩)
  · intro n hn
    rw [names_foldl_child (hname hsome)] at hn
    rcases List.mem_append.mp hn with hn | hn
    · exact h.place.short hn
    · exact (hname hsome n hn).short

/-- What a path grows by when names of one length are put after it. -/
theorem utf8ByteSize_foldl_child {k : Nat} : ∀ {m : Location} {p : Path},
    (∀ n ∈ m, IsName n ∧ n.utf8ByteSize = k) → p.text ≠ "" → p.endsOpen = false →
    (m.foldl Path.child p).text.utf8ByteSize = p.text.utf8ByteSize + m.length * (k + 1)
  | [], _, _, _, _ => by simp
  | n :: m, p, hm, hp, hopen => by
    obtain ⟨⟨hn, hsize⟩, hm⟩ := List.forall_mem_cons.mp hm
    have hne : p.text.isEmpty = false := by simpa using hp
    have htext : (p.child n).text = p.text ++ "/" ++ n := by
      rw [Path.text_child hn.piece, hne, hopen, Bool.or_false, if_neg Bool.false_ne_true]
    have hchild : (p.child n).text ≠ "" := by
      refine Path.text_ne_empty ?_
      rw [Path.names_child hn.piece hn.named]
      exact List.concat_ne_nil n _
    rw [List.foldl_cons, utf8ByteSize_foldl_child hm hchild (Places.endsOpen_child hn), htext,
      String.utf8ByteSize_append, String.utf8ByteSize_append, hsize, List.length_cons, Nat.succ_mul]
    have hslash : "/".utf8ByteSize = 1 := rfl
    omega

/-- Directories of the same name, one in another. -/
def nested (name : String) : Nat → Tree
  | 0 => ⟨[(["a"], .directory)]⟩
  | k + 1 => (nested name k).put ("a" :: List.replicate k name ++ [name]) .directory

theorem wellFormed_nested {n : String} (hn : IsName n) (k : Nat) : (nested n k).WellFormed ∧
    (nested n k).get? ("a" :: List.replicate k n) = some .directory ∧
    ∀ l, ((nested n k).get? l).isSome → l = [] ∨ ∃ i ≤ k, l = "a" :: List.replicate i n := by
  induction k with
  | zero =>
    have hone : Tree.WellFormed ⟨[(["a"], .directory)]⟩ := by decide
    refine ⟨hone, rfl, fun l hl => ?_⟩
    cases l with
    | nil => exact .inl rfl
    | cons a l =>
      rw [nested, isSome_get? (List.cons_ne_nil a l)] at hl
      obtain ⟨e, he⟩ := hl
      cases List.mem_singleton.mp he
      exact .inr ⟨0, Nat.le_refl 0, rfl⟩
  | succ k ih =>
    obtain ⟨hwell, htop, hall⟩ := ih
    have hne : "a" :: List.replicate k n ++ [n] ≠ [] := List.concat_ne_nil _ _
    have hsucc : "a" :: List.replicate (k + 1) n = "a" :: List.replicate k n ++ [n] := by
      rw [List.replicate_succ', List.cons_append]
    have hnew : (nested n k).get? ("a" :: List.replicate k n ++ [n]) = none := by
      by_contra hsome
      rcases hall _ (Option.isSome_iff_ne_none.mpr hsome) with hnil | ⟨i, hi, heq⟩
      · exact hne hnil
      · have hlength := congrArg List.length heq
        simp at hlength
        omega
    refine ⟨hwell.put hn htop hnew trivial, ?_, fun l hl => ?_⟩
    · rw [nested, get?_put hne, if_pos hsucc]
    · rw [nested, get?_put hne] at hl
      split at hl
      case isTrue heq => exact .inr ⟨k + 1, Nat.le_refl _, by rw [heq, hsucc]⟩
      case isFalse =>
        exact (hall l hl).imp_right fun ⟨i, hi, heq⟩ => ⟨i, Nat.le_succ_of_le hi, heq⟩

/-- A name as long as a name can be. -/
def longName (c : Char) : String := String.ofList (List.replicate nameLimit c)

theorem utf8ByteSize_replicate (c : Char) (k : Nat) :
    (String.ofList (List.replicate k c)).utf8ByteSize = k * c.utf8Size := by
  induction k with
  | zero => simp
  | succ k ih =>
    have hpush : String.ofList (List.replicate (k + 1) c) =
        (String.ofList (List.replicate k c)).push c := by
      rw [← String.toList_inj, String.toList_push, String.toList_ofList, String.toList_ofList,
        List.replicate_succ']
    rw [hpush, String.utf8ByteSize_push, ih, Nat.succ_mul]

theorem utf8ByteSize_longName {c : Char} (hc : c.utf8Size = 1) :
    (longName c).utf8ByteSize = nameLimit := by
  rw [longName, utf8ByteSize_replicate, hc, Nat.mul_one]

theorem isName_longName {c : Char} (hsize : c.utf8Size = 1) (hslash : c ≠ '/') (hnul : c ≠ '\x00') :
    IsName (longName c) := by
  have hlength := utf8ByteSize_longName hsize
  have hne : ∀ {name : String}, name.utf8ByteSize < nameLimit → longName c ≠ name := by
    rintro name hname rfl
    omega
  refine ⟨?_, hne (by decide), fun h => hslash ?_, fun h => hnul ?_, hlength.le⟩
  · rw [Path.isIdle, Bool.or_eq_false_iff]
    exact ⟨beq_eq_false_iff_ne.mpr (hne (by decide)), beq_eq_false_iff_ne.mpr (hne (by decide))⟩
  all_goals
    rw [longName, String.toList_ofList, List.mem_replicate] at h
    exact h.2.symm

/-- The copy of fifteen nested directories has a path that is one byte too long, and is refused. -/
theorem copyTree_nested_ne_ok :
    (nested (longName 'c') 15).WellFormed ∧
    (nested (longName 'c') 15).locate false ⟨"/a"⟩ = .ok (["a"], some .directory) ∧
    (nested (longName 'c') 15).locateClosed (Path.child ⟨"/"⟩ (longName 'b')) =
      .ok ([longName 'b'], none) ∧
    ¬ ["a"] <+: [longName 'b'] ∧
    ∀ n u, copyTree ⟨"/a"⟩ (Path.child ⟨"/"⟩ (longName 'b')) (nested (longName 'c') 15) ≠ .ok n u := by
  have hb : IsName (longName 'b') := isName_longName rfl (by decide) (by decide)
  have hc : IsName (longName 'c') := isName_longName rfl (by decide) (by decide)
  have hbsize : (longName 'b').utf8ByteSize = nameLimit := utf8ByteSize_longName rfl
  have hcsize : (longName 'c').utf8ByteSize = nameLimit := utf8ByteSize_longName rfl
  obtain ⟨hwell, htop, hall⟩ := wellFormed_nested hc 15
  have hroot : (nested (longName 'c') 15).Reaches ⟨"/"⟩ [] := ⟨_, .stay _ _⟩
  have hdir : (nested (longName 'c') 15).get? ["a"] = some .directory :=
    hwell.directory (List.cons_ne_nil _ _) (Option.isSome_of_eq_some htop)
  have hsource : (nested (longName 'c') 15).locate false ⟨"/a"⟩ = .ok (["a"], some .directory) := by
    have ha : (⟨"/a"⟩ : Path) = Path.child ⟨"/"⟩ "a" := by decide
    have hplaces : (nested (longName 'c') 15).Places (Path.child ⟨"/"⟩ "a") [] "a" :=
      .of_child hroot (by decide) (by decide)
    exact ha ▸ hplaces.locate_directory false hdir
  have houtside : ¬ ["a"] <+: [longName 'b'] := by
    rw [List.cons_prefix_cons]
    rintro ⟨heq, -⟩
    have hshort := congrArg String.utf8ByteSize heq
    rw [hbsize] at hshort
    cases hshort
  have hvacant : (nested (longName 'c') 15).get? [longName 'b'] = none := by
    by_contra hsome
    rcases hall _ (Option.isSome_iff_ne_none.mpr hsome) with hnil | ⟨i, -, heq⟩
    · cases hnil
    · refine houtside ?_
      rw [heq]
      exact List.prefix_append ["a"] _
  -- the path of the copy has 256 bytes, and each name below puts as many after it
  have htext : (Path.child ⟨"/"⟩ (longName 'b')).text = "/" ++ longName 'b' := by
    have hopen : Path.endsOpen ⟨"/"⟩ = true := by decide
    rw [Path.text_child hb.piece, hopen, Bool.or_true, if_pos rfl, String.append_empty]
  have hflaw : (Path.child ⟨"/"⟩ (longName 'b')).flaw? = none := by
    rw [Path.flaw?_eq_none_iff, htext]
    refine ⟨?_, ?_, ?_⟩
    · rw [String.toList_append, List.mem_append]
      rintro (hslash | hname)
      · exact absurd hslash (by decide)
      · exact hb.proper hname
    · simp
    · rw [String.utf8ByteSize_append, hbsize]
      decide
  have htarget : (nested (longName 'c') 15).locateClosed (Path.child ⟨"/"⟩ (longName 'b')) =
      .ok ([longName 'b'], none) := by
    rw [(Places.of_child hroot hb hflaw).locateClosed, List.nil_append, hvacant]
  refine ⟨hwell, hsource, htarget, houtside, fun n u hcopy => ?_⟩
  obtain ⟨above, b, -, h⟩ := copyable_of_locate hwell hsource htarget
  have hfits := (h.fits_of_copyTree hcopy (List.replicate 15 (longName 'c'))
    (Option.isSome_of_eq_some htop)).flaw
  have hnames : ∀ name ∈ List.replicate 15 (longName 'c'),
      IsName name ∧ name.utf8ByteSize = nameLimit := fun name hname =>
    (List.mem_replicate.mp hname).2 ▸ ⟨hc, hcsize⟩
  have hlimit := (Path.flaw?_eq_none_iff.mp hfits).2.2
  have hslash : "/".utf8ByteSize = 1 := rfl
  rw [utf8ByteSize_foldl_child hnames (Path.flaw?_eq_none_iff.mp hflaw).2.1 (Places.endsOpen_child hb),
    List.length_replicate, htext, String.utf8ByteSize_append, hslash, hbsize, nameLimit,
    pathLimit] at hlimit
  omega

end Tree

end ManifestMigration
