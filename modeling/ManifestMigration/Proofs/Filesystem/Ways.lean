import ManifestMigration.Proofs.Filesystem.Resolution

/-! Which ways stay when a file is written or removed.

    A file has nothing below it, and a link that leads to a file leads to no directory, so no way to a
    directory goes through either. Writing a file over another one changes where no path leads. -/

namespace ManifestMigration

/-- What is there, apart from what is in a file. -/
def Entry.emptied : Entry → Entry
  | .file _ => .file ByteArray.empty
  | e => e

namespace Tree

variable {t u : Tree} {last : Bool} {n k i : Nat} {l m x d : Location} {ss rest : List String}
  {s name : String} {p : Path}

/-! ### Directories on the way -/

/-- A location is a directory, and so are all locations above it. -/
def Rooted (t : Tree) (l : Location) : Prop := ∀ k, k <+: l → t.get? k = some .directory

theorem rooted_nil (t : Tree) : t.Rooted [] := by
  intro k hk
  rw [List.prefix_nil.mp hk, get?_nil]

theorem Rooted.dropLast (h : t.Rooted l) : t.Rooted l.dropLast :=
  fun k hk => h k (hk.trans (List.dropLast_prefix l))

theorem Rooted.concat (h : t.Rooted l) (hdir : t.get? (l ++ [s]) = some .directory) :
    t.Rooted (l ++ [s]) := by
  intro k hk
  rcases List.prefix_concat_iff.mp hk with rfl | hk
  · exact hdir
  · exact h k hk

/-- A way ends at a directory below directories. -/
theorem Goes.rooted (h : t.Goes n l ss k m) (hl : t.Rooted l) : t.Rooted m := by
  induction h with
  | stay => exact hl
  | dot _ ih => exact ih hl
  | up _ ih => exact ih hl.dropLast
  | down _ _ _ hdir _ ih => exact ih (hl.concat hdir)
  | across _ _ _ _ _ ih =>
    refine ih ?_
    split
    · exact t.rooted_nil
    · exact hl

theorem Reaches.directory (h : t.Reaches p d) : t.get? d = some .directory := by
  obtain ⟨k, hgoes⟩ := h
  exact hgoes.rooted t.rooted_nil d (List.prefix_refl d)

/-- A way is cut where its steps are. -/
theorem Goes.split (h : t.Goes n l (ss ++ rest) k m) :
    ∃ i a, t.Goes n l ss i a ∧ t.Goes i a rest k m := by
  generalize hall : ss ++ rest = all at h
  have hstart : ∀ {n k l m}, t.Goes n l rest k m → ∃ i a, t.Goes n l [] i a ∧ t.Goes i a rest k m :=
    fun {n _ l _} h => ⟨n, l, .stay n l, h⟩
  induction h generalizing ss with
  | stay n l =>
    obtain ⟨rfl, rfl⟩ := List.append_eq_nil_iff.mp hall
    exact hstart (.stay n l)
  | dot hgoes ih =>
    rcases List.append_eq_cons_iff.mp hall with ⟨rfl, rfl⟩ | ⟨ss, rfl, rfl⟩
    · exact hstart (.dot hgoes)
    · obtain ⟨i, a, hfirst, hthen⟩ := ih rfl
      exact ⟨i, a, .dot hfirst, hthen⟩
  | up hgoes ih =>
    rcases List.append_eq_cons_iff.mp hall with ⟨rfl, rfl⟩ | ⟨ss, rfl, rfl⟩
    · exact hstart (.up hgoes)
    · obtain ⟨i, a, hfirst, hthen⟩ := ih rfl
      exact ⟨i, a, .up hfirst, hthen⟩
  | down hdot hup hshort hdir hgoes ih =>
    rcases List.append_eq_cons_iff.mp hall with ⟨rfl, rfl⟩ | ⟨ss, rfl, rfl⟩
    · exact hstart (.down hdot hup hshort hdir hgoes)
    · obtain ⟨i, a, hfirst, hthen⟩ := ih rfl
      exact ⟨i, a, .down hdot hup hshort hdir hfirst, hthen⟩
  | across hdot hup hshort hlink hgoes ih =>
    rcases List.append_eq_cons_iff.mp hall with ⟨rfl, rfl⟩ | ⟨ss, rfl, rfl⟩
    · exact hstart (.across hdot hup hshort hlink hgoes)
    · obtain ⟨i, a, hfirst, hthen⟩ := ih (List.append_assoc ..)
      exact ⟨i, a, .across hdot hup hshort hlink hfirst, hthen⟩

/-- A way that is followed without its last link ends at the directory, or at the link. -/
theorem Goes.walkLinks_cases (h : t.Goes n l ss k m) :
    t.walkLinks false n l ss = .ok (m, some .directory) ∨
      ∃ x target, t.walkLinks false n l ss = .ok (x, some (.link target)) := by
  induction h with
  | stay n l => exact .inl (walkLinks_nil ..)
  | dot _ ih => rwa [walkLinks_dot]
  | up _ ih => rwa [walkLinks_up]
  | down hdot hup hshort hdir _ ih =>
    rw [walkLinks_name hdot hup, if_neg (Nat.not_lt.mpr hshort), hdir]
    exact ih
  | @across n k l m s ss target hdot hup hshort hlink _ ih =>
    rw [walkLinks_name hdot hup, if_neg (Nat.not_lt.mpr hshort), hlink]
    cases ss with
    | nil => exact .inr ⟨_, target, rfl⟩
    | cons s' ss => exact ih

/-- The path of a directory names it, or a link to it. -/
theorem Reaches.locate_cases (h : t.Reaches p d) (hflaw : p.flaw? = none) :
    t.locate false p = .ok (d, some .directory) ∨
      ∃ x target, t.locate false p = .ok (x, some (.link target)) := by
  obtain ⟨k, hgoes⟩ := h
  rw [Tree.locate, hflaw]
  rcases p.steps_eq with hsteps | hsteps
  · rw [hsteps]
    exact hgoes.walkLinks_cases
  · rw [hsteps]
    refine .inl ((hgoes.walkLinks_append (.inl (List.cons_ne_nil "." []))).trans ?_)
    rw [walkLinks_dot, walkLinks_nil]

/-- What is found stays found when more links may be followed. -/
theorem walkLinks_mono {found : Location × Option Entry} (h : t.walkLinks last n l ss = .ok found)
    (hle : n ≤ i) : t.walkLinks last i l ss = .ok found := by
  induction n, l, ss using steps_induction generalizing i with
  | nil => rwa [walkLinks_nil] at h ⊢
  | dot n l ss ih =>
    rw [walkLinks_dot] at h ⊢
    exact ih h hle
  | up n l ss ih =>
    rw [walkLinks_up] at h ⊢
    exact ih h hle
  | name n l s ss hdot hup ih ihlinks =>
    rw [walkLinks_name hdot hup] at h ⊢
    split at h
    case isTrue => cases h
    case isFalse hshort =>
      rw [if_neg hshort]
      cases hfound : t.get? (l ++ [s]) with
      | none =>
        rw [hfound] at h
        exact h
      | some e =>
        rw [hfound] at h
        cases e with
        | file content => exact h
        | directory => exact ih h hle
        | link target =>
          simp only at h ⊢
          split at h
          case isTrue hlast =>
            rw [if_pos hlast]
            exact h
          case isFalse hlast =>
            rw [if_neg hlast]
            cases n with
            | zero => cases h
            | succ n =>
              obtain ⟨i, rfl⟩ := Nat.exists_eq_add_of_le' hle
              exact ihlinks n (Nat.lt_succ_self n) _ _ h (Nat.le_add_left n i)

/-- What is found at a location is there. -/
theorem get?_of_walkLinks {found : Option Entry} (hl : t.Rooted l)
    (h : t.walkLinks last n l ss = .ok (m, found)) : t.get? m = found := by
  induction n, l, ss using steps_induction with
  | nil =>
    rw [walkLinks_nil] at h
    cases h
    exact hl _ (List.prefix_refl _)
  | dot n l ss ih => exact ih hl (by rwa [walkLinks_dot] at h)
  | up n l ss ih => exact ih hl.dropLast (by rwa [walkLinks_up] at h)
  | name n l s ss hdot hup ih ihlinks =>
    rw [walkLinks_name hdot hup] at h
    split at h
    · cases h
    cases hfound : t.get? (l ++ [s]) with
    | none =>
      rw [hfound] at h
      simp only at h
      split at h
      · cases h
        exact hfound
      · cases h
    | some e =>
      rw [hfound] at h
      cases e with
      | directory => exact ih (hl.concat hfound) h
      | file inside =>
        simp only at h
        split at h
        · cases h
          exact hfound
        · cases h
      | link target =>
        simp only at h
        split at h
        · cases h
          exact hfound
        · cases n with
          | zero => cases h
          | succ n =>
            refine ihlinks n (Nat.lt_succ_self n) _ _ ?_ h
            split
            · exact t.rooted_nil
            · exact hl

theorem get?_of_locate {found : Option Entry} (h : t.locate last p = .ok (m, found)) :
    t.get? m = found := by
  have hflaw := flaw?_of_locate h
  rw [Tree.locate, hflaw] at h
  exact get?_of_walkLinks t.rooted_nil h

/-- Where links at the end are followed, no link is found. -/
theorem not_link_of_walkLinks {target : String} :
    t.walkLinks true n l ss ≠ .ok (m, some (.link target)) := by
  intro h
  induction n, l, ss using steps_induction with
  | nil =>
    rw [walkLinks_nil] at h
    cases h
  | dot n l ss ih => exact ih (by rwa [walkLinks_dot] at h)
  | up n l ss ih => exact ih (by rwa [walkLinks_up] at h)
  | name n l s ss hdot hup ih ihlinks =>
    rw [walkLinks_name hdot hup] at h
    split at h
    · cases h
    cases hfound : t.get? (l ++ [s]) with
    | none =>
      rw [hfound] at h
      simp only at h
      split at h <;> cases h
    | some e =>
      rw [hfound] at h
      cases e with
      | directory => exact ih h
      | file inside =>
        simp only at h
        split at h <;> cases h
      | link leads =>
        simp only [Bool.not_true, Bool.and_false, Bool.false_eq_true, if_false] at h
        cases n with
        | zero => cases h
        | succ n => exact ihlinks n (Nat.lt_succ_self n) _ _ h

/-! ### Entries of a directory -/

theorem isFile_iff :
    t.isFile p = true ↔ ∃ l content, t.locate true p = .ok (l, some (.file content)) := by
  rw [isFile, entry?]
  constructor
  · intro h
    split at h
    case h_1 content hfound =>
      split at hfound
      case h_1 l e hl => exact ⟨l, content, by rw [hl, hfound]⟩
      · cases hfound
    · cases h
  · rintro ⟨l, content, hl⟩
    rw [hl]

/-- Whatever is found by the path of a child, the path before it goes to a directory. -/
theorem exists_reaches_of_locate {found : Location × Option Entry} (hname : IsName name)
    (h : t.locate last (p.child name) = .ok found) : ∃ d, t.Reaches p d := by
  have hflaw := flaw?_of_locate h
  rw [Tree.locate, hflaw, Path.steps_child hname] at h
  obtain ⟨k, d, hgoes, -⟩ := exists_goes (.inl (List.cons_ne_nil name [])) h
  exact ⟨d, k, hgoes⟩

theorem Reaches.locate_child (h : t.Reaches p d) (hname : IsName name)
    (hflaw : (p.child name).flaw? = none) :
    ∃ k, t.locate last (p.child name) = t.walkLinks last k d [name] := by
  obtain ⟨k, hgoes⟩ := h
  refine ⟨k, ?_⟩
  rw [Tree.locate, hflaw, Path.steps_child hname]
  exact hgoes.walkLinks_append (.inl (List.cons_ne_nil name []))

/-- A link that leads to a file leads to no directory. -/
theorem not_goes_of_isFile {target : String} (h : t.Reaches p d) (hname : IsName name)
    (hfile : t.isFile (p.child name) = true) (hlink : t.get? (d ++ [name]) = some (.link target)) :
    ¬ t.Goes n (if Path.isAbsolute ⟨target⟩ then [] else d) (Path.steps ⟨target⟩) k m := by
  obtain ⟨l, content, hl⟩ := isFile_iff.mp hfile
  obtain ⟨i, hi⟩ : ∃ i, t.locate true (p.child name) = t.walkLinks true i d [name] :=
    h.locate_child hname (flaw?_of_locate hl)
  have hdot : name ≠ "." := by
    rintro rfl
    cases hname.named
  rw [hi, walkLinks_name hdot hname.child, if_neg (Nat.not_lt.mpr hname.short), hlink] at hl
  intro hgoes
  cases i with
  | zero => cases hl
  | succ i =>
    have hdir : t.walkLinks true n _ (Path.steps ⟨target⟩ ++ []) = t.walkLinks true k m [] :=
      hgoes.walkLinks_append (.inr rfl)
    rw [walkLinks_nil] at hdir
    have hsame := walkLinks_mono hdir (Nat.le_max_right i n)
    -- the link is followed by the same steps, maybe with other links left to follow
    have hfound := walkLinks_mono hl (Nat.le_max_left i n)
    rw [hsame] at hfound
    cases hfound

/-- A way stays when something is removed that is no directory and leads to none. -/
theorem Goes.erase (h : t.Goes n l ss k m) (hl : t.Rooted l)
    (hnot : t.get? (d ++ [name]) ≠ some .directory)
    (hlink : ∀ target, t.get? (d ++ [name]) = some (.link target) → ∀ {n k m},
      ¬ t.Goes n (if Path.isAbsolute ⟨target⟩ then [] else d) (Path.steps ⟨target⟩) k m) :
    (t.erase (d ++ [name])).Goes n l ss k m := by
  have hkeep : ∀ {l : Location} {s : String}, t.Rooted l → d ++ [name] ≠ l ++ [s] →
      (t.erase (d ++ [name])).get? (l ++ [s]) = t.get? (l ++ [s]) := by
    intro l s hl hne
    rw [get?_erase (List.concat_ne_nil name d), if_neg]
    intro hpre
    rcases List.prefix_concat_iff.mp hpre with heq | hpre
    · exact hne heq
    · exact hnot (hl _ hpre)
  induction h with
  | stay n l => exact .stay n l
  | dot _ ih => exact .dot (ih hl)
  | up _ ih => exact .up (ih hl.dropLast)
  | @down n k l m s ss hdot hup hshort hdir _ ih =>
    refine .down hdot hup hshort ?_ (ih (hl.concat hdir))
    rw [hkeep hl, hdir]
    rintro heq
    exact hnot (heq ▸ hdir)
  | @across n k l m s ss target hdot hup hshort hthere hgoes ih =>
    have hne : d ++ [name] ≠ l ++ [s] := by
      intro heq
      obtain ⟨rfl, -⟩ := List.append_inj' heq rfl
      obtain ⟨i, a, hfirst, -⟩ := hgoes.split
      exact hlink target (heq ▸ hthere) hfirst
    refine .across hdot hup hshort (by rw [hkeep hl hne, hthere]) (ih ?_)
    split
    · exact t.rooted_nil
    · exact hl

/-- A file, or a link to one, can be removed without changing which directories are reached. -/
theorem Reaches.erase {q : Path} (h : t.Reaches p d) (hname : IsName name)
    (hfile : t.isFile (p.child name) = true) (hq : t.Reaches q x) :
    (t.erase (d ++ [name])).Reaches q x := by
  have hnot : t.get? (d ++ [name]) ≠ some .directory := by
    intro hdir
    obtain ⟨l, content, hl⟩ := isFile_iff.mp hfile
    have hplaces := Places.of_child h hname (flaw?_of_locate hl)
    rw [hplaces.leads hdir] at hl
    cases hl
  obtain ⟨k, hgoes⟩ := hq
  exact ⟨k, hgoes.erase t.rooted_nil hnot fun _ hlink => not_goes_of_isFile h hname hfile hlink⟩

theorem Reaches.isDirectory_erase (h : t.Reaches p d) (hname : IsName name)
    (hfile : t.isFile (p.child name) = true) (q : Path) :
    (t.erase (d ++ [name])).isDirectory q = t.isDirectory q := by
  rw [Bool.eq_iff_iff, isDirectory_iff, isDirectory_iff]
  constructor
  · rintro ⟨l, hl⟩
    exact ⟨l, hl.keep (t.erase_keeps d name)⟩
  · rintro ⟨l, hl⟩
    exact ⟨l, leads_iff.mpr ⟨hl.flaw, h.erase hname hfile hl.reaches⟩⟩

/-! ### Fewer entries -/

/-- In a smaller tree a way is the same, or something on it is missing. -/
theorem Goes.within (h : t.Goes n l ss k m) (hu : u.Within t) : u.Goes n l ss k m ∨
    ∀ {last rest}, rest ≠ [] → u.walkLinks last n l (ss ++ rest) = .error .missing := by
  have hmissing : ∀ {n l s ss}, s ≠ "." → s ≠ ".." → s.utf8ByteSize ≤ nameLimit →
      u.get? (l ++ [s]) = none → ∀ {last} {rest : List String}, rest ≠ [] →
      u.walkLinks last n l (s :: ss ++ rest) = .error .missing := by
    intro n l s ss hdot hup hshort hnone last rest hrest
    have hmore : (ss ++ rest).isEmpty = false :=
      List.isEmpty_eq_false_iff.mpr (List.append_ne_nil_of_right_ne_nil ss hrest)
    rw [List.cons_append, walkLinks_name hdot hup, if_neg (Nat.not_lt.mpr hshort), hnone]
    simp only [hmore, Bool.false_eq_true, if_false]
  induction h with
  | stay n l => exact .inl (.stay n l)
  | dot _ ih =>
    rcases ih with hgoes | hlost
    · exact .inl (.dot hgoes)
    · exact .inr fun hrest => by rw [List.cons_append, walkLinks_dot, hlost hrest]
  | up _ ih =>
    rcases ih with hgoes | hlost
    · exact .inl (.up hgoes)
    · exact .inr fun hrest => by rw [List.cons_append, walkLinks_up, hlost hrest]
  | @down n k l m s ss hdot hup hshort hdir _ ih =>
    rcases hu (l ++ [s]) with hsame | hnone
    · rw [hdir] at hsame
      rcases ih with hgoes | hlost
      · exact .inl (.down hdot hup hshort hsame hgoes)
      · refine .inr fun hrest => ?_
        rw [List.cons_append, walkLinks_name hdot hup, if_neg (Nat.not_lt.mpr hshort), hsame]
        exact hlost hrest
    · exact .inr (hmissing hdot hup hshort hnone)
  | @across n k l m s ss target hdot hup hshort hlink _ ih =>
    rcases hu (l ++ [s]) with hsame | hnone
    · rw [hlink] at hsame
      rcases ih with hgoes | hlost
      · exact .inl (.across hdot hup hshort hsame hgoes)
      · refine .inr fun {last rest} hrest => ?_
        have hmore : (ss ++ rest).isEmpty = false :=
          List.isEmpty_eq_false_iff.mpr (List.append_ne_nil_of_right_ne_nil ss hrest)
        rw [List.cons_append, walkLinks_name hdot hup, if_neg (Nat.not_lt.mpr hshort), hsame]
        simp only [hmore, Bool.false_and, Bool.false_eq_true, if_false, ← List.append_assoc]
        exact hlost hrest
    · exact .inr (hmissing hdot hup hshort hnone)

/-! ### Other contents -/

/-- Two trees have the same things at the same places, but for what is in the files. -/
def Alike (t u : Tree) : Prop := ∀ l, (t.get? l).map Entry.emptied = (u.get? l).map Entry.emptied

/-- A file can be written over. -/
theorem alike_put {content old : ByteArray} (h : t.get? l = some (.file old)) :
    t.Alike (t.put l (.file content)) := by
  intro m
  have hl : l ≠ [] := by
    rintro rfl
    cases h
  rw [get?_put hl]
  split
  case isTrue heq =>
    rw [heq, h]
    rfl
  case isFalse => rfl

namespace Alike

theorem symm (h : t.Alike u) : u.Alike t := fun l => (h l).symm

theorem keeps (h : t.Alike u) : t.Keeps u := by
  intro l e hl hfile
  have hsame := h l
  rw [hl] at hsame
  cases e with
  | file content => exact absurd rfl (hfile content)
  | link target =>
    rcases hu : u.get? l with _ | (_ | _ | _) <;> rw [hu] at hsame <;> cases hsame
    rfl
  | directory => rcases hu : u.get? l with _ | (_ | _ | _) <;> rw [hu] at hsame <;> cases hsame

/-- The way to anything is the same. -/
theorem walkLinks (h : t.Alike u) (last : Bool) (n : Nat) (l : Location) (ss : List String) :
    (t.walkLinks last n l ss).map (Prod.map id (Option.map Entry.emptied)) =
      (u.walkLinks last n l ss).map (Prod.map id (Option.map Entry.emptied)) := by
  induction n, l, ss using steps_induction with
  | nil => rw [walkLinks_nil, walkLinks_nil]
  | dot n l ss ih => rw [walkLinks_dot, walkLinks_dot, ih]
  | up n l ss ih => rw [walkLinks_up, walkLinks_up, ih]
  | name n l s ss hdot hup ih ihlinks =>
    rw [walkLinks_name hdot hup, walkLinks_name hdot hup]
    split
    · rfl
    have hsame := h (l ++ [s])
    cases ht : t.get? (l ++ [s]) with
    | none =>
      rw [ht, Option.map_none, eq_comm, Option.map_eq_none_iff] at hsame
      rw [hsame]
    | some e =>
      rw [ht, Option.map_some, eq_comm, Option.map_eq_some_iff] at hsame
      obtain ⟨f, hu, hf⟩ := hsame
      rw [hu]
      cases e with
      | file content =>
        cases f with
        | file => simp only; split <;> rfl
        | link | directory => cases hf
      | directory =>
        cases f with
        | directory => exact ih
        | file | link => cases hf
      | link target =>
        cases f with
        | file | directory => cases hf
        | link other =>
          cases hf
          simp only
          split
          · rfl
          · cases n with
            | zero => rfl
            | succ n => exact ihlinks n (Nat.lt_succ_self n) _ _

theorem isFile (h : t.Alike u) (p : Path) : t.isFile p = u.isFile p := by
  have hsame : (t.locate true p).map (Prod.map id (Option.map Entry.emptied)) =
      (u.locate true p).map (Prod.map id (Option.map Entry.emptied)) := by
    rw [Tree.locate, Tree.locate]
    split
    · rfl
    · exact h.walkLinks ..
  rw [Tree.isFile, entry?, Tree.isFile, entry?]
  rcases ht : t.locate true p with e | ⟨l, _ | (_ | _ | _)⟩ <;>
    rcases hu : u.locate true p with f | ⟨m, _ | (_ | _ | _)⟩ <;> rw [ht, hu] at hsame <;>
    first | rfl | cases hsame

theorem isDirectory (h : t.Alike u) (p : Path) : t.isDirectory p = u.isDirectory p := by
  rw [Bool.eq_iff_iff, isDirectory_iff, isDirectory_iff]
  exact ⟨fun ⟨l, hl⟩ => ⟨l, hl.keep h.keeps⟩, fun ⟨l, hl⟩ => ⟨l, hl.keep h.symm.keeps⟩⟩

end Alike

end Tree

end ManifestMigration
