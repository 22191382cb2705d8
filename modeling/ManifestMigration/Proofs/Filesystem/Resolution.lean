import ManifestMigration.Proofs.Filesystem.Path

/-! Where paths lead: to a directory, and to an entry of one.

    The way of a path to a directory is told by rules, one for each kind of step. What follows after
    that directory is then followed from there, and a way that is there stays as long as its
    directories and links do. -/

namespace ManifestMigration.Tree

/-! ### Ways -/

/-- Steps go from one directory to another, over links of which so many may be followed at the start
    and at the end. -/
inductive Goes (t : Tree) : Nat → Location → List String → Nat → Location → Prop
  | stay (n : Nat) (l : Location) : Goes t n l [] n l
  | dot {n k l m ss} : Goes t n l ss k m → Goes t n l ("." :: ss) k m
  | up {n k l m ss} : Goes t n l.dropLast ss k m → Goes t n l (".." :: ss) k m
  | down {n k l m s ss} (hdot : s ≠ ".") (hup : s ≠ "..") (hshort : s.utf8ByteSize ≤ nameLimit)
      (hdir : t.get? (l ++ [s]) = some .directory) :
      Goes t n (l ++ [s]) ss k m → Goes t n l (s :: ss) k m
  | across {n k l m s ss target} (hdot : s ≠ ".") (hup : s ≠ "..")
      (hshort : s.utf8ByteSize ≤ nameLimit) (hlink : t.get? (l ++ [s]) = some (.link target)) :
      Goes t n (if Path.isAbsolute ⟨target⟩ then [] else l) (Path.steps ⟨target⟩ ++ ss) k m →
      Goes t (n + 1) l (s :: ss) k m

variable {t u : Tree} {last : Bool} {n k : Nat} {l m : Location} {s : String}
  {ss rest : List String} {p : Path} {e : Option Entry}

theorem walkLinks_nil (t : Tree) (last : Bool) (n : Nat) (l : Location) :
    t.walkLinks last n l [] = .ok (l, some .directory) := by
  cases n <;> rfl

theorem walkLinks_dot : t.walkLinks last n l ("." :: ss) = t.walkLinks last n l ss := by
  cases n <;> rfl

theorem walkLinks_up : t.walkLinks last n l (".." :: ss) = t.walkLinks last n l.dropLast ss := by
  cases n <;> rfl

/-- A name is looked up, and a link there is followed unless it is the last of all steps. -/
theorem walkLinks_name (hdot : s ≠ ".") (hup : s ≠ "..") : t.walkLinks last n l (s :: ss) =
    if s.utf8ByteSize > nameLimit then .error .nameTooLong
    else match t.get? (l ++ [s]) with
      | none => if ss.isEmpty then .ok (l ++ [s], none) else .error .missing
      | some .directory => t.walkLinks last n (l ++ [s]) ss
      | some (.file content) =>
        if ss.isEmpty then .ok (l ++ [s], some (.file content)) else .error .notDirectory
      | some (.link target) =>
        if ss.isEmpty && !last then .ok (l ++ [s], some (.link target))
        else match n with
          | 0 => .error .linkLoop
          | n + 1 => t.walkLinks last n (if Path.isAbsolute ⟨target⟩ then [] else l)
              (Path.steps ⟨target⟩ ++ ss) := by
  have hskip : (s == ".") = false := beq_eq_false_iff_ne.mpr hdot
  have hname : (s == "..") = false := beq_eq_false_iff_ne.mpr hup
  cases n with
  | zero =>
    rw [walkLinks, walk, hskip, hname]
    rfl
  | succ n =>
    rw [walkLinks, walk, hskip, hname]
    rfl

/-- Induction on the steps that are followed: a link may take any other steps, but leaves fewer links
    to follow. -/
@[elab_as_elim]
theorem steps_induction {motive : Nat → Location → List String → Prop}
    (nil : ∀ n l, motive n l [])
    (dot : ∀ n l ss, motive n l ss → motive n l ("." :: ss))
    (up : ∀ n l ss, motive n l.dropLast ss → motive n l (".." :: ss))
    (name : ∀ n l s ss, s ≠ "." → s ≠ ".." → motive n (l ++ [s]) ss →
      (∀ i < n, ∀ l ss, motive i l ss) → motive n l (s :: ss)) :
    ∀ n l ss, motive n l ss := by
  intro n
  induction n using Nat.strongRecOn with
  | ind n ihlinks =>
    intro l ss
    induction ss generalizing l with
    | nil => exact nil n l
    | cons s ss ih =>
      by_cases hdot : s = "."
      · exact hdot ▸ dot n l ss (ih l)
      by_cases hup : s = ".."
      · exact hup ▸ up n l ss (ih l.dropLast)
      exact name n l s ss hdot hup (ih (l ++ [s])) ihlinks

/-- What comes after a way is followed from where the way leads. -/
theorem Goes.walkLinks_append (h : t.Goes n l ss k m) (hrest : rest ≠ [] ∨ last = true) :
    t.walkLinks last n l (ss ++ rest) = t.walkLinks last k m rest := by
  induction h with
  | stay => rfl
  | dot _ ih => rw [List.cons_append, walkLinks_dot, ih]
  | up _ ih => rw [List.cons_append, walkLinks_up, ih]
  | down hdot hup hshort hdir _ ih =>
    rw [List.cons_append, walkLinks_name hdot hup, if_neg (Nat.not_lt.mpr hshort), hdir]
    exact ih
  | @across n k l m s ss target hdot hup hshort hlink _ ih =>
    have hfollow : ((ss ++ rest).isEmpty && !last) = false := by
      rcases hrest with hrest | rfl
      · rw [List.isEmpty_eq_false_iff.mpr (List.append_ne_nil_of_right_ne_nil ss hrest)]
        rfl
      · exact Bool.and_false _
    rw [List.cons_append, walkLinks_name hdot hup, if_neg (Nat.not_lt.mpr hshort), hlink]
    simp only [hfollow, Bool.false_eq_true, if_false, ← List.append_assoc]
    exact ih

/-- Steps that are followed to a directory, or beyond, are a way. -/
theorem exists_goes (hgo : rest ≠ [] ∨ last = true ∧ e = some .directory)
    (h : t.walkLinks last n l (ss ++ rest) = .ok (m, e)) :
    ∃ k d, t.Goes n l ss k d ∧ t.walkLinks last k d rest = .ok (m, e) := by
  have hend : ∀ {ss : List String}, (ss ++ rest).isEmpty = true → last = true ∧ e = some .directory :=
    fun hempty => hgo.resolve_left fun h => h (List.append_eq_nil_iff.mp (List.isEmpty_iff.mp hempty)).2
  induction n, l, ss using steps_induction with
  | nil n l => exact ⟨n, l, .stay n l, h⟩
  | dot n l ss ih =>
    rw [List.cons_append, walkLinks_dot] at h
    obtain ⟨k, d, hgoes, hwalk⟩ := ih h
    exact ⟨k, d, .dot hgoes, hwalk⟩
  | up n l ss ih =>
    rw [List.cons_append, walkLinks_up] at h
    obtain ⟨k, d, hgoes, hwalk⟩ := ih h
    exact ⟨k, d, .up hgoes, hwalk⟩
  | name n l s ss hdot hup ih ihlinks =>
    rw [List.cons_append, walkLinks_name hdot hup] at h
    split at h
    · cases h
    case isFalse hshort =>
      have hshort := Nat.not_lt.mp hshort
      split at h
      case h_1 =>
        split at h
        case isTrue hempty =>
          rw [(hend hempty).2] at h
          cases h
        case isFalse => cases h
      case h_2 hdir =>
        obtain ⟨k, d, hgoes, hwalk⟩ := ih h
        exact ⟨k, d, .down hdot hup hshort hdir hgoes, hwalk⟩
      case h_3 =>
        split at h
        case isTrue hempty =>
          rw [(hend hempty).2] at h
          cases h
        case isFalse => cases h
      case h_4 target hlink =>
        split at h
        case isTrue hempty =>
          rw [Bool.and_eq_true, Bool.not_eq_true'] at hempty
          rw [(hend hempty.1).1] at hempty
          cases hempty.2
        case isFalse =>
          cases n with
          | zero => cases h
          | succ n =>
            simp only [← List.append_assoc] at h
            obtain ⟨k, d, hgoes, hwalk⟩ := ihlinks n (Nat.lt_succ_self n) _ _ h
            exact ⟨k, d, .across hdot hup hshort hlink hgoes, hwalk⟩

theorem Goes.append {n' : Nat} {m' : Location} (h : t.Goes n l ss k m) (h' : t.Goes k m rest n' m') :
    t.Goes n l (ss ++ rest) n' m' := by
  induction h with
  | stay => exact h'
  | dot _ ih => exact .dot (ih h')
  | up _ ih => exact .up (ih h')
  | down hdot hup hshort hdir _ ih => exact .down hdot hup hshort hdir (ih h')
  | across hdot hup hshort hlink _ ih =>
    have hacross := ih h'
    rw [List.append_assoc] at hacross
    exact .across hdot hup hshort hlink hacross

/-- A way stays when directories and links do. -/
theorem Goes.keep (hkeeps : t.Keeps u) (h : t.Goes n l ss k m) : u.Goes n l ss k m := by
  induction h with
  | stay n l => exact .stay n l
  | dot _ ih => exact .dot ih
  | up _ ih => exact .up ih
  | down hdot hup hshort hdir _ ih =>
    exact .down hdot hup hshort (hkeeps _ _ hdir fun _ => Entry.noConfusion) ih
  | across hdot hup hshort hlink _ ih =>
    exact .across hdot hup hshort (hkeeps _ _ hlink fun _ => Entry.noConfusion) ih

/-- No name on a way is too long. -/
theorem Goes.short (h : t.Goes n l ss k m) (hs : s ∈ ss) (hdot : s ≠ ".") (hup : s ≠ "..") :
    s.utf8ByteSize ≤ nameLimit := by
  induction h with
  | stay => cases hs
  | dot _ ih => exact ih ((List.mem_cons.mp hs).resolve_left hdot)
  | up _ ih => exact ih ((List.mem_cons.mp hs).resolve_left hup)
  | down _ _ hshort _ _ ih =>
    rcases List.mem_cons.mp hs with rfl | hs
    · exact hshort
    · exact ih hs
  | across _ _ hshort _ _ ih =>
    rcases List.mem_cons.mp hs with rfl | hs
    · exact hshort
    · exact ih (List.mem_append_right _ hs)

/-! ### Paths of directories -/

theorem flaw?_of_locate {found : Location × Option Entry} (h : t.locate last p = .ok found) :
    p.flaw? = none := by
  rw [locate] at h
  cases hflaw : p.flaw? with
  | none => rfl
  | some e =>
    rw [hflaw] at h
    cases h

theorem flaw?_of_locateClosed {found : Location × Option Entry} (h : t.locateClosed p = .ok found) :
    p.flaw? = none := by
  rw [locateClosed] at h
  cases hflaw : p.flaw? with
  | none => rfl
  | some e =>
    rw [hflaw] at h
    cases h

/-- A path leads to the directory at a location. -/
def Leads (t : Tree) (p : Path) (l : Location) : Prop := t.locate true p = .ok (l, some .directory)

instance (t : Tree) (p : Path) (l : Location) : Decidable (t.Leads p l) :=
  inferInstanceAs (Decidable (_ = _))

/-- The names of a path go to the directory at a location. The path leads there, unless a limit
    refuses it. -/
def Reaches (t : Tree) (p : Path) (l : Location) : Prop := ∃ k, t.Goes linkLimit [] p.names k l

/-- Only the names of a path count, because what it leads to is a directory anyway. -/
theorem leads_iff : t.Leads p l ↔ p.flaw? = none ∧ t.Reaches p l := by
  rw [Leads, locate, Reaches]
  cases hflaw : p.flaw? with
  | some e => simp
  | none =>
    simp only [true_and]
    constructor
    · intro h
      rcases p.steps_eq with hsteps | hsteps
      · rw [hsteps, ← List.append_nil p.names] at h
        obtain ⟨k, d, hgoes, hwalk⟩ := exists_goes (.inr ⟨rfl, rfl⟩) h
        rw [walkLinks_nil] at hwalk
        cases hwalk
        exact ⟨k, hgoes⟩
      · rw [hsteps] at h
        obtain ⟨k, d, hgoes, hwalk⟩ := exists_goes (.inl (List.cons_ne_nil "." [])) h
        rw [walkLinks_dot, walkLinks_nil] at hwalk
        cases hwalk
        exact ⟨k, hgoes⟩
    · rintro ⟨k, hgoes⟩
      rcases p.steps_eq with hsteps | hsteps
      · rw [hsteps, ← List.append_nil p.names, hgoes.walkLinks_append (.inr rfl), walkLinks_nil]
      · rw [hsteps, hgoes.walkLinks_append (.inr rfl), walkLinks_dot, walkLinks_nil]

theorem Reaches.keep (hkeeps : t.Keeps u) (h : t.Reaches p l) : u.Reaches p l :=
  h.imp fun _ => Goes.keep hkeeps

theorem Leads.reaches (h : t.Leads p l) : t.Reaches p l := (leads_iff.mp h).2

theorem Leads.flaw (h : t.Leads p l) : p.flaw? = none := (leads_iff.mp h).1

theorem Leads.keep (hkeeps : t.Keeps u) (h : t.Leads p l) : u.Leads p l :=
  leads_iff.mpr ⟨h.flaw, h.reaches.keep hkeeps⟩

theorem Leads.unique {m : Location} (h : t.Leads p l) (h' : t.Leads p m) : l = m := by
  rw [Leads, h] at h'
  cases h'
  rfl

/-- What is a directory itself is found, too, when a link at the end is followed. -/
theorem walkLinks_of_directory (h : t.walkLinks false n l ss = .ok (m, some .directory)) :
    t.walkLinks true n l ss = .ok (m, some .directory) := by
  induction n, l, ss using steps_induction with
  | nil => rwa [walkLinks_nil] at h ⊢
  | dot n l ss ih =>
    rw [walkLinks_dot] at h ⊢
    exact ih h
  | up n l ss ih =>
    rw [walkLinks_up] at h ⊢
    exact ih h
  | name n l s ss hdot hup ih ihlinks =>
    rw [walkLinks_name hdot hup] at h ⊢
    split at h
    · cases h
    case isFalse hshort =>
      rw [if_neg hshort]
      split at h
      case h_1 => split at h <;> cases h
      case h_2 hdir => exact ih h
      case h_3 => split at h <;> cases h
      case h_4 target hlink =>
        split at h
        · cases h
        · cases n with
          | zero => cases h
          | succ n =>
            rw [Bool.not_true, Bool.and_false, if_neg Bool.false_ne_true]
            exact ihlinks n (Nat.lt_succ_self n) _ _ h

theorem leads_of_locate (h : t.locate last p = .ok (l, some .directory)) : t.Leads p l := by
  cases last with
  | true => exact h
  | false =>
    have hflaw := flaw?_of_locate h
    rw [locate, hflaw] at h
    rw [Leads, locate, hflaw]
    exact walkLinks_of_directory h

theorem isDirectory_iff : t.isDirectory p = true ↔ ∃ l, t.Leads p l := by
  rw [isDirectory, entry?]
  constructor
  · intro h
    split at h
    case h_1 found hfound =>
      split at hfound
      case h_1 l e hl => exact ⟨l, by rw [Leads, hl, hfound]⟩
      · cases hfound
    · cases h
  · rintro ⟨l, hl⟩
    rw [hl]

/-! ### Paths of entries -/

/-- A path is the path of an entry of a directory, which need not be there: `name` is the last name of
    the path, and what is before that leads to the directory. -/
structure Places (t : Tree) (p : Path) (above : Location) (name : String) : Prop where
  flaw : p.flaw? = none
  ends : p.EndsIn name
  isName : IsName name
  goes : ∃ before k, p.names = before ++ [name] ∧ t.Goes linkLimit [] before k above

namespace Places

variable {above : Location} {name : String}

theorem keep (hkeeps : t.Keeps u) (h : t.Places p above name) : u.Places p above name :=
  ⟨h.flaw, h.ends, h.isName, h.goes.imp fun _ => .imp fun _ => .imp_right (Goes.keep hkeeps)⟩

theorem of_child (hl : t.Reaches p above) (hname : IsName name)
    (hflaw : (p.child name).flaw? = none) : t.Places (p.child name) above name := by
  obtain ⟨k, hgoes⟩ := hl
  exact ⟨hflaw, .of_child hname.piece hname.named hname.child, hname, _, k,
    Path.names_child hname.piece hname.named, hgoes⟩

theorem child_empty (h : t.Places p above name) (hflaw : (p.child "").flaw? = none) :
    t.Places (p.child "") above name :=
  ⟨hflaw, h.ends.child_empty, h.isName, by rw [Path.names_child_empty]; exact h.goes⟩

theorem names_ne_nil (h : t.Places p above name) : p.names ≠ [] := by
  obtain ⟨before, k, hnames, -⟩ := h.goes
  rw [hnames]
  exact List.concat_ne_nil name _

theorem ne_dot (h : t.Places p above name) : name ≠ "." := by
  rintro rfl
  cases h.isName.named

/-- No name on the path of an entry is too long. -/
theorem short (h : t.Places p above name) (hs : s ∈ p.names) : s.utf8ByteSize ≤ nameLimit := by
  obtain ⟨before, k, hnames, hgoes⟩ := h.goes
  have hidle := (List.mem_filter.mp hs).2
  rw [hnames, List.mem_append, List.mem_singleton] at hs
  rcases hs with hs | rfl
  · by_cases hup : s = ".."
    · exact hup ▸ (by decide : "..".utf8ByteSize ≤ nameLimit)
    · refine hgoes.short hs ?_ hup
      rintro rfl
      cases hidle
  · exact h.isName.short

/-- An entry is found, unless it is a link that is to be followed. -/
theorem walkLinks (h : t.Places p above name)
    (hlink : last = true → ∀ target, t.get? (above ++ [name]) ≠ some (.link target)) :
    t.walkLinks last linkLimit [] p.names = .ok (above ++ [name], t.get? (above ++ [name])) := by
  obtain ⟨before, k, hnames, hgoes⟩ := h.goes
  rw [hnames, hgoes.walkLinks_append (.inl (List.cons_ne_nil name [])),
    walkLinks_name h.ne_dot h.isName.child, if_neg (Nat.not_lt.mpr h.isName.short)]
  cases hfound : t.get? (above ++ [name]) with
  | none => rfl
  | some e =>
    cases e with
    | file content => rfl
    | directory => exact walkLinks_nil ..
    | link target =>
      cases last with
      | false => rfl
      | true => exact absurd hfound (hlink rfl target)

theorem locate (h : t.Places p above name) (hsteps : p.steps = p.names)
    (hlink : last = true → ∀ target, t.get? (above ++ [name]) ≠ some (.link target)) :
    t.locate last p = .ok (above ++ [name], t.get? (above ++ [name])) := by
  rw [Tree.locate, h.flaw, hsteps]
  exact h.walkLinks hlink

theorem locateClosed (h : t.Places p above name) :
    t.locateClosed p = .ok (above ++ [name], t.get? (above ++ [name])) := by
  rw [Tree.locateClosed, h.flaw, Tree.locate, Path.flaw?_closed h.names_ne_nil h.flaw,
    h.ends.steps_closed]
  exact h.walkLinks fun hlast => absurd hlast Bool.false_ne_true

theorem leads (h : t.Places p above name) (hdir : t.get? (above ++ [name]) = some .directory) :
    t.Leads p (above ++ [name]) := by
  obtain ⟨before, k, hnames, hgoes⟩ := h.goes
  refine leads_iff.mpr ⟨h.flaw, ⟨k, hnames ▸ hgoes.append ?_⟩⟩
  exact .down h.ne_dot h.isName.child h.isName.short hdir (.stay _ _)

/-- A path that names nothing, in a directory that is there, is the path of a new entry of it. -/
theorem exists_of_locateClosed (h : t.locateClosed p = .ok (l, none)) :
    ∃ above name, l = above ++ [name] ∧ t.Places p above name := by
  have hflaw := flaw?_of_locateClosed h
  rw [Tree.locateClosed, hflaw] at h
  have hclosed := flaw?_of_locate h
  rw [Tree.locate, hclosed] at h
  simp only at h
  have hpieces : p.closed.pieces ≠ [] := mt List.map_eq_nil_iff.mp (Text.pieces_ne_nil _ _)
  obtain ⟨init, last, hinit⟩ : ∃ init last, p.closed.pieces = init ++ [last] :=
    ⟨_, _, (List.dropLast_concat_getLast hpieces).symm⟩
  have hlast : p.closed.pieces.getLast? = some last := by rw [hinit, List.getLast?_concat]
  cases hidle : Path.isIdle last with
  | true =>
    -- a dot at the end asks for a directory
    have hsteps : p.closed.steps = p.closed.names ++ ["."] := by
      rw [Path.steps, hlast]
      simp only [hidle, if_true]
    rw [hsteps] at h
    obtain ⟨k, d, -, hwalk⟩ := exists_goes (.inl (List.cons_ne_nil "." [])) h
    rw [walkLinks_dot, walkLinks_nil] at hwalk
    cases hwalk
  | false =>
    have hsteps : p.closed.steps = p.closed.names := by
      rw [Path.steps, hlast]
      simp only [hidle, Bool.false_eq_true, if_false]
    have hnames : p.closed.names = init.filter (fun piece => !Path.isIdle piece) ++ [last] := by
      rw [Path.names, hinit, List.filter_append]
      simp [hidle]
    rw [hsteps, hnames] at h
    obtain ⟨k, d, hgoes, hwalk⟩ := exists_goes (.inl (List.cons_ne_nil last [])) h
    have hdot : last ≠ "." := by
      rintro rfl
      cases hidle
    by_cases hup : last = ".."
    · rw [hup, walkLinks_up, walkLinks_nil] at hwalk
      cases hwalk
    rw [walkLinks_name hdot hup] at hwalk
    split at hwalk
    · cases hwalk
    case isFalse hshort =>
      have hpiece : last ∈ p.closed.pieces := hinit ▸ List.mem_append_right _ (List.mem_singleton_self _)
      have hname : IsName last := by
        refine ⟨hidle, hup, Path.slash_notMem_of_mem_pieces hpiece, fun hnul => ?_,
          Nat.not_lt.mp hshort⟩
        obtain ⟨w, hw, rfl⟩ := List.mem_map.mp hpiece
        rw [String.toList_ofList] at hnul
        exact (Path.flaw?_eq_none_iff.mp hclosed).1 (Text.mem_of_mem_pieces hnul hw)
      rw [Path.names_closed] at hnames
      refine ⟨d, last, ?_, hflaw, ⟨hlast, hidle, hup⟩, hname, _, k, hnames, hgoes⟩
      split at hwalk
      case h_1 =>
        cases hwalk
        rfl
      case h_2 =>
        rw [walkLinks_nil] at hwalk
        cases hwalk
      all_goals cases hwalk

end Places

end ManifestMigration.Tree
