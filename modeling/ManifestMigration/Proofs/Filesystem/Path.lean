import ManifestMigration.Proofs.Filesystem.Tree
import ManifestMigration.Proofs.Text.Pieces

/-! The pieces of paths that were put together, and of those that a path is taken apart into.

    A path is looked at through its names, and through the last of its pieces: the idle ones before
    that lead nowhere. -/

namespace ManifestMigration.Path

variable {p : Path} {n : String}

theorem slash_notMem_of_mem_pieces (h : n ∈ p.pieces) : '/' ∉ n.toList := by
  obtain ⟨w, hw, rfl⟩ := List.mem_map.mp h
  intro hc
  rw [String.toList_ofList] at hc
  have := Text.not_sep_of_mem_pieces hc hw
  simp at this

theorem endsOpen_iff : p.endsOpen = true ↔ ∃ s, p.text.toList = s ++ ['/'] := by
  rw [endsOpen, beq_iff_eq, List.getLast?_eq_some_iff]

/-! ### Children -/

theorem text_child (hn : '/' ∉ n.toList) :
    (p.child n).text = p.text ++ (if p.text.isEmpty || p.endsOpen then "" else "/") ++ n := by
  have hrelative : isAbsolute ⟨n⟩ = false := by
    rw [isAbsolute, beq_eq_false_iff_ne]
    exact fun h => hn (List.mem_of_mem_head? h)
  rw [child, join, hrelative, if_neg Bool.false_ne_true]

/-- A child adds its name to the pieces, except that it takes the place of an empty last piece. -/
theorem exists_pieces_child (hn : '/' ∉ n.toList) :
    ∃ ps, (p.child n).pieces = ps ++ [n] ∧ ps.filter (fun piece => !isIdle piece) = p.names ∧
      ps ⊆ p.pieces := by
  have hpiece : Text.pieces (· == '/') n.toList = [n.toList] :=
    Text.pieces_of_forall fun c hc => beq_eq_false_iff_ne.mpr fun h => hn (h ▸ hc)
  have hlast : (Text.pieces (· == '/') n.toList).map String.ofList = [n] := by
    rw [hpiece, List.map_singleton, String.ofList_toList]
  rw [pieces, text_child hn, names, pieces]
  by_cases hempty : p.text = ""
  · refine ⟨[], ?_, ?_, List.nil_subset _⟩
    · rw [hempty]
      simpa using hlast
    · rw [hempty]
      rfl
  · have hne : p.text.isEmpty = false := by simpa using hempty
    by_cases hopen : p.endsOpen = true
    · obtain ⟨s, hs⟩ := endsOpen_iff.mp hopen
      refine ⟨(Text.pieces (· == '/') s).map String.ofList, ?_, ?_, ?_⟩
      · rw [hne, hopen, Bool.false_or, if_pos rfl, String.toList_append, String.toList_append, hs,
          String.toList_empty, List.append_nil, List.append_assoc, List.singleton_append,
          Text.pieces_append rfl, List.map_append, hlast]
      · rw [hs, Text.pieces_concat rfl, List.map_append, List.filter_append]
        exact (List.append_nil _).symm
      · rw [hs, Text.pieces_concat rfl, List.map_append]
        exact List.subset_append_left _ _
    · refine ⟨p.pieces, ?_, rfl, List.Subset.refl _⟩
      rw [hne, (Bool.not_eq_true _).mp hopen, Bool.false_or, if_neg Bool.false_ne_true,
        String.toList_append, String.toList_append, List.append_assoc]
      change (Text.pieces (· == '/') (p.text.toList ++ '/' :: n.toList)).map String.ofList = _
      rw [Text.pieces_append rfl, List.map_append, hlast, pieces]

theorem names_child (hn : '/' ∉ n.toList) (hidle : isIdle n = false) :
    (p.child n).names = p.names ++ [n] := by
  obtain ⟨ps, hps, hnames, -⟩ := exists_pieces_child (p := p) hn
  rw [names, hps, List.filter_append, hnames]
  simp [hidle]

theorem names_child_empty (p : Path) : (p.child "").names = p.names := by
  obtain ⟨ps, hps, hnames, -⟩ := exists_pieces_child (p := p) (n := "") (by decide)
  rw [names, hps, List.filter_append, hnames]
  simp [isIdle]

theorem steps_eq (p : Path) : p.steps = p.names ∨ p.steps = p.names ++ ["."] := by
  rw [steps]
  split
  · split
    · exact .inr rfl
    · exact .inl rfl
  · exact .inl rfl

/-- The child without a name is the path itself, or the path with a slash behind it. -/
theorem child_empty_cases (p : Path) :
    (p.text.isEmpty || p.endsOpen) = true ∧ p.child "" = p ∨
      (p.text.isEmpty || p.endsOpen) = false ∧ (p.child "").text = p.text ++ "/" := by
  have htext := text_child (p := p) (n := "") (by decide)
  rw [String.append_empty] at htext
  cases hopen : p.text.isEmpty || p.endsOpen with
  | true =>
    rw [hopen, if_pos rfl, String.append_empty] at htext
    exact .inl ⟨rfl, congrArg Path.mk htext⟩
  | false =>
    rw [hopen, if_neg Bool.false_ne_true] at htext
    exact .inr ⟨rfl, htext⟩

/-- A slash at the end of a path makes no difference for its children. -/
theorem child_child_empty (hn : '/' ∉ n.toList) : (p.child "").child n = p.child n := by
  rcases p.child_empty_cases with ⟨-, hsame⟩ | ⟨hopen, htext⟩
  · rw [hsame]
  · have hslash : (p.child "").endsOpen = true := by
      rw [endsOpen_iff, htext, String.toList_append]
      exact ⟨_, rfl⟩
    have h : ((p.child "").child n).text = (p.child n).text := by
      rw [text_child hn, text_child hn, hslash, Bool.or_true, if_pos rfl, String.append_empty,
        htext, hopen, if_neg Bool.false_ne_true]
    exact congrArg Path.mk h

theorem foldl_child_empty : ∀ {m : Location}, m ≠ [] → (∀ n ∈ m, '/' ∉ n.toList) →
    m.foldl child (p.child "") = m.foldl child p
  | n :: m, _, h => by
    rw [List.foldl_cons, List.foldl_cons, child_child_empty (h n (List.mem_cons_self ..))]

/-! ### Slashes at the end -/

theorem pieces_append_slashes (s : List Char) : ∀ k : Nat,
    Text.pieces (· == '/') (s ++ List.replicate k '/') =
      Text.pieces (· == '/') s ++ List.replicate k []
  | 0 => by rw [List.replicate_zero, List.replicate_zero, List.append_nil, List.append_nil]
  | k + 1 => by
    rw [List.replicate_succ', ← List.append_assoc, Text.pieces_concat rfl,
      pieces_append_slashes s k, List.append_assoc, ← List.replicate_succ']

/-- A path is what is left of it without the slashes at its end, and those. -/
theorem closed_cases (p : Path) : p.names = [] ∧ p.closed.names = [] ∨
    (∃ k, p.text.toList = p.closed.text.toList ++ List.replicate k '/') ∧
      ∃ s c, p.closed.text.toList = s ++ [c] ∧ c ≠ '/' := by
  obtain ⟨k, hk⟩ : ∃ k, p.text.toList.reverse.takeWhile (fun c => c == '/') =
      List.replicate k '/' := by
    refine ⟨_, List.eq_replicate_iff.mpr ⟨rfl, fun c hc => ?_⟩⟩
    simpa using List.mem_takeWhile_imp (p := fun c => c == '/') hc
  have hsplit := List.takeWhile_append_dropWhile (p := fun c => c == '/') (l := p.text.toList.reverse)
  rw [hk] at hsplit
  cases hkept : p.text.toList.reverse.dropWhile (· == '/') with
  | nil =>
    have hnames : p.names = [] := by
      refine List.filter_eq_nil_iff.mpr fun piece hpiece => ?_
      rw [hkept, List.append_nil] at hsplit
      have htext : p.text.toList = [] ++ List.replicate k '/' := by
        rw [List.nil_append, ← List.reverse_replicate, hsplit, List.reverse_reverse]
      obtain ⟨w, hw, rfl⟩ := List.mem_map.mp hpiece
      rw [htext, pieces_append_slashes, List.mem_append, List.mem_replicate] at hw
      have hw : w = [] := hw.elim (fun h => List.mem_singleton.mp h) (·.2)
      rw [hw]
      decide
    refine .inl ⟨hnames, ?_⟩
    rw [closed, hkept]
    split
    · split
      · exact hnames
      · rfl
    case h_2 h => cases h rfl
  | cons c s =>
    have hc : c ≠ '/' := by
      have := List.head?_dropWhile_not (· == '/') p.text.toList.reverse
      rw [hkept] at this
      simpa using this
    have hclosed : p.closed.text.toList = s.reverse ++ [c] := by
      rw [closed, hkept]
      exact String.toList_ofList.trans List.reverse_cons
    refine .inr ⟨⟨k, ?_⟩, s.reverse, c, hclosed, hc⟩
    rw [hkept] at hsplit
    rw [hclosed, ← List.reverse_cons, ← List.reverse_replicate, ← List.reverse_append, hsplit,
      List.reverse_reverse]

theorem names_closed (p : Path) : p.closed.names = p.names := by
  rcases p.closed_cases with ⟨hnames, hclosed⟩ | ⟨⟨k, hk⟩, -⟩
  · rw [hnames, hclosed]
  · rw [names, names, pieces, pieces, hk, pieces_append_slashes, List.map_append,
      List.filter_append, List.map_replicate, List.filter_replicate]
    exact (List.append_nil _).symm

theorem closed_of_not_endsOpen (hp : p.names ≠ []) (hopen : p.endsOpen = false) : p.closed = p := by
  obtain ⟨⟨k, hk⟩, -⟩ := p.closed_cases.resolve_left fun h => hp h.1
  cases k with
  | zero =>
    rw [List.replicate_zero, List.append_nil, String.toList_inj] at hk
    exact congrArg Path.mk hk.symm
  | succ k =>
    have : p.endsOpen = true :=
      endsOpen_iff.mpr ⟨_, by rw [hk, List.replicate_succ', ← List.append_assoc]⟩
    rw [hopen] at this
    cases this

theorem closed_child_empty (p : Path) : (p.child "").closed = p.closed := by
  rcases p.child_empty_cases with ⟨-, hsame⟩ | ⟨hopen, htext⟩
  · rw [hsame]
  · have hne : p.text.isEmpty = false := (Bool.or_eq_false_iff.mp hopen).1
    have hne' : (p.text ++ "/").isEmpty = false := by simp
    have hdrop : (p.text ++ "/").toList.reverse.dropWhile (· == '/') =
        p.text.toList.reverse.dropWhile (· == '/') := by
      rw [String.toList_append, List.reverse_append]
      rfl
    rw [closed, htext, hdrop, closed, hne, hne']
    rfl

/-! ### The last name -/

theorem filter_trimIdle : ∀ ps : List String,
    (trimIdle ps).filter (fun piece => !isIdle piece) = ps.filter fun piece => !isIdle piece
  | [] => rfl
  | first :: rest => by
    have hidle : (rest.reverse.takeWhile isIdle).reverse.filter (fun piece => !isIdle piece) = [] := by
      refine List.filter_eq_nil_iff.mpr fun piece hpiece => ?_
      rw [List.mem_takeWhile_imp (List.mem_reverse.mp hpiece)]
      decide
    have hrest : rest.filter (fun piece => !isIdle piece) =
        (rest.reverse.dropWhile isIdle).reverse.filter fun piece => !isIdle piece := by
      conv_lhs => rw [← rest.reverse_reverse, ← List.takeWhile_append_dropWhile (p := isIdle)
        (l := rest.reverse), List.reverse_append, List.filter_append, hidle, List.append_nil]
    rw [trimIdle, List.filter_cons, List.filter_cons, hrest]

theorem trimIdle_subset : ∀ ps : List String, trimIdle ps ⊆ ps
  | [] => List.Subset.refl _
  | _ :: _ => List.cons_subset_cons _ fun _ h =>
    List.mem_reverse.mp ((List.dropWhile_suffix isIdle).subset (List.mem_reverse.mp h))

theorem names_ofPieces {ps : List String} (hne : ps ≠ []) (hps : ∀ piece ∈ ps, '/' ∉ piece.toList) :
    (ofPieces ps).names = ps.filter fun piece => !isIdle piece := by
  unfold ofPieces
  split
  · rfl
  · have hpieces : (Text.pieces (· == '/') ("/".intercalate ps).toList).map String.ofList = ps := by
      change (Text.pieces (· == '/') ("/".intercalate ps).toList).map String.ofList = ps
      rw [String.toList_intercalate]
      change (Text.pieces (· == '/') (['/'].intercalate (ps.map String.toList))).map _ = _
      rw [Text.pieces_intercalate rfl (by simpa using hne), List.map_map]
      · simp [Function.comp_def]
      · intro w hw c hc
        obtain ⟨piece, hpiece, rfl⟩ := List.mem_map.mp hw
        exact beq_eq_false_iff_ne.mpr fun h => hps piece hpiece (h ▸ hc)
    rw [names, pieces, hpieces]

/-- A path with a last name is made of its parent and that. -/
theorem names_of_name? (h : p.name? = some n) :
    p.names = (p.parent?.getD ⟨"."⟩).names ++ [n] ∧ isIdle n = false ∧ n ≠ ".." := by
  obtain ⟨qs, hqs, hn⟩ : ∃ qs, trimIdle p.pieces = qs ++ [n] ∧ (isIdle n || n == "..") = false := by
    rw [name?] at h
    split at h
    case h_1 piece hlast =>
      split at h
      · cases h
      case isFalse hidle =>
        cases h
        obtain ⟨qs, hqs⟩ := List.getLast?_eq_some_iff.mp hlast
        exact ⟨qs, hqs, (Bool.not_eq_true _).mp hidle⟩
    · cases h
  obtain ⟨hidle, hup⟩ := Bool.or_eq_false_iff.mp hn
  refine ⟨?_, hidle, beq_eq_false_iff_ne.mp hup⟩
  have hnames : p.names = qs.filter (fun piece => !isIdle piece) ++ [n] := by
    rw [names, ← filter_trimIdle, hqs, List.filter_append]
    simp [hidle]
  rw [hnames, List.append_left_inj, parent?, hqs]
  match qs with
  | [] =>
    have hne : (n == "") = false := by
      rw [isIdle, Bool.or_eq_false_iff] at hidle
      exact hidle.1
    simp only [List.nil_append, hne, Bool.false_eq_true, if_false]
    rfl
  | a :: qs =>
    have hslash : ∀ piece ∈ trimIdle (a :: qs), '/' ∉ piece.toList := by
      intro piece hpiece
      refine slash_notMem_of_mem_pieces (p := p) (trimIdle_subset _ ?_)
      rw [hqs]
      exact List.mem_append_left _ (trimIdle_subset _ hpiece)
    obtain ⟨b, rest, hrest⟩ : ∃ b rest, qs ++ [n] = b :: rest := by cases qs <;> exact ⟨_, _, rfl⟩
    have hdrop : (a :: b :: rest).dropLast = a :: qs := by
      rw [← hrest, ← List.cons_append, List.dropLast_concat]
    rw [List.cons_append, hrest]
    simp only [hdrop, Option.getD_some]
    rw [names_ofPieces (by rw [trimIdle]; exact List.cons_ne_nil _ _) hslash, filter_trimIdle]

theorem names_ne_nil_of_name? (h : p.name? = some n) : p.names ≠ [] := by
  rw [(names_of_name? h).1]
  exact List.concat_ne_nil n _

/-- The last name of a child is its name. -/
theorem name?_child (hn : '/' ∉ n.toList) (hidle : isIdle n = false) (hup : n ≠ "..") :
    (p.child n).name? = some n := by
  obtain ⟨ps, hps, -⟩ := exists_pieces_child (p := p) hn
  have hlast : (trimIdle (ps ++ [n])).getLast? = some n := by
    cases ps with
    | nil => rfl
    | cons first ps =>
      rw [List.cons_append, trimIdle, List.reverse_append, List.reverse_singleton,
        List.singleton_append, List.dropWhile_cons_of_neg (by simpa using hidle), List.reverse_cons,
        List.reverse_reverse, ← List.cons_append, List.getLast?_concat]
  rw [name?, hps, hlast]
  simp [hidle, hup]

/-- The last piece of a path is a name that something can have, but for slashes after it. -/
structure EndsIn (p : Path) (n : String) : Prop where
  last : p.closed.pieces.getLast? = some n
  named : isIdle n = false
  child : n ≠ ".."

/-- A path without dots ends in its last name. -/
theorem EndsIn.of_name? (hdots : "." ∉ p.pieces) (h : p.name? = some n) : p.EndsIn n := by
  obtain ⟨hnames, hidle, hup⟩ := names_of_name? h
  obtain ⟨⟨k, hk⟩, s, c, hs, hc⟩ :=
    p.closed_cases.resolve_left fun hcases => names_ne_nil_of_name? h hcases.1
  obtain ⟨ws, w, hws⟩ := Text.pieces_concat_of_neg (· == '/') (beq_eq_false_iff_ne.mpr hc) s
  have hpieces : p.closed.pieces = ws.map String.ofList ++ [String.ofList (w ++ [c])] := by
    rw [pieces, hs, hws, List.map_append, List.map_singleton]
  have hlast : isIdle (String.ofList (w ++ [c])) = false := by
    rw [isIdle, Bool.or_eq_false_iff, beq_eq_false_iff_ne, beq_eq_false_iff_ne]
    refine ⟨fun hempty => ?_, fun hdot => hdots ?_⟩
    · simpa using congrArg String.toList hempty
    · rw [pieces, hk, pieces_append_slashes, List.map_append, ← pieces, hpieces, hdot]
      simp
  have hsame : n = String.ofList (w ++ [c]) := by
    rw [← names_closed, names, hpieces, List.filter_append, List.filter_singleton, hlast] at hnames
    simpa using (congrArg List.getLast? hnames).symm
  exact ⟨by rw [hpieces, List.getLast?_concat, hsame], hidle, hup⟩

theorem not_endsOpen_child (hn : '/' ∉ n.toList) (hne : n ≠ "") : (p.child n).endsOpen = false := by
  rw [Bool.eq_false_iff, ne_eq, endsOpen_iff, text_child hn, String.toList_append]
  rintro ⟨s, hs⟩
  obtain ⟨u, c, hu⟩ : ∃ u c, n.toList = u ++ [c] := by
    have : n.toList ≠ [] := by simpa using hne
    exact ⟨_, _, (List.dropLast_concat_getLast this).symm⟩
  rw [hu, ← List.append_assoc] at hs
  refine hn (hu ▸ ?_)
  rw [(List.append_inj' hs rfl).2]
  simp

theorem closed_child (hn : '/' ∉ n.toList) (hidle : isIdle n = false) :
    (p.child n).closed = p.child n := by
  have hne : n ≠ "" := by
    rintro rfl
    cases hidle
  refine closed_of_not_endsOpen ?_ (not_endsOpen_child hn hne)
  rw [names_child hn hidle]
  exact List.concat_ne_nil n _

theorem EndsIn.of_child (hn : '/' ∉ n.toList) (hidle : isIdle n = false) (hup : n ≠ "..") :
    (p.child n).EndsIn n := by
  refine ⟨?_, hidle, hup⟩
  obtain ⟨ps, hps, -⟩ := exists_pieces_child (p := p) hn
  rw [closed_child hn hidle, hps, List.getLast?_concat]

theorem EndsIn.child_empty (h : p.EndsIn n) : (p.child "").EndsIn n :=
  ⟨by rw [closed_child_empty, h.last], h.named, h.child⟩

theorem EndsIn.steps_closed (h : p.EndsIn n) : p.closed.steps = p.names := by
  rw [steps, h.last]
  simp only [h.named, Bool.false_eq_true, if_false, names_closed]

/-- A path that a name was put after is followed to that name. -/
theorem steps_child (hn : IsName n) : (p.child n).steps = p.names ++ [n] := by
  have hclosed := (EndsIn.of_child (p := p) hn.piece hn.named hn.child).steps_closed
  rwa [closed_child hn.piece hn.named, names_child hn.piece hn.named] at hclosed

/-- The paths of the directories above start with the path itself. -/
theorem exists_ancestors (p : Path) : ∃ more, p.ancestors = p :: more := by
  rw [ancestors]
  cases p.text.length with
  | zero => exact ⟨_, rfl⟩
  | succ n =>
    rw [ancestors.go]
    split <;> exact ⟨_, rfl⟩

/-! ### Lengths -/

theorem flaw?_eq_none_iff : p.flaw? = none ↔
    '\x00' ∉ p.text.toList ∧ p.text ≠ "" ∧ p.text.utf8ByteSize ≤ pathLimit := by
  rw [flaw?]
  split
  · simp_all
  · split
    · simp_all
    · split <;> simp_all

theorem text_ne_empty (hp : p.names ≠ []) : p.text ≠ "" := fun h => by
  rw [names, pieces, h] at hp
  exact hp rfl

/-- A path with a slash put after it ends in one. -/
theorem endsOpen_child_empty (h : (p.child "").flaw? = none) : (p.child "").endsOpen = true := by
  rcases p.child_empty_cases with ⟨hopen, hsame⟩ | ⟨-, htext⟩
  · have hne : (p.child "").text ≠ "" := (flaw?_eq_none_iff.mp h).2.1
    rw [hsame] at hne ⊢
    exact (Bool.or_eq_true_iff.mp hopen).resolve_left (by simpa using hne)
  · rw [endsOpen_iff, htext, String.toList_append]
    exact ⟨p.text.toList, rfl⟩

theorem flaw?_ne_missing (hp : p.text ≠ "") : p.flaw? ≠ some .missing := by
  rw [flaw?]
  have hne : p.text.isEmpty = false := by simpa using hp
  rw [hne]
  split
  · exact nofun
  · split
    · contradiction
    · split <;> exact nofun

/-- What is wrong with a path is wrong with all that is put after it. -/
theorem flaw?_of_append {q : Path} {s : List Char} (hq : q.text.toList = p.text.toList ++ s)
    (hp : p.text ≠ "") (h : q.flaw? = none) : p.flaw? = none := by
  obtain ⟨hnul, -, hlength⟩ := flaw?_eq_none_iff.mp h
  have htext : q.text = p.text ++ String.ofList s := by
    rw [← String.toList_inj, hq, String.toList_append, String.toList_ofList]
  refine flaw?_eq_none_iff.mpr ⟨fun hc => hnul ?_, hp, ?_⟩
  · rw [hq]
    exact List.mem_append_left _ hc
  · rw [htext, String.utf8ByteSize_append] at hlength
    omega

theorem flaw?_of_child (hn : '/' ∉ n.toList) (hp : p.text ≠ "") (h : (p.child n).flaw? = none) :
    p.flaw? = none := by
  have htext : (p.child n).text.toList = p.text.toList ++
      ((if p.text.isEmpty || p.endsOpen then "" else "/").toList ++ n.toList) := by
    rw [text_child hn, String.toList_append, String.toList_append, List.append_assoc]
  exact flaw?_of_append htext hp h

/-- What is put after a path that is not refused has no NUL character. -/
theorem nul_notMem_of_child (hn : '/' ∉ n.toList) (h : (p.child n).flaw? = none) :
    '\x00' ∉ n.toList := by
  intro hc
  refine (flaw?_eq_none_iff.mp h).1 ?_
  rw [text_child hn, String.toList_append]
  exact List.mem_append_right _ hc

/-- A name that is not longer does not make a path longer. -/
theorem flaw?_child_of_le {m : String} (hn : '/' ∉ n.toList) (hm : IsName m)
    (hle : m.utf8ByteSize ≤ n.utf8ByteSize) (h : (p.child n).flaw? = none) :
    (p.child m).flaw? = none := by
  rw [flaw?_eq_none_iff, text_child hn] at h
  obtain ⟨hnul, -, hlength⟩ := h
  rw [flaw?_eq_none_iff]
  refine ⟨?_, text_ne_empty ?_, ?_⟩
  · rw [text_child hm.piece, String.toList_append, List.mem_append]
    rintro (hc | hc)
    · exact hnul (by rw [String.toList_append]; exact List.mem_append_left _ hc)
    · exact hm.proper hc
  · rw [names_child hm.piece hm.named]
    exact List.concat_ne_nil m _
  · rw [text_child hm.piece, String.utf8ByteSize_append]
    rw [String.utf8ByteSize_append] at hlength
    omega

theorem flaw?_closed (hp : p.names ≠ []) (h : p.flaw? = none) : p.closed.flaw? = none := by
  obtain ⟨⟨k, hk⟩, s, c, hs, -⟩ := p.closed_cases.resolve_left fun h => hp h.1
  refine flaw?_of_append hk (fun hempty => ?_) h
  rw [hempty] at hs
  simp at hs

/-- A path that no limit refuses. -/
structure Fits (p : Path) : Prop where
  flaw : p.flaw? = none
  short : ∀ n ∈ p.names, n.utf8ByteSize ≤ nameLimit

instance (p : Path) : Decidable p.Fits :=
  decidable_of_iff (p.flaw? = none ∧ ∀ n ∈ p.names, n.utf8ByteSize ≤ nameLimit)
    ⟨fun ⟨flaw, short⟩ => ⟨flaw, short⟩, fun h => ⟨h.flaw, h.short⟩⟩

theorem Fits.of_child_empty (hp : p.names ≠ []) (h : (p.child "").Fits) : p.Fits :=
  ⟨flaw?_of_child (by decide) (text_ne_empty hp) h.flaw, by rw [← names_child_empty]; exact h.short⟩

/-! ### Absolute paths -/

theorem dot_notMem_foldl_child : ∀ {ns : List String} {start : Path},
    (∀ n ∈ ns, '/' ∉ n.toList ∧ n ≠ ".") → "." ∉ start.pieces → "." ∉ (ns.foldl child start).pieces
  | [], _, _, h => h
  | n :: ns, start, hns, h => by
    rw [List.foldl_cons]
    refine dot_notMem_foldl_child (fun k hk => hns k (List.mem_cons_of_mem _ hk)) fun hdot => ?_
    obtain ⟨hslash, hn⟩ := hns n (List.mem_cons_self ..)
    obtain ⟨ps, hps, -, hsub⟩ := exists_pieces_child (p := start) hslash
    rw [hps, List.mem_append, List.mem_singleton] at hdot
    exact hdot.elim (fun hdot => h (hsub hdot)) fun hdot => hn hdot.symm

/-- Dots are left out of a path from the root on. -/
theorem dot_notMem_absolute {workingDirectory : Path} (h : "." ∉ workingDirectory.pieces) :
    "." ∉ (p.absolute workingDirectory).pieces := by
  have hnames : ∀ n ∈ p.names, '/' ∉ n.toList ∧ n ≠ "." := by
    intro n hn
    obtain ⟨hpiece, hidle⟩ := List.mem_filter.mp hn
    refine ⟨slash_notMem_of_mem_pieces hpiece, ?_⟩
    rintro rfl
    cases hidle
  have hstart : ∀ start : Path, "." ∉ start.pieces →
      "." ∉ (if p.endsOpen then (p.names.foldl child start).child ""
        else p.names.foldl child start).pieces := by
    intro start hstart
    have hwhole := dot_notMem_foldl_child hnames hstart
    split
    · have hempty : ∀ n ∈ [""], '/' ∉ n.toList ∧ n ≠ "." := by simp
      have hopen := dot_notMem_foldl_child hempty hwhole
      rwa [List.foldl_cons, List.foldl_nil] at hopen
    · exact hwhole
  rw [absolute]
  refine hstart _ ?_
  split
  · split
    · split <;> decide
    · decide
  · exact h

end ManifestMigration.Path
