import ManifestMigration.Proofs.Constraint.Clauses

/-! What a constraint has to look like.

    A text is one or more alternatives with bars between them, an alternative one or more clauses
    with commas and blanks between them and perhaps behind them, and a clause names a version or a
    wildcard, with or without an operator, which may stand apart. The reader takes every text of
    this form for what it means. It takes other texts as well: it drops empty alternatives and
    commas in front, and it carries an operator over commas and into other operators. -/

namespace ManifestMigration

namespace Constraint

/-! ### The grammar -/

/-- A text that nothing in it cuts. -/
structure IsWord (u : List Char) : Prop where
  ne_nil : u ≠ []
  chars : ∀ c ∈ u, isSeparator c = false

/-- What an operator stands in front of: a word that starts with none. -/
structure IsOperand (u : List Char) : Prop extends IsWord u where
  head : ∀ c ∈ u.head?, isOperator c = false

/-- A clause as it is written, and without the blanks behind its operator. -/
inductive Single : List Char → List Char → Prop where
  | bare {u : List Char} (hu : IsOperand u) : Single u u
  | operated {op gap u : List Char} (hne : op ≠ []) (hop : ∀ c ∈ op, isOperator c = true)
    (hgap : ∀ c ∈ gap, Text.isBlank c = true) (hu : IsOperand u) :
    Single (op ++ (gap ++ u)) (op ++ u)

/-- Clauses with commas and blanks between them, and perhaps behind the last one. -/
inductive Conjunction : List Char → List (List Char) → Prop where
  | last {s w seps : List Char} (h : Single s w) (hseps : ∀ c ∈ seps, isSeparator c = true) :
    Conjunction (s ++ seps) [w]
  | cons {s w seps rest : List Char} {ws : List (List Char)} (h : Single s w) (hne : seps ≠ [])
    (hseps : ∀ c ∈ seps, isSeparator c = true) (hrest : Conjunction rest ws) :
    Conjunction (s ++ (seps ++ rest)) (w :: ws)

/-- Conjunctions with single or double bars between them; there may be blanks before each. -/
inductive Alternatives : List Char → List (List (List Char)) → Prop where
  | last {gap a : List Char} {ws : List (List Char)} (hgap : ∀ c ∈ gap, Text.isBlank c = true)
    (ha : Barless a) (h : Conjunction a ws) : Alternatives (gap ++ a) [ws]
  | cons {gap a bar rest : List Char} {ws : List (List Char)} {wss : List (List (List Char))}
    (hgap : ∀ c ∈ gap, Text.isBlank c = true) (ha : Barless a) (h : Conjunction a ws)
    (hbar : bar = ['|', '|'] ∨ bar = ['|']) (hrest : Alternatives rest wss) :
    Alternatives (gap ++ a ++ (bar ++ rest)) (ws :: wss)

/-- The text, trimmed, is of the form of constraints, each of its clauses can be read, and the union
    of what its alternatives allow is this constraint, which has a range. -/
def Denotes (s : String) (c : Constraint) : Prop :=
  ∃ wss css, Alternatives (Text.trim s.toList) wss ∧ readAll wss = .ok css ∧ c = anyOf css ∧
    c.isEmpty = false

/-! ### Words and commas -/

/-- The words of an alternative, each comma being a word of its own. -/
def marks (a : List Char) : List (List Char) :=
  Text.words (a.flatMap fun c => if c == ',' then [' ', ',', ' '] else [c])

/-- The first word is neither a comma nor starts with an operator. -/
def startsOperand : List (List Char) → Bool
  | (c :: _) :: _ => c != ',' && !isOperator c
  | _ => false

/-- Each operator that stands apart stands before the operand that it belongs to. -/
def attached : List (List Char) → Bool
  | [] => true
  | w :: ws => (!w.all isOperator || startsOperand ws) && attached ws

/-- The alternative starts with a clause, and its operators have their operands. -/
structure Tidy (a : List Char) : Prop where
  head : ∃ w ∈ (marks a).head?, w ≠ [',']
  attached : attached (marks a) = true

/-- No alternative is empty or starts with a comma, and no operator is without an operand. -/
def Regular (s : String) : Prop := ∀ a ∈ alternatives (Text.trim s.toList), Tidy a

instance (a : List Char) : Decidable (Tidy a) :=
  decidable_of_iff (_ ∧ _) ⟨fun ⟨hhead, hattached⟩ => ⟨hhead, hattached⟩, fun h => ⟨h.1, h.2⟩⟩

instance (s : String) : Decidable (Regular s) :=
  inferInstanceAs (Decidable (∀ a ∈ alternatives _, Tidy a))

example : Regular ">= 1.0, !=1.5 , | ^3" ∧ ¬ Regular ">=, 1.0" := by decide +kernel

/-! ### The words of an alternative -/

theorem isSeparator_eq_false_of_isOperator {c : Char} (hc : isOperator c = true) :
    isSeparator c = false :=
  (uncut_of_class (by decide) (by decide) hc).1

theorem marks_cons_comma (t : List Char) : marks (',' :: t) = [','] :: marks t := rfl

theorem marks_blank_append {c : Char} (hc : Text.isBlank c = true) (s t : List Char) :
    marks (s ++ c :: t) = marks s ++ marks t := by
  have hcomma : (c == ',') = false := by
    rw [beq_eq_false_iff_ne]
    rintro rfl
    revert hc
    decide
  rw [marks, List.flatMap_append, List.flatMap_cons, hcomma, if_neg Bool.false_ne_true]
  exact Text.wordsBy_append hc _ _

theorem marks_cons_of_isBlank {c : Char} (hc : Text.isBlank c = true) (t : List Char) :
    marks (c :: t) = marks t :=
  marks_blank_append hc [] t

theorem marks_append {c : Char} (hc : isSeparator c = true) (s t : List Char) :
    marks (s ++ c :: t) = marks s ++ marks (c :: t) := by
  rcases Bool.or_eq_true_iff.mp hc with hcomma | hblank
  · rw [beq_iff_eq.mp hcomma, marks, List.flatMap_append]
    exact Text.wordsBy_append (by decide) _ _
  · rw [marks_blank_append hblank, marks_cons_of_isBlank hblank]

theorem IsWord.wordsBy {u : List Char} (hu : IsWord u) : Text.wordsBy isSeparator u = [u] := by
  rw [Text.wordsBy, Text.pieces_of_forall hu.chars]
  exact List.filter_cons_of_pos (by simpa using hu.ne_nil)

theorem IsWord.marks {u : List Char} (hu : IsWord u) : marks u = [u] := by
  have hspaced : (u.flatMap fun c => if c == ',' then [' ', ',', ' '] else [c]) = u := by
    conv_rhs => rw [← List.flatMap_singleton' u]
    refine List.flatMap_congr fun c hc => if_neg ?_
    rw [(Bool.or_eq_false_iff.mp (hu.chars c hc)).1]
    decide
  have hpieces : Text.pieces Text.isBlank u = [u] :=
    Text.pieces_of_forall fun c hc => (Bool.or_eq_false_iff.mp (hu.chars c hc)).2
  rw [Constraint.marks, hspaced, Text.words, Text.wordsBy, hpieces]
  exact List.filter_cons_of_pos (by simpa using hu.ne_nil)

theorem IsWord.ne_comma {u : List Char} (hu : IsWord u) : u ≠ [','] := by
  rintro rfl
  exact absurd (hu.chars ',' (List.mem_singleton_self _)) (by decide)

/-- A word ends where a separator follows. -/
theorem IsWord.marks_append {u r : List Char} (hu : IsWord u)
    (hr : ∀ c ∈ r.head?, isSeparator c = true) :
    Constraint.marks (u ++ r) = u :: Constraint.marks r := by
  cases r with
  | nil => rw [List.append_nil, hu.marks]; rfl
  | cons c r => rw [Constraint.marks_append (hr c rfl), hu.marks, List.singleton_append]

/-- How the words of an alternative follow one another. -/
inductive Marked : List Char → List (List Char) → Prop where
  | nil : Marked [] []
  | blank {c : Char} {t : List Char} {ms : List (List Char)} (hc : Text.isBlank c = true)
    (h : Marked t ms) : Marked (c :: t) ms
  | comma {t : List Char} {ms : List (List Char)} (h : Marked t ms) :
    Marked (',' :: t) ([','] :: ms)
  | word {u r : List Char} {ms : List (List Char)} (hu : IsWord u)
    (hr : ∀ c ∈ r.head?, isSeparator c = true) (h : Marked r ms) : Marked (u ++ r) (u :: ms)

theorem marked_marks (a : List Char) : Marked a (marks a) := by
  match a with
  | [] => exact .nil
  | c :: t =>
    by_cases hc : isSeparator c = true
    · have ih := marked_marks t
      rcases Bool.or_eq_true_iff.mp hc with hcomma | hblank
      · rw [beq_iff_eq.mp hcomma, marks_cons_comma]
        exact .comma ih
      · rw [marks_cons_of_isBlank hblank]
        exact .blank hblank ih
    · -- the word goes on up to the first separator
      rw [Bool.not_eq_true] at hc
      have hword : IsWord (c :: t.takeWhile (!isSeparator ·)) :=
        ⟨List.cons_ne_nil _ _, List.forall_mem_cons.mpr
          ⟨hc, fun d hd => by simpa using List.mem_takeWhile_imp hd⟩⟩
      have hrest : ∀ d ∈ (t.dropWhile (!isSeparator ·)).head?, isSeparator d = true := by
        intro d hd
        have hnot := List.head?_dropWhile_not (!isSeparator ·) t
        rw [Option.mem_def.mp hd] at hnot
        simpa using hnot
      have hlength := (List.dropWhile_suffix (!isSeparator ·) (l := t)).length_le
      have h := Marked.word hword hrest (marked_marks (t.dropWhile (!isSeparator ·)))
      rw [← hword.marks_append hrest] at h
      rwa [List.cons_append, List.takeWhile_append_dropWhile] at h
termination_by a.length

/-! ### Clauses with their operands -/

theorem IsOperand.all_isOperator {u : List Char} (hu : IsOperand u) :
    u.all isOperator = false := by
  obtain ⟨c, s, rfl⟩ := List.exists_cons_of_ne_nil hu.ne_nil
  rw [List.all_cons, hu.head c rfl, Bool.false_and]

theorem IsOperand.startsOperand {u : List Char} (hu : IsOperand u) (ms : List (List Char)) :
    startsOperand (u :: ms) = true := by
  obtain ⟨c, s, rfl⟩ := List.exists_cons_of_ne_nil hu.ne_nil
  have hcomma := (Bool.or_eq_false_iff.mp (hu.chars c (List.mem_cons_self ..))).1
  rw [Constraint.startsOperand, bne, hcomma, hu.head c rfl]
  rfl

theorem IsWord.isOperand {u : List Char} {ms : List (List Char)} (hu : IsWord u)
    (h : startsOperand (u :: ms) = true) : IsOperand u := by
  obtain ⟨c, s, rfl⟩ := List.exists_cons_of_ne_nil hu.ne_nil
  rw [startsOperand, Bool.and_eq_true] at h
  refine ⟨hu, fun d hd => ?_⟩
  cases hd
  simpa using h.2

/-- An operator makes one word with the operand right behind it. -/
theorem IsOperand.isWord_append {op u : List Char} (hop : ∀ c ∈ op, isOperator c = true)
    (hu : IsOperand u) : IsWord (op ++ u) :=
  ⟨List.append_ne_nil_of_right_ne_nil _ hu.ne_nil, List.forall_mem_append.mpr
    ⟨fun c hc => isSeparator_eq_false_of_isOperator (hop c hc), hu.chars⟩⟩

/-- A word that is more than an operator is a clause. -/
theorem IsWord.single {u : List Char} (hu : IsWord u) (hop : u.all isOperator = false) :
    Single u u := by
  have hsplit := List.takeWhile_append_dropWhile (p := isOperator) (l := u)
  have hoperand : IsOperand (u.dropWhile isOperator) := by
    refine ⟨⟨fun hnil => ?_, fun c hc => hu.chars c ((List.dropWhile_suffix _).mem hc)⟩,
      fun c hc => ?_⟩
    · rw [List.all_eq_true.mpr (List.dropWhile_eq_nil_iff.mp hnil)] at hop
      cases hop
    · have hhead := List.head?_dropWhile_not isOperator u
      rw [Option.mem_def.mp hc] at hhead
      simpa using hhead
  by_cases hne : u.takeWhile isOperator = []
  · rw [hne, List.nil_append] at hsplit
    rw [← hsplit]
    exact .bare hoperand
  · have h : Single _ _ := .operated hne (fun c hc => List.mem_takeWhile_imp hc)
      (List.forall_mem_nil _) hoperand
    rwa [List.nil_append, hsplit] at h

/-- A clause is one word, or its operator stands apart. -/
theorem Single.cases {s w : List Char} (h : Single s w) :
    (IsWord s ∧ w = s ∨ ∃ op c gap u, s = op ++ c :: (gap ++ u) ∧ w = op ++ u ∧ IsWord op ∧
      (∀ c ∈ op, isOperator c = true) ∧ (∀ d ∈ c :: gap, Text.isBlank d = true) ∧ IsOperand u) ∧
    w.all isOperator = false := by
  cases h with
  | bare hu => exact ⟨.inl ⟨hu.toIsWord, rfl⟩, hu.all_isOperator⟩
  | @operated op gap u hne hop hgap hu =>
    refine ⟨?_, by rw [List.all_append, hu.all_isOperator, Bool.and_false]⟩
    cases gap with
    | nil => exact .inl ⟨hu.isWord_append hop, rfl⟩
    | cons c gap =>
      exact .inr ⟨op, c, gap, u, rfl, rfl, ⟨hne, fun c hc =>
        isSeparator_eq_false_of_isOperator (hop c hc)⟩, hop, hgap, hu⟩

/-- A clause starts with no separator. -/
theorem Single.head {s w : List Char} (h : Single s w) :
    ∃ c t, s = c :: t ∧ isSeparator c = false := by
  obtain ⟨⟨hs, -⟩ | ⟨op, d, gap, u, rfl, -, hop, -⟩, -⟩ := h.cases
  · obtain ⟨c, t, rfl⟩ := List.exists_cons_of_ne_nil hs.ne_nil
    exact ⟨c, t, rfl, hs.chars c (List.mem_cons_self ..)⟩
  · obtain ⟨c, t, rfl⟩ := List.exists_cons_of_ne_nil hop.ne_nil
    exact ⟨c, _, rfl, hop.chars c (List.mem_cons_self ..)⟩

theorem Conjunction.head {a : List Char} {ws : List (List Char)} :
    Conjunction a ws → ∃ c t, a = c :: t ∧ isSeparator c = false
  | .last h _ | .cons h _ _ _ => by
    obtain ⟨c, t, rfl, hc⟩ := h.head
    exact ⟨c, _, rfl, hc⟩

/-! ### A tidy alternative is one of the grammar -/

/-- Nothing but separators, or clauses with separators in front of them. -/
def Continues (r : List Char) : Prop :=
  (∀ c ∈ r, isSeparator c = true) ∨
    ∃ seps b ws, (∀ c ∈ seps, isSeparator c = true) ∧ r = seps ++ b ∧ Conjunction b ws

theorem Continues.cons {c : Char} (hc : isSeparator c = true) {r : List Char} :
    Continues r → Continues (c :: r)
  | .inl hr => .inl (List.forall_mem_cons.mpr ⟨hc, hr⟩)
  | .inr ⟨seps, b, ws, hseps, heq, hb⟩ =>
    .inr ⟨c :: seps, b, ws, List.forall_mem_cons.mpr ⟨hc, hseps⟩, by rw [heq]; rfl, hb⟩

/-- A clause that ends where a separator follows may stand in front of clauses. -/
theorem Single.append {s w r : List Char} (h : Single s w)
    (hr : ∀ c ∈ r.head?, isSeparator c = true) : Continues r → ∃ ws, Conjunction (s ++ r) ws
  | .inl hseps => ⟨_, .last h hseps⟩
  | .inr ⟨seps, b, ws, hseps, heq, hb⟩ => by
    subst heq
    refine ⟨_, .cons h ?_ hseps hb⟩
    rintro rfl
    obtain ⟨c, t, rfl, hc⟩ := hb.head
    rw [hr c rfl] at hc
    cases hc

/-- What is known of an alternative from its words, once its operators have their operands. -/
structure Follows (a : List Char) (ms : List (List Char)) : Prop where
  continues : Continues a
  operand : startsOperand ms = true → ∃ gap u r, (∀ c ∈ gap, Text.isBlank c = true) ∧
    a = gap ++ (u ++ r) ∧ IsOperand u ∧ (∀ c ∈ r.head?, isSeparator c = true) ∧ Continues r
  conjunction : (∃ w ∈ ms.head?, w ≠ [',']) → ∃ gap b ws, (∀ c ∈ gap, Text.isBlank c = true) ∧
    a = gap ++ b ∧ Conjunction b ws

theorem Marked.follows {a : List Char} {ms : List (List Char)} (h : Marked a ms) :
    attached ms = true → Follows a ms := by
  induction h with
  | nil =>
    exact fun _ => ⟨.inl (List.forall_mem_nil _), fun h => (by cases h),
      fun ⟨_, hw, _⟩ => by cases hw⟩
  | @blank c t ms hc _ ih =>
    intro hms
    obtain ⟨hcontinues, hoperand, hconj⟩ := ih hms
    refine ⟨hcontinues.cons (isSeparator_of_isBlank hc), fun h => ?_, fun h => ?_⟩
    · obtain ⟨gap, u, r, hgap, rfl, hu, hr⟩ := hoperand h
      exact ⟨c :: gap, u, r, List.forall_mem_cons.mpr ⟨hc, hgap⟩, rfl, hu, hr⟩
    · obtain ⟨gap, b, ws, hgap, rfl, hb⟩ := hconj h
      exact ⟨c :: gap, b, ws, List.forall_mem_cons.mpr ⟨hc, hgap⟩, rfl, hb⟩
  | comma _ ih =>
    intro hms
    refine ⟨(ih hms).continues.cons rfl, fun h => (by cases h), fun ⟨w, hw, hne⟩ => ?_⟩
    cases hw
    exact absurd rfl hne
  | @word u r ms hu hr _ ih =>
    intro hms
    obtain ⟨hword, hms⟩ := Bool.and_eq_true_iff.mp hms
    obtain ⟨hcontinues, hoperand, -⟩ := ih hms
    obtain ⟨ws, hws⟩ : ∃ ws, Conjunction (u ++ r) ws := by
      by_cases hop : u.all isOperator = true
      · -- the operator takes the next word for its operand
        rw [hop] at hword
        obtain ⟨gap, v, t, hgap, rfl, hv, ht, hmore⟩ := hoperand hword
        have hs : Single (u ++ (gap ++ v)) (u ++ v) :=
          .operated hu.ne_nil (fun c => List.all_eq_true.mp hop c) hgap hv
        obtain ⟨ws, hws⟩ := hs.append ht hmore
        exact ⟨ws, by simpa using hws⟩
      · exact (hu.single ((Bool.not_eq_true _).mp hop)).append hr hcontinues
    refine ⟨.inr ⟨[], _, ws, List.forall_mem_nil _, rfl, hws⟩, fun h => ?_, fun _ => ?_⟩
    · exact ⟨[], u, r, List.forall_mem_nil _, rfl, hu.isOperand h, hr, hcontinues⟩
    · exact ⟨[], _, ws, List.forall_mem_nil _, rfl, hws⟩

theorem Tidy.conjunction {a : List Char} (h : Tidy a) :
    ∃ gap b ws, (∀ c ∈ gap, Text.isBlank c = true) ∧ a = gap ++ b ∧ Conjunction b ws :=
  ((marked_marks a).follows h.attached).conjunction h.head

/-! ### An alternative of the grammar is tidy -/

/-- A clause is read as one, without the blanks behind its operator. -/
theorem Single.tokens_eq {s w : List Char} (h : Single s w) : tokens s = [w] := by
  obtain ⟨⟨hs, rfl⟩ | ⟨op, c, gap, u, rfl, rfl, hword, hop, hgap, hu⟩, hw⟩ := h.cases
  · refine (congrArg (attachOperators []) hs.wordsBy).trans ?_
    exact attachOperators_of_forall (List.forall_mem_singleton.mpr hw)
  · obtain ⟨hc, hgap⟩ := List.forall_mem_cons.mp hgap
    have hafter : Text.wordsBy isSeparator (gap ++ (u ++ [])) = [u] := by
      rw [Text.wordsBy_append_append u (fun c hc => isSeparator_of_isBlank (hgap c hc))
        (List.forall_mem_nil _), hu.wordsBy]
    have hwords : Text.wordsBy isSeparator (op ++ c :: (gap ++ u)) = [op, u] := by
      rw [List.append_nil] at hafter
      rw [Text.wordsBy_append (isSeparator_of_isBlank hc), hword.wordsBy, hafter,
        List.singleton_append]
    refine (congrArg (attachOperators []) hwords).trans ?_
    simp only [attachOperators, List.all_eq_true.mpr hop, hu.all_isOperator]
    rfl

/-- A text that is one clause, blanks behind it apart. -/
theorem Single.clauses_eq {s w q : List Char} (h : Single s w) (hs : Barless s)
    (hq : ∀ c ∈ q, Text.isBlank c = true) :
    Text.trim (s ++ q) ≠ [] ∧ clauses (s ++ q) = [[w]] := by
  constructor
  · refine mt Text.trim_eq_nil_iff.mp fun hblank => ?_
    obtain ⟨c, t, rfl, hc⟩ := h.head
    rw [isSeparator_of_isBlank (hblank c (List.mem_append_left _ (List.mem_cons_self ..)))] at hc
    cases hc
  · have hclauses : clauses ([] ++ (s ++ q)) = clauses s :=
      clauses_append_append (List.forall_mem_nil _) hq s
    rw [← List.nil_append (s ++ q), hclauses, clauses_of_barless hs, h.tokens_eq]

theorem marks_gap_append {gap : List Char} (hgap : ∀ c ∈ gap, Text.isBlank c = true)
    (t : List Char) : marks (gap ++ t) = marks t := by
  induction gap with
  | nil => rfl
  | cons c gap ih =>
    obtain ⟨hc, hgap⟩ := List.forall_mem_cons.mp hgap
    rw [List.cons_append, marks_cons_of_isBlank hc, ih hgap]

/-- The words of a clause start with no comma and have their operand. -/
theorem Single.marks_eq {s w : List Char} (h : Single s w) :
    ∃ m ms, marks s = m :: ms ∧ m ≠ [','] ∧ ∀ ns, attached (m :: ms ++ ns) = attached ns := by
  obtain ⟨⟨hs, rfl⟩ | ⟨op, c, gap, u, rfl, rfl, hword, hop, hgap, hu⟩, hw⟩ := h.cases
  · refine ⟨_, [], hs.marks, hs.ne_comma, fun ns => ?_⟩
    rw [List.singleton_append, attached, hw]
    rfl
  · have hmarks : marks (op ++ c :: (gap ++ u)) = [op, u] := by
      rw [marks_append (isSeparator_of_isBlank (hgap c (List.mem_cons_self ..))), hword.marks,
        ← List.cons_append, marks_gap_append hgap, hu.marks, List.singleton_append]
    refine ⟨op, [u], hmarks, hword.ne_comma, fun ns => ?_⟩
    rw [List.cons_append, List.singleton_append, attached, attached, hu.startsOperand,
      hu.all_isOperator, Bool.or_true]
    rfl

/-- Separators need no operand and are none. -/
theorem attached_marks_append {seps : List Char} (hseps : ∀ c ∈ seps, isSeparator c = true)
    (t : List Char) : attached (marks (seps ++ t)) = attached (marks t) := by
  induction seps with
  | nil => rfl
  | cons c seps ih =>
    obtain ⟨hc, hseps⟩ := List.forall_mem_cons.mp hseps
    rw [← ih hseps, List.cons_append]
    rcases Bool.or_eq_true_iff.mp hc with hcomma | hblank
    · rw [beq_iff_eq.mp hcomma, marks_cons_comma]
      rfl
    · rw [marks_cons_of_isBlank hblank]

/-- What a clause in front adds, when separators or the end follow it. -/
theorem Single.append_eq {s w : List Char} (h : Single s w) {seps t : List Char}
    (hseps : ∀ c ∈ seps, isSeparator c = true) (hend : seps = [] → t = []) :
    (∃ m ∈ (marks (s ++ (seps ++ t))).head?, m ≠ [',']) ∧
      attached (marks (s ++ (seps ++ t))) = attached (marks t) ∧
      tokens (s ++ (seps ++ t)) = w :: tokens t := by
  obtain ⟨m, ms, hmarks, hcomma, hattached⟩ := h.marks_eq
  cases seps with
  | nil =>
    have hsame := hattached []
    rw [List.append_nil] at hsame
    rw [hend rfl, List.append_nil, List.append_nil, hmarks, h.tokens_eq]
    exact ⟨⟨m, rfl, hcomma⟩, hsame, rfl⟩
  | cons c seps =>
    obtain ⟨hc, hmore⟩ := List.forall_mem_cons.mp hseps
    have htokens : tokens (seps ++ (t ++ [])) = tokens t :=
      tokens_append_append t hmore (List.forall_mem_nil _)
    rw [List.append_nil] at htokens
    refine ⟨⟨m, ?_, hcomma⟩, ?_, ?_⟩
    · rw [List.cons_append, marks_append hc, hmarks]
      rfl
    · rw [List.cons_append, marks_append hc, hmarks, hattached, ← List.cons_append,
        attached_marks_append hseps]
    · rw [List.cons_append, tokens_append hc, h.tokens_eq, htokens, List.singleton_append]
      rw [h.tokens_eq]
      exact List.forall_mem_singleton.mpr h.cases.2

theorem Conjunction.tidy {a : List Char} {ws : List (List Char)} (h : Conjunction a ws) :
    Tidy a ∧ tokens a = ws := by
  induction h with
  | @last s w seps h hseps =>
    obtain ⟨hhead, hattached, htokens⟩ := h.append_eq (t := []) hseps fun _ => rfl
    rw [List.append_nil] at hhead hattached htokens
    exact ⟨⟨hhead, hattached⟩, htokens⟩
  | cons h hne hseps _ ih =>
    obtain ⟨hhead, hattached, htokens⟩ := h.append_eq hseps fun hnil => absurd hnil hne
    exact ⟨⟨hhead, hattached.trans ih.1.attached⟩, htokens.trans (congrArg _ ih.2)⟩

/-- Blanks in front change nothing. -/
theorem Conjunction.tidy_append {gap b : List Char} {ws : List (List Char)}
    (hgap : ∀ c ∈ gap, Text.isBlank c = true) (h : Conjunction b ws) :
    Tidy (gap ++ b) ∧ tokens (gap ++ b) = ws := by
  obtain ⟨hb, htokens⟩ := h.tidy
  have hgapTokens : tokens (gap ++ (b ++ [])) = tokens b :=
    tokens_append_append b (fun c hc => isSeparator_of_isBlank (hgap c hc)) (List.forall_mem_nil _)
  rw [List.append_nil] at hgapTokens
  refine ⟨⟨?_, ?_⟩, hgapTokens.trans htokens⟩
  · rw [marks_gap_append hgap]
    exact hb.head
  · rw [marks_gap_append hgap]
    exact hb.attached

/-! ### Alternatives -/

theorem barless_gap {gap : List Char} (hgap : ∀ c ∈ gap, Text.isBlank c = true) : Barless gap :=
  fun c hc => ne_bar_of_isBlank (hgap c hc)

/-- A conjunction is not empty, so no bar starts it. -/
theorem Conjunction.head_ne {gap a : List Char} {ws : List (List Char)}
    (hgap : ∀ c ∈ gap, Text.isBlank c = true) (ha : Barless a) (h : Conjunction a ws)
    (rest : List Char) : (gap ++ a ++ rest).head? ≠ some '|' := by
  obtain ⟨c, t, rfl, -⟩ := h.head
  have hbarless := List.forall_mem_append.mpr ⟨barless_gap hgap, ha⟩
  obtain ⟨d, u, hdu⟩ := List.exists_cons_of_ne_nil (List.append_ne_nil_of_right_ne_nil gap
    (List.cons_ne_nil c t))
  rw [hdu, List.cons_append, List.head?_cons]
  exact fun hbar => hbarless d (hdu ▸ List.mem_cons_self ..) (Option.some.inj hbar)

theorem Alternatives.head_ne {s : List Char} {wss : List (List (List Char))} :
    Alternatives s wss → s.head? ≠ some '|'
  | .last hgap ha h => by simpa using h.head_ne hgap ha []
  | .cons hgap ha h _ _ => h.head_ne hgap ha _

theorem Alternatives.parted {s : List Char} {wss : List (List (List Char))}
    (h : Alternatives s wss) : ∃ as, Parted s as ∧ (∀ a ∈ as, Tidy a) ∧ as.map tokens = wss := by
  induction h with
  | last hgap ha h =>
    obtain ⟨htidy, htokens⟩ := h.tidy_append hgap
    exact ⟨_, .last (List.forall_mem_append.mpr ⟨barless_gap hgap, ha⟩),
      List.forall_mem_singleton.mpr htidy, congrArg (fun w => [w]) htokens⟩
  | cons hgap ha h hbar hrest ih =>
    obtain ⟨as, hparted, has, hmap⟩ := ih
    obtain ⟨htidy, htokens⟩ := h.tidy_append hgap
    refine ⟨_, .cons (List.forall_mem_append.mpr ⟨barless_gap hgap, ha⟩)
      (hbar.imp_right fun hone => ⟨hone, hrest.head_ne⟩) hparted,
      List.forall_mem_cons.mpr ⟨htidy, has⟩, ?_⟩
    rw [List.map_cons, htokens, hmap]

theorem Parted.exists_alternatives {s : List Char} {as : List (List Char)} (h : Parted s as) :
    (∀ a ∈ as, Tidy a) → ∃ wss, Alternatives s wss := by
  induction h with
  | last ha =>
    intro has
    obtain ⟨gap, b, ws, hgap, rfl, hb⟩ := (has _ (List.mem_singleton_self _)).conjunction
    exact ⟨_, .last hgap (List.forall_mem_append.mp ha).2 hb⟩
  | cons ha hbar _ ih =>
    intro has
    obtain ⟨hfirst, hmore⟩ := List.forall_mem_cons.mp has
    obtain ⟨gap, b, ws, hgap, rfl, hb⟩ := hfirst.conjunction
    obtain ⟨wss, hwss⟩ := ih hmore
    exact ⟨_, .cons hgap (List.forall_mem_append.mp ha).2 hb (hbar.imp_right And.left) hwss⟩

/-- The texts of the grammar are those with tidy alternatives, and their clauses are those that the
    reader finds. -/
theorem alternatives_iff {s : List Char} {wss : List (List (List Char))} :
    Alternatives s wss ↔ (∀ a ∈ alternatives s, Tidy a) ∧ wss = clauses s := by
  have hclauses : ∀ {wss}, Alternatives s wss →
      (∀ a ∈ alternatives s, Tidy a) ∧ wss = clauses s := by
    intro wss h
    obtain ⟨as, hparted, has, hmap⟩ := h.parted
    rw [clauses, hparted.alternatives_eq, hmap]
    exact ⟨has, rfl⟩
  refine ⟨hclauses, ?_⟩
  rintro ⟨has, rfl⟩
  obtain ⟨wss, h⟩ := (parted_alternatives s).exists_alternatives has
  rwa [(hclauses h).2] at h

/-! ### What the reader takes -/

theorem Alternatives.ne_nil {s : List Char} {wss : List (List (List Char))}
    (h : Alternatives s wss) : s ≠ [] := by
  rintro rfl
  exact absurd (alternatives_iff.mp h).1 (by decide)

theorem regular_of_denotes {s : String} {c : Constraint} : Denotes s c → Regular s
  | ⟨_, _, h, _⟩ => (alternatives_iff.mp h).1

/-- The reader takes every text of the grammar for what it denotes. The other texts that it takes
    have an empty alternative, a comma in front of an alternative, or an operator without an operand
    of its own. -/
theorem parse_iff_denotes (s : String) (c : Constraint) :
    parse s = .ok c ∧ Regular s ↔ Denotes s c := by
  have hclauses := clauses_trim s.toList
  constructor
  · rintro ⟨hparse, hregular⟩
    rw [parse_eq] at hparse
    split at hparse
    case isTrue => cases hparse
    case isFalse =>
      obtain ⟨css, hcss, h⟩ := bind_eq_ok.mp hparse
      split at h
      case isTrue => cases h
      case isFalse hne =>
        cases h
        exact ⟨_, css, alternatives_iff.mpr ⟨hregular, rfl⟩, hclauses ▸ hcss, rfl,
          (Bool.not_eq_true _).mp hne⟩
  · rintro ⟨wss, css, h, hcss, rfl, hne⟩
    obtain ⟨hregular, rfl⟩ := alternatives_iff.mp h
    rw [hclauses] at hcss
    refine ⟨?_, hregular⟩
    rw [parse_eq, List.isEmpty_eq_false_iff.mpr h.ne_nil, hcss]
    refine if_neg (?_ : ¬ (anyOf css).isEmpty = true)
    rw [hne]
    exact Bool.false_ne_true

/-- An alternative without a clause allows every version, a comma in front of a clause does not
    count, and an operator takes its version from behind a comma or another operator. -/
theorem parse_takes_irregular :
    parse "^1 ||" = .ok any ∧
      ∀ s ∈ ["^1 ||", ",^1", ">=,1.0", "> =1.0"],
        (∃ c, parse s = .ok c) ∧ ¬ ∃ c, Denotes s c := by
  have hread : ∀ s ∈ ["^1 ||", ",^1", ">=,1.0", "> =1.0"],
      (parse s).toOption.any (fun _ => true) = true ∧ ¬ Regular s := by decide +kernel
  refine ⟨by decide +kernel, fun s hs => ⟨?_, fun ⟨c, hc⟩ => ?_⟩⟩
  · obtain ⟨c, hc, -⟩ := exists_ok_of_any (hread s hs).1
    exact ⟨c, hc⟩
  · exact (hread s hs).2 (regular_of_denotes hc)

end Constraint

end ManifestMigration
