import ManifestMigration.Constraint.Reader
import ManifestMigration.Proofs.Constraint.Operations
import ManifestMigration.Proofs.Sequence
import ManifestMigration.Proofs.Version.Text

/-! Reading back clauses that were put together with commas.

    A clause that holds no separator and is not just an operator comes back from the text as it was
    put in, and the text allows what each of its clauses allows. The clauses of interest compare
    with one version or exclude a series. -/

namespace ManifestMigration

namespace Constraint

/-! ### Cutting into clauses -/

/-- A character that clauses are written with. -/
def isClauseChar (c : Char) : Bool := isOperator c || Version.isTextChar c || c == '*'

/-- A text that is one clause wherever it stands: nothing in it separates clauses, and it is more
    than an operator. -/
structure Standalone (w : String) : Prop where
  chars : ∀ c ∈ w.toList, isClauseChar c = true
  named : ∃ c ∈ w.toList, isOperator c = false

theorem isBlank_eq_false_of_isClauseChar {c : Char} (h : isClauseChar c = true) :
    Text.isBlank c = false :=
  Text.isBlank_eq_false (by decide) h

theorem alternatives_of_forall : ∀ {s : List Char}, (∀ c ∈ s, c ≠ '|') → alternatives s = [s]
  | [], _ => rfl
  | c :: s, h => by
    obtain ⟨hc, hs⟩ := List.forall_mem_cons.mp h
    rw [alternatives, alternatives_of_forall hs]
    · exact fun _ hbar _ => hc hbar
    · exact hc

theorem attachOperators_of_forall : ∀ {ws : List (List Char)},
    (∀ w ∈ ws, w.all isOperator = false) → attachOperators [] ws = ws
  | [], _ => rfl
  | w :: ws, h => by
    obtain ⟨hw, hws⟩ := List.forall_mem_cons.mp h
    rw [attachOperators, hw, attachOperators_of_forall hws]
    rfl

/-- Clauses that were joined by commas are cut apart again. -/
theorem tokens_intercalate {ws : List String} (hne : ws ≠ []) (hs : ∀ w ∈ ws, Standalone w) :
    tokens (",".intercalate ws).toList = ws.map String.toList := by
  have hpieces : Text.pieces (fun c => c == ',' || Text.isBlank c) (",".intercalate ws).toList =
      ws.map String.toList := by
    rw [String.toList_intercalate]
    refine Text.pieces_intercalate rfl (by simpa using hne) fun u hu c hc => ?_
    obtain ⟨w, hw, rfl⟩ := List.mem_map.mp hu
    have hchar := (hs w hw).chars c hc
    rw [isBlank_eq_false_of_isClauseChar hchar, Bool.or_false, beq_eq_false_iff_ne]
    rintro rfl
    revert hchar
    decide
  have hword : ∀ u ∈ ws.map String.toList, (!u.isEmpty) = true := by
    intro u hu
    obtain ⟨w, hw, rfl⟩ := List.mem_map.mp hu
    obtain ⟨c, hc, _⟩ := (hs w hw).named
    simpa using List.ne_nil_of_mem hc
  rw [tokens, Text.wordsBy, hpieces, List.filter_eq_self.mpr hword]
  refine attachOperators_of_forall fun u hu => ?_
  obtain ⟨w, hw, rfl⟩ := List.mem_map.mp hu
  obtain ⟨c, hc, hname⟩ := (hs w hw).named
  exact List.all_eq_false.mpr ⟨c, hc, by rw [hname]; decide⟩

/-! ### What clauses allow together -/

/-- What a clause allows, read from its text. -/
def readOne (w : List Char) : Except Error Constraint := readClause w >>= Clause.constraint

/-- The cuts of what a clause allows; none when it cannot be read. -/
def cutsRead (w : String) : Set Cut := {p | ∃ c, readOne w.toList = .ok c ∧ p ∈ c.cuts}

theorem mem_cutsRead {w : String} {c : Constraint} (h : readOne w.toList = .ok c) {p : Cut} :
    p ∈ cutsRead w ↔ p ∈ c.cuts :=
  ⟨fun ⟨_, hc, hp⟩ => Except.ok.inj (h.symm.trans hc) ▸ hp, fun hp => ⟨c, h, hp⟩⟩

theorem restrict_eq {soFar c : Constraint} {w : List Char} (h : readOne w = .ok c) :
    restrict soFar w = .ok (soFar.inter c) := by
  obtain ⟨clause, hclause, hc⟩ := bind_eq_ok.mp h
  exact bind_eq_ok.mpr ⟨clause, hclause, bind_eq_ok.mpr ⟨c, hc, rfl⟩⟩

/-- Clauses that have a cut in common can all be read, and restrict to what they have in common. -/
theorem foldlM_restrict {p : Cut} : ∀ {ws : List String} (soFar : Constraint),
    (∀ w ∈ ws, p ∈ cutsRead w) → ∃ d, (ws.map String.toList).foldlM restrict soFar = .ok d ∧
      ∀ q, q ∈ d.cuts ↔ q ∈ soFar.cuts ∧ ∀ w ∈ ws, q ∈ cutsRead w
  | [], soFar, _ => ⟨soFar, rfl, fun q => by simp⟩
  | w :: ws, soFar, h => by
    obtain ⟨⟨c, hc, _⟩, hws⟩ := List.forall_mem_cons.mp h
    obtain ⟨d, hd, hcuts⟩ := foldlM_restrict (soFar.inter c) hws
    refine ⟨d, ?_, fun q => ?_⟩
    · rw [List.map_cons, List.foldlM_cons, restrict_eq hc]
      exact hd
    · rw [hcuts, mem_cuts_inter, List.forall_mem_cons, mem_cutsRead hc, and_assoc]

/-- An alternative of clauses that have a cut in common can be read, and allows what they have in
    common. -/
theorem foldlM_tokens {ws : List String} (hs : ∀ w ∈ ws, Standalone w) (hne : ws ≠ []) {p : Cut}
    (hcommon : ∀ w ∈ ws, p ∈ cutsRead w) :
    ∃ d, (tokens (",".intercalate ws).toList).foldlM restrict any = .ok d ∧
      ∀ q, q ∈ d.cuts ↔ q < ⊤ ∧ ∀ w ∈ ws, q ∈ cutsRead w := by
  obtain ⟨d, hd, hcuts⟩ := foldlM_restrict any hcommon
  refine ⟨d, by rw [tokens_intercalate hne hs, hd], fun q => ?_⟩
  rw [hcuts, mem_cuts_any]

/-- A text of clauses that have a cut in common is read, and allows what they have in common. -/
theorem parse_intercalate {ws : List String} (hs : ∀ w ∈ ws, Standalone w) (hne : ws ≠ [])
    {p : Cut} (hp : p < ⊤) (hcommon : ∀ w ∈ ws, p ∈ cutsRead w) :
    ∃ d, parse (",".intercalate ws) = .ok d ∧
      ∀ q, q ∈ d.cuts ↔ q < ⊤ ∧ ∀ w ∈ ws, q ∈ cutsRead w := by
  obtain ⟨d, hd, hcuts⟩ := foldlM_tokens hs hne hcommon
  have hchars : ∀ c ∈ (",".intercalate ws).toList, Text.isBlank c = false ∧ c ≠ '|' := by
    rw [String.toList_intercalate]
    intro c hc
    rcases Text.of_mem_intercalate hc with rfl | ⟨u, hu, hc⟩
    · decide
    · obtain ⟨w, hw, rfl⟩ := List.mem_map.mp hu
      have hchar := (hs w hw).chars c hc
      refine ⟨isBlank_eq_false_of_isClauseChar hchar, ?_⟩
      rintro rfl
      revert hchar
      decide
  have hnonempty : (",".intercalate ws).toList.isEmpty = false := by
    refine Bool.eq_false_iff.mpr fun hempty => hne ?_
    have htokens := tokens_intercalate hne hs
    rw [List.isEmpty_iff.mp hempty] at htokens
    exact List.map_eq_nil_iff.mp htokens.symm
  have hunion : ∀ q, q ∈ (empty.union d).cuts ↔ q < ⊤ ∧ ∀ w ∈ ws, q ∈ cutsRead w := by
    intro q
    rw [mem_cuts_union, or_iff_right (show q ∉ empty.cuts from mem_cutsOf_nil), hcuts]
  have hinhabited : (empty.union d).isEmpty = false := by
    obtain ⟨r, hr, _⟩ := (hunion p).mpr ⟨hp, hcommon⟩
    exact List.isEmpty_eq_false_iff.mpr (List.ne_nil_of_mem hr)
  refine ⟨empty.union d, ?_, hunion⟩
  have hextend : extend empty (",".intercalate ws).toList = .ok (empty.union d) := by
    rw [extend, hd]
    rfl
  have htrim : Text.trim (",".intercalate ws).toList = (",".intercalate ws).toList :=
    Text.trim_eq_self (fun c hc => (hchars c (List.mem_of_mem_head? hc)).1) fun c hc =>
      (hchars c (List.mem_of_mem_getLast? hc)).1
  simp only [parse, htrim, hnonempty, alternatives_of_forall fun c hc => (hchars c hc).2]
  refine bind_eq_ok.mpr ⟨empty.union d, ?_, by rw [hinhabited]; rfl⟩
  rw [List.foldlM_cons, hextend]
  rfl

/-! ### Comparisons -/

theorem isOperator_eq_false_of_isDigit {c : Char} (h : Text.isDigit c = true) :
    isOperator c = false := by
  by_contra hop
  simp only [isOperator, Bool.not_eq_false, Bool.or_eq_true, beq_iff_eq] at hop
  rcases hop with ((((rfl | rfl) | rfl) | rfl) | rfl) | rfl <;> revert h <;> decide

/-- A text that starts with an operator is not made of wildcards. -/
theorem all_isStar_eq_false {c : Char} (hc : isOperator c = true) (s : List Char) :
    (dotted (Version.dropV (c :: s))).all isStar = false := by
  have hparts : (c == 'v' || c == 'V') = false ∧ (c == '.') = false ∧ c ∉ ['x', 'X', '*'] := by
    simp only [isOperator, Bool.or_eq_true, beq_iff_eq] at hc
    rcases hc with ((((rfl | rfl) | rfl) | rfl) | rfl) | rfl <;> decide
  obtain ⟨hv, hdot, hstar⟩ := hparts
  obtain ⟨w, ws, hpieces⟩ := Text.pieces_cons_of_neg (· == '.') hdot s
  rw [Version.dropV, hv, if_neg Bool.false_ne_true, dotted, hpieces, List.all_cons]
  refine Bool.and_eq_false_imp.mpr fun h => absurd ?_ hstar
  simp only [isStar, Bool.or_eq_true, beq_iff_eq, List.cons.injEq] at h
  rcases h with (⟨rfl, -⟩ | ⟨rfl, -⟩) | ⟨rfl, -⟩ <;> decide

/-- An operator ends where a digit follows it. -/
theorem splitOperator_append {op operand : List Char} (hop : ∀ c ∈ op, isOperator c = true)
    (hoperand : ∃ c s, operand = c :: s ∧ Text.isDigit c = true) :
    (op ++ operand).takeWhile isOperator = op ∧ (op ++ operand).dropWhile isOperator = operand := by
  obtain ⟨c, s, rfl, hc⟩ := hoperand
  have hneg : ¬ isOperator c = true := by rw [isOperator_eq_false_of_isDigit hc]; decide
  rw [List.takeWhile_append_of_pos hop, List.dropWhile_append_of_pos hop,
    List.takeWhile_cons_of_neg hneg, List.dropWhile_cons_of_neg hneg, List.append_nil]
  exact ⟨rfl, rfl⟩

theorem dropLowerV_of_isDigit {c : Char} (hc : Text.isDigit c = true) (s : List Char) :
    dropLowerV (c :: s) = c :: s := by
  unfold dropLowerV
  split
  case h_1 heq =>
    obtain ⟨rfl, -⟩ := List.cons.inj heq
    exact absurd hc (by decide)
  case h_2 => rfl

/-- A version is no series, because it holds no wildcard. -/
theorem seriesSegments?_eq_none {text : List Char}
    (hchars : ∀ c ∈ text, Version.isTextChar c = true)
    (hhead : ∃ c s, text = c :: s ∧ Text.isDigit c = true) : seriesSegments? text = none := by
  obtain ⟨c, s, rfl, hc⟩ := hhead
  have hstar : ∀ piece ∈ dotted (c :: s), isStar piece = false := by
    intro piece hpiece
    by_contra hstar
    have hmem : piece.all Version.isTextChar = true := List.all_eq_true.mpr fun a ha =>
      hchars a (Text.mem_of_mem_pieces ha hpiece)
    simp only [isStar, Bool.not_eq_false, Bool.or_eq_true, beq_iff_eq] at hstar
    rcases hstar with (rfl | rfl) | rfl <;> revert hmem <;> decide
  simp only [seriesSegments?, dropLowerV_of_isDigit hc]
  refine if_neg fun h => ?_
  simp only [Bool.and_eq_true, Bool.not_eq_true', List.isEmpty_eq_false_iff] at h
  obtain ⟨⟨-, hne⟩, hall⟩ := h
  obtain ⟨piece, more, hmore⟩ := List.exists_cons_of_ne_nil hne
  rw [hmore, List.all_cons, hstar piece, Bool.false_and] at hall
  · cases hall
  · exact (List.dropWhile_suffix isSegment).mem (hmore ▸ List.mem_cons_self ..)

theorem readVersion_text {v : Version} (hv : v.Legible) : readVersion v.text.toList = .ok v := by
  rw [readVersion, String.ofList_toList, show Version.parse? v.text = some v from hv]

/-- A clause that starts with an operator other than a tilde or a caret is a plain one. -/
theorem readClause_eq_readPlain {a : Char} (ha : isOperator a = true) (htilde : a ≠ '~')
    (hcaret : a ≠ '^') (s : List Char) : readClause (a :: s) = readPlain (a :: s) := by
  unfold readClause
  rw [all_isStar_eq_false ha, if_neg Bool.false_ne_true]
  split
  case h_1 heq => exact absurd (List.cons.inj heq).1 htilde
  case h_2 heq => exact absurd (List.cons.inj heq).1 htilde
  case h_3 heq => exact absurd (List.cons.inj heq).1 hcaret
  case h_4 => rfl

/-- The operators of comparisons. -/
def operators : List (List Char) :=
  ["<".toList, "<=".toList, ">".toList, ">=".toList, "!=".toList, "<>".toList, [], "=".toList,
    "==".toList]

theorem mem_operators {op : List Char} {comparison : Comparison}
    (h : comparison? op = some comparison) : op ∈ operators := by
  rw [comparison?] at h
  split at h
  case h_10 => cases h
  all_goals
    rename_i heq
    rw [← String.toList_inj, String.toList_ofList] at heq
    rw [heq]
    decide

theorem isOperator_of_mem_operators {op : List Char} {c : Char} (hop : op ∈ operators)
    (hc : c ∈ op) : isOperator c = true := by
  have hall : (operators.all fun op => op.all isOperator) = true := by decide
  exact List.all_eq_true.mp (List.all_eq_true.mp hall op hop) c hc

/-- A comparison with a version that can be written down is read back. -/
theorem readPlain_comparison {op : List Char} {comparison : Comparison} {v : Version}
    (hop : comparison? op = some comparison) (hv : v.Legible) :
    readPlain (op ++ v.text.toList) = .ok (.compare comparison v) := by
  obtain ⟨-, hchars, hhead, -⟩ := Version.of_ofText?_eq_some hv.ofText?_eq
  obtain ⟨htake, hdrop⟩ := splitOperator_append
    (fun _ => isOperator_of_mem_operators (mem_operators hop)) hhead
  have hseries := seriesSegments?_eq_none hchars hhead
  obtain ⟨c, s, htext, -⟩ := hhead
  simp only [readPlain, htake, hdrop, hop, hseries, readVersion_text hv]
  rw [htext]
  rfl

/-! ### Series -/

/-- Numbers with dots between them and a wildcard behind. -/
def starred (ns : List Nat) : List Char := ['.'].intercalate (ns.map Text.digits ++ [['*']])

theorem isSegment_digits (n : Nat) : isSegment (Text.digits n) = true := by
  rw [isSegment, Bool.and_eq_true, Bool.not_eq_true', List.isEmpty_eq_false_iff, List.all_eq_true]
  exact ⟨Nat.toDigits_ne_nil, fun _ => Text.isDigit_of_mem_digits⟩

theorem dotted_starred (ns : List Nat) :
    dotted (starred ns) = ns.map Text.digits ++ [['*']] := by
  refine Text.pieces_intercalate rfl (by simp) fun w hw c hc => ?_
  rcases List.mem_append.mp hw with hw | hw
  · obtain ⟨n, _, rfl⟩ := List.mem_map.mp hw
    have hdigit := Text.isDigit_of_mem_digits hc
    rw [beq_eq_false_iff_ne]
    rintro rfl
    exact absurd hdigit (by decide)
  · rw [List.mem_singleton.mp hw, List.mem_singleton] at hc
    rw [hc]
    rfl

/-- A series starts with a digit. -/
theorem head_starred (n : Nat) (ns : List Nat) :
    ∃ c s, starred (n :: ns) = c :: s ∧ Text.isDigit c = true := by
  obtain ⟨c, u, hu⟩ : ∃ c u, Text.digits n = c :: u :=
    List.exists_cons_of_ne_nil Nat.toDigits_ne_nil
  have hc : Text.isDigit c = true := Text.isDigit_of_mem_digits (hu ▸ List.mem_cons_self ..)
  rw [starred, List.map_cons, List.cons_append, List.intercalate_cons_of_ne_nil (by simp), hu]
  exact ⟨c, _, rfl, hc⟩

/-- The segments of a series come back. -/
theorem seriesSegments?_starred {n : Nat} {ns : List Nat} (hlength : (n :: ns).length ≤ 3) :
    seriesSegments? (starred (n :: ns)) = some ((n :: ns).map Text.digits) := by
  have hsegments : ∀ w ∈ (n :: ns).map Text.digits, isSegment w = true := by
    intro w hw
    obtain ⟨m, _, rfl⟩ := List.mem_map.mp hw
    exact isSegment_digits m
  have hstar : ¬ isSegment ['*'] = true := by decide
  have hdrop : dropLowerV (starred (n :: ns)) = starred (n :: ns) := by
    obtain ⟨c, s, heq, hc⟩ := head_starred n ns
    rw [heq, dropLowerV_of_isDigit hc]
  simp only [seriesSegments?, hdrop, dotted_starred, List.takeWhile_append_of_pos hsegments,
    List.dropWhile_append_of_pos hsegments, List.takeWhile_cons_of_neg hstar,
    List.dropWhile_cons_of_neg hstar, List.append_nil]
  refine if_pos ?_
  rw [List.length_map]
  simpa [isStar] using hlength

/-- The exclusion of a series is read back. -/
theorem readPlain_series {major : Nat} {minor? : Option Nat} (hmajor : major < Text.wordLimit)
    (hminor : ∀ minor ∈ minor?, minor < Text.wordLimit) :
    readPlain ("!=".toList ++ starred (major :: minor?.toList)) =
      .ok (.series major minor? true) := by
  have hlength : (major :: minor?.toList).length ≤ 3 := by cases minor? <;> simp
  have hop : "!=".toList ∈ operators := by decide
  obtain ⟨htake, hdrop⟩ := splitOperator_append (fun _ => isOperator_of_mem_operators hop)
    (head_starred major minor?.toList)
  have hseries := seriesSegments?_starred hlength
  obtain ⟨c, s, htext, -⟩ := head_starred major minor?.toList
  have hread : readSeries ((major :: minor?.toList).map Text.digits) true =
      .ok (.series major minor? true) := by
    cases minor? with
    | none => simp [readSeries, Text.word?_digits hmajor]
    | some minor =>
      have hword := Text.word?_digits (hminor minor rfl)
      simp [readSeries, Text.word?_digits hmajor, hword]
  simp only [readPlain, htake, hdrop, hseries, String.ofList_toList]
  rw [htext, show comparison? "!=".toList = some .different by decide]
  exact hread

/-! ### Whole clauses -/

theorem readClause_append {op : String} (comparison : Comparison) (hne : op ≠ "")
    (hop : comparison? op.toList = some comparison) (s : List Char) :
    readClause (op.toList ++ s) = readPlain (op.toList ++ s) := by
  have hmem := mem_operators hop
  have hplain : (operators.all fun op => op.head?.all fun a => a != '~' && a != '^') = true := by
    decide
  cases hlist : op.toList with
  | nil => exact absurd (String.toList_eq_nil_iff.mp hlist) hne
  | cons a rest =>
    rw [hlist] at hmem
    have ha : (a != '~' && a != '^') = true := List.all_eq_true.mp hplain _ hmem
    rw [Bool.and_eq_true, bne_iff_ne, bne_iff_ne] at ha
    exact readClause_eq_readPlain (isOperator_of_mem_operators hmem (List.mem_cons_self ..)) ha.1
      ha.2 _

theorem mem_cutsRead_comparison {op : String} {v : Version} (comparison : Comparison)
    (hne : op ≠ "") (hop : comparison? op.toList = some comparison) (hv : v.Legible) {p : Cut} :
    p ∈ cutsRead (op ++ v.text) ↔ p ∈ (Clause.compared v comparison).cuts := by
  refine mem_cutsRead ?_
  rw [String.toList_append, readOne, readClause_append comparison hne hop,
    readPlain_comparison hop hv]
  rfl

theorem standalone_append {op w : String} (comparison : Comparison)
    (hop : comparison? op.toList = some comparison) (hchars : ∀ c ∈ w.toList, isClauseChar c = true)
    (hhead : ∃ c s, w.toList = c :: s ∧ Text.isDigit c = true) : Standalone (op ++ w) := by
  obtain ⟨a, s, hs, ha⟩ := hhead
  refine ⟨fun c hc => ?_, a, ?_, isOperator_eq_false_of_isDigit ha⟩
  · rw [String.toList_append] at hc
    rcases List.mem_append.mp hc with hc | hc
    · simp only [isClauseChar, isOperator_of_mem_operators (mem_operators hop) hc, Bool.true_or]
    · exact hchars c hc
  · rw [String.toList_append, hs]
    exact List.mem_append_right _ (List.mem_cons_self ..)

theorem standalone_comparison {op : String} {v : Version} (comparison : Comparison)
    (hop : comparison? op.toList = some comparison) (hv : v.Legible) :
    Standalone (op ++ v.text) := by
  obtain ⟨-, hchars, hhead, -⟩ := Version.of_ofText?_eq_some hv.ofText?_eq
  refine standalone_append comparison hop (fun c hc => ?_) hhead
  simp only [isClauseChar, hchars c hc, Bool.or_true, Bool.true_or]

end Constraint

end ManifestMigration
