import ManifestMigration.Proofs.Constraint.Grammar
import ManifestMigration.Proofs.Version.Segments

/-! What a series with wildcards allows.

    `1.2.*` is to allow the releases that begin with the segments that are written, and `!=1.2.*`
    the others. Only the first segment and a second one that can be read tell the reader anything: a
    second segment that does not fit a word, and a third one whatever it is, are dropped, and the
    series is that of the segments before. -/

namespace ManifestMigration

namespace Constraint

/-! ### The text of a series -/

/-- A series as it is written: one to three segments with wildcards behind them, perhaps after an
    operator and a `v`. -/
structure SeriesText where
  op : List Char
  v : List Char
  segments : List (List Char)
  stars : List (List Char)
  op_mem : op ∈ [[], ['=', '='], ['!', '=']]
  v_mem : v ∈ [[], ['v']]
  isSegment : ∀ s ∈ segments, isSegment s = true
  length_pos : 0 < segments.length
  length_le : segments.length ≤ 3
  stars_ne : stars ≠ []
  isStar : ∀ s ∈ stars, isStar s = true

namespace SeriesText

variable (t : SeriesText)

/-- The segments and wildcards, with dots between them. -/
def body : List Char := ['.'].intercalate (t.segments ++ t.stars)

/-- The text. -/
def text : String := String.ofList (t.op ++ (t.v ++ t.body))

/-- What is outside the series is asked for. -/
def excluded : Bool := t.op == ['!', '=']

/-- The second segment, as far as it is there and can be read. -/
def minor? : Option Nat := t.segments[1]? >>= Text.word?

/-- The segments that the reader goes by. -/
def telling : List (List Char) := t.segments.take (1 + t.minor?.toList.length)

/-- The characters of series. -/
def isChar (c : Char) : Bool :=
  isOperator c || Text.isDigit c || c == 'v' || c == 'x' || c == 'X' || c == '*' || c == '.'

theorem exists_segment : ∃ c s more, t.segments = (c :: s) :: more ∧
    Text.isDigit c = true := by
  obtain ⟨first, more, hfirst⟩ := List.exists_cons_of_length_pos t.length_pos
  have hsegment := t.isSegment first (hfirst ▸ List.mem_cons_self ..)
  rw [Constraint.isSegment, Bool.and_eq_true, Bool.not_eq_true', List.isEmpty_eq_false_iff,
    List.all_eq_true] at hsegment
  obtain ⟨c, s, rfl⟩ := List.exists_cons_of_ne_nil hsegment.1
  exact ⟨c, s, more, hfirst, hsegment.2 c (List.mem_cons_self ..)⟩

/-- The body starts with a digit. -/
theorem exists_body : ∃ c s, t.body = c :: s ∧ Text.isDigit c = true := by
  obtain ⟨c, s, more, hsegments, hc⟩ := t.exists_segment
  rw [body, hsegments, List.cons_append, List.intercalate_cons_of_ne_nil
    (List.append_ne_nil_of_right_ne_nil _ t.stars_ne)]
  exact ⟨c, _, rfl, hc⟩

theorem isChar_of_mem_piece {w : List Char} {c : Char} (hw : w ∈ t.segments ++ t.stars)
    (hc : c ∈ w) : isChar c = true ∧ c ≠ '.' := by
  rcases List.mem_append.mp hw with hw | hw
  · have hsegment := t.isSegment w hw
    rw [Constraint.isSegment, Bool.and_eq_true, List.all_eq_true] at hsegment
    have hdigit := hsegment.2 c hc
    refine ⟨by simp only [isChar, hdigit, Bool.or_true, Bool.true_or], ?_⟩
    rintro rfl
    exact absurd hdigit (by decide)
  · have hstar := t.isStar w hw
    simp only [Constraint.isStar, Bool.or_eq_true, beq_iff_eq] at hstar
    rcases hstar with (rfl | rfl) | rfl <;> rw [List.mem_singleton.mp hc] <;> decide

theorem isOperator_of_mem {c : Char} (hc : c ∈ t.op) : isOperator c = true := by
  have hall : ([[], ['=', '='], ['!', '=']].all fun op => op.all isOperator) = true := by decide
  exact List.all_eq_true.mp (List.all_eq_true.mp hall t.op t.op_mem) c hc

theorem isChar_of_mem {c : Char} (hc : c ∈ t.op ++ (t.v ++ t.body)) : isChar c = true := by
  rcases List.mem_append.mp hc with hc | hc
  · simp only [isChar, t.isOperator_of_mem hc, Bool.true_or]
  rcases List.mem_append.mp hc with hc | hc
  · have hall : ([[], ['v']].all fun v => v.all isChar) = true := by decide
    exact List.all_eq_true.mp (List.all_eq_true.mp hall t.v t.v_mem) c hc
  · rcases Text.of_mem_intercalate hc with rfl | ⟨w, hw, hc⟩
    · decide
    · exact (t.isChar_of_mem_piece hw hc).1

/-- Cutting at the dots gives the segments and wildcards back. -/
theorem dotted_body : dotted t.body = t.segments ++ t.stars := by
  refine Text.pieces_intercalate rfl (List.append_ne_nil_of_right_ne_nil _ t.stars_ne) ?_
  exact fun w hw c hc => beq_eq_false_iff_ne.mpr (t.isChar_of_mem_piece hw hc).2

theorem dropLowerV_operand : dropLowerV (t.v ++ t.body) = t.body := by
  obtain ⟨c, s, hbody, hc⟩ := t.exists_body
  have hv := t.v_mem
  simp only [List.mem_cons, List.not_mem_nil, or_false] at hv
  rcases hv with hv | hv
  · rw [hv, hbody]
    exact dropLowerV_of_isDigit hc s
  · rw [hv]
    rfl

theorem dropV_operand : Version.dropV (t.v ++ t.body) = t.body := by
  obtain ⟨c, s, hbody, hc⟩ := t.exists_body
  have hv := t.v_mem
  simp only [List.mem_cons, List.not_mem_nil, or_false] at hv
  rcases hv with hv | hv
  · rw [hv, List.nil_append, hbody, Version.dropV, if_neg]
    simp only [Bool.or_eq_true, beq_iff_eq]
    rintro (rfl | rfl) <;> exact absurd hc (by decide)
  · rw [hv]
    rfl

/-- A wildcard is no segment. -/
theorem isSegment_eq_false {w : List Char} (hw : Constraint.isStar w = true) :
    ¬ Constraint.isSegment w = true := by
  simp only [Constraint.isStar, Bool.or_eq_true, beq_iff_eq] at hw
  rcases hw with (rfl | rfl) | rfl <;> decide

theorem seriesSegments?_operand : seriesSegments? (t.v ++ t.body) = some t.segments := by
  obtain ⟨star, more, hstars⟩ := List.exists_cons_of_ne_nil t.stars_ne
  have hstar := isSegment_eq_false (t.isStar star (hstars ▸ List.mem_cons_self ..))
  have hall : (star :: more).all Constraint.isStar = true :=
    List.all_eq_true.mpr (hstars ▸ t.isStar)
  simp only [seriesSegments?, t.dropLowerV_operand, t.dotted_body, hstars,
    List.takeWhile_append_of_pos t.isSegment, List.dropWhile_append_of_pos t.isSegment,
    List.takeWhile_cons_of_neg hstar, List.dropWhile_cons_of_neg hstar, List.append_nil, hall]
  refine if_pos ?_
  simpa using ⟨t.length_pos, t.length_le⟩

/-- The operand starts with no operator. -/
theorem exists_operand : ∃ c s, t.v ++ t.body = c :: s ∧ isOperator c = false := by
  obtain ⟨c, s, hbody, hc⟩ := t.exists_body
  have hv := t.v_mem
  simp only [List.mem_cons, List.not_mem_nil, or_false] at hv
  rcases hv with hv | hv
  · exact ⟨c, s, by rw [hv, hbody]; rfl, isOperator_eq_false_of_isDigit hc⟩
  · exact ⟨'v', t.body, by rw [hv]; rfl, by decide⟩

/-! ### Reading it -/

/-- The text is one clause. -/
theorem clauses_text : Text.trim t.text.toList ≠ [] ∧
    clauses t.text.toList = [[t.op ++ (t.v ++ t.body)]] := by
  obtain ⟨c, s, hoperand, hc⟩ := t.exists_operand
  have hop : (t.op ++ (t.v ++ t.body)).all isOperator = false := by
    rw [hoperand, List.all_append, List.all_cons, hc, Bool.false_and, Bool.and_false]
  have huncut : ∀ c ∈ t.op ++ (t.v ++ t.body), isSeparator c = false ∧ c ≠ '|' := fun c hc =>
    uncut_of_class (by decide) (by decide) (t.isChar_of_mem hc)
  have hword : IsWord (t.op ++ (t.v ++ t.body)) :=
    ⟨List.append_ne_nil_of_right_ne_nil _ (hoperand ▸ List.cons_ne_nil c s),
      fun c hc => (huncut c hc).1⟩
  have hclauses := (hword.single hop).clauses_eq (fun c hc => (huncut c hc).2)
    (List.forall_mem_nil fun c => Text.isBlank c = true)
  rw [text, String.toList_ofList]
  rwa [List.append_nil] at hclauses

theorem comparison?_op :
    comparison? t.op = some (if t.excluded then .different else .equal) := by
  have hop : ∀ op ∈ [[], ['=', '='], ['!', '=']],
      comparison? op = some (if op == ['!', '='] then .different else .equal) := by decide
  exact hop _ t.op_mem

/-- The clause is read from its segments. -/
theorem readPlain_text : readPlain (t.op ++ (t.v ++ t.body)) =
    readSeries t.segments t.excluded := by
  obtain ⟨c, s, hoperand, hc⟩ := t.exists_operand
  have hop : ∀ c ∈ t.op, isOperator c = true := fun _ => t.isOperator_of_mem
  have hneg : ¬ isOperator c = true := by rw [hc]; exact Bool.false_ne_true
  have htake : (t.op ++ (t.v ++ t.body)).takeWhile isOperator = t.op := by
    rw [hoperand, List.takeWhile_append_of_pos hop, List.takeWhile_cons_of_neg hneg,
      List.append_nil]
  have hdrop : (t.op ++ (t.v ++ t.body)).dropWhile isOperator = t.v ++ t.body := by
    rw [hoperand, List.dropWhile_append_of_pos hop, List.dropWhile_cons_of_neg hneg]
  simp only [readPlain, htake, hdrop, t.comparison?_op, t.seriesSegments?_operand]
  rw [hoperand, excluded]
  have hmem := t.op_mem
  simp only [List.mem_cons, List.not_mem_nil, or_false] at hmem
  rcases hmem with hmem | hmem | hmem <;> rw [hmem] <;> rfl

theorem readClause_text : readClause (t.op ++ (t.v ++ t.body)) =
    readSeries t.segments t.excluded := by
  rw [← t.readPlain_text]
  have hmem := t.op_mem
  simp only [List.mem_cons, List.not_mem_nil, or_false] at hmem
  rcases hmem with hop | hop | hop
  · -- without an operator the text starts with no tilde and no caret, and not with a wildcard
    obtain ⟨c, s, hoperand, hc⟩ := t.exists_operand
    have hstars : (dotted (Version.dropV (t.v ++ t.body))).all Constraint.isStar = false := by
      obtain ⟨c, s, more, hsegments, -⟩ := t.exists_segment
      have hfirst : ¬ Constraint.isStar (c :: s) = true := fun hstar =>
        isSegment_eq_false hstar (t.isSegment _ (hsegments ▸ List.mem_cons_self ..))
      rw [t.dropV_operand, t.dotted_body, hsegments, List.cons_append, List.all_cons,
        (Bool.not_eq_true _).mp hfirst, Bool.false_and]
    rw [hop, List.nil_append]
    unfold readClause
    rw [hstars, if_neg Bool.false_ne_true, hoperand]
    split
    case h_1 heq => rw [(List.cons.inj heq).1] at hc; cases hc
    case h_2 heq => rw [(List.cons.inj heq).1] at hc; cases hc
    case h_3 heq => rw [(List.cons.inj heq).1] at hc; cases hc
    case h_4 => rfl
  · have hplain : ∀ s, readClause ("==".toList ++ s) = readPlain ("==".toList ++ s) :=
      readClause_append .equal (by decide) (by decide)
    rw [hop]
    exact hplain _
  · have hplain : ∀ s, readClause ("!=".toList ++ s) = readPlain ("!=".toList ++ s) :=
      readClause_append .different (by decide) (by decide)
    rw [hop]
    exact hplain _

end SeriesText

/-! ### What a series is -/

/-- A range that has something in it and something above it, and whose final releases have these
    numbers for their first segments. -/
structure IsSeriesRange (major : Nat) (minor? : Option Nat) (r : VersionRange) : Prop where
  inhabited : r.lowerCut < r.upperCut
  bounded : r.upperCut < ⊤
  mem_iff : ∀ w : Version, w.IsFinal →
    (w ∈ r ↔ w.segment 0 = major ∧ ∀ minor ∈ minor?, w.segment 1 = minor)

theorem isSeriesRange_halfOpen {low high : Version} {k major : Nat} {minor? : Option Nat}
    (hlow : low.IsFinal) (hzero : ∀ i, k < i → low.segment i = 0) (hraised : low.IsRaised k high)
    (hnumbers : ∀ w : Version, (∀ i ≤ k, w.segment i = low.segment i) ↔
      w.segment 0 = major ∧ ∀ minor ∈ minor?, w.segment 1 = minor) :
    IsSeriesRange major minor? (.halfOpen low high) := by
  refine ⟨?_, Cut.of_lt_top, fun w hw => ?_⟩
  · rw [← VersionRange.isEmpty_eq_false_iff, ← Bool.not_eq_true, VersionRange.isEmpty_halfOpen]
    exact not_not.mpr hraised.key_lt
  · rw [VersionRange.mem_halfOpen_raised hraised hw, ← hnumbers]
    exact and_iff_right_of_imp fun hagree => Version.le_of_agree hlow hw hagree hzero

theorem forall_le_zero_iff {a b : Nat → Nat} {major : Nat} (h0 : b 0 = major) :
    (∀ i ≤ 0, a i = b i) ↔ a 0 = major ∧ ∀ minor ∈ (none : Option Nat), a 1 = minor := by
  simp [h0]

theorem forall_le_one_iff {a b : Nat → Nat} {major minor : Nat} (h0 : b 0 = major)
    (h1 : b 1 = minor) :
    (∀ i ≤ 1, a i = b i) ↔ a 0 = major ∧ ∀ m ∈ some minor, a 1 = m := by
  simp [Nat.le_one_iff_eq_zero_or_eq_one, h0, h1]

/-- The versions below `1` count as the series of `0`. -/
theorem isSeriesRange_below : IsSeriesRange 0 none (.below (.final 1 [0, 0]) false) := by
  have hraised : (Version.final 0 []).IsRaised 0 (.final 1 [0, 0]) := by
    refine ⟨Version.isFinal_final _ _, fun i hi => absurd hi i.not_lt_zero, rfl, fun i hi => ?_⟩
    match i with
    | 0 => omega
    | 1 | 2 | _ + 3 => rfl
  refine ⟨Cut.bot_lt_of, Cut.of_lt_top, fun w hw => ?_⟩
  have hle : (Version.final 0 []).key ≤ w.key := by
    rw [← Version.le_iff_key_le, Version.le_iff_not_precedes (Version.isFinal_final _ _) hw]
    rintro ⟨i, -, hlt⟩
    cases i <;> exact Nat.not_lt_zero _ hlt
  rw [VersionRange.mem_below_iff]
  exact (hraised.key_lt_iff hw hle).trans (forall_le_zero_iff rfl)

/-- The range of a series is found, unless its last number cannot be raised. -/
theorem seriesConstraint_cases (major : Nat) (minor? : Option Nat) :
    (∃ r, Clause.seriesConstraint major minor? = .ok (ofRange r) ∧ IsSeriesRange major minor? r) ∨
      (∃ e, Clause.seriesConstraint major minor? = .error e) ∧
        Text.wordLimit ≤ minor?.getD major + 1 := by
  cases minor? with
  | some minor =>
    have hraises := Version.raises_bumpMinor? (v := .final major [minor, 0]) rfl
    have hnext : (Version.final major [minor, 0]).nextMinor? = _ :=
      Version.nextMinor?_of_isStable rfl rfl
    rw [Version.Raises] at hraises
    split at hraises
    case isTrue =>
      obtain ⟨high, hhigh, hraised⟩ := hraises
      refine .inl ⟨_, ?_, isSeriesRange_halfOpen (Version.isFinal_final _ _) (fun i hi => ?_)
        hraised fun w => forall_le_one_iff rfl rfl⟩
      · simp only [Clause.seriesConstraint, hnext, hhigh]
        rfl
      · rcases i with _ | _ | _ | i
        · omega
        · omega
        all_goals rfl
    case isFalse hlimit =>
      refine .inr ⟨⟨.outOfRange (.final major [minor, 0]), ?_⟩, not_lt.mp hlimit⟩
      simp only [Clause.seriesConstraint, hnext, hraises]
      rfl
  | none =>
    by_cases hmajor : major = 0
    · subst hmajor
      exact .inl ⟨_, rfl, isSeriesRange_below⟩
    have hraises := Version.raises_bumpMajor? (.final major [0, 0])
    have hnext : (Version.final major [0, 0]).nextMajor? = _ := Version.nextMajor?_of_isStable rfl
    rw [Version.Raises] at hraises
    split at hraises
    case isTrue =>
      obtain ⟨high, hhigh, hraised⟩ := hraises
      refine .inl ⟨_, ?_, isSeriesRange_halfOpen (Version.isFinal_final _ _) (fun i hi => ?_)
        hraised fun w => forall_le_zero_iff rfl⟩
      · simp only [Clause.seriesConstraint, if_neg hmajor, hnext, hhigh]
        rfl
      · rcases i with _ | _ | _ | i
        · omega
        all_goals rfl
    case isFalse hlimit =>
      refine .inr ⟨⟨.outOfRange (.final major [0, 0]), ?_⟩, not_lt.mp hlimit⟩
      simp only [Clause.seriesConstraint, if_neg hmajor, hnext, hraises]
      rfl

/-! ### What it allows -/

/-- The release begins with the numbers that the segments write. -/
def Begins (w : Version) (segments : List (List Char)) : Prop :=
  ∀ i s, segments[i]? = some s → Text.word? s = some (w.segment i)

/-- What the series of these segments is to allow, and that it may only fail when one of them does
    not fit a word or cannot be raised. -/
structure SeriesLaw (segments : List (List Char)) (excluded : Bool)
    (r : Except Error Constraint) : Prop where
  allows : ∀ c, r = .ok c → ∀ w : Version, w.IsFinal →
    (w ∈ c ↔ (Begins w segments ↔ excluded = false))
  fails : ∀ e, r = .error e → ∃ s ∈ segments,
    Text.word? s = none ∨ Text.word? s = some (Text.wordLimit - 1)

theorem begins_singleton {w : Version} {s : List Char} :
    Begins w [s] ↔ Text.word? s = some (w.segment 0) := by
  refine ⟨fun h => h 0 s rfl, fun h i u hu => ?_⟩
  match i with
  | 0 => cases hu; exact h
  | _ + 1 => cases hu

theorem begins_pair {w : Version} {s u : List Char} :
    Begins w [s, u] ↔ Text.word? s = some (w.segment 0) ∧ Text.word? u = some (w.segment 1) := by
  refine ⟨fun h => ⟨h 0 s rfl, h 1 u rfl⟩, fun ⟨h0, h1⟩ i x hx => ?_⟩
  match i with
  | 0 => cases hx; exact h0
  | 1 => cases hx; exact h1
  | _ + 2 => cases hx

/-- A range or its complement, cut by cut. -/
theorem mem_cuts_select {r : VersionRange} {excluded : Bool} {p : Cut} :
    p ∈ (if excluded then (ofRange r).complement else ofRange r).cuts ↔
      p < ⊤ ∧ (p ∈ r.cuts ↔ excluded = false) := by
  cases excluded with
  | true => simp [mem_cuts_complement_ofRange]
  | false =>
    have htop : p ∈ r.cuts → p < ⊤ := fun hp => hp.2.trans_le le_top
    simpa [mem_cuts_ofRange] using htop

namespace SeriesText

variable (t : SeriesText)

/-- The segments that the reader goes by are the first one, and the second one if it can be
    read. -/
theorem telling_cases : ∃ first more, t.segments = first :: more ∧
    (t.minor? = none ∧ t.telling = [first] ∨ ∃ second minor rest, more = second :: rest ∧
      Text.word? second = some minor ∧ t.minor? = some minor ∧ t.telling = [first, second]) := by
  obtain ⟨first, more, hsegments⟩ := List.exists_cons_of_length_pos t.length_pos
  refine ⟨first, more, hsegments, ?_⟩
  cases hminor : t.minor? with
  | none =>
    refine .inl ⟨rfl, ?_⟩
    rw [telling, hminor, hsegments]
    rfl
  | some minor =>
    obtain ⟨second, hsecond, hword⟩ := Option.bind_eq_some_iff.mp hminor
    rw [hsegments] at hsecond
    obtain ⟨rest, rfl⟩ : ∃ rest, more = second :: rest := by
      cases more with
      | nil => cases hsecond
      | cons s rest => cases hsecond; exact ⟨rest, rfl⟩
    refine .inr ⟨second, minor, rest, rfl, hword, rfl, ?_⟩
    rw [telling, hminor, hsegments]
    rfl

theorem begins_telling_iff {w : Version} {major : Nat} {first : List Char}
    {more : List (List Char)} (hfirst : t.segments = first :: more)
    (hmajor : Text.word? first = some major) :
    Begins w t.telling ↔ w.segment 0 = major ∧ ∀ minor ∈ t.minor?, w.segment 1 = minor := by
  obtain ⟨_, _, hsegments, htelling⟩ := t.telling_cases
  obtain ⟨rfl, rfl⟩ := List.cons.inj (hsegments.symm.trans hfirst)
  rcases htelling with ⟨hminor, htelling⟩ | ⟨second, minor, rest, rfl, hword, hminor, htelling⟩
  · simp [htelling, hminor, begins_singleton, hmajor, eq_comm]
  · simp [htelling, hminor, begins_pair, hmajor, hword, eq_comm]

/-- A series whose first segment is a word is that of the numbers that can be read. -/
theorem readOne_text {major : Nat} {first : List Char} {more : List (List Char)}
    (hfirst : t.segments = first :: more) (hmajor : Text.word? first = some major) :
    readOne (t.op ++ (t.v ++ t.body)) =
      (Clause.series major t.minor? t.excluded).constraint := by
  have hhead : (t.segments.head? >>= Text.word?) = some major := by rw [hfirst]; exact hmajor
  rw [readOne, t.readClause_text]
  simp only [readSeries, hhead]
  rfl

theorem parse_text_of_none {first : List Char} {more : List (List Char)}
    (hfirst : t.segments = first :: more) (hmajor : Text.word? first = none) :
    parse t.text = .error .invalidWildcard := by
  obtain ⟨htext, hclauses⟩ := t.clauses_text
  refine (parse_of_clause htext hclauses).1 _ ?_
  have hhead : (t.segments.head? >>= Text.word?) = none := by rw [hfirst]; exact hmajor
  rw [readOne, t.readClause_text]
  simp only [readSeries, hhead]
  rfl

/-- What is read of a series whose range is found. -/
theorem law_of_range {major : Nat} {first : List Char} {more : List (List Char)}
    (hfirst : t.segments = first :: more) (hmajor : Text.word? first = some major)
    {r : VersionRange} (hr : Clause.seriesConstraint major t.minor? = .ok (ofRange r))
    (hrange : IsSeriesRange major t.minor? r) :
    SeriesLaw t.telling t.excluded (parse t.text) := by
  obtain ⟨htext, hclauses⟩ := t.clauses_text
  have hread : readOne (t.op ++ (t.v ++ t.body)) =
      .ok (if t.excluded then (ofRange r).complement else ofRange r) := by
    rw [t.readOne_text hfirst hmajor]
    exact bind_eq_ok.mpr ⟨ofRange r, hr, rfl⟩
  obtain ⟨d, hd, hcuts, hparse⟩ := (parse_of_clause htext hclauses).2 _ hread
  have hcover : ∀ p, p ∈ d.cuts ↔ p < ⊤ ∧ (p ∈ r.cuts ↔ t.excluded = false) := fun p => by
    rw [hcuts, mem_cuts_select]
  have hinhabited : ¬ d.isEmpty = true := by
    rw [isEmpty_iff_cuts hd]
    intro hnone
    cases hexcluded : t.excluded with
    | true =>
      have hout : r.upperCut ∉ r.cuts := fun hp => lt_irrefl _ hp.2
      exact hnone r.upperCut ((hcover _).mpr ⟨hrange.bounded, by simp [hexcluded, hout]⟩)
    | false =>
      have hin : r.lowerCut ∈ r.cuts := ⟨le_rfl, hrange.inhabited⟩
      have htop : r.lowerCut < ⊤ := hrange.inhabited.trans hrange.bounded
      exact hnone r.lowerCut ((hcover _).mpr ⟨htop, by simp [hexcluded, hin]⟩)
  rw [hparse, if_neg hinhabited]
  refine ⟨fun c hc w hw => ?_, fun e he => by cases he⟩
  cases hc
  rw [mem_iff, hcover, and_iff_right Cut.of_lt_top, ← VersionRange.mem_iff, hrange.mem_iff w hw,
    t.begins_telling_iff hfirst hmajor]

/-- Where the last number cannot be raised, it is the largest word. -/
theorem exists_limit {major : Nat} {first : List Char} {more : List (List Char)}
    (hfirst : t.segments = first :: more) (hmajor : Text.word? first = some major)
    (hlimit : Text.wordLimit ≤ t.minor?.getD major + 1) :
    ∃ s ∈ t.telling, Text.word? s = some (Text.wordLimit - 1) := by
  have hlast : ∀ {s : List Char} {n : Nat}, Text.word? s = some n → Text.wordLimit ≤ n + 1 →
      Text.word? s = some (Text.wordLimit - 1) := by
    intro s n hs hle
    have hlt := (Text.of_word?_eq_some hs).2.2
    rw [hs, show n = Text.wordLimit - 1 by omega]
  obtain ⟨_, _, hsegments, htelling⟩ := t.telling_cases
  obtain ⟨rfl, rfl⟩ := List.cons.inj (hsegments.symm.trans hfirst)
  rcases htelling with ⟨hminor, htelling⟩ | ⟨second, minor, _, -, hword, hminor, htelling⟩
  · rw [hminor] at hlimit
    exact ⟨_, by rw [htelling]; exact List.mem_singleton_self _, hlast hmajor hlimit⟩
  · rw [hminor] at hlimit
    exact ⟨second, by simp [htelling], hlast hword hlimit⟩

/-- A series is read as that of the segments that the reader goes by. -/
theorem law : SeriesLaw t.telling t.excluded (parse t.text) := by
  obtain ⟨first, more, hfirst, htelling⟩ := t.telling_cases
  cases hmajor : Text.word? first with
  | none =>
    have hmem : first ∈ t.telling := by
      rcases htelling with ⟨-, htelling⟩ | ⟨_, _, _, -, -, -, htelling⟩ <;> simp [htelling]
    rw [t.parse_text_of_none hfirst hmajor]
    exact ⟨fun c hc => (by cases hc), fun _ _ => ⟨first, hmem, .inl hmajor⟩⟩
  | some major =>
    rcases seriesConstraint_cases major t.minor? with ⟨r, hr, hrange⟩ | ⟨⟨e, he⟩, hlimit⟩
    · exact t.law_of_range hfirst hmajor hr hrange
    · have hread : readOne (t.op ++ (t.v ++ t.body)) = .error e := by
        rw [t.readOne_text hfirst hmajor]
        simp only [Clause.constraint, he]
        rfl
      obtain ⟨htext, hclauses⟩ := t.clauses_text
      rw [(parse_of_clause htext hclauses).1 _ hread]
      obtain ⟨s, hs, hword⟩ := t.exists_limit hfirst hmajor hlimit
      exact ⟨fun c hc => (by cases hc), fun _ _ => ⟨s, hs, .inr hword⟩⟩

/-- The first segment of a series that is read is a word. -/
theorem exists_major {c : Constraint} (h : parse t.text = .ok c) :
    ∃ first more major, t.segments = first :: more ∧ Text.word? first = some major := by
  obtain ⟨first, more, hfirst, -⟩ := t.telling_cases
  cases hmajor : Text.word? first with
  | some major => exact ⟨first, more, major, hfirst, hmajor⟩
  | none =>
    rw [t.parse_text_of_none hfirst hmajor] at h
    cases h

/-- A release that begins with the segments that the reader goes by, but not with all of them. -/
theorem exists_begins {c : Constraint} (h : parse t.text = .ok c)
    (hne : t.telling ≠ t.segments) :
    ∃ w : Version, w.IsFinal ∧ Begins w t.telling ∧ ¬ Begins w t.segments := by
  obtain ⟨first, more, major, hfirst, hmajor⟩ := t.exists_major h
  have hlength : 1 + t.minor?.toList.length < t.segments.length := by
    by_contra hle
    exact hne (List.take_of_length_le (not_lt.mp hle))
  obtain ⟨s, hs⟩ : ∃ s, t.segments[1 + t.minor?.toList.length]? = some s :=
    ⟨_, List.getElem?_eq_getElem hlength⟩
  obtain ⟨n, hn⟩ : ∃ n, Text.word? s ≠ some n := by
    by_cases hzero : Text.word? s = some 0
    · exact ⟨1, by rw [hzero]; simp⟩
    · exact ⟨0, hzero⟩
  refine ⟨.final major (t.minor?.toList ++ [n]), Version.isFinal_final _ _, ?_, fun hbegins => ?_⟩
  · rw [t.begins_telling_iff hfirst hmajor]
    refine ⟨rfl, fun minor hminor => ?_⟩
    rw [Option.mem_def.mp hminor]
    rfl
  · have hword := hbegins _ s hs
    refine hn (hword.trans (congrArg some ?_))
    cases t.minor? <;> rfl

theorem law_iff : SeriesLaw t.segments t.excluded (parse t.text) ↔
    (∃ e, parse t.text = .error e) ∨ t.telling = t.segments := by
  have hlaw := t.law
  constructor
  · intro hall
    by_contra hnot
    rw [not_or] at hnot
    cases hparse : parse t.text with
    | error e => exact hnot.1 ⟨e, hparse⟩
    | ok c =>
      obtain ⟨w, hw, htelling, hsegments⟩ := t.exists_begins hparse hnot.2
      have htold := hlaw.allows c hparse w hw
      have hwritten := hall.allows c hparse w hw
      rw [htold] at hwritten
      simp only [htelling, hsegments, true_iff, false_iff] at hwritten
      cases t.excluded <;> simp at hwritten
  · rintro (⟨e, he⟩ | heq)
    · refine ⟨fun c hc => ?_, fun e' he' => ?_⟩
      · rw [he] at hc
        cases hc
      · obtain ⟨s, hs, hword⟩ := hlaw.fails e' he'
        exact ⟨s, List.mem_of_mem_take hs, hword⟩
    · rwa [heq] at hlaw

end SeriesText

/-- A series allows what the segments that the reader goes by say, and fails only for one of them.
    So it allows what is written if and only if it fails or the reader goes by all the segments. -/
theorem parse_series (t : SeriesText) :
    SeriesLaw t.telling t.excluded (parse t.text) ∧
      (SeriesLaw t.segments t.excluded (parse t.text) ↔
        (∃ e, parse t.text = .error e) ∨ t.telling = t.segments) :=
  ⟨t.law, t.law_iff⟩

/-- A second segment beyond the largest word and a third segment are dropped. -/
theorem series_drops_segments :
    let t : SeriesText := ⟨[], [], ["1".toList, "18446744073709551616".toList], [['*']],
      by decide, by decide, by decide, by decide, by decide, by decide, by decide⟩
    let u : SeriesText := ⟨['!', '='], [], ["1".toList, "2".toList, "3".toList], [['*']],
      by decide, by decide, by decide, by decide, by decide, by decide, by decide⟩
    t.text = "1.18446744073709551616.*" ∧ u.text = "!=1.2.3.*" ∧
      parse t.text = parse "1.*" ∧ parse u.text = parse "!=1.2.*" ∧
      ¬ SeriesLaw t.segments t.excluded (parse t.text) ∧
      ¬ SeriesLaw u.segments u.excluded (parse u.text) := by
  intro t u
  have hread : parse t.text = .ok (ofRange (.halfOpen (.final 1 [0, 0]) (.final 2 [0, 0]))) ∧
      parse u.text =
        .ok (ofRange (.halfOpen (.final 1 [2, 0]) (.final 1 [3, 0]))).complement := by
    decide +kernel
  refine ⟨by decide +kernel, by decide +kernel, by decide +kernel, by decide +kernel, ?_, ?_⟩
  · rw [t.law_iff, hread.1]
    exact not_or.mpr ⟨fun ⟨e, he⟩ => (by cases he), by decide +kernel⟩
  · rw [u.law_iff, hread.2]
    exact not_or.mpr ⟨fun ⟨e, he⟩ => (by cases he), by decide +kernel⟩

end Constraint

end ManifestMigration
