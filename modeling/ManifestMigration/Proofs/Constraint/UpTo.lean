import ManifestMigration.Proofs.Constraint.Grammar
import ManifestMigration.Proofs.Version.Segments

/-! Clauses that name a version and allow what comes from it on, up to the end of a series.

    A caret, a tilde and a compatible release all do, and differ only in the segment that ends the
    series. A text of such an operator and a version is a single clause. It is read as the range
    from the version to the end of its series, and where the series ends because a segment is raised
    by one, the final releases of the range are those from the version on that agree with it up to
    that segment. -/

namespace ManifestMigration

namespace Constraint

variable {v : Version} {r : Except Error Constraint}

/-! ### The clause -/

theorem isOperator_eq_false_of_isTextChar {c : Char} (h : Version.isTextChar c = true) :
    isOperator c = false := by
  by_contra hop
  simp only [isOperator, Bool.not_eq_false, Bool.or_eq_true, beq_iff_eq] at hop
  rcases hop with ((((rfl | rfl) | rfl) | rfl) | rfl) | rfl <;> revert h <;> decide

/-- An operator in front of a version is one clause, whatever blanks there are. -/
theorem clauses_operator {op t : String} (hne : op.toList ≠ [])
    (hop : op.toList.all isOperator = true) (h : Version.parse? t = some v) :
    Text.trim (op ++ t).toList ≠ [] ∧
      clauses (op ++ t).toList = [[op.toList ++ Text.trim t.toList]] := by
  replace hop := List.all_eq_true.mp hop
  obtain ⟨hneText, hchars⟩ := Version.chars_of_parse? h
  obtain ⟨p, q, ht, hp, hq⟩ := Text.exists_trim t.toList
  have huncut : ∀ c ∈ Text.trim t.toList, isSeparator c = false ∧ c ≠ '|' := fun c hc =>
    uncut_of_class (by decide) (by decide) (hchars c hc)
  have hoperand : IsOperand (Text.trim t.toList) := by
    refine ⟨⟨hneText, fun c hc => (huncut c hc).1⟩, fun c hc => ?_⟩
    exact isOperator_eq_false_of_isTextChar (hchars c (List.mem_of_mem_head? hc))
  have hsingle : Single (op.toList ++ (p ++ Text.trim t.toList))
      (op.toList ++ Text.trim t.toList) := .operated hne hop hp hoperand
  have hbarless : Barless (op.toList ++ (p ++ Text.trim t.toList)) :=
    List.forall_mem_append.mpr
      ⟨fun c hc => (uncut_of_class (by decide) (by decide) (hop c hc)).2,
        List.forall_mem_append.mpr ⟨barless_gap hp, fun c hc => (huncut c hc).2⟩⟩
  have hlist : (op ++ t).toList = op.toList ++ (p ++ Text.trim t.toList) ++ q := by
    rw [String.toList_append]
    conv_lhs => rw [ht]
    simp
  rw [hlist]
  exact hsingle.clauses_eq hbarless hq

/-- The version is read from its text without the blanks around it. -/
theorem exists_readVersion {t : String} (h : Version.parse? t = some v) :
    ∃ c s, Text.trim t.toList = c :: s ∧ isOperator c = false ∧ readVersion (c :: s) = .ok v := by
  obtain ⟨hne, hchars⟩ := Version.chars_of_parse? h
  obtain ⟨c, s, hs⟩ := List.exists_cons_of_ne_nil hne
  refine ⟨c, s, hs, ?_, ?_⟩
  · exact isOperator_eq_false_of_isTextChar (hchars c (hs ▸ List.mem_cons_self ..))
  · rw [← hs, readVersion, Version.parse?_trim h]

theorem readOne_caret {t : String} (h : Version.parse? t = some v) :
    readOne ("^".toList ++ Text.trim t.toList) = Clause.upTo v v.nextBreaking? := by
  obtain ⟨c, s, hs, -, hread⟩ := exists_readVersion h
  change readOne ('^' :: Text.trim t.toList) = _
  rw [hs, readOne]
  unfold readClause
  rw [all_isStar_eq_false (by decide), if_neg Bool.false_ne_true]
  simp only [hread]
  rfl

theorem readOne_compatible {t : String} (h : Version.parse? t = some v) :
    readOne ("~=".toList ++ Text.trim t.toList) =
      Clause.upTo v (if v.precision ≤ 2 then v.stable.nextMajor? else v.stable.nextMinor?) := by
  obtain ⟨c, s, hs, -, hread⟩ := exists_readVersion h
  change readOne ('~' :: '=' :: Text.trim t.toList) = _
  rw [hs, readOne]
  unfold readClause
  rw [all_isStar_eq_false (by decide), if_neg Bool.false_ne_true]
  simp only [hread]
  rfl

theorem readOne_tilde {t : String} (h : Version.parse? t = some v) :
    readOne ("~".toList ++ Text.trim t.toList) =
      Clause.upTo v (if v.precision = 1 then v.stable.nextMajor? else v.stable.nextMinor?) := by
  obtain ⟨c, s, hs, hc, hread⟩ := exists_readVersion h
  change readOne ('~' :: Text.trim t.toList) = _
  rw [hs, readOne]
  unfold readClause
  rw [all_isStar_eq_false (by decide), if_neg Bool.false_ne_true]
  split
  case h_1 heq =>
    -- the version does not start with the rest of the other operator
    obtain ⟨rfl, -⟩ := List.cons.inj (List.cons.inj heq).2
    cases hc
  case h_2 heq =>
    obtain ⟨rfl, rfl⟩ := List.cons.inj (List.cons.inj heq).2
    rw [hread]
    rfl
  case h_3 heq => cases heq
  case h_4 hne _ => exact absurd rfl (hne c s)

/-! ### What it allows -/

/-- What is read of a range that may have no end: an error when it has none, and else the range,
    unless it is empty. -/
structure ReadsUpTo (v : Version) (high? : Option Version)
    (r : Except Error Constraint) : Prop where
  none : high? = none → r = .error (.outOfRange v)
  some : ∀ high, high? = some high → ∃ d : Constraint,
    (∀ w : Version, w ∈ d ↔ w ∈ VersionRange.halfOpen v high) ∧
      r = if (VersionRange.halfOpen v high).isEmpty then .error .matchesNothing else .ok d

theorem readsUpTo (op : String) {t : String} {high? : Option Version} (hne : op.toList ≠ [])
    (hop : op.toList.all isOperator = true) (h : Version.parse? t = .some v)
    (hread : readOne (op.toList ++ Text.trim t.toList) = Clause.upTo v high?) :
    ReadsUpTo v high? (parse (op ++ t)) := by
  obtain ⟨htext, hclauses⟩ := clauses_operator hne hop h
  constructor
  · intro hhigh
    rw [hhigh] at hread
    exact (parse_of_clause htext hclauses).1 _ hread
  · intro high hhigh
    rw [hhigh] at hread
    exact parse_of_range htext hclauses hread

/-- The releases from the version on that agree with it up to a segment are allowed, unless that
    segment cannot be raised. -/
structure AgreesUpTo (v : Version) (k : Nat) (r : Except Error Constraint) : Prop where
  allows : v.segment k < Text.wordLimit - 1 → ∃ c, r = .ok c ∧
    ∀ w : Version, w.IsFinal → (w ∈ c ↔ v ≤ w ∧ ∀ i ≤ k, w.segment i = v.segment i)
  limit : v.segment k = Text.wordLimit - 1 → r = .error (.outOfRange v)

/-- The range ends where the segment is raised. -/
theorem ReadsUpTo.agrees {k : Nat} {high? : Option Version} (hr : ReadsUpTo v high? r)
    (hraises : v.Raises k high?) : AgreesUpTo v k r := by
  rw [Version.Raises] at hraises
  constructor
  · intro hlt
    rw [if_pos (by omega)] at hraises
    obtain ⟨high, hhigh, hraised⟩ := hraises
    obtain ⟨d, hd, hr⟩ := hr.some high hhigh
    rw [if_neg (VersionRange.isEmpty_halfOpen.not.mpr (not_not.mpr hraised.key_lt))] at hr
    exact ⟨d, hr, fun w hw => (hd w).trans (VersionRange.mem_halfOpen_raised hraised hw)⟩
  · intro hlimit
    rw [if_neg (by rw [hlimit]; decide)] at hraises
    exact hr.none hraises

end Constraint

end ManifestMigration
