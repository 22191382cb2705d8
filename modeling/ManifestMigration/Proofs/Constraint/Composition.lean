import ManifestMigration.Proofs.Constraint.Clauses
import ManifestMigration.Proofs.Constraint.Display

/-! Texts that are put together by a separator.

    Bars put the alternatives of two texts side by side, and a comma or a blank puts the clauses of
    two alternatives side by side: nothing of the first text reaches over the separator, because no
    clause that can be read is a mere operator. So the text allows the union or the intersection of
    what its parts allow. -/

namespace ManifestMigration

namespace Constraint

/-! ### What is allowed together -/

theorem readables_singleton_append {ws vs : List (List Char)} :
    Readables [ws ++ vs] ↔ Readables [ws] ∧ Readables [vs] := by
  simp only [Readables, List.forall_mem_singleton, List.forall_mem_append]

theorem mem_cutsAllowed_singleton_append {ws vs : List (List Char)} {p : Cut} :
    p ∈ cutsAllowed [ws ++ vs] ↔ p ∈ cutsAllowed [ws] ∧ p ∈ cutsAllowed [vs] := by
  simp only [cutsAllowed, Set.mem_ofPred_eq, List.mem_singleton, exists_eq_left,
    List.forall_mem_append]
  exact and_and_left

/-- Alternatives that are those of two texts taken together allow what either text does. -/
theorem mem_cutsAllowed_of_or {us vs wss : List (List (List Char))}
    (h : ∀ ws, ws ∈ wss ↔ ws ∈ us ∨ ws ∈ vs) {p : Cut} :
    p ∈ cutsAllowed wss ↔ p ∈ cutsAllowed us ∨ p ∈ cutsAllowed vs := by
  simp only [cutsAllowed, Set.mem_ofPred_eq, h, or_and_right, exists_or]

theorem mem_clauses_around {ws : List (List Char)} {gap : List Char}
    (hgap : ∀ c ∈ gap, Text.isBlank c = true) (s t : List Char) :
    ws ∈ clauses (s ++ gap ++ '|' :: '|' :: (gap ++ t)) ↔ ws ∈ clauses s ∨ ws ∈ clauses t := by
  have hs : clauses (s ++ gap) = clauses s := clauses_append_append (List.forall_mem_nil _) hgap s
  have ht : clauses (gap ++ (t ++ [])) = clauses t :=
    clauses_append_append hgap (List.forall_mem_nil _) t
  rw [List.append_nil] at ht
  rw [mem_clauses_append_bars, hs, ht]

/-! ### Reading what was put together -/

variable {a b : String} {A B : Constraint}

/-- Two texts with bars between them are read as the union of what they allow. -/
theorem parse_bars (ha : parse a = .ok A) (hb : parse b = .ok B) {gap : List Char}
    (hgap : ∀ c ∈ gap, Text.isBlank c = true) {s : String}
    (hs : s.toList = a.toList ++ gap ++ '|' :: '|' :: (gap ++ b.toList)) :
    ∃ c, parse s = .ok c ∧ c.same (A.union B) = true := by
  obtain ⟨-, hreadA, hsome, hcutsA⟩ := readables_of_parse ha
  obtain ⟨-, hreadB, -, hcutsB⟩ := readables_of_parse hb
  have htext : Text.trim s.toList ≠ [] := by
    refine mt Text.trim_eq_nil_iff.mp fun hblank => ?_
    have hbar : '|' ∈ s.toList := by
      rw [hs]
      exact List.mem_append_right _ (List.mem_cons_self ..)
    exact ne_bar_of_isBlank (hblank '|' hbar) rfl
  have hclauses : ∀ ws, ws ∈ clauses s.toList ↔ ws ∈ clauses a.toList ∨ ws ∈ clauses b.toList := by
    intro ws
    rw [hs, mem_clauses_around hgap]
  have hread : Readables (clauses s.toList) := fun ws hws =>
    ((hclauses ws).mp hws).elim (hreadA ws) (hreadB ws)
  obtain ⟨d, hd, hcuts, hparse⟩ := parse_of_readables htext hread
  have hcover : ∀ p, p ∈ d.cuts ↔ p ∈ (A.union B).cuts := fun p => by
    rw [hcuts, mem_cutsAllowed_of_or hclauses, mem_cuts_union, hcutsA, hcutsB]
  -- the first text allows something, and so does the union
  have hinhabited : ¬ d.isEmpty = true := by
    rw [isEmpty_iff_cuts hd]
    intro hnone
    have hcutless : ∀ p, p ∉ A.cuts := fun p hp =>
      hnone p ((hcover p).mpr (mem_cuts_union.mpr (.inl hp)))
    exact Bool.eq_false_iff.mp hsome ((isEmpty_iff_cuts (Readable.normal ⟨a, ha⟩)).mpr hcutless)
  rw [if_neg hinhabited] at hparse
  exact ⟨d, hparse, same_of_cuts_eq hd (normal_ofRanges _) (Readable.unmarked ⟨s, hparse⟩)
    (unmarked_union (Readable.unmarked ⟨a, ha⟩) (Readable.unmarked ⟨b, hb⟩)) hcover⟩

/-- Two texts of one alternative each with a separator between them are read as the intersection of
    what they allow, unless that is nothing. -/
theorem parse_separator (ha : parse a = .ok A) (hb : parse b = .ok B)
    (hbarA : Barless a.toList) (hbarB : Barless b.toList) {sep : Char}
    (hsep : sep = ',' ∨ sep = ' ') {s : String} (hs : s.toList = a.toList ++ sep :: b.toList) :
    ((A.inter B).isEmpty = true → parse s = .error .matchesNothing) ∧
      ((A.inter B).isEmpty = false → ∃ c, parse s = .ok c ∧ c.same (A.inter B) = true) := by
  obtain ⟨htextA, hreadA, -, hcutsA⟩ := readables_of_parse ha
  obtain ⟨-, hreadB, -, hcutsB⟩ := readables_of_parse hb
  rw [clauses_of_barless hbarA] at hreadA hcutsA
  rw [clauses_of_barless hbarB] at hreadB hcutsB
  have htext : Text.trim s.toList ≠ [] := by
    refine fun hnil => htextA (Text.trim_eq_nil_iff.mpr fun c hc => ?_)
    exact Text.trim_eq_nil_iff.mp hnil c (hs ▸ List.mem_append_left _ hc)
  have hbar : Barless s.toList := by
    rw [hs]
    refine List.forall_mem_append.mpr ⟨hbarA, List.forall_mem_cons.mpr ⟨?_, hbarB⟩⟩
    rcases hsep with rfl | rfl <;> decide
  have hclauses : clauses s.toList = [tokens a.toList ++ tokens b.toList] := by
    rw [clauses_of_barless hbar, hs, tokens_append]
    · rcases hsep with rfl | rfl <;> decide
    · intro w hw
      obtain ⟨c, hc⟩ := hreadA _ (List.mem_singleton_self _) w hw
      exact all_isOperator_eq_false hc
  have hread : Readables (clauses s.toList) := by
    rw [hclauses]
    exact readables_singleton_append.mpr ⟨hreadA, hreadB⟩
  obtain ⟨d, hd, hcuts, hparse⟩ := parse_of_readables htext hread
  have hcover : ∀ p, p ∈ d.cuts ↔ p ∈ (A.inter B).cuts := fun p => by
    rw [hcuts, hclauses, mem_cutsAllowed_singleton_append, mem_cuts_inter, hcutsA, hcutsB]
  have hempty : d.isEmpty = (A.inter B).isEmpty := by
    have hn : Normal (A.inter B).ranges := normal_ofRanges _
    rw [Bool.eq_iff_iff, isEmpty_iff_cuts hd, isEmpty_iff_cuts hn]
    exact forall_congr' fun p => not_congr (hcover p)
  rw [hempty] at hparse
  refine ⟨fun h => by rw [hparse, h]; rfl, fun h => ?_⟩
  rw [h, if_neg Bool.false_ne_true] at hparse
  exact ⟨d, hparse, same_of_cuts_eq hd (normal_ofRanges _) (Readable.unmarked ⟨s, hparse⟩)
    (unmarked_inter A B) hcover⟩

/-- Reading is compositional: bars join what two texts allow, and in texts without bars a comma or
    a blank restricts them by each other, which fails when they have no version in common. -/
theorem parse_composes (a b : String) (A B : Constraint) (ha : parse a = .ok A)
    (hb : parse b = .ok B) :
    (∃ c, parse (a ++ "||" ++ b) = .ok c ∧ c.same (A.union B) = true) ∧
    (∃ c, parse (a ++ " || " ++ b) = .ok c ∧ c.same (A.union B) = true) ∧
    (('|' ∉ a.toList ∧ '|' ∉ b.toList) → ∀ sep ∈ [",", " "],
      ((A.inter B).isEmpty = false →
        ∃ c, parse (a ++ sep ++ b) = .ok c ∧ c.same (A.inter B) = true) ∧
      ((A.inter B).isEmpty = true → ∃ e, parse (a ++ sep ++ b) = .error e ∧
        e.message = "constraint matches no version")) := by
  have hgap : ∀ c ∈ [' '], Text.isBlank c = true := List.forall_mem_singleton.mpr (by decide)
  refine ⟨parse_bars ha hb (List.forall_mem_nil _) (by simp), parse_bars ha hb hgap (by simp),
    fun ⟨hbarA, hbarB⟩ sep hsep => ?_⟩
  have hbarless : Barless a.toList ∧ Barless b.toList :=
    ⟨fun _ hc => ne_of_mem_of_not_mem hc hbarA, fun _ hc => ne_of_mem_of_not_mem hc hbarB⟩
  obtain ⟨c, hc, hs⟩ : ∃ c, (c = ',' ∨ c = ' ') ∧
      (a ++ sep ++ b).toList = a.toList ++ c :: b.toList := by
    simp only [List.mem_cons, List.not_mem_nil, or_false] at hsep
    rcases hsep with rfl | rfl
    · exact ⟨',', .inl rfl, by simp⟩
    · exact ⟨' ', .inr rfl, by simp⟩
  obtain ⟨hnone, hsome⟩ := parse_separator ha hb hbarless.1 hbarless.2 hc hs
  exact ⟨hsome, fun h => ⟨_, hnone h, rfl⟩⟩

theorem parse_composes_of_caret :
    let A := ofRange (.halfOpen ⟨1, [0], none, none, none, "1.0"⟩ (.final 2 [0]))
    let B := ofRange (.below ⟨1, [5], none, none, none, "1.5"⟩ false)
    parse "^1.0," = .ok A ∧ parse "< 1.5, *" = .ok B ∧
      (∃ c, parse "^1.0, || < 1.5, *" = .ok c ∧ c.same (A.union B) = true) ∧
      ∃ c, parse "^1.0, < 1.5, *" = .ok c ∧ c.same (A.inter B) = true := by
  intro A B
  have ha : parse "^1.0," = .ok A := by decide +kernel
  have hb : parse "< 1.5, *" = .ok B := by decide +kernel
  obtain ⟨-, hbars, hseparator⟩ := parse_composes "^1.0," "< 1.5, *" A B ha hb
  exact ⟨ha, hb, hbars, (hseparator (by decide) " " (by decide)).1 (by decide +kernel)⟩

end Constraint

end ManifestMigration
