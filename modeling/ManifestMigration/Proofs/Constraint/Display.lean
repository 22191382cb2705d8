import ManifestMigration.Proofs.Constraint.Clauses
import ManifestMigration.Proofs.Constraint.Specifier

/-! The ranges of a constraint, written down with bars between them, are read back as the constraint.

    The bars come with blanks around them, which the reader drops together with the commas between
    clauses. Each alternative then allows what its range does, and their union covers the cuts of
    the constraint, so it is the constraint: both are normal and unmarked. -/

namespace ManifestMigration

namespace Constraint

/-! ### Constraints that were read are unmarked -/

theorem unmarked_of_extend {soFar c : Constraint} {alternative : List Char}
    (hsoFar : soFar.Unmarked) (h : extend soFar alternative = .ok c) : c.Unmarked := by
  obtain ⟨d, hd, h⟩ := bind_eq_ok.mp h
  cases h
  refine unmarked_union hsoFar (foldlM_keeps (fun _ _ t _ ht => ?_) unmarked_any hd)
  obtain ⟨clause, _, ht⟩ := bind_eq_ok.mp ht
  obtain ⟨e, _, ht⟩ := bind_eq_ok.mp ht
  cases ht
  exact unmarked_inter _ _

theorem Readable.unmarked {c : Constraint} (h : Readable c) : c.Unmarked :=
  h.keeps Unmarked unmarked_empty fun _ _ _ => unmarked_of_extend

/-! ### Reading ranges -/

/-- A range that can be written down, and that has something in it. -/
structure Displayed (r : VersionRange) : Prop where
  bounded : r.Bounded Version.Legible
  inhabited : r.lowerCut < r.upperCut

/-- The characters of a range are no blanks and no bars, and there are some. -/
theorem chars_render {r : VersionRange} (hr : Displayed r) :
    r.render.toList ≠ [] ∧ ∀ c ∈ r.render.toList, Text.isBlank c = false ∧ c ≠ '|' := by
  obtain ⟨us, htext, hne, hus, -⟩ := exists_intercalate_eq (standalone_clauses hr.bounded)
  rw [render_eq_clauseText, htext, String.toList_intercalate]
  refine ⟨fun hnil => ?_, fun c hc => ?_⟩
  · obtain ⟨w, ws, rfl⟩ := List.exists_cons_of_ne_nil hne
    obtain ⟨c, hc, _⟩ := (hus w (List.mem_cons_self ..)).named
    cases ws with
    | nil => simp_all
    | cons w' ws => simp [List.intercalate_cons_cons] at hnil
  · rcases Text.of_mem_intercalate hc with rfl | ⟨u, hu, hc⟩
    · decide
    · obtain ⟨w, hw, rfl⟩ := List.mem_map.mp hu
      have hchar := (hus w hw).chars c hc
      refine ⟨isBlank_eq_false_of_isClauseChar hchar, ?_⟩
      rintro rfl
      revert hchar
      decide

/-- An alternative with the clauses of a range adds the range. -/
theorem extend_render {r : VersionRange} (hr : Displayed r) {alternative : List Char}
    (htokens : tokens alternative = tokens r.render.toList) (soFar : Constraint) :
    ∃ d, extend soFar alternative = .ok d ∧ ∀ q, q ∈ d.cuts ↔ q ∈ soFar.cuts ∨ q ∈ r.cuts := by
  obtain ⟨us, htext, hne, hus, hiff⟩ := exists_intercalate_eq (standalone_clauses hr.bounded)
  have hread : ∀ q < (⊤ : Cut), (∀ w ∈ us, q ∈ cutsRead w) ↔ q ∈ r.cuts := fun q hq =>
    (hiff q hq).trans (forall_mem_clauses_iff hr.bounded hq)
  have htop : ∀ q ∈ r.cuts, q < ⊤ := fun q hq => hq.2.trans_le le_top
  have hstart : r.lowerCut ∈ r.cuts := ⟨le_rfl, hr.inhabited⟩
  obtain ⟨d, hd, hcuts⟩ := foldlM_tokens hus hne ((hread _ (htop _ hstart)).mpr hstart)
  refine ⟨soFar.union d, ?_, fun q => ?_⟩
  · rw [extend, htokens, render_eq_clauseText, htext, hd]
    rfl
  · rw [mem_cuts_union, hcuts]
    refine or_congr_right ⟨fun h => (hread q h.1).mp h.2, fun hq => ?_⟩
    exact ⟨htop q hq, (hread q (htop q hq)).mpr hq⟩

/-- The text of ranges. -/
def rangesText (rs : List VersionRange) : List Char :=
  (" || ".intercalate (rs.map VersionRange.render)).toList

theorem rangesText_singleton (r : VersionRange) : rangesText [r] = r.render.toList := by
  simp [rangesText]

theorem rangesText_cons_cons (r s : VersionRange) (rest : List VersionRange) :
    rangesText (r :: s :: rest) =
      r.render.toList ++ [' '] ++ '|' :: '|' :: ([' '] ++ rangesText (s :: rest)) := by
  simp [rangesText, String.intercalate_cons_cons]

/-- The text of ranges is read as what they cover, alternative by alternative. -/
theorem foldlM_rangesText {gap : List Char} (hgap : ∀ c ∈ gap, c = ' ') :
    ∀ {r : VersionRange} {rest : List VersionRange}, (∀ s ∈ r :: rest, Displayed s) →
      ∀ soFar : Constraint, ∃ d,
        (alternatives (gap ++ rangesText (r :: rest))).foldlM extend soFar = .ok d ∧
          ∀ q, q ∈ d.cuts ↔ q ∈ soFar.cuts ∨ q ∈ cutsOf (r :: rest)
  | r, [], h, soFar => by
    have hr := h r (List.mem_singleton_self r)
    have hbars : ∀ c ∈ gap ++ r.render.toList, c ≠ '|' :=
      List.forall_mem_append.mpr ⟨fun c hc => by rw [hgap c hc]; decide,
        fun c hc => ((chars_render hr).2 c hc).2⟩
    have htokens : tokens (gap ++ (r.render.toList ++ [])) = tokens r.render.toList :=
      tokens_append_append _ (fun c hc => by rw [hgap c hc]; decide) fun c hc => by cases hc
    rw [List.append_nil] at htokens
    obtain ⟨d, hd, hcuts⟩ := extend_render hr htokens soFar
    refine ⟨d, ?_, fun q => ?_⟩
    · rw [rangesText_singleton, alternatives_of_forall hbars, List.foldlM_cons, hd]
      rfl
    · rw [hcuts, mem_cutsOf_cons, or_iff_left mem_cutsOf_nil]
  | r, s :: rest, h, soFar => by
    obtain ⟨hr, hrest⟩ := List.forall_mem_cons.mp h
    have hblank : ∀ c ∈ [' '], c = ' ' := fun c hc => List.mem_singleton.mp hc
    have hbars : ∀ c ∈ gap ++ (r.render.toList ++ [' ']), c ≠ '|' :=
      List.forall_mem_append.mpr ⟨fun c hc => by rw [hgap c hc]; decide,
        List.forall_mem_append.mpr ⟨fun c hc => ((chars_render hr).2 c hc).2,
          List.forall_mem_singleton.mpr (by decide)⟩⟩
    have htokens : tokens (gap ++ (r.render.toList ++ [' '])) = tokens r.render.toList :=
      tokens_append_append _ (fun c hc => by rw [hgap c hc]; decide)
        (List.forall_mem_singleton.mpr (by decide))
    obtain ⟨d, hd, hcuts⟩ := extend_render hr htokens soFar
    obtain ⟨e, he, hmore⟩ := foldlM_rangesText hblank hrest d
    refine ⟨e, ?_, fun q => ?_⟩
    · rw [rangesText_cons_cons, ← List.append_assoc, alternatives_append_bars hbars,
        List.foldlM_cons, hd]
      exact he
    · rw [hmore, hcuts, mem_cutsOf_cons (r := r), or_assoc]

/-- The text of ranges starts and ends with characters of ranges. -/
theorem isBlank_ends_rangesText : ∀ {r : VersionRange} {rest : List VersionRange},
    (∀ s ∈ r :: rest, Displayed s) →
      (∀ c ∈ (rangesText (r :: rest)).head?, Text.isBlank c = false) ∧
        (∀ c ∈ (rangesText (r :: rest)).getLast?, Text.isBlank c = false) ∧
        rangesText (r :: rest) ≠ []
  | r, [], h => by
    obtain ⟨hne, hchars⟩ := chars_render (h r (List.mem_singleton_self r))
    rw [rangesText_singleton]
    exact ⟨fun c hc => (hchars c (List.mem_of_mem_head? hc)).1,
      fun c hc => (hchars c (List.mem_of_mem_getLast? hc)).1, hne⟩
  | r, s :: rest, h => by
    obtain ⟨hr, hrest⟩ := List.forall_mem_cons.mp h
    obtain ⟨hne, hchars⟩ := chars_render hr
    obtain ⟨-, hlast, hmore⟩ := isBlank_ends_rangesText hrest
    obtain ⟨a, w, hw⟩ := List.exists_cons_of_ne_nil hne
    rw [rangesText_cons_cons]
    refine ⟨fun c hc => ?_, fun c hc => hlast c ?_, by simp⟩
    · rw [hw] at hc
      cases hc
      exact (hchars a (hw ▸ List.mem_cons_self ..)).1
    · have hend : r.render.toList ++ [' '] ++ '|' :: '|' :: ([' '] ++ rangesText (s :: rest)) =
          r.render.toList ++ " || ".toList ++ rangesText (s :: rest) := by simp
      rwa [hend, List.getLast?_append_of_ne_nil _ hmore] at hc

/-- A constraint is read back from its text. -/
theorem parse_render (c : Constraint) (hc : Combination Readable c) (hne : c.isEmpty = false) :
    ∃ d, parse c.render = .ok d ∧ d.same c = true := by
  have hn := hc.normal fun _ => Readable.normal
  have hb := hc.bounded fun _ => Readable.bounded
  have hu := hc.unmarked fun _ => Readable.unmarked
  obtain ⟨r, rest, hranges⟩ := List.exists_cons_of_ne_nil (List.isEmpty_eq_false_iff.mp hne)
  have hdisplayed : ∀ s ∈ r :: rest, Displayed s := fun s hs =>
    ⟨hb s (hranges ▸ hs), hn.inhabited s (hranges ▸ hs)⟩
  obtain ⟨hhead, hlast, htext⟩ := isBlank_ends_rangesText hdisplayed
  have hgap : ∀ c ∈ ([] : List Char), c = ' ' := List.forall_mem_nil _
  obtain ⟨d, hd, hcuts⟩ := foldlM_rangesText hgap hdisplayed empty
  have hcover : ∀ q, q ∈ d.cuts ↔ q ∈ c.cuts := fun q => by
    rw [hcuts, or_iff_right mem_cuts_empty, ← hranges, cuts]
  have hinhabited : d.isEmpty = false := by
    have hstart : r.lowerCut ∈ c.cuts := ⟨r, hranges ▸ List.mem_cons_self .., le_rfl,
      (hdisplayed r (List.mem_cons_self ..)).inhabited⟩
    obtain ⟨s, hs, _⟩ := (hcover _).mpr hstart
    exact List.isEmpty_eq_false_iff.mpr (List.ne_nil_of_mem hs)
  have hparse : parse c.render = .ok d := by
    have hrender : c.render.toList = rangesText (r :: rest) := by
      rw [render, hne, hranges]
      rfl
    simp only [parse, hrender, Text.trim_eq_self hhead hlast, List.isEmpty_eq_false_iff.mpr htext]
    exact bind_eq_ok.mpr ⟨d, hd, by rw [hinhabited]; rfl⟩
  have hread : Readable d := ⟨_, hparse⟩
  exact ⟨d, hparse, same_of_cuts_eq hread.normal hn hread.unmarked hu hcover⟩

theorem parse_render_of_post :
    let v : Version := ⟨1, [0], none, some 2, none, "1.0-Rev.2"⟩
    let c := (ofRange (.exact v)).complement
    Combination Readable c ∧ c.isEmpty = false ∧ c.render = "<1.0-Rev.2 || >1.0-Rev.2" ∧
      ∃ d, parse c.render = .ok d ∧ d.same c = true := by
  intro v c
  have hread : parse "==v1.0-Rev.2" = .ok (ofRange (.exact v)) := by decide +kernel
  have hc : Combination Readable c := .complement (.base ⟨_, hread⟩)
  have hne : c.isEmpty = false := by decide +kernel
  exact ⟨hc, hne, by decide +kernel, parse_render c hc hne⟩

end Constraint

end ManifestMigration
