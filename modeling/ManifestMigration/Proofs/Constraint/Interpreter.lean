import ManifestMigration.Proofs.Constraint.Clauses
import ManifestMigration.Proofs.Constraint.Exclusion
import ManifestMigration.Proofs.Version.Segments

/-! What an interpreter requirement says of the known interpreter series.

    The text of a union names the lowest series that the constraint accepts and the exclusion of
    each one that it does not. The series are intervals that follow each other in the order of the
    versions, so within them the text allows those series that are accepted, as wholes. -/

namespace ManifestMigration

namespace Constraint

/-! ### Clauses with a comma and a blank between them -/

theorem barless_of_standalone {w : String} (h : Standalone w) : Barless w.toList := by
  rintro c hc rfl
  have hchar := h.chars _ hc
  revert hchar
  decide

theorem tokens_standalone {w : String} (h : Standalone w) : tokens w.toList = [w.toList] := by
  have htokens := tokens_intercalate (List.cons_ne_nil w []) (List.forall_mem_singleton.mpr h)
  rwa [String.intercalate_singleton] at htokens

/-- Clauses that were joined by commas and blanks are cut apart again. -/
theorem clauses_spaced : ∀ {w : String} {ws : List String}, (∀ u ∈ w :: ws, Standalone u) →
    Barless (", ".intercalate (w :: ws)).toList ∧
      tokens (", ".intercalate (w :: ws)).toList = (w :: ws).map String.toList
  | w, [], h => by
    have hw := h w (List.mem_cons_self ..)
    rw [String.intercalate_singleton]
    exact ⟨barless_of_standalone hw, tokens_standalone hw⟩
  | w, x :: ws, h => by
    obtain ⟨hw, hws⟩ := List.forall_mem_cons.mp h
    obtain ⟨hbars, htokens⟩ := clauses_spaced hws
    have htext : (", ".intercalate (w :: x :: ws)).toList =
        w.toList ++ ',' :: ' ' :: (", ".intercalate (x :: ws)).toList := by
      rw [String.intercalate_cons_cons, String.toList_append, String.toList_append,
        List.append_assoc]
      rfl
    have hnamed : ∀ u ∈ tokens w.toList, u.all isOperator = false := by
      rw [tokens_standalone hw]
      obtain ⟨c, hc, hname⟩ := hw.named
      exact List.forall_mem_singleton.mpr
        (List.all_eq_false.mpr ⟨c, hc, by rw [hname]; decide⟩)
    rw [htext]
    constructor
    · exact List.forall_mem_append.mpr ⟨barless_of_standalone hw,
        List.forall_mem_cons.mpr ⟨by decide, List.forall_mem_cons.mpr ⟨by decide, hbars⟩⟩⟩
    · rw [tokens_append (by decide) hnamed, tokens_cons (by decide), htokens, tokens_standalone hw]
      rfl

/-- The text of clauses that have a cut in common is read, and allows what they have in common. -/
theorem parse_spaced {w : String} {ws : List String} (hs : ∀ u ∈ w :: ws, Standalone u) {p : Cut}
    (hp : p < ⊤) (hcommon : ∀ u ∈ w :: ws, p ∈ cutsRead u) :
    ∃ d, parse (", ".intercalate (w :: ws)) = .ok d ∧
      ∀ q, q ∈ d.cuts ↔ q < ⊤ ∧ ∀ u ∈ w :: ws, q ∈ cutsRead u := by
  obtain ⟨hbars, htokens⟩ := clauses_spaced hs
  have hclauses : clauses (", ".intercalate (w :: ws)).toList =
      [(w :: ws).map String.toList] := by
    rw [clauses_of_barless hbars, htokens]
  have htrim : Text.trim (", ".intercalate (w :: ws)).toList ≠ [] := by
    intro hnil
    rw [← clauses_trim, hnil] at hclauses
    cases hclauses
  have hread : Readables (clauses (", ".intercalate (w :: ws)).toList) := by
    rw [hclauses]
    refine List.forall_mem_singleton.mpr (List.forall_mem_map.mpr fun u hu => ?_)
    obtain ⟨c, hc, -⟩ := hcommon u hu
    exact ⟨c, hc⟩
  obtain ⟨d, hd, hcuts, hparse⟩ := parse_of_readables htrim hread
  have hallowed : ∀ q, q ∈ d.cuts ↔ q < ⊤ ∧ ∀ u ∈ w :: ws, q ∈ cutsRead u := by
    intro q
    rw [hcuts, hclauses]
    simp only [cutsAllowed, Set.mem_ofPred_eq, List.mem_singleton, exists_eq_left,
      List.forall_mem_map, String.ofList_toList]
  have hinhabited : d.isEmpty = false := by
    rw [← Bool.not_eq_true, isEmpty_iff_cuts hd]
    exact fun h => h p ((hallowed p).mpr ⟨hp, hcommon⟩)
  refine ⟨d, ?_, hallowed⟩
  rw [hparse, hinhabited]
  rfl

/-! ### The interpreter series -/

variable {c : Constraint} {s t lowest : Nat × Nat} {p : Cut}

/-- The order in which the series follow each other. -/
abbrev SeriesLt : Nat × Nat → Nat × Nat → Prop := Prod.Lex (· < ·) (· < ·)

theorem ascending_interpreterSeries : interpreterSeries.Pairwise SeriesLt := by decide

theorem key_final_lt (h : SeriesLt s t) :
    (Version.final s.1 [s.2]).key < (Version.final t.1 [t.2]).key := by
  refine Version.key_lt_of_releases ?_
  change Version.compareReleases (s.1 :: [s.2]) (t.1 :: [t.2]) = .lt
  rcases Prod.lex_def.mp h with hlt | ⟨heq, hlt⟩
  · exact Version.compareReleases_of_lt hlt _ _
  · rw [heq, Version.compareReleases_cons_self]
    exact Version.compareReleases_of_lt hlt _ _

theorem lowerCut_lt_upperCut (s : Nat × Nat) :
    (seriesRange s).lowerCut < (seriesRange s).upperCut :=
  Cut.of_lt_of.mpr (.inl (key_final_lt (Prod.Lex.right s.1 (Nat.lt_succ_self s.2))))

/-- A series ends before the next one starts. -/
theorem upperCut_le_lowerCut (h : SeriesLt s t) :
    (seriesRange s).upperCut ≤ (seriesRange t).lowerCut := by
  refine Cut.before_le_before.mpr ?_
  rcases Prod.lex_def.mp h with hlt | ⟨heq, hlt⟩
  · exact (key_final_lt (s := (s.1, s.2 + 1)) (Prod.Lex.left _ _ hlt)).le
  · rcases Nat.lt_or_eq_of_le (show s.2 + 1 ≤ t.2 from hlt) with hlt | hnext
    · exact (key_final_lt (s := (s.1, s.2 + 1)) (Prod.lex_def.mpr (.inr ⟨heq, hlt⟩))).le
    · rw [heq, hnext]

/-- A cut lies in one series at most. -/
theorem eq_of_mem_cuts (hs : p ∈ (seriesRange s).cuts) (ht : p ∈ (seriesRange t).cuts) :
    s = t := by
  have hapart : ∀ {s t : Nat × Nat}, SeriesLt s t → p ∈ (seriesRange s).cuts →
      p ∉ (seriesRange t).cuts :=
    fun h hs ht => (hs.2.trans_le (upperCut_le_lowerCut h)).not_ge ht.1
  rcases trichotomous_of SeriesLt s t with hlt | heq | hgt
  · exact absurd ht (hapart hlt hs)
  · exact heq
  · exact absurd hs (hapart hgt ht)

/-- The lowest series that is accepted starts no later than any other. -/
theorem lowerCut_le_of_find? (hlowest : interpreterSeries.find? c.acceptsSeries = some lowest)
    (hs : s ∈ interpreterSeries) (haccept : c.acceptsSeries s = true) :
    (seriesRange lowest).lowerCut ≤ (seriesRange s).lowerCut := by
  obtain ⟨-, before, after, hlist, hbefore⟩ := List.find?_eq_some_iff_append.mp hlowest
  have hascending := hlist ▸ ascending_interpreterSeries
  rcases List.mem_append.mp (hlist ▸ hs) with hmem | hmem
  · have hrefused := hbefore s hmem
    rw [haccept] at hrefused
    cases hrefused
  rcases List.mem_cons.mp hmem with rfl | hmem
  · exact le_rfl
  · have hlt := (List.pairwise_cons.mp (List.pairwise_append.mp hascending).2.1).1 s hmem
    exact (lowerCut_lt_upperCut lowest).le.trans (upperCut_le_lowerCut hlt)

theorem acceptsSeries_iff : c.acceptsSeries s = true ↔
    (c.inter (ofRange (seriesRange s))).isEmpty = false := by
  rw [acceptsSeries, overlaps, Bool.not_eq_true']

/-- A series is accepted when some cut of it is allowed. -/
theorem acceptsSeries_of_mem (hc : p ∈ c.cuts) (hs : p ∈ (seriesRange s).cuts) :
    c.acceptsSeries s = true := by
  have hn : Normal (c.inter (ofRange (seriesRange s))).ranges := normal_ofRanges _
  rw [acceptsSeries_iff, ← Bool.not_eq_true, isEmpty_iff_cuts hn]
  exact fun h => h p (mem_cuts_inter.mpr ⟨hc, mem_cuts_ofRange.mpr hs⟩)

/-! ### The clauses of a requirement -/

/-- The exclusion of a series. -/
def seriesExclusion (s : Nat × Nat) : Exclusion := .minorSeries s.1 s.2

theorem text_seriesExclusion (s : Nat × Nat) :
    (seriesExclusion s).text = s!"!={seriesText s}.*" := by
  change "!=" ++ toString s.1 ++ "." ++ toString s.2 ++ ".*" =
    "!=" ++ (toString s.1 ++ "." ++ toString s.2) ++ ".*"
  simp only [String.append_assoc]

theorem text_final_series (s : Nat × Nat) : (Version.final s.1 [s.2]).text = seriesText s := by
  change ".".intercalate [toString s.1, toString s.2] = toString s.1 ++ "." ++ toString s.2
  rw [String.intercalate_cons_cons, String.intercalate_singleton]

theorem cuts_seriesExclusion (s : Nat × Nat) :
    (seriesExclusion s).range.cuts = (seriesRange s).cuts := by
  have hzero : ∀ n : Nat, (Version.final s.1 [n, 0]).key = (Version.final s.1 [n]).key := by
    intro n
    refine Version.key_final_congr ?_
    rw [Version.compareReleases_cons_self, Version.compareReleases_cons_self]
    rfl
  exact congr_arg₂ Set.Ico (Cut.of_congr (hzero s.2) false) (Cut.of_congr (hzero (s.2 + 1)) false)

theorem legible_seriesExclusion (hs : s ∈ interpreterSeries) : (seriesExclusion s).Legible := by
  have hfits : ∀ s ∈ interpreterSeries, s.1 < Text.wordLimit ∧ s.2 + 1 < Text.wordLimit := by
    decide
  exact hfits s hs

theorem legible_final_series (hs : s ∈ interpreterSeries) :
    (Version.final s.1 [s.2]).Legible := by
  obtain ⟨hmajor, hminor⟩ := legible_seriesExclusion hs
  exact Version.legible_final (List.forall_mem_cons.mpr
    ⟨hmajor, List.forall_mem_singleton.mpr (Nat.lt_of_succ_lt hminor)⟩)

/-- The text of a union is read back as everything from the lowest accepted series on, without the
    series that are not accepted. -/
theorem parse_interpreterSpecifier_of_find? (hlength : 2 ≤ c.ranges.length)
    (hlowest : interpreterSeries.find? c.acceptsSeries = some lowest) :
    ∃ d, parse c.interpreterSpecifier = .ok d ∧ ∀ q, q ∈ d.cuts ↔ q < ⊤ ∧
      (seriesRange lowest).lowerCut ≤ q ∧
        ∀ s ∈ interpreterSeries, c.acceptsSeries s = false → q ∉ (seriesRange s).cuts := by
  have hmem := List.mem_of_find?_eq_some hlowest
  have hlegible := legible_final_series hmem
  let refused := interpreterSeries.filter fun s => !c.acceptsSeries s
  have hrefused : ∀ {s : Nat × Nat}, s ∈ refused ↔
      s ∈ interpreterSeries ∧ c.acceptsSeries s = false := by
    simp [refused]
  let first := ">=" ++ (Version.final lowest.1 [lowest.2]).text
  let others := refused.map fun s => (seriesExclusion s).text
  have htext : c.interpreterSpecifier = ", ".intercalate (first :: others) := by
    simp only [interpreterSpecifier, if_neg (Nat.not_lt.mpr hlength), hlowest, first, others,
      text_final_series, text_seriesExclusion, refused]
  have hstandalone : ∀ u ∈ first :: others, Standalone u :=
    List.forall_mem_cons.mpr ⟨standalone_comparison .atLeast (by decide) hlegible,
      List.forall_mem_map.mpr fun s hs =>
        Exclusion.standalone_text (legible_seriesExclusion (hrefused.mp hs).1)⟩
  have hread : ∀ {q : Cut}, q < ⊤ → ((∀ u ∈ first :: others, q ∈ cutsRead u) ↔
      (seriesRange lowest).lowerCut ≤ q ∧
        ∀ s ∈ interpreterSeries, c.acceptsSeries s = false → q ∉ (seriesRange s).cuts) := by
    intro q hq
    rw [List.forall_mem_cons, List.forall_mem_map]
    refine and_congr ?_ ?_
    · rw [mem_cutsRead_comparison .atLeast (by decide) (by decide) hlegible]
      exact mem_cuts_ofRange.trans (and_iff_left hq)
    · simp only [hrefused, and_imp]
      refine forall₃_congr fun s hs _ => ?_
      rw [Exclusion.mem_cutsRead_text (legible_seriesExclusion hs), cuts_seriesExclusion,
        and_iff_right hq]
  -- the start of the lowest series is no cut of another one, so the clauses have it in common
  have hstart : (seriesRange lowest).lowerCut < ⊤ := Cut.of_lt_top
  have hcommon : ∀ u ∈ first :: others, (seriesRange lowest).lowerCut ∈ cutsRead u := by
    refine (hread hstart).mpr ⟨le_rfl, fun s _ hrefuse hs => ?_⟩
    rw [eq_of_mem_cuts hs ⟨le_rfl, lowerCut_lt_upperCut lowest⟩, List.find?_some hlowest] at hrefuse
    cases hrefuse
  obtain ⟨d, hd, hcuts⟩ := parse_spaced hstandalone hstart hcommon
  refine ⟨d, htext ▸ hd, fun q => ?_⟩
  rw [hcuts]
  exact and_congr_right hread

/-- Within the known series, the text of a union allows those that are accepted and no others. -/
theorem mem_interpreterSpecifier_iff (hlength : 2 ≤ c.ranges.length)
    (hsome : ∃ s ∈ interpreterSeries, c.acceptsSeries s = true) :
    ∃ d, parse c.interpreterSpecifier = .ok d ∧
      ∀ s ∈ interpreterSeries, ∀ v ∈ seriesRange s, v ∈ d ↔ c.acceptsSeries s = true := by
  obtain ⟨lowest, hlowest⟩ := Option.isSome_iff_exists.mp (List.find?_isSome.mpr hsome)
  obtain ⟨d, hd, hcuts⟩ := parse_interpreterSpecifier_of_find? hlength hlowest
  refine ⟨d, hd, fun s hs v hv => ?_⟩
  have hvs := VersionRange.mem_iff.mp hv
  rw [mem_iff, hcuts]
  constructor
  · intro ⟨_, _, hout⟩
    by_contra hrefuse
    exact hout s hs ((Bool.not_eq_true _).mp hrefuse) hvs
  · intro haccept
    refine ⟨Cut.of_lt_top, (lowerCut_le_of_find? hlowest hs haccept).trans hvs.1, ?_⟩
    intro t _ hrefuse hvt
    rw [eq_of_mem_cuts hvt hvs, haccept] at hrefuse
    cases hrefuse

/-- The requirement of a union that accepts a known series is read, keeps every version of the known
    series that the union allows, and allows no version of a series whose intersection with the
    union is empty. -/
theorem parse_interpreterSpecifier (c : Constraint) (hlength : 2 ≤ c.ranges.length)
    (hsome : ∃ s ∈ interpreterSeries, (c.inter (ofRange (seriesRange s))).isEmpty = false) :
    ∃ d, parse c.interpreterSpecifier = .ok d ∧
      (∀ s ∈ interpreterSeries, ∀ v ∈ seriesRange s, v ∈ c → v ∈ d) ∧
      ∀ s ∈ interpreterSeries, (c.inter (ofRange (seriesRange s))).isEmpty = true →
        ∀ v ∈ seriesRange s, v ∉ d := by
  obtain ⟨s, hs, hshared⟩ := hsome
  obtain ⟨d, hd, hseries⟩ :=
    mem_interpreterSpecifier_iff hlength ⟨s, hs, acceptsSeries_iff.mpr hshared⟩
  refine ⟨d, hd, fun s hs v hv hvc => ?_, fun s hs hempty v hv hvd => ?_⟩
  · have haccept := acceptsSeries_of_mem (mem_iff.mp hvc) (VersionRange.mem_iff.mp hv)
    exact (hseries s hs v hv).mpr haccept
  · have hshared := acceptsSeries_iff.mp ((hseries s hs v hv).mp hvd)
    rw [hempty] at hshared
    cases hshared

theorem parse_interpreterSpecifier_of_gaps :
    let c : Constraint := ⟨[.halfOpen (.final 2 [7]) (.final 2 [8]),
      .halfOpen (.final 3 [5, 2]) (.final 3 [5, 7]), .above (.final 3 [8]) true]⟩
    parse "~2.7 || >=3.5.2,<3.5.7 || >=3.8" = .ok c ∧
      c.interpreterSpecifier =
        ">=2.7, !=3.0.*, !=3.1.*, !=3.2.*, !=3.3.*, !=3.4.*, !=3.6.*, !=3.7.*" ∧
      2 ≤ c.ranges.length ∧
      (∃ s ∈ interpreterSeries, (c.inter (ofRange (seriesRange s))).isEmpty = false) ∧
      ∃ d, parse c.interpreterSpecifier = .ok d ∧
        (∀ s ∈ interpreterSeries, ∀ v ∈ seriesRange s, v ∈ c → v ∈ d) ∧
        ∀ s ∈ interpreterSeries, (c.inter (ofRange (seriesRange s))).isEmpty = true →
          ∀ v ∈ seriesRange s, v ∉ d := by
  intro c
  have hsome : ∃ s ∈ interpreterSeries, (c.inter (ofRange (seriesRange s))).isEmpty = false :=
    ⟨(3, 5), by decide, by decide +kernel⟩
  exact ⟨by decide +kernel, by decide +kernel, by decide, hsome,
    parse_interpreterSpecifier c (by decide) hsome⟩

end Constraint

end ManifestMigration
