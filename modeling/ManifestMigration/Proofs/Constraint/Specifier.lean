import ManifestMigration.Proofs.Constraint.Exclusion
import ManifestMigration.Proofs.Constraint.Gaps

/-! What a specifier says, next to the constraint it was made from.

    The text of a specifier is read back as the range around the constraint without the exclusions
    that were found for its gaps, or as the series that a short pinned version stands for. Where
    every gap has an exclusion nothing is added. What may get lost is what an exclusion keeps out
    below its gap. -/

namespace ManifestMigration

namespace VersionRange

/-- The clauses of a range; none when the range has no bound. -/
def clauses (r : VersionRange) : List String := r.lowerClause ++ r.upperClause

theorem isAny_iff {r : VersionRange} : r.isAny = true ↔ r.clauses = [] := by
  obtain ⟨lower, upper, _, _⟩ := r
  cases lower <;> cases upper <;> simp [isAny, clauses, lowerClause, upperClause]

end VersionRange

namespace Constraint

/-! ### Reading ranges and exclusions together -/

/-- The text of clauses; a star when there are none. -/
def clauseText : List String → String
  | [] => "*"
  | w :: ws => ",".intercalate (w :: ws)

theorem render_eq_clauseText (r : VersionRange) : r.render = clauseText r.clauses := by
  cases hclauses : r.clauses with
  | nil => rw [VersionRange.render, if_pos (VersionRange.isAny_iff.mpr hclauses), clauseText]
  | cons w ws =>
    have hany : ¬ r.isAny = true := by
      rw [VersionRange.isAny_iff, hclauses]
      exact List.cons_ne_nil w ws
    rw [VersionRange.render, if_neg hany, clauseText, ← hclauses, VersionRange.clauses]

theorem comparison?_lower (closed : Bool) : comparison? (if closed then ">=" else ">").toList =
    some (if closed then .atLeast else .greater) := by
  cases closed <;> decide

theorem comparison?_upper (closed : Bool) : comparison? (if closed then "<=" else "<").toList =
    some (if closed then .atMost else .less) := by
  cases closed <;> decide

theorem lowerCut_le_iff {r : VersionRange} (hr : r.Bounded Version.Legible) {p : Cut} (hp : p < ⊤) :
    (∀ w ∈ r.lowerClause, p ∈ cutsRead w) ↔ r.lowerCut ≤ p := by
  obtain ⟨lower, _, closed, _⟩ := r
  cases lower with
  | none => simp [VersionRange.lowerClause, VersionRange.lowerCut, Cut.start]
  | some v =>
    have hne : (if closed then ">=" else ">") ≠ "" := by cases closed <;> decide
    rw [VersionRange.lowerClause, List.forall_mem_singleton,
      mem_cutsRead_comparison _ hne (comparison?_lower closed) (hr.lower v rfl)]
    cases closed <;> exact mem_cuts_ofRange.trans (and_iff_left hp)

theorem lt_upperCut_iff {r : VersionRange} (hr : r.Bounded Version.Legible) {p : Cut} (hp : p < ⊤) :
    (∀ w ∈ r.upperClause, p ∈ cutsRead w) ↔ p < r.upperCut := by
  obtain ⟨_, upper, _, closed⟩ := r
  cases upper with
  | none => simp [VersionRange.upperClause, VersionRange.upperCut, Cut.stop, hp]
  | some v =>
    have hne : (if closed then "<=" else "<") ≠ "" := by cases closed <;> decide
    rw [VersionRange.upperClause, List.forall_mem_singleton,
      mem_cutsRead_comparison _ hne (comparison?_upper closed) (hr.upper v rfl)]
    cases closed <;> exact mem_cuts_ofRange.trans (and_iff_right bot_le)

theorem standalone_clauses {r : VersionRange} (hr : r.Bounded Version.Legible) :
    ∀ w ∈ r.clauses, Standalone w := by
  obtain ⟨lower, upper, closedLower, closedUpper⟩ := r
  refine List.forall_mem_append.mpr ⟨?_, ?_⟩
  · cases lower with
    | none => exact fun _ hw => by cases hw
    | some v =>
      exact List.forall_mem_singleton.mpr
        (standalone_comparison _ (comparison?_lower closedLower) (hr.lower v rfl))
  · cases upper with
    | none => exact fun _ hw => by cases hw
    | some v =>
      exact List.forall_mem_singleton.mpr
        (standalone_comparison _ (comparison?_upper closedUpper) (hr.upper v rfl))

theorem mem_cutsRead_star {p : Cut} : p ∈ cutsRead "*" ↔ p < ⊤ := by
  have hread : readOne "*".toList = .ok any := by decide
  rw [mem_cutsRead hread, mem_cuts_any]

/-- The text of clauses is made of clauses, also when there is only the star. -/
theorem exists_intercalate_eq {ws : List String} (hs : ∀ w ∈ ws, Standalone w) :
    ∃ us, clauseText ws = ",".intercalate us ∧ us ≠ [] ∧ (∀ w ∈ us, Standalone w) ∧
      ∀ q < (⊤ : Cut), (∀ w ∈ us, q ∈ cutsRead w) ↔ ∀ w ∈ ws, q ∈ cutsRead w := by
  cases ws with
  | nil =>
    refine ⟨["*"], by simp [clauseText], List.cons_ne_nil _ _, List.forall_mem_singleton.mpr
      ⟨List.all_eq_true.mp (by decide), '*', by decide, by decide⟩, fun q hq => ?_⟩
    rw [List.forall_mem_singleton, mem_cutsRead_star, iff_true_intro hq]
    simp
  | cons w ws => exact ⟨w :: ws, rfl, List.cons_ne_nil _ _, hs, fun _ _ => Iff.rfl⟩

/-- The text of clauses that have a cut in common is read, and allows what they have in common. -/
theorem parse_clauseText {ws : List String} (hs : ∀ w ∈ ws, Standalone w) {p : Cut} (hp : p < ⊤)
    (hcommon : ∀ w ∈ ws, p ∈ cutsRead w) :
    ∃ d, parse (clauseText ws) = .ok d ∧ ∀ q, q ∈ d.cuts ↔ q < ⊤ ∧ ∀ w ∈ ws, q ∈ cutsRead w := by
  obtain ⟨us, htext, hne, hus, hiff⟩ := exists_intercalate_eq hs
  obtain ⟨d, hd, hcuts⟩ := parse_intercalate hus hne hp ((hiff p hp).mpr hcommon)
  refine ⟨d, htext ▸ hd, fun q => ?_⟩
  rw [hcuts]
  exact and_congr_right fun hq => hiff q hq

theorem forall_mem_clauses_iff {r : VersionRange} (hr : r.Bounded Version.Legible) {p : Cut}
    (hp : p < ⊤) : (∀ w ∈ r.clauses, p ∈ cutsRead w) ↔ p ∈ r.cuts := by
  rw [VersionRange.clauses, List.forall_mem_append, lowerCut_le_iff hr hp, lt_upperCut_iff hr hp,
    VersionRange.cuts, Set.mem_Ico]

/-- A range and exclusions are read back together. -/
theorem parse_range_exclusions {r : VersionRange} {es : List Exclusion}
    (hr : r.Bounded Version.Legible) (hes : ∀ e ∈ es, e.Legible)
    (hp : ∃ p ∈ r.cuts, ∀ e ∈ es, p ∉ e.range.cuts) :
    ∃ d, parse (clauseText (r.clauses ++ es.map Exclusion.text)) = .ok d ∧
      ∀ q, q ∈ d.cuts ↔ q ∈ r.cuts ∧ ∀ e ∈ es, q ∉ e.range.cuts := by
  have hread : ∀ {q : Cut}, q < ⊤ →
      ((∀ w ∈ r.clauses ++ es.map Exclusion.text, q ∈ cutsRead w) ↔
        q ∈ r.cuts ∧ ∀ e ∈ es, q ∉ e.range.cuts) := by
    intro q hq
    rw [List.forall_mem_append, forall_mem_clauses_iff hr hq, List.forall_mem_map]
    refine and_congr_right fun _ => forall₂_congr fun e he => ?_
    rw [Exclusion.mem_cutsRead_text (hes e he), and_iff_right hq]
  obtain ⟨p, hpr, hpes⟩ := hp
  have htop : ∀ {q : Cut}, q ∈ r.cuts → q < ⊤ := fun hq => hq.2.trans_le le_top
  have hs : ∀ w ∈ r.clauses ++ es.map Exclusion.text, Standalone w :=
    List.forall_mem_append.mpr ⟨standalone_clauses hr,
      List.forall_mem_map.mpr fun e he => Exclusion.standalone_text (hes e he)⟩
  obtain ⟨d, hd, hcuts⟩ := parse_clauseText hs (htop hpr) ((hread (htop hpr)).mpr ⟨hpr, hpes⟩)
  refine ⟨d, hd, fun q => (hcuts q).trans ⟨fun ⟨hq, h⟩ => (hread hq).mp h, fun h => ?_⟩⟩
  exact ⟨htop h.1, (hread (htop h.1)).mpr h⟩

/-! ### The specifier of a pinned version -/

/-- A short pinned version stands for a series that starts with the version's own final release and
    ends at a larger one. -/
theorem pinSeries?_spec {v : Version} {series : VersionRange} (hv : v.Fits)
    (h : pinSeries? v = some series) :
    ∃ major tail high, series = .halfOpen (.final major tail) high ∧
      (Version.final major tail).IsRelease ∧ high.IsRelease ∧
      Version.compareReleases (major :: tail) v.release = .eq ∧
      Version.compareReleases (major :: tail) high.release = .lt := by
  have hmajor := hv v.major (List.mem_cons_self ..)
  rw [pinSeries?] at h
  split at h
  case h_1 htail =>
    obtain ⟨high, hhigh, rfl⟩ := Option.map_eq_some_iff.mp h
    have hfloor : (Version.final v.major [0]).Fits :=
      List.forall_mem_cons.mpr ⟨hmajor, List.forall_mem_singleton.mpr (by decide)⟩
    refine ⟨v.major, [0], high, rfl, ⟨_, _, rfl, hfloor⟩,
      Version.isRelease_of_nextBreaking? hfloor hhigh, ?_, ?_⟩
    · rw [Version.release, htail, Version.compareReleases_cons_self]
      rfl
    · have hnext : (Version.final v.major [0]).nextBreaking? = if v.major > 0
          then (Version.final v.major [0]).nextMajor?
          else (Version.final v.major [0]).nextMinor? := rfl
      rw [hnext] at hhigh
      split at hhigh
      · rw [Version.nextMajor?_of_isStable rfl] at hhigh
        exact Version.releases_lt_of_bumpMajor? hhigh
      · exact Version.releases_lt_of_nextMinor? rfl hhigh
  case h_2 minor htail =>
    obtain ⟨high, hhigh, rfl⟩ := Option.map_eq_some_iff.mp h
    have hminor : minor < Text.wordLimit := hv minor (by simp [Version.release, htail])
    have hfloor : (Version.final v.major [minor]).Fits :=
      List.forall_mem_cons.mpr ⟨hmajor, List.forall_mem_singleton.mpr hminor⟩
    refine ⟨v.major, [minor], high, rfl, ⟨_, _, rfl, hfloor⟩,
      Version.isRelease_of_nextMinor? hfloor hhigh, ?_, Version.releases_lt_of_nextMinor? rfl hhigh⟩
    rw [Version.release, htail]
    exact Std.ReflCmp.compare_self
  case h_3 => cases h

theorem cuts_of_pinned? {r : VersionRange} {v : Version} (h : r.pinned? = some v) :
    r.lower = some v ∧ r.cuts = (VersionRange.exact v).cuts := by
  obtain ⟨lower, upper, closedLower, closedUpper⟩ := r
  rw [VersionRange.pinned?] at h
  split at h
  case h_2 => cases h
  case h_1 low high hlow hhigh =>
    split at h
    case isFalse => cases h
    case isTrue hclosed =>
      cases h
      simp only [Bool.and_eq_true, Version.same_iff] at hclosed
      obtain ⟨⟨hlower, hupper⟩, hkey⟩ := hclosed
      subst hlower hupper hlow hhigh
      refine ⟨rfl, congr_arg₂ Set.Ico rfl ?_⟩
      exact (Cut.of_congr hkey true).symm

/-- A pinned version is read back as the series that it stands for, or as itself. -/
theorem parse_exactSpecifier {v : Version} (hv : v.Legible) :
    ∃ d, parse (exactSpecifier v) = .ok d ∧
      ∀ q, q ∈ d.cuts ↔ q ∈ ((pinSeries? v).getD (.exact v)).cuts := by
  rw [exactSpecifier]
  split
  case h_1 series hseries =>
    obtain ⟨major, tail, high, rfl, hfloor, hhigh, -, hlt⟩ := pinSeries?_spec hv.fits hseries
    have hbounded : (VersionRange.halfOpen (.final major tail) high).Bounded Version.Legible :=
      ⟨fun _ hw => by cases hw; exact hfloor.legible, fun _ hw => by cases hw; exact hhigh.legible⟩
    have hnone : ∀ e ∈ ([] : List Exclusion), e.Legible := fun _ he => by cases he
    obtain ⟨d, hd, hcuts⟩ := parse_range_exclusions hbounded hnone
      ⟨_, ⟨le_rfl, Cut.of_lt_of.mpr (.inl (Version.key_lt_of_releases hlt))⟩,
        fun _ he => by cases he⟩
    rw [List.map_nil, List.append_nil, ← render_eq_clauseText] at hd
    refine ⟨d, hd, fun q => ?_⟩
    rw [hcuts, hseries]
    simp
  case h_2 hseries =>
    have hs : ∀ w ∈ ["==" ++ v.text], Standalone w :=
      List.forall_mem_singleton.mpr (standalone_comparison .equal (by decide) hv)
    have hread : ∀ q, q ∈ cutsRead ("==" ++ v.text) ↔ q ∈ (VersionRange.exact v).cuts := fun q =>
      (mem_cutsRead_comparison .equal (by decide) (by decide) hv).trans mem_cuts_ofRange
    have hself : Cut.of v false ∈ (VersionRange.exact v).cuts :=
      VersionRange.mem_iff.mp (VersionRange.mem_exact_iff.mpr rfl)
    obtain ⟨d, hd, hcuts⟩ := parse_clauseText hs Cut.of_lt_top
      (List.forall_mem_singleton.mpr ((hread _).mpr hself))
    refine ⟨d, by simpa [clauseText] using hd, fun q => ?_⟩
    rw [hcuts, List.forall_mem_singleton, hread, hseries]
    exact and_iff_right_of_imp fun hq => hq.2.trans_le le_top

/-! ### The specifier of ranges -/

variable {c : Constraint}

/-- The exclusions that were found for the gaps. -/
def exclusions (c : Constraint) : List Exclusion := (gapExclusions c.ranges).filterMap id

theorem mem_exclusions {e : Exclusion} : e ∈ c.exclusions ↔
    ∃ low high, Neighbours c.ranges low high ∧ gapExclusion? low high = some e := by
  simp [exclusions, mem_gapExclusions]

theorem text_unionSpecifier (c : Constraint) : c.unionSpecifier.text =
    clauseText (c.hull.clauses ++ c.exclusions.map Exclusion.text) := by
  have htexts : ((gapExclusions c.ranges).filterMap fun gap => gap.map Exclusion.text) =
      c.exclusions.map Exclusion.text := by
    rw [exclusions, List.map_filterMap]
    rfl
  simp only [unionSpecifier, htexts]
  cases hclauses : c.hull.clauses with
  | nil =>
    rw [if_pos (VersionRange.isAny_iff.mpr hclauses)]
    cases c.exclusions.map Exclusion.text <;> rfl
  | cons w ws =>
    have hany : ¬ c.hull.isAny = true := by
      rw [VersionRange.isAny_iff, hclauses]
      exact List.cons_ne_nil w ws
    rw [if_neg hany, render_eq_clauseText, hclauses]
    cases c.exclusions.map Exclusion.text with
    | nil => simp [clauseText]
    | cons t ts =>
      change ",".intercalate (",".intercalate (w :: ws) :: t :: ts) =
        ",".intercalate (w :: ws ++ t :: ts)
      rw [String.intercalate_append_of_ne_nil (List.cons_ne_nil w ws) (List.cons_ne_nil t ts),
        String.intercalate_cons_cons]

theorem text_specifier (hne : c.isEmpty = false) (hpin : c.pinned? = none) :
    c.specifier.text = clauseText (c.hull.clauses ++ c.exclusions.map Exclusion.text) := by
  obtain ⟨ranges⟩ := c
  rw [specifier, hpin]
  match ranges with
  | [] => cases hne
  | [r] =>
    change r.render = clauseText (r.clauses ++ [])
    rw [List.append_nil, render_eq_clauseText]
  | _ :: _ :: _ => exact text_unionSpecifier _

theorem bounded_hull {P : Version → Prop} (hb : c.Bounded P) : c.hull.Bounded P := by
  rw [hull]
  split
  case h_1 first last hfirst hlast =>
    have hlower := (hb first (List.mem_of_head? hfirst)).lower
    exact ⟨hlower, (hb last (List.mem_of_getLast? hlast)).upper⟩
  case h_2 => exact bounded_any _ (List.mem_singleton_self _)

/-- Ranges are read back as the range around them without the exclusions for their gaps. -/
theorem parse_specifier_of_not_pinned (hn : Normal c.ranges) (hb : c.Bounded Version.Legible)
    (hne : c.isEmpty = false) (hpin : c.pinned? = none) :
    ∃ d, parse c.specifier.text = .ok d ∧
      ∀ q, q ∈ d.cuts ↔ q ∈ c.hull.cuts ∧ ∀ e ∈ c.exclusions, q ∉ e.range.cuts := by
  have hcloses : ∀ e ∈ c.exclusions, e.Legible ∧
      ∃ low high, Neighbours c.ranges low high ∧ e.Closes low high := by
    intro e he
    obtain ⟨low, high, hneighbours, hgap⟩ := mem_exclusions.mp he
    obtain ⟨hlegible, hcloses⟩ := closes_of_gapExclusion? (hb low hneighbours.mem.1) hgap
    exact ⟨hlegible, low, high, hneighbours, hcloses⟩
  -- every exclusion ends where its gap does, so none of them reaches the start of the last range
  obtain ⟨p, hp, hpast⟩ := exists_mem_cuts_hull hn hne
  rw [text_specifier hne hpin]
  refine parse_range_exclusions (bounded_hull hb) (fun e he => (hcloses e he).1)
    ⟨p, hp, fun e he hpe => ?_⟩
  obtain ⟨-, low, high, hneighbours, hcloses⟩ := hcloses e he
  exact hpe.2.not_ge (hcloses.stop ▸ hpast low high hneighbours)

theorem cuts_of_constraint_pinned? {v : Version} (h : c.pinned? = some v) :
    c.cuts = (VersionRange.exact v).cuts ∧ ∃ r, c.ranges = [r] ∧ r.lower = some v := by
  obtain ⟨ranges⟩ := c
  match ranges with
  | [] => cases h
  | [r] =>
    obtain ⟨hlower, hcuts⟩ := cuts_of_pinned? h
    refine ⟨Set.ext fun q => ?_, r, rfl, hlower⟩
    rw [cuts, mem_cutsOf_cons, or_iff_left mem_cutsOf_nil, hcuts]
  | _ :: _ :: _ => cases h

/-- A pinned version is read back as the series that it stands for, or as itself. -/
theorem parse_specifier_of_pinned {v : Version} (hb : c.Bounded Version.Legible)
    (hv : c.pinned? = some v) : ∃ d, parse c.specifier.text = .ok d ∧
      ∀ q, q ∈ d.cuts ↔ q ∈ ((pinSeries? v).getD (.exact v)).cuts := by
  obtain ⟨-, r, hr, hlower⟩ := cuts_of_constraint_pinned? hv
  have hlegible : v.Legible := (hb r (hr ▸ List.mem_singleton_self r)).lower v hlower
  rw [specifier, hv]
  exact parse_exactSpecifier hlegible

theorem pinSeries?_eq_none {v : Version} (h : 3 ≤ v.precision) : pinSeries? v = none := by
  rw [Version.precision, Version.release, List.length_cons] at h
  rw [pinSeries?]
  split
  case h_1 htail => rw [htail] at h; simp at h
  case h_2 minor htail => rw [htail] at h; simp at h
  case h_3 => rfl

/-- Ranges whose specifier is not flagged have an exclusion for every gap. -/
theorem exists_exclusion_of_not_widened (hpin : c.pinned? = none) (h : c.specifier.widened = false)
    {low high : VersionRange} (hneighbours : Neighbours c.ranges low high) :
    ∃ e ∈ c.exclusions, gapExclusion? low high = some e := by
  have hgap : gapExclusion? low high ∈ gapExclusions c.ranges :=
    mem_gapExclusions.mpr ⟨low, high, hneighbours, rfl⟩
  have hsome : (gapExclusions c.ranges).any Option.isNone = false := by
    obtain ⟨ranges⟩ := c
    rw [specifier, hpin] at h
    match ranges with
    | [] => exact absurd hneighbours not_neighbours_nil
    | [r] => exact absurd hneighbours not_neighbours_singleton
    | r :: s :: rest =>
      simp only [unionSpecifier] at h
      split at h
      · cases h
      · exact h
  cases he : gapExclusion? low high with
  | none => exact absurd (List.any_eq_false.mp hsome _ hgap) (by rw [he]; decide)
  | some e => exact ⟨e, mem_exclusions.mpr ⟨low, high, hneighbours, he⟩, rfl⟩

/-- A specifier that is not flagged allows nothing beyond the constraint, unless it stands for a
    pinned version of one or two segments. -/
theorem mem_of_mem_specifier (c : Constraint) (hc : Combination Readable c)
    (hne : c.isEmpty = false) (hpin : ∀ v, c.pinned? = some v → 3 ≤ v.precision)
    (hflag : c.specifier.widened = false) :
    ∃ d, parse c.specifier.text = .ok d ∧ ∀ v ∈ d, v ∈ c := by
  have hn := hc.normal fun _ => Readable.normal
  have hb := hc.bounded fun _ => Readable.bounded
  cases hv : c.pinned? with
  | some v =>
    obtain ⟨d, hd, hcuts⟩ := parse_specifier_of_pinned hb hv
    refine ⟨d, hd, fun w hw => ?_⟩
    have hseries := pinSeries?_eq_none (hpin v hv)
    rw [mem_iff, hcuts, hseries] at hw
    rw [mem_iff, (cuts_of_constraint_pinned? hv).1]
    exact hw
  | none =>
    obtain ⟨d, hd, hcuts⟩ := parse_specifier_of_not_pinned hn hb hne hv
    refine ⟨d, hd, fun v hvd => ?_⟩
    obtain ⟨hhull, hout⟩ := (hcuts _).mp (mem_iff.mp hvd)
    rcases mem_cuts_or_gap hne hhull with hvc | ⟨low, high, hneighbours, hlow, hhigh⟩
    · exact mem_iff.mpr hvc
    obtain ⟨e, he, hgap⟩ := exists_exclusion_of_not_widened hv hflag hneighbours
    obtain ⟨-, hcloses⟩ := closes_of_gapExclusion? (hb low hneighbours.mem.1) hgap
    exact absurd ⟨hcloses.start.trans hlow, hcloses.stop ▸ hhigh⟩ (hout e he)

theorem mem_of_mem_specifier_of_gaps :
    let c : Constraint := ⟨[.halfOpen (.final 1 [2]) (.final 1 [5]),
      ⟨some (.final 1 [5]), some (.final 1 [7, 0]), false, false⟩,
      .halfOpen (.final 1 [8, 0]) (.final 2 [0])]⟩
    Combination Readable c ∧ c.isEmpty = false ∧ c.pinned? = none ∧
      c.specifier = ⟨">=1.2,<2.0,!=1.5,!=1.7.*", false⟩ ∧
      ∃ d, parse c.specifier.text = .ok d ∧ ∀ v ∈ d, v ∈ c := by
  intro c
  have hread : parse ">=1.2,<1.5 || >1.5,<1.7.0 || >=1.8.0,<2.0" = .ok c := by decide +kernel
  have hc : Combination Readable c := .base ⟨_, hread⟩
  have htext : c.specifier = ⟨">=1.2,<2.0,!=1.5,!=1.7.*", false⟩ := by decide +kernel
  exact ⟨hc, rfl, rfl, htext,
    mem_of_mem_specifier c hc rfl (fun _ hv => by cases hv) (by rw [htext])⟩

end Constraint

end ManifestMigration
