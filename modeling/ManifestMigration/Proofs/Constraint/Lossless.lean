import ManifestMigration.Proofs.Constraint.Specifier

/-! The versions that get lost in the text of a specifier.

    An exclusion ends where its gap does, but it may start below: the series of `2` starts at
    `2.0.0`, also when the gap only starts at `2.post1`, and the series of `0` reaches down without
    end. And a pinned pre-release of one or two segments comes before the series it stands for.
    Where none of this is the case the text allows every version of the constraint. -/

namespace ManifestMigration

namespace Constraint

variable {c : Constraint}

/-- The part of an exclusion that lies below the gap it was found for, from where the exclusion
    starts to where the range before the gap ends. -/
def Exclusion.overreach (e : Exclusion) (low : VersionRange) : VersionRange :=
  ⟨e.range.lower, low.upper, e.range.closedLower, low.closedUpper⟩

/-- Nothing gets lost in the text: a pinned version that stands for a series does not come before
    its own final release, and no exclusion keeps out a version of the constraint below its gap. -/
structure Lossless (c : Constraint) : Prop where
  pin : ∀ v series, c.pinned? = some v → pinSeries? v = some series →
    v.before (.final v.major v.tail) = false
  gap : ∀ low high e, Neighbours c.ranges low high → gapExclusion? low high = some e →
    ∀ v ∈ c, v ∉ e.overreach low

/-- An exclusion keeps out its gap and what it reaches below. -/
theorem Exclusion.Closes.mem_cuts_iff {e : Exclusion} {low high : VersionRange}
    (h : e.Closes low high) (hgap : low.upperCut < high.lowerCut) {p : Cut} :
    p ∈ e.range.cuts ↔ p ∈ (e.overreach low).cuts ∨ low.upperCut ≤ p ∧ p < high.lowerCut := by
  have hrange : p ∈ e.range.cuts ↔ e.range.lowerCut ≤ p ∧ p < high.lowerCut := by
    rw [← h.stop]
    rfl
  have hover : p ∈ (e.overreach low).cuts ↔ e.range.lowerCut ≤ p ∧ p < low.upperCut := Iff.rfl
  rw [hrange, hover]
  constructor
  · rintro ⟨hstart, hstop⟩
    rcases lt_or_ge p low.upperCut with hlow | hlow
    · exact .inl ⟨hstart, hlow⟩
    · exact .inr ⟨hlow, hstop⟩
  · rintro (⟨hstart, hlow⟩ | ⟨hlow, hstop⟩)
    · exact ⟨hstart, hlow.trans hgap⟩
    · exact ⟨h.start.trans hlow, hstop⟩

/-- A version belongs to the series it stands for unless it comes before its own final release. -/
theorem mem_pinSeries?_iff {v : Version} {series : VersionRange} (hv : v.Fits)
    (h : pinSeries? v = some series) :
    v ∈ series ↔ v.before (.final v.major v.tail) = false := by
  obtain ⟨major, tail, high, rfl, -, -, hown, hlt⟩ := pinSeries?_spec hv h
  have hhigh : v.key < high.key := by
    refine Version.key_lt_of_releases (Std.TransCmp.lt_of_eq_of_lt ?_ hlt)
    exact Std.OrientedCmp.eq_symm hown
  have hfloor : (Version.final major tail).key = (Version.final v.major v.tail).key :=
    Version.key_final_congr hown
  rw [VersionRange.mem_halfOpen_iff, and_iff_left hhigh, hfloor, ← Bool.not_eq_true,
    Version.before_iff, not_lt]

/-- A pinned version is kept when it belongs to its series. -/
theorem lossless_iff_of_pinned {v : Version} (hfits : v.Fits) (hv : c.pinned? = some v) :
    c.Lossless ↔ v ∈ (pinSeries? v).getD (.exact v) := by
  obtain ⟨-, r, hr, -⟩ := cuts_of_constraint_pinned? hv
  have hself : v ∈ VersionRange.exact v := VersionRange.mem_exact_iff.mpr rfl
  constructor
  · intro hlossless
    cases hseries : pinSeries? v with
    | none => exact hself
    | some series =>
      exact (mem_pinSeries?_iff hfits hseries).mpr (hlossless.pin v series hv hseries)
  · intro h
    refine ⟨fun w series hw hseries => ?_, fun low high e hneighbours => ?_⟩
    · rw [hv] at hw
      cases hw
      rw [hseries] at h
      exact (mem_pinSeries?_iff hfits hseries).mp h
    · rw [hr] at hneighbours
      exact absurd hneighbours not_neighbours_singleton

/-- The text of a specifier is always read back, and it allows every version of the constraint
    exactly when the constraint is lossless. -/
theorem mem_specifier_iff_lossless (c : Constraint) (hc : Combination Readable c)
    (hne : c.isEmpty = false) :
    ∃ d, parse c.specifier.text = .ok d ∧ ((∀ v ∈ c, v ∈ d) ↔ c.Lossless) := by
  have hn := hc.normal fun _ => Readable.normal
  have hb := hc.bounded fun _ => Readable.bounded
  cases hv : c.pinned? with
  | some v =>
    obtain ⟨hexact, r, hr, hlower⟩ := cuts_of_constraint_pinned? hv
    have hfits : v.Fits := ((hb r (hr ▸ List.mem_singleton_self r)).lower v hlower).fits
    obtain ⟨d, hd, hcuts⟩ := parse_specifier_of_pinned hb hv
    have hkey : ∀ w, w ∈ c ↔ w.key = v.key := fun w => by
      rw [mem_iff, hexact, ← VersionRange.mem_iff, VersionRange.mem_exact_iff]
    refine ⟨d, hd, ?_⟩
    rw [lossless_iff_of_pinned hfits hv, VersionRange.mem_iff, ← hcuts]
    refine ⟨fun hkeep => mem_iff.mp (hkeep v ((hkey v).mpr rfl)), fun hvd w hw => ?_⟩
    rw [mem_iff, Cut.of_congr ((hkey w).mp hw)]
    exact hvd
  | none =>
    obtain ⟨d, hd, hcuts⟩ := parse_specifier_of_not_pinned hn hb hne hv
    refine ⟨d, hd, fun hkeep => ⟨fun v _ h => ?_, ?_⟩, fun hlossless v hvc => ?_⟩
    · rw [hv] at h
      cases h
    · intro low high e hneighbours hgap v hvc hover
      have he : e ∈ c.exclusions := mem_exclusions.mpr ⟨low, high, hneighbours, hgap⟩
      obtain ⟨-, hcloses⟩ := closes_of_gapExclusion? (hb low hneighbours.mem.1) hgap
      have hout := (hcloses.mem_cuts_iff (hn.upperCut_lt_lowerCut hneighbours)).mpr
        (.inl (VersionRange.mem_iff.mp hover))
      exact ((hcuts _).mp (mem_iff.mp (hkeep v hvc))).2 e he hout
    · have hcut := mem_iff.mp hvc
      refine mem_iff.mpr ((hcuts _).mpr ⟨mem_cuts_hull hn hcut, fun e he hout => ?_⟩)
      obtain ⟨low, high, hneighbours, hgap⟩ := mem_exclusions.mp he
      obtain ⟨-, hcloses⟩ := closes_of_gapExclusion? (hb low hneighbours.mem.1) hgap
      rcases (hcloses.mem_cuts_iff (hn.upperCut_lt_lowerCut hneighbours)).mp hout with hover | hin
      · exact hlossless.gap low high e hneighbours hgap v hvc (VersionRange.mem_iff.mpr hover)
      · exact hn.not_mem_gap hin.1 hin.2 hneighbours hcut

theorem mem_specifier_iff_lossless_of_complement :
    let c := (ofRange (.halfOpen (.final 2 [0]) (.final 3 [0]))).complement
    Combination Readable c ∧ c.isEmpty = false ∧
      ∃ d, parse c.specifier.text = .ok d ∧ ((∀ v ∈ c, v ∈ d) ↔ c.Lossless) := by
  intro c
  have hread : parse ">=2.0,<3.0" = .ok (ofRange (.halfOpen (.final 2 [0]) (.final 3 [0]))) := by
    decide +kernel
  have hc : Combination Readable c := .complement (.base ⟨_, hread⟩)
  have hne : c.isEmpty = false := by decide +kernel
  exact ⟨hc, hne, mem_specifier_iff_lossless c hc hne⟩

/-- A gap that starts at a post release is told as the series of the release, and the release itself
    gets lost. -/
theorem specifier_loses_release :
    let c : Constraint :=
      ⟨[.below ⟨2, [], none, some 1, none, "2.post1"⟩ false, .above (.final 3 []) true]⟩
    let d : Constraint := ⟨[.below (.final 2 [0, 0]) false, .above (.final 3 [0, 0]) true]⟩
    Combination Readable c ∧ c.isEmpty = false ∧ parse c.specifier.text = .ok d ∧
      Version.final 2 [0, 0] ∈ c ∧ Version.final 2 [0, 0] ∉ d := by
  intro c d
  have hread : parse "<2.post1 || >=3" = .ok c := by decide +kernel
  exact ⟨.base ⟨_, hread⟩, rfl, by decide +kernel, by decide +kernel, by decide +kernel⟩

/-- Nothing gets lost when no range ends at a post release or at the release `0`, and a pinned
    version is stable. -/
theorem lossless_of_ends (hb : c.Bounded Version.Legible)
    (hpin : ∀ v, c.pinned? = some v → v.isStable = true)
    (hends : ∀ r ∈ c.ranges, ∀ v ∈ r.upper, v.post = none ∧ ¬ v.IsZero) : c.Lossless := by
  refine ⟨fun v series hv _ => ?_, fun low high e hneighbours hgap v _ hover => ?_⟩
  · rw [← Bool.not_eq_true, Version.before_iff, not_lt]
    exact Version.key_final_le (hpin v hv) Std.ReflCmp.compare_self
  · obtain ⟨-, hcloses⟩ := closes_of_gapExclusion? (hb low hneighbours.mem.1) hgap
    have hcut : e.range.lowerCut ≤ Cut.of v false ∧ Cut.of v false < low.upperCut :=
      VersionRange.mem_iff.mp hover
    cases hupper : low.upper with
    | none =>
      rw [gapExclusion?, hupper] at hgap
      cases hgap
    | some w =>
      obtain ⟨hpost, hzero⟩ := hends low hneighbours.mem.1 w hupper
      exact hcut.2.not_ge (hcloses.tight w hupper hpost hzero ▸ hcut.1)

end Constraint

end ManifestMigration
