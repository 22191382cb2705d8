import ManifestMigration.Proofs.Constraint.UpTo

/-! What a caret allows.

    A caret is to allow the releases from a version on that agree with it up to the segment that
    fixes compatibility. It does for stable versions, and for unstable ones that come after the
    first release of their series. For any other unstable version the range ends at the release
    that the version leads up to, so that no final release is left in it. -/

namespace ManifestMigration

namespace Constraint

variable {v : Version}

/-- What a caret is to allow: the releases from the version on that agree with it up to the segment
    that fixes compatibility, unless that segment cannot be raised. -/
structure CaretLaw (v : Version) (r : Except Error Constraint) : Prop where
  allows : v.segment v.breakingSegment < Text.wordLimit - 1 → ∃ c, r = .ok c ∧
    ∀ w : Version, w.IsFinal →
      (w ∈ c ↔ v ≤ w ∧ ∀ i ≤ v.breakingSegment, w.segment i = v.segment i)
  limit : v.segment v.breakingSegment = Text.wordLimit - 1 → r = .error (.outOfRange v)

theorem readsCaret {t : String} (h : Version.parse? t = some v) :
    ReadsUpTo v v.nextBreaking? (parse ("^" ++ t)) :=
  readsUpTo "^" (by decide) (by decide) h (readOne_caret h)

variable {r : Except Error Constraint}

theorem ReadsUpTo.caretLaw (hr : ReadsUpTo v v.nextBreaking? r) (h : v.Settled) : CaretLaw v r := by
  obtain ⟨hallows, hlimit⟩ := hr.agrees (v.nextBreaking?_spec.1 h)
  exact ⟨hallows, hlimit⟩

/-- In front of a version that is not settled a caret allows what comes before the release that the
    version leads up to, and that is no final release. -/
theorem ReadsUpTo.of_not_settled (hr : ReadsUpTo v v.nextBreaking? r) (h : ¬ v.Settled)
    {c : Constraint} (hc : r = .ok c) :
    v.key < (Version.final v.major v.tail).key ∧ ∀ w : Version, w.IsFinal → w ∉ c := by
  obtain ⟨d, hd, hread⟩ := hr.some _ (v.nextBreaking?_spec.2 h)
  rw [hc] at hread
  split at hread
  case isTrue => cases hread
  case isFalse hne =>
    cases hread
    refine ⟨not_not.mp (VersionRange.isEmpty_halfOpen.not.mp hne), fun w hw hmem => ?_⟩
    exact VersionRange.not_mem_halfOpen_own hw ((hd w).mp hmem)

/-- The release that such a version leads up to should be allowed. -/
theorem ReadsUpTo.not_caretLaw (hr : ReadsUpTo v v.nextBreaking? r) (hv : v.Fits)
    (h : ¬ v.Settled) : ¬ CaretLaw v r := by
  intro hlaw
  rcases hv.segment_lt_or_eq v.breakingSegment with hlt | hlimit
  · obtain ⟨c, hc, hallows⟩ := hlaw.allows hlt
    obtain ⟨hown, hnone⟩ := hr.of_not_settled h hc
    have hfinal := Version.isFinal_final v.major v.tail
    exact hnone _ hfinal ((hallows _ hfinal).mpr
      ⟨Version.le_iff_key_le.mpr hown.le, fun _ _ => rfl⟩)
  · have herror := hlaw.limit hlimit
    obtain ⟨d, -, hread⟩ := hr.some _ (v.nextBreaking?_spec.2 h)
    rw [herror] at hread
    split at hread <;> cases hread

/-- A caret allows what it is to allow if and only if its version is settled. In front of any other
    version it allows no final release at all. -/
theorem parse_caret (t : String) (v : Version) (h : Version.parse? t = some v) :
    (CaretLaw v (parse ("^" ++ t)) ↔ v.Settled) ∧
      (¬ v.Settled → ∀ c, parse ("^" ++ t) = .ok c → ∀ w : Version, w.IsFinal → w ∉ c) := by
  have hr := readsCaret h
  have hfits : v.Fits := (Version.of_ofText?_eq_some h).2.2.2
  refine ⟨⟨fun hlaw => ?_, hr.caretLaw⟩, fun hv c hc => (hr.of_not_settled hv hc).2⟩
  by_contra hv
  exact hr.not_caretLaw hfits hv hlaw

theorem parse_caret_of_prerelease :
    let v : Version := ⟨1, [5], some (.alpha, 1), none, none, "1.5a1"⟩
    Version.parse? "1.5a1" = some v ∧ v.Settled ∧ CaretLaw v (parse "^1.5a1") := by
  intro v
  have h : Version.parse? "1.5a1" = some v := by decide +kernel
  have hv : v.Settled := by decide +kernel
  exact ⟨h, hv, (parse_caret "1.5a1" v h).1.mpr hv⟩

/-- A caret in front of a pre-release of the first release of a series allows no release of the
    series, and in front of a development release of a post release it may allow nothing. -/
theorem caret_loses_series :
    let v : Version := ⟨2, [0, 0], some (.alpha, 1), none, none, "2.0.0a1"⟩
    let w : Version := ⟨0, [0, 3], none, some 1, some 1, "0.0.3.post1.dev1"⟩
    Version.parse? "2.0.0a1" = some v ∧ Version.parse? "0.0.3.post1.dev1" = some w ∧
      parse "^2.0.0a1" = .ok (ofRange (.halfOpen v (.final 2 [0, 0]))) ∧
      parse "^0.0.3.post1.dev1" = .error .matchesNothing ∧
      ¬ CaretLaw v (parse "^2.0.0a1") ∧ ¬ CaretLaw w (parse "^0.0.3.post1.dev1") := by
  intro v w
  have hv : Version.parse? "2.0.0a1" = some v := by decide +kernel
  have hw : Version.parse? "0.0.3.post1.dev1" = some w := by decide +kernel
  have hfits : v.Fits ∧ w.Fits :=
    ⟨(Version.of_ofText?_eq_some hv).2.2.2, (Version.of_ofText?_eq_some hw).2.2.2⟩
  exact ⟨hv, hw, by decide +kernel, by decide +kernel,
    (readsCaret hv).not_caretLaw hfits.1 (by decide +kernel),
    (readsCaret hw).not_caretLaw hfits.2 (by decide +kernel)⟩

end Constraint

end ManifestMigration
